import WordSieve.Benchmark
import WordSieve.Proofs.Criterion.Normal

/-!
# What a benchmark draws

The random numbers are an argument, so what is said of every list of them is said of every random
generator. Two things are to be known of something that is drawn. `OnlyGives m P` says that `P`
holds of it whatever the numbers are, and `CanGive m a` that some numbers give `a`, whatever comes
behind them. Both go through a sequence of draws step by step.

The trials are characterized exactly by the two together (`drawTrials_iff`): a list of trials can
be drawn if, and only if, each has a criterion and no more than are allowed, and each criterion has
a kind that fits its scope and one to three of the letters `a` to `z`, or just one where its kind
compares one letter. That the criteria are normalized as they are made changes none of this,
because what is drawn for a criterion is normal already.
-/

set_option autoImplicit false

namespace WordSieve.Benchmark

open Text

variable {α β : Type}

/-! ## Draws in general -/

/-- Whatever the random numbers are, what is drawn has the property. -/
def OnlyGives (m : StateM Draws α) (P : α → Prop) : Prop :=
  ∀ draws, P (m draws).1

/-- Some random numbers give the value and are used up by it. -/
def CanGive (m : StateM Draws α) (a : α) : Prop :=
  ∃ used, ∀ rest, m (used ++ rest) = (a, rest)

theorem OnlyGives.pure {P : α → Prop} {a : α} (h : P a) :
    OnlyGives (Pure.pure a : StateM Draws α) P :=
  fun _ => h

theorem OnlyGives.bind {m : StateM Draws α} {f : α → StateM Draws β} {P : α → Prop}
    {Q : β → Prop} (hm : OnlyGives m P) (hf : ∀ a, P a → OnlyGives (f a) Q) :
    OnlyGives (m >>= f) Q :=
  fun draws => hf _ (hm draws) _

theorem CanGive.pure (a : α) : CanGive (Pure.pure a : StateM Draws α) a :=
  ⟨[], fun _ => rfl⟩

theorem CanGive.bind {m : StateM Draws α} {f : α → StateM Draws β} {a : α} {b : β}
    (hm : CanGive m a) (hf : CanGive (f a) b) : CanGive (m >>= f) b := by
  obtain ⟨first, hfirst⟩ := hm
  obtain ⟨second, hsecond⟩ := hf
  refine ⟨first ++ second, fun rest => ?_⟩
  have hm := hfirst (second ++ rest)
  rw [← List.append_assoc] at hm
  show f (m (first ++ second ++ rest)).1 (m (first ++ second ++ rest)).2 = (b, rest)
  rw [hm]
  exact hsecond rest

theorem CanGive.exists_draws {m : StateM Draws α} {a : α} (h : CanGive m a) :
    ∃ draws, (m draws).1 = a := by
  obtain ⟨used, hused⟩ := h
  exact ⟨used ++ [], congrArg Prod.fst (hused [])⟩

theorem onlyGives_below {choices : Nat} (h : 0 < choices) :
    OnlyGives (below choices) (· < choices) := by
  intro draws
  cases draws with
  | nil => exact h
  | cons d rest => exact Nat.mod_lt d h

theorem canGive_below {choices n : Nat} (h : n < choices) : CanGive (below choices) n := by
  refine ⟨[n], fun rest => ?_⟩
  show (n % choices, rest) = (n, rest)
  rw [Nat.mod_eq_of_lt h]

/-! ## Letters -/

/-- One of the letters that are drawn, `a` to `z`. -/
def IsSmall (c : Char) : Prop :=
  ∃ d < 26, c = Char.ofNat ('a'.toNat + d)

theorem IsSmall.isUpper_eq {c : Char} (h : IsSmall c) : isUpper c = false := by
  obtain ⟨d, hd, rfl⟩ := h
  revert d
  decide +kernel

theorem onlyGives_drawLetters (n : Nat) :
    OnlyGives (drawLetters n) fun s => s.length = n ∧ ∀ c ∈ s, IsSmall c := by
  induction n with
  | zero => exact .pure (by simp)
  | succ n ih =>
    refine .bind (onlyGives_below (by decide)) fun d hd => .bind ih fun s hs => .pure ?_
    exact ⟨congrArg Nat.succ hs.1, List.forall_mem_cons.mpr ⟨⟨d, hd, rfl⟩, hs.2⟩⟩

theorem canGive_drawLetters {s : List Char} (h : ∀ c ∈ s, IsSmall c) :
    CanGive (drawLetters s.length) s := by
  induction s with
  | nil => exact .pure []
  | cons c s ih =>
    obtain ⟨⟨d, hd, rfl⟩, hs⟩ := List.forall_mem_cons.mp h
    exact .bind (canGive_below hd) (.bind (ih hs) (.pure _))

/-! ## Criteria -/

/-- A criterion as it is drawn. -/
structure IsDrawn (c : Criterion) : Prop where
  fits : c.kind.fits c.scope = true
  small : ∀ x ∈ c.letters, IsSmall x
  one_le : 1 ≤ c.letters.length
  le_three : c.letters.length ≤ 3
  single : c.kind.isSingle = true → c.letters.length = 1

/-- Nothing that is drawn has to be normalized. -/
theorem IsDrawn.normalize_eq {c : Criterion} (h : IsDrawn c) : c.normalize = c := by
  refine c.normalize_eq_self ⟨h.fits, fun hs => Nat.le_of_eq (h.single hs)⟩ (.inl fun x hx => ?_)
  exact (h.small x hx).isUpper_eq

theorem mem_kindsAt {s : Scope} {k : Kind} : k ∈ kindsAt s ↔ k.fits s = true := by
  have hall : k ∈ [Kind.excludes, .includes, .equals, .differs] := by cases k <;> decide
  simp [kindsAt, List.mem_filter, hall]

theorem canGive_drawScope (s : Scope) : CanGive drawScope s := by
  cases s with
  | whole => exact .bind (canGive_below (by decide : 0 < wordLength + 1)) (.pure _)
  | position p =>
    have hgive : CanGive drawScope ((Scope.ofNumber p.number).toOption.getD .whole) :=
      .bind (canGive_below (Nat.succ_lt_succ p.place.isLt)) (.pure _)
    rwa [Scope.ofNumber_number] at hgive

theorem onlyGives_drawCriterion : OnlyGives drawCriterion IsDrawn := by
  refine .bind (P := fun _ => True) (fun _ => trivial) fun scope _ => ?_
  have hkinds : 0 < (kindsAt scope).length :=
    List.length_pos_of_mem (mem_kindsAt.mpr (Kind.fits_of_not_isSingle (k := .excludes) rfl))
  refine .bind (onlyGives_below hkinds) fun k hk => ?_
  have hget : (kindsAt scope)[k]?.getD .excludes = (kindsAt scope)[k] := by
    rw [List.getElem?_eq_getElem hk, Option.getD_some]
  have hfits : ((kindsAt scope)[k]).fits scope = true := mem_kindsAt.mp (List.getElem_mem hk)
  rw [hget]
  generalize (kindsAt scope)[k] = kind at hfits
  have hmake : ∀ extra, extra < 3 ∧ (kind.isSingle = true → extra = 0) →
      OnlyGives (drawLetters (extra + 1) >>= fun letters => pure (.make kind letters scope))
        IsDrawn := by
    intro extra hextra
    refine .bind (onlyGives_drawLetters _) fun letters hletters => .pure ?_
    have hdrawn : IsDrawn { kind, letters, scope } :=
      { fits := hfits
        small := hletters.2
        one_le := by simp [hletters.1]
        le_three := by simp only [hletters.1]; omega
        single := fun hs => by simp only [hletters.1, hextra.2 hs] }
    rw [Criterion.make, hdrawn.normalize_eq]
    exact hdrawn
  dsimp only
  split
  case isTrue => exact .bind (.pure ⟨by decide, fun _ => rfl⟩) hmake
  case isFalse hs =>
    exact .bind (onlyGives_below (by decide)) fun extra hlt => hmake extra ⟨hlt, (absurd · hs)⟩

theorem canGive_drawCriterion {c : Criterion} (h : IsDrawn c) : CanGive drawCriterion c := by
  obtain ⟨kind, letters, scope⟩ := c
  obtain ⟨k, hk, hget⟩ := List.getElem_of_mem (mem_kindsAt.mpr h.fits)
  have hone := h.one_le
  have hthree := h.le_three
  simp only at hone hthree hget
  have hkind : (kindsAt scope)[k]?.getD .excludes = kind := by
    rw [List.getElem?_eq_getElem hk, Option.getD_some, hget]
  have hletters : CanGive (drawLetters (letters.length - 1 + 1)) letters := by
    rw [Nat.sub_add_cancel hone]
    exact canGive_drawLetters h.small
  have hmake : CanGive (drawLetters (letters.length - 1 + 1) >>= fun letters =>
      pure (Criterion.make kind letters scope)) { kind, letters, scope } := by
    refine .bind hletters ?_
    rw [Criterion.make, h.normalize_eq]
    exact .pure _
  refine .bind (canGive_drawScope scope) (.bind (canGive_below hk) ?_)
  rw [hkind]
  dsimp only
  split
  case isTrue hs =>
    have hlength : letters.length = 1 := h.single hs
    rw [hlength] at hmake
    exact .bind (.pure 0) hmake
  case isFalse => exact .bind (canGive_below (by omega)) hmake

/-! ## Trials -/

/-- The criteria of one trial. -/
structure IsTrial (most : Nat) (criteria : List Criterion) : Prop where
  one_le : 1 ≤ criteria.length
  le_most : criteria.length ≤ max 1 most
  drawn : ∀ c ∈ criteria, IsDrawn c

theorem onlyGives_drawCriteria (n : Nat) :
    OnlyGives (drawCriteria n) fun cs => cs.length = n ∧ ∀ c ∈ cs, IsDrawn c := by
  induction n with
  | zero => exact .pure (by simp)
  | succ n ih =>
    refine .bind onlyGives_drawCriterion fun c hc => .bind ih fun cs hcs => .pure ?_
    exact ⟨congrArg Nat.succ hcs.1, List.forall_mem_cons.mpr ⟨hc, hcs.2⟩⟩

theorem canGive_drawCriteria {cs : List Criterion} (h : ∀ c ∈ cs, IsDrawn c) :
    CanGive (drawCriteria cs.length) cs := by
  induction cs with
  | nil => exact .pure []
  | cons c cs ih =>
    obtain ⟨hc, hcs⟩ := List.forall_mem_cons.mp h
    exact .bind (canGive_drawCriterion hc) (.bind (ih hcs) (.pure _))

theorem onlyGives_drawTrial (most : Nat) : OnlyGives (drawTrial most) (IsTrial most) := by
  have hpos : 0 < max 1 most := Nat.lt_of_lt_of_le Nat.one_pos (Nat.le_max_left 1 most)
  refine .bind (onlyGives_below hpos) fun n hn draws => ?_
  obtain ⟨hlength, hdrawn⟩ := onlyGives_drawCriteria (n + 1) draws
  exact ⟨by omega, by omega, hdrawn⟩

theorem canGive_drawTrial {most : Nat} {criteria : List Criterion} (h : IsTrial most criteria) :
    CanGive (drawTrial most) criteria := by
  have hone := h.one_le
  have hmost := h.le_most
  refine .bind (canGive_below (n := criteria.length - 1) (by omega)) ?_
  rw [Nat.sub_add_cancel hone]
  exact canGive_drawCriteria h.drawn

/-- **The trials that can be drawn** are those of the right number whose criteria are as drawn, at
least one and no more than allowed in each. -/
theorem drawTrials_iff (most n : Nat) (trials : List (List Criterion)) :
    (∃ draws, (drawTrials most n draws).1 = trials) ↔
      trials.length = n ∧ ∀ t ∈ trials, IsTrial most t := by
  constructor
  · rintro ⟨draws, rfl⟩
    revert draws
    show OnlyGives (drawTrials most n) fun ts => ts.length = n ∧ ∀ t ∈ ts, IsTrial most t
    induction n with
    | zero => exact .pure (by simp)
    | succ n ih =>
      refine .bind (onlyGives_drawTrial most) fun t ht => .bind ih fun ts hts => .pure ?_
      exact ⟨congrArg Nat.succ hts.1, List.forall_mem_cons.mpr ⟨ht, hts.2⟩⟩
  · rintro ⟨rfl, h⟩
    refine CanGive.exists_draws ?_
    induction trials with
    | nil => exact .pure []
    | cons t ts ih =>
      obtain ⟨ht, hts⟩ := List.forall_mem_cons.mp h
      exact .bind (canGive_drawTrial ht) (.bind (ih hts) (.pure _))

end WordSieve.Benchmark
