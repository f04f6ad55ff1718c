import WordSieve.Condition.Basic

/-!
# Running a condition

A condition that names only places inside a word never faults, and running it gives its plain
truth (`Within.eval_eq`): stopping at the first term that decides changes nothing when no term can
fail. So everything after this reasons about `holds` alone. Where another condition happens to run
without a fault, it gives its plain truth as well (`holds_of_eval`).

`Within` is a derivation with one rule for each form of condition, and the rules for lists speak of
their members. Induction on it therefore gives what the terms of a list need without a second
statement about lists.
-/

set_option autoImplicit false

namespace WordSieve

namespace Condition

/-! ## Plain truth of lists -/

variable {w : Word} {terms : List Condition}

theorem allHold_iff : allHold w terms = true ↔ ∀ t ∈ terms, t.holds w = true := by
  induction terms with
  | nil => simp [allHold]
  | cons t rest ih => simp [allHold, ih]

theorem anyHolds_iff : anyHolds w terms = true ↔ ∃ t ∈ terms, t.holds w = true := by
  induction terms with
  | nil => simp [anyHolds]
  | cons t rest ih => simp [anyHolds, ih]

/-! ## Conditions in turn -/

/-- What holds of a condition once it holds of its terms holds of every condition. -/
@[elab_as_elim, induction_eliminator]
theorem induction_terms {P : Condition → Prop} (always : P .always)
    (all : ∀ terms : List Condition, (∀ t ∈ terms, P t) → P (.all terms))
    (any : ∀ terms : List Condition, (∀ t ∈ terms, P t) → P (.any terms))
    (not : ∀ inner, P inner → P (.not inner))
    (letterAt : ∀ index letter, P (.letterAt index letter))
    (contains : ∀ letter, P (.contains letter)) : ∀ p : Condition, P p
  | .always => always
  | .all terms => all terms fun t _ => induction_terms always all any not letterAt contains t
  | .any terms => any terms fun t _ => induction_terms always all any not letterAt contains t
  | .not inner => not inner (induction_terms always all any not letterAt contains inner)
  | .letterAt index letter => letterAt index letter
  | .contains letter => contains letter

/-- Runs the conditions in turn as long as they give `go`, and gives what the first other one
gives. -/
def evalWhile (w : Word) (go : Bool) : List Condition → Except IndexFault Bool
  | [] => .ok go
  | t :: rest =>
    match t.eval w with
    | .ok b => if b = go then evalWhile w go rest else .ok b
    | .error f => .error f

theorem evalWhile_cons_of_eq {t : Condition} {go : Bool} (h : t.eval w = .ok go)
    (rest : List Condition) : evalWhile w go (t :: rest) = evalWhile w go rest := by
  simp [evalWhile, h]

theorem evalWhile_cons_of_ne {t : Condition} {go : Bool} (h : t.eval w ≠ .ok go)
    (rest : List Condition) : evalWhile w go (t :: rest) = t.eval w := by
  rw [evalWhile]
  cases ht : t.eval w with
  | error f => rfl
  | ok b =>
    have hne : b ≠ go := fun hb => h (ht.trans (congrArg Except.ok hb))
    exact if_neg hne

theorem evalAll_eq_evalWhile (w : Word) (terms : List Condition) :
    evalAll w terms = evalWhile w true terms := by
  induction terms with
  | nil => rfl
  | cons t rest ih =>
    rw [evalAll, evalWhile, ih]
    rcases t.eval w with f | _ | _ <;> simp

theorem evalAny_eq_evalWhile (w : Word) (terms : List Condition) :
    evalAny w terms = evalWhile w false terms := by
  induction terms with
  | nil => rfl
  | cons t rest ih =>
    rw [evalAny, evalWhile, ih]
    rcases t.eval w with f | _ | _ <;> simp

theorem evalWhile_append {go : Bool} {before : List Condition}
    (h : ∀ t ∈ before, t.eval w = .ok go) (rest : List Condition) :
    evalWhile w go (before ++ rest) = evalWhile w go rest := by
  induction before with
  | nil => rfl
  | cons t before ih =>
    rw [List.forall_mem_cons] at h
    rw [List.cons_append, evalWhile_cons_of_eq h.1, ih h.2]

/-- All of the conditions give `go`, or the first one that does not has the say. -/
theorem evalWhile_cases (w : Word) (go : Bool) (terms : List Condition) :
    ((∀ t ∈ terms, t.eval w = .ok go) ∧ evalWhile w go terms = .ok go) ∨
    ∃ before t after, terms = before ++ t :: after ∧ (∀ b ∈ before, b.eval w = .ok go) ∧
      t.eval w ≠ .ok go ∧ evalWhile w go terms = t.eval w := by
  induction terms with
  | nil => exact .inl ⟨List.forall_mem_nil _, rfl⟩
  | cons t rest ih =>
    by_cases ht : t.eval w = .ok go
    · rw [evalWhile_cons_of_eq ht]
      rcases ih with ⟨hall, heval⟩ | ⟨before, u, after, rfl, hbefore, hu, heval⟩
      · exact .inl ⟨List.forall_mem_cons.mpr ⟨ht, hall⟩, heval⟩
      · exact .inr ⟨t :: before, u, after, rfl, List.forall_mem_cons.mpr ⟨ht, hbefore⟩, hu, heval⟩
    · exact .inr ⟨[], t, rest, rfl, List.forall_mem_nil _, ht,
        evalWhile_cons_of_ne ht rest⟩

/-! ## What running gives -/

theorem allHold_of_evalAll {b : Bool}
    (ih : ∀ t ∈ terms, ∀ c, t.eval w = .ok c → t.holds w = c) (h : evalAll w terms = .ok b) :
    allHold w terms = b := by
  rw [evalAll_eq_evalWhile] at h
  rcases evalWhile_cases w true terms with ⟨hall, heval⟩ | ⟨before, t, after, rfl, -, hne, heval⟩
  · obtain rfl : true = b := Except.ok.inj (heval.symm.trans h)
    exact allHold_iff.mpr fun t ht => ih t ht true (hall t ht)
  · rw [heval] at h
    have hmem : t ∈ before ++ t :: after := by simp
    obtain rfl : b = false := by
      cases b with
      | true => exact absurd h hne
      | false => rfl
    rw [← Bool.not_eq_true, allHold_iff]
    intro hall
    exact Bool.noConfusion ((ih t hmem false h).symm.trans (hall t hmem))

theorem anyHolds_of_evalAny {b : Bool}
    (ih : ∀ t ∈ terms, ∀ c, t.eval w = .ok c → t.holds w = c) (h : evalAny w terms = .ok b) :
    anyHolds w terms = b := by
  rw [evalAny_eq_evalWhile] at h
  rcases evalWhile_cases w false terms with ⟨hall, heval⟩ | ⟨before, t, after, rfl, -, hne, heval⟩
  · obtain rfl : false = b := Except.ok.inj (heval.symm.trans h)
    rw [← Bool.not_eq_true, anyHolds_iff]
    rintro ⟨t, ht, hholds⟩
    exact Bool.noConfusion ((ih t ht false (hall t ht)).symm.trans hholds)
  · rw [heval] at h
    have hmem : t ∈ before ++ t :: after := by simp
    obtain rfl : b = true := by
      cases b with
      | true => rfl
      | false => exact absurd h hne
    exact anyHolds_iff.mpr ⟨t, hmem, ih t hmem true h⟩

/-- Where a condition runs without a fault it gives its plain truth. -/
theorem holds_of_eval {p : Condition} {b : Bool} (h : p.eval w = .ok b) : p.holds w = b := by
  induction p generalizing b with
  | always => exact Except.ok.inj h
  | all terms ih => exact allHold_of_evalAll (fun t ht c hc => ih t ht hc) h
  | any terms ih => exact anyHolds_of_evalAny (fun t ht c hc => ih t ht hc) h
  | not inner ih =>
    rw [eval] at h
    cases hinner : inner.eval w with
    | error f => simp [hinner] at h
    | ok c => simpa [hinner, holds, ih hinner] using h
  | letterAt index letter =>
    rw [eval] at h
    by_cases hplace : index < wordLength
    · have hlt : index < w.letters.length := by rw [w.length_letters]; exact hplace
      simpa [Word.letterAt_of_lt hlt, holds, List.getElem?_eq_getElem hlt] using h
    · simp [Word.letterAt_of_le (Nat.le_of_not_lt hplace)] at h
  | contains letter => exact Except.ok.inj h

/-! ## Conditions that never fault -/

/-- Every place the condition names is a place of a word. -/
inductive Within : Condition → Prop where
  | always : Within .always
  | all {terms : List Condition} : (∀ t ∈ terms, Within t) → Within (.all terms)
  | any {terms : List Condition} : (∀ t ∈ terms, Within t) → Within (.any terms)
  | not {inner : Condition} : Within inner → Within (.not inner)
  | letterAt {index : Nat} (letter : Char) : index < wordLength → Within (.letterAt index letter)
  | contains (letter : Char) : Within (.contains letter)

theorem exists_evalWhile_eq_ok {go : Bool} (h : ∀ t ∈ terms, ∃ b, t.eval w = .ok b) :
    ∃ b, evalWhile w go terms = .ok b := by
  rcases evalWhile_cases w go terms with ⟨-, heval⟩ | ⟨before, t, after, rfl, -, -, heval⟩
  · exact ⟨go, heval⟩
  · rw [heval]
    exact h t (by simp)

theorem Within.exists_eval_eq_ok {p : Condition} (h : p.Within) (w : Word) :
    ∃ b, p.eval w = .ok b := by
  induction h with
  | always => exact ⟨true, rfl⟩
  | all _ ih =>
    rw [eval, evalAll_eq_evalWhile]
    exact exists_evalWhile_eq_ok ih
  | any _ ih =>
    rw [eval, evalAny_eq_evalWhile]
    exact exists_evalWhile_eq_ok ih
  | not _ ih =>
    obtain ⟨b, hb⟩ := ih
    exact ⟨!b, by rw [eval, hb]⟩
  | @letterAt index letter hindex =>
    -- The one test that looks at a place.
    have hlt : index < w.letters.length := by rw [w.length_letters]; exact hindex
    exact ⟨_, by rw [eval, Word.letterAt_of_lt hlt]⟩
  | contains letter => exact ⟨_, rfl⟩

/-- Running a condition that names only places of a word gives its plain truth. -/
theorem Within.eval_eq {p : Condition} (h : p.Within) (w : Word) :
    p.eval w = .ok (p.holds w) := by
  obtain ⟨b, hb⟩ := h.exists_eval_eq_ok w
  rw [hb, holds_of_eval hb]

/-- Running the condition faults on none of the words. -/
def RunsOn (p : Condition) (words : List Word) : Prop :=
  ∀ w ∈ words, ∃ b, p.eval w = .ok b

theorem RunsOn.eval_eq {p : Condition} {words : List Word} (h : p.RunsOn words) {w : Word}
    (hw : w ∈ words) : p.eval w = .ok (p.holds w) := by
  obtain ⟨b, hb⟩ := h w hw
  rw [hb, holds_of_eval hb]

theorem Within.runsOn {p : Condition} (h : p.Within) (words : List Word) : p.RunsOn words :=
  fun w _ => ⟨_, h.eval_eq w⟩

end Condition

end WordSieve
