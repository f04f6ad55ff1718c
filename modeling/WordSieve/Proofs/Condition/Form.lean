import WordSieve.Proofs.Condition.Tests
import WordSieve.Proofs.Condition.Unambiguous
import WordSieve.Report.Session

/-!
# The form of conditions of criteria

A condition of criteria that asks anything has a narrow form. Nothing in it asks nothing, a negation
stands right before a test, a choice is between letters of one place, and a conjunction stands in at
most one other (`ofCriteria_form`). All of that is read off the pieces that criteria contribute, a
piece at a time; it takes neither the meaning of a condition nor the order of its tests.

Such a condition never shows as the invitation to start filtering: the invitation is no text of a
condition.
-/

set_option autoImplicit false

namespace WordSieve.Condition

variable {p t : Condition} {terms : List Condition}

/-! ## The parts of a condition -/

/-- The conditions right below the root. -/
def children : Condition → List Condition
  | .all terms | .any terms => terms
  | .not inner => [inner]
  | .always | .letterAt _ _ | .contains _ => []

/-- The condition stands somewhere in the other one. -/
inductive Part (q : Condition) : Condition → Prop where
  | self : Part q q
  | ofChild {t p : Condition} : t ∈ p.children → Part q t → Part q p

/-- What a condition is at its root, where criteria made it. -/
def Plain : Condition → Prop
  | .always => False
  | .all terms => 2 ≤ terms.length
  | .any terms =>
    2 ≤ terms.length ∧ ∃ index, ∀ t ∈ terms, ∃ letter, t = .letterAt index letter
  | .not inner =>
    (∃ index letter, inner = .letterAt index letter) ∨ ∃ letter, inner = .contains letter
  | .letterAt index _ => index < wordLength
  | .contains _ => True

/-- Every part is plain. -/
def PlainThroughout (p : Condition) : Prop :=
  ∀ q, Part q p → q.Plain

theorem plainThroughout_of_children (hroot : p.Plain) (h : ∀ t ∈ p.children, t.PlainThroughout) :
    p.PlainThroughout := by
  intro q hq
  cases hq with
  | self => exact hroot
  | ofChild ht hq => exact h _ ht q hq

/-! ## Conjunctions inside one another -/

mutual

/-- How many conjunctions stand inside one another, at most. -/
def nesting : Condition → Nat
  | .always => 0
  | .all terms => nestingOfAll terms + 1
  | .any terms => nestingOfAll terms
  | .not inner => inner.nesting
  | .letterAt _ _ | .contains _ => 0

/-- The greatest nesting among the conditions. -/
def nestingOfAll : List Condition → Nat
  | [] => 0
  | t :: rest => max t.nesting (nestingOfAll rest)

end

theorem nestingOfAll_le {n : Nat} (h : ∀ t ∈ terms, t.nesting ≤ n) : nestingOfAll terms ≤ n := by
  induction terms with
  | nil => exact Nat.zero_le n
  | cons t rest ih =>
    rw [List.forall_mem_cons] at h
    exact Nat.max_le.mpr ⟨h.1, ih h.2⟩

theorem nesting_all_le {n : Nat} (h : ∀ t ∈ terms, t.nesting ≤ n) :
    (all terms).nesting ≤ n + 1 := by
  simpa [nesting] using nestingOfAll_le h

theorem nesting_any_le {n : Nat} (h : ∀ t ∈ terms, t.nesting ≤ n) : (any terms).nesting ≤ n := by
  simpa [nesting] using nestingOfAll_le h

/-! ## The pieces and their join -/

theorem Literal.plainThroughout (h : Literal t) : t.PlainThroughout := by
  have hat (p : Position) (l : Char) : (Condition.letterAt p.place l).PlainThroughout :=
    plainThroughout_of_children p.place.isLt (List.forall_mem_nil _)
  have hcontains (l : Char) : (Condition.contains l).PlainThroughout :=
    plainThroughout_of_children trivial (List.forall_mem_nil _)
  cases h with
  | letterAt p l => exact hat p l
  | contains l => exact hcontains l
  | letterNotAt p l =>
    apply plainThroughout_of_children
    · exact .inl ⟨p.place, l, rfl⟩
    · exact List.forall_mem_singleton.mpr (hat p l)
  | lacks l =>
    apply plainThroughout_of_children
    · exact .inr ⟨l, rfl⟩
    · exact List.forall_mem_singleton.mpr (hcontains l)

theorem Literal.nesting_eq (h : Literal t) : t.nesting = 0 := by
  cases h <;> rfl

theorem Contributed.plainThroughout (h : Contributed t) : t.PlainThroughout := by
  cases h with
  | literal h => exact h.plainThroughout
  | noneAt p hlen =>
    apply plainThroughout_of_children
    · simpa [Plain] using hlen
    · exact List.forall_mem_map.mpr fun l _ => (Literal.letterNotAt p l).plainThroughout
  | oneAt p hlen =>
    apply plainThroughout_of_children
    · refine ⟨by simpa using hlen, p.place, ?_⟩
      exact List.forall_mem_map.mpr fun l _ => ⟨l, rfl⟩
    · exact List.forall_mem_map.mpr fun l _ => (Literal.letterAt p l).plainThroughout

theorem Contributed.nesting_le (h : Contributed t) : t.nesting ≤ 1 := by
  cases h with
  | literal h => simp [h.nesting_eq]
  | noneAt p _ =>
    apply nesting_all_le
    exact List.forall_mem_map.mpr fun l _ => (Literal.letterNotAt p l).nesting_eq.le
  | oneAt p _ =>
    apply nesting_any_le
    exact List.forall_mem_map.mpr fun l _ => (Literal.letterAt p l).nesting_eq.le.trans zero_le_one

/-- Terms of criteria are joined to a plain condition, with one more conjunction at most. -/
theorem plain_allOf (hne : terms ≠ []) (h : ∀ t ∈ terms, Contributed t) :
    (allOf terms).PlainThroughout ∧ (allOf terms).nesting ≤ 2 := by
  rcases singleton_or_two_le hne with ⟨t, rfl⟩ | hlen
  · have ht : Contributed t := h t List.mem_cons_self
    exact ⟨ht.plainThroughout, ht.nesting_le.trans one_le_two⟩
  · rw [allOf_of_two_le hlen]
    constructor
    · have hroot : (all terms).Plain := hlen
      apply plainThroughout_of_children hroot
      intro t ht
      exact (h t ht).plainThroughout
    · apply nesting_all_le
      intro t ht
      exact (h t ht).nesting_le

theorem plain_ofCriteria (criteria : List Criterion) :
    ofCriteria criteria = .always ∨
      (ofCriteria criteria).PlainThroughout ∧ (ofCriteria criteria).nesting ≤ 2 := by
  rcases ofCriteria_cases criteria with heq | ⟨terms, hne, hterms, heq⟩
  · exact .inl heq
  · rw [heq]
    exact .inr (plain_allOf hne hterms)

/-! ## Conditions that ask nothing -/

theorem isAlways_iff : p.isAlways = true ↔ p = .always := by
  cases p <;> simp [isAlways]

theorem ofCriteria_eq_always_iff (criteria : List Criterion) :
    ofCriteria criteria = .always ↔ ∀ c ∈ criteria, c.letters = [] := by
  constructor
  · intro halways c hc
    have hletters : criteria.flatMap (·.letters) = [] := by
      rw [← testedLetters_ofCriteria, halways, testedLetters]
    exact List.flatMap_eq_nil_iff.mp hletters c hc
  · intro hnone
    have hfilter : criteria.filter (!·.isEmpty) = [] := by
      simpa [Criterion.isEmpty] using hnone
    rw [ofCriteria, hfilter]
    rfl

/-- The invitation to start filtering is not the text of a condition. -/
theorem Joined.text_ne_invitation (h : p.Joined) : p.text ≠ "Start filtering..." := by
  intro htext
  have hread : read? "Start filtering...".toList = some p := by
    rw [← htext, text, String.toList_ofList]
    exact h.fills.read?_eq
  have hnone : read? "Start filtering...".toList = none := by
    rw [read?, Reading.feedText?]
    rfl
  exact absurd (hread.symm.trans hnone) (Option.some_ne_none p)

theorem Joined.display_eq_invitation_iff (h : p.Joined) :
    p.display = "Start filtering..." ↔ p = .always := by
  simp [display, isAlways_iff, h.text_ne_invitation]

/-- **The form of a condition of criteria**, whatever the criteria. It asks nothing exactly where no
criterion has letters, and otherwise every part of it is plain, with a conjunction in at most one
other. Its tests are the letters of the criteria in order, so that the invitation stands in for it
exactly where it has none. -/
theorem ofCriteria_form (criteria : List Criterion) :
    let p := ofCriteria criteria
    (p = .always ↔ ∀ c ∈ criteria, c.letters = []) ∧
    (p ≠ .always → (∀ q, Part q p → q.Plain) ∧ p.nesting ≤ 2) ∧
    p.testedLetters = criteria.flatMap (·.letters) ∧
    p.atoms = (criteria.map (·.letters.length)).sum ∧
    (p.display = "Start filtering..." ↔ p.atoms = 0) := by
  intro p
  have hempty : p = .always ↔ p.atoms = 0 := by
    rw [ofCriteria_eq_always_iff, ← length_testedLetters, testedLetters_ofCriteria,
      List.length_eq_zero_iff, List.flatMap_eq_nil_iff]
  refine ⟨ofCriteria_eq_always_iff criteria, ?_, testedLetters_ofCriteria criteria,
    atoms_ofCriteria criteria, ?_⟩
  · intro hne
    exact (plain_ofCriteria criteria).resolve_left hne
  · rw [(joined_ofCriteria criteria).display_eq_invitation_iff]
    exact hempty

/-- Groups of letters at a place and single ones, with a criterion without letters among them. -/
def groupedCriteria : List Criterion :=
  [.make .includes ['b', 'a'] (.position ⟨0, Nat.succ_pos 4⟩), .blank,
   .make .excludes ['x', 'Y', 'x'] (.position ⟨4, Nat.lt_succ_self 4⟩),
   .make .includes ['é'] (.position ⟨1, Nat.one_lt_succ_succ 3⟩), .make .excludes ['q'] .whole]

/-- The group that is left out is a conjunction inside the conjunction of all terms. -/
theorem ofCriteria_form_grouped :
    let p := ofCriteria groupedCriteria
    let group := allOf (['x', 'y', 'x'].map (letterNotAt 4))
    p ≠ .always ∧ Part group p ∧ group.Plain ∧ group.nesting = 1 ∧ p.nesting = 2 ∧
      (∀ q, Part q p → q ≠ .always) ∧
      p.testedLetters = ['b', 'a', 'x', 'y', 'x', 'é', 'q'] ∧
      p.display ≠ "Start filtering..." := by
  intro p group
  obtain ⟨-, hform, hletters, -, hdisplay⟩ := ofCriteria_form groupedCriteria
  have hne : p ≠ .always := Condition.noConfusion
  obtain ⟨hplain, -⟩ := hform hne
  have hgroup : Part group p := .ofChild (List.mem_cons_of_mem _ List.mem_cons_self) .self
  refine ⟨hne, hgroup, hplain group hgroup, rfl, rfl, ?_, hletters, mt hdisplay.mp (by decide)⟩
  intro q hq halways
  have halways := halways ▸ hplain q hq
  exact halways

end WordSieve.Condition
