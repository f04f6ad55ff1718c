import WordSieve.Condition.OfCriteria
import WordSieve.Proofs.Condition.Running

/-!
# How conditions of criteria are put together

Criteria make conditions of a few pieces only: tests of the word and of its places, their negations,
and the groups that stand for several letters at one position (`Contributed`). The condition of a
list is one such piece or a conjunction of them (`ofCriteria_cases`). The rules of a criterion play
no part in this, so it holds of criteria that could not be obtained as well.

What goes over from the pieces to what is made of them is therefore true of the condition of any
criteria (`Closed.ofCriteria`).
-/

set_option autoImplicit false

namespace WordSieve.Condition

/-! ## The pieces -/

/-- A test of one letter, or its negation. -/
inductive Literal : Condition → Prop where
  | letterAt (p : Position) (letter : Char) : Literal (.letterAt p.place letter)
  | letterNotAt (p : Position) (letter : Char) : Literal (letterNotAt p.place letter)
  | contains (letter : Char) : Literal (.contains letter)
  | lacks (letter : Char) : Literal (lacks letter)

/-- A term that a criterion with letters contributes. A single letter makes no group. -/
inductive Contributed : Condition → Prop where
  | literal {t : Condition} : Literal t → Contributed t
  | noneAt (p : Position) {letters : List Char} : 2 ≤ letters.length →
      Contributed (.all (letters.map (letterNotAt p.place)))
  | oneAt (p : Position) {letters : List Char} : 2 ≤ letters.length →
      Contributed (.any (letters.map (.letterAt p.place)))

theorem allOf_of_two_le {terms : List Condition} (h : 2 ≤ terms.length) :
    allOf terms = .all terms := by
  unfold allOf
  split
  · exact absurd h (by simp)
  · rfl

theorem anyOf_of_two_le {terms : List Condition} (h : 2 ≤ terms.length) :
    anyOf terms = .any terms := by
  unfold anyOf
  split
  · exact absurd h (by simp)
  · rfl

/-- One element, or two at least. -/
theorem singleton_or_two_le {α : Type} {s : List α} (h : s ≠ []) :
    (∃ x, s = [x]) ∨ 2 ≤ s.length := by
  cases s with
  | nil => exact absurd rfl h
  | cons x rest =>
    cases rest with
    | nil => exact .inl ⟨x, rfl⟩
    | cons x' rest => exact .inr (Nat.le_add_left 2 rest.length)

theorem contributed_noneAt (p : Position) {letters : List Char} (h : letters ≠ []) :
    Contributed (allOf (letters.map (letterNotAt p.place))) := by
  rcases singleton_or_two_le h with ⟨l, rfl⟩ | hlen
  · exact .literal (.letterNotAt p l)
  · rw [allOf_of_two_le (by simpa using hlen)]
    exact .noneAt p hlen

theorem contributed_oneAt (p : Position) {letters : List Char} (h : letters ≠ []) :
    Contributed (anyOf (letters.map (.letterAt p.place))) := by
  rcases singleton_or_two_le h with ⟨l, rfl⟩ | hlen
  · exact .literal (.letterAt p l)
  · rw [anyOf_of_two_le (by simpa using hlen)]
    exact .oneAt p hlen

theorem contributed_of_mem_terms {c : Criterion} (hne : c.letters ≠ []) :
    ∀ t ∈ c.terms, Contributed t := by
  have hliterals {test : Char → Condition} (htest : ∀ l, Literal (test l)) :
      ∀ t ∈ c.letters.map test, Contributed t :=
    List.forall_mem_map.mpr fun l _ => .literal (htest l)
  unfold Criterion.terms
  split
  case h_1 p _ _ => exact hliterals (.letterAt p)
  case h_2 p _ _ => exact hliterals (.letterNotAt p)
  -- A group at a position is one term, and there is such a group only where there are letters.
  case h_3 p _ _ => exact List.forall_mem_singleton.mpr (contributed_noneAt p hne)
  case h_4 p _ _ => exact List.forall_mem_singleton.mpr (contributed_oneAt p hne)
  case h_5 => exact hliterals .contains
  case h_6 => exact hliterals .lacks

/-- The condition of criteria asks nothing, or it joins the terms that they contribute. -/
theorem ofCriteria_cases (criteria : List Criterion) :
    ofCriteria criteria = .always ∨
      ∃ terms, terms ≠ [] ∧ (∀ t ∈ terms, Contributed t) ∧ ofCriteria criteria = allOf terms := by
  have hterms : ∀ t ∈ (criteria.filter (!·.isEmpty)).flatMap Criterion.terms, Contributed t := by
    intro t ht
    obtain ⟨c, hc, ht⟩ := List.mem_flatMap.mp ht
    have hne : c.letters ≠ [] := by simpa [Criterion.isEmpty] using (List.mem_filter.mp hc).2
    exact contributed_of_mem_terms hne t ht
  unfold ofCriteria
  split
  case h_1 => exact .inl rfl
  case h_2 hne => exact .inr ⟨_, hne, hterms, rfl⟩

/-! ## What goes over from the pieces -/

/-- A property of conditions that goes over from the pieces to what criteria make of them. -/
structure Closed (P : Condition → Prop) : Prop where
  always : P .always
  letterAt : ∀ (p : Position) (letter : Char), P (.letterAt p.place letter)
  contains : ∀ letter : Char, P (.contains letter)
  not : ∀ {inner : Condition}, P inner → P (.not inner)
  all : ∀ {terms : List Condition}, 2 ≤ terms.length → (∀ t ∈ terms, P t) → P (.all terms)
  any : ∀ {terms : List Condition}, 2 ≤ terms.length → (∀ t ∈ terms, P t) → P (.any terms)

variable {P : Condition → Prop} {terms : List Condition} {t : Condition}

theorem Closed.literal (h : Closed P) (ht : Literal t) : P t := by
  cases ht with
  | letterAt p l => exact h.letterAt p l
  | letterNotAt p l => exact h.not (h.letterAt p l)
  | contains l => exact h.contains l
  | lacks l => exact h.not (h.contains l)

theorem Closed.contributed (h : Closed P) (ht : Contributed t) : P t := by
  cases ht with
  | literal ht => exact h.literal ht
  | noneAt p hlen =>
    apply h.all (by simpa using hlen)
    exact List.forall_mem_map.mpr fun l _ => h.literal (.letterNotAt p l)
  | oneAt p hlen =>
    apply h.any (by simpa using hlen)
    exact List.forall_mem_map.mpr fun l _ => h.literal (.letterAt p l)

/-- A single term is not wrapped, so a join that is there has two terms at least. -/
theorem Closed.allOf (h : Closed P) (hne : terms ≠ []) (hterms : ∀ t ∈ terms, P t) :
    P (allOf terms) := by
  rcases singleton_or_two_le hne with ⟨t, rfl⟩ | hlen
  · exact hterms t List.mem_cons_self
  · rw [allOf_of_two_le hlen]
    exact h.all hlen hterms

/-- **What goes over from the pieces is true of the condition of any criteria.** -/
theorem Closed.ofCriteria (h : Closed P) (criteria : List Criterion) : P (ofCriteria criteria) := by
  rcases ofCriteria_cases criteria with heq | ⟨terms, hne, hterms, heq⟩
  · rw [heq]
    exact h.always
  · rw [heq]
    exact h.allOf hne fun t ht => h.contributed (hterms t ht)

/-- The condition of any criteria names only places of a word. -/
theorem within_ofCriteria (criteria : List Criterion) : (ofCriteria criteria).Within := by
  have hclosed : Closed Within :=
    { always := .always
      letterAt := fun p letter => .letterAt letter p.place.isLt
      contains := .contains
      not := .not
      all := fun _ => .all
      any := fun _ => .any }
  exact hclosed.ofCriteria criteria

end WordSieve.Condition
