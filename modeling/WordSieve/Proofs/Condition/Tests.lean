import Mathlib.Algebra.Order.Ring.Nat
import WordSieve.Condition.OfCriteria

/-!
# The tests of a condition of criteria

Every letter of every criterion becomes one test, and the tests stand in the order of the letters.
How the tests are negated, grouped and joined depends on kind and scope, but none of that loses a
letter or adds one, and a criterion without letters, which is left out, had none to lose. So the
number of tests of a condition of criteria is the number of letters (`atoms_ofCriteria`), which
takes neither the rules of a criterion nor anything about words.
-/

set_option autoImplicit false

namespace WordSieve

namespace Condition

/-! ## Counting tests -/

mutual

theorem length_testedLetters : ∀ p : Condition, p.testedLetters.length = p.atoms
  | .always | .letterAt _ _ | .contains _ => by simp [testedLetters, atoms]
  | .all terms | .any terms => by simp [testedLetters, atoms, length_lettersOfAll terms]
  | .not inner => by simp [testedLetters, atoms, length_testedLetters inner]

theorem length_lettersOfAll : ∀ terms : List Condition,
    (lettersOfAll terms).length = atomsOfAll terms
  | [] => rfl
  | t :: rest => by
    simp [lettersOfAll, atomsOfAll, length_testedLetters t, length_lettersOfAll rest]

end

/-! ## The letters in their order -/

theorem lettersOfAll_eq_flatMap (terms : List Condition) :
    lettersOfAll terms = terms.flatMap testedLetters := by
  induction terms with
  | nil => rfl
  | cons t rest ih => simp [lettersOfAll, ih]

theorem lettersOfAll_append (first rest : List Condition) :
    lettersOfAll (first ++ rest) = lettersOfAll first ++ lettersOfAll rest := by
  simp [lettersOfAll_eq_flatMap]

/-- A list of tests, one for each letter, tests the letters. -/
theorem lettersOfAll_map {test : Char → Condition} (h : ∀ l, (test l).testedLetters = [l])
    (letters : List Char) : lettersOfAll (letters.map test) = letters := by
  induction letters with
  | nil => rfl
  | cons l rest ih => simp [lettersOfAll, h, ih]

-- A join that is left out for a single term has the tests of that term all the same.
theorem testedLetters_allOf (terms : List Condition) :
    (allOf terms).testedLetters = lettersOfAll terms := by
  unfold allOf
  split <;> simp [testedLetters, lettersOfAll]

theorem testedLetters_anyOf (terms : List Condition) :
    (anyOf terms).testedLetters = lettersOfAll terms := by
  unfold anyOf
  split <;> simp [testedLetters, lettersOfAll]

theorem lettersOfAll_terms (c : Criterion) : lettersOfAll c.terms = c.letters := by
  have hat (p : Position) : lettersOfAll (c.letters.map (.letterAt p.place)) = c.letters :=
    lettersOfAll_map (fun _ => rfl) c.letters
  have hnotAt (p : Position) : lettersOfAll (c.letters.map (letterNotAt p.place)) = c.letters :=
    lettersOfAll_map (fun _ => rfl) c.letters
  unfold Criterion.terms
  split
  case h_1 p _ _ => exact hat p
  case h_2 p _ _ => exact hnotAt p
  case h_3 p _ _ => simpa [lettersOfAll, testedLetters_allOf] using hnotAt p
  case h_4 p _ _ => simpa [lettersOfAll, testedLetters_anyOf] using hat p
  case h_5 => exact lettersOfAll_map (fun _ => rfl) c.letters
  case h_6 => exact lettersOfAll_map (fun _ => rfl) c.letters

/-- **The condition of criteria tests their letters**, all of them and in their order. -/
theorem testedLetters_ofCriteria (criteria : List Criterion) :
    (ofCriteria criteria).testedLetters = criteria.flatMap (·.letters) := by
  have hterms : lettersOfAll ((criteria.filter (!·.isEmpty)).flatMap Criterion.terms) =
      criteria.flatMap (·.letters) := by
    induction criteria with
    | nil => rfl
    | cons c rest ih =>
      cases hc : c.isEmpty with
      | true =>
        have hnone : c.letters = [] := List.isEmpty_iff.mp hc
        simp [hc, hnone, ih]
      | false => simp [hc, lettersOfAll_append, lettersOfAll_terms, ih]
  unfold ofCriteria
  split
  case h_1 hnone =>
    rw [hnone] at hterms
    exact hterms
  case h_2 => rw [testedLetters_allOf, hterms]

/-- The condition of criteria has as many tests as they have letters. -/
theorem atoms_ofCriteria (criteria : List Criterion) :
    (ofCriteria criteria).atoms = (criteria.map (·.letters.length)).sum := by
  rw [← length_testedLetters, testedLetters_ofCriteria, List.length_flatMap]

end Condition

end WordSieve
