import WordSieve.Criterion.Basic
import WordSieve.Condition.Basic

/-!
# The condition of a list of criteria

Every criterion with letters contributes terms, and the condition is that all of them hold. Letters
included in the whole word must all be there, letters included at a position are a choice. A
criterion that contributes one group at a position keeps it as one term; elsewhere each letter is
a term of its own.
-/

set_option autoImplicit false

namespace WordSieve

namespace Condition

/-- All of the terms; a single term stands for itself. -/
def allOf : List Condition → Condition
  | [t] => t
  | terms => .all terms

/-- One of the terms; a single term stands for itself. -/
def anyOf : List Condition → Condition
  | [t] => t
  | terms => .any terms

/-- The place holds another letter. -/
def letterNotAt (index : Nat) (letter : Char) : Condition :=
  .not (.letterAt index letter)

/-- The letter stands nowhere in the word. -/
def lacks (letter : Char) : Condition :=
  .not (.contains letter)

end Condition

open Condition

/-- What a criterion asks, as terms that must all hold. -/
def Criterion.terms (c : Criterion) : List Condition :=
  match c.scope, c.kind with
  | .position p, .equals => c.letters.map (.letterAt p.place)
  | .position p, .differs => c.letters.map (letterNotAt p.place)
  | .position p, .excludes => [allOf (c.letters.map (letterNotAt p.place))]
  | .position p, .includes => [anyOf (c.letters.map (.letterAt p.place))]
  | .whole, .includes => c.letters.map .contains
  | .whole, _ => c.letters.map lacks

/-- The condition that every criterion with letters holds. -/
def Condition.ofCriteria (criteria : List Criterion) : Condition :=
  match (criteria.filter (!·.isEmpty)).flatMap Criterion.terms with
  | [] => .always
  | terms => allOf terms

end WordSieve
