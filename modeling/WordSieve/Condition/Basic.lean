import WordSieve.Word

/-!
# Conditions on a word

A condition is a tree of tests of single letters. It has two meanings. `Condition.holds` is plain
truth, for a word that answers at every place. `Condition.eval` is what running the condition
gives: terms are looked at from left to right and no further than needed, and a test of a place
past the word's end that is really looked at is a fault.
-/

set_option autoImplicit false

namespace WordSieve

/-- A condition on a word. -/
inductive Condition where
  /-- Every word. -/
  | always
  /-- Every term holds. -/
  | all (terms : List Condition)
  /-- Some term holds. -/
  | any (terms : List Condition)
  /-- The inner condition does not hold. -/
  | not (inner : Condition)
  /-- The letter stands at the place, counted from 0. -/
  | letterAt (index : Nat) (letter : Char)
  /-- The letter stands somewhere in the word. -/
  | contains (letter : Char)
  deriving Repr

instance : Inhabited Condition := ⟨.always⟩

namespace Condition

/-! ## Plain truth

A place past the end holds no letter, so this never fails. -/

mutual

/-- Whether the condition is true of the word. -/
def holds (w : Word) : Condition → Bool
  | .always => true
  | .all terms => allHold w terms
  | .any terms => anyHolds w terms
  | .not inner => !inner.holds w
  | .letterAt index letter => w.letters[index]? == some letter
  | .contains letter => w.has letter

/-- Whether every one of the conditions is true. -/
def allHold (w : Word) : List Condition → Bool
  | [] => true
  | t :: rest => t.holds w && allHold w rest

/-- Whether one of the conditions is true. -/
def anyHolds (w : Word) : List Condition → Bool
  | [] => false
  | t :: rest => t.holds w || anyHolds w rest

end

/-! ## Running a condition -/

mutual

/-- What running the condition on the word gives. -/
def eval (w : Word) : Condition → Except IndexFault Bool
  | .always => .ok true
  | .all terms => evalAll w terms
  | .any terms => evalAny w terms
  | .not inner =>
    match inner.eval w with
    | .ok b => .ok !b
    | .error f => .error f
  | .letterAt index letter =>
    match w.letterAt index with
    | .ok c => .ok (c == letter)
    | .error f => .error f
  | .contains letter => .ok (w.has letter)

/-- Runs the conditions in turn up to the first one that is false. -/
def evalAll (w : Word) : List Condition → Except IndexFault Bool
  | [] => .ok true
  | t :: rest =>
    match t.eval w with
    | .ok true => evalAll w rest
    | .ok false => .ok false
    | .error f => .error f

/-- Runs the conditions in turn up to the first one that is true. -/
def evalAny (w : Word) : List Condition → Except IndexFault Bool
  | [] => .ok false
  | t :: rest =>
    match t.eval w with
    | .ok true => .ok true
    | .ok false => evalAny w rest
    | .error f => .error f

end

/-! ## The tests of a condition -/

mutual

/-- The letters tested, from left to right. -/
def testedLetters : Condition → List Char
  | .always => []
  | .all terms | .any terms => lettersOfAll terms
  | .not inner => inner.testedLetters
  | .letterAt _ letter => [letter]
  | .contains letter => [letter]

/-- The letters tested by the conditions in turn. -/
def lettersOfAll : List Condition → List Char
  | [] => []
  | t :: rest => t.testedLetters ++ lettersOfAll rest

end

mutual

/-- How many letter tests the condition has. -/
def atoms : Condition → Nat
  | .always => 0
  | .all terms | .any terms => atomsOfAll terms
  | .not inner => inner.atoms
  | .letterAt _ _ => 1
  | .contains _ => 1

/-- How many letter tests the conditions have together. -/
def atomsOfAll : List Condition → Nat
  | [] => 0
  | t :: rest => t.atoms + atomsOfAll rest

end

/-- Whether this is the condition that asks nothing. -/
def isAlways : Condition → Bool
  | .always => true
  | _ => false

end Condition

end WordSieve
