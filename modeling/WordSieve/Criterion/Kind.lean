import WordSieve.Criterion.Scope

/-!
# Kinds of criteria

`exclude` and `include` take a list of letters and any scope. `is` and `not` compare one letter
with one position, so they are refused at the whole word.
-/

set_option autoImplicit false

namespace WordSieve

open Text

/-- How a criterion compares its letters with the word. -/
inductive Kind where
  /-- None of the letters is there. -/
  | excludes
  /-- At a position one of the letters is there; in the whole word all of them are. -/
  | includes
  /-- The position holds this letter. -/
  | equals
  /-- The position holds another letter. -/
  | differs
  deriving DecidableEq, Repr

instance : Inhabited Kind := ⟨.excludes⟩

namespace Kind

/-- Whether the kind compares with a single letter. -/
def isSingle : Kind → Bool
  | .equals | .differs => true
  | .excludes | .includes => false

/-- Whether a criterion of this kind may have the scope. -/
def fits (k : Kind) (s : Scope) : Bool :=
  !(k.isSingle && s == .whole)

/-- The kind as it is typed. -/
def name : Kind → String
  | .excludes => "exclude"
  | .includes => "include"
  | .equals => "is"
  | .differs => "not"

/-- The kind after this one, whatever the scope. -/
def next : Kind → Kind
  | .excludes => .includes
  | .includes => .equals
  | .equals => .differs
  | .differs => .excludes

/-- The next kind that fits the scope. Two of the kinds fit every scope, so one of the next four
does. -/
def nextAt (k : Kind) (s : Scope) : Kind :=
  ([k.next, k.next.next, k.next.next.next, k].find? (·.fits s)).getD .excludes

/-- Reads a kind's name in any case, with blanks around it. -/
def read (s : List Char) : Except CriterionError Kind :=
  let folded := lowercase (trim s)
  if folded = "exclude".toList then .ok .excludes
  else if folded = "include".toList then .ok .includes
  else if folded = "is".toList then .ok .equals
  else if folded = "not".toList then .ok .differs
  else .error (.invalidKind (String.ofList s))

end Kind

end WordSieve
