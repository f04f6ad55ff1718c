import WordSieve.Criterion.Error
import WordSieve.Text.Blank
import WordSieve.Text.Case
import WordSieve.Text.Numeral
import WordSieve.Word

/-!
# Scopes

A criterion looks at the whole word or at one position of it. Positions are typed and shown
counting from 1, and places in a word are counted from 0.
-/

set_option autoImplicit false

namespace WordSieve

open Text

/-- One of the positions of a word. -/
structure Position where
  place : Fin wordLength
  deriving DecidableEq, Repr

namespace Position

/-- The position with the given number, counted from 1. -/
def ofNumber (n : Nat) : Except CriterionError Position :=
  if h : 1 ≤ n ∧ n ≤ wordLength then .ok ⟨⟨n - 1, by omega⟩⟩
  else .error (.positionOutOfRange n)

/-- The number of the position, counted from 1. -/
def number (p : Position) : Nat :=
  p.place.val + 1

end Position

/-- Where a criterion looks. -/
inductive Scope where
  | whole
  | position (p : Position)
  deriving DecidableEq, Repr

instance : Inhabited Scope := ⟨.whole⟩

namespace Scope

/-- The scope at the position with the given number. -/
def ofNumber (n : Nat) : Except CriterionError Scope :=
  (Position.ofNumber n).map .position

/-- The scope after this one: the whole word, the positions in order, and the whole word again. -/
def next : Scope → Scope
  | .whole => (ofNumber 1).toOption.getD .whole
  | .position p => (ofNumber (p.number + 1)).toOption.getD .whole

/-- The scope as it is typed. -/
def name : Scope → String
  | .whole => "all"
  | .position p => toString p.number

/-- Reads `all` or a position's number, with blanks around it. The letters of `all` may be
capitals. -/
def read (s : List Char) : Except CriterionError Scope :=
  let s := trim s
  if equalsIgnoringAsciiCase s "all".toList then .ok .whole
  else
    match numeral? s with
    | some n => ofNumber n
    | none => .error (.invalidScope (String.ofList s))

end Scope

end WordSieve
