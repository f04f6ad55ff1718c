/-!
# Sets of code points

A character property of the Unicode standard is a set of code points, and such a set is mostly
long runs: the capitals of one script stand together, or every second code point is one. A
property is therefore a list of runs with a step, and membership is one pass over the list.
-/

set_option autoImplicit false

namespace WordSieve.Text

/-- The code points `first`, `first + step`, `first + 2 * step`, … up to `last`. -/
structure CodeRange where
  first : Nat
  last : Nat
  step : Nat
  deriving DecidableEq, Repr

/-- Whether the run goes through the code point `n`. -/
def CodeRange.holds (r : CodeRange) (n : Nat) : Bool :=
  Nat.ble r.first n && Nat.ble n r.last && (n - r.first) % r.step == 0

/-- A property of characters, as the runs of code points that have it. -/
abbrev CodeSet := List CodeRange

/-- Whether the character has the property. -/
def CodeSet.has (s : CodeSet) (c : Char) : Bool :=
  s.any (·.holds c.toNat)

end WordSieve.Text
