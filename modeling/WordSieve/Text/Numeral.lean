/-!
# Numerals

Numbers are typed as decimal numerals: digits, of which any number may be leading zeros, after an
optional plus sign. A numeral counts only if its value fits a machine word of 64 bits; a larger
one is refused as a whole and nothing wraps.
-/

set_option autoImplicit false

namespace WordSieve.Text

/-- The first number that does not fit a machine word. -/
def wordLimit : Nat := UInt64.size

/-- The value of a decimal digit; only `0` to `9` are digits. -/
def digit? (c : Char) : Option Nat :=
  if '0' ≤ c ∧ c ≤ '9' then some (c.toNat - '0'.toNat) else none

/-- The value of the digits, read on from the value `n` of those before them. -/
def digitsFrom (n : Nat) : List Char → Option Nat
  | [] => some n
  | c :: rest => (digit? c).bind fun d => digitsFrom (10 * n + d) rest

/-- The value of one or more digits. -/
def digits? (s : List Char) : Option Nat :=
  if s.isEmpty then none else digitsFrom 0 s

/-- The text without one leading plus sign. -/
def dropPlus : List Char → List Char
  | '+' :: rest => rest
  | s => s

/-- The value of a numeral, if the text is one and its value fits a machine word. -/
def numeral? (s : List Char) : Option Nat :=
  (digits? (dropPlus s)).filter (· < wordLimit)

end WordSieve.Text
