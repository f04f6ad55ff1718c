/-!
# Padding

Columns are counted in characters. A text that is longer than its column is left as it is.
-/

set_option autoImplicit false

namespace WordSieve.Text

/-- `n` spaces. -/
def spaces (n : Nat) : List Char :=
  List.replicate n ' '

/-- The text at the left of a column. -/
def padRight (width : Nat) (s : List Char) : List Char :=
  s ++ spaces (width - s.length)

/-- The text at the right of a column. -/
def padLeft (width : Nat) (s : List Char) : List Char :=
  spaces (width - s.length) ++ s

end WordSieve.Text
