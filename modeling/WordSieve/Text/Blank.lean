import WordSieve.Text.CodeRange

/-!
# Blanks

The blanks are the characters with the Unicode property White_Space. Input is trimmed and cut at
these and no others: a zero width space or a byte order mark is an ordinary character here.
-/

set_option autoImplicit false

namespace WordSieve.Text

/-- The property White_Space. -/
def whiteSpace : CodeSet :=
  [⟨0x9, 0xD, 1⟩, ⟨0x20, 0x20, 1⟩, ⟨0x85, 0x85, 1⟩, ⟨0xA0, 0xA0, 1⟩, ⟨0x1680, 0x1680, 1⟩,
   ⟨0x2000, 0x200A, 1⟩, ⟨0x2028, 0x2029, 1⟩, ⟨0x202F, 0x202F, 1⟩, ⟨0x205F, 0x205F, 1⟩,
   ⟨0x3000, 0x3000, 1⟩]

/-- Whether the character is a blank. -/
def isBlank (c : Char) : Bool :=
  whiteSpace.has c

/-- The text without the blanks it ends in. -/
def trimRight (s : List Char) : List Char :=
  (s.reverse.dropWhile isBlank).reverse

/-- The text without the blanks it starts and ends with. -/
def trim (s : List Char) : List Char :=
  trimRight (s.dropWhile isBlank)

/-- The pieces of the text between its blanks, reading on from a piece begun with `piece`, which is
held last character first. No piece is empty. -/
def fieldsFrom (piece : List Char) : List Char → List (List Char)
  | [] => if piece.isEmpty then [] else [piece.reverse]
  | c :: rest =>
    if isBlank c then
      if piece.isEmpty then fieldsFrom [] rest else piece.reverse :: fieldsFrom [] rest
    else fieldsFrom (c :: piece) rest

/-- The pieces of the text between its blanks, none of them empty. -/
def fields (s : List Char) : List (List Char) :=
  fieldsFrom [] s

end WordSieve.Text
