/-!
# Lines

A line ends at a line feed or at the end of the input. The end of the input ends no line of its
own, so an input that ends in a line feed has no empty last line. Input comes as bytes, and is made
text line by line, so that a line that is not UTF-8 leaves the lines before it as they are.
-/

set_option autoImplicit false

namespace WordSieve.Text

/-- The first line of a list cut at `feed`, and the lines after it. -/
def splitLines {α : Type} [BEq α] (feed : α) : List α → List (List α)
  | [] => []
  | x :: rest =>
    if x == feed then [] :: splitLines feed rest
    else
      match splitLines feed rest with
      | [] => [[x]]
      | line :: lines => (x :: line) :: lines

/-- The text that the bytes stand for in UTF-8. -/
def decode (bytes : List UInt8) : Option (List Char) :=
  (String.fromUTF8? ⟨bytes.toArray⟩).map String.toList

/-- The lines of an input; one that is not UTF-8 is missing. -/
def inputLines (bytes : List UInt8) : List (Option (List Char)) :=
  (splitLines '\n'.toUInt8 bytes).map decode

/-- The text without the carriage returns that end a line together with a line feed. -/
def dropReturns : List Char → List Char
  | [] => []
  | '\r' :: '\n' :: rest => '\n' :: dropReturns rest
  | c :: rest => c :: dropReturns rest

/-- The lines of a text. -/
def textLines (s : List Char) : List (List Char) :=
  splitLines '\n' s

end WordSieve.Text
