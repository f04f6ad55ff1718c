/-!
# What is wrong with a JSON word list

There are three sorts of faults: the text ends too early, it is no JSON, or it is JSON of another
shape than a word list. A text is read from left to right and the first fault counts.
-/

set_option autoImplicit false

namespace WordSieve.Json

/-- What is wrong. -/
inductive Cause where
  | endInValue
  | endInString
  | endInList
  | endInObject
  | badValue
  | badWord
  | badNumber
  | numberOutOfRange
  | controlInString
  | badEscape
  | loneSurrogate
  | brokenPair
  | keyNotString
  | missingColon
  | missingListComma
  | missingObjectComma
  | trailingComma
  | trailingText
  | wrongType (wanted : String)
  | noEntries
  | missingData
  | repeatedData
  deriving DecidableEq, Repr

/-- The fault in words, without its position. -/
def Cause.message : Cause → String
  | .endInValue => "EOF while parsing a value"
  | .endInString => "EOF while parsing a string"
  | .endInList => "EOF while parsing a list"
  | .endInObject => "EOF while parsing an object"
  | .badValue => "expected value"
  | .badWord => "expected ident"
  | .badNumber => "invalid number"
  | .numberOutOfRange => "number out of range"
  | .controlInString => "control character (\\u0000-\\u001F) found while parsing a string"
  | .badEscape => "invalid escape"
  | .loneSurrogate => "lone leading surrogate in hex escape"
  | .brokenPair => "unexpected end of hex escape"
  | .keyNotString => "key must be a string"
  | .missingColon => "expected `:`"
  | .missingListComma => "expected `,` or `]`"
  | .missingObjectComma => "expected `,` or `\x7d`"
  | .trailingComma => "trailing comma"
  | .trailingText => "trailing characters"
  | .wrongType wanted => s!"invalid type, expected {wanted}"
  | .noEntries => "invalid length 0, expected a list of words"
  | .missingData => "missing field `data`"
  | .repeatedData => "duplicate field `data`"

/-- A fault with the text that was still unread when it was found. -/
structure Fault where
  cause : Cause
  unread : List Char
  deriving DecidableEq, Repr

/-- A fault with its place in the text. -/
structure Error where
  cause : Cause
  line : Nat
  column : Nat
  deriving DecidableEq, Repr

/-- The error in words. -/
def Error.message (e : Error) : String :=
  s!"{e.cause.message} at line {e.line} column {e.column}"

/-- The fault with the place up to which `text` was read: its line, and how many bytes of that line
were read. -/
def Fault.locate (text : List Char) (f : Fault) : Error :=
  let read := text.take (text.length - f.unread.length)
  let lastLine := read.reverse.takeWhile (· ≠ '\n')
  { cause := f.cause
    line := 1 + read.count '\n'
    column := lastLine.foldr (fun c n => c.utf8Size + n) 0 }

end WordSieve.Json
