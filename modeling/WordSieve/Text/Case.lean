import WordSieve.Text.CaseTable

/-!
# Lowercase

The full lowercase mapping of the Unicode standard, without the rules that depend on a language.
Two things set it apart from mapping one character at a time: `U+0130` becomes two characters, and
the capital sigma has a form of its own at the end of a word, so its lowercase form depends on
what stands around it.
-/

set_option autoImplicit false

namespace WordSieve.Text

/-- The property Uppercase. A titlecase letter does not have it. -/
def isUpper (c : Char) : Bool :=
  uppercase.has c

/-- The code point of the lowercase form, for the characters whose form is one character. -/
def loweredCode (n : Nat) : Nat :=
  match loweringRuns.find? (·.range.holds n) with
  | some run => run.image n
  | none => n

/-- The lowercase form of a character that stands alone. -/
def lower (c : Char) : List Char :=
  if c = '\u0130' then ['i', '\u0307'] else [Char.ofNat (loweredCode c.toNat)]

/-- Whether the first character that is not case-ignorable is a cased one. -/
def meetsCased (s : List Char) : Bool :=
  match s.dropWhile (caseIgnorable.has ·) with
  | [] => false
  | c :: _ => cased.has c

/-- Whether a sigma ends a word: going back from it a cased character is met, and going on none
is. `before` runs backwards from the sigma. -/
def endsWord (before after : List Char) : Bool :=
  meetsCased before && !meetsCased after

/-- The lowercase form of a character between the characters `before`, last one first, and
`after`. -/
def lowerBetween (before : List Char) (c : Char) (after : List Char) : List Char :=
  if c = 'Σ' then [if endsWord before after then 'ς' else 'σ'] else lower c

/-- The lowercase form of the text that follows the characters `before`, last one first. -/
def lowercaseAfter (before : List Char) : List Char → List Char
  | [] => []
  | c :: rest => lowerBetween before c rest ++ lowercaseAfter (c :: before) rest

/-- The lowercase form of a text. -/
def lowercase (s : List Char) : List Char :=
  lowercaseAfter [] s

/-- Equality up to the case of the letters `A` to `Z`, the only ones it folds. -/
def equalsIgnoringAsciiCase (s t : List Char) : Bool :=
  s.map Char.toLower == t.map Char.toLower

end WordSieve.Text
