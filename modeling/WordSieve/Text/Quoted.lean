import WordSieve.Text.PrintTable

/-!
# A character between quotes

A condition shows each letter as a quoted character, and whatever was typed must show as one
character: the quote and the backslash are escaped, a few controls have a short escape, and a
character that has no visible form, or that would attach to the quote before it, is written as its
code point in hexadecimal.
-/

set_option autoImplicit false

namespace WordSieve.Text

/-- The halfwidth katakana sound marks. They extend the letter before them, but as letters with a
form of their own. -/
def isHalfwidthSoundMark (c : Char) : Bool :=
  c = '\uff9e' || c = '\uff9f'

/-- Whether the character is written as its code point. -/
def isShownByNumber (c : Char) : Bool :=
  (graphemeExtend.has c && !isHalfwidthSoundMark c) || unprintable.has c

/-- The character as it stands between quotes, where `byNumber` tells which ones are written as
their code point. -/
def escapeWith (byNumber : Char → Bool) (c : Char) : List Char :=
  if c = '\x00' then ['\\', '0']
  else if c = '\t' then ['\\', 't']
  else if c = '\r' then ['\\', 'r']
  else if c = '\n' then ['\\', 'n']
  else if c = '\\' then ['\\', '\\']
  else if c = '\'' then ['\\', '\'']
  else if byNumber c then
    ['\\', 'u', '\x7b'] ++ Nat.toDigits 16 c.toNat ++ ['\x7d']
  else [c]

/-- The character between quotes. -/
def quoteWith (byNumber : Char → Bool) (c : Char) : List Char :=
  '\'' :: escapeWith byNumber c ++ ['\'']

/-- The character between quotes, written as its code point if it would not show. -/
def quote (c : Char) : List Char :=
  quoteWith isShownByNumber c

end WordSieve.Text
