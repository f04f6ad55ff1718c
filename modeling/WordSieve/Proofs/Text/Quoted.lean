import Mathlib.Tactic.SplitIfs
import WordSieve.Proofs.Text.Cut
import WordSieve.Proofs.Text.Digits
import WordSieve.Text.Quoted

/-!
# Reading a quoted character back

What stands between the quotes begins with a backslash just when it is an escape, and every escape
says itself where it ends. So one character is read back from its quoted form whatever stands behind
it, and without asking which characters are written as their code point.
-/

set_option autoImplicit false

namespace WordSieve.Text

/-- The character of an escape of one letter. -/
def shortEscape? : Char → Option Char
  | '0' => some '\x00'
  | 't' => some '\t'
  | 'r' => some '\r'
  | 'n' => some '\n'
  | '\\' => some '\\'
  | '\'' => some '\''
  | _ => none

/-- The character with this code point. -/
def charOf? (n : Nat) : Option Char :=
  if n.isValidChar then some (Char.ofNat n) else none

/-- Reads on behind the backslash of an escape, and gives the text behind the escape. -/
def readEscape? : List Char → Option (Char × List Char)
  | 'u' :: '\x7b' :: s =>
    match cut '\x7d' s with
    | (numeral, some rest) => ((valueFrom 16 0 numeral).bind charOf?).map (·, rest)
    | (_, none) => none
  | c :: rest => (shortEscape? c).map (·, rest)
  | [] => none

/-- Reads a character that may be escaped. -/
def readEscaped? : List Char → Option (Char × List Char)
  | c :: rest => if c = '\\' then readEscape? rest else some (c, rest)
  | [] => none

/-- Reads a quoted character, and gives the text behind the closing quote. -/
def readQuoted? : List Char → Option (Char × List Char)
  | '\'' :: s =>
    match readEscaped? s with
    | some (c, '\'' :: rest) => some (c, rest)
    | _ => none
  | _ => none

theorem charOf?_toNat (c : Char) : charOf? c.toNat = some c := by
  have hvalid : c.toNat.isValidChar := c.valid
  rw [charOf?, if_pos hvalid, Char.ofNat_toNat]

/-- An escape by number is read back as its character. -/
theorem readEscape?_number (c : Char) (rest : List Char) :
    readEscape? ('u' :: '\x7b' :: (Nat.toDigits 16 c.toNat ++ '\x7d' :: rest)) = some (c, rest) := by
  have hdigits : '\x7d' ∉ Nat.toDigits 16 c.toNat :=
    bracket_not_mem_toDigits (.inr rfl) (by decide) (by decide) c.toNat
  have hvalue : valueFrom 16 0 (Nat.toDigits 16 c.toNat) = some c.toNat :=
    valueFrom_toDigits (by decide) (by decide) c.toNat
  rw [readEscape?, cut_append hdigits]
  simp only [hvalue, Option.bind_some, charOf?_toNat, Option.map_some]

/-- An escape is undone, whichever characters are written as their code point. -/
theorem readEscaped?_escapeWith (byNumber : Char → Bool) (c : Char) (rest : List Char) :
    readEscaped? (escapeWith byNumber c ++ rest) = some (c, rest) := by
  unfold escapeWith
  split_ifs with hnull htab hreturn hline hbackslash hquote hnumber
  · subst hnull
    rfl
  · subst htab
    rfl
  · subst hreturn
    rfl
  · subst hline
    rfl
  · subst hbackslash
    rfl
  · subst hquote
    rfl
  · rw [List.append_assoc, List.append_assoc]
    exact readEscape?_number c rest
  -- A character that stands as it is cannot be taken for the start of an escape.
  · exact if_neg hbackslash

/-- **A character is read back from its quoted form**, whatever stands behind it. -/
theorem readQuoted?_quoteWith (byNumber : Char → Bool) (c : Char) (rest : List Char) :
    readQuoted? (quoteWith byNumber c ++ rest) = some (c, rest) := by
  rw [quoteWith, List.cons_append, List.cons_append, List.append_assoc, readQuoted?,
    readEscaped?_escapeWith]
  rfl

end WordSieve.Text
