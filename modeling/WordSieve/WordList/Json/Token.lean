import WordSieve.Text.Numeral
import WordSieve.WordList.Json.Cause

/-!
# Tokens of JSON

The text is cut into tokens before anyone asks what they are for. Where a token is broken the cut
stops, and the token tells how it is broken; whether that matters, and which fault it is, depends
on what was wanted there. Two things are told apart only later for the same reason: a string keeps
its escaped code units unjoined, because a value that is skipped may hold half a surrogate pair,
and a number keeps how it ended.
-/

set_option autoImplicit false

namespace WordSieve.Json

/-- A part of a string: a character, or a code unit of 16 bits that was escaped. -/
inductive StringPart where
  | char (c : Char)
  | unit (n : Nat)
  deriving DecidableEq, Repr

/-- How a number ends. -/
inductive NumberEnd where
  /-- The number is whole; it may be too large for a double. -/
  | whole (inRange : Bool)
  /-- The text ends within the number. -/
  | cutOff
  /-- A digit is missing, or one too many is there. -/
  | malformed
  deriving DecidableEq, Repr

/-- A token. A fault means that the token breaks off there. -/
inductive Token where
  | openBrace
  | closeBrace
  | openBracket
  | closeBracket
  | comma
  | colon
  | string (parts : List StringPart) (fault : Option Cause)
  | number (ending : NumberEnd)
  | word (fault : Option Cause)
  /-- A character that starts no token. -/
  | stray
  deriving DecidableEq, Repr

/-- A token with the text behind its first character. -/
structure Lexeme where
  token : Token
  rest : List Char
  deriving DecidableEq, Repr

/-! ## Strings -/

/-- The value of a hexadecimal digit. -/
def hexDigit? (c : Char) : Option Nat :=
  if '0' ≤ c ∧ c ≤ '9' then some (c.toNat - '0'.toNat)
  else if 'a' ≤ c ∧ c ≤ 'f' then some (c.toNat - 'a'.toNat + 10)
  else if 'A' ≤ c ∧ c ≤ 'F' then some (c.toNat - 'A'.toNat + 10)
  else none

/-- The code unit of four hexadecimal digits. -/
def hexUnit? (a b c d : Char) : Option Nat := do
  let upper := (← hexDigit? a) * 16 + (← hexDigit? b)
  let lower := (← hexDigit? c) * 16 + (← hexDigit? d)
  return upper * 256 + lower

/-- The character of an escape of one letter. -/
def shortEscape? : Char → Option Char
  | '"' => some '"'
  | '\\' => some '\\'
  | '/' => some '/'
  | 'b' => some '\x08'
  | 'f' => some '\x0c'
  | 'n' => some '\n'
  | 'r' => some '\r'
  | 't' => some '\t'
  | _ => none

/-- A string as it was cut off the text: its parts, how it broke off if it did, and the text behind
it. -/
structure StringCut where
  parts : List StringPart
  fault : Option Cause
  rest : List Char
  deriving DecidableEq, Repr

/-- A string that breaks off before any part. -/
def StringCut.broken (fault : Cause) : StringCut :=
  { parts := [], fault := some fault, rest := [] }

/-- The string with a part before it. -/
def StringCut.push (p : StringPart) (s : StringCut) : StringCut :=
  { s with parts := p :: s.parts }

/-- What is wrong where four hexadecimal digits were wanted: the text ends if it has fewer than four
bytes left, whatever they are. -/
def hexFault (s : List Char) : Cause :=
  if s.foldr (fun c n => c.utf8Size + n) 0 < 4 then .endInString else .badEscape

/-- Cuts a string off the text behind its opening quote. -/
def cutString : List Char → StringCut
  | [] => .broken .endInString
  | '"' :: rest => { parts := [], fault := none, rest }
  | '\\' :: 'u' :: a :: b :: c :: d :: rest =>
    match hexUnit? a b c d with
    | some n => (cutString rest).push (.unit n)
    | none => .broken (hexFault (a :: b :: c :: d :: rest))
  | '\\' :: 'u' :: rest => .broken (hexFault rest)
  | '\\' :: e :: rest =>
    match shortEscape? e with
    | some c => (cutString rest).push (.char c)
    | none => .broken .badEscape
  | ['\\'] => .broken .endInString
  | c :: rest => if c < ' ' then .broken .controlInString else (cutString rest).push (.char c)

/-- Whether the code unit is the first half of a surrogate pair. -/
def isLead (n : Nat) : Bool :=
  0xD800 ≤ n && n ≤ 0xDBFF

/-- Whether the code unit is the second half of a surrogate pair. -/
def isTrail (n : Nat) : Bool :=
  0xDC00 ≤ n && n ≤ 0xDFFF

/-- The character of a surrogate pair. -/
def joinPair (lead trail : Nat) : Char :=
  Char.ofNat (0x10000 + (lead - 0xD800) * 0x400 + (trail - 0xDC00))

/-- The text of a string. Every half of a surrogate pair needs the other half; `fault` is what the
string breaks off with, which is found only behind all its parts. -/
def stringText (fault : Option Cause) : List StringPart → Except Cause (List Char)
  | [] =>
    match fault with
    | some cause => .error cause
    | none => .ok []
  | .char c :: rest => (stringText fault rest).map (c :: ·)
  | .unit n :: rest =>
    if isTrail n then .error .loneSurrogate
    else if isLead n then
      match rest with
      | .unit m :: rest =>
        if isTrail m then (stringText fault rest).map (joinPair n m :: ·)
        else .error .loneSurrogate
      | .char _ :: _ => .error .brokenPair
      | [] => .error (fault.getD .brokenPair)
    else (stringText fault rest).map (Char.ofNat n :: ·)

/-! ## Numbers -/

/-- Whether the character is a decimal digit. -/
def isDigit (c : Char) : Bool :=
  '0' ≤ c && c ≤ '9'

/-- Takes digits into a number of 64 bits as long as it holds them; gives back the digits that do
not fit. -/
def takeDigits (n : Nat) : List Char → Nat × List Char
  | [] => (n, [])
  | d :: rest =>
    let longer := 10 * n + (d.toNat - '0'.toNat)
    if longer < Text.wordLimit then takeDigits longer rest else (n, d :: rest)

/-- Whether a number with these digits before and behind the point and this exponent is within the
range of a double. Digits that do not fit 64 bits count by their place alone. -/
def fitsDouble (whole fraction : List Char) (exponent : Int) : Bool :=
  let (n, left) := takeDigits 0 whole
  let (n, unused) := takeDigits n fraction
  let e := exponent + left.length - (fraction.length - unused.length : Nat)
  if n = 0 ∨ e < 0 then true
  else if 308 < e then false
  else !(n.toUInt64.toFloat * Float.ofScientific 1 false e.toNat).isInf

/-- A number as it was cut off the text: how it ends, and the text behind it. -/
structure NumberCut where
  ending : NumberEnd
  rest : List Char
  deriving DecidableEq, Repr

/-- A number in which a digit is missing at the start of the text. -/
def NumberCut.missingDigit (s : List Char) : NumberCut :=
  { ending := if s.isEmpty then .cutOff else .malformed, rest := s }

/-- The value of digits. -/
def digitsValue (s : List Char) : Nat :=
  s.foldl (fun n d => 10 * n + (d.toNat - '0'.toNat)) 0

/-- Cuts the digits of an exponent off. -/
def cutExponentDigits (whole fraction : List Char) (negative : Bool) (s : List Char) : NumberCut :=
  let digits := s.takeWhile isDigit
  if digits.isEmpty then .missingDigit s
  else
    let size : Int := digitsValue digits
    { ending := .whole (fitsDouble whole fraction (if negative then -size else size))
      rest := s.dropWhile isDigit }

/-- Cuts the exponent off a number, if there is one. -/
def cutExponent (whole fraction : List Char) (s : List Char) : NumberCut :=
  match s with
  | e :: rest =>
    if e = 'e' ∨ e = 'E' then
      match rest with
      | '+' :: rest => cutExponentDigits whole fraction false rest
      | '-' :: rest => cutExponentDigits whole fraction true rest
      | _ => cutExponentDigits whole fraction false rest
    else { ending := .whole (fitsDouble whole fraction 0), rest := s }
  | [] => { ending := .whole (fitsDouble whole fraction 0), rest := s }

/-- Cuts off what follows the digits before the point. -/
def cutFraction (whole : List Char) : List Char → NumberCut
  | '.' :: rest =>
    let digits := rest.takeWhile isDigit
    if digits.isEmpty then .missingDigit rest
    else cutExponent whole digits (rest.dropWhile isDigit)
  | s => cutExponent whole [] s

/-- Cuts a number off the text behind its sign, given the first character there. A leading zero
stands alone. -/
def cutUnsigned (first : Char) (rest : List Char) : NumberCut :=
  if first = '0' then
    if rest.head?.any isDigit then { ending := .malformed, rest }
    else cutFraction ['0'] rest
  else if isDigit first then
    cutFraction (first :: rest.takeWhile isDigit) (rest.dropWhile isDigit)
  else { ending := .malformed, rest }

/-- Cuts a number off the text, given its first character. -/
def cutNumber (first : Char) (rest : List Char) : NumberCut :=
  if first = '-' then
    match rest with
    | [] => .missingDigit []
    | digit :: rest => cutUnsigned digit rest
  else cutUnsigned first rest

/-! ## Words and the whole text -/

/-- What is wrong with a word whose remaining letters should be `letters`. -/
def wordFault : (letters s : List Char) → Option Cause
  | [], _ => none
  | _ :: _, [] => some .endInValue
  | l :: letters, c :: s => if l = c then wordFault letters s else some .badWord

/-- Whether JSON lets the character stand between tokens. -/
def isSpace (c : Char) : Bool :=
  c = ' ' || c = '\n' || c = '\t' || c = '\r'

/-- The token that a single character is. -/
def punctuation? : Char → Option Token
  | '{' => some .openBrace
  | '}' => some .closeBrace
  | '[' => some .openBracket
  | ']' => some .closeBracket
  | ',' => some .comma
  | ':' => some .colon
  | _ => none

/-- The letters behind the first one of a word. -/
def wordTail? : Char → Option (List Char)
  | 'n' => some ['u', 'l', 'l']
  | 't' => some ['r', 'u', 'e']
  | 'f' => some ['a', 'l', 's', 'e']
  | _ => none

/-- The token that the text starts with, and the text behind it unless the token is broken. -/
def firstToken (c : Char) (rest : List Char) : Token × Option (List Char) :=
  match punctuation? c with
  | some t => (t, some rest)
  | none =>
    match wordTail? c with
    | some letters =>
      match wordFault letters rest with
      | none => (.word none, some (rest.drop letters.length))
      | some fault => (.word (some fault), none)
    | none =>
      if c = '"' then
        let s := cutString rest
        (.string s.parts s.fault, if s.fault.isNone then some s.rest else none)
      else if c = '-' ∨ isDigit c then
        let n := cutNumber c rest
        match n.ending with
        | .whole _ => (.number n.ending, some n.rest)
        | _ => (.number n.ending, none)
      else (.stray, none)

/-! ## The cut of a whole text

Each token is followed by a shorter text than it starts, which is what ends the cut. -/

theorem cutString_rest_length (s : List Char) : (cutString s).rest.length ≤ s.length := by
  fun_induction cutString s <;> simp_all [StringCut.broken, StringCut.push] <;> omega

theorem missingDigit_rest (s : List Char) : (NumberCut.missingDigit s).rest = s := rfl

theorem dropWhile_length_le (p : Char → Bool) (s : List Char) :
    (s.dropWhile p).length ≤ s.length :=
  (List.dropWhile_sublist p).length_le

theorem cutExponentDigits_rest_length (w f : List Char) (neg : Bool) (s : List Char) :
    (cutExponentDigits w f neg s).rest.length ≤ s.length := by
  unfold cutExponentDigits
  have := dropWhile_length_le isDigit s
  dsimp only
  split <;> simp_all [NumberCut.missingDigit]

theorem cutExponent_rest_length (w f s : List Char) :
    (cutExponent w f s).rest.length ≤ s.length := by
  unfold cutExponent
  split
  · split
    · split <;> rename_i rest _ <;>
        (refine Nat.le_trans (cutExponentDigits_rest_length _ _ _ _) ?_; simp; try omega)
    · simp
  · simp

theorem cutFraction_rest_length (w s : List Char) :
    (cutFraction w s).rest.length ≤ s.length := by
  unfold cutFraction
  split
  · rename_i rest
    have := dropWhile_length_le isDigit rest
    dsimp only
    split
    · simp [NumberCut.missingDigit]
    · have := cutExponent_rest_length w (rest.takeWhile isDigit) (rest.dropWhile isDigit)
      simp only [List.length_cons]; omega
  · exact cutExponent_rest_length _ _ _

theorem cutUnsigned_rest_length (c : Char) (rest : List Char) :
    (cutUnsigned c rest).rest.length ≤ rest.length := by
  unfold cutUnsigned
  have := dropWhile_length_le isDigit rest
  split
  · split
    · simp
    · exact cutFraction_rest_length _ _
  · split
    · exact Nat.le_trans (cutFraction_rest_length _ _) this
    · simp

theorem cutNumber_rest_length (c : Char) (rest : List Char) :
    (cutNumber c rest).rest.length ≤ rest.length := by
  unfold cutNumber
  split
  · split
    · simp [NumberCut.missingDigit]
    · exact Nat.le_trans (cutUnsigned_rest_length _ _) (by simp)
  · exact cutUnsigned_rest_length _ _

theorem firstToken_rest_length {c : Char} {rest behind : List Char}
    (h : (firstToken c rest).2 = some behind) : behind.length ≤ rest.length := by
  unfold firstToken at h
  have hs := cutString_rest_length rest
  have hn := cutNumber_rest_length c rest
  split at h
  · simp_all
  · split at h
    · split at h <;> simp at h
      subst h; simp
    · split at h
      · dsimp only at h
        split at h <;> simp_all
      · split at h
        · dsimp only at h
          split at h <;> simp_all
        · simp at h

/-- The tokens of a text, up to the first one that is broken. -/
def lex : List Char → List Lexeme
  | [] => []
  | c :: rest =>
    if isSpace c then lex rest
    else
      match _h : (firstToken c rest).2 with
      | some behind => { token := (firstToken c rest).1, rest } :: lex behind
      | none => [{ token := (firstToken c rest).1, rest }]
termination_by s => s.length
decreasing_by
  · simp
  · have := firstToken_rest_length ‹_›
    simp; omega

end WordSieve.Json
