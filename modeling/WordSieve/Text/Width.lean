import WordSieve.Text.ClusterTable
import WordSieve.Text.EmojiTable
import WordSieve.Text.WidthTable

/-!
# Widths

How many columns of a terminal a text takes. By itself a character takes one column, two if it is
wide, and none if it is a mark. Characters that are shown as one take the columns of what is shown:
an emoji with its modifier, emoji tied together by joiners, a flag, and the ligatures that some
scripts cannot do without.

A text is measured from its end, because it is what stands behind a character that decides. All that
matters of the part behind a place is an `After`; one character more gives the columns that it adds
and the `After` of the place before it. A character that completes a ligature may add less than
nothing, as it takes back a column that was counted already.
-/

set_option autoImplicit false

namespace WordSieve.Text

/-- The columns of a character by itself. Two Khmer letters are wider than the standard's tables
say. -/
def charWidth (c : Char) : Nat :=
  if c ≤ '\u00a0' then 1
  else if zeroWidth.has c then 0
  else if wide.has c || c = '\u17a4' then 2
  else if c = '\u17d8' then 3
  else 1

/-- The joiner, which ties what stands before it to what stands behind it. -/
def joiner : Char := '\u200d'

/-- How a variation selector asks for the character before it. -/
inductive Presentation where
  | emoji
  | text
  deriving DecidableEq, Repr

/-- What a variation selector asks for. -/
def presentation? (c : Char) : Option Presentation :=
  if c = '\ufe0f' then some .emoji else if c = '\ufe0e' then some .text else none

/-- What stands between a joiner that has an emoji behind it and the place before. -/
inductive Tied where
  | nothing
  | keycap
  /-- Regional indicators, at least one. -/
  | regionals (count : Nat)
  /-- The end of a tag: its last letters, and digits before those. -/
  | tag (digits letters : Nat)
  deriving DecidableEq, Repr

/-- The end of a ligature. -/
inductive LigatureEnd where
  | hebrewLamed
  | bugineseYa
  /-- A Buginese vowel sign tied to the letter ya. -/
  | bugineseVowelYa
  | tifinaghConsonant
  /-- A Tifinagh consonant behind a consonant joiner. -/
  | tifinaghJoined
  | lisuTone
  | turkicI
  | khmerSubjoined
  deriving DecidableEq, Repr

/-- What stands behind a place, as far as it matters to the character before. -/
inductive Behind where
  /-- Nothing that matters. -/
  | plain
  | lineFeed
  | emoji
  | modifier
  /-- Regional indicators: one, or several. -/
  | regional (several : Bool)
  /-- A joiner with an emoji behind it. -/
  | tied (t : Tied)
  | arabicAlef
  /-- The end of a ligature, with a joiner before it or without. -/
  | ligature (e : LigatureEnd) (joined : Bool)
  deriving DecidableEq, Repr

/-- What stands behind a place, and the variation selector before that. -/
structure After where
  selector : Option Presentation
  behind : Behind
  deriving DecidableEq, Repr

/-- The end of a ligature that a character is by itself. -/
def ligatureEnd? (c : Char) : Option LigatureEnd :=
  if c = '\u05dc' then some .hebrewLamed
  else if c = '\u1a10' then some .bugineseYa
  else if tifinaghLetter.has c then some .tifinaghConsonant
  else if c = '\ua4fc' ∨ c = '\ua4fd' then some .lisuTone
  else if c.toNat = 0x10C03 then some .turkicI
  else if khmerLetter.has c then some .khmerSubjoined
  else none

/-- What a character is to the one before it. -/
def Behind.of (c : Char) : Behind :=
  if c = '\n' then .lineFeed
  else if c ≤ '\u00a0' then .plain
  else if regionalIndicator.has c then .regional false
  else if emojiModifier.has c then .modifier
  else if emojiPresentation.has c then .emoji
  else if joinsAsAlef.has c then .arabicAlef
  else match ligatureEnd? c with
    | some e => .ligature e false
    | none => .plain

/-- The columns of a character that is shown by itself, and what it is to the one before it. -/
def alone (c : Char) : Int × After :=
  (charWidth c, { selector := presentation? c, behind := .of c })

/-! ## What is shown together

Each function here says what a character adds to what stands behind it, if the two are shown
together. -/

/-- A character before the end of a ligature. -/
def LigatureEnd.take (e : LigatureEnd) (joined : Bool) (c : Char) : Option (Int × Behind) :=
  match e with
  | .hebrewLamed => if joined ∧ c = '\u05d0' then some (0, .plain) else none
  | .bugineseYa =>
    if joined ∧ c = '\u1a17' then some (0, .ligature .bugineseVowelYa joined) else none
  | .bugineseVowelYa => if c = '\u1a15' then some (0, .plain) else none
  | .tifinaghConsonant =>
    if c = '\u2d7f' then some (1, .ligature .tifinaghJoined joined)
    else if joined ∧ tifinaghLetter.has c then some (0, .plain) else none
  | .tifinaghJoined => if tifinaghLetter.has c then some (-1, .plain) else none
  | .lisuTone => if '\ua4f8' ≤ c ∧ c ≤ '\ua4fb' then some (0, .plain) else none
  | .turkicI => if joined ∧ c.toNat = 0x10C32 then some (0, .plain) else none
  | .khmerSubjoined => if c = '\u17d2' then some (-1, .plain) else none

/-- A letter of a tag. -/
def isTagLetter (c : Char) : Bool :=
  Nat.ble 0xE0061 c.toNat && Nat.ble c.toNat 0xE007A

/-- A digit of a tag. -/
def isTagDigit (c : Char) : Bool :=
  Nat.ble 0xE0030 c.toNat && Nat.ble c.toNat 0xE0039

/-- A character before the end of a tag. A tag names a country or a part of one: three to six
letters, or three digits and at most four letters. It stands behind a black flag. -/
def takeTag (digits letters : Nat) (c : Char) : Option (Int × Behind) :=
  if isTagLetter c ∧ digits = 0 ∧ letters < 6 then some (0, .tied (.tag 0 (letters + 1)))
  else if isTagDigit c ∧ digits < 3 ∧ letters ≤ 4 then some (0, .tied (.tag (digits + 1) letters))
  else if c.toNat = 0x1F3F4 ∧ (digits = 3 ∨ (digits = 0 ∧ 3 ≤ letters)) then some (0, .emoji)
  else none

/-- A character before what is tied to an emoji. Regional indicators pair off from the first one
on, and the last pair is the flag that is tied. -/
def Tied.take (t : Tied) (c : Char) : Option (Int × Behind) :=
  match t with
  | .nothing =>
    if c = '\u20e3' then some (0, .tied .keycap)
    else if regionalIndicator.has c then some (1, .tied (.regionals 1))
    else if emojiModifier.has c then some (0, .modifier)
    else if c.toNat = 0xE007F then some (0, .tied (.tag 0 0))
    else if emojiPresentation.has c then some (0, .emoji)
    else none
  | .keycap => none
  | .regionals n =>
    if regionalIndicator.has c then
      some (if n % 2 = 1 then -1 else 3, .tied (.regionals (n + 1)))
    else if c = joiner ∧ 2 ≤ n then some (0, .tied .nothing)
    else none
  | .tag digits letters => takeTag digits letters c

/-- A character before anything. -/
def Behind.take (b : Behind) (c : Char) : Option (Int × Behind) :=
  match b with
  | .plain => none
  | .lineFeed => if c = '\r' then some (0, .plain) else none
  | .emoji => if c = joiner then some (0, .tied .nothing) else none
  | .modifier =>
    if modifierBase.has c then some (0, .emoji)
    else if c = joiner then some (0, .tied .nothing)
    else none
  | .regional several =>
    if regionalIndicator.has c then some (1, .regional true)
    else if c = joiner ∧ several then some (0, .tied .nothing)
    else none
  | .tied t => t.take c
  | .arabicAlef =>
    if joinsAsLam.has c then some (0, .plain)
    else if zeroWidth.has c && !nonTransparent.has c then some (0, .arabicAlef)
    else none
  | .ligature e joined =>
    if c = joiner then some (0, .ligature e true)
    else if ligatureTransparent.has c then some (0, .ligature e joined)
    else e.take joined c

/-! ## Variation selectors -/

/-- What a variation selector leaves of what stands behind it. Ligatures go on across one, and what
is tied to an emoji goes on across the one that asks for an emoji. -/
def Behind.across (b : Behind) (p : Presentation) : Behind :=
  match b with
  | .arabicAlef => .arabicAlef
  | .ligature e joined => .ligature e joined
  | .tied .nothing => if p = .emoji then .tied .nothing else .plain
  | .tied .keycap => if p = .emoji then .tied .keycap else .plain
  | _ => .plain

/-- Whether an emoji is tied to the place. -/
def Behind.isTied : Behind → Bool
  | .tied _ => true
  | _ => false

/-- A character before something that no selector stands before. -/
def Behind.step (b : Behind) (c : Char) : Int × After :=
  match presentation? c with
  | some p => (0, { selector := some p, behind := b.across p })
  | none =>
    match b.take c with
    | some (n, b) => (n, { selector := none, behind := b })
    | none => alone c

/-- The columns that a character adds to what stands behind it, and what then stands behind the
place before the character. -/
def After.step (a : After) (c : Char) : Int × After :=
  match a.selector with
  | none => a.behind.step c
  | some .emoji =>
    if emojiVariation.has c then
      (if a.behind.isTied then 0 else 2, { selector := none, behind := .emoji })
    else if a.behind.isTied then alone c
    else a.behind.step c
  | some .text =>
    if textVariation.has c then (1, { selector := none, behind := .plain })
    else a.behind.step c

/-! ## Texts -/

/-- A measured text: its columns, and what its beginning is to a character before it. -/
structure Measured where
  columns : Int
  start : After
  deriving DecidableEq, Repr

/-- The text without characters. -/
def Measured.empty : Measured :=
  { columns := 0, start := { selector := none, behind := .plain } }

/-- The text with one more character before it. -/
def Measured.cons (c : Char) (m : Measured) : Measured :=
  let (added, start) := m.start.step c
  { columns := m.columns + added, start }

/-- The columns of a text. -/
def textWidth (s : List Char) : Nat :=
  (s.foldr Measured.cons Measured.empty).columns.toNat

end WordSieve.Text
