import WordSieve.Screen.Span
import WordSieve.Text.Blank

/-!
# Fitting a row into columns

A row that is too long is cut off, or wrapped between words. Wrapping keeps every blank that does
not fall at the end of a line, and breaks a word only where it fills a whole line by itself.
-/

set_option autoImplicit false

namespace WordSieve.Screen

open Text

/-- The columns of glyphs. -/
def glyphsWidth (gs : List Glyph) : Nat :=
  gs.foldr (fun g n => g.width + n) 0

/-- The glyphs up to the first that does not fit `room` columns. Glyphs wider than a whole line are
passed over. -/
def truncate (limit room : Nat) : List Glyph → List Glyph
  | [] => []
  | g :: rest =>
    if limit < g.width then truncate limit room rest
    else if room < g.width then []
    else g :: truncate limit (room - g.width) rest

/-- Whether a line may be broken at the glyph: blanks, but not the one that forbids it, and the zero
width space, which only allows it. -/
def Glyph.breaks (g : Glyph) : Bool :=
  g.symbol = ['\u200b'] || (g.symbol.all isBlank && g.symbol ≠ ['\u00a0'])

/-- A line being filled: the lines before it, its own glyphs, the blanks and the word that follow
and are not placed yet, and whether the last glyph was no blank. -/
structure Filling where
  lines : List (List Glyph)
  line : List Glyph
  blanks : List Glyph
  word : List Glyph
  afterWord : Bool
  deriving DecidableEq, Repr

namespace Filling

/-- Nothing filled yet. -/
def empty : Filling :=
  { lines := [], line := [], blanks := [], word := [], afterWord := false }

/-- Places the blanks and the word that wait on the line. -/
def place (f : Filling) : Filling :=
  { f with line := f.line ++ f.blanks ++ f.word, blanks := [], word := [] }

/-- Places what waits if a word has just ended, or if it fills an empty line. -/
def settle (f : Filling) (limit : Nat) (g : Glyph) : Filling :=
  let overflow := f.line.isEmpty &&
    limit < glyphsWidth f.word + glyphsWidth f.blanks + g.width
  if (f.afterWord && g.breaks) || overflow then f.place else f

/-- Drops blanks from the front as long as they fit `room` columns. -/
def dropBlanks (room : Nat) : List Glyph → List Glyph
  | [] => []
  | g :: rest => if room < g.width then g :: rest else dropBlanks (room - g.width) rest

/-- Whether the glyph has no room left on the line. -/
def isFull (f : Filling) (limit : Nat) (g : Glyph) : Bool :=
  let taken := glyphsWidth f.line
  limit ≤ taken ||
    (0 < g.width && limit ≤ taken + glyphsWidth f.blanks + glyphsWidth f.word)

/-- Ends the line. Blanks that would have stood at its end are dropped. -/
def breakLine (f : Filling) (limit : Nat) : Filling :=
  { f with
    lines := f.lines ++ [f.line], line := []
    blanks := dropBlanks (limit - glyphsWidth f.line) f.blanks }

/-- Lets the glyph wait behind the blanks or the word. -/
def hold (f : Filling) (g : Glyph) : Filling :=
  if g.breaks then { f with blanks := f.blanks ++ [g], afterWord := false }
  else { f with word := f.word ++ [g], afterWord := true }

/-- Takes the next glyph. A glyph wider than a whole line is passed over, and so is the blank at
which a line was broken. -/
def take (limit : Nat) (f : Filling) (g : Glyph) : Filling :=
  if limit < g.width then f
  else
    let f := f.settle limit g
    if f.isFull limit g then
      let f := f.breakLine limit
      if g.breaks && f.blanks.isEmpty then f else f.hold g
    else f.hold g

/-- The lines once all glyphs are taken; there is always one. -/
def finish (f : Filling) : List (List Glyph) :=
  let lines :=
    if f.line.isEmpty && f.word.isEmpty && !f.blanks.isEmpty then f.lines ++ [[]] else f.lines
  let last := f.place.line
  let lines := if last.isEmpty then lines else lines ++ [last]
  if lines.isEmpty then [[]] else lines

end Filling

/-- The lines of a row wrapped to a number of columns. -/
def wrap (limit : Nat) (row : List Glyph) : List (List Glyph) :=
  (row.foldl (Filling.take limit) .empty).finish

end WordSieve.Screen
