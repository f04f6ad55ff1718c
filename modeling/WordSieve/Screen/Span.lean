import WordSieve.Screen.Canvas
import WordSieve.Text.Cluster

/-!
# Spans

A span is a text with its looks, and a row is a list of spans. A row is drawn from the left of an
area and cut off at its right, cluster by cluster. Line feeds take a column when a row is measured
and none when it is drawn.
-/

set_option autoImplicit false

namespace WordSieve.Screen

open Text

/-- A text with its looks. -/
structure Span where
  text : List Char
  look : Look
  deriving DecidableEq, Repr

/-- A text that looks like its surroundings. -/
def Span.raw (s : String) : Span :=
  { text := s.toList, look := .unchanged }

/-- A text with its looks. -/
def Span.styled (s : String) (look : Look) : Span :=
  { text := s.toList, look }

/-- A cluster with its looks. -/
structure Glyph where
  symbol : List Char
  look : Look
  deriving DecidableEq, Repr

/-- The columns of a glyph. -/
def Glyph.width (g : Glyph) : Nat :=
  textWidth g.symbol

/-- The clusters of a span that are drawn. -/
def Span.glyphs (s : Span) : List Glyph :=
  ((clusters s.text).filter (· ≠ ['\n'])).map fun symbol => { symbol, look := s.look }

/-- The columns of a span. -/
def Span.width (s : Span) : Nat :=
  textWidth s.text

/-- Draws glyphs at `x` in the first row of an area; `first` tells that none was drawn before. A
glyph without a column goes into the cell before it, and the cells that a wide glyph covers are
cleared. -/
def drawGlyphs (k : Canvas) (a : Area) (x : Nat) (first : Bool) : List Glyph → Canvas
  | [] => k
  | g :: rest =>
    let next := x + g.width
    if a.right < next then k
    else
      let k :=
        if first then k.put x a.top g.symbol g.look
        else if x = a.left then k.append x a.top g.symbol g.look
        else if g.width = 0 then k.append (x - 1) a.top g.symbol g.look
        else k.put x a.top g.symbol g.look
      let k := (List.range (g.width - 1)).foldl (fun k i => k.clear (x + 1 + i) a.top) k
      drawGlyphs k a next false rest

/-- Draws a span at the left of an area. -/
def drawSpan (k : Canvas) (a : Area) (s : Span) : Canvas :=
  if a.isEmpty then k else drawGlyphs k a a.left true s.glyphs

/-- Draws spans from the left of an area. A span without columns is left out. -/
def drawSpans (k : Canvas) (a : Area) : List Span → Canvas
  | [] => k
  | s :: rest =>
    if a.isEmpty then k
    else if s.width = 0 then drawSpans k a rest
    else drawSpans (drawSpan k a s) (a.indent s.width) rest

end WordSieve.Screen
