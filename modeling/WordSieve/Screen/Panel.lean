import WordSieve.Screen.Wrap

/-!
# Panels

The parts a screen is made of: frames with a title, paragraphs, and lists whose items take one or
more rows. All of them draw into an area and nothing outside it.
-/

set_option autoImplicit false

namespace WordSieve.Screen

/-- The marks of a frame. -/
structure Corners where
  topLeft : Char
  topRight : Char
  bottomLeft : Char
  bottomRight : Char
  deriving DecidableEq, Repr

/-- Corners with an edge. -/
def Corners.square : Corners :=
  { topLeft := '┌', topRight := '┐', bottomLeft := '└', bottomRight := '┘' }

/-- Corners without an edge. -/
def Corners.round : Corners :=
  { topLeft := '╭', topRight := '╮', bottomLeft := '╰', bottomRight := '╯' }

/-- A frame with a title in its upper side. -/
structure Frame where
  corners : Corners
  title : String
  look : Look
  deriving DecidableEq, Repr

/-- Draws a row into the first row of an area, at its left. -/
def drawRow (k : Canvas) (a : Area) (row : List Span) : Canvas :=
  drawSpans k (a.row 0) row

/-- Draws a frame. -/
def drawFrame (k : Canvas) (a : Area) (f : Frame) : Canvas :=
  if a.isEmpty then k
  else
    let mark (k : Canvas) (x y : Nat) (c : Char) : Canvas := k.put x y [c] .unchanged
    let k := k.restyle a f.look
    let k := (List.range a.height).foldl (fun k y => mark k a.left (a.top + y) '│') k
    let k := (List.range a.width).foldl (fun k x => mark k (a.left + x) a.top '─') k
    let k := (List.range a.height).foldl (fun k y => mark k (a.right - 1) (a.top + y) '│') k
    let k := (List.range a.width).foldl (fun k x => mark k (a.left + x) (a.bottom - 1) '─') k
    let k := mark k (a.right - 1) (a.bottom - 1) f.corners.bottomRight
    let k := mark k (a.right - 1) a.top f.corners.topRight
    let k := mark k a.left (a.bottom - 1) f.corners.bottomLeft
    let k := mark k a.left a.top f.corners.topLeft
    drawRow k { left := a.left + 1, top := a.top, width := a.width - 2, height := 1 }
      [.raw f.title]

/-- Draws the glyphs of a line from a column on. Glyphs without columns are left out. -/
def drawLine (k : Canvas) (x y : Nat) : List Glyph → Canvas
  | [] => k
  | g :: rest =>
    if g.width = 0 then drawLine k x y rest
    else drawLine (k.put x y g.symbol g.look) (x + g.width) y rest

/-- Where a line of a width starts in an area, if it stands in the middle. -/
def centered (a : Area) (width : Nat) : Nat :=
  a.left + (a.width / 2 - width / 2)

/-- Draws lines one below the other, as far as the area has rows. -/
def drawLines (k : Canvas) (a : Area) (center : Bool) (lines : List (List Glyph)) : Canvas :=
  ((lines.take a.height).mapIdx fun y line => (y, line)).foldl (fun k (y, line) =>
    drawLine k (if center then centered a (glyphsWidth line) else a.left) (a.top + y) line) k

/-- Draws rows that are cut off at the right. -/
def drawParagraph (k : Canvas) (a : Area) (center : Bool) (look : Look) (rows : List (List Span)) :
    Canvas :=
  if a.isEmpty then k
  else
    drawLines (k.restyle a look) a center
      (rows.map fun row => truncate a.width a.width (row.flatMap Span.glyphs))

/-- Draws a row that is wrapped, without the first lines of it. -/
def drawWrapped (k : Canvas) (a : Area) (scroll : Nat) (row : List Span) : Canvas :=
  if a.isEmpty then k
  else drawLines k a false ((wrap a.width (row.flatMap Span.glyphs)).drop scroll)

/-- An item of a list: its rows, and how it looks. -/
structure Item where
  rows : List (List Span)
  look : Look
  deriving DecidableEq, Repr

/-- The items that fit a number of rows, from the first one on. An item is there as a whole or not
at all. -/
def fitting (room : Nat) : List Item → List Item
  | [] => []
  | i :: rest => if room < i.rows.length then [] else i :: fitting (room - i.rows.length) rest

/-- Draws items one below the other. -/
def drawItems (k : Canvas) (a : Area) : List Item → Canvas
  | [] => k
  | i :: rest =>
    let own := { a with height := i.rows.length }
    let k := k.restyle own i.look
    let k := (i.rows.mapIdx fun y row => (y, row)).foldl (fun k (y, row) =>
      drawRow k (own.row y) row) k
    drawItems k { a with top := a.top + i.rows.length, height := a.height - i.rows.length } rest

/-- Draws a list of items. -/
def drawList (k : Canvas) (a : Area) (items : List Item) : Canvas :=
  if a.isEmpty then k else drawItems k a (fitting a.height items)

end WordSieve.Screen
