import WordSieve.Text.Width

/-!
# Canvas

A canvas is a grid of cells. A cell holds one cluster and how it looks. Drawing is styling an area
and putting clusters into cells; both leave what they do not mention as it was.

What the terminal shows differs from the canvas in one point: the cell behind a wide cluster is
covered by it, so whatever the canvas holds there is not shown. The cells are shown in one sequence,
so a wide cluster at the end of a row covers the first cell of the next one.
-/

set_option autoImplicit false

namespace WordSieve.Screen

/-- The colours in use. -/
inductive Color where
  /-- The terminal's own. -/
  | reset
  | black
  | red
  | green
  | yellow
  | cyan
  | darkGray
  | white
  deriving DecidableEq, Repr

/-- What drawing changes of a cell's looks; a colour that is missing stays as it is. -/
structure Look where
  fg : Option Color
  bg : Option Color
  bold : Bool
  dim : Bool
  deriving DecidableEq, Repr

namespace Look

/-- Looks that change nothing. -/
def unchanged : Look :=
  { fg := none, bg := none, bold := false, dim := false }

/-- Looks that change the colour of the text. -/
def colored (c : Color) : Look :=
  { unchanged with fg := some c }

end Look

/-- A cell. -/
structure Cell where
  symbol : List Char
  fg : Color
  bg : Color
  bold : Bool
  dim : Bool
  deriving DecidableEq, Repr

/-- A cell that nothing was drawn into. -/
def Cell.blank : Cell :=
  { symbol := [' '], fg := .reset, bg := .reset, bold := false, dim := false }

instance : Inhabited Cell := ⟨.blank⟩

/-- The cell with changed looks. -/
def Cell.restyle (c : Cell) (l : Look) : Cell :=
  { c with
    fg := l.fg.getD c.fg
    bg := l.bg.getD c.bg
    bold := c.bold || l.bold
    dim := c.dim || l.dim }

/-- A rectangle of cells. -/
structure Area where
  left : Nat
  top : Nat
  width : Nat
  height : Nat
  deriving DecidableEq, Repr

namespace Area

/-- The column behind the last one. -/
def right (a : Area) : Nat :=
  a.left + a.width

/-- The row below the last one. -/
def bottom (a : Area) : Nat :=
  a.top + a.height

/-- Whether the area has no cell. -/
def isEmpty (a : Area) : Bool :=
  a.width = 0 || a.height = 0

/-- The area within a frame of one cell. -/
def inside (a : Area) : Area :=
  { left := a.left + min 1 a.width, top := a.top + min 1 a.height, width := a.width - 2,
    height := a.height - 2 }

/-- A row of the area. -/
def row (a : Area) (y : Nat) : Area :=
  { a with top := a.top + y, height := min 1 (a.height - y) }

/-- The area without some columns at its left. -/
def indent (a : Area) (n : Nat) : Area :=
  { a with left := a.left + min n a.width, width := a.width - n }

end Area

/-- A grid of cells, row by row. -/
structure Canvas where
  width : Nat
  height : Nat
  cells : Array Cell
  deriving Repr

namespace Canvas

/-- A canvas that nothing was drawn on. -/
def blank (width height : Nat) : Canvas :=
  { width, height, cells := Array.replicate (width * height) .blank }

/-- The whole of a canvas. -/
def area (k : Canvas) : Area :=
  { left := 0, top := 0, width := k.width, height := k.height }

/-- The canvas with a cell changed; a place outside changes nothing. -/
def modify (k : Canvas) (x y : Nat) (f : Cell → Cell) : Canvas :=
  if x < k.width then { k with cells := k.cells.modify (y * k.width + x) f } else k

/-- The canvas with a cluster in a cell. -/
def put (k : Canvas) (x y : Nat) (symbol : List Char) (look : Look) : Canvas :=
  k.modify x y fun c => { c with symbol }.restyle look

/-- The canvas with something added to the cluster in a cell. -/
def append (k : Canvas) (x y : Nat) (symbol : List Char) (look : Look) : Canvas :=
  k.modify x y fun c => { c with symbol := c.symbol ++ symbol }.restyle look

/-- The canvas with a cell cleared. -/
def clear (k : Canvas) (x y : Nat) : Canvas :=
  k.modify x y fun _ => .blank

/-- The canvas with the cells of an area restyled. -/
def restyle (k : Canvas) (a : Area) (look : Look) : Canvas :=
  (List.range a.height).foldl (fun k y =>
    (List.range a.width).foldl (fun k x =>
      k.modify (a.left + x) (a.top + y) (·.restyle look)) k) k

/-- The cells as the terminal shows them, where `covered` cells are covered by a cluster before
them. -/
def showFrom (covered : Nat) : List Cell → List Cell
  | [] => []
  | c :: rest =>
    (if covered = 0 then c else .blank) :: showFrom (Text.textWidth c.symbol - 1) rest

/-- The cells cut into `n` rows of a width. -/
def cutRows (width : Nat) : Nat → List Cell → List (List Cell)
  | 0, _ => []
  | n + 1, cells => cells.take width :: cutRows width n (cells.drop width)

/-- The rows as the terminal shows them. -/
def shown (k : Canvas) : List (List Cell) :=
  cutRows k.width k.height (showFrom 0 k.cells.toList)

end Canvas

end WordSieve.Screen
