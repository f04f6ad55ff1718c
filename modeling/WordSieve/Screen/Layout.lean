import WordSieve.Screen.Canvas

/-!
# Layout

An area is split from top to bottom among parts above, one part that takes what is left, and parts
below it. Where rows are missing, the one in the middle keeps its least rows to the end, and the
others give way in this order: the higher ones above, until all above are level; the higher ones
below, likewise; all above together, evenly; all below together, evenly.
-/

set_option autoImplicit false

namespace WordSieve.Screen

/-- The heights that the parts of a screen ask for, from top to bottom. -/
structure Parts where
  above : List Nat
  /-- The least rows of the part that takes what is left. -/
  least : Nat
  below : List Nat
  deriving DecidableEq, Repr

/-- The rows of parts together. -/
def totalRows (heights : List Nat) : Nat :=
  heights.foldr (· + ·) 0

/-- The height of the lowest part. -/
def lowest : List Nat → Nat
  | [] => 0
  | h :: hs => hs.foldl min h

/-- The rows of parts together when all of them are as low as the lowest. -/
def levelRows (heights : List Nat) : Nat :=
  lowest heights * heights.length

/-- The heights without some missing rows, which are taken from what is higher than `floor`, from
the first part on. -/
def lower (floor missing : Nat) : List Nat → List Nat
  | [] => []
  | h :: hs =>
    let given := min missing (h - floor)
    (h - given) :: lower floor (missing - given) hs

/-- Where the first `i` of `n` parts end that share rows evenly, at the nearest row. -/
def border (rows n i : Nat) : Nat :=
  (2 * i * rows + n) / (2 * n)

/-- The heights of `n` parts that share rows evenly. -/
def evenHeights (rows n : Nat) : List Nat :=
  (List.range n).map fun i => border rows n (i + 1) - border rows n i

/-- The heights of parts that have so many rows together. -/
def fitHeights (rows : Nat) (heights : List Nat) : List Nat :=
  if levelRows heights ≤ rows then lower (lowest heights) (totalRows heights - rows) heights
  else evenHeights rows heights.length

namespace Parts

/-- The rows that the parts above and the parts below get of `rows` rows. -/
def shares (p : Parts) (rows : Nat) : Nat × Nat :=
  if totalRows p.above + totalRows p.below ≤ rows then (totalRows p.above, totalRows p.below)
  else if levelRows p.above + totalRows p.below ≤ rows then
    (rows - totalRows p.below, totalRows p.below)
  else if levelRows p.above + levelRows p.below ≤ rows then
    (levelRows p.above, rows - levelRows p.above)
  else if levelRows p.below ≤ rows then (rows - levelRows p.below, levelRows p.below)
  else (0, rows)

/-- The heights of all parts of `total` rows. -/
def heights (p : Parts) (total : Nat) : List Nat :=
  let (above, below) := p.shares (total - p.least)
  fitHeights above p.above ++ (total - above - below) :: fitHeights below p.below

end Parts

/-- The areas of the given heights one below the other. -/
def stack (a : Area) : List Nat → List Area
  | [] => []
  | h :: hs =>
    { a with height := h } :: stack { a with top := a.top + h, height := a.height - h } hs

/-- The left part of an area that takes a share of its columns in percent, rounded to the nearest
column, and the right part. -/
def splitColumns (a : Area) (percent : Nat) : Area × Area :=
  let left := (2 * a.width * percent + 100) / 200
  ({ a with width := left }, { a with left := a.left + left, width := a.width - left })

end WordSieve.Screen
