import WordSieve.Editor.Keys
import WordSieve.Screen.Layout
import WordSieve.Screen.Panel

/-!
# The screen of the editor

From top to bottom: a heading, the criteria, the condition, the results, the last messages, and one
row with the status and the keys. The list of criteria shows at most eight rows and is scrolled just
so far that the criterion under the cursor is its last one, if it would not be there otherwise.
-/

set_option autoImplicit false

namespace WordSieve.Editor

open Screen Text

/-! ## The rows of criteria -/

/-- How many rows of criteria there is room for at most. -/
def criteriaLimit : Nat := 8

/-- How many rows the panel of the criteria has, with its frame. -/
def criteriaHeight (count : Nat) : Nat :=
  min (max count 1) criteriaLimit + 2

/-- The place of the first criterion in a panel of `visible` rows. -/
def firstVisible (selected visible : Nat) : Nat :=
  selected - (visible - 1)

/-- A criterion that is shown, with its place. -/
structure ShownCriterion where
  index : Nat
  criterion : Criterion
  deriving DecidableEq, Repr

/-- The criteria that a panel of `visible` rows shows. -/
def shownCriteria (items : List Criterion) (selected visible : Nat) : List ShownCriterion :=
  ((items.mapIdx fun index criterion => { index, criterion }).drop
    (firstVisible selected visible)).take (max visible 1)

/-- The looks of a part of a criterion. The part under the cursor stands out, in another colour
while letters are typed. -/
def fieldLook (e : Editor) (index : Nat) (field : Field) : Look :=
  if index = e.selected ∧ e.field = field then
    { fg := some .black, bg := some (if e.mode = .editLetters then .cyan else .yellow)
      bold := true, dim := false }
  else .unchanged

/-- The mark of the row under the cursor. -/
def cursorMark (e : Editor) (index : Nat) : String :=
  if index = e.selected then "▶ " else "  "

/-- The letters of a criterion as they are shown: with a cursor while they are typed, and a hint in
their place where there are none. -/
def lettersSpan (e : Editor) (s : ShownCriterion) : Span :=
  let look := e.fieldLook s.index .letters
  let typing := s.index = e.selected ∧ e.mode = .editLetters
  if s.criterion.isEmpty ∧ ¬typing then
    { text := padRight 6 s.criterion.kind.placeholder.toList, look := { look with dim := true } }
  else
    { text := padRight 6 (s.criterion.letters ++ if typing then ['▏'] else []), look }

/-- The row of a criterion. -/
def criterionRow (e : Editor) (s : ShownCriterion) : List Span :=
  let number := String.ofList (padLeft 2 (toString (s.index + 1)).toList)
  [.raw (e.cursorMark s.index ++ number ++ ". "),
   .raw "Position ",
   .styled (" " ++ s.criterion.scope.name ++ " ") (e.fieldLook s.index .scope),
   .raw "  Value ",
   e.lettersSpan s,
   .raw "  Filter ",
   { text := ' ' :: padRight 7 s.criterion.kind.name.toList ++ [' ']
     look := e.fieldLook s.index .kind }]

/-- The rows of the panel of the criteria. -/
def criteriaItems (e : Editor) (visible : Nat) : List Item :=
  let items := e.session.criteria.items
  if items.isEmpty then
    [{ rows := [[.styled "No filters - press 'a' to add one" (.colored .darkGray)]],
       look := .unchanged }]
  else
    (shownCriteria items e.selected visible).map fun s =>
      { rows := [e.criterionRow s], look := .unchanged }

/-! ## The panels -/

/-- Draws the heading. -/
def drawHeading (k : Canvas) (a : Area) : Canvas :=
  let look : Look := { Look.colored .cyan with bold := true }
  let k := drawFrame (k.restyle a look) a { corners := .round, title := "", look := .colored .cyan }
  drawParagraph k a.inside true look [[.raw "🔎 WORD FILTER - Interactive Mode"]]

/-- Draws the criteria. -/
def drawCriteria (k : Canvas) (a : Area) (e : Editor) : Canvas :=
  let k := drawFrame k a { corners := .round, title := " Filters ", look := .unchanged }
  drawList k a.inside (e.criteriaItems (a.height - 2))

/-- Draws the condition. -/
def drawCondition (k : Canvas) (a : Area) (e : Editor) : Canvas :=
  let p := e.session.condition
  let look := Look.colored (if p.isAlways then .darkGray else .yellow)
  let k := drawFrame (k.restyle a look) a
    { corners := .square, title := " Condition ", look := .unchanged }
  drawParagraph k a.inside false look [[.raw p.display]]

/-- The row of results, or what stands in its place. -/
def resultsRow (s : Session) : List Span :=
  match s.status with
  | .loading => [.styled "Loading word list..." (.colored .darkGray)]
  | .failed reason =>
    [.styled s!"Word list unavailable: {reason} (press 'r' to retry)" (.colored .red)]
  | .loaded _ =>
    if s.sieve.count = 0 then [.styled "No results" (.colored .darkGray)]
    else s.sieve.displayed.map fun w => .raw (w.text ++ "  ")

/-- The title of the results: how many of them are on display. -/
def resultsTitle (s : Sieve) : String :=
  s!" Results [{displayBar s.window s.count 10}] {s.window}/{s.count}" ++
    (if s.hasMore then " | m: load more" else "") ++ " "

/-- Draws the results. -/
def drawResults (k : Canvas) (a : Area) (e : Editor) : Canvas :=
  let k := drawFrame k a
    { corners := .square, title := resultsTitle e.session.sieve, look := .colored .green }
  drawWrapped k a.inside e.scroll (resultsRow e.session)

/-- The colour of a message. -/
def Tone.color : Tone → Color
  | .info => .white
  | .success => .green
  | .error => .red

/-- How many messages are shown. -/
def shownMessages : Nat := 3

/-- The lines of a text. -/
def messageRows (text : String) : List (List Span) :=
  if text.isEmpty then [[]]
  else (textLines (dropReturns text.toList)).map fun line => [{ text := line, look := .unchanged }]

/-- Draws the last messages, the newest first. -/
def drawMessages (k : Canvas) (a : Area) (e : Editor) : Canvas :=
  let k := drawFrame k a { corners := .square, title := " Messages ", look := .unchanged }
  drawList k a.inside ((e.messages.reverse.take shownMessages).map fun m =>
    { rows := messageRows m.text, look := .colored (Tone.color m.tone) })

/-- The keys in words, by the mode. -/
def modeText : Mode → String
  | .editLetters => "Type letters | Backspace: delete | Esc/Enter: done"
  | .navigate => "q: Quit | a: Add | d: Remove | Enter: Edit | m: More | ?: Help"

/-- Draws the status and the keys. -/
def drawStatus (k : Canvas) (a : Area) (e : Editor) : Canvas :=
  let (left, right) := splitColumns a 40
  let k := drawParagraph k left true .unchanged (messageRows e.session.status.message)
  drawParagraph k right true (.colored .darkGray) [[.raw (modeText e.mode)]]

/-- The heights that the panels ask for. The results take what is left. -/
def panels (count : Nat) : Parts :=
  { above := [3, criteriaHeight count, 3], least := 6, below := [5, 1] }

/-- Draws the editor. -/
def draw (e : Editor) (width height : Nat) : Canvas :=
  let k := Canvas.blank width height
  let areas := stack k.area ((panels e.session.criteria.size).heights height)
  let at_ (i : Nat) : Area := areas.getD i { left := 0, top := 0, width := 0, height := 0 }
  let k := drawHeading k (at_ 0)
  let k := drawCriteria k (at_ 1) e
  let k := drawCondition k (at_ 2) e
  let k := drawResults k (at_ 3) e
  let k := drawMessages k (at_ 4) e
  drawStatus k (at_ 5) e

end WordSieve.Editor
