import WordSieve.Condition.Text
import WordSieve.Report.Bar
import WordSieve.Report.Grid
import WordSieve.Report.Styled
import WordSieve.Session
import WordSieve.Text.Pad

/-!
# Reports on a session

The criteria with their numbers, the condition, and the results on display. Criteria are numbered
from 1.
-/

set_option autoImplicit false

namespace WordSieve

open Text

/-- The condition as it is shown to the user; one that asks nothing is an invitation. -/
def Condition.display (p : Condition) : String :=
  if p.isAlways then "Start filtering..." else p.text

/-- What the letters of a kind look like. -/
def Kind.placeholder (k : Kind) : String :=
  if k.isSingle then "A" else "ABC"

/-- The criterion in one line. -/
def Criterion.label (c : Criterion) : List Char :=
  padRight 7 c.kind.name.toList ++ " @".toList ++ padRight 3 c.scope.name.toList ++
    " [".toList ++ c.letters ++ [']']

/-- A line across the report. -/
def ruler (mark : Char) : Piece :=
  styled .rule ("".pushn mark 60)

/-- The line of a criterion with its number; one without letters stands back. -/
def criterionLine (number : Nat) (c : Criterion) : Line :=
  [plain s!"   {number}. ", styled (if c.isEmpty then .faint else .plain) (String.ofList c.label)]

/-- The criteria with their numbers. -/
def criteriaReport (items : List Criterion) : Report :=
  [[styled .heading "Filters:"]] ++
    (if items.isEmpty then [[plain "   ", styled .faint "(none)"]] else []) ++
    items.mapIdx fun i c => criterionLine (i + 1) c

/-- The condition behind the results. -/
def conditionLine (p : Condition) : Line :=
  [styled .heading "Condition:", plain " ", styled .condition p.display]

/-- The line that stands for no results. -/
def noResultsLine : Line :=
  [plain "   ", styled .notable "No results"]

/-- Words in indented rows. -/
def gridLines (words : List Word) : Report :=
  (gridRows reportColumns words).map fun row => [plain "   ", plain row]

/-- How many of the results are on display. -/
def displayLine (s : Sieve) : Line :=
  [plain "   [", styled .good (displayBar s.window s.count 20),
   plain s!"] showing {s.window} of {s.count}",
   plain (if s.hasMore then " ('more' for the next page)" else "")]

/-- Words on display, with how many of all results they are. -/
def displayReport (s : Sieve) (words : List Word) : Report :=
  let lines := gridLines words
  [[], [styled .heading "Results:"]] ++ (if lines.isEmpty then [noResultsLine] else lines) ++
    [[], displayLine s]

/-- The results on display, unless the corpus does not have them all. -/
def windowReport? (s : Sieve) : Except IndexFault Report :=
  s.displayed?.map (displayReport s)

/-- The results on display. -/
def windowReport (s : Sieve) : Report :=
  displayReport s s.displayed

/-- The whole session. -/
def sessionReport (s : Session) : Report :=
  [[], [ruler '─']] ++ criteriaReport s.criteria.items ++ [[], conditionLine s.condition] ++
    windowReport s.sieve ++ [[ruler '─']]

end WordSieve
