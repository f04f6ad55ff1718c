import WordSieve.Filter
import WordSieve.Report.Session

/-!
# The report of a filter run

A filter run tells its words by their texts, and lays these out by itself. The rows come out as they
do where a session lays out the words.
-/

set_option autoImplicit false

namespace WordSieve

/-- Texts in indented rows. -/
def shownLines (texts : List String) : Report :=
  (chunks reportColumns texts).map fun row => [plain "   ", plain ("  ".intercalate row)]

/-- The criteria, the condition, how many words match, and the words shown. -/
def FilterResult.report (r : FilterResult) : Report :=
  [[], [ruler '═']] ++ criteriaReport r.criteria ++
    [[], conditionLine r.condition, [ruler '═'], [],
     [plain "📊 ", styled .figure (toString r.matching), plain s!" of {r.corpusSize} words match"],
     []] ++
    (if r.shown.isEmpty then [noResultsLine] else shownLines (r.shown.map Word.text)) ++
    if r.hasMore then
      [[], [plain s!"   … {r.matching - r.shown.length} more (use --pages or --all)"]]
    else []

end WordSieve
