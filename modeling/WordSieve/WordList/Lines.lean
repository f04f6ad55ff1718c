import WordSieve.Text.Lines
import WordSieve.Word

/-!
# Word lists with one word a line

Blanks around a word and lines without one are passed over, and so is a line that holds anything
but a word.
-/

set_option autoImplicit false

namespace WordSieve

open Text

/-- The entries of a word list, one a line. -/
def lineEntries (content : List Char) : List (List Char) :=
  ((textLines content).map trim).filter (!·.isEmpty)

/-- The words of a word list, one a line. -/
def readLines (content : List Char) : List Word :=
  wordsOf (lineEntries content)

end WordSieve
