/-!
# Cutting a text at a mark
-/

set_option autoImplicit false

namespace WordSieve.Text

/-- The text before the first `mark`, and the text after it if there is one. -/
def cut (mark : Char) : List Char → List Char × Option (List Char)
  | [] => ([], none)
  | c :: rest =>
    if c = mark then ([], some rest)
    else
      let (before, after) := cut mark rest
      (c :: before, after)

end WordSieve.Text
