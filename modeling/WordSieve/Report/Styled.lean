/-!
# Reports with colours

A report is a list of lines, and a line a list of pieces of text that may have a style. Whether
styles show is decided when the report is printed: without colours the text stands alone, and with
them a styled piece stands between the terminal's sequence for its style and the one that ends it.
-/

set_option autoImplicit false

namespace WordSieve

/-- What a piece of a report is, as far as its colours go. -/
inductive Style where
  /-- Text in the terminal's own colour. -/
  | plain
  /-- The name of a part of the report. -/
  | heading
  /-- Something that plays no part at the moment. -/
  | faint
  /-- A good figure. -/
  | good
  /-- Something to take note of. -/
  | notable
  /-- A line between parts. -/
  | rule
  /-- A condition. -/
  | condition
  /-- A figure that the report is about. -/
  | figure
  /-- The word that starts a warning. -/
  | warning
  deriving DecidableEq, Repr

/-- The terminal's number for the style, if it has one. -/
def Style.code? : Style → Option String
  | .plain => none
  | .heading => some "1;96"
  | .faint => some "90"
  | .good => some "32"
  | .notable => some "33"
  | .rule => some "36"
  | .condition => some "93"
  | .figure => some "1;93"
  | .warning => some "1;33"

/-- A piece of a line. -/
structure Piece where
  style : Style
  text : String
  deriving DecidableEq, Repr

/-- A piece with a style. -/
def styled (style : Style) (text : String) : Piece :=
  { style, text }

/-- A piece in the terminal's own colour. -/
def plain (text : String) : Piece :=
  styled .plain text

/-- A line of a report. -/
abbrev Line := List Piece

/-- A report, line by line. -/
abbrev Report := List Line

/-- The piece as it is printed. -/
def Piece.print (color : Bool) (p : Piece) : String :=
  match p.style.code? with
  | some code => if color then s!"\x1b[{code}m" ++ p.text ++ "\x1b[0m" else p.text
  | none => p.text

/-- The line as it is printed, without its end. -/
def Line.print (color : Bool) (l : Line) : String :=
  String.join (l.map (·.print color))

/-- The report as it is printed. Every line is ended. -/
def Report.print (color : Bool) (r : Report) : String :=
  String.join (r.map fun l => Line.print color l ++ "\n")

end WordSieve
