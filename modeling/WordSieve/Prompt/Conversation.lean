import WordSieve.Prompt.Run
import WordSieve.Report.Session
import WordSieve.Text.Blank

/-!
# Conversations

A conversation at the prompt goes line by line: each line that is a command is run, any other is
answered with what is wrong with it, and the conversation ends with the first `quit`, with the
input, or with the first line that is not text.
-/

set_option autoImplicit false

namespace WordSieve

open Text

/-- The list of commands. -/
def helpReport : Report :=
  [[plain "Commands:"],
   [plain "  add                      append an empty criterion"],
   [plain "  rm <n>                   remove criterion n"],
   [plain "  set <n> kind <k>         exclude | include | is | not"],
   [plain "  set <n> scope <s>        all | 1-5"],
   [plain "  set <n> letters [abc]    letters to test (omit to clear)"],
   [plain "  more                     show the next page of results"],
   [plain "  show                     print criteria and results"],
   [plain "  quit"], []]

/-- What a notice prints. -/
def Notice.report : Notice → Report
  | .noCriterion index => [[plain s!"No criterion #{index + 1}"]]
  | .help => helpReport

/-- What a command prints once it has run: its notice, and then the parts of the session that it
changed or asked for. -/
def Outcome.report (o : Outcome) (c : Command) : Report :=
  (o.notice.map Notice.report).getD [] ++
    if o.recomputed || c = .overview then sessionReport o.session
    else if c = .more then windowReport o.session.sieve
    else []

/-- What is printed before the first line is read. -/
def openingReport (s : Session) : Report :=
  [[], [plain "╔══════════════════════════════════════════════════════════════╗"],
   [plain "║               Word Filter - Interactive Mode                 ║"],
   [plain "╚══════════════════════════════════════════════════════════════╝"], [],
   [plain s.status.message]] ++ helpReport ++ sessionReport s

/-- What is printed last. -/
def closingReport : Report :=
  [[], [plain "👋 Bye!"], []]

/-- What asks for a line. -/
def promptText : String := "filter> "

/-- What is printed for a line, and the session after it. -/
structure Reply where
  session : Session
  report : Report
  quit : Bool

/-- Answers a line, without the blanks around it. -/
def reply (s : Session) (m : Moment) (line : List Char) : Reply :=
  match Command.read (trim line) with
  | .error e => { session := s, report := [[plain s!"❌ {e.message}"]], quit := false }
  | .ok c =>
    let o := c.run s m
    { session := o.session, quit := o.quit
      report := if o.quit then closingReport else o.report c }

/-- How a conversation ended. -/
structure Ending where
  session : Session
  printed : String
  /-- Whether a line was met that is not text. -/
  failed : Bool

/-- Goes through lines that come with their moments; a line that is not text is missing. -/
def converse (color : Bool) (s : Session) : List (Option (List Char) × Moment) → Ending
  | [] =>
    { session := s, printed := promptText ++ Report.print color closingReport, failed := false }
  | (none, _) :: _ => { session := s, printed := promptText, failed := true }
  | (some line, m) :: rest =>
    let r := reply s m line
    let printed := promptText ++ Report.print color r.report
    if r.quit then { session := r.session, printed, failed := false }
    else
      let ending := converse color r.session rest
      { ending with printed := printed ++ ending.printed }

end WordSieve
