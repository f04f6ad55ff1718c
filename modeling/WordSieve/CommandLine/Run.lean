import WordSieve.CommandLine.Arguments
import WordSieve.Prompt.Conversation
import WordSieve.Report.Benchmark
import WordSieve.Report.Filter
import WordSieve.WordList.Source

/-!
# Running commands

A command is given what it needs from outside: the outcome of loading the word list, and what was
typed. It answers with a code and with the text of its output and its errors. The log file is
started before the word list is read, so a list that is also the log file is empty.
-/

set_option autoImplicit false

namespace WordSieve.CommandLine

/-- What a command leaves behind. -/
structure Finish where
  code : Nat
  output : String
  errors : String
  deriving DecidableEq, Repr

/-- A command that did what it was asked. -/
def Finish.ok (output : String) : Finish :=
  { code := 0, output, errors := "" }

/-- The text of an error with the errors behind it. Two or more of those are numbered. -/
def errorText (message : String) (causes : List String) : String :=
  let lines := match causes with
    | [] => []
    | [cause] => ["", "Caused by:", "    " ++ cause]
    | causes => ["", "Caused by:"] ++ causes.mapIdx fun i cause => s!"    {i}: {cause}"
  String.join ((("Error: " ++ message) :: lines).map (· ++ "\n"))

/-- A command that failed after some output. -/
def Finish.failed (output message : String) (causes : List String) : Finish :=
  { code := 1, output, errors := errorText message causes }

/-- A command whose word list could not be loaded. -/
def Finish.notLoaded (source : WordSource) (e : LoadError) : Finish :=
  .failed "" s!"cannot load {source.name}" [e.message, e.cause]

/-- A command whose log file could not be started. -/
def Finish.noLog (path : String) (e : FileError) : Finish :=
  .failed "" s!"cannot create log file {path}" [e.message]

/-- The version in words. -/
def versionText : String := "wordle_filter 1.0.0\n"

/-- The options in words. -/
def usageText : String :=
  String.join (["Filter five-letter words by letter position and presence", "",
    "Usage: wordle_filter [OPTIONS] [COMMAND]", "",
    "Commands: play, simple, filter, benchmark", ""].map (· ++ "\n"))

/-- What a refusal leaves behind. -/
def Refusal.finish : Refusal → Finish
  | .help => .ok usageText
  | .version => .ok versionText
  | _ => { code := 2, output := "", errors := "error: invalid arguments\n" }

/-- Runs a filter once. -/
def runFilterCommand (color : Bool) (s : Settings) (corpus : List Word) : Finish :=
  let request : FilterRequest :=
    { criteria := s.criteria, pages := max 1 (s.pages.getD 1), all := s.all }
  .ok (Report.print color (request.run corpus s.session).report)

/-- The session at the prompt. It goes on without words where none could be loaded. -/
def promptSession (s : Settings) (loaded : Except LoadError (List Word)) : Session :=
  (Session.start s.session).awaitCorpus.receiveCorpus (loaded.mapError LoadError.message)

/-- The warning about a word list that could not be loaded. -/
def loadWarning (color : Bool) (loaded : Except LoadError (List Word)) : String :=
  match loaded with
  | .ok _ => ""
  | .error e =>
    Report.print color
      [[styled .warning "Warning:", plain s!" {e.message} (continuing with an empty word list)"]]

/-- Goes through what was typed at the prompt. -/
def runPromptCommand (color : Bool) (s : Settings) (loaded : Except LoadError (List Word))
    (typed : List (Option (List Char) × Moment)) : Finish :=
  let session := promptSession s loaded
  let ending := converse color session typed
  let output := Report.print color (openingReport session) ++ ending.printed
  let warning := loadWarning color loaded
  if ending.failed then
    { code := 1, output, errors := warning ++ errorText FileError.notText.message [] }
  else { code := 0, output, errors := warning }

/-- How many trials a benchmark has if nothing is said. -/
def standardTrials : Nat := 1000

/-- How many criteria a trial has at most if nothing is said. -/
def standardCriteria : Nat := 4

/-- What is printed before a benchmark. -/
def benchmarkOpening (trials : Nat) (corpus : List Word) : String :=
  s!"Running benchmark: {trials} random criteria lists over {corpus.length} words...\n"

/-- Runs a benchmark with the given draws. -/
def runBenchmarkCommand (color : Bool) (s : Settings) (corpus : List Word) (seed : Nat)
    (draws : Benchmark.Draws) (duration : Micros) : Finish :=
  let trials := s.count.getD standardTrials
  let summary := Benchmark.run corpus trials (max 1 (s.maxCriteria.getD standardCriteria)) draws
  .ok (benchmarkOpening trials corpus ++ Report.print color (summary.figures seed duration).report)

/-- The interactive command without a terminal. -/
def noTerminal : Finish :=
  .failed "" "No such device or address (os error 6)" []

/-- What the commands need from outside besides the word list. -/
structure Surroundings where
  color : Bool
  typed : List (Option (List Char) × Moment)
  /-- The seed of a benchmark that is given none. -/
  seed : Nat
  /-- The draws of a benchmark for a seed. -/
  draws : Nat → Benchmark.Draws
  duration : Micros

/-- Runs a command on the outcome of loading its word list. -/
def Request.run (r : Request) (w : Surroundings) (source : WordSource)
    (loaded : Except LoadError (List Word)) : Finish :=
  match r.verb with
  | .play => noTerminal
  | .simple => runPromptCommand w.color r.settings loaded w.typed
  | .filter =>
    match loaded with
    | .ok corpus => runFilterCommand w.color r.settings corpus
    | .error e => .notLoaded source e
  | .benchmark =>
    match loaded with
    | .ok corpus =>
      let seed := r.settings.seed.getD w.seed
      runBenchmarkCommand w.color r.settings corpus seed (w.draws seed) w.duration
    | .error e => .notLoaded source e

/-- The word list that is asked for. -/
def Request.source (r : Request) : WordSource :=
  .ofArg (r.settings.wordlist.getD "embedded")

/-- Runs the command of the arguments on the files of a directory. -/
def run (args : List String) (files : Files) (w : Surroundings) : Finish :=
  match readArguments args with
  | .error refusal => refusal.finish
  | .ok r =>
    match r.settings.logFile with
    | none => r.run w r.source (r.source.load files.read)
    | some path =>
      match files.create path with
      | .error e => .noLog path e
      | .ok files => r.run w r.source (r.source.load files.read)

end WordSieve.CommandLine
