import WordSieve.Criterion.Spec
import WordSieve.Filter

/-!
# Options and what they are set to

Options come in two places, before and after the name of a command. Four of them may stand in
either place, and then the later place counts. Within one place an option is given once; the only
one that may be repeated is the criterion.
-/

set_option autoImplicit false

namespace WordSieve.CommandLine

open Text

/-- The commands. -/
inductive Verb where
  | play
  | simple
  | filter
  | benchmark
  deriving DecidableEq, Repr

/-- The command with the name. -/
def Verb.ofName? : String → Option Verb
  | "play" => some .play
  | "simple" => some .simple
  | "filter" => some .filter
  | "benchmark" => some .benchmark
  | _ => none

/-- The options. -/
inductive OptionName where
  | wordlist
  | pageSize
  | debounce
  | logFile
  | criterion
  | pages
  | all
  | count
  | maxCriteria
  | seed
  | help
  | version
  deriving DecidableEq, Repr

namespace OptionName

/-- All options. -/
def every : List OptionName :=
  [.wordlist, .pageSize, .debounce, .logFile, .criterion, .pages, .all, .count, .maxCriteria, .seed,
   .help, .version]

/-- The name behind two dashes. -/
def long : OptionName → String
  | .wordlist => "wordlist"
  | .pageSize => "page-size"
  | .debounce => "debounce-ms"
  | .logFile => "log-file"
  | .criterion => "criterion"
  | .pages => "pages"
  | .all => "all"
  | .count => "count"
  | .maxCriteria => "max-criteria"
  | .seed => "seed"
  | .help => "help"
  | .version => "version"

/-- The letter behind one dash. -/
def short? : OptionName → Option Char
  | .wordlist => some 'w'
  | .criterion => some 'c'
  | .pages => some 'p'
  | .all => some 'a'
  | .count => some 'n'
  | .help => some 'h'
  | .version => some 'V'
  | _ => none

/-- Whether the option is followed by a value. -/
def takesValue : OptionName → Bool
  | .all | .help | .version => false
  | _ => true

/-- Whether the option may stand behind the name of the command, or before any name. -/
def belongs (o : OptionName) : Option Verb → Bool
  | none => o ∈ [.wordlist, .pageSize, .debounce, .logFile, .help, .version]
  | some verb =>
    o ∈ [.wordlist, .pageSize, .debounce, .logFile, .help] ||
    match verb with
    | .filter => o ∈ [.criterion, .pages, .all]
    | .benchmark => o ∈ [.count, .maxCriteria, .seed]
    | .play | .simple => false

end OptionName

/-- Why no command is run. The last two are no mistakes. -/
inductive Refusal where
  | unknownOption (text : String)
  | unexpectedArgument (text : String)
  | missingValue (option : OptionName)
  | unexpectedValue (option : OptionName)
  | badValue (option : OptionName) (value : String)
  | badCriterion (error : CriterionError)
  | repeated (option : OptionName)
  | help
  | version
  deriving DecidableEq, Repr

/-- The options of one place, as far as they are given. -/
structure Settings where
  wordlist : Option String
  pageSize : Option Nat
  debounce : Option Nat
  logFile : Option String
  criteria : List Criterion
  pages : Option Nat
  all : Bool
  count : Option Nat
  maxCriteria : Option Nat
  seed : Option Nat
  deriving DecidableEq, Repr

namespace Settings

/-- No options. -/
def none : Settings :=
  { wordlist := .none, pageSize := .none, debounce := .none, logFile := .none, criteria := [],
    pages := .none, all := false, count := .none, maxCriteria := .none, seed := .none }

/-- A value for an option that has none yet. -/
def once {α : Type} (o : OptionName) (old : Option α) (value : α) : Except Refusal (Option α) :=
  if old.isSome then .error (.repeated o) else .ok (some value)

/-- A number for an option that has none yet. -/
def number (o : OptionName) (old : Option Nat) (value : String) :
    Except Refusal (Option Nat) :=
  match numeral? value.toList with
  | .none => .error (.badValue o value)
  | some n => once o old n

/-- The settings with a value for an option. -/
def give (s : Settings) (o : OptionName) (value : String) : Except Refusal Settings :=
  match o with
  | .wordlist => do return { s with wordlist := ← once o s.wordlist value }
  | .pageSize => do return { s with pageSize := ← number o s.pageSize value }
  | .debounce => do return { s with debounce := ← number o s.debounce value }
  | .logFile =>
    if value.isEmpty then .error (.badValue o value)
    else do return { s with logFile := ← once o s.logFile value }
  | .criterion =>
    match Criterion.read value.toList with
    | .ok c => .ok { s with criteria := s.criteria ++ [c] }
    | .error e => .error (.badCriterion e)
  | .pages => do return { s with pages := ← number o s.pages value }
  | .count => do return { s with count := ← number o s.count value }
  | .maxCriteria => do return { s with maxCriteria := ← number o s.maxCriteria value }
  | .seed => do return { s with seed := ← number o s.seed value }
  | .all | .help | .version => .error (.unexpectedValue o)

/-- The settings with an option that takes no value. Help and version are answered at once. -/
def flag (s : Settings) (o : OptionName) : Except Refusal Settings :=
  match o with
  | .all => if s.all then .error (.repeated o) else .ok { s with all := true }
  | .help => .error .help
  | .version => .error .version
  | _ => .error (.missingValue o)

/-- The settings of two places together; those of `inner` count where both are given. -/
def orElse (inner outer : Settings) : Settings :=
  { inner with
    wordlist := inner.wordlist <|> outer.wordlist
    pageSize := inner.pageSize <|> outer.pageSize
    debounce := inner.debounce <|> outer.debounce
    logFile := inner.logFile <|> outer.logFile }

/-- What sessions are set up with. -/
def session (s : Settings) : SessionConfig :=
  { pageSize := s.pageSize.getD SessionConfig.standard.pageSize
    delay := s.debounce.getD 0 * 1000 }

end Settings

end WordSieve.CommandLine
