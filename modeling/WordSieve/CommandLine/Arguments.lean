import WordSieve.CommandLine.Options

/-!
# Reading arguments

An option is two dashes and its name, or one dash and its letter. Its value follows as the next
argument or behind an equals sign, and behind a letter also at once; letters of options without a
value may stand together. Arguments are read from left to right, so a mistake counts only if
nothing before it was one or was answered at once.
-/

set_option autoImplicit false

namespace WordSieve.CommandLine

open Text

/-- What is to be run. -/
structure Request where
  settings : Settings
  verb : Verb
  deriving DecidableEq, Repr

/-- What reading an argument leaves: the settings so far, and the option that waits for its
value. -/
structure Progress where
  settings : Settings
  waiting : Option OptionName
  deriving DecidableEq, Repr

/-- The option of a place with the given long name. -/
def longOption? (verb : Option Verb) (name : String) : Option OptionName :=
  OptionName.every.find? fun o => o.belongs verb && o.long == name

/-- The option of a place with the given letter. -/
def shortOption? (verb : Option Verb) (letter : Char) : Option OptionName :=
  OptionName.every.find? fun o => o.belongs verb && o.short? == some letter

/-- Reads an option by its long name. -/
def readLong (verb : Option Verb) (s : Settings) (text : List Char) : Except Refusal Progress :=
  let (name, value) := cut '=' text
  match longOption? verb (String.ofList name) with
  | none => .error (.unknownOption (String.ofList text))
  | some o =>
    match o.takesValue, value with
    | true, none => .ok { settings := s, waiting := some o }
    | true, some v => do return { settings := ← s.give o (String.ofList v), waiting := none }
    | false, none => do return { settings := ← s.flag o, waiting := none }
    | false, some _ => .error (.unexpectedValue o)

/-- Reads options by their letters. -/
def readShort (verb : Option Verb) (s : Settings) : List Char → Except Refusal Progress
  | [] => .ok { settings := s, waiting := none }
  | letter :: rest =>
    match shortOption? verb letter with
    | none => .error (.unknownOption (String.ofList (letter :: rest)))
    | some o =>
      if o.takesValue then
        match rest with
        | [] => .ok { settings := s, waiting := some o }
        | '=' :: value | value =>
          return { settings := ← s.give o (String.ofList value), waiting := none }
      else
        match s.flag o with
        | .ok s => readShort verb s rest
        | .error r => .error r

/-- What comes of asking for help, on the program or on one of its commands. -/
def askHelp : List String → Refusal
  | [] => .help
  | name :: extra =>
    if (Verb.ofName? name).isNone ∧ name ≠ "help" then .unexpectedArgument name
    else
      match extra with
      | [] => .help
      | more :: _ => .unexpectedArgument more

/-- Reads the arguments of a place. The name of a command ends the first place; behind two dashes
nothing may follow. -/
def readPlace (verb : Option Verb) (p : Progress) :
    List String → Except Refusal (Settings × Verb × List String)
  | [] =>
    match p.waiting with
    | some o => .error (.missingValue o)
    | none => .ok (p.settings, verb.getD .play, [])
  | arg :: rest =>
    match arg.toList, p.waiting with
    | ['-', '-'], some o => .error (.missingValue o)
    | ['-', '-'], none =>
      match rest with
      | [] => .ok (p.settings, verb.getD .play, [])
      | extra :: _ => .error (.unexpectedArgument extra)
    | '-' :: '-' :: text, some o =>
      -- an option where a value is wanted: the value is missing, unless the option is unknown
      .error (if (longOption? verb (String.ofList (cut '=' text).1)).isSome then .missingValue o
        else .unknownOption (String.ofList text))
    | '-' :: '-' :: text, none =>
      match readLong verb p.settings text with
      | .ok p => readPlace verb p rest
      | .error r => .error r
    | '-' :: c :: text, some o =>
      .error (if (shortOption? verb c).isSome then .missingValue o
        else .unknownOption (String.ofList (c :: text)))
    | '-' :: c :: text, none =>
      match readShort verb p.settings (c :: text) with
      | .ok p => readPlace verb p rest
      | .error r => .error r
    | _, some o =>
      match p.settings.give o arg with
      | .ok s => readPlace verb { settings := s, waiting := none } rest
      | .error r => .error r
    | _, none =>
      match verb with
      | some _ => .error (.unexpectedArgument arg)
      | none =>
        match Verb.ofName? arg with
        | some v => .ok (p.settings, v, rest)
        | none => .error (if arg = "help" then askHelp rest else .unexpectedArgument arg)

/-- Reads the arguments. Without the name of a command the interactive one is run. -/
def readArguments (args : List String) : Except Refusal Request := do
  let start : Progress := { settings := .none, waiting := none }
  let (outer, verb, rest) ← readPlace none start args
  if rest.isEmpty then return { settings := outer, verb }
  let (inner, _, _) ← readPlace (some verb) start rest
  return { settings := inner.orElse outer, verb }

end WordSieve.CommandLine
