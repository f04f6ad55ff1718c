import WordSieve.Criterion.Spec

/-!
# Commands of the prompt

A command is a line of words. Criteria are numbered from 1 in it, and words past those a command
takes are ignored.
-/

set_option autoImplicit false

namespace WordSieve

open Text

/-- A command of the prompt. Places count from 0. -/
inductive Command where
  | add
  | remove (index : Nat)
  | edit (index : Nat) (e : Edit)
  | more
  | overview
  | help
  | quit
  deriving DecidableEq, Repr

/-- Why a line is not a command. -/
inductive CommandError where
  | unknownCommand (name : String)
  | missingNumber
  | notANumber (text : String)
  | numberZero
  | missingField
  | badEdit (error : CriterionError)
  deriving DecidableEq, Repr

/-- The error in words. -/
def CommandError.message : CommandError → String
  | .unknownCommand name => s!"Unknown command '{name}' (try 'help')"
  | .missingNumber => "missing criterion number"
  | .notANumber text => s!"'{text}' is not a criterion number"
  | .numberZero => "criteria are numbered from 1"
  | .missingField => "usage: set <n> <field> [value]"
  | .badEdit error => error.message

namespace Command

/-- Reads the number of a criterion as a place, which counts from 0. -/
def readIndex : Option (List Char) → Except CommandError Nat
  | none => .error .missingNumber
  | some arg =>
    match numeral? arg with
    | none => .error (.notANumber (String.ofList arg))
    | some 0 => .error .numberZero
    | some (n + 1) => .ok n

/-- Reads the words after `set`. Without a value the criterion's letters are cleared. -/
def readEdit (args : List (List Char)) : Except CommandError Command := do
  let index ← readIndex args[0]?
  match args[1]? with
  | none => .error .missingField
  | some field =>
    match Edit.read field (args[2]?.getD []) with
    | .ok e => .ok (.edit index e)
    | .error e => .error (.badEdit e)

/-- Reads the words of a line. A line without words asks for the overview. -/
def ofWords : List (List Char) → Except CommandError Command
  | [] => .ok .overview
  | name :: args =>
    let folded := lowercase name
    if folded ∈ ["add".toList, "a".toList] then .ok .add
    else if folded ∈ ["rm".toList, "remove".toList, "del".toList] then
      .remove <$> readIndex args[0]?
    else if folded ∈ ["set".toList, "s".toList] then readEdit args
    else if folded ∈ ["more".toList, "m".toList] then .ok .more
    else if folded ∈ ["show".toList, "ls".toList] then .ok .overview
    else if folded ∈ ["help".toList, "h".toList, "?".toList] then .ok .help
    else if folded ∈ ["quit".toList, "q".toList, "exit".toList] then .ok .quit
    else .error (.unknownCommand (String.ofList folded))

/-- Reads a line. -/
def read (line : List Char) : Except CommandError Command :=
  ofWords (fields line)

end Command

end WordSieve
