import WordSieve.WordList.Json.Token
import WordSieve.Word

/-!
# Word lists in JSON

A word list is an object whose member `data` is a list of strings. Other members are skipped,
whatever they hold. A list that holds nothing but that list of strings is taken for it as well.

The document is read token by token by an automaton, so that the first fault from the left is the
one that is told, and no depth of nesting is too deep: skipping a value only keeps the list of
what is still open.
-/

set_option autoImplicit false

namespace WordSieve.Json

/-- The entries of a word list. -/
abbrev Entries := List (List Char)

/-- A list or an object that is open. -/
inductive Open where
  | list
  | object
  deriving DecidableEq, Repr

/-- What comes next in a value that is skipped. -/
inductive Want where
  /-- A value. -/
  | value
  /-- A value, or the end of a list that was just opened. -/
  | valueOrEnd
  /-- A key. -/
  | key
  /-- A key, or the end of an object that was just opened. -/
  | keyOrEnd
  /-- The colon behind a key. -/
  | colon
  /-- A comma, or the end of what is open. -/
  | next
  deriving DecidableEq, Repr

/-- Where in the document the automaton is. `found` are the entries of the member `data`, if it has
been read; `read` are the entries read so far, last one first; `inner` is the kind of the value that
the list of entries stands in. -/
inductive State where
  | start
  /-- The object was just opened. -/
  | keyOrEnd
  /-- A comma of the object was read. -/
  | key (found : Option Entries)
  /-- A key was read. -/
  | colon (found : Option Entries) (isData : Bool)
  /-- The key `data` and its colon were read. -/
  | data
  /-- A member of the object was read. -/
  | next (found : Option Entries)
  /-- Within a value that is skipped. -/
  | skip (found : Option Entries) (stack : List Open) (want : Want)
  /-- The list of entries was just opened. -/
  | entryOrEnd (inner : Open)
  /-- A comma of the list of entries was read. -/
  | entry (inner : Open) (read : Entries)
  /-- An entry was read. -/
  | entryNext (inner : Open) (read : Entries)
  /-- The list around the list of entries was just opened. -/
  | wrapped
  /-- The list of entries was read, and the list around it is open. -/
  | wrappedNext (found : Entries)
  /-- A comma followed, though the list around the entries may hold nothing else. What stands behind
  the comma only decides how that is told. -/
  | wrappedComma
  /-- The document was read. -/
  | done (found : Entries)
  deriving DecidableEq, Repr

/-- What is wrong with a token where a value of another type was wanted. Its own faults come
first. -/
def Token.typeFault (wanted : String) : Token → Cause
  | .string parts fault =>
    match stringText fault parts with
    | .error cause => cause
    | .ok _ => .wrongType wanted
  | .number .cutOff => .endInValue
  | .number .malformed => .badNumber
  | .number (.whole false) => .numberOutOfRange
  | .number (.whole true) => .wrongType wanted
  | .word (some cause) => cause
  | .word none => .wrongType wanted
  | .openBrace => .wrongType wanted
  | .openBracket => .wrongType wanted
  | .closeBrace | .closeBracket | .comma | .colon | .stray => .badValue

/-- The state behind a list of entries. -/
def State.afterEntries (found : Entries) : Open → State
  | .object => .next (some found)
  | .list => .wrappedNext found

/-- The state behind the object. -/
def State.afterObject : Option Entries → Except Cause State
  | some found => .ok (.done found)
  | none => .error .missingData

/-- The state behind a skipped value, given what is open around it. -/
def State.afterSkipped (found : Option Entries) : List Open → State
  | [] => .next found
  | stack => .skip found stack .next

/-- Reads a key of the object. -/
def readKey (found : Option Entries) (parts : List StringPart) (fault : Option Cause) :
    Except Cause State := do
  let key ← stringText fault parts
  let isData := key == "data".toList
  if isData && found.isSome then .error .repeatedData else .ok (.colon found isData)

/-- Reads an entry of the list. -/
def readEntry (inner : Open) (read : Entries) : Token → Except Cause State
  | .string parts fault => do
    return .entryNext inner ((← stringText fault parts) :: read)
  | t => .error (t.typeFault "a string")

/-- Skips a value, or opens it. Strings and numbers only have to be well formed. -/
def skipValue (found : Option Entries) (stack : List Open) : Token → Except Cause State
  | .openBracket => .ok (.skip found (.list :: stack) .valueOrEnd)
  | .openBrace => .ok (.skip found (.object :: stack) .keyOrEnd)
  | .string _ none => .ok (.afterSkipped found stack)
  | .string _ (some cause) => .error cause
  | .number (.whole _) => .ok (.afterSkipped found stack)
  | .number _ => .error .badNumber
  | .word none => .ok (.afterSkipped found stack)
  | .word (some cause) => .error cause
  | .closeBrace | .closeBracket | .comma | .colon | .stray => .error .badValue

/-- Skips a key. -/
def skipKey (found : Option Entries) (stack : List Open) : Token → Except Cause State
  | .string _ none => .ok (.skip found stack .colon)
  | .string _ (some cause) => .error cause
  | _ => .error .keyNotString

/-- Reads a token within a value that is skipped. -/
def skipToken (found : Option Entries) (stack : List Open) (want : Want) (t : Token) :
    Except Cause State :=
  match want with
  | .value => skipValue found stack t
  | .valueOrEnd =>
    if t = .closeBracket then .ok (.afterSkipped found stack.tail) else skipValue found stack t
  | .key => skipKey found stack t
  | .keyOrEnd =>
    if t = .closeBrace then .ok (.afterSkipped found stack.tail) else skipKey found stack t
  | .colon => if t = .colon then .ok (.skip found stack .value) else .error .missingColon
  | .next =>
    match stack with
    | .object :: outer =>
      if t = .closeBrace then .ok (.afterSkipped found outer)
      else if t = .comma then .ok (.skip found stack .key)
      else .error .missingObjectComma
    | _ =>
      if t = .closeBracket then .ok (.afterSkipped found stack.tail)
      else if t = .comma then .ok (.skip found stack .value)
      else .error .missingListComma

/-- Reads a token. -/
def State.step (s : State) (t : Token) : Except Cause State :=
  match s with
  | .start =>
    match t with
    | .openBrace => .ok .keyOrEnd
    | .openBracket => .ok .wrapped
    | t => .error (t.typeFault "a word list")
  | .keyOrEnd =>
    match t with
    | .closeBrace => afterObject none
    | .string parts fault => readKey none parts fault
    | _ => .error .keyNotString
  | .key found =>
    match t with
    | .string parts fault => readKey found parts fault
    | .closeBrace => .error .trailingComma
    | _ => .error .keyNotString
  | .colon found isData =>
    match t with
    | .colon => .ok (if isData then .data else .skip found [] .value)
    | _ => .error .missingColon
  | .data =>
    match t with
    | .openBracket => .ok (.entryOrEnd .object)
    | t => .error (t.typeFault "a sequence")
  | .next found =>
    match t with
    | .closeBrace => afterObject found
    | .comma => .ok (.key found)
    | _ => .error .missingObjectComma
  | .skip found stack want => skipToken found stack want t
  | .entryOrEnd inner =>
    match t with
    | .closeBracket => .ok (.afterEntries [] inner)
    | t => readEntry inner [] t
  | .entry inner read =>
    match t with
    | .closeBracket => .error .trailingComma
    | t => readEntry inner read t
  | .entryNext inner read =>
    match t with
    | .closeBracket => .ok (.afterEntries read.reverse inner)
    | .comma => .ok (.entry inner read)
    | _ => .error .missingListComma
  | .wrapped =>
    match t with
    | .closeBracket => .error .noEntries
    | .openBracket => .ok (.entryOrEnd .list)
    | t => .error (t.typeFault "a sequence")
  | .wrappedNext found =>
    match t with
    | .closeBracket => .ok (.done found)
    | .comma => .ok .wrappedComma
    | _ => .error .trailingText
  | .wrappedComma =>
    match t with
    | .closeBracket => .error .trailingComma
    | _ => .error .trailingText
  | .done _ => .error .trailingText

/-- What the end of the text means for a value that is skipped. -/
def skipEnd (stack : List Open) : Want → Cause
  | .value => .endInValue
  | .valueOrEnd => .endInList
  | .key | .keyOrEnd | .colon => .endInObject
  | .next =>
    match stack with
    | .object :: _ => .endInObject
    | _ => .endInList

/-- What the end of the text means. -/
def State.finish : State → Except Cause Entries
  | .start | .key _ | .data | .entry _ _ => .error .endInValue
  | .keyOrEnd | .colon _ _ | .next _ => .error .endInObject
  | .skip _ stack want => .error (skipEnd stack want)
  | .entryOrEnd _ | .entryNext _ _ | .wrapped | .wrappedNext _ => .error .endInList
  | .wrappedComma => .error .trailingText
  | .done found => .ok found

/-- Reads tokens on from a state. -/
def State.run (s : State) : List Lexeme → Except Fault Entries
  | [] => s.finish.mapError fun cause => { cause, unread := [] }
  | l :: rest =>
    match s.step l.token with
    | .ok s => s.run rest
    | .error cause => .error { cause, unread := l.rest }

/-- The entries of a word list in JSON. -/
def readEntries (content : List Char) : Except Fault Entries :=
  State.run .start (lex content)

end WordSieve.Json

namespace WordSieve

/-- The words of a word list in JSON. -/
def readJson (content : List Char) : Except Json.Error (List Word) :=
  match Json.readEntries content with
  | .ok entries => .ok (wordsOf entries)
  | .error fault => .error (fault.locate content)

end WordSieve
