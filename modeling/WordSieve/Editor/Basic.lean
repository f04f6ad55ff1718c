import WordSieve.Report.Session
import WordSieve.WordList.Source

/-!
# The criteria editor

The editor is a session with a cursor on one part of one criterion. In one mode keys move the
cursor and work on the list, in the other they type letters into the criterion under it. The last
few messages are kept for display.

The editor does not read files. It says that it awaits a word list, and is handed the outcome of
the load with a later tick.
-/

set_option autoImplicit false

namespace WordSieve

/-- The parts of a criterion, in the order they stand on the screen. -/
inductive Field where
  | scope
  | letters
  | kind
  deriving DecidableEq, Repr

/-- The part to the right, and the first one after the last. -/
def Field.next : Field → Field
  | .scope => .letters
  | .letters => .kind
  | .kind => .scope

/-- The part to the left, and the last one before the first. -/
def Field.previous : Field → Field
  | .scope => .kind
  | .letters => .scope
  | .kind => .letters

/-- What keys do. -/
inductive Mode where
  /-- Keys move the cursor and work on the list. -/
  | navigate
  /-- Keys type letters. -/
  | editLetters
  deriving DecidableEq, Repr

/-- How a message is meant. -/
inductive Tone where
  | info
  | success
  | error
  deriving DecidableEq, Repr

/-- A message to the user. -/
structure Message where
  text : String
  tone : Tone
  deriving DecidableEq, Repr

/-- How many messages are kept. -/
def messageLimit : Nat := 5

/-- The message that the editor starts with. -/
def greeting : Message :=
  { text := "Add filters to narrow the word list. Press '?' for keys.", tone := .info }

/-- The criteria editor. -/
structure Editor where
  session : Session
  /-- The place of the criterion under the cursor. -/
  selected : Nat
  field : Field
  mode : Mode
  messages : List Message
  /-- How many rows of results are scrolled past. -/
  scroll : Nat
  quit : Bool
  source : WordSource
  /-- Whether a load was started whose outcome is still to come. -/
  awaiting : Bool
  deriving Repr

namespace Editor

/-- An editor of a session whose corpus is settled. -/
def ofSession (session : Session) : Editor :=
  { session, selected := 0, field := .letters, mode := .navigate, messages := [greeting],
    scroll := 0, quit := false, source := .embedded, awaiting := false }

/-- Adds a message, in place of the oldest one if there are too many. -/
def say (e : Editor) (text : String) (tone : Tone) : Editor :=
  let messages := e.messages ++ [{ text := text, tone := tone }]
  { e with messages := if messageLimit < messages.length then messages.tail else messages }

/-- Starts a load. -/
def startLoad (e : Editor) : Editor :=
  { e with session := e.session.awaitCorpus, awaiting := true }

/-- An editor that starts by loading its words. -/
def start (session : Session) (source : WordSource) : Editor :=
  { ofSession session with source : Editor }.startLoad

/-- Starts the load again if it failed. -/
def retry (e : Editor) : Editor :=
  match e.session.status with
  | .failed _ => (e.say s!"Reloading {e.source.name}..." .info).startLoad
  | _ => e

/-- What is said about the outcome of a load. -/
def loadMessage : LoadStatus → Option Message
  | .loaded count => some { text := s!"Loaded {count} words", tone := .success }
  | .failed reason =>
    some { text := s!"Word list unavailable: {reason}. Press 'r' to retry.", tone := .error }
  | .loading => none

/-- Takes the outcome of the load, if one is awaited. -/
def receive (e : Editor) (outcome : Except LoadError (List Word)) : Editor :=
  if e.awaiting then
    let session := e.session.receiveCorpus (outcome.mapError LoadError.message)
    let e := { e with session, awaiting := false }
    match loadMessage session.status with
    | some m => e.say m.text m.tone
    | none => e
  else e

/-- Runs the recompute if it is due. New results are shown from their first row. -/
def recompute (e : Editor) (now : Micros) : Editor :=
  match e.session.tick now with
  | (true, session) => { e with session, scroll := 0 }
  | (false, session) => { e with session }

/-- A tick: takes the outcome of the load, if it is there, and then runs the recompute if it is
due. -/
def tick (e : Editor) (now : Micros) (outcome : Option (Except LoadError (List Word))) : Editor :=
  let e := match outcome with
    | some o => e.receive o
    | none => e
  e.recompute now

/-- How long to wait at most while a load is awaited. -/
def loadingWait : Micros := 50000

/-- How long to wait at most while nothing is. -/
def idleWait : Micros := 250000

/-- How long the next tick may be put off. -/
def wait (e : Editor) (now : Micros) : Micros :=
  match e.session.timeLeft? now with
  | some left => left
  | none => if e.awaiting then loadingWait else idleWait

/-- The criterion under the cursor. -/
def current? (e : Editor) : Option Criterion :=
  e.session.criteria.items[e.selected]?

end Editor

end WordSieve
