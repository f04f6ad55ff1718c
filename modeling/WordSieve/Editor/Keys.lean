import WordSieve.Editor.Basic

/-!
# Keys of the editor

Control and `c` quits in either mode. All other keys are first looked up by the mode. While letters
are typed a key that comes with control or alt is no letter.
-/

set_option autoImplicit false

namespace WordSieve

/-- A key. -/
inductive Key where
  | char (c : Char)
  | enter
  | escape
  | tab
  | backTab
  | backspace
  | delete
  | up
  | down
  | left
  | right
  | pageUp
  | pageDown
  /-- Any other key. -/
  | other
  deriving DecidableEq, Repr

/-- The keys that are held down with another one. -/
structure Held where
  control : Bool
  alt : Bool
  shift : Bool
  deriving DecidableEq, Repr

namespace Editor

/-- How many rows a page key scrolls. -/
def scrollStep : Nat := 5

/-- As far as results scroll. -/
def scrollLimit : Nat := UInt16.size - 1

/-- The keys in words. -/
def keysText : String :=
  "↑↓ select | ←→ field | Enter edit/cycle | a add | d remove | m more | q quit"

/-- Edits the criterion under the cursor. -/
def editCurrent (e : Editor) (now : Micros) (edit : Edit) : Editor :=
  { e with session := (e.session.edit now e.selected edit).2 }

/-- Works on the part under the cursor: letters are typed, and the other parts go on to their next
value. -/
def activate (e : Editor) (now : Micros) : Editor :=
  match e.current? with
  | none => e
  | some c =>
    match e.field with
    | .letters => { e with mode := .editLetters }
    | .scope => e.editCurrent now (.scope c.scope.next)
    | .kind => e.editCurrent now (.kind (c.kind.nextAt c.scope))

/-- Adds a criterion and goes to its letters. -/
def addCriterion (e : Editor) (now : Micros) : Editor :=
  let session := e.session.add now
  { e with session, selected := session.criteria.size - 1, field := .letters }

/-- Removes the criterion under the cursor. -/
def removeCurrent (e : Editor) (now : Micros) : Editor :=
  match e.session.remove now e.selected with
  | (true, session) => { e with session, selected := min e.selected (session.criteria.size - 1) }
  | (false, session) => { e with session }

/-- Puts one more page of results on display and says how many there are. -/
def morePage (e : Editor) : Editor :=
  let session := e.session.more
  { e with session }.say s!"Showing {session.sieve.window} of {session.sieve.count}" .info

/-- A key while the cursor moves. -/
def pressNavigate (e : Editor) (now : Micros) : Key → Editor
  | .char 'q' => { e with quit := true }
  | .up | .char 'k' => { e with selected := e.selected - 1 }
  | .down | .char 'j' =>
    if e.selected + 1 < e.session.criteria.size then { e with selected := e.selected + 1 } else e
  | .left | .char 'h' | .backTab => { e with field := e.field.previous }
  | .right | .char 'l' | .tab => { e with field := e.field.next }
  | .enter | .char ' ' => e.activate now
  | .char 'a' | .char '+' => e.addCriterion now
  | .char 'd' | .char '-' | .delete => e.removeCurrent now
  | .char 'm' => e.morePage
  | .pageDown => { e with scroll := min (e.scroll + scrollStep) scrollLimit }
  | .pageUp => { e with scroll := e.scroll - scrollStep }
  | .char 'r' => e.retry
  | .char '?' => e.say keysText .info
  | _ => e

/-- A key while letters are typed into a criterion. -/
def pressEdit (e : Editor) (now : Micros) (c : Criterion) (held : Held) : Key → Editor
  | .escape | .enter | .tab => { e with mode := .navigate }
  | .char x =>
    if x = 'u' ∧ held.control then e.editCurrent now (.letters [])
    else if held.control ∨ held.alt then e
    else e.editCurrent now (.letters (c.letters ++ [x]))
  | .backspace => e.editCurrent now (.letters c.letters.dropLast)
  | _ => e

/-- A key with those held down. -/
def press (e : Editor) (now : Micros) (key : Key) (held : Held) : Editor :=
  if key = .char 'c' ∧ held.control then { e with quit := true }
  else
    match e.mode with
    | .navigate => e.pressNavigate now key
    | .editLetters =>
      match e.current? with
      | some c => e.pressEdit now c held key
      | none => { e with mode := .navigate }

/-! ## Histories -/

/-- Something that happens to an editor. -/
inductive Event where
  | press (now : Micros) (key : Key) (held : Held)
  | tick (now : Micros) (outcome : Option (Except LoadError (List Word)))

/-- The editor after an event. -/
def after (e : Editor) : Event → Editor
  | .press now key held => e.press now key held
  | .tick now outcome => e.tick now outcome

/-- The editor after the events in turn. -/
def run (e : Editor) (events : List Event) : Editor :=
  events.foldl after e

end Editor

end WordSieve
