import WordSieve.Prompt.Command
import WordSieve.Session

/-!
# Running commands

A command changes the session and is followed by a tick, so with no delay its results are there at
once. Quitting is not followed by one.
-/

set_option autoImplicit false

namespace WordSieve

/-- The two moments of a command: when it changes the session, and when the tick after it runs. -/
structure Moment where
  change : Micros
  tick : Micros
  deriving DecidableEq, Repr

/-- What a command has to say about itself. -/
inductive Notice where
  /-- There is no criterion at the place, counted from 0. -/
  | noCriterion (index : Nat)
  /-- The list of commands. -/
  | help
  deriving DecidableEq, Repr

/-- What came of a command. -/
structure Outcome where
  session : Session
  notice : Option Notice
  quit : Bool
  /-- Whether the tick recomputed the results. -/
  recomputed : Bool

namespace Command

/-- The session after the command's own change, and what it has to say. -/
def change (s : Session) (now : Micros) : Command → Session × Option Notice
  | .add => (s.add now, none)
  | .remove index =>
    match s.remove now index with
    | (true, s) => (s, none)
    | (false, s) => (s, some (.noCriterion index))
  | .edit index e =>
    match s.edit now index e with
    | (true, s) => (s, none)
    | (false, s) => (s, some (.noCriterion index))
  | .more => (s.more, none)
  | .overview => (s, none)
  | .help => (s, some .help)
  | .quit => (s, none)

/-- Runs the command and the tick after it. -/
def run (s : Session) (m : Moment) (c : Command) : Outcome :=
  let (changed, notice) := c.change s m.change
  if c = .quit then { session := changed, notice, quit := true, recomputed := false }
  else
    let (recomputed, ticked) := changed.tick m.tick
    { session := ticked, notice, quit := false, recomputed }

end Command

end WordSieve
