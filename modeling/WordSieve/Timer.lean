/-!
# Putting off a run

A timer holds at most one run, which is due a fixed delay after it was last asked for. A burst of
requests so becomes one run. Moments are counted in microseconds from a start of the caller's
choice, and need not increase from call to call.
-/

set_option autoImplicit false

namespace WordSieve

/-- A moment or a span of time, in microseconds. The unit does not matter to timers and
sessions: all they do is add, subtract and compare, which comes to the same in nanoseconds. -/
abbrev Micros := Nat

/-- A delay, and the moment the pending run is due if one is. -/
structure Timer where
  delay : Micros
  due : Option Micros
  deriving DecidableEq, Repr

namespace Timer

/-- A timer with nothing pending. -/
def idle (delay : Micros) : Timer :=
  { delay, due := none }

/-- Asks for a run, in place of any that is pending. -/
def schedule (t : Timer) (now : Micros) : Timer :=
  { t with due := some (now + t.delay) }

/-- Drops the pending run. -/
def cancel (t : Timer) : Timer :=
  { t with due := none }

/-- Whether a run is pending. -/
def isPending (t : Timer) : Bool :=
  t.due.isSome

/-- The time left until the pending run is due. -/
def remaining? (t : Timer) (now : Micros) : Option Micros :=
  t.due.map (· - now)

/-- Whether a pending run is due. -/
def isDue (t : Timer) (now : Micros) : Bool :=
  match t.due with
  | some due => due ≤ now
  | none => false

/-- Takes the pending run out if it is due, and tells whether it was. -/
def fire (t : Timer) (now : Micros) : Bool × Timer :=
  if t.isDue now then (true, t.cancel) else (false, t)

/-! ## Histories -/

/-- A call of a timer. -/
inductive Call where
  | schedule (now : Micros)
  | cancel
  | fire (now : Micros)
  deriving DecidableEq, Repr

/-- The timer after a call. -/
def call (t : Timer) : Call → Timer
  | .schedule now => t.schedule now
  | .cancel => t.cancel
  | .fire now => (t.fire now).2

/-- The timer after the calls in turn. -/
def calls (t : Timer) (cs : List Call) : Timer :=
  cs.foldl call t

end Timer

end WordSieve
