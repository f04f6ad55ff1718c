import WordSieve.Criteria
import WordSieve.Timer
import WordSieve.Condition.OfCriteria
import WordSieve.Sieve

/-!
# Filtering sessions

A session joins the list of criteria, their condition, the sieve and the timer. A change of the
criteria only asks the timer for a recompute; `Session.tick` runs it once it is due. The corpus may
arrive at any time, and is then sieved with the condition of the last recompute, so the results
always belong to `Session.condition` and the corpus in place.

Conditions of criteria name only places inside a word, so sieving never faults here and the
session has no error to report.
-/

set_option autoImplicit false

namespace WordSieve

/-- What a session is set up with. -/
structure SessionConfig where
  /-- How many results a page shows. -/
  pageSize : Nat
  /-- How long after the last change the recompute is due. -/
  delay : Micros
  deriving DecidableEq, Repr

/-- A hundred results a page, and a recompute at the next tick. -/
def SessionConfig.standard : SessionConfig :=
  { pageSize := Sieve.standardPageSize, delay := 0 }

/-- How the load of the corpus stands. -/
inductive LoadStatus where
  | loading
  | loaded (count : Nat)
  | failed (reason : String)
  deriving DecidableEq, Repr

/-- The status in words. -/
def LoadStatus.message : LoadStatus → String
  | .loading => "loading word list..."
  | .loaded count => s!"{count} words loaded"
  | .failed reason => s!"word list unavailable: {reason}"

/-- A filtering session. -/
structure Session where
  criteria : Criteria
  sieve : Sieve
  /-- The condition of the last recompute. -/
  condition : Condition
  timer : Timer
  status : LoadStatus
  /-- How many recomputes there were, counted without a bound like `Criteria.revision`. -/
  recomputes : Nat
  deriving Repr

namespace Session

/-- A session whose corpus is still to come. -/
def start (config : SessionConfig) : Session :=
  { criteria := .initial, sieve := .ofCorpus [] config.pageSize, condition := .always,
    timer := .idle config.delay, status := .loading, recomputes := 0 }

/-- Takes the outcome of a load. A failed load leaves the corpus as it was. -/
def receiveCorpus (s : Session) : Except String (List Word) → Session
  | .ok words =>
    { s with status := .loaded words.length, sieve := (s.sieve.setCorpus words s.condition).1 }
  | .error reason => { s with status := .failed reason }

/-- A session over a corpus that is there from the start. -/
def ofCorpus (corpus : List Word) (config : SessionConfig) : Session :=
  (start config).receiveCorpus (.ok corpus)

/-- Says that a load was started. -/
def awaitCorpus (s : Session) : Session :=
  { s with status := .loading }

/-- Sieves the corpus with the condition of the criteria as they are now. -/
def recompute (s : Session) : Session :=
  let condition := Condition.ofCriteria s.criteria.items
  { s with
    condition, sieve := (s.sieve.sift condition).1, recomputes := s.recomputes + 1 }

/-- Replaces the whole list of criteria and recomputes at once. -/
def setCriteria (s : Session) (items : List Criterion) : Session :=
  { s with criteria := .ofList items, timer := s.timer.cancel : Session }.recompute

/-- Puts a changed list of criteria in place and asks for a recompute. -/
def accept (s : Session) (now : Micros) (criteria : Criteria) : Session :=
  { s with criteria, timer := s.timer.schedule now }

/-- Adds a criterion that asks nothing. -/
def add (s : Session) (now : Micros) : Session :=
  s.accept now s.criteria.add

/-- Removes the criterion at the place and tells whether there was one. -/
def remove (s : Session) (now : Micros) (index : Nat) : Bool × Session :=
  match s.criteria.remove? index with
  | some criteria => (true, s.accept now criteria)
  | none => (false, s)

/-- Edits the criterion at the place and tells whether there was one. -/
def edit (s : Session) (now : Micros) (index : Nat) (e : Edit) : Bool × Session :=
  match s.criteria.edit? index e with
  | some criteria => (true, s.accept now criteria)
  | none => (false, s)

/-- Puts one more page of results on display. -/
def more (s : Session) : Session :=
  { s with sieve := s.sieve.more }

/-- Runs the pending recompute if it is due and tells whether it ran. -/
def tick (s : Session) (now : Micros) : Bool × Session :=
  let (due, timer) := s.timer.fire now
  if due then (true, { s with timer : Session }.recompute) else (false, s)

/-- Runs the pending recompute, due or not, and tells whether there was one. -/
def flush (s : Session) : Bool × Session :=
  if s.timer.isPending then (true, { s with timer := s.timer.cancel : Session }.recompute)
  else (false, s)

/-- Whether a recompute is pending. -/
def isPending (s : Session) : Bool :=
  s.timer.isPending

/-- The time left until the pending recompute is due. -/
def timeLeft? (s : Session) (now : Micros) : Option Micros :=
  s.timer.remaining? now

/-! ## Histories -/

/-- Something that happens to a session. -/
inductive Event where
  | setCriteria (items : List Criterion)
  | awaitCorpus
  | receiveCorpus (outcome : Except String (List Word))
  | add (now : Micros)
  | remove (now : Micros) (index : Nat)
  | edit (now : Micros) (index : Nat) (e : Edit)
  | more
  | tick (now : Micros)
  | flush

/-- The session after an event. -/
def after (s : Session) : Event → Session
  | .setCriteria items => s.setCriteria items
  | .awaitCorpus => s.awaitCorpus
  | .receiveCorpus outcome => s.receiveCorpus outcome
  | .add now => s.add now
  | .remove now index => (s.remove now index).2
  | .edit now index e => (s.edit now index e).2
  | .more => s.more
  | .tick now => (s.tick now).2
  | .flush => s.flush.2

/-- The session after the events in turn. -/
def run (s : Session) (events : List Event) : Session :=
  events.foldl after s

end Session

end WordSieve
