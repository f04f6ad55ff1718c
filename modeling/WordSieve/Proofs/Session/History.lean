import Mathlib.Data.List.Induction
import WordSieve.Proofs.Criteria.History
import WordSieve.Session

/-!
# Histories of a session

A session is changed by nine kinds of event, but it reads them in three ways only
(`Session.after_cases`): an event runs a recompute, or it is a change of the criteria that is put
in place and asks for one, or it touches neither criteria, condition nor timer. What is said below
about histories is said about these three, and no proof that uses it looks at the events again.

A history is kept as the list of its events, each with what the caller was told and the criteria as
the event left them. The questions asked of it are answered without a session.
-/

set_option autoImplicit false

namespace WordSieve

namespace Session

/-- A session nothing has happened to. -/
inductive Fresh : Session → Prop where
  | start (config : SessionConfig) : Fresh (start config)
  | ofCorpus (corpus : List Word) (config : SessionConfig) : Fresh (ofCorpus corpus config)

/-! ## What is told, and what is kept of it -/

/-- What an event tells its caller. An event that has nothing to tell counts as accepted. -/
def answer (s : Session) : Event → Bool
  | .remove now index => (s.remove now index).1
  | .edit now index e => (s.edit now index e).1
  | .tick now => (s.tick now).1
  | .flush => s.flush.1
  | _ => true

/-- An event of a history and what came of it. -/
structure Entry where
  event : Event
  /-- What the caller was told. -/
  answer : Bool
  /-- The criteria after the event. -/
  criteria : List Criterion

/-- The entry that an event makes in the history. -/
def entry (s : Session) (e : Event) : Entry :=
  { event := e, answer := s.answer e, criteria := (s.after e).criteria.items }

/-- The history that events make, the earliest first. -/
def history (s : Session) : List Event → List Entry
  | [] => []
  | e :: rest => s.entry e :: (s.after e).history rest

/-- Whether the event ran a recompute: criteria that replace all others always do, and a tick or a
flush says so. -/
def Entry.isRecompute (x : Entry) : Bool :=
  match x.event with
  | .setCriteria _ => true
  | .tick _ => x.answer
  | .flush => x.answer
  | _ => false

/-- The moment of the change that the event made to the criteria, if it was accepted. -/
def Entry.changedAt? (x : Entry) : Option Micros :=
  match x.event with
  | .add now => some now
  | .remove now _ => if x.answer then some now else none
  | .edit now _ _ => if x.answer then some now else none
  | _ => none

/-- The moment of the latest accepted change after the last recompute, if there was one. -/
def openChange? (log : List Entry) : Option Micros :=
  (log.reverse.takeWhile (!·.isRecompute)).findSome? (·.changedAt?)

/-- The criteria as they stood at the last recompute, or at the start if there was none. -/
def settled (initial : List Criterion) (log : List Entry) : List Criterion :=
  ((log.reverse.find? (·.isRecompute)).map (·.criteria)).getD initial

/-! ## One event more -/

variable {s : Session}

theorem run_concat (s : Session) (events : List Event) (e : Event) :
    s.run (events ++ [e]) = (s.run events).after e := by
  rw [run, List.foldl_append]
  rfl

theorem run_append (s : Session) (first rest : List Event) :
    s.run (first ++ rest) = (s.run first).run rest :=
  List.foldl_append

theorem history_concat (s : Session) (events : List Event) (e : Event) :
    s.history (events ++ [e]) = s.history events ++ [(s.run events).entry e] := by
  induction events generalizing s with
  | nil => rfl
  | cons e' rest ih => exact congrArg (s.entry e' :: ·) (ih (s.after e'))

/-- What holds of a session and its history at the start, and goes over to the next event whatever
the history was, holds after all events. -/
theorem run_induction {P : List Entry → Session → Prop} (hstart : P [] s)
    (hstep : ∀ (log : List Entry) (t : Session) (e : Event), P log t →
      P (log ++ [t.entry e]) (t.after e)) (events : List Event) :
    P (s.history events) (s.run events) := by
  -- An event is judged by the session it finds, so the induction takes events off the end.
  induction events using List.reverseRecOn with
  | nil => exact hstart
  | append_singleton events e ih =>
    rw [history_concat, run_concat]
    exact hstep _ _ e ih

theorem openChange?_concat (log : List Entry) (x : Entry) :
    openChange? (log ++ [x]) =
      if x.isRecompute then none else x.changedAt?.or (openChange? log) := by
  unfold openChange?
  rw [List.reverse_append, List.reverse_singleton, List.singleton_append, List.takeWhile_cons]
  cases x.isRecompute with
  | true => rfl
  | false => cases h : x.changedAt? <;> simp [h]

theorem settled_concat (initial : List Criterion) (log : List Entry) (x : Entry) :
    settled initial (log ++ [x]) = if x.isRecompute then x.criteria else settled initial log := by
  unfold settled
  rw [List.reverse_append, List.reverse_singleton, List.singleton_append, List.find?_cons]
  cases x.isRecompute <;> rfl

/-! ## The operations that may be refused -/

theorem tick_of_due {now : Micros} (h : s.timer.isDue now = true) :
    s.tick now = (true, ({ s with timer := s.timer.cancel } : Session).recompute) := by
  simp [tick, Timer.fire, h]

theorem tick_of_not_due {now : Micros} (h : s.timer.isDue now = false) :
    s.tick now = (false, s) := by
  simp [tick, Timer.fire, h]

theorem flush_of_pending (h : s.isPending = true) :
    s.flush = (true, ({ s with timer := s.timer.cancel } : Session).recompute) :=
  if_pos h

theorem flush_of_idle (h : s.isPending = false) : s.flush = (false, s) :=
  if_neg (by rw [← isPending, h]; exact Bool.false_ne_true)

theorem remove_of_lt {now : Micros} {index : Nat} (h : index < s.criteria.size) :
    s.remove now index = (true, s.accept now (s.criteria.change (.remove index))) := by
  simp [remove, Criteria.change, Criteria.remove?, h]

theorem remove_of_not_lt {now : Micros} {index : Nat} (h : ¬ index < s.criteria.size) :
    s.remove now index = (false, s) := by
  simp [remove, Criteria.remove?, h]

theorem edit_of_lt {now : Micros} {index : Nat} {e : Edit} (h : index < s.criteria.size) :
    s.edit now index e = (true, s.accept now (s.criteria.change (.edit index e))) := by
  have hget := List.getElem?_eq_getElem h
  simp [edit, Criteria.change, Criteria.edit?, hget]

theorem edit_of_not_lt {now : Micros} {index : Nat} {e : Edit} (h : ¬ index < s.criteria.size) :
    s.edit now index e = (false, s) := by
  have hget := List.getElem?_eq_none (Nat.le_of_not_lt h)
  simp [edit, Criteria.edit?, hget]

/-- A change of one criterion is put in place, or it leaves the whole session as it was. -/
theorem remove_cases (s : Session) (now : Micros) (index : Nat) :
    (s.remove now index).2 = s ∨ ∃ criteria, (s.remove now index).2 = s.accept now criteria := by
  by_cases h : index < s.criteria.size
  · exact .inr ⟨_, congrArg Prod.snd (remove_of_lt h)⟩
  · exact .inl (congrArg Prod.snd (remove_of_not_lt h))

theorem edit_cases (s : Session) (now : Micros) (index : Nat) (e : Edit) :
    (s.edit now index e).2 = s ∨ ∃ criteria, (s.edit now index e).2 = s.accept now criteria := by
  by_cases h : index < s.criteria.size
  · exact .inr ⟨_, congrArg Prod.snd (edit_of_lt h)⟩
  · exact .inl (congrArg Prod.snd (edit_of_not_lt h))

/-! ## Three kinds of event -/

/-- The criteria as an event leaves them. -/
def Event.applyTo (criteria : Criteria) : Event → Criteria
  | .setCriteria items => .ofList items
  | .add _ => criteria.change .add
  | .remove _ index => criteria.change (.remove index)
  | .edit _ index e => criteria.change (.edit index e)
  | .awaitCorpus | .receiveCorpus _ | .more | .tick _ | .flush => criteria

/-- What happens to a session besides its criteria and their recomputes. -/
inductive Supplied (s : Session) : Session → Prop where
  | same : Supplied s s
  | awaitCorpus : Supplied s s.awaitCorpus
  | receiveCorpus (outcome : Except String (List Word)) : Supplied s (s.receiveCorpus outcome)
  | more : Supplied s s.more

/-- None of it touches the criteria, the condition, the timer or the count of recomputes. -/
theorem Supplied.keeps {t : Session} (h : Supplied s t) :
    t.criteria = s.criteria ∧ t.condition = s.condition ∧ t.timer = s.timer ∧
      t.recomputes = s.recomputes := by
  cases h with
  | same => exact ⟨rfl, rfl, rfl, rfl⟩
  | awaitCorpus => exact ⟨rfl, rfl, rfl, rfl⟩
  | receiveCorpus outcome => cases outcome <;> exact ⟨rfl, rfl, rfl, rfl⟩
  | more => exact ⟨rfl, rfl, rfl, rfl⟩

/-- All that an event can do to a session: it runs a recompute of the criteria it leaves, with
nothing pending after it, or it puts changed criteria in place and asks for a recompute, or it
leaves the criteria and what hangs on them alone. -/
theorem after_cases (s : Session) (e : Event) :
    ((s.entry e).isRecompute = true ∧
      s.after e =
        ({ s with criteria := e.applyTo s.criteria, timer := s.timer.cancel } :
          Session).recompute) ∨
    ((s.entry e).isRecompute = false ∧
      ∃ now, (s.entry e).changedAt? = some now ∧
        s.after e = s.accept now (e.applyTo s.criteria)) ∨
    ((s.entry e).isRecompute = false ∧ (s.entry e).changedAt? = none ∧
      e.applyTo s.criteria = s.criteria ∧ Supplied s (s.after e)) := by
  cases e with
  | setCriteria items => exact .inl ⟨rfl, rfl⟩
  | awaitCorpus => exact .inr (.inr ⟨rfl, rfl, rfl, .awaitCorpus⟩)
  | receiveCorpus outcome => exact .inr (.inr ⟨rfl, rfl, rfl, .receiveCorpus outcome⟩)
  | add now => exact .inr (.inl ⟨rfl, now, rfl, rfl⟩)
  -- A refused change belongs to the events that touch nothing.
  | remove now index =>
    by_cases h : index < s.criteria.size
    · refine .inr (.inl ⟨rfl, now, ?_, ?_⟩)
      · simp [entry, answer, Entry.changedAt?, remove_of_lt h]
      · simp [after, Event.applyTo, remove_of_lt h]
    · refine .inr (.inr ⟨rfl, ?_, ?_, ?_⟩)
      · simp [entry, answer, Entry.changedAt?, remove_of_not_lt h]
      · have hfinds : ¬ Criteria.Change.Finds s.criteria.items (.remove index) := h
        exact Criteria.change_of_not_finds hfinds
      · simpa [after, remove_of_not_lt h] using Supplied.same
  | edit now index e =>
    by_cases h : index < s.criteria.size
    · refine .inr (.inl ⟨rfl, now, ?_, ?_⟩)
      · simp [entry, answer, Entry.changedAt?, edit_of_lt h]
      · simp [after, Event.applyTo, edit_of_lt h]
    · refine .inr (.inr ⟨rfl, ?_, ?_, ?_⟩)
      · simp [entry, answer, Entry.changedAt?, edit_of_not_lt h]
      · have hfinds : ¬ Criteria.Change.Finds s.criteria.items (.edit index e) := h
        exact Criteria.change_of_not_finds hfinds
      · simpa [after, edit_of_not_lt h] using Supplied.same
  | more => exact .inr (.inr ⟨rfl, rfl, rfl, .more⟩)
  | tick now =>
    cases h : s.timer.isDue now with
    | true =>
      refine .inl ⟨?_, ?_⟩
      · simp [entry, answer, Entry.isRecompute, tick_of_due h]
      · simp [after, Event.applyTo, tick_of_due h]
    | false =>
      refine .inr (.inr ⟨?_, rfl, rfl, ?_⟩)
      · simp [entry, answer, Entry.isRecompute, tick_of_not_due h]
      · simpa [after, tick_of_not_due h] using Supplied.same
  | flush =>
    cases h : s.isPending with
    | true =>
      refine .inl ⟨?_, ?_⟩
      · simp [entry, answer, Entry.isRecompute, flush_of_pending h]
      · simp [after, Event.applyTo, flush_of_pending h]
    | false =>
      refine .inr (.inr ⟨?_, rfl, rfl, ?_⟩)
      · simp [entry, answer, Entry.isRecompute, flush_of_idle h]
      · simpa [after, flush_of_idle h] using Supplied.same

/-- Whatever an event does, it leaves the criteria that it was meant to. -/
theorem criteria_after (s : Session) (e : Event) : (s.after e).criteria = e.applyTo s.criteria := by
  rcases after_cases s e with ⟨-, heq⟩ | ⟨-, now, -, heq⟩ | ⟨-, -, happly, hsupplied⟩
  · rw [heq]
    rfl
  · rw [heq]
    rfl
  · rw [hsupplied.keeps.1, happly]

end Session

end WordSieve
