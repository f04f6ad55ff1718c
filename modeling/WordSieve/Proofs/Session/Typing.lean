import WordSieve.Proofs.Session.Coherence
import WordSieve.Proofs.Session.Recomputes

/-!
# Typing into a session

Someone who types changes the criteria one by one, and the host ticks whenever it likes. What comes
of it does not depend on the ticks: the criteria are those that the changes alone would have made,
and the sieve is at every moment what the corpus gives with the condition of the moment, as if
nothing had been sieved before. A flush at the end brings that condition up to the criteria, so then
the whole display follows from the list of changes.

The window needs no word of its own. Typing turns no pages, so it is the first page each time.
-/

set_option autoImplicit false

namespace WordSieve

namespace Session

/-- The change of the criteria that the event asks for. -/
def Event.change? : Event → Option Criteria.Change
  | .add _ => some .add
  | .remove _ index => some (.remove index)
  | .edit _ index e => some (.edit index e)
  | .setCriteria _ | .awaitCorpus | .receiveCorpus _ | .more | .tick _ | .flush => none

/-- Whether the event is a change of one criterion or a tick. -/
def Event.isTyping : Event → Bool
  | .add _ | .remove _ _ | .edit _ _ _ | .tick _ => true
  | .setCriteria _ | .awaitCorpus | .receiveCorpus _ | .more | .flush => false

variable {s : Session} {events : List Event}

/-! ## The criteria -/

theorem applyTo_of_isTyping {x : Event} (h : x.isTyping = true) (criteria : Criteria) :
    x.applyTo criteria = criteria.changes x.change?.toList := by
  cases x with
  | add now | remove now index | edit now index e | tick now => rfl
  | setCriteria items | awaitCorpus | receiveCorpus outcome | more | flush =>
    exact absurd h Bool.false_ne_true

/-- Ticks leave no trace in the criteria. -/
theorem criteria_run_typing (h : ∀ x ∈ events, x.isTyping = true) :
    (s.run events).criteria = s.criteria.changes (events.filterMap (·.change?)) := by
  rw [criteria_run]
  generalize s.criteria = criteria
  induction events generalizing criteria with
  | nil => rfl
  | cons x rest ih =>
    have hrest := ih (fun y hy => h y (List.mem_cons_of_mem x hy)) (x.applyTo criteria)
    rw [List.foldl_cons, hrest, applyTo_of_isTyping (h x List.mem_cons_self), Criteria.changes,
      Criteria.changes, Criteria.changes, ← List.foldl_append]
    congr 1
    cases hx : x.change? with
    | none => rw [List.filterMap_cons_none hx]; rfl
    | some ch => rw [List.filterMap_cons_some hx]; rfl

/-! ## The sieve -/

/-- The session shows what its condition lets through of the sieve `base`, and nothing older. -/
structure ShowsOnly (base : Sieve) (s : Session) : Prop where
  within : s.condition.Within
  sieve_eq : s.sieve = (base.sift s.condition).1

variable {base : Sieve}

theorem ShowsOnly.recompute (h : ShowsOnly base s) : ShowsOnly base s.recompute := by
  have hwithin := Condition.within_ofCriteria s.criteria.items
  refine ⟨hwithin, ?_⟩
  show (s.sieve.sift (.ofCriteria s.criteria.items)).1 = _
  rw [h.sieve_eq]
  exact Sieve.sift_sift base h.within hwithin

theorem ShowsOnly.after (h : ShowsOnly base s) {x : Event} (hx : x.isTyping = true) :
    ShowsOnly base (s.after x) := by
  -- A change that is put in place touches neither condition nor sieve.
  have haccept (now : Micros) (criteria : Criteria) : ShowsOnly base (s.accept now criteria) :=
    ⟨h.within, h.sieve_eq⟩
  cases x with
  | add now => exact haccept now _
  | remove now index =>
    by_cases hlt : index < s.criteria.size
    · rw [Session.after, remove_of_lt hlt]
      exact haccept now _
    · rw [Session.after, remove_of_not_lt hlt]
      exact h
  | edit now index e =>
    by_cases hlt : index < s.criteria.size
    · rw [Session.after, edit_of_lt hlt]
      exact haccept now _
    · rw [Session.after, edit_of_not_lt hlt]
      exact h
  | tick now =>
    cases hdue : s.timer.isDue now with
    | true =>
      rw [Session.after, tick_of_due hdue]
      exact ShowsOnly.recompute (s := { s with timer := s.timer.cancel }) ⟨h.within, h.sieve_eq⟩
    | false =>
      rw [Session.after, tick_of_not_due hdue]
      exact h
  | setCriteria items | awaitCorpus | receiveCorpus outcome | more | flush =>
    exact absurd hx Bool.false_ne_true

theorem ShowsOnly.run (h : ShowsOnly base s) (hevents : ∀ x ∈ events, x.isTyping = true) :
    ShowsOnly base (s.run events) := by
  induction events generalizing s with
  | nil => exact h
  | cons x rest ih =>
    exact ih (h.after (hevents x List.mem_cons_self))
      fun y hy => hevents y (List.mem_cons_of_mem x hy)

theorem ShowsOnly.flush (h : ShowsOnly base s) : ShowsOnly base s.flush.2 := by
  cases hpending : s.isPending with
  | true =>
    rw [flush_of_pending hpending]
    exact ShowsOnly.recompute (s := { s with timer := s.timer.cancel }) ⟨h.within, h.sieve_eq⟩
  | false =>
    rw [flush_of_idle hpending]
    exact h

theorem showsOnly_ofCorpus (corpus : List Word) (config : SessionConfig) :
    ShowsOnly (ofCorpus corpus config).sieve (ofCorpus corpus config) := by
  have hagain := Sieve.sift_sift { (start config).sieve with corpus := corpus.toArray }
    Condition.Within.always Condition.Within.always
  exact ⟨.always, hagain.symm⟩

/-! ## What is seen -/

/-- A flush leaves the condition of the criteria in place, whatever was pending before. -/
theorem Fresh.condition_flush (hs : s.Fresh) (events : List Event) :
    (s.run events).flush.2.condition = .ofCriteria (s.run events).criteria.items := by
  obtain ⟨hidle, hcriteria, -⟩ := flush_spec (s.run events)
  have hflushed := ((hs.coherent_run events).after .flush).idle hidle
  rw [← hcriteria]
  exact hflushed

/-- Two sessions show the same: criteria, condition, results and display. -/
structure ShowsSame (s t : Session) : Prop where
  criteria_eq : s.criteria.items = t.criteria.items
  condition_eq : s.condition = t.condition
  /-- The corpus, the places of the words that pass, the size of the display and of a page. -/
  sieve_eq : s.sieve = t.sieve

/-- **Typing and flushing shows what handing in the list shows**, wherever the ticks fell. -/
theorem showsSame_run_typing (corpus : List Word) (config : SessionConfig) (delay : Micros)
    (h : ∀ x ∈ events, x.isTyping = true) :
    ShowsSame ((ofCorpus corpus { config with delay }).run events).flush.2
      ((ofCorpus corpus config).setCriteria
        (Criteria.initial.changes (events.filterMap (·.change?))).items) := by
  have hfresh : (ofCorpus corpus { config with delay }).Fresh := .ofCorpus corpus _
  have hcriteria : ((ofCorpus corpus { config with delay }).run events).criteria =
      Criteria.initial.changes (events.filterMap (·.change?)) :=
    criteria_run_typing h
  have hcondition := hfresh.condition_flush events
  have hshows := ((showsOnly_ofCorpus corpus { config with delay }).run h).flush
  obtain ⟨-, hflushed, -⟩ := flush_spec ((ofCorpus corpus { config with delay }).run events)
  rw [hcriteria] at hcondition hflushed
  have hitems := congrArg Criteria.items hflushed
  refine ⟨hitems, hcondition, hshows.sieve_eq.trans ?_⟩
  rw [hcondition]
  rfl

end Session

end WordSieve
