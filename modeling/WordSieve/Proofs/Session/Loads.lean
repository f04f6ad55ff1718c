import WordSieve.Proofs.Session.Coherence

/-!
# What loads leave behind

Two things tell of loads, the status and the corpus, and they have different memories. The status is
that of the last event that concerned a load, whatever came of it. The corpus is that of the last load
that brought words. A load that fails brings none and takes none away, so the words of an older load
stay in place and on display, under a status that says there are none. Only where no load had brought
a word before is the corpus of a failed load empty, and the results with it.
-/

set_option autoImplicit false

namespace WordSieve

namespace Session

variable {s : Session}

/-! ## What leaves the load alone -/

/-- The status and the corpus of one session are those of another. -/
def SameLoad (s t : Session) : Prop :=
  t.status = s.status ∧ t.sieve.corpus = s.sieve.corpus

theorem sameLoad_of_change {s t : Session} {now : Micros}
    (h : t = s ∨ ∃ criteria, t = s.accept now criteria) : SameLoad s t := by
  rcases h with rfl | ⟨criteria, rfl⟩
  · exact ⟨rfl, rfl⟩
  · exact ⟨rfl, rfl⟩

/-- A recompute sieves the corpus in place. -/
theorem sameLoad_recompute (s : Session) : SameLoad s s.recompute :=
  ⟨rfl, Sieve.corpus_sift _ _⟩

theorem sameLoad_tick (s : Session) (now : Micros) : SameLoad s (s.tick now).2 := by
  cases h : s.timer.isDue now with
  | true =>
    rw [tick_of_due h]
    exact sameLoad_recompute { s with timer := s.timer.cancel }
  | false =>
    rw [tick_of_not_due h]
    exact ⟨rfl, rfl⟩

theorem sameLoad_flush (s : Session) : SameLoad s s.flush.2 := by
  cases h : s.isPending with
  | true =>
    rw [flush_of_pending h]
    exact sameLoad_recompute { s with timer := s.timer.cancel }
  | false =>
    rw [flush_of_idle h]
    exact ⟨rfl, rfl⟩

/-! ## What an event tells of loads -/

/-- The status that the event sets. -/
def Event.status? : Event → Option LoadStatus
  | .awaitCorpus => some .loading
  | .receiveCorpus (.ok words) => some (.loaded words.length)
  | .receiveCorpus (.error reason) => some (.failed reason)
  | .setCriteria _ | .add _ | .remove _ _ | .edit _ _ _ | .more | .tick _ | .flush => none

/-- The words that the event brings. -/
def Event.words? : Event → Option (List Word)
  | .receiveCorpus (.ok words) => some words
  | .receiveCorpus (.error _) | .awaitCorpus => none
  | .setCriteria _ | .add _ | .remove _ _ | .edit _ _ _ | .more | .tick _ | .flush => none

/-- An event that sets no status leaves the load alone. -/
theorem sameLoad_after {e : Event} (h : e.status? = none) : SameLoad s (s.after e) := by
  cases e with
  | setCriteria items => exact sameLoad_recompute { s with criteria := .ofList items, timer := _ }
  | awaitCorpus => exact absurd h (Option.some_ne_none _)
  | receiveCorpus outcome => cases outcome <;> exact absurd h (Option.some_ne_none _)
  | add now => exact ⟨rfl, rfl⟩
  | remove now index => exact sameLoad_of_change (s.remove_cases now index)
  | edit now index change => exact sameLoad_of_change (s.edit_cases now index change)
  | more => exact ⟨rfl, rfl⟩
  | tick now => exact s.sameLoad_tick now
  | flush => exact s.sameLoad_flush

theorem words?_of_status? {e : Event} (h : e.status? = none) : e.words? = none := by
  cases e with
  | receiveCorpus outcome => cases outcome <;> exact absurd h (Option.some_ne_none _)
  | _ => rfl

theorem status_after (s : Session) (e : Event) :
    (s.after e).status = e.status?.getD s.status := by
  cases h : e.status? with
  | none => exact (sameLoad_after h).1
  | some status =>
    cases e with
    | awaitCorpus => exact Option.some.inj h
    | receiveCorpus outcome => cases outcome <;> exact Option.some.inj h
    | _ => exact absurd h (Option.some_ne_none _).symm

theorem corpus_after (s : Session) (e : Event) :
    (s.after e).sieve.corpus.toList = e.words?.getD s.sieve.corpus.toList := by
  cases h : e.status? with
  | none => simp [words?_of_status? h, (sameLoad_after (s := s) h).2]
  | some status =>
    cases e with
    | awaitCorpus => rfl
    | receiveCorpus outcome =>
      cases outcome with
      | ok words => simp [after, receiveCorpus, Event.words?, Sieve.corpus_setCorpus]
      | error reason => rfl
    | _ => exact absurd h (Option.some_ne_none _).symm

/-! ## What a history tells of loads -/

/-- What the last of the events tells that tells anything, and `first` if none does. -/
def lastTold {α : Type} (told? : Event → Option α) (first : α) (events : List Event) : α :=
  (events.reverse.findSome? told?).getD first

theorem lastTold_concat {α : Type} (told? : Event → Option α) (first : α) (events : List Event)
    (e : Event) : lastTold told? first (events ++ [e]) =
      (told? e).getD (lastTold told? first events) := by
  unfold lastTold
  cases h : told? e <;> simp [h]

/-- What every event either tells or leaves alone is what was told last. -/
theorem run_eq_lastTold {α : Type} {told? : Event → Option α} (part : Session → α)
    (hafter : ∀ t e, part (t.after e) = (told? e).getD (part t)) (s : Session)
    (events : List Event) : part (s.run events) = lastTold told? (part s) events := by
  induction events using List.reverseRecOn with
  | nil => rfl
  | append_singleton events e ih => rw [run_concat, hafter, lastTold_concat, ih]

/-- The words of the last load that brought some, or those that were there before. -/
def lastWords (first : List Word) (events : List Event) : List Word :=
  lastTold (·.words?) first events

theorem corpus_run (s : Session) (events : List Event) :
    (s.run events).sieve.corpus.toList = lastWords s.sieve.corpus.toList events :=
  run_eq_lastTold (fun t => t.sieve.corpus.toList) corpus_after s events

theorem status_run (s : Session) (events : List Event) :
    (s.run events).status = lastTold (·.status?) s.status events :=
  run_eq_lastTold (fun t => t.status) status_after s events

/-! ## A load that fails -/

/-- **A load that fails sets the status and nothing else.** Criteria, condition and what is pending
stay as they are, and so do the corpus and the results: they are what the last load before it that
succeeded left there. Corpus, results and display are empty just if that load brought no words, or if
there was none and the session began without. -/
theorem run_failed_load (hs : s.Fresh) (events : List Event) (reason : String) :
    let t := s.run events
    let failed := t.receiveCorpus (.error reason)
    let words := lastWords s.sieve.corpus.toList events
    t.status = lastTold (·.status?) s.status events ∧
    failed.status = .failed reason ∧
    failed.status.message = "word list unavailable: " ++ reason ∧
    failed = { t with status := .failed reason } ∧
    failed.sieve.corpus.toList = words ∧
    failed.sieve.results? = .ok (words.filter fun w => t.condition.holds w) ∧
    failed.sieve.displayed? =
      .ok ((words.filter fun w => t.condition.holds w).take t.sieve.window) ∧
    (failed.sieve.corpus.size = 0 ↔ words = []) ∧
    (words = [] → failed.sieve.hits = [] ∧ failed.sieve.window = 0) := by
  intro t failed words
  have hfound : t.sieve.Found t.condition := (hs.coherent_run events).sifted.toFound
  have hcorpus : t.sieve.corpus.toList = words := corpus_run s events
  have hsize : t.sieve.corpus.size = 0 ↔ words = [] := by
    rw [← hcorpus, ← Array.length_toList, List.length_eq_zero_iff]
  refine ⟨status_run s events, rfl, rfl, rfl, hcorpus, ?_, ?_, hsize, ?_⟩
  · rw [← hcorpus]
    exact hfound.results?_eq
  · rw [← hcorpus]
    exact hfound.displayed?_eq
  · intro hnone
    have hhits : t.sieve.hits = [] := by
      rw [hfound.hits_eq, hcorpus, hnone]
      rfl
    have hwindow : t.sieve.window ≤ 0 := by simpa [hhits] using hfound.window_le
    exact ⟨hhits, Nat.le_zero.mp hwindow⟩

/-- Words are loaded under one condition, and loaded anew while another one is still pending. -/
def secondLoad : List Event :=
  [.edit 0 0 (.letters ['p']), .flush,
   .receiveCorpus (.ok (wordsOf ["apple".toList, "amble".toList, "angle".toList])),
   .edit 10 0 (.letters ['b']), .awaitCorpus]

/-- A first load that fails leaves nothing. After a second one that fails, the words of the first are
still sieved for the condition in place. -/
theorem run_failed_load_secondLoad :
    let s := start { pageSize := 1, delay := 50 }
    let first := s.receiveCorpus (.error "offline")
    let second := (s.run secondLoad).receiveCorpus (.error "offline")
    s.Fresh ∧ lastWords s.sieve.corpus.toList [] = [] ∧
      first.sieve.hits = [] ∧ first.sieve.window = 0 ∧
      (s.run secondLoad).status = .loading ∧ second.status = .failed "offline" ∧
      second.timer = (s.run secondLoad).timer ∧ second.isPending = true ∧
      second.sieve.results? = .ok (wordsOf ["amble".toList, "angle".toList]) := by
  intro s first second
  have hs : s.Fresh := .start _
  have hnone : lastWords s.sieve.corpus.toList [] = [] := rfl
  obtain ⟨-, -, -, -, -, -, -, -, hempty⟩ := run_failed_load hs [] "offline"
  obtain ⟨hstatus, hfailed, -, hsame, -, hresults, -⟩ := run_failed_load hs secondLoad "offline"
  refine ⟨hs, hnone, (hempty hnone).1, (hempty hnone).2, hstatus.trans rfl, hfailed, ?_, rfl,
    hresults.trans rfl⟩
  exact (congrArg Session.timer hsame).trans rfl

/-- A word list is said to be unavailable while its word is on display. -/
theorem failed_load_keeps_words :
    let s := ofCorpus (wordsOf ["apple".toList]) .standard
    let t := s.run [.awaitCorpus, .receiveCorpus (.error "offline")]
    s.Fresh ∧ t.status = .failed "offline" ∧ t.sieve.corpus.size = 1 ∧ t.sieve.hits = [0] ∧
      t.sieve.window = 1 ∧ t.sieve.displayed? = .ok (wordsOf ["apple".toList]) ∧
      ¬ (t.sieve.corpus.size = 0 ∧ t.sieve.hits = [] ∧ t.sieve.window = 0) := by
  intro s t
  refine ⟨.ofCorpus _ _, rfl, rfl, rfl, rfl, rfl, ?_⟩
  intro hempty
  exact absurd hempty.1 (by decide)

end Session

end WordSieve
