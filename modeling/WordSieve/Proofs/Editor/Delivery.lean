import WordSieve.Proofs.Editor.Loading

/-!
# Loads beside the editor

A load runs beside the editor. It ends once, with words or with an error, or it never ends, and what
it brought lies ready until the next tick. Keys may be pressed in between, so it matters that no key
starts another load then: what lies ready would be lost. `Served` is the editor together with what
lies ready, and its turns are told to the editor as events, so that what holds after all events
holds after all turns.
-/

set_option autoImplicit false

namespace WordSieve

namespace Editor

/-- An editor with what its load has brought. -/
structure Served where
  editor : Editor
  /-- The outcome that was delivered and is not taken in. -/
  ready : Option (Except LoadError (List Word))

/-- What the editor and its load may do next. -/
inductive Turn where
  | press (now : Micros) (key : Key) (held : Held)
  | tick (now : Micros)
  /-- The load ends. -/
  | deliver (outcome : Except LoadError (List Word))

namespace Served

variable {s : Served}

def start (config : SessionConfig) (source : WordSource) : Served :=
  { editor := .start (.start config) source, ready := none }

/-- What the turn delivers. A load ends only while it is in flight, and only once. -/
def delivers (s : Served) : Turn → Option (Except LoadError (List Word))
  | .deliver outcome => if s.editor.awaiting ∧ s.ready.isNone then some outcome else none
  | .press _ _ _ | .tick _ => none

def after (s : Served) : Turn → Served
  | .press now key held =>
    { editor := s.editor.press now key held
      -- Nobody asks any more for what one load brought once another is started.
      ready := if (s.editor.keyEffect key held).loads then none else s.ready }
  | .tick now => { editor := s.editor.tick now s.ready, ready := none }
  | .deliver outcome => { s with ready := (s.delivers (.deliver outcome)).or s.ready }

def run (s : Served) (turns : List Turn) : Served :=
  turns.foldl after s

/-- The outcomes that the turns deliver. -/
def delivered (s : Served) : List Turn → List (Except LoadError (List Word))
  | [] => []
  | x :: rest => (s.delivers x).toList ++ (s.after x).delivered rest

/-- What the editor is told of a turn. -/
def event? (s : Served) : Turn → Option Event
  | .press now key held => some (.press now key held)
  | .tick now => some (.tick now s.ready)
  | .deliver _ => none

def events (s : Served) : List Turn → List Event
  | [] => []
  | x :: rest => (s.event? x).toList ++ (s.after x).events rest

/-- What is seen of a turn. -/
def effect (s : Served) (x : Turn) : Effect :=
  ((s.event? x).map s.editor.effect).getD {}

theorem editor_run (s : Served) (turns : List Turn) :
    (s.run turns).editor = s.editor.run (s.events turns) := by
  induction turns generalizing s with
  | nil => rfl
  | cons x rest ih =>
    cases x with
    | press now key held => exact ih _
    | tick now => exact ih _
    | deliver outcome => exact ih _

theorem takenIn_events_cons (s : Served) (x : Turn) (rest : List Turn) :
    s.editor.takenIn (s.events (x :: rest)) =
      (s.effect x).takes.toList ++ (s.after x).editor.takenIn ((s.after x).events rest) := by
  cases x with
  | press now key held => exact takenIn_cons _ _ _
  | tick now => exact takenIn_cons _ _ _
  | deliver outcome => rfl

theorem loadsStarted_events_cons (s : Served) (x : Turn) (rest : List Turn) :
    s.editor.loadsStarted (s.events (x :: rest)) =
      (if (s.effect x).loads then 1 else 0) +
        (s.after x).editor.loadsStarted ((s.after x).events rest) := by
  cases x with
  | press now key held => exact loadsStarted_cons _ _ _
  | tick now => exact loadsStarted_cons _ _ _
  | deliver outcome => exact (Nat.zero_add _).symm

/-! ## Nothing is lost -/

/-- The editor stands at the stage that the outcomes taken in lead to. What was delivered besides
these lies ready, and only while it is awaited. -/
structure Sound (s : Served) (delivered taken : List (Except LoadError (List Word)))
    (started : Nat) : Prop where
  stage : AtStage s.editor taken started
  awaited : s.ready ≠ none → s.editor.awaiting = true
  kept : delivered = taken ++ s.ready.toList

variable {delivered taken : List (Except LoadError (List Word))} {started : Nat}

theorem sound_start (config : SessionConfig) (source : WordSource) :
    (start config source).Sound [] [] 1 :=
  ⟨atStage_start config source, fun hsome => absurd rfl hsome, rfl⟩

theorem Sound.ready_eq_none (h : s.Sound delivered taken started)
    (hawaiting : s.editor.awaiting = false) : s.ready = none := by
  by_contra hready
  exact absurd ((h.awaited hready).symm.trans hawaiting) Bool.noConfusion

theorem Sound.press (h : s.Sound delivered taken started) (now : Micros) (key : Key) (held : Held) :
    (s.after (.press now key held)).Sound delivered
      (taken ++ (s.editor.keyEffect key held).takes.toList)
      (started + if (s.editor.keyEffect key held).loads then 1 else 0) := by
  have hstage := h.stage.after (.press now key held)
  have hdoes := does_press s.editor now key held
  have htakes : (s.editor.keyEffect key held).takes = none := hdoes.takes_eq
  cases hloads : (s.editor.keyEffect key held).loads with
  | true =>
    -- A load is started only after one that failed, and then nothing lies ready.
    obtain ⟨reason, hfailed, -⟩ := hdoes.of_loads hloads
    have hready := h.ready_eq_none (h.stage.not_awaiting hfailed)
    refine ⟨hloads ▸ hstage, fun hsome => ?_, ?_⟩
    · simp [Served.after, hloads] at hsome
    · simp [Served.after, hloads, htakes, h.kept, hready]
  | false =>
    have hsame := (hdoes.sameLoad hloads).1
    refine ⟨hloads ▸ hstage, fun hsome => ?_, ?_⟩
    · exact hsame.trans (h.awaited (by simpa [Served.after, hloads] using hsome))
    · simp [Served.after, hloads, htakes, h.kept]

theorem Sound.tick (h : s.Sound delivered taken started) (now : Micros) :
    (s.after (.tick now)).Sound delivered
      (taken ++ (s.editor.tickEffect s.ready).takes.toList) started := by
  refine ⟨h.stage.after (.tick now s.ready), fun hsome => absurd rfl hsome, ?_⟩
  have htakes : (s.editor.tickEffect s.ready).takes = s.ready := by
    show (if s.editor.awaiting then s.ready else none) = s.ready
    cases hawaiting : s.editor.awaiting with
    | true => rfl
    | false => exact (h.ready_eq_none hawaiting).symm
  rw [htakes, h.kept]
  exact (List.append_nil _).symm

theorem Sound.deliver (h : s.Sound delivered taken started)
    (outcome : Except LoadError (List Word)) :
    (s.after (.deliver outcome)).Sound (delivered ++ (s.delivers (.deliver outcome)).toList) taken
      started := by
  by_cases hends : s.editor.awaiting ∧ s.ready.isNone
  · have hready : s.ready = none := Option.isNone_iff_eq_none.mp hends.2
    have hdelivers : s.delivers (.deliver outcome) = some outcome := if_pos hends
    refine ⟨h.stage, fun _ => hends.1, ?_⟩
    simp [Served.after, hdelivers, h.kept, hready]
  · have hdelivers : s.delivers (.deliver outcome) = none := if_neg hends
    simpa [Served.after, hdelivers] using h

theorem Sound.after (h : s.Sound delivered taken started) (x : Turn) :
    (s.after x).Sound (delivered ++ (s.delivers x).toList) (taken ++ (s.effect x).takes.toList)
      (started + if (s.effect x).loads then 1 else 0) := by
  cases x with
  | press now key held =>
    show Sound _ (delivered ++ []) _ _
    rw [List.append_nil]
    exact h.press now key held
  | tick now =>
    show Sound _ (delivered ++ []) _ _
    rw [List.append_nil]
    exact h.tick now
  | deliver outcome =>
    show Sound _ _ (taken ++ []) _
    rw [List.append_nil]
    exact h.deliver outcome

theorem Sound.run (h : s.Sound delivered taken started) (turns : List Turn) :
    (s.run turns).Sound (delivered ++ s.delivered turns)
      (taken ++ s.editor.takenIn (s.events turns))
      (started + s.editor.loadsStarted (s.events turns)) := by
  induction turns generalizing s delivered taken started with
  | nil => simpa [Served.run, Served.delivered, events, takenIn, loadsStarted, effects] using h
  | cons x rest ih =>
    have hrest := ih (h.after x)
    rw [takenIn_events_cons, loadsStarted_events_cons]
    rw [List.append_assoc, List.append_assoc, Nat.add_assoc] at hrest
    exact hrest

/-- The tick after a delivery takes the outcome in and says what it was. -/
theorem Sound.takes_in (h : s.Sound delivered taken started)
    (hlimit : s.editor.messages.length ≤ messageLimit)
    {outcome : Except LoadError (List Word)} (hready : s.ready = some outcome) (now : Micros) :
    (s.after (.tick now)).ready = none ∧ (s.after (.tick now)).editor.awaiting = false ∧
      (s.after (.tick now)).editor.messages =
        lastMessages (s.editor.messages ++ [outcomeMessage outcome]) := by
  have hawaiting : s.editor.awaiting = true := by
    apply h.awaited
    simp [hready]
  have hsaid := messages_tick hlimit now (some outcome)
  show none = none ∧ (s.editor.tick now s.ready).awaiting = false ∧
    (s.editor.tick now s.ready).messages =
      lastMessages (s.editor.messages ++ [outcomeMessage outcome])
  rw [hready]
  rcases tick_cases s.editor now (some outcome) with ⟨heffect, -⟩ | ⟨o, ho, -, heffect, htick⟩
  · simp [tickEffect, hawaiting] at heffect
  · obtain rfl := Option.some.inj ho
    rw [heffect] at hsaid
    refine ⟨rfl, ?_, hsaid⟩
    rw [htick, recompute_eq]
    rfl

/-- Once the words are there, they are what one of the loads delivered, and they stay. -/
theorem Sound.loaded (h : s.Sound delivered taken started) {n : Nat}
    (hloaded : s.editor.session.status = .loaded n) :
    ∃ words : List Word, delivered.filterMap Except.toOption = [words] ∧
      s.editor.session.sieve.corpus = words.toArray ∧ words.length = n ∧ ∀ rest,
        (s.run rest).editor.session.status = .loaded n ∧
        (s.run rest).editor.session.sieve.corpus = words.toArray := by
  obtain ⟨hawaiting, words, htaken, hcorpus, hlength⟩ := h.stage.with_words hloaded
  have hdelivered : delivered = taken := by
    rw [h.kept, h.ready_eq_none hawaiting]
    exact List.append_nil _
  rw [hdelivered]
  refine ⟨words, htaken, hcorpus, hlength, fun rest => ?_⟩
  obtain ⟨hstatus, hsame⟩ := loaded_run hawaiting hloaded (s.events rest)
  rw [editor_run]
  exact ⟨hstatus.trans hloaded, hsame.trans hcorpus⟩

end Served

/-! ## The key that loads again -/

variable {e : Editor}

theorem press_retry (hmode : e.mode = .navigate) (now : Micros) (held : Held) :
    e.press now (.char 'r') held = e.retry := by
  have hstays : ¬(Key.char 'r' = .char 'c' ∧ held.control) := by
    intro h
    exact absurd h.1 (by decide)
  rw [press, if_neg hstays, hmode]
  rfl

theorem retry_of_failed {reason : String} (h : e.session.status = .failed reason) :
    e.retry = (e.say e.reloadMessage.text e.reloadMessage.tone).startLoad := by
  rw [retry, h]
  rfl

theorem retry_of_not_failed (h : ∀ reason, e.session.status ≠ .failed reason) : e.retry = e := by
  unfold retry
  split
  · next hfailed => exact absurd hfailed (h _)
  · rfl

/-! ## Together -/

/-- Whatever keys and ticks came, the sieve holds the result of some condition on its corpus. -/
theorem found_run (config : SessionConfig) (source : WordSource) (events : List Event) :
    ∃ p, ((start (.start config) source).run events).session.sieve.Found p := by
  obtain ⟨worked, -, hsession⟩ := works_run (start (.start config) source) events
  have hcoherent := (Session.Fresh.start config).coherent_run (.awaitCorpus :: worked)
  rw [hsession]
  exact ⟨_, hcoherent.sifted.toFound⟩

/-- **The life of a load.** One is in flight while the status says so. Before words have come there
are no results; once they have come they are the corpus, and nothing changes that any more. The key
`r` starts a load after one that failed, and otherwise does nothing. No load is started beside
another. The first tick after an outcome was delivered takes it in, with a message of success or
failure, and there are no more messages of that kind than outcomes taken in. -/
theorem run_load (config : SessionConfig) (source : WordSource) (turns : List Turn) :
    let first := Served.start config source
    let last := first.run turns
    let e := last.editor
    let events := first.events turns
    let taken := first.editor.takenIn events
    (e.awaiting = true ↔ e.session.status = .loading) ∧
    ((∀ n, e.session.status ≠ .loaded n) →
      e.session.sieve.corpus = #[] ∧ e.session.sieve.results? = .ok []) ∧
    (∀ n, e.session.status = .loaded n →
      ∃ words : List Word, (first.delivered turns).filterMap Except.toOption = [words] ∧
        e.session.sieve.corpus = words.toArray ∧ words.length = n ∧ ∀ rest,
          (last.run rest).editor.session.status = .loaded n ∧
          (last.run rest).editor.session.sieve.corpus = words.toArray) ∧
    (e.mode = .navigate → ∀ now held,
      (∀ reason, e.session.status = .failed reason →
        e.press now (.char 'r') held =
          (e.say e.reloadMessage.text e.reloadMessage.tone).startLoad) ∧
      ((∀ reason, e.session.status ≠ .failed reason) → e.press now (.char 'r') held = e)) ∧
    1 + first.editor.loadsStarted events = taken.length + (if e.awaiting then 1 else 0) ∧
    first.delivered turns = taken ++ last.ready.toList ∧
    (∀ now outcome, last.ready = some outcome →
      (last.after (.tick now)).ready = none ∧ (last.after (.tick now)).editor.awaiting = false ∧
      (last.after (.tick now)).editor.messages =
        lastMessages (e.messages ++ [outcomeMessage outcome])) ∧
    (first.editor.spoken events).filter (·.tone ≠ .info) = taken.map outcomeMessage ∧
    e.messages = lastMessages (greeting :: first.editor.spoken events) := by
  intro first last e events taken
  have h : last.Sound (first.delivered turns) taken (1 + first.editor.loadsStarted events) :=
    (Served.sound_start config source).run turns
  have hrun : e = first.editor.run events := Served.editor_run first turns
  have hmessages : e.messages = lastMessages (greeting :: first.editor.spoken events) := by
    have hgreeted : first.editor.messages.length ≤ messageLimit := Nat.le_add_left 1 4
    rw [hrun]
    exact messages_run hgreeted events
  have hlimit : e.messages.length ≤ messageLimit := by
    rw [hmessages]
    exact length_lastMessages_le _
  refine ⟨h.stage.awaiting_iff, fun hnone => ?_, fun _ hloaded => h.loaded hloaded,
    fun hmode now held => ?_, h.stage.started_eq, h.kept,
    fun now _ hready => h.takes_in hlimit hready now, news_spoken _ _, hmessages⟩
  · have hcorpus : e.session.sieve.corpus = #[] := h.stage.without_words hnone
    have hfound : ∃ p, e.session.sieve.Found p := by
      rw [hrun]
      exact found_run config source events
    obtain ⟨p, hfound⟩ := hfound
    refine ⟨hcorpus, ?_⟩
    rw [hfound.results?_eq, hcorpus]
    rfl
  · rw [press_retry hmode]
    exact ⟨fun _ hfailed => retry_of_failed hfailed, retry_of_not_failed⟩

/-- What comes of a load that gives up. -/
def gaveUp : Except LoadError (List Word) :=
  .error (.file (.other "loader exited without a result"))

/-- A load fails, and `r` is of no use until a tick has found out. The next one brings words, and
what comes later finds no load in flight. -/
def secondAttempt (words : List Word) : List Turn :=
  let press (key : Key) : Turn := .press 3 key { control := false, alt := false, shift := false }
  [.tick 1, .deliver gaveUp, press (.char 'r'), .tick 4, press (.char 'r'), .deliver (.ok words),
    .deliver gaveUp, .tick 5, press (.char 'r'), .deliver (.ok [])]

theorem run_load_secondAttempt :
    let words := wordsOf ["apple".toList, "amble".toList]
    let first := Served.start .standard .embedded
    let last := first.run (secondAttempt words)
    last.editor.session.status = .loaded 2 ∧ last.editor.awaiting = false ∧
      last.editor.session.sieve.corpus = words.toArray ∧
      last.editor.press 9 (.char 'r') { control := false, alt := true, shift := false } =
        last.editor ∧
      first.delivered (secondAttempt words) = [gaveUp, .ok words] ∧
      (first.editor.spoken (first.events (secondAttempt words))).filter (·.tone ≠ .info) =
        [outcomeMessage gaveUp, outcomeMessage (.ok words)] ∧
      ∀ rest, (last.run rest).editor.session.sieve.corpus = words.toArray := by
  intro words first last
  have hloaded : last.editor.session.status = .loaded 2 := by decide +kernel
  have htaken : first.editor.takenIn (first.events (secondAttempt words)) =
      [gaveUp, .ok words] := by decide +kernel
  have hready : last.ready = none := by decide +kernel
  have hmode : last.editor.mode = .navigate := by decide +kernel
  obtain ⟨-, -, hcorpus, hretry, -, hdelivered, -, hnews, -⟩ :=
    run_load .standard .embedded (secondAttempt words)
  rw [htaken, hready] at hdelivered
  rw [htaken] at hnews
  obtain ⟨brought, hbrought, hplace, -, hstays⟩ := hcorpus 2 hloaded
  have hwords : brought = words := by
    rw [hdelivered] at hbrought
    exact (List.singleton_inj.mp hbrought).symm
  rw [hwords] at hplace hstays
  refine ⟨hloaded, by decide +kernel, hplace, ?_, hdelivered, hnews, fun rest => (hstays rest).2⟩
  refine (hretry hmode 9 _).2 fun reason hfailed => ?_
  exact absurd (hloaded.symm.trans hfailed) LoadStatus.noConfusion

end Editor

end WordSieve
