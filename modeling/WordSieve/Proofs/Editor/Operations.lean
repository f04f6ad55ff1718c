import WordSieve.Editor.Keys
import WordSieve.Proofs.Session.History

/-!
# What keys and ticks do

There are many keys, in two modes, but a key does one of a few things, which `Editor.Does` lists,
and `does_press` is the only proof that goes through the keys to say which. What is kept by
everything on the list is kept by every key. A key that moves the cursor or works on the list of
criteria does so only while no letters are typed, and the list says so.

A tick takes in the outcome of the load, if one is awaited and there, and then recomputes. Keys and
ticks change the session by the events of a session only, and never replace its criteria as a whole
(`Editor.Works`), so whatever every event of a session keeps they keep too.
-/

set_option autoImplicit false

namespace WordSieve

/-- Whether the event puts other criteria in place of all there were. -/
def Session.Event.replacesAll : Session.Event → Bool
  | .setCriteria _ => true
  | .awaitCorpus | .receiveCorpus _ | .add _ | .remove _ _ | .edit _ _ _ | .more | .tick _
  | .flush => false

namespace Editor

variable {e e' e'' : Editor} {now : Micros}

/-! ## What is seen of an event -/

/-- What an event lets be seen outside the session. -/
structure Effect where
  /-- The message that it adds. -/
  message : Option Message := none
  /-- Whether it starts a load. -/
  loads : Bool := false
  /-- The outcome of a load that it takes in. -/
  takes : Option (Except LoadError (List Word)) := none

/-- The message about the outcome of a load. -/
def outcomeMessage : Except LoadError (List Word) → Message
  | .ok words => { text := s!"Loaded {words.length} words", tone := .success }
  | .error error =>
    { text := s!"Word list unavailable: {error.message}. Press 'r' to retry.", tone := .error }

/-- The message about a load that is started again. -/
def reloadMessage (e : Editor) : Message :=
  { text := s!"Reloading {e.source.name}...", tone := .info }

/-- The message about one page more. -/
def pageMessage (e : Editor) : Message :=
  { text := s!"Showing {e.session.more.sieve.window} of {e.session.sieve.count}", tone := .info }

/-- What is seen of a key while no letters are typed. -/
def navigateEffect (e : Editor) : Key → Effect
  | .char 'm' => { message := some e.pageMessage }
  | .char 'r' =>
    match e.session.status with
    | .failed _ => { message := some e.reloadMessage, loads := true }
    | .loading | .loaded _ => {}
  | .char '?' => { message := some { text := keysText, tone := .info } }
  | _ => {}

/-- What is seen of a key. -/
def keyEffect (e : Editor) (key : Key) (held : Held) : Effect :=
  if key = .char 'c' ∧ held.control then {}
  else
    match e.mode with
    | .navigate => e.navigateEffect key
    | .editLetters => {}

/-- What is seen of a tick. An outcome that comes while none is awaited is passed over. -/
def tickEffect (e : Editor) (outcome : Option (Except LoadError (List Word))) : Effect :=
  let takes := if e.awaiting then outcome else none
  { message := takes.map outcomeMessage, takes }

/-- What is seen of an event. -/
def effect (e : Editor) : Event → Effect
  | .press _ key held => e.keyEffect key held
  | .tick _ outcome => e.tickEffect outcome

/-- What is seen of the events in turn. -/
def effects (e : Editor) : List Event → List Effect
  | [] => []
  | x :: rest => e.effect x :: (e.after x).effects rest

/-! ## Keys -/

/-- All that a key can do, and what is then seen of it. -/
inductive Does (e : Editor) (now : Micros) : Effect → Editor → Prop where
  | nothing : Does e now {} e
  | quit : Does e now {} { e with quit := true }
  | scroll (rows : Nat) : Does e now {} { e with scroll := rows }
  | select (place : Nat) : e.mode = .navigate →
      place ≤ e.selected ∨ place < e.session.criteria.size →
      Does e now {} { e with selected := place }
  | turn (field : Field) : e.mode = .navigate → Does e now {} { e with field }
  | startTyping : e.selected < e.session.criteria.size → e.field = .letters →
      Does e now {} { e with mode := .editLetters }
  | stopTyping : Does e now {} { e with mode := .navigate }
  | edit (change : Edit) : Does e now {} (e.editCurrent now change)
  | add : e.mode = .navigate → Does e now {} (e.addCriterion now)
  | remove : e.mode = .navigate → Does e now {} (e.removeCurrent now)
  | page : Does e now { message := some e.pageMessage } e.morePage
  | reload {reason : String} : e.session.status = .failed reason →
      Does e now { message := some e.reloadMessage, loads := true }
        (e.say e.reloadMessage.text e.reloadMessage.tone).startLoad
  | help : Does e now { message := some { text := keysText, tone := .info } } (e.say keysText .info)

theorem does_activate : Does e now {} (e.activate now) := by
  unfold activate
  cases hc : e.current? with
  | none => exact .nothing
  | some c =>
    obtain ⟨hlt, -⟩ := List.getElem?_eq_some_iff.mp hc
    dsimp only
    split
    · next hfield => exact .startTyping hlt hfield
    · exact .edit _
    · exact .edit _

theorem does_retry : Does e now (e.navigateEffect (.char 'r')) e.retry := by
  unfold retry navigateEffect
  cases hstatus : e.session.status with
  | failed reason => exact .reload hstatus
  | loading => exact .nothing
  | loaded n => exact .nothing

theorem does_pressNavigate (hmode : e.mode = .navigate) (key : Key) :
    Does e now (e.navigateEffect key) (e.pressNavigate now key) := by
  unfold pressNavigate
  -- The cases stand in the order of the keys there, those of one meaning one after the other.
  split
  · exact .quit
  · exact .select _ hmode (.inl (Nat.sub_le _ _))
  · exact .select _ hmode (.inl (Nat.sub_le _ _))
  · split
    · next hlt => exact .select _ hmode (.inr hlt)
    · exact .nothing
  · split
    · next hlt => exact .select _ hmode (.inr hlt)
    · exact .nothing
  · exact .turn _ hmode
  · exact .turn _ hmode
  · exact .turn _ hmode
  · exact .turn _ hmode
  · exact .turn _ hmode
  · exact .turn _ hmode
  · exact does_activate
  · exact does_activate
  · exact .add hmode
  · exact .add hmode
  · exact .remove hmode
  · exact .remove hmode
  · exact .remove hmode
  · exact .page
  · exact .scroll _
  · exact .scroll _
  · exact does_retry
  · exact .help
  · have hnone : e.navigateEffect key = {} := by
      unfold navigateEffect
      split
      · exact absurd rfl ‹_›
      · exact absurd rfl ‹_›
      · exact absurd rfl ‹_›
      · rfl
    rw [hnone]
    exact .nothing

theorem does_pressEdit (e : Editor) (now : Micros) (c : Criterion) (held : Held) (key : Key) :
    Does e now {} (e.pressEdit now c held key) := by
  cases key with
  | char x =>
    unfold pressEdit
    dsimp only
    split
    · exact .edit _
    · split
      · exact .nothing
      · exact .edit _
  | backspace => exact .edit _
  | enter | escape | tab => exact .stopTyping
  | backTab | delete | up | down | left | right | pageUp | pageDown | other => exact .nothing

/-- **A key does one of the things on the list**, and no more is seen of it than goes with that. -/
theorem does_press (e : Editor) (now : Micros) (key : Key) (held : Held) :
    Does e now (e.keyEffect key held) (e.press now key held) := by
  unfold press keyEffect
  by_cases hquit : key = .char 'c' ∧ held.control
  · rw [if_pos hquit, if_pos hquit]
    exact .quit
  · rw [if_neg hquit, if_neg hquit]
    cases hmode : e.mode with
    | navigate => exact does_pressNavigate hmode key
    | editLetters =>
      cases e.current? with
      | some c => exact does_pressEdit e now c held key
      | none => exact .stopTyping

theorem removeCurrent_eq (e : Editor) (now : Micros) :
    e.removeCurrent now =
      { e with
        session := (e.session.remove now e.selected).2
        selected :=
          if (e.session.remove now e.selected).1 then
            min e.selected ((e.session.remove now e.selected).2.criteria.size - 1)
          else e.selected } := by
  unfold removeCurrent
  split
  · next hremove => rw [hremove]; rfl
  · next hremove => rw [hremove]; rfl

/-! ## Ticks -/

theorem recompute_eq (e : Editor) (now : Micros) :
    e.recompute now =
      { e with
        session := (e.session.tick now).2
        scroll := if (e.session.tick now).1 then 0 else e.scroll } := by
  unfold recompute
  split
  · next htick => rw [htick]; rfl
  · next htick => rw [htick]; rfl

/-- The editor once the outcome of its load is taken in. -/
def settle (e : Editor) (outcome : Except LoadError (List Word)) : Editor :=
  { e with
    session := e.session.receiveCorpus (outcome.mapError LoadError.message)
    awaiting := false : Editor }.say (outcomeMessage outcome).text (outcomeMessage outcome).tone

/-- The outcome of a load leaves the timer alone. -/
theorem timer_settle (e : Editor) (outcome : Except LoadError (List Word)) :
    (e.settle outcome).session.timer = e.session.timer := by
  cases outcome <;> rfl

theorem receive_of_awaiting (h : e.awaiting = true) (outcome : Except LoadError (List Word)) :
    e.receive outcome = e.settle outcome := by
  unfold receive
  rw [if_pos h]
  cases outcome with
  | ok words => rfl
  | error error => rfl

theorem tick_of_awaiting (h : e.awaiting = true) (now : Micros)
    (outcome : Except LoadError (List Word)) :
    e.tick now (some outcome) = (e.settle outcome).recompute now := by
  rw [tick, receive_of_awaiting h]

/-- All that a tick can do. The outcome is taken in only if one is awaited, and the recompute comes
after it. -/
theorem tick_cases (e : Editor) (now : Micros) (outcome : Option (Except LoadError (List Word))) :
    (e.tickEffect outcome = {} ∧ e.tick now outcome = e.recompute now) ∨
    ∃ o, outcome = some o ∧ e.awaiting = true ∧
      e.tickEffect outcome = { message := some (outcomeMessage o), takes := some o } ∧
      e.tick now outcome = (e.settle o).recompute now := by
  cases outcome with
  | none => exact .inl ⟨by simp [tickEffect], rfl⟩
  | some o =>
    cases hawaiting : e.awaiting with
    | true =>
      exact .inr ⟨o, rfl, rfl, by simp [tickEffect, hawaiting], tick_of_awaiting hawaiting now o⟩
    | false =>
      refine .inl ⟨by simp [tickEffect, hawaiting], ?_⟩
      simp [tick, receive, hawaiting]

/-! ## The session -/

/-- The session of one editor comes from that of another by events that replace no criteria as a
whole. -/
def Works (e e' : Editor) : Prop :=
  ∃ events : List Session.Event, (∀ x ∈ events, x.replacesAll = false) ∧
    e'.session = e.session.run events

theorem Works.of_session_eq (h : e'.session = e.session) : Works e e' :=
  ⟨[], fun _ hx => absurd hx List.not_mem_nil, h⟩

theorem Works.of_event {x : Session.Event} (hx : x.replacesAll = false)
    (h : e'.session = e.session.after x) : Works e e' := by
  refine ⟨[x], fun y hy => ?_, h⟩
  rw [List.mem_singleton.mp hy]
  exact hx

theorem Works.trans (h : Works e e') (h' : Works e' e'') : Works e e'' := by
  obtain ⟨first, hfirst, heq⟩ := h
  obtain ⟨rest, hrest, heq'⟩ := h'
  refine ⟨first ++ rest, fun x hx => ?_, ?_⟩
  · rcases List.mem_append.mp hx with hx | hx
    · exact hfirst x hx
    · exact hrest x hx
  · rw [heq', heq, Session.run_append]

theorem Does.works {f : Effect} (h : Does e now f e') : Works e e' := by
  cases h with
  | edit change => exact .of_event (x := .edit now e.selected change) rfl rfl
  | add => exact .of_event (x := .add now) rfl rfl
  | remove =>
    rw [removeCurrent_eq]
    exact .of_event (x := .remove now e.selected) rfl rfl
  | page => exact .of_event (x := .more) rfl rfl
  | reload => exact .of_event (x := .awaitCorpus) rfl rfl
  | _ => exact .of_session_eq rfl

theorem works_recompute (e : Editor) (now : Micros) : Works e (e.recompute now) := by
  rw [recompute_eq]
  exact .of_event (x := .tick now) rfl rfl

theorem works_settle (e : Editor) (outcome : Except LoadError (List Word)) :
    Works e (e.settle outcome) :=
  .of_event (x := .receiveCorpus (outcome.mapError LoadError.message)) rfl rfl

theorem works_tick (e : Editor) (now : Micros)
    (outcome : Option (Except LoadError (List Word))) : Works e (e.tick now outcome) := by
  rcases tick_cases e now outcome with ⟨-, htick⟩ | ⟨o, -, -, -, htick⟩
  · rw [htick]
    exact works_recompute e now
  · rw [htick]
    exact (works_settle e o).trans (works_recompute _ now)

/-- **Keys and ticks change the session by events of the session.** -/
theorem works_after (e : Editor) (event : Event) : Works e (e.after event) := by
  cases event with
  | press now key held => exact (does_press e now key held).works
  | tick now outcome => exact works_tick e now outcome

theorem run_concat (e : Editor) (events : List Event) (x : Event) :
    e.run (events ++ [x]) = (e.run events).after x := by
  simp [run]

theorem works_run (e : Editor) (events : List Event) : Works e (e.run events) := by
  induction events generalizing e with
  | nil => exact .of_session_eq rfl
  | cons x rest ih => exact (works_after e x).trans (ih (e.after x))

end Editor

end WordSieve
