import WordSieve.Proofs.Editor.Cursor
import WordSieve.Proofs.Session.Loads

/-!
# The life of a load

Whether a load is in flight is known to the editor, and how it went to the session. The two are
changed by different operations, and which comes next is up to the keys and to the loads themselves.
`Editor.Stage` is where they can be together: a load is in flight, the last one failed, or one has
brought the words. It also counts what was seen so far, the outcomes taken in and the loads started,
and so tells that no load is started beside another and no outcome taken in twice.

An outcome may come with any tick, or never. A load that ends without an outcome counts as one that
failed.
-/

set_option autoImplicit false

namespace WordSieve

namespace Editor

open Session (SameLoad)

variable {e e' : Editor} {now : Micros} {f : Effect}

theorem Does.takes_eq (h : Does e now f e') : f.takes = none := by
  cases h <;> rfl

/-- The one thing that starts a load. -/
theorem Does.of_loads (h : Does e now f e') (hloads : f.loads = true) :
    ∃ reason, e.session.status = .failed reason ∧
      e' = (e.say e.reloadMessage.text e.reloadMessage.tone).startLoad := by
  cases h with
  | reload hfailed => exact ⟨_, hfailed, rfl⟩
  | _ => exact absurd hloads Bool.noConfusion

/-- A key that starts no load leaves it alone. -/
theorem Does.sameLoad (h : Does e now f e') (hloads : f.loads = false) :
    e'.awaiting = e.awaiting ∧ SameLoad e.session e'.session := by
  cases h with
  | edit change => exact ⟨rfl, Session.sameLoad_of_change (Session.edit_cases _ now _ _)⟩
  | remove =>
    rw [removeCurrent_eq]
    exact ⟨rfl, Session.sameLoad_of_change (Session.remove_cases _ now _)⟩
  | reload => exact absurd hloads Bool.noConfusion
  | _ => exact ⟨rfl, rfl, rfl⟩

theorem sameLoad_recompute (e : Editor) (now : Micros) :
    (e.recompute now).awaiting = e.awaiting ∧ SameLoad e.session (e.recompute now).session := by
  rw [recompute_eq]
  exact ⟨rfl, Session.sameLoad_tick _ _⟩

/-! ## Stages -/

/-- How far the load has come: whether one is in flight, the status, the corpus, the outcomes taken
in so far, and how many loads were started. -/
inductive Stage : Bool → LoadStatus → Array Word → List (Except LoadError (List Word)) → Nat → Prop
    where
  | loading (failures : List LoadError) :
      Stage true .loading #[] (failures.map .error) (failures.length + 1)
  | failed (failures : List LoadError) (last : LoadError) :
      Stage false (.failed last.message) #[] ((failures ++ [last]).map .error)
        (failures.length + 1)
  | loaded (failures : List LoadError) (words : List Word) :
      Stage false (.loaded words.length) words.toArray (failures.map .error ++ [.ok words])
        (failures.length + 1)

variable {status : LoadStatus} {corpus : Array Word}
  {taken : List (Except LoadError (List Word))} {started : Nat}

theorem Stage.reload {awaiting : Bool} {reason : String}
    (h : Stage awaiting (.failed reason) corpus taken started) :
    Stage true .loading corpus taken (started + 1) := by
  generalize hstatus : LoadStatus.failed reason = status at h
  cases h with
  | failed failures last =>
    have hlength : failures.length + 1 = (failures ++ [last]).length := by simp
    rw [hlength]
    exact .loading _
  | loading failures => exact absurd hstatus LoadStatus.noConfusion
  | loaded failures words => exact absurd hstatus LoadStatus.noConfusion

theorem Stage.succeed (h : Stage true status corpus taken started) (words : List Word) :
    Stage false (.loaded words.length) words.toArray (taken ++ [.ok words]) started := by
  cases h with
  | loading failures => exact .loaded failures words

theorem Stage.fail (h : Stage true status corpus taken started) (error : LoadError) :
    Stage false (.failed error.message) corpus (taken ++ [.error error]) started := by
  cases h with
  | loading failures =>
    have hmore : failures.map .error ++ [.error error] =
        (failures ++ [error]).map (Except.error : _ → Except LoadError (List Word)) := by
      simp
    rw [hmore]
    exact .failed failures error

/-- The editor stands at a stage. -/
def AtStage (e : Editor) (taken : List (Except LoadError (List Word))) (started : Nat) : Prop :=
  Stage e.awaiting e.session.status e.session.sieve.corpus taken started

theorem AtStage.congr (h : AtStage e taken started)
    (hsame : e'.awaiting = e.awaiting ∧ SameLoad e.session e'.session) :
    AtStage e' taken started := by
  obtain ⟨hawaiting, hstatus, hcorpus⟩ := hsame
  rw [AtStage, hawaiting, hstatus, hcorpus]
  exact h

theorem AtStage.settle (h : AtStage e taken started) (hawaiting : e.awaiting = true)
    (outcome : Except LoadError (List Word)) :
    AtStage (e.settle outcome) (taken ++ [outcome]) started := by
  rw [AtStage, hawaiting] at h
  cases outcome with
  | ok words =>
    have hcorpus : (e.settle (.ok words)).session.sieve.corpus = words.toArray :=
      Sieve.corpus_setCorpus _ _ _
    rw [AtStage, hcorpus]
    exact h.succeed words
  | error error => exact h.fail error

theorem AtStage.after (h : AtStage e taken started) (x : Event) :
    AtStage (e.after x) (taken ++ (e.effect x).takes.toList)
      (started + if (e.effect x).loads then 1 else 0) := by
  cases x with
  | press now key held =>
    have hdoes := does_press e now key held
    show AtStage (e.press now key held) (taken ++ (e.keyEffect key held).takes.toList)
      (started + if (e.keyEffect key held).loads then 1 else 0)
    rw [hdoes.takes_eq, Option.toList_none, List.append_nil]
    cases hloads : (e.keyEffect key held).loads with
    | true =>
      obtain ⟨reason, hfailed, hpress⟩ := hdoes.of_loads hloads
      rw [AtStage, hfailed] at h
      rw [hpress]
      exact h.reload
    | false => exact h.congr (hdoes.sameLoad hloads)
  | tick now outcome =>
    show AtStage (e.tick now outcome) (taken ++ (e.tickEffect outcome).takes.toList) started
    rcases tick_cases e now outcome with ⟨heffect, htick⟩ | ⟨o, -, hawaiting, heffect, htick⟩
    · rw [heffect, htick, Option.toList_none, List.append_nil]
      exact h.congr (sameLoad_recompute e now)
    · rw [heffect, htick]
      exact (h.settle hawaiting o).congr (sameLoad_recompute _ now)

/-- The outcomes that the events bring and the editor takes in. -/
def takenIn (e : Editor) (events : List Event) : List (Except LoadError (List Word)) :=
  (e.effects events).filterMap (·.takes)

/-- How many loads the events start. -/
def loadsStarted (e : Editor) (events : List Event) : Nat :=
  (e.effects events).countP (·.loads)

theorem takenIn_cons (e : Editor) (x : Event) (rest : List Event) :
    e.takenIn (x :: rest) = (e.effect x).takes.toList ++ (e.after x).takenIn rest := by
  simp only [takenIn, effects, List.filterMap_cons]
  cases (e.effect x).takes <;> rfl

theorem loadsStarted_cons (e : Editor) (x : Event) (rest : List Event) :
    e.loadsStarted (x :: rest) =
      (if (e.effect x).loads then 1 else 0) + (e.after x).loadsStarted rest := by
  simp only [loadsStarted, effects, List.countP_cons]
  omega

theorem AtStage.run (h : AtStage e taken started) (events : List Event) :
    AtStage (e.run events) (taken ++ e.takenIn events) (started + e.loadsStarted events) := by
  induction events generalizing e taken started with
  | nil =>
    show AtStage e (taken ++ []) started
    rwa [List.append_nil]
  | cons x rest ih =>
    rw [takenIn_cons, loadsStarted_cons, ← List.append_assoc, ← Nat.add_assoc]
    exact ih (h.after x)

theorem atStage_start (config : SessionConfig) (source : WordSource) :
    AtStage (start (.start config) source) [] 1 :=
  .loading []

/-! ## What a stage tells -/

theorem filterMap_failures (failures : List LoadError) :
    (failures.map (Except.error : _ → Except LoadError (List Word))).filterMap Except.toOption =
      [] := by
  simp [Except.toOption]

theorem Stage.awaiting_iff {awaiting : Bool} (h : Stage awaiting status corpus taken started) :
    awaiting = true ↔ status = .loading := by
  cases h <;> simp

theorem AtStage.not_awaiting (h : AtStage e taken started) {reason : String}
    (hfailed : e.session.status = .failed reason) : e.awaiting = false := by
  cases hawaiting : e.awaiting with
  | false => rfl
  | true => exact absurd (hfailed.symm.trans (h.awaiting_iff.mp hawaiting)) LoadStatus.noConfusion

theorem Stage.started_eq {awaiting : Bool} (h : Stage awaiting status corpus taken started) :
    started = taken.length + if awaiting then 1 else 0 := by
  cases h <;> simp

theorem Stage.without_words {awaiting : Bool} (h : Stage awaiting status corpus taken started)
    (hstatus : ∀ n, status ≠ .loaded n) : corpus = #[] := by
  cases h with
  | loading failures => rfl
  | failed failures last => rfl
  | loaded failures words => exact absurd rfl (hstatus words.length)

theorem Stage.with_words {awaiting : Bool} {n : Nat}
    (h : Stage awaiting status corpus taken started) (hstatus : status = .loaded n) :
    awaiting = false ∧ ∃ words : List Word, taken.filterMap Except.toOption = [words] ∧
      corpus = words.toArray ∧ words.length = n := by
  cases h with
  | loading failures => exact absurd hstatus LoadStatus.noConfusion
  | failed failures last => exact absurd hstatus LoadStatus.noConfusion
  | loaded failures words =>
    refine ⟨rfl, words, ?_, rfl, LoadStatus.loaded.inj hstatus⟩
    rw [List.filterMap_append, filterMap_failures]
    rfl

/-- Where no load is in flight and none failed, nothing touches status and corpus any more. -/
theorem sameLoad_after (hawaiting : e.awaiting = false)
    (hstatus : ∀ reason, e.session.status ≠ .failed reason) (x : Event) :
    (e.after x).awaiting = e.awaiting ∧ SameLoad e.session (e.after x).session := by
  cases x with
  | press now key held =>
    have hdoes := does_press e now key held
    cases hloads : (e.keyEffect key held).loads with
    | false => exact hdoes.sameLoad hloads
    | true =>
      obtain ⟨reason, hfailed, -⟩ := hdoes.of_loads hloads
      exact absurd hfailed (hstatus reason)
  | tick now outcome =>
    rcases tick_cases e now outcome with ⟨-, htick⟩ | ⟨o, -, hsome, -, -⟩
    · rw [Editor.after, htick]
      exact sameLoad_recompute e now
    · exact absurd (hsome.symm.trans hawaiting) Bool.noConfusion

theorem loaded_run {n : Nat} (hawaiting : e.awaiting = false)
    (hloaded : e.session.status = .loaded n) (events : List Event) :
    SameLoad e.session (e.run events).session := by
  induction events generalizing e with
  | nil => exact ⟨rfl, rfl⟩
  | cons x rest ih =>
    have hstatus : ∀ reason, e.session.status ≠ .failed reason := by
      intro reason hfailed
      exact absurd (hloaded.symm.trans hfailed) LoadStatus.noConfusion
    obtain ⟨hsame, hsession, hcorpus⟩ := sameLoad_after hawaiting hstatus x
    obtain ⟨hstatus', hcorpus'⟩ := ih (hsame.trans hawaiting) (hsession.trans hloaded)
    exact ⟨hstatus'.trans hsession, hcorpus'.trans hcorpus⟩

/-! ## Messages about loads -/

/-- The messages that a key adds are no news of a load. -/
theorem Does.tone_eq (h : Does e now f e') : ∀ m ∈ f.message, m.tone = .info := by
  cases h <;> simp [pageMessage, reloadMessage]

theorem tone_outcomeMessage (outcome : Except LoadError (List Word)) :
    (outcomeMessage outcome).tone ≠ .info := by
  cases outcome <;> exact Tone.noConfusion

/-- Success and failure are told of the outcome that was taken in and of nothing else. -/
theorem news_effect (e : Editor) (x : Event) :
    (e.effect x).message.toList.filter (·.tone ≠ .info) =
      (e.effect x).takes.toList.map outcomeMessage := by
  cases x with
  | press now key held =>
    have hdoes := does_press e now key held
    show (e.keyEffect key held).message.toList.filter _ =
      (e.keyEffect key held).takes.toList.map outcomeMessage
    rw [hdoes.takes_eq, Option.toList_none, List.map_nil, List.filter_eq_nil_iff]
    intro m hm
    simpa using hdoes.tone_eq m (Option.mem_toList.mp hm)
  | tick now outcome =>
    show (e.tickEffect outcome).message.toList.filter _ =
      (e.tickEffect outcome).takes.toList.map outcomeMessage
    rcases tick_cases e now outcome with ⟨heffect, -⟩ | ⟨o, -, -, heffect, -⟩
    · rw [heffect]
      rfl
    · rw [heffect]
      simp [tone_outcomeMessage]

theorem news_spoken (e : Editor) (events : List Event) :
    (e.spoken events).filter (·.tone ≠ .info) = (e.takenIn events).map outcomeMessage := by
  induction events generalizing e with
  | nil => rfl
  | cons x rest ih =>
    rw [spoken_cons, takenIn_cons, List.filter_append, news_effect, ih, List.map_append]

end Editor

end WordSieve
