import WordSieve.Proofs.Session.History
import WordSieve.Proofs.Timer.History

/-!
# When a session recomputes

A timer has one slot for a deadline, and a session counts its recomputes with one number. Here both
are held against the whole history: the slot is the moment of the latest accepted change after the
last recompute, put off by the delay (`Session.Accounted`), and the number is that of the events
that said they recomputed. What a tick or a flush answers then follows from the history alone.

Between two changes of the criteria a session recomputes once at most, so a burst of edits costs one
recompute however it is polled.
-/

set_option autoImplicit false

namespace WordSieve

namespace Session

variable {s : Session} {log : List Entry}

/-! ## Answers -/

theorem tick_fst (s : Session) (now : Micros) : (s.tick now).1 = s.timer.isDue now := by
  cases h : s.timer.isDue now with
  | true => rw [tick_of_due h]
  | false => rw [tick_of_not_due h]

theorem flush_fst (s : Session) : s.flush.1 = s.isPending := by
  cases h : s.isPending with
  | true => rw [flush_of_pending h]
  | false => rw [flush_of_idle h]

/-! ## The account of a history -/

/-- The timer and the count of a session agree with its history. -/
structure Accounted (delay : Micros) (log : List Entry) (s : Session) : Prop where
  delay_eq : s.timer.delay = delay
  /-- The pending run belongs to the latest change that no recompute has seen. -/
  due_eq : s.timer.due = (openChange? log).map (· + delay)
  recomputes_eq : s.recomputes = log.countP (·.isRecompute)

theorem Fresh.accounted (h : s.Fresh) : Accounted s.timer.delay [] s := by
  cases h with
  | start config => exact ⟨rfl, rfl, rfl⟩
  | ofCorpus corpus config => exact ⟨rfl, rfl, rfl⟩

theorem Accounted.after {delay : Micros} (h : Accounted delay log s) (e : Event) :
    Accounted delay (log ++ [s.entry e]) (s.after e) := by
  have hcount : (log ++ [s.entry e]).countP (·.isRecompute) =
      s.recomputes + if (s.entry e).isRecompute then 1 else 0 := by
    rw [List.countP_append, List.countP_singleton, ← h.recomputes_eq]
  rcases after_cases s e with ⟨hrec, heq⟩ | ⟨hrec, now, hat, heq⟩ | ⟨hrec, hat, -, hsupplied⟩
  -- A recompute leaves no change open and nothing pending.
  · rw [hrec, if_pos rfl] at hcount
    rw [heq]
    refine ⟨h.delay_eq, ?_, hcount.symm⟩
    rw [openChange?_concat, hrec, if_pos rfl]
    rfl
  -- A change is the latest one, whatever was open before it.
  · rw [hrec, if_neg Bool.false_ne_true] at hcount
    rw [heq]
    refine ⟨h.delay_eq, ?_, hcount.symm⟩
    rw [openChange?_concat, hrec, if_neg Bool.false_ne_true, hat, ← h.delay_eq]
    rfl
  · rw [hrec, if_neg Bool.false_ne_true] at hcount
    obtain ⟨-, -, htimer, hrecomputes⟩ := hsupplied.keeps
    refine ⟨htimer ▸ h.delay_eq, ?_, hrecomputes.trans hcount.symm⟩
    rw [openChange?_concat, hrec, if_neg Bool.false_ne_true, hat, htimer, h.due_eq, Option.none_or]

theorem Fresh.accounted_run (hs : s.Fresh) (events : List Event) :
    Accounted s.timer.delay (s.history events) (s.run events) :=
  run_induction hs.accounted (fun _ _ e h => h.after e) events

theorem Accounted.tick_iff {delay : Micros} (h : Accounted delay log s) (now : Micros) :
    (s.tick now).1 = true ↔ ∃ made, openChange? log = some made ∧ made + delay ≤ now := by
  rw [tick_fst, Timer.isDue_iff, h.due_eq]
  constructor
  · rintro ⟨due, hdue, hle⟩
    obtain ⟨made, hmade, rfl⟩ := Option.map_eq_some_iff.mp hdue
    exact ⟨made, hmade, hle⟩
  · rintro ⟨made, hmade, hle⟩
    exact ⟨_, Option.map_eq_some_iff.mpr ⟨made, hmade, rfl⟩, hle⟩

theorem Accounted.flush_iff {delay : Micros} (h : Accounted delay log s) :
    s.flush.1 = true ↔ ∃ made, openChange? log = some made := by
  rw [flush_fst, isPending, Timer.isPending, h.due_eq, Option.isSome_map, Option.isSome_iff_exists]

/-! ## Bursts -/

/-- Whether an event asks for a change of one criterion. -/
def Event.isEdit : Event → Bool
  | .add _ | .remove _ _ | .edit _ _ _ => true
  | .setCriteria _ | .awaitCorpus | .receiveCorpus _ | .more | .tick _ | .flush => false

/-- Whether an event asks for no change of the criteria. -/
def Event.keepsCriteria : Event → Bool
  | .awaitCorpus | .receiveCorpus _ | .more | .tick _ | .flush => true
  | .setCriteria _ | .add _ | .remove _ _ | .edit _ _ _ => false

theorem isRecompute_of_isEdit {e : Event} (h : e.isEdit = true) :
    (s.entry e).isRecompute = false := by
  cases e with
  | add now => rfl
  | remove now index => rfl
  | edit now index e => rfl
  | _ => exact absurd h Bool.false_ne_true

theorem recomputes_run_of_isEdit {burst : List Event} (h : ∀ e ∈ burst, e.isEdit = true) :
    (s.run burst).recomputes = s.recomputes := by
  induction burst generalizing s with
  | nil => rfl
  | cons e rest ih =>
    have hrest := ih (s := s.after e) fun e' he' => h e' (List.mem_cons_of_mem e he')
    have hfirst : (s.entry e).isRecompute = false :=
      isRecompute_of_isEdit (h e List.mem_cons_self)
    refine hrest.trans ?_
    rcases after_cases s e with ⟨hrec, -⟩ | ⟨-, now, -, heq⟩ | ⟨-, -, -, hsupplied⟩
    · rw [hfirst] at hrec
      exact absurd hrec Bool.false_ne_true
    · rw [heq]
      rfl
    · exact hsupplied.keeps.2.2.2

/-- The recomputes a session has run and the one that is pending. -/
def dues (s : Session) : Nat :=
  s.recomputes + if s.isPending then 1 else 0

/-- Unless it replaces the criteria, an event runs a recompute only where one is pending. -/
theorem isPending_of_isRecompute {e : Event} (h : e.keepsCriteria = true)
    (hrec : (s.entry e).isRecompute = true) : s.isPending = true := by
  cases e with
  | tick now =>
    obtain ⟨due, hdue, -⟩ := Timer.isDue_iff.mp ((tick_fst s now).symm.trans hrec)
    rw [isPending, Timer.isPending, hdue]
    rfl
  | flush => exact (flush_fst s).symm.trans hrec
  | setCriteria items => exact absurd h Bool.false_ne_true
  | _ => exact absurd hrec Bool.false_ne_true

/-- An event that asks for no change makes no recompute due: it at most runs the pending one. -/
theorem dues_after_le {e : Event} (h : e.keepsCriteria = true) : (s.after e).dues ≤ s.dues := by
  rcases after_cases s e with ⟨hrec, heq⟩ | ⟨-, now, hat, -⟩ | ⟨-, -, -, hsupplied⟩
  · have hpending := isPending_of_isRecompute h hrec
    rw [heq, dues, dues, hpending]
    exact Nat.le_refl _
  · cases e with
    | setCriteria items => exact absurd h Bool.false_ne_true
    | add now => exact absurd h Bool.false_ne_true
    | remove now index => exact absurd h Bool.false_ne_true
    | edit now index e => exact absurd h Bool.false_ne_true
    | _ => exact absurd hat (by simp [entry, Entry.changedAt?])
  · obtain ⟨-, -, htimer, hrecomputes⟩ := hsupplied.keeps
    have hsame : (s.after e).dues = s.dues := by
      rw [dues, dues, isPending, isPending, htimer, hrecomputes]
    exact Nat.le_of_eq hsame

/-- However long a session is polled without a change, it recomputes once at most. -/
theorem recomputes_run_le {rest : List Event} (h : ∀ e ∈ rest, e.keepsCriteria = true) :
    (s.run rest).recomputes ≤ s.recomputes + 1 := by
  have hdues : (s.run rest).dues ≤ s.dues := by
    induction rest generalizing s with
    | nil => exact Nat.le_refl _
    | cons e rest ih =>
      have hrest := ih (s := s.after e) fun e' he' => h e' (List.mem_cons_of_mem e he')
      exact Nat.le_trans hrest (dues_after_le (h e List.mem_cons_self))
  calc (s.run rest).recomputes ≤ (s.run rest).dues := Nat.le_add_right _ _
    _ ≤ s.dues := hdues
    _ ≤ s.recomputes + 1 := by unfold dues; split <;> omega

/-! ## The whole account -/

/-- The criteria of a session are what its events made of those it began with. -/
theorem criteria_run (s : Session) (events : List Event) :
    (s.run events).criteria = events.foldl Event.applyTo s.criteria := by
  induction events generalizing s with
  | nil => rfl
  | cons e rest ih =>
    refine (ih (s.after e)).trans ?_
    rw [criteria_after, List.foldl_cons]

/-- A recompute finds all the criteria in place and leaves nothing pending. -/
theorem condition_after_of_isRecompute {e : Event} (h : (s.entry e).isRecompute = true) :
    (s.after e).condition = .ofCriteria (e.applyTo s.criteria).items ∧
      (s.after e).isPending = false := by
  rcases after_cases s e with ⟨-, heq⟩ | ⟨hrec, -⟩ | ⟨hrec, -⟩
  · rw [heq]
    exact ⟨rfl, rfl⟩
  · exact absurd (h.symm.trans hrec) Bool.noConfusion
  · exact absurd (h.symm.trans hrec) Bool.noConfusion

/-- **What a session recomputes, and when, is told by its history.** A tick runs a recompute just
when a change was accepted after the last recompute and the latest such change lies at least the
delay back; a flush just when there is such a change. The recomputes counted are those the history
shows, so a burst of edits costs one at most, however it is polled after; and a recompute sees every
change accepted until then. A change of a place where there is no criterion is refused and leaves
the whole session as it was. -/
theorem run_recompute_account (hs : s.Fresh) (events : List Event) :
    let t := s.run events
    let log := s.history events
    (∀ now, (t.tick now).1 = true ↔
      ∃ made, openChange? log = some made ∧ made + s.timer.delay ≤ now) ∧
    (t.flush.1 = true ↔ ∃ made, openChange? log = some made) ∧
    t.recomputes = log.countP (·.isRecompute) ∧
    (∀ burst rest : List Event, (∀ e ∈ burst, e.isEdit = true) →
      (∀ e ∈ rest, e.keepsCriteria = true) →
      (t.run (burst ++ rest)).recomputes ≤ t.recomputes + 1) ∧
    t.criteria = events.foldl Event.applyTo s.criteria ∧
    (∀ e, (t.entry e).isRecompute = true →
      (t.after e).condition = .ofCriteria (e.applyTo t.criteria).items ∧
        (t.after e).isPending = false) ∧
    ∀ now index e,
      (index < t.criteria.size → (t.remove now index).1 = true ∧ (t.edit now index e).1 = true) ∧
      (¬ index < t.criteria.size →
        t.remove now index = (false, t) ∧ t.edit now index e = (false, t)) := by
  intro t log
  have h : Accounted s.timer.delay log t := hs.accounted_run events
  refine ⟨h.tick_iff, h.flush_iff, h.recomputes_eq, fun burst rest hburst hrest => ?_,
    criteria_run s events, fun e hrec => condition_after_of_isRecompute hrec, fun now index e => ?_⟩
  -- The burst itself runs none, so what comes after it has at most its one to run.
  · rw [run_append, ← recomputes_run_of_isEdit (s := t) hburst]
    exact recomputes_run_le hrest
  · constructor
    · intro hlt
      rw [remove_of_lt hlt, edit_of_lt hlt]
      exact ⟨rfl, rfl⟩
    · intro hlt
      exact ⟨remove_of_not_lt hlt, edit_of_not_lt hlt⟩

/-- Two edits and a removal that is refused, with a tick between that comes too early. -/
def slowTyping : List Event :=
  [.edit 0 0 (.letters ['p']), .edit 40 0 (.letters ['p', 'l']), .remove 45 7, .tick 60]

/-- With a delay of 50 the recompute runs 50 after the second edit: the refused removal, later than
that edit, does not put it off. -/
theorem run_recompute_account_slowTyping :
    let s := start { pageSize := 2, delay := 50 }
    let t := s.run slowTyping
    s.Fresh ∧ openChange? (s.history slowTyping) = some 40 ∧ (t.tick 89).1 = false ∧
      (t.tick 90).1 = true ∧ t.recomputes = 0 ∧
      ((t.run ([.edit 70 0 (.letters ['q']), .remove 71 0] ++ [.tick 121, .flush])).recomputes ≤ 1) ∧
      t.remove 80 1 = (false, t) := by
  intro s t
  have hs : s.Fresh := .start _
  have hopen : openChange? (s.history slowTyping) = some 40 := by decide
  obtain ⟨htick, -, hcount, hburst, -, -, hplace⟩ := run_recompute_account hs slowTyping
  have hzero : t.recomputes = 0 := hcount.trans (by decide)
  refine ⟨hs, hopen, ?_, (htick 90).mpr ⟨40, hopen, by decide⟩, hzero, ?_, ?_⟩
  · rw [Bool.eq_false_iff, Ne, htick 89, hopen]
    rintro ⟨made, hmade, hle⟩
    obtain rfl := Option.some.inj hmade
    exact absurd hle (by decide)
  · have hle := hburst [.edit 70 0 (.letters ['q']), .remove 71 0] [.tick 121, .flush]
      (by decide) (by decide)
    rwa [hzero] at hle
  · exact ((hplace 80 1 (.letters [])).2 (by decide)).1

end Session

end WordSieve
