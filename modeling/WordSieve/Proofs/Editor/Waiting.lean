import WordSieve.Proofs.Editor.Operations
import WordSieve.Proofs.Session.Recomputes

/-!
# How long the next tick may be put off

A tick is needed for two things, for a recompute once it is due and for the outcome of a load. The
wait is exact about the first: a tick after that long runs the recompute, and none before does
(`tick_iff_wait`). About the second it looks only while nothing is pending. A pending recompute
decides the wait alone, and a load that ends meanwhile is noticed when the recompute is due. At worst
that takes as long as the delay of the timer, for no change was made later than now.
-/

set_option autoImplicit false

namespace WordSieve

/-! ## The timer -/

namespace Timer

/-- All that a key or a tick at a moment does to a timer. -/
inductive Moved (t : Timer) (now : Micros) : Timer → Prop where
  | same : Moved t now t
  | cancel : Moved t now t.cancel
  | schedule : Moved t now (t.schedule now)

/-- The delay of the timer is the one given, and it puts nothing off further than that. -/
structure Within (delay now : Micros) (t : Timer) : Prop where
  delay_eq : t.delay = delay
  due_le : ∀ due, t.due = some due → due ≤ now + delay

variable {t t' : Timer} {now moment delay : Micros}

theorem Within.moved (h : t.Within delay now) (hmoment : moment ≤ now) (hmoved : Moved t moment t') :
    t'.Within delay now := by
  cases hmoved with
  | same => exact h
  | cancel => exact ⟨h.delay_eq, nofun⟩
  | schedule =>
    refine ⟨h.delay_eq, fun due hdue => ?_⟩
    obtain rfl := Option.some.inj hdue
    rw [h.delay_eq]
    exact Nat.add_le_add_right hmoment delay

end Timer

namespace Session

open Timer (Moved)

theorem moved_of_change {s t : Session} {now : Micros}
    (h : t = s ∨ ∃ criteria, t = s.accept now criteria) : Moved s.timer now t.timer := by
  rcases h with rfl | ⟨criteria, rfl⟩
  · exact .same
  · exact .schedule

theorem moved_tick (s : Session) (now moment : Micros) :
    Moved s.timer moment (s.tick now).2.timer := by
  cases h : s.timer.isDue now with
  | true =>
    rw [tick_of_due h]
    exact .cancel
  | false =>
    rw [tick_of_not_due h]
    exact .same

theorem Fresh.within {s : Session} (h : s.Fresh) (now : Micros) :
    s.timer.Within s.timer.delay now := by
  cases h with
  | start config => exact ⟨rfl, nofun⟩
  | ofCorpus corpus config => exact ⟨rfl, nofun⟩

end Session

namespace Editor

open Timer (Moved)

variable {e e' : Editor} {now : Micros} {f : Effect}

/-- The moment of an event. -/
def Event.moment : Event → Micros
  | .press now _ _ => now
  | .tick now _ => now

theorem Does.moved (h : Does e now f e') : Moved e.session.timer now e'.session.timer := by
  cases h with
  | edit change => exact Session.moved_of_change (Session.edit_cases _ now _ _)
  | add => exact .schedule
  | remove =>
    rw [removeCurrent_eq]
    exact Session.moved_of_change (Session.remove_cases _ now _)
  | _ => exact .same

theorem moved_after (e : Editor) (x : Event) :
    Moved e.session.timer x.moment (e.after x).session.timer := by
  cases x with
  | press now key held => exact (does_press e now key held).moved
  | tick now outcome =>
    rcases tick_cases e now outcome with ⟨-, htick⟩ | ⟨o, -, -, -, htick⟩
    · rw [after, htick, recompute_eq]
      exact Session.moved_tick e.session now now
    · rw [after, htick, recompute_eq, ← timer_settle e o]
      exact Session.moved_tick (e.settle o).session now now

theorem within_run {delay : Micros} (h : e.session.timer.Within delay now) {events : List Event}
    (hmoments : ∀ x ∈ events, x.moment ≤ now) : (e.run events).session.timer.Within delay now := by
  induction events generalizing e with
  | nil => exact h
  | cons x rest ih =>
    obtain ⟨hx, hrest⟩ := List.forall_mem_cons.mp hmoments
    exact ih (h.moved hx (moved_after e x)) hrest

/-! ## The wait -/

theorem wait_of_due {due : Micros} (h : e.session.timer.due = some due) (now : Micros) :
    e.wait now = due - now := by
  simp [wait, Session.timeLeft?, Timer.remaining?, h]

theorem wait_of_idle (h : e.session.isPending = false) (now : Micros) :
    e.wait now = if e.awaiting then loadingWait else idleWait := by
  have hnone : e.session.timer.due = none :=
    Option.not_isSome_iff_eq_none.mp (Bool.eq_false_iff.mp h)
  simp [wait, Session.timeLeft?, Timer.remaining?, hnone]

theorem exists_due (h : e.session.isPending = true) : ∃ due, e.session.timer.due = some due :=
  Option.isSome_iff_exists.mp h

/-- **A recompute that is pending runs with the first tick after the wait.** -/
theorem tick_iff_wait (h : e.session.isPending = true) {later : Micros} (hlater : now ≤ later) :
    (e.session.tick later).1 = true ↔ now + e.wait now ≤ later := by
  obtain ⟨due, hdue⟩ := exists_due h
  have hsum : ∀ a b c : Nat, a ≤ c → (a + (b - a) ≤ c ↔ b ≤ c) := by omega
  rw [Session.tick_fst, Timer.isDue_iff, wait_of_due hdue now, hsum now due later hlater]
  constructor
  · rintro ⟨due', hdue', hle⟩
    obtain rfl := Option.some.inj (hdue.symm.trans hdue')
    exact hle
  · intro hle
    exact ⟨due, hdue, hle⟩

/-- While a load is awaited the wait is short enough for it just when no recompute is pending that
is due later. -/
theorem wait_le_iff (h : e.awaiting = true) (now : Micros) :
    e.wait now ≤ loadingWait ↔
      (e.session.isPending = true → (e.session.tick (now + loadingWait)).1 = true) := by
  cases hpending : e.session.isPending with
  | true =>
    rw [tick_iff_wait hpending (Nat.le_add_right now loadingWait), Nat.add_le_add_iff_left]
    exact ⟨fun hle _ => hle, fun hle => hle rfl⟩
  | false =>
    rw [wait_of_idle hpending, h]
    exact ⟨fun _ hfalse => absurd hfalse Bool.false_ne_true, fun _ => Nat.le_refl _⟩

/-- A change that was made by now is due at the latest once the delay has passed. -/
theorem wait_le_of_within {delay : Micros} (h : e.session.timer.Within delay now)
    (hawaiting : e.awaiting = true) : e.wait now ≤ max delay loadingWait := by
  cases hpending : e.session.isPending with
  | true =>
    obtain ⟨due, hdue⟩ := exists_due hpending
    have hdelay : due - now ≤ delay := Nat.sub_le_iff_le_add'.mpr (h.due_le due hdue)
    rw [wait_of_due hdue]
    exact Nat.le_trans hdelay (Nat.le_max_left _ _)
  | false =>
    rw [wait_of_idle hpending, hawaiting]
    exact Nat.le_max_right _ _

/-- A load that has ended is noticed with the next tick. -/
theorem awaiting_tick (h : e.awaiting = true) (later : Micros)
    (outcome : Except LoadError (List Word)) :
    (e.tick later (some outcome)).awaiting = false := by
  rw [tick_of_awaiting h, recompute_eq]
  rfl

/-- **How long an editor may wait**, after any keys and ticks and at any moment. If a recompute is
pending the wait ends when it is due: a tick from then on runs it, and no tick from now on that
comes sooner does. If none is, the wait is the one for a load in flight, or the one for nothing.
A load in flight is noticed with the first tick after it has ended, whatever is pending. That wait
is no longer than the one for a load, unless a recompute is pending that is due only after that, and
then it is no longer than the delay. -/
theorem run_wait {s : Session} (hs : s.Fresh) (source : WordSource) (events : List Event)
    (now : Micros) :
    let e := (start s source).run events
    (e.session.isPending = true →
      (∀ later, now ≤ later →
        ((e.session.tick later).1 = true ↔ now + e.wait now ≤ later))) ∧
    (e.session.isPending = false → e.wait now = if e.awaiting then loadingWait else idleWait) ∧
    (e.awaiting = true →
      (∀ later outcome, (e.tick later (some outcome)).awaiting = false) ∧
      (e.wait now ≤ loadingWait ↔
        (e.session.isPending = true → (e.session.tick (now + loadingWait)).1 = true)) ∧
      ((∀ x ∈ events, x.moment ≤ now) → e.wait now ≤ max s.timer.delay loadingWait)) := by
  intro e
  refine ⟨fun hpending later hlater => tick_iff_wait hpending hlater,
    fun hidle => wait_of_idle hidle now,
    fun hawaiting => ⟨awaiting_tick hawaiting, wait_le_iff hawaiting now, fun hmoments => ?_⟩⟩
  have hstart : (start s source).session.timer.Within s.timer.delay now := hs.within now
  exact wait_le_of_within (within_run hstart hmoments) hawaiting

/-- A letter typed while the words are still loading. -/
def typingWhileLoading : List Event :=
  [Key.enter, .char 'p'].map fun key =>
    .press 0 key { control := false, alt := false, shift := false }

/-- With a delay of 60 seconds the letter is recomputed with the first tick after 60 seconds, and
that is also how long the load may have to wait. -/
theorem run_wait_typingWhileLoading :
    let s := Session.start { pageSize := 2, delay := 60000000 }
    let e := (start s .embedded).run typingWhileLoading
    s.Fresh ∧ e.session.isPending = true ∧ e.awaiting = true ∧
      (∀ x ∈ typingWhileLoading, x.moment ≤ 0) ∧ (e.session.tick 59999999).1 = false ∧
      (e.session.tick 60000000).1 = true ∧ e.wait 0 ≤ max s.timer.delay loadingWait := by
  intro s e
  have hs : s.Fresh := .start _
  have hpending : e.session.isPending = true := by decide +kernel
  have hawaiting : e.awaiting = true := by decide +kernel
  have hwait : e.wait 0 = 60000000 := by decide +kernel
  have hmoments : ∀ x ∈ typingWhileLoading, x.moment ≤ 0 := by decide
  obtain ⟨hdue, -, hload⟩ := run_wait hs .embedded typingWhileLoading 0
  have htick := hdue hpending
  refine ⟨hs, hpending, hawaiting, hmoments, ?_, ?_, (hload hawaiting).2.2 hmoments⟩
  · rw [Bool.eq_false_iff, Ne, htick _ (Nat.zero_le _), hwait]
    decide
  · exact (htick _ (Nat.zero_le _)).mpr (Nat.le_of_eq ((Nat.zero_add _).trans hwait))

/-- The wait for a recompute may be longer than the wait for a load, although one is in flight. -/
theorem load_waits_for_recompute :
    let e := (start (Session.start { pageSize := 2, delay := 60000000 }) .embedded).run
      typingWhileLoading
    e.awaiting = true ∧ e.wait 0 = 60000000 ∧ ¬ e.wait 0 ≤ loadingWait := by
  decide +kernel

end Editor

end WordSieve
