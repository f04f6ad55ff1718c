import Mathlib.Data.List.Induction
import WordSieve.Timer

/-!
# Histories of a timer

The one slot of a timer stands for all that it was ever asked. A request is open in a history if
nothing came after it but calls that found it not yet due (`OpenRequest`), and the slot holds a
moment just when a request is open: the moment of that request, put off by the delay. Moments may
go back from call to call, so it is the last request that counts and not the latest.

`fire` compares the slot with a moment and `remaining?` takes the one from the other. The difference
stops at zero, and zero is where the comparison turns.
-/

set_option autoImplicit false

namespace WordSieve

namespace Timer

/-! ## What is told, and what is kept of it -/

/-- Whether the call asks for a run. -/
def Call.asks : Call → Bool
  | .schedule _ => true
  | .cancel | .fire _ => false

/-- Whether the call took a run out. -/
def answer (t : Timer) : Call → Bool
  | .fire now => (t.fire now).1
  | .schedule _ | .cancel => false

/-- A call of a history and what came of it. -/
structure Entry where
  call : Call
  fired : Bool
  deriving DecidableEq, Repr

/-- The history that calls make, the earliest first. -/
def history (t : Timer) : List Call → List Entry
  | [] => []
  | c :: rest => { call := c, fired := t.answer c } :: (t.call c).history rest

/-- A request was made at the moment `asked`, and since then there was no other one, nothing was
cancelled and no run was taken out. -/
def OpenRequest (log : List Entry) (asked : Micros) : Prop :=
  ∃ before after, log = before ++ { call := .schedule asked, fired := false } :: after ∧
    ∀ x ∈ after, ∃ now, x = { call := .fire now, fired := false }

theorem calls_concat (t : Timer) (cs : List Call) (c : Call) :
    t.calls (cs ++ [c]) = (t.calls cs).call c := by
  simp [calls]

theorem history_concat (t : Timer) (cs : List Call) (c : Call) :
    t.history (cs ++ [c]) = t.history cs ++ [{ call := c, fired := (t.calls cs).answer c }] := by
  induction cs generalizing t with
  | nil => rfl
  | cons c' rest ih =>
    have hrest := ih (t.call c')
    simp only [List.cons_append, history, hrest]
    rfl

theorem not_openRequest_nil (asked : Micros) : ¬ OpenRequest [] asked := by
  intro h
  obtain ⟨before, after, heq, -⟩ := h
  simp at heq

theorem openRequest_concat {log : List Entry} {x : Entry} {asked : Micros} :
    OpenRequest (log ++ [x]) asked ↔
      x = { call := .schedule asked, fired := false } ∨
        (∃ now, x = { call := .fire now, fired := false }) ∧ OpenRequest log asked := by
  constructor
  · intro h
    obtain ⟨before, after, heq, hafter⟩ := h
    rcases List.eq_nil_or_concat after with rfl | ⟨after, y, rfl⟩
    · obtain ⟨-, hx⟩ := List.append_inj' heq rfl
      exact .inl (List.singleton_inj.mp hx)
    · have hsplit : log ++ [x] =
          (before ++ { call := .schedule asked, fired := false } :: after) ++ [y] := by
        simp [heq]
      obtain ⟨hlog, hx⟩ := List.append_inj' hsplit rfl
      obtain rfl := List.singleton_inj.mp hx
      refine .inr ⟨hafter x (by simp), before, after, hlog, ?_⟩
      intro y hy
      apply hafter
      simp [hy]
  · intro h
    rcases h with rfl | ⟨hx, before, after, rfl, hafter⟩
    · exact ⟨log, [], rfl, by simp⟩
    · refine ⟨before, after ++ [x], by simp, ?_⟩
      intro y hy
      rcases List.mem_append.mp hy with hy | hy
      · exact hafter y hy
      · rw [List.mem_singleton.mp hy]
        exact hx

/-! ## Due or not -/

variable {t : Timer} {now : Micros}

/-- A run is due when one is pending and its moment has come. -/
theorem isDue_iff : t.isDue now = true ↔ ∃ due, t.due = some due ∧ due ≤ now := by
  unfold isDue
  cases t.due with
  | none => simp
  | some due => simp

theorem fire_of_due (h : t.isDue now = true) : t.fire now = (true, t.cancel) :=
  if_pos h

theorem fire_of_not_due (h : t.isDue now = false) : t.fire now = (false, t) := by
  simp [fire, h]

theorem fire_fst (t : Timer) (now : Micros) : (t.fire now).1 = t.isDue now := by
  cases h : t.isDue now with
  | true => rw [fire_of_due h]
  | false => rw [fire_of_not_due h]

theorem isPending_iff : t.isPending = true ↔ ∃ due, t.due = some due :=
  Option.isSome_iff_exists

/-! ## The slot and the history -/

/-- The timer has the delay, and its slot stands for the open request of the history. -/
structure Remembers (delay : Micros) (log : List Entry) (t : Timer) : Prop where
  delay_eq : t.delay = delay
  due_iff : ∀ due, t.due = some due ↔ ∃ asked, OpenRequest log asked ∧ due = asked + delay

variable {delay : Micros} {log : List Entry}

theorem remembers_idle (delay : Micros) : Remembers delay [] (idle delay) := by
  refine ⟨rfl, ?_⟩
  intro due
  simp [idle, not_openRequest_nil]

/-- Every call keeps slot and history together. -/
theorem Remembers.call (h : Remembers delay log t) (c : Call) :
    Remembers delay (log ++ [{ call := c, fired := t.answer c }]) (t.call c) := by
  cases c with
  | schedule now =>
    refine ⟨h.delay_eq, ?_⟩
    intro due
    have hnow : (t.call (.schedule now)).due = some (now + delay) := by
      simp [Timer.call, schedule, h.delay_eq]
    simp [hnow, openRequest_concat, answer, eq_comm]
  | cancel =>
    refine ⟨h.delay_eq, ?_⟩
    intro due
    simp [Timer.call, cancel, openRequest_concat]
  | fire now =>
    cases hdue : t.isDue now with
    | true =>
      -- A run that is taken out closes the request it belonged to.
      refine ⟨by simpa [Timer.call, fire_of_due hdue, cancel] using h.delay_eq, ?_⟩
      intro due
      simp [Timer.call, answer, fire_of_due hdue, cancel, openRequest_concat]
    | false =>
      refine ⟨by simpa [Timer.call, fire_of_not_due hdue] using h.delay_eq, ?_⟩
      intro due
      simpa [Timer.call, answer, fire_of_not_due hdue, openRequest_concat] using h.due_iff due

theorem remembers_calls (delay : Micros) (cs : List Call) :
    Remembers delay ((idle delay).history cs) ((idle delay).calls cs) := by
  induction cs using List.reverseRecOn with
  | nil => exact remembers_idle delay
  | append_singleton cs c ih =>
    rw [history_concat, calls_concat]
    exact ih.call c

theorem Remembers.isPending_iff (h : Remembers delay log t) :
    t.isPending = true ↔ ∃ asked, OpenRequest log asked := by
  rw [Timer.isPending_iff]
  constructor
  · intro hpending
    obtain ⟨due, hdue⟩ := hpending
    obtain ⟨asked, hopen, -⟩ := (h.due_iff due).mp hdue
    exact ⟨asked, hopen⟩
  · intro hopen
    obtain ⟨asked, hopen⟩ := hopen
    exact ⟨asked + delay, (h.due_iff _).mpr ⟨asked, hopen, rfl⟩⟩

theorem Remembers.fire_iff (h : Remembers delay log t) (now : Micros) :
    (t.fire now).1 = true ↔ ∃ asked, OpenRequest log asked ∧ asked + delay ≤ now := by
  rw [fire_fst, isDue_iff]
  constructor
  · intro hdue
    obtain ⟨due, hdue, hle⟩ := hdue
    obtain ⟨asked, hopen, rfl⟩ := (h.due_iff due).mp hdue
    exact ⟨asked, hopen, hle⟩
  · intro hopen
    obtain ⟨asked, hopen, hle⟩ := hopen
    exact ⟨asked + delay, (h.due_iff _).mpr ⟨asked, hopen, rfl⟩, hle⟩

/-! ## One run for each request -/

/-- Without a new request no more runs are taken out than are pending. -/
theorem countP_fired_le {rest : List Call} (h : ∀ c ∈ rest, c.asks = false) :
    (t.history rest).countP (·.fired) ≤ if t.isPending then 1 else 0 := by
  induction rest generalizing t with
  | nil => exact Nat.zero_le _
  | cons c rest ih =>
    obtain ⟨hc, hrest⟩ := List.forall_mem_cons.mp h
    -- Once nothing is pending, nothing is taken out any more.
    have hnone {t' : Timer} (hidle : t'.isPending = false) :
        (t'.history rest).countP (·.fired) = 0 := by
      simpa [hidle] using ih (t := t') hrest
    rw [history, List.countP_cons]
    cases c with
    | schedule moment => exact absurd hc Bool.noConfusion
    | cancel =>
      have hcancel : (t.call .cancel).isPending = false := rfl
      simp [answer, hnone hcancel]
    | fire now =>
      cases hdue : t.isDue now with
      | true =>
        obtain ⟨due, hslot, -⟩ := isDue_iff.mp hdue
        have hpending : t.isPending = true := isPending_iff.mpr ⟨due, hslot⟩
        have hfired : (t.call (.fire now)).isPending = false := by
          simp [Timer.call, fire_of_due hdue, cancel, isPending]
        simp [answer, fire_of_due hdue, hpending, hnone hfired]
      | false =>
        have hsame : t.call (.fire now) = t := by simp [Timer.call, fire_of_not_due hdue]
        simpa [answer, fire_of_not_due hdue, hsame] using ih (t := t) hrest

/-! ## The time that is left -/

theorem isSome_remaining? (t : Timer) (now : Micros) :
    (t.remaining? now).isSome = t.isPending := by
  simp [remaining?, isPending]

theorem remaining?_eq_some_iff {left : Micros} :
    t.remaining? now = some left ↔ ∃ due, t.due = some due ∧ due - now = left := by
  simp [remaining?]

/-- Nothing is left just when the run is due. -/
theorem remaining?_eq_zero_iff : t.remaining? now = some 0 ↔ t.isDue now = true := by
  simp only [remaining?_eq_some_iff, isDue_iff, Nat.sub_eq_zero_iff_le]

theorem isDue_iff_of_remaining? {left later : Micros} (h : t.remaining? now = some left)
    (hleft : 0 < left) : t.isDue later = true ↔ now + left ≤ later := by
  obtain ⟨due, hdue, rfl⟩ := remaining?_eq_some_iff.mp h
  have hsum : now + (due - now) = due :=
    Nat.add_sub_of_le (Nat.le_of_lt (Nat.lt_of_sub_pos hleft))
  simp [isDue, hdue, hsum]

/-- **What a timer does is told by its history.** A run is taken out just when a request is open and
lies at least the delay back. Without another request that happens once at most, however often it is
tried. There is a time left just while a request is open; nothing is left just when a run would be
taken out, and otherwise that happens after the time that is left and not before. -/
theorem calls_account (delay : Micros) (cs : List Call) :
    let t := (idle delay).calls cs
    let log := (idle delay).history cs
    (∀ now, (t.fire now).1 = true ↔ ∃ asked, OpenRequest log asked ∧ asked + delay ≤ now) ∧
    (∀ rest : List Call, (∀ c ∈ rest, c.asks = false) →
      (t.history rest).countP (·.fired) ≤ 1) ∧
    (t.isPending = true ↔ ∃ asked, OpenRequest log asked) ∧
    (∀ now, (t.remaining? now).isSome = t.isPending) ∧
    (∀ now, t.remaining? now = some 0 ↔ (t.fire now).1 = true) ∧
    ∀ now left later, t.remaining? now = some left → 0 < left →
      ((t.fire later).1 = true ↔ now + left ≤ later) := by
  intro t log
  have h : Remembers delay log t := remembers_calls delay cs
  refine ⟨h.fire_iff, ?_, h.isPending_iff, isSome_remaining? t, ?_, ?_⟩
  · intro rest hrest
    calc (t.history rest).countP (·.fired) ≤ if t.isPending then 1 else 0 := countP_fired_le hrest
      _ ≤ 1 := by split <;> omega
  · intro now
    rw [remaining?_eq_zero_iff, fire_fst]
  · intro now left later hremaining hleft
    rw [fire_fst]
    exact isDue_iff_of_remaining? hremaining hleft

/-- Two requests, the second with a moment before that of the first, and polls between them. -/
def clockBack : List Call :=
  [.cancel, .schedule 100, .fire 149, .schedule 40, .fire 60]

/-- It is the second request that counts, although the moment of the first is the later one. -/
theorem calls_account_clockBack :
    let t := (idle 50).calls clockBack
    let log := (idle 50).history clockBack
    OpenRequest log 40 ∧ (t.fire 90).1 = true ∧ t.isPending = true ∧
      t.remaining? 60 = some 30 ∧ (t.fire 89).1 = false ∧ t.remaining? 90 = some 0 ∧
      (t.history [.fire 70, .fire 95, .fire 100, .cancel, .fire 200]).countP (·.fired) ≤ 1 := by
  intro t log
  obtain ⟨hfire, hcount, hpending, -, hzero, hleft⟩ := calls_account 50 clockBack
  have hopen : OpenRequest log 40 := by
    refine ⟨[⟨.cancel, false⟩, ⟨.schedule 100, false⟩, ⟨.fire 149, false⟩], [⟨.fire 60, false⟩],
      by decide, ?_⟩
    intro x hx
    exact ⟨60, List.mem_singleton.mp hx⟩
  have htrue : (t.fire 90).1 = true := (hfire 90).mpr ⟨40, hopen, by decide⟩
  have hremaining : t.remaining? 60 = some 30 := by decide
  refine ⟨hopen, htrue, hpending.mpr ⟨40, hopen⟩, hremaining, ?_, (hzero 90).mpr htrue,
    hcount _ (by decide)⟩
  rw [Bool.eq_false_iff, Ne, hleft 60 30 89 hremaining (by decide)]
  decide

end Timer

end WordSieve
