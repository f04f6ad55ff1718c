import Mathlib.Data.List.TakeWhile
import WordSieve.Proofs.Prompt.Lines
import WordSieve.Proofs.Session.Coherence
import WordSieve.Proofs.Text.Lines

/-!
# Conversations are their commands

A conversation prints and waits between its lines, but for the session it is no more than the lines
that are commands, run in turn: up to the first that quits, the first that is not text, or the end
of the input. Each command is an event of the session with a tick after it, so the session is at
every line one that events lead to. With no delay the tick leaves nothing pending, and then the
results are those of the criteria in place after each line.
-/

set_option autoImplicit false

namespace WordSieve

open Text

/-- A line with its moments. A line that is not text is missing. -/
abbrev TimedLine := Option (List Char) × Moment

variable {s : Session} {m : Moment}

/-! ## One line -/

/-- A command and the tick after it, as they happen to the session. -/
def Command.events (m : Moment) : Command → List Session.Event
  | .add => [.add m.change, .tick m.tick]
  | .remove index => [.remove m.change index, .tick m.tick]
  | .edit index e => [.edit m.change index e, .tick m.tick]
  | .more => [.more, .tick m.tick]
  | .overview | .help => [.tick m.tick]
  | .quit => []

theorem Command.session_run (s : Session) (m : Moment) (c : Command) :
    (c.run s m).session = s.run (c.events m) := by
  cases c with
  | add => exact Command.run_change s m .add
  | remove index => exact Command.run_change s m (.remove index)
  | edit index e => exact Command.run_change s m (.edit index e)
  | more | overview | help | quit => rfl

/-- Whether a conversation goes on after the line: it is text, and no command to quit. -/
def goesOn : Option (List Char) → Bool
  | some line => Command.read line ≠ .ok .quit
  | none => false

/-- The session after a line. A command is run, and any other line leaves the session as it was. -/
def Session.obey (s : Session) : TimedLine → Session
  | (some line, m) =>
    match Command.read line with
    | .ok c => (c.run s m).session
    | .error _ => s
  | (none, _) => s

theorem session_reply (s : Session) (m : Moment) (line : List Char) :
    (reply s m line).session = s.obey (some line, m) := by
  simp only [reply, Command.read_trim, Session.obey]
  cases Command.read line <;> rfl

theorem quit_reply (s : Session) (m : Moment) (line : List Char) :
    (reply s m line).quit = !goesOn (some line) := by
  simp only [reply, Command.read_trim, goesOn]
  cases Command.read line with
  | error e => simp
  | ok c => by_cases hc : c = .quit <;> simp [Command.run, hc]

theorem read_of_not_goesOn {line : List Char} (h : goesOn (some line) = false) :
    Command.read line = .ok .quit := by
  simpa [goesOn] using h

variable {x : TimedLine}

theorem converse_of_goesOn (color : Bool) (s : Session) (h : goesOn x.1 = true)
    (rest : List TimedLine) :
    (converse color s (x :: rest)).session = (converse color (s.obey x) rest).session ∧
      (converse color s (x :: rest)).failed = (converse color (s.obey x) rest).failed := by
  obtain ⟨_ | line, m⟩ := x
  · exact absurd h Bool.false_ne_true
  · have hquit : (reply s m line).quit = false := by
      rw [quit_reply, h]
      rfl
    rw [converse, hquit, session_reply]
    exact ⟨rfl, rfl⟩

theorem converse_of_not_goesOn (color : Bool) (s : Session) (h : goesOn x.1 = false)
    (rest : List TimedLine) :
    (converse color s (x :: rest)).session = s ∧
      (converse color s (x :: rest)).failed = x.1.isNone := by
  obtain ⟨_ | line, m⟩ := x
  · exact ⟨rfl, rfl⟩
  · have hquit : (reply s m line).quit = true := by
      rw [quit_reply, h]
      rfl
    rw [converse, hquit, session_reply, Session.obey, read_of_not_goesOn h]
    exact ⟨rfl, rfl⟩

/-! ## All lines -/

/-- The lines that a conversation comes through. -/
def heard (input : List TimedLine) : List TimedLine :=
  input.takeWhile (goesOn ·.1)

/-- The line that the conversation ends at, and what nobody reads any more. -/
def unheard (input : List TimedLine) : List TimedLine :=
  input.dropWhile (goesOn ·.1)

theorem converse_eq (color : Bool) (s : Session) (input : List TimedLine) :
    (converse color s input).session = (heard input).foldl Session.obey s ∧
      (converse color s input).failed = (unheard input).head?.any (·.1.isNone) := by
  induction input generalizing s with
  | nil => exact ⟨rfl, rfl⟩
  | cons x rest ih =>
    rw [heard, unheard, List.takeWhile_cons, List.dropWhile_cons]
    cases h : goesOn x.1 with
    | true =>
      obtain ⟨hsession, hfailed⟩ := converse_of_goesOn color s h rest
      rw [hsession, hfailed]
      exact ih (s.obey x)
    | false => exact converse_of_not_goesOn color s h rest

/-- A conversation stops at the end of its input, at a command to quit, or at a line that is not
text. -/
theorem unheard_cases (input : List TimedLine) :
    unheard input = [] ∨
      (∃ line m rest, unheard input = (some line, m) :: rest ∧ Command.read line = .ok .quit) ∨
      ∃ m rest, unheard input = (none, m) :: rest := by
  cases h : unheard input with
  | nil => exact .inl rfl
  | cons x rest =>
    have hstops : goesOn x.1 = false := by
      have hhead := List.head?_dropWhile_not (fun x => goesOn x.1) input
      rw [show input.dropWhile (fun x => goesOn x.1) = x :: rest from h] at hhead
      exact hhead
    obtain ⟨_ | line, m⟩ := x
    · exact .inr (.inr ⟨m, rest, rfl⟩)
    · exact .inr (.inl ⟨line, m, rest, rfl, read_of_not_goesOn hstops⟩)

/-! ## The session at each line -/

namespace Session

theorem exists_events_obey (s : Session) (x : TimedLine) :
    ∃ events, s.obey x = s.run events := by
  obtain ⟨_ | line, m⟩ := x
  · exact ⟨[], rfl⟩
  · rw [obey]
    cases Command.read line with
    | ok c => exact ⟨_, Command.session_run s m c⟩
    | error e => exact ⟨[], rfl⟩

theorem exists_events_foldl_obey (s : Session) (lines : List TimedLine) :
    ∃ events, lines.foldl obey s = s.run events := by
  induction lines generalizing s with
  | nil => exact ⟨[], rfl⟩
  | cons x rest ih =>
    obtain ⟨first, hfirst⟩ := s.exists_events_obey x
    obtain ⟨events, hevents⟩ := ih (s.obey x)
    refine ⟨first ++ events, ?_⟩
    rw [List.foldl_cons, hevents, hfirst, run_append]

theorem timer_eq_idle (hdelay : s.timer.delay = 0) (hpending : s.isPending = false) :
    s.timer = .idle 0 := by
  have hdue : s.timer.due = none := by simpa [isPending, Timer.isPending] using hpending
  cases htimer : s.timer with
  | mk delay due =>
    rw [htimer] at hdelay hdue
    exact congrArg₂ Timer.mk hdelay hdue

theorem tick_of_idle (h : s.timer = .idle 0) (now : Micros) : s.tick now = (false, s) := by
  have hdue : s.timer.isDue now = false := by
    rw [h]
    rfl
  exact tick_of_not_due hdue

/-- Without a delay a command leaves nothing pending. -/
theorem timer_command (h : s.timer = .idle 0) (hclock : m.change ≤ m.tick) (c : Command) :
    (s.run (c.events m)).timer = .idle 0 := by
  cases c with
  | add => exact timer_turn h (t := ⟨.add, m⟩) hclock
  | remove index => exact timer_turn h (t := ⟨.remove index, m⟩) hclock
  | edit index e => exact timer_turn h (t := ⟨.edit index e, m⟩) hclock
  | more =>
    have hmore : s.more.timer = .idle 0 := h
    show (s.more.tick m.tick).2.timer = _
    rw [tick_of_idle hmore]
    exact h
  | overview | help =>
    show (s.tick m.tick).2.timer = _
    rw [tick_of_idle h]
    exact h
  | quit => exact h

theorem timer_obey (h : s.timer = .idle 0) (hclock : x.2.change ≤ x.2.tick) :
    (s.obey x).timer = .idle 0 := by
  obtain ⟨_ | line, m⟩ := x
  · exact h
  · rw [obey]
    cases Command.read line with
    | ok c =>
      show (c.run s m).session.timer = _
      rw [Command.session_run]
      exact timer_command h hclock c
    | error e => exact h

theorem timer_foldl_obey {lines : List TimedLine} (h : s.timer = .idle 0)
    (hclock : ∀ x ∈ lines, x.2.change ≤ x.2.tick) : (lines.foldl obey s).timer = .idle 0 := by
  induction lines generalizing s with
  | nil => exact h
  | cons x rest ih =>
    exact ih (timer_obey h (hclock x List.mem_cons_self))
      fun y hy => hclock y (List.mem_cons_of_mem x hy)

/-- While nothing is pending the results are those of the criteria in place. -/
theorem Coherent.results?_eq {initial : List Criterion} {log : List Entry}
    (h : Coherent initial log s) (hidle : s.isPending = false) :
    s.sieve.results? = .ok (s.sieve.corpus.toList.filter fun w =>
      (Condition.ofCriteria s.criteria.items).holds w) := by
  rw [h.sifted.results?_eq, h.idle hidle]

end Session

/-! ## Together -/

/-- **A conversation is its commands.** Its input falls into lines in the one way there is, a last
line without a line feed included. The session at its end is the one that the lines heard make when
each of them that is a command is run. They are all lines, or those before a command to quit, or
those before the first that is not text, and only then the conversation fails. With no delay and
nothing pending at the start nothing is pending after any of them, and condition and results are
those of the criteria in place. -/
theorem converse_run (color : Bool) {bytes : List UInt8} {input : List TimedLine}
    (hinput : input.map (·.1) = inputLines bytes)
    {first : Session} (hfirst : first.Fresh) (history : List Session.Event) :
    let s := first.run history
    let ending := converse color s input
    (∃ lines : List (List UInt8), (∀ line ∈ lines, '\n'.toUInt8 ∉ line) ∧
      lines.flatMap (· ++ ['\n'.toUInt8]) = endLast '\n'.toUInt8 bytes ∧
      input.map (·.1) = lines.map decode) ∧
    input = heard input ++ unheard input ∧
    (∀ x ∈ heard input, goesOn x.1 = true) ∧
    (unheard input = [] ∨
      (∃ line m rest, unheard input = (some line, m) :: rest ∧ Command.read line = .ok .quit) ∨
      ∃ m rest, unheard input = (none, m) :: rest) ∧
    ending.session = (heard input).foldl Session.obey s ∧
    (ending.failed = true ↔ ∃ m rest, unheard input = (none, m) :: rest) ∧
    (s.timer.delay = 0 → s.isPending = false → (∀ x ∈ input, x.2.change ≤ x.2.tick) →
      ∀ done, done <+: heard input →
        let t := done.foldl Session.obey s
        t.isPending = false ∧ t.condition = .ofCriteria t.criteria.items ∧
        t.sieve.results? = .ok (t.sieve.corpus.toList.filter fun w =>
          (Condition.ofCriteria t.criteria.items).holds w)) := by
  intro s ending
  obtain ⟨hsession, hfailed⟩ := converse_eq color s input
  obtain ⟨hlines, htext⟩ := eq_splitLines_iff.mp (Eq.refl (splitLines '\n'.toUInt8 bytes))
  refine ⟨⟨_, hlines, htext, hinput⟩, ?_, ?_, unheard_cases input, hsession, ?_, ?_⟩
  · exact List.takeWhile_append_dropWhile.symm
  · exact fun x hx => List.mem_takeWhile_imp (p := fun x : TimedLine => goesOn x.1) hx
  · rw [hfailed]
    rcases unheard_cases input with hend | ⟨line, m, rest, hquit, -⟩ | ⟨m, rest, hnone⟩
    · simp [hend]
    · simp [hquit]
    · simp [hnone]
  · intro hdelay hpending hclock done hdone t
    have hidle := Session.timer_eq_idle hdelay hpending
    have hclocked : ∀ x ∈ done, x.2.change ≤ x.2.tick := by
      intro x hx
      exact hclock x ((List.takeWhile_prefix _).subset (hdone.subset hx))
    have hstill : t.isPending = false := by
      rw [Session.isPending, Session.timer_foldl_obey hidle hclocked]
      rfl
    obtain ⟨events, hevents⟩ := s.exists_events_foldl_obey done
    have hcoherent := hfirst.coherent_run (history ++ events)
    rw [Session.run_append, ← hevents] at hcoherent
    exact ⟨hstill, hcoherent.idle hstill, hcoherent.results?_eq hstill⟩

/-- A carriage return, a blank line, two lines that are no commands and one that asks for too much,
all before a line that breaks off in the middle of a letter. -/
def brokenInput : List UInt8 :=
  ("set 1 letters ap\r\n\nset 0 kind is\n\tSET 1 Kind Include now\n" ++
      "set 7 kind is\nplease\n").toUTF8.toList ++
    [0x61, 0xC3, 0x0A] ++ "quit".toUTF8.toList

/-- Its lines, ten microseconds apart, each with its tick three later. -/
def brokenLines : List TimedLine :=
  [some "set 1 letters ap\r".toList, some [], some "set 0 kind is".toList,
   some "\tSET 1 Kind Include now".toList, some "set 7 kind is".toList, some "please".toList, none,
   some "quit".toList].mapIdx fun i line => (line, { change := 10 * i, tick := 10 * i + 3 })

theorem converse_run_brokenInput :
    let words := wordsOf ["apple".toList, "amble".toList, "paper".toList]
    let first := Session.ofCorpus words { pageSize := 1, delay := 0 }
    let s := first.run [.edit 0 0 (.letters ['b']), .flush, .more]
    let ending := converse false s brokenLines
    brokenLines.map (·.1) = inputLines brokenInput ∧ first.Fresh ∧ s.timer.delay = 0 ∧
      s.isPending = false ∧ (∀ x ∈ brokenLines, x.2.change ≤ x.2.tick) ∧
      (heard brokenLines).length = 6 ∧
      ending.failed = true ∧
      ending.session.criteria.items =
        [{ kind := .includes, letters := ['a', 'p'], scope := .whole }] ∧
      ending.session.isPending = false ∧
      ending.session.sieve.results? = .ok (wordsOf ["apple".toList, "paper".toList]) := by
  intro words first s ending
  have hinput : brokenLines.map (·.1) = inputLines brokenInput := by decide +kernel
  have hfirst : first.Fresh := .ofCorpus _ _
  have hdelay : s.timer.delay = 0 := by rfl
  have hpending : s.isPending = false := by rfl
  have hclock : ∀ x ∈ brokenLines, x.2.change ≤ x.2.tick := by decide +kernel
  have hend : unheard brokenLines = [(none, { change := 60, tick := 63 }),
      (some "quit".toList, { change := 70, tick := 73 })] := by decide +kernel
  obtain ⟨-, -, -, -, hsession, hfailed, hsettled⟩ := converse_run false hinput hfirst
    [.edit 0 0 (.letters ['b']), .flush, .more]
  obtain ⟨hstill, -, hresults⟩ :=
    hsettled hdelay hpending hclock (heard brokenLines) (List.prefix_refl _)
  rw [← hsession] at hstill hresults
  refine ⟨hinput, hfirst, hdelay, hpending, hclock, by decide +kernel,
    hfailed.mpr ⟨_, _, hend⟩, ?_, hstill, ?_⟩
  · rw [hsession]
    decide +kernel
  · rw [hresults, hsession]
    decide +kernel

end WordSieve
