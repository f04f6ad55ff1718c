import WordSieve.Proofs.Criterion.Everywhere
import WordSieve.Proofs.Criterion.Typing
import WordSieve.Proofs.Editor.Cursor

/-!
# What keys leave alone while letters are typed

While letters are typed there are four things a key can do: it quits, it ends the typing, it asks
for other letters in the criterion under the cursor, or it does nothing. Which letters it asks for
is told by `Retypes` from the key and from what is held down with it, without the editor.

Whatever it does, nearly all of the editor stays as it is (`Editor.Untouched`), and of the criteria
all but the letters under the cursor. That kind and scope stay is not for the editor to see to.
Letters that are edited are normalized with the rest of the criterion, and normalizing would settle
a kind that does not fit; but every criterion that can come up has been normalized before.
-/

set_option autoImplicit false

namespace WordSieve

open Text Criterion

namespace Editor

variable {e e' : Editor} {now : Micros} {key : Key} {held : Held} {c : Criterion} {s : List Char}

/-! ## Letters that are asked for -/

/-- The key, with those held down, asks for letters in place of `old`: one more letter, one less, or
none at all. -/
inductive Retypes (old : List Char) : Key → Held → List Char → Prop where
  | letter (x : Char) {held : Held} (hcontrol : held.control = false) (halt : held.alt = false) :
      Retypes old (.char x) held (old ++ [x])
  | backspace (held : Held) : Retypes old .backspace held old.dropLast
  | clear {held : Held} (hcontrol : held.control = true) : Retypes old (.char 'u') held []

theorem press_eq_pressEdit (hmode : e.mode = .editLetters) (hc : e.current? = some c)
    (hquit : ¬ (key = .char 'c' ∧ held.control = true)) (now : Micros) :
    e.press now key held = e.pressEdit now c held key := by
  rw [press, if_neg hquit, hmode]
  simp only [hc]

theorem pressEdit_char (e : Editor) (now : Micros) (c : Criterion) (held : Held) (x : Char) :
    e.pressEdit now c held (.char x) =
      if x = 'u' ∧ held.control then e.editCurrent now (.letters [])
      else if held.control ∨ held.alt then e
      else e.editCurrent now (.letters (c.letters ++ [x])) :=
  rfl

theorem press_of_retypes (hmode : e.mode = .editLetters) (hc : e.current? = some c)
    (h : Retypes c.letters key held s) :
    e.press now key held = e.editCurrent now (.letters s) := by
  cases h with
  | letter x hcontrol halt =>
    rw [press_eq_pressEdit hmode hc (by simp [hcontrol]), pressEdit_char]
    simp [hcontrol, halt]
  | backspace held => exact press_eq_pressEdit hmode hc (by simp) now
  | clear hcontrol =>
    rw [press_eq_pressEdit hmode hc (by simp), pressEdit_char, if_pos ⟨rfl, hcontrol⟩]

/-- All that a key can do while letters are typed into the criterion. -/
theorem press_cases (hmode : e.mode = .editLetters) (hc : e.current? = some c) (now : Micros)
    (key : Key) (held : Held) :
    ((key = .char 'c' ∧ held.control = true) ∧ e.press now key held = { e with quit := true }) ∨
    ((key = .escape ∨ key = .enter ∨ key = .tab) ∧
      e.press now key held = { e with mode := .navigate }) ∨
    (∃ s, Retypes c.letters key held s ∧
      e.press now key held = e.editCurrent now (.letters s)) ∨
    ((∀ s, ¬ Retypes c.letters key held s) ∧ ¬ (key = .char 'c' ∧ held.control = true) ∧
      e.press now key held = e) := by
  by_cases hquit : key = .char 'c' ∧ held.control = true
  · exact .inl ⟨hquit, if_pos hquit⟩
  have hpress : e.press now key held = e.pressEdit now c held key :=
    press_eq_pressEdit hmode hc hquit now
  cases key with
  | escape | enter | tab => exact .inr (.inl ⟨by simp, hpress⟩)
  | backspace => exact .inr (.inr (.inl ⟨_, .backspace held, hpress⟩))
  | char x =>
    by_cases hclear : x = 'u' ∧ held.control = true
    · obtain ⟨rfl, hcontrol⟩ := hclear
      have htypes : Retypes c.letters (.char 'u') held [] := .clear hcontrol
      exact .inr (.inr (.inl ⟨_, htypes, press_of_retypes hmode hc htypes⟩))
    by_cases hchord : held.control = true ∨ held.alt = true
    · refine .inr (.inr (.inr ⟨?_, hquit, ?_⟩))
      · intro s htypes
        cases htypes with
        | letter x hcontrol halt => simp [hcontrol, halt] at hchord
        | clear hcontrol => exact hclear ⟨rfl, hcontrol⟩
      · rw [hpress, pressEdit_char, if_neg hclear, if_pos hchord]
    · have hplain : held.control = false ∧ held.alt = false := by simpa using hchord
      have htypes : Retypes c.letters (.char x) held (c.letters ++ [x]) :=
        .letter x hplain.1 hplain.2
      exact .inr (.inr (.inl ⟨_, htypes, press_of_retypes hmode hc htypes⟩))
  | backTab | delete | up | down | left | right | pageUp | pageDown | other =>
    refine .inr (.inr (.inr ⟨?_, hquit, hpress⟩))
    intro s htypes
    cases htypes

/-! ## What stays -/

/-- The two editors differ at most in mode, in quitting, in their criteria and in the moment a
recompute is due. -/
structure Untouched (e e' : Editor) : Prop where
  selected : e'.selected = e.selected
  field : e'.field = e.field
  messages : e'.messages = e.messages
  scroll : e'.scroll = e.scroll
  source : e'.source = e.source
  awaiting : e'.awaiting = e.awaiting
  condition : e'.session.condition = e.session.condition
  sieve : e'.session.sieve = e.session.sieve
  status : e'.session.status = e.session.status
  recomputes : e'.session.recomputes = e.session.recomputes
  delay : e'.session.timer.delay = e.session.timer.delay

theorem untouched_with (e : Editor) (mode : Mode) (quit : Bool) (criteria : Criteria)
    (due : Option Micros) :
    Untouched e
      { e with
        mode, quit
        session := { e.session with criteria, timer := { e.session.timer with due } } } :=
  ⟨rfl, rfl, rfl, rfl, rfl, rfl, rfl, rfl, rfl, rfl, rfl⟩

theorem editCurrent_of_current (hc : e.current? = some c) (now : Micros) (change : Edit) :
    e.editCurrent now change =
      { e with
        session := e.session.accept now
          { items := e.session.criteria.items.set e.selected (c.edit change)
            revision := e.session.criteria.revision + 1 } } := by
  obtain ⟨hlt, -⟩ := List.getElem?_eq_some_iff.mp hc
  rw [editCurrent, Session.edit_of_lt hlt, Criteria.change_edit_of_getElem? hc]

theorem untouched_press (hmode : e.mode = .editLetters) (hc : e.current? = some c) (now : Micros)
    (key : Key) (held : Held) : Untouched e (e.press now key held) := by
  rcases press_cases hmode hc now key held with ⟨-, h⟩ | ⟨-, h⟩ | ⟨s, -, h⟩ | ⟨-, -, h⟩
  · rw [h]
    exact untouched_with e e.mode true e.session.criteria e.session.timer.due
  · rw [h]
    exact untouched_with e .navigate e.quit e.session.criteria e.session.timer.due
  · rw [h, editCurrent_of_current hc]
    exact untouched_with e e.mode e.quit _ _
  · rw [h]
    exact untouched_with e e.mode e.quit e.session.criteria e.session.timer.due

theorem session_press (hmode : e.mode = .editLetters) (hc : e.current? = some c) (now : Micros)
    {key : Key} {held : Held} (hnone : ∀ s, ¬ Retypes c.letters key held s) :
    (e.press now key held).session = e.session := by
  rcases press_cases hmode hc now key held with ⟨-, h⟩ | ⟨-, h⟩ | ⟨s, htypes, -⟩ | ⟨-, -, h⟩
  · rw [h]
  · rw [h]
  · exact absurd htypes (hnone s)
  · rw [h]

/-- Only the letters of the criterion under the cursor can be others after a key. -/
theorem items_press (hmode : e.mode = .editLetters) (hc : e.current? = some c) (hreg : c.Regular)
    (now : Micros) (key : Key) (held : Held) :
    ∃ letters, (e.press now key held).session.criteria.items =
      e.session.criteria.items.set e.selected { c with letters } := by
  by_cases htypes : ∃ s, Retypes c.letters key held s
  · obtain ⟨s, htypes⟩ := htypes
    refine ⟨kept c.kind s, ?_⟩
    rw [press_of_retypes hmode hc htypes, editCurrent_of_current hc, hreg.edit_letters]
    rfl
  · obtain ⟨hlt, hget⟩ := List.getElem?_eq_some_iff.mp hc
    refine ⟨c.letters, ?_⟩
    rw [session_press hmode hc now (not_exists.mp htypes), ← hget]
    exact (List.set_getElem_self hlt).symm

theorem quit_press (hmode : e.mode = .editLetters) (hc : e.current? = some c) (now : Micros)
    (key : Key) (held : Held) :
    (e.press now key held).quit = true ↔
      e.quit = true ∨ key = .char 'c' ∧ held.control = true := by
  by_cases hquit : key = .char 'c' ∧ held.control = true
  · simp [press, hquit]
  rcases press_cases hmode hc now key held with ⟨hkey, -⟩ | ⟨-, h⟩ | ⟨s, -, h⟩ | ⟨-, -, h⟩
  · exact absurd hkey hquit
  · simp [h, hquit]
  · simp [h, hquit, editCurrent]
  · simp [h, hquit]

theorem press_chord (hmode : e.mode = .editLetters) (hc : e.current? = some c) (now : Micros)
    {x : Char} {held : Held} (hchord : held.control = true ∨ held.alt = true)
    (hx : held.control = true → x ≠ 'c' ∧ x ≠ 'u') : e.press now (.char x) held = e := by
  rcases press_cases hmode hc now (.char x) held with ⟨hkey, -⟩ | ⟨hkey, -⟩ | ⟨s, htypes, -⟩ |
    ⟨-, -, h⟩
  · obtain ⟨hchar, hcontrol⟩ := hkey
    exact absurd (Key.char.inj hchar) (hx hcontrol).1
  · simp at hkey
  · cases htypes with
    | letter x hcontrol halt => simp [hcontrol, halt] at hchord
    | clear hcontrol => exact absurd rfl (hx hcontrol).2
  · exact h

/-! ## Together -/

/-- **While letters are typed a key touches the letters under the cursor, and little else.** In an
editor that only keys and ticks have worked on there is a criterion under the cursor then. Whatever
key comes, the other criteria and its kind and scope stay, with the cursor, the messages and the
results. Control and `c` quits and no other key does. A character that comes with control or alt is
no letter and does nothing at all, but for that one and for control and `u`. Every key that asks for
letters is counted as a change and has a recompute pending, be the letters the old ones or not, and
no other key reaches the session. -/
theorem press_typing (he : e.Fresh) (hs : e.session.Reachable) (events : List Event) :
    let t := e.run events
    t.mode = .editLetters → ∃ c, t.current? = some c ∧ ∀ now key held,
      let u := t.press now key held
      Untouched t u ∧
      (∃ letters, u.session.criteria.items =
        t.session.criteria.items.set t.selected { c with letters }) ∧
      (u.quit = true ↔ t.quit = true ∨ key = .char 'c' ∧ held.control = true) ∧
      (∀ x, key = .char x → held.control = true ∨ held.alt = true →
        (held.control = true → x ≠ 'c' ∧ x ≠ 'u') → u = t) ∧
      (∀ s, Retypes c.letters key held s →
        u.current? = some (c.edit (.letters s)) ∧
        u.session.criteria.revision = t.session.criteria.revision + 1 ∧
        u.session.isPending = true) ∧
      ((∀ s, ¬ Retypes c.letters key held s) → u.session = t.session) := by
  intro t hmode
  have hplaced : Placed t := he.placed.run events
  obtain ⟨hlt, -⟩ := hplaced.typing hmode
  have hc : t.current? = some t.session.criteria.items[t.selected] := List.getElem?_eq_getElem hlt
  refine ⟨_, hc, ?_⟩
  generalize t.session.criteria.items[t.selected] = c at hc ⊢
  have hreg : c.Regular := by
    obtain ⟨works, hworks, hrun⟩ := works_run e events
    have hreachable : t.session.Reachable := by
      rw [hrun]
      exact hs.run fun x hx => handsReachable_of_not_replacesAll (hworks x hx)
    exact (hreachable.criteria.items c (List.mem_of_getElem? hc)).regular
  intro now key held u
  refine ⟨untouched_press hmode hc now key held, items_press hmode hc hreg now key held,
    quit_press hmode hc now key held, ?_, ?_, session_press hmode hc now⟩
  · rintro x rfl hchord hx
    exact press_chord hmode hc now hchord hx
  · intro s htypes
    have hu : u = t.editCurrent now (.letters s) := press_of_retypes hmode hc htypes
    rw [hu, editCurrent_of_current hc]
    exact ⟨List.getElem?_set_self hlt, rfl, rfl⟩

/-- The letter of a kind that compares one is taken out, and with alt the same key does nothing. -/
theorem press_typing_cleared :
    let last := make .differs ['Q'] (.position ⟨4, by decide⟩)
    let session := (Session.ofCorpus [] .standard).run [.setCriteria [.blank, last]]
    let plain : Held := { control := false, alt := false, shift := false }
    let e := ofSession session
    let t := e.run [.press 0 .down plain, .press 1 .enter plain]
    let u := t.press 2 (.char 'u') { plain with control := true }
    e.Fresh ∧ session.Reachable ∧ t.mode = .editLetters ∧ Untouched t u ∧
      u.session.criteria.items = [.blank, { last with letters := [] }] ∧
      u.session.criteria.revision = 1 ∧ u.session.isPending = true ∧
      t.press 2 (.char 'u') { plain with alt := true } = t ∧
      (t.press 2 (.char 'c') { plain with control := true }).quit = true ∧
      (t.press 2 .tab plain).session = t.session := by
  intro last session plain e t u
  have hlast : last.Reachable := .make _ _ _
  have hsession : session.Reachable := by
    have hstart : (Session.ofCorpus [] .standard).Reachable := .fresh (.ofCorpus [] .standard)
    refine hstart.after (x := .setCriteria [.blank, last]) ?_
    rintro items ⟨⟩
    simp [hlast, Criterion.Reachable.blank]
  have hmode : t.mode = .editLetters := by decide +kernel
  obtain ⟨c, hc, hpress⟩ := press_typing (.ofSession session) hsession _ hmode
  obtain rfl : last = c := Option.some.inj (hc.symm.trans (by decide +kernel)).symm
  obtain ⟨huntouched, -, -, -, htyped, -⟩ :=
    hpress 2 (.char 'u') { plain with control := true }
  obtain ⟨hcurrent, hrevision, hpending⟩ := htyped [] (.clear rfl)
  obtain ⟨-, -, -, hchord, -, -⟩ := hpress 2 (.char 'u') { plain with alt := true }
  obtain ⟨-, -, hquit, -, -, -⟩ := hpress 2 (.char 'c') { plain with control := true }
  obtain ⟨-, -, -, -, -, hsession'⟩ := hpress 2 .tab plain
  refine ⟨.ofSession session, hsession, hmode, huntouched, ?_, hrevision.trans (by decide +kernel),
    hpending, hchord 'u' rfl (.inr rfl) (by simp [plain]), hquit.mpr (.inr ⟨rfl, rfl⟩), ?_⟩
  · decide +kernel
  · exact hsession' fun s htypes => nomatch htypes

end Editor

end WordSieve
