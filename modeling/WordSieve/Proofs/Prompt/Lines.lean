import WordSieve.Criteria
import WordSieve.Prompt.Conversation
import WordSieve.Proofs.Criterion.RoundTrip
import WordSieve.Proofs.Session.History
import WordSieve.Proofs.Text.Fields

/-!
# Changes as lines

A change of the criteria can be typed at the prompt as a line of words. The line is read as the
command it stands for as long as its letters hold no blank and its number fits a machine word.
Letters may also be empty: the line then ends in a space that is no word, and what is missing stands
for no letters.

A conversation of such lines does to the session what the changes do, with a tick after each. Without
a delay, and on a clock that does not go back in between, this tick runs the recompute.
-/

set_option autoImplicit false

namespace WordSieve

open Text

namespace Edit

/-- The name of the part that is edited. -/
def field : Edit → List Char
  | .kind _ => "kind".toList
  | .letters _ => "letters".toList
  | .scope _ => "scope".toList

/-- The part's new value as it is typed. -/
def value : Edit → List Char
  | .kind k => k.name.toList
  | .letters s => s
  | .scope s => s.name.toList

end Edit

namespace Criteria.Change

/-- The words that ask for the change. Criteria are numbered from 1 in them. -/
def words : Change → List (List Char)
  | .add => ["add".toList]
  | .remove index => ["rm".toList, (toString (index + 1)).toList]
  | .edit index e =>
    ["set".toList, (toString (index + 1)).toList, e.field, e.value]

/-- The words on one line. -/
def line (ch : Change) : List Char :=
  [' '].intercalate ch.words

/-- Whether the line can be read back: a blank would cut the value in two. -/
def Typeable : Change → Prop
  | .add => True
  | .remove index => index + 1 < wordLimit
  | .edit index e => index + 1 < wordLimit ∧ NoBlank e.value

/-- The command for the change. -/
def command : Change → Command
  | .add => .add
  | .remove index => .remove index
  | .edit index e => .edit index e

/-- The change at a moment, as it happens to a session. -/
def event (now : Micros) : Change → Session.Event
  | .add => .add now
  | .remove index => .remove now index
  | .edit index e => .edit now index e

end Criteria.Change

/-! ## The words of a line -/

theorem toList_toString_number (n : Nat) : (toString n).toList = Nat.toDigits 10 n := by
  rw [Nat.toString_eq_repr, Nat.toList_repr]

theorem noBlank_number (n : Nat) : NoBlank (toString n).toList := by
  rw [toList_toString_number]
  exact noBlank_toDigits n

theorem Kind.noBlank_name (k : Kind) : NoBlank k.name.toList := by
  cases k <;> decide

theorem Scope.noBlank_name (s : Scope) : NoBlank s.name.toList := by
  cases s with
  | whole => decide
  | position p => exact noBlank_number p.number

theorem Edit.noBlank_field (e : Edit) : NoBlank e.field := by
  cases e with
  | kind k => exact (by decide : NoBlank "kind".toList)
  | letters s => exact (by decide : NoBlank "letters".toList)
  | scope s => exact (by decide : NoBlank "scope".toList)

/-! ## Reading a line -/

theorem Edit.read_value (e : Edit) : Edit.read e.field e.value = .ok e := by
  cases e with
  | kind k => exact congrArg (Edit.kind <$> ·) k.read_name
  | letters s => rfl
  | scope s => exact congrArg (Edit.scope <$> ·) s.read_name

namespace Command

open Criteria (Change)

theorem ofWords_rm (args : List (List Char)) :
    ofWords ("rm".toList :: args) = .remove <$> readIndex args[0]? := by
  rfl

theorem ofWords_set (args : List (List Char)) : ofWords ("set".toList :: args) = readEdit args := by
  rfl

theorem readIndex_number {index : Nat} (h : index + 1 < wordLimit) :
    readIndex (some (toString (index + 1)).toList) = .ok index := by
  rw [readIndex, toList_toString_number, numeral?_toDigits h]

theorem read_trim (line : List Char) : read (trim line) = read line := by
  rw [read, fields_trim, read]

theorem read_rm {index : Nat} (h : index + 1 < wordLimit) :
    read ([' '].intercalate ["rm".toList, (toString (index + 1)).toList]) = .ok (.remove index) := by
  have hwords : ∀ w ∈ ["rm".toList, (toString (index + 1)).toList], NoBlank w := by
    refine List.forall_mem_cons.mpr ⟨by decide, List.forall_mem_singleton.mpr ?_⟩
    exact noBlank_number (index + 1)
  have hkept : ["rm".toList, (toString (index + 1)).toList].filter (!·.isEmpty) =
      ["rm".toList, (toString (index + 1)).toList] := by
    simp
  rw [read, fields_intercalate hwords, hkept, ofWords_rm]
  exact congrArg (Command.remove <$> ·) (readIndex_number h)

/-- An edit is read from its line. An empty value is no word of the line, and what is missing stands
for it. -/
theorem read_set {index : Nat} (h : index + 1 < wordLimit) {field value : List Char} {e : Edit}
    (hne : field ≠ []) (hfield : NoBlank field) (hvalue : NoBlank value)
    (hedit : Edit.read field value = .ok e) :
    read ([' '].intercalate ["set".toList, (toString (index + 1)).toList, field, value]) =
      .ok (.edit index e) := by
  have hwords : ∀ w ∈ ["set".toList, (toString (index + 1)).toList, field, value], NoBlank w := by
    refine List.forall_mem_cons.mpr ⟨by decide, List.forall_mem_cons.mpr ⟨?_,
      List.forall_mem_cons.mpr ⟨hfield, List.forall_mem_singleton.mpr hvalue⟩⟩⟩
    exact noBlank_number (index + 1)
  have hkept : ["set".toList, (toString (index + 1)).toList, field, value].filter (!·.isEmpty) =
      "set".toList :: (toString (index + 1)).toList :: field :: [value].filter (!·.isEmpty) := by
    simp [List.filter_cons, hne]
  have hmissing : ([value].filter (!·.isEmpty))[0]?.getD [] = value := by
    cases value <;> rfl
  rw [read, fields_intercalate hwords, hkept, ofWords_set]
  simp only [readEdit, bind, Except.bind, List.getElem?_cons_zero, List.getElem?_cons_succ,
    readIndex_number h, hmissing, hedit]

/-- **A line is read as the change it was made for.** -/
theorem read_line {ch : Change} (h : ch.Typeable) : read ch.line = .ok ch.command := by
  cases ch with
  | add => rfl
  | remove index => exact read_rm h
  | edit index e =>
    have hne : e.field ≠ [] := by cases e <;> exact List.cons_ne_nil _ _
    exact read_set h.1 hne e.noBlank_field h.2 e.read_value

example : read "set 3 letters a:b".toList =
    .ok (Change.edit 2 (.letters ['a', ':', 'b'])).command := by
  decide +kernel

end Command

/-! ## Conversations -/

/-- A change that is typed at the prompt, and when it is run. -/
structure Turn where
  change : Criteria.Change
  moment : Moment
  deriving DecidableEq, Repr

namespace Turn

/-- The line and its moments. -/
def input (t : Turn) : Option (List Char) × Moment :=
  (some t.change.line, t.moment)

/-- The change and the tick after it, as they happen to the session. -/
def events (t : Turn) : List Session.Event :=
  [t.change.event t.moment.change, .tick t.moment.tick]

end Turn

open Criteria (Change)

theorem Criteria.Change.command_ne_quit (ch : Change) : ch.command ≠ .quit := by
  cases ch <;> exact Command.noConfusion

theorem Command.run_of_ne_quit {c : Command} (h : c ≠ .quit) (s : Session) (m : Moment) :
    c.run s m =
      { session := ((c.change s m.change).1.tick m.tick).2, notice := (c.change s m.change).2,
        quit := false, recomputed := ((c.change s m.change).1.tick m.tick).1 } :=
  if_neg h

theorem Command.run_change (s : Session) (m : Moment) (ch : Change) :
    (ch.command.run s m).session = s.run [ch.event m.change, .tick m.tick] := by
  have hchange : (ch.command.change s m.change).1 = s.after (ch.event m.change) := by
    cases ch with
    | add => rfl
    | remove index =>
      simp only [Change.command, Change.event, Command.change, Session.after]
      split <;> simp only [*]
    | edit index e =>
      simp only [Change.command, Change.event, Command.change, Session.after]
      split <;> simp only [*]
  rw [Command.run_of_ne_quit ch.command_ne_quit, hchange]
  rfl

theorem reply_of_read {line : List Char} {c : Command} (h : Command.read line = .ok c)
    (hquit : c ≠ .quit) (s : Session) (m : Moment) :
    reply s m line =
      { session := (c.run s m).session, report := (c.run s m).report c, quit := false } := by
  simp only [reply, Command.read_trim, h]
  rw [Command.run_of_ne_quit hquit]
  rfl

theorem reply_line (s : Session) {t : Turn} (h : t.change.Typeable) :
    (reply s t.moment t.change.line).session = s.run t.events ∧
      (reply s t.moment t.change.line).quit = false := by
  rw [reply_of_read (Command.read_line h) t.change.command_ne_quit]
  exact ⟨Command.run_change s t.moment t.change, rfl⟩

/-- **A conversation of changes does what the changes do**, with a tick after each. -/
theorem session_converse (color : Bool) {turns : List Turn} (h : ∀ t ∈ turns, t.change.Typeable)
    (s : Session) :
    (converse color s (turns.map Turn.input)).session = s.run (turns.flatMap Turn.events) := by
  induction turns generalizing s with
  | nil => rfl
  | cons t rest ih =>
    obtain ⟨hsession, hquit⟩ := reply_line s (h t List.mem_cons_self)
    have hrest := ih (fun u hu => h u (List.mem_cons_of_mem t hu)) (s.run t.events)
    rw [List.map_cons, Turn.input, converse, hquit, hsession, List.flatMap_cons,
      Session.run_append, ← hrest]
    rfl

/-! ## Without a delay -/

namespace Session

variable {s : Session}

theorem after_event (s : Session) (now : Micros) (ch : Change) :
    s.after (ch.event now) = s ∨ ∃ criteria, s.after (ch.event now) = s.accept now criteria := by
  cases ch with
  | add => exact .inr ⟨_, rfl⟩
  | remove index => exact s.remove_cases now index
  | edit index e => exact s.edit_cases now index e

/-- The tick of a turn leaves nothing pending, for what the turn asked for is due at once. -/
theorem timer_turn (h : s.timer = .idle 0) {t : Turn} (hclock : t.moment.change ≤ t.moment.tick) :
    (s.run t.events).timer = .idle 0 := by
  show ((s.after (t.change.event t.moment.change)).tick t.moment.tick).2.timer = _
  rcases s.after_event t.moment.change t.change with hsame | ⟨criteria, haccept⟩
  · have hdue : s.timer.isDue t.moment.tick = false := by
      rw [h]
      rfl
    rw [hsame, tick_of_not_due hdue]
    exact h
  · have hdue : (s.accept t.moment.change criteria).timer.isDue t.moment.tick = true := by
      show (s.timer.schedule t.moment.change).isDue t.moment.tick = true
      rw [h]
      exact decide_eq_true hclock
    rw [haccept, tick_of_due hdue]
    show s.timer.cancel = _
    rw [h]
    rfl

theorem timer_turns (h : s.timer = .idle 0) {turns : List Turn}
    (hclock : ∀ t ∈ turns, t.moment.change ≤ t.moment.tick) :
    (s.run (turns.flatMap Turn.events)).timer = .idle 0 := by
  induction turns generalizing s with
  | nil => exact h
  | cons t rest ih =>
    rw [List.flatMap_cons, run_append]
    exact ih (timer_turn h (hclock t List.mem_cons_self))
      fun u hu => hclock u (List.mem_cons_of_mem t hu)

end Session

end WordSieve
