import WordSieve.Proofs.Editor.Operations

/-!
# Cursor, mode and messages

Letters are typed into the criterion under the cursor, so while they are typed there has to be one.
No key looks after that by itself: it holds because the keys that move the cursor, change the field
or make the list shorter are letters in that mode. `Editor.Placed` is what each key needs of the one
before it.

The messages kept are the last ones of all that were ever added. Each time the oldest goes when
there are too many, and that is enough, for never more than one is added.
-/

set_option autoImplicit false

namespace WordSieve

/-! ## The length of the list -/

namespace Session

variable {s : Session}

theorem size_add (s : Session) (now : Micros) :
    (s.add now).criteria.size = s.criteria.size + 1 := by
  simp [add, accept, Criteria.add, Criteria.size]

theorem size_edit (s : Session) (now : Micros) (index : Nat) (e : Edit) :
    (s.edit now index e).2.criteria.size = s.criteria.size := by
  by_cases h : index < s.criteria.size
  · rw [edit_of_lt h]
    simp [accept, Criteria.size, Criteria.items_change, Criteria.Change.applyTo]
  · rw [edit_of_not_lt h]

theorem size_remove (now : Micros) {index : Nat} (h : index < s.criteria.size) :
    (s.remove now index).2.criteria.size = s.criteria.size - 1 := by
  rw [remove_of_lt h]
  simpa [accept, Criteria.size, Criteria.items_change, Criteria.Change.applyTo] using
    List.length_eraseIdx_of_lt h

theorem size_tick (s : Session) (now : Micros) :
    (s.tick now).2.criteria.size = s.criteria.size :=
  congrArg Criteria.size (criteria_after s (.tick now))

theorem size_receiveCorpus (s : Session) (outcome : Except String (List Word)) :
    (s.receiveCorpus outcome).criteria.size = s.criteria.size :=
  congrArg Criteria.size (criteria_after s (.receiveCorpus outcome))

end Session

namespace Editor

variable {e e' : Editor} {now : Micros} {f : Effect}

/-! ## The cursor -/

/-- The cursor is on a criterion if there is one, and letters are typed only into one. -/
structure Placed (e : Editor) : Prop where
  cursor : e.selected < e.session.criteria.size ∨ e.session.criteria.size = 0 ∧ e.selected = 0
  typing : e.mode = .editLetters → e.selected < e.session.criteria.size ∧ e.field = .letters

theorem Placed.of_navigate (hmode : e.mode = .navigate)
    (hcursor : e.selected < e.session.criteria.size ∨
      e.session.criteria.size = 0 ∧ e.selected = 0) : Placed e :=
  ⟨hcursor, fun htyping => absurd (hmode.symm.trans htyping) Mode.noConfusion⟩

theorem Placed.congr (h : Placed e) (hselected : e'.selected = e.selected)
    (hsize : e'.session.criteria.size = e.session.criteria.size) (hmode : e'.mode = e.mode)
    (hfield : e'.field = e.field) : Placed e' := by
  refine ⟨?_, ?_⟩
  · rw [hselected, hsize]
    exact h.cursor
  · rw [hselected, hsize, hmode, hfield]
    exact h.typing

theorem Placed.does (h : Placed e) (hdoes : Does e now f e') : Placed e' := by
  cases hdoes with
  | nothing => exact h
  | quit | scroll | page | reload | help => exact h.congr rfl rfl rfl rfl
  | edit change => exact h.congr rfl (Session.size_edit _ _ _ _) rfl rfl
  | startTyping hlt hfield => exact ⟨h.cursor, fun _ => ⟨hlt, hfield⟩⟩
  | stopTyping => exact .of_navigate rfl h.cursor
  | turn field hmode => exact .of_navigate hmode h.cursor
  | select place hmode hplace =>
    refine .of_navigate hmode ?_
    have hcursor := h.cursor
    show place < e.session.criteria.size ∨ e.session.criteria.size = 0 ∧ place = 0
    omega
  | add hmode =>
    refine .of_navigate hmode (.inl ?_)
    show (e.session.add now).criteria.size - 1 < (e.session.add now).criteria.size
    rw [Session.size_add]
    omega
  | remove hmode =>
    rw [removeCurrent_eq]
    refine .of_navigate hmode ?_
    have hcursor := h.cursor
    by_cases hlt : e.selected < e.session.criteria.size
    · have hsize := Session.size_remove now hlt
      rw [Session.remove_of_lt hlt] at hsize ⊢
      simp only [if_true]
      omega
    -- The cursor is on no criterion only if there is none, and then nothing is removed.
    · rw [Session.remove_of_not_lt hlt]
      exact hcursor

theorem Placed.recompute (h : Placed e) (now : Micros) : Placed (e.recompute now) := by
  rw [recompute_eq]
  exact h.congr rfl (Session.size_tick _ now) rfl rfl

theorem Placed.settle (h : Placed e) (outcome : Except LoadError (List Word)) :
    Placed (e.settle outcome) :=
  h.congr rfl (Session.size_receiveCorpus _ _) rfl rfl

theorem Placed.after (h : Placed e) (x : Event) : Placed (e.after x) := by
  cases x with
  | press now key held => exact h.does (does_press e now key held)
  | tick now outcome =>
    rcases tick_cases e now outcome with ⟨-, htick⟩ | ⟨o, -, -, -, htick⟩
    · rw [Editor.after, htick]
      exact h.recompute now
    · rw [Editor.after, htick]
      exact (h.settle o).recompute now

theorem Placed.run (h : Placed e) (events : List Event) : Placed (e.run events) := by
  induction events generalizing e with
  | nil => exact h
  | cons x rest ih => exact ih (h.after x)

/-! ## Messages -/

/-- The last messages of a list, as many as are kept. -/
def lastMessages (messages : List Message) : List Message :=
  messages.drop (messages.length - messageLimit)

theorem length_lastMessages_le (messages : List Message) :
    (lastMessages messages).length ≤ messageLimit := by
  rw [lastMessages, List.length_drop]
  omega

theorem lastMessages_eq_self {messages : List Message} (h : messages.length ≤ messageLimit) :
    lastMessages messages = messages := by
  rw [lastMessages, Nat.sub_eq_zero_of_le h, List.drop_zero]

/-- What was dropped once would be dropped later as well. -/
theorem lastMessages_append (first rest : List Message) :
    lastMessages (lastMessages first ++ rest) = lastMessages (first ++ rest) := by
  have hle : first.length - messageLimit ≤ first.length := Nat.sub_le _ _
  unfold lastMessages
  rw [← List.drop_append_of_le_length hle, List.drop_drop, List.length_drop, List.length_append]
  congr 1
  omega

theorem messages_say (h : e.messages.length ≤ messageLimit) (m : Message) :
    (e.say m.text m.tone).messages = lastMessages (e.messages ++ [m]) := by
  have hlength : (e.messages ++ [m]).length = e.messages.length + 1 := List.length_append
  show (if messageLimit < (e.messages ++ [m]).length then (e.messages ++ [m]).tail
    else e.messages ++ [m]) = _
  by_cases hfull : messageLimit < (e.messages ++ [m]).length
  · have hone : (e.messages ++ [m]).length - messageLimit = 1 := by omega
    rw [if_pos hfull, lastMessages, hone, List.drop_one]
  · rw [if_neg hfull, lastMessages_eq_self (Nat.le_of_not_lt hfull)]

theorem Does.messages (hdoes : Does e now f e') (h : e.messages.length ≤ messageLimit) :
    e'.messages = lastMessages (e.messages ++ f.message.toList) := by
  have hkeep : e.messages = lastMessages (e.messages ++ []) := by
    rw [List.append_nil, lastMessages_eq_self h]
  cases hdoes with
  | page => exact messages_say (e := { e with session := e.session.more }) h e.pageMessage
  | reload => exact messages_say h e.reloadMessage
  | help => exact messages_say h { text := keysText, tone := .info }
  | remove =>
    rw [removeCurrent_eq]
    exact hkeep
  | _ => exact hkeep

theorem messages_tick (h : e.messages.length ≤ messageLimit) (now : Micros)
    (outcome : Option (Except LoadError (List Word))) :
    (e.tick now outcome).messages =
      lastMessages (e.messages ++ (e.tickEffect outcome).message.toList) := by
  rcases tick_cases e now outcome with ⟨heffect, htick⟩ | ⟨o, -, -, heffect, htick⟩
  · rw [htick, heffect, recompute_eq]
    simpa using (lastMessages_eq_self h).symm
  · rw [htick, heffect, recompute_eq]
    exact messages_say (e := { e with session := _, awaiting := false }) h (outcomeMessage o)

theorem messages_after (h : e.messages.length ≤ messageLimit) (x : Event) :
    (e.after x).messages = lastMessages (e.messages ++ (e.effect x).message.toList) := by
  cases x with
  | press now key held => exact (does_press e now key held).messages h
  | tick now outcome => exact messages_tick h now outcome

/-- The messages that the events add. -/
def spoken (e : Editor) (events : List Event) : List Message :=
  (e.effects events).filterMap (·.message)

theorem spoken_cons (e : Editor) (x : Event) (rest : List Event) :
    e.spoken (x :: rest) = (e.effect x).message.toList ++ (e.after x).spoken rest := by
  simp only [spoken, effects, List.filterMap_cons]
  cases (e.effect x).message <;> rfl

theorem messages_run (h : e.messages.length ≤ messageLimit) (events : List Event) :
    (e.run events).messages = lastMessages (e.messages ++ e.spoken events) := by
  induction events generalizing e with
  | nil =>
    have hnone : e.messages ++ e.spoken [] = e.messages := List.append_nil _
    rw [hnone, lastMessages_eq_self h]
    rfl
  | cons x rest ih =>
    have hafter := messages_after h x
    have hlength : (e.after x).messages.length ≤ messageLimit := by
      rw [hafter]
      exact length_lastMessages_le _
    calc (e.run (x :: rest)).messages
        = lastMessages ((e.after x).messages ++ (e.after x).spoken rest) := ih hlength
      _ = lastMessages (e.messages ++ e.spoken (x :: rest)) := by
        rw [hafter, lastMessages_append, spoken_cons, List.append_assoc]

/-! ## Quitting -/

theorem Does.quit_eq (hdoes : Does e now f e') (h : e.quit = true) : e'.quit = true := by
  cases hdoes with
  | quit => rfl
  | remove => rwa [removeCurrent_eq]
  | _ => exact h

theorem quit_after (h : e.quit = true) (x : Event) : (e.after x).quit = true := by
  cases x with
  | press now key held => exact (does_press e now key held).quit_eq h
  | tick now outcome =>
    rcases tick_cases e now outcome with ⟨-, htick⟩ | ⟨o, -, -, -, htick⟩
    · rwa [after, htick, recompute_eq]
    · rwa [after, htick, recompute_eq]

theorem quit_run (h : e.quit = true) (events : List Event) : (e.run events).quit = true := by
  induction events generalizing e with
  | nil => exact h
  | cons x rest ih => exact ih (quit_after h x)

/-! ## Together -/

/-- An editor nothing has happened to, of any session. -/
inductive Fresh : Editor → Prop where
  | ofSession (session : Session) : Fresh (ofSession session)
  | start (session : Session) (source : WordSource) : Fresh (start session source)

theorem Fresh.placed (h : e.Fresh) : Placed e := by
  have hcursor (session : Session) :
      0 < session.criteria.size ∨ session.criteria.size = 0 ∧ 0 = 0 := by
    omega
  cases h with
  | ofSession session => exact .of_navigate rfl (hcursor session)
  | start session source => exact .of_navigate rfl (hcursor session)

theorem Fresh.messages_eq (h : e.Fresh) : e.messages = [greeting] := by
  cases h <;> rfl

/-- **The cursor, the mode and the messages of an editor**, after any keys and ticks in any order.
The cursor is on a criterion unless there is none. While letters are typed there is one under the
cursor, and its letters are the field under the cursor. The messages are the last of all that were
ever added, in their order. An editor that was told to quit stays so. -/
theorem run_cursor (he : e.Fresh) (events : List Event) :
    let t := e.run events
    (t.selected < t.session.criteria.items.length ∨
      t.session.criteria.items = [] ∧ t.selected = 0) ∧
    (t.mode = .editLetters →
      t.session.criteria.items ≠ [] ∧ (∃ c, t.current? = some c) ∧ t.field = .letters) ∧
    t.messages = lastMessages (greeting :: e.spoken events) ∧
    (t.quit = true → ∀ rest, (t.run rest).quit = true) := by
  intro t
  have h : Placed t := he.placed.run events
  refine ⟨?_, fun hmode => ?_, ?_, fun hquit rest => quit_run hquit rest⟩
  · rcases h.cursor with hlt | ⟨hnone, hzero⟩
    · exact .inl hlt
    · exact .inr ⟨List.length_eq_zero_iff.mp hnone, hzero⟩
  · obtain ⟨hlt, hfield⟩ := h.typing hmode
    exact ⟨List.ne_nil_of_length_pos (Nat.zero_lt_of_lt hlt),
      ⟨_, List.getElem?_eq_getElem hlt⟩, hfield⟩
  · have hstart : e.messages.length ≤ messageLimit := by
      rw [he.messages_eq]
      decide
    rw [messages_run hstart, he.messages_eq]
    rfl

/-- The list is emptied and filled again, with a `d` and a `q` typed as letters at the end, and with
more said than is kept. -/
def cursorKeys : List Event :=
  let press (key : Key) : Event := .press 0 key { control := false, alt := false, shift := false }
  (List.replicate 4 (press (.char '?')) ++
    [Key.char 'd', .char 'd', .enter, .char 'a', .char 'a', .char 'k', .char 'd'].map press ++
    [.tick 7 (some (.ok []))] ++
    [Key.char 'm', .left, .right, .enter, .char 'd', .char 'q', .up].map press)

theorem run_cursor_keys :
    let e := start (Session.start .standard) .embedded
    let t := e.run cursorKeys
    e.Fresh ∧ t.selected = 0 ∧ t.session.criteria.items.length = 1 ∧
      t.mode = .editLetters ∧ (∃ c, t.current? = some c) ∧ t.field = .letters ∧
      t.messages =
        [{ text := keysText, tone := .info }, { text := keysText, tone := .info },
         { text := keysText, tone := .info }, { text := "Loaded 0 words", tone := .success },
         { text := "Showing 0 of 0", tone := .info }] ∧
      t.quit = false ∧
      ∀ rest, ((t.press 9 (.char 'c') { control := true, alt := false, shift := true }).run
        rest).quit = true := by
  intro e t
  have he : e.Fresh := .start _ _
  have hmode : t.mode = .editLetters := by decide +kernel
  obtain ⟨-, htyping, hmessages, -⟩ := run_cursor he cursorKeys
  obtain ⟨-, hcurrent, hfield⟩ := htyping hmode
  obtain ⟨-, -, -, hquit⟩ := run_cursor he
    (cursorKeys ++ [.press 9 (.char 'c') { control := true, alt := false, shift := true }])
  refine ⟨he, by decide +kernel, by decide +kernel, hmode, hcurrent, hfield,
    hmessages.trans (by decide +kernel), by decide +kernel, fun rest => ?_⟩
  have hlast := hquit (by decide +kernel) rest
  rwa [run_concat] at hlast

end Editor

end WordSieve
