import WordSieve.Proofs.Editor.Letters

/-!
# Typing into the editor

While letters are typed, a key that stands for a character adds it to the criterion under the cursor,
unless control or alt is held with it. Ticks may come between the keys and change nothing of that. So
what the editor holds after a text was typed is, in the place of that criterion, the criterion with
the text typed to it, and that is the one with the text pasted.
-/

set_option autoImplicit false

namespace WordSieve

open Text Criterion

namespace Editor

/-- The events type the text: its characters are pressed one after the other, and nothing but ticks
comes between. -/
inductive Types : List Event → List Char → Prop where
  | done : Types [] []
  | press {events : List Event} {text : List Char} (now : Micros) (x : Char) {held : Held} :
      held.control = false → held.alt = false → Types events text →
      Types (.press now (.char x) held :: events) (x :: text)
  | tick {events : List Event} {text : List Char} (now : Micros)
      (outcome : Option (Except LoadError (List Word))) :
      Types events text → Types (.tick now outcome :: events) text

/-- Letters are typed into the criterion `c` at the place, and the other criteria are those of the
list. -/
structure TypesInto (e : Editor) (items : List Criterion) (place : Nat) (c : Criterion) : Prop where
  mode : e.mode = .editLetters
  selected : e.selected = place
  lt : place < items.length
  items_eq : e.session.criteria.items = items.set place c

variable {e : Editor} {items : List Criterion} {place : Nat} {c : Criterion}

theorem typesInto_of_current (hmode : e.mode = .editLetters) (hc : e.current? = some c) :
    TypesInto e e.session.criteria.items e.selected c := by
  obtain ⟨hlt, hget⟩ := List.getElem?_eq_some_iff.mp hc
  refine ⟨hmode, rfl, hlt, ?_⟩
  rw [← hget, List.set_getElem_self]

theorem TypesInto.current (h : TypesInto e items place c) : e.current? = some c := by
  rw [current?, h.items_eq, h.selected, List.getElem?_set_self h.lt]

theorem TypesInto.congr {e' : Editor} (h : TypesInto e items place c) (hmode : e'.mode = e.mode)
    (hselected : e'.selected = e.selected) (hcriteria : e'.session.criteria = e.session.criteria) :
    TypesInto e' items place c :=
  ⟨hmode.trans h.mode, hselected.trans h.selected, h.lt, hcriteria ▸ h.items_eq⟩

theorem TypesInto.recompute (h : TypesInto e items place c) (now : Micros) :
    TypesInto (e.recompute now) items place c := by
  rw [recompute_eq]
  exact h.congr rfl rfl (Session.criteria_after e.session (.tick now))

theorem TypesInto.tick (h : TypesInto e items place c) (now : Micros)
    (outcome : Option (Except LoadError (List Word))) :
    TypesInto (e.tick now outcome) items place c := by
  rcases tick_cases e now outcome with ⟨-, htick⟩ | ⟨o, -, -, -, htick⟩
  · rw [htick]
    exact h.recompute now
  · have hsettle : TypesInto (e.settle o) items place c :=
      h.congr rfl rfl (Session.criteria_after e.session (.receiveCorpus _))
    rw [htick]
    exact hsettle.recompute now

theorem TypesInto.press_char (h : TypesInto e items place c) (now : Micros) (x : Char) {held : Held}
    (hcontrol : held.control = false) (halt : held.alt = false) :
    TypesInto (e.press now (.char x) held) items place (c.edit (.letters (c.letters ++ [x]))) := by
  rw [press_of_retypes h.mode h.current (.letter x hcontrol halt),
    editCurrent_of_current h.current]
  refine ⟨h.mode, h.selected, h.lt, ?_⟩
  dsimp only [Session.accept]
  rw [h.items_eq, h.selected, List.set_set]

theorem TypesInto.run {events : List Event} {text : List Char} (htypes : Types events text)
    (h : TypesInto e items place c) : TypesInto (e.run events) items place (c.typed text) := by
  induction htypes generalizing e c with
  | done => exact h
  | press now x hcontrol halt _ ih => exact ih (h.press_char now x hcontrol halt)
  | tick now outcome _ ih => exact ih (h.tick now outcome)

/-- **Typing is pasting**, for letters that do not hang on those around them: for every criterion
that can come up, and for the one under the cursor of an editor while letters are typed, whatever
ticks come between the keys. A kind that compares one letter is left with the last one typed. In an
editor that only keys and ticks have worked on there is a criterion under the cursor then. -/
theorem typing_is_pasting {text : List Char} (h : ∀ x ∈ text, Typeable x) :
    (∀ c : Criterion, c.Reachable →
      c.typed text = c.edit (.letters (c.letters ++ text)) ∧
      (c.kind = .equals ∨ c.kind = .differs → ∀ before x, text = before ++ [x] →
        (c.typed text).letters = lastLetter (lower x))) ∧
    (∀ e : Editor, e.Reachable → e.mode = .editLetters → ∀ c, e.current? = some c →
      ∀ events, Types events text →
        (e.run events).session.criteria.items =
          e.session.criteria.items.set e.selected (c.edit (.letters (c.letters ++ text))) ∧
        (e.run events).mode = .editLetters ∧ (e.run events).selected = e.selected) ∧
    ∀ e : Editor, e.Fresh → ∀ before, (e.run before).mode = .editLetters →
      ∃ c, (e.run before).current? = some c := by
  refine ⟨fun c hc => ⟨hc.typed_eq h, ?_⟩, ?_, ?_⟩
  · rintro hkind before x rfl
    exact hc.letters_typed_concat (Kind.isSingle_iff.mpr hkind) h
  · intro e he hmode c hcurrent events htypes
    have hc : c.Reachable := he.session.criteria.items c (List.mem_of_getElem? hcurrent)
    have hrun := (typesInto_of_current hmode hcurrent).run htypes
    rw [hc.typed_eq h] at hrun
    exact ⟨hrun.items_eq, hrun.mode, hrun.selected⟩
  · intro e he before hmode
    have hplaced : Placed (e.run before) := he.placed.run before
    exact ⟨_, List.getElem?_eq_getElem (hplaced.typing hmode).1⟩

/-- A titlecase letter that was there before goes under with the first capital, a letter grows by a
dot when it is lowercased, and a mathematical capital stays as it is. -/
theorem typing_is_pasting_capitals :
    let text := ['b', 'İ', '𝐀']
    let c := make .includes ['\u01C5'] .whole
    let d := make .differs ['q'] (.position ⟨1, by decide⟩)
    let e := (start (Session.start .standard) .embedded).run
      [.press 0 .enter { control := false, alt := false, shift := false }]
    let keys : List Event :=
      [.press 1 (.char 'b') { control := false, alt := false, shift := false }, .tick 2 none,
       .press 3 (.char 'İ') { control := false, alt := false, shift := true },
       .press 4 (.char '𝐀') { control := false, alt := false, shift := false }]
    (∀ x ∈ text, Typeable x) ∧ c.Reachable ∧ d.Reachable ∧ e.Reachable ∧ Types keys text ∧
      c.edit (.letters (c.letters ++ text)) =
        { kind := .includes, letters := ['\u01C6', 'b', 'i', '\u0307', '𝐀'], scope := .whole } ∧
      c.typed text = c.edit (.letters (c.letters ++ text)) ∧
      (d.typed text).letters = ['𝐀'] ∧
      (e.run keys).session.criteria.items =
        [{ kind := .excludes, letters := ['b', 'i', '\u0307', '𝐀'], scope := .whole }] := by
  intro text c d e keys
  have hall : text.all (fun x => decide (Typeable x)) = true := by decide +kernel
  have htext : ∀ x ∈ text, Typeable x := by simpa using hall
  have hc : c.Reachable := .make _ _ _
  have hd : d.Reachable := .make _ _ _
  have hstart : (Session.start .standard).Reachable := .fresh (.start .standard)
  have he : e.Reachable := (Reachable.start .embedded hstart).run _
  have hkeys : Types keys text := .press _ _ rfl rfl (.tick _ _ (.press _ _ rfl rfl
    (.press _ _ rfl rfl .done)))
  obtain ⟨hcriteria, heditor, -⟩ := typing_is_pasting htext
  have hcurrent : e.current? = some .blank := by decide +kernel
  obtain ⟨hitems, -⟩ := heditor e he (by decide +kernel) .blank hcurrent keys hkeys
  refine ⟨htext, hc, hd, he, hkeys, by decide +kernel, (hcriteria c hc).1, ?_, ?_⟩
  · rw [(hcriteria d hd).2 (.inr (by decide +kernel)) ['b', 'İ'] '𝐀' rfl]
    decide +kernel
  · rw [hitems]
    decide +kernel

end Editor

end WordSieve
