import Mathlib.Data.List.Basic
import WordSieve.Criteria

/-!
# The list of criteria after changes

What the list holds is what a plain list would hold that knows neither revisions nor refusals: it
takes a blank criterion at its end, drops the one at a place or edits the one at a place, and where
it has no such place it stays as it is (`Criteria.Change.applyTo`). The revision counts the changes
that were taken, and the caller is told which those are. A change that is refused leaves the whole
list alone, so as long as the revision stays the same nothing else has changed either.

What one change does is said by `change_of_finds` and `change_of_not_finds`, and no proof below
these two looks at the changes again.
-/

set_option autoImplicit false

namespace WordSieve

namespace Criteria

variable {s : Criteria} {ch : Change}

/-! ## The plain list -/

/-- A plain list of criteria after the change. -/
def Change.applyTo (items : List Criterion) : Change → List Criterion
  | .add => items ++ [.blank]
  | .remove index => items.eraseIdx index
  | .edit index e => items.modify index (·.edit e)

/-- The list has the place that the change is about. -/
def Change.Finds (items : List Criterion) : Change → Prop
  | .add => True
  | .remove index | .edit index _ => index < items.length

theorem Change.applyTo_of_not_finds {items : List Criterion} (h : ¬ ch.Finds items) :
    ch.applyTo items = items := by
  cases ch with
  | add => exact absurd trivial h
  | remove index => exact List.eraseIdx_of_length_le (Nat.le_of_not_lt h)
  | edit index e => exact List.modify_eq_self (Nat.le_of_not_lt h)

/-! ## One change -/

/-- Whether the change is taken, as the caller is told. -/
def takes (s : Criteria) : Change → Bool
  | .add => true
  | .remove index => (s.remove? index).isSome
  | .edit index e => (s.edit? index e).isSome

theorem isSome_remove? (s : Criteria) (index : Nat) :
    (s.remove? index).isSome = true ↔ index < s.items.length := by
  by_cases h : index < s.items.length <;> simp [remove?, size, h]

theorem isSome_edit? (s : Criteria) (index : Nat) (e : Edit) :
    (s.edit? index e).isSome = true ↔ index < s.items.length := by
  by_cases h : index < s.items.length <;> simp [edit?, h]

theorem takes_iff : s.takes ch = true ↔ ch.Finds s.items := by
  cases ch with
  | add => simp [takes, Change.Finds]
  | remove index => exact isSome_remove? s index
  | edit index e => exact isSome_edit? s index e

theorem change_of_finds (h : ch.Finds s.items) :
    s.change ch = { items := ch.applyTo s.items, revision := s.revision + 1 } := by
  cases ch with
  | add => rfl
  | remove index =>
    have hlt : index < s.size := h
    simp [change, remove?, hlt, Change.applyTo]
  | edit index e =>
    have hlt : index < s.items.length := h
    simp [change, edit?, hlt, Change.applyTo, List.modify_eq_set_getElem?]

theorem change_of_not_finds (h : ¬ ch.Finds s.items) : s.change ch = s := by
  cases ch with
  | add => exact absurd trivial h
  | remove index =>
    have hlt : ¬ index < s.size := h
    simp [change, remove?, hlt]
  | edit index e =>
    have hlt : ¬ index < s.items.length := h
    simp [change, edit?, hlt]

theorem change_edit_of_getElem? {index : Nat} {c : Criterion} (h : s.items[index]? = some c)
    (e : Edit) :
    s.change (.edit index e) =
      { items := s.items.set index (c.edit e), revision := s.revision + 1 } := by
  simp [change, edit?, h]

theorem items_change (s : Criteria) (ch : Change) : (s.change ch).items = ch.applyTo s.items := by
  by_cases h : ch.Finds s.items
  · rw [change_of_finds h]
  · rw [change_of_not_finds h, Change.applyTo_of_not_finds h]

theorem revision_change (s : Criteria) (ch : Change) :
    (s.change ch).revision = s.revision + if s.takes ch then 1 else 0 := by
  by_cases h : ch.Finds s.items
  · rw [change_of_finds h, if_pos (takes_iff.mpr h)]
  · rw [change_of_not_finds h, if_neg (mt takes_iff.mp h), Nat.add_zero]

/-! ## All changes -/

/-- What the caller is told of the changes in turn. -/
def answers (s : Criteria) : List Change → List Bool
  | [] => []
  | ch :: rest => s.takes ch :: (s.change ch).answers rest

theorem changes_append (s : Criteria) (first rest : List Change) :
    s.changes (first ++ rest) = (s.changes first).changes rest :=
  List.foldl_append

theorem items_changes (s : Criteria) (cs : List Change) :
    (s.changes cs).items = cs.foldl Change.applyTo s.items := by
  induction cs generalizing s with
  | nil => rfl
  | cons ch rest ih =>
    have hrest := ih (s.change ch)
    rw [items_change] at hrest
    exact hrest

theorem revision_changes (s : Criteria) (cs : List Change) :
    (s.changes cs).revision = s.revision + (s.answers cs).count true := by
  induction cs generalizing s with
  | nil => rfl
  | cons ch rest ih =>
    have hrest := ih (s.change ch)
    rw [revision_change] at hrest
    show ((s.change ch).changes rest).revision = _
    rw [hrest, answers, List.count_cons]
    cases s.takes ch with
    | true => simp; omega
    | false => simp

theorem revision_le (s : Criteria) (cs : List Change) : s.revision ≤ (s.changes cs).revision := by
  rw [revision_changes]
  exact Nat.le_add_right _ _

/-- The revision stands still only where every change was refused. -/
theorem eq_of_revision_eq {cs : List Change} (h : (s.changes cs).revision = s.revision) :
    s.changes cs = s := by
  induction cs with
  | nil => rfl
  | cons ch rest ih =>
    have hrest : (s.change ch).revision ≤ ((s.change ch).changes rest).revision :=
      revision_le (s.change ch) rest
    have hsame : ((s.change ch).changes rest).revision = s.revision := h
    by_cases hfinds : ch.Finds s.items
    · rw [hsame, change_of_finds hfinds] at hrest
      exact absurd hrest (Nat.not_succ_le_self _)
    · have hnone : s.change ch = s := change_of_not_finds hfinds
      rw [hnone] at hsame
      show (s.change ch).changes rest = s
      rw [hnone]
      exact ih hsame

/-- Two moments of one history have the same revision only if they have the same list: the later one
comes from the earlier one by changes that were all refused. -/
theorem changes_eq_of_revision_eq {cs first second : List Change} (hfirst : first <+: cs)
    (hsecond : second <+: cs) (h : (s.changes first).revision = (s.changes second).revision) :
    s.changes first = s.changes second := by
  rcases List.prefix_or_prefix_of_prefix hfirst hsecond with ⟨rest, rfl⟩ | ⟨rest, rfl⟩
  · rw [changes_append] at h ⊢
    exact (eq_of_revision_eq h.symm).symm
  · rw [changes_append] at h ⊢
    exact eq_of_revision_eq h

/-! ## Edits of two places -/

theorem takes_edit_change_edit (s : Criteria) (i j : Nat) (e e' : Edit) :
    (s.change (.edit i e)).takes (.edit j e') = s.takes (.edit j e') := by
  rw [Bool.eq_iff_iff, takes_iff, takes_iff]
  simp [Change.Finds, items_change, Change.applyTo]

theorem change_edit_comm {i j : Nat} (hij : i ≠ j) (s : Criteria) (e e' : Edit) :
    (s.change (.edit i e)).change (.edit j e') = (s.change (.edit j e')).change (.edit i e) := by
  have hitems : ((s.change (.edit i e)).change (.edit j e')).items =
      ((s.change (.edit j e')).change (.edit i e)).items := by
    simp only [items_change, Change.applyTo]
    exact List.modify_modify_ne _ _ _ hij
  -- Neither edit makes the list longer or shorter, so each is taken just where it would be alone.
  have hrevision : ((s.change (.edit i e)).change (.edit j e')).revision =
      ((s.change (.edit j e')).change (.edit i e)).revision := by
    simp only [revision_change, takes_edit_change_edit]
    exact Nat.add_right_comm _ _ _
  exact congrArg₂ Criteria.mk hitems hrevision

/-! ## Together -/

/-- A list of criteria that nothing has happened to. -/
inductive Fresh : Criteria → Prop where
  | initial : Fresh .initial
  | ofList (items : List Criterion) : Fresh (.ofList items)

theorem Fresh.revision_eq (h : s.Fresh) : s.revision = 0 := by
  cases h <;> rfl

/-- **The list of criteria is a plain list with a count.** After any changes it holds what the plain
list holds. A change is taken just where the list has its place, and is without effect elsewhere.
The revision is the number of changes taken, so it never goes back, and two moments with the same
revision have the same list. Edits of two places may be made in either order. -/
theorem changes_faithful (hs : s.Fresh) (cs : List Change) :
    let t := s.changes cs
    t.items = cs.foldl Change.applyTo s.items ∧
    (∀ index e,
      ((t.remove? index).isSome = true ↔ index < t.items.length) ∧
      ((t.edit? index e).isSome = true ↔ index < t.items.length) ∧
      (¬ index < t.items.length → t.change (.remove index) = t ∧ t.change (.edit index e) = t)) ∧
    t.revision = (s.answers cs).count true ∧
    (∀ rest, t.revision ≤ (t.changes rest).revision) ∧
    (∀ first second, first <+: cs → second <+: cs →
      (s.changes first).revision = (s.changes second).revision →
      (s.changes first).items = (s.changes second).items) ∧
    ∀ i j, i ≠ j → ∀ e e',
      t.changes [.edit i e, .edit j e'] = t.changes [.edit j e', .edit i e] := by
  intro t
  refine ⟨items_changes s cs, fun index e => ?_, ?_, revision_le t, ?_, ?_⟩
  · refine ⟨isSome_remove? t index, isSome_edit? t index e, fun hlt => ?_⟩
    exact ⟨change_of_not_finds hlt, change_of_not_finds hlt⟩
  · rw [revision_changes, hs.revision_eq, Nat.zero_add]
  · intro first second hfirst hsecond hrevision
    exact congrArg items (changes_eq_of_revision_eq hfirst hsecond hrevision)
  · intro i j hij e e'
    exact change_edit_comm hij t e e'

/-- Three changes that are taken, with two between them that come too late: the places they are
about were there before the removal. -/
def shortening : List Change :=
  [.edit 1 (.letters ['Q']), .remove 0, .remove 1, .edit 1 (.kind .includes),
   .edit 0 (.kind .includes)]

theorem changes_faithful_shortening :
    let s := ofList [.blank, .blank]
    let t := s.changes shortening
    s.Fresh ∧ t.items = [{ kind := .includes, letters := ['q'], scope := .whole }] ∧
      t.revision = 3 ∧ ((t.remove? 1).isSome = true ↔ 1 < t.items.length) ∧
      t.change (.remove 1) = t ∧
      (s.changes (shortening.take 2)).items = (s.changes (shortening.take 4)).items ∧
      t.changes [.edit 0 (.kind .excludes), .edit 7 (.letters [])] =
        t.changes [.edit 7 (.letters []), .edit 0 (.kind .excludes)] := by
  intro s t
  have hs : s.Fresh := .ofList _
  obtain ⟨hitems, hplace, hrevision, -, hsame, hcomm⟩ := changes_faithful hs shortening
  obtain ⟨hremove, -, hrefused⟩ := hplace 1 (.letters [])
  have htaken : t.items = [{ kind := .includes, letters := ['q'], scope := .whole }] :=
    hitems.trans (by decide +kernel)
  have hone : ¬ 1 < t.items.length := by simp [htaken]
  refine ⟨hs, htaken, hrevision.trans (by decide +kernel), hremove, (hrefused hone).1, ?_, ?_⟩
  · exact hsame _ _ (List.take_prefix 2 _) (List.take_prefix 4 _) (by decide +kernel)
  · exact hcomm 0 7 (by simp) _ _

end Criteria

end WordSieve
