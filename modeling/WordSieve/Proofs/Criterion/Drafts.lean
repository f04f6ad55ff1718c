import WordSieve.Proofs.Criteria.History
import WordSieve.Proofs.Criterion.RoundTrip

/-!
# Entering criteria part by part

A criterion can be made of its three parts at once, or a blank one is added and its parts are edited
one after the other. Each edit normalizes, so on the way the criterion has been through states that
nobody meant. As long as the scope comes first and the letters last nothing of that is left: the
blank criterion has no letters to lose, and the kind is settled for the scope it will have.
-/

set_option autoImplicit false

namespace WordSieve

/-- The three parts that are to be entered for a criterion, whatever they are. -/
structure Draft where
  kind : Kind
  letters : List Char
  scope : Scope
  deriving DecidableEq, Repr

namespace Draft

/-- The criterion that is made of the parts at once. -/
def criterion (d : Draft) : Criterion :=
  .make d.kind d.letters d.scope

/-- The parts as one text. -/
def spec (d : Draft) : List Char :=
  d.kind.name.toList ++ ':' :: d.scope.name.toList ++ ':' :: d.letters

/-- The changes that enter the parts one by one, for a list that has `place` criteria. -/
def changes (place : Nat) (d : Draft) : List Criteria.Change :=
  [.add, .edit place (.scope d.scope), .edit place (.kind d.kind), .edit place (.letters d.letters)]

/-- The changes that enter the drafts in turn behind the first `place` criteria. -/
def changesFrom (place : Nat) : List Draft → List Criteria.Change
  | [] => []
  | d :: rest => d.changes place ++ changesFrom (place + 1) rest

/-- The changes that make the drafts of the list that a session starts with. -/
def script (drafts : List Draft) : List Criteria.Change :=
  .remove 0 :: changesFrom 0 drafts

/-! ## As text -/

theorem readCriteria_spec (drafts : List Draft) :
    readCriteria (drafts.map spec) = .ok (drafts.map criterion) := by
  induction drafts with
  | nil => rfl
  | cons d rest ih =>
    have hread : Criterion.read d.spec = .ok d.criterion :=
      Criterion.read_spec { kind := d.kind, letters := d.letters, scope := d.scope }
    unfold readCriteria at ih ⊢
    rw [List.map_cons, List.mapM_cons, hread, ih]
    rfl

/-! ## Part by part -/

/-- Scope, kind and letters, edited in this order, make what they make at once. -/
theorem edit_parts (d : Draft) :
    ((Criterion.blank.edit (.scope d.scope)).edit (.kind d.kind)).edit (.letters d.letters) =
      d.criterion := by
  have hscope : Criterion.blank.edit (.scope d.scope) =
      { kind := .excludes, letters := [], scope := d.scope } := rfl
  have hkind : (Criterion.mk .excludes [] d.scope).edit (.kind d.kind) =
      { kind := if d.kind.fits d.scope then d.kind else .excludes, letters := [],
        scope := d.scope } := by
    simp only [Criterion.edit, Criterion.set, Criterion.normalize]
    congr 1
    exact ite_self _
  rw [hscope, hkind]
  exact Criterion.normalize_settled_kind d.kind d.letters d.scope

end Draft

namespace Criteria

/-- An edit of the last criterion. -/
theorem change_edit_last {s : Criteria} {before : List Criterion} {c : Criterion}
    (h : s.items = before ++ [c]) (e : Edit) :
    (s.change (.edit before.length e)).items = before ++ [c.edit e] := by
  have hget : s.items[before.length]? = some c := by
    rw [h, List.getElem?_append_right (Nat.le_refl _), Nat.sub_self]
    rfl
  rw [change_edit_of_getElem? hget]
  rw [h, List.set_append_right _ _ (Nat.le_refl _), Nat.sub_self]
  rfl

/-- The changes of a draft put its criterion at the end. -/
theorem changes_draft (s : Criteria) (d : Draft) :
    (s.changes (d.changes s.size)).items = s.items ++ [d.criterion] := by
  have hadd : s.add.items = s.items ++ [.blank] := rfl
  have hscope := change_edit_last hadd (.scope d.scope)
  have hkind := change_edit_last hscope (.kind d.kind)
  have hletters := change_edit_last hkind (.letters d.letters)
  rw [d.edit_parts] at hletters
  exact hletters

theorem changes_changesFrom (drafts : List Draft) (s : Criteria) :
    (s.changes (Draft.changesFrom s.size drafts)).items =
      s.items ++ drafts.map Draft.criterion := by
  induction drafts generalizing s with
  | nil => exact (List.append_nil _).symm
  | cons d rest ih =>
    have hfirst := s.changes_draft d
    have hsize : (s.changes (d.changes s.size)).size = s.size + 1 := by
      rw [size, hfirst, List.length_append]
      rfl
    have hrest := ih (s.changes (d.changes s.size))
    rw [hsize, hfirst] at hrest
    rw [Draft.changesFrom, changes_append, hrest, List.append_assoc]
    rfl

/-- **Drafts that are entered part by part make the criteria they make at once.** -/
theorem changes_script (drafts : List Draft) :
    (initial.changes (Draft.script drafts)).items = drafts.map Draft.criterion := by
  have hempty : (initial.change (.remove 0)).items = [] := rfl
  have hall := changes_changesFrom drafts (initial.change (.remove 0))
  rw [hempty, List.nil_append] at hall
  exact hall

end Criteria

end WordSieve
