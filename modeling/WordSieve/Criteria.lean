import WordSieve.Criterion.Spec

/-!
# The list of criteria

The criteria stand in the order they were added, which matters for display alone. The list counts
the changes made to it: an operation on a place where there is no criterion changes nothing and is
not counted.
-/

set_option autoImplicit false

namespace WordSieve

/-- The criteria that are being edited, with the number of changes made so far. -/
structure Criteria where
  items : List Criterion
  /-- Counted without a bound; a counter of 64 bits shows the same for the first 2 ^ 64 changes. -/
  revision : Nat
  deriving DecidableEq, Repr

namespace Criteria

/-- One criterion that asks nothing. -/
def initial : Criteria :=
  { items := [.blank], revision := 0 }

/-- The given criteria, unchanged so far. -/
def ofList (items : List Criterion) : Criteria :=
  { items, revision := 0 }

/-- How many criteria there are. -/
def size (s : Criteria) : Nat :=
  s.items.length

/-- The list with a criterion that asks nothing at its end. -/
def add (s : Criteria) : Criteria :=
  { items := s.items ++ [.blank], revision := s.revision + 1 }

/-- The list without the criterion at the place, if there is one. -/
def remove? (s : Criteria) (index : Nat) : Option Criteria :=
  if index < s.size then
    some { items := s.items.eraseIdx index, revision := s.revision + 1 }
  else none

/-- The list with the criterion at the place edited, if there is one. -/
def edit? (s : Criteria) (index : Nat) (e : Edit) : Option Criteria :=
  match s.items[index]? with
  | some c => some { items := s.items.set index (c.edit e), revision := s.revision + 1 }
  | none => none

/-! ## Histories -/

/-- A change that may be asked for. -/
inductive Change where
  | add
  | remove (index : Nat)
  | edit (index : Nat) (e : Edit)
  deriving DecidableEq, Repr

/-- The list after a change, which does nothing where it finds no criterion. -/
def change (s : Criteria) : Change → Criteria
  | .add => s.add
  | .remove index => (s.remove? index).getD s
  | .edit index e => (s.edit? index e).getD s

/-- The list after the changes in turn. -/
def changes (s : Criteria) (cs : List Change) : Criteria :=
  cs.foldl change s

end Criteria

end WordSieve
