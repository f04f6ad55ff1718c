import WordSieve.Criterion.Basic
import WordSieve.Text.Cut

/-!
# Criteria as text

A criterion is written `kind:scope:letters`. The letters go to the end of the text, so they may
hold colons and blanks; the last colon may be left out when there are none. Edits are typed as the
name of a part and its new value.
-/

set_option autoImplicit false

namespace WordSieve

open Text

namespace Criterion

/-- The criterion as it is typed. -/
def spec (c : Criterion) : List Char :=
  c.kind.name.toList ++ ':' :: c.scope.name.toList ++ ':' :: c.letters

/-- Reads a criterion as it is typed. Of two faults the kind's is told. -/
def read (s : List Char) : Except CriterionError Criterion :=
  match cut ':' s with
  | (_, none) => .error (.malformedSpec (String.ofList s))
  | (kindText, some rest) => do
    let (scopeText, letters) := cut ':' rest
    let kind ← Kind.read kindText
    let scope ← Scope.read scopeText
    return make kind (letters.getD []) scope

/-- The criteria that can come up: what `make`, `blank` and `read` give, and their edits. -/
inductive Reachable : Criterion → Prop where
  | make (kind : Kind) (letters : List Char) (scope : Scope) : Reachable (make kind letters scope)
  | blank : Reachable blank
  | read {s : List Char} {c : Criterion} : read s = .ok c → Reachable c
  | edit {c : Criterion} (e : Edit) : Reachable c → Reachable (c.edit e)

end Criterion

/-- The criteria of a list of specs, or the error of the first one that is refused. -/
def readCriteria (specs : List (List Char)) : Except CriterionError (List Criterion) :=
  specs.mapM Criterion.read

/-- Reads an edit. Each part of a criterion has a long and a short name, in any case; letters are
taken as they are. -/
def Edit.read (field value : List Char) : Except CriterionError Edit :=
  let folded := lowercase (trim field)
  if folded = "kind".toList ∨ folded = "type".toList then .kind <$> Kind.read value
  else if folded = "letters".toList ∨ folded = "value".toList then .ok (.letters value)
  else if folded = "scope".toList ∨ folded = "pos".toList ∨ folded = "position".toList then
    .scope <$> Scope.read value
  else .error (.unknownField (String.ofList field))

end WordSieve
