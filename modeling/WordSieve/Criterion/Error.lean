/-!
# Errors of criteria

What can be wrong with a criterion, or an edit of one, as it is typed. Each error keeps the text
that is at fault.
-/

set_option autoImplicit false

namespace WordSieve

/-- Why a typed criterion or edit is refused. -/
inductive CriterionError where
  | unknownField (field : String)
  | invalidKind (text : String)
  | invalidScope (text : String)
  | positionOutOfRange (value : Nat)
  | malformedSpec (text : String)
  deriving DecidableEq, Repr

/-- The error in words. -/
def CriterionError.message : CriterionError → String
  | .unknownField field => s!"Unknown field '{field}' (expected kind, letters or scope)"
  | .invalidKind text => s!"Invalid kind '{text}' (expected exclude, include, is or not)"
  | .invalidScope text => s!"Invalid scope '{text}' (expected 'all' or 1-5)"
  | .positionOutOfRange value => s!"Position {value} is outside 1-5"
  | .malformedSpec text => s!"Malformed criterion '{text}' (expected kind:scope[:letters])"

end WordSieve
