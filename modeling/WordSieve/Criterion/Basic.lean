import WordSieve.Criterion.Kind

/-!
# Criteria

A criterion is a kind, some letters and a scope. Every way to make or change one ends in
`Criterion.normalize`, which restores three rules: letters are lowercase, a kind fits its scope,
and a kind that compares one letter keeps the last one typed.
-/

set_option autoImplicit false

namespace WordSieve

open Text

/-- One filter rule. -/
structure Criterion where
  kind : Kind
  letters : List Char
  scope : Scope
  deriving DecidableEq, Repr

/-- A change to one part of a criterion. -/
inductive Edit where
  | kind (k : Kind)
  | letters (s : List Char)
  | scope (s : Scope)
  deriving DecidableEq, Repr

namespace Criterion

/-- Letters as they are kept: lowercased as soon as one of them is a capital. -/
def foldLetters (s : List Char) : List Char :=
  if s.any isUpper then lowercase s else s

/-- The last of the letters, as a list. -/
def lastLetter (s : List Char) : List Char :=
  s.getLast?.toList

/-- The criterion with the rules restored. The kind is settled before the letters are cut, so a
kind that does not fit its scope cuts nothing. -/
def normalize (c : Criterion) : Criterion :=
  let letters := foldLetters c.letters
  let kind := if c.kind.fits c.scope then c.kind else .excludes
  { kind, scope := c.scope, letters := if kind.isSingle then lastLetter letters else letters }

/-- The criterion with the given parts. -/
def make (kind : Kind) (letters : List Char) (scope : Scope) : Criterion :=
  normalize { kind, letters, scope }

/-- The criterion a new row starts as: it excludes no letters anywhere. -/
def blank : Criterion :=
  { kind := .excludes, letters := [], scope := .whole }

instance : Inhabited Criterion := ⟨blank⟩

/-- The criterion with one part replaced and nothing restored. -/
def set (c : Criterion) : Edit → Criterion
  | .kind k => { c with kind := k }
  | .letters s => { c with letters := s }
  | .scope s => { c with scope := s }

/-- The criterion after an edit. -/
def edit (c : Criterion) (e : Edit) : Criterion :=
  (c.set e).normalize

/-- A criterion without letters asks nothing of a word. -/
def isEmpty (c : Criterion) : Bool :=
  c.letters.isEmpty

end Criterion

end WordSieve
