import WordSieve.Proofs.Criterion.Normal
import WordSieve.Proofs.Text.Cut

/-!
# Criteria through their text

A criterion is written with its letters last, and neither a kind nor a scope is written with a
colon. The two colons that a reader looks for are thus the first two, whatever the letters hold. What
it makes of the three parts is normalized, so reading gives the criterion that was written if that
one was normal, and its normal form otherwise.
-/

set_option autoImplicit false

namespace WordSieve

open Text

theorem Kind.colon_not_mem_name (k : Kind) : ':' ∉ k.name.toList := by
  cases k <;> decide

theorem Kind.read_name (k : Kind) : Kind.read k.name.toList = .ok k := by
  cases k <;> rfl

theorem Scope.colon_not_mem_name (s : Scope) : ':' ∉ s.name.toList := by
  cases s with
  | whole => decide
  | position p =>
    obtain ⟨place⟩ := p
    revert place
    decide +kernel

theorem Scope.read_name (s : Scope) : Scope.read s.name.toList = .ok s := by
  cases s with
  | whole => rfl
  | position p =>
    obtain ⟨place⟩ := p
    have hread : ∀ place : Fin wordLength,
        (Scope.read (Scope.position ⟨place⟩).name.toList).toOption =
          some (.position ⟨place⟩) := by
      decide +kernel
    have hplace := hread place
    cases hresult : Scope.read (Scope.position ⟨place⟩).name.toList with
    | ok s =>
      rw [hresult] at hplace
      exact congrArg Except.ok (Option.some.inj hplace)
    | error e =>
      rw [hresult] at hplace
      exact absurd hplace (Option.some_ne_none _).symm

namespace Criterion

/-- Reading the text of any three parts makes a criterion of them. -/
theorem read_spec (c : Criterion) : read c.spec = .ok c.normalize := by
  have hkind : cut ':' (c.kind.name.toList ++ ':' :: (c.scope.name.toList ++ ':' :: c.letters)) =
      (c.kind.name.toList, some (c.scope.name.toList ++ ':' :: c.letters)) :=
    cut_append c.kind.colon_not_mem_name
  have hscope : cut ':' (c.scope.name.toList ++ ':' :: c.letters) =
      (c.scope.name.toList, some c.letters) :=
    cut_append c.scope.colon_not_mem_name
  have hspec : c.spec =
      c.kind.name.toList ++ ':' :: (c.scope.name.toList ++ ':' :: c.letters) :=
    List.append_assoc _ _ _
  rw [read, hspec, hkind]
  simp only [hscope, Kind.read_name, Scope.read_name]
  rfl

/-- **A criterion is read back from its text**, whatever its letters are, and what was read from any
text is read again from the text it is written as. -/
theorem spec_round_trip :
    (∀ c : Criterion, c.Reachable → read c.spec = .ok c) ∧
      ∀ (s : List Char) (c : Criterion), read s = .ok c → read c.spec = .ok c := by
  have hreachable : ∀ c : Criterion, c.Reachable → read c.spec = .ok c := by
    intro c h
    rw [read_spec, h.normalize_eq]
  exact ⟨hreachable, fun s c hs => hreachable c (.read hs)⟩

/-- Letters that look like a spec of their own, with blanks at both ends; and a text whose kind and
scope are written out of order, with a letter that grows when it is lowercased and is then cut. -/
theorem spec_round_trip_colons :
    let edited := ((blank.edit (.scope (.position ⟨1, by decide⟩))).edit (.kind .includes)).edit
      (.letters [' ', 'i', 's', ':', '1', ':', '"', 'É', '\u3000'])
    let single : Criterion :=
      { kind := .equals, letters := ['\u0307'], scope := .position ⟨2, by decide⟩ }
    edited.Reachable ∧ edited.spec = "include:2: is:1:\"é\u3000".toList ∧
      read edited.spec = .ok edited ∧
      read "IS :\u3000+03 :x:İ".toList = .ok single ∧ read single.spec = .ok single := by
  intro edited single
  have hedited : edited.Reachable := ((Reachable.blank.edit _).edit _).edit _
  have hsingle : read "IS :\u3000+03 :x:İ".toList = .ok single := by rfl
  exact ⟨hedited, by decide +kernel, spec_round_trip.1 edited hedited, hsingle,
    spec_round_trip.2 _ single hsingle⟩

end Criterion

end WordSieve
