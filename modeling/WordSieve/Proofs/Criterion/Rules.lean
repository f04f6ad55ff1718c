import WordSieve.Criterion.Spec

/-!
# The rules every criterion keeps

`Criterion.normalize` is the one place that restores the rules, and every way to obtain a criterion
ends in it or starts from the blank one. So what `normalize` establishes holds of every criterion
that can come up, whatever was typed and in whatever order.

Two of the rules are all that a compiler of criteria needs: the kinds that compare one letter stand
at a position, and hold one letter at most.
-/

set_option autoImplicit false

namespace WordSieve

/-- A kind that takes a list of letters fits every scope. -/
theorem Kind.fits_of_not_isSingle {k : Kind} {s : Scope} (h : k.isSingle = false) :
    k.fits s = true := by
  simp [Kind.fits, h]

theorem Kind.isSingle_iff {k : Kind} : k.isSingle = true ↔ k = .equals ∨ k = .differs := by
  cases k <;> decide

namespace Criterion

/-- The rules of kind, scope and number of letters. -/
structure Regular (c : Criterion) : Prop where
  /-- The kind may have the scope. -/
  fits : c.kind.fits c.scope = true
  /-- A kind that compares one letter has no more. -/
  single : c.kind.isSingle = true → c.letters.length ≤ 1

theorem length_lastLetter_le (s : List Char) : (lastLetter s).length ≤ 1 := by
  unfold lastLetter
  cases s.getLast? with
  | none => exact Nat.zero_le 1
  | some c => exact Nat.le_refl 1

/-! ## What normalizing leaves -/

theorem scope_normalize (c : Criterion) : c.normalize.scope = c.scope := rfl

theorem kind_normalize (c : Criterion) :
    c.normalize.kind = if c.kind.fits c.scope then c.kind else .excludes := rfl

theorem letters_normalize (c : Criterion) :
    c.normalize.letters =
      if c.normalize.kind.isSingle then lastLetter (foldLetters c.letters)
      else foldLetters c.letters := rfl

/-- Normalizing restores the rules, whatever it starts from. -/
theorem regular_normalize (c : Criterion) : c.normalize.Regular := by
  constructor
  · rw [scope_normalize, kind_normalize]
    split
    · assumption
    · exact Kind.fits_of_not_isSingle rfl
  · intro hs
    rw [letters_normalize, if_pos hs]
    exact length_lastLetter_le _

/-- A criterion that is read was made of the parts that were read. -/
theorem eq_make_of_read {s : List Char} {c : Criterion} (h : read s = .ok c) :
    ∃ kind letters scope, c = make kind letters scope := by
  unfold read at h
  split at h
  · exact absurd h (by simp)
  · rename_i kindText rest _
    simp only [bind, Except.bind] at h
    split at h
    · exact absurd h (by simp)
    · split at h
      · exact absurd h (by simp)
      · exact ⟨_, _, _, (Except.ok.inj h).symm⟩

/-- Every criterion that can come up is what normalizing left: the blank one has nothing to
normalize. -/
theorem Reachable.exists_normalize {c : Criterion} (h : c.Reachable) :
    ∃ d : Criterion, c = d.normalize := by
  cases h with
  | make kind letters scope => exact ⟨_, rfl⟩
  | blank => exact ⟨Criterion.blank, rfl⟩
  | read hread =>
    obtain ⟨kind, letters, scope, rfl⟩ := eq_make_of_read hread
    exact ⟨_, rfl⟩
  | edit e _ => exact ⟨_, rfl⟩

/-- Every criterion that can come up keeps the rules. -/
theorem Reachable.regular {c : Criterion} (h : c.Reachable) : c.Regular := by
  obtain ⟨d, rfl⟩ := h.exists_normalize
  exact regular_normalize d

end Criterion

end WordSieve
