import WordSieve.Proofs.Criterion.Letters

/-!
# Normal criteria

Normalizing does three things that could get in each other's way: it changes letters, then the
kind, and then cuts the letters for the kind that was settled on. It is nevertheless done after one
go. The kind it leaves fits, so it is not changed again; a single letter is not cut again; and
letters that are kept once are kept again, cut or not.

So every criterion that can come up is one that normalizing leaves as it is, and setting a part of
it to what the part already is changes nothing.
-/

set_option autoImplicit false

namespace WordSieve

/-- A position is what its own number gives, so a number past the word gives none. -/
theorem Position.ofNumber_eq_ok_iff {n : Nat} {p : Position} :
    ofNumber n = .ok p ↔ p.number = n ∧ 1 ≤ n ∧ n ≤ 5 := by
  unfold ofNumber
  split
  · rename_i hn
    constructor
    · rintro ⟨⟩
      exact ⟨Nat.sub_add_cancel hn.1, hn⟩
    · rintro ⟨rfl, -⟩
      rfl
  · rename_i hn
    exact ⟨fun h => (nomatch h), fun h => absurd h.2 hn⟩

theorem Position.ofNumber_number (p : Position) : ofNumber p.number = .ok p :=
  ofNumber_eq_ok_iff.mpr ⟨rfl, Nat.le_add_left 1 _, p.place.isLt⟩

theorem Scope.ofNumber_number (p : Position) : ofNumber p.number = .ok (.position p) :=
  congrArg (Except.map Scope.position) p.ofNumber_number

namespace Criterion

variable {c : Criterion}

theorem lastLetter_of_length_le {s : List Char} (h : s.length ≤ 1) : lastLetter s = s := by
  cases s with
  | nil => rfl
  | cons x rest =>
    have hrest : rest = [] := List.eq_nil_of_length_eq_zero (by simpa using h)
    rw [hrest]
    rfl

/-- Normalizing leaves alone what keeps the rules. -/
theorem normalize_eq_self (hregular : c.Regular) (hfolded : Folded c.letters) :
    c.normalize = c := by
  obtain ⟨kind, letters, scope⟩ := c
  have hfits : kind.fits scope = true := hregular.fits
  have hletters : foldLetters letters = letters := hfolded.foldLetters_eq
  have hkind : (if kind.fits scope then kind else .excludes) = kind := if_pos hfits
  simp only [normalize, hkind, hletters]
  cases hs : kind.isSingle with
  | true =>
    have hlast : lastLetter letters = letters := lastLetter_of_length_le (hregular.single hs)
    simp only [hlast, ite_self]
  | false => simp only [Bool.false_eq_true, if_false]

theorem normalize_normalize (c : Criterion) : c.normalize.normalize = c.normalize :=
  normalize_eq_self (regular_normalize c) (folded_normalize c)

theorem Reachable.normalize_eq (h : c.Reachable) : c.normalize = c := by
  obtain ⟨d, rfl⟩ := h.exists_normalize
  exact normalize_normalize d

/-- A kind that was settled for the scope is settled again as it is, so it makes no difference
whether that happened before the letters came. -/
theorem normalize_settled_kind (kind : Kind) (letters : List Char) (scope : Scope) :
    normalize { kind := if kind.fits scope then kind else .excludes, letters, scope } =
      normalize { kind, letters, scope } := by
  cases hfits : kind.fits scope with
  | true => rfl
  | false =>
    have hexcludes : Kind.excludes.fits scope = true := Kind.fits_of_not_isSingle rfl
    simp only [normalize, hfits, hexcludes, Bool.false_eq_true, if_false, if_true]

/-- What holds of a criterion after any edits. -/
structure Normal (c : Criterion) : Prop where
  /-- The kinds that compare one letter stand at a position and hold one letter at most. -/
  single : c.kind = .equals ∨ c.kind = .differs → c.scope ≠ .whole ∧ c.letters.length ≤ 1
  position : ∀ p, c.scope = .position p →
    1 ≤ p.number ∧ p.number ≤ 5 ∧ Position.ofNumber p.number = .ok p
  normalize_eq : c.normalize = c
  /-- A part that is set to what it already is stays, and so do the other parts. -/
  edit_eq : c.edit (.kind c.kind) = c ∧ c.edit (.letters c.letters) = c ∧
    c.edit (.scope c.scope) = c

theorem Regular.scope_ne_whole (h : c.Regular) (hs : c.kind.isSingle = true) :
    c.scope ≠ .whole := by
  intro hwhole
  have hfits := h.fits
  rw [Kind.fits, hs, hwhole] at hfits
  exact absurd hfits (by decide)

theorem Reachable.normal (h : c.Reachable) : c.Normal := by
  refine ⟨fun hkind => ?_, fun p _ => ?_, h.normalize_eq, ?_⟩
  · have hs : c.kind.isSingle = true := Kind.isSingle_iff.mpr hkind
    exact ⟨h.regular.scope_ne_whole hs, h.regular.single hs⟩
  · have hlower : 1 ≤ p.number := Nat.le_add_left 1 _
    have hupper : p.number ≤ 5 := p.place.isLt
    exact ⟨hlower, hupper, p.ofNumber_number⟩
  -- Setting a part to itself gives the criterion back, so editing it is normalizing the criterion.
  · exact ⟨h.normalize_eq, h.normalize_eq, h.normalize_eq⟩

end Criterion

end WordSieve
