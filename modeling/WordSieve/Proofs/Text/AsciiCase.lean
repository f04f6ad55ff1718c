import WordSieve.Proofs.Text.Lowercase

/-!
# Names in any case

Names are looked up by their full lowercase form, in which a letter outside ASCII may become one of
`a` to `z`. Only one does: the Kelvin sign `U+212A` becomes `k`. The other one that has such a letter
in its lowercase form, `U+0130`, brings a combining dot with it. So a name without a `k` is spelled
in no way but in its own letters, small or capital (`lowercase_eq_iff`), and for it the full mapping
is no more generous than one of ASCII alone.
-/

set_option autoImplicit false

namespace WordSieve.Text

/-- The letters `a` to `z` but `k`. -/
def ownLetters : CodeSet :=
  [⟨0x61, 0x6A, 1⟩, ⟨0x6C, 0x7A, 1⟩]

/-- A run of the mapping is one of ASCII, or none of its lowercase forms is one of the letters. -/
theorem images_not_own : (loweringRuns.all fun r =>
    Nat.blt r.range.last 128 || ownLetters.all (r.images.isApart ·)) = true := by
  decide +kernel

theorem lower_of_ascii {c : Char} (h : c.toNat < 128) : lower c = [c.toLower] := by
  have hall : ∀ n < 128, lower (Char.ofNat n) = [(Char.ofNat n).toLower] := by decide +kernel
  have hc := hall c.toNat h
  rwa [Char.ofNat_toNat] at hc

theorem lt_of_own {c : Char} (h : ownLetters.has c = true) : c.toNat < 128 := by
  obtain ⟨r, hr, hc⟩ := List.any_eq_true.mp h
  have hlast : ∀ r ∈ ownLetters, r.last < 128 := by decide
  exact Nat.lt_of_le_of_lt (CodeRange.holds_iff.mp hc).1.2 (hlast r hr)

/-! ## One character -/

variable {c : Char} {before after : List Char}

theorem ascii_of_own_toLower (h : ownLetters.has c.toLower = true) : c.toNat < 128 := by
  by_cases hc : c.toNat < 128
  · exact hc
  · have hnot : ¬ (c.val ≥ 'A'.val ∧ c.val ≤ 'Z'.val) := fun hcapital =>
      hc (Nat.lt_of_le_of_lt hcapital.2 (by decide : ('Z'.val).toNat < 128))
    have hsame : c.toLower = c := dif_neg hnot
    rw [hsame] at h
    exact lt_of_own h

theorem ascii_of_own_lower (h : ∀ d ∈ lower c, ownLetters.has d = true) : c.toNat < 128 := by
  by_cases hdot : c = '\u0130'
  · -- Its lowercase form ends in the combining dot.
    have hmem : '\u0307' ∈ lower c := by rw [hdot]; decide
    exact absurd (h _ hmem) (by decide)
  · rw [lower_of_ne hdot, List.forall_mem_singleton] at h
    rcases loweredCode_cases c.toNat with hsame | ⟨r, hr, hn, himage⟩
    · rw [hsame, Char.ofNat_toNat] at h
      exact lt_of_own h
    · have hrun := List.all_eq_true.mp images_not_own r hr
      rw [Bool.or_eq_true, Nat.blt_eq, List.all_eq_true] at hrun
      rcases hrun with hlast | hapart
      · exact Nat.lt_of_le_of_lt (CodeRange.holds_iff.mp hn).1.2 hlast
      · obtain ⟨own, hown, hholds⟩ := List.any_eq_true.mp h
        rw [himage, toNat_ofNat (image_kept hr hn).1] at hholds
        have hfalse := CodeRange.holds_of_isApart (hapart own hown) (r.holds_images hn)
        exact absurd (hholds.symm.trans hfalse) Bool.noConfusion

theorem lowerBetween_of_ascii (h : c.toNat < 128) : lowerBetween before c after = [c.toLower] := by
  have hsigma : c ≠ 'Σ' := by
    rintro rfl
    exact absurd h (by decide)
  rw [lowerBetween, if_neg hsigma, lower_of_ascii h]

theorem ascii_of_own_lowerBetween
    (h : ∀ d ∈ lowerBetween before c after, ownLetters.has d = true) : c.toNat < 128 := by
  unfold lowerBetween at h
  split at h
  · have hsigma : ownLetters.has 'ς' = false ∧ ownLetters.has 'σ' = false := by decide
    have hform := h _ (List.mem_singleton_self _)
    split at hform
    · exact absurd (hform.symm.trans hsigma.1) Bool.noConfusion
    · exact absurd (hform.symm.trans hsigma.2) Bool.noConfusion
  · exact ascii_of_own_lower h

/-! ## Texts -/

theorem lowercaseAfter_of_ascii {s : List Char} (h : ∀ c ∈ s, c.toNat < 128) :
    lowercaseAfter before s = s.map Char.toLower := by
  induction s generalizing before with
  | nil => rfl
  | cons c s ih =>
    obtain ⟨hc, hs⟩ := List.forall_mem_cons.mp h
    rw [lowercaseAfter, lowerBetween_of_ascii hc, ih hs]
    rfl

theorem ascii_of_own_lowercaseAfter {s : List Char}
    (h : ∀ d ∈ lowercaseAfter before s, ownLetters.has d = true) : ∀ c ∈ s, c.toNat < 128 := by
  induction s generalizing before with
  | nil => simp
  | cons c s ih =>
    obtain ⟨hc, hs⟩ := List.forall_mem_append.mp h
    exact List.forall_mem_cons.mpr ⟨ascii_of_own_lowerBetween hc, ih hs⟩

/-- **A name without a `k` is spelled in its own letters only**, small or capital. -/
theorem lowercase_eq_iff {s name : List Char} (h : ∀ c ∈ name, ownLetters.has c = true) :
    lowercase s = name ↔ s.map Char.toLower = name := by
  constructor
  · rintro rfl
    exact (lowercaseAfter_of_ascii (ascii_of_own_lowercaseAfter h)).symm
  · rintro rfl
    exact lowercaseAfter_of_ascii fun c hc => ascii_of_own_toLower (h _ (List.mem_map_of_mem hc))

/-- The sign for Kelvin is why `k` is left out. -/
example : lowercase ['\u212A'] = ['k'] ∧ ['\u212A'].map Char.toLower = ['\u212A'] := by
  decide +kernel

end WordSieve.Text
