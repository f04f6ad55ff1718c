import WordSieve.Proofs.Criterion.Rules
import WordSieve.Proofs.Text.Lowercase

/-!
# The letters a criterion keeps

Letters are lowercased all together, and only if one of them is a capital. What a criterion keeps is
therefore of one of two sorts: letters without a capital, kept as they were typed, or letters that
are lowercase throughout (`Criterion.Folded`). Both sorts go over to a part of the letters, so
cutting them down to the last one brings nothing back.

The first sort is where the guard and the lowercasing differ. A titlecase letter is no capital, so
it stays as it was typed unless a capital is typed with it, and it is the only kind of letter that
does.
-/

set_option autoImplicit false

namespace WordSieve

open Text

namespace Criterion

/-- Letters as a criterion keeps them: none is a capital, or all are lowercase. -/
def Folded (s : List Char) : Prop :=
  (∀ x ∈ s, isUpper x = false) ∨ ∀ x ∈ s, IsLowered x

variable {s t : List Char}

theorem folded_foldLetters (s : List Char) : Folded (foldLetters s) := by
  unfold foldLetters
  split
  case isTrue => exact .inr fun x hx => isLowered_of_mem_lowercase hx
  case isFalse hnone =>
    refine .inl fun x hx => ?_
    rw [Bool.eq_false_iff]
    intro hupper
    exact hnone (List.any_eq_true.mpr ⟨x, hx, hupper⟩)

/-- Letters that are kept once are kept again. -/
theorem Folded.foldLetters_eq (h : Folded s) : foldLetters s = s := by
  unfold foldLetters
  rcases h with hcapitals | hlowered
  · have hnone : s.any isUpper = false := by simpa using hcapitals
    rw [hnone]
    rfl
  · split
    case isTrue => exact lowercase_eq_self_iff.mpr hlowered
    case isFalse => rfl

theorem Folded.of_subset (h : Folded s) (hsub : t ⊆ s) : Folded t :=
  h.imp (fun hcapitals x hx => hcapitals x (hsub hx)) fun hlowered x hx => hlowered x (hsub hx)

theorem lastLetter_subset (s : List Char) : lastLetter s ⊆ s := by
  intro x hx
  unfold lastLetter at hx
  rw [Option.mem_toList] at hx
  exact List.mem_of_getLast? hx

/-- The letters that a criterion of the kind keeps. -/
def kept (k : Kind) (s : List Char) : List Char :=
  if k.isSingle then lastLetter (foldLetters s) else foldLetters s

theorem folded_kept (k : Kind) (s : List Char) : Folded (kept k s) := by
  unfold kept
  split
  · exact (folded_foldLetters s).of_subset (lastLetter_subset _)
  · exact folded_foldLetters s

theorem folded_normalize (c : Criterion) : Folded c.normalize.letters :=
  folded_kept c.normalize.kind c.letters

theorem Reachable.folded {c : Criterion} (h : c.Reachable) : Folded c.letters := by
  obtain ⟨d, rfl⟩ := h.exists_normalize
  exact folded_normalize d

/-- **Letters are lowercase unless one is titlecase.** The letters of a criterion that can come up
are their own lowercase form just when no titlecase letter is among them, and so they are whenever
a capital is among them, which then has no lowercase form. -/
theorem letters_lowercase_iff {c : Criterion} (h : c.Reachable) :
    (lowercase c.letters = c.letters ↔ ∀ x ∈ c.letters, isTitle x = false) ∧
      (c.letters.any isUpper = true → lowercase c.letters = c.letters) := by
  rw [lowercase_eq_self_iff]
  constructor
  · constructor
    · intro hlowered x hx
      rw [Bool.eq_false_iff]
      intro htitle
      exact (isTitle_iff.mp htitle).1 (hlowered x hx)
    · intro htitle
      rcases h.folded with hcapitals | hlowered
      · intro x hx
        refine Decidable.byContradiction fun hchanged => ?_
        have hgap := isTitle_iff.mpr ⟨hchanged, hcapitals x hx⟩
        exact absurd (hgap.symm.trans (htitle x hx)) Bool.noConfusion
      · exact hlowered
  · intro hany
    obtain ⟨x, hx, hupper⟩ := List.any_eq_true.mp hany
    rcases h.folded with hcapitals | hlowered
    · exact absurd (hupper.symm.trans (hcapitals x hx)) Bool.noConfusion
    · exact hlowered

/-- A mathematical capital has no lowercase form and is kept, and it makes the titlecase letter
typed with it lowercase; typed on its own that letter stays. -/
theorem letters_lowercase_iff_mathematical :
    let c := make .includes ['𝐀', '\u01C5', 'Σ'] .whole
    let d := c.edit (.letters ['a', '\u01C5'])
    c.Reachable ∧ c.letters = ['𝐀', '\u01C6', 'ς'] ∧ lowercase c.letters = c.letters ∧
      d.Reachable ∧ lowercase d.letters ≠ d.letters := by
  intro c d
  have hc : c.Reachable := .make _ _ _
  have hd : d.Reachable := hc.edit _
  refine ⟨hc, by decide +kernel, (letters_lowercase_iff hc).2 (by decide +kernel), hd, ?_⟩
  intro hsame
  have hletters := (letters_lowercase_iff hd).1.mp hsame
  exact absurd (hletters '\u01C5' (by decide +kernel)) (by decide +kernel)

/-- The letters of a criterion need not be lowercase: a titlecase letter stands as it was typed. -/
theorem titlecase_letter_kept :
    (make .excludes ['\u01C5'] .whole).Reachable ∧
      (make .excludes ['\u01C5'] .whole).letters = ['\u01C5'] ∧
      lowercase ['\u01C5'] = ['\u01C6'] := by
  refine ⟨.make _ _ _, ?_, ?_⟩
  · decide +kernel
  · decide +kernel

end Criterion

end WordSieve
