import Mathlib.Data.List.Induction
import WordSieve.Proofs.Criterion.Normal

/-!
# Letters one at a time

Letters that are typed are normalized with each of them, those before it included, and letters that
are pasted only once. The letters that a criterion keeps of a text are, all the same, what it keeps
of the text without its last letter, with that letter typed to it (`kept_concat`). By induction
typing is pasting (`typed_eq`).

Two sorts of letter are different. What a capital sigma becomes hangs on its neighbours, and a
titlecase letter stays until the first capital is typed, but goes under with the rest if it comes
after that.
-/

set_option autoImplicit false

namespace WordSieve

open Text

namespace Criterion

/-- Letters for which it does not matter what was typed before them. -/
structure Typeable (x : Char) : Prop where
  ne_sigma : x ≠ 'Σ'
  upper_or_lowered : isUpper x = true ∨ IsLowered x

instance (x : Char) : Decidable (Typeable x) :=
  decidable_of_iff (x ≠ 'Σ' ∧ (isUpper x = true ∨ IsLowered x))
    ⟨fun h => ⟨h.1, h.2⟩, fun h => ⟨h.ne_sigma, h.upper_or_lowered⟩⟩

/-- The criterion with the letters typed to it one after the other. -/
def typed (c : Criterion) (s : List Char) : Criterion :=
  s.foldl (fun d x => d.edit (.letters (d.letters ++ [x]))) c

variable {s : List Char} {x : Char} {k : Kind} {c : Criterion}

theorem Typeable.lower_eq (h : Typeable x) (hupper : isUpper x ≠ true) : lower x = [x] :=
  h.upper_or_lowered.resolve_left hupper

/-! ## Without a capital sigma -/

theorem Folded.sigma_not_mem (h : Folded s) : 'Σ' ∉ s := by
  have hsigma : isUpper 'Σ' = true ∧ ¬ IsLowered 'Σ' := by decide +kernel
  intro hmem
  rcases h with hcapitals | hlowered
  · exact absurd (hsigma.1.symm.trans (hcapitals _ hmem)) Bool.noConfusion
  · exact hsigma.2 (hlowered _ hmem)

theorem sigma_not_mem_concat (hs : 'Σ' ∉ s) (hx : Typeable x) : 'Σ' ∉ s ++ [x] := by
  intro hmem
  rcases List.mem_append.mp hmem with hmem | hmem
  · exact hs hmem
  · exact hx.ne_sigma (List.mem_singleton.mp hmem).symm

theorem foldLetters_of_upper (h : 'Σ' ∉ s) (hany : s.any isUpper = true) :
    foldLetters s = s.flatMap lower := by
  rw [foldLetters, if_pos hany, lowercase_eq_flatMap h]

theorem foldLetters_of_no_upper (hany : ¬ s.any isUpper = true) : foldLetters s = s :=
  if_neg hany

/-- One letter more, after the others were folded or before. -/
theorem foldLetters_concat (hs : 'Σ' ∉ s) (hx : Typeable x) :
    foldLetters (foldLetters s ++ [x]) = foldLetters (s ++ [x]) := by
  by_cases hany : s.any isUpper = true
  case neg => rw [foldLetters_of_no_upper hany]
  have hfolded : Folded (foldLetters s) := folded_foldLetters s
  have htext : 'Σ' ∉ foldLetters s ++ [x] := sigma_not_mem_concat hfolded.sigma_not_mem hx
  have hboth : foldLetters (s ++ [x]) = foldLetters s ++ lower x := by
    have hmore : (s ++ [x]).any isUpper = true := by rw [List.any_append, hany, Bool.true_or]
    rw [foldLetters_of_upper (sigma_not_mem_concat hs hx) hmore, foldLetters_of_upper hs hany,
      List.flatMap_append, List.flatMap_singleton]
  by_cases hagain : (foldLetters s ++ [x]).any isUpper = true
  · have hsame : (foldLetters s).flatMap lower = foldLetters s := by
      have hlowercase : lowercase (foldLetters s) = foldLetters s := by
        rw [foldLetters, if_pos hany]
        exact lowercase_eq_self_iff.mpr fun d hd => isLowered_of_mem_lowercase hd
      rwa [lowercase_eq_flatMap hfolded.sigma_not_mem] at hlowercase
    rw [foldLetters_of_upper htext hagain, List.flatMap_append, List.flatMap_singleton, hsame,
      hboth]
  -- The letter is no capital here, and so it is its own lowercase form.
  · have hupper : isUpper x ≠ true := fun hupper => hagain (by simp [hupper])
    rw [foldLetters_of_no_upper hagain, hboth, hx.lower_eq hupper]

theorem lastLetter_append {s t : List Char} (h : t ≠ []) : lastLetter (s ++ t) = lastLetter t := by
  rw [lastLetter, lastLetter, List.getLast?_append, List.getLast?_eq_some_getLast h]
  rfl

theorem lower_ne_nil (x : Char) : lower x ≠ [] := by
  unfold lower
  split <;> exact List.cons_ne_nil _ _

/-- The last letter owes nothing to those before it. -/
theorem lastLetter_foldLetters_concat (hs : 'Σ' ∉ s) (hx : Typeable x) :
    lastLetter (foldLetters (s ++ [x])) = lastLetter (lower x) := by
  by_cases hany : (s ++ [x]).any isUpper = true
  · rw [foldLetters_of_upper (sigma_not_mem_concat hs hx) hany, List.flatMap_append,
      List.flatMap_singleton, lastLetter_append (lower_ne_nil x)]
  · have hupper : isUpper x ≠ true := fun hupper => hany (by simp [hupper])
    rw [foldLetters_of_no_upper hany, lastLetter_append (List.cons_ne_nil x []),
      hx.lower_eq hupper]

/-! ## Criteria -/

theorem kept_concat (hs : 'Σ' ∉ s) (hx : Typeable x) :
    kept k (kept k s ++ [x]) = kept k (s ++ [x]) := by
  cases hk : k.isSingle with
  | true =>
    have hlast : 'Σ' ∉ kept k s := (folded_kept k s).sigma_not_mem
    simp only [kept, hk, if_true] at hlast ⊢
    rw [lastLetter_foldLetters_concat hlast hx, lastLetter_foldLetters_concat hs hx]
  | false =>
    simp only [kept, hk, Bool.false_eq_true, if_false]
    exact foldLetters_concat hs hx

/-- Letters do not unsettle a kind that fits. -/
theorem Regular.edit_letters (h : c.Regular) (s : List Char) :
    c.edit (.letters s) = { c with letters := kept c.kind s } := by
  simp only [edit, set, normalize, h.fits, if_true]
  rfl

theorem Regular.edit_letters_concat (h : c.Regular) (hs : 'Σ' ∉ s) (hx : Typeable x) :
    (c.edit (.letters s)).edit (.letters ((c.edit (.letters s)).letters ++ [x])) =
      c.edit (.letters (s ++ [x])) := by
  have hnext : (c.edit (.letters s)).Regular := regular_normalize _
  rw [hnext.edit_letters, h.edit_letters, h.edit_letters]
  dsimp only
  rw [kept_concat hs hx]

theorem typed_concat (c : Criterion) (s : List Char) (x : Char) :
    c.typed (s ++ [x]) = (c.typed s).edit (.letters ((c.typed s).letters ++ [x])) := by
  rw [typed, List.foldl_append]
  rfl

theorem Reachable.sigma_not_mem (h : c.Reachable) (hs : ∀ x ∈ s, Typeable x) :
    'Σ' ∉ c.letters ++ s := by
  intro hmem
  rcases List.mem_append.mp hmem with hmem | hmem
  · exact h.folded.sigma_not_mem hmem
  · exact (hs _ hmem).ne_sigma rfl

/-- **Typing is pasting.** -/
theorem Reachable.typed_eq (h : c.Reachable) (hs : ∀ x ∈ s, Typeable x) :
    c.typed s = c.edit (.letters (c.letters ++ s)) := by
  -- A letter meets what was kept of those before it, so the induction takes letters off the end.
  induction s using List.reverseRecOn with
  | nil =>
    rw [List.append_nil]
    exact h.normalize_eq.symm
  | append_singleton s x ih =>
    obtain ⟨hbefore, hlast⟩ := List.forall_mem_append.mp hs
    have hx : Typeable x := hlast x (List.mem_singleton_self x)
    rw [typed_concat, ih hbefore, h.regular.edit_letters_concat (h.sigma_not_mem hbefore) hx,
      List.append_assoc]

/-- A kind that compares one letter is left with the letter that was typed last. -/
theorem Reachable.letters_typed_concat (h : c.Reachable) (hk : c.kind.isSingle = true)
    (hs : ∀ y ∈ s ++ [x], Typeable y) : (c.typed (s ++ [x])).letters = lastLetter (lower x) := by
  obtain ⟨hbefore, hlast⟩ := List.forall_mem_append.mp hs
  have hx : Typeable x := hlast x (List.mem_singleton_self x)
  rw [h.typed_eq hs, h.regular.edit_letters, ← List.append_assoc]
  simp only [kept, hk, if_true]
  exact lastLetter_foldLetters_concat (h.sigma_not_mem hbefore) hx

end Criterion

end WordSieve
