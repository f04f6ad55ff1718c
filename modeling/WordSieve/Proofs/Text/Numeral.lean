import Mathlib.Data.Nat.Digits.Defs
import WordSieve.Proofs.Text.Fields

/-!
# Numerals

A numeral is one or more decimal digits, behind a plus sign or not, and its value is what the digits
are worth by their places. The reader finds the value of every numeral whose value fits a machine
word, and of nothing else (`numeral?_eq_some_iff`). How long the numeral is plays no part, so zeros
in front of it do no harm.
-/

set_option autoImplicit false

namespace WordSieve.Text

/-- The text is a numeral with the value. -/
def IsNumeral (s : List Char) (value : Nat) : Prop :=
  ∃ digits : List Nat, digits ≠ [] ∧ (∀ d ∈ digits, d < 10) ∧
    (s = digits.map Nat.digitChar ∨ s = '+' :: digits.map Nat.digitChar) ∧
    value = Nat.ofDigits 10 digits.reverse

theorem digit?_eq_some_iff {c : Char} {d : Nat} : digit? c = some d ↔ d < 10 ∧ c = d.digitChar := by
  constructor
  · intro h
    have hall : ∀ n < 58, 48 ≤ n → n - 48 < 10 ∧ Char.ofNat n = (n - 48).digitChar := by decide
    unfold digit? at h
    split at h
    case isTrue hc =>
      obtain rfl : c.toNat - 48 = d := Option.some.inj h
      have hlow : 48 ≤ c.toNat := hc.1
      have hhigh : c.toNat ≤ 57 := hc.2
      have hdigit := hall c.toNat (Nat.lt_succ_of_le hhigh) hlow
      rwa [Char.ofNat_toNat] at hdigit
    case isFalse => exact absurd h (Option.some_ne_none d).symm
  · rintro ⟨hd, rfl⟩
    exact digit?_digitChar hd

theorem digitsFrom_eq_some_iff {s : List Char} {n value : Nat} :
    digitsFrom n s = some value ↔ ∃ digits : List Nat, (∀ d ∈ digits, d < 10) ∧
      s = digits.map Nat.digitChar ∧ value = digits.foldl (fun n d => 10 * n + d) n := by
  induction s generalizing n with
  | nil =>
    constructor
    · intro h
      exact ⟨[], by simp, rfl, (Option.some.inj h).symm⟩
    · rintro ⟨digits, -, hs, rfl⟩
      rw [List.map_eq_nil_iff.mp hs.symm]
      rfl
  | cons c s ih =>
    simp only [digitsFrom, Option.bind_eq_some_iff, digit?_eq_some_iff, ih]
    constructor
    · rintro ⟨d, ⟨hd, rfl⟩, digits, hdigits, rfl, rfl⟩
      exact ⟨d :: digits, List.forall_mem_cons.mpr ⟨hd, hdigits⟩, rfl, rfl⟩
    · rintro ⟨digits, hdigits, hs, rfl⟩
      cases digits with
      | nil => exact absurd hs (List.cons_ne_nil c s)
      | cons d digits =>
        obtain ⟨hd, hrest⟩ := List.forall_mem_cons.mp hdigits
        obtain ⟨rfl, rfl⟩ := List.cons.inj hs
        exact ⟨d, ⟨hd, rfl⟩, digits, hrest, rfl, rfl⟩

/-- Reading on from the left comes to what the places are worth from the right. -/
theorem foldl_eq_ofDigits (digits : List Nat) :
    digits.foldl (fun n d => 10 * n + d) 0 = Nat.ofDigits 10 digits.reverse := by
  rw [Nat.ofDigits_eq_foldr, List.foldr_reverse]
  congr 1
  funext n d
  exact Nat.add_comm _ _

theorem digits?_eq_some_iff {s : List Char} {value : Nat} :
    digits? s = some value ↔ ∃ digits : List Nat, digits ≠ [] ∧ (∀ d ∈ digits, d < 10) ∧
      s = digits.map Nat.digitChar ∧ value = Nat.ofDigits 10 digits.reverse := by
  cases s with
  | nil =>
    constructor
    · intro h
      exact absurd h (Option.some_ne_none value).symm
    · rintro ⟨digits, hne, -, hs, -⟩
      exact absurd (List.map_eq_nil_iff.mp hs.symm) hne
  | cons c s =>
    show digitsFrom 0 (c :: s) = some value ↔ _
    simp only [digitsFrom_eq_some_iff, foldl_eq_ofDigits]
    constructor
    · rintro ⟨digits, hdigits, hs, rfl⟩
      refine ⟨digits, ?_, hdigits, hs, rfl⟩
      rintro rfl
      exact absurd hs (List.cons_ne_nil c s)
    · rintro ⟨digits, -, hdigits, hs, rfl⟩
      exact ⟨digits, hdigits, hs, rfl⟩

theorem eq_dropPlus (s : List Char) : s = dropPlus s ∨ s = '+' :: dropPlus s := by
  unfold dropPlus
  split
  · exact .inr rfl
  · exact .inl rfl

theorem plus_not_mem_digits {digits : List Nat} (h : ∀ d ∈ digits, d < 10) :
    '+' ∉ digits.map Nat.digitChar := by
  have hall : ∀ d < 10, d.digitChar ≠ '+' := by decide
  intro hmem
  obtain ⟨d, hd, heq⟩ := List.mem_map.mp hmem
  exact hall d (h d hd) heq

theorem IsNumeral.eq_of_mem {s : List Char} {value : Nat} (h : IsNumeral s value) {c : Char}
    (hc : c ∈ s) : c = '+' ∨ ∃ d < 10, c = d.digitChar := by
  obtain ⟨digits, -, hdigits, hs, -⟩ := h
  have hdigit : c ∈ digits.map Nat.digitChar → ∃ d < 10, c = d.digitChar := by
    intro hmem
    obtain ⟨d, hd, rfl⟩ := List.mem_map.mp hmem
    exact ⟨d, hdigits d hd, rfl⟩
  rcases hs with rfl | rfl
  · exact .inr (hdigit hc)
  · exact (List.mem_cons.mp hc).imp_right hdigit

/-- **The reader takes the numerals that fit a machine word**, and nothing else. -/
theorem numeral?_eq_some_iff {s : List Char} {value : Nat} :
    numeral? s = some value ↔ IsNumeral s value ∧ value < wordLimit := by
  simp only [numeral?, Option.filter_eq_some_iff, decide_eq_true_eq, digits?_eq_some_iff]
  refine and_congr_left fun _ => ⟨?_, ?_⟩
  · rintro ⟨digits, hne, hdigits, hs, rfl⟩
    refine ⟨digits, hne, hdigits, ?_, rfl⟩
    rw [← hs]
    exact eq_dropPlus s
  · rintro ⟨digits, hne, hdigits, rfl | rfl, rfl⟩
    · exact ⟨digits, hne, hdigits, dropPlus_of_not_mem (plus_not_mem_digits hdigits), rfl⟩
    · exact ⟨digits, hne, hdigits, rfl, rfl⟩

theorem numeral?_eq_none_iff {s : List Char} :
    numeral? s = none ↔ ∀ value, IsNumeral s value → wordLimit ≤ value := by
  simp only [Option.eq_none_iff_forall_ne_some, ne_eq, numeral?_eq_some_iff, not_and, Nat.not_lt]

end WordSieve.Text
