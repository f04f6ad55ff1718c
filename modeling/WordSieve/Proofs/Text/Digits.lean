/-!
# Reading digits back

A number is written in decimal where a condition names a place, and in hexadecimal where a letter
stands as its code point. One reader serves both bases: it takes digits for what `Nat.digitChar`
writes, so it refuses capitals, which nothing here writes.
-/

set_option autoImplicit false

namespace WordSieve.Text

variable {base : Nat}

/-- The number below `base` that is written as this digit. -/
def digitIn? (base : Nat) (c : Char) : Option Nat :=
  (List.range base).find? fun d => d.digitChar == c

/-- The value of digits in the base, read on from the value `n` of those before them. -/
def valueFrom (base n : Nat) : List Char → Option Nat
  | [] => some n
  | c :: rest => (digitIn? base c).bind fun d => valueFrom base (base * n + d) rest

/-- No two digits up to hexadecimal look alike. -/
theorem digitIn?_digitChar {d : Nat} (hbase : base ≤ 16) (hd : d < base) :
    digitIn? base d.digitChar = some d := by
  have hall : ∀ base < 17, ∀ d < base, digitIn? base d.digitChar = some d := by decide +kernel
  exact hall base (Nat.lt_succ_of_le hbase) d hd

theorem valueFrom_append (n : Nat) (s t : List Char) :
    valueFrom base n (s ++ t) = (valueFrom base n s).bind fun m => valueFrom base m t := by
  induction s generalizing n with
  | nil => rfl
  | cons c s ih =>
    rw [List.cons_append, valueFrom, valueFrom, Option.bind_assoc]
    exact congrArg _ (funext fun d => ih (base * n + d))

theorem valueFrom_singleton {d : Nat} (hbase : base ≤ 16) (hd : d < base) (n : Nat) :
    valueFrom base n [d.digitChar] = some (base * n + d) := by
  rw [valueFrom, digitIn?_digitChar hbase hd]
  rfl

/-- Digits are written one behind the other: what holds of a single digit, and goes over to digits
with one more behind them, holds of the digits of every number. -/
theorem toDigits_induction (hone : 1 < base) (P : List Char → Nat → Prop)
    (hdigit : ∀ d < base, P [d.digitChar] d)
    (hmore : ∀ (s : List Char) (n d : Nat), P s n → d < base →
      P (s ++ [d.digitChar]) (base * n + d)) (n : Nat) : P (Nat.toDigits base n) n := by
  have hpos : 0 < base := Nat.lt_trans Nat.zero_lt_one hone
  induction n using Nat.strongRecOn with
  | ind n ih =>
    rcases Nat.lt_or_ge n base with hlt | hge
    · rw [Nat.toDigits_of_lt_base hlt]
      exact hdigit n hlt
    · have hdiv : n / base < n := Nat.div_lt_self (Nat.lt_of_lt_of_le hpos hge) hone
      have hlast := hmore _ _ _ (ih (n / base) hdiv) (Nat.mod_lt n hpos)
      rw [Nat.div_add_mod] at hlast
      rwa [Nat.toDigits_of_base_le hone hge]

/-- **A number is read back from its digits.** -/
theorem valueFrom_toDigits (hone : 1 < base) (hbase : base ≤ 16) (n : Nat) :
    valueFrom base 0 (Nat.toDigits base n) = some n := by
  refine toDigits_induction hone (fun s n => valueFrom base 0 s = some n) (fun d hd => ?_)
    (fun s n d hs hd => ?_) n
  · rw [valueFrom_singleton hbase hd, Nat.mul_zero, Nat.zero_add]
  · rw [valueFrom_append, hs, Option.bind_some, valueFrom_singleton hbase hd]

theorem exists_digit_of_mem_toDigits (hone : 1 < base) (n : Nat) :
    ∀ c ∈ Nat.toDigits base n, ∃ d < base, c = d.digitChar := by
  refine toDigits_induction hone (fun s _ => ∀ c ∈ s, ∃ d < base, c = d.digitChar)
    (fun d hd c hc => ?_) (fun s n d hs hd c hc => ?_) n
  · exact ⟨d, hd, List.mem_singleton.mp hc⟩
  · rcases List.mem_append.mp hc with hc | hc
    · exact hs c hc
    · exact ⟨d, hd, List.mem_singleton.mp hc⟩

/-- Digits hold no bracket, so a bracket ends them. -/
theorem bracket_not_mem_toDigits {mark : Char} (hmark : mark = ']' ∨ mark = '\x7d')
    (hone : 1 < base) (hbase : base ≤ 16) (n : Nat) : mark ∉ Nat.toDigits base n := by
  intro hmem
  obtain ⟨d, hd, heq⟩ := exists_digit_of_mem_toDigits hone n mark hmem
  have hall : ∀ d < 16, d.digitChar ≠ ']' ∧ d.digitChar ≠ '\x7d' := by decide
  obtain ⟨hsquare, hcurly⟩ := hall d (Nat.lt_of_lt_of_le hd hbase)
  rcases hmark with rfl | rfl
  · exact hsquare heq.symm
  · exact hcurly heq.symm

end WordSieve.Text
