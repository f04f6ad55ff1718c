import WordSieve.Text.Cut

/-!
# What a cut finds

A cut is made at the first mark, so the text before it can be told from the text after it as long as
it holds no mark itself.
-/

set_option autoImplicit false

namespace WordSieve.Text

variable {mark : Char} {s rest : List Char}

theorem cut_append (h : mark ∉ s) : cut mark (s ++ mark :: rest) = (s, some rest) := by
  induction s with
  | nil => exact if_pos rfl
  | cons c s ih =>
    obtain ⟨hc, hs⟩ := List.ne_and_not_mem_of_not_mem_cons h
    rw [List.cons_append, cut, if_neg (Ne.symm hc), ih hs]

theorem cut_of_not_mem (h : mark ∉ s) : cut mark s = (s, none) := by
  induction s with
  | nil => rfl
  | cons c s ih =>
    obtain ⟨hc, hs⟩ := List.ne_and_not_mem_of_not_mem_cons h
    rw [cut, if_neg (Ne.symm hc), ih hs]

end WordSieve.Text
