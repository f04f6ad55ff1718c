import WordSieve.Text.Lines

/-!
# What lines are

A text falls into lines in one way only. No line holds the line feed, and the lines put together
again, each with a line feed after it, are the text; only the last line may have come without one.
-/

set_option autoImplicit false

namespace WordSieve.Text

variable {α : Type} [BEq α] [LawfulBEq α] {feed : α}

/-- The text with its last line ended. -/
def endLast (feed : α) (s : List α) : List α :=
  if s.getLast?.all (· == feed) then s else s ++ [feed]

/-! ## Splitting -/

theorem splitLines_feed (rest : List α) :
    splitLines feed (feed :: rest) = [] :: splitLines feed rest := by
  simp [splitLines]

theorem splitLines_cons {x : α} (hx : x ≠ feed) (rest : List α) :
    splitLines feed (x :: rest) =
      (x :: (splitLines feed rest).headD []) :: (splitLines feed rest).tail := by
  rw [splitLines, if_neg (by simpa using hx)]
  cases splitLines feed rest <;> rfl

/-- A line that is ended is a line of its own. -/
theorem splitLines_append {line : List α} (h : feed ∉ line) (rest : List α) :
    splitLines feed (line ++ feed :: rest) = line :: splitLines feed rest := by
  induction line with
  | nil => exact splitLines_feed rest
  | cons x line ih =>
    have hx : x ≠ feed := fun heq => h (heq ▸ List.mem_cons_self)
    have hline := ih fun hmem => h (List.mem_cons_of_mem x hmem)
    rw [List.cons_append, splitLines_cons hx, hline]
    rfl

/-- A line that the end of the text ends is the last line, unless it is empty. -/
theorem splitLines_line {line : List α} (h : feed ∉ line) (hne : line ≠ []) :
    splitLines feed line = [line] := by
  induction line with
  | nil => exact absurd rfl hne
  | cons x rest ih =>
    have hx : x ≠ feed := fun heq => h (heq ▸ List.mem_cons_self)
    by_cases hrest : rest = []
    · rw [hrest, splitLines_cons hx]
      rfl
    · rw [splitLines_cons hx, ih (fun hmem => h (List.mem_cons_of_mem x hmem)) hrest]
      rfl

theorem splitLines_flatMap {lines : List (List α)} (h : ∀ line ∈ lines, feed ∉ line) :
    splitLines feed (lines.flatMap (· ++ [feed])) = lines := by
  induction lines with
  | nil => rfl
  | cons line rest ih =>
    have hrest := ih fun l hl => h l (List.mem_cons_of_mem line hl)
    rw [List.flatMap_cons, List.append_assoc, List.singleton_append,
      splitLines_append (h line List.mem_cons_self), hrest]

theorem not_mem_of_mem_splitLines {s : List α} : ∀ line ∈ splitLines feed s, feed ∉ line := by
  induction s with
  | nil => exact fun line hline => absurd hline List.not_mem_nil
  | cons x rest ih =>
    by_cases hx : x = feed
    · rw [hx, splitLines_feed]
      exact List.forall_mem_cons.mpr ⟨List.not_mem_nil, ih⟩
    · have hhead : feed ∉ (splitLines feed rest).headD [] := by
        cases hrest : splitLines feed rest with
        | nil => exact List.not_mem_nil
        | cons line lines => exact ih line (hrest ▸ List.mem_cons_self)
      rw [splitLines_cons hx]
      refine List.forall_mem_cons.mpr ⟨?_, fun line hline => ih line (List.mem_of_mem_tail hline)⟩
      exact List.not_mem_cons_of_ne_of_not_mem (Ne.symm hx) hhead

/-! ## Putting together -/

theorem splitLines_ne_nil (feed : α) {s : List α} (h : s ≠ []) : splitLines feed s ≠ [] := by
  cases s with
  | nil => exact absurd rfl h
  | cons x rest =>
    by_cases hx : x = feed
    · rw [hx, splitLines_feed]
      exact List.cons_ne_nil _ _
    · rw [splitLines_cons hx]
      exact List.cons_ne_nil _ _

omit [LawfulBEq α] in
theorem endLast_cons (x : α) {rest : List α} (h : rest ≠ []) :
    endLast feed (x :: rest) = x :: endLast feed rest := by
  have hlast : (x :: rest).getLast? = rest.getLast? := List.getLast?_cons_of_ne_nil h
  rw [endLast, endLast, hlast]
  split <;> rfl

theorem flatMap_splitLines (s : List α) :
    (splitLines feed s).flatMap (· ++ [feed]) = endLast feed s := by
  induction s with
  | nil => rfl
  | cons x rest ih =>
    by_cases hrest : rest = []
    · subst hrest
      by_cases hx : x = feed
      · rw [hx, splitLines_feed]
        simp [splitLines, endLast]
      · rw [splitLines_cons hx]
        simp [splitLines, endLast, hx]
    · rw [endLast_cons x hrest, ← ih]
      by_cases hx : x = feed
      · rw [hx, splitLines_feed]
        rfl
      · obtain ⟨line, lines, hlines⟩ :=
          List.exists_cons_of_ne_nil (splitLines_ne_nil feed hrest)
        rw [splitLines_cons hx, hlines]
        rfl

/-- **The lines of a text** are the one list of lines without line feeds that makes up the text when
each of them is ended. -/
theorem eq_splitLines_iff {lines : List (List α)} {s : List α} :
    lines = splitLines feed s ↔
      (∀ line ∈ lines, feed ∉ line) ∧ lines.flatMap (· ++ [feed]) = endLast feed s := by
  constructor
  · rintro rfl
    exact ⟨not_mem_of_mem_splitLines, flatMap_splitLines s⟩
  · rintro ⟨hlines, htext⟩
    rw [← flatMap_splitLines s] at htext
    rw [← splitLines_flatMap hlines, htext, splitLines_flatMap not_mem_of_mem_splitLines]

example : splitLines '\n' "a\n\nb".toList = ["a".toList, [], "b".toList] := by
  decide

end WordSieve.Text
