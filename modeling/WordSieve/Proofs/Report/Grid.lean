import WordSieve.Proofs.Word.Reading
import WordSieve.Report.Filter

/-!
# Words in rows

A row is words with spaces between them. Since no word has a blank in it or is empty, the words of a
row are found again at its blanks, and with them all words that were laid out.

The rows of a filter run and those of a session are laid out apart from each other, the one from the
texts of the words and the other from the words. They are printed alike (`gridRows_keeps_words`).
-/

set_option autoImplicit false

namespace WordSieve

open Text

/-! ## Pieces of a list -/

section Chunks

variable {α β : Type} (n : Nat)

@[simp] theorem chunks_nil : chunks n ([] : List α) = [] := by
  simp [chunks]

theorem chunks_cons (x : α) (rest : List α) :
    chunks n (x :: rest) = (x :: rest.take (n - 1)) :: chunks n (rest.drop (n - 1)) := by
  rw [chunks]

theorem chunks_eq_nil_iff {xs : List α} : chunks n xs = [] ↔ xs = [] := by
  cases xs with
  | nil => simp
  | cons x rest => simp [chunks_cons]

theorem flatten_chunks (xs : List α) : (chunks n xs).flatten = xs := by
  fun_induction chunks n xs with
  | case1 => rfl
  | case2 x rest ih => simp [ih]

theorem chunks_map (f : α → β) (xs : List α) :
    chunks n (xs.map f) = (chunks n xs).map (List.map f) := by
  fun_induction chunks n xs with
  | case1 => simp
  | case2 x rest ih => simp [chunks_cons, ← ih, List.map_take, List.map_drop]

theorem length_of_mem_chunks {xs piece : List α} (h : piece ∈ chunks n xs) :
    0 < piece.length ∧ piece.length ≤ max n 1 := by
  fun_induction chunks n xs with
  | case1 => simp at h
  | case2 x rest ih =>
    rcases List.mem_cons.mp h with rfl | hlater
    · simp
      omega
    · exact ih hlater

/-- Only the last piece may be short. -/
theorem length_of_mem_dropLast_chunks {xs piece : List α} (h : piece ∈ (chunks n xs).dropLast) :
    piece.length = max n 1 := by
  fun_induction chunks n xs with
  | case1 => simp at h
  | case2 x rest ih =>
    by_cases hend : chunks n (rest.drop (n - 1)) = []
    · simp [hend] at h
    · rw [List.dropLast_cons_of_ne_nil hend] at h
      rcases List.mem_cons.mp h with rfl | hlater
      -- Something is left behind the first piece, so it is full.
      · have hleft : rest.drop (n - 1) ≠ [] := fun hnone => hend (by simp [hnone])
        have hlength : n - 1 < rest.length := by simpa using hleft
        simp
        omega
      · exact ih hlater

end Chunks

/-! ## The words of a row -/

/-- The words of a row: what stands between its blanks. -/
def rowWords (row : String) : List String :=
  (fields row.toList).map String.ofList

theorem rowWords_intercalate (words : List Word) :
    rowWords ("  ".intercalate (words.map Word.text)) = words.map Word.text := by
  have htoList : ("  ".intercalate (words.map Word.text)).toList =
      [' ', ' '].intercalate (words.map (·.letters)) := by
    simp [String.toList_intercalate, Word.text, Function.comp_def]
  have hno : ∀ s ∈ words.map (·.letters), NoBlank s := by
    simpa using fun w (_ : w ∈ words) => w.noBlank_letters
  have hsome : (words.map (·.letters)).filter (!·.isEmpty) = words.map (·.letters) := by
    rw [List.filter_eq_self]
    intro s hs
    obtain ⟨w, -, rfl⟩ := List.mem_map.mp hs
    simp [w.letters_ne_nil]
  have hblanks : ∀ c ∈ [' ', ' '], isBlank c = true := by
    have hspace : isBlank ' ' = true := by decide
    simp [hspace]
  rw [rowWords, htoList, fields_intercalate_blanks (by simp) hblanks hno, hsome, List.map_map]
  rfl

theorem map_rowWords_gridRows (columns : Nat) (words : List Word) :
    (gridRows columns words).map rowWords = (chunks columns words).map (List.map Word.text) := by
  simp [gridRows, Function.comp_def, rowWords_intercalate]

/-! ## The printed reports -/

theorem Report.print_append (color : Bool) (r s : Report) :
    Report.print color (r ++ s) = Report.print color r ++ Report.print color s := by
  simp [Report.print, String.join_append]

/-- Rows of words as they are printed, each on a line of its own, or a line that says that there are
none. -/
def printedRows (color : Bool) (rows : List String) : String :=
  if rows = [] then Line.print color noResultsLine ++ "\n"
  else String.join (rows.map fun row => "   " ++ row ++ "\n")

theorem print_indented (color : Bool) (rows : List String) :
    Report.print color (rows.map fun row => [plain "   ", plain row]) =
      String.join (rows.map fun row => "   " ++ row ++ "\n") := by
  simp [Report.print, Line.print, Piece.print, plain, styled, Style.code?, Function.comp_def]

/-- The report of a filter run above its words. -/
def FilterResult.above (r : FilterResult) : Report :=
  [[], [ruler '═']] ++ criteriaReport r.criteria ++
    [[], conditionLine r.condition, [ruler '═'], [],
     [plain "📊 ", styled .figure (toString r.matching), plain s!" of {r.corpusSize} words match"],
     []]

/-- The report of a filter run below its words. -/
def FilterResult.below (r : FilterResult) : Report :=
  if r.hasMore then
    [[], [plain s!"   … {r.matching - r.shown.length} more (use --pages or --all)"]]
  else []

theorem gridRows_eq_nil_iff {columns : Nat} {words : List Word} :
    gridRows columns words = [] ↔ words = [] := by
  simp [gridRows, chunks_eq_nil_iff]

theorem FilterResult.print_report (r : FilterResult) (color : Bool) :
    Report.print color r.report =
      Report.print color r.above ++ printedRows color (gridRows reportColumns r.shown) ++
        Report.print color r.below := by
  have hrows : shownLines (r.shown.map Word.text) =
      (gridRows reportColumns r.shown).map fun row => [plain "   ", plain row] := by
    simp [shownLines, gridRows, chunks_map, Function.comp_def]
  have hreport : r.report =
      r.above ++ (if r.shown.isEmpty then [noResultsLine] else shownLines (r.shown.map Word.text)) ++
        r.below := rfl
  rw [hreport, Report.print_append, Report.print_append]
  congr 2
  by_cases hnone : r.shown = []
  · simp [hnone, printedRows, gridRows_eq_nil_iff, Report.print]
  · simp [hnone, printedRows, gridRows_eq_nil_iff, hrows, print_indented]

theorem print_displayReport (s : Sieve) (words : List Word) (color : Bool) :
    Report.print color (displayReport s words) =
      Report.print color [[], [styled .heading "Results:"]] ++
        printedRows color (gridRows reportColumns words) ++
          Report.print color [[], displayLine s] := by
  have hreport : displayReport s words =
      [[], [styled .heading "Results:"]] ++
        (if (gridLines words).isEmpty then [noResultsLine] else gridLines words) ++
          [[], displayLine s] := rfl
  rw [hreport, Report.print_append, Report.print_append]
  congr 2
  by_cases hnone : words = []
  · simp [hnone, printedRows, gridLines, gridRows_eq_nil_iff, Report.print]
  · simp [hnone, printedRows, gridLines, gridRows_eq_nil_iff, print_indented]

/-- **Rows keep their words.** The words of the rows, read at the blanks, are the words that were laid
out, in their order. Every row but the last is full, the last has a word at least, and there are
rows just where there are words. A filter run and a session that show the same words print the same
rows of ten between what else they print. -/
theorem gridRows_keeps_words (columns : Nat) (words : List Word) :
    let rows := gridRows columns words
    rows.flatMap rowWords = words.map Word.text ∧
      (∀ row ∈ rows.dropLast, (rowWords row).length = max columns 1) ∧
      (∀ row ∈ rows.getLast?, 0 < (rowWords row).length ∧
        (rowWords row).length ≤ max columns 1) ∧
      (rows = [] ↔ words = []) ∧
      ∀ (color : Bool) (r : FilterResult) (s : Sieve),
        r.shown = words → s.displayed? = .ok words →
          let printed := printedRows color (gridRows 10 words)
          Report.print color r.report =
              Report.print color r.above ++ printed ++ Report.print color r.below ∧
            (windowReport? s).map (Report.print color) =
              .ok (Report.print color [[], [styled .heading "Results:"]] ++ printed ++
                Report.print color [[], displayLine s]) := by
  intro rows
  have hwords : rows.map rowWords = (chunks columns words).map (List.map Word.text) :=
    map_rowWords_gridRows columns words
  -- What holds of every piece of the words holds of the words of every row.
  have hmem (row : String) (h : row ∈ rows) :
      ∃ piece ∈ chunks columns words, piece.map Word.text = rowWords row := by
    have hrow : rowWords row ∈ rows.map rowWords := List.mem_map_of_mem h
    rwa [hwords, List.mem_map] at hrow
  refine ⟨?_, ?_, ?_, gridRows_eq_nil_iff, ?_⟩
  · rw [List.flatMap_def, hwords, ← List.map_flatten, flatten_chunks]
  · intro row hrow
    have hwordsRow : rowWords row ∈ (rows.map rowWords).dropLast := by
      rw [← List.map_dropLast]
      exact List.mem_map_of_mem hrow
    rw [hwords, ← List.map_dropLast, List.mem_map] at hwordsRow
    obtain ⟨piece, hpiece, heq⟩ := hwordsRow
    rw [← heq, List.length_map]
    exact length_of_mem_dropLast_chunks columns hpiece
  · intro row hrow
    obtain ⟨piece, hpiece, heq⟩ := hmem row (List.mem_of_getLast? hrow)
    rw [← heq, List.length_map]
    exact length_of_mem_chunks columns hpiece
  · rintro color r s rfl hs
    refine ⟨r.print_report color, ?_⟩
    rw [windowReport?, hs]
    exact congrArg Except.ok (print_displayReport s r.shown color)

/-- Twelve words, which are more than a row of a report holds. -/
def twelveWords : List Word :=
  wordsOf (List.replicate 11 "crêpe".toList ++ ["slate".toList])

/-- In rows of seven and of ten, as a filter run of twelve pages and a sieve with one page show them. -/
theorem gridRows_keeps_words_twelve :
    let full := "crêpe  crêpe  crêpe  crêpe  crêpe  crêpe  crêpe"
    let rest := "crêpe  crêpe  crêpe  crêpe  slate"
    let request : FilterRequest := { criteria := [], pages := 12, all := false }
    let r := request.run twelveWords { pageSize := 1, delay := 0 }
    let s := Sieve.ofCorpus twelveWords 12
    let printed := printedRows true (gridRows 10 twelveWords)
    full ∈ (gridRows 7 twelveWords).dropLast ∧ rest ∈ (gridRows 7 twelveWords).getLast? ∧
      r.shown = twelveWords ∧ s.displayed? = .ok twelveWords ∧
      (rowWords full).length = 7 ∧ (rowWords rest).length ≤ 7 ∧
      Report.print true r.report =
        Report.print true r.above ++ printed ++ Report.print true r.below ∧
      (windowReport? s).map (Report.print true) =
        .ok (Report.print true [[], [styled .heading "Results:"]] ++ printed ++
          Report.print true [[], displayLine s]) := by
  intro full rest request r s printed
  have hrows : gridRows 7 twelveWords = [full, rest] := by decide +kernel
  have hfull : full ∈ (gridRows 7 twelveWords).dropLast := by simp [hrows]
  have hrest : rest ∈ (gridRows 7 twelveWords).getLast? := by simp [hrows]
  have hshown : r.shown = twelveWords := by decide +kernel
  have hdisplayed : s.displayed? = .ok twelveWords := rfl
  obtain ⟨-, hmost, hlast, -, hreports⟩ := gridRows_keeps_words 7 twelveWords
  obtain ⟨hrun, hsession⟩ := hreports true r s hshown hdisplayed
  exact ⟨hfull, hrest, hshown, hdisplayed, hmost full hfull, (hlast rest hrest).2, hrun, hsession⟩

end WordSieve
