import WordSieve.Proofs.Text.Fields
import WordSieve.Word

/-!
# Reading a word

What one pass over a text finds out, told without the pass: a text is a word when it has five
characters and no blanks, and of two things that may be wrong with it the length is told first.

The word that was read answers for its text in two ways, by places and by the set of its letters,
and both answers are those of the text (`Word.read_faithful`).
-/

set_option autoImplicit false

namespace WordSieve.Word

open Text

variable {s : List Char} {w : Word}

/-! ## What is read -/

theorem read_of_length_ne (h : s.length ≠ wordLength) :
    read s = .error (.wrongLength s.length) := by
  have hcount : (Intake.ofText s).count ≠ wordLength := by rwa [Intake.count_ofText]
  rw [read, dif_neg hcount, Intake.count_ofText]

/-- The places are looked through for blanks, and they hold the text. -/
theorem any_cells_iff (hcount : (Intake.ofText s).count = wordLength) :
    (Intake.ofText s).cells.toList.any isBlank = false ↔ NoBlank s := by
  rw [Intake.toList_cells_ofText hcount]
  simp [NoBlank]

theorem read_of_blank (h : s.length = wordLength) (hblank : ¬NoBlank s) :
    read s = .error .blank := by
  have hcount : (Intake.ofText s).count = wordLength := by rwa [Intake.count_ofText]
  rw [read, dif_pos hcount, dif_neg (mt (any_cells_iff hcount).mp hblank)]

theorem exists_read (h : s.length = wordLength) (hno : NoBlank s) :
    ∃ w, w.letters = s ∧ read s = .ok w := by
  have hcount : (Intake.ofText s).count = wordLength := by rwa [Intake.count_ofText]
  exact ⟨_, rfl, by rw [read, dif_pos hcount, dif_pos ((any_cells_iff hcount).mpr hno)]⟩

theorem noBlank_letters (w : Word) : NoBlank w.letters :=
  w.not_blank

theorem letters_ne_nil (w : Word) : w.letters ≠ [] := by
  apply List.ne_nil_of_length_pos
  rw [w.length_letters]
  decide

/-- The three ways that reading can end. -/
theorem read_cases (s : List Char) :
    (s.length ≠ wordLength ∧ read s = .error (.wrongLength s.length)) ∨
      (s.length = wordLength ∧ ¬NoBlank s ∧ read s = .error .blank) ∨
      ∃ w, w.letters = s ∧ read s = .ok w := by
  by_cases hlength : s.length = wordLength
  · by_cases hno : NoBlank s
    · exact .inr (.inr (exists_read hlength hno))
    · exact .inr (.inl ⟨hlength, hno, read_of_blank hlength hno⟩)
  · exact .inl ⟨hlength, read_of_length_ne hlength⟩

/-- Each word is read from its own text and from no other. -/
theorem read_eq_ok_iff : read s = .ok w ↔ w.letters = s := by
  constructor
  · intro h
    rcases read_cases s with ⟨-, hread⟩ | ⟨-, -, hread⟩ | ⟨v, hletters, hread⟩
    · rw [hread] at h
      cases h
    · rw [hread] at h
      cases h
    · obtain rfl : v = w := Except.ok.inj (hread.symm.trans h)
      exact hletters
  · rintro rfl
    obtain ⟨v, hletters, hread⟩ := exists_read w.length_letters w.noBlank_letters
    rw [hread, eq_of_letters_eq hletters]

theorem exists_read_eq_ok_iff : (∃ w, read s = .ok w) ↔ s.length = wordLength ∧ NoBlank s := by
  constructor
  · rintro ⟨w, hread⟩
    obtain rfl := read_eq_ok_iff.mp hread
    exact ⟨w.length_letters, w.noBlank_letters⟩
  · rintro ⟨hlength, hno⟩
    obtain ⟨w, -, hread⟩ := exists_read hlength hno
    exact ⟨w, hread⟩

theorem read_eq_wrongLength_iff {n : Nat} :
    read s = .error (.wrongLength n) ↔ s.length = n ∧ n ≠ wordLength := by
  constructor
  · intro h
    rcases read_cases s with ⟨hne, hread⟩ | ⟨-, -, hread⟩ | ⟨w, -, hread⟩
    · rw [hread] at h
      cases h
      exact ⟨rfl, hne⟩
    · rw [hread] at h
      cases h
    · rw [hread] at h
      cases h
  · rintro ⟨rfl, hne⟩
    exact read_of_length_ne hne

theorem read_eq_blank_iff : read s = .error .blank ↔ s.length = wordLength ∧ ¬NoBlank s := by
  constructor
  · intro h
    rcases read_cases s with ⟨-, hread⟩ | ⟨hlength, hblank, -⟩ | ⟨w, -, hread⟩
    · rw [hread] at h
      cases h
    · exact ⟨hlength, hblank⟩
    · rw [hread] at h
      cases h
  · rintro ⟨hlength, hblank⟩
    exact read_of_blank hlength hblank

/-! ## What the word answers -/

theorem exists_letterAt (w : Word) {index : Nat} (h : index < wordLength) :
    ∃ c, w.letters[index]? = some c ∧ w.letterAt index = .ok c := by
  have hlt : index < w.letters.length := by rw [w.length_letters]; exact h
  exact ⟨_, List.getElem?_eq_getElem hlt, letterAt_of_lt hlt⟩

/-- The set of the letters and the places of the word tell of the same letters. -/
theorem has_iff_exists_letterAt (w : Word) (c : Char) :
    w.has c = true ↔ ∃ index, index < wordLength ∧ w.letterAt index = .ok c := by
  rw [has_iff, List.mem_iff_getElem]
  constructor
  · rintro ⟨index, hlt, rfl⟩
    exact ⟨index, w.length_letters ▸ hlt, letterAt_of_lt hlt⟩
  · rintro ⟨index, hplace, hletter⟩
    have hlt : index < w.letters.length := by rw [w.length_letters]; exact hplace
    rw [letterAt_of_lt hlt] at hletter
    exact ⟨index, hlt, Except.ok.inj hletter⟩

/-- **Reading finds the words, and a word is its text**, whatever characters the text has. A text is
read just when it has five characters and no blanks. One of another length is refused for the number
of its characters, with blanks or without, and one of five characters for its blanks. The word that
was read gives the text back unchanged, has its characters at their places, and has a letter
anywhere just when the text does, which is when it has it at one of the five places. -/
theorem read_faithful (s : String) :
    ((∃ w, read s.toList = .ok w) ↔ s.length = 5 ∧ ∀ c ∈ s.toList, isBlank c = false) ∧
      (∀ n, read s.toList = .error (.wrongLength n) ↔ s.length = n ∧ n ≠ 5) ∧
      (read s.toList = .error .blank ↔ s.length = 5 ∧ ∃ c ∈ s.toList, isBlank c = true) ∧
      ∀ w, read s.toList = .ok w →
        w.text = s ∧
        (∀ index, index < 5 → ∃ c, s.toList[index]? = some c ∧ w.letterAt index = .ok c) ∧
        ∀ c, (w.has c = true ↔ c ∈ s.toList) ∧
          (w.has c = true ↔ ∃ index, index < 5 ∧ w.letterAt index = .ok c) := by
  have hlength : s.toList.length = s.length := String.length_toList
  have hblank : ¬NoBlank s.toList ↔ ∃ c ∈ s.toList, isBlank c = true := by simp [NoBlank]
  refine ⟨?_, fun n => ?_, ?_, fun w hread => ?_⟩
  · rw [← hlength]
    exact exists_read_eq_ok_iff
  · rw [← hlength]
    exact read_eq_wrongLength_iff
  · rw [← hlength, ← hblank]
    exact read_eq_blank_iff
  · have hletters : w.letters = s.toList := read_eq_ok_iff.mp hread
    refine ⟨?_, fun index hindex => ?_, fun c => ⟨?_, w.has_iff_exists_letterAt c⟩⟩
    · rw [text, hletters, String.ofList_toList]
    · rw [← hletters]
      exact w.exists_letterAt hindex
    · rw [← hletters]
      exact w.has_iff c

/-- Letters of more than one byte, one of them twice, and a text that is too long and has a blank. -/
theorem read_faithful_accents :
    (∃ w, read "mêmes".toList = .ok w ∧ w.text = "mêmes" ∧ w.letterAt 1 = .ok 'ê' ∧
      w.letterAt 2 = .ok 'm' ∧ w.has 'm' = true ∧ w.has 'e' = true ∧ w.has 'é' = false) ∧
      read "a même".toList = .error (.wrongLength 6) ∧
      read "à lui".toList = .error .blank := by
  obtain ⟨hsome, -, -, hword⟩ := read_faithful "mêmes"
  obtain ⟨-, hlength, -, -⟩ := read_faithful "a même"
  obtain ⟨-, -, hblank, -⟩ := read_faithful "à lui"
  have hno : NoBlank "mêmes".toList := by decide
  obtain ⟨w, hread⟩ := hsome.mpr ⟨by decide, hno⟩
  obtain ⟨htext, hplaces, hhas⟩ := hword w hread
  obtain ⟨c, hc, hletter⟩ := hplaces 1 (by decide)
  obtain ⟨d, hd, hletter'⟩ := hplaces 2 (by decide)
  refine ⟨⟨w, hread, htext, ?_, ?_, ?_, ?_, ?_⟩, ?_, ?_⟩
  · rw [hletter, ← Option.some.inj hc]
    rfl
  · rw [hletter', ← Option.some.inj hd]
    rfl
  · exact (hhas 'm').1.mpr (by decide)
  · exact (hhas 'e').1.mpr (by decide)
  · rw [← Bool.not_eq_true, (hhas 'é').1]
    decide
  · exact (hlength 6).mpr (by decide)
  · exact hblank.mpr ⟨by decide, ' ', by decide, by decide⟩

end WordSieve.Word
