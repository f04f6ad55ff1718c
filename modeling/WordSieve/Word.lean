import WordSieve.Text.Blank

/-!
# Words

A word is five characters, none of them a blank. It keeps them three times: as the text that was
read, by their places, and as a set that tells fast whether a letter is there. The three agree in
every word there is.

A text is read in one pass that puts its characters into five places and counts them, those past the
last place included. How many there were is only asked at the end, and blanks only after that, so a
text of another length is refused for its length whatever it holds.

Looking at a place past the end of a word is a fault and not an answer: a condition may name any
place, and one that does is only noticed when the place is really looked at.
-/

set_option autoImplicit false

namespace WordSieve

open Text

/-- How many letters every word has. -/
def wordLength : Nat := 5

/-- Why a text is not a word. The length is looked at first. -/
inductive WordError where
  | wrongLength (length : Nat)
  | blank
  deriving DecidableEq, Repr

/-- The error in words. -/
def WordError.message : WordError → String
  | .wrongLength n => s!"Word must be exactly {wordLength} letters, got {n}"
  | .blank => "Word must not contain whitespace"

/-- A look at a place past the end of something of some length. -/
structure IndexFault where
  length : Nat
  index : Nat
  deriving DecidableEq, Repr

/-- The fault in words. -/
def IndexFault.message (f : IndexFault) : String :=
  s!"index out of bounds: the len is {f.length} but the index is {f.index}"

/-! ## Sets of letters -/

/-- A set of letters, each held once. -/
structure LetterSet where
  members : List Char
  nodup : members.Nodup
  deriving DecidableEq, Repr

namespace LetterSet

/-- The set with the letter, which may be in it already. -/
def insert (s : LetterSet) (c : Char) : LetterSet :=
  if h : c ∈ s.members then s else ⟨c :: s.members, List.nodup_cons.mpr ⟨h, s.nodup⟩⟩

/-- The letters of a list. -/
def ofList (letters : List Char) : LetterSet :=
  letters.foldl insert ⟨[], List.nodup_nil⟩

/-- Whether the letter is in the set. -/
def contains (s : LetterSet) (c : Char) : Bool :=
  s.members.contains c

theorem contains_insert (s : LetterSet) (c d : Char) :
    (s.insert c).contains d = true ↔ d = c ∨ s.contains d = true := by
  unfold insert
  split
  · next h =>
    refine ⟨.inr, ?_⟩
    rintro (rfl | hd)
    · exact List.contains_iff_mem.mpr h
    · exact hd
  · simp [contains]

theorem contains_foldl_insert (letters : List Char) (s : LetterSet) (c : Char) :
    (letters.foldl insert s).contains c = true ↔ c ∈ letters ∨ s.contains c = true := by
  induction letters generalizing s with
  | nil => simp
  | cons d rest ih =>
    rw [List.foldl_cons, ih, contains_insert, List.mem_cons, or_left_comm, or_assoc]

/-- The set holds just the letters it was made from. -/
@[simp] theorem contains_ofList (letters : List Char) (c : Char) :
    (ofList letters).contains c = true ↔ c ∈ letters := by
  rw [ofList, contains_foldl_insert]
  simp [contains]

end LetterSet

/-! ## Reading a text -/

/-- What is known of a text while it is read: its first characters in their places, and how many
characters there were. -/
structure Intake where
  cells : Vector Char wordLength
  count : Nat

namespace Intake

/-- Nothing was read yet. -/
def empty : Intake :=
  { cells := .replicate wordLength ' ', count := 0 }

/-- One more character. Past the last place it is counted and not kept. -/
def take (t : Intake) (c : Char) : Intake :=
  { cells := if h : t.count < wordLength then t.cells.set t.count c h else t.cells
    count := t.count + 1 }

/-- The whole text. -/
def ofText (s : List Char) : Intake :=
  s.foldl take empty

/-- The text was read: its characters were counted, and each place holds its character, or a space
that stands for none. -/
structure Took (t : Intake) (s : List Char) : Prop where
  count_eq : t.count = s.length
  cell_eq : ∀ i (h : i < wordLength), t.cells[i] = s[i]?.getD ' '

theorem took_empty : empty.Took [] :=
  ⟨rfl, fun i h => by simp [empty]⟩

theorem getElem_cells_take (t : Intake) (c : Char) {i : Nat} (h : i < wordLength) :
    (t.take c).cells[i] = if t.count = i then c else t.cells[i] := by
  unfold take
  by_cases hroom : t.count < wordLength
  · simp [hroom, Vector.getElem_set]
  · have hother : t.count ≠ i := by omega
    simp [hroom, hother]

theorem Took.take {t : Intake} {s : List Char} (h : t.Took s) (c : Char) :
    (t.take c).Took (s ++ [c]) := by
  refine ⟨?_, ?_⟩
  · simp [Intake.take, h.count_eq]
  · intro i hi
    rw [getElem_cells_take t c hi, h.count_eq, h.cell_eq i hi]
    by_cases hlast : s.length = i
    · simp [← hlast]
    -- Any other place holds what it held, and what it holds next is still to come.
    · rw [if_neg hlast, List.getElem?_append]
      split
      · rfl
      · next hbehind =>
        have hnone : s[i]? = none := List.getElem?_eq_none (by omega)
        have hend : [c][i - s.length]? = none := List.getElem?_eq_none (by simp; omega)
        rw [hnone, hend]

theorem Took.foldl_take {t : Intake} {s : List Char} (h : t.Took s) (rest : List Char) :
    (rest.foldl Intake.take t).Took (s ++ rest) := by
  induction rest generalizing t s with
  | nil => simpa using h
  | cons c rest ih => simpa using ih (h.take c)

theorem took_ofText (s : List Char) : (ofText s).Took s :=
  took_empty.foldl_take s

theorem count_ofText (s : List Char) : (ofText s).count = s.length :=
  (took_ofText s).count_eq

/-- If there are as many characters as places, the places hold the text. -/
theorem toList_cells_ofText {s : List Char} (h : (ofText s).count = wordLength) :
    (ofText s).cells.toList = s := by
  have hlength : s.length = wordLength := (count_ofText s).symm.trans h
  apply List.ext_getElem
  · simp [hlength]
  · intro i hi hi'
    have hcell := (took_ofText s).cell_eq i (by omega)
    simpa [hi'] using hcell

end Intake

/-! ## Words -/

/-- A text of five characters without blanks. -/
structure Word where
  /-- The text, as it was read. -/
  letters : List Char
  /-- The characters by their places. -/
  cells : Vector Char wordLength
  /-- The characters as a set. -/
  index : LetterSet
  toList_cells : cells.toList = letters
  index_eq : index = .ofList letters
  not_blank : ∀ c ∈ letters, isBlank c = false
  deriving DecidableEq, Repr

namespace Word

/-- The word that the text is, or what keeps it from being one. -/
def read (s : List Char) : Except WordError Word :=
  let intake := Intake.ofText s
  if hcount : intake.count = wordLength then
    if hblank : intake.cells.toList.any isBlank = false then
      .ok
        { letters := s
          cells := intake.cells
          index := .ofList intake.cells.toList
          toList_cells := Intake.toList_cells_ofText hcount
          index_eq := by rw [Intake.toList_cells_ofText hcount]
          not_blank := by
            rw [Intake.toList_cells_ofText hcount] at hblank
            simpa using hblank }
    else .error .blank
  else .error (.wrongLength intake.count)

/-- The word as text. -/
def text (w : Word) : String :=
  String.ofList w.letters

/-- The letter at a place, counted from 0. -/
def letterAt (w : Word) (index : Nat) : Except IndexFault Char :=
  if h : index < wordLength then .ok w.cells[index] else .error ⟨wordLength, index⟩

/-- Whether the letter stands anywhere in the word. -/
def has (w : Word) (c : Char) : Bool :=
  w.index.contains c

theorem length_letters (w : Word) : w.letters.length = wordLength := by
  simp [← w.toList_cells]

/-- A word is told by its text alone. -/
theorem eq_of_letters_eq {w v : Word} (h : w.letters = v.letters) : w = v := by
  have hcells : w.cells = v.cells := by
    apply Vector.toList_inj.mp
    rw [w.toList_cells, v.toList_cells, h]
  have hindex : w.index = v.index := by rw [w.index_eq, v.index_eq, h]
  cases w
  cases v
  simp_all

theorem letterAt_of_lt {w : Word} {index : Nat} (h : index < w.letters.length) :
    w.letterAt index = .ok w.letters[index] := by
  have hplace : index < wordLength := w.length_letters ▸ h
  rw [letterAt, dif_pos hplace]
  simp [← w.toList_cells]

theorem letterAt_of_le {w : Word} {index : Nat} (h : wordLength ≤ index) :
    w.letterAt index = .error ⟨wordLength, index⟩ :=
  dif_neg (Nat.not_lt_of_le h)

@[simp] theorem has_iff (w : Word) (c : Char) : w.has c = true ↔ c ∈ w.letters := by
  rw [has, w.index_eq, LetterSet.contains_ofList]

end Word

/-- The words among the entries, in their order. An entry that is not a word is passed over. -/
def wordsOf (entries : List (List Char)) : List Word :=
  entries.filterMap fun s => (Word.read s).toOption

end WordSieve
