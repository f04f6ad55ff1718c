import Mathlib.Data.List.Induction
import WordSieve.Proofs.Text.Digits
import WordSieve.Text.Blank
import WordSieve.Text.Numeral

/-!
# Lines of words

Words that hold no blank are found again in the line that they make with a space between each two.
An empty word leaves no trace but a second space, so it is the only kind of word that is lost.

Any other line has words as well, and blanks of any kind and number around them. Which words these
are is told by the line alone (`HasWords`), and the fields are these words (`fields_eq_iff`).

A number that fits a machine word is read from its decimal digits.
-/

set_option autoImplicit false

namespace WordSieve.Text

/-! ## Words -/

/-- A text without blanks. -/
def NoBlank (s : List Char) : Prop :=
  ∀ c ∈ s, isBlank c = false

instance (s : List Char) : Decidable (NoBlank s) :=
  List.decidableBAll (isBlank · = false) s

theorem fieldsFrom_append {w : List Char} (h : NoBlank w) (piece rest : List Char) :
    fieldsFrom piece (w ++ rest) = fieldsFrom (w.reverse ++ piece) rest := by
  induction w generalizing piece with
  | nil => rfl
  | cons c w ih =>
    have hc : isBlank c = false := h c List.mem_cons_self
    have hw : NoBlank w := fun d hd => h d (List.mem_cons_of_mem c hd)
    rw [List.cons_append, fieldsFrom, hc, if_neg Bool.false_ne_true, ih hw, List.reverse_cons,
      List.append_assoc]
    rfl

/-- The text before a blank is a field of its own unless it is empty. -/
theorem fields_append_blank {w : List Char} (h : NoBlank w) {c : Char} (hc : isBlank c = true)
    (rest : List Char) : fields (w ++ c :: rest) = (if w.isEmpty then [] else [w]) ++ fields rest := by
  rw [fields, fieldsFrom_append h, List.append_nil, fieldsFrom, if_pos hc, List.isEmpty_reverse,
    List.reverse_reverse]
  cases w with
  | nil => rfl
  | cons c w => rfl

theorem fields_of_noBlank {w : List Char} (h : NoBlank w) :
    fields w = if w.isEmpty then [] else [w] := by
  have hend := fieldsFrom_append h [] []
  rw [List.append_nil, List.append_nil] at hend
  rw [fields, hend, fieldsFrom, List.isEmpty_reverse, List.reverse_reverse]

/-! ## Blanks around the words -/

/-- Blanks in front of a text are no part of its words. -/
theorem fields_append_of_blank {before : List Char} (h : ∀ c ∈ before, isBlank c = true)
    (s : List Char) : fields (before ++ s) = fields s := by
  induction before with
  | nil => rfl
  | cons c before ih =>
    rw [List.forall_mem_cons] at h
    rw [← ih h.2]
    simp [fields, fieldsFrom, h.1]

/-- Words with blanks between each two are the fields of the line they make, save the empty ones,
whatever the blanks are. -/
theorem fields_intercalate_blanks {blanks : List Char} (hne : blanks ≠ [])
    (hblanks : ∀ c ∈ blanks, isBlank c = true) {words : List (List Char)}
    (h : ∀ w ∈ words, NoBlank w) :
    fields (blanks.intercalate words) = words.filter (!·.isEmpty) := by
  obtain ⟨c, blanks, rfl⟩ := List.exists_cons_of_ne_nil hne
  rw [List.forall_mem_cons] at hblanks
  induction words with
  | nil => rfl
  | cons w rest ih =>
    have hw : NoBlank w := h w List.mem_cons_self
    have hfilter : (w :: rest).filter (!·.isEmpty) =
        (if w.isEmpty then [] else [w]) ++ rest.filter (!·.isEmpty) := by
      rw [List.filter_cons]
      cases w with
      | nil => rfl
      | cons c w => rfl
    rw [hfilter]
    cases rest with
    | nil =>
      rw [List.intercalate_singleton, fields_of_noBlank hw, List.filter_nil, List.append_nil]
    | cons w' rest =>
      have hrest := ih fun v hv => h v (List.mem_cons_of_mem w hv)
      rw [List.intercalate_cons_cons, List.append_assoc, List.cons_append,
        fields_append_blank hw hblanks.1, fields_append_of_blank hblanks.2, hrest]

/-- **The fields of a line are its words**, save the empty ones. -/
theorem fields_intercalate {words : List (List Char)} (h : ∀ w ∈ words, NoBlank w) :
    fields ([' '].intercalate words) = words.filter (!·.isEmpty) := by
  have hblanks : ∀ c ∈ [' '], isBlank c = true := List.forall_mem_singleton.mpr (by decide)
  exact fields_intercalate_blanks (List.cons_ne_nil ' ' []) hblanks h

theorem fields_dropWhile (s : List Char) : fields (s.dropWhile isBlank) = fields s := by
  induction s with
  | nil => rfl
  | cons c s ih =>
    by_cases hc : isBlank c = true
    · rw [List.dropWhile_cons_of_pos hc, ih]
      simp [fields, fieldsFrom, hc]
    · rw [List.dropWhile_cons_of_neg hc]

theorem fieldsFrom_append_blank {c : Char} (hc : isBlank c = true) (piece s : List Char) :
    fieldsFrom piece (s ++ [c]) = fieldsFrom piece s := by
  induction s generalizing piece with
  | nil =>
    -- The blank ends the piece that the end of the text would have ended.
    cases piece <;> simp [fieldsFrom, hc]
  | cons d s ih => simp [fieldsFrom, ih]

theorem fields_trimRight (s : List Char) : fields (trimRight s) = fields s := by
  induction s using List.reverseRecOn with
  | nil => rfl
  | append_singleton s c ih =>
    by_cases hc : isBlank c = true
    · have htrim : trimRight (s ++ [c]) = trimRight s := by simp [trimRight, hc]
      rw [htrim, ih, fields, fields, fieldsFrom_append_blank hc]
    · have htrim : trimRight (s ++ [c]) = s ++ [c] := by simp [trimRight, hc]
      rw [htrim]

/-- Blanks around a text are no part of its words. -/
theorem fields_trim (s : List Char) : fields (trim s) = fields s := by
  rw [trim, fields_trimRight, fields_dropWhile]

/-! ## The words of any line -/

/-- The line has the words: it is made of them and of the blanks around them, and no two of them
touch. -/
inductive HasWords : List Char → List (List Char) → Prop
  | none {blanks : List Char} (h : ∀ c ∈ blanks, isBlank c = true) : HasWords blanks []
  | word {blanks w rest : List Char} {words : List (List Char)}
      (hblanks : ∀ c ∈ blanks, isBlank c = true) (hne : w ≠ []) (hw : NoBlank w)
      (hend : ∀ c ∈ rest.head?, isBlank c = true) (hrest : HasWords rest words) :
      HasWords (blanks ++ (w ++ rest)) (w :: words)

theorem fields_word {w rest : List Char} (hne : w ≠ []) (hw : NoBlank w)
    (hend : ∀ c ∈ rest.head?, isBlank c = true) : fields (w ++ rest) = w :: fields rest := by
  have hword : w.isEmpty = false := List.isEmpty_eq_false_iff.mpr hne
  cases rest with
  | nil =>
    rw [List.append_nil, fields_of_noBlank hw, hword]
    rfl
  | cons c rest =>
    have hc : isBlank c = true := hend c rfl
    have hrest : fields (c :: rest) = fields rest := by
      apply fields_append_of_blank (List.forall_mem_singleton.mpr hc)
    rw [fields_append_blank hw hc, hword, hrest]
    rfl

theorem HasWords.fields_eq {s : List Char} {words : List (List Char)} (h : HasWords s words) :
    fields s = words := by
  induction h with
  | none h =>
    have hnone := fields_append_of_blank h []
    rw [List.append_nil] at hnone
    exact hnone
  | word hblanks hne hw hend _ ih =>
    rw [fields_append_of_blank hblanks, fields_word hne hw hend, ih]

theorem HasWords.forall_mem {s : List Char} {words : List (List Char)} (h : HasWords s words) :
    ∀ w ∈ words, w ≠ [] ∧ NoBlank w := by
  induction h with
  | none => exact List.forall_mem_nil _
  | word _ hne hw _ _ ih => exact List.forall_mem_cons.mpr ⟨⟨hne, hw⟩, ih⟩

/-- One more character in front is a blank, a word of its own or a part of the first word. -/
theorem HasWords.cons (c : Char) {s : List Char} {words : List (List Char)} (h : HasWords s words) :
    ∃ words, HasWords (c :: s) words := by
  by_cases hc : isBlank c = true
  · cases h with
    | none h => exact ⟨[], .none (List.forall_mem_cons.mpr ⟨hc, h⟩)⟩
    | word hblanks hne hw hend hrest =>
      exact ⟨_, .word (List.forall_mem_cons.mpr ⟨hc, hblanks⟩) hne hw hend hrest⟩
  · have hletter : isBlank c = false := Bool.eq_false_iff.mpr hc
    have halone {s words} (hend : ∀ d ∈ s.head?, isBlank d = true) (hs : HasWords s words) :
        HasWords (c :: s) ([c] :: words) :=
      .word (List.forall_mem_nil _) (List.cons_ne_nil c []) (List.forall_mem_singleton.mpr hletter)
        hend hs
    cases h with
    | none h => exact ⟨_, halone (fun d hd => h d (List.mem_of_mem_head? hd)) (.none h)⟩
    | @word blanks w _ _ hblanks hne hw hend hrest =>
      cases blanks with
      | nil =>
        exact ⟨_, .word hblanks (List.cons_ne_nil c w) (List.forall_mem_cons.mpr ⟨hletter, hw⟩)
          hend hrest⟩
      | cons d blanks =>
        have hd : isBlank d = true := hblanks d List.mem_cons_self
        refine ⟨_, halone ?_ (.word hblanks hne hw hend hrest)⟩
        simpa using hd

/-- Every line has words. -/
theorem exists_hasWords (s : List Char) : ∃ words, HasWords s words := by
  induction s with
  | nil => exact ⟨[], .none (by simp)⟩
  | cons c s ih =>
    obtain ⟨words, h⟩ := ih
    exact h.cons c

/-- **The fields of a line are the words it has**, and no other ones. -/
theorem fields_eq_iff {s : List Char} {words : List (List Char)} :
    fields s = words ↔ HasWords s words := by
  constructor
  · rintro rfl
    obtain ⟨words, h⟩ := exists_hasWords s
    rwa [h.fields_eq]
  · exact HasWords.fields_eq

/-! ## Numbers -/

theorem digit?_digitChar {d : Nat} (h : d < 10) : digit? d.digitChar = some d := by
  have hall : ∀ d < 10, digit? d.digitChar = some d := by decide
  exact hall d h

theorem digitsFrom_append (n : Nat) (s t : List Char) :
    digitsFrom n (s ++ t) = (digitsFrom n s).bind fun m => digitsFrom m t := by
  induction s generalizing n with
  | nil => rfl
  | cons c s ih =>
    rw [List.cons_append, digitsFrom, digitsFrom, Option.bind_assoc]
    exact congrArg _ (funext fun d => ih (10 * n + d))

theorem digitsFrom_toDigits (n : Nat) : digitsFrom 0 (Nat.toDigits 10 n) = some n := by
  have hone : ∀ m d, d < 10 → digitsFrom m [d.digitChar] = some (10 * m + d) := by
    intro m d hd
    rw [digitsFrom, digit?_digitChar hd]
    rfl
  refine toDigits_induction (by decide) (fun s n => digitsFrom 0 s = some n) (fun d hd => ?_)
    (fun s n d hs hd => ?_) n
  · rw [hone 0 d hd, Nat.mul_zero, Nat.zero_add]
  · rw [digitsFrom_append, hs, Option.bind_some, hone n d hd]

/-- What holds of all decimal digits holds of the characters of every number. -/
theorem forall_mem_toDigits {P : Char → Prop} (h : ∀ d < 10, P d.digitChar) (n : Nat) :
    ∀ c ∈ Nat.toDigits 10 n, P c := by
  intro c hc
  obtain ⟨d, hd, rfl⟩ := exists_digit_of_mem_toDigits (by decide) n c hc
  exact h d hd

theorem dropPlus_of_not_mem {s : List Char} (h : '+' ∉ s) : dropPlus s = s := by
  unfold dropPlus
  split
  · exact absurd List.mem_cons_self h
  · rfl

/-- **A number that fits a machine word is read from its decimal digits.** -/
theorem numeral?_toDigits {n : Nat} (h : n < wordLimit) :
    numeral? (Nat.toDigits 10 n) = some n := by
  have hplus : '+' ∉ Nat.toDigits 10 n := fun hmem =>
    forall_mem_toDigits (P := (· ≠ '+')) (by decide) n '+' hmem rfl
  have hempty : (Nat.toDigits 10 n).isEmpty = false :=
    List.isEmpty_eq_false_iff.mpr Nat.toDigits_ne_nil
  rw [numeral?, dropPlus_of_not_mem hplus, digits?, hempty, if_neg Bool.false_ne_true,
    digitsFrom_toDigits, Option.filter_some, if_pos (decide_eq_true h)]

theorem noBlank_toDigits (n : Nat) : NoBlank (Nat.toDigits 10 n) :=
  forall_mem_toDigits (by decide) n

end WordSieve.Text
