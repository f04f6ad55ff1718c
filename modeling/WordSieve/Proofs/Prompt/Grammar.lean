import Mathlib.Tactic.FinCases
import WordSieve.Proofs.Prompt.Lines
import WordSieve.Proofs.Text.Numeral

/-!
# The grammar of the prompt

What comes of a line, told from the words it has: the first one names a command, in any case, and
the ones behind it are a number, the name of a part and its value, as far as the command takes them.
Of several faults the one that stands first is told. Every line is of one of the forms told here, and
the reader does what is told of that form (`Command.read_grammar`).

What a line can say is limited by its words alone. A number has to fit a machine word although it
counts from 1, and letters with a blank among them are two words.
-/

set_option autoImplicit false

namespace WordSieve

open Text

namespace Command

/-! ## Numbers -/

/-- What a word is read as where the number of a criterion should stand. -/
inductive NumberReads : Option (List Char) → Except CommandError Nat → Prop
  | missing : NumberReads none (.error .missingNumber)
  | place {w : List Char} {index : Nat} (h : IsNumeral w (index + 1))
      (hfits : index + 1 < wordLimit) : NumberReads (some w) (.ok index)
  | zero {w : List Char} (h : IsNumeral w 0) : NumberReads (some w) (.error .numberZero)
  | other {w : List Char} (h : ∀ value, IsNumeral w value → wordLimit ≤ value) :
      NumberReads (some w) (.error (.notANumber (String.ofList w)))

theorem NumberReads.fits {arg : Option (List Char)} {index : Nat}
    (h : NumberReads arg (.ok index)) : index + 1 < wordLimit := by
  cases h with
  | place _ hfits => exact hfits

theorem readIndex_of_reads {arg : Option (List Char)} {r : Except CommandError Nat}
    (h : NumberReads arg r) : readIndex arg = r := by
  cases h with
  | missing => rfl
  | place h hfits => rw [readIndex, numeral?_eq_some_iff.mpr ⟨h, hfits⟩]
  | zero h => rw [readIndex, numeral?_eq_some_iff.mpr ⟨h, by decide⟩]
  | other h => rw [readIndex, numeral?_eq_none_iff.mpr h]

theorem numberReads_total (arg : Option (List Char)) : ∃ r, NumberReads arg r := by
  cases arg with
  | none => exact ⟨_, .missing⟩
  | some w =>
    cases hvalue : numeral? w with
    | none => exact ⟨_, .other (numeral?_eq_none_iff.mp hvalue)⟩
    | some value =>
      obtain ⟨h, hfits⟩ := numeral?_eq_some_iff.mp hvalue
      cases value with
      | zero => exact ⟨_, .zero h⟩
      | succ index => exact ⟨_, .place h hfits⟩

/-! ## Names -/

/-- The lowercase form of the word is one of the names. -/
def Names (names : List String) (w : List Char) : Prop :=
  lowercase w ∈ names.map String.toList

instance (names : List String) (w : List Char) : Decidable (Names names w) :=
  inferInstanceAs (Decidable (lowercase w ∈ names.map String.toList))

/-- The commands that are said in one word, and their names. -/
def plain : List (Command × List String) :=
  [(.add, ["add", "a"]), (.more, ["more", "m"]), (.overview, ["show", "ls"]),
   (.help, ["help", "h", "?"]), (.quit, ["quit", "q", "exit"])]

/-- The names of the command that takes a number. -/
def removeNames : List String := ["rm", "remove", "del"]

/-- The names of the command that takes a number, a part and a value. -/
def editNames : List String := ["set", "s"]

variable {name : List Char} {args : List (List Char)}

theorem ofWords_of_plain {c : Command} {names : List String} (h : (c, names) ∈ plain)
    (hname : Names names name) : ofWords (name :: args) = .ok c := by
  obtain ⟨n, hn, heq⟩ := List.mem_map.mp hname
  simp only [ofWords, ← heq]
  fin_cases h <;> fin_cases hn <;> rfl

theorem ofWords_of_removeNames (hname : Names removeNames name) :
    ofWords (name :: args) = .remove <$> readIndex args[0]? := by
  obtain ⟨n, hn, heq⟩ := List.mem_map.mp hname
  simp only [ofWords, ← heq]
  fin_cases hn <;> rfl

theorem ofWords_of_editNames (hname : Names editNames name) :
    ofWords (name :: args) = readEdit args := by
  obtain ⟨n, hn, heq⟩ := List.mem_map.mp hname
  simp only [ofWords, ← heq]
  fin_cases hn <;> rfl

theorem ofWords_of_no_name (hplain : ∀ x ∈ plain, ¬ Names x.2 name)
    (hremove : ¬ Names removeNames name) (hedit : ¬ Names editNames name) :
    ofWords (name :: args) = .error (.unknownCommand (String.ofList (lowercase name))) := by
  simp only [plain, List.forall_mem_cons] at hplain
  obtain ⟨hadd, hmore, hoverview, hhelp, hquit, -⟩ := hplain
  unfold ofWords
  exact (if_neg hadd).trans <| (if_neg hremove).trans <| (if_neg hedit).trans <|
    (if_neg hmore).trans <| (if_neg hoverview).trans <| (if_neg hhelp).trans (if_neg hquit)

/-! ## Lines -/

/-- What the words of a line are read as. -/
inductive WordsRead : List (List Char) → Except CommandError Command → Prop
  | none : WordsRead [] (.ok .overview)
  | plain {name : List Char} {args : List (List Char)} {c : Command} {names : List String}
      (h : (c, names) ∈ plain) (hname : Names names name) : WordsRead (name :: args) (.ok c)
  | remove {name : List Char} {args : List (List Char)} {index : Nat}
      (hname : Names removeNames name) (hnumber : NumberReads args[0]? (.ok index)) :
      WordsRead (name :: args) (.ok (.remove index))
  | edit {name number field : List Char} {args : List (List Char)} {index : Nat} {e : Edit}
      (hname : Names editNames name) (hnumber : NumberReads (some number) (.ok index))
      (hedit : Edit.read field (args[0]?.getD []) = .ok e) :
      WordsRead (name :: number :: field :: args) (.ok (.edit index e))
  | noNumber {name : List Char} {args : List (List Char)} {e : CommandError}
      (hname : Names removeNames name ∨ Names editNames name)
      (hnumber : NumberReads args[0]? (.error e)) : WordsRead (name :: args) (.error e)
  | noField {name number : List Char} {index : Nat} (hname : Names editNames name)
      (hnumber : NumberReads (some number) (.ok index)) :
      WordsRead [name, number] (.error .missingField)
  | noEdit {name number field : List Char} {args : List (List Char)} {index : Nat}
      {e : CriterionError} (hname : Names editNames name)
      (hnumber : NumberReads (some number) (.ok index))
      (hedit : Edit.read field (args[0]?.getD []) = .error e) :
      WordsRead (name :: number :: field :: args) (.error (.badEdit e))
  | unknown {name : List Char} {args : List (List Char)} (hplain : ∀ x ∈ plain, ¬ Names x.2 name)
      (hremove : ¬ Names removeNames name) (hedit : ¬ Names editNames name) :
      WordsRead (name :: args) (.error (.unknownCommand (String.ofList (lowercase name))))

theorem ofWords_of_reads {words : List (List Char)} {r : Except CommandError Command}
    (h : WordsRead words r) : ofWords words = r := by
  cases h with
  | none => rfl
  | plain h hname => exact ofWords_of_plain h hname
  | remove hname hnumber =>
    rw [ofWords_of_removeNames hname, readIndex_of_reads hnumber]
    rfl
  | edit hname hnumber hedit =>
    rw [ofWords_of_editNames hname]
    simp [readEdit, bind, Except.bind, readIndex_of_reads hnumber, hedit]
  | noNumber hname hnumber =>
    rcases hname with hname | hname
    · rw [ofWords_of_removeNames hname, readIndex_of_reads hnumber]
      rfl
    · rw [ofWords_of_editNames hname, readEdit, readIndex_of_reads hnumber]
      rfl
  | noField hname hnumber =>
    rw [ofWords_of_editNames hname]
    simp [readEdit, bind, Except.bind, readIndex_of_reads hnumber]
  | noEdit hname hnumber hedit =>
    rw [ofWords_of_editNames hname]
    simp [readEdit, bind, Except.bind, readIndex_of_reads hnumber, hedit]
  | unknown hplain hremove hedit => exact ofWords_of_no_name hplain hremove hedit

theorem wordsRead_of_editNames {name : List Char} (hname : Names editNames name)
    (args : List (List Char)) : ∃ r, WordsRead (name :: args) r := by
  obtain ⟨n, hnumber⟩ := numberReads_total args[0]?
  cases n with
  | error e => exact ⟨_, .noNumber (.inr hname) hnumber⟩
  | ok index =>
    cases args with
    | nil => cases hnumber
    | cons number args =>
      cases args with
      | nil => exact ⟨_, .noField hname hnumber⟩
      | cons field args =>
        cases hedit : Edit.read field (args[0]?.getD []) with
        | error e => exact ⟨_, .noEdit hname hnumber hedit⟩
        | ok e => exact ⟨_, .edit hname hnumber hedit⟩

/-- Every line is of one of the forms. -/
theorem wordsRead_total (words : List (List Char)) : ∃ r, WordsRead words r := by
  cases words with
  | nil => exact ⟨_, .none⟩
  | cons name args =>
    by_cases hplain : ∃ x ∈ plain, Names x.2 name
    · obtain ⟨x, hx, hname⟩ := hplain
      exact ⟨_, .plain hx hname⟩
    by_cases hremove : Names removeNames name
    · obtain ⟨n, hnumber⟩ := numberReads_total args[0]?
      cases n with
      | error e => exact ⟨_, .noNumber (.inl hremove) hnumber⟩
      | ok index => exact ⟨_, .remove hremove hnumber⟩
    by_cases hedit : Names editNames name
    · exact wordsRead_of_editNames hedit args
    · exact ⟨_, .unknown (by simpa using hplain) hremove hedit⟩

theorem read_iff_wordsRead {line : List Char} {r : Except CommandError Command} :
    read line = r ↔ ∃ words, HasWords line words ∧ WordsRead words r := by
  constructor
  · rintro rfl
    obtain ⟨r, hr⟩ := wordsRead_total (fields line)
    refine ⟨fields line, fields_eq_iff.mp rfl, ?_⟩
    rwa [read, ofWords_of_reads hr]
  · rintro ⟨words, hwords, hr⟩
    rw [read, hwords.fields_eq, ofWords_of_reads hr]

/-! ## What lines can say -/

/-- The command can be typed: its number counts from 1 and fits a machine word, and the letters of an
edit are one word or none. -/
def Expressible : Command → Prop
  | .remove index => index + 1 < wordLimit
  | .edit index (.letters s) => index + 1 < wordLimit ∧ NoBlank s
  | .edit index _ => index + 1 < wordLimit
  | _ => True

end Command

namespace Edit

/-- The names of the part that is edited. -/
def names : Edit → List String
  | .kind _ => ["kind", "type"]
  | .letters _ => ["letters", "value"]
  | .scope _ => ["scope", "pos", "position"]

variable {e : Edit} {field : String}

theorem word_of_mem_names (h : field ∈ e.names) : field.toList ≠ [] ∧ NoBlank field.toList := by
  cases e <;> fin_cases h <;> decide

theorem read_of_mem_names (h : field ∈ e.names) : Edit.read field.toList e.value = .ok e := by
  cases e with
  | kind k =>
    have hread : Edit.kind <$> Kind.read k.name.toList = .ok (.kind k) := by
      rw [k.read_name]
      rfl
    fin_cases h <;> exact hread
  | letters s => fin_cases h <;> rfl
  | scope s =>
    have hread : Edit.scope <$> Scope.read s.name.toList = .ok (.scope s) := by
      rw [s.read_name]
      rfl
    fin_cases h <;> exact hread

theorem eq_of_read_letters {field value s : List Char}
    (h : Edit.read field value = .ok (.letters s)) : s = value := by
  simp only [Edit.read] at h
  split at h
  · cases hk : Kind.read value <;> simp [hk, Functor.map, Except.map] at h
  split at h
  · simpa using h.symm
  split at h
  · cases hs : Scope.read value <;> simp [hs, Functor.map, Except.map] at h
  · simp at h

end Edit

namespace Command

variable {index : Nat} {e : Edit}

theorem Expressible.index_lt (h : (edit index e).Expressible) : index + 1 < wordLimit := by
  cases e with
  | letters s => exact h.1
  | kind k => exact h
  | scope s => exact h

theorem Expressible.noBlank_value (h : (edit index e).Expressible) : NoBlank e.value := by
  cases e with
  | letters s => exact h.2
  | kind k => exact k.noBlank_name
  | scope s => exact s.noBlank_name

theorem read_set_of_expressible (h : (edit index e).Expressible) {field : String}
    (hfield : field ∈ e.names) :
    read ([' '].intercalate ["set".toList, (toString (index + 1)).toList, field.toList, e.value]) =
      .ok (.edit index e) := by
  obtain ⟨hne, hword⟩ := Edit.word_of_mem_names hfield
  exact read_set h.index_lt hne hword h.noBlank_value (Edit.read_of_mem_names hfield)

theorem exists_line {c : Command} (h : c.Expressible) : ∃ line, read line = .ok c := by
  cases c with
  | add => exact ⟨"add".toList, rfl⟩
  | remove index => exact ⟨_, read_rm h⟩
  | edit index e =>
    have hfield : ∃ field, field ∈ e.names := by cases e <;> exact ⟨_, List.mem_cons_self⟩
    obtain ⟨field, hfield⟩ := hfield
    exact ⟨_, read_set_of_expressible h hfield⟩
  | more => exact ⟨"more".toList, rfl⟩
  | overview => exact ⟨"show".toList, rfl⟩
  | help => exact ⟨"help".toList, rfl⟩
  | quit => exact ⟨"quit".toList, rfl⟩

theorem expressible_of_reads {words : List (List Char)} {c : Command}
    (hwords : ∀ w ∈ words, NoBlank w) (h : WordsRead words (.ok c)) : c.Expressible := by
  cases h with
  | none => trivial
  | plain h _ => fin_cases h <;> trivial
  | remove _ hnumber => exact hnumber.fits
  | @edit name number field args index e _ hnumber hedit =>
    cases e with
    | kind k => exact hnumber.fits
    | scope s => exact hnumber.fits
    | letters s =>
      -- The letters are a word of the line, or none where there is no further word.
      have hs : s = args[0]?.getD [] := Edit.eq_of_read_letters hedit
      refine ⟨hnumber.fits, ?_⟩
      cases args with
      | nil => simp [hs, NoBlank]
      | cons value args =>
        have hvalue : NoBlank value := hwords value (by simp)
        simpa [hs] using hvalue

/-- **The reader of the prompt follows the grammar.** What comes of a line is what is told of its
words, and nothing else. Every edit can be typed by any name of its part, as long as its number fits
and its letters are one word or none, and what cannot be typed is just what breaks these bounds. -/
theorem read_grammar :
    (∀ (line : List Char) (r : Except CommandError Command),
      read line = r ↔ ∃ words, HasWords line words ∧ WordsRead words r) ∧
    (∀ (index : Nat) (e : Edit), (edit index e).Expressible → ∀ field ∈ e.names,
      read ([' '].intercalate
        ["set".toList, (toString (index + 1)).toList, field.toList, e.value]) =
          .ok (.edit index e)) ∧
    ∀ c : Command, (∃ line, read line = .ok c) ↔ c.Expressible := by
  refine ⟨fun _ _ => read_iff_wordsRead, fun _ _ h _ => read_set_of_expressible h, ?_⟩
  intro c
  constructor
  · rintro ⟨line, hread⟩
    obtain ⟨words, hwords, hr⟩ := read_iff_wordsRead.mp hread
    exact expressible_of_reads (fun w hw => (hwords.forall_mem w hw).2) hr
  · exact exists_line

/-- The greatest number there is, letters that could be a number, and words that stand behind those
that are read. One more is no number any longer, neither typed nor counted on. -/
theorem read_grammar_greatestNumber :
    let e : Edit := .letters "+1:É".toList
    (edit 18446744073709551614 e).Expressible ∧ "value" ∈ e.names ∧
      read "set 18446744073709551615 value +1:É".toList = .ok (.edit 18446744073709551614 e) ∧
      read "\u2003DEL\t+0010  7 now ".toList = .ok (.remove 9) ∧
      ¬ ∃ line, read line = .ok (.remove 18446744073709551615) := by
  intro e
  obtain ⟨hread, hset, hsay⟩ := read_grammar
  have hexpressible : (edit 18446744073709551614 e).Expressible := by
    constructor <;> decide
  have hfield : "value" ∈ e.names := by decide
  have hline := hset 18446744073709551614 e hexpressible "value" hfield
  refine ⟨hexpressible, hfield, ?_, ?_, ?_⟩
  · rw [← hline]
    rfl
  · have hwords : fields "\u2003DEL\t+0010  7 now ".toList =
        ["DEL".toList, "+0010".toList, "7".toList, "now".toList] := by decide +kernel
    have hname : lowercase "DEL".toList ∈ removeNames.map String.toList := by decide
    have hnumber : IsNumeral "+0010".toList 10 :=
      ⟨[0, 0, 1, 0], List.cons_ne_nil _ _, by decide, .inr rfl, by decide⟩
    exact (hread _ _).mpr ⟨_, fields_eq_iff.mp hwords, .remove hname (.place hnumber (by decide))⟩
  · rw [hsay]
    exact Nat.lt_irrefl wordLimit

end Command

end WordSieve
