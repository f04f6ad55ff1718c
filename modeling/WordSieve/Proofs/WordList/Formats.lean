import WordSieve.Proofs.Json.WordLists
import WordSieve.Proofs.Text.Lines
import WordSieve.Proofs.Word.Reading
import WordSieve.WordList.Lines

/-!
# One list of words in every format

The same entries can be handed over as they are, one a line, or as strings in JSON, and each of the
last two can be written in many ways. All of them load the same words: the entries of five letters
without a blank, as they are and in their order.

An entry of a line comes without the blanks around it, so only entries that have none around them
can be told from their lines. No other entry is a word, but it would become one.
-/

set_option autoImplicit false

namespace WordSieve

open Text

/-! ## Entries -/

/-- An entry that can stand on a line: it has no line feed, and no blank at either end. -/
structure Trimmed (entry : List Char) : Prop where
  oneLine : '\n' ∉ entry
  head : entry.head?.all (!isBlank ·) = true
  last : entry.getLast?.all (!isBlank ·) = true

instance (entry : List Char) : Decidable (Trimmed entry) :=
  decidable_of_iff ('\n' ∉ entry ∧ entry.head?.all (!isBlank ·) = true ∧
      entry.getLast?.all (!isBlank ·) = true)
    ⟨fun ⟨honeLine, hhead, hlast⟩ => ⟨honeLine, hhead, hlast⟩,
      fun h => ⟨h.oneLine, h.head, h.last⟩⟩

/-- Whether the entry is five characters and none of them a blank. -/
def isWord (entry : List Char) : Bool :=
  decide (entry.length = wordLength ∧ NoBlank entry)

theorem read_toOption (entry : List Char) :
    (Word.read entry).toOption.map (·.letters) = if isWord entry then some entry else none := by
  unfold isWord
  rcases Word.read_cases entry with ⟨hlength, hread⟩ | ⟨-, hblank, hread⟩ | ⟨w, hletters, hread⟩
  · rw [hread, decide_eq_false fun h => hlength h.1]
    rfl
  · rw [hread, decide_eq_false fun h => hblank h.2]
    rfl
  · obtain rfl := hletters
    rw [hread, decide_eq_true ⟨w.length_letters, w.noBlank_letters⟩]
    rfl

/-- The words of a list are its entries that are words, none of them changed. -/
theorem letters_wordsOf (entries : List (List Char)) :
    (wordsOf entries).map (·.letters) = entries.filter isWord := by
  rw [wordsOf, List.map_filterMap, ← List.filterMap_eq_filter]
  refine List.filterMap_congr fun entry _ => ?_
  rw [read_toOption]
  rfl

theorem wordsOf_append (entries entries' : List (List Char)) :
    wordsOf (entries ++ entries') = wordsOf entries ++ wordsOf entries' :=
  List.filterMap_append

/-- An entry without characters is no word, so it makes no difference whether it is passed on. -/
theorem wordsOf_filter (entries : List (List Char)) :
    wordsOf (entries.filter (!·.isEmpty)) = wordsOf entries := by
  rw [wordsOf, List.filterMap_filter]
  refine List.filterMap_congr fun entry _ => ?_
  cases entry with
  | nil => rfl
  | cons c entry => rfl

/-! ## Lines -/

/-- Blanks that stay on their line. -/
def Padding (s : List Char) : Prop :=
  ∀ c ∈ s, isBlank c = true ∧ c ≠ '\n'

instance (s : List Char) : Decidable (Padding s) :=
  List.decidableBAll _ s

/-- The line holds the entry, with any blanks around it. -/
def LineOf (entry line : List Char) : Prop :=
  ∃ before behind, Padding before ∧ Padding behind ∧ line = before ++ entry ++ behind

/-- A line feed, with or without a carriage return before it. -/
inductive LineEnd : List Char → Prop where
  | feed : LineEnd ['\n']
  | returnFeed : LineEnd ['\r', '\n']

/-- The text holds the entries one a line, and any blank lines between them. Its last line may have
no end. -/
inductive Listing : List (List Char) → List Char → Prop where
  | done {line : List Char} : LineOf [] line → Listing [] line
  | last {entry line : List Char} : LineOf entry line → Listing [entry] line
  | blank {entries : List (List Char)} {line ending rest : List Char} : LineOf [] line →
      LineEnd ending → Listing entries rest → Listing entries (line ++ ending ++ rest)
  | entry {entry : List Char} {entries : List (List Char)} {line ending rest : List Char} :
      LineOf entry line → LineEnd ending → Listing entries rest →
      Listing (entry :: entries) (line ++ ending ++ rest)

theorem dropWhile_padded {pad s : List Char} (hpad : ∀ c ∈ pad, isBlank c = true)
    (hs : s.head?.all (!isBlank ·) = true) : (pad ++ s).dropWhile isBlank = s := by
  rw [List.dropWhile_append_of_pos hpad]
  cases s with
  | nil => rfl
  | cons c s =>
    have hc : isBlank c = false := by simpa using hs
    exact List.dropWhile_cons_of_neg (Bool.eq_false_iff.mp hc)

theorem trimRight_padded {s pad : List Char} (hpad : ∀ c ∈ pad, isBlank c = true)
    (hs : s.getLast?.all (!isBlank ·) = true) : trimRight (s ++ pad) = s := by
  have hreverse : ∀ c ∈ pad.reverse, isBlank c = true := fun c hc => hpad c (List.mem_reverse.mp hc)
  have hlast : s.reverse.head?.all (!isBlank ·) = true := by
    rw [List.head?_reverse]
    exact hs
  rw [trimRight, List.reverse_append, dropWhile_padded hreverse hlast, List.reverse_reverse]

/-- A line is its entry with blanks around it. -/
theorem trim_line {entry line : List Char} (h : Trimmed entry) (hline : LineOf entry line) :
    trim line = entry := by
  obtain ⟨before, behind, hbefore, hbehind, rfl⟩ := hline
  have hblank : ∀ c ∈ before, isBlank c = true := fun c hc => (hbefore c hc).1
  have hblank' : ∀ c ∈ behind, isBlank c = true := fun c hc => (hbehind c hc).1
  rw [trim, List.append_assoc]
  by_cases hnil : entry = []
  · have hall := dropWhile_padded (s := [])
      (fun c hc => (List.mem_append.mp hc).elim (hblank c) (hblank' c)) rfl
    rw [hnil, List.nil_append, ← List.append_nil (before ++ behind), hall]
    rfl
  · have hhead : (entry ++ behind).head?.all (!isBlank ·) = true := by
      rw [List.head?_append_of_ne_nil _ hnil]
      exact h.head
    rw [dropWhile_padded hblank hhead, trimRight_padded hblank' h.last]

theorem feed_not_mem_line {entry line : List Char} (h : Trimmed entry) (hline : LineOf entry line) :
    '\n' ∉ line := by
  obtain ⟨before, behind, hbefore, hbehind, rfl⟩ := hline
  intro hmem
  rcases List.mem_append.mp hmem with hmem | hmem
  · rcases List.mem_append.mp hmem with hmem | hmem
    · exact (hbefore _ hmem).2 rfl
    · exact h.oneLine hmem
  · exact (hbehind _ hmem).2 rfl

theorem trimmed_nil : Trimmed [] :=
  ⟨List.not_mem_nil, rfl, rfl⟩

/-- A carriage return is a blank like any other, so either line end ends the same line. -/
theorem line_of_lineEnd {entry line ending : List Char} (hline : LineOf entry line)
    (hend : LineEnd ending) (rest : List Char) :
    ∃ line', LineOf entry line' ∧ line ++ ending ++ rest = line' ++ '\n' :: rest := by
  cases hend with
  | feed => exact ⟨line, hline, by rw [List.append_assoc, List.singleton_append]⟩
  | returnFeed =>
    obtain ⟨before, behind, hbefore, hbehind, rfl⟩ := hline
    have hreturn : Padding (behind ++ ['\r']) := by
      intro c hc
      rcases List.mem_append.mp hc with hc | hc
      · exact hbehind c hc
      · obtain rfl := List.mem_singleton.mp hc
        decide
    refine ⟨_, ⟨before, behind ++ ['\r'], hbefore, hreturn, rfl⟩, ?_⟩
    simp only [List.append_assoc, List.cons_append, List.nil_append]

theorem readLines_eq (content : List Char) :
    readLines content = wordsOf ((textLines content).map trim) :=
  wordsOf_filter _

theorem readLines_ended {entry line ending : List Char} (h : Trimmed entry)
    (hline : LineOf entry line) (hend : LineEnd ending) (rest : List Char) :
    readLines (line ++ ending ++ rest) = wordsOf [entry] ++ readLines rest := by
  obtain ⟨line', hline', htext⟩ := line_of_lineEnd hline hend rest
  rw [htext, readLines_eq, readLines_eq, textLines, textLines,
    splitLines_append (feed_not_mem_line h hline'), List.map_cons, trim_line h hline']
  exact wordsOf_append [entry] _

theorem readLines_last {entry line : List Char} (h : Trimmed entry) (hline : LineOf entry line) :
    readLines line = wordsOf [entry] := by
  have htrim := trim_line h hline
  rw [readLines_eq, textLines]
  by_cases hnil : line = []
  · subst hnil
    subst htrim
    rfl
  · rw [splitLines_line (feed_not_mem_line h hline) hnil, List.map_singleton, htrim]

/-- **A listing is read as the entries that it lists.** -/
theorem readLines_listing {entries : List (List Char)} {content : List Char}
    (h : ∀ entry ∈ entries, Trimmed entry) (hcontent : Listing entries content) :
    readLines content = wordsOf entries := by
  induction hcontent with
  | done hline => exact readLines_last trimmed_nil hline
  | last hline => exact readLines_last (h _ List.mem_cons_self) hline
  | blank hline hend _ ih => exact (readLines_ended trimmed_nil hline hend _).trans (ih h)
  | entry hline hend _ ih =>
    obtain ⟨hentry, hrest⟩ := List.forall_mem_cons.mp h
    rw [readLines_ended hentry hline hend, ih hrest]
    exact (wordsOf_append [_] _).symm

/-! ## Strings -/

open Json

/-- The ways to write a text as a string. -/
def Quoted (text written : List Char) : Prop :=
  ∃ body, TextWritten text body ∧ written = '"' :: (body ++ ['"'])

/-- Nothing but spaces. -/
def Spaces (s : List Char) : Prop :=
  ∀ c ∈ s, isSpace c = true

instance (s : List Char) : Decidable (Spaces s) :=
  List.decidableBAll _ s

/-- The pieces one behind the other, with any spaces around them. -/
inductive Spaced : List (List Char) → List Char → Prop where
  | nil {spaces : List Char} : Spaces spaces → Spaced [] spaces
  | cons {spaces piece rest : List Char} {pieces : List (List Char)} : Spaces spaces →
      Spaced pieces rest → Spaced (piece :: pieces) (spaces ++ piece ++ rest)

/-- The document is an object with the one member `data`, and that lists the entries. -/
def Document (entries : List (List Char)) (content : List Char) : Prop :=
  ∃ key strings, Quoted dataName key ∧ List.Forall₂ Quoted entries strings ∧
    Spaced (['{'] :: key :: [':'] :: ['['] :: (strings.intersperse [','] ++ [[']'], ['}']])) content

/-- A token that is no number is the same whatever stands around it. -/
def StandsAlone (t : Token) (written : List Char) : Prop :=
  t.Written written ∧ t.isNumber = false

theorem spelling_spaces {spaces s : List Char} {tokens : List Token}
    (hspaces : Spaces spaces) (h : Spelling tokens s) :
    Spelling tokens (spaces ++ s) := by
  induction spaces with
  | nil => exact h
  | cons c spaces ih =>
    obtain ⟨hc, hrest⟩ := List.forall_mem_cons.mp hspaces
    exact .space hc (ih hrest)

theorem spelling_spaced {tokens : List Token} {pieces : List (List Char)} {s : List Char}
    (htokens : List.Forall₂ StandsAlone tokens pieces) (h : Spaced pieces s) :
    Spelling tokens s := by
  induction htokens generalizing s with
  | nil =>
    cases h with
    | nil hspaces => exact List.append_nil s ▸ spelling_spaces hspaces .nil
  | cons htoken _ ih =>
    cases h with
    | cons hspaces hrest =>
      obtain ⟨hwritten, hnumber⟩ := htoken
      rw [List.append_assoc]
      refine spelling_spaces hspaces (.token hwritten ?_ (ih hrest))
      exact fun htrue => absurd (htrue.symm.trans hnumber) Bool.noConfusion

theorem commas_singletons (ts : List Token) : commas (ts.map ([·])) = ts.intersperse .comma := by
  induction ts with
  | nil => rfl
  | cons t ts ih =>
    cases ts with
    | nil => exact commas_singleton [t]
    | cons t' ts =>
      have hne : (t' :: ts).map ([·]) ≠ [] := List.cons_ne_nil _ _
      rw [List.map_cons, commas_cons _ hne, ih, List.intersperse_cons_cons]
      rfl

theorem forall₂_intersperse {α β : Type} {R : α → β → Prop} {a : α} {b : β} (hab : R a b)
    {xs : List α} {ys : List β} (h : List.Forall₂ R xs ys) :
    List.Forall₂ R (xs.intersperse a) (ys.intersperse b) := by
  induction h with
  | nil => exact .nil
  | cons hxy htail ih =>
    cases htail with
    | nil => exact .cons hxy .nil
    | cons _ _ =>
      rw [List.intersperse_cons_cons, List.intersperse_cons_cons]
      exact .cons hxy (.cons hab ih)

theorem Quoted.token {text written : List Char} (h : Quoted text written) :
    ∃ parts, StandsAlone (.string parts none) written ∧ Means parts text := by
  obtain ⟨body, hbody, rfl⟩ := h
  obtain ⟨parts, hparts, hmeans⟩ := hbody.parts
  exact ⟨parts, ⟨.string hparts, rfl⟩, hmeans⟩

theorem tokens_of_quoted {entries strings : List (List Char)}
    (h : List.Forall₂ Quoted entries strings) :
    ∃ parts : List (List StringPart), List.Forall₂ Means parts entries ∧
      List.Forall₂ StandsAlone (parts.map fun p => .string p none) strings := by
  induction h with
  | nil => exact ⟨[], .nil, .nil⟩
  | cons hquoted _ ih =>
    obtain ⟨p, hp, hmeans⟩ := hquoted.token
    obtain ⟨parts, hall, halone⟩ := ih
    exact ⟨p :: parts, .cons hmeans hall, .cons hp halone⟩

/-- **A document is read as the entries that it lists.** -/
theorem readEntries_document {entries : List (List Char)} {content : List Char}
    (h : Document entries content) : readEntries content = .ok entries := by
  obtain ⟨key, strings, hkey, hstrings, hspaced⟩ := h
  obtain ⟨name, hname, hdata⟩ := hkey.token
  obtain ⟨parts, hmeans, halone⟩ := tokens_of_quoted hstrings
  have hcommas : commas (parts.map fun p => [Token.string p none]) =
      (parts.map fun p => Token.string p none).intersperse .comma := by
    rw [← commas_singletons, List.map_map]
    rfl
  have htokens : objectOf [⟨name, listOf (parts.map fun p => [.string p none])⟩] =
      .openBrace :: .string name none :: .colon :: .openBracket ::
        ((parts.map fun p => Token.string p none).intersperse .comma ++
          [.closeBracket, .closeBrace]) := by
    rw [← hcommas]
    simp [objectOf, listOf, Member.toTokens, commas_singleton]
  have hspelling : Spelling (objectOf [⟨name, listOf (parts.map fun p => [.string p none])⟩])
      content := by
    rw [htokens]
    refine spelling_spaced (.cons ⟨.openBrace, rfl⟩ (.cons hname (.cons ⟨.colon, rfl⟩
      (.cons ⟨.openBracket, rfl⟩ ?_)))) hspaced
    exact List.rel_append (forall₂_intersperse ⟨.comma, rfl⟩ halone)
      (.cons ⟨.closeBracket, rfl⟩ (.cons ⟨.closeBrace, rfl⟩ .nil))
  have hlist : IsWordList (objectOf [⟨name, listOf (parts.map fun p => [.string p none])⟩])
      entries :=
    ⟨[], _, [], rfl, ⟨hdata, parts, rfl, hmeans⟩, List.forall_mem_nil _⟩
  exact readEntries_shape.mpr ⟨_, hspelling, .inl hlist⟩

/-! ## Formats -/

/-- **Every format loads the same words.** Whatever entries are listed, their words are those of five
letters without a blank, as they are and in their order, and these are read from any way to write
the entries one a line and from any way to write them as strings of a document. -/
theorem formats_agree {entries : List (List Char)} (h : ∀ entry ∈ entries, Trimmed entry) :
    (wordsOf entries).map (·.letters) = entries.filter isWord ∧
      (∀ content, Listing entries content → readLines content = wordsOf entries) ∧
      ∀ content, Document entries content → readJson content = .ok (wordsOf entries) := by
  refine ⟨letters_wordsOf entries, fun content => readLines_listing h, fun content hdocument => ?_⟩
  exact readJson_eq_ok_iff.mpr ⟨entries, readEntries_document hdocument, rfl⟩

/-- Entries of every kind: with a blank inside, without a character, and with characters that JSON
has to escape or may escape in two halves. -/
def mixedEntries : List (List Char) :=
  ["apple".toList, "a b".toList, [], "\"\\𝄞éz".toList, "apple".toList]

/-- The entries one a line, every line written in another way. -/
def mixedListing : List Char :=
  "\u3000apple\t\r\n \na b\n\r\n\"\\𝄞éz \r\n\n  apple".toList

/-- The entries as strings, some of their characters escaped. -/
def mixedDocument : List Char :=
  ("\x7b \"d\\u0061ta\" :\n[\"\\u0061pple\",\"a b\" , \"\"," ++
    "\"\\\"\\\\\\uD834\\udd1e\\u00E9z\",\"apple\"]\r\x7d\n").toList

theorem mixedEntries_trimmed : ∀ entry ∈ mixedEntries, Trimmed entry := by
  decide

theorem mixedListing_lists : Listing mixedEntries mixedListing := by
  have hline : ∀ before entry behind, Padding before → Padding behind →
      LineOf entry (before ++ entry ++ behind) :=
    fun before _ behind hbefore hbehind => ⟨before, behind, hbefore, hbehind, rfl⟩
  exact .entry (hline ['\u3000'] "apple".toList ['\t'] (by decide) (by decide)) .returnFeed
    (.blank (hline [' '] [] [] (by decide) (by decide)) .feed
    (.entry (hline [] "a b".toList [] (by decide) (by decide)) .feed
    (.entry (hline [] [] [] (by decide) (by decide)) .returnFeed
    (.entry (hline [] "\"\\𝄞éz".toList [' '] (by decide) (by decide)) .returnFeed
    (.blank (hline [] [] [] (by decide) (by decide)) .feed
    (.last (hline [' ', ' '] "apple".toList [] (by decide) (by decide))))))))

theorem mixedDocument_lists : Document mixedEntries mixedDocument := by
  have hunit : ∀ {a b c d : Char} {n : Nat}, hexUnit? a b c d = some n → HexUnit [a, b, c, d] n :=
    hexUnit?_eq_some_iff.mp
  have hkey : TextWritten dataName "d\\u0061ta".toList :=
    .cons (.plain (by decide) (by decide) (by decide)) (.cons (.unit (hunit (by decide)))
      (textWritten_plain (by decide)))
  have hfirst : TextWritten "apple".toList "\\u0061pple".toList :=
    .cons (.unit (hunit (by decide))) (textWritten_plain (by decide))
  have hhalves : TextWritten "\"\\𝄞éz".toList "\\\"\\\\\\uD834\\udd1e\\u00E9z".toList :=
    .cons (.short (e := '"') (by decide)) (.cons (.short (e := '\\') (by decide)) (.cons (.pair (by decide)
      (hunit (by decide)) (hunit (by decide))) (.cons (.unit (hunit (by decide)))
        (textWritten_plain (by decide)))))
  have hplain : ∀ {s : List Char}, s.all isPlain = true → Quoted s ('"' :: (s ++ ['"'])) :=
    fun h => ⟨_, textWritten_plain h, rfl⟩
  refine ⟨_, _, ⟨_, hkey, rfl⟩, .cons ⟨_, hfirst, rfl⟩ (.cons (hplain (by decide)) (.cons
    (hplain (by decide)) (.cons ⟨_, hhalves, rfl⟩ (.cons (hplain (by decide)) .nil)))), ?_⟩
  have hspaces : ∀ spaces {piece rest : List Char} {pieces : List (List Char)}, Spaces spaces →
      Spaced pieces rest → Spaced (piece :: pieces) (spaces ++ piece ++ rest) :=
    fun _ _ _ _ => .cons
  have hnext : ∀ {piece rest : List Char} {pieces : List (List Char)}, Spaced pieces rest →
      Spaced (piece :: pieces) (piece ++ rest) :=
    fun h => .cons (List.forall_mem_nil _) h
  exact hnext (hspaces [' '] (by decide) (hspaces [' '] (by decide) (hspaces ['\n'] (by decide)
    (hnext (hnext (hnext (hspaces [' '] (by decide) (hspaces [' '] (by decide) (hnext (hnext
      (hnext (hnext (hnext (hspaces ['\r'] (by decide)
        (@Spaced.nil ['\n'] (by decide))))))))))))))))

/-- The entries load the same three words from the listing, the document and by themselves. -/
theorem formats_agree_mixed :
    (∀ entry ∈ mixedEntries, Trimmed entry) ∧ Listing mixedEntries mixedListing ∧
      Document mixedEntries mixedDocument ∧
      (wordsOf mixedEntries).map (·.letters) =
        ["apple".toList, "\"\\𝄞éz".toList, "apple".toList] ∧
      readLines mixedListing = wordsOf mixedEntries ∧
      readJson mixedDocument = .ok (wordsOf mixedEntries) := by
  obtain ⟨hletters, hlines, hjson⟩ := formats_agree mixedEntries_trimmed
  exact ⟨mixedEntries_trimmed, mixedListing_lists, mixedDocument_lists,
    hletters.trans (by decide), hlines _ mixedListing_lists, hjson _ mixedDocument_lists⟩

end WordSieve
