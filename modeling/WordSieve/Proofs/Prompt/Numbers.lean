import WordSieve.Proofs.Prompt.Grammar
import WordSieve.Proofs.Session.Recomputes

/-!
# The numbers of criteria

Criteria are numbered from 1 where they are shown, where a number is typed and where one is told to
be missing, and from 0 everywhere else. The three agree. A line of the report can be read back to one
number and one criterion (`criterionLine_injective`), so the number it shows belongs to one place of
the list, and that is the place a command with the number works on.
-/

set_option autoImplicit false

namespace WordSieve

open Text

/-! ## Reading a line of the report back -/

theorem toString_number_injective {n m : Nat} (h : toString n = toString m) : n = m := by
  have hdigits := congrArg String.toList h
  rw [toList_toString_number, toList_toString_number] at hdigits
  simpa using congrArg (Nat.ofDigitChars 10 · 0) hdigits

/-- A text without blanks can be told from its column. -/
theorem padRight_injective {width : Nat} {s t : List Char} (hs : NoBlank s) (ht : NoBlank t)
    (h : padRight width s = padRight width t) : s = t := by
  have hword (r : List Char) (hr : NoBlank r) :
      (padRight width r).takeWhile (fun c => !isBlank c) = r := by
    have hspaces : (spaces (width - r.length)).takeWhile (fun c => !isBlank c) = [] := by
      have hspace : isBlank ' ' = true := by decide
      cases width - r.length <;> simp [spaces, List.replicate_succ, hspace]
    have hkeep : ∀ c ∈ r, (!isBlank c) = true := by simpa [NoBlank] using hr
    rw [padRight, List.takeWhile_append_of_pos hkeep, hspaces, List.append_nil]
  rw [← hword s hs, ← hword t ht, h]

theorem length_padRight {width : Nat} {s : List Char} (h : s.length ≤ width) :
    (padRight width s).length = width := by
  simp [padRight, spaces, h]

theorem Kind.length_name_le (k : Kind) : k.name.toList.length ≤ 7 := by
  cases k <;> decide

theorem Scope.length_name_le (s : Scope) : s.name.toList.length ≤ 3 := by
  cases s with
  | whole => decide
  | position p =>
    obtain ⟨place⟩ := p
    revert place
    decide +kernel

theorem Kind.name_injective {k k' : Kind} (h : k.name.toList = k'.name.toList) : k = k' := by
  have hread := k.read_name
  rw [h, k'.read_name] at hread
  exact (Except.ok.inj hread).symm

theorem Scope.name_injective {s s' : Scope} (h : s.name.toList = s'.name.toList) : s = s' := by
  have hread := s.read_name
  rw [h, s'.read_name] at hread
  exact (Except.ok.inj hread).symm

/-- Kind and scope stand in columns that their names fit, and the letters are what is left. -/
theorem Criterion.label_injective {c d : Criterion} (h : c.label = d.label) : c = d := by
  have hkinds :
      (padRight 7 c.kind.name.toList).length = (padRight 7 d.kind.name.toList).length := by
    rw [length_padRight c.kind.length_name_le, length_padRight d.kind.length_name_le]
  have hscopes :
      (padRight 3 c.scope.name.toList).length = (padRight 3 d.scope.name.toList).length := by
    rw [length_padRight c.scope.length_name_le, length_padRight d.scope.length_name_le]
  simp only [label, List.append_assoc] at h
  obtain ⟨hkind, h⟩ := List.append_inj h hkinds
  obtain ⟨hscope, h⟩ := List.append_inj (List.append_cancel_left h) hscopes
  have hletters : c.letters = d.letters := List.append_cancel_right (List.append_cancel_left h)
  have hkind' : c.kind = d.kind :=
    Kind.name_injective (padRight_injective c.kind.noBlank_name d.kind.noBlank_name hkind)
  have hscope' : c.scope = d.scope :=
    Scope.name_injective (padRight_injective c.scope.noBlank_name d.scope.noBlank_name hscope)
  cases c
  cases d
  simp_all

theorem criterionLine_injective {n m : Nat} {c d : Criterion}
    (h : criterionLine n c = criterionLine m d) : n = m ∧ c = d := by
  obtain ⟨hnumber, hlabel⟩ := List.cons.inj h
  have hlabels : String.ofList c.label = String.ofList d.label :=
    congrArg Piece.text (List.cons.inj hlabel).1
  have hnumbers : s!"   {n}. " = s!"   {m}. " := congrArg Piece.text hnumber
  refine ⟨toString_number_injective ?_, Criterion.label_injective (String.ofList_injective hlabels)⟩
  simpa [toString, -Nat.toString_eq_repr] using hnumbers

/-- The report numbers the criteria from 1. -/
theorem criterionLine_mem_iff {n : Nat} {c : Criterion} {items : List Criterion} :
    criterionLine n c ∈ criteriaReport items ↔ ∃ i, items[i]? = some c ∧ n = i + 1 := by
  have hheading : criterionLine n c ≠ [styled .heading "Filters:"] := by
    simp [criterionLine]
  have hnone : criterionLine n c ∉
      if items.isEmpty then [[plain "   ", styled .faint "(none)"]] else [] := by
    intro hmem
    split at hmem
    · obtain ⟨hnumber, -⟩ := List.cons.inj (List.mem_singleton.mp hmem)
      have hlength : "   ".length + n.repr.length + ". ".length = "   ".length := by
        simpa [plain, styled, toString] using congrArg (String.length ∘ Piece.text) hnumber
      have hdot : ". ".length = 2 := rfl
      omega
    · exact List.not_mem_nil hmem
  simp only [criteriaReport, List.mem_append, List.mem_singleton, hheading, hnone, false_or,
    List.mem_mapIdx]
  constructor
  · rintro ⟨i, hi, hline⟩
    obtain ⟨rfl, rfl⟩ := criterionLine_injective hline
    exact ⟨i, List.getElem?_eq_getElem hi, rfl⟩
  · rintro ⟨i, hget, rfl⟩
    obtain ⟨hi, rfl⟩ := List.getElem?_eq_some_iff.mp hget
    exact ⟨i, hi, rfl⟩

/-! ## Commands with a number -/

namespace Command

/-- The line asks for a change of the criterion with the number; `put` is what is to stand in the
place of that criterion. -/
inductive AsksFor (line : List Char) (n : Nat) : (Criterion → List Criterion) → Prop
  | remove {name word : List Char} {args : List (List Char)}
      (hwords : HasWords line (name :: word :: args)) (hname : Names removeNames name)
      (hnumber : IsNumeral word n) : AsksFor line n fun _ => []
  | edit {name word field : List Char} {args : List (List Char)} {e : Edit}
      (hwords : HasWords line (name :: word :: field :: args)) (hname : Names editNames name)
      (hnumber : IsNumeral word n) (hedit : Edit.read field (args[0]?.getD []) = .ok e) :
      AsksFor line n fun c => [c.edit e]

/-- The command puts these in place of the criterion at the place. -/
inductive Puts (index : Nat) : Command → (Criterion → List Criterion) → Prop
  | remove : Puts index (.remove index) fun _ => []
  | edit (e : Edit) : Puts index (.edit index e) fun c => [c.edit e]

variable {line : List Char} {index : Nat} {c : Command} {put : Criterion → List Criterion}
  {s : Session}

theorem AsksFor.exists_read (h : AsksFor line (index + 1) put) (hfits : index + 1 < wordLimit) :
    ∃ c : Command, Puts index c put ∧ read line = .ok c := by
  cases h with
  | remove hwords hname hnumber =>
    have hreads : NumberReads (some _) (.ok index) := .place hnumber hfits
    exact ⟨_, .remove, read_iff_wordsRead.mpr ⟨_, hwords, .remove hname hreads⟩⟩
  | edit hwords hname hnumber hedit =>
    have hreads : NumberReads (some _) (.ok index) := .place hnumber hfits
    exact ⟨_, .edit _, read_iff_wordsRead.mpr ⟨_, hwords, .edit hname hreads hedit⟩⟩

theorem Puts.ne_quit (h : Puts index c put) : c ≠ .quit := by
  cases h <;> exact Command.noConfusion

/-- Where there is a criterion at the place, the others stay on both its sides, and the delay starts
anew. -/
theorem Puts.change_of_lt (h : Puts index c put) (now : Micros)
    (hlt : index < s.criteria.items.length) :
    (c.change s now).2 = none ∧
      (c.change s now).1.timer = s.timer.schedule now ∧
      (c.change s now).1.criteria =
        { items := s.criteria.items.take index ++ put s.criteria.items[index] ++
            s.criteria.items.drop (index + 1)
          revision := s.criteria.revision + 1 } := by
  cases h with
  | remove =>
    have hfinds : Criteria.Change.Finds s.criteria.items (.remove index) := hlt
    simp [change, Session.remove_of_lt hlt, Session.accept, Criteria.change_of_finds hfinds,
      Criteria.Change.applyTo, List.eraseIdx_eq_take_drop_succ]
  | edit e =>
    have hfinds : Criteria.Change.Finds s.criteria.items (.edit index e) := hlt
    simp [change, Session.edit_of_lt hlt, Session.accept, Criteria.change_of_finds hfinds,
      Criteria.Change.applyTo, List.modify_eq_take_cons_drop hlt]

theorem Puts.change_of_not_lt (h : Puts index c put) (now : Micros)
    (hlt : ¬ index < s.criteria.items.length) :
    c.change s now = (s, some (.noCriterion index)) := by
  cases h with
  | remove => simp [change, Session.remove_of_not_lt hlt]
  | edit e => simp [change, Session.edit_of_not_lt hlt]

/-- Neither command asks to see anything, so what is printed is its notice, and then the session if
its results are new. -/
theorem Puts.report_eq (h : Puts index c put) (o : Outcome) :
    o.report c = (o.notice.map Notice.report).getD [] ++
      if o.recomputed then sessionReport o.session else [] := by
  cases h with
  | remove => simp [Outcome.report]
  | edit e => simp [Outcome.report]

end Command

/-- A tick asks for nothing. -/
theorem Session.due_of_tick {s : Session} {now due : Micros}
    (h : (s.tick now).2.timer.due = some due) : s.timer.due = some due := by
  cases hdue : s.timer.isDue now with
  | true =>
    rw [tick_of_due hdue] at h
    cases h
  | false => rwa [tick_of_not_due hdue] at h

/-! ## Together -/

namespace Command

variable {line : List Char} {n : Nat} {put : Criterion → List Criterion}

/-- **The number on display is the number that is edited.** A line with any numeral from 1 up to the
greatest number there is asks for the place before that number, and counting on from the place gives
the number again, also in a machine word. If the report has a line of that number, the criterion on
it is removed or edited, the others stay on both its sides, and nothing is printed but the session,
if the delay is over with the tick that comes after every command. Otherwise the number is printed
back, and all that happens is that tick: no recompute is asked for, and the session is printed only
if an earlier change was waiting and is due. -/
theorem number_shown_edited (h : AsksFor line n put) (hpos : 1 ≤ n) (hfits : n < wordLimit)
    (s : Session) (m : Moment) :
    ∃ index command, Puts index command put ∧ read line = .ok command ∧
      index + 1 = n ∧ (UInt64.ofNat index + 1).toNat = n ∧
      let o := command.run s m
      reply s m line = { session := o.session, report := o.report command, quit := false } ∧
      (n ≤ s.criteria.items.length → ∃ before c after,
        s.criteria.items = before ++ c :: after ∧ before.length + 1 = n ∧
        (∀ d, criterionLine n d ∈ criteriaReport s.criteria.items ↔ d = c) ∧
        o.session.criteria =
          { items := before ++ put c ++ after, revision := s.criteria.revision + 1 } ∧
        o.notice = none ∧
        o.recomputed = (s.timer.schedule m.change).isDue m.tick ∧
        o.report command = if o.recomputed then sessionReport o.session else []) ∧
      (s.criteria.items.length < n →
        (∀ d, criterionLine n d ∉ criteriaReport s.criteria.items) ∧
        o.notice = some (.noCriterion index) ∧
        (Notice.noCriterion index).report = [[WordSieve.plain s!"No criterion #{n}"]] ∧
        o.recomputed = s.timer.isDue m.tick ∧
        o.report command = [[WordSieve.plain s!"No criterion #{n}"]] ++
          (if o.recomputed then sessionReport o.session else []) ∧
        o.session = (s.tick m.tick).2 ∧ o.session.criteria = s.criteria ∧
        ∀ due, o.session.timer.due = some due → s.timer.due = some due) := by
  obtain ⟨index, rfl⟩ : ∃ index, n = index + 1 := ⟨n - 1, by omega⟩
  obtain ⟨command, hputs, hread⟩ := h.exists_read hfits
  have hword : (UInt64.ofNat index + 1).toNat = index + 1 := by
    have hadd : (index + 1) % 2 ^ 64 = index + 1 := Nat.mod_eq_of_lt hfits
    rwa [UInt64.toNat_add, UInt64.toNat_ofNat', UInt64.toNat_one, Nat.mod_add_mod]
  refine ⟨index, command, hputs, hread, rfl, hword, ?_⟩
  intro o
  have ho : o = _ := run_of_ne_quit hputs.ne_quit s m
  refine ⟨reply_of_read hread hputs.ne_quit s m, fun hle => ?_, fun hlt => ?_⟩
  · have hlt : index < s.criteria.items.length := hle
    obtain ⟨hnotice, htimer, hcriteria⟩ := hputs.change_of_lt m.change hlt
    have hsilent : o.notice = none := by
      rw [ho]
      exact hnotice
    refine ⟨s.criteria.items.take index, s.criteria.items[index],
      s.criteria.items.drop (index + 1), ?_, ?_, fun d => ?_, ?_, hsilent, ?_, ?_⟩
    · rw [← List.drop_eq_getElem_cons hlt, List.take_append_drop]
    · rw [List.length_take_of_le (Nat.le_of_lt hlt)]
    · simp [criterionLine_mem_iff, List.getElem?_eq_getElem hlt, eq_comm]
    · rw [ho, ← hcriteria]
      exact Session.criteria_after _ (.tick m.tick)
    · rw [ho, ← htimer]
      exact Session.tick_fst _ m.tick
    · rw [hputs.report_eq, hsilent]
      rfl
  · have hnot : ¬ index < s.criteria.items.length := by omega
    rw [hputs.change_of_not_lt m.change hnot] at ho
    have hsaid : o.notice = some (.noCriterion index) := by
      rw [ho]
    refine ⟨fun d => ?_, hsaid, rfl, ?_, ?_, ?_, ?_, ?_⟩
    · simp [criterionLine_mem_iff, List.getElem?_eq_none (Nat.le_of_not_lt hnot)]
    · rw [ho]
      exact Session.tick_fst s m.tick
    · rw [hputs.report_eq, hsaid]
      rfl
    · rw [ho]
    · rw [ho]
      exact Session.criteria_after s (.tick m.tick)
    · rw [ho]
      exact fun due => Session.due_of_tick

/-- A number with zeros in front of it, and the greatest number there is. -/
theorem number_shown_edited_greatest :
    let q : Criterion := { kind := .excludes, letters := ['q'], scope := .whole }
    let s := (Session.start .standard).run [.add 3, .edit 4 1 (.letters ['Q']), .flush]
    let m : Moment := { change := 5, tick := 9 }
    let first := "DEL +002 now".toList
    let second := "s 18446744073709551615 value".toList
    AsksFor first 2 (fun _ => []) ∧
      (∀ d, criterionLine 2 d ∈ criteriaReport s.criteria.items ↔ d = q) ∧
      (reply s m first).session.criteria = { items := [.blank], revision := 3 } ∧
      (reply s m first).report = sessionReport (reply s m first).session ∧
      AsksFor second 18446744073709551615 (fun c => [c.edit (.letters [])]) ∧
      (reply s m second).report = [[WordSieve.plain "No criterion #18446744073709551615"]] ∧
      (reply s m second).session.criteria = s.criteria := by
  intro q s m first second
  have hfirst : AsksFor first 2 fun _ => [] := by
    have hwords : fields first = ["DEL".toList, "+002".toList, "now".toList] := by decide +kernel
    exact .remove (fields_eq_iff.mp hwords) (by decide)
      ⟨[0, 0, 2], by simp, by decide, .inr rfl, by decide⟩
  have hsecond : AsksFor second 18446744073709551615 fun c => [c.edit (.letters [])] := by
    have hwords : fields second =
        ["s".toList, "18446744073709551615".toList, "value".toList] := by decide +kernel
    exact .edit (fields_eq_iff.mp hwords) (by decide)
      ⟨[1, 8, 4, 4, 6, 7, 4, 4, 0, 7, 3, 7, 0, 9, 5, 5, 1, 6, 1, 5], by simp, by decide, .inl rfl,
        by decide⟩ rfl
  obtain ⟨_, _, -, -, -, -, hremoved, hfound, -⟩ :=
    number_shown_edited hfirst (by decide) (by decide) s m
  obtain ⟨before, c, after, hitems, hlength, hline, hcriteria, -, hdue, hshown⟩ :=
    hfound (by decide +kernel)
  obtain rfl : q = c := (hline q).mp (by decide +kernel)
  obtain ⟨_, _, -, -, -, -, hrefused, -, hmissing⟩ :=
    number_shown_edited hsecond (by decide) (by decide) s m
  obtain ⟨-, -, -, hidle, htold, -, hsame, -⟩ := hmissing (by decide +kernel)
  refine ⟨hfirst, hline, ?_, ?_, hsecond, ?_, ?_⟩
  · have hs : s.criteria = { items := [.blank, q], revision := 2 } := by decide +kernel
    obtain ⟨a, rfl⟩ := List.length_eq_one_iff.mp (Nat.succ.inj hlength)
    obtain ⟨rfl, rfl⟩ : .blank = a ∧ [] = after := by simpa [hs] using hitems
    rw [hremoved]
    exact hcriteria.trans (by rw [hs]; rfl)
  · have hover : (s.timer.schedule m.change).isDue m.tick = true := by decide +kernel
    rw [hremoved]
    exact hshown.trans (if_pos (hdue.trans hover))
  · have hnone : s.timer.isDue m.tick = false := by decide +kernel
    rw [hrefused]
    rw [hidle, hnone] at htold
    exact htold
  · rw [hrefused]
    exact hsame

end Command

end WordSieve
