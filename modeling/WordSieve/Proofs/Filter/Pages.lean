import WordSieve.Proofs.Condition.Shape
import WordSieve.Proofs.Sieve.Paging
import WordSieve.Report.Filter

/-!
# The pages of a filter run

A filter run turns pages one by one until enough are on display or no results are left, and counts
them. `FilterRequest.TurnsTo` is that loop as it stands, with no bound on its turns: it is derived
turn by turn, so a loop that went on forever would end nowhere. It does end (`Turnable.turnsTo`). A
page holds a word at least, so each turn leaves fewer results to show, and for the same reason the
count of pages never gets past the number of results, however many pages were asked for. The bound
on turns that `FilterRequest.run` sets is therefore never what stops it.

What is on display in the end is told by multiplication (`Turnable.turnPages_eq`), in plain numbers
where the sizes of a machine would not hold the product.
-/

set_option autoImplicit false

namespace WordSieve

open Condition

/-- The loop of a filter run. From a sieve with `pages` pages on display it ends with the sieve
`last` and has counted `counted` pages. -/
inductive FilterRequest.TurnsTo (request : FilterRequest) : Sieve → Nat → Sieve → Nat → Prop where
  | stop {s : Sieve} {pages : Nat} :
      ¬ (s.hasMore = true ∧ (request.all = true ∨ pages < request.pages)) →
      TurnsTo request s pages s pages
  | turn {s last : Sieve} {pages counted : Nat} :
      s.hasMore = true → request.all = true ∨ pages < request.pages →
      TurnsTo request s.more (pages + 1) last counted → TurnsTo request s pages last counted

/-- A loop ends in one way only. -/
theorem FilterRequest.TurnsTo.unique {request : FilterRequest} {s last last' : Sieve}
    {pages counted counted' : Nat} (h : request.TurnsTo s pages last counted)
    (h' : request.TurnsTo s pages last' counted') : last' = last ∧ counted' = counted := by
  induction h with
  | stop hstop =>
    cases h' with
    | stop => exact ⟨rfl, rfl⟩
    | turn hmore hasked => exact absurd ⟨hmore, hasked⟩ hstop
  | turn hmore hasked _ ih =>
    cases h' with
    | stop hstop => exact absurd ⟨hmore, hasked⟩ hstop
    | turn _ _ hrest => exact ih hrest

namespace Sieve

variable {s : Sieve} {p : Condition} {turned n : Nat} {request : FilterRequest}

/-! ## One turn -/

/-- Pages can be turned one by one: each holds a word at least, and the results are no more than can
be counted. -/
structure Turnable (s : Sieve) (p : Condition) (turned : Nat) : Prop extends Paged s p turned where
  page_pos : 0 < s.pageSize
  count_le : s.count ≤ sizeLimit

theorem Turnable.window (h : s.Turnable p turned) :
    s.window = min ((turned + 1) * s.pageSize) s.count :=
  h.window_eq h.count_le

theorem Turnable.more (h : s.Turnable p turned) : s.more.Turnable p (turned + 1) :=
  { h.toPaged.more with page_pos := h.page_pos, count_le := h.count_le }

theorem hasMore_iff : s.hasMore = true ↔ s.window < s.count :=
  decide_eq_true_iff

/-- While results are left every page on display shows a word. -/
theorem Turnable.turned_lt (h : s.Turnable p turned) (hmore : s.hasMore = true) :
    turned < s.window := by
  have hlt := hasMore_iff.mp hmore
  have hwindow := h.window
  have hpages : turned + 1 ≤ (turned + 1) * s.pageSize := Nat.le_mul_of_pos_right _ h.page_pos
  omega

/-- Every turn makes progress. -/
theorem Turnable.window_lt (h : s.Turnable p turned) (hmore : s.hasMore = true) :
    s.window < s.more.window := by
  have hlt := hasMore_iff.mp hmore
  have hpage := h.page_pos
  rw [window_more h.count_le]
  omega

/-! ## All turns -/

theorem turnPages_of_not_hasMore (h : s.hasMore = false) : s.turnPages n = s := by
  cases n with
  | zero => rfl
  | succ n => exact if_neg (by rw [h]; exact Bool.false_ne_true)

/-- Turning pages changes nothing but the display, which gets one page longer each time until it
shows all results. -/
theorem Turnable.turnPages_eq (h : s.Turnable p turned) :
    s.turnPages n = { s with window := min ((turned + 1 + n) * s.pageSize) s.count } := by
  induction n generalizing s turned with
  | zero =>
    rw [Nat.add_zero, ← h.window]
    rfl
  | succ n ih =>
    cases hmore : s.hasMore with
    | true =>
      have hturn : s.turnPages (n + 1) = s.more.turnPages n := if_pos hmore
      have hpages : turned + 1 + (n + 1) = turned + 1 + 1 + n := by omega
      rw [hturn, ih h.more, hpages]
      rfl
    | false =>
      have hall : ¬ s.window < s.count := by rw [← hasMore_iff, hmore]; exact Bool.false_ne_true
      have hwindow := h.window
      have hgrow : (turned + 1) * s.pageSize ≤ (turned + 1 + (n + 1)) * s.pageSize :=
        Nat.mul_le_mul_right _ (Nat.le_add_right _ _)
      have hsame : s.window = min ((turned + 1 + (n + 1)) * s.pageSize) s.count := by omega
      rw [turnPages_of_not_hasMore hmore, ← hsame]

/-- **The loop ends.** A bound on the turns that does not go beyond the pages asked for, and that is
enough to show all results wherever it falls short of them, stops where the loop stops. The count of
pages stays within the results. -/
theorem Turnable.turnsTo (h : s.Turnable p turned)
    (hasked : request.all = false → n ≤ request.pages - (turned + 1))
    (henough : request.all = true ∨ n < request.pages - (turned + 1) → s.count ≤ s.window + n) :
    ∃ counted, request.TurnsTo s (turned + 1) (s.turnPages n) counted ∧
      counted ≤ max (turned + 1) s.count := by
  induction n generalizing s turned with
  | zero =>
    refine ⟨turned + 1, .stop ?_, Nat.le_max_left _ _⟩
    rintro ⟨hmore, hmeant⟩
    have hlt := hasMore_iff.mp hmore
    have hall := henough (hmeant.imp id Nat.sub_pos_of_lt)
    omega
  | succ n ih =>
    cases hmore : s.hasMore with
    | false =>
      rw [turnPages_of_not_hasMore hmore]
      refine ⟨turned + 1, .stop fun hgoes => ?_, Nat.le_max_left _ _⟩
      exact absurd (hmore.symm.trans hgoes.1) Bool.false_ne_true
    | true =>
      have hlt := hasMore_iff.mp hmore
      have hturned := h.turned_lt hmore
      have hprogress := h.window_lt hmore
      have hmeant : request.all = true ∨ turned + 1 < request.pages := by
        cases hall : request.all with
        | true => exact .inl rfl
        | false => exact .inr (by have hpages := hasked hall; omega)
      have hturn : s.turnPages (n + 1) = s.more.turnPages n := if_pos hmore
      obtain ⟨counted, hloop, hcounted⟩ := ih h.more
        (fun hall => by have hpages := hasked hall; omega)
        (fun hmeant => by
          have hall := henough (hmeant.imp id fun hpages => by omega)
          show s.count ≤ s.more.window + n
          omega)
      have hlarger : max (turned + 1 + 1) s.count ≤ max (turned + 1) s.count := by omega
      rw [hturn]
      exact ⟨counted, .turn hmore hmeant hloop, Nat.le_trans hcounted hlarger⟩

/-- What is on display is looked up without a fault. -/
theorem Found.displayed?_eq_ok (h : s.Found p) : s.displayed? = .ok s.displayed :=
  wordsAt_eq fun _ hi => h.lt_size (List.mem_of_mem_take hi)

end Sieve

/-! ## The run -/

namespace FilterRequest

/-- The sieve of a filter run before the first page is turned. -/
def firstPage (request : FilterRequest) (corpus : List Word) (config : SessionConfig) : Sieve :=
  ((Session.ofCorpus corpus config).setCriteria request.criteria).sieve

theorem corpus_firstPage (request : FilterRequest) (corpus : List Word) (config : SessionConfig) :
    (request.firstPage corpus config).corpus = corpus.toArray :=
  (Sieve.corpus_sift _ _).trans (Sieve.corpus_setCorpus _ corpus _)

theorem pageSize_firstPage (request : FilterRequest) (corpus : List Word)
    (config : SessionConfig) :
    (request.firstPage corpus config).pageSize = max 1 config.pageSize :=
  (Sieve.pageSize_sift _ _).trans (Sieve.pageSize_sift _ _)

theorem count_firstPage (request : FilterRequest) (corpus : List Word) (config : SessionConfig) :
    (request.firstPage corpus config).count =
      (corpus.filter fun w => (ofCriteria request.criteria).holds w).length := by
  have hfound : (request.firstPage corpus config).Found (ofCriteria request.criteria) :=
    Sieve.found_sift ((within_ofCriteria _).runsOn _)
  rw [Sieve.count, hfound.hits_eq, corpus_firstPage, List.length_findIdxs,
    List.countP_eq_length_filter]

theorem turnable_firstPage (request : FilterRequest) {corpus : List Word}
    (h : corpus.length ≤ Sieve.sizeLimit) (config : SessionConfig) :
    (request.firstPage corpus config).Turnable (ofCriteria request.criteria) 0 := by
  refine { Sieve.paged_sift ((within_ofCriteria _).runsOn _) with page_pos := ?_, count_le := ?_ }
  · show 0 < (request.firstPage corpus config).pageSize
    rw [pageSize_firstPage]
    omega
  · show (request.firstPage corpus config).count ≤ Sieve.sizeLimit
    rw [count_firstPage]
    exact Nat.le_trans (List.length_filter_le _ _) h

/-- How many turns a filter run allows. -/
def turns (request : FilterRequest) (s : Sieve) : Nat :=
  if request.all then s.count else min (request.pages - 1) s.count

/-- The turns that are allowed show as many pages as were asked for, or all. -/
theorem window_turns (request : FilterRequest) {s : Sieve} (hpage : 0 < s.pageSize) :
    min ((1 + request.turns s) * s.pageSize) s.count =
      if request.all then s.count else min (max request.pages 1 * s.pageSize) s.count := by
  have hcount : s.count ≤ (1 + s.count) * s.pageSize :=
    Nat.le_trans (Nat.le_add_left _ _) (Nat.le_mul_of_pos_right _ hpage)
  unfold turns
  split
  case isTrue => exact Nat.min_eq_right hcount
  case isFalse =>
    rcases Nat.le_total (request.pages - 1) s.count with hle | hge
    · have hpages : 1 + (request.pages - 1) = max request.pages 1 := by omega
      rw [Nat.min_eq_left hle, hpages]
    -- More pages are asked for than there are results, and then all are shown either way.
    · have hpages : 1 + s.count ≤ max request.pages 1 := by omega
      have hmost := Nat.le_trans hcount (Nat.mul_le_mul_right s.pageSize hpages)
      rw [Nat.min_eq_right hge, Nat.min_eq_right hcount, Nat.min_eq_right hmost]

/-- The sieve of a filter run after the last page is turned. -/
def lastPage (request : FilterRequest) (corpus : List Word) (config : SessionConfig) : Sieve :=
  (request.firstPage corpus config).turnPages (request.turns (request.firstPage corpus config))

/-- The loop ends where the run stops turning pages. -/
theorem turnsTo_lastPage (request : FilterRequest) {corpus : List Word}
    (h : corpus.length ≤ Sieve.sizeLimit) (config : SessionConfig) :
    ∃ counted, request.TurnsTo (request.firstPage corpus config) 1
        (request.lastPage corpus config) counted ∧
      counted ≤ max 1 (request.firstPage corpus config).count := by
  refine (request.turnable_firstPage h config).turnsTo (fun hall => ?_) fun hmeant => ?_
  · have hturns : request.turns (request.firstPage corpus config) =
        min (request.pages - 1) (request.firstPage corpus config).count := by
      rw [turns, hall]
      rfl
    rw [hturns]
    exact Nat.min_le_left _ _
  · cases hall : request.all with
    | true => simp [turns, hall]
    | false =>
      simp only [turns, hall, Bool.false_eq_true, if_false, false_or] at hmeant ⊢
      omega

theorem lastPage_eq (request : FilterRequest) {corpus : List Word}
    (h : corpus.length ≤ Sieve.sizeLimit) (config : SessionConfig) :
    request.lastPage corpus config =
      { request.firstPage corpus config with
        window :=
          if request.all then (request.firstPage corpus config).count
          else min (max request.pages 1 * max config.pageSize 1)
            (request.firstPage corpus config).count } := by
  have hfirst := request.turnable_firstPage h config
  have hpageSize : (request.firstPage corpus config).pageSize = max config.pageSize 1 :=
    (request.pageSize_firstPage corpus config).trans (Nat.max_comm 1 _)
  rw [lastPage, hfirst.turnPages_eq, Nat.zero_add, request.window_turns hfirst.page_pos,
    ← hpageSize]

theorem found_lastPage (request : FilterRequest) {corpus : List Word}
    (h : corpus.length ≤ Sieve.sizeLimit) (config : SessionConfig) :
    (request.lastPage corpus config).Found (ofCriteria request.criteria) := by
  have hfirst := request.turnable_firstPage h config
  rw [lastPage_eq request h]
  refine ⟨hfirst.runs, hfirst.hits_eq, ?_⟩
  show (if request.all then _ else _) ≤ (request.firstPage corpus config).count
  split
  · exact Nat.le_refl _
  · exact Nat.min_le_right _ _

end FilterRequest

/-- The line that says how many more results there are stands at the end of a report just when there
are any. -/
theorem FilterResult.report_eq {r : FilterResult} {left : Nat}
    (hleft : r.shown.length + left = r.matching) (hmore : r.hasMore = true ↔ left ≠ 0) :
    r.report = { r with hasMore := false }.report ++
      if left = 0 then [] else [[], [plain s!"   … {left} more (use --pages or --all)"]] := by
  have hfigure : r.matching - r.shown.length = left := by omega
  cases hr : r.hasMore with
  | true =>
    have hsome : left ≠ 0 := hmore.mp hr
    simp [report, hr, hfigure, hsome]
  | false =>
    have hnone : left = 0 := by simpa [hr] using hmore
    simp [report, hr, hnone]

/-- **A filter run shows the pages it was asked for**, from a corpus that is no longer than a size can
say. The loop that turns them ends, with a count of pages that stays within the results, and the
result is that of the sieve it ends with. The condition is that of the criteria and the number of
matches that of the words it holds of. Shown are the first of them in the order of the corpus, as
many as the pages hold, or all. There is more to show just when fewer are shown than match, and the
report ends in the number of those that are not. -/
theorem FilterRequest.run_shows (request : FilterRequest) (corpus : List Word)
    (config : SessionConfig) (h : corpus.length ≤ Sieve.sizeLimit) :
    let condition := ofCriteria request.criteria
    let matching := corpus.filter fun w => condition.holds w
    let result := request.run corpus config
    (∃ s pages, request.TurnsTo (request.firstPage corpus config) 1 s pages) ∧
    (∀ s pages, request.TurnsTo (request.firstPage corpus config) 1 s pages →
      pages ≤ max 1 matching.length ∧ s.displayed? = .ok result.shown ∧
      result =
        { criteria := request.criteria, condition, corpusSize := s.corpus.size,
          matching := s.count, shown := s.displayed, hasMore := s.hasMore }) ∧
    (∀ w, condition.eval w = .ok (condition.holds w)) ∧
    result.condition = condition ∧
    result.corpusSize = corpus.length ∧
    result.matching = matching.length ∧
    result.shown = matching.take
      (if request.all then matching.length
        else min (max request.pages 1 * max config.pageSize 1) matching.length) ∧
    (result.hasMore = true ↔ result.shown.length < result.matching) ∧
    ∃ left, result.shown.length + left = result.matching ∧
      result.report = { result with hasMore := false }.report ++
        if left = 0 then [] else [[], [plain s!"   … {left} more (use --pages or --all)"]] := by
  intro condition matching result
  let first := request.firstPage corpus config
  let last := request.lastPage corpus config
  have hlast : last = { first with window := _ } := request.lastPage_eq h config
  have hfound : last.Found condition := request.found_lastPage h config
  have hcount : first.count = matching.length := request.count_firstPage corpus config
  have hmatching : last.count = matching.length := by rw [← hcount, hlast]; rfl
  have hcorpus : last.corpus = corpus.toArray := by
    rw [hlast]
    exact request.corpus_firstPage corpus config
  have hshown : last.displayed = matching.take last.window := by
    have hdisplayed := hfound.displayed?_eq
    rw [hfound.displayed?_eq_ok, hcorpus] at hdisplayed
    exact Except.ok.inj hdisplayed
  have hwindow : last.displayed.length = last.window := by
    rw [hshown, List.length_take, Nat.min_eq_left (hmatching ▸ hfound.window_le)]
  have hmore : last.hasMore = true ↔ last.displayed.length < last.count := by
    rw [hwindow]
    exact Sieve.hasMore_iff
  have hleft : last.displayed.length + (last.count - last.displayed.length) = last.count :=
    Nat.add_sub_cancel' (hwindow ▸ hfound.window_le)
  obtain ⟨pages, hloop, hpages⟩ := request.turnsTo_lastPage h config
  refine ⟨⟨last, pages, hloop⟩, fun s pages' hloop' => ?_, (within_ofCriteria _).eval_eq, rfl,
    ?_, hmatching, ?_, hmore, _, hleft, FilterResult.report_eq hleft ?_⟩
  · obtain ⟨rfl, rfl⟩ := hloop.unique hloop'
    exact ⟨hcount ▸ hpages, hfound.displayed?_eq_ok, rfl⟩
  · show last.corpus.size = corpus.length
    rw [hcorpus, List.size_toArray]
  · show last.displayed = _
    rw [hshown, hlast, ← hcount]
  · show last.hasMore = true ↔ _
    rw [hmore]
    omega

/-- Two pages of one word each, which a page size of 0 gives, and as many of the largest pages as can
be asked for. -/
theorem FilterRequest.run_shows_twoPages :
    let corpus := wordsOf
      ["apple".toList, "cloud".toList, "amble".toList, "angle".toList, "apple".toList]
    let two : FilterRequest :=
      { criteria := [.make .includes ['A'] .whole], pages := 2, all := false }
    let most : FilterRequest := { two with pages := Sieve.sizeLimit }
    let r := two.run corpus { pageSize := 0, delay := 0 }
    let t := most.run corpus { pageSize := Sieve.sizeLimit, delay := 0 }
    corpus.length ≤ Sieve.sizeLimit ∧
      (∃ s pages, two.TurnsTo (two.firstPage corpus { pageSize := 0, delay := 0 }) 1 s pages) ∧
      r.matching = 4 ∧ r.shown = wordsOf ["apple".toList, "amble".toList] ∧ r.hasMore = true ∧
      r.report = { r with hasMore := false }.report ++
        [[], [plain "   … 2 more (use --pages or --all)"]] ∧
      t.shown = wordsOf ["apple".toList, "amble".toList, "angle".toList, "apple".toList] ∧
      t.hasMore = false := by
  intro corpus two most r t
  have hsize : corpus.length ≤ Sieve.sizeLimit := by decide
  obtain ⟨hends, -, -, -, -, hmatching, hshown, hmore, left, hleft, hreport⟩ :=
    two.run_shows corpus { pageSize := 0, delay := 0 } hsize
  obtain ⟨-, -, -, -, -, hmatchingT, hshownT, hmoreT, -⟩ :=
    most.run_shows corpus { pageSize := Sieve.sizeLimit, delay := 0 } hsize
  have hfour : r.matching = 4 := hmatching.trans (by decide +kernel)
  have htwo : r.shown = wordsOf ["apple".toList, "amble".toList] := hshown.trans (by decide +kernel)
  have hlength : r.shown.length = 2 := by rw [htwo]; rfl
  have hsum : r.shown.length + left = r.matching := hleft
  have hless : r.shown.length < r.matching := by rw [hlength, hfour]; decide
  rw [hlength, hfour] at hsum
  obtain rfl : left = 2 := Nat.add_left_cancel hsum
  refine ⟨hsize, hends, hfour, htwo, hmore.mpr hless, hreport, ?_, ?_⟩
  · exact hshownT.trans (by decide +kernel)
  · rw [Bool.eq_false_iff, Ne, hmoreT, hshownT, hmatchingT]
    decide +kernel

end WordSieve
