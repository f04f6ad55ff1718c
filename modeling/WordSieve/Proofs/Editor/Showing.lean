import WordSieve.Proofs.Editor.Operations
import WordSieve.Proofs.Session.Coherence
import WordSieve.Proofs.Session.Recomputes

/-!
# What a tick shows

A tick may replace the results in two ways, by a corpus that it takes in and by a recompute, and it
may do both. The results are then sieved anew in either way, and their first page is on display, no
matter how many pages were turned before. How far they are scrolled is not part of the sieve. The
editor goes back to the first row where it recomputes, but a corpus alone leaves the rows scrolled
past as they were, so rows that were passed before there were any results stay passed.
-/

set_option autoImplicit false

namespace WordSieve

/-! ## The sieve -/

namespace Sieve

variable {s : Sieve} {p : Condition}

/-- The first page of the results is on display, and no more. -/
def OnFirstPage (s : Sieve) : Prop :=
  s.window = min s.pageSize s.count

theorem onFirstPage_sift (s : Sieve) (h : p.Within) : (s.sift p).1.OnFirstPage := by
  rw [sift_eq s h]
  rfl

/-- What the first page shows. -/
theorem Found.firstPage (h : s.Found p) (hpage : s.OnFirstPage) :
    ∃ results, s.results? = .ok results ∧ s.window = min s.pageSize results.length ∧
      s.displayed? = .ok (results.take s.pageSize) := by
  have hcount : s.count = (s.corpus.toList.filter fun w => p.holds w).length := by
    rw [count, h.hits_eq, List.length_findIdxs, List.countP_eq_length_filter]
  have hwindow := hpage
  rw [OnFirstPage, hcount] at hwindow
  refine ⟨_, h.results?_eq, hwindow, ?_⟩
  rw [h.displayed?_eq, hwindow, ← List.take_eq_take_min]

end Sieve

/-! ## The session -/

namespace Session

variable {s : Session}

theorem onFirstPage_recompute (s : Session) : s.recompute.sieve.OnFirstPage :=
  Sieve.onFirstPage_sift _ (Condition.within_ofCriteria _)

theorem onFirstPage_receiveCorpus (h : s.condition.Within) (words : List Word) :
    (s.receiveCorpus (.ok words)).sieve.OnFirstPage :=
  Sieve.onFirstPage_sift _ h

theorem Supplied.pageSize_eq {t : Session} (h : Supplied s t) :
    t.sieve.pageSize = s.sieve.pageSize := by
  cases h with
  | same | awaitCorpus | more => rfl
  | receiveCorpus outcome =>
    cases outcome with
    | ok words => exact Sieve.pageSize_sift _ _
    | error reason => rfl

theorem pageSize_after (s : Session) (e : Event) :
    (s.after e).sieve.pageSize = s.sieve.pageSize := by
  rcases after_cases s e with ⟨-, heq⟩ | ⟨-, now, -, heq⟩ | ⟨-, -, -, hsupplied⟩
  · rw [heq]
    exact Sieve.pageSize_sift _ _
  · rw [heq]
    rfl
  · exact hsupplied.pageSize_eq

theorem pageSize_run (s : Session) (events : List Event) :
    (s.run events).sieve.pageSize = s.sieve.pageSize := by
  induction events generalizing s with
  | nil => rfl
  | cons e rest ih => exact (ih (s.after e)).trans (pageSize_after s e)

end Session

/-! ## The editor -/

namespace Editor

variable {e : Editor} {now : Micros} {outcome : Option (Except LoadError (List Word))}

/-- A tick with this outcome puts a corpus in place. -/
def Delivers (e : Editor) (outcome : Option (Except LoadError (List Word))) : Prop :=
  e.awaiting = true ∧ ∃ words, outcome = some (.ok words)

/-- Taking an outcome in makes no recompute due and puts none off. -/
theorem tick_settle (e : Editor) (o : Except LoadError (List Word)) (now : Micros) :
    ((e.settle o).session.tick now).1 = (e.session.tick now).1 := by
  rw [Session.tick_fst, Session.tick_fst, timer_settle]

theorem onFirstPage_recompute (h : (e.session.tick now).1 = true) :
    (e.recompute now).session.sieve.OnFirstPage := by
  rw [Session.tick_fst] at h
  rw [recompute_eq, Session.tick_of_due h]
  exact Session.onFirstPage_recompute _

theorem sieve_recompute (h : (e.session.tick now).1 = false) :
    (e.recompute now).session.sieve = e.session.sieve := by
  rw [Session.tick_fst] at h
  rw [recompute_eq, Session.tick_of_not_due h]

/-- Only a recompute goes back to the first row. -/
theorem scroll_tick (e : Editor) (now : Micros)
    (outcome : Option (Except LoadError (List Word))) :
    (e.tick now outcome).scroll = if (e.session.tick now).1 then 0 else e.scroll := by
  rcases tick_cases e now outcome with ⟨-, htick⟩ | ⟨o, -, -, -, htick⟩
  · rw [htick, recompute_eq]
  · rw [htick, recompute_eq, tick_settle]
    rfl

theorem onFirstPage_tick (hwithin : e.session.condition.Within)
    (h : e.Delivers outcome ∨ (e.session.tick now).1 = true) :
    (e.tick now outcome).session.sieve.OnFirstPage := by
  cases hdue : (e.session.tick now).1 with
  | true =>
    rcases tick_cases e now outcome with ⟨-, htick⟩ | ⟨o, -, -, -, htick⟩
    · rw [htick]
      exact onFirstPage_recompute hdue
    · rw [htick]
      exact onFirstPage_recompute ((tick_settle e o now).trans hdue)
  | false =>
    obtain ⟨hawaiting, words, rfl⟩ := h.resolve_right (by rw [hdue]; exact Bool.false_ne_true)
    rw [tick_of_awaiting hawaiting, sieve_recompute ((tick_settle e _ now).trans hdue)]
    exact Session.onFirstPage_receiveCorpus hwithin words

theorem sieve_tick (hdelivers : ¬e.Delivers outcome) (hdue : (e.session.tick now).1 = false) :
    (e.tick now outcome).session.sieve = e.session.sieve := by
  rcases tick_cases e now outcome with ⟨-, htick⟩ | ⟨o, ho, hawaiting, -, htick⟩
  · rw [htick]
    exact sieve_recompute hdue
  · rw [htick, sieve_recompute ((tick_settle e o now).trans hdue)]
    cases o with
    | ok words => exact absurd ⟨hawaiting, words, ho⟩ hdelivers
    | error error => rfl

theorem session_run_of_fresh {s : Session} {before : List Session.Event} {source : WordSource}
    (he : e = ofSession (s.run before) ∨ e = start (s.run before) source) (events : List Event) :
    ∃ log, (e.run events).session = s.run log := by
  obtain ⟨worked, -, hworked⟩ := works_run e events
  rcases he with rfl | rfl
  · exact ⟨before ++ worked, by rw [hworked, Session.run_append]; rfl⟩
  · refine ⟨before ++ .awaitCorpus :: worked, ?_⟩
    rw [hworked, Session.run_append]
    rfl

/-- **New results are shown from their first page**, after any keys and ticks. Where a tick puts a
corpus in place or recomputes, or does both, the display is the first page of the results, however
many pages were turned before. Where it does neither, the results and their display stay. The rows
scrolled past are none after a recompute; without one they are those that were. -/
theorem run_tick_shows {s : Session} (hs : s.Fresh) {before : List Session.Event}
    {source : WordSource} {e : Editor}
    (he : e = ofSession (s.run before) ∨ e = start (s.run before) source) (events : List Event)
    (now : Micros) (outcome : Option (Except LoadError (List Word))) :
    let t := e.run events
    let u := t.tick now outcome
    (t.Delivers outcome ∨ (t.session.tick now).1 = true →
      ∃ results, u.session.sieve.results? = .ok results ∧
        u.session.sieve.window = min s.sieve.pageSize results.length ∧
        u.session.sieve.displayed? = .ok (results.take s.sieve.pageSize)) ∧
    (¬t.Delivers outcome → (t.session.tick now).1 = false →
      u.session.sieve = t.session.sieve) ∧
    u.scroll = if (t.session.tick now).1 then 0 else t.scroll := by
  intro t u
  obtain ⟨log, hlog⟩ := session_run_of_fresh he events
  have hsame : e.run (events ++ [.tick now outcome]) = u := run_concat e events _
  obtain ⟨log', hlog'⟩ := session_run_of_fresh he (events ++ [.tick now outcome])
  have hcoherent := hs.coherent_run log
  rw [← hlog] at hcoherent
  have hcoherent' := hs.coherent_run log'
  rw [hsame] at hlog'
  rw [← hlog'] at hcoherent'
  have hsize : u.session.sieve.pageSize = s.sieve.pageSize := by
    rw [hlog', Session.pageSize_run]
  refine ⟨fun h => ?_, sieve_tick, scroll_tick t now outcome⟩
  have hpage := onFirstPage_tick hcoherent.sifted.within h
  rw [← hsize]
  exact hcoherent'.sifted.toFound.firstPage hpage

/-- Four words of which an excluded `z` leaves three. -/
def fourWords : List Word :=
  wordsOf ["apple".toList, "zesty".toList, "amble".toList, "angle".toList]

/-- A letter is typed, and then rows and pages are passed, all while the words are still loading. -/
def earlyPaging : List Event :=
  [Key.enter, .char 'z', .escape, .pageDown, .char 'm'].map fun key =>
    .press 0 key { control := false, alt := false, shift := false }

/-- A tick that takes the words in and recomputes too shows the first two of the three results, from
their first row. -/
theorem run_tick_shows_earlyPaging :
    let s := Session.start { pageSize := 2, delay := 0 }
    let t := (start (s.run []) .embedded).run earlyPaging
    let u := t.tick 9 (some (.ok fourWords))
    s.Fresh ∧ t.Delivers (some (.ok fourWords)) ∧ (t.session.tick 9).1 = true ∧ t.scroll = 5 ∧
      u.scroll = 0 ∧ u.session.sieve.window = 2 ∧
      u.session.sieve.displayed? = .ok (wordsOf ["apple".toList, "amble".toList]) := by
  intro s t u
  have hs : s.Fresh := .start _
  have hdelivers : t.Delivers (some (.ok fourWords)) := ⟨by decide +kernel, _, rfl⟩
  have hdue : (t.session.tick 9).1 = true := by decide +kernel
  have hstart : start (s.run []) .embedded = ofSession (s.run []) ∨
      start (s.run []) .embedded = start (s.run []) .embedded := .inr rfl
  obtain ⟨hpage, -, hscroll⟩ := run_tick_shows hs hstart earlyPaging 9 (some (.ok fourWords))
  obtain ⟨results, hresults, hwindow, hdisplayed⟩ := hpage (.inl hdelivers)
  have hthree : u.session.sieve.results? =
      .ok (wordsOf ["apple".toList, "amble".toList, "angle".toList]) := by
    decide +kernel
  have hu : u = ((start (s.run []) .embedded).run earlyPaging).tick 9 (some (.ok fourWords)) := rfl
  rw [hu, hresults, Except.ok.injEq] at hthree
  rw [hthree] at hwindow hdisplayed
  rw [hu, hscroll, hwindow, hdisplayed, hdue]
  exact ⟨hs, hdelivers, rfl, by decide +kernel, rfl, rfl, rfl⟩

/-- Words that arrive after rows were scrolled past are shown from the sixth row. -/
theorem load_keeps_scroll :
    let e := (start (Session.start { pageSize := 2, delay := 0 }) .embedded).press 0 .pageDown
      { control := false, alt := false, shift := false }
    let u := e.tick 1 (some (.ok fourWords))
    e.Delivers (some (.ok fourWords)) ∧ u.session.sieve.count = 4 ∧
      u.session.sieve.window = 2 ∧ u.scroll = 5 ∧ u.scroll ≠ 0 := by
  intro e u
  have hscroll : u.scroll = 5 := by decide +kernel
  refine ⟨⟨rfl, _, rfl⟩, by decide +kernel, by decide +kernel, hscroll, ?_⟩
  rw [hscroll]
  decide

end Editor

end WordSieve
