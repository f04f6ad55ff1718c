import Mathlib.Data.List.Induction
import WordSieve.Proofs.Sieve.Hits

/-!
# Turning pages

What a sieve shows is told by its history: the corpus last put in place, the condition it was last
sieved with, and how many pages were turned since. The window is one page for the sieving and one
for each turn, cut at the number of results, and that is a law of plain numbers: it asks nothing of
how far the sums of the machine go, as long as the results themselves are no more than it can count.

Only the last condition has to run without a fault. A fault before it leaves results of an older
corpus behind, and sieving anew clears them away.
-/

set_option autoImplicit false

namespace WordSieve

namespace Sieve

/-! ## What the history says -/

/-- The corpus that the action puts in place. -/
def Action.corpus? : Action → Option (List Word)
  | .setCorpus corpus _ => some corpus
  | .sift _ | .more => none

/-- The condition that the action sieves with. -/
def Action.condition? : Action → Option Condition
  | .sift p | .setCorpus _ p => some p
  | .more => none

/-- The corpus in place after the actions on a sieve that began with the corpus `first`. -/
def lastCorpus (first : List Word) (actions : List Action) : List Word :=
  (actions.reverse.findSome? (·.corpus?)).getD first

/-- The condition last sieved with. A sieve begins with the one that asks nothing. -/
def lastCondition (actions : List Action) : Condition :=
  (actions.reverse.findSome? (·.condition?)).getD .always

/-- How many pages were turned after the last sieving. -/
def pagesTurned (actions : List Action) : Nat :=
  (actions.reverse.takeWhile (·.condition?.isNone)).length

theorem lastCorpus_concat (first : List Word) (actions : List Action) (a : Action) :
    lastCorpus first (actions ++ [a]) = a.corpus?.getD (lastCorpus first actions) := by
  unfold lastCorpus
  cases h : a.corpus? <;> simp [h]

theorem lastCondition_concat (actions : List Action) (a : Action) :
    lastCondition (actions ++ [a]) = a.condition?.getD (lastCondition actions) := by
  unfold lastCondition
  cases h : a.condition? <;> simp [h]

theorem pagesTurned_concat (actions : List Action) (a : Action) :
    pagesTurned (actions ++ [a]) = if a.condition?.isNone then pagesTurned actions + 1 else 0 := by
  unfold pagesTurned
  cases h : a.condition? <;> simp [h]

theorem run_concat (s : Sieve) (actions : List Action) (a : Action) :
    s.run (actions ++ [a]) = (s.run actions).after a := by
  simp [run]

/-! ## One action -/

/-- The sieve holds the result of the condition, and the first page and `turned` more are on
display. -/
structure Paged (s : Sieve) (p : Condition) (turned : Nat) : Prop extends Found s p where
  window_eq : s.count ≤ sizeLimit → s.window = min ((turned + 1) * s.pageSize) s.count

variable {s : Sieve} {p : Condition} {turned : Nat}

theorem paged_sift (h : p.RunsOn s.corpus.toList) : (s.sift p).1.Paged p 0 := by
  refine { found_sift h with window_eq := fun _ => ?_ }
  rw [sift_of_runsOn h, Nat.zero_add, Nat.one_mul]
  rfl

/-- A sum that is stopped at the largest size is stopped past the results. -/
theorem window_more (h : s.count ≤ sizeLimit) :
    s.more.window = min (s.window + s.pageSize) s.count := by
  show min (min (s.window + s.pageSize) sizeLimit) s.count = _
  omega

theorem Paged.more (h : s.Paged p turned) : s.more.Paged p (turned + 1) := by
  refine { h.toFound.more with window_eq := fun hcount => ?_ }
  have hsum : (turned + 1 + 1) * s.pageSize = (turned + 1) * s.pageSize + s.pageSize :=
    Nat.succ_mul _ _
  calc s.more.window
      = min (s.window + s.pageSize) s.count := window_more hcount
    _ = min (min ((turned + 1) * s.pageSize) s.count + s.pageSize) s.count := by
        rw [h.window_eq hcount]
    _ = min ((turned + 1 + 1) * s.pageSize) s.count := by
        rw [hsum]
        omega

/-! ## All actions -/

variable {corpus : List Word} {actions : List Action}

theorem pageSize_run (s : Sieve) (actions : List Action) :
    (s.run actions).pageSize = s.pageSize := by
  induction actions using List.reverseRecOn with
  | nil => rfl
  | append_singleton actions a ih =>
    rw [run_concat, ← ih]
    cases a with
    | sift p => exact pageSize_sift _ p
    | setCorpus corpus p => exact pageSize_sift _ p
    | more => rfl

theorem corpus_run (corpus : List Word) (pageSize : Nat) (actions : List Action) :
    ((ofCorpus corpus pageSize).run actions).corpus.toList = lastCorpus corpus actions := by
  induction actions using List.reverseRecOn with
  | nil => rfl
  | append_singleton actions a ih =>
    rw [run_concat, lastCorpus_concat]
    cases a with
    | sift p => simpa [after, Action.corpus?, corpus_sift] using ih
    | setCorpus corpus p => simp [after, Action.corpus?, corpus_setCorpus]
    | more => exact ih

/-- Whatever was done before, a last condition that runs without a fault decides what is found. -/
theorem paged_run (pageSize : Nat)
    (h : (lastCondition actions).RunsOn (lastCorpus corpus actions)) :
    ((ofCorpus corpus pageSize).run actions).Paged (lastCondition actions)
      (pagesTurned actions) := by
  -- The last action is a sieving, which needs nothing from before it, or one more page.
  induction actions using List.reverseRecOn with
  | nil => exact paged_sift h
  | append_singleton actions a ih =>
    rw [lastCondition_concat, lastCorpus_concat] at h
    rw [run_concat, lastCondition_concat, pagesTurned_concat]
    cases a with
    | sift p =>
      refine paged_sift (p := p) ?_
      rw [corpus_run]
      exact h
    | setCorpus corpus' p => exact paged_sift (p := p) h
    | more => exact (ih h).more

/-- **The paging law.** After any sievings, replaced corpora and turned pages the results are the
words of the corpus in place that the last condition holds of, in their order and with repetitions.
On display are as many of them from the first on as the pages turned since come to, and one page
more than those turned. Once all are on display another page changes nothing, and until then there
is more to show. -/
theorem run_paging (corpus : List Word) (pageSize : Nat) (actions : List Action)
    (hruns : (lastCondition actions).RunsOn (lastCorpus corpus actions)) :
    let s := (ofCorpus corpus pageSize).run actions
    let results := (lastCorpus corpus actions).filter fun w => (lastCondition actions).holds w
    (∀ w ∈ lastCorpus corpus actions,
      (lastCondition actions).eval w = .ok ((lastCondition actions).holds w)) ∧
    s.corpus.toList = lastCorpus corpus actions ∧
    s.results? = .ok results ∧
    s.displayed? = .ok (results.take s.window) ∧
    (results.length ≤ sizeLimit →
      s.window = min ((pagesTurned actions + 1) * max 1 pageSize) results.length ∧
      s.more.window = min ((pagesTurned actions + 2) * max 1 pageSize) results.length ∧
      (s.window = results.length → s.more = s)) ∧
    s.window ≤ results.length ∧
    (s.hasMore = true ↔ s.window < results.length) := by
  intro s results
  have h : s.Paged (lastCondition actions) (pagesTurned actions) := paged_run pageSize hruns
  have hcorpus : s.corpus.toList = lastCorpus corpus actions := corpus_run corpus pageSize actions
  have hsize : s.pageSize = max 1 pageSize := pageSize_run _ actions
  have hcount : s.count = results.length := by
    rw [count, h.hits_eq, hcorpus, List.length_findIdxs, List.countP_eq_length_filter]
  refine ⟨fun w hw => hruns.eval_eq hw, hcorpus, ?_, ?_, fun hfits => ?_, ?_, ?_⟩
  · rw [h.results?_eq, hcorpus]
  · rw [h.displayed?_eq, hcorpus]
  · rw [← hcount] at hfits ⊢
    rw [← hsize]
    refine ⟨h.window_eq hfits, h.more.window_eq hfits, fun hall => ?_⟩
    have hsame : s.more.window = s.window := by
      rw [window_more hfits, hall]
      omega
    exact congrArg (fun window => { s with window }) hsame
  · rw [← hcount]
    exact h.window_le
  · rw [← hcount, hasMore, decide_eq_true_iff]
    rfl

/-- A word list with a repetition. -/
def repetitive : List Word :=
  wordsOf ["apple".toList, "table".toList, "apple".toList, "amble".toList]

/-- Two sievings with a page turned between them, and two pages after the second. Its condition
names a place that no word has, and looks at it only in words without an `a`. -/
def browsing : List Action :=
  [.sift (.contains 'z'), .more, .setCorpus repetitive (.any [.contains 'a', .letterAt 9 'q']),
   .more, .more]

/-- Pages of one word each, as a page size of 0 gives them, and pages of the largest size. -/
theorem run_paging_browsing :
    let first := wordsOf ["zesty".toList]
    let s := (ofCorpus first 0).run browsing
    let t := (ofCorpus first sizeLimit).run browsing
    (lastCondition browsing).RunsOn (lastCorpus first browsing) ∧
      pagesTurned browsing = 2 ∧
      s.results? = .ok repetitive ∧ s.displayed? = .ok (repetitive.take 3) ∧
      s.window = 3 ∧ s.more.window = 4 ∧ s.hasMore = true ∧
      t.window = 4 ∧ t.more = t ∧ t.displayed? = .ok repetitive := by
  intro first s t
  have hruns : (lastCondition browsing).RunsOn (lastCorpus first browsing) := by
    have hall : ∀ w ∈ repetitive, w.has 'a' = true := by decide
    intro w hw
    refine ⟨true, ?_⟩
    have heval : (Condition.contains 'a').eval w = .ok true := congrArg Except.ok (hall w hw)
    show Condition.evalAny w [.contains 'a', .letterAt 9 'q'] = .ok true
    rw [Condition.evalAny, heval]
  have hfits : repetitive.length ≤ sizeLimit := by decide
  obtain ⟨-, -, hresults, hdisplayed, hlaw, -, hmore⟩ := run_paging first 0 browsing hruns
  obtain ⟨-, -, -, hdisplayedT, hlawT, -, -⟩ := run_paging first sizeLimit browsing hruns
  obtain ⟨hwindow, hnext, -⟩ := hlaw hfits
  obtain ⟨hwindowT, -, hallT⟩ := hlawT hfits
  have hs : s.window = 3 := hwindow.trans rfl
  have ht : t.window = 4 := hwindowT.trans (by decide)
  refine ⟨hruns, rfl, hresults, ?_, hs, hnext.trans rfl, hmore.mpr ?_, ht, hallT ht, ?_⟩
  · exact hdisplayed.trans (by rw [hs]; rfl)
  · rw [hs]
    decide
  · exact hdisplayedT.trans (by rw [ht]; rfl)

end Sieve

end WordSieve
