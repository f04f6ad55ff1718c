import Mathlib.Algebra.Order.BigOperators.Group.List
import Mathlib.Algebra.Order.Ring.Nat
import WordSieve.Proofs.Benchmark.Draws
import WordSieve.Proofs.Condition.Shape
import WordSieve.Proofs.Condition.Tests
import WordSieve.Proofs.Sieve.Hits

/-!
# The figures of a benchmark

A share of the trials keeps one sieve for all of them, so a trial finds what the one before it left
behind. Nothing of that reaches its outcome: sieving anew looks at the corpus alone, and no trial
changes the corpus. The outcome of a trial is therefore a function of corpus and criteria
(`Outcome.ofTrial`), and how the trials are dealt out to shares makes no difference.

The figures are those of the outcomes (`Summary.SumsUp`). What they have to do with each other
(`Summary.Consistent`) then follows from bounds on single outcomes: no more words match than there
are, and a trial has a test at least and three for each criterion at most.
-/

set_option autoImplicit false

namespace WordSieve.Benchmark

open Condition

variable {corpus : List Word}

/-! ## Outcomes -/

/-- What a trial comes to, told without a sieve: how many words of the corpus the condition of its
criteria holds of, and how many letters the criteria have. -/
def Outcome.ofTrial (corpus : List Word) (criteria : List Criterion) : Outcome :=
  { matching := corpus.countP fun w => (ofCriteria criteria).holds w
    atoms := (criteria.map (·.letters.length)).sum }

/-- The sieve that is left after trials. -/
def sieveAfter (s : Sieve) (trials : List (List Criterion)) : Sieve :=
  trials.foldl (fun s criteria => (runTrial s criteria).2) s

theorem corpus_runTrial (s : Sieve) (criteria : List Criterion) :
    (runTrial s criteria).2.corpus = s.corpus :=
  Sieve.corpus_sift s _

theorem corpus_sieveAfter (s : Sieve) (trials : List (List Criterion)) :
    (sieveAfter s trials).corpus = s.corpus := by
  induction trials generalizing s with
  | nil => rfl
  | cons criteria rest ih => exact (ih _).trans (corpus_runTrial s criteria)

theorem corpus_ofCorpus (corpus : List Word) (pageSize : Nat) :
    (Sieve.ofCorpus corpus pageSize).corpus = corpus.toArray :=
  Sieve.corpus_sift _ _

/-- Whatever the sieve was used for before, the outcome is that of the trial on its corpus. -/
theorem runTrial_fst {s : Sieve} (h : s.corpus = corpus.toArray) (criteria : List Criterion) :
    (runTrial s criteria).1 = .ofTrial corpus criteria := by
  have hcount : (s.sift (ofCriteria criteria)).1.count =
      corpus.countP fun w => (ofCriteria criteria).holds w := by
    rw [Sieve.sift_eq s (within_ofCriteria criteria), Sieve.count, h, List.length_findIdxs]
  simp only [runTrial, hcount, atoms_ofCriteria, Outcome.ofTrial]

theorem runShare_eq {s : Sieve} (h : s.corpus = corpus.toArray) (trials : List (List Criterion)) :
    runShare s trials = trials.map (.ofTrial corpus) := by
  induction trials generalizing s with
  | nil => rfl
  | cons criteria rest ih =>
    have hrest := ih ((corpus_runTrial s criteria).trans h)
    show (runTrial s criteria).1 :: runShare (runTrial s criteria).2 rest = _
    rw [hrest, runTrial_fst h, List.map_cons]

/-- **The outcomes do not depend on how the trials are dealt out.** -/
theorem runShares_eq (corpus : List Word) (shares : List (List (List Criterion))) :
    runShares corpus shares = shares.flatten.map (.ofTrial corpus) := by
  have hshare :
      runShare (Sieve.ofCorpus corpus Sieve.standardPageSize) = List.map (.ofTrial corpus) :=
    funext (runShare_eq (corpus_ofCorpus corpus _))
  rw [runShares, hshare, List.map_flatten, List.flatMap_def]

/-! ## Sums -/

/-- The figures are those of the outcomes: the fewest and the most words that match are reached in
some trial and never passed, the totals are sums, and the empty trials are counted. -/
structure Summary.SumsUp (s : Summary) (outcomes : List Outcome) : Prop where
  trials : s.trials = outcomes.length
  exists_fewest : outcomes ≠ [] → ∃ o ∈ outcomes, o.matching = s.fewest
  fewest_le : ∀ o ∈ outcomes, s.fewest ≤ o.matching
  exists_most : outcomes ≠ [] → ∃ o ∈ outcomes, o.matching = s.most
  le_most : ∀ o ∈ outcomes, o.matching ≤ s.most
  of_nil : outcomes = [] → s.fewest = 0 ∧ s.most = 0
  totalMatching : s.totalMatching = (outcomes.map (·.matching)).sum
  totalAtoms : s.totalAtoms = (outcomes.map (·.atoms)).sum
  empty : s.empty = outcomes.countP (·.matching == 0)

/-- How the figures of a benchmark hang together, where no trial has more than `limit` tests. A
total is an average times the number of trials, so the first two say that the average number of
matching words lies between the fewest and the most. -/
structure Summary.Consistent (s : Summary) (limit : Nat) : Prop where
  fewest_le : s.fewest * s.trials ≤ s.totalMatching
  le_most : s.totalMatching ≤ s.most * s.trials
  most_le : s.most ≤ s.corpusSize
  empty_le : s.empty ≤ s.trials
  empty_pos : 0 < s.empty ↔ 0 < s.trials ∧ s.fewest = 0
  le_atoms : s.trials ≤ s.totalAtoms
  atoms_le : s.totalAtoms ≤ limit * s.trials
  of_none : s.trials = 0 → s.fewest = 0 ∧ s.most = 0 ∧ s.totalMatching = 0 ∧ s.totalAtoms = 0 ∧
    s.empty = 0

/-- A sum lies between bounds on its terms, each taken as often as there are terms. -/
theorem sum_bounds (counts : List Nat) {low high : Nat} (hlow : ∀ n ∈ counts, low ≤ n)
    (hhigh : ∀ n ∈ counts, n ≤ high) :
    low * counts.length ≤ counts.sum ∧ counts.sum ≤ high * counts.length := by
  have hmin : counts.length * low ≤ counts.sum := counts.card_nsmul_le_sum low hlow
  have hmax : counts.sum ≤ counts.length * high := counts.sum_le_card_nsmul high hhigh
  rw [Nat.mul_comm low, Nat.mul_comm high]
  exact ⟨hmin, hmax⟩

/-- What is picked from the counts is the count of some outcome. -/
theorem exists_matching {outcomes : List Outcome} {pick : Option Nat} (hsome : pick ≠ none)
    (hmem : ∀ {n}, pick = some n → n ∈ outcomes.map (·.matching)) :
    ∃ o ∈ outcomes, o.matching = pick.getD 0 := by
  obtain ⟨n, rfl⟩ := Option.ne_none_iff_exists'.mp hsome
  exact List.mem_map.mp (hmem rfl)

theorem sumsUp_summarize (size : Nat) (outcomes : List Outcome) :
    (summarize size outcomes).SumsUp outcomes := by
  have hcounts (hne : outcomes ≠ []) : outcomes.map (·.matching) ≠ [] := by
    intro hnil
    exact hne (List.map_eq_nil_iff.mp hnil)
  have hsums (f : Outcome → Nat) :
      outcomes.foldr (fun o n => f o + n) 0 = (outcomes.map f).sum := by
    rw [List.sum_eq_foldr, List.foldr_map]
  refine
    { trials := rfl
      exists_fewest := ?_
      fewest_le := ?_
      exists_most := ?_
      le_most := ?_
      of_nil := ?_
      totalMatching := List.sum_eq_foldr.symm
      totalAtoms := hsums (·.atoms)
      empty := List.countP_map }
  · intro hne
    apply exists_matching _ List.min?_mem
    exact mt List.min?_eq_none_iff.mp (hcounts hne)
  · intro o ho
    exact List.min?_getD_le_of_mem (List.mem_map_of_mem ho)
  · intro hne
    apply exists_matching _ List.max?_mem
    exact mt List.max?_eq_none_iff.mp (hcounts hne)
  · intro o ho
    exact List.le_max?_getD_of_mem (List.mem_map_of_mem ho)
  · rintro rfl
    exact ⟨rfl, rfl⟩

/-- Bounds on single outcomes are all it takes for their figures to hang together. -/
theorem Summary.SumsUp.consistent {s : Summary} {outcomes : List Outcome} {limit : Nat}
    (h : s.SumsUp outcomes)
    (hbounds : ∀ o ∈ outcomes, o.matching ≤ s.corpusSize ∧ 1 ≤ o.atoms ∧ o.atoms ≤ limit) :
    s.Consistent limit := by
  have htotal := sum_bounds (outcomes.map (·.matching))
    (List.forall_mem_map.mpr h.fewest_le) (List.forall_mem_map.mpr h.le_most)
  have hatoms := sum_bounds (outcomes.map (·.atoms))
    (List.forall_mem_map.mpr fun o ho => (hbounds o ho).2.1)
    (List.forall_mem_map.mpr fun o ho => (hbounds o ho).2.2)
  rw [List.length_map, ← h.trials, ← h.totalMatching] at htotal
  rw [List.length_map, ← h.trials, ← h.totalAtoms, Nat.one_mul] at hatoms
  refine
    { fewest_le := htotal.1
      le_most := htotal.2
      most_le := ?_
      empty_le := ?_
      empty_pos := ?_
      le_atoms := hatoms.1
      atoms_le := hatoms.2
      of_none := ?_ }
  · by_cases hnil : outcomes = []
    · rw [(h.of_nil hnil).2]
      exact Nat.zero_le _
    · obtain ⟨o, ho, hmost⟩ := h.exists_most hnil
      rw [← hmost]
      exact (hbounds o ho).1
  · rw [h.empty, h.trials]
    exact List.countP_le_length
  · rw [h.empty, h.trials, List.countP_pos_iff]
    constructor
    · rintro ⟨o, ho, hzero⟩
      have hfewest : s.fewest ≤ 0 := (h.fewest_le o ho).trans_eq (beq_iff_eq.mp hzero)
      exact ⟨List.length_pos_of_mem ho, Nat.le_zero.mp hfewest⟩
    · rintro ⟨hpos, hzero⟩
      obtain ⟨o, ho, hfewest⟩ := h.exists_fewest (List.ne_nil_of_length_pos hpos)
      exact ⟨o, ho, beq_iff_eq.mpr (hfewest.trans hzero)⟩
  · intro hnone
    obtain rfl : outcomes = [] := List.length_eq_zero_iff.mp (h.trials.symm.trans hnone)
    obtain ⟨hfewest, hmost⟩ := h.of_nil rfl
    exact ⟨hfewest, hmost, h.totalMatching, h.totalAtoms, h.empty⟩

/-- A trial has a test at least and three for each of its criteria at most. -/
theorem IsTrial.atoms {most : Nat} {criteria : List Criterion} (h : IsTrial most criteria)
    (corpus : List Word) :
    1 ≤ (Outcome.ofTrial corpus criteria).atoms ∧
      (Outcome.ofTrial corpus criteria).atoms ≤ 3 * max 1 most := by
  have hbounds := sum_bounds (criteria.map (·.letters.length))
    (List.forall_mem_map.mpr fun c hc => (h.drawn c hc).one_le)
    (List.forall_mem_map.mpr fun c hc => (h.drawn c hc).le_three)
  rw [List.length_map] at hbounds
  have hone := h.one_le
  have hmost := h.le_most
  show 1 ≤ (criteria.map (·.letters.length)).sum ∧ (criteria.map (·.letters.length)).sum ≤ _
  omega

/-! ## Benchmarks -/

/-- **The figures of a benchmark**, whatever the random numbers are and however the trials are dealt
out to shares. The trials are as many as were asked for, each of one criterion at least and no more
than allowed, which have letters and a kind that fits. The outcome of a trial is the number of words
that pass, also with a sieve that has run any other trials before, so the figures are those of
running all trials in one share: they sum up the outcomes, and hang together as they should. -/
theorem run_figures (corpus : List Word) (trials most : Nat) (draws : Draws)
    (shares : List (List (List Criterion)))
    (h : shares.flatten = (drawTrials most trials draws).1) :
    let drawn := (drawTrials most trials draws).1
    let s := summarize corpus.length (runShares corpus shares)
    drawn.length = trials ∧
    (∀ t ∈ drawn, (1 ≤ t.length ∧ t.length ≤ max 1 most) ∧
      ∀ c ∈ t, c.letters ≠ [] ∧ c.kind.fits c.scope = true) ∧
    (∀ t ∈ drawn, (∀ w, (ofCriteria t).eval w = .ok ((ofCriteria t).holds w)) ∧
      ∀ pageSize before,
        (runTrial (sieveAfter (Sieve.ofCorpus corpus pageSize) before) t).1.matching =
          corpus.countP fun w => (ofCriteria t).holds w) ∧
    runShares corpus shares = drawn.map (.ofTrial corpus) ∧
    s = run corpus trials most draws ∧ s.trials = trials ∧ s.corpusSize = corpus.length ∧
    s.SumsUp (drawn.map (.ofTrial corpus)) ∧ s.Consistent (3 * max 1 most) := by
  intro drawn s
  obtain ⟨hlength, htrials⟩ := (drawTrials_iff most trials drawn).mp ⟨draws, rfl⟩
  have houtcomes : runShares corpus shares = drawn.map (.ofTrial corpus) := by
    rw [runShares_eq, h]
  have hrun : run corpus trials most draws =
      summarize corpus.length (drawn.map (.ofTrial corpus)) := by
    rw [run, runShares_eq, List.flatten_singleton]
  have hs : s = summarize corpus.length (drawn.map (.ofTrial corpus)) :=
    congrArg (summarize corpus.length) houtcomes
  have hsums : s.SumsUp (drawn.map (.ofTrial corpus)) := by
    rw [hs]
    exact sumsUp_summarize _ _
  refine ⟨hlength, fun t ht => ?_, fun t _ => ⟨(within_ofCriteria t).eval_eq, ?_⟩, houtcomes,
    hs.trans hrun.symm, ?_, rfl, hsums, hsums.consistent ?_⟩
  · have htrial := htrials t ht
    exact ⟨⟨htrial.one_le, htrial.le_most⟩, fun c hc =>
      ⟨List.ne_nil_of_length_pos (htrial.drawn c hc).one_le, (htrial.drawn c hc).fits⟩⟩
  · intro pageSize before
    rw [runTrial_fst ((corpus_sieveAfter _ before).trans (corpus_ofCorpus corpus pageSize))]
    rfl
  · exact hsums.trials.trans ((List.length_map _).trans hlength)
  · refine List.forall_mem_map.mpr fun t ht => ⟨?_, (htrials t ht).atoms _⟩
    exact List.countP_le_length

/-- Numbers for three trials: without `p` but with `a` and `l`; `z` at the first position; and
without `f`. -/
def threeTrials : Draws :=
  [1, 0, 0, 0, 15, 0, 1, 1, 0, 11, 0, 1, 2, 25, 0, 0, 0, 0, 31]

theorem run_figures_threeTrials :
    let corpus := wordsOf ["apple".toList, "amble".toList, "angle".toList]
    let drawn := (drawTrials 2 3 threeTrials).1
    let shares := [drawn.take 1, [], drawn.drop 1]
    let s := summarize corpus.length (runShares corpus shares)
    shares.flatten = drawn ∧
      drawn = [[.make .excludes ['p'] .whole, .make .includes ['a', 'l'] .whole],
        [.make .equals ['z'] (.position ⟨0, by decide⟩)], [.make .excludes ['f'] .whole]] ∧
      s = run corpus 3 2 threeTrials ∧ s.SumsUp (drawn.map (.ofTrial corpus)) ∧ s.Consistent 6 ∧
      s = { trials := 3, corpusSize := 3, fewest := 0, most := 3, totalMatching := 5,
            totalAtoms := 5, empty := 1 } := by
  intro corpus drawn shares s
  have hflatten : shares.flatten = drawn := by decide +kernel
  obtain ⟨-, -, -, -, hrun, -, -, hsums, hconsistent⟩ :=
    run_figures corpus 3 2 threeTrials shares hflatten
  exact ⟨hflatten, by decide +kernel, hrun, hsums, hconsistent, by decide +kernel⟩

end WordSieve.Benchmark
