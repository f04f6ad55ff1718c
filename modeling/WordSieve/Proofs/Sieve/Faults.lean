import WordSieve.Proofs.Condition.Faults
import WordSieve.Proofs.Sieve.Hits

/-!
# What a fault leaves behind

A scan goes through the corpus word by word and stops at the first one that the condition faults on.
Nothing it found up to there is kept, so sieving with a fault leaves the sieve as it was. A new
corpus is in place before it is scanned, and stays there: what then stands beside it are the hits of
the old one.
-/

set_option autoImplicit false

namespace WordSieve

namespace Condition

variable {p : Condition} {f : IndexFault} {words : List Word}

theorem FaultsFirst.scanFrom_eq (h : p.FaultsFirst words f) (place : Nat) :
    p.scanFrom place words = .error f := by
  obtain ⟨before, w, after, rfl, hbefore, hw⟩ := h
  induction before generalizing place with
  | nil => simp [scanFrom, hw]
  | cons v before ih =>
    have hv := hbefore.eval_eq List.mem_cons_self
    have hrest : p.RunsOn before := fun u hu => hbefore u (List.mem_cons_of_mem v hu)
    simp [scanFrom, hv, ih _ hrest]

end Condition

namespace Sieve

variable {s : Sieve} {p : Condition} {f : IndexFault}

theorem sift_of_faultsFirst (h : p.FaultsFirst s.corpus.toList f) : s.sift p = (s, some f) := by
  rw [sift, Condition.scan_eq_scanFrom, h.scanFrom_eq]

theorem sift_eq_some_iff : (s.sift p).2 = some f ↔ p.FaultsFirst s.corpus.toList f := by
  constructor
  · intro h
    rcases p.runsOn_or_faultsFirst s.corpus.toList with hruns | ⟨f', hfirst⟩
    · simp [sift_of_runsOn hruns] at h
    · rw [sift_of_faultsFirst hfirst] at h
      rwa [← Option.some.inj h]
  · intro h
    rw [sift_of_faultsFirst h]

theorem sift_ne_none_iff :
    (s.sift p).2 ≠ none ↔ ∃ w ∈ s.corpus.toList, ∃ f, p.eval w = .error f := by
  rw [← Condition.not_runsOn_iff]
  rcases p.runsOn_or_faultsFirst s.corpus.toList with hruns | ⟨f, hfirst⟩
  · simp [sift_of_runsOn hruns, hruns]
  · obtain ⟨w, hw, hf⟩ := hfirst.exists_mem
    have hnot : ¬ p.RunsOn s.corpus.toList := Condition.not_runsOn_iff.mpr ⟨w, hw, f, hf⟩
    simp [sift_of_faultsFirst hfirst, hnot]

theorem sift_of_ne_none (h : (s.sift p).2 ≠ none) : (s.sift p).1 = s := by
  obtain ⟨f, hf⟩ := Option.ne_none_iff_exists'.mp h
  rw [sift_of_faultsFirst (sift_eq_some_iff.mp hf)]

/-- **Faults, and what they leave behind.** Running a condition gives its plain truth or a fault,
and a fault just where it comes to a test of a place that no word has. A condition without such a
test never faults. A sieve faults where the condition faults on some word of its corpus, and tells
the fault of the first such word; then it is as it was before, but for a corpus that was put in
place by the same call. -/
theorem faults_leave_results :
    (∀ (p : Condition) (w : Word),
      (p.eval w = .ok (p.holds w) ∨ ∃ f, p.eval w = .error f) ∧
      (∀ f, p.eval w = .error f ↔
        ∃ index letter, p.Reaches w (.letterAt index letter) ∧ wordLength ≤ index ∧
          f = ⟨wordLength, index⟩) ∧
      (p.Within → p.eval w = .ok (p.holds w))) ∧
    ∀ (s : Sieve) (p : Condition),
      ((s.sift p).2 ≠ none ↔ ∃ w ∈ s.corpus.toList, ∃ f, p.eval w = .error f) ∧
      (∀ f, (s.sift p).2 = some f ↔ p.FaultsFirst s.corpus.toList f) ∧
      ((s.sift p).2 ≠ none → (s.sift p).1 = s) ∧
      ∀ corpus : List Word,
        ((s.setCorpus corpus p).2 ≠ none ↔ ∃ w ∈ corpus, ∃ f, p.eval w = .error f) ∧
        (∀ f, (s.setCorpus corpus p).2 = some f ↔ p.FaultsFirst corpus f) ∧
        ((s.setCorpus corpus p).2 ≠ none →
          (s.setCorpus corpus p).1 = { s with corpus := corpus.toArray }) := by
  refine ⟨fun p w => ?_, fun s p => ?_⟩
  · exact ⟨p.eval_eq_holds_or_error w, fun f => Condition.eval_eq_error_iff, fun h => h.eval_eq w⟩
  · refine ⟨sift_ne_none_iff, fun f => sift_eq_some_iff, sift_of_ne_none, fun corpus => ?_⟩
    exact ⟨sift_ne_none_iff, fun f => sift_eq_some_iff, sift_of_ne_none⟩

/-- The test of the place 7 is not looked at in a word with a `z`. -/
theorem faults_leave_results_lateTest :
    let p : Condition := .any [.contains 'z', .not (.letterAt 7 'x')]
    let s := ofCorpus (wordsOf ["zesty".toList]) 1
    let corpus := wordsOf ["zesty".toList, "crane".toList, "angle".toList]
    (Condition.not (.letterAt 4 'e')).Within ∧
      (∀ w, (Condition.not (.letterAt 4 'e')).eval w =
        .ok ((Condition.not (.letterAt 4 'e')).holds w)) ∧
      (s.sift p).2 = none ∧ (s.setCorpus corpus p).2 = some ⟨5, 7⟩ ∧
      (s.setCorpus corpus p).1 = { s with corpus := corpus.toArray } ∧
      ((s.setCorpus corpus p).1.sift p).1 = (s.setCorpus corpus p).1 := by
  intro p s corpus
  obtain ⟨hcondition, hsieve⟩ := faults_leave_results
  have hwithin : (Condition.not (.letterAt 4 'e')).Within := .not (.letterAt 'e' (by decide))
  have hset : (s.setCorpus corpus p).2 = some ⟨5, 7⟩ := by decide
  obtain ⟨-, -, -, hreplaced⟩ := hsieve s p
  obtain ⟨-, -, hleft⟩ := hreplaced corpus
  obtain ⟨-, -, hsame, -⟩ := hsieve (s.setCorpus corpus p).1 p
  refine ⟨hwithin, fun w => ?_, by decide, hset, hleft ?_, hsame (by decide)⟩
  · exact (hcondition _ w).2.2 hwithin
  · rw [hset]
    exact Option.some_ne_none _

end Sieve

end WordSieve
