import Mathlib.Data.List.Basic
import WordSieve.Proofs.Condition.Running
import WordSieve.Sieve

/-!
# What a sieve holds

`Sieve.Found s p` says that the hits of `s` are the places of exactly those words of its corpus that
`p` holds of, in the order of the corpus, and that the display is no longer than they are. It takes
no more than that `p` faults on no word of this corpus. `Sieve.Sifted s p` asks for a `p` that never
faults, which is the invariant where the corpus may be replaced under a condition. Every operation
establishes both or keeps them, and what a sieve answers is read off the first: no look at a result
can miss the corpus.
-/

set_option autoImplicit false

namespace WordSieve

namespace Condition

variable {p : Condition}

/-- A scan that meets no fault finds the places of the words the condition holds of. -/
theorem RunsOn.scanFrom_eq {words : List Word} (h : p.RunsOn words) (place : Nat) :
    p.scanFrom place words = .ok (words.findIdxs (fun w => p.holds w) place) := by
  induction words generalizing place with
  | nil => rfl
  | cons w rest ih =>
    have hrest : p.RunsOn rest := fun v hv => h v (List.mem_cons_of_mem w hv)
    rw [scanFrom, h.eval_eq List.mem_cons_self, ih hrest (place + 1), List.findIdxs_cons]

theorem findIdxs_always (words : List Word) (place : Nat) :
    words.findIdxs (fun w => always.holds w) place = List.range' place words.length := by
  induction words generalizing place with
  | nil => rfl
  | cons w rest ih =>
    have htrue : always.holds w = true := rfl
    rw [List.findIdxs_cons, if_pos htrue, ih, List.length_cons, List.range'_succ]

/-- The condition that asks nothing takes all places unseen, which are those a scan would find. -/
theorem scan_eq_scanFrom (p : Condition) (corpus : Array Word) :
    p.scan corpus = p.scanFrom 0 corpus.toList := by
  cases p with
  | always =>
    have hscan := (Within.always.runsOn corpus.toList).scanFrom_eq 0
    rw [hscan, findIdxs_always, Array.length_toList, ← List.range_eq_range']
    rfl
  | _ => rfl

end Condition

namespace Sieve

/-- The sieve holds the result of the condition on its corpus. -/
structure Found (s : Sieve) (p : Condition) : Prop where
  /-- The condition faults on no word of the corpus. -/
  runs : p.RunsOn s.corpus.toList
  /-- The hits are the places of the words it holds of. -/
  hits_eq : s.hits = s.corpus.toList.findIdxs fun w => p.holds w
  /-- Only hits are on display. -/
  window_le : s.window ≤ s.hits.length

/-- The sieve holds the result of a condition that never faults. -/
structure Sifted (s : Sieve) (p : Condition) : Prop extends Found s p where
  within : p.Within

variable {s : Sieve} {p : Condition}

/-! ## The operations -/

theorem sift_of_runsOn (h : p.RunsOn s.corpus.toList) :
    s.sift p =
      ({ s with
          hits := s.corpus.toList.findIdxs fun w => p.holds w
          window := min s.pageSize (s.corpus.toList.findIdxs fun w => p.holds w).length }, none) := by
  rw [sift, Condition.scan_eq_scanFrom, h.scanFrom_eq]

theorem sift_eq (s : Sieve) (h : p.Within) :
    s.sift p =
      ({ s with
          hits := s.corpus.toList.findIdxs fun w => p.holds w
          window := min s.pageSize (s.corpus.toList.findIdxs fun w => p.holds w).length }, none) :=
  sift_of_runsOn (h.runsOn _)

theorem found_sift (h : p.RunsOn s.corpus.toList) : (s.sift p).1.Found p := by
  rw [sift_of_runsOn h]
  exact ⟨h, rfl, Nat.min_le_right _ _⟩

theorem sifted_sift (s : Sieve) (h : p.Within) : (s.sift p).1.Sifted p :=
  { found_sift (h.runsOn _) with within := h }

theorem corpus_sift (s : Sieve) (p : Condition) : (s.sift p).1.corpus = s.corpus := by
  unfold sift
  split <;> rfl

theorem pageSize_sift (s : Sieve) (p : Condition) : (s.sift p).1.pageSize = s.pageSize := by
  unfold sift
  split <;> rfl

/-- What was sieved before leaves no trace in what is sieved anew. -/
theorem sift_sift {q : Condition} (s : Sieve) (hp : p.Within) (hq : q.Within) :
    ((s.sift p).1.sift q).1 = (s.sift q).1 := by
  rw [sift_eq s hp, sift_eq _ hq, sift_eq s hq]

theorem sifted_setCorpus (s : Sieve) (corpus : List Word) (h : p.Within) :
    (s.setCorpus corpus p).1.Sifted p :=
  sifted_sift _ h

theorem corpus_setCorpus (s : Sieve) (corpus : List Word) (p : Condition) :
    (s.setCorpus corpus p).1.corpus = corpus.toArray :=
  corpus_sift _ p

theorem sifted_ofCorpus (corpus : List Word) (pageSize : Nat) :
    (ofCorpus corpus pageSize).Sifted .always :=
  sifted_sift _ .always

theorem Found.more (h : s.Found p) : s.more.Found p :=
  ⟨h.runs, h.hits_eq, Nat.min_le_right _ _⟩

theorem Sifted.more (h : s.Sifted p) : s.more.Sifted p :=
  { h.toFound.more with within := h.within }

/-! ## What a sieve answers -/

/-- A place is a hit when the corpus has a word there that passes. -/
theorem Found.mem_hits_iff (h : s.Found p) {i : Nat} :
    i ∈ s.hits ↔ ∃ w, s.corpus[i]? = some w ∧ p.eval w = .ok true := by
  rw [h.hits_eq, List.mem_findIdxs_iff_exists_getElem_pos]
  constructor
  · rintro ⟨hi, hholds⟩
    refine ⟨s.corpus[i], Array.getElem?_eq_getElem hi, ?_⟩
    exact (h.runs.eval_eq (List.getElem_mem hi)).trans (congrArg Except.ok hholds)
  · rintro ⟨w, hw, heval⟩
    obtain ⟨hi, rfl⟩ := Array.getElem?_eq_some_iff.mp hw
    exact ⟨hi, Condition.holds_of_eval heval⟩

theorem Found.pairwise_hits (h : s.Found p) : s.hits.Pairwise (· < ·) := by
  rw [h.hits_eq]
  exact List.pairwise_findIdxs

theorem wordsAt_eq {places : List Nat} (h : ∀ i ∈ places, i < s.corpus.size) :
    s.wordsAt places = .ok (places.filterMap (s.corpus[·]?)) := by
  induction places with
  | nil => rfl
  | cons i rest ih =>
    have hlt : i < s.corpus.size := h i List.mem_cons_self
    have hi : s.corpus[i]? = some s.corpus[i] := Array.getElem?_eq_getElem hlt
    rw [wordsAt, wordAt, hi, ih fun j hj => h j (List.mem_cons_of_mem i hj),
      List.filterMap_cons_some hi]
    rfl

/-- Looking up the places of the words that pass gives the words that pass. -/
theorem filterMap_findIdxs (words : List Word) (f : Word → Bool) :
    (words.findIdxs f).filterMap (words[·]?) = words.filter f := by
  induction words with
  | nil => rfl
  | cons w rest ih =>
    have hshift : (rest.findIdxs f 1).filterMap ((w :: rest)[·]?) = rest.filter f := by
      rw [List.findIdxs_start, List.filterMap_map, ← ih]
      rfl
    have hhead : (w :: rest)[0]? = some w := rfl
    rw [List.findIdxs_cons, List.filter_cons]
    cases f w with
    | true => rw [if_pos rfl, if_pos rfl, List.filterMap_cons_some hhead, hshift]
    | false => exact hshift

theorem Found.lt_size (h : s.Found p) {i : Nat} (hi : i ∈ s.hits) : i < s.corpus.size := by
  obtain ⟨w, hw, -⟩ := h.mem_hits_iff.mp hi
  exact (Array.getElem?_eq_some_iff.mp hw).1

/-- The results are the words of the corpus that pass, in their order and with repetitions. -/
theorem Found.results?_eq (h : s.Found p) :
    s.results? = .ok (s.corpus.toList.filter fun w => p.holds w) := by
  rw [results?, wordsAt_eq fun i hi => h.lt_size hi, h.hits_eq, ← filterMap_findIdxs]
  simp only [Array.getElem?_toList]

theorem filterMap_take {places : List Nat} (h : ∀ i ∈ places, i < s.corpus.size) :
    ∀ n, (places.take n).filterMap (s.corpus[·]?) =
      (places.filterMap (s.corpus[·]?)).take n := by
  induction places with
  | nil => intro n; simp
  | cons i rest ih =>
    intro n
    have hlt : i < s.corpus.size := h i List.mem_cons_self
    have hi : s.corpus[i]? = some s.corpus[i] := Array.getElem?_eq_getElem hlt
    cases n with
    | zero => rfl
    | succ n =>
      rw [List.take_succ_cons, List.filterMap_cons_some hi, List.filterMap_cons_some hi,
        List.take_succ_cons, ih fun j hj => h j (List.mem_cons_of_mem i hj)]

/-- The display is as many of the results as it is long. -/
theorem Found.displayed?_eq (h : s.Found p) :
    s.displayed? = .ok ((s.corpus.toList.filter fun w => p.holds w).take s.window) := by
  have hresults := h.results?_eq
  rw [results?, wordsAt_eq fun i hi => h.lt_size hi] at hresults
  rw [displayed?, wordsAt_eq fun i hi => h.lt_size (List.mem_of_mem_take hi),
    filterMap_take fun i hi => h.lt_size hi, Except.ok.inj hresults]

end Sieve

end WordSieve
