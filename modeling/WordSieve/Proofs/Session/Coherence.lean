import WordSieve.Proofs.Condition.Shape
import WordSieve.Proofs.Session.History
import WordSieve.Proofs.Sieve.Hits

/-!
# Results belong to their condition

Criteria, condition, sieve and corpus of a session change at different moments: edits change the
criteria at once and the rest later, and a corpus may arrive between the two. `Session.Coherent` is
what holds at every moment all the same. The results are those of the condition in place, the
condition is that of the criteria which the last recompute found, and while nothing is pending those
are the criteria in place.

The invariant speaks of the history only to name the criteria of the last recompute. That no change
is left out while nothing is pending is a part of its own: it makes a flush enough to bring the
display up to date.
-/

set_option autoImplicit false

namespace WordSieve

namespace Session

open Condition

/-- The parts of a session agree, after the history `log` of a session that began with the criteria
`initial`. -/
structure Coherent (initial : List Criterion) (log : List Entry) (s : Session) : Prop where
  /-- The sieve holds the result of the condition on the corpus in place. -/
  sifted : s.sieve.Sifted s.condition
  /-- The condition is that of the criteria which the last recompute found. -/
  settled_eq : s.condition = ofCriteria (settled initial log)
  /-- While nothing is pending no change of the criteria is left out. -/
  idle : s.isPending = false → s.condition = ofCriteria s.criteria.items
  /-- A corpus that is said to be loaded is in place. -/
  loaded : ∀ n, s.status = .loaded n → n = s.sieve.corpus.size

variable {s : Session} {initial : List Criterion} {log : List Entry}

/-! ## The beginning -/

theorem coherent_start (config : SessionConfig) :
    Coherent (start config).criteria.items [] (start config) :=
  { sifted := Sieve.sifted_ofCorpus [] config.pageSize
    settled_eq := rfl
    idle := fun _ => rfl
    loaded := fun n hn => absurd hn (by simp [start]) }

/-- What a session is supplied with keeps it coherent, whatever is pending: a corpus that arrives
is sieved with the condition in place. -/
theorem Coherent.supplied {t : Session} (h : Coherent initial log s) (hst : Supplied s t) :
    Coherent initial log t := by
  cases hst with
  | same => exact h
  | awaitCorpus => exact ⟨h.sifted, h.settled_eq, h.idle, fun n hn => LoadStatus.noConfusion hn⟩
  | receiveCorpus outcome =>
    cases outcome with
    | ok words =>
      refine ⟨Sieve.sifted_setCorpus _ words h.sifted.within, h.settled_eq, h.idle, fun n hn => ?_⟩
      have hsize : words.length = n := LoadStatus.loaded.inj hn
      rw [receiveCorpus, Sieve.corpus_setCorpus, ← hsize, List.size_toArray]
    | error reason => exact ⟨h.sifted, h.settled_eq, h.idle, fun n hn => LoadStatus.noConfusion hn⟩
  | more => exact ⟨h.sifted.more, h.settled_eq, h.idle, h.loaded⟩

theorem Fresh.coherent (h : s.Fresh) : Coherent s.criteria.items [] s := by
  cases h with
  | start config => exact coherent_start config
  | ofCorpus corpus config => exact (coherent_start config).supplied (.receiveCorpus (.ok corpus))

/-! ## One event -/

/-- A recompute makes a session coherent if its status is right, whatever else it held. -/
theorem coherent_recompute {x : Entry} (hrec : x.isRecompute = true)
    (hcriteria : x.criteria = s.criteria.items)
    (hloaded : ∀ n, s.status = .loaded n → n = s.sieve.corpus.size) :
    Coherent initial (log ++ [x]) s.recompute := by
  refine ⟨Sieve.sifted_sift _ (within_ofCriteria _), ?_, fun _ => rfl, fun n hn => ?_⟩
  · rw [settled_concat, if_pos hrec, hcriteria]
    rfl
  · rw [hloaded n hn, recompute, Sieve.corpus_sift]

/-- An event that runs no recompute leaves the criteria of the last one where they were. -/
theorem Coherent.concat {x : Entry} (h : Coherent initial log s) (hrec : x.isRecompute = false) :
    Coherent initial (log ++ [x]) s := by
  refine ⟨h.sifted, ?_, h.idle, h.loaded⟩
  rw [settled_concat, if_neg (by rw [hrec]; exact Bool.false_ne_true)]
  exact h.settled_eq

theorem Coherent.accept (h : Coherent initial log s) (now : Micros) (criteria : Criteria) :
    Coherent initial log (s.accept now criteria) :=
  { sifted := h.sifted
    settled_eq := h.settled_eq
    -- A change is pending from the moment it is put in place.
    idle := fun hpending => absurd hpending (by simp [Session.accept, isPending, Timer.isPending,
      Timer.schedule])
    loaded := h.loaded }

/-- Every event keeps a session coherent. -/
theorem Coherent.after (h : Coherent initial log s) (e : Event) :
    Coherent initial (log ++ [s.entry e]) (s.after e) := by
  rcases after_cases s e with ⟨hrec, heq⟩ | ⟨hrec, now, -, heq⟩ | ⟨hrec, -, -, hsupplied⟩
  · have hcriteria : (s.entry e).criteria = (e.applyTo s.criteria).items :=
      congrArg Criteria.items (criteria_after s e)
    rw [heq]
    exact coherent_recompute hrec hcriteria h.loaded
  · rw [heq]
    exact (h.accept now _).concat hrec
  · exact (h.supplied hsupplied).concat hrec

theorem Fresh.coherent_run (hs : s.Fresh) (events : List Event) :
    Coherent s.criteria.items (s.history events) (s.run events) :=
  run_induction hs.coherent (fun _ _ e h => h.after e) events

/-- A flush leaves nothing pending, and takes neither criteria nor corpus away. -/
theorem flush_spec (s : Session) :
    s.flush.2.isPending = false ∧ s.flush.2.criteria = s.criteria ∧
      s.flush.2.sieve.corpus = s.sieve.corpus := by
  cases h : s.isPending with
  | true =>
    rw [flush_of_pending h]
    exact ⟨rfl, rfl, Sieve.corpus_sift _ _⟩
  | false =>
    rw [flush_of_idle h]
    exact ⟨h, rfl, rfl⟩

/-- **A session is coherent at every moment.** Whatever was asked of it, and in whatever order, its
hits are in order the places of exactly those words of the corpus that its condition holds of, and
the display is a first part of them. The condition is that of the criteria which the last recompute
found, so while nothing is pending it is that of the criteria in place, and a flush brings the
results up to the criteria and the corpus in place. -/
theorem run_coherent (hs : s.Fresh) (events : List Event) :
    let t := s.run events
    (∀ w, t.condition.eval w = .ok (t.condition.holds w)) ∧
    t.sieve.hits.Pairwise (· < ·) ∧
    (∀ i, i ∈ t.sieve.hits ↔ ∃ w, t.sieve.corpus[i]? = some w ∧ t.condition.holds w = true) ∧
    (∃ results, t.sieve.results? = .ok results ∧ t.sieve.window ≤ results.length ∧
      t.sieve.displayed? = .ok (results.take t.sieve.window)) ∧
    t.condition = ofCriteria (settled s.criteria.items (s.history events)) ∧
    (t.isPending = false → t.condition = ofCriteria t.criteria.items) ∧
    (∀ n, t.status = .loaded n → n = t.sieve.corpus.size) ∧
    t.flush.2.isPending = false ∧
    let current := t.sieve.corpus.toList.filter fun w => (ofCriteria t.criteria.items).holds w
    t.flush.2.sieve.results? = .ok current ∧
      t.flush.2.sieve.displayed? = .ok (current.take t.flush.2.sieve.window) := by
  intro t
  have h : Coherent s.criteria.items (s.history events) t := hs.coherent_run events
  obtain ⟨hidle, hcriteria, hcorpus⟩ := flush_spec t
  have hflush : Coherent s.criteria.items (s.history events ++ [t.entry .flush]) t.flush.2 :=
    h.after .flush
  refine ⟨h.sifted.within.eval_eq, h.sifted.pairwise_hits, fun i => ?_, ?_, h.settled_eq, h.idle,
    h.loaded, hidle, ?_, ?_⟩
  · rw [h.sifted.mem_hits_iff]
    simp only [h.sifted.within.eval_eq, Except.ok.injEq]
  · refine ⟨_, h.sifted.results?_eq, ?_, h.sifted.displayed?_eq⟩
    have hle := h.sifted.window_le
    rw [h.sifted.hits_eq, List.length_findIdxs, List.countP_eq_length_filter] at hle
    exact hle
  · rw [hflush.sifted.results?_eq, hflush.idle hidle, hcriteria, hcorpus]
  · rw [hflush.sifted.displayed?_eq, hflush.idle hidle, hcriteria, hcorpus]

/-- Edits around a corpus that comes late: the first edit is recomputed, the second still waits when
the corpus arrives. -/
def lateCorpus : List Event :=
  [.edit 0 0 (.letters ['P']), .flush, .edit 10 0 (.letters ['b']),
   .receiveCorpus (.ok (wordsOf ["apple".toList, "amble".toList, "angle".toList, "amble".toList]))]

/-- A corpus that comes late is sieved for the first edit, and a flush then sieves it for the
second. -/
theorem run_coherent_lateCorpus :
    let s := start { pageSize := 2, delay := 50 }
    s.Fresh ∧ (s.run lateCorpus).isPending = true ∧
      (s.run lateCorpus).condition = .not (.contains 'p') ∧
      (s.run lateCorpus).sieve.hits.Pairwise (· < ·) ∧
      (s.run lateCorpus).flush.2.sieve.results? =
        .ok (wordsOf ["apple".toList, "angle".toList]) := by
  intro s
  have hs : s.Fresh := .start _
  obtain ⟨-, hsorted, -, -, hcondition, -, -, -, hresults, -⟩ := run_coherent hs lateCorpus
  exact ⟨hs, rfl, hcondition.trans rfl, hsorted, hresults.trans rfl⟩

end Session

end WordSieve
