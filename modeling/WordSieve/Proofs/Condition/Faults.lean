import WordSieve.Proofs.Condition.Running

/-!
# Faults of a condition

A test of a place that no word has does no harm by standing in a condition. It is a fault of those
words on which the condition comes to look at it, and whether it does hangs on the terms before it:
in `Condition.Reaches` a term of a conjunction is looked at once all terms before it came out true,
and one of a disjunction once all came out false. So the order of terms matters to faults, but to
nothing else.
-/

set_option autoImplicit false

namespace WordSieve

namespace Condition

/-- Running the condition on the word comes to the part. -/
inductive Reaches (w : Word) : Condition → Condition → Prop where
  | here (p : Condition) : Reaches w p p
  | all {before after : List Condition} {t part : Condition} :
      (∀ b ∈ before, b.eval w = .ok true) → Reaches w t part →
      Reaches w (.all (before ++ t :: after)) part
  | any {before after : List Condition} {t part : Condition} :
      (∀ b ∈ before, b.eval w = .ok false) → Reaches w t part →
      Reaches w (.any (before ++ t :: after)) part
  | not {inner part : Condition} : Reaches w inner part → Reaches w (.not inner) part

variable {w : Word} {p part : Condition} {f : IndexFault}

theorem eval_letterAt_eq_error_iff {index : Nat} {letter : Char} :
    (letterAt index letter).eval w = .error f ↔ wordLength ≤ index ∧ f = ⟨wordLength, index⟩ := by
  rw [eval]
  by_cases h : index < wordLength
  · have hlt : index < w.letters.length := by rw [w.length_letters]; exact h
    simp [Word.letterAt_of_lt hlt, Nat.not_le_of_lt h]
  · have hle : wordLength ≤ index := Nat.le_of_not_lt h
    simp [Word.letterAt_of_le hle, hle, eq_comm]

/-- A fault of a part that running comes to is a fault of the whole. -/
theorem Reaches.eval_eq_error (h : Reaches w p part) (hpart : part.eval w = .error f) :
    p.eval w = .error f := by
  induction h with
  | here p => exact hpart
  | all hbefore _ ih =>
    rw [eval, evalAll_eq_evalWhile, evalWhile_append hbefore]
    simp [evalWhile, ih hpart]
  | any hbefore _ ih =>
    rw [eval, evalAny_eq_evalWhile, evalWhile_append hbefore]
    simp [evalWhile, ih hpart]
  | not _ ih => simp [eval, ih hpart]

/-- The first term that gives something else than `go` is the one at fault. -/
theorem exists_of_evalWhile_eq_error {go : Bool} {terms : List Condition}
    (h : evalWhile w go terms = .error f) :
    ∃ before t after, terms = before ++ t :: after ∧ (∀ b ∈ before, b.eval w = .ok go) ∧
      t.eval w = .error f := by
  rcases evalWhile_cases w go terms with ⟨-, heval⟩ | ⟨before, t, after, hterms, hbefore, -, heval⟩
  · rw [heval] at h
    cases h
  · exact ⟨before, t, after, hterms, hbefore, heval.symm.trans h⟩

/-- A fault comes from a test that running comes to. -/
theorem exists_reaches_of_eval_eq_error (h : p.eval w = .error f) :
    ∃ index letter, Reaches w p (.letterAt index letter) ∧
      (letterAt index letter).eval w = .error f := by
  induction p with
  | always => cases h
  | contains letter => cases h
  | letterAt index letter => exact ⟨index, letter, .here _, h⟩
  | not inner ih =>
    have hinner : inner.eval w = .error f := by
      rw [eval] at h
      cases hi : inner.eval w with
      | ok b => simp [hi] at h
      | error f' => simpa [hi] using h
    obtain ⟨index, letter, hreaches, htest⟩ := ih hinner
    exact ⟨index, letter, .not hreaches, htest⟩
  | all terms ih =>
    rw [eval, evalAll_eq_evalWhile] at h
    obtain ⟨before, t, after, rfl, hbefore, ht⟩ := exists_of_evalWhile_eq_error h
    obtain ⟨index, letter, hreaches, htest⟩ := ih t (by simp) ht
    exact ⟨index, letter, .all hbefore hreaches, htest⟩
  | any terms ih =>
    rw [eval, evalAny_eq_evalWhile] at h
    obtain ⟨before, t, after, rfl, hbefore, ht⟩ := exists_of_evalWhile_eq_error h
    obtain ⟨index, letter, hreaches, htest⟩ := ih t (by simp) ht
    exact ⟨index, letter, .any hbefore hreaches, htest⟩

/-- **A condition faults on a word just where running it comes to a test past the word's end.** -/
theorem eval_eq_error_iff :
    p.eval w = .error f ↔
      ∃ index letter, Reaches w p (.letterAt index letter) ∧ wordLength ≤ index ∧
        f = ⟨wordLength, index⟩ := by
  constructor
  · intro h
    obtain ⟨index, letter, hreaches, htest⟩ := exists_reaches_of_eval_eq_error h
    exact ⟨index, letter, hreaches, eval_letterAt_eq_error_iff.mp htest⟩
  · rintro ⟨index, letter, hreaches, htest⟩
    exact hreaches.eval_eq_error (eval_letterAt_eq_error_iff.mpr htest)

/-- There is no third thing that running can give. -/
theorem eval_eq_holds_or_error (p : Condition) (w : Word) :
    p.eval w = .ok (p.holds w) ∨ ∃ f, p.eval w = .error f := by
  cases h : p.eval w with
  | ok b => exact .inl (by rw [holds_of_eval h])
  | error f => exact .inr ⟨f, rfl⟩

/-! ## Faults of words in turn -/

/-- The fault is that of the first of the words that the condition faults on. -/
def FaultsFirst (p : Condition) (words : List Word) (f : IndexFault) : Prop :=
  ∃ before w after, words = before ++ w :: after ∧ p.RunsOn before ∧ p.eval w = .error f

theorem runsOn_or_faultsFirst (p : Condition) (words : List Word) :
    p.RunsOn words ∨ ∃ f, p.FaultsFirst words f := by
  induction words with
  | nil => exact .inl fun w hw => absurd hw List.not_mem_nil
  | cons w rest ih =>
    cases hw : p.eval w with
    | error f => exact .inr ⟨f, [], w, rest, rfl, fun v hv => absurd hv List.not_mem_nil, hw⟩
    | ok b =>
      rcases ih with hruns | ⟨f, before, v, after, rfl, hbefore, hv⟩
      · exact .inl (List.forall_mem_cons.mpr ⟨⟨b, hw⟩, hruns⟩)
      · exact .inr ⟨f, w :: before, v, after, rfl,
          List.forall_mem_cons.mpr ⟨⟨b, hw⟩, hbefore⟩, hv⟩

theorem FaultsFirst.exists_mem {words : List Word} (h : p.FaultsFirst words f) :
    ∃ w ∈ words, p.eval w = .error f := by
  obtain ⟨before, w, after, rfl, -, hw⟩ := h
  exact ⟨w, by simp, hw⟩

theorem not_runsOn_iff {words : List Word} :
    ¬ p.RunsOn words ↔ ∃ w ∈ words, ∃ f, p.eval w = .error f := by
  constructor
  · intro hnot
    rcases runsOn_or_faultsFirst p words with hruns | ⟨f, hfirst⟩
    · exact absurd hruns hnot
    · obtain ⟨w, hw, hf⟩ := hfirst.exists_mem
      exact ⟨w, hw, f, hf⟩
  · rintro ⟨w, hw, f, hf⟩ hruns
    obtain ⟨b, hb⟩ := hruns w hw
    cases hb.symm.trans hf

end Condition

end WordSieve
