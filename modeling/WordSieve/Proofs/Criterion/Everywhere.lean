import WordSieve.Proofs.Criterion.Normal
import WordSieve.Proofs.Editor.Operations

/-!
# Criteria wherever they are kept

A list of criteria, a session and an editor hold criteria that were handed in, blank ones and edited
ones, and nothing else. So what holds of every criterion that can come up holds of those in every
list, session and editor that can come up, and in particular they are all normal.

The editor's session is open to its owner, so a reachable editor may also have had its session
worked on between two keys.
-/

set_option autoImplicit false

namespace WordSieve

namespace Criteria

/-- The lists that can come up. -/
inductive Reachable : Criteria → Prop where
  | initial : Reachable .initial
  | ofList {items : List Criterion} : (∀ c ∈ items, c.Reachable) → Reachable (.ofList items)
  | change {s : Criteria} (ch : Change) : Reachable s → Reachable (s.change ch)

theorem mem_change {s : Criteria} {ch : Change} {c : Criterion} (h : c ∈ (s.change ch).items) :
    c ∈ s.items ∨ c = .blank ∨ ∃ d ∈ s.items, ∃ e, c = d.edit e := by
  cases ch with
  | add =>
    rcases List.mem_append.mp h with hold | hnew
    · exact .inl hold
    · exact .inr (.inl (List.mem_singleton.mp hnew))
  | remove index =>
    simp only [change, remove?] at h
    split at h
    · exact .inl (List.mem_of_mem_eraseIdx h)
    · exact .inl h
  | edit index e =>
    simp only [change, edit?] at h
    split at h
    · rename_i d hd
      rcases List.mem_or_eq_of_mem_set h with hold | hnew
      · exact .inl hold
      · exact .inr (.inr ⟨d, List.mem_of_getElem? hd, e, hnew⟩)
    · exact .inl h

theorem Reachable.items {s : Criteria} (h : s.Reachable) : ∀ c ∈ s.items, c.Reachable := by
  induction h with
  | initial =>
    intro c hc
    rw [List.mem_singleton.mp hc]
    exact .blank
  | ofList hitems => exact hitems
  | change ch _ ih =>
    intro c hc
    rcases mem_change hc with hold | rfl | ⟨d, hd, e, rfl⟩
    · exact ih c hold
    · exact .blank
    · exact (ih d hd).edit e

end Criteria

namespace Session

/-- Whether the criteria that the event hands in can come up. -/
def Event.HandsReachable (x : Event) : Prop :=
  ∀ items, x = .setCriteria items → ∀ c ∈ items, c.Reachable

/-- The sessions that can come up. -/
inductive Reachable : Session → Prop where
  | fresh {s : Session} : s.Fresh → Reachable s
  | after {s : Session} {x : Event} : Reachable s → x.HandsReachable → Reachable (s.after x)

variable {s : Session}

theorem Reachable.run {events : List Event} (h : s.Reachable)
    (hevents : ∀ x ∈ events, x.HandsReachable) : (s.run events).Reachable := by
  induction events generalizing s with
  | nil => exact h
  | cons x rest ih =>
    exact ih (h.after (hevents x List.mem_cons_self))
      fun y hy => hevents y (List.mem_cons_of_mem x hy)

theorem Reachable.criteria (h : s.Reachable) : s.criteria.Reachable := by
  induction h with
  | fresh hfresh => cases hfresh <;> exact .initial
  | @after s x _ hx ih =>
    rw [criteria_after]
    cases x with
    | setCriteria items => exact .ofList (hx items rfl)
    | add now => exact ih.change .add
    | remove now index => exact ih.change (.remove index)
    | edit now index e => exact ih.change (.edit index e)
    | awaitCorpus | receiveCorpus outcome | more | tick now | flush => exact ih

end Session

namespace Editor

/-- The editors that can come up. -/
inductive Reachable : Editor → Prop where
  | ofSession {s : Session} : s.Reachable → Reachable (.ofSession s)
  | start {s : Session} (source : WordSource) : s.Reachable → Reachable (.start s source)
  | after {e : Editor} (x : Event) : Reachable e → Reachable (e.after x)
  | work {e : Editor} {x : Session.Event} : Reachable e → x.HandsReachable →
      Reachable { e with session := e.session.after x }

theorem handsReachable_of_not_replacesAll {x : Session.Event} (h : x.replacesAll = false) :
    x.HandsReachable := by
  rintro items rfl
  exact absurd h.symm Bool.false_ne_true

theorem Reachable.session {e : Editor} (h : e.Reachable) : e.session.Reachable := by
  induction h with
  | ofSession hs => exact hs
  | start source hs =>
    exact hs.after (x := .awaitCorpus) (handsReachable_of_not_replacesAll rfl)
  | @after e x _ ih =>
    obtain ⟨events, hevents, heq⟩ := works_after e x
    rw [heq]
    exact ih.run fun y hy => handsReachable_of_not_replacesAll (hevents y hy)
  | work _ hx ih => exact ih.after hx

theorem Reachable.run {e : Editor} (h : e.Reachable) (events : List Event) :
    (e.run events).Reachable := by
  induction events generalizing e with
  | nil => exact h
  | cons x rest ih => exact ih (h.after x)

end Editor

/-- **Every criterion is normal, wherever it is kept**: one that was made or read and then edited,
and each of those in a list, a session or an editor, after any history. -/
theorem Criterion.normal_everywhere :
    (∀ c : Criterion, c.Reachable → c.Normal) ∧
      (∀ s : Criteria, s.Reachable → ∀ c ∈ s.items, c.Normal) ∧
      (∀ s : Session, s.Reachable → ∀ c ∈ s.criteria.items, c.Normal) ∧
      ∀ e : Editor, e.Reachable → ∀ c ∈ e.session.criteria.items, c.Normal := by
  have hitems : ∀ s : Criteria, s.Reachable → ∀ c ∈ s.items, c.Normal :=
    fun s hs c hc => (hs.items c hc).normal
  exact ⟨fun c hc => hc.normal, hitems, fun s hs => hitems _ hs.criteria,
    fun e he => hitems _ he.session.criteria⟩

/-- Types a letter and a capital sigma into the second criterion, puts it at the first position, and
goes through the kinds as far as `is`. -/
def Editor.sigmaKeys : List Editor.Event :=
  [Key.down, .enter, .char 'A', .char 'Σ', .escape, .left, .enter, .left, .enter, .enter].map
    fun key => .press 20 key { control := false, alt := false, shift := false }

theorem Criterion.normal_everywhere_sigma :
    let held := make .differs ['Q', 'ẞ'] (.position ⟨4, by decide⟩)
    let list := (Criteria.ofList [held]).change (.edit 0 (.scope .whole))
    let session := (Session.ofCorpus [] .standard).run
      [.setCriteria [held], .add 3, .edit 5 1 (.letters ['İ']), .tick 9]
    let editor := (Editor.start session .embedded).run Editor.sigmaKeys
    (held.Reachable ∧ held.Normal) ∧
      (list.Reachable ∧ (∀ c ∈ list.items, c.Normal) ∧
        list.items = [{ kind := .excludes, letters := ['ß'], scope := .whole }]) ∧
      (session.Reachable ∧ (∀ c ∈ session.criteria.items, c.Normal) ∧
        session.criteria.items =
          [held, { kind := .excludes, letters := ['i', '\u0307'], scope := .whole }]) ∧
      editor.Reachable ∧ (∀ c ∈ editor.session.criteria.items, c.Normal) ∧
        editor.session.criteria.items =
          [held, { kind := .equals, letters := ['ς'], scope := .position ⟨0, by decide⟩ }] := by
  intro held list session editor
  have hheld : held.Reachable := .make _ _ _
  have hitems : ∀ c ∈ [held], c.Reachable := List.forall_mem_singleton.mpr hheld
  have hlist : list.Reachable := (Criteria.Reachable.ofList hitems).change _
  have hsession : session.Reachable := by
    refine (Session.Reachable.fresh (.ofCorpus [] .standard)).run ?_
    refine List.forall_mem_cons.mpr ⟨?_, fun x hx => ?_⟩
    · rintro items ⟨⟩
      exact hitems
    · refine Editor.handsReachable_of_not_replacesAll ?_
      revert x
      decide
  have heditor : editor.Reachable := (Editor.Reachable.start .embedded hsession).run _
  obtain ⟨hcriterion, hcriteria, hsessions, heditors⟩ := normal_everywhere
  refine ⟨⟨hheld, hcriterion held hheld⟩, ⟨hlist, hcriteria list hlist, ?_⟩,
    ⟨hsession, hsessions session hsession, ?_⟩, heditor, heditors editor heditor, ?_⟩
  · decide +kernel
  · decide +kernel
  · decide +kernel

end WordSieve
