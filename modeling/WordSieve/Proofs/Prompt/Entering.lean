import WordSieve.Proofs.Criterion.Drafts
import WordSieve.Proofs.Prompt.Lines
import WordSieve.Proofs.Session.Typing

/-!
# Ways to enter criteria

A list of criteria is handed to a session as a whole, or it is typed part by part, or every part is
a line at the prompt. The three share little: the first makes each criterion at once and sieves the
corpus once, the second normalizes after each part and sieves whenever a tick finds time for it, and
the third goes through text as well. They end alike all the same.
-/

set_option autoImplicit false

namespace WordSieve

open Text

/-! ## Drafts as lines -/

theorem Draft.typeable_changes {d : Draft} (hletters : NoBlank d.letters) {place : Nat}
    (hplace : place + 1 < wordLimit) : ∀ ch ∈ d.changes place, ch.Typeable := by
  intro ch hch
  simp only [changes, List.mem_cons, List.not_mem_nil, or_false] at hch
  rcases hch with rfl | rfl | rfl | rfl
  · trivial
  · exact ⟨hplace, d.scope.noBlank_name⟩
  · exact ⟨hplace, d.kind.noBlank_name⟩
  · exact ⟨hplace, hletters⟩

theorem Draft.typeable_changesFrom {drafts : List Draft}
    (hletters : ∀ d ∈ drafts, NoBlank d.letters) {place : Nat}
    (hplace : place + drafts.length < wordLimit) :
    ∀ ch ∈ changesFrom place drafts, ch.Typeable := by
  induction drafts generalizing place with
  | nil => exact fun ch hch => absurd hch List.not_mem_nil
  | cons d rest ih =>
    rw [List.length_cons] at hplace
    intro ch hch
    rcases List.mem_append.mp hch with hfirst | hrest
    · exact typeable_changes (hletters d List.mem_cons_self) (by omega) ch hfirst
    · exact ih (fun d' hd' => hletters d' (List.mem_cons_of_mem d hd')) (by omega) ch hrest

theorem Draft.typeable_script {drafts : List Draft}
    (hletters : ∀ d ∈ drafts, NoBlank d.letters) (hlength : drafts.length < wordLimit) :
    ∀ ch ∈ script drafts, ch.Typeable := by
  refine List.forall_mem_cons.mpr ⟨?_, ?_⟩
  · exact (by decide : 0 + 1 < wordLimit)
  · exact typeable_changesFrom hletters (by rwa [Nat.zero_add])

namespace Session

open Criteria (Change)

/-! ## Lines as typing -/

theorem isTyping_turns (turns : List Turn) :
    ∀ x ∈ turns.flatMap Turn.events, x.isTyping = true := by
  intro x hx
  obtain ⟨t, -, hmem⟩ := List.mem_flatMap.mp hx
  simp only [Turn.events, List.mem_cons, List.not_mem_nil, or_false] at hmem
  rcases hmem with rfl | rfl
  · cases t.change <;> rfl
  · rfl

theorem filterMap_turns (turns : List Turn) :
    (turns.flatMap Turn.events).filterMap (·.change?) = turns.map Turn.change := by
  have hevent (now : Micros) (ch : Change) : (ch.event now).change? = some ch := by
    cases ch <;> rfl
  have hturn (t : Turn) : t.events.filterMap (·.change?) = [t.change] := by
    rw [Turn.events, List.filterMap_cons_some (hevent t.moment.change t.change)]
    rfl
  induction turns with
  | nil => rfl
  | cons t rest ih =>
    rw [List.flatMap_cons, List.filterMap_append, hturn, ih]
    rfl

/-- With no delay a conversation shows at its end what handing in the list shows. -/
theorem showsSame_converse (color : Bool) (corpus : List Word) (config : SessionConfig)
    {turns : List Turn} (htypeable : ∀ t ∈ turns, t.change.Typeable)
    (hclock : ∀ t ∈ turns, t.moment.change ≤ t.moment.tick) :
    ShowsSame
      (converse color (ofCorpus corpus { config with delay := 0 }) (turns.map Turn.input)).session
      ((ofCorpus corpus config).setCriteria
        (Criteria.initial.changes (turns.map Turn.change)).items) := by
  have hshows := showsSame_run_typing corpus config 0 (isTyping_turns turns)
  rw [filterMap_turns] at hshows
  have htimer : ((ofCorpus corpus { config with delay := 0 }).run
      (turns.flatMap Turn.events)).timer = .idle 0 :=
    timer_turns rfl hclock
  have hidle : ((ofCorpus corpus { config with delay := 0 }).run
      (turns.flatMap Turn.events)).isPending = false := by
    rw [isPending, htimer]
    rfl
  rw [flush_of_idle hidle] at hshows
  rw [session_converse color htypeable]
  exact hshows

/-- **The ways to enter criteria agree.** Whatever the drafts are, their texts are read as the
criteria they make; typing them part by part and flushing shows what handing in those criteria
shows, whatever the delay is and wherever ticks fall; and so does a conversation at the prompt
without a delay, if no letters hold a blank. There the clock may not go back between a change and
its tick, and the places of the list have to fit a machine word. -/
theorem entering_agrees (drafts : List Draft) (corpus : List Word) (config : SessionConfig) :
    let chosen := (ofCorpus corpus config).setCriteria (drafts.map Draft.criterion)
    readCriteria (drafts.map Draft.spec) = .ok chosen.criteria.items ∧
    (∀ (delay : Micros) (events : List Event), (∀ x ∈ events, x.isTyping = true) →
      events.filterMap (·.change?) = Draft.script drafts →
      ShowsSame ((ofCorpus corpus { config with delay }).run events).flush.2 chosen) ∧
    ((∀ d ∈ drafts, NoBlank d.letters) → drafts.length < wordLimit →
      ∀ (color : Bool) (turns : List Turn), turns.map Turn.change = Draft.script drafts →
      (∀ t ∈ turns, t.moment.change ≤ t.moment.tick) →
      ShowsSame
        (converse color (ofCorpus corpus { config with delay := 0 })
          (turns.map Turn.input)).session chosen) := by
  intro chosen
  refine ⟨Draft.readCriteria_spec drafts, ?_, ?_⟩
  · intro delay events htyping hscript
    have hshows := showsSame_run_typing corpus config delay htyping
    rw [hscript, Criteria.changes_script] at hshows
    exact hshows
  · intro hletters hlength color turns hscript hclock
    have htypeable : ∀ t ∈ turns, t.change.Typeable := by
      intro t ht
      have hmem := List.mem_map_of_mem (f := Turn.change) ht
      rw [hscript] at hmem
      exact Draft.typeable_script hletters hlength _ hmem
    have hshows := showsSame_converse color corpus config htypeable hclock
    rw [hscript, Criteria.changes_script] at hshows
    exact hshows

/-- A kind that does not fit, letters to be cut, letters with colons and no letters at all. -/
def mixedDrafts : List Draft :=
  [{ kind := .equals, letters := ['Q', 'Z'], scope := .whole },
   { kind := .equals, letters := ['C', 'É'], scope := .position ⟨(0 : Fin 5)⟩ },
   { kind := .includes, letters := ['a', ':'], scope := .whole },
   { kind := .differs, letters := [], scope := .position ⟨(4 : Fin 5)⟩ }]

/-- The first draft slowly and the others in one burst, with a tick that comes too early. -/
def mixedTyping : List Event :=
  [.tick 1, .remove 10 0, .tick 40, .add 45, .tick 95, .edit 100 0 (.scope .whole),
   .edit 120 0 (.kind .equals), .tick 170, .edit 180 0 (.letters ['Q', 'Z']), .tick 200,
   .tick 240] ++
  (Draft.changesFrom 1 (mixedDrafts.drop 1)).map (·.event 300) ++ [.tick 349]

/-- One line every ten microseconds, each with a tick three later. -/
def mixedTurns : List Turn :=
  (Draft.script mixedDrafts).mapIdx fun i ch =>
    { change := ch, moment := { change := 10 * i, tick := 10 * i + 3 } }

theorem entering_agrees_mixed :
    let corpus := wordsOf ["éa:bc".toList, "éaq:b".toList, "éb:ca".toList, "table".toList]
    let config : SessionConfig := { pageSize := 1, delay := 50 }
    let typed := (ofCorpus corpus config).run mixedTyping
    let spoken := (converse true (ofCorpus corpus { config with delay := 0 })
      (mixedTurns.map Turn.input)).session
    let chosen := (ofCorpus corpus config).setCriteria (mixedDrafts.map Draft.criterion)
    (∀ x ∈ mixedTyping, x.isTyping = true) ∧
      mixedTyping.filterMap (·.change?) = Draft.script mixedDrafts ∧
      (∀ d ∈ mixedDrafts, NoBlank d.letters) ∧ mixedDrafts.length < wordLimit ∧
      mixedTurns.map Turn.change = Draft.script mixedDrafts ∧
      (∀ t ∈ mixedTurns, t.moment.change ≤ t.moment.tick) ∧
      typed.isPending = true ∧ ShowsSame typed.flush.2 chosen ∧ ShowsSame spoken chosen ∧
      chosen.criteria.items =
        [{ kind := .excludes, letters := ['q', 'z'], scope := .whole },
         { kind := .equals, letters := ['é'], scope := .position ⟨(0 : Fin 5)⟩ },
         { kind := .includes, letters := ['a', ':'], scope := .whole },
         { kind := .differs, letters := [], scope := .position ⟨(4 : Fin 5)⟩ }] ∧
      chosen.sieve.hits = [0, 2] ∧ chosen.sieve.window = 1 := by
  intro corpus config typed spoken chosen
  obtain ⟨-, htyping, hprompt⟩ := entering_agrees mixedDrafts corpus config
  have hevents : ∀ x ∈ mixedTyping, x.isTyping = true := by decide
  have hscript : mixedTyping.filterMap (·.change?) = Draft.script mixedDrafts := by rfl
  have hletters : ∀ d ∈ mixedDrafts, NoBlank d.letters := by decide
  have hlength : mixedDrafts.length < wordLimit := by decide
  have hturns : mixedTurns.map Turn.change = Draft.script mixedDrafts := by rfl
  have hclock : ∀ t ∈ mixedTurns, t.moment.change ≤ t.moment.tick := by decide
  refine ⟨hevents, hscript, hletters, hlength, hturns, hclock, ?_, ?_, ?_, ?_, ?_, ?_⟩
  · decide +kernel
  · exact htyping 50 mixedTyping hevents hscript
  · exact hprompt hletters hlength true mixedTurns hturns hclock
  · decide +kernel
  · decide +kernel
  · decide +kernel

end Session

end WordSieve
