import WordSieve.Condition.Basic

/-!
# Sieving the corpus

A sieve holds the corpus, the places of the words that passed the last condition, and how many of
those are on display. Sieving anew goes back to the first page; each further page adds to what is
on display until all is.

If the condition faults on some word, the last result stays. A corpus that was replaced just before
is in place all the same, so the result may then speak of the corpus before it, and of places the
new one does not have: looking a result up can be a fault of its own.
-/

set_option autoImplicit false

namespace WordSieve

/-- The places, counted from `place`, of the words the condition holds of. -/
def Condition.scanFrom (p : Condition) (place : Nat) : List Word → Except IndexFault (List Nat)
  | [] => .ok []
  | w :: rest =>
    match p.eval w with
    | .error f => .error f
    | .ok passes =>
      match p.scanFrom (place + 1) rest with
      | .error f => .error f
      | .ok places => .ok (if passes then place :: places else places)

/-- The places of the words the condition holds of. The condition that asks nothing is not run. -/
def Condition.scan (p : Condition) (corpus : Array Word) : Except IndexFault (List Nat) :=
  if p.isAlways then .ok (List.range corpus.size) else p.scanFrom 0 corpus.toList

/-- A corpus with the words that passed and the size of the display. -/
structure Sieve where
  corpus : Array Word
  /-- The places of the words that passed, in the order of the corpus. -/
  hits : List Nat
  /-- How many of the words that passed are on display. -/
  window : Nat
  /-- How many words a page adds to the display. -/
  pageSize : Nat
  deriving Repr

namespace Sieve

/-- How many words a page adds unless it is set otherwise. -/
def standardPageSize : Nat :=
  100

/-- Runs the condition on the whole corpus. The display is then the first page; if the condition
faults on some word, nothing changes, and the fault is told. -/
def sift (s : Sieve) (p : Condition) : Sieve × Option IndexFault :=
  match p.scan s.corpus with
  | .ok hits => ({ s with hits, window := min s.pageSize hits.length }, none)
  | .error f => (s, some f)

/-- Puts another corpus in place and runs the condition on it. -/
def setCorpus (s : Sieve) (corpus : List Word) (p : Condition) : Sieve × Option IndexFault :=
  { s with corpus := corpus.toArray : Sieve }.sift p

/-- A sieve that every word has passed. A page holds at least one word. -/
def ofCorpus (corpus : List Word) (pageSize : Nat) : Sieve :=
  let s : Sieve := { corpus := corpus.toArray, hits := [], window := 0, pageSize := max 1 pageSize }
  (s.sift .always).1

/-- The largest size there is. -/
def sizeLimit : Nat := UInt64.size - 1

/-- The sieve with one more page on display. A page may be so large that the sum is no size; it then
stops at the largest one. -/
def more (s : Sieve) : Sieve :=
  { s with window := min (min (s.window + s.pageSize) sizeLimit) s.hits.length }

/-- How many words passed. -/
def count (s : Sieve) : Nat :=
  s.hits.length

/-- Whether words passed that are not on display. -/
def hasMore (s : Sieve) : Bool :=
  s.window < s.hits.length

/-- The word at a place of the corpus. -/
def wordAt (s : Sieve) (place : Nat) : Except IndexFault Word :=
  match s.corpus[place]? with
  | some w => .ok w
  | none => .error ⟨s.corpus.size, place⟩

/-- The words at the places, up to the first that the corpus does not have. -/
def wordsAt (s : Sieve) : List Nat → Except IndexFault (List Word)
  | [] => .ok []
  | place :: rest =>
    match s.wordAt place with
    | .error f => .error f
    | .ok w => (s.wordsAt rest).map (w :: ·)

/-- The words that passed. -/
def results? (s : Sieve) : Except IndexFault (List Word) :=
  s.wordsAt s.hits

/-- The words on display. -/
def displayed? (s : Sieve) : Except IndexFault (List Word) :=
  s.wordsAt (s.hits.take s.window)

/-- The words that passed, as far as the corpus has them. -/
def results (s : Sieve) : List Word :=
  s.hits.filterMap (s.corpus[·]?)

/-- The words on display, as far as the corpus has them. -/
def displayed (s : Sieve) : List Word :=
  (s.hits.take s.window).filterMap (s.corpus[·]?)

/-! ## Histories -/

/-- Something that is done to a sieve. -/
inductive Action where
  | sift (p : Condition)
  | setCorpus (corpus : List Word) (p : Condition)
  | more

/-- The sieve after an action, whether there was a fault or not. -/
def after (s : Sieve) : Action → Sieve
  | .sift p => (s.sift p).1
  | .setCorpus corpus p => (s.setCorpus corpus p).1
  | .more => s.more

/-- The sieve after the actions in turn. -/
def run (s : Sieve) (actions : List Action) : Sieve :=
  actions.foldl after s

end Sieve

end WordSieve
