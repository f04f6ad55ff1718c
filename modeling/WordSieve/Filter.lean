import WordSieve.Session

/-!
# One filter run

A fixed list of criteria is applied to a corpus once, and a number of pages of the result is shown,
or all of it. Every page shows at least one more word, so no run turns more pages than there are
results.
-/

set_option autoImplicit false

namespace WordSieve

/-- What a filter run is asked for. -/
structure FilterRequest where
  criteria : List Criterion
  /-- How many pages are shown; the first one always is. -/
  pages : Nat
  /-- Whether all pages are shown. -/
  all : Bool
  deriving Repr

/-- What a filter run found. -/
structure FilterResult where
  criteria : List Criterion
  condition : Condition
  corpusSize : Nat
  /-- How many words match. -/
  matching : Nat
  /-- The matching words that are shown. -/
  shown : List Word
  /-- Whether some matching words are not shown. -/
  hasMore : Bool
  deriving Repr

/-- Turns up to `n` pages, as long as there are results that are not on display. -/
def Sieve.turnPages (s : Sieve) : Nat → Sieve
  | 0 => s
  | n + 1 => if s.hasMore then s.more.turnPages n else s

/-- Runs a filter over the corpus. -/
def FilterRequest.run (request : FilterRequest) (corpus : List Word) (config : SessionConfig) :
    FilterResult :=
  let session := (Session.ofCorpus corpus config).setCriteria request.criteria
  let first := session.sieve
  let sieve := first.turnPages
    (if request.all then first.count else min (request.pages - 1) first.count)
  { criteria := session.criteria.items
    condition := session.condition
    corpusSize := sieve.corpus.size
    matching := sieve.count
    shown := sieve.displayed
    hasMore := sieve.hasMore }

end WordSieve
