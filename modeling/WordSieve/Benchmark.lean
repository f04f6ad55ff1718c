import WordSieve.Criterion.Basic
import WordSieve.Condition.OfCriteria
import WordSieve.Sieve

/-!
# Benchmarks

A benchmark sieves the corpus with random lists of criteria and sums up how many words pass. The
random numbers are an argument: a list of draws of any size, each taken modulo the number of
choices it has to decide between, with 0 in place of any that is missing. The trials may be split
into shares that run side by side; every share keeps one sieve for all of its trials.
-/

set_option autoImplicit false

namespace WordSieve.Benchmark

/-- Random numbers still to be used. -/
abbrev Draws := List Nat

/-- Draws a number below `choices`. -/
def below (choices : Nat) : StateM Draws Nat := do
  match ← get with
  | [] => return 0
  | d :: rest =>
    set rest
    return d % choices

/-- Draws `n` lowercase letters. -/
def drawLetters : Nat → StateM Draws (List Char)
  | 0 => return []
  | n + 1 => do
    let d ← below 26
    let rest ← drawLetters n
    return Char.ofNat ('a'.toNat + d) :: rest

/-- Draws a scope, one of the whole word and its positions. -/
def drawScope : StateM Draws Scope := do
  let n ← below (wordLength + 1)
  return (Scope.ofNumber n).toOption.getD .whole

/-- The kinds that fit a scope. -/
def kindsAt (s : Scope) : List Kind :=
  [Kind.excludes, .includes, .equals, .differs].filter (·.fits s)

/-- Draws a criterion whose kind fits its scope, with one to three letters, or one where the kind
takes one. -/
def drawCriterion : StateM Draws Criterion := do
  let scope ← drawScope
  let kinds := kindsAt scope
  let k ← below kinds.length
  let kind := kinds[k]?.getD .excludes
  let extra ← if kind.isSingle then pure 0 else below 3
  let letters ← drawLetters (extra + 1)
  return .make kind letters scope

/-- Draws `n` criteria. -/
def drawCriteria : Nat → StateM Draws (List Criterion)
  | 0 => return []
  | n + 1 => do
    let c ← drawCriterion
    let rest ← drawCriteria n
    return c :: rest

/-- Draws the criteria of a trial, at least one and at most `most`. -/
def drawTrial (most : Nat) : StateM Draws (List Criterion) := do
  let n ← below (max 1 most)
  drawCriteria (n + 1)

/-- Draws the criteria of `n` trials. -/
def drawTrials (most : Nat) : Nat → StateM Draws (List (List Criterion))
  | 0 => return []
  | n + 1 => do
    let t ← drawTrial most
    let rest ← drawTrials most n
    return t :: rest

/-- What one trial came to. -/
structure Outcome where
  matching : Nat
  atoms : Nat
  deriving DecidableEq, Repr

/-- Runs a trial: sieves the corpus with the condition of its criteria. The sieve may be left over
from another trial. -/
def runTrial (s : Sieve) (criteria : List Criterion) : Outcome × Sieve :=
  let condition := Condition.ofCriteria criteria
  let sifted := (s.sift condition).1
  ({ matching := sifted.count, atoms := condition.atoms }, sifted)

/-- Runs a share of the trials one after the other with one sieve. -/
def runShare (s : Sieve) : List (List Criterion) → List Outcome
  | [] => []
  | criteria :: rest =>
    let (outcome, s) := runTrial s criteria
    outcome :: runShare s rest

/-- Runs trials that are split into shares, each with a sieve of its own. -/
def runShares (corpus : List Word) (shares : List (List (List Criterion))) : List Outcome :=
  shares.flatMap (runShare (Sieve.ofCorpus corpus Sieve.standardPageSize))

/-- The figures of a benchmark. Without trials all of them are 0. -/
structure Summary where
  trials : Nat
  corpusSize : Nat
  fewest : Nat
  most : Nat
  totalMatching : Nat
  totalAtoms : Nat
  /-- How many trials no word passed. -/
  empty : Nat
  deriving DecidableEq, Repr

/-- Sums up the outcomes. -/
def summarize (corpusSize : Nat) (outcomes : List Outcome) : Summary :=
  let counts := outcomes.map (·.matching)
  { trials := outcomes.length
    corpusSize
    fewest := counts.min?.getD 0
    most := counts.max?.getD 0
    totalMatching := counts.foldr (· + ·) 0
    totalAtoms := outcomes.foldr (fun o n => o.atoms + n) 0
    empty := counts.countP (· == 0) }

/-- Runs `trials` trials with the given draws. -/
def run (corpus : List Word) (trials most : Nat) (draws : Draws) : Summary :=
  summarize corpus.length (runShares corpus [(drawTrials most trials draws).1])

/-- The average of a total over the trials, which counts no trial as one. -/
def Summary.average (s : Summary) (total : Nat) : Float :=
  total.toUInt64.toFloat / (max 1 s.trials).toUInt64.toFloat

end WordSieve.Benchmark
