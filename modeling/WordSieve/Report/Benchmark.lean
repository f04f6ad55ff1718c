import WordSieve.Benchmark
import WordSieve.Timer
import WordSieve.Decimal.Fixed
import WordSieve.Report.Session

/-!
# The report of a benchmark

Figures are given with fixed numbers of decimal places: times with three, rates and averages of
words with one, averages of tests with two.
-/

set_option autoImplicit false

namespace WordSieve.Benchmark

open Decimal

/-- The figures that are reported. -/
structure Figures where
  seed : Nat
  trials : Nat
  corpusSize : Nat
  fewest : Nat
  most : Nat
  averageMatching : Float
  averageAtoms : Float
  empty : Nat
  duration : Micros
  scansPerSecond : Float

/-- The time in seconds. -/
def seconds (t : Micros) : Float :=
  Float.ofNat (t / 1000000) + Float.ofNat (t % 1000000 * 1000) / 1000000000

/-- The figures of a benchmark that took some time. -/
def Summary.figures (s : Summary) (seed : Nat) (duration : Micros) : Figures :=
  { seed
    trials := s.trials
    corpusSize := s.corpusSize
    fewest := s.fewest
    most := s.most
    averageMatching := s.average s.totalMatching
    averageAtoms := s.average s.totalAtoms
    empty := s.empty
    duration
    scansPerSecond := Float.ofNat s.trials / max (seconds duration) (Float.scaleB 1 (-52)) }

/-- The figures in two groups, performance and selectivity. -/
def Figures.report (f : Figures) : Report :=
  [[], [ruler '═'], [plain " ", styled .heading "BENCHMARK RESULTS", plain " "], [ruler '═'], [],
   [plain "📊 ", styled .heading "Performance:"],
   [plain s!"   Trials:           {f.trials}"],
   [plain s!"   Corpus size:      {f.corpusSize}"],
   [plain s!"   Seed:             {f.seed}"],
   [plain ("   Time taken:       " ++ fixed 3 (seconds f.duration) ++ "s")],
   [plain "   Scans/second:     ", styled .figure (fixed 1 f.scansPerSecond)], [],
   [plain "📈 ", styled .heading "Selectivity:"],
   [plain ("   Average atoms:    " ++ fixed 2 f.averageAtoms)],
   [plain ("   Average matches:  " ++ fixed 1 f.averageMatching)],
   [plain "   Fewest matches:   ", styled .good (toString f.fewest)],
   [plain "   Most matches:     ", styled .notable (toString f.most)],
   [plain s!"   Empty results:    {f.empty}"]]

end WordSieve.Benchmark
