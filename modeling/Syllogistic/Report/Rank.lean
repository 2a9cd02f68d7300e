import Syllogistic.Batch.Rank
import Syllogistic.Number.Binary64

/-!
# The closing line of a rank

How long a rank lasted and what it did, with durations in seconds to two places.
A duration is taken to a double first, and that double is what is rounded.
-/

namespace Syllogistic.Report

/-- A length of time: whole seconds and nanoseconds. -/
structure Duration where
  seconds : Nat
  nanoseconds : Nat
  deriving DecidableEq, Repr

/-- The duration of some seconds and nanoseconds, of which whole seconds are carried;
there is none if a word does not hold its seconds. -/
def Duration.ofParts? (seconds nanoseconds : Nat) : Option Duration :=
  let carried := seconds + nanoseconds / 1000000000
  if carried < UInt64.size then some ⟨carried, nanoseconds % 1000000000⟩ else none

/-- The duration as a double: the seconds plus the nanoseconds over 10⁹, each
step rounded. -/
def Duration.toBinary64 (duration : Duration) : Number.Binary64 :=
  (Number.Binary64.ofNat duration.seconds).add (.nearest duration.nanoseconds 1000000000)

/-- The duration in seconds with two places. -/
def Duration.text (duration : Duration) : String :=
  Number.twoPlaces duration.toBinary64.hundredths

/-- How long a rank existed, worked, and had its engine work. -/
structure Timing where
  elapsed : Duration
  processing : Duration
  proving : Duration
  deriving DecidableEq, Repr

/-- The closing line of a rank. -/
def rankLine (report : Batch.RankReport) (timing : Timing) : String :=
  report.role.name ++ " " ++ toString report.rank ++ " lasted " ++ timing.elapsed.text ++
    "s | prover: " ++ report.engine ++ " | running: " ++ timing.processing.text ++
    "s | proving: " ++ timing.proving.text ++ "s | processed: " ++
    toString report.tally.processed ++ " | conclusion reached: " ++
    toString report.tally.concluded

end Syllogistic.Report
