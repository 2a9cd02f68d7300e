import Syllogistic.Consensus.Basic
import Syllogistic.Engine.Invocation
import Syllogistic.Engine.Status
import Syllogistic.Engine.Timeout
import Syllogistic.Memory

/-!
# Working through formulas with one engine

A backend answers formulas for an engine, and may fail to. A worker puts
formulas to its backend one after the other, turns every failure into an open
verdict without a proof, and counts what it does, so a batch always completes
with one result for each formula.

Among what it counts is time: how long its calls took by its own clock, and how
long the engine was at work, which an answer says of itself and a failure does
not. The sums are exact here; that a duration holds only so much is minded where
a tally is made use of.
-/

namespace Syllogistic

/-- Something that decides formulas under a time limit in seconds. -/
structure Backend where
  name : String
  engine : Engine
  ask : Formula → Nat → Except EngineFailure Answer
  /-- How long a call takes by the clock of whoever makes it, in nanoseconds. -/
  takes : Formula → Nat → Nat

/-- What a worker has done. -/
structure Tally where
  processed : Nat := 0
  /-- How many formulas got a conclusive verdict. -/
  concluded : Nat := 0
  /-- How long the calls took, in nanoseconds. -/
  processing : Nat := 0
  /-- How long the engine was at work, in nanoseconds. -/
  proving : Nat := 0
  deriving DecidableEq, Repr

namespace Tally

/-- The longest time that a duration holds, in nanoseconds: its seconds are a word. -/
def longest : Nat := UInt64.size * 1000000000 - 1

/-- No time of the tally is longer than can be told. -/
def Within (tally : Tally) (longest : Nat) : Prop :=
  tally.processing ≤ longest ∧ tally.proving ≤ longest

instance (tally : Tally) (longest : Nat) : Decidable (tally.Within longest) :=
  inferInstanceAs (Decidable (_ ∧ _))

end Tally

/-- How long the engine was at work in a call that took so long: a call that failed
counts in full. -/
def provingTime (took : Nat) : Except EngineFailure Answer → Nat
  | .ok answer => answer.elapsed
  | .error _ => took

/-- Adds one outcome to the tally, of a call that took so long. -/
def Tally.add (tally : Tally) (took : Nat) (outcome : Except EngineFailure Answer) : Tally where
  processed := tally.processed + 1
  concluded :=
    match outcome with
    | .ok answer => if answer.verdict.conclusive then tally.concluded + 1 else tally.concluded
    | .error _ => tally.concluded
  processing := tally.processing + took
  proving := tally.proving + provingTime took outcome

/-- A backend with a tally. -/
structure Worker where
  backend : Backend
  tally : Tally := {}

namespace Backend

/-- The result that an outcome comes to: a failure leaves the verdict open. -/
def result (backend : Backend) (formula : Formula) :
    Except EngineFailure Answer → EngineResult
  | .ok answer =>
    ⟨backend.name, formula, answer.verdict, answer.verdict.keepProof answer.proof⟩
  | .error _ => ⟨backend.name, formula, .unknown, none⟩

/-- The result of the backend on a formula. -/
def decide (backend : Backend) (formula : Formula) (timeout : Nat) : EngineResult :=
  backend.result formula (backend.ask formula timeout)

end Backend

namespace Worker

/-- Decides one formula. -/
def decide (worker : Worker) (formula : Formula) (timeout : Nat) : EngineResult × Worker :=
  let outcome := worker.backend.ask formula timeout
  let took := worker.backend.takes formula timeout
  (worker.backend.result formula outcome, ⟨worker.backend, worker.tally.add took outcome⟩)

/-- The time limit of the worker's engine. -/
def timeout (worker : Worker) (base : Nat) : Nat :=
  worker.backend.engine.timeout base

/-- Decides the formulas of a chunk in order. -/
def decideAll (worker : Worker) (timeout : Nat) :
    List Syllogism → List EngineResult × Worker
  | [] => ([], worker)
  | syllogism :: rest =>
    let (result, worker) := worker.decide syllogism.formula timeout
    let (results, worker) := worker.decideAll timeout rest
    (result :: results, worker)

/-- Decides a chunk with the engine's share of a base time limit. -/
def run (worker : Worker) (base : Nat) (chunk : List Syllogism) :
    List EngineResult × Worker :=
  worker.decideAll (worker.timeout base) chunk

end Worker

/-- What a program runs on. -/
structure Host where
  /-- How the run of a process comes out. -/
  outcome : Invocation → Outcome
  /-- How long the run of a process takes, in nanoseconds. -/
  takes : Invocation → Nat
  memory : Memory

/-- The backend that runs a prover's process on a host. -/
def Prover.backend (prover : Prover) (host : Host) : Backend where
  name := prover.engine.name
  engine := prover.engine
  ask formula timeout := prover.engine.interpret (host.outcome (prover.invocation formula timeout))
  takes formula timeout := host.takes (prover.invocation formula timeout)

end Syllogistic
