import Syllogistic.Batch.Worker
import Syllogistic.Collective.Fabric
import Syllogistic.Layout.Partition
import Syllogistic.Wire.Message

/-!
# What one rank does

The master splits the formulas into chunks and scatters them over the leaders;
each leader broadcasts its chunk to its group; every rank decides the chunk with
its own engine; each group gathers its results at the leader, who decides the
records; and the leaders gather their records at the master, who joins them in
the order of the groups.

A rank whose times have grown longer than a duration holds is broken off while it
decides its chunk, before it has sent any of its results.
-/

namespace Syllogistic.Batch

/-- Why a rank cannot finish. -/
inductive RankError where
  | collective (error : Collective.Error)
  | alignment (error : AlignmentError)
  /-- A group's leader has no executive endpoint. -/
  | noExecutive (rank : Nat)
  /-- The rank was broken off, its times being too long. -/
  | overlong
  deriving DecidableEq, Repr

/-- What is said of an error. Where a rank was broken off, the number that its task had is
left out: it depends on what else has run. -/
def RankError.message : RankError → String
  | collective error => error.message
  | alignment error => error.message
  | noExecutive rank =>
    communicationFault ("group leader " ++ toString rank ++ " has no executive channel")
  | overlong => communicationFault "rank task failed: overflow when adding durations"

/-- What a rank reports at its end. -/
structure RankReport where
  rank : Nat
  role : Role
  engine : String
  tally : Tally
  deriving DecidableEq, Repr

/-- What a rank ends with; only the master has the records of the run. -/
structure RankOutcome where
  report : RankReport
  records : Option (List Record)
  deriving DecidableEq, Repr

/-- What all ranks of a run know. -/
structure Terms where
  base : Nat
  policy : Policy
  /-- The longest time that a rank can tell, in nanoseconds. -/
  longest : Nat := Tally.longest
  deriving DecidableEq, Repr

/-- A part of a rank's work that may fail. -/
abbrev Task (α : Type) := ExceptT RankError Collective.Call α

/-- A collective as part of a rank's work. -/
def collective {α : Type} (attempt : Collective.Attempt α) : Task α :=
  ExceptT.mk (attempt.run.andThen fun outcome => .done (outcome.mapError .collective))

/-- Breaks the rank off if its times are too long to be told. -/
def account (terms : Terms) (tally : Tally) : Task Unit :=
  if tally.Within terms.longest then pure () else throw .overlong

/-- The chunk of a leader. -/
def leaderChunk (channels : Collective.Channels) (formulas : Option (List Syllogism)) :
    Task (Option (List Syllogism)) :=
  match channels.executive with
  | none => return none
  | some executive =>
    return some (← collective (executive.scatter 0 (formulas.map (partition · executive.size))))

/-- The records of a leader's group, and at the master those of all groups. -/
def leaderRecords (policy : Policy) (rank : Nat) (channels : Collective.Channels)
    (chunk : List Syllogism) (columns : List (List EngineResult)) :
    Task (Option (List Record)) :=
  match policy.consolidateGroup chunk columns channels.work.size with
  | .error error => throw (.alignment error)
  | .ok records =>
    match channels.executive with
    | none => throw (.noExecutive rank)
    | some executive =>
      return (← collective (executive.gather 0 records)).map List.flatten

/-- The work of one rank; `formulas` are those of the whole run, at the master. -/
def work (terms : Terms) (position : Position) (channels : Collective.Channels)
    (worker : Worker) (formulas : Option (List Syllogism)) : Task RankOutcome := do
  let chunk ← collective (channels.work.broadcast 0 (← leaderChunk channels formulas))
  let (results, worker) := worker.run terms.base chunk
  account terms worker.tally
  let gathered ← collective (channels.work.gather 0 results)
  let records ←
    match gathered with
    | none => pure none
    | some columns => leaderRecords terms.policy position.rank channels chunk columns
  return ⟨⟨position.rank, position.role, worker.backend.name, worker.tally⟩, records⟩

end Syllogistic.Batch
