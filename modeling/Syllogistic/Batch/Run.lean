import Syllogistic.Batch.Rank
import Syllogistic.Collective.Crew

/-!
# Running a batch

A run sets every rank's engine up, gives each rank its endpoints, and lets the
crew of all ranks work. The run itself takes turns: in each round every rank
makes all the steps it can, and a rank that is done gives up its endpoints.

Errors of the set-up come first, so a run that cannot work asks no engine
anything. The lists that have a place for every rank are sized before there is
anything to put into them, so what comes first of all is memory.
-/

namespace Syllogistic.Batch

/-- The engines of a run, by role; setting one up may fail with an `ε`. -/
structure Roster (ε : Type) where
  names : List String
  build : (roleIndex rank : Nat) → Except ε Backend

/-- A batch that is laid out and ready to run. -/
structure Plan (ε : Type) where
  roster : Roster ε
  layout : Layout
  terms : Terms

/-- Why a run gives no records. -/
inductive RunError (ε : Type) where
  | layout (error : LayoutError)
  | refused (error : ε)
  | rank (error : RankError)
  /-- No rank ended with the records. -/
  | noRecords
  deriving DecidableEq, Repr

def RunError.message {ε : Type} (describe : ε → String) : RunError ε → String
  | layout error => error.message
  | refused error => describe error
  | rank error => error.message
  | noRecords => communicationFault "master finished without records"

/-- What the master has after a run. -/
structure Summary where
  /-- The records in the order of the formulas. -/
  records : List Record
  /-- One report for each rank, by rank. -/
  reports : List RankReport
  /-- The engines that ran, by role. -/
  engines : List String
  deriving DecidableEq, Repr

/-- How many records are flagged. -/
def Summary.contradictions (summary : Summary) : Nat :=
  summary.records.countP (·.contradiction)

/-- The ranks of a run, each on its way to an outcome. -/
abbrev Ranks := Collective.Crew (Except RankError RankOutcome)

namespace Plan

variable {ε : Type}

/-- Plans a batch; an impossible layout is refused before anything else. -/
def make (roster : Roster ε) (ranks base : Nat) (policy : Policy) :
    Except LayoutError (Plan ε) :=
  let layout : Layout := ⟨ranks, roster.names.length⟩
  match layout.check with
  | .error cause => .error cause
  | .ok () => .ok ⟨roster, layout, { base, policy }⟩

/-- What the list of all ranks' engines asks for, before any engine is set up. -/
def enginesRequest (plan : Plan ε) : MemoryRequest :=
  .items plan.layout.total 120

/-- What the ranks ask for once they have their engines and endpoints: a task each, and
the list of their reports. -/
def tasksRequests (plan : Plan ε) : List MemoryRequest :=
  List.replicate plan.layout.total .object ++ [.items plan.layout.total 104]

/-- All that a run asks for before its ranks begin. -/
def requests (plan : Plan ε) : List MemoryRequest :=
  plan.enginesRequest :: Collective.Fabric.requests plan.layout ++ plan.tasksRequests

/-- The names of the engines that will run. -/
def active (plan : Plan ε) : List String :=
  plan.roster.names.take (min plan.layout.engines plan.layout.total)

/-- Places one rank and sets its engine up. -/
def seat (plan : Plan ε) (rank : Nat) : Except (RunError ε) (Position × Worker) :=
  match Position.place plan.layout rank with
  | .error cause => .error (.layout cause)
  | .ok position =>
    match plan.roster.build position.roleIndex rank with
    | .error cause => .error (.refused cause)
    | .ok backend => .ok (position, { backend })

/-- Places all of some ranks; the first that cannot be set up is reported. -/
def seats (plan : Plan ε) : List Nat → Except (RunError ε) (List (Position × Worker))
  | [] => .ok []
  | rank :: rest =>
    match plan.seat rank with
    | .error cause => .error cause
    | .ok seat =>
      match plan.seats rest with
      | .error cause => .error cause
      | .ok seats => .ok (seat :: seats)

/-- The ranks before any of them has done anything. -/
def start (plan : Plan ε) (seats : List (Position × Worker)) (fabric : Collective.Fabric)
    (formulas : List Syllogism) : Ranks where
  network := fabric.network
  runners := (seats.zip fabric.channels).map fun ((position, worker), channels) =>
    { endpoints := channels.endpoints
      call := (work plan.terms position channels worker
        (if position.isMaster then some formulas else none)).run }

/-- A number of rounds in which every rank can do all it has to, since some rank
makes a step in each: a rank sends or takes a frame for every group at most twice
and for every member of its group at most twice, and leaves. -/
def enoughRounds (plan : Plan ε) : Nat :=
  plan.layout.total * (2 * plan.layout.groups + 2 * plan.layout.engines + 1)

/-- The first error among outcomes. -/
def firstError : List (Except RankError RankOutcome) → Option RankError
  | [] => none
  | .error error :: _ => some error
  | .ok _ :: rest => firstError rest

/-- The outcomes that are no errors. -/
def successes : List (Except RankError RankOutcome) → List RankOutcome
  | [] => []
  | .error _ :: rest => successes rest
  | .ok outcome :: rest => outcome :: successes rest

/-- The summary of a run that has ended. -/
def summarize (plan : Plan ε) (ranks : Ranks) : Except (RunError ε) Summary :=
  match firstError ranks.results with
  | some error => .error (.rank error)
  | none =>
    let outcomes := successes ranks.results
    match outcomes.findSome? (·.records) with
    | none => .error .noRecords
    | some records => .ok ⟨records, outcomes.map (·.report), plan.active⟩

/-- What the ranks come to that take turns. -/
def conduct (plan : Plan ε) (seats : List (Position × Worker)) (fabric : Collective.Fabric)
    (formulas : List Syllogism) : Except (RunError ε) Summary :=
  plan.summarize ((plan.start seats fabric formulas).rounds plan.enoughRounds)

/-- What a run on some formulas comes to that is granted all memory. -/
def run (plan : Plan ε) (formulas : List Syllogism) : Except (RunError ε) Summary :=
  match plan.seats (List.range plan.layout.total) with
  | .error cause => .error cause
  | .ok seats =>
    match Collective.Fabric.build plan.layout with
    | .error cause => .error (.layout cause)
    | .ok fabric => plan.conduct seats fabric formulas

/-- Runs the batch on some formulas. Room for the engines of all ranks comes before any
of them is set up, and all else that a run asks for after that; what the ranks ask for
while they work is taken to be granted. -/
def launch (memory : Memory) (plan : Plan ε) (formulas : List Syllogism) :
    Except MemoryFault (Except (RunError ε) Summary) :=
  match memory.reserve plan.enginesRequest with
  | .error fault => .error fault
  | .ok memory =>
    match plan.seats (List.range plan.layout.total) with
    | .error cause => .ok (.error cause)
    | .ok seats =>
      match Collective.Fabric.setUp memory plan.layout with
      | .error (.layout cause) => .ok (.error (.layout cause))
      | .error (.memory fault) => .error fault
      | .ok (fabric, memory) =>
        match memory.serve plan.tasksRequests with
        | .error fault => .error fault
        | .ok _ => .ok (plan.conduct seats fabric formulas)

end Plan

end Syllogistic.Batch
