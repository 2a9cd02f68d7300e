import Syllogistic.Fault
import Syllogistic.Memory

/-!
# The layout of a run

Ranks are split into groups of consecutive ranks, as many to a group as there
are engines. Member `i` of a group runs engine `i`; member 0 leads the group and
belongs to the executive set, which rank 0 coordinates. A single rank is allowed
with any number of engines and runs only the first; otherwise every group has to
be full, or some formulas would miss an engine.
-/

namespace Syllogistic

/-- Why a number of ranks and a number of engines make no layout. -/
inductive LayoutError where
  | noEngines
  | noRanks
  | indivisible (total engines : Nat)
  | rankOutOfRange (rank total : Nat)
  deriving DecidableEq, Repr

def LayoutError.message : LayoutError → String
  | noEngines => configurationFault "at least one engine is required"
  | noRanks => configurationFault "at least one process is required"
  | indivisible total engines =>
    configurationFault ("number of processes is not divisible by number of provers; " ++
      "some formulas would not be checked by all provers (processes: " ++ toString total ++
      ", provers: " ++ toString engines ++ ")")
  | rankOutOfRange rank total =>
    configurationFault ("rank " ++ toString rank ++ " out of range for " ++ toString total ++
      " processes")

/-- What a rank does once proving is over. -/
inductive Role where
  | master
  | leader
  | worker
  deriving DecidableEq, Repr, Inhabited

def Role.name : Role → String
  | master => "Master"
  | leader => "Leader"
  | worker => "Worker"

/-- A number of ranks and a number of engines to run on them. -/
structure Layout where
  total : Nat
  engines : Nat
  deriving DecidableEq, Repr

namespace Layout

/-- Whether the ranks can be laid out; of two faults the first in the order of
the causes is reported. -/
def check (layout : Layout) : Except LayoutError Unit :=
  if layout.engines = 0 then .error .noEngines
  else if layout.total = 0 then .error .noRanks
  else if layout.total ≠ 1 ∧ layout.total % layout.engines ≠ 0 then
    .error (.indivisible layout.total layout.engines)
  else .ok ()

/-- The number of groups, the last of which may not be full. -/
def groups (layout : Layout) : Nat :=
  (layout.total + layout.engines - 1) / layout.engines

/-- The ranks that lead a group, by group. -/
def executive (layout : Layout) : List Nat :=
  (List.range layout.groups).map (· * layout.engines)

/-- What the list of the ranks that lead a group asks for. -/
def executiveRequest (layout : Layout) : MemoryRequest :=
  .items layout.groups 8

end Layout

/-- The position of a rank in a layout. -/
structure Position where
  layout : Layout
  rank : Nat
  deriving DecidableEq, Repr

namespace Position

/-- Places a rank in a layout. -/
def place (layout : Layout) (rank : Nat) : Except LayoutError Position :=
  match layout.check with
  | .error cause => .error cause
  | .ok () =>
    if layout.total ≤ rank then .error (.rankOutOfRange rank layout.total)
    else .ok ⟨layout, rank⟩

/-- The group of the rank. -/
def group (position : Position) : Nat :=
  position.rank / position.layout.engines

/-- The rank's place in its group, which is also the engine it runs. -/
def roleIndex (position : Position) : Nat :=
  position.rank % position.layout.engines

/-- Whether the rank leads its group. -/
def leads (position : Position) : Bool :=
  position.roleIndex == 0

/-- Whether the rank coordinates the run. -/
def isMaster (position : Position) : Bool :=
  position.rank == 0

/-- The rank that leads the group. -/
def leader (position : Position) : Nat :=
  position.group * position.layout.engines

/-- The number of ranks in the group. -/
def groupSize (position : Position) : Nat :=
  min (position.leader + position.layout.engines) position.layout.total - position.leader

/-- The ranks of the group, the leader first. -/
def members (position : Position) : List Nat :=
  List.range' position.leader position.groupSize

/-- What the list of the ranks of the group asks for. -/
def membersRequest (position : Position) : MemoryRequest :=
  .items position.groupSize 8

/-- The rank's place in the executive set, if it leads its group. -/
def executiveIndex (position : Position) : Option Nat :=
  if position.leads then some position.group else none

def role (position : Position) : Role :=
  if position.isMaster then .master else if position.leads then .leader else .worker

end Position

end Syllogistic
