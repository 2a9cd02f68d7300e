import Syllogistic.Collective.Operation
import Syllogistic.Layout.Topology

/-!
# The endpoints of a run

Every rank has an endpoint in the group it works in, and the leaders have one
more in the executive group. The groups are filled one after the other in the
order of the ranks.
-/

namespace Syllogistic.Collective

/-- The endpoints that one rank owns. -/
structure Channels where
  /-- In the rank's own group, whose leader is member 0. -/
  work : Endpoint
  /-- In the group of leaders, if the rank is one. -/
  executive : Option Endpoint
  deriving DecidableEq, Repr

/-- All endpoints of the rank. -/
def Channels.endpoints (channels : Channels) : List Endpoint :=
  channels.work :: channels.executive.toList

/-- The channels in words. -/
def Channels.describe (channels : Channels) : String :=
  "RankChannels \x7b work: " ++ channels.work.describe ++ ", executive: " ++
    (match channels.executive with
      | none => "None"
      | some executive => "Some(" ++ executive.describe ++ ")") ++ " \x7d"

/-- The channels of every rank, and the network they belong to. -/
structure Fabric where
  channels : List Channels
  network : Network
  deriving Repr

/-- Why there are no endpoints. -/
inductive FabricFault where
  /-- They make no layout. -/
  | layout (cause : LayoutError)
  /-- There is no room for them. -/
  | memory (fault : MemoryFault)
  deriving DecidableEq, Repr

namespace Fabric

/-- The number of members of a group. -/
def groupSize (layout : Layout) (group : Nat) : Nat :=
  min layout.engines (layout.total - group * layout.engines)

/-- The endpoints of the members of a group. -/
def workEndpoints (layout : Layout) (group : Nat) : List Endpoint :=
  let size := groupSize layout group
  (List.range size).map fun index => ⟨"work-" ++ toString group, group, index, size⟩

/-- The executive endpoint of a rank that is among the leaders. -/
def executiveEndpoint (layout : Layout) (rank : Nat) : Option Endpoint :=
  (layout.executive.idxOf? rank).map fun index =>
    ⟨"executive", layout.groups, index, layout.groups⟩

/-- Builds the endpoints for a layout that can be. -/
def build (layout : Layout) : Except LayoutError Fabric :=
  match layout.check with
  | .error cause => .error cause
  | .ok () =>
    let work := (List.range layout.groups).flatMap (workEndpoints layout)
    .ok {
      channels := work.zipIdx.map fun (endpoint, rank) =>
        ⟨endpoint, executiveEndpoint layout rank⟩
      network := (List.range layout.groups).map (fun group => Group.create (groupSize layout group))
        ++ [Group.create layout.groups] }

/-- What the list of all ranks' places asks for, before any of them has an endpoint. -/
def placesRequest (layout : Layout) : MemoryRequest :=
  .items layout.total 88

/-- What the endpoints ask for after that: the groups with their names one by one, the
places of the leaders, the leaders, their group, and the list of what every rank owns. -/
def groupRequests (layout : Layout) : List MemoryRequest :=
  (List.range layout.groups).flatMap
      (fun group => .object :: Group.requests (groupSize layout group)) ++
    placesRequest layout :: layout.executiveRequest :: Group.requests layout.groups ++
      [.items layout.total 176]

/-- All that the endpoints for a layout ask for. -/
def requests (layout : Layout) : List MemoryRequest :=
  placesRequest layout :: groupRequests layout

/-- Sets up the endpoints for a layout, as far as there is memory for them. What is left
to be granted comes with them. -/
def setUp (memory : Memory) (layout : Layout) : Except FabricFault (Fabric × Memory) :=
  match layout.check with
  | .error cause => .error (.layout cause)
  | .ok () =>
    match memory.reserve (placesRequest layout) with
    | .error fault => .error (.memory fault)
    | .ok memory =>
      match memory.serve (groupRequests layout) with
      | .error fault => .error (.memory fault)
      | .ok memory =>
        match build layout with
        | .error cause => .error (.layout cause)
        | .ok fabric => .ok (fabric, memory)

end Fabric

end Syllogistic.Collective
