import Syllogistic.Collective.Call

/-!
# Broadcast, scatter and gather

The three collectives. Each has a root. A broadcast brings the root's value to
every member, a scatter brings item `i` of the root's list to member `i`, and a
gather brings the values of all members to the root in the order of the members.
The root keeps its own value without sending it; sends go out in the order of
the members and stop at the first that fails.
-/

namespace Syllogistic.Collective

namespace Endpoint

/-- Sends one frame. -/
def sendFrame (endpoint : Endpoint) (target : Nat) (payload : Payload) : Attempt Unit :=
  ExceptT.mk (.send endpoint target payload .done)

/-- Takes one value from a member. -/
def receiveValue {α : Type} [Wire.Codec α] (endpoint : Endpoint) (source : Nat) : Attempt α :=
  ExceptT.mk (.receive endpoint source fun
    | .error error => .done (.error error)
    | .ok payload => .done ((Wire.load payload).mapError .undecodable))

/-- Refuses a root that is no member. -/
def checkRoot (endpoint : Endpoint) (root : Nat) : Attempt Unit :=
  if endpoint.size ≤ root then throw (.rootOutOfRange endpoint.label root endpoint.size)
  else pure ()

/-- Sends frames to members, one after the other. -/
def sendAll (endpoint : Endpoint) : List (Nat × Payload) → Attempt Unit
  | [] => pure ()
  | (target, payload) :: rest => do
    endpoint.sendFrame target payload
    endpoint.sendAll rest

/-- Takes one value from each of some members; the root puts its own in its place. -/
def receiveAll {α : Type} [Wire.Codec α] (endpoint : Endpoint) (root : Nat) (own : α) :
    List Nat → Attempt (List α)
  | [] => pure []
  | member :: rest => do
    let value ← if member = root then pure own else endpoint.receiveValue member
    let values ← endpoint.receiveAll root own rest
    return value :: values

/-- The members other than the root. -/
def others (endpoint : Endpoint) (root : Nat) : List Nat :=
  (List.range endpoint.size).filter (· ≠ root)

/-- Brings the root's value to every member. -/
def broadcast {α : Type} [Wire.Codec α] (endpoint : Endpoint) (root : Nat) (value : Option α) :
    Attempt α := do
  endpoint.checkRoot root
  if endpoint.index ≠ root then endpoint.receiveValue root
  else
    match value with
    | none => throw (.noBroadcastValue endpoint.label)
    | some value =>
      endpoint.sendAll ((endpoint.others root).map fun member => (member, Wire.encode value))
      return value

/-- Brings each member its item of the root's list, which has to have one for
each. -/
def scatter {α : Type} [Wire.Codec α] (endpoint : Endpoint) (root : Nat)
    (values : Option (List α)) : Attempt α := do
  endpoint.checkRoot root
  if endpoint.index ≠ root then endpoint.receiveValue root
  else
    match values with
    | none => throw (.noScatterValues endpoint.label)
    | some values =>
      if values.length ≠ endpoint.size then
        throw (.scatterCount endpoint.label endpoint.size values.length)
      else
        endpoint.sendAll ((values.zipIdx.filter (·.2 ≠ root)).map fun (value, member) =>
          (member, Wire.encode value))
        match values[root]? with
        | some own => return own
        | none => throw (.noRootItem endpoint.label)

/-- Brings the values of all members to the root; the others get nothing. -/
def gather {α : Type} [Wire.Codec α] (endpoint : Endpoint) (root : Nat) (value : α) :
    Attempt (Option (List α)) := do
  endpoint.checkRoot root
  if endpoint.index ≠ root then
    endpoint.sendFrame root (Wire.encode value)
    return none
  else
    return some (← endpoint.receiveAll root value (List.range endpoint.size))

end Endpoint

end Syllogistic.Collective
