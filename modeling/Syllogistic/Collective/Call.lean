import Syllogistic.Collective.Network

/-!
# Calls in progress

A collective is not done in one go: it sends some frames, may have to wait for
others, and goes on when they come. A `Call` is what is still to be done, one
frame at a time, and one step of a call sends, takes or puts aside a single
frame. Running a call as far as it goes without waiting is `poll`; what is left
then is either a result or a frame to wait for.
-/

namespace Syllogistic.Collective

/-- What a member still has to do on its endpoints before it has a result. -/
inductive Call (α : Type) where
  | done (result : α)
  | send (endpoint : Endpoint) (target : Nat) (payload : Payload)
      (next : Except Error Unit → Call α)
  | receive (endpoint : Endpoint) (source : Nat) (next : Except Error Payload → Call α)

namespace Call

/-- Goes on with what depends on the result. -/
def andThen {α β : Type} : Call α → (α → Call β) → Call β
  | done result, f => f result
  | send endpoint target payload next, f =>
    send endpoint target payload fun sent => (next sent).andThen f
  | receive endpoint source next, f =>
    receive endpoint source fun received => (next received).andThen f

instance : Monad Call where
  pure := done
  bind := andThen

/-- Sends, takes or puts aside one frame. There is no call to go on with if the
call is done or has to wait. -/
def step {α : Type} (network : Network) : Call α → Network × Option (Call α)
  | done _ => (network, none)
  | send endpoint target payload next =>
    match network.send endpoint target payload with
    | .ok network => (network, some (next (.ok ())))
    | .error error => (network, some (next (.error error)))
  | receive endpoint source next =>
    match network.look endpoint source with
    | (network, none) => (network, some (receive endpoint source next))
    | (network, some (.delivered payload)) => (network, some (next (.ok payload)))
    | (network, some .closed) =>
      (network, some (next (.error (.groupClosed endpoint.label endpoint.index source))))
    | (network, some .waiting) => (network, none)

/-- Goes on until the call is done or has to wait. -/
def poll {α : Type} : Call α → Network → Network × Call α
  | done result, network => (network, done result)
  | send endpoint target payload next, network =>
    match network.send endpoint target payload with
    | .ok network => (next (.ok ())).poll network
    | .error error => (next (.error error)).poll network
  | receive endpoint source next, network =>
    match network.receive endpoint source with
    | (network, .delivered payload) => (next (.ok payload)).poll network
    | (network, .closed) =>
      (next (.error (.groupClosed endpoint.label endpoint.index source))).poll network
    | (network, .waiting) => (network, receive endpoint source next)

/-- The result, if the call is done. -/
def result? {α : Type} : Call α → Option α
  | done result => some result
  | _ => none

end Call

/-- A call that may fail. -/
abbrev Attempt (α : Type) := ExceptT Error Call α

end Syllogistic.Collective
