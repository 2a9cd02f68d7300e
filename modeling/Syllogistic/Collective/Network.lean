import Syllogistic.Fault
import Syllogistic.Memory
import Syllogistic.Text.Quoted
import Syllogistic.Wire.Codec

/-!
# Groups of mailboxes

The members of a group share nothing but messages. Each has a mailbox: an inbox
in which the frames of all other members stand in the order they came, and a
queue for every member into which frames are put aside while one from another
member is looked for. A frame is taken from a member's queue before the inbox is
looked at, so the frames of one sender are met in the order they were sent,
whatever the others send in between.

A member that is gone has closed its mailbox. Sending to it fails; waiting for
one more frame fails once all others are gone and the inbox is empty.
-/

namespace Syllogistic.Collective

/-- The bytes of a message. -/
abbrev Payload := List UInt8

/-- A message with the member that sent it. -/
structure Frame where
  source : Nat
  payload : Payload
  deriving DecidableEq, Repr

/-- What a member has received and not yet taken. -/
structure Mailbox where
  isOpen : Bool
  /-- The frames in the order they came. -/
  inbox : List Frame
  /-- The payloads put aside, by sender, each in the order they came. -/
  pending : List (List Payload)
  deriving DecidableEq, Repr

/-- The mailboxes of a group, by member. -/
abbrev Group := List Mailbox

/-- The groups of a run. -/
abbrev Network := List Group

/-- A member's hold on its group: the group's name and place in the network, the
member's index and the number of members. -/
structure Endpoint where
  label : String
  group : Nat
  index : Nat
  size : Nat
  deriving DecidableEq, Repr

/-- Why a collective cannot be completed. -/
inductive Error where
  | rootOutOfRange (label : String) (root size : Nat)
  | selfMessage (label : String) (member : Nat)
  | hungUp (label : String) (member : Nat)
  | groupClosed (label : String) (member source : Nat)
  | noBroadcastValue (label : String)
  | noScatterValues (label : String)
  | scatterCount (label : String) (needed found : Nat)
  | noRootItem (label : String)
  | undecodable (error : Wire.Error)
  deriving DecidableEq, Repr

def Error.message : Error → String
  | rootOutOfRange label root size =>
    communicationFault (label ++ ": root " ++ toString root ++ " out of range for " ++
      toString size ++ " members")
  | selfMessage label member =>
    communicationFault (label ++ ": member " ++ toString member ++ " cannot message itself")
  | hungUp label member =>
    communicationFault (label ++ ": member " ++ toString member ++ " hung up")
  | groupClosed label member source =>
    communicationFault (label ++ ": member " ++ toString member ++ " waiting on " ++
      toString source ++ " but the group closed")
  | noBroadcastValue label => communicationFault (label ++ ": broadcast root has no value")
  | noScatterValues label => communicationFault (label ++ ": scatter root has no values")
  | scatterCount label needed found =>
    alignmentFault (label ++ ": scatter needs " ++ toString needed ++ " items, got " ++
      toString found)
  | noRootItem label => communicationFault (label ++ ": scatter lost the root item")
  | undecodable error => "encoding error: " ++ error.message

/-- The endpoint in words. -/
def Endpoint.describe (endpoint : Endpoint) : String :=
  "Communicator \x7b label: " ++ Text.quoted endpoint.label ++ ", index: " ++
    toString endpoint.index ++ ", size: " ++ toString endpoint.size ++ " \x7d"

namespace Mailbox

/-- An empty mailbox of a group with so many members. -/
def empty (size : Nat) : Mailbox :=
  ⟨true, [], List.replicate size []⟩

/-- Puts a frame at the end of the inbox. -/
def deliver (frame : Frame) (mailbox : Mailbox) : Mailbox :=
  { mailbox with inbox := mailbox.inbox ++ [frame] }

/-- Closes the mailbox; what is in it is lost. -/
def close (mailbox : Mailbox) : Mailbox :=
  ⟨false, [], mailbox.pending.map fun _ => []⟩

/-- Adds a frame to its sender's queue. -/
def putAside (frame : Frame) (pending : List (List Payload)) : List (List Payload) :=
  pending.modify frame.source (· ++ [frame.payload])

/-- The next payload of a sender's queue, with the queues that are left. -/
def popQueue? (source : Nat) (pending : List (List Payload)) :
    Option (Payload × List (List Payload)) :=
  match pending[source]? with
  | some (payload :: rest) => some (payload, pending.set source rest)
  | _ => none

/-- What one look for a sender's next frame comes to. -/
inductive Look where
  | found (mailbox : Mailbox) (payload : Payload)
  /-- The sender's queue was empty, and the first frame of the inbox is now in its
  own sender's queue. -/
  | moved (mailbox : Mailbox)
  /-- The sender's queue and the inbox are empty. -/
  | nothing
  deriving DecidableEq, Repr

/-- Looks for a sender's next frame: in its queue, else at the inbox. -/
def look (source : Nat) (mailbox : Mailbox) : Look :=
  match popQueue? source mailbox.pending, mailbox.inbox with
  | some (payload, pending), _ => .found ⟨mailbox.isOpen, mailbox.inbox, pending⟩ payload
  | none, frame :: inbox => .moved ⟨mailbox.isOpen, inbox, putAside frame mailbox.pending⟩
  | none, [] => .nothing

/-- Looks for a sender's next frame until it is found or nothing is left to put
aside. What is left of the inbox comes first, then the queues. -/
def sift (source : Nat) (pending : List (List Payload)) :
    List Frame → List Frame × List (List Payload) × Option Payload
  | [] =>
    match popQueue? source pending with
    | some (payload, pending) => ([], pending, some payload)
    | none => ([], pending, none)
  | frame :: inbox =>
    match popQueue? source pending with
    | some (payload, pending) => (frame :: inbox, pending, some payload)
    | none => sift source (putAside frame pending) inbox

/-- Takes the next frame of a sender, if there is one. -/
def take (source : Nat) (mailbox : Mailbox) : Mailbox × Option Payload :=
  let (inbox, pending, found) := sift source mailbox.pending mailbox.inbox
  (⟨mailbox.isOpen, inbox, pending⟩, found)

end Mailbox

namespace Group

/-- A group with so many members, all of them present. -/
def create (size : Nat) : Group :=
  List.replicate size (Mailbox.empty size)

/-- What the endpoints of a group ask for: the two ends of every member's channel, the
list of the endpoints, and for each of them its name, its ways to the others and its
queues. -/
def requests (size : Nat) : List MemoryRequest :=
  .items size 8 :: .items size 8 :: List.replicate size .object ++ .items size 88 ::
    (List.replicate size [.object, .items size 8, .items size 32]).flatten

/-- Whether a member is present. -/
def present (group : Group) (member : Nat) : Bool :=
  (group[member]?).any (·.isOpen)

/-- Whether all members but one are gone. -/
def othersGone (group : Group) (member : Nat) : Bool :=
  (List.range group.length).all fun other => other == member || !group.present other

end Group

/-- What a member gets that looks for a frame. -/
inductive Receipt where
  | delivered (payload : Payload)
  /-- No such frame is there, and none can come any more. -/
  | closed
  /-- No such frame is there yet. -/
  | waiting
  deriving DecidableEq, Repr

namespace Network

/-- The group that an endpoint belongs to. -/
def groupOf (network : Network) (endpoint : Endpoint) : Group :=
  network[endpoint.group]?.getD []

/-- Sends a payload to another member of the endpoint's group. -/
def send (network : Network) (endpoint : Endpoint) (target : Nat) (payload : Payload) :
    Except Error Network :=
  if target = endpoint.index then .error (.selfMessage endpoint.label target)
  else if (network.groupOf endpoint).present target then
    .ok (network.modify endpoint.group fun group =>
      group.modify target (Mailbox.deliver ⟨endpoint.index, payload⟩))
  else .error (.hungUp endpoint.label target)

/-- Puts a mailbox in the place of the endpoint's. -/
def put (network : Network) (endpoint : Endpoint) (mailbox : Mailbox) : Network :=
  network.set endpoint.group ((network.groupOf endpoint).set endpoint.index mailbox)

/-- What a member gets that finds no frame and has none left to put aside. -/
def emptyHanded (network : Network) (endpoint : Endpoint) : Receipt :=
  if (network.groupOf endpoint).othersGone endpoint.index then .closed else .waiting

/-- Looks once for the next frame of a member. There is no receipt yet if a frame
was put aside. -/
def look (network : Network) (endpoint : Endpoint) (source : Nat) : Network × Option Receipt :=
  match (network.groupOf endpoint)[endpoint.index]? with
  | none => (network, some .closed)
  | some mailbox =>
    match mailbox.look source with
    | .found mailbox payload => (network.put endpoint mailbox, some (.delivered payload))
    | .moved mailbox => (network.put endpoint mailbox, none)
    | .nothing => (network, some (network.emptyHanded endpoint))

/-- Looks for the next frame of a member as long as it takes. Frames of other
members that are met on the way are put aside, whether or not one is found. -/
def receive (network : Network) (endpoint : Endpoint) (source : Nat) : Network × Receipt :=
  match (network.groupOf endpoint)[endpoint.index]? with
  | none => (network, .closed)
  | some mailbox =>
    match mailbox.take source with
    | (mailbox, some payload) => (network.put endpoint mailbox, .delivered payload)
    | (mailbox, none) => (network.put endpoint mailbox, network.emptyHanded endpoint)

/-- Gives up an endpoint. -/
def leave (network : Network) (endpoint : Endpoint) : Network :=
  network.modify endpoint.group fun group => group.modify endpoint.index Mailbox.close

end Network

end Syllogistic.Collective
