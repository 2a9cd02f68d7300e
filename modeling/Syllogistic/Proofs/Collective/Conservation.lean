import Syllogistic.Collective.Operation
import Syllogistic.Proofs.Collective.Stream

/-!
# No frame is lost, doubled or credited to another sender

Collectives can be abandoned while they wait, can fail half way, and need not
match each other; members may leave at any time. Whatever they do, what a member
has sent to another that is still there is what the other has taken from it,
followed by what is put aside for it, followed by what stands in the inbox.

A history says which frames were sent and which were taken. The account is kept
by the three things a member can do to the network, so it is kept by every call
that acts through endpoints of members, step by step along the call, and by
every list of such calls and departures.
-/

namespace Syllogistic.Collective

/-- A frame on its way: it is sent through an endpoint to another member, or taken
through an endpoint from another member. -/
inductive Event where
  | sent (endpoint : Endpoint) (target : Nat) (payload : Payload)
  | taken (endpoint : Endpoint) (source : Nat) (payload : Payload)
  deriving DecidableEq, Repr

/-- The payloads that one member of a group has sent to another. -/
def sentFrames (history : List Event) (group source target : Nat) : List Payload :=
  history.filterMap fun
    | .sent endpoint receiver payload =>
      if endpoint.group = group ∧ endpoint.index = source ∧ receiver = target then some payload
      else none
    | .taken .. => none

/-- The payloads that a member of a group has taken from another. -/
def takenFrames (history : List Event) (group source target : Nat) : List Payload :=
  history.filterMap fun
    | .taken endpoint sender payload =>
      if endpoint.group = group ∧ endpoint.index = target ∧ sender = source then some payload
      else none
    | .sent .. => none

/-- The frames that a call sends and takes when it is polled. -/
def Call.history {α : Type} : Call α → Network → List Event
  | .done _, _ => []
  | .send endpoint target payload next, network =>
    match network.send endpoint target payload with
    | .ok network => .sent endpoint target payload :: (next (.ok ())).history network
    | .error error => (next (.error error)).history network
  | .receive endpoint source next, network =>
    match network.receive endpoint source with
    | (network, .delivered payload) =>
      .taken endpoint source payload :: (next (.ok payload)).history network
    | (network, .closed) =>
      (next (.error (.groupClosed endpoint.label endpoint.index source))).history network
    | (_, .waiting) => []

/-- A call all of whose endpoints have a property. -/
inductive Call.Through {α : Type} (P : Endpoint → Prop) : Call α → Prop where
  | done (result : α) : Through P (.done result)
  | send {endpoint : Endpoint} (target : Nat) (payload : Payload)
      {next : Except Error Unit → Call α} :
    P endpoint → (∀ sent, Through P (next sent)) → Through P (.send endpoint target payload next)
  | receive {endpoint : Endpoint} (source : Nat) {next : Except Error Payload → Call α} :
    P endpoint → (∀ received, Through P (next received)) →
      Through P (.receive endpoint source next)

/-- What a receipt brings. -/
def Receipt.payload? : Receipt → Option Payload
  | .delivered payload => some payload
  | .closed => none
  | .waiting => none

/-- The account of the frames: for every member that is present, what was sent to
it is what it has taken and what it has not taken yet. -/
structure Accounted (size : Nat → Nat) (history : List Event) (network : Network) : Prop where
  sound : network.Sound size
  sent_eq : ∀ group source target, network.Present group target →
    sentFrames history group source target =
      takenFrames history group source target ++ network.stream group source target
  sent_self : ∀ group member, sentFrames history group member member = []

/-! ## Histories -/

theorem sentFrames_append (history more : List Event) (group source target : Nat) :
    sentFrames (history ++ more) group source target =
      sentFrames history group source target ++ sentFrames more group source target :=
  List.filterMap_append

theorem takenFrames_append (history more : List Event) (group source target : Nat) :
    takenFrames (history ++ more) group source target =
      takenFrames history group source target ++ takenFrames more group source target :=
  List.filterMap_append

theorem sentFrames_sent (endpoint : Endpoint) (receiver : Nat) (payload : Payload)
    (group source target : Nat) :
    sentFrames [.sent endpoint receiver payload] group source target =
      if endpoint.group = group ∧ endpoint.index = source ∧ receiver = target then [payload]
      else [] := by
  rw [sentFrames, List.filterMap_cons]
  split <;> simp_all

theorem takenFrames_sent (endpoint : Endpoint) (receiver : Nat) (payload : Payload)
    (group source target : Nat) :
    takenFrames [.sent endpoint receiver payload] group source target = [] := rfl

theorem sentFrames_map_taken (endpoint : Endpoint) (sender : Nat) (payloads : List Payload)
    (group source target : Nat) :
    sentFrames (payloads.map (.taken endpoint sender)) group source target = [] := by
  rw [sentFrames, List.filterMap_map]
  exact List.filterMap_eq_nil_iff.mpr fun _ _ => rfl

theorem takenFrames_map_taken (endpoint : Endpoint) (sender : Nat) (payloads : List Payload)
    (group source target : Nat) :
    takenFrames (payloads.map (.taken endpoint sender)) group source target =
      if group = endpoint.group ∧ source = sender ∧ target = endpoint.index then payloads
      else [] := by
  rw [takenFrames, List.filterMap_map]
  split
  · next heq =>
      obtain ⟨rfl, rfl, rfl⟩ := heq
      refine Eq.trans ?_ List.filterMap_some
      exact congrArg (payloads.filterMap ·) (funext fun _ => if_pos ⟨rfl, rfl, rfl⟩)
  · next hne =>
      refine List.filterMap_eq_nil_iff.mpr fun payload _ => if_neg ?_
      rintro ⟨rfl, rfl, rfl⟩
      exact hne ⟨rfl, rfl, rfl⟩

theorem Network.payload?_emptyHanded (network : Network) (endpoint : Endpoint) :
    (network.emptyHanded endpoint).payload? = none := by
  rw [emptyHanded]
  split <;> rfl

/-! ## What a member can do to the network

It can send a frame, change its own mailbox by taking a frame or putting some
aside, and leave. Each of the three keeps the account, and polling a call is
nothing but these. -/

namespace Accounted

variable {size : Nat → Nat} {history : List Event} {network after : Network}
  {endpoint : Endpoint}

theorem send (h : Accounted size history network) (hindex : endpoint.index < size endpoint.group)
    {target : Nat} {payload : Payload} (hsend : network.send endpoint target payload = .ok after) :
    Accounted size (history ++ [.sent endpoint target payload]) after := by
  refine ⟨Network.sound_send hsend hindex h.sound, fun group source member hpresent => ?_,
    fun group member => ?_⟩
  · rw [Network.present_send hsend] at hpresent
    rw [sentFrames_append, takenFrames_append, sentFrames_sent, takenFrames_sent,
      List.append_nil, h.sent_eq group source member hpresent, Network.stream_send hsend,
      List.append_assoc]
    simp only [eq_comm]
  · obtain ⟨hne, -, -⟩ := Network.send_eq_ok hsend
    rw [sentFrames_append, h.sent_self, sentFrames_sent, if_neg, List.append_nil]
    rintro ⟨-, rfl, rfl⟩
    exact hne rfl

/-- Payloads are taken from a mailbox. -/
theorem put (h : Accounted size history network) {before mailbox : Mailbox} {source : Nat}
    {taken : List Payload}
    (hbefore : network.mailbox? endpoint.group endpoint.index = some before)
    (hleaves : Mailbox.Leaves source taken before mailbox) :
    Accounted size (history ++ taken.map (.taken endpoint source))
      (network.put endpoint mailbox) := by
  refine ⟨Network.sound_put hbefore hleaves h.sound, fun group sender member hpresent => ?_,
    fun group member => ?_⟩
  · rw [Network.present_put hbefore hleaves] at hpresent
    rw [sentFrames_append, takenFrames_append, sentFrames_map_taken, takenFrames_map_taken,
      List.append_nil, h.sent_eq group sender member hpresent,
      Network.stream_put hbefore hleaves, List.append_assoc]
  · rw [sentFrames_append, h.sent_self, sentFrames_map_taken]
    rfl

theorem leave (h : Accounted size history network) (endpoint : Endpoint) :
    Accounted size history (network.leave endpoint) := by
  refine ⟨Network.sound_leave h.sound, fun group sender member hpresent => ?_, h.sent_self⟩
  obtain ⟨hpresent, hne⟩ := Network.present_leave.mp hpresent
  rw [h.sent_eq group sender member hpresent, Network.stream_leave, if_neg hne]

theorem receive (h : Accounted size history network) {source : Nat} {receipt : Receipt}
    (hreceive : network.receive endpoint source = (after, receipt)) :
    Accounted size (history ++ receipt.payload?.toList.map (.taken endpoint source)) after := by
  rw [Network.receive, Network.groupOf_getElem?] at hreceive
  split at hreceive
  · cases hreceive
    rw [Receipt.payload?, Option.toList_none, List.map_nil, List.append_nil]
    exact h
  · next mailbox hmailbox =>
      have hleaves := Mailbox.take_leaves source (h.sound _ _ _ hmailbox).2
      have hput := h.put hmailbox hleaves
      split at hreceive
      · next other payload htake =>
          cases hreceive
          rw [htake] at hput
          exact hput
      · next other htake =>
          cases hreceive
          rw [htake] at hput
          rw [Network.payload?_emptyHanded]
          exact hput

/-- The account is kept by every call that acts through endpoints of members. -/
theorem poll {α : Type} {call : Call α}
    (hthrough : call.Through fun endpoint => endpoint.index < size endpoint.group)
    (h : Accounted size history network) :
    Accounted size (history ++ call.history network) (call.poll network).1 := by
  induction hthrough generalizing network history with
  | done result =>
      rw [Call.history, List.append_nil, Call.poll]
      exact h
  | @send endpoint target payload next hindex hnext ih =>
      rw [Call.history, Call.poll]
      cases hsend : network.send endpoint target payload with
      | ok after =>
          rw [List.append_cons]
          exact ih _ (h.send hindex hsend)
      | error error => exact ih _ h
  | @receive endpoint source next hindex hnext ih =>
      rw [Call.history, Call.poll]
      rcases hreceive : network.receive endpoint source with ⟨after, receipt⟩
      have hafter := h.receive hreceive
      cases receipt with
      | delivered payload =>
          rw [List.append_cons]
          exact ih _ hafter
      | closed =>
          rw [Receipt.payload?, Option.toList_none, List.map_nil, List.append_nil] at hafter
          exact ih _ hafter
      | waiting => exact hafter

end Accounted

/-! ## Collectives act through their endpoint -/

namespace Call

variable {P : Endpoint → Prop} {α β ε : Type}

theorem Through.andThen {call : Call α} {f : α → Call β} (h : call.Through P)
    (hf : ∀ a, (f a).Through P) : (call.andThen f).Through P := by
  induction h with
  | done result => exact hf result
  | send target payload hendpoint _ ih => exact .send target payload hendpoint ih
  | receive source hendpoint _ ih => exact .receive source hendpoint ih

theorem through_bind {x : ExceptT ε Call α} {f : α → ExceptT ε Call β} (h : x.run.Through P)
    (hf : ∀ a, (f a).run.Through P) : (x >>= f).run.Through P :=
  h.andThen fun
    | .ok a => hf a
    | .error error => .done (Except.error error)

end Call

namespace Endpoint

variable {P : Endpoint → Prop} {α : Type} [Wire.Codec α] {endpoint : Endpoint}

theorem through_sendAll (h : P endpoint) (frames : List (Nat × Payload)) :
    (endpoint.sendAll frames).run.Through P := by
  induction frames with
  | nil => exact .done _
  | cons frame rest ih =>
      exact Call.through_bind (.send _ _ h fun sent => .done sent) fun _ => ih

theorem through_receiveValue (h : P endpoint) (source : Nat) :
    (endpoint.receiveValue source : Attempt α).run.Through P :=
  .receive source h fun
    | .ok _ => .done _
    | .error _ => .done _

theorem through_receiveAll (h : P endpoint) (root : Nat) (own : α) (members : List Nat) :
    (endpoint.receiveAll root own members).run.Through P := by
  induction members with
  | nil => exact .done _
  | cons member rest ih =>
      have hrest : ∀ value, (endpoint.receiveAll root own rest >>= fun values =>
          (pure (value :: values) : Attempt (List α))).run.Through P := fun value =>
        Call.through_bind ih fun values => .done _
      rw [receiveAll]
      split
      · exact hrest own
      · exact Call.through_bind (through_receiveValue h member) hrest

theorem through_checkRoot (root : Nat) : (endpoint.checkRoot root).run.Through P := by
  rw [checkRoot]
  split <;> exact .done _

theorem through_broadcast (h : P endpoint) (root : Nat) (value : Option α) :
    (endpoint.broadcast root value).run.Through P := by
  refine Call.through_bind (through_checkRoot root) fun _ => ?_
  split
  · exact through_receiveValue h root
  · cases value with
    | none => exact .done _
    | some value => exact Call.through_bind (through_sendAll h _) fun _ => .done _

theorem through_scatter (h : P endpoint) (root : Nat) (values : Option (List α)) :
    (endpoint.scatter root values).run.Through P := by
  refine Call.through_bind (through_checkRoot root) fun _ => ?_
  split
  · exact through_receiveValue h root
  · cases values with
    | none => exact .done _
    | some values =>
        dsimp only
        split
        · exact .done _
        · refine Call.through_bind (through_sendAll h _) fun _ => ?_
          cases values[root]? <;> exact .done _

theorem through_gather (h : P endpoint) (root : Nat) (value : α) :
    (endpoint.gather root value).run.Through P := by
  refine Call.through_bind (through_checkRoot root) fun _ => ?_
  split
  · exact Call.through_bind (.send _ _ h fun sent => .done sent) fun _ => .done _
  · exact Call.through_bind (through_receiveAll h root value _) fun _ => .done _

end Endpoint

end Syllogistic.Collective
