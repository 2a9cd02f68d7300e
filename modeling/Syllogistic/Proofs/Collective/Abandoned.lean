import Syllogistic.Proofs.Collective.Conservation
import Syllogistic.Proofs.Collective.Roles

/-!
# Members that do as they like

The members of one group issue collectives that need not match each other, with
any root and any argument, give up those that would have to wait, and leave
whenever they want. The account of the frames is kept through all of it, and at
every point it says of each member that is still there where the frames sent to
it are: taken, put aside, or in the inbox.

Giving up a broadcast or a scatter costs nothing. Such a call waits, if at all,
for its first frame, so what is left of it when it waits is the call as it was
issued, and issuing it again is the same as having waited.
-/

namespace Syllogistic.Collective

/-- What a member of a group may do next. -/
inductive Action : Type 1 where
  | broadcast {α : Type} [Wire.Codec α] (member root : Nat) (value : Option α)
  | scatter {α : Type} [Wire.Codec α] (member root : Nat) (values : Option (List α))
  | gather {α : Type} [Wire.Codec α] (member root : Nat) (value : α)
  | leave (member : Nat)

/-- A network with what was sent and taken on it so far. -/
structure Session where
  network : Network
  history : List Event

namespace Session

/-- A group whose members have not done anything. -/
def start (size : Nat) : Session := ⟨[Group.create size], []⟩

/-- Polls a call once and gives up what is left of it; a member that is gone has
no endpoint to do this with. -/
def issue {α : Type} (session : Session) (endpoint : Endpoint) (call : Call α) : Session :=
  if (session.network.groupOf endpoint).present endpoint.index then
    ⟨(call.poll session.network).1, session.history ++ call.history session.network⟩
  else session

/-- One thing a member does. -/
def perform (label : String) (size : Nat) (session : Session) : Action → Session
  | @Action.broadcast _ _ member root value =>
    let endpoint : Endpoint := ⟨label, 0, member, size⟩
    session.issue endpoint (endpoint.broadcast root value).run
  | @Action.scatter _ _ member root values =>
    let endpoint : Endpoint := ⟨label, 0, member, size⟩
    session.issue endpoint (endpoint.scatter root values).run
  | @Action.gather _ _ member root value =>
    let endpoint : Endpoint := ⟨label, 0, member, size⟩
    session.issue endpoint (endpoint.gather root value).run
  | .leave member => { session with network := session.network.leave ⟨label, 0, member, size⟩ }

/-- What some actions come to, one after the other, from the start. -/
def after (label : String) (size : Nat) (actions : List Action) : Session :=
  actions.foldl (perform label size) (start size)

end Session

/-! ## The account through a session -/

theorem accounted_start (size : Nat) :
    Accounted (fun _ => size) (Session.start size).history (Session.start size).network := by
  refine ⟨fun group member mailbox h => ?_, fun group source target _ => ?_, fun _ _ => rfl⟩
  · have hcreate : Network.mailbox? ([size].map Group.create) group member = some mailbox := h
    obtain ⟨size', hsize, hlt, rfl⟩ := Network.mailbox?_create.mp hcreate
    obtain rfl : size' = size := List.mem_singleton.mp (List.mem_of_getElem? hsize)
    exact ⟨hlt, Mailbox.sound_empty size'⟩
  · exact (Network.stream_create [size] group source target).symm

theorem accounted_issue {α : Type} {size : Nat} {session : Session} {endpoint : Endpoint}
    {call : Call α} (hthrough : ∀ P : Endpoint → Prop, P endpoint → call.Through P)
    (h : Accounted (fun _ => size) session.history session.network) :
    Accounted (fun _ => size) (session.issue endpoint call).history
      (session.issue endpoint call).network := by
  rw [Session.issue]
  split
  · next hpresent =>
      exact h.poll (hthrough _ ((Network.present_groupOf.mp hpresent).lt h.sound))
  · exact h

theorem accounted_perform {label : String} {size : Nat} {session : Session} (action : Action)
    (h : Accounted (fun _ => size) session.history session.network) :
    Accounted (fun _ => size) (session.perform label size action).history
      (session.perform label size action).network := by
  cases action with
  | broadcast member root value =>
      exact accounted_issue (fun _ hP => Endpoint.through_broadcast hP root value) h
  | scatter member root values =>
      exact accounted_issue (fun _ hP => Endpoint.through_scatter hP root values) h
  | gather member root value =>
      exact accounted_issue (fun _ hP => Endpoint.through_gather hP root value) h
  | leave member => exact h.leave _

theorem accounted_after (label : String) (size : Nat) (actions : List Action) :
    Accounted (fun _ => size) (Session.after label size actions).history
      (Session.after label size actions).network := by
  have hfold : ∀ session : Session,
      Accounted (fun _ => size) session.history session.network →
        Accounted (fun _ => size) (actions.foldl (Session.perform label size) session).history
          (actions.foldl (Session.perform label size) session).network := by
    induction actions with
    | nil => exact fun _ h => h
    | cons action rest ih => exact fun session h => ih _ (accounted_perform action h)
  exact hfold _ (accounted_start size)

/-! ## Giving up and issuing again

A call that has to wait can be issued again without loss if it does nothing
before its first wait, and if nothing it does after its first frame makes it wait
once more. A broadcast and a scatter are such calls. The root of a gather is not:
by the time it waits for one member, it may have taken another's frame. -/

/-- A call that never waits. -/
inductive Call.Prompt {α : Type} : Call α → Prop where
  | done (result : α) : Prompt (.done result)
  | send (endpoint : Endpoint) (target : Nat) (payload : Payload)
      {next : Except Error Unit → Call α} :
    (∀ sent, Prompt (next sent)) → Prompt (.send endpoint target payload next)

/-- When the call has to wait, it has sent and taken nothing, and what is left of
it is the call itself. -/
def Call.Reissuable {α : Type} (call : Call α) : Prop :=
  ∀ network, (call.poll network).2.result? = none →
    call.history network = [] ∧ (call.poll network).2 = call

namespace Call

variable {α β ε : Type}

theorem Prompt.andThen {call : Call α} {f : α → Call β} (h : call.Prompt)
    (hf : ∀ a, (f a).Prompt) : (call.andThen f).Prompt := by
  induction h with
  | done result => exact hf result
  | send endpoint target payload _ ih => exact .send endpoint target payload ih

theorem prompt_bind {x : ExceptT ε Call α} {f : α → ExceptT ε Call β} (h : x.run.Prompt)
    (hf : ∀ a, (f a).run.Prompt) : (x >>= f).run.Prompt :=
  h.andThen fun
    | .ok a => hf a
    | .error error => .done (Except.error error)

theorem Prompt.result?_poll {call : Call α} (h : call.Prompt) (network : Network) :
    (call.poll network).2.result? ≠ none := by
  induction h generalizing network with
  | done result => exact Option.some_ne_none result
  | send endpoint target payload _ ih =>
      rw [poll]
      split
      · exact ih _ _
      · exact ih _ _

theorem Prompt.reissuable {call : Call α} (h : call.Prompt) : call.Reissuable :=
  fun network hwaits => absurd hwaits (h.result?_poll network)

/-- A call that waits for nothing but its first frame. -/
theorem reissuable_receive {endpoint : Endpoint} {source : Nat}
    {next : Except Error Payload → Call α} (h : ∀ received, (next received).Prompt) :
    (receive endpoint source next).Reissuable := by
  intro network hwaits
  rcases hreceive : network.receive endpoint source with ⟨left, receipt⟩
  rw [poll, hreceive] at hwaits
  rw [poll, history, hreceive]
  cases receipt with
  | delivered payload => exact absurd hwaits ((h _).result?_poll _)
  | closed => exact absurd hwaits ((h _).result?_poll _)
  | waiting => exact ⟨rfl, rfl⟩

end Call

namespace Endpoint

variable {α : Type} [Wire.Codec α]

theorem prompt_sendAll (endpoint : Endpoint) (frames : List (Nat × Payload)) :
    (endpoint.sendAll frames).run.Prompt := by
  induction frames with
  | nil => exact .done _
  | cons frame rest ih =>
      exact Call.prompt_bind (.send _ _ _ fun sent => .done sent) fun _ => ih

theorem reissuable_receiveValue (endpoint : Endpoint) (source : Nat) :
    (endpoint.receiveValue source : Attempt α).run.Reissuable :=
  Call.reissuable_receive fun
    | .ok _ => .done _
    | .error _ => .done _

theorem reissuable_broadcast (endpoint : Endpoint) (root : Nat) (value : Option α) :
    (endpoint.broadcast root value).run.Reissuable := by
  unfold broadcast
  rcases Nat.lt_or_ge root endpoint.size with hroot | hroot
  · rw [checkRoot_of_lt hroot]
    by_cases hindex : endpoint.index ≠ root
    · rw [if_pos hindex]
      exact reissuable_receiveValue endpoint root
    · rw [if_neg hindex]
      refine Call.Prompt.reissuable (Call.prompt_bind (.done _) fun _ => ?_)
      cases value with
      | none => exact .done _
      | some value => exact Call.prompt_bind (prompt_sendAll endpoint _) fun _ => .done _
  · rw [checkRoot_of_le hroot]
    exact (Call.Prompt.done _).reissuable

theorem reissuable_scatter (endpoint : Endpoint) (root : Nat) (values : Option (List α)) :
    (endpoint.scatter root values).run.Reissuable := by
  unfold scatter
  rcases Nat.lt_or_ge root endpoint.size with hroot | hroot
  · rw [checkRoot_of_lt hroot]
    by_cases hindex : endpoint.index ≠ root
    · rw [if_pos hindex]
      exact reissuable_receiveValue endpoint root
    · rw [if_neg hindex]
      refine Call.Prompt.reissuable (Call.prompt_bind (.done _) fun _ => ?_)
      cases values with
      | none => exact .done _
      | some values =>
          dsimp only
          split
          · exact .done _
          · refine Call.prompt_bind (prompt_sendAll endpoint _) fun _ => ?_
            cases values[root]? <;> exact .done _
  · rw [checkRoot_of_le hroot]
    exact (Call.Prompt.done _).reissuable

end Endpoint

/-- Whatever the members of a group do, the frames that one has sent to another
that is still there are, in order, those that the other has taken, those put
aside for it and those in its inbox; and nobody has a frame of its own. A
broadcast or a scatter that has to wait has taken nothing, and issuing it again
is going on with it. -/
theorem frames_conserved (label : String) (size : Nat) (actions : List Action) :
    (∀ target mailbox,
      (Session.after label size actions).network.mailbox? 0 target = some mailbox →
      mailbox.isOpen = true →
        mailbox.pending[target]? = some [] ∧
        ∀ source,
          sentFrames (Session.after label size actions).history 0 source target =
            takenFrames (Session.after label size actions).history 0 source target ++
              (Mailbox.queue source mailbox.pending ++
                Mailbox.arrivals source mailbox.inbox)) ∧
    ∀ (α : Type) [Wire.Codec α] (endpoint : Endpoint) (root : Nat),
      (∀ value : Option α, (endpoint.broadcast root value).run.Reissuable) ∧
      ∀ values : Option (List α), (endpoint.scatter root values).run.Reissuable := by
  have haccount := accounted_after label size actions
  refine ⟨fun target mailbox hmailbox hopen => ?_, fun α _ endpoint root =>
    ⟨endpoint.reissuable_broadcast root, endpoint.reissuable_scatter root⟩⟩
  have hsent : ∀ source, sentFrames _ 0 source target = _ := fun source =>
    haccount.sent_eq 0 source target ⟨mailbox, hmailbox, hopen⟩
  obtain ⟨hlt, hsound⟩ := haccount.sound 0 target mailbox hmailbox
  refine ⟨?_, fun source => ?_⟩
  · have hself := hsent target
    rw [haccount.sent_self, Network.stream_eq hmailbox, eq_comm, List.append_eq_nil_iff] at hself
    have hqueue := (List.append_eq_nil_iff.mp hself.2).1
    rw [← hsound.length] at hlt
    rw [Mailbox.queue, List.getElem?_eq_getElem hlt] at hqueue
    rw [List.getElem?_eq_getElem hlt]
    exact congrArg some hqueue
  · rw [hsent source, Network.stream_eq hmailbox]
    rfl

/-- Member 0 has sent to member 2, which looked for member 1 in vain and put the
frame aside, and then member 1 has sent as well. -/
theorem frames_conserved_three :
    let session := Session.after "work-0" 3
      [.gather 0 2 true, .scatter 2 1 (none : Option (List Bool)), .gather 1 2 false]
    let mailbox : Mailbox := ⟨true, [⟨1, [0]⟩], [[[1]], [], []]⟩
    session.network.mailbox? 0 2 = some mailbox ∧
      sentFrames session.history 0 0 2 = [[1]] ∧ sentFrames session.history 0 1 2 = [[0]] := by
  intro session mailbox
  have hmailbox : session.network.mailbox? 0 2 = some mailbox := rfl
  have hframes := ((frames_conserved "work-0" 3 _).1 2 mailbox hmailbox rfl).2
  exact ⟨hmailbox, hframes 0, hframes 1⟩

end Syllogistic.Collective
