import Mathlib.Data.List.Forall2
import Syllogistic.Proofs.Collective.Course

/-!
# How far a collective has come when it fails

A collective can fail before it has done anything, because it is refused, or half way. Up to
where nothing can fail any more, a member has frames to send, one after the other, or values to
take, one member after the other; this is its part. Sending stops at the first member that is
gone, and taking stops at the first frame that holds no value, or when the group is closed.
What was done before that is done: the frames that went out stay where they are, and those
that were taken, the last of them included, are lost.

This is so along every course of a call, whatever the others do meanwhile, and the account of
all frames says where the rest of them are: a member that is told that the group is closed has
put everything that it was sent and has not taken into the queues, in the order it was sent.
Where the call fails in a single poll, nothing else can have changed the group, and the
mailboxes after it are those before it but for the frames that were sent and taken.
-/

namespace Syllogistic.Collective

variable {α β : Type} {label : String} {size member root source target : Nat}
  {network after : Network} {session ended : Session} {endpoint : Endpoint}
  {history : List Event} {error : Error}

/-- What a member has to do in a collective before it has a result. -/
inductive Part where
  /-- Nothing: the collective is refused. -/
  | refused (error : Error)
  | sending (frames : List (Nat × Payload))
  /-- To take a value from each of some members. -/
  | taking (sources : List Nat)

namespace Endpoint

section Parts

variable [Wire.Codec α]

/-- A root with a value has a frame for every other member, and these wait for it. -/
def broadcastPart (endpoint : Endpoint) (root : Nat) (value : Option α) : Part :=
  if endpoint.size ≤ root then .refused (.rootOutOfRange endpoint.label root endpoint.size)
  else if endpoint.index ≠ root then .taking [root]
  else
    match value with
    | none => .refused (.noBroadcastValue endpoint.label)
    | some value =>
      .sending ((endpoint.others root).map fun member => (member, Wire.encode value))

/-- A root with a value for every member has a frame for every other one. -/
def scatterPart (endpoint : Endpoint) (root : Nat) (values : Option (List α)) : Part :=
  if endpoint.size ≤ root then .refused (.rootOutOfRange endpoint.label root endpoint.size)
  else if endpoint.index ≠ root then .taking [root]
  else
    match values with
    | none => .refused (.noScatterValues endpoint.label)
    | some values =>
      if values.length ≠ endpoint.size then
        .refused (.scatterCount endpoint.label endpoint.size values.length)
      else
        .sending ((values.zipIdx.filter (·.2 ≠ root)).map fun (value, member) =>
          (member, Wire.encode value))

/-- The root waits for every other member, and these have a frame for it. -/
def gatherPart (endpoint : Endpoint) (root : Nat) (value : α) : Part :=
  if endpoint.size ≤ root then .refused (.rootOutOfRange endpoint.label root endpoint.size)
  else if endpoint.index ≠ root then .sending [(root, Wire.encode value)]
  else .taking (endpoint.others root)

end Parts

end Endpoint

/-- A frame of each of some members was taken, and each holds a value. -/
def TookEach (α : Type) [Wire.Codec α] (endpoint : Endpoint) (sources : List Nat)
    (history : List Event) : Prop :=
  List.Forall₂ (fun source event => ∃ payload, event = .taken endpoint source payload ∧
    ∃ value : α, Wire.load payload = .ok value) sources history

/-- Nobody else is there, and nothing is left that could be taken from a member: the inbox is
empty, and so is that member's queue. -/
structure Network.Deserted (network : Network) (endpoint : Endpoint) (source : Nat) : Prop where
  others : ∀ other, other ≠ endpoint.index → ¬network.Present endpoint.group other
  mailbox : ∃ mailbox, network.mailbox? endpoint.group endpoint.index = some mailbox ∧
    mailbox.inbox = [] ∧ Mailbox.queue source mailbox.pending = []

/-- A value of a member could not be had. -/
inductive Missed (α : Type) [Wire.Codec α] (endpoint : Endpoint) (source : Nat) (after : Network) :
    List Event → Error → Prop where
  | undecodable {payload : Payload} {cause : Wire.Error} :
    (Wire.load payload : Except Wire.Error α) = .error cause →
      Missed α endpoint source after [.taken endpoint source payload] (.undecodable cause)
  | groupClosed :
    after.Deserted endpoint source →
      Missed α endpoint source after [] (.groupClosed endpoint.label endpoint.index source)

/-- How far a member that has some part to do has come when it fails. -/
inductive Part.Stopped (α : Type) [Wire.Codec α] (endpoint : Endpoint) (network after : Network) :
    Part → List Event → Error → Prop where
  | refused {error : Error} :
    after = network → Part.Stopped α endpoint network after (.refused error) [] error
  /-- One that a frame is for is gone; those below it were there and have theirs. -/
  | hungUp {frames : List (Nat × Payload)} {target : Nat} :
    target ∈ frames.map (·.1) → ¬after.Present endpoint.group target →
      (∀ frame ∈ frames, frame.1 < target → network.Present endpoint.group frame.1) →
        Part.Stopped α endpoint network after (.sending frames)
          ((frames.filter (·.1 < target)).map fun frame => .sent endpoint frame.1 frame.2)
          (.hungUp endpoint.label target)
  /-- A value could not be had; one of each of those below was taken. -/
  | missed {sources : List Nat} {source : Nat} {taken last : List Event} {error : Error} :
    source ∈ sources → TookEach α endpoint (sources.filter (· < source)) taken →
      Missed α endpoint source after last error →
        Part.Stopped α endpoint network after (.taking sources) (taken ++ last) error

/-- What has become of the mailboxes of a group when one of its members has sent and taken some
frames and nothing else has happened. -/
structure Changed (endpoint : Endpoint) (history : List Event) (before after : Network) :
    Prop where
  /-- The others have got what was sent to them. -/
  others : ∀ other, other ≠ endpoint.index →
    after.mailbox? endpoint.group other =
      (before.mailbox? endpoint.group other).map fun mailbox =>
        { mailbox with
          inbox := mailbox.inbox ++
            (sentFrames history endpoint.group endpoint.index other).map (⟨endpoint.index, ·⟩) }
  /-- The frames that stood first in the member's inbox may be in their queues, and what was
  taken is gone. -/
  own : ∃ mailbox left, before.mailbox? endpoint.group endpoint.index = some mailbox ∧
    after.mailbox? endpoint.group endpoint.index = some left ∧
    left.isOpen = mailbox.isOpen ∧ left.inbox <:+ mailbox.inbox ∧
    ∀ source,
      Mailbox.queue source mailbox.pending ++ Mailbox.arrivals source mailbox.inbox =
        takenFrames history endpoint.group source endpoint.index ++
          (Mailbox.queue source left.pending ++ Mailbox.arrivals source left.inbox)

/-- A call that fails has done its part up to where it stopped, and has sent and taken nothing
else. -/
structure Call.FailsWithin (α : Type) [Wire.Codec α] (endpoint : Endpoint) (session : Session)
    (part : Part) (call : Call (Except Error β)) : Prop where
  course : ∀ history after error,
    Course endpoint.label endpoint.size endpoint.index session call history after (.error error) →
      part.Stopped α endpoint session.network after.network history error ∧
        Affected endpoint.size endpoint.index history session after
  poll : ∀ after error, call.poll session.network = (after, .done (.error error)) →
    part.Stopped α endpoint session.network after (call.history session.network) error ∧
      Changed endpoint (call.history session.network) session.network after ∧
        ∀ frames, part = .sending frames →
          after.mailbox? endpoint.group endpoint.index =
            session.network.mailbox? endpoint.group endpoint.index

/-! ## One frame -/

theorem Network.send_eq_error (hne : target ≠ endpoint.index) {payload : Payload}
    (h : network.send endpoint target payload = .error error) :
    error = .hungUp endpoint.label target ∧ ¬network.Present endpoint.group target := by
  rw [send, if_neg hne] at h
  split at h
  · cases h
  · next hgone =>
      cases h
      exact ⟨rfl, fun hpresent => hgone (present_groupOf.mpr hpresent)⟩

theorem Network.look_closed (endpoint : Endpoint) {last : Network}
    (hpresent : network.Present endpoint.group endpoint.index)
    (h : network.look endpoint source = (last, some .closed)) :
    last = network ∧ network.Deserted endpoint source := by
  obtain ⟨mailbox, hmailbox, -⟩ := hpresent
  rw [look_eq_of_mailbox hmailbox] at h
  split at h
  · cases h
  · cases h
  · next hnothing =>
      obtain ⟨rfl, hclosed⟩ := Prod.mk.inj h
      obtain ⟨hinbox, hstream⟩ := Mailbox.look_nothing hnothing
      refine ⟨rfl, fun other hne hother => ?_, mailbox, hmailbox, hinbox,
        (List.append_eq_nil_iff.mp hstream).1⟩
      rw [emptyHanded_of_present hother hne] at hclosed
      cases hclosed

namespace Course

theorem sendFrame_inv {payload : Payload} {result : Except Error Unit}
    (hstart : Underway size member session)
    (h : Course label size member session
      (Endpoint.sendFrame ⟨label, 0, member, size⟩ target payload).run history ended result) :
    Later size session.network ended.network ∧ Underway size member ended ∧
      ((result = .ok () ∧ history = [.sent ⟨label, 0, member, size⟩ target payload] ∧
          session.network.Present 0 target) ∨
        ∃ error, result = .error error ∧ history = [] ∧
          ended.network.send ⟨label, 0, member, size⟩ target payload = .error error) := by
  obtain ⟨ready, hlater, hready, hfront⟩ := send_inv hstart h
  rcases hfront with ⟨network, rest, hsend, rfl, hrest⟩ | ⟨error, hsend, hrest⟩
  · obtain ⟨rfl, rfl, rfl⟩ := done_inv hrest
    have hmove : Move label size ready.network network := .send hready.present hsend
    obtain ⟨-, htarget, -⟩ := Network.send_eq_ok hsend
    exact ⟨hlater.trans (hmove.later hready.account.sound), hready.send hsend,
      .inl ⟨rfl, rfl, hlater.present target htarget⟩⟩
  · obtain ⟨rfl, rfl, rfl⟩ := done_inv hrest
    exact ⟨hlater, hready, .inr ⟨error, rfl, rfl, hsend⟩⟩

theorem receiveValue_inv [Wire.Codec α] {result : Except Error α}
    (hstart : Underway size member session)
    (h : Course label size member session
      (Endpoint.receiveValue ⟨label, 0, member, size⟩ source : Attempt α).run history ended
      result) :
    Underway size member ended ∧
      ((∃ payload value, result = .ok value ∧
          history = [.taken ⟨label, 0, member, size⟩ source payload] ∧
            Wire.load payload = .ok value) ∨
        ∃ error, result = .error error ∧
          Missed α ⟨label, 0, member, size⟩ source ended.network history error) := by
  obtain ⟨ready, network, -, hready, hfront⟩ := receive_inv hstart h
  have hlooked := hready.look label source
  rcases hfront with ⟨payload, rest, hlook, rfl, hrest⟩ | ⟨hlook, hrest⟩
  · obtain ⟨rfl, rfl, rfl⟩ := done_inv hrest
    rw [Network.lookEvent, hlook] at hlooked
    refine ⟨hlooked, ?_⟩
    cases hvalue : (Wire.load payload : Except Wire.Error α) with
    | ok value => exact .inl ⟨payload, value, rfl, rfl, hvalue⟩
    | error cause => exact .inr ⟨_, rfl, .undecodable hvalue⟩
  · obtain ⟨rfl, rfl, rfl⟩ := done_inv hrest
    obtain ⟨rfl, hdeserted⟩ :=
      Network.look_closed ⟨label, 0, member, size⟩ hready.present hlook
    exact ⟨hready, .inr ⟨_, rfl, .groupClosed hdeserted⟩⟩

/-- What is only returned cannot fail. -/
theorem error_of_return {x : Attempt α} {f : α → β}
    (h : Course label size member session (x >>= fun a => (pure (f a) : Attempt β)).run history
      ended (.error error)) :
    Course label size member session x.run history ended (.error error) := by
  rcases bind_inv h with ⟨a, middle, first, rest, -, -, hreturn⟩ | ⟨error, heq, hfirst⟩
  · obtain ⟨-, -, heq⟩ := done_inv hreturn
    cases heq
  · cases heq
    exact hfirst

end Course

/-! ## One frame after the other

The frames before the one that fails are those for members with a lower index, because all
parts are in the order of the members. -/

theorem filter_below (key : α → Nat) {earlier rest : List α} {item : α}
    (h : (earlier ++ item :: rest).Pairwise fun a b => key a < key b) :
    (earlier ++ item :: rest).filter (key · < key item) = earlier := by
  obtain ⟨-, hrest, hearlier⟩ := List.pairwise_append.mp h
  have hbefore : earlier.filter (key · < key item) = earlier := List.filter_eq_self.mpr
    fun a ha => decide_eq_true (hearlier a ha item List.mem_cons_self)
  have hafter : rest.filter (key · < key item) = [] := List.filter_eq_nil_iff.mpr
    fun b hb => by simpa using Nat.le_of_lt ((List.pairwise_cons.mp hrest).1 b hb)
  rw [List.filter_append, hbefore, List.filter_cons_of_neg (by simp), hafter, List.append_nil]

namespace Course

theorem sendAll_error (hstart : Underway size member session) {frames : List (Nat × Payload)}
    (h : Course label size member session
      (Endpoint.sendAll ⟨label, 0, member, size⟩ frames).run history ended (.error error)) :
    ∃ earlier frame rest, frames = earlier ++ frame :: rest ∧
      history = earlier.map (fun frame => .sent ⟨label, 0, member, size⟩ frame.1 frame.2) ∧
        (∀ frame ∈ earlier, session.network.Present 0 frame.1) ∧
          ended.network.send ⟨label, 0, member, size⟩ frame.1 frame.2 = .error error := by
  induction frames generalizing session history with
  | nil =>
      obtain ⟨-, -, heq⟩ := done_inv h
      cases heq
  | cons frame frames ih =>
      rcases bind_inv h with ⟨a, middle, first, others, rfl, hfirst, hothers⟩ | ⟨e, heq, hfirst⟩
      · obtain ⟨hlater, hmiddle, ⟨-, rfl, htarget⟩ | ⟨_, hno, -⟩⟩ := sendFrame_inv hstart hfirst
        · obtain ⟨earlier, stop, rest, rfl, rfl, hearlier, hstop⟩ := ih hmiddle hothers
          refine ⟨frame :: earlier, stop, rest, rfl, rfl, ?_, hstop⟩
          exact List.forall_mem_cons.mpr
            ⟨htarget, fun frame hframe => hlater.present _ (hearlier frame hframe)⟩
        · cases hno
      · cases heq
        obtain ⟨-, -, ⟨hno, -⟩ | ⟨_, heq, rfl, hstop⟩⟩ := sendFrame_inv hstart hfirst
        · cases hno
        · cases heq
          exact ⟨[], frame, frames, rfl, rfl, fun _ hframe => absurd hframe List.not_mem_nil, hstop⟩

theorem receiveAll_error [Wire.Codec α] (hstart : Underway size member session) {own : α}
    {members : List Nat}
    (h : Course label size member session
      (Endpoint.receiveAll ⟨label, 0, member, size⟩ root own members).run history ended
      (.error error)) :
    ∃ earlier source rest taken last, members.filter (· ≠ root) = earlier ++ source :: rest ∧
      history = taken ++ last ∧ TookEach α ⟨label, 0, member, size⟩ earlier taken ∧
        Missed α ⟨label, 0, member, size⟩ source ended.network last error := by
  induction members generalizing session history with
  | nil =>
      obtain ⟨-, -, heq⟩ := done_inv h
      cases heq
  | cons other members ih =>
      rw [Endpoint.receiveAll] at h
      by_cases hroot : other = root
      · -- The root's own value is there.
        rw [if_pos hroot] at h
        rcases bind_inv h with ⟨a, middle, first, others, rfl, hfirst, hothers⟩ | ⟨e, -, hfirst⟩
        · obtain ⟨rfl, rfl, -⟩ := done_inv hfirst
          rw [List.filter_cons_of_neg (by simpa using hroot)]
          exact ih hstart (error_of_return hothers)
        · obtain ⟨-, -, heq⟩ := done_inv hfirst
          cases heq
      · rw [if_neg hroot] at h
        rw [List.filter_cons_of_pos (by simpa using hroot)]
        rcases bind_inv h with ⟨a, middle, first, others, rfl, hfirst, hothers⟩ | ⟨e, heq, hfirst⟩
        · obtain ⟨hmiddle, ⟨payload, value, -, rfl, hload⟩ | ⟨_, hno, -⟩⟩ :=
            receiveValue_inv hstart hfirst
          · obtain ⟨earlier, source, rest, taken, last, hmembers, rfl, htaken, hmissed⟩ :=
              ih hmiddle (error_of_return hothers)
            refine ⟨other :: earlier, source, rest, _ :: taken, last, ?_, rfl, ?_, hmissed⟩
            · rw [hmembers]
              rfl
            · exact .cons ⟨payload, rfl, value, hload⟩ htaken
          · cases hno
        · obtain ⟨-, ⟨_, _, hno, -⟩ | ⟨_, herror, hmissed⟩⟩ := receiveValue_inv hstart hfirst
          · cases hno
          · cases heq
            cases herror
            exact ⟨[], other, _, [], history, rfl, rfl, .nil, hmissed⟩

end Course

/-! ## What a poll changes -/

namespace Changed

theorem refl (endpoint : Endpoint) (hpresent : network.Present endpoint.group endpoint.index) :
    Changed endpoint [] network network where
  others other _ := by
    cases network.mailbox? endpoint.group other with
    | none => rfl
    | some mailbox => simp [sentFrames]
  own := by
    obtain ⟨mailbox, hmailbox, -⟩ := hpresent
    exact ⟨mailbox, mailbox, hmailbox, hmailbox, rfl, List.suffix_refl _, fun _ => rfl⟩

theorem trans {more : List Event} {last : Network} (h : Changed endpoint history network after)
    (h' : Changed endpoint more after last) : Changed endpoint (history ++ more) network last where
  others other hne := by
    rw [h'.others other hne, h.others other hne, sentFrames_append]
    cases network.mailbox? endpoint.group other with
    | none => rfl
    | some mailbox => simp
  own := by
    obtain ⟨first, middle, hfirst, hmiddle, hopen, hsuffix, htaken⟩ := h.own
    obtain ⟨middle', left, hmiddle', hleft, hopen', hsuffix', htaken'⟩ := h'.own
    obtain rfl : middle = middle' := Option.some.inj (hmiddle.symm.trans hmiddle')
    refine ⟨first, left, hfirst, hleft, hopen'.trans hopen, hsuffix'.trans hsuffix,
      fun source => ?_⟩
    rw [htaken source, htaken' source, takenFrames_append, List.append_assoc]

theorem of_send {payload : Payload} (hpresent : network.Present endpoint.group endpoint.index)
    (h : network.send endpoint target payload = .ok after) :
    Changed endpoint [.sent endpoint target payload] network after where
  others other _ := by
    rw [Network.mailbox?_send h, sentFrames_sent]
    by_cases htarget : other = target
    · rw [if_pos ⟨rfl, htarget⟩, if_pos ⟨rfl, rfl, htarget.symm⟩]
      rfl
    · rw [if_neg fun heq => htarget heq.2, if_neg fun heq => htarget heq.2.2.symm]
      cases network.mailbox? endpoint.group other with
      | none => rfl
      | some mailbox => simp
  own := by
    obtain ⟨mailbox, hmailbox, -⟩ := hpresent
    obtain ⟨hne, -, -⟩ := Network.send_eq_ok h
    refine ⟨mailbox, mailbox, hmailbox, ?_, rfl, List.suffix_refl _, fun _ => rfl⟩
    rw [Network.mailbox?_send h, if_neg fun heq => hne heq.2.symm, hmailbox]

theorem of_receive {receipt : Receipt} (hsound : network.Sound fun _ => size)
    (hpresent : network.Present endpoint.group endpoint.index)
    (h : network.receive endpoint source = (after, receipt)) :
    Changed endpoint (receipt.payload?.toList.map (.taken endpoint source)) network after := by
  obtain ⟨mailbox, hmailbox, -⟩ := hpresent
  have hleaves := Mailbox.take_leaves source (hsound _ _ _ hmailbox).2
  rw [Network.receive_eq_of_mailbox hmailbox] at h
  obtain ⟨rfl, hreceipt⟩ : network.put endpoint (mailbox.take source).1 = after ∧
      receipt.payload? = (mailbox.take source).2 := by
    split at h
    · next htake =>
        cases h
        exact ⟨by rw [htake], by rw [htake]; rfl⟩
    · next htake =>
        cases h
        exact ⟨by rw [htake], by rw [htake, Network.payload?_emptyHanded]⟩
  rw [hreceipt]
  refine ⟨fun other hne => ?_, mailbox, _, hmailbox, ?_, hleaves.isOpen, hleaves.inbox,
    fun sender => ?_⟩
  · rw [Network.mailbox?_put hmailbox, if_neg fun heq => hne heq.2, sentFrames_map_taken]
    cases network.mailbox? endpoint.group other with
    | none => rfl
    | some mailbox => simp
  · rw [Network.mailbox?_put hmailbox, if_pos ⟨rfl, rfl⟩]
  · refine (hleaves.stream sender).trans ?_
    rw [takenFrames_map_taken]
    simp [Mailbox.stream]

theorem poll {call : Call α} (hthrough : call.Through (· = endpoint))
    (hendpoint : endpoint = ⟨label, 0, member, size⟩) (hpresent : network.Present 0 member)
    (hsound : network.Sound fun _ => size) :
    Changed endpoint (call.history network) network (call.poll network).1 := by
  subst hendpoint
  induction hthrough generalizing network with
  | done result => exact .refl _ hpresent
  | @send endpoint target payload next heq _ ih =>
      subst heq
      rw [Call.history, Call.poll]
      cases hsend : network.send ⟨label, 0, member, size⟩ target payload with
      | error error => exact ih _ hpresent hsound
      | ok after =>
          have hmove : Move label size network after := .send hpresent hsend
          have hafter := (Network.present_send hsend 0 member).mpr hpresent
          exact (of_send hpresent hsend).trans (ih _ hafter (hmove.later hsound).sound)
  | @receive endpoint source next heq _ ih =>
      subst heq
      obtain ⟨mailbox, hmailbox, hopen⟩ := hpresent
      have hmoves : Moves label size network _ := moves_receive hmailbox hopen hsound source
      have hthere := present_receive label ⟨mailbox, hmailbox, hopen⟩ hsound source
      rw [Call.history, Call.poll]
      rcases hreceive : network.receive ⟨label, 0, member, size⟩ source with ⟨after, receipt⟩
      have hchanged := of_receive hsound ⟨mailbox, hmailbox, hopen⟩ hreceive
      rw [hreceive] at hmoves hthere
      cases receipt with
      | delivered payload => exact hchanged.trans (ih _ hthere (hmoves.later hsound).sound)
      | closed => exact hchanged.trans (ih _ hthere (hmoves.later hsound).sound)
      | waiting => exact hchanged

end Changed

theorem Call.Prompt.mailbox?_poll {call : Call α} (h : call.Prompt) (network : Network)
    (hthrough : call.Through (· = endpoint)) :
    (call.poll network).1.mailbox? endpoint.group endpoint.index =
      network.mailbox? endpoint.group endpoint.index := by
  induction h generalizing network with
  | done result => rfl
  | send endpoint' target payload _ ih =>
      cases hthrough with
      | send target payload heq hnext =>
          subst heq
          rw [poll]
          cases hsend : network.send endpoint' target payload with
          | error error => exact ih _ _ (hnext _)
          | ok after =>
              obtain ⟨hne, -, -⟩ := Network.send_eq_ok hsend
              refine (ih _ _ (hnext _)).trans ?_
              rw [Network.mailbox?_send hsend, if_neg fun heq => hne heq.2.symm]

/-! ## The parts of the collectives -/

theorem Endpoint.sendAll_singleton (endpoint : Endpoint) (target : Nat) (payload : Payload) :
    endpoint.sendAll [(target, payload)] = endpoint.sendFrame target payload :=
  congrArg (fun next => (ExceptT.mk (.send endpoint target payload next) : Attempt Unit))
    (funext fun
      | .ok _ => rfl
      | .error _ => rfl)

theorem Endpoint.pairwise_others (endpoint : Endpoint) (root : Nat) :
    (endpoint.others root).Pairwise (· < ·) :=
  List.Pairwise.filter _ List.pairwise_lt_range

theorem pairwise_zipIdx (items : List α) : items.zipIdx.Pairwise (·.2 < ·.2) := by
  rw [← List.pairwise_map (f := Prod.snd), List.zipIdx_map_snd]
  exact List.pairwise_lt_range'

namespace Call

section

variable [Wire.Codec α] (hstart : Underway size member session)

include hstart

theorem FailsWithin.of_stopped {call : Call (Except Error β)} {part : Part}
    (hthrough : call.Through (· = ⟨label, 0, member, size⟩))
    (hcourse : ∀ history after error,
      Course label size member session call history after (.error error) →
        part.Stopped α ⟨label, 0, member, size⟩ session.network after.network history error)
    (hprompt : ∀ frames, part = .sending frames → call.Prompt) :
    call.FailsWithin α ⟨label, 0, member, size⟩ session part where
  course history after error h := ⟨hcourse history after error h, h.affected hthrough hstart⟩
  poll after error hpoll := by
    have hchanged := Changed.poll hthrough rfl hstart.present hstart.account.sound
    have hprompt' := fun frames hpart =>
      (hprompt frames hpart).mailbox?_poll session.network hthrough
    rw [hpoll] at hchanged hprompt'
    exact ⟨hcourse _ _ _ (.of_poll hthrough rfl hstart hpoll), hchanged, hprompt'⟩

theorem failsWithin_refused (error : Error) :
    (throw error : Attempt β).run.FailsWithin α ⟨label, 0, member, size⟩ session
      (.refused error) := by
  refine .of_stopped hstart (.done _) (fun history after error' h => ?_)
    fun frames hpart => by cases hpart
  obtain ⟨rfl, rfl, heq⟩ := Course.done_inv h
  cases heq
  exact .refused rfl

theorem failsWithin_sending {frames : List (Nat × Payload)} (result : β)
    (horder : frames.Pairwise (·.1 < ·.1)) (hself : ∀ frame ∈ frames, frame.1 ≠ member) :
    (do
      Endpoint.sendAll ⟨label, 0, member, size⟩ frames
      return result : Attempt β).run.FailsWithin α ⟨label, 0, member, size⟩ session
        (.sending frames) := by
  have hthrough := Endpoint.through_sendAll (P := (· = ⟨label, 0, member, size⟩)) rfl frames
  refine .of_stopped hstart (through_bind hthrough fun _ => .done _)
    (fun history after error h => ?_)
    fun _ _ => prompt_bind (Endpoint.prompt_sendAll _ frames) fun _ => .done _
  obtain ⟨earlier, ⟨target, payload⟩, rest, rfl, rfl, hearlier, hstop⟩ :=
    Course.sendAll_error hstart (Course.error_of_return h)
  obtain ⟨rfl, hgone⟩ := Network.send_eq_error (hself (target, payload) (by simp)) hstop
  have hbelow := filter_below Prod.fst horder
  dsimp only at hbelow
  nth_rewrite 2 [← hbelow]
  refine .hungUp (by simp) hgone fun frame hframe hlt => hearlier frame ?_
  rw [← hbelow]
  exact List.mem_filter.mpr ⟨hframe, decide_eq_true hlt⟩

theorem failsWithin_taking_value (source : Nat) :
    (Endpoint.receiveValue ⟨label, 0, member, size⟩ source : Attempt α).run.FailsWithin α
      ⟨label, 0, member, size⟩ session (.taking [source]) := by
  have hthrough := Endpoint.through_receiveValue (α := α) (P := (· = ⟨label, 0, member, size⟩)) rfl
    source
  refine .of_stopped hstart hthrough (fun history after error h => ?_)
    fun frames hpart => by cases hpart
  obtain ⟨-, ⟨_, _, hno, -⟩ | ⟨_, herror, hmissed⟩⟩ := Course.receiveValue_inv hstart h
  · cases hno
  · cases herror
    have htaken : TookEach α ⟨label, 0, member, size⟩ ([source].filter (· < source)) [] := by
      simpa using .nil
    exact .missed (List.mem_singleton_self source) htaken hmissed

theorem failsWithin_taking_all (root : Nat) (own : α) :
    (do
      return some (← Endpoint.receiveAll ⟨label, 0, member, size⟩ root own (List.range size)) :
        Attempt (Option (List α))).run.FailsWithin α ⟨label, 0, member, size⟩ session
          (.taking (Endpoint.others ⟨label, 0, member, size⟩ root)) := by
  have hthrough := Endpoint.through_receiveAll (P := (· = ⟨label, 0, member, size⟩)) rfl root own
    (List.range size)
  refine .of_stopped hstart (through_bind hthrough fun _ => .done _)
    (fun history after error h => ?_) fun frames hpart => by cases hpart
  obtain ⟨earlier, source, rest, taken, last, hmembers, rfl, htaken, hmissed⟩ :=
    Course.receiveAll_error hstart (Course.error_of_return h)
  have horder := Endpoint.pairwise_others ⟨label, 0, member, size⟩ root
  rw [Endpoint.others, hmembers] at horder
  rw [Endpoint.others, hmembers]
  refine .missed (by simp) ?_ hmissed
  have hbelow := filter_below id horder
  simp only [id] at hbelow
  rwa [hbelow]

theorem failsWithin_checked {x : Attempt β} {part : Part}
    (h : root < size → x.run.FailsWithin α ⟨label, 0, member, size⟩ session part) :
    (do
      Endpoint.checkRoot ⟨label, 0, member, size⟩ root
      x : Attempt β).run.FailsWithin α ⟨label, 0, member, size⟩ session
        (if size ≤ root then .refused (.rootOutOfRange label root size) else part) := by
  rcases Nat.lt_or_ge root size with hroot | hroot
  · rw [Endpoint.checkRoot_of_lt hroot, if_neg (Nat.not_le.mpr hroot)]
    exact h hroot
  · rw [Endpoint.checkRoot_of_le hroot, if_pos hroot]
    exact failsWithin_refused hstart _

theorem failsWithin_broadcast (root : Nat) (value : Option α) :
    (Endpoint.broadcast ⟨label, 0, member, size⟩ root value).run.FailsWithin α
      ⟨label, 0, member, size⟩ session
        (Endpoint.broadcastPart ⟨label, 0, member, size⟩ root value) := by
  unfold Endpoint.broadcast Endpoint.broadcastPart
  refine failsWithin_checked hstart fun _ => ?_
  by_cases hne : member ≠ root
  · rw [if_pos hne, if_pos hne]
    exact failsWithin_taking_value hstart root
  · rw [if_neg hne, if_neg hne]
    cases value with
    | none => exact failsWithin_refused hstart _
    | some value =>
        refine failsWithin_sending hstart value
          (List.pairwise_map.mpr (Endpoint.pairwise_others _ root)) ?_
        rintro _ hframe rfl
        obtain ⟨_, hother, rfl⟩ := List.mem_map.mp hframe
        exact absurd (List.mem_filter.mp hother).2 (by simpa using hne)

theorem failsWithin_scatter (root : Nat) (values : Option (List α)) :
    (Endpoint.scatter ⟨label, 0, member, size⟩ root values).run.FailsWithin α
      ⟨label, 0, member, size⟩ session
        (Endpoint.scatterPart ⟨label, 0, member, size⟩ root values) := by
  unfold Endpoint.scatter Endpoint.scatterPart
  refine failsWithin_checked hstart fun hroot => ?_
  by_cases hne : member ≠ root
  · rw [if_pos hne, if_pos hne]
    exact failsWithin_taking_value hstart root
  · rw [if_neg hne, if_neg hne]
    cases values with
    | none => exact failsWithin_refused hstart _
    | some values =>
        dsimp only
        split
        · exact failsWithin_refused hstart _
        · next hlength =>
          rw [not_not] at hlength
          rw [List.getElem?_eq_getElem (by omega)]
          refine failsWithin_sending hstart values[root] ?_ ?_
          · exact List.pairwise_map.mpr ((pairwise_zipIdx values).filter _)
          · rintro _ hframe rfl
            obtain ⟨_, hother, rfl⟩ := List.mem_map.mp hframe
            exact absurd (List.mem_filter.mp hother).2 (by simpa using hne)

theorem failsWithin_gather (root : Nat) (value : α) :
    (Endpoint.gather ⟨label, 0, member, size⟩ root value).run.FailsWithin α
      ⟨label, 0, member, size⟩ session
        (Endpoint.gatherPart ⟨label, 0, member, size⟩ root value) := by
  unfold Endpoint.gather Endpoint.gatherPart
  refine failsWithin_checked hstart fun _ => ?_
  by_cases hne : member ≠ root
  · rw [if_pos hne, if_pos hne]
    rw [← Endpoint.sendAll_singleton]
    exact failsWithin_sending hstart none (List.pairwise_singleton _ _)
      (List.forall_mem_singleton.mpr (Ne.symm hne))
  · rw [if_neg hne, if_neg hne]
    exact failsWithin_taking_all hstart root value

end

end Call

/-- In any state that the members of a group can come to, a broadcast, scatter or gather of one
that is present, with whatever root and argument, fails within its part. -/
theorem failure_within_part
    (hreached : Deeds label size (fun _ => True) (Session.start size) session)
    (hpresent : session.network.Present 0 member) (α : Type) [Wire.Codec α] (root : Nat) :
    let endpoint : Endpoint := ⟨label, 0, member, size⟩
    (∀ value : Option α, (endpoint.broadcast root value).run.FailsWithin α endpoint session
        (endpoint.broadcastPart root value)) ∧
      (∀ values : Option (List α), (endpoint.scatter root values).run.FailsWithin α endpoint
        session (endpoint.scatterPart root values)) ∧
      ∀ value : α, (endpoint.gather root value).run.FailsWithin α endpoint session
        (endpoint.gatherPart root value) := by
  intro endpoint
  have hstart : Underway size member session :=
    ⟨hreached.account (accounted_start size), hpresent⟩
  exact ⟨Call.failsWithin_broadcast hstart root, Call.failsWithin_scatter hstart root,
    Call.failsWithin_gather hstart root⟩

/-- The root gathers truth values, and member 2 has sent a text. The frame of member 1 is lost
with it. -/
theorem failure_within_part_three :
    let session := Session.after "t" 3 [.gather 1 0 true, .gather 2 0 "ab"]
    let call := ((⟨"t", 0, 0, 3⟩ : Endpoint).gather 0 false).run
    (Deeds "t" 3 (fun _ => True) (Session.start 3) session ∧ session.network.Present 0 0) ∧
      call.history session.network = [.taken ⟨"t", 0, 0, 3⟩ 1 [1],
        .taken ⟨"t", 0, 0, 3⟩ 2 [2, 0, 0, 0, 0, 0, 0, 0, 97, 98]] ∧
        (Part.taking [1, 2]).Stopped Bool ⟨"t", 0, 0, 3⟩ session.network [Group.create 3]
          (call.history session.network) (.undecodable (.invalidBool 2)) := by
  intro session call
  have hreached : Deeds "t" 3 (fun _ => True) (Session.start 3) session :=
    .tail (.single ⟨1, trivial, .send ⟨_, rfl, rfl⟩ rfl⟩) ⟨2, trivial, .send ⟨_, rfl, rfl⟩ rfl⟩
  have hpresent : session.network.Present 0 0 := ⟨_, rfl, rfl⟩
  refine ⟨⟨hreached, hpresent⟩, rfl, ?_⟩
  exact (((failure_within_part hreached hpresent Bool 0).2.2 false).poll _ _ rfl).1

/-- A root that finds member 2 gone has sent to member 1 and not to member 3. -/
example :
    let network := (Session.after "t" 4 [.leave 2]).network
    let call := ((⟨"t", 0, 0, 4⟩ : Endpoint).broadcast 0 (some true)).run
    (call.poll network).2.result? = some (.error (.hungUp "t" 2)) ∧
      call.history network = [.sent ⟨"t", 0, 0, 4⟩ 1 [1]] :=
  ⟨rfl, rfl⟩

end Syllogistic.Collective
