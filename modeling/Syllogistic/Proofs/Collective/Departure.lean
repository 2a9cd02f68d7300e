import Mathlib.Logic.Relation
import Syllogistic.Proofs.Collective.Abandoned
import Syllogistic.Proofs.Collective.Polling

/-!
# Waiting for a member that is gone

All the members of a group put their frames into one inbox, and an inbox is closed when the
last of the others is gone. So a member that waits for one that has left is not told of it.
Nothing will come from there any more: a member that is gone sends nothing, and what is not
there is not put aside or taken either. But the call waits on as long as anybody else is
there, through everything the others do, and ends with an error only once all of them have
left.

A state is reached by moves of single frames, any number of them by any members that are
present. Whatever calls the members make, a step of a call is such a move, or nothing.
-/

namespace Syllogistic.Collective

variable {label : String} {size source member : Nat} {network after : Network}

/-- One thing that a member of the group does: it sends a frame or looks once for one while
it is present, or it leaves. -/
inductive Move (label : String) (size : Nat) (network : Network) : Network → Prop where
  | send {member target : Nat} {payload : Payload} {after : Network} :
    network.Present 0 member → network.send ⟨label, 0, member, size⟩ target payload = .ok after →
      Move label size network after
  | look {member : Nat} (source : Nat) :
    network.Present 0 member →
      Move label size network (network.look ⟨label, 0, member, size⟩ source).1
  | leave (member : Nat) : Move label size network (network.leave ⟨label, 0, member, size⟩)

/-- Moves of any members, one after the other. -/
def Moves (label : String) (size : Nat) : Network → Network → Prop :=
  Relation.ReflTransGen (Move label size)

/-- The call ends with an error once all others are gone, and waits as long as one is
there. -/
structure Call.EndsWithGroup {α : Type} (endpoint : Endpoint) (source : Nat) (network : Network)
    (call : Call (Except Error α)) : Prop where
  closed : (∀ other, other ≠ endpoint.index → ¬network.Present endpoint.group other) →
    (call.poll network).2.result? =
      some (.error (.groupClosed endpoint.label endpoint.index source))
  waits : ∀ other, other ≠ endpoint.index → network.Present endpoint.group other →
    (call.poll network).2 = call ∧ call.result? = none

/-- What a later state of the group has kept of an earlier one. -/
structure Later (size : Nat) (network after : Network) : Prop where
  sound : after.Sound fun _ => size
  /-- Nobody comes back. -/
  present : ∀ member, after.Present 0 member → network.Present 0 member
  /-- Nothing comes from a member that is gone. -/
  nothing : ∀ source target, ¬network.Present 0 source → network.stream 0 source target = [] →
    after.stream 0 source target = []

/-! ## What a move can do

A look changes the mailbox of the member that looks, by what it takes or by nothing. -/

theorem Network.look_cases (endpoint : Endpoint) {before : Mailbox}
    (hbefore : network.mailbox? endpoint.group endpoint.index = some before)
    (hsound : network.Sound fun _ => size) (source : Nat) :
    (network.look endpoint source).1 = network ∨
      ∃ taken after, Mailbox.Leaves source taken before after ∧
        (network.look endpoint source).1 = network.put endpoint after := by
  rw [look_eq_of_mailbox hbefore]
  cases hlook : before.look source with
  | found after payload => exact .inr ⟨_, after, Mailbox.look_found hlook, rfl⟩
  | moved after =>
      exact .inr ⟨_, after, (Mailbox.look_moved (hsound _ _ _ hbefore).2 hlook).1, rfl⟩
  | nothing => exact .inl rfl

namespace Later

theorem refl (hsound : network.Sound fun _ => size) : Later size network network :=
  ⟨hsound, fun _ h => h, fun _ _ _ h => h⟩

theorem trans {last : Network} (h : Later size network after) (h' : Later size after last) :
    Later size network last where
  sound := h'.sound
  present member hpresent := h.present member (h'.present member hpresent)
  nothing source target hgone hnothing :=
    h'.nothing source target (fun hpresent => hgone (h.present source hpresent))
      (h.nothing source target hgone hnothing)

end Later

theorem Move.later (h : Move label size network after) (hsound : network.Sound fun _ => size) :
    Later size network after := by
  cases h with
  | @send actor receiver payload after hpresent hsend =>
      refine ⟨Network.sound_send hsend (hpresent.lt hsound) hsound,
        fun member => (Network.present_send hsend 0 member).mp,
        fun source target hgone hnothing => ?_⟩
      rw [Network.stream_send hsend, hnothing, List.nil_append, if_neg]
      -- The frame comes from the actor, who is there.
      rintro ⟨-, rfl, -⟩
      exact hgone hpresent
  | @look actor sought hpresent =>
      obtain ⟨before, hbefore, -⟩ := hpresent
      rcases Network.look_cases ⟨label, 0, actor, size⟩ hbefore hsound sought with
        heq | ⟨taken, after, hleaves, heq⟩
      · rw [heq]
        exact .refl hsound
      · rw [heq]
        refine ⟨Network.sound_put hbefore hleaves hsound,
          fun member => (Network.present_put hbefore hleaves 0 member).mp,
          fun source target _ hnothing => ?_⟩
        -- What was under way is what the look took, followed by what still is.
        have hstream : network.stream 0 source target = _ ++
            (network.put ⟨label, 0, actor, size⟩ after).stream 0 source target :=
          Network.stream_put hbefore hleaves 0 source target
        rw [hnothing, eq_comm, List.append_eq_nil_iff] at hstream
        exact hstream.2
  | leave actor =>
      refine ⟨Network.sound_leave hsound, fun member h => (Network.present_leave.mp h).1,
        fun source target _ hnothing => ?_⟩
      rw [Network.stream_leave, hnothing, ite_self]

theorem Moves.later (h : Moves label size network after)
    (hsound : network.Sound fun _ => size) : Later size network after := by
  induction h with
  | refl => exact .refl hsound
  | tail _ hmove ih => exact ih.trans (hmove.later ih.sound)

/-! ## Calls are made of moves -/

theorem Move.of_step {α : Type} {endpoint : Endpoint} {call : Call α}
    (hthrough : call.Through (· = endpoint)) (hendpoint : endpoint = ⟨label, 0, member, size⟩)
    (hpresent : network.Present 0 member) :
    (call.step network).1 = network ∨ Move label size network (call.step network).1 := by
  subst hendpoint
  cases hthrough with
  | done result => exact .inl rfl
  | @send endpoint target payload next heq _ =>
      subst heq
      rw [Call.step]
      cases hsend : network.send ⟨label, 0, member, size⟩ target payload with
      | error error => exact .inl rfl
      | ok after => exact .inr (.send hpresent hsend)
  | @receive endpoint source next heq _ =>
      subst heq
      have hlook : ((Call.receive ⟨label, 0, member, size⟩ source next).step network).1 =
          (network.look ⟨label, 0, member, size⟩ source).1 := by
        rw [Call.step]
        split <;> next heq => rw [heq]
      rw [hlook]
      exact .inr (.look source hpresent)

/-- Looking as long as it takes is moves of the one that looks. -/
theorem moves_receive {network : Network} {mailbox : Mailbox}
    (hmailbox : network.mailbox? 0 member = some mailbox) (hopen : mailbox.isOpen = true)
    (hsound : network.Sound fun _ => size) (source : Nat) :
    Moves label size network (network.receive ⟨label, 0, member, size⟩ source).1 := by
  have hmove : Move label size network _ := .look source ⟨mailbox, hmailbox, hopen⟩
  have hlook : network.look ⟨label, 0, member, size⟩ source = _ :=
    Network.look_eq_of_mailbox hmailbox source
  rw [Network.receive_eq_look hsound]
  cases hfound : mailbox.look source with
  | found after payload =>
      rw [hfound] at hlook
      rw [hlook] at hmove ⊢
      exact .single hmove
  | nothing =>
      rw [hfound] at hlook
      rw [hlook]
      exact .refl
  | moved after =>
      -- A frame that was put aside leaves a shorter inbox to look through.
      obtain ⟨hleaves, hshorter⟩ := Mailbox.look_moved (hsound _ _ _ hmailbox).2 hfound
      rw [hfound] at hlook
      rw [hlook] at hmove ⊢
      have hafter : (network.put ⟨label, 0, member, size⟩ after).mailbox? 0 member =
          some after := by rw [Network.mailbox?_put hmailbox, if_pos ⟨rfl, rfl⟩]
      have hstill : after.isOpen = true := by rw [hleaves.isOpen, hopen]
      exact .head hmove (moves_receive hafter hstill (hmove.later hsound).sound source)
termination_by mailbox.inbox.length

theorem present_receive (label : String) (hpresent : network.Present 0 member)
    (hsound : network.Sound fun _ => size) (source : Nat) :
    (network.receive ⟨label, 0, member, size⟩ source).1.Present 0 member := by
  obtain ⟨mailbox, hmailbox, hopen⟩ := hpresent
  have hleaves := Mailbox.take_leaves source (hsound _ _ _ hmailbox).2
  rw [Network.receive_eq_of_mailbox hmailbox]
  have hput : (network.put ⟨label, 0, member, size⟩ (mailbox.take source).1).Present 0 member :=
    (Network.present_put hmailbox hleaves 0 member).mpr ⟨mailbox, hmailbox, hopen⟩
  split
  · next heq => rwa [heq] at hput
  · next heq => rwa [heq] at hput

/-- So is polling a call. -/
theorem moves_poll {α : Type} {endpoint : Endpoint} {call : Call α}
    (hthrough : call.Through (· = endpoint)) (hendpoint : endpoint = ⟨label, 0, member, size⟩)
    (hpresent : network.Present 0 member) (hsound : network.Sound fun _ => size) :
    Moves label size network (call.poll network).1 := by
  subst hendpoint
  induction hthrough generalizing network with
  | done result => exact .refl
  | @send endpoint target payload next heq _ ih =>
      subst heq
      rw [Call.poll]
      cases hsend : network.send ⟨label, 0, member, size⟩ target payload with
      | error error => exact ih _ hpresent hsound
      | ok after =>
          have hmove : Move label size network after := .send hpresent hsend
          have hafter := (Network.present_send hsend 0 member).mpr hpresent
          exact .head hmove (ih _ hafter (hmove.later hsound).sound)
  | @receive endpoint source next heq _ ih =>
      subst heq
      obtain ⟨mailbox, hmailbox, hopen⟩ := hpresent
      have hmoves : Moves label size network _ := moves_receive hmailbox hopen hsound source
      have hafter := present_receive label ⟨mailbox, hmailbox, hopen⟩ hsound source
      rw [Call.poll]
      rcases hreceive : network.receive ⟨label, 0, member, size⟩ source with ⟨after, receipt⟩
      rw [hreceive] at hmoves hafter
      cases receipt with
      | delivered payload => exact hmoves.trans (ih _ hafter (hmoves.later hsound).sound)
      | closed => exact hmoves.trans (ih _ hafter (hmoves.later hsound).sound)
      | waiting => exact hmoves

theorem sound_start (size : Nat) : Network.Sound (fun _ => size) [Group.create size] :=
  (accounted_start size).sound

theorem moves_issue {α : Type} {session : Session} {call : Call α}
    (hthrough : ∀ P : Endpoint → Prop, P ⟨label, 0, member, size⟩ → call.Through P)
    (h : Moves label size [Group.create size] session.network) :
    Moves label size [Group.create size]
      (session.issue ⟨label, 0, member, size⟩ call).network := by
  rw [Session.issue]
  split
  · next hpresent =>
      have hself := hthrough (· = ⟨label, 0, member, size⟩) rfl
      exact h.trans (moves_poll hself rfl (Network.present_groupOf.mp hpresent)
        (h.later (sound_start size)).sound)
  · exact h

/-- Every state of a session is reached by moves. -/
theorem moves_after (label : String) (size : Nat) (actions : List Action) :
    Moves label size [Group.create size] (Session.after label size actions).network := by
  have hfold : ∀ session : Session, Moves label size [Group.create size] session.network →
      Moves label size [Group.create size]
        (actions.foldl (Session.perform label size) session).network := by
    induction actions with
    | nil => exact fun _ h => h
    | cons action rest ih =>
        intro session h
        refine ih _ ?_
        cases action with
        | broadcast member root value =>
            exact moves_issue (fun _ hP => Endpoint.through_broadcast hP root value) h
        | scatter member root values =>
            exact moves_issue (fun _ hP => Endpoint.through_scatter hP root values) h
        | gather member root value =>
            exact moves_issue (fun _ hP => Endpoint.through_gather hP root value) h
        | leave member => exact h.tail (.leave member)
  exact hfold _ .refl

/-! ## A member that is gone

Whoever waits for it finds nothing, and then it depends on the others. -/

theorem Network.emptyHanded_of_alone {endpoint : Endpoint}
    (h : ∀ other, other ≠ endpoint.index → ¬network.Present endpoint.group other) :
    network.emptyHanded endpoint = .closed := by
  rw [emptyHanded, if_pos]
  refine List.all_eq_true.mpr fun other _ => ?_
  by_cases hself : other = endpoint.index
  · simp [hself]
  · have hother : ¬(network.groupOf endpoint).present other = true := fun hpresent =>
      h other hself (Network.present_groupOf.mp hpresent)
    simp [hother]

theorem receive_of_nothing (label : String) (hsound : network.Sound fun _ => size)
    (hnothing : network.stream 0 source member = []) (hpresent : network.Present 0 member) :
    (network.receive ⟨label, 0, member, size⟩ source).2 =
      network.emptyHanded ⟨label, 0, member, size⟩ := by
  obtain ⟨mailbox, hmailbox, hopen⟩ := hpresent
  have hstream := (Mailbox.take_leaves source (hsound _ _ _ hmailbox).2).stream source
  rw [← Network.stream_eq hmailbox, hnothing, if_pos rfl, eq_comm,
    List.append_eq_nil_iff] at hstream
  have hnone : (mailbox.take source).2 = none := Option.toList_eq_nil_iff.mp hstream.1
  rw [Network.receive_eq_of_mailbox hmailbox]
  split
  · next heq =>
      rw [heq] at hnone
      cases hnone
  · rfl

theorem endsWithGroup {α : Type} (hsound : network.Sound fun _ => size)
    (hnothing : network.stream 0 source member = []) (hpresent : network.Present 0 member)
    {next : Except Error Payload → Call (Except Error α)}
    (hnext : ∀ error, next (.error error) = .done (.error error)) :
    (Call.receive ⟨label, 0, member, size⟩ source next).EndsWithGroup ⟨label, 0, member, size⟩
      source network := by
  have hreceipt := receive_of_nothing label hsound hnothing hpresent
  rcases hreceive : network.receive ⟨label, 0, member, size⟩ source with ⟨left, receipt⟩
  rw [hreceive] at hreceipt
  dsimp only at hreceipt
  refine ⟨fun halone => ?_, fun other hne hother => ⟨?_, rfl⟩⟩
  · rw [Network.emptyHanded_of_alone halone] at hreceipt
    rw [Call.poll, hreceive, hreceipt]
    dsimp only
    rw [hnext]
    rfl
  · rw [Network.emptyHanded_of_present hother hne] at hreceipt
    rw [Call.poll, hreceive, hreceipt]

/-- From a state that the members of a group can reach, in which one of them is gone and
nothing it sent to another is left, every later state is such a state too. As long as the
other is there, a broadcast or a scatter that it joins with the first as the root, or the next
frame of a gather, is waited for until all others are gone, and then fails. -/
theorem departed_unnoticed {later : Network}
    (hreached : Moves label size [Group.create size] network) (hsource : source < size)
    (hgone : ¬network.Present 0 source) (hnothing : network.stream 0 source member = [])
    (hlater : Moves label size network later) (hpresent : later.Present 0 member) :
    let endpoint : Endpoint := ⟨label, 0, member, size⟩
    later.stream 0 source member = [] ∧
      ∀ (α : Type) [Wire.Codec α],
        (∀ value : Option α,
          (endpoint.broadcast source value).run.EndsWithGroup endpoint source later) ∧
        (∀ values : Option (List α),
          (endpoint.scatter source values).run.EndsWithGroup endpoint source later) ∧
        ∀ (own : α) (rest : List Nat),
          (endpoint.receiveAll member own (source :: rest)).run.EndsWithGroup endpoint source
            later := by
  intro endpoint
  have hafter := hlater.later (hreached.later (sound_start size)).sound
  have hstill := hafter.nothing source member hgone hnothing
  have hne : source ≠ member := by
    rintro rfl
    exact hgone (hafter.present _ hpresent)
  -- Each of the three first waits for a frame of the member that is gone.
  refine ⟨hstill, fun α _ => ⟨fun value => ?_, fun values => ?_, fun own rest => ?_⟩⟩
  · rw [endpoint.broadcast_of_ne hsource (Ne.symm hne)]
    exact endsWithGroup hafter.sound hstill hpresent fun _ => rfl
  · rw [endpoint.scatter_of_ne hsource (Ne.symm hne)]
    exact endsWithGroup hafter.sound hstill hpresent fun _ => rfl
  · rw [Endpoint.receiveAll, if_neg hne]
    exact endsWithGroup hafter.sound hstill hpresent fun _ => rfl

/-- Member 0 has left without a word. Member 1 is told of it once member 2 has left, too. -/
theorem departed_unnoticed_three :
    let network := (Session.after "t" 3 [.leave 0]).network
    let later := network.leave ⟨"t", 0, 2, 3⟩
    let call := ((⟨"t", 0, 1, 3⟩ : Endpoint).broadcast 0 (none : Option Bool)).run
    (Moves "t" 3 [Group.create 3] network ∧ 0 < 3 ∧ ¬network.Present 0 0 ∧
        network.stream 0 0 1 = [] ∧ Moves "t" 3 network later ∧ later.Present 0 1) ∧
      (call.poll later).2.result? = some (.error (.groupClosed "t" 1 0)) := by
  intro network later call
  have hreached : Moves "t" 3 [Group.create 3] network := moves_after "t" 3 [.leave 0]
  have hgone : ¬network.Present 0 0 := fun ⟨_, hmailbox, hopen⟩ => by
    cases hmailbox
    cases hopen
  have hlater : Moves "t" 3 network later := .single (.leave 2)
  have hpresent : later.Present 0 1 := ⟨_, rfl, rfl⟩
  refine ⟨⟨hreached, by decide, hgone, rfl, hlater, hpresent⟩, ?_⟩
  obtain ⟨-, hcalls⟩ := departed_unnoticed hreached (by decide) hgone rfl hlater hpresent
  refine ((hcalls Bool).1 none).closed ?_
  rintro other hne ⟨mailbox, hmailbox, hopen⟩
  match other with
  | 0 => cases hmailbox; cases hopen
  | 1 => exact hne rfl
  | 2 => cases hmailbox; cases hopen
  | _ + 3 => cases hmailbox

/-- While member 2 is there, member 1 gets no answer at all, an error or other. -/
theorem departed_root_unanswered :
    let network := (Session.after "t" 3 [.leave 0]).network
    let call := ((⟨"t", 0, 1, 3⟩ : Endpoint).broadcast 0 (none : Option Bool)).run
    network.Present 0 1 ∧ ¬network.Present 0 0 ∧ network.stream 0 0 1 = [] ∧
      (call.poll network).2.result? = none := by
  intro network call
  refine ⟨⟨_, rfl, rfl⟩, fun ⟨_, hmailbox, hopen⟩ => ?_, rfl, rfl⟩
  cases hmailbox
  cases hopen

end Syllogistic.Collective
