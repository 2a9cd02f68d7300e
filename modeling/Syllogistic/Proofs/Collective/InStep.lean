import Mathlib.Algebra.GroupWithZero.Nat
import Syllogistic.Proofs.Collective.Choreography

/-!
# A crew in step with a choreography

A crew is in step with a list of transfers when every runner has exactly the
things left to do that the list asks of it, and when the frames underway between
two members are those the list says are, in its order. The runners need not be
at the same place of the list: one may have sent all its frames while another
has taken none.

Each step of a runner strikes something off. A frame is sent, and its transfer
stays in the list as one underway; a frame underway is taken, and its transfer
is gone; a frame is put aside, and an inbox is shorter; a runner leaves. So the
crew stays in step, and the effort that is left gets smaller.
-/

namespace Syllogistic.Collective

namespace Network

/-- The number of frames in the inboxes. -/
def frames (network : Network) : Nat :=
  (network.map fun group => (group.map (·.inbox.length)).sum).sum

theorem sum_map_modify {α : Type} (f : α → Nat) (g : α → α) {items : List α} {place : Nat}
    {item : α} (h : items[place]? = some item) :
    ((items.modify place g).map f).sum + f item = (items.map f).sum + f (g item) := by
  induction items generalizing place with
  | nil => cases h
  | cons first rest ih =>
      cases place with
      | zero =>
          cases h
          rw [List.modify_zero_cons, List.map_cons, List.map_cons, List.sum_cons, List.sum_cons]
          omega
      | succ place =>
          have hrest := ih (show rest[place]? = some item from h)
          rw [List.modify_succ_cons, List.map_cons, List.map_cons, List.sum_cons, List.sum_cons]
          omega

theorem frames_modify {network : Network} {group member : Nat} {mailbox : Mailbox}
    (h : network.mailbox? group member = some mailbox) (f : Mailbox → Mailbox) :
    frames (network.modify group fun members => members.modify member f) +
      mailbox.inbox.length = network.frames + (f mailbox).inbox.length := by
  obtain ⟨members, hmembers, hmember⟩ := Option.bind_eq_some_iff.mp h
  have houter := sum_map_modify (fun members : Group => (members.map (·.inbox.length)).sum)
    (fun members => members.modify member f) hmembers
  have hinner := sum_map_modify (·.inbox.length) f hmember
  rw [frames, frames]
  omega

theorem frames_send {network after : Network} {endpoint : Endpoint} {target : Nat}
    {payload : Payload} (h : network.send endpoint target payload = .ok after) :
    after.frames = network.frames + 1 := by
  obtain ⟨-, ⟨mailbox, hmailbox, -⟩, rfl⟩ := send_eq_ok h
  have hframes := frames_modify hmailbox (Mailbox.deliver ⟨endpoint.index, payload⟩)
  rw [Mailbox.deliver, List.length_append, List.length_singleton] at hframes
  omega

theorem frames_put {network : Network} {endpoint : Endpoint} {before : Mailbox}
    (h : network.mailbox? endpoint.group endpoint.index = some before) (mailbox : Mailbox) :
    (network.put endpoint mailbox).frames + before.inbox.length =
      network.frames + mailbox.inbox.length := by
  rw [put_eq_modify]
  exact frames_modify h fun _ => mailbox

theorem sum_map_modify_le {α : Type} {f : α → Nat} {g : α → α} (h : ∀ item, f (g item) ≤ f item)
    (items : List α) (place : Nat) :
    ((items.modify place g).map f).sum ≤ (items.map f).sum := by
  cases hitem : items[place]? with
  | none => exact Nat.le_of_eq (by rw [List.modify_eq_self (List.getElem?_eq_none_iff.mp hitem)])
  | some item =>
      have hsum := sum_map_modify f g hitem
      have hle := h item
      omega

theorem frames_leave (network : Network) (endpoint : Endpoint) :
    (network.leave endpoint).frames ≤ network.frames := by
  have hclose : ∀ mailbox : Mailbox, mailbox.close.inbox.length ≤ mailbox.inbox.length :=
    fun _ => Nat.zero_le _
  exact sum_map_modify_le (fun _ => sum_map_modify_le hclose _ _) _ _

theorem frames_leaveAll (endpoints : List Endpoint) (network : Network) :
    (endpoints.foldl leave network).frames ≤ network.frames := by
  induction endpoints generalizing network with
  | nil => exact Nat.le_refl _
  | cons endpoint rest ih => exact Nat.le_trans (ih _) (frames_leave network endpoint)

theorem frames_create (sizes : List Nat) : frames (sizes.map Group.create) = 0 := by
  rw [frames, List.map_map]
  refine List.sum_eq_zero_iff_forall_eq_nat.mpr fun n hn => ?_
  obtain ⟨size, -, rfl⟩ := List.mem_map.mp hn
  simp [Group.create, Mailbox.empty]

end Network

/-- What a transfer still takes: to send its frame, to put it aside and to take it. -/
def Transfer.cost (transfer : Transfer) : Nat :=
  if transfer.sent then 1 else 3

theorem cost_of_unsent {transfers : List Transfer}
    (h : ∀ transfer ∈ transfers, transfer.sent = false) :
    (transfers.map Transfer.cost).sum = 3 * transfers.length := by
  have hcost : transfers.map Transfer.cost = transfers.map fun _ => 3 :=
    List.map_congr_left fun transfer hmem => by rw [Transfer.cost, h transfer hmem]; rfl
  rw [hcost, List.map_const', List.sum_replicate_nat, Nat.mul_comm]

/-- A bound on the steps that are left. -/
def effort {ρ : Type} (transfers : List Transfer) (crew : Crew ρ) : Nat :=
  (transfers.map Transfer.cost).sum + crew.network.frames + crew.runners.countP (!·.gone)

/-- Between two members, the frames are sent in the order of the list. -/
def InOrder (transfers : List Transfer) : Prop :=
  transfers.Pairwise fun first later =>
    first.On later.group later.source later.target → first.sent = false → later.sent = false

/-- Every runner has to do what the transfers ask of it, and what is underway is
underway. -/
structure InStep {ρ : Type} (staff : Staff) (size : Nat → Nat) (expected : Nat → ρ)
    (transfers : List Transfer) (crew : Crew ρ) : Prop where
  sound : crew.network.Sound size
  proper : ∀ transfer ∈ transfers, staff.Proper crew.runners transfer
  ordered : InOrder transfers
  performs : ∀ (r : Nat) (runner : Runner ρ), crew.runners[r]? = some runner →
    runner.call.Performs (staff.opsOf r transfers) (expected r)
  gone : ∀ (r : Nat) (runner : Runner ρ), crew.runners[r]? = some runner → runner.gone = true →
    staff.opsOf r transfers = []
  owned : ∀ (r : Nat) (runner : Runner ρ), crew.runners[r]? = some runner →
    ∀ endpoint ∈ runner.endpoints, staff.owner endpoint.group endpoint.index = r
  present : ∀ (r : Nat) (runner : Runner ρ), crew.runners[r]? = some runner → runner.gone = false →
    ∀ endpoint ∈ runner.endpoints, crew.network.Present endpoint.group endpoint.index
  stream : ∀ group source target,
    crew.network.stream group source target = underway transfers group source target

theorem InOrder.unsent_later {before later : List Transfer} {transfer : Transfer}
    (h : InOrder (before ++ transfer :: later)) (hsent : transfer.sent = false) :
    ∀ other ∈ later, other.On transfer.group transfer.source transfer.target →
      other.sent = false := by
  intro other hmem hon
  rw [InOrder, List.pairwise_append, List.pairwise_cons] at h
  exact h.2.1.1 other hmem ⟨hon.1.symm, hon.2.1.symm, hon.2.2.symm⟩ hsent

theorem InOrder.dispatched {before later : List Transfer} {transfer : Transfer}
    (h : InOrder (before ++ transfer :: later))
    (hbefore : ∀ first ∈ before,
      first.On transfer.group transfer.source transfer.target → first.sent = true) :
    InOrder (before ++ transfer.dispatched :: later) := by
  rw [InOrder, List.pairwise_append, List.pairwise_cons] at h ⊢
  obtain ⟨hfirst, ⟨-, hlater⟩, hboth⟩ := h
  refine ⟨hfirst, ⟨fun _ _ _ hsent => Bool.noConfusion hsent, hlater⟩, ?_⟩
  intro first hmem other hother hon hsent
  rcases List.mem_cons.mp hother with rfl | hother
  · rw [hbefore first hmem hon] at hsent
    exact Bool.noConfusion hsent
  · exact hboth first hmem other (List.mem_cons_of_mem _ hother) hon hsent

theorem InOrder.erase {before later : List Transfer} {transfer : Transfer}
    (h : InOrder (before ++ transfer :: later)) : InOrder (before ++ later) :=
  List.Pairwise.sublist ((List.sublist_cons_self transfer later).append_left before) h

/-- A crew that has not begun is in step with what its runners have to do. -/
theorem InStep.start {ρ : Type} {staff : Staff} {size : Nat → Nat} {expected : Nat → ρ}
    {transfers : List Transfer} {crew : Crew ρ} (hsound : crew.network.Sound size)
    (hstream : ∀ group source target, crew.network.stream group source target = [])
    (hsent : ∀ transfer ∈ transfers, transfer.sent = false)
    (hproper : ∀ transfer ∈ transfers, staff.Proper crew.runners transfer)
    (hrunners : ∀ (r : Nat) (runner : Runner ρ), crew.runners[r]? = some runner →
      runner.call.Performs (staff.opsOf r transfers) (expected r) ∧ runner.gone = false ∧
        ∀ endpoint ∈ runner.endpoints, staff.owner endpoint.group endpoint.index = r ∧
          crew.network.Present endpoint.group endpoint.index) :
    InStep staff size expected transfers crew where
  sound := hsound
  proper := hproper
  ordered := List.pairwise_of_forall_mem_list fun _ _ later hlater _ _ => hsent later hlater
  performs r runner hrunner := (hrunners r runner hrunner).1
  gone r runner hrunner hgone := by
    rw [(hrunners r runner hrunner).2.1] at hgone
    cases hgone
  owned r runner hrunner endpoint hendpoint :=
    ((hrunners r runner hrunner).2.2 endpoint hendpoint).1
  present r runner hrunner _ endpoint hendpoint :=
    ((hrunners r runner hrunner).2.2 endpoint hendpoint).2
  stream group source target := by
    rw [hstream, underway_eq_nil fun transfer hmem _ => hsent transfer hmem]

/-- The other crew is in step as well, and has less effort left. -/
abbrev Onward {ρ : Type} (staff : Staff) (size : Nat → Nat) (expected : Nat → ρ)
    (transfers : List Transfer) (crew crew' : Crew ρ) : Prop :=
  ∃ transfers', InStep staff size expected transfers' crew' ∧
    effort transfers' crew' < effort transfers crew

/-! ## Replacing a runner

A step concerns one runner. All that is said of the others is carried over from
the crew before the step, once for all kinds of steps. -/

theorem getElem?_set_eq_some {α : Type} {items : List α} {place other : Nat} {after item : α}
    (h : (items.set place after)[other]? = some item) :
    other = place ∧ item = after ∨ other ≠ place ∧ items[other]? = some item := by
  rw [List.getElem?_set] at h
  split at h
  · next heq =>
      split at h
      · cases h
        exact .inl ⟨heq.symm, rfl⟩
      · cases h
  · next hne => exact .inr ⟨Ne.symm hne, h⟩

theorem countP_set_add {α : Type} (p : α → Bool) {items : List α} {place : Nat}
    {before : α} (h : items[place]? = some before) (after : α) :
    (items.set place after).countP p + (if p before then 1 else 0) =
      items.countP p + if p after then 1 else 0 := by
  induction items generalizing place with
  | nil => cases h
  | cons first rest ih =>
      cases place with
      | zero =>
          cases h
          rw [List.set_cons_zero, List.countP_cons, List.countP_cons]
          omega
      | succ place =>
          have hrest := ih (show rest[place]? = some before from h)
          rw [List.set_cons_succ, List.countP_cons, List.countP_cons]
          omega

namespace InStep

variable {ρ : Type} {staff : Staff} {size : Nat → Nat} {expected : Nat → ρ}
  {transfers : List Transfer} {crew : Crew ρ} {m : Nat} {runner : Runner ρ}

theorem not_gone (h : InStep staff size expected transfers crew)
    (hrunner : crew.runners[m]? = some runner) {op : Op} {ops : List Op}
    (hops : staff.opsOf m transfers = op :: ops) : runner.gone = false := by
  cases hgone : runner.gone with
  | false => rfl
  | true =>
      rw [h.gone m runner hrunner hgone] at hops
      cases hops

/-- A member is there as long as a transfer asks something of its owner. -/
theorem present_of_opOf (h : InStep staff size expected transfers crew) {transfer : Transfer}
    (hmem : transfer ∈ transfers) {group index : Nat}
    (hholds : staff.Holds crew.runners group index) {op : Op}
    (hop : staff.opOf (staff.owner group index) transfer = some op) :
    crew.network.Present group index := by
  obtain ⟨runner, hrunner, hendpoint⟩ := hholds
  have hgone : runner.gone = false := by
    cases hgone : runner.gone with
    | false => rfl
    | true =>
        rw [Staff.opOf_eq_none_of_mem (h.gone _ runner hrunner hgone) hmem] at hop
        cases hop
  have hpresent := h.present _ runner hrunner hgone _ hendpoint
  rwa [staff.group_endpoint, staff.index_endpoint] at hpresent

theorem present_target (h : InStep staff size expected transfers crew) {transfer : Transfer}
    (hmem : transfer ∈ transfers) : crew.network.Present transfer.group transfer.target :=
  h.present_of_opOf hmem (h.proper transfer hmem).target
    (staff.opOf_target transfer (h.proper transfer hmem).owner_ne)

theorem present_source (h : InStep staff size expected transfers crew) {transfer : Transfer}
    (hmem : transfer ∈ transfers) (hsent : transfer.sent = false) :
    crew.network.Present transfer.group transfer.source :=
  h.present_of_opOf hmem (h.proper transfer hmem).source (staff.opOf_source transfer hsent)

/-- One runner goes on with its call, and nobody comes or leaves. -/
theorem proceed (h : InStep staff size expected transfers crew)
    (hrunner : crew.runners[m]? = some runner) (hgone : runner.gone = false)
    {network : Network} {call : Call ρ} {transfers' : List Transfer}
    (hsound : network.Sound size)
    (hpresent : ∀ group index, crew.network.Present group index → network.Present group index)
    (hstream : ∀ group source target,
      network.stream group source target = underway transfers' group source target)
    (hcall : call.Performs (staff.opsOf m transfers') (expected m))
    (hothers : ∀ r, r ≠ m → staff.opsOf r transfers' = staff.opsOf r transfers)
    (hproper : ∀ transfer ∈ transfers', staff.Proper crew.runners transfer)
    (hordered : InOrder transfers') :
    InStep staff size expected transfers'
      ⟨network, crew.runners.set m { runner with call }⟩ where
  sound := hsound
  proper transfer hmem := (hproper transfer hmem).set hrunner rfl
  ordered := hordered
  performs r other hother := by
    rcases getElem?_set_eq_some hother with ⟨rfl, rfl⟩ | ⟨hne, hother⟩
    · exact hcall
    · rw [hothers r hne]
      exact h.performs r other hother
  gone r other hother hothergone := by
    rcases getElem?_set_eq_some hother with ⟨rfl, rfl⟩ | ⟨hne, hother⟩
    · exact absurd hothergone (by simp [hgone])
    · rw [hothers r hne]
      exact h.gone r other hother hothergone
  owned r other hother endpoint hendpoint := by
    rcases getElem?_set_eq_some hother with ⟨rfl, rfl⟩ | ⟨hne, hother⟩
    · exact h.owned r runner hrunner endpoint hendpoint
    · exact h.owned r other hother endpoint hendpoint
  present r other hother hothergone endpoint hendpoint := by
    rcases getElem?_set_eq_some hother with ⟨rfl, rfl⟩ | ⟨hne, hother⟩
    · exact hpresent _ _ (h.present r runner hrunner hgone endpoint hendpoint)
    · exact hpresent _ _ (h.present r other hother hothergone endpoint hendpoint)
  stream := hstream

/-! ## Sending

The transfer stays where it is in the list and is underway from now on. The
frame goes to the end of its stream, and so it has to be behind all frames of
the same stream that are underway, which is what the order of the list is for. -/

/-- Before a transfer that is a runner's next, all frames between the same members
are underway; after it, none is. -/
theorem sent_before (h : InStep staff size expected transfers crew)
    {before later : List Transfer} {transfer : Transfer}
    (htransfers : transfers = before ++ transfer :: later)
    (hbefore : staff.opsOf (staff.owner transfer.group transfer.source) before = [])
    (hsent : transfer.sent = false) :
    (∀ first ∈ before, first.On transfer.group transfer.source transfer.target →
      first.sent = true) ∧
    ∀ other ∈ later, other.On transfer.group transfer.source transfer.target →
      other.sent = false := by
  refine ⟨fun first hmem hon => ?_, (htransfers ▸ h.ordered).unsent_later hsent⟩
  refine (Staff.of_opOf_eq_none (Staff.opOf_eq_none_of_mem hbefore hmem)).2 ?_
  rw [hon.1, hon.2.1]

theorem underway_dispatched {before later : List Transfer} {transfer : Transfer}
    (hsent : transfer.sent = false)
    (hlater : ∀ other ∈ later,
      other.On transfer.group transfer.source transfer.target → other.sent = false)
    (group source target : Nat) :
    underway (before ++ transfer.dispatched :: later) group source target =
      underway (before ++ transfer :: later) group source target ++
        if group = transfer.group ∧ source = transfer.source ∧ target = transfer.target then
          [transfer.payload]
        else [] := by
  have hunsent : underway (transfer :: later) group source target =
      underway later group source target := by
    rw [underway_cons, hsent, if_neg (fun hboth => Bool.false_ne_true hboth.1), List.nil_append]
  rw [underway_append, underway_append, underway_cons, hunsent]
  by_cases hon : transfer.On group source target
  · obtain ⟨rfl, rfl, rfl⟩ := hon
    rw [if_pos ⟨rfl, rfl, rfl, rfl⟩, if_pos ⟨rfl, rfl, rfl⟩, underway_eq_nil hlater,
      List.append_nil, List.append_nil]
    rfl
  · rw [if_neg (fun hboth => hon hboth.2),
      if_neg (fun heq => hon ⟨heq.1.symm, heq.2.1.symm, heq.2.2.symm⟩), List.nil_append,
      List.append_nil]

theorem effort_proceed {transfers' : List Transfer} {network : Network} {call : Call ρ}
    (hrunner : crew.runners[m]? = some runner)
    (hcost : (transfers'.map Transfer.cost).sum + network.frames <
      (transfers.map Transfer.cost).sum + crew.network.frames) :
    effort transfers' ⟨network, crew.runners.set m { runner with call }⟩ <
      effort transfers crew := by
  have hcount := countP_set_add (fun runner : Runner ρ => !runner.gone) hrunner
    { runner with call }
  dsimp only at hcount
  rw [effort, effort]
  dsimp only
  omega

theorem send (h : InStep staff size expected transfers crew)
    (hrunner : crew.runners[m]? = some runner) {endpoint : Endpoint} {target : Nat}
    {payload : Payload} {next : Except Error Unit → Call ρ}
    (hcall : runner.call = .send endpoint target payload next) :
    ∃ network, crew.network.send endpoint target payload = .ok network ∧
      Onward staff size expected transfers crew
        ⟨network, crew.runners.set m { runner with call := next (.ok ()) }⟩ := by
  have hperforms := h.performs m runner hrunner
  rw [hcall] at hperforms
  obtain ⟨ops, hops, hnext⟩ := hperforms.send_inv
  have hgone := h.not_gone hrunner hops
  obtain ⟨before, transfer, later, htransfers, hbefore, hop, hlater⟩ :=
    Staff.opsOf_eq_cons hops
  obtain ⟨hsent, rfl, rfl, rfl, rfl⟩ := Staff.opOf_eq_send hop
  have hmem : transfer ∈ transfers := by
    rw [htransfers]
    exact List.mem_append_cons_self
  have hproper := h.proper transfer hmem
  have hne : transfer.target ≠ transfer.source := fun heq =>
    hproper.owner_ne (by rw [heq])
  have hpresent : crew.network.Present
      (staff.endpoint transfer.group transfer.source).group transfer.target := by
    rw [staff.group_endpoint]
    exact h.present_target hmem
  have hsend := Network.send_of_present transfer.payload (by rwa [staff.index_endpoint]) hpresent
  obtain ⟨hfirst, hrest⟩ := h.sent_before htransfers hbefore hsent
  refine ⟨_, hsend, before ++ transfer.dispatched :: later, ?_, ?_⟩
  · refine h.proceed hrunner hgone (Network.sound_send hsend ?_ h.sound)
      (fun group index => (Network.present_send hsend group index).mpr)
      (fun group source target => ?_) ?_ (fun r hr => ?_) (fun other hother => ?_) ?_
    · rw [staff.index_endpoint, staff.group_endpoint]
      exact (h.present_source hmem hsent).lt h.sound
    · rw [Network.stream_send hsend, h.stream, htransfers, underway_dispatched hsent hrest,
        staff.group_endpoint, staff.index_endpoint]
    · rw [Staff.opsOf_append, hbefore,
        Staff.opsOf_cons_none (Staff.opOf_dispatched_source hproper.owner_ne), hlater]
      exact hnext
    · rw [htransfers, Staff.opsOf_append, Staff.opsOf_append, Staff.opsOf, Staff.opsOf,
        Staff.opsOf, List.filterMap_cons, List.filterMap_cons,
        Staff.opOf_dispatched (Ne.symm hr)]
    · rcases List.mem_append.mp hother with hother | hother
      · exact h.proper other (by rw [htransfers]; exact List.mem_append_left _ hother)
      · rcases List.mem_cons.mp hother with rfl | hother
        · exact ⟨hproper.source, hproper.target, hproper.owner_ne⟩
        · refine h.proper other ?_
          rw [htransfers]
          exact List.mem_append_right _ (List.mem_cons_of_mem _ hother)
    · exact (htransfers ▸ h.ordered).dispatched hfirst
  · refine effort_proceed hrunner ?_
    have hcost : transfer.cost = 3 := by rw [Transfer.cost, hsent]; rfl
    have hcost' : transfer.dispatched.cost = 1 := rfl
    rw [Network.frames_send hsend, htransfers, List.map_append, List.map_append,
      List.sum_append, List.sum_append, List.map_cons, List.map_cons, List.sum_cons,
      List.sum_cons, hcost, hcost']
    omega

/-! ## Taking and putting aside

The runner waits for the first frame of a stream, and its transfer is the first
of that stream in the list. So if the stream has a frame, it is that of the
transfer, and if it has none, the transfer has not been sent. -/

/-- Between the same members, nothing comes before the transfer that a runner is
waiting for, and as long as it has not been sent, nothing is underway. -/
theorem underway_next (h : InStep staff size expected transfers crew)
    {before later : List Transfer} {transfer : Transfer}
    (htransfers : transfers = before ++ transfer :: later)
    (hbefore : staff.opsOf (staff.owner transfer.group transfer.target) before = []) :
    underway before transfer.group transfer.source transfer.target = [] ∧
      (transfer.sent = false →
        underway transfers transfer.group transfer.source transfer.target = []) := by
  have hnone : underway before transfer.group transfer.source transfer.target = [] := by
    refine underway_eq_nil fun first hmem hon => ?_
    have hother := (Staff.of_opOf_eq_none (Staff.opOf_eq_none_of_mem hbefore hmem)).1
    rw [hon.1, hon.2.2] at hother
    exact absurd rfl hother
  refine ⟨hnone, fun hsent => ?_⟩
  rw [htransfers, underway_append, hnone, List.nil_append]
  refine underway_eq_nil fun other hmem hon => ?_
  rcases List.mem_cons.mp hmem with rfl | hmem
  · exact hsent
  · exact (htransfers ▸ h.ordered).unsent_later hsent other hmem hon

theorem receive_inv (h : InStep staff size expected transfers crew)
    (hrunner : crew.runners[m]? = some runner) {endpoint : Endpoint} {source : Nat}
    {next : Except Error Payload → Call ρ}
    (hcall : runner.call = .receive endpoint source next) :
    ∃ before transfer later, transfers = before ++ transfer :: later ∧
      staff.opsOf m before = [] ∧ staff.owner transfer.group transfer.target = m ∧
      endpoint = staff.endpoint transfer.group transfer.target ∧ source = transfer.source ∧
      (next (.ok transfer.payload)).Performs (staff.opsOf m later) (expected m) ∧
      runner.gone = false := by
  have hperforms := h.performs m runner hrunner
  rw [hcall] at hperforms
  obtain ⟨payload, ops, hops, hnext⟩ := hperforms.receive_inv
  have hgone := h.not_gone hrunner hops
  obtain ⟨before, transfer, later, htransfers, hbefore, hop, hlater⟩ := Staff.opsOf_eq_cons hops
  obtain ⟨howner, rfl, rfl, rfl⟩ := Staff.opOf_eq_receive hop
  rw [← hlater] at hnext
  exact ⟨before, transfer, later, htransfers, hbefore, howner, rfl, rfl, hnext, hgone⟩

section Receive

variable {endpoint : Endpoint} {source : Nat} {next : Except Error Payload → Call ρ}
  {mailbox after : Mailbox}

theorem receive_mailbox (h : InStep staff size expected transfers crew)
    (hrunner : crew.runners[m]? = some runner)
    (hcall : runner.call = .receive endpoint source next) :
    ∃ mailbox, crew.network.mailbox? endpoint.group endpoint.index = some mailbox ∧
      mailbox.Sound (size endpoint.group) := by
  obtain ⟨before, transfer, later, rfl, -, -, rfl, -, -⟩ := h.receive_inv hrunner hcall
  obtain ⟨mailbox, hmailbox, -⟩ := h.present_target List.mem_append_cons_self
  rw [staff.group_endpoint, staff.index_endpoint]
  exact ⟨mailbox, hmailbox, (h.sound _ _ _ hmailbox).2⟩

theorem found (h : InStep staff size expected transfers crew)
    (hrunner : crew.runners[m]? = some runner)
    (hcall : runner.call = .receive endpoint source next)
    (hmailbox : crew.network.mailbox? endpoint.group endpoint.index = some mailbox)
    {payload : Payload} (hlook : mailbox.look source = .found after payload) :
    Onward staff size expected transfers crew ⟨crew.network.put endpoint after,
      crew.runners.set m { runner with call := next (.ok payload) }⟩ := by
  obtain ⟨before, transfer, later, htransfers, hbefore, rfl, rfl, rfl, hnext, hgone⟩ :=
    h.receive_inv hrunner hcall
  have hleaves := Mailbox.look_found hlook
  have hstream := Network.stream_put hmailbox hleaves
  simp only [staff.group_endpoint, staff.index_endpoint] at hstream
  obtain ⟨hnone, hunsent⟩ := h.underway_next htransfers hbefore
  -- Nothing is underway before the transfer, so the payload is its own.
  have hfirst := hstream transfer.group transfer.source transfer.target
  rw [if_pos ⟨rfl, rfl, rfl⟩, h.stream] at hfirst
  have hsent : transfer.sent = true := by
    cases hsent : transfer.sent with
    | true => rfl
    | false =>
        rw [hunsent hsent] at hfirst
        cases hfirst
  rw [htransfers, underway_append, hnone, underway_cons, if_pos ⟨hsent, rfl, rfl, rfl⟩] at hfirst
  obtain ⟨rfl, hrest⟩ := List.cons.inj hfirst
  refine ⟨before ++ later, ?_, ?_⟩
  · refine h.proceed hrunner hgone (Network.sound_put hmailbox hleaves h.sound)
      (fun group index => (Network.present_put hmailbox hleaves group index).mpr)
      (fun group source target => ?_) ?_ (fun r hr => ?_) (fun other hother => ?_) ?_
    · by_cases hon : transfer.On group source target
      · obtain ⟨rfl, rfl, rfl⟩ := hon
        rw [underway_append, hnone]
        exact hrest.symm
      · have hother := hstream group source target
        rw [if_neg (fun heq => hon ⟨heq.1.symm, heq.2.1.symm, heq.2.2.symm⟩), h.stream,
          htransfers, underway_append, underway_cons, if_neg (fun hboth => hon hboth.2)] at hother
        rw [underway_append]
        exact hother.symm
    · rw [Staff.opsOf_append, hbefore]
      exact hnext
    · rw [htransfers, Staff.opsOf_append, Staff.opsOf_append,
        Staff.opsOf_cons_none (Staff.opOf_sent hsent (Ne.symm hr))]
    · refine h.proper other ?_
      rw [htransfers]
      exact List.mem_append.mpr ((List.mem_append.mp hother).imp_right (List.mem_cons_of_mem _))
    · exact (htransfers ▸ h.ordered).erase
  · refine effort_proceed hrunner ?_
    have hcost : transfer.cost = 1 := by rw [Transfer.cost, hsent]; rfl
    have hframes := Network.frames_put hmailbox after
    have hinbox := hleaves.inbox.length_le
    rw [htransfers, List.map_append, List.map_append, List.sum_append, List.sum_append,
      List.map_cons, List.sum_cons, hcost]
    omega

theorem moved (h : InStep staff size expected transfers crew)
    (hmailbox : crew.network.mailbox? endpoint.group endpoint.index = some mailbox)
    (hlook : mailbox.look source = .moved after) :
    Onward staff size expected transfers crew
      ⟨crew.network.put endpoint after, crew.runners⟩ := by
  obtain ⟨hleaves, hlength⟩ := Mailbox.look_moved (h.sound _ _ _ hmailbox).2 hlook
  refine ⟨transfers, { h with
    sound := Network.sound_put hmailbox hleaves h.sound
    present := fun r runner hrunner hgone other hother =>
      (Network.present_put hmailbox hleaves _ _).mpr (h.present r runner hrunner hgone other hother)
    stream := fun group source' target => ?_ }, ?_⟩
  · rw [← h.stream, Network.stream_put hmailbox hleaves, ite_self, List.nil_append]
  · have hframes := Network.frames_put hmailbox after
    rw [effort, effort]
    dsimp only
    omega

/-- A runner that finds nothing has to wait: whoever is to send the frame is still
there. -/
theorem nothing (h : InStep staff size expected transfers crew)
    (hrunner : crew.runners[m]? = some runner)
    (hcall : runner.call = .receive endpoint source next)
    (hmailbox : crew.network.mailbox? endpoint.group endpoint.index = some mailbox)
    (hlook : mailbox.look source = .nothing) :
    crew.network.emptyHanded endpoint = .waiting := by
  obtain ⟨before, transfer, later, htransfers, hbefore, rfl, rfl, rfl, -, -⟩ :=
    h.receive_inv hrunner hcall
  have hmem : transfer ∈ transfers := by
    rw [htransfers]
    exact List.mem_append_cons_self
  obtain ⟨hnone, -⟩ := h.underway_next htransfers hbefore
  have hstream := h.stream transfer.group transfer.source transfer.target
  rw [staff.group_endpoint, staff.index_endpoint] at hmailbox
  rw [Network.stream_eq hmailbox, (Mailbox.look_nothing hlook).2, htransfers, underway_append,
    hnone, underway_cons] at hstream
  -- A sender that still has its frame to send cannot have left.
  have hsent : transfer.sent = false := by
    cases hsent : transfer.sent with
    | false => rfl
    | true =>
        rw [if_pos ⟨hsent, rfl, rfl, rfl⟩] at hstream
        cases hstream
  have hpresent : crew.network.Present
      (staff.endpoint transfer.group transfer.target).group transfer.source := by
    rw [staff.group_endpoint]
    exact h.present_source hmem hsent
  refine Network.emptyHanded_of_present hpresent ?_
  rw [staff.index_endpoint]
  exact fun heq => (h.proper transfer hmem).owner_ne (by rw [heq])

end Receive

/-! ## Leaving -/

theorem leave (h : InStep staff size expected transfers crew)
    (hrunner : crew.runners[m]? = some runner) (hgone : runner.gone = false) {result : ρ}
    (hresult : runner.call.result? = some result) :
    Onward staff size expected transfers crew
      ⟨runner.leave crew.network, crew.runners.set m { runner with gone := true }⟩ := by
  have hops := (h.performs m runner hrunner).ops_eq_nil hresult
  refine ⟨transfers, ⟨Network.sound_leaveAll runner.endpoints h.sound, fun transfer hmem =>
    (h.proper transfer hmem).set hrunner rfl, h.ordered, fun r other hother => ?_,
    fun r other hother hothergone => ?_, fun r other hother endpoint hendpoint => ?_,
    fun r other hother hothergone endpoint hendpoint => ?_,
    fun group source target => ?_⟩, ?_⟩
  · rcases getElem?_set_eq_some hother with ⟨rfl, rfl⟩ | ⟨hne, hother⟩
    · exact h.performs r runner hrunner
    · exact h.performs r other hother
  · rcases getElem?_set_eq_some hother with ⟨rfl, rfl⟩ | ⟨hne, hother⟩
    · exact hops
    · exact h.gone r other hother hothergone
  · rcases getElem?_set_eq_some hother with ⟨rfl, rfl⟩ | ⟨hne, hother⟩
    · exact h.owned r runner hrunner endpoint hendpoint
    · exact h.owned r other hother endpoint hendpoint
  · rcases getElem?_set_eq_some hother with ⟨rfl, rfl⟩ | ⟨hne, hother⟩
    · cases hothergone
    · refine (Network.present_leaveAll runner.endpoints _ _).mpr
        ⟨h.present r other hother hothergone endpoint hendpoint, fun mine hmine heq => hne ?_⟩
      rw [← h.owned r other hother endpoint hendpoint, ← h.owned m runner hrunner mine hmine,
        heq.1, heq.2]
  · rw [Runner.leave, Network.stream_leaveAll]
    split
    · next hclosed =>
        obtain ⟨mine, hmine, rfl, rfl⟩ := hclosed
        refine (underway_eq_nil fun transfer hmem hon => ?_).symm
        have hother := (Staff.of_opOf_eq_none (Staff.opOf_eq_none_of_mem hops hmem)).1
        rw [hon.1, hon.2.2] at hother
        exact absurd (h.owned m runner hrunner mine hmine) hother
    · exact h.stream group source target
  · have hcount := countP_set_add (fun runner : Runner ρ => !runner.gone) hrunner
      { runner with gone := true }
    have hframes := Network.frames_leaveAll runner.endpoints crew.network
    simp only [hgone, Bool.not_false, Bool.not_true, if_true, Bool.false_eq_true, if_false]
      at hcount
    rw [effort, effort]
    dsimp only [Runner.leave]
    omega

end InStep

end Syllogistic.Collective
