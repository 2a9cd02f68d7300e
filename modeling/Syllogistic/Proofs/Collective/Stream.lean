import Syllogistic.Collective.Network

/-!
# The frames of one sender, wherever they stand

A frame that a member has not taken yet is either in its sender's queue or still
in the inbox, and the order in which it will be met is that of the queue first
and of the inbox after it. This list is the sender's stream. A frame that arrives
goes to the end of it, and a frame that is taken comes off its front; putting
frames aside leaves every stream as it is, which is why a member may look for
one sender's frames without losing track of another's.

The lemmas about mailboxes say this of `look`, of `take` and of `deliver`; those
about networks say which mailbox an operation touches, and that it leaves the
others alone.
-/

namespace Syllogistic.Collective

namespace Mailbox

/-- The payloads of a sender that are put aside. -/
def queue (source : Nat) (pending : List (List Payload)) : List Payload :=
  pending[source]?.getD []

/-- The payloads of a sender that still stand in an inbox. -/
def arrivals (source : Nat) (inbox : List Frame) : List Payload :=
  (inbox.filter (·.source = source)).map (·.payload)

/-- The payloads of a sender that have come and have not been taken. -/
def stream (source : Nat) (mailbox : Mailbox) : List Payload :=
  queue source mailbox.pending ++ arrivals source mailbox.inbox

/-- There is a queue for every member, and every frame is from a member. -/
structure Sound (size : Nat) (mailbox : Mailbox) : Prop where
  length : mailbox.pending.length = size
  source_lt : ∀ frame ∈ mailbox.inbox, frame.source < size

/-- What a mailbox has become after some payloads of a sender were taken from it:
they are gone from the front of that sender's stream, and nothing else is. -/
structure Leaves (source : Nat) (taken : List Payload) (before after : Mailbox) : Prop where
  stream : ∀ i, before.stream i = (if i = source then taken else []) ++ after.stream i
  isOpen : after.isOpen = before.isOpen
  length : after.pending.length = before.pending.length
  inbox : after.inbox <:+ before.inbox

theorem Leaves.sound {size source : Nat} {taken : List Payload} {before after : Mailbox}
    (h : Leaves source taken before after) (hsound : before.Sound size) : after.Sound size where
  length := by rw [h.length, hsound.length]
  source_lt frame hframe := hsound.source_lt frame (h.inbox.subset hframe)

theorem Leaves.trans {source : Nat} {taken : List Payload} {before mid after : Mailbox}
    (h : Leaves source [] before mid) (h' : Leaves source taken mid after) :
    Leaves source taken before after where
  stream i := by rw [h.stream, h'.stream, ite_self, List.nil_append]
  isOpen := by rw [h'.isOpen, h.isOpen]
  length := by rw [h'.length, h.length]
  inbox := h'.inbox.trans h.inbox

theorem arrivals_cons (source : Nat) (frame : Frame) (inbox : List Frame) :
    arrivals source (frame :: inbox) =
      (if frame.source = source then [frame.payload] else []) ++ arrivals source inbox := by
  rw [arrivals, List.filter_cons]
  split <;> simp_all [arrivals]

/-! ## Queues -/

theorem queue_putAside {frame : Frame} {pending : List (List Payload)}
    (h : frame.source < pending.length) (i : Nat) :
    queue i (putAside frame pending) =
      queue i pending ++ if frame.source = i then [frame.payload] else [] := by
  rw [queue, queue, putAside, List.getElem?_modify]
  split
  · next heq =>
      subst heq
      rw [List.getElem?_eq_getElem h]
      rfl
  · rw [List.append_nil]
    cases pending[i]? <;> rfl

theorem length_putAside (frame : Frame) (pending : List (List Payload)) :
    (putAside frame pending).length = pending.length := by
  rw [putAside, List.length_modify]

theorem queue_of_popQueue? {source : Nat} {pending pending' : List (List Payload)}
    {payload : Payload} (h : popQueue? source pending = some (payload, pending')) (i : Nat) :
    queue i pending = (if i = source then [payload] else []) ++ queue i pending' := by
  rw [popQueue?] at h
  split at h
  · next first rest hqueue =>
      cases h
      obtain ⟨hlt, -⟩ := List.getElem?_eq_some_iff.mp hqueue
      rw [queue, queue, List.getElem?_set]
      by_cases hi : i = source
      · subst hi
        rw [if_pos rfl, if_pos rfl, if_pos hlt, hqueue]
        rfl
      · rw [if_neg hi, if_neg (Ne.symm hi), List.nil_append]
  · cases h

theorem length_of_popQueue? {source : Nat} {pending pending' : List (List Payload)}
    {payload : Payload} (h : popQueue? source pending = some (payload, pending')) :
    pending'.length = pending.length := by
  rw [popQueue?] at h
  split at h
  · cases h
    rw [List.length_set]
  · cases h

theorem queue_of_popQueue?_eq_none {source : Nat} {pending : List (List Payload)}
    (h : popQueue? source pending = none) : queue source pending = [] := by
  rw [popQueue?] at h
  split at h
  · cases h
  · next hno =>
      rw [queue]
      match hqueue : pending[source]? with
      | none => rfl
      | some [] => rfl
      | some (payload :: rest) => exact absurd hqueue (hno payload rest)

/-! ## Looking for a frame

A look takes the first frame of a stream, moves a frame without changing any
stream, or finds that the stream it is for is empty. -/

theorem look_found {source : Nat} {mailbox after : Mailbox} {payload : Payload}
    (h : mailbox.look source = .found after payload) :
    Leaves source [payload] mailbox after := by
  rw [look] at h
  split at h
  · next payload' pending hpop =>
      cases h
      refine ⟨fun i => ?_, rfl, length_of_popQueue? hpop, List.suffix_refl _⟩
      rw [stream, queue_of_popQueue? hpop, List.append_assoc, stream]
  · cases h
  · cases h

theorem look_moved {size source : Nat} {mailbox after : Mailbox} (hsound : mailbox.Sound size)
    (h : mailbox.look source = .moved after) :
    Leaves source [] mailbox after ∧ after.inbox.length + 1 = mailbox.inbox.length := by
  rw [look] at h
  split at h
  · cases h
  · next frame inbox hpop hinbox =>
      cases h
      have hlt : frame.source < mailbox.pending.length := by
        rw [hsound.length]
        exact hsound.source_lt frame (by rw [hinbox]; exact List.mem_cons_self)
      refine ⟨⟨fun i => ?_, rfl, length_putAside _ _, ?_⟩, ?_⟩
      · rw [ite_self, List.nil_append, stream, stream, hinbox, arrivals_cons,
          queue_putAside hlt, List.append_assoc]
      · rw [hinbox]
        exact List.suffix_cons frame inbox
      · rw [hinbox, List.length_cons]
  · cases h

theorem look_nothing {source : Nat} {mailbox : Mailbox}
    (h : mailbox.look source = .nothing) :
    mailbox.inbox = [] ∧ mailbox.stream source = [] := by
  rw [look] at h
  split at h
  · cases h
  · cases h
  · next hpop hinbox =>
      rw [stream, queue_of_popQueue?_eq_none hpop, hinbox]
      exact ⟨rfl, rfl⟩

/-- Taking a frame is looking for it until there is nothing left to put aside. -/
theorem take_eq (source : Nat) (mailbox : Mailbox) :
    mailbox.take source =
      match mailbox.look source with
      | .found after payload => (after, some payload)
      | .moved after => after.take source
      | .nothing => (mailbox, none) := by
  obtain ⟨isOpen, inbox, pending⟩ := mailbox
  cases hpop : popQueue? source pending with
  | some popped => cases inbox <;> simp [take, look, sift, hpop]
  | none => cases inbox <;> simp [take, look, sift, hpop]

theorem take_leaves {size : Nat} (source : Nat) {mailbox : Mailbox} (hsound : mailbox.Sound size) :
    Leaves source (mailbox.take source).2.toList mailbox (mailbox.take source).1 := by
  rw [take_eq]
  cases hlook : mailbox.look source with
  | found after payload => exact look_found hlook
  | moved after =>
      obtain ⟨hleaves, hlen⟩ := look_moved hsound hlook
      exact hleaves.trans (take_leaves source (hleaves.sound hsound))
  | nothing => exact ⟨fun i => by simp, rfl, rfl, List.suffix_refl _⟩
termination_by mailbox.inbox.length

/-! ## Arriving, leaving and starting -/

theorem stream_deliver (frame : Frame) (mailbox : Mailbox) (i : Nat) :
    (mailbox.deliver frame).stream i =
      mailbox.stream i ++ if frame.source = i then [frame.payload] else [] := by
  rw [stream, stream, deliver, arrivals, List.filter_append, List.map_append, ← arrivals,
    List.append_assoc]
  congr 2
  by_cases h : frame.source = i <;> simp [h]

theorem sound_deliver {size : Nat} {frame : Frame} {mailbox : Mailbox}
    (hsound : mailbox.Sound size) (h : frame.source < size) :
    (mailbox.deliver frame).Sound size where
  length := hsound.length
  source_lt other hother := by
    rcases List.mem_append.mp hother with hold | hnew
    · exact hsound.source_lt other hold
    · rw [List.mem_singleton.mp hnew]
      exact h

theorem stream_close (mailbox : Mailbox) (i : Nat) : mailbox.close.stream i = [] := by
  rw [stream, close, queue, List.getElem?_map]
  cases mailbox.pending[i]? <;> rfl

theorem sound_close {size : Nat} {mailbox : Mailbox} (hsound : mailbox.Sound size) :
    mailbox.close.Sound size where
  length := by rw [close, List.length_map, hsound.length]
  source_lt _ hframe := absurd hframe List.not_mem_nil

theorem stream_empty (size i : Nat) : (empty size).stream i = [] := by
  rw [stream, empty, queue, List.getElem?_replicate]
  split <;> rfl

theorem sound_empty (size : Nat) : (empty size).Sound size where
  length := by rw [empty, List.length_replicate]
  source_lt _ hframe := absurd hframe List.not_mem_nil

end Mailbox

namespace Network

/-- The mailbox of a member of a group. -/
def mailbox? (network : Network) (group member : Nat) : Option Mailbox :=
  network[group]?.bind (·[member]?)

/-- The payloads that one member of a group has sent to another and the other has
not taken. -/
def stream (network : Network) (group source target : Nat) : List Payload :=
  ((network.mailbox? group target).map (Mailbox.stream source)).getD []

/-- Whether a member of a group is present. -/
def Present (network : Network) (group member : Nat) : Prop :=
  ∃ mailbox, network.mailbox? group member = some mailbox ∧ mailbox.isOpen = true

/-- Every mailbox is that of a member, and sound for the size of its group. -/
def Sound (size : Nat → Nat) (network : Network) : Prop :=
  ∀ group member mailbox, network.mailbox? group member = some mailbox →
    member < size group ∧ mailbox.Sound (size group)

theorem Present.lt {network : Network} {size : Nat → Nat} {group member : Nat}
    (h : network.Present group member) (hsound : network.Sound size) : member < size group := by
  obtain ⟨mailbox, hmailbox, -⟩ := h
  exact (hsound group member mailbox hmailbox).1

theorem stream_eq {network : Network} {group target : Nat} {mailbox : Mailbox}
    (h : network.mailbox? group target = some mailbox) (source : Nat) :
    network.stream group source target = mailbox.stream source := by
  rw [stream, h]
  rfl

theorem groupOf_getElem? (network : Network) (endpoint : Endpoint) (member : Nat) :
    (network.groupOf endpoint)[member]? = network.mailbox? endpoint.group member := by
  rw [groupOf, mailbox?]
  cases network[endpoint.group]? <;> rfl

theorem present_groupOf {network : Network} {endpoint : Endpoint} {member : Nat} :
    (network.groupOf endpoint).present member = true ↔
      network.Present endpoint.group member := by
  rw [Group.present, groupOf_getElem?, Option.any_eq_true]
  rfl

/-! ## Which mailbox an operation touches

All changes of a network are changes of one mailbox, so one lemma about
`List.modify` says what every operation leaves alone. -/

theorem mailbox?_modify (network : Network) (group member : Nat) (f : Mailbox → Mailbox)
    (group' member' : Nat) :
    mailbox? (network.modify group fun g => g.modify member f) group' member' =
      if group' = group ∧ member' = member then (network.mailbox? group' member').map f
      else network.mailbox? group' member' := by
  rw [mailbox?, mailbox?, List.getElem?_modify]
  by_cases hgroup : group' = group
  · subst hgroup
    cases hg : network[group']? with
    | none => simp
    | some g =>
        simp only [if_true, Option.map_eq_map, Option.map_some, Option.bind_some,
          List.getElem?_modify, true_and]
        by_cases hmember : member' = member
        · simp [hmember]
        · simp [hmember, Ne.symm hmember]
  · cases hg : network[group']? <;> simp [hgroup, Ne.symm hgroup]

theorem put_eq_modify (network : Network) (endpoint : Endpoint) (mailbox : Mailbox) :
    network.put endpoint mailbox = network.modify endpoint.group fun group =>
      group.modify endpoint.index fun _ => mailbox := by
  refine List.ext_getElem? fun group => ?_
  rw [put, List.getElem?_set, List.getElem?_modify]
  by_cases heq : endpoint.group = group
  · subst heq
    rw [if_pos rfl, groupOf]
    cases hgroup : network[endpoint.group]? with
    | none => simpa using hgroup
    | some members =>
        obtain ⟨hlt, -⟩ := List.getElem?_eq_some_iff.mp hgroup
        rw [if_pos hlt]
        refine congrArg some (List.ext_getElem? fun member => ?_)
        simp only [Option.getD_some, if_true]
        rw [List.getElem?_set, List.getElem?_modify]
        by_cases hmember : endpoint.index = member
        · subst hmember
          rcases Nat.lt_or_ge endpoint.index members.length with h | h
          · simp [h]
          · simp [h]
        · simp [hmember]
  · simp [heq]

theorem mailbox?_put {network : Network} {endpoint : Endpoint} {mailbox : Mailbox}
    (h : network.mailbox? endpoint.group endpoint.index = some mailbox) (after : Mailbox)
    (group member : Nat) :
    (network.put endpoint after).mailbox? group member =
      if group = endpoint.group ∧ member = endpoint.index then some after
      else network.mailbox? group member := by
  rw [put_eq_modify, mailbox?_modify]
  split
  · next heq =>
      obtain ⟨rfl, rfl⟩ := heq
      rw [h, Option.map_some]
  · rfl

/-- A member that another one is still there for has to wait. -/
theorem emptyHanded_of_present {network : Network} {endpoint : Endpoint} {other : Nat}
    (hpresent : network.Present endpoint.group other) (hne : other ≠ endpoint.index) :
    network.emptyHanded endpoint = .waiting := by
  have hmember := present_groupOf.mpr hpresent
  obtain ⟨mailbox, hmailbox, -⟩ := hpresent
  rw [← groupOf_getElem?] at hmailbox
  obtain ⟨hlt, -⟩ := List.getElem?_eq_some_iff.mp hmailbox
  rw [emptyHanded, if_neg]
  intro hgone
  have hother := List.all_eq_true.mp hgone other (List.mem_range.mpr hlt)
  rw [hmember] at hother
  exact hne (by simpa using hother)

/-- The network once a frame has been put into a mailbox. -/
theorem send_eq_ok {network after : Network} {endpoint : Endpoint} {target : Nat}
    {payload : Payload} (h : network.send endpoint target payload = .ok after) :
    target ≠ endpoint.index ∧ network.Present endpoint.group target ∧
      after = network.modify endpoint.group fun group =>
        group.modify target (Mailbox.deliver ⟨endpoint.index, payload⟩) := by
  rw [send] at h
  split at h
  · cases h
  · next hne =>
      split at h
      · next hpresent =>
          cases h
          exact ⟨hne, present_groupOf.mp hpresent, rfl⟩
      · cases h

theorem send_of_present {network : Network} {endpoint : Endpoint} {target : Nat}
    (payload : Payload) (hne : target ≠ endpoint.index)
    (hpresent : network.Present endpoint.group target) :
    network.send endpoint target payload = .ok (network.modify endpoint.group fun group =>
      group.modify target (Mailbox.deliver ⟨endpoint.index, payload⟩)) := by
  rw [send, if_neg hne, if_pos (present_groupOf.mpr hpresent)]

/-! ## Starting -/

theorem mailbox?_create {sizes : List Nat} {group member : Nat} {mailbox : Mailbox} :
    mailbox? (sizes.map Group.create) group member = some mailbox ↔
      ∃ size, sizes[group]? = some size ∧ member < size ∧ mailbox = .empty size := by
  rw [mailbox?, List.getElem?_map, Option.bind_eq_some_iff]
  constructor
  · rintro ⟨members, hmembers, hmember⟩
    obtain ⟨size, hsize, rfl⟩ := Option.map_eq_some_iff.mp hmembers
    rw [Group.create, List.getElem?_replicate] at hmember
    split at hmember
    · next hlt =>
        cases hmember
        exact ⟨size, hsize, hlt, rfl⟩
    · cases hmember
  · rintro ⟨size, hsize, hlt, rfl⟩
    refine ⟨Group.create size, by rw [hsize]; rfl, ?_⟩
    rw [Group.create, List.getElem?_replicate, if_pos hlt]

theorem sound_create (sizes : List Nat) :
    Sound (fun group => sizes[group]?.getD 0) (sizes.map Group.create) := by
  intro group member mailbox h
  obtain ⟨size, hsize, hlt, rfl⟩ := mailbox?_create.mp h
  dsimp only
  rw [hsize]
  exact ⟨hlt, Mailbox.sound_empty size⟩

theorem stream_create (sizes : List Nat) (group source target : Nat) :
    stream (sizes.map Group.create) group source target = [] := by
  rw [stream]
  cases hmailbox : mailbox? (sizes.map Group.create) group target with
  | none => rfl
  | some mailbox =>
      obtain ⟨size, -, -, rfl⟩ := mailbox?_create.mp hmailbox
      exact Mailbox.stream_empty size source

theorem present_create (sizes : List Nat) {group member size : Nat}
    (hsize : sizes[group]? = some size) (hlt : member < size) :
    Present (sizes.map Group.create) group member :=
  ⟨.empty size, mailbox?_create.mpr ⟨size, hsize, hlt, rfl⟩, rfl⟩

/-! ## Sending -/

section Send

variable {network after : Network} {endpoint : Endpoint} {target : Nat} {payload : Payload}

theorem mailbox?_send (h : network.send endpoint target payload = .ok after)
    (group member : Nat) :
    after.mailbox? group member =
      if group = endpoint.group ∧ member = target then
        (network.mailbox? group member).map (Mailbox.deliver ⟨endpoint.index, payload⟩)
      else network.mailbox? group member := by
  obtain ⟨-, -, rfl⟩ := send_eq_ok h
  exact mailbox?_modify ..

theorem present_send (h : network.send endpoint target payload = .ok after)
    (group member : Nat) : after.Present group member ↔ network.Present group member := by
  rw [Present, Present, mailbox?_send h]
  split
  · cases network.mailbox? group member <;> simp [Mailbox.deliver]
  · rfl

theorem sound_send {size : Nat → Nat} (h : network.send endpoint target payload = .ok after)
    (hindex : endpoint.index < size endpoint.group) (hsound : network.Sound size) :
    after.Sound size := by
  intro group member mailbox hmailbox
  rw [mailbox?_send h] at hmailbox
  split at hmailbox
  · next heq =>
      obtain ⟨before, hbefore, rfl⟩ := Option.map_eq_some_iff.mp hmailbox
      obtain ⟨hlt, hsound⟩ := hsound group member before hbefore
      obtain ⟨rfl, -⟩ := heq
      exact ⟨hlt, Mailbox.sound_deliver hsound hindex⟩
  · exact hsound group member mailbox hmailbox

theorem stream_send (h : network.send endpoint target payload = .ok after)
    (group source member : Nat) :
    after.stream group source member =
      network.stream group source member ++
        if group = endpoint.group ∧ source = endpoint.index ∧ member = target then [payload]
        else [] := by
  obtain ⟨-, ⟨mailbox, hmailbox, -⟩, -⟩ := send_eq_ok h
  rw [stream, stream, mailbox?_send h]
  by_cases heq : group = endpoint.group ∧ member = target
  · obtain ⟨rfl, rfl⟩ := heq
    rw [if_pos ⟨rfl, rfl⟩, hmailbox, Option.map_some, Option.map_some, Option.map_some,
      Option.getD_some, Option.getD_some, Mailbox.stream_deliver]
    simp [eq_comm]
  · rw [if_neg heq, if_neg (fun hall => heq ⟨hall.1, hall.2.2⟩), List.append_nil]

end Send

/-! ## Taking and putting aside -/

section Put

variable {network : Network} {endpoint : Endpoint} {source : Nat} {taken : List Payload}
  {before mailbox : Mailbox}

theorem present_put (hbefore : network.mailbox? endpoint.group endpoint.index = some before)
    (hleaves : Mailbox.Leaves source taken before mailbox) (group member : Nat) :
    (network.put endpoint mailbox).Present group member ↔ network.Present group member := by
  rw [Present, Present, mailbox?_put hbefore]
  split
  · next heq =>
      obtain ⟨rfl, rfl⟩ := heq
      simp [hbefore, hleaves.isOpen]
  · rfl

theorem sound_put {size : Nat → Nat}
    (hbefore : network.mailbox? endpoint.group endpoint.index = some before)
    (hleaves : Mailbox.Leaves source taken before mailbox) (hsound : network.Sound size) :
    (network.put endpoint mailbox).Sound size := by
  intro group member other hother
  rw [mailbox?_put hbefore] at hother
  split at hother
  · next heq =>
      obtain ⟨rfl, rfl⟩ := heq
      cases hother
      obtain ⟨hlt, hsound⟩ := hsound _ _ _ hbefore
      exact ⟨hlt, hleaves.sound hsound⟩
  · exact hsound group member other hother

theorem stream_put (hbefore : network.mailbox? endpoint.group endpoint.index = some before)
    (hleaves : Mailbox.Leaves source taken before mailbox) (group sender member : Nat) :
    network.stream group sender member =
      (if group = endpoint.group ∧ sender = source ∧ member = endpoint.index then taken
        else []) ++ (network.put endpoint mailbox).stream group sender member := by
  rw [stream, stream, mailbox?_put hbefore]
  by_cases heq : group = endpoint.group ∧ member = endpoint.index
  · obtain ⟨rfl, rfl⟩ := heq
    rw [hbefore, Option.map_some, Option.getD_some, hleaves.stream]
    simp
  · rw [if_neg heq, if_neg (fun hall => heq ⟨hall.1, hall.2.2⟩), List.nil_append]

end Put

/-! ## Leaving -/

section Leave

variable {network : Network} {endpoint : Endpoint}

theorem mailbox?_leave (network : Network) (endpoint : Endpoint) (group member : Nat) :
    (network.leave endpoint).mailbox? group member =
      if group = endpoint.group ∧ member = endpoint.index then
        (network.mailbox? group member).map Mailbox.close
      else network.mailbox? group member :=
  mailbox?_modify ..

theorem present_leave {group member : Nat} :
    (network.leave endpoint).Present group member ↔
      network.Present group member ∧ ¬(group = endpoint.group ∧ member = endpoint.index) := by
  rw [Present, Present, mailbox?_leave]
  split
  · cases network.mailbox? group member <;> simp [Mailbox.close, *]
  · simp [*]

theorem sound_leave {size : Nat → Nat} (hsound : network.Sound size) :
    (network.leave endpoint).Sound size := by
  intro group member mailbox hmailbox
  rw [mailbox?_leave] at hmailbox
  split at hmailbox
  · obtain ⟨before, hbefore, rfl⟩ := Option.map_eq_some_iff.mp hmailbox
    obtain ⟨hlt, hsound⟩ := hsound group member before hbefore
    exact ⟨hlt, Mailbox.sound_close hsound⟩
  · exact hsound group member mailbox hmailbox

theorem stream_leave (group source member : Nat) :
    (network.leave endpoint).stream group source member =
      if group = endpoint.group ∧ member = endpoint.index then []
      else network.stream group source member := by
  rw [stream, stream, mailbox?_leave]
  split
  · cases network.mailbox? group member with
    | none => rfl
    | some mailbox => exact Mailbox.stream_close mailbox source
  · rfl

/-- Several endpoints are given up, one after the other. -/
theorem sound_leaveAll {size : Nat → Nat} (endpoints : List Endpoint)
    (hsound : network.Sound size) : (endpoints.foldl leave network).Sound size := by
  induction endpoints generalizing network with
  | nil => exact hsound
  | cons endpoint rest ih => exact ih (sound_leave hsound)

theorem present_leaveAll (endpoints : List Endpoint) (group member : Nat) :
    (endpoints.foldl leave network).Present group member ↔
      network.Present group member ∧
        ∀ endpoint ∈ endpoints, ¬(group = endpoint.group ∧ member = endpoint.index) := by
  induction endpoints generalizing network with
  | nil => simp
  | cons endpoint rest ih =>
      rw [List.foldl_cons, ih, present_leave, List.forall_mem_cons, and_assoc]

theorem stream_leaveAll (endpoints : List Endpoint) (group source member : Nat) :
    (endpoints.foldl leave network).stream group source member =
      if ∃ endpoint ∈ endpoints, group = endpoint.group ∧ member = endpoint.index then []
      else network.stream group source member := by
  induction endpoints generalizing network with
  | nil => simp
  | cons endpoint rest ih =>
      rw [List.foldl_cons, ih, stream_leave]
      by_cases hfirst : group = endpoint.group ∧ member = endpoint.index
      · rw [if_pos hfirst, ite_self, if_pos ⟨endpoint, List.mem_cons_self, hfirst⟩]
      · simp [hfirst]

end Leave

end Network

end Syllogistic.Collective
