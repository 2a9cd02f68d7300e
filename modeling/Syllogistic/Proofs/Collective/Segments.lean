import Mathlib.Data.List.Basic
import Syllogistic.Proofs.Collective.Choreography
import Syllogistic.Proofs.Collective.Roles

/-!
# Collectives as segments of a choreography

A broadcast and a scatter are the same transfers, one from the root to each other
member in the order of the members; a gather has them the other way around. What
a member does in a collective is exactly what these transfers ask of its owner:
everything of the root, one thing of each other member, and nothing of a runner
that is not in the group. This is what lets collectives be put one after the
other in a choreography.
-/

namespace Syllogistic.Collective

/-- The value comes out of its frame as it went in. -/
def Travels {α : Type} [Wire.Codec α] (value : α) : Prop :=
  Wire.load (Wire.encode value) = .ok value

/-- The members of a group other than its root. -/
def members (size root : Nat) : List Nat :=
  (List.range size).filter (· ≠ root)

/-- One frame from the root of a group to each other member. -/
def fanOut (group size root : Nat) (payload : Nat → Payload) : List Transfer :=
  (members size root).map fun m => { group, source := root, target := m, payload := payload m }

/-- One frame from each other member of a group to its root. -/
def fanIn (group size root : Nat) (payload : Nat → Payload) : List Transfer :=
  (members size root).map fun m => { group, source := m, target := root, payload := payload m }

/-- The members of a group are owned by different runners. -/
def Staff.Separate (staff : Staff) (group size : Nat) : Prop :=
  ∀ i, i < size → ∀ j, j < size → staff.owner group i = staff.owner group j → i = j

theorem mem_members {size root m : Nat} : m ∈ members size root ↔ m < size ∧ m ≠ root := by
  rw [members, List.mem_filter, List.mem_range, decide_eq_true_iff]

theorem length_members {size root : Nat} (h : root < size) :
    (members size root).length = size - 1 := by
  have hlength := List.length_erase_of_mem (List.mem_range.mpr h)
  rw [List.nodup_range.erase_eq_filter, List.length_range] at hlength
  rw [← hlength, members]
  congr 2
  funext m
  exact Bool.eq_iff_iff.mpr (by simp)

theorem length_fanOut {group size root : Nat} {payload : Nat → Payload} (h : root < size) :
    (fanOut group size root payload).length = size - 1 := by
  rw [fanOut, List.length_map, length_members h]

theorem length_fanIn {group size root : Nat} {payload : Nat → Payload} (h : root < size) :
    (fanIn group size root payload).length = size - 1 := by
  rw [fanIn, List.length_map, length_members h]

/-! ## What the transfers ask of whom

The root is asked for one thing per transfer, in the order of the members. Each
other member is the end of a single transfer, and a runner that owns no member
is asked for nothing. -/

theorem filterMap_eq_singleton {α β : Type} {f : α → Option β} {items : List α} {a : α} {b : β}
    (hnodup : items.Nodup) (hmem : a ∈ items) (ha : f a = some b)
    (hothers : ∀ other ∈ items, other ≠ a → f other = none) : items.filterMap f = [b] := by
  obtain ⟨before, after, rfl⟩ := List.append_of_mem hmem
  have hnone : ∀ part : List α, a ∉ part → (∀ other ∈ part, other ∈ before ++ a :: after) →
      part.filterMap f = [] := by
    refine fun part hnot hsub => List.filterMap_eq_nil_iff.mpr fun other hother => ?_
    exact hothers other (hsub other hother) fun heq => hnot (heq ▸ hother)
  have hsplit := List.nodup_append.mp hnodup
  rw [List.filterMap_append, List.filterMap_cons_some ha,
    hnone before (fun hin => hsplit.2.2 a hin a List.mem_cons_self rfl)
      (fun _ hin => List.mem_append_left _ hin),
    hnone after (List.nodup_cons.mp hsplit.2.1).1
      (fun _ hin => List.mem_append_right _ (List.mem_cons_of_mem _ hin))]
  rfl

namespace Staff

variable {staff : Staff} {group size root k runner : Nat} {payload : Nat → Payload}

theorem opsOf_fanOut_root :
    staff.opsOf (staff.owner group root) (fanOut group size root payload) =
      (members size root).map fun m => .send (staff.endpoint group root) m (payload m) := by
  rw [opsOf, fanOut, List.filterMap_map, ← List.filterMap_eq_map]
  refine List.filterMap_congr fun m _ => ?_
  exact staff.opOf_source ⟨group, root, m, payload m, false⟩ rfl

theorem opsOf_fanOut_member (hseparate : staff.Separate group size) (hroot : root < size)
    (hk : k < size) (hne : k ≠ root) :
    staff.opsOf (staff.owner group k) (fanOut group size root payload) =
      [.receive (staff.endpoint group k) root (payload k)] := by
  have howner : staff.owner group root ≠ staff.owner group k := fun heq =>
    hne (hseparate root hroot k hk heq).symm
  rw [opsOf, fanOut, List.filterMap_map]
  refine filterMap_eq_singleton (List.nodup_range.filter _) (mem_members.mpr ⟨hk, hne⟩) ?_ ?_
  · exact staff.opOf_target ⟨group, root, k, payload k, false⟩ howner
  · intro m hm hmk
    exact staff.opOf_eq_none ⟨group, root, m, payload m, false⟩ howner
      fun heq => hmk (hseparate m (mem_members.mp hm).1 k hk heq)

theorem opsOf_fanIn_root (hseparate : staff.Separate group size) (hroot : root < size) :
    staff.opsOf (staff.owner group root) (fanIn group size root payload) =
      (members size root).map fun m => .receive (staff.endpoint group root) m (payload m) := by
  rw [opsOf, fanIn, List.filterMap_map, ← List.filterMap_eq_map]
  refine List.filterMap_congr fun m hm => ?_
  obtain ⟨hlt, hne⟩ := mem_members.mp hm
  exact staff.opOf_target ⟨group, m, root, payload m, false⟩
    fun heq => hne (hseparate m hlt root hroot heq)

theorem opsOf_fanIn_member (hseparate : staff.Separate group size) (hroot : root < size)
    (hk : k < size) (hne : k ≠ root) :
    staff.opsOf (staff.owner group k) (fanIn group size root payload) =
      [.send (staff.endpoint group k) root (payload k)] := by
  rw [opsOf, fanIn, List.filterMap_map]
  refine filterMap_eq_singleton (List.nodup_range.filter _) (mem_members.mpr ⟨hk, hne⟩) ?_ ?_
  · exact staff.opOf_source ⟨group, k, root, payload k, false⟩ rfl
  · intro m hm hmk
    exact staff.opOf_eq_none ⟨group, m, root, payload m, false⟩
      (fun heq => hmk (hseparate m (mem_members.mp hm).1 k hk heq))
      (fun heq => hne (hseparate root hroot k hk heq).symm)

/-- A runner that owns no endpoint of a group has nothing to do for it. -/
theorem opsOf_eq_nil {transfers : List Transfer}
    (h : ∀ transfer ∈ transfers, staff.owner transfer.group transfer.source ≠ runner ∧
      staff.owner transfer.group transfer.target ≠ runner) :
    staff.opsOf runner transfers = [] :=
  List.filterMap_eq_nil_iff.mpr fun transfer hmem =>
    staff.opOf_eq_none transfer (h transfer hmem).1 (h transfer hmem).2

theorem opsOf_fanOut_eq_nil (h : ∀ i, i < size → staff.owner group i ≠ runner)
    (hroot : root < size) : staff.opsOf runner (fanOut group size root payload) = [] := by
  refine opsOf_eq_nil fun transfer hmem => ?_
  obtain ⟨m, hm, rfl⟩ := List.mem_map.mp hmem
  exact ⟨h root hroot, h m (mem_members.mp hm).1⟩

theorem opsOf_fanIn_eq_nil (h : ∀ i, i < size → staff.owner group i ≠ runner)
    (hroot : root < size) : staff.opsOf runner (fanIn group size root payload) = [] := by
  refine opsOf_eq_nil fun transfer hmem => ?_
  obtain ⟨m, hm, rfl⟩ := List.mem_map.mp hmem
  exact ⟨h m (mem_members.mp hm).1, h root hroot⟩

end Staff

/-! ## Transfers that have not begun -/

theorem sent_fanOut {group size root : Nat} {payload : Nat → Payload} :
    ∀ transfer ∈ fanOut group size root payload, transfer.sent = false := by
  intro transfer hmem
  obtain ⟨m, -, rfl⟩ := List.mem_map.mp hmem
  rfl

theorem sent_fanIn {group size root : Nat} {payload : Nat → Payload} :
    ∀ transfer ∈ fanIn group size root payload, transfer.sent = false := by
  intro transfer hmem
  obtain ⟨m, -, rfl⟩ := List.mem_map.mp hmem
  rfl

section Proper

variable {ρ : Type} {staff : Staff} {runners : List (Runner ρ)} {group size root : Nat}
  {payload : Nat → Payload}

theorem proper_fanOut (hseparate : staff.Separate group size)
    (hholds : ∀ i, i < size → staff.Holds runners group i) (hroot : root < size) :
    ∀ transfer ∈ fanOut group size root payload, staff.Proper runners transfer := by
  intro transfer hmem
  obtain ⟨m, hm, rfl⟩ := List.mem_map.mp hmem
  obtain ⟨hlt, hne⟩ := mem_members.mp hm
  exact ⟨hholds root hroot, hholds m hlt, fun heq => hne (hseparate root hroot m hlt heq).symm⟩

theorem proper_fanIn (hseparate : staff.Separate group size)
    (hholds : ∀ i, i < size → staff.Holds runners group i) (hroot : root < size) :
    ∀ transfer ∈ fanIn group size root payload, staff.Proper runners transfer := by
  intro transfer hmem
  obtain ⟨m, hm, rfl⟩ := List.mem_map.mp hmem
  obtain ⟨hlt, hne⟩ := mem_members.mp hm
  exact ⟨hholds m hlt, hholds root hroot, fun heq => hne (hseparate m hlt root hroot heq)⟩

end Proper

/-! ## What the collectives perform -/

theorem zipIdx_map_range {α : Type} (items : Nat → α) (size : Nat) :
    ((List.range size).map items).zipIdx = (List.range size).map fun m => (items m, m) := by
  refine List.ext_getElem (by simp) fun m hm _ => ?_
  simp

namespace Endpoint

variable {α : Type} [Wire.Codec α] {endpoint : Endpoint} {root : Nat}

theorem performs_sendAll (endpoint : Endpoint) (frames : List (Nat × Payload)) :
    (endpoint.sendAll frames).run.Performs
      (frames.map fun frame => .send endpoint frame.1 frame.2) (.ok ()) := by
  induction frames with
  | nil => exact .done _
  | cons frame rest ih =>
      exact Call.performs_bind (.send _ _ _ (.done (Except.ok ()))) ih

theorem performs_receiveValue {value : α} (h : Travels value) (source : Nat) :
    (endpoint.receiveValue source : Attempt α).run.Performs
      [.receive endpoint source (Wire.encode value)] (.ok value) := by
  refine .receive _ _ _ ?_
  dsimp only
  rw [h]
  exact .done _

/-- The root's own value needs no frame. -/
theorem performs_receiveAll (endpoint : Endpoint) {values : Nat → α} (sources : List Nat)
    (h : ∀ m ∈ sources, Travels (values m)) :
    (endpoint.receiveAll root (values root) sources).run.Performs
      ((sources.filter (· ≠ root)).map fun m =>
        .receive endpoint m (Wire.encode (values m)))
      (.ok (sources.map values)) := by
  induction sources with
  | nil => exact .done _
  | cons m rest ih =>
      have hrest := ih fun other hother => h other (List.mem_cons_of_mem _ hother)
      have hcollect := fun value : α => Call.performs_return hrest (value :: ·)
      rw [receiveAll]
      by_cases hm : m = root
      · subst hm
        rw [if_pos rfl, List.filter_cons_of_neg (by simp)]
        exact hcollect (values m)
      · rw [if_neg hm, List.filter_cons_of_pos (by simpa using hm)]
        exact Call.performs_bind (performs_receiveValue (h m List.mem_cons_self) m)
          (hcollect (values m))

section Collectives

variable {staff : Staff} {group size k : Nat}

theorem performs_broadcast (hseparate : staff.Separate group size)
    (hsize : (staff.endpoint group k).size = size) (hroot : root < size) (hk : k < size)
    {value : α} (htravels : Travels value) (argument : Option α)
    (hargument : k = root → argument = some value) :
    ((staff.endpoint group k).broadcast root argument).run.Performs
      (staff.opsOf (staff.owner group k)
        (fanOut group size root fun _ => Wire.encode value)) (.ok value) := by
  by_cases hne : k = root
  · subst hne
    have hindex := staff.index_endpoint group k
    have hbroadcast := broadcast_root (staff.endpoint group k)
      (by rw [hindex, hsize]; exact hk) value
    rw [hindex] at hbroadcast
    rw [hargument rfl, hbroadcast, others, hsize, Staff.opsOf_fanOut_root]
    have hperforms := Call.performs_return (performs_sendAll (staff.endpoint group k)
      ((members size k).map fun m => (m, Wire.encode value))) fun _ => value
    rw [List.map_map] at hperforms
    exact hperforms
  · rw [broadcast_of_ne (by rwa [hsize]) (by rwa [staff.index_endpoint]),
      Staff.opsOf_fanOut_member hseparate hroot hk hne]
    exact performs_receiveValue htravels root

theorem performs_scatter (hseparate : staff.Separate group size)
    (hsize : (staff.endpoint group k).size = size) (hroot : root < size) (hk : k < size)
    {items : Nat → α} (htravels : ∀ m, m < size → Travels (items m))
    (argument : Option (List α))
    (hargument : k = root → argument = some ((List.range size).map items)) :
    ((staff.endpoint group k).scatter root argument).run.Performs
      (staff.opsOf (staff.owner group k)
        (fanOut group size root fun m => Wire.encode (items m))) (.ok (items k)) := by
  by_cases hne : k = root
  · subst hne
    have hindex := staff.index_endpoint group k
    have hlength : ((List.range size).map items).length = (staff.endpoint group k).size := by
      rw [List.length_map, List.length_range, hsize]
    have hown : ((List.range size).map items)[(staff.endpoint group k).index]? =
        some (items k) := by
      rw [hindex, List.getElem?_map, List.getElem?_range hk]
      rfl
    have hscatter := scatter_root (staff.endpoint group k) (by rwa [hindex, hsize]) hlength hown
    rw [hindex] at hscatter
    rw [hargument rfl, hscatter, Staff.opsOf_fanOut_root]
    have hperforms := Call.performs_return (performs_sendAll (staff.endpoint group k)
      ((((List.range size).map items).zipIdx.filter (·.2 ≠ k)).map fun item =>
        (item.2, Wire.encode item.1))) fun _ => items k
    rw [zipIdx_map_range, List.filter_map, List.map_map, List.map_map] at hperforms
    rw [zipIdx_map_range, List.filter_map, List.map_map]
    exact hperforms
  · rw [scatter_of_ne (by rwa [hsize]) (by rwa [staff.index_endpoint]),
      Staff.opsOf_fanOut_member hseparate hroot hk hne]
    exact performs_receiveValue (htravels k hk) root

theorem performs_gather (hseparate : staff.Separate group size)
    (hsize : (staff.endpoint group k).size = size) (hroot : root < size) (hk : k < size)
    {values : Nat → α} (htravels : ∀ m, m < size → Travels (values m)) :
    ((staff.endpoint group k).gather root (values k)).run.Performs
      (staff.opsOf (staff.owner group k)
        (fanIn group size root fun m => Wire.encode (values m)))
      (.ok (if k = root then some ((List.range size).map values) else none)) := by
  by_cases hne : k = root
  · subst hne
    have hindex := staff.index_endpoint group k
    have hgather := gather_root (staff.endpoint group k)
      (by rw [hindex, hsize]; exact hk) (values k)
    rw [hindex, hsize] at hgather
    rw [hgather, if_pos rfl, Staff.opsOf_fanIn_root hseparate hroot]
    exact Call.performs_return (performs_receiveAll _ (List.range size)
      fun m hm => htravels m (List.mem_range.mp hm)) some
  · rw [gather_of_ne (by rwa [hsize]) (by rwa [staff.index_endpoint]), if_neg hne,
      Staff.opsOf_fanIn_member hseparate hroot hk hne]
    exact .send _ _ _ (.done _)

end Collectives

end Endpoint

end Syllogistic.Collective
