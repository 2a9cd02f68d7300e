import Syllogistic.Proofs.Collective.Fabric
import Syllogistic.Proofs.Layout.Words

/-!
# Endpoints are where the layout says

The endpoints of a run are put down group by group, by multiplication; a rank is told
of its place by division. Both describe the grid of the layout: at the place of a rank
stands the endpoint that fits what the rank is told of itself. So the member that the
ranks of a group wait for first, member 0, is the leader of the group, and among the
leaders it is rank 0.

What cannot be promised for every layout of two words is memory. The endpoints ask for
their lists before there is anything to put into them, and for each member of a group they
ask for a way to and a queue from every other one, so that a group takes forty bytes for each
pair of its members. If all that is granted, the endpoints are set up, and not otherwise;
and no request is without addresses unless the last one is, for what every rank owns.
-/

namespace Syllogistic.Collective

/-- The endpoints of a rank are the ones for its position. -/
structure Channels.Fits (channels : Channels) (position : Position) : Prop where
  work_label : channels.work.label = "work-" ++ toString position.group
  work_group : channels.work.group = position.group
  work_index : channels.work.index = position.roleIndex
  work_size : channels.work.size = position.members.length
  executive_isSome : channels.executive.isSome = position.leads
  executive_index : channels.executive.map Endpoint.index = position.executiveIndex
  executive_size : ∀ endpoint ∈ channels.executive, endpoint.size = position.layout.groups
  executive_group : ∀ endpoint ∈ channels.executive, endpoint.group = position.layout.groups

/-- The endpoints of a run are the ones for the positions in a layout, and the roots of
its groups are its leaders. -/
structure Fabric.Places (fabric : Fabric) (layout : Layout) : Prop where
  length : fabric.channels.length = layout.total
  place {rank : Nat} : rank < layout.total → Position.place layout rank = .ok ⟨layout, rank⟩
  fits {rank : Nat} {channels : Channels} : fabric.channels[rank]? = some channels →
    channels.Fits ⟨layout, rank⟩
  master : ∃ channels, fabric.channels[0]? = some channels ∧ channels.work.index = 0 ∧
    channels.executive.map Endpoint.index = some 0
  leader {rank : Nat} : rank ∈ layout.executive →
    ∃ channels, fabric.channels[rank]? = some channels ∧ channels.work.index = 0

namespace Fabric

variable {layout : Layout} {fabric : Fabric} {group index rank : Nat}

theorem channelsAt_fits (h : layout.Grid) (hgroup : group < layout.groups)
    (hindex : index < layout.width) :
    (channelsAt layout group index).Fits ⟨layout, group * layout.width + index⟩ := by
  obtain ⟨hgroupOf, hroleOf⟩ := h.position hgroup hindex
  have hleads := h.leads_iff hgroup hindex
  refine ⟨?_, hgroupOf.symm, hroleOf.symm, ?_, ?_, ?_, ?_, ?_⟩
  · rw [hgroupOf]
    rfl
  · rw [h.members_eq hgroup hindex, List.length_range']
    rfl
  · rw [Bool.eq_iff_iff, hleads, channelsAt]
    split
    · next hzero => exact iff_of_true rfl hzero
    · next hne => exact iff_of_false Bool.false_ne_true hne
  · rw [h.executiveIndex_eq hgroup hindex, channelsAt]
    split <;> rfl
  · intro endpoint hendpoint
    rw [channelsAt] at hendpoint
    split at hendpoint <;> cases hendpoint
    rfl
  · intro endpoint hendpoint
    rw [channelsAt] at hendpoint
    split at hendpoint <;> cases hendpoint
    rfl

theorem places_of_channelsAt (hcheck : layout.check = .ok ())
    (hlength : fabric.channels.length = layout.total)
    (hchannels : ∀ group index, group < layout.groups → index < layout.width →
      fabric.channels[group * layout.width + index]? = some (channelsAt layout group index)) :
    fabric.Places layout := by
  have hgrid := Layout.grid_of_check hcheck
  have hfirst : ∀ group, group < layout.groups →
      fabric.channels[group * layout.width]? = some (channelsAt layout group 0) :=
    fun group hgroup => hchannels group 0 hgroup hgrid.width_pos
  refine ⟨hlength, Position.place_of_check hcheck, ?_, ?_, ?_⟩
  · intro rank channels hfound
    obtain ⟨hlt, -⟩ := List.getElem?_eq_some_iff.mp hfound
    obtain ⟨group, index, hgroup, hindex, rfl⟩ := hgrid.exists_place (hlength ▸ hlt)
    rw [hchannels group index hgroup hindex] at hfound
    cases hfound
    exact channelsAt_fits hgrid hgroup hindex
  · -- Rank 0 is the first place of the first row.
    have hmaster := hfirst 0 hgrid.groups_pos
    rw [Nat.zero_mul] at hmaster
    exact ⟨_, hmaster, rfl, rfl⟩
  · intro rank hrank
    rw [hgrid.executive_eq, List.mem_map] at hrank
    obtain ⟨group, hgroup, rfl⟩ := hrank
    exact ⟨_, hfirst group (List.mem_range.mp hgroup), rfl⟩

/-! ## Memory -/

theorem addressable_group {size : Nat} (h : size * 88 < addressLimit) :
    ∀ request ∈ Group.requests size, request.addressable = true := by
  have hitems : ∀ width ≤ 88, (MemoryRequest.items size width).addressable = true := by
    intro width hwidth
    refine MemoryRequest.addressable_items.mpr (Nat.lt_of_le_of_lt ?_ h)
    exact Nat.mul_le_mul_left size hwidth
  intro request hrequest
  simp only [Group.requests, List.cons_append, List.mem_cons, List.mem_append,
    List.mem_replicate, List.mem_flatten] at hrequest
  rcases hrequest with rfl | rfl | ⟨-, rfl⟩ | rfl | ⟨_, ⟨-, rfl⟩, hrequest⟩
  · exact hitems 8 (by decide)
  · exact hitems 8 (by decide)
  · rfl
  · exact hitems 88 (by decide)
  · simp only [List.mem_cons, List.not_mem_nil, or_false] at hrequest
    rcases hrequest with rfl | rfl | rfl
    · rfl
    · exact hitems 8 (by decide)
    · exact hitems 32 (by decide)

/-- The list of what every rank owns asks for the most at one time. -/
theorem addressable_requests (h : layout.Grid) :
    (∀ request ∈ requests layout, request.addressable = true) ↔
      layout.total * 176 < addressLimit := by
  have hlast : MemoryRequest.items layout.total 176 ∈ requests layout := by
    simp [requests, groupRequests]
  refine ⟨fun hall => MemoryRequest.addressable_items.mp (hall _ hlast), fun htotal => ?_⟩
  have hle : ∀ {count width}, count ≤ layout.total → width ≤ 176 →
      count * width < addressLimit := fun hcount hwidth =>
    Nat.lt_of_le_of_lt (Nat.mul_le_mul hcount hwidth) htotal
  have hgroups : layout.groups ≤ layout.total := by
    rw [← h.groups_mul_width]
    exact Nat.le_mul_of_pos_right _ h.width_pos
  have hgroup : ∀ group, groupSize layout group ≤ layout.total := fun group =>
    Nat.le_trans (Nat.min_le_right _ _) (Nat.sub_le _ _)
  intro request hrequest
  simp only [requests, groupRequests, List.mem_cons, List.mem_append, List.mem_flatMap,
    List.not_mem_nil, or_false] at hrequest
  rcases hrequest with rfl | (⟨group, -, rfl | hrequest⟩ | rfl | rfl | hrequest) | rfl
  · exact MemoryRequest.addressable_items.mpr (hle (Nat.le_refl _) (by decide))
  · rfl
  · exact addressable_group (hle (hgroup group) (by decide)) request hrequest
  · exact MemoryRequest.addressable_items.mpr (hle (Nat.le_refl _) (by decide))
  · exact MemoryRequest.addressable_items.mpr (hle hgroups (by decide))
  · exact addressable_group (hle hgroups (by decide)) request hrequest
  · exact MemoryRequest.addressable_items.mpr htotal

/-- The endpoints of every layout of two words are where the layout says, and it can be
computed in words. Setting them up comes to what asking for their memory comes to, one thing
after the other. Nothing of that is without addresses exactly if the list of what the ranks own
has them; then the lists of the leaders and of the ranks of each group have them too. -/
theorem build_places (layout : Layout) (htotal : layout.total < UInt64.size)
    (hengines : layout.engines < UInt64.size) (hcheck : layout.check = .ok ()) :
    ∃ fabric, build layout = .ok fabric ∧ fabric.Places layout ∧
      layout.Grouped ∧ layout.InWords ∧
      (∀ memory : Memory, setUp memory layout =
        ((memory.serve (requests layout)).map (fabric, ·)).mapError .memory) ∧
      ((∀ request ∈ requests layout, request.addressable) ↔
        layout.total * 176 < addressLimit) ∧
      (layout.total * 176 < addressLimit → layout.executiveRequest.addressable ∧
        ∀ rank, rank < layout.total →
          (⟨layout, rank⟩ : Position).membersRequest.addressable) := by
  have hgrid := Layout.grid_of_check hcheck
  obtain ⟨fabric, hbuild, -, hlength, hchannels⟩ := build_eq hcheck
  refine ⟨fabric, hbuild, places_of_channelsAt hcheck hlength hchannels, hgrid.grouped,
    hgrid.inWords htotal hengines, setUp_eq hbuild, addressable_requests hgrid,
    fun haddressable => ⟨?_, fun rank hrank => ?_⟩⟩
  · refine (addressable_requests hgrid).mpr haddressable _ ?_
    simp [requests, groupRequests]
  · have hsize : (⟨layout, rank⟩ : Position).groupSize ≤ layout.total :=
      Nat.le_trans (Nat.sub_le _ _) (Nat.min_le_right _ _)
    refine MemoryRequest.addressable_items.mpr (Nat.lt_of_le_of_lt ?_ haddressable)
    exact Nat.mul_le_mul hsize (by decide)

/-- With eight ranks and four engines, and with one rank and four engines. -/
theorem build_places_eight :
    (∃ fabric after, build ⟨8, 4⟩ = .ok fabric ∧ setUp .ample ⟨8, 4⟩ = .ok (fabric, after) ∧
      fabric.Places ⟨8, 4⟩) ∧
    (∃ fabric after, build ⟨1, 4⟩ = .ok fabric ∧ setUp .ample ⟨1, 4⟩ = .ok (fabric, after) ∧
      fabric.Places ⟨1, 4⟩) := by
  have height : Memory.ample.Serves (requests ⟨8, 4⟩) := Memory.serves_ample.mpr (by decide)
  have hone : Memory.ample.Serves (requests ⟨1, 4⟩) := Memory.serves_ample.mpr (by decide)
  obtain ⟨afterEight, height⟩ := height
  obtain ⟨afterOne, hone⟩ := hone
  obtain ⟨eight, hbuildEight, hplacesEight, -, -, hsetUpEight, -⟩ :=
    build_places ⟨8, 4⟩ (by decide) (by decide) rfl
  obtain ⟨one, hbuildOne, hplacesOne, -, -, hsetUpOne, -⟩ :=
    build_places ⟨1, 4⟩ (by decide) (by decide) rfl
  have hsetUpEight := hsetUpEight .ample
  have hsetUpOne := hsetUpOne .ample
  rw [height] at hsetUpEight
  rw [hone] at hsetUpOne
  exact ⟨⟨eight, afterEight, hbuildEight, hsetUpEight, hplacesEight⟩,
    ⟨one, afterOne, hbuildOne, hsetUpOne, hplacesOne⟩⟩

/-- There are layouts of two words whose endpoints no memory holds. -/
theorem setUp_unaddressable :
    18446744073709551615 < UInt64.size ∧ 5 < UInt64.size ∧
      (⟨18446744073709551615, 5⟩ : Layout).check = .ok () ∧ ∀ memory : Memory,
      setUp memory ⟨18446744073709551615, 5⟩ = .error (.memory .unaddressable) ∧
      ¬∃ fabric after, setUp memory ⟨18446744073709551615, 5⟩ = .ok (fabric, after) ∧
        fabric.channels.length = 18446744073709551615 := by
  refine ⟨by decide, by decide, rfl, fun memory => ?_⟩
  have hmissing : setUp memory ⟨18446744073709551615, 5⟩ = .error (.memory .unaddressable) := by
    rw [setUp, show (⟨18446744073709551615, 5⟩ : Layout).check = .ok () from rfl]
    dsimp only
    rw [Memory.reserve_unaddressable (by decide)]
  refine ⟨hmissing, ?_⟩
  rintro ⟨fabric, after, hfabric, -⟩
  rw [hmissing] at hfabric
  cases hfabric

end Fabric

end Syllogistic.Collective
