import Mathlib.Data.List.Basic
import Syllogistic.Collective.Fabric
import Syllogistic.Proofs.Layout.Grid

/-!
# The fabric of a grid

The endpoints of a run are laid out as its ranks are: the rank at a place of the
grid has the endpoint of its place in the group of its row, and the first rank of
each row has one more, for its row, in the executive group. Setting them up comes to
this fabric as soon as all the memory is granted that they ask for.
-/

namespace Syllogistic.Collective.Fabric

variable {layout : Layout} {group index : Nat}

/-- The endpoint of a member of a work group. -/
def workEndpoint (layout : Layout) (group index : Nat) : Endpoint :=
  ⟨"work-" ++ toString group, group, index, layout.width⟩

/-- The endpoint of a leader in the executive group. -/
def leaderEndpoint (layout : Layout) (group : Nat) : Endpoint :=
  ⟨"executive", layout.groups, group, layout.groups⟩

/-- The endpoints of the rank at a place. -/
def channelsAt (layout : Layout) (group index : Nat) : Channels :=
  ⟨workEndpoint layout group index,
    if index = 0 then some (leaderEndpoint layout group) else none⟩

/-- The number of members of each group, the executive group last. -/
def sizes (layout : Layout) : List Nat :=
  List.replicate layout.groups layout.width ++ [layout.groups]

theorem groupSize_eq (h : layout.Grid) (hgroup : group < layout.groups) :
    groupSize layout group = layout.width := by
  rcases h.cases with ⟨htotal, hgroups, hwidth⟩ | ⟨hwidth, htotal⟩
  · obtain rfl : group = 0 := by omega
    rw [groupSize, Nat.zero_mul]
    rfl
  · have hrow : (group + 1) * layout.engines ≤ layout.total := by
      rw [← htotal]
      exact Nat.mul_le_mul_right _ hgroup
    rw [Nat.succ_mul] at hrow
    rw [groupSize, hwidth]
    omega

theorem workEndpoints_eq (h : layout.Grid) (hgroup : group < layout.groups) :
    workEndpoints layout group =
      (List.range layout.width).map (workEndpoint layout group) := by
  rw [workEndpoints, groupSize_eq h hgroup]
  rfl

theorem length_rows {α : Type} (row : Nat → Nat → α) (rows width : Nat) :
    ((List.range rows).flatMap fun group => (List.range width).map (row group)).length =
      rows * width := by
  simp [List.length_flatMap, List.map_const']

theorem getElem?_rows {α : Type} (row : Nat → Nat → α) {rows width group index : Nat}
    (hgroup : group < rows) (hindex : index < width) :
    ((List.range rows).flatMap fun group => (List.range width).map (row group))[
      group * width + index]? = some (row group index) := by
  induction rows with
  | zero => exact absurd hgroup (Nat.not_lt_zero _)
  | succ rows ih =>
      rw [List.range_succ, List.flatMap_append]
      rcases Nat.lt_or_ge group rows with hlt | hge
      · have hbound := Layout.place_lt hlt hindex
        rw [List.getElem?_append_left (by rwa [length_rows])]
        exact ih hlt
      · obtain rfl : group = rows := by omega
        rw [List.getElem?_append_right (by rw [length_rows]; omega), length_rows,
          Nat.add_sub_cancel_left, List.flatMap_singleton, List.getElem?_map,
          List.getElem?_range hindex]
        rfl

theorem executiveEndpoint_eq (h : layout.Grid) (hgroup : group < layout.groups)
    (hindex : index < layout.width) :
    executiveEndpoint layout (group * layout.width + index) =
      if index = 0 then some (leaderEndpoint layout group) else none := by
  have hleader : ∀ g, g < layout.groups → layout.executive[g]? = some (g * layout.width) := by
    intro g hg
    rw [Layout.executive, List.getElem?_map, List.getElem?_range hg, Option.map_some,
      h.group_mul_engines hg]
  have hlength : layout.executive.length = layout.groups := by
    rw [Layout.executive, List.length_map, List.length_range]
  have hplace : ∀ g, (hg : g < layout.executive.length) →
      layout.executive[g] = group * layout.width + index → g = group ∧ 0 = index := by
    intro g hg heq
    have hlt : g < layout.groups := by rwa [hlength] at hg
    obtain ⟨_, hrank⟩ := List.getElem?_eq_some_iff.mp (hleader g hlt)
    rw [hrank] at heq
    exact Layout.Grid.place_inj h.width_pos hindex heq
  rw [executiveEndpoint]
  split
  · next hzero =>
      subst hzero
      have hfound : layout.executive.idxOf? (group * layout.width + 0) = some group := by
        refine List.idxOf?_eq_some_iff.mpr ⟨by rwa [hlength], ?_, fun g hg heq => ?_⟩
        · exact (List.getElem?_eq_some_iff.mp (hleader group hgroup)).2
        · exact Nat.ne_of_lt hg (hplace g (by omega) heq).1
      rw [hfound]
      rfl
  · next hne =>
      have hnone : layout.executive.idxOf? (group * layout.width + index) = none := by
        refine List.idxOf?_eq_none_iff.mpr fun hmem => ?_
        obtain ⟨g, hg, heq⟩ := List.getElem_of_mem hmem
        exact hne (hplace g hg heq).2.symm
      rw [hnone]
      rfl

/-- The fabric of a grid: the endpoints by place, and a group for every row and
for the leaders. -/
theorem build_eq (h : layout.check = .ok ()) :
    ∃ fabric, build layout = .ok fabric ∧
      fabric.network = (sizes layout).map Group.create ∧
      fabric.channels.length = layout.total ∧
      ∀ group index, group < layout.groups → index < layout.width →
        fabric.channels[group * layout.width + index]? = some (channelsAt layout group index) := by
  have hgrid := Layout.grid_of_check h
  have hwork : (List.range layout.groups).flatMap (workEndpoints layout) =
      (List.range layout.groups).flatMap fun group =>
        (List.range layout.width).map (workEndpoint layout group) :=
    List.flatMap_congr fun group hgroup => workEndpoints_eq hgrid (List.mem_range.mp hgroup)
  have hnetwork : ((List.range layout.groups).map fun group =>
      Group.create (groupSize layout group)) =
        (List.replicate layout.groups layout.width).map Group.create := by
    rw [List.map_replicate, List.map_congr_left fun group hgroup => by
      rw [groupSize_eq hgrid (List.mem_range.mp hgroup)], List.map_const', List.length_range]
  refine ⟨_, by rw [build, h], ?_, ?_, ?_⟩
  · dsimp only
    rw [hnetwork, sizes, List.map_append]
    rfl
  · rw [List.length_map, List.length_zipIdx, hwork, length_rows, hgrid.groups_mul_width]
  · intro group index hgroup hindex
    rw [List.getElem?_map, List.getElem?_zipIdx, hwork,
      getElem?_rows (workEndpoint layout) hgroup hindex]
    dsimp only [Option.map_some]
    rw [Nat.zero_add, executiveEndpoint_eq hgrid hgroup hindex]
    rfl

theorem check_of_build {fabric : Fabric} (h : build layout = .ok fabric) :
    layout.check = .ok () := by
  rw [build] at h
  split at h
  · cases h
  · assumption

theorem setUp_of_refused {cause : LayoutError} (h : build layout = .error cause)
    (memory : Memory) : setUp memory layout = .error (.layout cause) := by
  rw [setUp]
  split
  · next hcheck =>
      rw [build, hcheck] at h
      cases h
      rfl
  · next hcheck =>
      rw [build, hcheck] at h
      cases h

/-- Setting up comes to what asking for all the memory comes to. -/
theorem setUp_eq {fabric : Fabric} (h : build layout = .ok fabric) (memory : Memory) :
    setUp memory layout = ((memory.serve (requests layout)).map (fabric, ·)).mapError .memory := by
  rw [setUp, check_of_build h, h, requests, Memory.serve]
  dsimp only
  cases memory.reserve (placesRequest layout) with
  | error fault => rfl
  | ok places =>
      dsimp only
      cases places.serve (groupRequests layout) <;> rfl

theorem serve_of_setUp {fabric : Fabric} {memory after : Memory}
    (h : setUp memory layout = .ok (fabric, after)) :
    memory.serve (requests layout) = .ok after := by
  cases hbuild : build layout with
  | error cause =>
      rw [setUp_of_refused hbuild] at h
      cases h
  | ok built =>
      rw [setUp_eq hbuild] at h
      cases hserve : memory.serve (requests layout) with
      | error fault =>
          rw [hserve] at h
          cases h
      | ok last =>
          rw [hserve] at h
          cases h
          rfl

end Syllogistic.Collective.Fabric
