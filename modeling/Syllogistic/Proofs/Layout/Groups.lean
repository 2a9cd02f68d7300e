import Syllogistic.Proofs.Layout.Grid
import Syllogistic.Proofs.Rows

/-!
# The groups of a layout are its rows

What a rank is told of its group and what is said of the leaders are two
computations, one by division and one by multiplication. On a grid they describe the
same rows: a group's ranks are those of its row, the leaders are the ranks in the
first column, and the rows put one after the other are all ranks in their order.
-/

namespace Syllogistic.Layout

/-- The leaders and the groups of a layout, as its ranks are told of them. -/
structure Grouped (layout : Layout) : Prop where
  increasing : layout.executive.Pairwise (· < ·)
  mem_executive (rank : Nat) : rank ∈ layout.executive ↔
    rank < layout.total ∧ (⟨layout, rank⟩ : Position).roleIndex = 0
  flatMap_members :
    layout.executive.flatMap (fun leader => (⟨layout, leader⟩ : Position).members) =
      List.range layout.total
  mem_members {rank : Nat} : rank < layout.total → ∀ other,
    (other ∈ (⟨layout, rank⟩ : Position).members ↔ other < layout.total ∧
      (⟨layout, other⟩ : Position).group = (⟨layout, rank⟩ : Position).group)
  members_roleIndex {rank : Nat} : rank < layout.total →
    (⟨layout, rank⟩ : Position).members[(⟨layout, rank⟩ : Position).roleIndex]? = some rank

namespace Grid

variable {layout : Layout} {group index rank : Nat}

theorem executive_eq (h : layout.Grid) :
    layout.executive = (List.range layout.groups).map (· * layout.width) :=
  List.map_congr_left fun _ hgroup => h.group_mul_engines (List.mem_range.mp hgroup)

/-- The ranks of the group at a place are those of its row. -/
theorem members_eq (h : layout.Grid) (hgroup : group < layout.groups)
    (hindex : index < layout.width) :
    (⟨layout, group * layout.width + index⟩ : Position).members =
      List.range' (group * layout.width) layout.width := by
  have hleader : (⟨layout, group * layout.width + index⟩ : Position).leader =
      group * layout.width := by
    rw [Position.leader, (h.position hgroup hindex).1]
    exact h.group_mul_engines hgroup
  have hrow : (group + 1) * layout.width ≤ layout.total := by
    rw [← h.groups_mul_width]
    exact Nat.mul_le_mul_right _ hgroup
  rw [Nat.succ_mul] at hrow
  have hsize : min (group * layout.width + layout.engines) layout.total -
      group * layout.width = layout.width := by
    have hengines := h.engines_pos
    rcases h.cases with ⟨htotal, -, hwidth⟩ | ⟨hwidth, -⟩ <;> omega
  rw [Position.members, Position.groupSize, hleader]
  dsimp only
  rw [hsize]

theorem leads_iff (h : layout.Grid) (hgroup : group < layout.groups)
    (hindex : index < layout.width) :
    (⟨layout, group * layout.width + index⟩ : Position).leads = true ↔ index = 0 := by
  rw [Position.leads, (h.position hgroup hindex).2, beq_iff_eq]

theorem executiveIndex_eq (h : layout.Grid) (hgroup : group < layout.groups)
    (hindex : index < layout.width) :
    (⟨layout, group * layout.width + index⟩ : Position).executiveIndex =
      if index = 0 then some group else none := by
  rw [Position.executiveIndex, (h.position hgroup hindex).1]
  by_cases hzero : index = 0
  · rw [if_pos ((h.leads_iff hgroup hindex).mpr hzero), if_pos hzero]
  · rw [if_neg fun hleads => hzero ((h.leads_iff hgroup hindex).mp hleads), if_neg hzero]

theorem executive_increasing (h : layout.Grid) : layout.executive.Pairwise (· < ·) := by
  rw [h.executive_eq, List.pairwise_map]
  exact List.pairwise_lt_range.imp fun hlt => Nat.mul_lt_mul_of_pos_right hlt h.width_pos

/-- The leaders are the ranks that run the first engine. -/
theorem mem_executive (h : layout.Grid) :
    rank ∈ layout.executive ↔
      rank < layout.total ∧ (⟨layout, rank⟩ : Position).roleIndex = 0 := by
  rw [h.executive_eq, List.mem_map]
  constructor
  · rintro ⟨group, hgroup, rfl⟩
    rw [List.mem_range] at hgroup
    exact ⟨h.rank_lt hgroup h.width_pos, (h.position hgroup h.width_pos).2⟩
  · rintro ⟨hrank, hrole⟩
    obtain ⟨group, index, hgroup, hindex, rfl⟩ := h.exists_place hrank
    rw [(h.position hgroup hindex).2] at hrole
    subst hrole
    exact ⟨group, List.mem_range.mpr hgroup, rfl⟩

/-- The groups, in the order of their leaders, are all ranks in order. -/
theorem flatMap_members (h : layout.Grid) :
    layout.executive.flatMap (fun leader => (⟨layout, leader⟩ : Position).members) =
      List.range layout.total := by
  rw [h.executive_eq, List.flatMap_map, ← h.groups_mul_width, range_mul]
  refine List.flatMap_congr fun group hgroup => ?_
  have hmembers := h.members_eq (List.mem_range.mp hgroup) h.width_pos
  rw [← List.range'_eq_map_range]
  exact hmembers

/-- A rank's group has the ranks of the same group as members. -/
theorem mem_members (h : layout.Grid) (hrank : rank < layout.total) (other : Nat) :
    other ∈ (⟨layout, rank⟩ : Position).members ↔
      other < layout.total ∧
        (⟨layout, other⟩ : Position).group = (⟨layout, rank⟩ : Position).group := by
  obtain ⟨group, index, hgroup, hindex, rfl⟩ := h.exists_place hrank
  rw [h.members_eq hgroup hindex, (h.position hgroup hindex).1, List.mem_range'_1]
  constructor
  · rintro ⟨hle, hlt⟩
    obtain ⟨i, rfl⟩ := Nat.exists_eq_add_of_le hle
    have hi : i < layout.width := by omega
    exact ⟨h.rank_lt hgroup hi, (h.position hgroup hi).1⟩
  · rintro ⟨hother, hsame⟩
    obtain ⟨g, i, hg, hi, rfl⟩ := h.exists_place hother
    rw [(h.position hg hi).1] at hsame
    subst hsame
    omega

theorem members_roleIndex (h : layout.Grid) (hrank : rank < layout.total) :
    (⟨layout, rank⟩ : Position).members[(⟨layout, rank⟩ : Position).roleIndex]? = some rank := by
  obtain ⟨group, index, hgroup, hindex, rfl⟩ := h.exists_place hrank
  rw [h.members_eq hgroup hindex, (h.position hgroup hindex).2, List.getElem?_range' hindex,
    Nat.one_mul]

theorem grouped (h : layout.Grid) : layout.Grouped where
  increasing := h.executive_increasing
  mem_executive := fun _ => h.mem_executive
  flatMap_members := h.flatMap_members
  mem_members := h.mem_members
  members_roleIndex := h.members_roleIndex

end Grid

end Syllogistic.Layout
