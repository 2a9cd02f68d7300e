import Syllogistic.Layout.Topology

/-!
# A layout is a grid

The ranks of a layout that can be stand in rows of one length, a row for each
group: rank `group * width + index` is member `index` of its group. The single
rank that may run with any number of engines is a grid with one place, which is
why the length of the rows is not the number of engines but what of it there are
ranks for.
-/

namespace Syllogistic

namespace Layout

/-- The number of ranks in each group. -/
def width (layout : Layout) : Nat := min layout.engines layout.total

/-- A layout that can be. -/
structure Grid (layout : Layout) : Prop where
  engines_pos : 0 < layout.engines
  total_pos : 0 < layout.total
  rows : layout.total = 1 ∨ layout.total % layout.engines = 0

theorem grid_of_check {layout : Layout} (h : layout.check = .ok ()) : layout.Grid := by
  rw [check] at h
  split at h
  · cases h
  · next hengines =>
      split at h
      · cases h
      · next htotal =>
          split at h
          · cases h
          · next hrows =>
              refine ⟨by omega, by omega, ?_⟩
              by_cases hone : layout.total = 1
              · exact .inl hone
              · by_cases hmod : layout.total % layout.engines = 0
                · exact .inr hmod
                · exact absurd ⟨hone, hmod⟩ hrows

end Layout

theorem Position.place_of_check {layout : Layout} (h : layout.check = .ok ()) {rank : Nat}
    (hrank : rank < layout.total) : place layout rank = .ok ⟨layout, rank⟩ := by
  rw [place, h]
  exact if_neg (Nat.not_le.mpr hrank)

namespace Layout

/-- A place of a grid comes before the end of the last row. -/
theorem place_lt {rows width group index : Nat} (hgroup : group < rows) (hindex : index < width) :
    group * width + index < rows * width := by
  calc group * width + index
      < group * width + width := Nat.add_lt_add_left hindex _
    _ = (group + 1) * width := (Nat.succ_mul group width).symm
    _ ≤ rows * width := Nat.mul_le_mul_right _ hgroup

namespace Grid

variable {layout : Layout}

/-- Either there is one rank, or the rows are as long as there are engines. -/
theorem cases (h : layout.Grid) :
    layout.total = 1 ∧ layout.groups = 1 ∧ layout.width = 1 ∨
      layout.width = layout.engines ∧ layout.groups * layout.engines = layout.total := by
  obtain ⟨hengines, htotal, hone | hmod⟩ := h
  · refine .inl ⟨hone, ?_, ?_⟩
    · rw [groups, hone, Nat.add_sub_cancel_left]
      exact Nat.div_self hengines
    · rw [width, hone]
      omega
  · obtain ⟨rows, hrows⟩ := Nat.dvd_of_mod_eq_zero hmod
    have hpos : 0 < rows := by
      cases rows with
      | zero => omega
      | succ rows => exact Nat.succ_pos rows
    have hle : layout.engines ≤ layout.total := by
      rw [hrows]
      exact Nat.le_mul_of_pos_right _ hpos
    have hgroups : layout.groups = rows := by
      rw [groups, hrows, Nat.add_sub_assoc hengines, Nat.mul_add_div hengines,
        Nat.div_eq_of_lt (by omega), Nat.add_zero]
    refine .inr ⟨Nat.min_eq_left hle, ?_⟩
    rw [hgroups, hrows, Nat.mul_comm]

theorem width_pos (h : layout.Grid) : 0 < layout.width :=
  Nat.lt_min.mpr ⟨h.engines_pos, h.total_pos⟩

theorem groups_mul_width (h : layout.Grid) : layout.groups * layout.width = layout.total := by
  rcases h.cases with ⟨htotal, hgroups, hwidth⟩ | ⟨hwidth, htotal⟩
  · rw [hgroups, hwidth, htotal]
  · rw [hwidth, htotal]

theorem groups_pos (h : layout.Grid) : 0 < layout.groups := by
  refine Nat.pos_of_ne_zero fun hzero => ?_
  have htotal := h.groups_mul_width
  rw [hzero, Nat.zero_mul] at htotal
  exact Nat.ne_of_lt h.total_pos htotal

variable {group index : Nat}

theorem rank_lt (h : layout.Grid) (hgroup : group < layout.groups)
    (hindex : index < layout.width) : group * layout.width + index < layout.total := by
  rw [← h.groups_mul_width]
  exact place_lt hgroup hindex

/-- Every rank has a place in the grid. -/
theorem exists_place (h : layout.Grid) {rank : Nat} (hrank : rank < layout.total) :
    ∃ group index, group < layout.groups ∧ index < layout.width ∧
      rank = group * layout.width + index := by
  refine ⟨rank / layout.width, rank % layout.width, ?_, Nat.mod_lt _ h.width_pos, ?_⟩
  · rw [Nat.div_lt_iff_lt_mul h.width_pos, h.groups_mul_width]
    exact hrank
  · rw [Nat.mul_comm]
    exact (Nat.div_add_mod rank layout.width).symm

/-- Places of the grid are told apart by their ranks. -/
theorem place_inj {group' index' : Nat} (hindex : index < layout.width)
    (hindex' : index' < layout.width)
    (heq : group * layout.width + index = group' * layout.width + index') :
    group = group' ∧ index = index' := by
  have hpos : 0 < layout.width := Nat.lt_of_le_of_lt (Nat.zero_le _) hindex
  have hdiv : ∀ g i : Nat, i < layout.width → (g * layout.width + i) / layout.width = g := by
    intro g i hi
    rw [Nat.mul_comm, Nat.mul_add_div hpos, Nat.div_eq_of_lt hi, Nat.add_zero]
  have hgroup : group = group' := by
    rw [← hdiv group index hindex, heq, hdiv group' index' hindex']
  subst hgroup
  exact ⟨rfl, Nat.add_left_cancel heq⟩

theorem group_mul_engines (h : layout.Grid) (hgroup : group < layout.groups) :
    group * layout.engines = group * layout.width := by
  rcases h.cases with ⟨-, hgroups, -⟩ | ⟨hwidth, -⟩
  · obtain rfl : group = 0 := by omega
    rw [Nat.zero_mul, Nat.zero_mul]
  · rw [hwidth]

theorem width_le_engines : layout.width ≤ layout.engines := Nat.min_le_left _ _

/-- The group and the role of the rank at a place. -/
theorem position (h : layout.Grid) (hgroup : group < layout.groups)
    (hindex : index < layout.width) :
    (⟨layout, group * layout.width + index⟩ : Position).group = group ∧
      (⟨layout, group * layout.width + index⟩ : Position).roleIndex = index := by
  have hlt : index < layout.engines := Nat.lt_of_lt_of_le hindex width_le_engines
  rw [Position.group, Position.roleIndex]
  dsimp only
  rw [← h.group_mul_engines hgroup, Nat.mul_comm, Nat.mul_add_div h.engines_pos,
    Nat.div_eq_of_lt hlt, Nat.mul_add_mod, Nat.mod_eq_of_lt hlt]
  exact ⟨rfl, rfl⟩

theorem roleIndex_lt_width (h : layout.Grid) {rank : Nat} (hrank : rank < layout.total) :
    (⟨layout, rank⟩ : Position).roleIndex < layout.width := by
  obtain ⟨group, index, hgroup, hindex, rfl⟩ := h.exists_place hrank
  rwa [(h.position hgroup hindex).2]

/-- The first ranks have the roles in their order. -/
theorem roleIndex_of_lt_width (hrank : index < layout.width) :
    (⟨layout, index⟩ : Position).roleIndex = index :=
  Nat.mod_eq_of_lt (Nat.lt_of_lt_of_le hrank width_le_engines)

end Grid

end Layout

end Syllogistic
