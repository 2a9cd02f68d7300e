import Mathlib.Data.List.Nodup
import Syllogistic.Proofs.Layout.Grid
import Syllogistic.Settings.Basic

/-!
# Which settings make a run

The check of settings goes through its conditions in a fixed order and stops at the first that
is not met. Which one that is matters only for what is reported: settings pass exactly if all
conditions hold, and then the plan is the one that they describe. The layout is looked at again
when the plan is made, and is found to be what it was.
-/

namespace Syllogistic

theorem firstRepeated_eq_none_iff {α : Type} [BEq α] [LawfulBEq α] {before items : List α} :
    firstRepeated before items = none ↔ items.Nodup ∧ ∀ a ∈ items, a ∉ before := by
  induction items generalizing before with
  | nil => simp [firstRepeated]
  | cons a items ih =>
      rw [firstRepeated]
      split
      · next h =>
          have hmem : a ∈ before := List.contains_iff_mem.mp h
          exact iff_of_false nofun fun ⟨_, hnew⟩ => hnew a List.mem_cons_self hmem
      · next h =>
          have hnew : a ∉ before := fun hmem => h (List.contains_iff_mem.mpr hmem)
          rw [ih, List.nodup_cons]
          constructor
          · rintro ⟨hnodup, hfresh⟩
            refine ⟨⟨fun hmem => hfresh a hmem List.mem_cons_self, hnodup⟩, fun b hb => ?_⟩
            rcases List.mem_cons.mp hb with rfl | hb
            · exact hnew
            · exact fun hmem => hfresh b hb (List.mem_cons_of_mem _ hmem)
          · rintro ⟨⟨hfirst, hnodup⟩, hfresh⟩
            refine ⟨hnodup, fun b hb hmem => ?_⟩
            rcases List.mem_cons.mp hmem with rfl | hmem
            · exact hfirst hb
            · exact hfresh b (List.mem_cons_of_mem _ hb) hmem

theorem Layout.check_eq_ok_iff {layout : Layout} : layout.check = .ok () ↔ layout.Grid := by
  refine ⟨grid_of_check, fun h => ?_⟩
  have hengines := h.engines_pos
  have htotal := h.total_pos
  have hrows := h.rows
  rw [check, if_neg (by omega), if_neg (by omega), if_neg (by omega)]

namespace Settings

/-- What settings have to be to make a run. -/
structure Sound (settings : Settings) : Prop where
  proved : 1 ≤ settings.policy.proved
  refuted : 1 ≤ settings.policy.refuted
  roster : settings.roster ≠ []
  distinct : (settings.roster.map (·.engine)).Nodup
  ranks : settings.rankCount = 1 ∨
    ∃ groups, 0 < groups ∧ settings.rankCount = groups * settings.roster.length

/-- The plan that settings describe. -/
def planOn (settings : Settings) (host : Host) : Batch.Plan RosterError :=
  ⟨settings.rosterOn host, ⟨settings.rankCount, settings.roster.length⟩,
    { base := settings.base, policy := settings.policy }⟩

variable {settings : Settings}

theorem grid_iff (h : settings.roster ≠ []) :
    (Layout.mk settings.rankCount settings.roster.length).Grid ↔
      settings.rankCount = 1 ∨
        ∃ groups, 0 < groups ∧ settings.rankCount = groups * settings.roster.length := by
  have hengines : 0 < settings.roster.length := List.length_pos_iff.mpr h
  constructor
  · rintro ⟨-, htotal, hone | hmod⟩
    · exact .inl hone
    · obtain ⟨groups, hgroups⟩ := Nat.dvd_of_mod_eq_zero hmod
      have hpos : 0 < groups := Nat.pos_of_ne_zero fun hzero => by
        rw [hzero, Nat.mul_zero] at hgroups
        exact Nat.ne_of_gt htotal hgroups
      exact .inr ⟨groups, hpos, by rw [Nat.mul_comm]; exact hgroups⟩
  · rintro (hone | ⟨groups, hpos, hgroups⟩)
    · exact ⟨hengines, hone ▸ Nat.one_pos, .inl hone⟩
    · refine ⟨hengines, ?_, .inr ?_⟩
      · exact hgroups ▸ Nat.mul_pos hpos hengines
      · exact hgroups ▸ Nat.mul_mod_left _ _

theorem check_eq_ok_iff : settings.check = .ok () ↔ settings.Sound := by
  rw [check]
  split
  · next hzero =>
      refine iff_of_false nofun fun h => ?_
      have := h.proved
      have := h.refuted
      omega
  · next hthresholds =>
      split
      · next hempty => exact iff_of_false nofun fun h => h.roster (List.isEmpty_iff.mp hempty)
      · next hempty =>
          have hroster : settings.roster ≠ [] := fun h => hempty (List.isEmpty_iff.mpr h)
          split
          · next engine hrepeated =>
              refine iff_of_false nofun fun h => ?_
              rw [firstRepeated_eq_none_iff.mpr ⟨h.distinct, by simp⟩] at hrepeated
              cases hrepeated
          · next hnone =>
              have hdistinct := (firstRepeated_eq_none_iff.mp hnone).1
              split
              · next cause hlayout =>
                  refine iff_of_false nofun fun h => ?_
                  rw [Layout.check_eq_ok_iff.mpr ((grid_iff hroster).mpr h.ranks)] at hlayout
                  cases hlayout
              · next hlayout =>
                  refine iff_of_true rfl ⟨by omega, by omega, hroster, hdistinct, ?_⟩
                  exact (grid_iff hroster).mp (Layout.check_eq_ok_iff.mp hlayout)

theorem Sound.grid (h : settings.Sound) :
    (Layout.mk settings.rankCount settings.roster.length).Grid :=
  (grid_iff h.roster).mpr h.ranks

theorem plan_eq_ok_iff {host : Host} {plan : Batch.Plan RosterError} :
    settings.plan host = .ok plan ↔ settings.Sound ∧ plan = settings.planOn host := by
  rw [← check_eq_ok_iff, Settings.plan]
  split
  · next error hcheck => simp [hcheck]
  · next hcheck =>
      have hnames : (settings.rosterOn host).names.length = settings.roster.length :=
        List.length_map _
      have hlayout := Layout.check_eq_ok_iff.mpr (check_eq_ok_iff.mp hcheck).grid
      rw [Batch.Plan.make, hnames, hlayout, planOn]
      simp [hcheck, Except.mapError, eq_comm]

end Settings

end Syllogistic
