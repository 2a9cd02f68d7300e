import Syllogistic.Proofs.Collective.Fabric
import Syllogistic.Proofs.Layout.Groups

/-!
# Layouts in words

A layout is computed in words of 64 bits. Each computation is written out here with
operations that have no result where a word would not hold it or where more would be
taken away than there is. On a layout that can be, none of them is ever without a
result, and each comes to what the computation over all numbers comes to: whatever is
added or multiplied stays within the number of ranks, or, for a single rank with many
engines, within the number of engines.
-/

namespace Syllogistic

namespace Word

def add? (a b : Nat) : Option Nat := if a + b < UInt64.size then some (a + b) else none

def mul? (a b : Nat) : Option Nat := if a * b < UInt64.size then some (a * b) else none

def sub? (a b : Nat) : Option Nat := if b ≤ a then some (a - b) else none

variable {a b : Nat}

theorem add?_eq_some (h : a + b < UInt64.size) : add? a b = some (a + b) := if_pos h

theorem mul?_eq_some (h : a * b < UInt64.size) : mul? a b = some (a * b) := if_pos h

theorem sub?_eq_some (h : b ≤ a) : sub? a b = some (a - b) := if_pos h

theorem mapM_eq_some {α β : Type} {f : α → Option β} {g : α → β} {items : List α}
    (h : ∀ a ∈ items, f a = some (g a)) : items.mapM f = some (items.map g) := by
  induction items with
  | nil => rfl
  | cons a items ih =>
      rw [List.mapM_cons, h a (by simp), ih fun b hb => h b (by simp [hb])]
      rfl

end Word

namespace Layout

variable (layout : Layout)

/-- The number of groups: the quotient, and one more if there is a remainder. -/
def groups? : Option Nat :=
  if layout.total % layout.engines = 0 then some (layout.total / layout.engines)
  else Word.add? (layout.total / layout.engines) 1

/-- The ranks that lead a group. -/
def executive? : Option (List Nat) := do
  let groups ← layout.groups?
  (List.range groups).mapM fun group => Word.mul? group layout.engines

/-- The places that the endpoints of one group are put at, the smaller of the engines
and of the ranks that are left. -/
def row? (group : Nat) : Option (List Nat) := do
  let first ← Word.mul? group layout.engines
  let left ← Word.sub? layout.total first
  (List.range (min layout.engines left)).mapM fun offset => Word.add? first offset

/-- The places that all endpoints are put at, group by group. -/
def places? : Option (List Nat) := do
  let groups ← layout.groups?
  return (← (List.range groups).mapM layout.row?).flatten

end Layout

/-- The ranks of a rank's group, from the first up to the end of the row or of all. -/
def Position.members? (position : Position) : Option (List Nat) := do
  let first ← Word.mul? position.group position.layout.engines
  let last ← Word.add? first position.layout.engines
  return List.range' first (min last position.layout.total - first)

/-- A layout that can be computed in words. -/
structure Layout.InWords (layout : Layout) : Prop where
  groups : layout.groups? = some layout.groups
  executive : layout.executive? = some layout.executive
  places : layout.places? = some (List.range layout.total)
  members {rank : Nat} : rank < layout.total →
    (⟨layout, rank⟩ : Position).members? = some (⟨layout, rank⟩ : Position).members

namespace Layout.Grid

variable {layout : Layout} {group rank : Nat}

/-- Every first rank of a group is a rank. -/
theorem group_mul_engines_lt (h : layout.Grid) (hgroup : group < layout.groups) :
    group * layout.engines < layout.total := by
  rw [h.group_mul_engines hgroup]
  exact h.rank_lt hgroup h.width_pos

theorem groups?_eq (h : layout.Grid) (htotal : layout.total < UInt64.size) :
    layout.groups? = some layout.groups := by
  rw [groups?]
  have hengines := h.engines_pos
  rcases h.cases with ⟨hone, hgroups, -⟩ | ⟨-, hfull⟩
  · -- The engines need not divide a single rank, so here the remainder may count.
    rw [hone] at htotal ⊢
    rw [hgroups]
    split
    · next hmod =>
        have hdvd := Nat.dvd_of_mod_eq_zero hmod
        rw [Nat.dvd_one.mp hdvd]
    · next hmod =>
        have hlt : 1 < layout.engines := by
          refine Nat.lt_of_le_of_ne hengines fun heq => hmod ?_
          rw [← heq]
        rw [Nat.div_eq_of_lt hlt]
        exact Word.add?_eq_some htotal
  · rw [← hfull, Nat.mul_mod_left, if_pos rfl, Nat.mul_div_cancel _ hengines]

theorem executive?_eq (h : layout.Grid) (htotal : layout.total < UInt64.size) :
    layout.executive? = some layout.executive := by
  rw [executive?, h.groups?_eq htotal]
  exact Word.mapM_eq_some fun group hgroup => Word.mul?_eq_some
    (Nat.lt_trans (h.group_mul_engines_lt (List.mem_range.mp hgroup)) htotal)

theorem row?_eq (h : layout.Grid) (htotal : layout.total < UInt64.size)
    (hgroup : group < layout.groups) :
    layout.row? group = some ((List.range layout.width).map (group * layout.width + ·)) := by
  have hfirst := h.group_mul_engines_lt hgroup
  have hsize : min layout.engines (layout.total - group * layout.engines) = layout.width :=
    Collective.Fabric.groupSize_eq h hgroup
  rw [row?, Word.mul?_eq_some (Nat.lt_trans hfirst htotal)]
  dsimp only [Option.bind_eq_bind, Option.bind_some]
  rw [Word.sub?_eq_some (Nat.le_of_lt hfirst)]
  dsimp only [Option.bind_some]
  rw [hsize, h.group_mul_engines hgroup]
  exact Word.mapM_eq_some fun index hindex => Word.add?_eq_some
    (Nat.lt_trans (h.rank_lt hgroup (List.mem_range.mp hindex)) htotal)

/-- The places of the endpoints are all ranks in their order. -/
theorem places?_eq (h : layout.Grid) (htotal : layout.total < UInt64.size) :
    layout.places? = some (List.range layout.total) := by
  have hrows : (List.range layout.groups).mapM layout.row? =
      some ((List.range layout.groups).map fun group =>
        (List.range layout.width).map (group * layout.width + ·)) :=
    Word.mapM_eq_some fun group hgroup => h.row?_eq htotal (List.mem_range.mp hgroup)
  rw [places?, h.groups?_eq htotal]
  show (List.range layout.groups).mapM layout.row? >>= _ = _
  rw [hrows, ← h.groups_mul_width, range_mul]
  rfl

theorem members?_eq (h : layout.Grid) (htotal : layout.total < UInt64.size)
    (hengines : layout.engines < UInt64.size) (hrank : rank < layout.total) :
    (⟨layout, rank⟩ : Position).members? = some (⟨layout, rank⟩ : Position).members := by
  obtain ⟨group, index, hgroup, hindex, rfl⟩ := h.exists_place hrank
  have hfirst := h.group_mul_engines_lt hgroup
  have hlast : group * layout.engines + layout.engines < UInt64.size := by
    -- A full row ends within the ranks; the row of a single rank does not, but starts at 0.
    rcases h.cases with ⟨-, hgroups, -⟩ | ⟨-, hfull⟩
    · obtain rfl : group = 0 := by omega
      rwa [Nat.zero_mul, Nat.zero_add]
    · calc group * layout.engines + layout.engines
          = (group + 1) * layout.engines := (Nat.succ_mul group layout.engines).symm
        _ ≤ layout.groups * layout.engines := Nat.mul_le_mul_right _ hgroup
        _ < UInt64.size := by rwa [hfull]
  rw [Position.members?, Position.members, Position.groupSize, Position.leader,
    (h.position hgroup hindex).1]
  dsimp only
  rw [Word.mul?_eq_some (Nat.lt_trans hfirst htotal)]
  dsimp only [Option.bind_eq_bind, Option.bind_some]
  rw [Word.add?_eq_some hlast]
  rfl

theorem inWords (h : layout.Grid) (htotal : layout.total < UInt64.size)
    (hengines : layout.engines < UInt64.size) : layout.InWords where
  groups := h.groups?_eq htotal
  executive := h.executive?_eq htotal
  places := h.places?_eq htotal
  members := h.members?_eq htotal hengines

end Layout.Grid

end Syllogistic
