import Mathlib.Order.Basic
import Syllogistic.Proofs.Syllogism.Enumeration

/-!
# A selection is what a list of everything would give

The enumeration stops as soon as it has as many entries as the selection can ask
for. That number is counted no further than counts go, but as there are fewer
entries than that in all, a count that went no further is a bound that is never
reached. So a selection may be thought of as made from a list of everything.

Selecting is a matter of places: entry `i` of what is selected is the entry at
place `skip + i * stride`, as long as `i` is below the limit and there is such a
place.
-/

namespace Syllogistic

variable {α : Type}

/-! ## Every so many entries -/

/-- What is kept of a list that stands at a place of a longer one. -/
def everyNthFrom (stride place : Nat) (l : List α) : List α :=
  (l.zipIdx place).filterMap fun (entry, place) => if place % stride = 0 then some entry else none

variable {stride : Nat}

theorem everyNthFrom_cons (place : Nat) (a : α) (l : List α) :
    everyNthFrom stride place (a :: l) =
      if place % stride = 0 then a :: everyNthFrom stride (place + 1) l
      else everyNthFrom stride (place + 1) l := by
  rw [everyNthFrom, List.zipIdx_cons, List.filterMap_cons]
  split
  · next hnone =>
      rw [if_neg fun h => by simp [h] at hnone]
      rfl
  · next b hsome =>
      obtain ⟨hplace, rfl⟩ : place % stride = 0 ∧ a = b := by simpa using hsome
      rw [if_pos hplace]
      rfl

theorem everyNthFrom_stride (place : Nat) (l : List α) :
    everyNthFrom stride (stride + place) l = everyNthFrom stride place l := by
  induction l generalizing place with
  | nil => rfl
  | cons a l ih =>
      rw [everyNthFrom_cons, everyNthFrom_cons, Nat.add_mod_left, Nat.add_assoc, ih]

/-- Nothing is kept before the next multiple of the stride. -/
theorem everyNthFrom_sub {k : Nat} (h : k < stride) (l : List α) :
    everyNthFrom stride (stride - k) l = everyNthFrom stride 0 (l.drop k) := by
  induction k generalizing l with
  | zero => exact everyNthFrom_stride 0 l
  | succ k ih =>
      cases l with
      | nil => rfl
      | cons a l =>
          have hplace : (stride - (k + 1)) % stride = stride - (k + 1) :=
            Nat.mod_eq_of_lt (by omega)
          rw [everyNthFrom_cons, if_neg (by omega), show stride - (k + 1) + 1 = stride - k by omega,
            ih (by omega), List.drop_succ_cons]

theorem everyNth_cons (h : 0 < stride) (a : α) (l : List α) :
    everyNth stride (a :: l) = a :: everyNth stride (l.drop (stride - 1)) := by
  have hrest := everyNthFrom_sub (show stride - 1 < stride by omega) l
  rw [show stride - (stride - 1) = 1 by omega] at hrest
  show everyNthFrom stride 0 (a :: l) = a :: everyNthFrom stride 0 (l.drop (stride - 1))
  rw [everyNthFrom_cons, if_pos (Nat.zero_mod stride), hrest]

theorem getElem?_everyNth (h : 0 < stride) (l : List α) (i : Nat) :
    (everyNth stride l)[i]? = l[i * stride]? := by
  induction i generalizing l with
  | zero =>
      cases l with
      | nil => rfl
      | cons a l =>
          rw [everyNth_cons h, Nat.zero_mul, List.getElem?_cons_zero, List.getElem?_cons_zero]
  | succ i ih =>
      cases l with
      | nil => rfl
      | cons a l =>
          have hplace : (i + 1) * stride = stride - 1 + i * stride + 1 := by
            rw [Nat.succ_mul]
            omega
          rw [everyNth_cons h, List.getElem?_cons_succ, ih, List.getElem?_drop, hplace,
            List.getElem?_cons_succ]

theorem length_everyNth (h : 0 < stride) (l : List α) :
    (everyNth stride l).length = (l.length + stride - 1) / stride := by
  refine eq_of_forall_lt_iff fun i => ?_
  have hplace : i < (everyNth stride l).length ↔ i * stride < l.length := by
    rw [← not_iff_not, Nat.not_lt, Nat.not_lt, ← List.getElem?_eq_none_iff,
      ← List.getElem?_eq_none_iff, getElem?_everyNth h]
  rw [hplace, Nat.lt_iff_add_one_le (m := i), Nat.le_div_iff_mul_le h, Nat.succ_mul]
  omega

namespace Selection

variable (selection : Selection)

theorem getElem?_pick (h : 1 ≤ selection.stride) (l : List α) (i : Nat) :
    (selection.pick l)[i]? =
      if selection.limit.all (i < ·) then l[selection.skip + i * selection.stride]? else none := by
  have hkept : (everyNth selection.stride (l.drop selection.skip))[i]? =
      l[selection.skip + i * selection.stride]? := by
    rw [getElem?_everyNth h, List.getElem?_drop]
  rw [pick]
  cases selection.limit with
  | none => rw [hkept]; rfl
  | some limit =>
      rw [List.getElem?_take, hkept]
      simp

theorem length_pick (h : 1 ≤ selection.stride) (l : List α) :
    let reached := (l.length - selection.skip + selection.stride - 1) / selection.stride
    (selection.pick l).length = selection.limit.elim reached (min · reached) := by
  intro reached
  have hkept : (everyNth selection.stride (l.drop selection.skip)).length = reached := by
    rw [length_everyNth h, List.length_drop]
  rw [pick]
  cases selection.limit with
  | none => exact hkept
  | some limit => exact (List.length_take ..).trans (by rw [hkept]; rfl)

/-- A list that is cut off where nothing more is asked for gives the same. -/
theorem pick_take (h : 1 ≤ selection.stride) {limit : Nat} (hlimit : selection.limit = some limit)
    {bound : Nat} (hbound : limit * selection.stride + selection.skip ≤ bound) (l : List α) :
    selection.pick (l.take bound) = selection.pick l := by
  refine List.ext_getElem? fun i => ?_
  rw [getElem?_pick _ h, getElem?_pick _ h, hlimit]
  split
  · next hi =>
      have hlt : i < limit := by simpa using hi
      have hplace := Nat.mul_le_mul_right selection.stride (Nat.succ_le_of_lt hlt)
      rw [Nat.succ_mul] at hplace
      rw [List.getElem?_take_of_lt (by omega)]
  · rfl

/-- The bound of a selection leaves out nothing that it asks for. -/
theorem pick_enumerate (h : 1 ≤ selection.stride) :
    selection.pick (enumerate selection.bound selection.distinct) =
      selection.pick (entries selection.distinct) := by
  rw [enumerate_eq, bound]
  cases hlimit : selection.limit with
  | none => rfl
  | some limit =>
      rw [Option.map_some, Option.elim_some]
      by_cases hcount : limit * selection.stride + selection.skip ≤ maxCount
      · refine selection.pick_take h hlimit ?_ _
        omega
      · -- The count has stopped at the largest number, and there are not so many entries.
        have hall := length_entries_le selection.distinct
        have hmax : 87808 ≤ maxCount := by decide
        rw [List.take_of_length_le]
        omega

theorem mem_of_mem_pick {l : List α} (h : 1 ≤ selection.stride) {a : α}
    (ha : a ∈ selection.pick l) : a ∈ l := by
  obtain ⟨i, hi⟩ := List.mem_iff_getElem?.mp ha
  rw [getElem?_pick _ h] at hi
  split at hi
  · exact List.mem_of_getElem? hi
  · cases hi

/-- What a selection gives is what it would give of a list of all entries, whose
places are the numbers of constructions if repeated formulas stay in; and every
entry can be built again from its code. -/
theorem syllogisms_eq_pick {selection : Selection} (h : 1 ≤ selection.stride) :
    let all := entries selection.distinct
    let selected := selection.pick all
    let reached := (87808 - selection.skip + selection.stride - 1) / selection.stride
    selection.syllogisms = .ok selected ∧
      (∀ i, selected[i]? =
        if selection.limit.all (i < ·) then all[selection.skip + i * selection.stride]?
        else none) ∧
      (Construction.values.length = 87808 ∧
        ∀ c : Construction, Construction.values[c.number]? = some c) ∧
      (selection.distinct = false →
        selected.length = selection.limit.elim reached (min · reached) ∧
        ∀ i s, selected[i]? = some s →
          s.construction.number = selection.skip + i * selection.stride) ∧
      ∀ s ∈ selected, s.code = s.construction.code ∧ Syllogism.ofCode s.code = .ok s := by
  intro all selected reached
  refine ⟨?_, selection.getElem?_pick h all, ⟨Construction.length_values,
    Construction.getElem?_number⟩, fun hall => ⟨?_, fun i s hs => ?_⟩, fun s hs => ?_⟩
  · rw [syllogisms, if_neg (by omega), pick_enumerate selection h]
  · have hlength := selection.length_pick h all
    rwa [show all.length = 87808 by rw [← length_entries_false, ← hall]] at hlength
  · rw [selection.getElem?_pick h all] at hs
    split at hs
    · rw [show all = entries false by rw [← hall], getElem?_entries_false] at hs
      obtain ⟨c, hc, rfl⟩ := Option.map_eq_some_iff.mp hs
      exact Construction.number_of_getElem? hc
    · cases hs
  · have hbuild := build_of_mem_entries (selection.mem_of_mem_pick h hs)
    rw [hbuild]
    refine ⟨rfl, ?_⟩
    show (Construction.ofCode s.construction.code).map Construction.build = _
    rw [Construction.ofCode_code]
    rfl

/-- Four entries, seven apart, after the first five; repeated formulas stay in. -/
theorem syllogisms_eq_pick_seven :
    let selection : Selection := ⟨some 4, 7, 5, false⟩
    1 ≤ selection.stride ∧
      ∃ selected, selection.syllogisms = .ok selected ∧ selected.length = 4 ∧
        ∀ i s, selected[i]? = some s → s.construction.number = 5 + i * 7 := by
  intro selection
  have hstride : 1 ≤ selection.stride := by decide
  obtain ⟨hselected, -, -, hall, -⟩ := syllogisms_eq_pick hstride
  obtain ⟨hlength, hnumbers⟩ := hall rfl
  exact ⟨hstride, _, hselected, hlength.trans (by simp [selection]), hnumbers⟩

end Selection

end Syllogistic
