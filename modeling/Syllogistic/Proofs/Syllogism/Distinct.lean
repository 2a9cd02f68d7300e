import Mathlib.Algebra.BigOperators.Group.List.Basic
import Mathlib.Algebra.Order.Group.Nat
import Syllogistic.Proofs.Syllogism.Selection
import Syllogistic.Proofs.Syllogism.Shape

/-!
# What is left when repeated formulas are left out

Leaving out an entry whose formula has occurred depends on all that came before
it. But constructions with one formula agree up to denials that might as well be
affirmations, and an affirmation comes before its denial in the order of moods.
So the first construction with a formula is the one that affirms wherever it
can, and leaving out repetitions is leaving out the redundant constructions, each
looked at by itself.
-/

namespace Syllogistic

/-- In a list in the order of some numbers, taking out repetitions of a key leaves
what no entry with a smaller number shares its key with. -/
theorem eraseDupsBy_eq_filter {α β : Type} [DecidableEq β] (key : α → β) (number : α → Nat)
    (first : α → Bool) : ∀ l : List α, l.Pairwise (number · < number ·) →
    (∀ a ∈ l, first a = true ↔ ∀ b ∈ l, number b < number a → key b ≠ key a) →
    l.eraseDupsBy (fun later earlier => key later == key earlier) = l.filter first
  | [], _, _ => rfl
  | a :: l, hsorted, hfirst => by
      -- The head is kept, and takes from the rest all that share its key. What is first in
      -- the rest without these is what is first in the whole list, as the head comes first.
      obtain ⟨hafter, hsorted⟩ := List.pairwise_cons.mp hsorted
      have ha : first a = true := by
        refine (hfirst a List.mem_cons_self).mpr fun b hb hlt => ?_
        rcases List.mem_cons.mp hb with rfl | hb
        · exact absurd hlt (Nat.lt_irrefl _)
        · exact absurd (hafter b hb) (Nat.lt_asymm hlt)
      have hothers : ∀ b ∈ l, first b = true → key b ≠ key a := by
        intro b hb hb'
        exact Ne.symm ((hfirst b (List.mem_cons_of_mem _ hb)).mp hb' a List.mem_cons_self
          (hafter b hb))
      rw [List.eraseDupsBy_cons, List.filter_cons_of_pos ha,
        eraseDupsBy_eq_filter key number first _ (hsorted.filter _) ?_, List.filter_filter]
      · refine congrArg (a :: ·) (List.filter_congr fun b hb => ?_)
        cases hb' : first b
        · simp
        · simpa using hothers b hb hb'
      · intro b hb
        obtain ⟨hb, hkey⟩ := List.mem_filter.mp hb
        have hkey : key b ≠ key a := by simpa using hkey
        rw [hfirst b (List.mem_cons_of_mem _ hb)]
        constructor
        · intro h c hc
          exact h c (List.mem_cons_of_mem _ (List.mem_of_mem_filter hc))
        · intro h c hc hlt heq
          rcases List.mem_cons.mp hc with rfl | hc
          · exact hkey heq.symm
          · refine h c (List.mem_filter.mpr ⟨hc, ?_⟩) hlt heq
            simpa [heq] using hkey
termination_by l => l.length
decreasing_by
  rw [List.length_cons]
  exact Nat.lt_succ_of_le (List.length_filter_le _ _)

namespace Construction

variable {c d : Construction}

theorem number_inj (h : c.number = d.number) : c = d := by
  have hc := getElem?_number c
  rw [h, getElem?_number d] at hc
  exact (Option.some.inj hc).symm

theorem pairwise_number : values.Pairwise (number · < number ·) := by
  refine List.pairwise_map.mp ?_
  rw [map_number_values]
  exact List.pairwise_lt_range

theorem place_affirmed_le (premise : Premise) :
    premise.affirmed.mood.place ≤ premise.mood.place ∧
      premise.affirmed.modality = premise.modality := by
  obtain ⟨mood, modality⟩ := premise
  cases modality <;> cases mood <;> decide

theorem number_affirmed_le (c : Construction) : c.affirmed.number ≤ c.number := by
  obtain ⟨hmajor, hmajor'⟩ := place_affirmed_le c.major
  obtain ⟨hminor, hminor'⟩ := place_affirmed_le c.minor
  obtain ⟨hconclusion, hconclusion'⟩ := place_affirmed_le c.conclusion
  simp only [number, affirmed, hmajor', hminor', hconclusion']
  omega

/-- A construction is not redundant if and only if none with a smaller number has
its formula. -/
theorem redundant_eq_false_iff :
    c.redundant = false ↔ ∀ d : Construction, d.number < c.number → d.formula ≠ c.formula := by
  rw [← affirmed_eq_self_iff]
  constructor
  · intro hself d hlt heq
    have hle := number_affirmed_le d
    rw [formula_eq_iff.mp heq, hself] at hle
    omega
  · intro h
    have hle := number_affirmed_le c
    have hnot : ¬ c.affirmed.number < c.number := fun hlt => h _ hlt (formula_affirmed c)
    exact number_inj (by omega)

theorem redundant_affirmed (c : Construction) : c.affirmed.redundant = false :=
  affirmed_eq_self_iff.mp (formula_eq_iff.mp (formula_affirmed c))

/-- The first construction with a formula is the one that affirms wherever it can. -/
theorem find?_formula (c : Construction) :
    values.find? (fun d => d.formula = c.formula) = some c.affirmed := by
  obtain ⟨hlt, hget⟩ := List.getElem?_eq_some_iff.mp (getElem?_number c.affirmed)
  refine List.find?_eq_some_iff_getElem.mpr ⟨by simp [formula_affirmed], _, hlt, hget, ?_⟩
  intro j hj
  have hbound : j < values.length := Nat.lt_trans hj hlt
  have hnumber : values[j].number = j := number_of_getElem? (List.getElem?_eq_getElem hbound)
  have hne := redundant_eq_false_iff.mp (redundant_affirmed c) values[j] (by omega)
  rw [formula_affirmed] at hne
  simpa using hne

end Construction

/-! ## Counting

Whether a construction is redundant is asked of each premise by itself. So where a
list goes through what can stand at one place, and for each of these through all
that can follow, those that are not redundant are as many as the product says. -/

theorem countP_flatMap_mul {α β : Type} {p : β → Bool} {f : α → List β} {weight : α → Nat}
    {count : Nat} (l : List α) (h : ∀ a ∈ l, (f a).countP p = weight a * count) :
    (l.flatMap f).countP p = (l.map weight).sum * count := by
  induction l with
  | nil => simp
  | cons a l ih =>
      rw [List.flatMap_cons, List.countP_append, h a List.mem_cons_self,
        ih fun b hb => h b (List.mem_cons_of_mem _ hb), List.map_cons, List.sum_cons, Nat.add_mul]

def Premise.weight (premise : Premise) : Nat := (!premise.redundant).toNat

/-- How many readings do not make a premise of a mood redundant. -/
def Mood.readings (mood : Mood) : Nat :=
  (Modality.values.map fun modality => Premise.weight ⟨mood, modality⟩).sum

namespace Construction

theorem countP_singleton (c : Construction) :
    [c].countP (!·.redundant) = c.conclusion.weight * (c.minor.weight * c.major.weight) := by
  obtain ⟨figure, major, minor, conclusion⟩ := c
  simp only [Premise.weight, redundant, List.countP_singleton]
  cases major.redundant <;> cases minor.redundant <;> cases conclusion.redundant <;> rfl

theorem countP_readings (figure : Figure) (majorMood minorMood conclusionMood : Mood) :
    (Modality.values.flatMap fun major =>
      Modality.values.flatMap fun minor =>
        Modality.values.map fun conclusion =>
          (⟨figure, ⟨majorMood, major⟩, ⟨minorMood, minor⟩, ⟨conclusionMood, conclusion⟩⟩ :
            Construction)).countP (!·.redundant) =
      majorMood.readings * (minorMood.readings * conclusionMood.readings) := by
  refine countP_flatMap_mul _ fun major _ => ?_
  rw [Nat.mul_left_comm]
  refine countP_flatMap_mul _ fun minor _ => ?_
  rw [← Nat.mul_assoc, Nat.mul_comm, List.map_eq_flatMap]
  exact countP_flatMap_mul _ fun conclusion _ => countP_singleton _

theorem countP_not_redundant : values.countP (!·.redundant) = 4 * 24 ^ 3 := by
  have hmoods : (Mood.values.map Mood.readings).sum = 24 := rfl
  have hfigures : (Figure.values.map fun _ => 1).sum = 4 := rfl
  rw [values, ← hfigures, show 24 ^ 3 = 24 * (24 * 24) by rfl, ← hmoods]
  refine countP_flatMap_mul _ fun figure _ => ?_
  rw [Nat.one_mul]
  refine countP_flatMap_mul _ fun majorMood _ => ?_
  rw [Nat.mul_left_comm]
  refine countP_flatMap_mul _ fun minorMood _ => ?_
  rw [← Nat.mul_assoc, Nat.mul_comm]
  refine countP_flatMap_mul _ fun conclusionMood _ => ?_
  rw [countP_readings]
  ring

end Construction

/-! ## The entries without repetitions -/

/-- What is left of the enumeration when redundant constructions are left out. -/
def distinctEntries : List Syllogism :=
  (Construction.values.filter (!·.redundant)).map Construction.build

theorem entries_true : entries true = distinctEntries := by
  have hsorted : (Construction.values.map Construction.build).Pairwise fun s t =>
      s.construction.number < t.construction.number :=
    List.pairwise_map.mpr Construction.pairwise_number
  have hfilter := eraseDupsBy_eq_filter Syllogism.formula (·.construction.number)
    (fun s => !s.construction.redundant) _ hsorted fun s hs => by
      obtain ⟨c, -, rfl⟩ := List.mem_map.mp hs
      rw [Bool.not_eq_true', Construction.redundant_eq_false_iff]
      simp only [List.forall_mem_map, Construction.mem_values, true_implies]
      rfl
  rw [entries, entriesOf, if_pos rfl, distinctEntries]
  refine hfilter.trans ?_
  rw [List.filter_map]
  rfl

theorem length_distinctEntries : distinctEntries.length = 4 * 24 ^ 3 := by
  rw [distinctEntries, List.length_map, ← List.countP_eq_length_filter,
    Construction.countP_not_redundant]

theorem nodup_distinctEntries : (distinctEntries.map (·.formula)).Nodup := by
  rw [distinctEntries, List.map_map]
  refine List.pairwise_map.mpr ?_
  refine (Construction.pairwise_number.filter _).imp_of_mem ?_
  intro c d hc hd hlt heq
  have hd : d.redundant = false := by simpa using (List.mem_filter.mp hd).2
  exact Construction.redundant_eq_false_iff.mp hd c hlt heq

/-- Every formula has an entry, and the entry has the first code of the formula. -/
theorem exists_distinctEntry (c : Construction) :
    ∃ s ∈ distinctEntries, s.formula = c.formula ∧
      (Construction.values.find? fun d => d.formula = c.formula).map Construction.code =
        some s.code := by
  have hfirst := Construction.find?_formula c
  refine ⟨c.affirmed.build, List.mem_map.mpr ⟨_, ?_, rfl⟩, Construction.formula_affirmed c, ?_⟩
  · refine List.mem_filter.mpr ⟨Construction.mem_values _, ?_⟩
    rw [Construction.redundant_affirmed]
    rfl
  · rw [hfirst]
    rfl

namespace Selection

theorem pick_all (l : List Syllogism) : ({} : Selection).pick l = l := by
  refine List.ext_getElem? fun i => ?_
  rw [getElem?_pick _ (Nat.le_refl 1)]
  simp

/-- With repeated formulas left out, a selection is made from the constructions none
of whose premises, nor the conclusion, is a denial under an accidental reading.
These are 24 for each place of a premise in each figure; their formulas are all
there are, each once, and each has the first code it occurs with. Formulas are equal
if the constructions are, up to such denials. -/
theorem syllogisms_distinct {selection : Selection} (h : 1 ≤ selection.stride)
    (hdistinct : selection.distinct = true) :
    let kept := (Construction.values.filter fun c => !c.redundant).map Construction.build
    let selected := selection.pick kept
    selection.syllogisms = .ok selected ∧
      (∀ i, selected[i]? =
        if selection.limit.all (i < ·) then kept[selection.skip + i * selection.stride]?
        else none) ∧
      (∀ c d : Construction, c.formula = d.formula ↔
        c.figure = d.figure ∧ c.major.Agrees d.major ∧ c.minor.Agrees d.minor ∧
          c.conclusion.Agrees d.conclusion) ∧
      ({} : Selection).syllogisms = .ok kept ∧ kept.length = 55296 ∧
      (kept.map (·.formula)).Nodup ∧
      ∀ c : Construction, ∃ s ∈ kept, s.formula = c.formula ∧
        (Construction.values.find? fun d => d.formula = c.formula).map Construction.code =
          some s.code := by
  intro kept selected
  have hsyllogisms : ∀ selection : Selection, 1 ≤ selection.stride →
      selection.distinct = true → selection.syllogisms = .ok (selection.pick kept) := by
    intro selection h hdistinct
    rw [syllogisms, if_neg (by omega), pick_enumerate selection h, hdistinct, entries_true]
    rfl
  refine ⟨hsyllogisms selection h hdistinct, selection.getElem?_pick h kept, fun c d => ?_, ?_,
    length_distinctEntries, nodup_distinctEntries, exists_distinctEntry⟩
  · rw [Construction.formula_eq_iff, Construction.affirmed_eq_iff]
    rfl
  · rw [hsyllogisms {} (Nat.le_refl 1) rfl, pick_all]

/-- All formulas; that of `1EaA0A0` is not there twice, as it is that of `1AaA0A0`. -/
theorem syllogisms_distinct_all :
    1 ≤ ({} : Selection).stride ∧ ({} : Selection).distinct = true ∧
      (∃ kept, ({} : Selection).syllogisms = .ok kept ∧ kept.length = 55296) ∧
      Construction.formula ⟨.first, ⟨.E, .accidental⟩, ⟨.A, .plain⟩, ⟨.A, .plain⟩⟩ =
        Construction.formula ⟨.first, ⟨.A, .accidental⟩, ⟨.A, .plain⟩, ⟨.A, .plain⟩⟩ := by
  have hstride : 1 ≤ ({} : Selection).stride := Nat.le_refl 1
  obtain ⟨-, -, hformula, hall, hlength, -⟩ := syllogisms_distinct hstride rfl
  refine ⟨hstride, rfl, ⟨_, hall, hlength⟩, (hformula _ _).mpr ?_⟩
  exact ⟨rfl, ⟨rfl, rfl⟩, ⟨rfl, rfl⟩, ⟨rfl, rfl⟩⟩

end Selection

end Syllogistic
