import Syllogistic.Proofs.Rows
import Syllogistic.Syllogism.Code
import Syllogistic.Syllogism.Enumeration

/-!
# The enumeration in full

A construction is a number with seven digits: the figure, the three moods and the
three modal readings, the conclusion's reading last. The enumeration goes through
these numbers from 0 on, so a construction stands at the place that is its number.

What has been built goes on from what was kept, and no entry that was kept is
dropped again. So a bound on the number of entries cuts the list off and changes
nothing before the cut, whether repeated formulas are left out or not.
-/

namespace Syllogistic

/-! ## Numbers of constructions -/

/-- The place of a figure in its enumeration. -/
def Figure.place (figure : Figure) : Nat := Figure.values.idxOf figure

def Mood.place (mood : Mood) : Nat := Mood.values.idxOf mood

def Modality.place (modality : Modality) : Nat := Modality.values.idxOf modality

namespace Construction

/-- The figure, the moods and the readings as the digits of one number. -/
def number (c : Construction) : Nat :=
  (((((c.figure.place * 4 + c.major.mood.place) * 4 + c.minor.mood.place) * 4 +
    c.conclusion.mood.place) * 7 + c.major.modality.place) * 7 + c.minor.modality.place) * 7 +
    c.conclusion.modality.place

theorem map_number_values : values.map number = List.range 87808 := by
  have hfigures : Figure.values.map Figure.place = List.range 4 := rfl
  have hmoods : Mood.values.map Mood.place = List.range 4 := rfl
  have hreadings : Modality.values.map Modality.place = List.range 7 := rfl
  have hnumbers := map_number_flatMap 0 hfigures fun figure =>
    map_number_flatMap _ hmoods fun majorMood =>
    map_number_flatMap _ hmoods fun minorMood =>
    map_number_flatMap _ hmoods fun conclusionMood =>
    map_number_flatMap _ hreadings fun major =>
    map_number_flatMap _ hreadings fun minor =>
      show (Modality.values.map fun conclusion =>
          (⟨figure, ⟨majorMood, major⟩, ⟨minorMood, minor⟩, ⟨conclusionMood, conclusion⟩⟩ :
            Construction)).map number = (List.range 7).map _ by
        rw [← hreadings, List.map_map, List.map_map]
        refine List.map_congr_left fun conclusion _ => ?_
        simp only [Function.comp_apply, number]
        rw [Nat.zero_mul, Nat.zero_add]
  have hcount : 87808 = 4 * (4 * (4 * (4 * (7 * (7 * 7))))) := rfl
  rw [values, hnumbers, hcount]
  generalize 4 * (4 * (4 * (4 * (7 * (7 * 7))))) = count
  simp only [Nat.zero_mul, Nat.zero_add, List.map_id']

theorem length_values : values.length = 87808 := by
  have hlength := congrArg List.length map_number_values
  rwa [List.length_map, List.length_range] at hlength

theorem mem_values (c : Construction) : c ∈ values := by
  have hfigure : ∀ f : Figure, f ∈ Figure.values := fun f => by cases f <;> decide
  have hmood : ∀ m : Mood, m ∈ Mood.values := fun m => by cases m <;> decide
  have hreading : ∀ m : Modality, m ∈ Modality.values := fun m => by cases m <;> decide
  obtain ⟨figure, ⟨majorMood, major⟩, ⟨minorMood, minor⟩, ⟨conclusionMood, conclusion⟩⟩ := c
  simp only [values, List.mem_flatMap, List.mem_map]
  exact ⟨figure, hfigure _, majorMood, hmood _, minorMood, hmood _, conclusionMood, hmood _,
    major, hreading _, minor, hreading _, conclusion, hreading _, rfl⟩

/-- The construction at a place of the enumeration has that place as its number. -/
theorem number_of_getElem? {n : Nat} {c : Construction} (h : values[n]? = some c) :
    c.number = n := by
  have hnumber : (values.map number)[n]? = some c.number := by
    rw [List.getElem?_map, h, Option.map_some]
  obtain ⟨hlt, -⟩ := List.getElem?_eq_some_iff.mp h
  rw [length_values] at hlt
  rw [map_number_values, List.getElem?_range hlt] at hnumber
  exact (Option.some.inj hnumber).symm

/-- Every construction stands at the place that is its number. -/
theorem getElem?_number (c : Construction) : values[c.number]? = some c := by
  obtain ⟨n, hn⟩ := List.mem_iff_getElem?.mp (mem_values c)
  rw [number_of_getElem? hn, hn]

end Construction

/-! ## What has been kept

Leaving out what was seen is the same as leaving out, behind each entry that is
kept, what has its formula. -/

/-- The syllogisms of some constructions; with `distinct`, of those with one formula
only the first. -/
def entriesOf (distinct : Bool) (constructions : List Construction) : List Syllogism :=
  let all := constructions.map Construction.build
  if distinct then all.eraseDupsBy fun later earlier => later.formula == earlier.formula else all

/-- The enumeration without a bound. -/
def entries (distinct : Bool) : List Syllogism := entriesOf distinct Construction.values

theorem eraseDupsBy_sublist {α : Type} (r : α → α → Bool) :
    ∀ l : List α, (l.eraseDupsBy r).Sublist l
  | [] => List.Sublist.refl _
  | a :: l => by
      rw [List.eraseDupsBy_cons]
      exact ((eraseDupsBy_sublist r _).trans List.filter_sublist).cons_cons a
termination_by l => l.length
decreasing_by
  rw [List.length_cons]
  exact Nat.lt_succ_of_le (List.length_filter_le _ _)

theorem entriesOf_sublist (distinct : Bool) (constructions : List Construction) :
    (entriesOf distinct constructions).Sublist (constructions.map Construction.build) := by
  rw [entriesOf]
  split
  · exact eraseDupsBy_sublist _ _
  · exact List.Sublist.refl _

namespace Progress

theorem foldl_extend (constructions : List Construction) (p : Progress) :
    (constructions.foldl (extend none false) p).kept.toList =
      p.kept.toList ++ constructions.map Construction.build := by
  induction constructions generalizing p with
  | nil => simp
  | cons c rest ih =>
      rw [List.foldl_cons, ih]
      simp [extend, full]

theorem foldl_extend_distinct (constructions : List Construction) (p : Progress) :
    (constructions.foldl (extend none true) p).kept.toList =
      p.kept.toList ++
        ((constructions.map Construction.build).filter
            (fun s => !p.seen.contains s.formula)).eraseDupsBy
          fun later earlier => later.formula == earlier.formula := by
  induction constructions generalizing p with
  | nil => simp
  | cons c rest ih =>
      rw [List.foldl_cons, ih, List.map_cons]
      by_cases hseen : p.seen.contains c.build.formula = true
      · rw [extend, full, if_neg nofun, if_pos rfl, if_pos hseen,
          List.filter_cons_of_neg (by simp [hseen])]
      · -- What was seen grows by the formula that `eraseDupsBy` takes out of the rest.
        have hnew : ∀ s : Syllogism,
            (!(p.seen.insert c.build.formula).contains s.formula) =
              (decide ((s.formula == c.build.formula) = false) &&
                !p.seen.contains s.formula) := by
          intro s
          rw [Std.HashSet.contains_insert, BEq.comm, Bool.not_or, Bool.decide_eq_false]
        rw [extend, full, if_neg nofun, if_pos rfl, if_neg hseen,
          List.filter_cons_of_pos (by simp [hseen]), List.eraseDupsBy_cons, List.filter_filter,
          Array.toList_push, List.append_assoc, List.singleton_append]
        simp only [hnew]

/-- Whatever has been kept stays at the front. -/
theorem prefix_foldl_extend (constructions : List Construction) (distinct : Bool)
    (p : Progress) :
    p.kept.toList <+: (constructions.foldl (extend none distinct) p).kept.toList := by
  cases distinct with
  | false =>
      rw [foldl_extend]
      exact List.prefix_append _ _
  | true =>
      rw [foldl_extend_distinct]
      exact List.prefix_append _ _

theorem size_extend_le (bound : Option Nat) (distinct : Bool) (p : Progress) (c : Construction) :
    (p.extend bound distinct c).kept.size ≤ p.kept.size + 1 := by
  simp only [extend]
  split
  · omega
  · split
    · split
      · omega
      · rw [Array.size_push]
    · rw [Array.size_push]

/-- Going on up to a bound comes to the same as going on and cutting off there. -/
theorem foldl_extend_some (constructions : List Construction) {bound : Nat} (distinct : Bool)
    (p : Progress) (h : p.kept.size ≤ bound) :
    (constructions.foldl (extend (some bound) distinct) p).kept.toList =
      (constructions.foldl (extend none distinct) p).kept.toList.take bound := by
  induction constructions generalizing p with
  | nil =>
      rw [List.foldl_nil, List.foldl_nil, List.take_of_length_le]
      exact h
  | cons c rest ih =>
      by_cases hfull : bound ≤ p.kept.size
      · -- Both sides have come to what `p` has kept, whatever is still to come.
        have hstay : p.extend (some bound) distinct c = p := by
          rw [extend, full, if_pos (decide_eq_true hfull)]
        have hkept : ∀ l, p.kept.toList <+: l → l.take bound = p.kept.toList := by
          rintro _ ⟨more, rfl⟩
          rw [Nat.le_antisymm hfull h, ← Array.length_toList, List.take_left]
        rw [List.foldl_cons, hstay, ih p h, hkept _ (prefix_foldl_extend rest distinct p),
          hkept _ (prefix_foldl_extend (c :: rest) distinct p)]
      · have hgo : p.extend (some bound) distinct c = p.extend none distinct c := by
          simp [extend, full, hfull]
        have hsize := size_extend_le none distinct p c
        rw [List.foldl_cons, List.foldl_cons, hgo]
        exact ih _ (by omega)

theorem keep_none (distinct : Bool) (constructions : List Construction) :
    keep none distinct constructions = entriesOf distinct constructions := by
  rw [keep, entriesOf]
  cases distinct with
  | false => exact foldl_extend constructions start
  | true =>
      rw [foldl_extend_distinct]
      simp [start]

theorem keep_some (bound : Nat) (distinct : Bool) (constructions : List Construction) :
    keep (some bound) distinct constructions =
      (entriesOf distinct constructions).take bound := by
  rw [← keep_none]
  exact foldl_extend_some constructions distinct start (Nat.zero_le bound)

end Progress

/-! ## The entries of the enumeration -/

/-- Building stops at a bound as if everything had been built and then cut off. -/
theorem enumerate_eq (bound : Option Nat) (distinct : Bool) :
    enumerate bound distinct = bound.elim (entries distinct) (entries distinct).take := by
  cases bound with
  | none => exact Progress.keep_none distinct Construction.values
  | some bound => exact Progress.keep_some bound distinct Construction.values

theorem length_entries_le (distinct : Bool) : (entries distinct).length ≤ 87808 := by
  have hlength := (entriesOf_sublist distinct Construction.values).length_le
  rwa [List.length_map, Construction.length_values] at hlength

theorem length_entries_false : (entries false).length = 87808 := by
  show (Construction.values.map Construction.build).length = 87808
  rw [List.length_map, Construction.length_values]

theorem getElem?_entries_false (n : Nat) :
    (entries false)[n]? = Construction.values[n]?.map Construction.build := by
  show (Construction.values.map Construction.build)[n]? = _
  rw [List.getElem?_map]

/-- Every entry is the syllogism of its construction. -/
theorem build_of_mem_entries {distinct : Bool} {s : Syllogism} (h : s ∈ entries distinct) :
    s = s.construction.build := by
  have hmem := (entriesOf_sublist distinct Construction.values).subset h
  obtain ⟨c, -, rfl⟩ := List.mem_map.mp hmem
  rfl

end Syllogistic
