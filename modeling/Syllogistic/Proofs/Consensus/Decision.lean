import Syllogistic.Consensus.Basic

/-!
# What decides a record

How many results are for each side is all that a verdict depends on, and a record exists as
soon as there is a result and every result is for the formula in question. Otherwise the
fault is that there is none, or the first result that is for another formula.
-/

namespace Syllogistic

/-- What is found in a list stands at some place, and nothing before it would have been found. -/
theorem find?_eq_some_iff_first {α : Type} {p : α → Prop} [DecidablePred p] {l : List α} {a : α} :
    l.find? (p ·) = some a ↔
      ∃ j : Nat, l[j]? = some a ∧ p a ∧ ∀ k < j, ∀ b, l[k]? = some b → ¬ p b := by
  rw [List.find?_eq_some_iff_getElem]
  constructor
  · rintro ⟨ha, j, hj, rfl, hfirst⟩
    refine ⟨j, List.getElem?_eq_getElem hj, by simpa using ha, fun k hk b hb => ?_⟩
    obtain ⟨hlt, rfl⟩ := List.getElem?_eq_some_iff.mp hb
    simpa using hfirst k hk
  · rintro ⟨j, hj, ha, hfirst⟩
    obtain ⟨hlt, rfl⟩ := List.getElem?_eq_some_iff.mp hj
    refine ⟨by simpa using ha, j, hlt, rfl, fun k hk => ?_⟩
    simpa using hfirst k hk _ (List.getElem?_eq_getElem (Nat.lt_trans hk hlt))

namespace Policy

section Decide

variable {policy : Policy} {proved refuted : Nat}

theorem decide_proved_iff (hpolicy : 1 ≤ policy.proved) :
    (policy.decide proved refuted).1 = .proved ↔ policy.proved ≤ proved ∧ refuted = 0 := by
  rw [decide]
  split
  · exact iff_of_false nofun (by omega)
  · split
    · exact iff_of_true rfl (by omega)
    · split
      · exact iff_of_false nofun (by omega)
      · exact iff_of_false nofun (by omega)

theorem decide_refuted_iff (hproved : 1 ≤ policy.proved) (hrefuted : 1 ≤ policy.refuted) :
    (policy.decide proved refuted).1 = .refuted ↔ policy.refuted ≤ refuted ∧ proved = 0 := by
  rw [decide]
  split
  · exact iff_of_false nofun (by omega)
  · split
    · exact iff_of_false nofun (by omega)
    · split
      · exact iff_of_true rfl (by omega)
      · exact iff_of_false nofun (by omega)

theorem decide_contradiction_iff :
    (policy.decide proved refuted).2 = true ↔ 0 < proved ∧ 0 < refuted := by
  rw [decide]
  split
  · exact iff_of_true rfl ‹_›
  · split
    · exact iff_of_false nofun ‹_›
    · split
      · exact iff_of_false nofun ‹_›
      · exact iff_of_false nofun ‹_›

end Decide

variable {policy : Policy} {syllogism : Syllogism} {results : List EngineResult} {record : Record}
  {error : AlignmentError}

/-- The record that results come to if they line up. -/
def recordOf (policy : Policy) (syllogism : Syllogism) (results : List EngineResult) : Record where
  syllogism := syllogism
  verdict := (policy.decide (count .proved results) (count .refuted results)).1
  contradiction := (policy.decide (count .proved results) (count .refuted results)).2
  votes := results.map (·.vote)

/-- Results that are there and line up decide a record, and no others do. -/
theorem consolidate_eq_ok_iff :
    policy.consolidate syllogism results = .ok record ↔
      results ≠ [] ∧ (∀ result ∈ results, result.formula = syllogism.formula) ∧
        record = policy.recordOf syllogism results := by
  rw [consolidate]
  split
  · next hempty => exact iff_of_false nofun fun h => h.1 (List.isEmpty_iff.mp hempty)
  · next hempty =>
      split
      · next stray hstray =>
          refine iff_of_false nofun fun ⟨_, hformula, _⟩ => ?_
          have hother := List.find?_some hstray
          simp [hformula stray (List.mem_of_find?_eq_some hstray)] at hother
      · next hnone =>
          have hformula : ∀ result ∈ results, result.formula = syllogism.formula := by
            simpa using hnone
          constructor
          · intro h
            exact ⟨by simpa using hempty, hformula, (Except.ok.inj h).symm⟩
          · rintro ⟨-, -, rfl⟩
            rfl

theorem consolidate_eq_recordOf (hresults : results ≠ [])
    (hformula : ∀ result ∈ results, result.formula = syllogism.formula) :
    policy.consolidate syllogism results = .ok (policy.recordOf syllogism results) :=
  consolidate_eq_ok_iff.mpr ⟨hresults, hformula, rfl⟩

theorem consolidate_eq_error_iff :
    policy.consolidate syllogism results = .error error ↔
      results = [] ∧ error = .noResults syllogism.code ∨
        ∃ (j : Nat) (stray : EngineResult), results[j]? = some stray ∧
          stray.formula ≠ syllogism.formula ∧
          (∀ k < j, ∀ result, results[k]? = some result → result.formula = syllogism.formula) ∧
          error = .stray stray.engine stray.formula syllogism := by
  rw [consolidate]
  split
  · next hempty =>
      have hnil : results = [] := List.isEmpty_iff.mp hempty
      subst hnil
      simp [eq_comm]
  · next hempty =>
      have hne : results ≠ [] := by simpa using hempty
      simp only [hne, false_and, false_or]
      split
      · next stray hstray =>
          constructor
          · intro h
            cases h
            obtain ⟨j, hj, hformula, hfirst⟩ := find?_eq_some_iff_first.mp hstray
            exact ⟨j, stray, hj, hformula,
              fun k hk result hresult => Decidable.not_not.mp (hfirst k hk result hresult), rfl⟩
          · rintro ⟨j, other, hj, hformula, hfirst, rfl⟩
            have hother := find?_eq_some_iff_first.mpr ⟨j, hj, hformula,
              fun k hk result hresult => not_not_intro (hfirst k hk result hresult)⟩
            rw [hstray] at hother
            cases hother
            rfl
      · next hnone =>
          refine iff_of_false nofun fun ⟨j, other, hj, hformula, _, _⟩ => ?_
          have := List.find?_eq_none.mp hnone other (List.mem_of_getElem? hj)
          simp [hformula] at this

end Policy

end Syllogistic
