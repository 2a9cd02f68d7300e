import Mathlib.Data.List.Forall2
import Syllogistic.Batch.Sequential
import Syllogistic.Proofs.Consensus.Columns
import Syllogistic.Proofs.Wire.RoundTrip

/-!
# Columns decide a chunk as the plain loop does

Every engine of a group decides the whole chunk, which makes a column; the leader
takes the columns apart again, row by row, and decides each syllogism by its row.
A row is what the plain loop asks all engines for, so the records are the same.

The plain loop itself comes to one record for each formula as soon as there is
an engine: no row is empty, and every result in a row is for the formula of the
row. What it comes to for chunks that are joined is what it comes to for the
chunks.
-/

namespace Syllogistic

/-- The results of one engine on a chunk. -/
def Backend.column (backend : Backend) (base : Nat) (chunk : List Syllogism) :
    List EngineResult :=
  chunk.map fun syllogism =>
    backend.decide syllogism.formula (backend.engine.timeout base)

namespace Worker

theorem decideAll_eq (worker : Worker) (timeout : Nat) (chunk : List Syllogism) :
    (worker.decideAll timeout chunk).1 =
        chunk.map (fun syllogism => worker.backend.decide syllogism.formula timeout) ∧
      (worker.decideAll timeout chunk).2.backend = worker.backend := by
  induction chunk generalizing worker with
  | nil => exact ⟨rfl, rfl⟩
  | cons syllogism rest ih =>
      obtain ⟨hresults, hbackend⟩ := ih (worker.decide syllogism.formula timeout).2
      exact ⟨congrArg _ hresults, hbackend⟩

theorem run_eq (worker : Worker) (base : Nat) (chunk : List Syllogism) :
    (worker.run base chunk).1 = worker.backend.column base chunk ∧
      (worker.run base chunk).2.backend = worker.backend :=
  worker.decideAll_eq _ chunk

end Worker

namespace Batch

variable {policy : Policy} {backends : List Backend} {base : Nat}

theorem formula_of_mem_resultsOf {formula : Formula} {result : EngineResult}
    (h : result ∈ resultsOf backends base formula) : result.formula = formula := by
  obtain ⟨backend, -, rfl⟩ := List.mem_map.mp h
  rw [Backend.decide]
  cases backend.ask formula (backend.engine.timeout base) <;> rfl

/-- The plain loop comes to the record of each formula, in order. -/
theorem sequential_eq_ok_iff {formulas : List Syllogism} {records : List Record} :
    sequential policy backends base formulas = .ok records ↔
      List.Forall₂ (fun syllogism record =>
        policy.consolidate syllogism (resultsOf backends base syllogism.formula) = .ok record)
        formulas records := by
  induction formulas generalizing records with
  | nil =>
      rw [sequential, List.forall₂_nil_left_iff]
      exact ⟨fun h => (Except.ok.inj h).symm, fun h => congrArg Except.ok h.symm⟩
  | cons syllogism rest ih =>
      rw [sequential, List.forall₂_cons_left_iff]
      cases hrecord : policy.consolidate syllogism
          (resultsOf backends base syllogism.formula) with
      | error error => simp
      | ok record =>
          cases hrest : sequential policy backends base rest with
          | error error =>
              have hnone : ∀ others, ¬ List.Forall₂ _ rest others := fun others hall => by
                have := ih.mpr hall
                rw [hrest] at this
                cases this
              simp [hnone]
          | ok others =>
              have hall := ih.mp hrest
              constructor
              · intro h
                cases h
                exact ⟨record, others, rfl, hall, rfl⟩
              · rintro ⟨record', others', hrecord', hall', rfl⟩
                have hothers := ih.mpr hall'
                rw [hrest] at hothers
                cases hrecord'
                cases hothers
                rfl

theorem exists_sequential (hbackends : backends ≠ []) (policy : Policy) (base : Nat)
    (formulas : List Syllogism) :
    ∃ records, sequential policy backends base formulas = .ok records := by
  induction formulas with
  | nil => exact ⟨[], rfl⟩
  | cons syllogism rest ih =>
      have hresults : resultsOf backends base syllogism.formula ≠ [] := by
        simpa [resultsOf] using hbackends
      have hrecord : policy.consolidate syllogism _ = .ok _ :=
        Policy.consolidate_eq_recordOf hresults fun result hmem => formula_of_mem_resultsOf hmem
      obtain ⟨records, hrecords⟩ := ih
      exact ⟨_ :: records, by rw [sequential, hrecord, hrecords]⟩

theorem syllogisms_of_sequential {formulas : List Syllogism} {records : List Record}
    (h : sequential policy backends base formulas = .ok records) :
    records.map (·.syllogism) = formulas := by
  rw [sequential_eq_ok_iff] at h
  induction h with
  | nil => rfl
  | cons hrecord _ ih =>
      obtain ⟨-, -, rfl⟩ := Policy.consolidate_eq_ok_iff.mp hrecord
      rw [List.map_cons, ih]
      rfl

/-- Every record was decided by the results of all engines on one formula. -/
theorem consolidate_of_mem_sequential {formulas : List Syllogism} {records : List Record}
    (h : sequential policy backends base formulas = .ok records) {record : Record}
    (hmem : record ∈ records) :
    ∃ syllogism : Syllogism,
      policy.consolidate syllogism (resultsOf backends base syllogism.formula) = .ok record := by
  rw [sequential_eq_ok_iff] at h
  induction h with
  | nil => cases hmem
  | cons hrecord _ ih =>
      rcases List.mem_cons.mp hmem with rfl | hmem
      · exact ⟨_, hrecord⟩
      · exact ih hmem

theorem votes_of_sequential {formulas : List Syllogism} {records : List Record}
    (h : sequential policy backends base formulas = .ok records) {record : Record}
    (hmem : record ∈ records) :
    record.votes = (resultsOf backends base record.syllogism.formula).map (·.vote) := by
  obtain ⟨syllogism, hrecord⟩ := consolidate_of_mem_sequential h hmem
  obtain ⟨-, -, rfl⟩ := Policy.consolidate_eq_ok_iff.mp hrecord
  rfl

theorem engine_decide (backend : Backend) (formula : Formula) (timeout : Nat) :
    (backend.decide formula timeout).engine = backend.name := by
  rw [Backend.decide]
  cases backend.ask formula timeout <;> rfl

/-- The votes of every record are those of the engines, in their order. -/
theorem engines_of_sequential {formulas : List Syllogism} {records : List Record}
    (h : sequential policy backends base formulas = .ok records) {record : Record}
    (hmem : record ∈ records) :
    record.votes.map (·.engine) = backends.map (·.name) := by
  rw [votes_of_sequential h hmem, resultsOf, List.map_map, List.map_map]
  exact List.map_congr_left fun backend _ => engine_decide backend _ _

/-- Chunks that are joined come to their records joined. -/
theorem sequential_flatten {chunks : List (List Syllogism)} {records : List (List Record)}
    (h : List.Forall₂ (fun chunk records =>
      sequential policy backends base chunk = .ok records) chunks records) :
    sequential policy backends base chunks.flatten = .ok records.flatten := by
  induction h with
  | nil => rfl
  | cons hchunk _ ih =>
      rw [sequential_eq_ok_iff] at hchunk ih ⊢
      exact List.rel_append hchunk ih

/-- Deciding by columns, row after row, is the plain loop. -/
theorem consolidateRows_columns (policy : Policy) (backends : List Backend) (base : Nat)
    (chunk : List Syllogism) :
    policy.consolidateRows chunk (backends.map (·.column base chunk)) =
      sequential policy backends base chunk := by
  induction chunk with
  | nil => rfl
  | cons syllogism rest ih =>
      have hrow : (backends.map (·.column base (syllogism :: rest))).filterMap List.head? =
          resultsOf backends base syllogism.formula := by
        rw [List.filterMap_map, resultsOf, ← List.filterMap_eq_map]
        rfl
      have hrest : (backends.map (·.column base (syllogism :: rest))).map List.tail =
          backends.map (·.column base rest) := by
        rw [List.map_map]
        rfl
      rw [Policy.consolidateRows, hrow, hrest, ih, sequential]
      cases policy.consolidate syllogism (resultsOf backends base syllogism.formula) with
      | error error => rfl
      | ok record => cases sequential policy backends base rest <;> rfl

theorem consolidateGroup_columns (policy : Policy) (backends : List Backend) (base : Nat)
    (chunk : List Syllogism) :
    policy.consolidateGroup chunk (backends.map (·.column base chunk)) backends.length =
      sequential policy backends base chunk := by
  have hrectangular : Columns.Rectangular chunk (backends.map (·.column base chunk))
      backends.length := by
    refine ⟨List.length_map _, fun column hmem => ?_⟩
    obtain ⟨backend, -, rfl⟩ := List.mem_map.mp hmem
    exact List.length_map _
  rw [Policy.consolidateGroup_of_rectangular hrectangular]
  exact consolidateRows_columns policy backends base chunk

end Batch

end Syllogistic
