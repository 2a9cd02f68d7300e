import Syllogistic.Proofs.Batch.Sequential

/-!
# What a run sends fits its frames

A length takes eight bytes in a frame, so a run can send what it has only if no
text and no list is longer than eight bytes can say. If this is so of the
formulas, of the engines' names and of the proofs they give, it is so of every
chunk, of every column and of all records.
-/

namespace Syllogistic

open Wire

/-- The backend's name and its proofs are no longer than a frame can say. -/
structure Backend.Sized (backend : Backend) : Prop where
  name : Fits backend.name
  proof : ∀ formula timeout answer, backend.ask formula timeout = .ok answer → Fits answer.proof

theorem fits_keepProof {verdict : Verdict} {proof : Option String} (h : Fits proof) :
    Fits (verdict.keepProof proof) := by
  rw [Verdict.keepProof]
  split
  · exact h
  · exact fits_none

namespace Backend

variable {backend : Backend} {formula : Formula}

theorem fits_decide (h : backend.Sized) (hformula : Fits formula) (timeout : Nat) :
    Fits (backend.decide formula timeout) := by
  rw [decide, fits_engineResult]
  cases hanswer : backend.ask formula timeout with
  | error failure => exact ⟨h.name, hformula, fits_none⟩
  | ok answer => exact ⟨h.name, hformula, fits_keepProof (h.proof formula timeout answer hanswer)⟩

theorem fits_vote_decide (h : backend.Sized) (hformula : Fits formula) (timeout : Nat) :
    Fits (backend.decide formula timeout).vote := by
  obtain ⟨hengine, -, hproof⟩ := fits_engineResult.mp (fits_decide h hformula timeout)
  exact fits_vote.mpr ⟨hengine, fits_keepProof hproof⟩

theorem fits_column (h : backend.Sized) {chunk : List Syllogism} (hchunk : Fits chunk)
    (base : Nat) : Fits (backend.column base chunk) := by
  obtain ⟨hlength, hmem⟩ := fits_list.mp hchunk
  refine fits_list.mpr ⟨by rwa [column, List.length_map], fun result hresult => ?_⟩
  obtain ⟨syllogism, hsyllogism, rfl⟩ := List.mem_map.mp hresult
  exact fits_decide h (fits_syllogism.mp (hmem syllogism hsyllogism)).1 _

end Backend

namespace Batch

variable {policy : Policy} {backends : List Backend} {base : Nat}

theorem fits_records (hbackends : ∀ backend ∈ backends, backend.Sized)
    (hcount : backends.length < 2 ^ 64) {formulas : List Syllogism} (hformulas : Fits formulas)
    {records : List Record} (h : sequential policy backends base formulas = .ok records) :
    Fits records := by
  obtain ⟨hlength, hmem⟩ := fits_list.mp hformulas
  have hsyllogisms := syllogisms_of_sequential h
  refine fits_list.mpr ⟨?_, fun record hrecord => ?_⟩
  · rwa [← List.length_map, hsyllogisms]
  · have hsyllogism : Fits record.syllogism := hmem record.syllogism (by
      rw [← hsyllogisms]
      exact List.mem_map_of_mem hrecord)
    refine fits_record.mpr ⟨hsyllogism, ?_⟩
    rw [votes_of_sequential h hrecord, resultsOf, List.map_map]
    refine fits_list.mpr ⟨by rwa [List.length_map], fun vote hvote => ?_⟩
    obtain ⟨backend, hbackend, rfl⟩ := List.mem_map.mp hvote
    exact Backend.fits_vote_decide (hbackends backend hbackend)
      (fits_syllogism.mp hsyllogism).1 _

/-- Part of a list that fits fits. -/
theorem fits_sublist {α : Type} [Described α] {part values : List α} (h : Fits values)
    (hpart : part.Sublist values) : Fits part := by
  obtain ⟨hlength, hmem⟩ := fits_list.mp h
  exact fits_list.mpr ⟨Nat.lt_of_le_of_lt hpart.length_le hlength,
    fun a ha => hmem a (hpart.subset ha)⟩

end Batch

end Syllogistic
