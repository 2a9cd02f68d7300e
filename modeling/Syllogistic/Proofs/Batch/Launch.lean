import Syllogistic.Batch.Run
import Syllogistic.Proofs.Collective.Fabric

/-!
# A launch is a run with its memory granted

A launch asks for memory in three places: for the list of engines before anything else, for the
endpoints once all engines are set up, and for the ranks' own things once the endpoints are
there. Between these it does what a run does. So a launch that is granted everything is a run,
and there is no other way for it to come to a summary; and what the set-up of the engines is
refused needs no more of the memory than the list of engines.
-/

namespace Syllogistic.Batch.Plan

open Collective

variable {ε : Type} {plan : Plan ε} {memory : Memory} {formulas : List Syllogism}
  {summary : Summary}

/-- A launch that is granted all memory comes to what a run comes to. -/
theorem launch_of_serves (h : memory.Serves plan.requests) (formulas : List Syllogism) :
    plan.launch memory formulas = .ok (plan.run formulas) := by
  rw [requests, List.cons_append] at h
  obtain ⟨engines, hengines, h⟩ := h.cons_inv
  obtain ⟨endpoints, hendpoints, last, hlast⟩ := h.append_inv
  rw [launch, hengines, run]
  dsimp only
  cases plan.seats (List.range plan.layout.total) with
  | error cause => rfl
  | ok seats =>
      dsimp only
      cases hbuild : Fabric.build plan.layout with
      | error cause => rw [Fabric.setUp_of_refused hbuild]
      | ok fabric =>
          rw [Fabric.setUp_eq hbuild, hendpoints]
          dsimp only [Except.map, Except.mapError]
          rw [hlast]

/-- What the set-up of the engines is refused is told as soon as there is room for them. -/
theorem launch_of_refused (hserves : memory.Serves [plan.enginesRequest]) {cause : RunError ε}
    (h : plan.seats (List.range plan.layout.total) = .error cause) (formulas : List Syllogism) :
    plan.launch memory formulas = .ok (.error cause) := by
  obtain ⟨engines, hengines⟩ := Memory.serves_singleton.mp hserves
  rw [launch, hengines, h]

/-- What a launch comes to, if it is not broken off for want of memory, is what a run comes
to. -/
theorem run_eq_of_launch {outcome : Except (RunError ε) Summary}
    (h : plan.launch memory formulas = .ok outcome) : plan.run formulas = outcome := by
  rw [launch] at h
  split at h
  · cases h
  · rw [run]
    split at h
    · cases h
      rfl
    · cases hbuild : Fabric.build plan.layout with
      | error cause =>
          rw [Fabric.setUp_of_refused hbuild] at h
          cases h
          rfl
      | ok fabric =>
          rw [Fabric.setUp_eq hbuild] at h
          cases hserve : Memory.serve _ (Fabric.requests plan.layout) with
          | error fault =>
              rw [hserve] at h
              cases h
          | ok endpoints =>
              rw [hserve] at h
              dsimp only [Except.map, Except.mapError] at h
              split at h
              · cases h
              · cases h
                rfl

/-- A launch comes to a summary exactly if all its memory is granted and the run comes to it. -/
theorem launch_eq_ok_iff :
    plan.launch memory formulas = .ok (.ok summary) ↔
      memory.Serves plan.requests ∧ plan.run formulas = .ok summary := by
  constructor
  · intro h
    refine ⟨?_, run_eq_of_launch h⟩
    rw [launch] at h
    split at h
    · cases h
    · next engines hengines =>
        split at h
        · cases h
        · split at h
          · cases h
          · cases h
          · next fabric endpoints hsetUp =>
              split at h
              · cases h
              · next last hlast =>
                  refine ⟨last, ?_⟩
                  rw [requests, List.cons_append, Memory.serve_cons hengines,
                    Memory.serve_append (Fabric.serve_of_setUp hsetUp)]
                  exact hlast
  · rintro ⟨hserves, hrun⟩
    rw [launch_of_serves hserves, hrun]

end Syllogistic.Batch.Plan
