import Syllogistic.Proofs.Batch.Seats
import Syllogistic.Proofs.Collective.Curtailed

/-!
# Times that are too long

A rank whose times add up to more than can be told is broken off. If longer times could be told
it would do the same up to there, and then go on. So as long as nobody is broken off, the ranks
of a run are where they would be under any higher limit; and there is always a limit high enough
for all of them, under which the run is in step with its course. It follows that a run which
ends without an error has come to what its course comes to, and that the times of all its ranks
could be told.
-/

namespace Syllogistic

theorem Tally.Within.mono {tally : Tally} {longest longer : Nat} (h : tally.Within longest)
    (hle : longest ≤ longer) : tally.Within longer :=
  ⟨Nat.le_trans h.1 hle, Nat.le_trans h.2 hle⟩

/-- The times of a backend on a chunk are none too long: all its calls together, and its engine
in all of them. -/
structure Backend.Timely (backend : Backend) (base longest : Nat) (chunk : List Syllogism) :
    Prop where
  processing : (chunk.map fun syllogism =>
    backend.takes syllogism.formula (backend.engine.timeout base)).sum ≤ longest
  proving : (chunk.map fun syllogism =>
    provingTime (backend.takes syllogism.formula (backend.engine.timeout base))
      (backend.ask syllogism.formula (backend.engine.timeout base))).sum ≤ longest

namespace Worker

theorem decideAll_times (worker : Worker) (timeout : Nat) (chunk : List Syllogism) :
    (worker.decideAll timeout chunk).2.tally.processing = worker.tally.processing +
        (chunk.map fun syllogism => worker.backend.takes syllogism.formula timeout).sum ∧
      (worker.decideAll timeout chunk).2.tally.proving = worker.tally.proving +
        (chunk.map fun syllogism => provingTime (worker.backend.takes syllogism.formula timeout)
          (worker.backend.ask syllogism.formula timeout)).sum := by
  induction chunk generalizing worker with
  | nil => exact ⟨rfl, rfl⟩
  | cons syllogism rest ih =>
      obtain ⟨hprocessing, hproving⟩ := ih (worker.decide syllogism.formula timeout).2
      rw [decideAll]
      dsimp only
      rw [hprocessing, hproving, List.map_cons, List.sum_cons, List.map_cons, List.sum_cons,
        ← Nat.add_assoc, ← Nat.add_assoc]
      exact ⟨rfl, rfl⟩

theorem within_run_iff {backend : Backend} {base longest : Nat} {chunk : List Syllogism} :
    (run { backend } base chunk).2.tally.Within longest ↔ backend.Timely base longest chunk := by
  obtain ⟨hprocessing, hproving⟩ :=
    decideAll_times { backend } (backend.engine.timeout base) chunk
  rw [Tally.Within, run, timeout, hprocessing, hproving, Nat.zero_add, Nat.zero_add]
  exact ⟨fun h => ⟨h.1, h.2⟩, fun h => ⟨h.processing, h.proving⟩⟩

end Worker

namespace Batch

open Collective Collective.Fabric

/-! ## The work of one rank -/

section Work

variable {terms : Terms} {longer : Nat}

/-- A rank does what it would do if longer times could be told, or is broken off. If it is not,
the times it reports are within its own limit. -/
theorem curtails_work (hle : terms.longest ≤ longer) (position : Position) (channels : Channels)
    (worker : Worker) (formulas : Option (List Syllogism)) :
    (work terms position channels worker formulas).run.Curtails
      (fun outcome => outcome.report.tally.Within terms.longest)
      (work { terms with longest := longer } position channels worker formulas).run := by
  rw [work, work]
  refine Call.curtails_bind _ fun given => ?_
  refine Call.curtails_bind _ fun chunk => ?_
  dsimp only
  rw [account, account]
  by_cases hwithin : (worker.run terms.base chunk).2.tally.Within terms.longest
  · rw [if_pos hwithin, if_pos (hwithin.mono hle)]
    -- From here on both do the same, and report the tally they have.
    refine Call.curtails_bind _ fun _ => ?_
    refine Call.curtails_bind _ fun gathered => ?_
    cases gathered with
    | none =>
        refine Call.curtails_bind _ fun records => .done _ fun outcome houtcome => ?_
        cases houtcome
        exact hwithin
    | some columns =>
        refine Call.curtails_bind _ fun records => .done _ fun outcome houtcome => ?_
        cases houtcome
        exact hwithin
  · rw [if_neg hwithin]
    exact .brokenOff _ _

end Work

/-! ## The ranks together -/

section Ranks

variable {ε : Type} {plan : Plan ε} {backend : Nat → Backend} {formulas : List Syllogism}
  {fabric : Fabric} {longer : Nat} {summary : Summary}

theorem within_outcomeBy_iff (h : plan.layout.Grid) {group index longest : Nat}
    (hgroup : group < plan.layout.groups) (hindex : index < plan.layout.width) :
    (plan.outcomeBy backend formulas
        (group * plan.layout.width + index)).report.tally.Within longest ↔
      (backend (group * plan.layout.width + index)).Timely plan.terms.base longest
        (chunkOf plan.layout formulas group) := by
  dsimp only [Plan.outcomeBy, Plan.seatBy, workerAfter]
  rw [(h.position hgroup hindex).1]
  exact Worker.within_run_iff

/-- The same batch where times up to this one can be told. -/
def Plan.upTo (plan : Plan ε) (longer : Nat) : Plan ε :=
  { plan with terms := { plan.terms with longest := longer } }

theorem curtails_start (hle : plan.terms.longest ≤ longer) (seats : List (Position × Worker)) :
    (plan.start seats fabric formulas).Curtails
      (fun outcome => outcome.report.tally.Within plan.terms.longest)
      ((plan.upTo longer).start seats fabric formulas) where
  network := rfl
  runners := by
    rw [Plan.start, Plan.start]
    dsimp only
    rw [List.forall₂_map_left_iff, List.forall₂_map_right_iff, List.forall₂_same]
    rintro ⟨⟨position, worker⟩, channels⟩ -
    exact ⟨rfl, rfl, curtails_work hle position channels worker _⟩

/-- Some time is long enough for all ranks. -/
theorem exists_within (tally : Nat → Tally) (longest total : Nat) :
    ∃ longer, longest ≤ longer ∧ ∀ rank, rank < total → (tally rank).Within longer := by
  induction total with
  | zero => exact ⟨longest, Nat.le_refl _, nofun⟩
  | succ total ih =>
      obtain ⟨longer, hle, hwithin⟩ := ih
      refine ⟨longer + (tally total).processing + (tally total).proving, by omega,
        fun rank hrank => ?_⟩
      rcases Nat.lt_succ_iff_lt_or_eq.mp hrank with hlt | rfl
      · exact (hwithin rank hlt).mono (by omega)
      · exact ⟨by omega, by omega⟩

theorem unbroken_of_summarize {ranks : Ranks} (h : plan.summarize ranks = .ok summary) :
    ranks.Unbroken := by
  have hfirst : ∀ {results : List (Except RankError RankOutcome)},
      Plan.firstError results = none → ∀ error, .error error ∉ results := by
    intro results hnone error hmem
    induction results with
    | nil => cases hmem
    | cons result rest ih =>
        cases result with
        | error other => cases hnone
        | ok outcome =>
            rcases List.mem_cons.mp hmem with hhead | hmem
            · cases hhead
            · exact ih hnone hmem
  rw [Plan.summarize] at h
  split at h
  · cases h
  · next hnone => exact hfirst hnone

/-- Ranks of which none has been broken off show that no times are too long, if they do what
the ranks of a run do that are told longer times. -/
theorem fits_of_twin (h : plan.Sized backend formulas) {ranks : Ranks} (hunbroken : ranks.Unbroken)
    (htwin : ∀ longer, plan.terms.longest ≤ longer → (plan.upTo longer).Fits backend formulas →
      ∃ twin : Ranks,
        ranks.Curtails (fun outcome => outcome.report.tally.Within plan.terms.longest) twin ∧
          twin.results = (List.range plan.layout.total).map fun rank =>
            .ok (plan.outcomeBy backend formulas rank)) :
    plan.Fits backend formulas where
  toSized := h
  within rank hrank := by
    obtain ⟨longer, hle, hwithin⟩ := exists_within
      (fun rank => (plan.outcomeBy backend formulas rank).report.tally) plan.terms.longest
      plan.layout.total
    obtain ⟨twin, hcurtails, hresults⟩ :=
      htwin longer hle ⟨⟨h.grid, h.total, h.backends, h.input⟩, hwithin⟩
    refine hcurtails.keeps_of_mem ?_
    rw [hcurtails.results_eq hunbroken, hresults]
    exact List.mem_map.mpr ⟨rank, List.mem_range.mpr hrank, rfl⟩

theorem fits_of_follow (h : plan.Sized backend formulas) (hlaid : Laid plan.layout fabric)
    {schedule : List Nat}
    (hfinished : ((plan.ranksBy backend fabric formulas).follow schedule).finished = true)
    (hsummary : plan.summarize ((plan.ranksBy backend fabric formulas).follow schedule) =
      .ok summary) : plan.Fits backend formulas := by
  have hunbroken := unbroken_of_summarize hsummary
  refine fits_of_twin h hunbroken fun longer hle hfits => ?_
  have hcurtails := (curtails_start hle _).follow hunbroken
  exact ⟨_, hcurtails,
    results_follow_ranksBy hfits hlaid (hcurtails.finished_eq.symm.trans hfinished)⟩

theorem fits_of_rounds (h : plan.Sized backend formulas) (hlaid : Laid plan.layout fabric)
    (hsummary : plan.summarize ((plan.ranksBy backend fabric formulas).rounds
      plan.enoughRounds) = .ok summary) : plan.Fits backend formulas := by
  have hunbroken := unbroken_of_summarize hsummary
  exact fits_of_twin h hunbroken fun longer hle hfits =>
    ⟨_, (curtails_start hle _).rounds hunbroken, results_rounds_ranksBy hfits hlaid⟩

end Ranks

end Batch

end Syllogistic
