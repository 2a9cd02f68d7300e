import Syllogistic.Proofs.Batch.Outcomes
import Syllogistic.Proofs.Batch.Statistics
import Syllogistic.Proofs.Settings.Refused

/-!
# Verdicts that a run can come to

Every engine that runs has one vote on a formula, so a verdict is within reach exactly if no more
votes are needed for it than there are engines that run. A formula can always be left open. If
the processes of all engines say the same, the verdict is theirs; with fewer engines than the
threshold asks for, nothing that the processes come to makes the verdict.

The check of settings looks at the thresholds and at the engines, but not at one beside the other.
It refuses a threshold of zero, and it lets a threshold pass that is greater than the number of
engines that run. Settings are to be refused if they make a run that means nothing, and a run of
settings that pass may leave every formula open, whatever its engines find out.
-/

namespace Syllogistic

/-- The number of votes that a verdict needs; none if it leaves the formula open. -/
def Policy.needed (policy : Policy) : Verdict → Nat
  | .proved => policy.proved
  | .refuted => policy.refuted
  | .unknown => 0

/-- What the process of any engine may leave behind to say a verdict. -/
def Verdict.printed : Verdict → Output
  | .proved => ⟨"Status: Theorem\n% SZS status Theorem", "", some 0, 0⟩
  | .refuted => ⟨"Status: Non-Theorem\n% SZS status CounterSatisfiable", "", some 1, 0⟩
  | .unknown => ⟨"", "", none, 0⟩

theorem Engine.asserts_printed (engine : Engine) (verdict said : Verdict)
    (hconclusive : verdict.conclusive = true) :
    engine.asserts verdict said.printed = decide (verdict = said) := by
  cases verdict with
  | unknown => cases hconclusive
  | proved => cases engine <;> cases said <;> decide +kernel
  | refuted => cases engine <;> cases said <;> decide +kernel

namespace Batch

/-! ## Votes that decide a record -/

section Decide

variable {policy : Policy} {trials : List Trial} {base : Nat} {formula : Formula}
  {syllogism : Syllogism} {said verdict : Verdict} {record : Record}

theorem needed_le_length {results : List EngineResult} (hproved : 1 ≤ policy.proved)
    (hrefuted : 1 ≤ policy.refuted) (h : policy.consolidate syllogism results = .ok record) :
    policy.needed record.verdict ≤ results.length := by
  obtain ⟨-, -, rfl⟩ := Policy.consolidate_eq_ok_iff.mp h
  rw [Policy.recordOf]
  dsimp only
  cases hverdict : (policy.decide (Policy.count .proved results)
      (Policy.count .refuted results)).1 with
  | proved =>
      have hvotes := ((Policy.decide_proved_iff hproved).mp hverdict).1
      exact Nat.le_trans hvotes List.countP_le_length
  | refuted =>
      have hvotes := ((Policy.decide_refuted_iff hproved hrefuted).mp hverdict).1
      exact Nat.le_trans hvotes List.countP_le_length
  | unknown => exact Nat.zero_le _

theorem ballot_unanimous (hconclusive : verdict.conclusive = true)
    (h : ∀ trial ∈ trials, trial.outcome formula (trial.engine.timeout base) =
      .ended said.printed) :
    ballot trials base verdict formula = if verdict = said then trials.length else 0 := by
  have hvotes : ∀ trial ∈ trials, trial.votes base verdict formula = decide (verdict = said) := by
    intro trial hmem
    rw [Trial.votes, h trial hmem]
    exact trial.engine.asserts_printed verdict said hconclusive
  rw [ballot]
  split
  · next heq =>
      refine List.countP_eq_length.mpr fun trial hmem => ?_
      rw [hvotes trial hmem]
      exact decide_eq_true heq
  · next hne =>
      refine List.countP_eq_zero.mpr fun trial hmem => ?_
      rw [hvotes trial hmem]
      exact Bool.eq_false_iff.mp (decide_eq_false hne)

/-- What all processes say is the verdict, if they are enough. -/
theorem verdict_unanimous (hproved : 1 ≤ policy.proved) (hrefuted : 1 ≤ policy.refuted)
    (hneeded : policy.needed said ≤ trials.length)
    (h : ∀ trial ∈ trials, trial.outcome syllogism.formula (trial.engine.timeout base) =
      .ended said.printed)
    (hrecord : policy.consolidate syllogism
      (resultsOf (trials.map Trial.backend) base syllogism.formula) = .ok record) :
    record.verdict = said := by
  have hdecided := decided_of_consolidate hproved hrefuted hrecord
  have hfor := ballot_unanimous (show Verdict.proved.conclusive = true from rfl) h
  have hagainst := ballot_unanimous (show Verdict.refuted.conclusive = true from rfl) h
  have hiff := hdecided.proved
  have hiff' := hdecided.refuted
  rw [hfor, hagainst] at hiff hiff'
  cases said with
  | proved => exact hiff.mpr ⟨hneeded, rfl⟩
  | refuted => exact hiff'.mpr ⟨hneeded, rfl⟩
  | unknown =>
      cases hverdict : record.verdict with
      | proved => exact absurd (hiff.mp hverdict).1 (Nat.not_le.mpr hproved)
      | refuted => exact absurd (hiff'.mp hverdict).1 (Nat.not_le.mpr hrefuted)
      | unknown => rfl

end Decide

/-! ## Records of a run -/

theorem needed_le_width {ε : Type} {plan : Plan ε} {formulas : List Syllogism}
    {summary : Summary} {record : Record} (hproved : 1 ≤ plan.terms.policy.proved)
    (hrefuted : 1 ≤ plan.terms.policy.refuted) (htotal : plan.layout.total < 2 ^ 64)
    (hroster : ∀ role rank backend, plan.roster.build role rank = .ok backend → backend.Sized)
    (hformulas : Wire.Fits formulas) (hrun : plan.run formulas = .ok summary)
    (hmem : record ∈ summary.records) :
    plan.terms.policy.needed record.verdict ≤ plan.layout.width := by
  obtain ⟨seats, fabric, hseats, hfabric, -⟩ := setUp_of_run hrun
  have hfits := fits_of_run htotal hroster hformulas hrun
  obtain ⟨hruns, -, -⟩ := run_eq_of_fits hfits hseats hfabric
  cases hruns.symm.trans hrun
  obtain ⟨group, hmem⟩ := records_of_mem_summaryBy hmem
  -- The record was decided by the results of one group, and those are as many as its ranks.
  have hsequential := sequential_groupBackends hfits.grid plan.builtBackend formulas group
  obtain ⟨syllogism, hrecord⟩ := consolidate_of_mem_sequential hsequential hmem
  have hle := needed_le_length hproved hrefuted hrecord
  rwa [resultsOf, List.length_map, length_groupBackends] at hle

end Batch

namespace Settings

open Batch

variable {settings : Settings} {syllogism : Syllogism} {verdict : Verdict}
  {outcome : Engine → Formula → Nat → Outcome}

/-- The engines that run, each with the outcomes of its processes. -/
def trials (settings : Settings) (outcome : Engine → Formula → Nat → Outcome) : List Trial :=
  (settings.roster.take settings.active).map fun entry => ⟨entry.engine, outcome entry.engine⟩

/-- With some outcomes of the engines that run, the record of a syllogism has this verdict. -/
def Reaches (settings : Settings) (syllogism : Syllogism) (verdict : Verdict) : Prop :=
  ∃ outcome record, settings.policy.consolidate syllogism
      (resultsOf ((settings.trials outcome).map Trial.backend) settings.base syllogism.formula) =
        .ok record ∧ record.verdict = verdict

theorem length_trials : (settings.trials outcome).length = settings.active := by
  rw [trials, List.length_map, List.length_take]
  exact Nat.min_eq_left (Nat.min_le_right _ _)

theorem needed_le_of_reaches (h : settings.Sound) (hreaches : settings.Reaches syllogism verdict) :
    settings.policy.needed verdict ≤ settings.active := by
  obtain ⟨outcome, record, hrecord, rfl⟩ := hreaches
  have hle := needed_le_length h.proved h.refuted hrecord
  rwa [resultsOf, List.length_map, List.length_map, length_trials] at hle

theorem reaches_of_needed_le (h : settings.Sound)
    (hneeded : settings.policy.needed verdict ≤ settings.active) :
    settings.Reaches syllogism verdict := by
  have hactive : 0 < settings.active :=
    Nat.lt_min.mpr ⟨h.grid.total_pos, List.length_pos_iff.mpr h.roster⟩
  let outcome : Engine → Formula → Nat → Outcome := fun _ _ _ => .ended verdict.printed
  have hlength : (settings.trials outcome).length = settings.active := length_trials
  have hresults : resultsOf ((settings.trials outcome).map Trial.backend) settings.base
      syllogism.formula ≠ [] := by
    refine List.ne_nil_of_length_pos ?_
    rwa [resultsOf, List.length_map, List.length_map, hlength]
  have hrecord : settings.policy.consolidate syllogism _ = .ok _ :=
    Policy.consolidate_eq_recordOf hresults fun result hmem => formula_of_mem_resultsOf hmem
  refine ⟨outcome, _, hrecord, verdict_unanimous h.proved h.refuted (by rwa [hlength]) ?_ hrecord⟩
  intro trial hmem
  obtain ⟨entry, -, rfl⟩ := List.mem_map.mp hmem
  rfl

/-- A verdict is within reach of settings that pass exactly if no more votes are needed for it
than there are engines that run, whatever the syllogism. -/
theorem reaches_iff (h : settings.check = .ok ()) (syllogism : Syllogism) (verdict : Verdict) :
    settings.Reaches syllogism verdict ↔ settings.policy.needed verdict ≤ settings.active := by
  have hsound := check_eq_ok_iff.mp h
  exact ⟨needed_le_of_reaches hsound, reaches_of_needed_le hsound⟩

/-- One rank and all four engines, of which only the first one runs: two votes for a theorem are
out of reach, one against it is not. -/
theorem reaches_iff_one :
    let settings : Settings := { policy := ⟨2, 1⟩, ranks := some 1 }
    settings.check = .ok () ∧ ∀ syllogism, ¬settings.Reaches syllogism .proved ∧
      settings.Reaches syllogism .refuted := by
  intro settings
  have hsound : settings.Sound := ⟨by decide, by decide, by decide, by decide, .inl rfl⟩
  have hcheck := check_eq_ok_iff.mpr hsound
  refine ⟨hcheck, fun syllogism => ⟨fun h => ?_, ?_⟩⟩
  · exact absurd ((reaches_iff hcheck syllogism .proved).mp h) (by decide)
  · exact (reaches_iff hcheck syllogism .refuted).mpr (by decide)

/-- Five votes each way are never to be had from four engines, and yet the settings pass: every
formula is left open. -/
theorem check_out_of_reach :
    let settings : Settings := { policy := ⟨5, 5⟩ }
    settings.check = .ok () ∧ settings.active = 4 ∧
      ∀ syllogism, ¬settings.Reaches syllogism .proved ∧ ¬settings.Reaches syllogism .refuted := by
  intro settings
  have hsound : settings.Sound :=
    ⟨by decide, by decide, by decide, by decide, .inr ⟨1, by decide, rfl⟩⟩
  refine ⟨check_eq_ok_iff.mpr hsound, rfl, fun syllogism => ⟨fun h => ?_, fun h => ?_⟩⟩
  · exact absurd (needed_le_of_reaches hsound h) (by decide)
  · exact absurd (needed_le_of_reaches hsound h) (by decide)

/-- Not even the records of a run have a verdict that is out of reach. -/
theorem needed_le_of_run {host : Host} {plan : Plan RosterError}
    {formulas : List Syllogism} {summary : Summary} {record : Record}
    (hplan : settings.plan host = .ok plan) (hranks : settings.rankCount < 2 ^ 64)
    (hroster : ∀ role rank backend, plan.roster.build role rank = .ok backend → backend.Sized)
    (hformulas : Wire.Fits formulas) (hrun : plan.run formulas = .ok summary)
    (hmem : record ∈ summary.records) :
    settings.policy.needed record.verdict ≤ settings.active := by
  obtain ⟨hsound, rfl⟩ := plan_eq_ok_iff.mp hplan
  have hle := needed_le_width hsound.proved hsound.refuted hranks hroster hformulas hrun hmem
  rwa [width_planOn] at hle

end Settings

end Syllogistic
