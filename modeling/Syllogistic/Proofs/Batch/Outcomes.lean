import Syllogistic.Proofs.Batch.Sequential
import Syllogistic.Proofs.Engine.Votes

/-!
# From the outcomes of processes to the records

Each call of an engine ends with some outcome, whatever it is. The worker makes one result of
it, the leader gathers the results of a chunk in columns and decides row by row. A result is
conclusive exactly if the outcome is a vote, so the votes of a formula can be counted over the
outcomes themselves, and the two counts and the two thresholds are all that the record of the
formula depends on.
-/

namespace Syllogistic

/-- An engine with the outcomes of its calls, by formula and time limit. -/
structure Trial where
  engine : Engine
  outcome : Formula → Nat → Outcome

namespace Trial

variable {verdict : Verdict} {base : Nat} {formula : Formula} {result : EngineResult}

/-- The backend that reads the outcomes as its engine's. No result depends on what its
calls take. -/
def backend (trial : Trial) : Backend where
  name := trial.engine.name
  engine := trial.engine
  ask formula timeout := trial.engine.interpret (trial.outcome formula timeout)
  takes _ _ := 0

/-- Whether the outcome of a formula is a vote for a verdict, under a base time limit. -/
def votes (trial : Trial) (base : Nat) (verdict : Verdict) (formula : Formula) : Bool :=
  trial.engine.votes verdict (trial.outcome formula (trial.engine.timeout base))

/-- A result that says of a formula what the outcome of its process is a vote for. -/
structure Accounts (trial : Trial) (base : Nat) (formula : Formula) (result : EngineResult) :
    Prop where
  author : result.engine = trial.engine.name
  about : result.formula = formula
  proved : result.verdict = .proved ↔ trial.votes base .proved formula
  refuted : result.verdict = .refuted ↔ trial.votes base .refuted formula
  /-- An outcome that is no vote leaves the verdict open. -/
  unknown : trial.votes base .proved formula = false → trial.votes base .refuted formula = false →
    result.verdict = .unknown ∧ result.proof = none

/-- A prover on a host decides as one whose outcomes are those of its invocations. -/
theorem decide_prover (prover : Prover) (host : Host) :
    (prover.backend host).decide = Backend.decide (backend
      ⟨prover.engine, fun formula timeout => host.outcome (prover.invocation formula timeout)⟩) :=
  rfl

theorem result_proof (backend : Backend) (formula : Formula)
    (outcome : Except EngineFailure Answer)
    (h : (backend.result formula outcome).verdict ≠ .proved) :
    (backend.result formula outcome).proof = none := by
  cases outcome with
  | error failure => rfl
  | ok answer => exact if_neg h

theorem decide_verdict (trial : Trial) (base : Nat) (formula : Formula)
    (hconclusive : verdict.conclusive = true) :
    (trial.backend.decide formula (trial.engine.timeout base)).verdict = verdict ↔
      trial.votes base verdict formula = true := by
  rw [Backend.decide, votes]
  show (trial.backend.result formula (trial.engine.interpret
    (trial.outcome formula (trial.engine.timeout base)))).verdict = verdict ↔ _
  cases trial.outcome formula (trial.engine.timeout base) with
  | notStarted reason => exact iff_of_false (Status.unknown_ne hconclusive) Bool.false_ne_true
  | overdue => exact iff_of_false (Status.unknown_ne hconclusive) Bool.false_ne_true
  | ended output =>
      rw [Engine.votes, ← trial.engine.finding_verdict output hconclusive, Engine.interpret]
      cases trial.engine.finding output with
      | error failure => rfl
      | ok finding => rfl

theorem decide_accounts (trial : Trial) (base : Nat) (formula : Formula) :
    trial.Accounts base formula
      (trial.backend.decide formula (trial.engine.timeout base)) := by
  have hproved := trial.decide_verdict base formula (show Verdict.proved.conclusive = true from rfl)
  have hrefuted := trial.decide_verdict base formula
    (show Verdict.refuted.conclusive = true from rfl)
  refine ⟨Batch.engine_decide _ _ _, ?_, hproved, hrefuted, fun hnone hneither => ?_⟩
  · rw [Backend.decide]
    cases trial.backend.ask formula (trial.engine.timeout base) <;> rfl
  · rw [hnone] at hproved
    rw [hneither] at hrefuted
    have hopen : (trial.backend.decide formula (trial.engine.timeout base)).verdict ≠ .proved :=
      fun h => Bool.false_ne_true (hproved.mp h)
    refine ⟨?_, result_proof _ _ _ hopen⟩
    cases h : (trial.backend.decide formula (trial.engine.timeout base)).verdict with
    | proved => exact absurd h hopen
    | refuted => cases hrefuted.mp h
    | unknown => rfl

end Trial

namespace Batch

variable {trials : List Trial} {policy : Policy} {base : Nat}

/-- What the workers of a group hand their leader for a chunk. -/
def gathered (trials : List Trial) (base : Nat) (chunk : List Syllogism) :
    List (List EngineResult) :=
  trials.map fun trial => (Worker.run { backend := trial.backend } base chunk).1

/-- How many trials vote for a verdict. -/
def ballot (trials : List Trial) (base : Nat) (verdict : Verdict) (formula : Formula) : Nat :=
  trials.countP (·.votes base verdict formula)

/-- A record that the votes of the trials on a syllogism decide. -/
structure Decided (policy : Policy) (trials : List Trial) (base : Nat) (syllogism : Syllogism)
    (record : Record) : Prop where
  about : record.syllogism = syllogism
  proved : record.verdict = .proved ↔
    policy.proved ≤ ballot trials base .proved syllogism.formula ∧
      ballot trials base .refuted syllogism.formula = 0
  refuted : record.verdict = .refuted ↔
    policy.refuted ≤ ballot trials base .refuted syllogism.formula ∧
      ballot trials base .proved syllogism.formula = 0
  contradiction : record.contradiction = true ↔
    0 < ballot trials base .proved syllogism.formula ∧
      0 < ballot trials base .refuted syllogism.formula

theorem gathered_eq (trials : List Trial) (base : Nat) (chunk : List Syllogism) :
    gathered trials base chunk = (trials.map Trial.backend).map (·.column base chunk) := by
  rw [gathered, List.map_map]
  exact List.map_congr_left fun trial _ => (Worker.run_eq _ base chunk).1

theorem count_resultsOf {verdict : Verdict} (hconclusive : verdict.conclusive = true)
    (trials : List Trial) (base : Nat) (formula : Formula) :
    Policy.count verdict (resultsOf (trials.map Trial.backend) base formula) =
      ballot trials base verdict formula := by
  rw [Policy.count, resultsOf, List.map_map, List.countP_map, ballot]
  refine List.countP_congr fun trial _ => ?_
  rw [Function.comp_apply, decide_eq_true_iff]
  exact trial.decide_verdict base formula hconclusive

theorem decided_of_consolidate {syllogism : Syllogism} {record : Record}
    (hproved : 1 ≤ policy.proved) (hrefuted : 1 ≤ policy.refuted)
    (h : policy.consolidate syllogism
      (resultsOf (trials.map Trial.backend) base syllogism.formula) = .ok record) :
    Decided policy trials base syllogism record := by
  obtain ⟨-, -, rfl⟩ := Policy.consolidate_eq_ok_iff.mp h
  refine ⟨rfl, ?_, ?_, ?_⟩
  · rw [Policy.recordOf, Policy.decide_proved_iff hproved, count_resultsOf rfl, count_resultsOf rfl]
  · rw [Policy.recordOf, Policy.decide_refuted_iff hproved hrefuted, count_resultsOf rfl,
      count_resultsOf rfl]
  · rw [Policy.recordOf, Policy.decide_contradiction_iff, count_resultsOf rfl,
      count_resultsOf rfl]

/-- Whatever the processes come to, a group's batch completes: every engine has one result for
each syllogism, which is conclusive exactly if the process is a vote, and every syllogism has
one record, which the number of votes for each side decides. -/
theorem records_follow_votes (htrials : trials ≠ []) (hproved : 1 ≤ policy.proved)
    (hrefuted : 1 ≤ policy.refuted) (base : Nat) (chunk : List Syllogism) :
    List.Forall₂ (fun trial column =>
        List.Forall₂ (fun syllogism result => Trial.Accounts trial base syllogism.formula result)
          chunk column) trials (gathered trials base chunk) ∧
      ∃ records, policy.consolidateGroup chunk (gathered trials base chunk) trials.length =
          .ok records ∧
        List.Forall₂ (Decided policy trials base) chunk records := by
  -- The columns are read off by engine, the records by syllogism.
  constructor
  · rw [gathered_eq, List.map_map, List.forall₂_map_right_iff, List.forall₂_same]
    intro trial _
    rw [Function.comp_apply, Backend.column, List.forall₂_map_right_iff, List.forall₂_same]
    intro syllogism _
    exact trial.decide_accounts base syllogism.formula
  · have hlength : trials.length = (trials.map Trial.backend).length := by rw [List.length_map]
    rw [gathered_eq, hlength, consolidateGroup_columns]
    have hbackends : trials.map Trial.backend ≠ [] := by simpa using htrials
    obtain ⟨records, hrecords⟩ := exists_sequential hbackends policy base chunk
    refine ⟨records, hrecords, ?_⟩
    exact (sequential_eq_ok_iff.mp hrecords).imp fun syllogism record h =>
      decided_of_consolidate hproved hrefuted h

/-- One engine says that a formula is a theorem, and so does another one, whatever it prints
within its proof; the third one is killed. -/
def threeTrials : List Trial :=
  [⟨.mleanTap, fun _ _ => .ended ⟨"", "", some 0, 7⟩⟩,
    ⟨.leo, fun _ _ => .ended
      ⟨"% SZS status Theorem for x\n% SZS output start Proof\n% SZS status Error", "", none, 9⟩⟩,
    ⟨.tpg, fun _ _ => .overdue⟩]

theorem records_follow_votes_three :
    let barbara := Construction.build ⟨.first, ⟨.A, .plain⟩, ⟨.A, .plain⟩, ⟨.A, .plain⟩⟩
    (threeTrials ≠ [] ∧ 1 ≤ (⟨2, 1⟩ : Policy).proved ∧ 1 ≤ (⟨2, 1⟩ : Policy).refuted) ∧
      ∃ record, Policy.consolidateGroup ⟨2, 1⟩ [barbara] (gathered threeTrials 10 [barbara]) 3 =
          .ok [record] ∧ record.verdict = .proved ∧ record.contradiction = false := by
  intro barbara
  have hpositive : threeTrials ≠ [] ∧ 1 ≤ (⟨2, 1⟩ : Policy).proved ∧
      1 ≤ (⟨2, 1⟩ : Policy).refuted := by decide
  refine ⟨hpositive, ?_⟩
  obtain ⟨-, records, hrecords, hall⟩ :=
    records_follow_votes hpositive.1 hpositive.2.1 hpositive.2.2 10 [barbara]
  have hproved : ballot threeTrials 10 .proved barbara.formula = 2 := by decide +kernel
  have hrefuted : ballot threeTrials 10 .refuted barbara.formula = 0 := by decide +kernel
  cases hall with
  | cons hrecord hrest =>
      cases hrest
      refine ⟨_, hrecords, hrecord.proved.mpr ?_, Bool.eq_false_iff.mpr fun hflag => ?_⟩
      · rw [hproved, hrefuted]
        exact ⟨Nat.le_refl 2, rfl⟩
      · have := (hrecord.contradiction.mp hflag).2
        omega

end Batch

end Syllogistic
