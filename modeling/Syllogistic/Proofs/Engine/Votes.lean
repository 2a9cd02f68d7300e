import Syllogistic.Engine.Status
import Syllogistic.Proofs.Engine.Heading

/-!
# When an engine has answered

An engine answers only if its process ended by itself, and then by what the engine itself
says: a word at its place in the first line, an exit code, or the last status of a heading
in which every status line is sound. Everything else, whatever went wrong, leaves the verdict
open. So whether a process counts for a verdict can be read off its outcome, without the
reader that turns it into an answer.
-/

namespace Syllogistic

variable {verdict : Verdict} {stdout : String}

/-- Whether an engine says by its output that a formula is a theorem, or that it is none. -/
def Engine.asserts (engine : Engine) (verdict : Verdict) (output : Output) : Bool :=
  let lines := Status.outputLines output.stdout
  match engine with
  | mleanCop =>
    (lines.head?.bind fun line => (Text.tokens line).getLast?) == some verdict.name.toList
  | mleanTap => output.exitCode == some (if verdict = .proved then 0 else 1)
  | leo =>
    (Status.statusLines (Status.heading lines)).all Status.sound &&
      Status.lastWord (Status.heading lines) ==
        some (if verdict = .proved then "Theorem".toList else "CounterSatisfiable".toList)
  | tpg => (lines.head?.bind fun line => (Text.tokens line)[1]?) == some verdict.name.toList

/-- Whether an outcome is a vote for a verdict. -/
def Engine.votes (engine : Engine) (verdict : Verdict) : Outcome → Bool
  | .ended output => engine.asserts verdict output
  | .notStarted _ | .overdue => false

namespace Status

/-- The verdict that a finding comes to. -/
def verdictOf : Except EngineFailure Finding → Verdict
  | .ok (verdict, _) => verdict
  | .error _ => .unknown

/-! ## The two engines that print a word

A word that is the name of a verdict gives that verdict; the two other things a word can
come to, an error and nothing at all, leave it open. -/

theorem eq_of_ofList_eq {word : List Char} {text : String} (h : String.ofList word = text) :
    word = text.toList := by
  rw [← h, String.toList_ofList]

theorem name_inj {found : Verdict} : found.name.toList = verdict.name.toList ↔ found = verdict := by
  rw [String.toList_inj]
  cases found <;> cases verdict <;> decide

theorem unknown_ne (hconclusive : verdict.conclusive = true) : .unknown ≠ verdict := by
  rintro rfl
  cases hconclusive

/-- A word that is neither of the two names is the name of no conclusive verdict. -/
theorem ne_name {word : List Char} (hconclusive : verdict.conclusive = true)
    (hproved : String.ofList word ≠ "Theorem") (hrefuted : String.ofList word ≠ "Non-Theorem") :
    word ≠ verdict.name.toList := by
  rintro rfl
  rw [String.ofList_toList] at hproved hrefuted
  cases verdict with
  | proved => exact hproved rfl
  | refuted => exact hrefuted rfl
  | unknown => cases hconclusive

theorem readMleanCop_verdict (hconclusive : verdict.conclusive = true) :
    verdictOf (readMleanCop stdout) = verdict ↔
      ((outputLines stdout).head?.bind fun line => (Text.tokens line).getLast?) =
        some verdict.name.toList := by
  rw [readMleanCop]
  split
  · next h =>
      rw [h]
      exact iff_of_false (unknown_ne hconclusive) nofun
  · next h =>
      rw [h]
      refine iff_of_false (unknown_ne hconclusive) fun hname => ?_
      cases verdict <;> cases Option.some.inj hname
  · next status _ h =>
      rw [h, Option.some.injEq]
      split
      · next hword => rw [eq_of_ofList_eq hword, ← name_inj]; rfl
      · next hword => rw [eq_of_ofList_eq hword, ← name_inj]; rfl
      · next hword =>
          refine iff_of_false (unknown_ne hconclusive) ?_
          exact ne_name hconclusive (by rw [hword]; decide) (by rw [hword]; decide)
      · next hproved hrefuted _ =>
          exact iff_of_false (unknown_ne hconclusive) (ne_name hconclusive hproved hrefuted)

theorem readTpg_verdict (hconclusive : verdict.conclusive = true) :
    verdictOf (readTpg stdout) = verdict ↔
      ((outputLines stdout).head?.bind fun line => (Text.tokens line)[1]?) =
        some verdict.name.toList := by
  rw [readTpg]
  split
  · next h =>
      rw [h]
      exact iff_of_false (unknown_ne hconclusive) nofun
  · next status h =>
      rw [h, Option.some.injEq]
      split
      · next hword => rw [eq_of_ofList_eq hword, ← name_inj]; rfl
      · next hword => rw [eq_of_ofList_eq hword, ← name_inj]; rfl
      · next hproved hrefuted =>
          exact iff_of_false (unknown_ne hconclusive) (ne_name hconclusive hproved hrefuted)

/-! ## The engine that prints a status

Its reading is a function of the heading, and only the last of sound statuses can settle the
question. What an exit code other than zero changes is the text of an error. -/

theorem interpretLeo_verdict (output : Output) :
    verdictOf (interpretLeo output) = verdictOf (readLeo output.stdout) := by
  rw [interpretLeo]
  split
  · next h =>
      rw [h]
      split <;> rfl
  · rfl

theorem readLeo_verdict (hconclusive : verdict.conclusive = true) :
    verdictOf (readLeo stdout) = verdict ↔
      firstFault (heading (outputLines stdout)) = none ∧
        lastWord (heading (outputLines stdout)) =
          some (if verdict = .proved then "Theorem".toList else "CounterSatisfiable".toList) := by
  rw [readLeo, scan_none, reading]
  cases firstFault (heading (outputLines stdout)) with
  | some fault =>
      exact iff_of_false (unknown_ne hconclusive) fun h => Option.some_ne_none fault h.1
  | none =>
      rw [eq_self_iff_true, true_and]
      dsimp only
      split
      · next h => cases h
      · next h =>
          rw [(Prod.mk.inj (Except.ok.inj h)).1]
          exact iff_of_false (unknown_ne hconclusive) (Option.some_ne_none _).symm
      · next status proof h =>
          rw [(Prod.mk.inj (Except.ok.inj h)).1, Option.some.injEq]
          split
          · next hword =>
              rw [eq_of_ofList_eq hword, verdictOf]
              cases verdict <;> decide
          · next hword =>
              rw [eq_of_ofList_eq hword, verdictOf]
              cases verdict with
              | unknown => cases hconclusive
              | _ => decide
          · next hword =>
              rw [eq_of_ofList_eq hword]
              cases verdict with
              | unknown => cases hconclusive
              | _ => decide
          · next hproved hrefuted _ =>
              refine iff_of_false (unknown_ne hconclusive) ?_
              rintro rfl
              cases verdict with
              | unknown => cases hconclusive
              | proved => exact hproved (String.ofList_toList)
              | refuted => exact hrefuted (String.ofList_toList)

theorem ofExitCode_verdict {exitCode : Option Int} (hconclusive : verdict.conclusive = true) :
    ofExitCode exitCode = verdict ↔ exitCode = some (if verdict = .proved then 0 else 1) := by
  by_cases hzero : exitCode = some 0
  · rw [hzero]
    cases verdict <;> decide
  by_cases hone : exitCode = some 1
  · rw [hone]
    cases verdict with
    | unknown => cases hconclusive
    | _ => decide
  · have hopen : ofExitCode exitCode = .unknown := by
      rw [ofExitCode.eq_def]
      split
      · exact absurd rfl hzero
      · exact absurd rfl hone
      · rfl
    rw [hopen]
    refine iff_of_false (unknown_ne hconclusive) ?_
    split
    · exact hzero
    · exact hone

end Status

namespace Engine

theorem finding_verdict (engine : Engine) (output : Output)
    (hconclusive : verdict.conclusive = true) :
    Status.verdictOf (engine.finding output) = verdict ↔ engine.asserts verdict output = true := by
  cases engine with
  | mleanCop => exact (Status.readMleanCop_verdict hconclusive).trans beq_iff_eq.symm
  | mleanTap => exact (Status.ofExitCode_verdict hconclusive).trans beq_iff_eq.symm
  | leo =>
      rw [finding, asserts, Status.interpretLeo_verdict, Bool.and_eq_true, beq_iff_eq]
      rw [← Status.firstFault_eq_none_iff]
      exact Status.readLeo_verdict hconclusive
  | tpg => exact (Status.readTpg_verdict hconclusive).trans beq_iff_eq.symm

end Engine

end Syllogistic
