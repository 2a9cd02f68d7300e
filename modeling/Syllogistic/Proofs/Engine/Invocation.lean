import Mathlib.Data.List.Basic
import Syllogistic.Engine.Invocation

/-!
# What an engine is asked

An engine is called with the text of a formula in its own notation, on the command
line or in a problem file, among texts that do not depend on the formula. So two calls
of one engine with the same time limit differ exactly if that text does.
-/

namespace Syllogistic

variable {f g : Formula}

/-- The text that an engine reads. -/
def Engine.question (engine : Engine) (formula : Formula) : String :=
  match engine with
  | .mleanCop | .mleanTap => formula.prolog
  | .leo => formula.thf
  | .tpg => formula.unicode

theorem clauseProblem_inj : clauseProblem f = clauseProblem g ↔ f.prolog = g.prolog := by
  rw [clauseProblem, clauseProblem, String.append_left_inj, String.append_right_inj]

theorem typedProblem_inj (logic : Logic) (domain : Domain) :
    typedProblem logic domain f = typedProblem logic domain g ↔ f.thf = g.thf := by
  unfold typedProblem
  constructor
  · intro h
    exact (String.append_right_inj _).mp ((String.append_left_inj _).mp h)
  · intro h
    rw [h]

theorem Prover.invocation_eq_iff (prover : Prover) (timeout : Nat) :
    prover.invocation f timeout = prover.invocation g timeout ↔
      prover.engine.question f = prover.engine.question g := by
  obtain ⟨engine, setup, logic, domain, rank⟩ := prover
  constructor
  · intro h
    have hproblem := congrArg Invocation.problem h
    have hcommand := congrArg Invocation.arguments h
    rw [invocation, invocation] at hproblem hcommand
    have harguments := List.append_cancel_left hcommand
    cases engine with
    | mleanCop =>
        rw [problem, problem, Option.map_some, Option.map_some, Option.some.injEq,
          ProblemFile.mk.injEq] at hproblem
        exact clauseProblem_inj.mp hproblem.2
    | mleanTap => simpa [arguments, Engine.question] using harguments
    | leo =>
        rw [problem, problem, Option.map_some, Option.map_some, Option.some.injEq,
          ProblemFile.mk.injEq] at hproblem
        exact (typedProblem_inj logic domain).mp hproblem.2
    | tpg => simpa [arguments, Engine.question] using harguments
  · intro h
    rw [invocation, invocation]
    cases engine with
    | mleanCop =>
        rw [problem, problem, clauseProblem_inj.mpr h]
        rfl
    | mleanTap =>
        rw [arguments, arguments, show f.prolog = g.prolog from h]
        rfl
    | leo =>
        rw [problem, problem, (typedProblem_inj logic domain).mpr h]
        rfl
    | tpg =>
        rw [arguments, arguments, show f.unicode = g.unicode from h]
        rfl

end Syllogistic
