import Syllogistic.Engine.Kind

/-!
# Setting up an engine

Where an engine is installed, with which interpreter arguments it is started,
and the logic and domain it is asked to reason in. What is left open falls back
to S5 with constant domains, which every engine supports.
-/

namespace Syllogistic

/-- How an engine is started and what it reasons in. -/
structure Setup where
  /-- The interpreter or script that is started. -/
  executable : String
  /-- The directory with the engine's own files. -/
  directory : String
  /-- Arguments that come before the engine's own. -/
  arguments : List String
  logic : Option Logic
  domain : Option Domain
  deriving DecidableEq, Repr

namespace Setup

/-- The usual installation of an engine. -/
def standard : Engine → Setup
  | .mleanCop =>
    ⟨"./prover_install/mleancop13/mleancop.py", "./prover_install/mleancop13", [], none, none⟩
  | .mleanTap => ⟨"swipl", "./prover_install/mleantap13", ["--no-debug"], none, none⟩
  | .leo => ⟨"java", "./prover_install/leo3", [], none, none⟩
  | .tpg => ⟨"node", "./prover_install/tpg", [], none, none⟩

/-- The logic and domain an engine will reason in, if it supports both; the
logic is looked at first. -/
def resolve (setup : Setup) (engine : Engine) : Except UnsupportedError (Logic × Domain) :=
  let logic := setup.logic.getD .s5
  let domain := setup.domain.getD .const
  if logic ∉ engine.logics then .error (.logic engine logic)
  else if domain ∉ engine.domains then .error (.domain engine domain)
  else .ok (logic, domain)

/-- The path of a file in the engine's directory. -/
def file (setup : Setup) (name : String) : String :=
  match setup.directory.toList.getLast? with
  | none => name
  | some '/' => setup.directory ++ name
  | some _ => setup.directory ++ "/" ++ name

end Setup

end Syllogistic
