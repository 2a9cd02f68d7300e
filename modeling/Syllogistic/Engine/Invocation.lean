import Syllogistic.Engine.Setup
import Syllogistic.Engine.Timeout
import Syllogistic.Formula.Rendering

/-!
# Calling an engine

The command line that puts a formula to an engine, and the problem file two of
the engines read it from. Each engine is asked in its own notation, and a time
limit is passed on only to the engines that heed it; without one the argument is
left out.
-/

namespace Syllogistic

/-- An engine that is set up to be called from a rank. -/
structure Prover where
  engine : Engine
  setup : Setup
  logic : Logic
  domain : Domain
  rank : Nat
  deriving DecidableEq, Repr

/-- An argument of a command: a text, or the path of the problem file. -/
inductive Argument where
  | text (text : String)
  | problemFile
  deriving DecidableEq, Repr

/-- A file that exists for the time of one call. Its name starts with `stem` and
ends in characters that make it unique. -/
structure ProblemFile where
  stem : String
  contents : String
  deriving DecidableEq, Repr

/-- A program to run, with its arguments and the deadline in seconds at which it
is killed. -/
structure Invocation where
  program : String
  arguments : List Argument
  problem : Option ProblemFile
  deadline : Option Nat
  deriving DecidableEq, Repr

namespace Logic

/-- The name of a modal system in a THF logic specification. -/
def systemName : Logic → String
  | k => "$modal_system_K"
  | t => "$modal_system_T"
  | d => "$modal_system_D"
  | s4 => "$modal_system_S4"
  | s5 | multi => "$modal_system_S5"

end Logic

namespace Domain

/-- The name of a domain in a THF logic specification. -/
def quantificationName : Domain → String
  | const => "$constant"
  | vary => "$varying"
  | cumul => "$cumulative"
  | decr => "$decreasing"

end Domain

/-- Whether a text can be handed to a process: the character NUL would end it. -/
def passable (text : String) : Bool :=
  !text.toList.contains '\x00'

/-- Why the call cannot even be tried: a part of the command holds a NUL. -/
def Invocation.refusal (invocation : Invocation) : Option String :=
  let passes : Argument → Bool
    | .text text => passable text
    | .problemFile => true
  if passable invocation.program && invocation.arguments.all passes then none
  else some "Failed to spawn engine process: nul byte found in provided data"

/-- The clause-form problem of a formula. -/
def clauseProblem (formula : Formula) : String :=
  "f( " ++ formula.prolog ++ " )."

/-- The typed problem of a formula: the modal logic, the three terms, and the
conjecture. -/
def typedProblem (logic : Logic) (domain : Domain) (formula : Formula) : String :=
  "thf(modal_logic_descr, logic, (\n    $modal :=\n        [ $constants := $rigid,\n" ++
    "          $quantification := " ++ domain.quantificationName ++ ",\n" ++
    "          $consequence := $global,\n" ++
    "          $modalities := " ++ logic.systemName ++ " ] )).\n\n" ++
    "thf(m_type, type, ( m: $i > $o ) ).\n\n" ++
    "thf(p_type, type, ( p: $i > $o ) ).\n\n" ++
    "thf(s_type, type, ( s: $i > $o ) ).\n\n" ++
    "thf(prob, conjecture, " ++ formula.thf ++ " ).\n"

namespace Prover

/-- Sets an engine up; what it does not support is refused here. -/
def create (engine : Engine) (setup : Setup) (rank : Nat) : Except UnsupportedError Prover := do
  let (logic, domain) ← setup.resolve engine
  return ⟨engine, setup, logic, domain, rank⟩

/-- The problem text of a formula, for the engines that read it from a file. -/
def problem (prover : Prover) (formula : Formula) : Option String :=
  match prover.engine with
  | .mleanCop => some (clauseProblem formula)
  | .leo => some (typedProblem prover.logic prover.domain formula)
  | .mleanTap | .tpg => none

/-- The start of the problem file's name, for the engines that have one. -/
def problemStem (prover : Prover) : String :=
  match prover.engine with
  | .mleanCop => "mleancop_" ++ toString prover.rank ++ "_"
  | _ => "leo3_" ++ toString prover.rank ++ "_"

/-- The time limit as the last arguments of a command, after what announces it. -/
def limit (announced : List String) (timeout : Nat) : List Argument :=
  if timeout = 0 then [] else (announced ++ [toString timeout]).map .text

/-- The engine's own arguments. -/
def arguments (prover : Prover) (formula : Formula) (timeout : Nat) : List Argument :=
  match prover.engine with
  | .mleanCop =>
    ["-q", "--mleancop-path", prover.setup.directory, "--logic", prover.logic.name, "--domain",
      prover.domain.name].map .text ++ [.problemFile] ++ limit [] timeout
  | .mleanTap =>
    ["-g", "['" ++ prover.setup.file "mleantap13_swi.pl" ++ "'].",
      "-g", "asserta(logic(" ++ prover.logic.name ++ ")).",
      "-g", "asserta(domain(" ++ prover.domain.name ++ ")).",
      "-g", "( prove( " ++ formula.prolog ++ " ) -> halt(0) ; halt(1) ).",
      "-t", "halt."].map .text
  | .leo =>
    ["-jar", prover.setup.file "leo3.jar"].map .text ++ [.problemFile] ++
      ["-v", "0", "-p"].map .text ++ limit ["-t"] timeout
  | .tpg => [prover.setup.file "index.js", formula.unicode, "rmt"].map .text

/-- The call that puts a formula to the engine with a time limit in seconds; a
limit of zero is none. -/
def invocation (prover : Prover) (formula : Formula) (timeout : Nat) : Invocation where
  program := prover.setup.executable
  arguments := prover.setup.arguments.map .text ++ prover.arguments formula timeout
  problem := (prover.problem formula).map fun contents => ⟨prover.problemStem, contents⟩
  deadline := prover.engine.deadline timeout

end Prover

end Syllogistic
