/-!
# What an engine says of a formula

A verdict, with a proof text where the engine gives one, or a failure of the
call. Failures are causes: the limit passed, the engine said something that is
no answer, or it could not be started at all.
-/

namespace Syllogistic

/-- What an engine, or all engines together, say of a formula. -/
inductive Verdict where
  | proved
  | refuted
  | unknown
  deriving DecidableEq, Repr, Inhabited

namespace Verdict

/-- Whether the question is settled. -/
def conclusive (verdict : Verdict) : Bool :=
  verdict ≠ unknown

def name : Verdict → String
  | proved => "Theorem"
  | refuted => "Non-Theorem"
  | unknown => "Unknown"

end Verdict

/-- The answer of one engine call, with the time it took in nanoseconds. -/
structure Answer where
  verdict : Verdict
  proof : Option String
  elapsed : Nat
  deriving DecidableEq, Repr

/-- Why the output of an engine is no answer. -/
inductive ProtocolFault where
  | emptyOutput
  | missingStatus
  | unexpectedStatus (status : String)
  | malformedStatus (line : String)
  | errorStatus (status line : String)
  | noStatus
  | exited (exitCode : Option Int) (complaint : String)
  | other (what : String)
  deriving DecidableEq, Repr

/-- An exit code, if the process had one. -/
def exitText : Option Int → String
  | none => "None"
  | some code => "Some(" ++ toString code ++ ")"

def ProtocolFault.message : ProtocolFault → String
  | emptyOutput => "empty output"
  | missingStatus => "missing status line"
  | unexpectedStatus status => "unexpected status '" ++ status ++ "'"
  | malformedStatus line => "malformed status line: " ++ line
  | errorStatus status line => status ++ " while proving: " ++ line
  | noStatus => "no SZS status in output"
  | exited exitCode complaint => "exited with " ++ exitText exitCode ++ ": " ++ complaint
  | other what => what

/-- Why an engine call gave no answer. -/
inductive EngineFailure where
  | timeout
  | protocol (fault : ProtocolFault)
  | launch (reason : String)
  deriving DecidableEq, Repr

def EngineFailure.message : EngineFailure → String
  | timeout => "engine timed out"
  | protocol fault => "engine protocol error: " ++ fault.message
  | launch reason => "failed to run engine: " ++ reason

end Syllogistic
