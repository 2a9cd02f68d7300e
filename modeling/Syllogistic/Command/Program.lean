import Syllogistic.Command.Arguments
import Syllogistic.Command.Session

/-!
# The whole program

What a command line comes to: a session that ends with an exit code. Arguments
that cannot be understood end with 2, a command that fails ends with the exit code
of its complaint, and either way something is said on the standard error.
-/

namespace Syllogistic.Command

/-- How the program ends. -/
structure Ending where
  /-- None for a program that is broken off. -/
  exitCode : Option Nat
  /-- What is said on the standard error. -/
  complaint : String
  deriving DecidableEq, Repr

/-- The end of a program that did what it was asked for. -/
def Ending.success : Ending := ⟨some 0, ""⟩

/-- What is printed for the version. -/
def versionText : String := "sylloprove 0.1.0\n"

/-- What is printed for the help. -/
def helpText : String :=
  "Usage: sylloprove [OPTIONS] <COMMAND>\n\nCommands:\n" ++
    String.join (taskNames.map fun name => "  " ++ name ++ "\n")

/-- The end that a stop comes to. -/
def Stop.session : Stop → Session Ending
  | help => .print helpText (.done .success)
  | version => .print versionText (.done .success)
  | wrong error => .done ⟨some 2, "error: " ++ error.message ++ "\n"⟩

/-- The end that the outcome of a command comes to. -/
def Ending.of : Except Complaint Unit → Ending
  | .ok () => .success
  | .error complaint => ⟨complaint.exitCode, complaint.message⟩

/-- What the program does with its arguments, on a host. -/
def program (host : Host) (arguments : List String) : Session Ending :=
  match Request.read arguments with
  | .error stop => stop.session
  | .ok request => (request.perform host).run.andThen fun outcome => .done (.of outcome)

end Syllogistic.Command
