import Syllogistic.Command.Program

/-!
# The command line

Runs the program on the real files and outputs. Processes cannot be started from
here, so every engine is reported as one that is not installed, and a batch
leaves every verdict open.
-/

namespace Syllogistic

/-- The fault that an error of the operating system is. -/
def fileFault : IO.Error → Command.FileFault
  | .noFileOrDirectory .. => .missing
  | .inappropriateType .. => .directory
  | error => .other (toString error)

/-- An action that may fail with a fault. -/
def attempt {α : Type} (action : IO α) : IO (Except Command.FileFault α) := do
  match ← action.toBaseIO with
  | .ok a => return .ok a
  | .error error => return .error (fileFault error)

/-- Runs a session on the real files. -/
def Command.Session.runReal {α : Type} : Command.Session α → IO α
  | done result => return result
  | print text next => do
    IO.print text
    next.runReal
  | read path next => do
    let outcome ← attempt (IO.FS.readBinFile path)
    (next (outcome.map (·.data.toList))).runReal
  | write path contents next => do
    let outcome ← attempt (IO.FS.writeBinFile path ⟨contents.toArray⟩)
    (next outcome).runReal

/-- The exit code that stands for none. -/
def brokenOff : Nat := 134

end Syllogistic

def main (arguments : List String) : IO UInt32 := do
  let host : Syllogistic.Host := {
    outcome := fun _ => .notStarted Syllogistic.Outcome.noSuchProgram
    takes := fun _ => 0
    memory := .ample }
  let ending ← (Syllogistic.Command.program host arguments).runReal
  IO.eprint ending.complaint
  return (ending.exitCode.getD Syllogistic.brokenOff).toUInt32
