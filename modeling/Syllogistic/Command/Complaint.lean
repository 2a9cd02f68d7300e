import Syllogistic.Batch.Run
import Syllogistic.Settings.File
import Syllogistic.Syllogism.Code
import Syllogistic.Syllogism.Enumeration
import Syllogistic.Wire.Codec

/-!
# What is said when a command fails

A complaint says what failed and why. The cause of a fault in a file has a cause
of its own; where there are several, they are numbered.
-/

namespace Syllogistic.Command

/-- Why a file cannot be read or written. -/
inductive FileFault where
  | missing
  | notDirectory
  | directory
  | nameTooLong
  /-- The path holds the character NUL, which no path can. -/
  | nulInPath
  | other (what : String)
  deriving DecidableEq, Repr

def FileFault.message : FileFault → String
  | missing => "No such file or directory (os error 2)"
  | notDirectory => "Not a directory (os error 20)"
  | directory => "Is a directory (os error 21)"
  | nameTooLong => "File name too long (os error 36)"
  | nulInPath => "file name contained an unexpected NUL byte"
  | other what => what

/-- Why there are no settings in a file. -/
inductive SettingsFault where
  | file (fault : FileFault)
  | notText
  | document (fault : Toml.Fault)
  deriving DecidableEq, Repr

/-- Why there are no formulas in a file. -/
inductive FormulasFault where
  | file (fault : FileFault)
  | content (error : Wire.FileError)
  deriving DecidableEq, Repr

/-- Why a command fails. -/
inductive Complaint where
  | selection (error : SelectionError)
  | writeFormulas (path : String) (fault : FileFault)
  | badCode (code : String) (error : CodeError)
  | readSettings (path : String) (fault : SettingsFault)
  | settings (error : SettingsError)
  | readFormulas (path : String) (fault : FormulasFault)
  /-- There is no room for the ranks of a run. -/
  | noRoom (fault : MemoryFault)
  | run (error : Batch.RunError RosterError)
  | writeReport (path : String) (fault : FileFault)
  deriving DecidableEq, Repr

/-- A cause that is said first with its class and then by itself. -/
def classed (kind cause : String) : List String := [kind ++ cause, cause]

/-- The causes of a fault with a file. -/
def FileFault.causes (fault : FileFault) : List String :=
  classed "I/O error: " fault.message

/-- The causes of a fault with settings. -/
def SettingsFault.causes : SettingsFault → List String
  | file fault => fault.causes
  | notText => classed "I/O error: " "stream did not contain valid UTF-8"
  | document fault => classed "invalid configuration file: " fault.message

/-- The causes of a fault with formulas. A directory can be opened, so that it
has no content is only found out in reading it. -/
def FormulasFault.causes : FormulasFault → List String
  | file .directory => classed "encoding error: " ("io error: " ++ FileFault.directory.message)
  | file fault => fault.causes
  | content (.content error) => classed "encoding error: " error.message
  | content error => [error.message]

namespace Complaint

/-- What failed. -/
def context : Complaint → String
  | selection _ => "Failed to enumerate syllogisms"
  | writeFormulas path _ => "Failed to write formula set: " ++ path
  | badCode code _ => "Invalid syllogism UID: " ++ code
  | readSettings path _ => "Failed to load config: " ++ path
  | settings _ => "Invalid run configuration"
  | readFormulas path _ => "Failed to read formula set: " ++ path
  | noRoom _ => "Out of memory"
  | run _ => "Batch run failed"
  | writeReport path _ => "Failed to write report: " ++ path

/-- Why it failed, the outermost cause first. -/
def causes : Complaint → List String
  | selection error => [error.message]
  | writeFormulas _ fault => fault.causes
  | badCode _ error => [error.message]
  | readSettings _ fault => fault.causes
  | settings error => [error.message]
  | readFormulas _ fault => fault.causes
  | noRoom fault => [fault.message]
  | run error => [error.message RosterError.message]
  | writeReport _ fault => fault.causes

/-- The exit code of a program that ends with the complaint. -/
def exitCode : Complaint → Option Nat
  | readFormulas _ (.content (.noRoom fault)) => fault.exitCode
  | noRoom fault => fault.exitCode
  | _ => some 1

/-- A cause under a heading: its later lines are as far in as its first. -/
def inset (heading margin : String) (cause : String) : String :=
  heading ++ String.ofList (cause.toList.flatMap fun c =>
    if c = '\n' then c :: margin.toList else [c])

/-- The causes on lines of their own. -/
def causeLines : List String → List String
  | [cause] => [inset "    " "    " cause]
  | causes => causes.zipIdx.map fun (cause, place) =>
    inset ("    " ++ toString place ++ ": ") "       " cause

/-- The complaint as it is printed. -/
def message (complaint : Complaint) : String :=
  "Error: " ++ complaint.context ++ "\n\nCaused by:\n" ++
    "\n".intercalate (causeLines complaint.causes) ++ "\n"

end Complaint

end Syllogistic.Command
