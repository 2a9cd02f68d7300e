import Syllogistic.Command.Complaint
import Syllogistic.Command.Display
import Syllogistic.Report.Table
import Syllogistic.Wire.Message

/-!
# What the commands do

A session is what a command does with files and with its output, one act at a
time. A batch is planned before its formulas are read, and a file is only
written once all that goes into it is known, so a command that fails earlier
leaves the files as they were.
-/

namespace Syllogistic.Command

/-- What is still to be done with files and the output before there is a
result. -/
inductive Session (α : Type) where
  | done (result : α)
  | print (text : String) (next : Session α)
  | read (path : String) (next : Except FileFault (List UInt8) → Session α)
  | write (path : String) (contents : List UInt8) (next : Except FileFault Unit → Session α)

namespace Session

/-- Goes on with what depends on the result. -/
def andThen {α β : Type} : Session α → (α → Session β) → Session β
  | done result, f => f result
  | print text next, f => print text (next.andThen f)
  | read path next, f => read path fun outcome => (next outcome).andThen f
  | write path contents next, f => write path contents fun outcome => (next outcome).andThen f

instance : Monad Session where
  pure := done
  bind := andThen

end Session

/-- A session that may fail. -/
abbrev Attempt (α : Type) := ExceptT Complaint Session α

namespace Attempt

/-- What is known without a session. -/
def ofExcept {ε α : Type} (complaint : ε → Complaint) (outcome : Except ε α) : Attempt α :=
  ExceptT.mk (.done (outcome.mapError complaint))

/-- Prints a text. -/
def print (text : String) : Attempt Unit :=
  ExceptT.mk (.print text (.done (.ok ())))

/-- Reads the contents of a file and what they say. -/
def read {ε α : Type} (path : String) (complaint : ε → Complaint) (fault : FileFault → ε)
    (meaning : List UInt8 → Except ε α) : Attempt α :=
  ExceptT.mk (.read path fun outcome =>
    .done (((outcome.mapError fault).bind meaning).mapError complaint))

/-- Writes a file. -/
def write (path : String) (contents : List UInt8) (complaint : FileFault → Complaint) :
    Attempt Unit :=
  ExceptT.mk (.write path contents fun outcome => .done (outcome.mapError complaint))

end Attempt

/-- The settings that the bytes of a file give. -/
def settingsOfBytes (bytes : List UInt8) : Except SettingsFault Settings :=
  match Text.Utf8.decode? bytes with
  | none => .error .notText
  | some document => (SettingsFile.parse document).mapError .document

/-- The settings of a run before the command line overrides them. -/
def readSettings : Option String → Attempt Settings
  | none => return {}
  | some path => Attempt.read path (.readSettings path) .file settingsOfBytes

/-- Writes a formula set. -/
def generate (format : Format) (selection : Selection) (path : String) : Attempt Unit := do
  let syllogisms ← Attempt.ofExcept .selection selection.syllogisms
  Attempt.write path (Wire.encode syllogisms) (.writeFormulas path)
  Attempt.print (format.remark .success
    ("Wrote " ++ toString syllogisms.length ++ " syllogisms to " ++ path))

/-- Shows the syllogism with a code. -/
def showCode (format : Format) (code : String) : Attempt Unit := do
  let syllogism ← Attempt.ofExcept (.badCode code) (Syllogism.ofCode code)
  Attempt.print (format.syllogism syllogism)

/-- Tells what a run came to. -/
def tell (format : Format) (summary : Batch.Summary) (path : String) : Attempt Unit := do
  Attempt.print (format.summary summary)
  if summary.contradictions ≠ 0 then
    Attempt.print (format.remark .warning (toString summary.contradictions ++
      " formulas need review: engines contradicted each other"))
  Attempt.print (format.remark .success ("Results written to " ++ path))

/-- Runs a batch on a host. -/
def runBatch (host : Host) (format : Format) (options : RunOptions) :
    Attempt Unit := do
  let settings := options.override (← readSettings options.settings)
  let plan ← Attempt.ofExcept .settings (settings.plan host)
  let formulas ← Attempt.read settings.formulas (.readFormulas settings.formulas) .file
    fun bytes => (Wire.loadFile host.memory bytes).mapError .content
  let outcome ← Attempt.ofExcept .noRoom (plan.launch host.memory formulas)
  let summary ← Attempt.ofExcept .run outcome
  Attempt.write settings.output
    (Text.Utf8.encode (Report.text summary.engines summary.records))
    (.writeReport settings.output)
  tell format summary settings.output

/-- What a request comes to, on a host. -/
def Request.perform (host : Host) (request : Request) : Attempt Unit :=
  match request.task with
  | .generate selection path => generate request.format selection path
  | .show code => showCode request.format code
  | .run options => runBatch host request.format options
  | .listEngines detailed => Attempt.print (request.format.engines detailed)

end Syllogistic.Command
