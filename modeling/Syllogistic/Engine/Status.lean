import Syllogistic.Engine.Answer
import Syllogistic.Engine.Kind
import Syllogistic.Text.Blank
import Syllogistic.Text.Lines
import Syllogistic.Text.Utf8

/-!
# Reading the answer of an engine

What a process leaves behind is its two outputs and an exit code. MleanTAP
answers by exit code alone. MleanCoP and TPG print a status line first and the
proof between the second and the last line. LEO-III prints SZS lines: the status
that counts is the last one before a proof block, a status that names an error
is final, and nothing inside or after the proof block is looked at again.
-/

namespace Syllogistic

/-- What a process that ended by itself left behind. -/
structure Output where
  stdout : String
  stderr : String
  /-- Absent if the process died by a signal. -/
  exitCode : Option Int
  /-- How long it ran, in nanoseconds. -/
  elapsed : Nat
  deriving DecidableEq, Repr

/-- How the run of a process came out. -/
inductive Outcome where
  /-- It could not be started. -/
  | notStarted (reason : String)
  /-- Its hard deadline passed and it was killed. -/
  | overdue
  /-- It ended by itself. -/
  | ended (output : Output)
  deriving DecidableEq, Repr

/-- What is said of a program that cannot be started. -/
def Outcome.startFailure (cause : String) : String :=
  "Failed to spawn engine process: " ++ cause

/-- What is said of a program that does not exist. -/
def Outcome.noSuchProgram : String :=
  startFailure "No such file or directory (os error 2)"

/-- A verdict with a proof, before it is known how long it took. -/
abbrev Finding := Verdict × Option String

namespace Status

/-- The lines between the first two and the last one. -/
def innerLines (lines : List (List Char)) : List Char :=
  Text.joinWith '\n' (lines.drop 2).dropLast

/-- The trimmed output in lines. -/
def outputLines (stdout : String) : List (List Char) :=
  Text.lines (Text.trim stdout.toList)

/-- The status and the proof of MleanCoP: the last token of the first line. -/
def readMleanCop (stdout : String) : Except EngineFailure Finding :=
  let lines := outputLines stdout
  match lines.head?.bind fun line => (Text.tokens line).getLast? with
  | none | some [] => .error (.protocol .emptyOutput)
  | some status =>
    match String.ofList status with
    | "Theorem" => .ok (.proved, some (String.ofList (innerLines lines)))
    | "Non-Theorem" => .ok (.refuted, none)
    | "Timeout" => .error .timeout
    | other => .error (.protocol (.unexpectedStatus other))

/-- The status and the proof of TPG: the second token of the first line. -/
def readTpg (stdout : String) : Except EngineFailure Finding :=
  let lines := outputLines stdout
  match lines.head?.bind fun line => (Text.tokens line)[1]? with
  | none => .error (.protocol .missingStatus)
  | some status =>
    match String.ofList status with
    | "Theorem" => .ok (.proved, some (String.ofList (innerLines lines)))
    | "Non-Theorem" => .ok (.refuted, none)
    | other => .error (.protocol (.unexpectedStatus other))

/-- The start of a line that gives an SZS status. -/
def statusMark : List Char := "% SZS status".toList

/-- The start of the line before a proof. -/
def proofMark : List Char := "% SZS output start".toList

/-- The start of the line after a proof. -/
def proofEndMark : List Char := "% SZS output end".toList

/-- The proof that a block holds: the kind of proof that its first line names,
then its lines. -/
def proofBlock (first : List Char) (rest : List (List Char)) : List Char :=
  let kind := ((Text.tokens first)[4]?).getD "Proof".toList
  let body := rest.takeWhile fun line => !proofEndMark.isPrefixOf line
  "% ".toList ++ kind ++ '\n' :: body.flatMap fun line => line ++ ['\n']

/-- The status of an SZS status line. -/
def lineStatus (line : List Char) : Except ProtocolFault (List Char) :=
  match (Text.tokens line)[3]? with
  | none => .error (.malformedStatus (String.ofList line))
  | some status =>
    if "Error".toList.isSuffixOf status then
      .error (.errorStatus (String.ofList status) (String.ofList line))
    else .ok status

/-- The last status before a proof block, and the proof if there is one; `status`
is the last one so far. -/
def scan (status : Option (List Char)) :
    List (List Char) → Except ProtocolFault (Option (List Char) × Option (List Char))
  | [] => .ok (status, none)
  | line :: rest =>
    if statusMark.isPrefixOf line then
      match lineStatus line with
      | .error fault => .error fault
      | .ok found => scan (some found) rest
    else if status = some "Theorem".toList && proofMark.isPrefixOf line then
      .ok (status, some (proofBlock line rest))
    else scan status rest

/-- The status and the proof of LEO-III. -/
def readLeo (stdout : String) : Except EngineFailure Finding :=
  match scan none (outputLines stdout) with
  | .error fault => .error (.protocol fault)
  | .ok (none, _) => .error (.protocol .noStatus)
  | .ok (some status, proof) =>
    match String.ofList status with
    | "Theorem" => .ok (.proved, proof.map String.ofList)
    | "CounterSatisfiable" => .ok (.refuted, none)
    | "Timeout" => .error .timeout
    | _ => .ok (.unknown, none)

/-- The verdict that MleanTAP gives by its exit code. -/
def ofExitCode : Option Int → Verdict
  | some 0 => .proved
  | some 1 => .refuted
  | _ => .unknown

/-- The first line of a text, empty if there is none. -/
def firstLine (s : String) : String :=
  String.ofList ((Text.lines s.toList).headD [])

/-- The answer of LEO-III: if its output is none and its exit code not zero, the
exit code and the first complaint are what is reported. -/
def interpretLeo (output : Output) : Except EngineFailure Finding :=
  match readLeo output.stdout with
  | .error (.protocol fault) =>
    if output.exitCode = some 0 then .error (.protocol fault)
    else .error (.protocol (.exited output.exitCode (firstLine output.stderr)))
  | finding => finding

end Status

namespace Engine

/-- What an engine says by the output of a process that ended by itself. -/
def finding (engine : Engine) (output : Output) : Except EngineFailure Finding :=
  match engine with
  | mleanCop => Status.readMleanCop output.stdout
  | mleanTap => .ok (Status.ofExitCode output.exitCode, none)
  | leo => Status.interpretLeo output
  | tpg => Status.readTpg output.stdout

/-- The answer of an engine by the outcome of its process. -/
def interpret (engine : Engine) : Outcome → Except EngineFailure Answer
  | .notStarted reason => .error (.launch reason)
  | .overdue => .error .timeout
  | .ended output =>
    match engine.finding output with
    | .error failure => .error failure
    | .ok (verdict, proof) => .ok ⟨verdict, proof, output.elapsed⟩

end Engine

end Syllogistic
