import Syllogistic.Batch.Run
import Syllogistic.Command.Request
import Syllogistic.Text.Json

/-!
# How answers look

Every answer is either plain text or a JSON object on lines of its own. Remarks
have a kind, which JSON names and plain text shows by how it sets the line off.
-/

namespace Syllogistic.Command

open Text (Json.Value Json.object)

/-- What a remark is. -/
inductive RemarkKind where
  | success
  | warning
  | info
  | header
  | sectionTitle
  | result
  deriving DecidableEq, Repr

def RemarkKind.name : RemarkKind → String
  | success => "success"
  | warning => "warning"
  | info => "info"
  | header => "header"
  | sectionTitle => "section"
  | result => "result"

/-- A line of its own. -/
def asLine (text : String) : String := text ++ "\n"

/-- The line under a title of some width. -/
def underline (width : Nat) : String :=
  String.ofList (List.replicate width '=')

/-- A remark in plain text. -/
def plainRemark (kind : RemarkKind) (text : String) : String :=
  match kind with
  | .header => "\n" ++ asLine text ++ asLine (underline text.length)
  | .sectionTitle => "\n" ++ asLine text
  | .success | .warning | .info | .result => asLine text

/-- How a remark looks. -/
def Format.remark (format : Format) (kind : RemarkKind) (text : String) : String :=
  match format with
  | .text => plainRemark kind text
  | .json => asLine (Json.object [("level", .text kind.name), ("message", .text text)])

/-- How a syllogism looks, with its formula in all notations. -/
def Format.syllogism (format : Format) (syllogism : Syllogism) : String :=
  let construction := syllogism.construction.describe
  let formula := syllogism.formula
  match format with
  | .text =>
    "\n" ++ asLine ("Syllogism " ++ syllogism.code) ++
      asLine ("  Construction: " ++ construction) ++
      asLine ("  Formula: " ++ formula.unicode) ++
      asLine ("  Prolog: " ++ formula.prolog) ++
      asLine ("  THF: " ++ formula.thf) ++ "\n"
  | .json =>
    asLine (Json.object [("uid", .text syllogism.code), ("construction", .text construction),
      ("unicode", .text formula.unicode), ("prolog", .text formula.prolog),
      ("thf", .text formula.thf)])

/-- How many records have a verdict. -/
def verdictCount (summary : Batch.Summary) (verdict : Verdict) : Nat :=
  summary.records.countP (·.verdict = verdict)

/-- How the summary of a run looks. Contradictions are only told in plain text
if there are any. -/
def Format.summary (format : Format) (summary : Batch.Summary) : String :=
  let total := summary.records.length
  let proved := verdictCount summary .proved
  let refuted := verdictCount summary .refuted
  let unknown := verdictCount summary .unknown
  let contradictions := summary.contradictions
  match format with
  | .text =>
    "\n" ++ asLine "Run Summary" ++ asLine (underline "Run Summary".length) ++
      asLine ("  Engines:        " ++ ", ".intercalate summary.engines) ++
      asLine ("  Formulas:       " ++ toString total) ++
      asLine ("  Theorem:       " ++ toString proved) ++
      asLine ("  Non-Theorem:   " ++ toString refuted) ++
      asLine ("  Unknown:       " ++ toString unknown) ++
      (if contradictions = 0 then ""
        else asLine ("  Contradictions: " ++ toString contradictions)) ++ "\n"
  | .json =>
    asLine (Json.object [("formulas", .number total), ("theorems", .number proved),
      ("non_theorems", .number refuted), ("unknown", .number unknown),
      ("contradictions", .number contradictions), ("engines", .texts summary.engines)])

/-- A text with blanks after it up to a width. -/
def padded (width : Nat) (text : String) : String :=
  text ++ String.ofList (List.replicate (width - text.length) ' ')

/-- How one engine is listed. -/
def Format.engine (format : Format) (detailed : Bool) (engine : Engine) : String :=
  let logics := engine.logics.map (·.name)
  let domains := engine.domains.map (·.name)
  if detailed then
    format.remark .sectionTitle engine.name ++
      format.remark .info ("  Timeout modifier: " ++ engine.shareShort) ++
      format.remark .info ("  Logics: " ++ ", ".intercalate logics) ++
      format.remark .info ("  Domains: " ++ ", ".intercalate domains) ++
      format.remark .info ""
  else
    format.remark .result (padded 10 engine.name ++ " - modifier " ++ engine.shareOnePlace ++
      " | logics " ++ " ".intercalate logics)

/-- How the engines are listed. -/
def Format.engines (format : Format) (detailed : Bool) : String :=
  format.remark .header "Available Provers" ++
    format.remark .info ("Total: " ++ toString Engine.values.length ++ " provers\n") ++
    String.join (Engine.values.map (format.engine detailed))

end Syllogistic.Command
