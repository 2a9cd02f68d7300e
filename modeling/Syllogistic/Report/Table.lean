import Syllogistic.Consensus.Basic
import Syllogistic.Report.Csv

/-!
# The report of a run

One row for each syllogism: its construction, its formula and the verdict, then
for each engine of the roster what it said and its proof. A record with fewer
votes than engines leaves the cells of the missing ones empty, so every row is
as wide as the header.
-/

namespace Syllogistic.Report

/-- The titles of the columns that do not depend on the roster. -/
def fixedTitles : List String :=
  ["Figure", "Major", "Major modal", "Minor", "Minor modal", "Conclusion", "Conclusion modal",
    "Formula", "Final"]

/-- The titles of all columns. -/
def header (engines : List String) : List String :=
  fixedTitles ++ engines.flatMap fun name => [name ++ " result", name ++ " proof"]

/-- The two cells of one engine. -/
def voteCells : Option Vote → List String
  | some vote => [vote.verdict.name, vote.proof.getD ""]
  | none => ["", ""]

/-- The cells of one record among a number of engines. -/
def row (record : Record) (engines : Nat) : List String :=
  let construction := record.syllogism.construction
  [toString construction.figure.number,
    construction.major.mood.name, construction.major.modality.name,
    construction.minor.mood.name, construction.minor.modality.name,
    construction.conclusion.mood.name, construction.conclusion.modality.name,
    record.syllogism.formula.unicode, record.verdict.name] ++
    (List.range engines).flatMap fun i => voteCells record.votes[i]?

/-- The text of the report. -/
def text (engines : List String) (records : List Record) : String :=
  Csv.table (header engines :: records.map (row · engines.length))

end Syllogistic.Report
