import Syllogistic.Engine.Answer
import Syllogistic.Fault
import Syllogistic.Syllogism.Basic

/-!
# Consensus of the engines

Every formula is decided by all engines of a group. A vote for each side is a
contradiction: the verdict is open and the record is flagged. Otherwise the side
whose votes reach its threshold wins. Results that are for another formula than
the one being decided mean that the columns of a group do not line up, and
nothing is decided from them.
-/

namespace Syllogistic

/-- How many votes a verdict needs. -/
structure Policy where
  /-- Votes for a theorem. -/
  proved : Nat := 1
  /-- Votes for a non-theorem. -/
  refuted : Nat := 1
  deriving DecidableEq, Repr

/-- The result of one engine on one formula. -/
structure EngineResult where
  engine : String
  formula : Formula
  verdict : Verdict
  proof : Option String
  deriving DecidableEq, Repr

/-- What one engine contributes to a record. -/
structure Vote where
  engine : String
  verdict : Verdict
  /-- A proof text, which only a theorem can have. -/
  proof : Option String
  deriving DecidableEq, Repr

/-- The decided outcome for one syllogism. -/
structure Record where
  syllogism : Syllogism
  verdict : Verdict
  /-- Whether engines contradicted each other. -/
  contradiction : Bool
  /-- The votes in the order of the roster. -/
  votes : List Vote
  deriving DecidableEq, Repr

/-- Why results do not line up with what they should decide. -/
inductive AlignmentError where
  | noResults (code : String)
  | stray (engine : String) (formula : Formula) (syllogism : Syllogism)
  | columns (expected found : Nat)
  | columnLength (engine found expected : Nat)
  deriving DecidableEq, Repr

def AlignmentError.message : AlignmentError → String
  | noResults code => alignmentFault ("no engine results for " ++ code)
  | stray engine formula syllogism =>
    alignmentFault (engine ++ " returned a result for " ++ formula.unicode ++
      " while consolidating " ++ syllogism.describe)
  | columns expected found =>
    alignmentFault ("expected results from " ++ toString expected ++ " engines, got " ++
      toString found)
  | columnLength engine found expected =>
    alignmentFault ("engine " ++ toString engine ++ " returned " ++ toString found ++
      " results for a chunk of " ++ toString expected)

/-- The proof, if the verdict is one that can have a proof. -/
def Verdict.keepProof (verdict : Verdict) (proof : Option String) : Option String :=
  if verdict = .proved then proof else none

/-- The vote that a result casts. -/
def EngineResult.vote (result : EngineResult) : Vote :=
  ⟨result.engine, result.verdict, result.verdict.keepProof result.proof⟩

namespace Policy

/-- The verdict on a number of votes for each side, and whether they contradict
each other. -/
def decide (policy : Policy) (proved refuted : Nat) : Verdict × Bool :=
  if 0 < proved ∧ 0 < refuted then (.unknown, true)
  else if policy.proved ≤ proved then (.proved, false)
  else if policy.refuted ≤ refuted then (.refuted, false)
  else (.unknown, false)

/-- How many results have a verdict. -/
def count (verdict : Verdict) (results : List EngineResult) : Nat :=
  results.countP (·.verdict = verdict)

/-- Decides one syllogism by the results of all engines on its formula. -/
def consolidate (policy : Policy) (syllogism : Syllogism) (results : List EngineResult) :
    Except AlignmentError Record :=
  if results.isEmpty then .error (.noResults syllogism.code)
  else
    match results.find? (·.formula ≠ syllogism.formula) with
    | some stray => .error (.stray stray.engine stray.formula syllogism)
    | none =>
      let (verdict, contradiction) :=
        policy.decide (count .proved results) (count .refuted results)
      .ok ⟨syllogism, verdict, contradiction, results.map (·.vote)⟩

/-- Decides the syllogisms of a chunk one after the other; each takes the first
result off every column. -/
def consolidateRows (policy : Policy) :
    List Syllogism → List (List EngineResult) → Except AlignmentError (List Record)
  | [], _ => .ok []
  | syllogism :: rest, columns => do
    let record ← policy.consolidate syllogism (columns.filterMap List.head?)
    let records ← policy.consolidateRows rest (columns.map List.tail)
    return record :: records

/-- Decides a chunk by the columns of results gathered for it, one column for
each engine of the group. -/
def consolidateGroup (policy : Policy) (chunk : List Syllogism)
    (columns : List (List EngineResult)) (engines : Nat) : Except AlignmentError (List Record) :=
  if columns.length ≠ engines then .error (.columns engines columns.length)
  else
    match columns.zipIdx.find? (·.1.length ≠ chunk.length) with
    | some (column, place) => .error (.columnLength place column.length chunk.length)
    | none => policy.consolidateRows chunk columns

end Policy

end Syllogistic
