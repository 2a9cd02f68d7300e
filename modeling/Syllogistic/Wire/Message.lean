import Syllogistic.Consensus.Basic
import Syllogistic.Wire.Codec

/-!
# The values that are stored and sent

Formulas, syllogisms, engine results and records in binary form. A formula is
the number of its outermost connective followed by its parts; everything else is
its fields in order.
-/

namespace Syllogistic.Wire

instance : Codec Mood := .ofValues Mood.values
instance : Codec Modality := .ofValues Modality.values
instance : Codec Figure := .ofValues Figure.values
instance : Codec Verdict := .ofValues [.proved, .refuted, .unknown]

/-- The bytes of a formula. -/
def encodeFormula : Formula → List UInt8
  | .predicate name => encodeTag 0 ++ encode name
  | .not body => encodeTag 1 ++ encodeFormula body
  | .and left right => encodeTag 2 ++ encodeFormula left ++ encodeFormula right
  | .or left right => encodeTag 3 ++ encodeFormula left ++ encodeFormula right
  | .implies left right => encodeTag 4 ++ encodeFormula left ++ encodeFormula right
  | .necessarily body => encodeTag 5 ++ encodeFormula body
  | .possibly body => encodeTag 6 ++ encodeFormula body
  | .exist body => encodeTag 7 ++ encodeFormula body
  | .all body => encodeTag 8 ++ encodeFormula body

/-- A formula with no more connectives and leaves on a path than a list has
members. -/
def decodeFormula : List UInt8 → Decoder Formula
  | [] => .fail (.outOfBytes 4)
  | _ :: depth => do
    let unary (build : Formula → Formula) : Decoder Formula := do
      return build (← decodeFormula depth)
    let binary (build : Formula → Formula → Formula) : Decoder Formula := do
      let left ← decodeFormula depth
      let right ← decodeFormula depth
      return build left right
    match ← decodeTag with
    | 0 => return .predicate (← decode)
    | 1 => unary .not
    | 2 => binary .and
    | 3 => binary .or
    | 4 => binary .implies
    | 5 => unary .necessarily
    | 6 => unary .possibly
    | 7 => unary .exist
    | 8 => unary .all
    | tag => .fail (.unknownVariant tag 9)

/-- Every connective and leaf takes a byte at least, so the bytes themselves bound
the depth of the formula. -/
instance : Codec Formula where
  encode := encodeFormula
  decode := fun bytes => decodeFormula bytes bytes

instance : Codec Premise :=
  .through (fun p => (p.mood, p.modality)) fun (mood, modality) => ⟨mood, modality⟩

instance : Codec Construction :=
  .through (fun c => (c.figure, c.major, c.minor, c.conclusion))
    fun (figure, major, minor, conclusion) => ⟨figure, major, minor, conclusion⟩

instance : Codec Syllogism :=
  .through (fun s => (s.formula, s.construction, s.code))
    fun (formula, construction, code) => ⟨formula, construction, code⟩

instance : Codec EngineResult :=
  .through (fun r => (r.engine, r.formula, r.verdict, r.proof))
    fun (engine, formula, verdict, proof) => ⟨engine, formula, verdict, proof⟩

instance : Codec Vote :=
  .through (fun v => (v.engine, v.verdict, v.proof))
    fun (engine, verdict, proof) => ⟨engine, verdict, proof⟩

instance : Codec Record :=
  .through (fun r => (r.syllogism, r.verdict, r.contradiction, r.votes))
    fun (syllogism, verdict, contradiction, votes) => ⟨syllogism, verdict, contradiction, votes⟩

end Syllogistic.Wire
