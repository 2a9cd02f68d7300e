import Syllogistic.Batch.Worker

/-!
# The batch as a plain loop

What a run comes to, said without ranks, groups or messages: every formula is
put to every engine in turn, and the results decide its record. The distributed
run is held against this.
-/

namespace Syllogistic.Batch

/-- The results of all engines on one formula, in the order of the roster. -/
def resultsOf (backends : List Backend) (base : Nat) (formula : Formula) : List EngineResult :=
  backends.map fun backend => backend.decide formula (backend.engine.timeout base)

/-- The records of some formulas, one after the other. -/
def sequential (policy : Policy) (backends : List Backend) (base : Nat) :
    List Syllogism → Except AlignmentError (List Record)
  | [] => .ok []
  | syllogism :: rest =>
    match policy.consolidate syllogism (resultsOf backends base syllogism.formula) with
    | .error error => .error error
    | .ok record =>
      match sequential policy backends base rest with
      | .error error => .error error
      | .ok records => .ok (record :: records)

end Syllogistic.Batch
