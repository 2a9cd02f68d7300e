/-!
# Modal formulas in one variable

Formulas of monadic modal logic over the single bound variable `x`. A leaf says
that `x` falls under a named predicate, so a formula is fixed by its shape and
its names, and equality is equality of trees. Renaming acts on the names and
leaves the shape alone.
-/

namespace Syllogistic

/-- A monadic modal formula over one bound variable. -/
inductive Formula where
  | predicate (name : String)
  | not (body : Formula)
  | and (left right : Formula)
  | or (left right : Formula)
  | implies (left right : Formula)
  | necessarily (body : Formula)
  | possibly (body : Formula)
  | exist (body : Formula)
  | all (body : Formula)
  deriving DecidableEq, Hashable, Repr, Inhabited

namespace Formula

/-- Applies a map to every predicate name. -/
def mapNames (f : String → String) : Formula → Formula
  | predicate name => predicate (f name)
  | not body => not (body.mapNames f)
  | and left right => and (left.mapNames f) (right.mapNames f)
  | or left right => or (left.mapNames f) (right.mapNames f)
  | implies left right => implies (left.mapNames f) (right.mapNames f)
  | necessarily body => necessarily (body.mapNames f)
  | possibly body => possibly (body.mapNames f)
  | exist body => exist (body.mapNames f)
  | all body => all (body.mapNames f)

/-- Renames every leaf called `old`. -/
def rename (old new : String) : Formula → Formula :=
  mapNames fun name => if name = old then new else name

/-- Nesting depth; a leaf has depth 1. -/
def depth : Formula → Nat
  | predicate _ => 1
  | not body | necessarily body | possibly body | exist body | all body => 1 + body.depth
  | and left right | or left right | implies left right => 1 + max left.depth right.depth

/-- The names of the leaves, from left to right. -/
def leaves : Formula → List String
  | predicate name => [name]
  | not body | necessarily body | possibly body | exist body | all body => body.leaves
  | and left right | or left right | implies left right => left.leaves ++ right.leaves

/-- Puts a name into its place in a strictly increasing list. -/
def insertName (name : String) : List String → List String
  | [] => [name]
  | first :: rest =>
    if name < first then name :: first :: rest
    else if first < name then first :: insertName name rest
    else first :: rest

/-- The distinct predicate names in increasing order of their characters. -/
def names (formula : Formula) : List String :=
  formula.leaves.foldr insertName []

theorem mem_insertName {name other : String} {sorted : List String} :
    other ∈ insertName name sorted ↔ other = name ∨ other ∈ sorted := by
  induction sorted with
  | nil => simp [insertName]
  | cons first rest ih =>
    rw [insertName]
    split
    · simp
    · split
      · simp [ih, or_left_comm]
      next hlt hgt =>
        have heq : name = first := String.le_antisymm (String.not_lt.1 hgt) (String.not_lt.1 hlt)
        simp [heq]

theorem mem_names {formula : Formula} {name : String} :
    name ∈ formula.names ↔ name ∈ formula.leaves := by
  have h : ∀ leaves : List String, name ∈ leaves.foldr insertName [] ↔ name ∈ leaves := by
    intro leaves
    induction leaves with
    | nil => simp
    | cons leaf rest ih => simp [mem_insertName, ih]
  exact h formula.leaves

theorem depth_mapNames (f : String → String) (formula : Formula) :
    (formula.mapNames f).depth = formula.depth := by
  induction formula <;> simp_all [mapNames, depth]

theorem leaves_mapNames (f : String → String) (formula : Formula) :
    (formula.mapNames f).leaves = formula.leaves.map f := by
  induction formula <;> simp_all [mapNames, leaves]

end Formula

end Syllogistic
