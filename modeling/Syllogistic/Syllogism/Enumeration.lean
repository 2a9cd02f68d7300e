import Std.Data.HashSet
import Syllogistic.Syllogism.Basic

/-!
# Enumerating syllogisms

All constructions in a fixed nested order: figure, the three mood letters, then
the three modal readings with the conclusion innermost. A selection drops the
first few, keeps every so many and ends at a limit; before that, repeated
formulas may be left out, so that only the first code of each formula counts.
Nothing more is built once there are as many entries as the selection can ask
for.
-/

namespace Syllogistic

/-- The largest number that a count may have. -/
def maxCount : Nat := UInt64.size - 1

/-- Which syllogisms of the enumeration are wanted. -/
structure Selection where
  /-- How many at most; all if absent. -/
  limit : Option Nat := none
  /-- One of so many is kept, beginning with the first after those skipped. -/
  stride : Nat := 1
  /-- How many are dropped from the front. -/
  skip : Nat := 0
  /-- Whether later syllogisms with a formula that already occurred are left out. -/
  distinct : Bool := true
  deriving DecidableEq, Repr

/-- Why a selection makes no sense. -/
inductive SelectionError where
  | strideZero
  deriving DecidableEq, Repr

def SelectionError.message : SelectionError → String
  | strideZero => configurationFault "stride must be at least 1"

/-- All constructions in the order of enumeration. -/
def Construction.values : List Construction :=
  Figure.values.flatMap fun figure =>
    Mood.values.flatMap fun majorMood =>
      Mood.values.flatMap fun minorMood =>
        Mood.values.flatMap fun conclusionMood =>
          Modality.values.flatMap fun major =>
            Modality.values.flatMap fun minor =>
              Modality.values.map fun conclusion =>
                ⟨figure, ⟨majorMood, major⟩, ⟨minorMood, minor⟩, ⟨conclusionMood, conclusion⟩⟩

/-- What an enumeration has kept so far, and the formulas it has seen. -/
structure Progress where
  kept : Array Syllogism
  seen : Std.HashSet Formula

namespace Progress

/-- Nothing kept and nothing seen. -/
def start : Progress := ⟨#[], ∅⟩

/-- Whether a bound on the number of entries is reached. -/
def full (bound : Option Nat) (progress : Progress) : Bool :=
  match bound with
  | none => false
  | some bound => bound ≤ progress.kept.size

/-- Goes on with one construction: nothing more is built once the bound is
reached, and with `distinct` a formula that was seen is not kept again. -/
def extend (bound : Option Nat) (distinct : Bool) (progress : Progress)
    (construction : Construction) : Progress :=
  if progress.full bound then progress
  else
    let syllogism := construction.build
    if distinct then
      if progress.seen.contains syllogism.formula then progress
      else ⟨progress.kept.push syllogism, progress.seen.insert syllogism.formula⟩
    else ⟨progress.kept.push syllogism, progress.seen⟩

/-- What is kept of some constructions. -/
def keep (bound : Option Nat) (distinct : Bool) (constructions : List Construction) :
    List Syllogism :=
  (constructions.foldl (extend bound distinct) start).kept.toList

end Progress

/-- The syllogisms of the enumeration up to a bound on their number. -/
def enumerate (bound : Option Nat) (distinct : Bool) : List Syllogism :=
  Progress.keep bound distinct Construction.values

/-- Every so many entries of a list, beginning with the first. -/
def everyNth {α : Type} (stride : Nat) (entries : List α) : List α :=
  entries.zipIdx.filterMap fun (entry, place) => if place % stride = 0 then some entry else none

namespace Selection

/-- How many entries the selection can ask for before it skips and strides,
counted no further than counts go. -/
def bound (selection : Selection) : Option Nat :=
  selection.limit.map fun limit =>
    min maxCount (min maxCount (limit * selection.stride) + selection.skip)

/-- The selected part of a list of entries. -/
def pick {α : Type} (selection : Selection) (entries : List α) : List α :=
  let kept := everyNth selection.stride (entries.drop selection.skip)
  match selection.limit with
  | none => kept
  | some limit => kept.take limit

/-- The selected syllogisms in the order of enumeration. -/
def syllogisms (selection : Selection) : Except SelectionError (List Syllogism) :=
  if selection.stride = 0 then .error .strideZero
  else
    .ok (selection.pick (enumerate selection.bound selection.distinct))

end Selection

end Syllogistic
