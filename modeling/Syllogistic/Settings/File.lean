import Syllogistic.Settings.Basic
import Syllogistic.Toml.Document

/-!
# Settings files

Settings are written as a TOML document. Keys that mean nothing are passed over
and settings that are not given keep their usual values; a value of the wrong
type is refused. Engines go by any of their names, logics and domains only by
their exact ones.
-/

namespace Syllogistic.SettingsFile

open Toml (Value Entries Fault)

/-- How a value is understood. -/
abbrev Meaning (α : Type) := Value → Option α

def text : Meaning String
  | .text content => some content
  | _ => none

/-- A whole number that is not negative. -/
def count : Meaning Nat
  | .integer n => if 0 ≤ n then some n.toNat else none
  | _ => none

/-- The items of an array, or the tables under a repeated header. -/
def items : Meaning (List Value)
  | .array values => some values
  | .tables rows => some (rows.map (.table .header ·))
  | _ => none

/-- The items of an array, each understood in one way. -/
def list {α : Type} (meaning : Meaning α) : Meaning (List α) := fun value => do
  (← items value).mapM meaning

/-- Whether a value is a table or an array with nothing in it. -/
def isEmpty : Value → Bool
  | .array [] | .table _ [] => true
  | _ => false

/-- One of some names, as a text, or as a table whose only key is the name and
has nothing under it. -/
def choice {α : Type} (ofName? : String → Option α) : Meaning α
  | .text name => ofName? name
  | .table _ [(name, value)] => if isEmpty value then ofName? name else none
  | _ => none

/-- The value of a key, if the key is there. -/
def optional {α : Type} (entries : Entries) (key : String) (meaning : Meaning α) :
    Except Fault (Option α) :=
  match Entries.get? entries key with
  | none => .ok none
  | some value =>
    match meaning value with
    | some a => .ok (some a)
    | none => .error (.wrongType key)

/-- The value of a key, or the usual one. -/
def setting {α : Type} (entries : Entries) (key : String) (meaning : Meaning α) (usual : α) :
    Except Fault α :=
  (optional entries key meaning).map (·.getD usual)

/-- The keys of an engine of the roster, in the order in which an array gives
their values. -/
def engineKeys : List String :=
  ["kind", "executable", "install_dir", "args", "logic", "domain"]

/-- Reads the entries of one engine of the roster. -/
def readEngine (entries : Entries) : Except Fault EngineSettings := do
  match ← optional entries "kind" fun value => (text value).bind Engine.ofName? with
  | none => throw (.missingKey "kind")
  | some engine =>
    return {
      engine
      executable := ← optional entries "executable" text
      directory := ← optional entries "install_dir" text
      arguments := ← optional entries "args" (list text)
      logic := ← optional entries "logic" (choice Logic.ofName?)
      domain := ← optional entries "domain" (choice Domain.ofName?) }

/-- An engine of the roster, as a table or as an array of the values of its
first few keys. -/
def engineMeaning : Meaning EngineSettings
  | .table _ entries => (readEngine entries).toOption
  | .array values => (readEngine (engineKeys.zip values)).toOption
  | _ => none

/-- Reads the settings that the root table of a document gives. -/
def ofEntries (entries : Entries) : Except Fault Settings := do
  let usual : Settings := {}
  return {
    base := ← setting entries "base_timeout" count usual.base
    policy := {
      proved := ← setting entries "theorem_threshold" count usual.policy.proved
      refuted := ← setting entries "non_theorem_threshold" count usual.policy.refuted }
    logic := ← setting entries "logic" (choice Logic.ofName?) usual.logic
    domain := ← setting entries "domain" (choice Domain.ofName?) usual.domain
    ranks := ← optional entries "processes" count
    formulas := ← setting entries "formula_set_path" text usual.formulas
    output := ← setting entries "output_path" text usual.output
    roster := ← setting entries "engines" (list engineMeaning) usual.roster }

/-- Reads a settings file. -/
def parse (document : String) : Except Fault Settings := do
  ofEntries (← Toml.read document)

end Syllogistic.SettingsFile
