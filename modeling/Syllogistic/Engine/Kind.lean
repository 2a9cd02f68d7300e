import Syllogistic.Fault
import Syllogistic.Text.Casing

/-!
# Engines, logics and domains

The four engines, the modal logics and quantification domains they may be asked
to reason in, and which engine supports which. A logic or a domain that an
engine does not support is refused when the engine is set up, the logic before
the domain.
-/

namespace Syllogistic

/-- The modal logic an engine reasons in. -/
inductive Logic where
  | k
  | d
  | t
  | s4
  | s5
  | multi
  deriving DecidableEq, Repr, Inhabited

/-- How the domains of quantification of the worlds are related. -/
inductive Domain where
  | const
  | cumul
  | vary
  | decr
  deriving DecidableEq, Repr, Inhabited

/-- A theorem prover for modal formulas. -/
inductive Engine where
  | mleanCop
  | mleanTap
  | leo
  | tpg
  deriving DecidableEq, Repr, Inhabited

namespace Logic

def values : List Logic := [k, d, t, s4, s5, multi]

def name : Logic → String
  | k => "k"
  | d => "d"
  | t => "t"
  | s4 => "s4"
  | s5 => "s5"
  | multi => "multi"

/-- The logic with exactly this name. -/
def ofName? (text : String) : Option Logic :=
  values.find? (·.name == text)

end Logic

namespace Domain

def values : List Domain := [const, cumul, vary, decr]

def name : Domain → String
  | const => "const"
  | cumul => "cumul"
  | vary => "vary"
  | decr => "decr"

/-- The domain with exactly this name. -/
def ofName? (text : String) : Option Domain :=
  values.find? (·.name == text)

end Domain

namespace Engine

/-- All engines, in the order of a roster. -/
def values : List Engine := [mleanCop, mleanTap, leo, tpg]

/-- The name in reports. -/
def name : Engine → String
  | mleanCop => "MleanCoP"
  | mleanTap => "MleanTAP"
  | leo => "LEO-III"
  | tpg => "TPG"

/-- The names, in lower case, by which an engine is called. -/
def aliases : Engine → List String
  | mleanCop => ["mleancop"]
  | mleanTap => ["mleantap"]
  | leo => ["leo3", "leo-iii", "leoiii"]
  | tpg => ["tpg"]

/-- The engine with one of these names, in any case. -/
def ofName? (text : String) : Option Engine :=
  values.find? (·.aliases.contains (Text.lower text))

/-- The logics an engine supports, in the order they are listed. -/
def logics : Engine → List Logic
  | mleanCop => [.d, .t, .s4, .s5, .multi]
  | mleanTap => [.d, .t, .s4, .s5]
  | leo => [.k, .t, .d, .s4, .s5]
  | tpg => [.s5]

/-- The domains an engine supports, in the order they are listed. -/
def domains : Engine → List Domain
  | mleanCop | mleanTap => [.const, .cumul, .vary]
  | leo => [.const, .cumul, .vary, .decr]
  | tpg => [.const]

/-- The share of the base time limit that an engine is granted, as a fraction. -/
def share : Engine → Nat × Nat
  | mleanCop | tpg => (1, 1)
  | mleanTap => (4, 5)
  | leo => (3, 5)

end Engine

/-- Why a name of an engine, a logic or a domain is not understood. -/
inductive EngineNameError where
  | unknownEngine (text : String)
  | unknownLogic (text : String)
  | unknownDomain (text : String)
  deriving DecidableEq, Repr

def EngineNameError.message : EngineNameError → String
  | unknownEngine text => configurationFault ("Unknown prover: " ++ text)
  | unknownLogic text =>
    configurationFault ("Value '" ++ text ++ "' is not recognized as 'logic' value")
  | unknownDomain text =>
    configurationFault ("Value '" ++ text ++ "' is not recognized as 'domain' value")

/-- Reads an engine by one of its names. -/
def Engine.parse (text : String) : Except EngineNameError Engine :=
  match ofName? text with
  | some engine => .ok engine
  | none => .error (.unknownEngine text)

/-- Reads a logic by its name in any case. -/
def Logic.parse (text : String) : Except EngineNameError Logic :=
  match ofName? (Text.lower text) with
  | some logic => .ok logic
  | none => .error (.unknownLogic text)

/-- Reads a domain by its name in any case. -/
def Domain.parse (text : String) : Except EngineNameError Domain :=
  match ofName? (Text.lower text) with
  | some domain => .ok domain
  | none => .error (.unknownDomain text)

/-- Why an engine cannot be set up. -/
inductive UnsupportedError where
  | logic (engine : Engine) (logic : Logic)
  | domain (engine : Engine) (domain : Domain)
  deriving DecidableEq, Repr

def UnsupportedError.message : UnsupportedError → String
  | logic engine asked =>
    configurationFault (engine.name ++ ": logic '" ++ asked.name ++ "' is not supported")
  | domain engine asked =>
    configurationFault (engine.name ++ ": domain '" ++ asked.name ++ "' is not supported")

end Syllogistic
