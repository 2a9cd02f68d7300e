import Syllogistic.Batch.Run

/-!
# Settings of a run

What a run is asked to do: time limit, thresholds, logic and domain, the number
of ranks, the roster of engines, and where formulas are read and results
written. Settings are checked as a whole before anything is read or started.
What an engine of the roster leaves open comes from the settings of the run, and
what those leave open from the engine's usual installation.
-/

namespace Syllogistic

/-- One engine of a roster. -/
structure EngineSettings where
  engine : Engine
  executable : Option String := none
  directory : Option String := none
  arguments : Option (List String) := none
  logic : Option Logic := none
  domain : Option Domain := none
  deriving DecidableEq, Repr

/-- What a run is asked to do. -/
structure Settings where
  /-- The base time limit in seconds. -/
  base : Nat := 10
  policy : Policy := {}
  logic : Logic := .s5
  domain : Domain := .const
  /-- The number of ranks; one group if absent. -/
  ranks : Option Nat := none
  formulas : String := "formulas.bin"
  output : String := "results.csv"
  /-- The engines; the place in the roster is the role. -/
  roster : List EngineSettings := Engine.values.map fun engine => { engine }
  deriving DecidableEq, Repr

/-- Why settings make no run. -/
inductive SettingsError where
  | zeroThreshold
  | emptyRoster
  | repeatedEngine (engine : Engine)
  | layout (error : LayoutError)
  deriving DecidableEq, Repr

def SettingsError.message : SettingsError → String
  | zeroThreshold => configurationFault "thresholds must be at least 1"
  | emptyRoster => configurationFault "engine roster is empty"
  | repeatedEngine engine =>
    configurationFault ("engine " ++ engine.name ++ " is listed more than once")
  | layout error => error.message

/-- Why an engine of the roster cannot be set up. -/
inductive RosterError where
  | noEngine (roleIndex : Nat)
  | unsupported (error : UnsupportedError)
  deriving DecidableEq, Repr

def RosterError.message : RosterError → String
  | noEngine roleIndex =>
    configurationFault ("no engine configured for role " ++ toString roleIndex)
  | unsupported error => error.message

/-- The first member of a list that occurred before. -/
def firstRepeated {α : Type} [BEq α] (before : List α) : List α → Option α
  | [] => none
  | a :: rest => if before.contains a then some a else firstRepeated (a :: before) rest

namespace Settings

/-- The number of ranks of the run. -/
def rankCount (settings : Settings) : Nat :=
  settings.ranks.getD settings.roster.length

/-- The names of the engines, by role. -/
def engineNames (settings : Settings) : List String :=
  settings.roster.map (·.engine.name)

/-- Whether the settings make a run; the first fault in the order of the causes
is reported. -/
def check (settings : Settings) : Except SettingsError Unit :=
  if settings.policy.proved = 0 ∨ settings.policy.refuted = 0 then .error .zeroThreshold
  else if settings.roster.isEmpty then .error .emptyRoster
  else
    match firstRepeated [] (settings.roster.map (·.engine)) with
    | some engine => .error (.repeatedEngine engine)
    | none =>
      match (Layout.mk settings.rankCount settings.roster.length).check with
      | .error cause => .error (.layout cause)
      | .ok () => .ok ()

/-- The engine of a role with its setup. -/
def setupOf (settings : Settings) (roleIndex : Nat) : Except RosterError (Engine × Setup) :=
  match settings.roster[roleIndex]? with
  | none => .error (.noEngine roleIndex)
  | some asked =>
    let usual := Setup.standard asked.engine
    .ok (asked.engine, {
      executable := asked.executable.getD usual.executable
      directory := asked.directory.getD usual.directory
      arguments := asked.arguments.getD usual.arguments
      logic := some (asked.logic.getD settings.logic)
      domain := some (asked.domain.getD settings.domain) })

/-- The prover of a role on a rank. -/
def prover (settings : Settings) (roleIndex rank : Nat) : Except RosterError Prover :=
  match settings.setupOf roleIndex with
  | .error error => .error error
  | .ok (engine, setup) => (Prover.create engine setup rank).mapError .unsupported

/-- The roster of the run, on a host. -/
def rosterOn (settings : Settings) (host : Host) : Batch.Roster RosterError where
  names := settings.engineNames
  build roleIndex rank := (settings.prover roleIndex rank).map (·.backend host)

/-- The plan of the run, if the settings make one. -/
def plan (settings : Settings) (host : Host) :
    Except SettingsError (Batch.Plan RosterError) :=
  match settings.check with
  | .error error => .error error
  | .ok () =>
    (Batch.Plan.make (settings.rosterOn host) settings.rankCount settings.base
      settings.policy).mapError .layout

end Settings

end Syllogistic
