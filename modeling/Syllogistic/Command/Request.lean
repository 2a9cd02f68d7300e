import Syllogistic.Settings.Basic
import Syllogistic.Syllogism.Enumeration

/-!
# What the program can be asked for

There are four commands: write a formula set, show one syllogism, run a batch,
and list the engines. What a run is told on the command line goes before what
its settings file says, and that before the usual settings.
-/

namespace Syllogistic.Command

/-- How answers are written. -/
inductive Format where
  | text
  | json
  deriving DecidableEq, Repr

/-- What a run is told on the command line. -/
structure RunOptions where
  /-- The path of the settings file. -/
  settings : Option String := none
  ranks : Option Nat := none
  base : Option Nat := none
  formulas : Option String := none
  output : Option String := none
  deriving DecidableEq, Repr

/-- The settings with what the command line says instead. -/
def RunOptions.override (options : RunOptions) (settings : Settings) : Settings :=
  { settings with
    ranks := options.ranks.or settings.ranks
    base := options.base.getD settings.base
    formulas := options.formulas.getD settings.formulas
    output := options.output.getD settings.output }

/-- What is to be done. -/
inductive Task where
  | generate (selection : Selection) (path : String)
  | show (code : String)
  | run (options : RunOptions)
  | listEngines (detailed : Bool)
  deriving DecidableEq, Repr

/-- What is to be done and how the answer is written. -/
structure Request where
  format : Format
  task : Task
  deriving DecidableEq, Repr

end Syllogistic.Command
