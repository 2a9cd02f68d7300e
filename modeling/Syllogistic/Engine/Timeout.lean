import Syllogistic.Engine.Kind
import Syllogistic.Number.Binary64

/-!
# Time limits

An engine gets its share of the base limit, computed in double precision and
rounded down, but never less than a second: a limit of zero means none at all. A
process that does not stop by itself is killed at its hard deadline, which is
the limit or twice the limit, counted no further than counts of seconds go.
-/

namespace Syllogistic

/-- The largest number of seconds a limit can have. -/
def maxSeconds : Nat := UInt64.size - 1

namespace Engine

/-- The share of an engine as a double. -/
def modifier (engine : Engine) : Number.Binary64 :=
  .nearest engine.share.1 engine.share.2

/-- The time limit of an engine in seconds. -/
def timeout (engine : Engine) (base : Nat) : Nat :=
  if base = 0 then 0
  else max 1 (min maxSeconds ((Number.Binary64.ofNat base).mul engine.modifier).floor)

/-- How many times its time limit an engine may run before it is killed. The two
engines that heed the limit themselves get twice as long. -/
def patience : Engine → Nat
  | mleanCop | leo => 2
  | mleanTap | tpg => 1

/-- The hard deadline in seconds of a call with a time limit; none without one. -/
def deadline (engine : Engine) (timeout : Nat) : Option Nat :=
  if timeout = 0 then none else some (min maxSeconds (timeout * engine.patience))

/-- The engine's share in tenths, which every share is a whole number of. -/
def tenths (engine : Engine) : Nat :=
  engine.share.1 * 10 / engine.share.2

/-- The engine's share with one decimal place. -/
def shareOnePlace (engine : Engine) : String :=
  toString (engine.tenths / 10) ++ "." ++ toString (engine.tenths % 10)

/-- The engine's share with a decimal place only where it is needed. -/
def shareShort (engine : Engine) : String :=
  if engine.tenths % 10 = 0 then toString (engine.tenths / 10) else engine.shareOnePlace

end Engine

end Syllogistic
