import Syllogistic.Collective.Call

/-!
# Members at work

A crew is a network with members that each have something to do on it. One step
of one member sends, takes or puts aside a single frame; a member that is done
gives up its endpoints. A schedule is nothing but an order of such steps. A crew
can also take turns: in each round every member makes all the steps it can.
-/

namespace Syllogistic.Collective

/-- A member in the middle of its work. -/
structure Runner (ρ : Type) where
  endpoints : List Endpoint
  call : Call ρ
  /-- Whether the member is done and has given up its endpoints. -/
  gone : Bool := false

/-- Members at work on a network. -/
structure Crew (ρ : Type) where
  network : Network
  runners : List (Runner ρ)

namespace Runner

variable {ρ : Type}

/-- The network once the member has given up its endpoints. -/
def leave (runner : Runner ρ) (network : Network) : Network :=
  runner.endpoints.foldl Network.leave network

/-- Whether the member can make a step. -/
def ready (runner : Runner ρ) (network : Network) : Bool :=
  match runner.call.result? with
  | some _ => !runner.gone
  | none => (runner.call.step network).2.isSome

/-- One step of a member: it sends, takes or puts aside a frame, or leaves once it
is done. A member that has to wait stays as it is. -/
def advance (runner : Runner ρ) (network : Network) : Network × Runner ρ :=
  match runner.call.result? with
  | some _ =>
    if runner.gone then (network, runner)
    else (runner.leave network, { runner with gone := true })
  | none =>
    match runner.call.step network with
    | (network, some call) => (network, { runner with call })
    | (network, none) => (network, runner)

/-- All the steps that a member can make: it goes on until it has to wait or is
done, and then it leaves. -/
def settle (runner : Runner ρ) (network : Network) : Network × Runner ρ :=
  if runner.gone then (network, runner)
  else
    match runner.call.poll network with
    | (network, call) =>
      match call.result? with
      | some _ => (runner.leave network, { runner with call, gone := true })
      | none => (network, { runner with call })

/-- All the steps that some members can make, one member after the other. -/
def settleAll (network : Network) : List (Runner ρ) → Network × List (Runner ρ)
  | [] => (network, [])
  | runner :: rest =>
    match runner.settle network with
    | (network, runner) =>
      match settleAll network rest with
      | (network, rest) => (network, runner :: rest)

end Runner

namespace Crew

variable {ρ : Type}

/-- Whether a member can make a step. -/
def ready (crew : Crew ρ) (member : Nat) : Bool :=
  crew.runners[member]?.any (·.ready crew.network)

/-- One step of one member. -/
def advance (crew : Crew ρ) (member : Nat) : Crew ρ :=
  match crew.runners[member]? with
  | none => crew
  | some runner =>
    match runner.advance crew.network with
    | (network, runner) => ⟨network, crew.runners.set member runner⟩

/-- The steps of a schedule. -/
def follow (crew : Crew ρ) (schedule : List Nat) : Crew ρ :=
  schedule.foldl advance crew

/-- All the steps that every member can make in its turn. -/
def round (crew : Crew ρ) : Crew ρ :=
  match Runner.settleAll crew.network crew.runners with
  | (network, runners) => ⟨network, runners⟩

/-- Whether every member has left. -/
def finished (crew : Crew ρ) : Bool :=
  crew.runners.all (·.gone)

/-- Rounds until every member has left, or so many. -/
def rounds : Nat → Crew ρ → Crew ρ
  | 0, crew => crew
  | n + 1, crew => if crew.finished then crew else crew.round.rounds n

/-- What a member has come to, if it is done. -/
def resultOf (crew : Crew ρ) (member : Nat) : Option ρ :=
  crew.runners[member]?.bind (·.call.result?)

/-- What the members have come to, so far. -/
def results (crew : Crew ρ) : List ρ :=
  crew.runners.filterMap (·.call.result?)

end Crew

end Syllogistic.Collective
