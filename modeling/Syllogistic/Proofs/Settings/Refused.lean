import Mathlib.Data.Nat.Find
import Syllogistic.Proofs.Batch.Launch
import Syllogistic.Proofs.Batch.Seats
import Syllogistic.Proofs.Settings.Accepted

/-!
# What can be refused once settings make a run

Settings that make a run may still ask an engine for a logic or a domain that it does not
support. That is found when the ranks are given their seats, one after the other: the first
ranks have the roles in their order, so the first seat that cannot be given is that of the
first role whose engine is refused. A role that no rank has is not looked at, which is why a
single rank may run with settings that only its engine supports.

Engines are asked by ranks, and the ranks begin their work together when all have their seats
and endpoints. So where an engine is refused, there is no state of the ranks in which any of
them has asked its engine anything. And nothing else can be refused: every rank has its place,
every place a role of the roster, and every rank its endpoints.

What is asked for before any of this is memory for the list of all ranks' engines. Without it
the run does not even come to the first seat: the check of settings accepts any number of ranks
that fills the groups, also one for which that list has no addresses. Where the list is granted,
it depends on nothing else whether the run is refused what was asked for.
-/

namespace Syllogistic

open Collective

namespace Settings

/-- The logic that an engine of the roster is to reason in. -/
def logicOf (settings : Settings) (entry : EngineSettings) : Logic :=
  entry.logic.getD settings.logic

/-- The domain that an engine of the roster is to reason in. -/
def domainOf (settings : Settings) (entry : EngineSettings) : Domain :=
  entry.domain.getD settings.domain

/-- The engine of a role does not support what it is asked for; of a logic and a domain that it
does not support it is the logic that counts. -/
inductive Refuses (settings : Settings) (role : Nat) : UnsupportedError → Prop
  | logic {entry : EngineSettings} : settings.roster[role]? = some entry →
      settings.logicOf entry ∉ entry.engine.logics →
      Refuses settings role (.logic entry.engine (settings.logicOf entry))
  | domain {entry : EngineSettings} : settings.roster[role]? = some entry →
      settings.logicOf entry ∈ entry.engine.logics →
      settings.domainOf entry ∉ entry.engine.domains →
      Refuses settings role (.domain entry.engine (settings.domainOf entry))

/-- The number of roles that some rank has. -/
def active (settings : Settings) : Nat := min settings.rankCount settings.roster.length

/-- The first role of a rank whose engine is refused. -/
structure FirstRefusal (settings : Settings) (role : Nat) (error : UnsupportedError) : Prop where
  active : role < settings.active
  refuses : settings.Refuses role error
  before : ∀ earlier < role, ∀ other, ¬settings.Refuses earlier other

variable {settings : Settings} {role rank : Nat} {error : UnsupportedError}

theorem prover_eq_error (h : settings.Refuses role error) (rank : Nat) :
    settings.prover role rank = .error (.unsupported error) := by
  cases h with
  | @logic entry hentry hlogic =>
      rw [prover, setupOf, hentry]
      simp only [Prover.create, Setup.resolve, Option.getD_some]
      rw [if_pos (show entry.logic.getD settings.logic ∉ _ from hlogic)]
      rfl
  | @domain entry hentry hlogic hdomain =>
      rw [prover, setupOf, hentry]
      simp only [Prover.create, Setup.resolve, Option.getD_some]
      rw [if_neg (not_not_intro (show entry.logic.getD settings.logic ∈ _ from hlogic)),
        if_pos (show entry.domain.getD settings.domain ∉ _ from hdomain)]
      rfl

theorem exists_prover (hrole : role < settings.roster.length)
    (h : ∀ error, ¬settings.Refuses role error) (rank : Nat) :
    ∃ prover, settings.prover role rank = .ok prover := by
  have hentry := List.getElem?_eq_getElem hrole
  generalize settings.roster[role] = entry at hentry
  have hlogic : entry.logic.getD settings.logic ∈ entry.engine.logics :=
    Decidable.not_not.mp fun hnot => h _ (.logic hentry hnot)
  have hdomain : entry.domain.getD settings.domain ∈ entry.engine.domains :=
    Decidable.not_not.mp fun hnot => h _ (.domain hentry hlogic hnot)
  rw [prover, setupOf, hentry]
  simp only [Prover.create, Setup.resolve, Option.getD_some]
  rw [if_neg (not_not_intro hlogic), if_neg (not_not_intro hdomain)]
  exact ⟨_, rfl⟩

theorem exists_firstRefusal (h : ∃ role < settings.active, ∃ error, settings.Refuses role error) :
    ∃ role error, settings.FirstRefusal role error := by
  classical
  obtain ⟨hactive, error, hrefuses⟩ := Nat.find_spec h
  refine ⟨_, error, hactive, hrefuses, fun earlier hearlier other hother => ?_⟩
  exact Nat.find_min h hearlier ⟨Nat.lt_trans hearlier hactive, other, hother⟩

end Settings

/-! ## Errors in what was asked for -/

theorem third_of_append {start rest : String} {letter : Char}
    (h : start.toList[2]? = some letter) : (start ++ rest).toList[2]? = some letter := by
  obtain ⟨hlt, -⟩ := List.getElem?_eq_some_iff.mp h
  rw [String.toList_append, List.getElem?_append_left hlt, h]

/-- Classes of faults are told apart by the third letter of what is told. -/
theorem configurationFault_ne (cause other : String) :
    alignmentFault other ≠ configurationFault cause ∧
      communicationFault other ≠ configurationFault cause ∧
      "encoding error: " ++ other ≠ configurationFault cause := by
  have hthird : (configurationFault cause).toList[2]? = some 'n' := third_of_append (by decide)
  have halignment : (alignmentFault other).toList[2]? = some 'i' := third_of_append (by decide)
  have hcommunication : (communicationFault other).toList[2]? = some 'm' :=
    third_of_append (by decide)
  have hencoding : ("encoding error: " ++ other).toList[2]? = some 'c' :=
    third_of_append (by decide)
  refine ⟨fun h => ?_, fun h => ?_, fun h => ?_⟩ <;> simp [h, hthird] at *

namespace Batch

variable {ε : Type}

/-- Errors in what was asked for, and not in how the ranks worked. -/
def RunError.ofRequest : RunError ε → Bool
  | .layout _ | .refused _ => true
  | .rank _ | .noRecords => false

theorem RankError.message_ne (error : RankError) (cause : String) :
    error.message ≠ configurationFault cause := by
  have hother := configurationFault_ne cause
  cases error with
  | collective error =>
      cases error with
      | scatterCount => exact (hother _).1
      | undecodable => exact (hother _).2.2
      | _ => exact (hother _).2.1
  | alignment error => cases error <;> exact (hother _).1
  | noExecutive | overlong => exact (hother _).2.1

/-- An error in what was asked for is one that is told as a fault in it. -/
theorem RunError.ofRequest_iff {error : RunError RosterError} :
    error.ofRequest ↔ ∃ cause, error.message RosterError.message = configurationFault cause := by
  cases error with
  | layout error => exact iff_of_true rfl (by cases error <;> exact ⟨_, rfl⟩)
  | refused error =>
      refine iff_of_true rfl ?_
      cases error with
      | noEngine => exact ⟨_, rfl⟩
      | unsupported error => cases error <;> exact ⟨_, rfl⟩
  | rank error => exact iff_of_false nofun fun ⟨cause, h⟩ => error.message_ne cause h
  | noRecords =>
      exact iff_of_false nofun fun ⟨cause, h⟩ => (configurationFault_ne cause _).2.1 h

namespace Plan

/-- The states that the ranks of a run come through, on any schedule and when they take turns. It
is in these that engines are asked. -/
def Underway (plan : Plan ε) (formulas : List Syllogism) (ranks : Ranks) : Prop :=
  ∃ seats fabric, plan.seats (List.range plan.layout.total) = .ok seats ∧
    Fabric.build plan.layout = .ok fabric ∧
    ((∃ schedule, ranks = (plan.start seats fabric formulas).follow schedule) ∨
      ∃ rounds, ranks = (plan.start seats fabric formulas).rounds rounds)

/-- Nothing that the ranks of a run need is refused, but for memory. -/
structure Equipped (plan : Plan ε) : Prop where
  place : ∀ rank < plan.layout.total, Position.place plan.layout rank = .ok ⟨plan.layout, rank⟩
  engine : ∀ rank < plan.layout.total, ∃ backend,
    plan.roster.build (⟨plan.layout, rank⟩ : Position).roleIndex rank = .ok backend
  seats : ∃ seats, plan.seats (List.range plan.layout.total) = .ok seats
  fabric : ∃ fabric, Fabric.build plan.layout = .ok fabric ∧
    ∀ memory after : Memory, memory.serve (Fabric.requests plan.layout) = .ok after →
      Fabric.setUp memory plan.layout = .ok (fabric, after)

variable {plan : Plan ε} {formulas : List Syllogism} {rank : Nat}

theorem seat_of_refused (hcheck : plan.layout.check = .ok ()) (hrank : rank < plan.layout.total)
    {cause : ε}
    (hbuild : plan.roster.build (⟨plan.layout, rank⟩ : Position).roleIndex rank = .error cause) :
    plan.seat rank = .error (.refused cause) := by
  rw [seat, Position.place_of_check hcheck hrank]
  dsimp only
  rw [hbuild]

theorem seats_eq_error {before after : List Nat} {cause : RunError ε}
    (hbefore : ∀ other ∈ before, ∃ seat, plan.seat other = .ok seat)
    (h : plan.seat rank = .error cause) :
    plan.seats (before ++ rank :: after) = .error cause := by
  induction before with
  | nil => rw [List.nil_append, seats, h]
  | cons first before ih =>
      obtain ⟨⟨seat, hseat⟩, hrest⟩ := List.forall_mem_cons.mp hbefore
      rw [List.cons_append, seats, hseat]
      dsimp only
      rw [ih hrest]

theorem exists_seats {ranks : List Nat} (h : ∀ rank ∈ ranks, ∃ seat, plan.seat rank = .ok seat) :
    ∃ seats, plan.seats ranks = .ok seats := by
  induction ranks with
  | nil => exact ⟨[], rfl⟩
  | cons first rest ih =>
      obtain ⟨⟨seat, hseat⟩, hrest⟩ := List.forall_mem_cons.mp h
      obtain ⟨seats, hseats⟩ := ih hrest
      exact ⟨seat :: seats, by rw [Plan.seats, hseat, hseats]⟩

theorem range_eq_append {role total : Nat} (h : role < total) :
    List.range total =
      List.range role ++ role :: List.range' (role + 1) (total - role - 1) := by
  have hsplit := @List.range'_append_1 0 role (total - role)
  rw [Nat.zero_add, Nat.add_sub_cancel' (Nat.le_of_lt h)] at hsplit
  rw [List.range_eq_range', List.range_eq_range', ← List.range'_succ,
    Nat.sub_add_cancel (Nat.sub_pos_of_lt h)]
  exact hsplit.symm

theorem ofRequest_summarize {ranks : Ranks} {error : RunError ε}
    (h : plan.summarize ranks = .error error) : error.ofRequest = false := by
  rw [summarize] at h
  split at h
  · cases h
    rfl
  · dsimp only at h
    split at h <;> cases h
    rfl

/-- Ranks that have what they need come to work, and nothing but their work can fail. -/
theorem Equipped.run_eq_summarize (h : plan.Equipped) :
    ∃ ranks, plan.Underway formulas ranks ∧ plan.run formulas = plan.summarize ranks := by
  obtain ⟨seats, hseats⟩ := h.seats
  obtain ⟨fabric, hfabric, -⟩ := h.fabric
  refine ⟨_, ⟨seats, fabric, hseats, hfabric, .inr ⟨plan.enoughRounds, rfl⟩⟩, ?_⟩
  rw [run, hseats, hfabric]
  rfl

theorem equipped (hcheck : plan.layout.check = .ok ())
    (hengine : ∀ rank < plan.layout.total, ∃ backend,
      plan.roster.build (⟨plan.layout, rank⟩ : Position).roleIndex rank = .ok backend) :
    plan.Equipped := by
  obtain ⟨fabric, hfabric, -⟩ := Fabric.build_eq hcheck
  refine ⟨fun rank hrank => Position.place_of_check hcheck hrank, hengine,
    exists_seats fun rank hrank => ?_, fabric, hfabric, ?_⟩
  · have hlt := List.mem_range.mp hrank
    obtain ⟨backend, hbackend⟩ := hengine rank hlt
    exact ⟨_, seat_of_build hcheck hlt hbackend⟩
  · intro memory after hserve
    rw [Fabric.setUp_eq hfabric, hserve]
    rfl

end Plan

end Batch

namespace Settings

open Batch

variable {settings : Settings} {host : Host} {role rank : Nat}
  {error : UnsupportedError}

/-! ## The seats of a run -/

theorem width_planOn : (settings.planOn host).layout.width = settings.active :=
  Nat.min_comm _ _

theorem build_planOn : (settings.planOn host).roster.build role rank =
    (settings.prover role rank).map (·.backend host) := rfl

theorem Sound.grid_planOn (h : settings.Sound) : (settings.planOn host).layout.Grid := h.grid

theorem Sound.check_planOn (h : settings.Sound) : (settings.planOn host).layout.check = .ok () :=
  Layout.check_eq_ok_iff.mpr h.grid

theorem seat_eq_error (h : settings.Sound) (hactive : role < settings.active)
    (hrefuses : settings.Refuses role error) :
    (settings.planOn host).seat role = .error (.refused (.unsupported error)) := by
  have htotal : role < settings.rankCount := Nat.lt_of_lt_of_le hactive (Nat.min_le_left _ _)
  refine Plan.seat_of_refused h.check_planOn htotal ?_
  rw [Layout.Grid.roleIndex_of_lt_width (by rwa [width_planOn]), build_planOn,
    prover_eq_error hrefuses]
  rfl

theorem exists_build (hactive : role < settings.active)
    (h : ∀ error, ¬settings.Refuses role error) (rank : Nat) :
    ∃ backend, (settings.planOn host).roster.build role rank = .ok backend := by
  obtain ⟨prover, hprover⟩ :=
    exists_prover (Nat.lt_of_lt_of_le hactive (Nat.min_le_right _ _)) h rank
  rw [build_planOn, hprover]
  exact ⟨_, rfl⟩

theorem equipped_planOn (h : settings.Sound)
    (hnone : ∀ role < settings.active, ∀ error, ¬settings.Refuses role error) :
    (settings.planOn host).Equipped := by
  refine Plan.equipped h.check_planOn fun rank hrank => ?_
  have hactive := h.grid_planOn.roleIndex_lt_width hrank
  rw [width_planOn] at hactive
  exact exists_build hactive (hnone _ hactive) rank

theorem seats_eq_error (h : settings.Sound) (hfirst : settings.FirstRefusal role error) :
    (settings.planOn host).seats (List.range (settings.planOn host).layout.total) =
      .error (.refused (.unsupported error)) := by
  have htotal : role < settings.rankCount :=
    Nat.lt_of_lt_of_le hfirst.active (Nat.min_le_left _ _)
  rw [Plan.range_eq_append (show role < (settings.planOn host).layout.total from htotal)]
  refine Plan.seats_eq_error (fun earlier hmem => ?_) (seat_eq_error h hfirst.active hfirst.refuses)
  -- A rank before that has a role before that, and its engine is not refused.
  have hearlier : earlier < role := List.mem_range.mp hmem
  have hactive : earlier < settings.active := Nat.lt_trans hearlier hfirst.active
  have hengine : ∃ backend, (settings.planOn host).roster.build
      (⟨(settings.planOn host).layout, earlier⟩ : Position).roleIndex earlier = .ok backend := by
    rw [Layout.Grid.roleIndex_of_lt_width (by rwa [width_planOn])]
    exact exists_build hactive (hfirst.before earlier hearlier) earlier
  obtain ⟨backend, hbackend⟩ := hengine
  exact ⟨_, seat_of_build h.check_planOn (Nat.lt_trans hearlier htotal) hbackend⟩

/-- Settings make a run exactly if they are sound. Where the list of its engines is granted, a
run is refused what was asked for exactly if the engine of a role that some rank has does not
support it; then it is the first such role that is told of, and no rank ever began. Otherwise the
ranks have all that they need; and if all memory is granted, the run comes to what their work
comes to. -/
theorem refusals_precede_work (settings : Settings) (host : Host) :
    ((∃ plan, settings.plan host = .ok plan) ↔ settings.Sound) ∧
      ∀ plan, settings.plan host = .ok plan → ∀ (memory : Memory) (formulas : List Syllogism),
        (memory.Serves [plan.enginesRequest] →
          ((∃ error, plan.launch memory formulas = .ok (.error error) ∧ error.ofRequest) ↔
            ∃ role < settings.active, ∃ error, settings.Refuses role error) ∧
          ∀ error, plan.launch memory formulas = .ok (.error error) → error.ofRequest →
            (∃ role cause, settings.FirstRefusal role cause ∧
              error = .refused (.unsupported cause)) ∧
            ¬∃ ranks, plan.Underway formulas ranks) ∧
        ((∀ role < settings.active, ∀ error, ¬settings.Refuses role error) →
          plan.Equipped ∧ (memory.Serves plan.requests → ∃ ranks, plan.Underway formulas ranks ∧
            plan.launch memory formulas = .ok (plan.summarize ranks))) := by
  constructor
  · simp only [plan_eq_ok_iff, exists_and_left, exists_eq, and_true]
  intro plan hplan memory formulas
  obtain ⟨hsound, rfl⟩ := plan_eq_ok_iff.mp hplan
  have hequipped : (∀ role < settings.active, ∀ error, ¬settings.Refuses role error) →
      (settings.planOn host).Equipped := equipped_planOn hsound
  have hexists : ∀ error, (settings.planOn host).launch memory formulas = .ok (.error error) →
      error.ofRequest → ∃ role < settings.active, ∃ cause, settings.Refuses role cause := by
    intro error hlaunch hrequest
    by_contra hnone
    push Not at hnone
    obtain ⟨ranks, -, hwork⟩ := (hequipped hnone).run_eq_summarize
    rw [Plan.ofRequest_summarize (hwork.symm.trans (Plan.run_eq_of_launch hlaunch))] at hrequest
    cases hrequest
  refine ⟨fun hserves => ⟨⟨?_, ?_⟩, ?_⟩, fun hnone => ⟨hequipped hnone, fun hserves => ?_⟩⟩
  · rintro ⟨error, hlaunch, hrequest⟩
    exact hexists error hlaunch hrequest
  · intro hsome
    obtain ⟨role, cause, hfirst⟩ := exists_firstRefusal hsome
    exact ⟨_, Plan.launch_of_refused hserves (seats_eq_error hsound hfirst) formulas, rfl⟩
  · intro error hlaunch hrequest
    obtain ⟨role, cause, hfirst⟩ := exists_firstRefusal (hexists error hlaunch hrequest)
    have hrefused := Plan.launch_of_refused hserves (seats_eq_error hsound hfirst) formulas
    rw [hlaunch] at hrefused
    refine ⟨⟨role, cause, hfirst, ?_⟩, ?_⟩
    · exact Except.error.inj (Except.ok.inj hrefused)
    · rintro ⟨_, seats, fabric, hseats, -⟩
      rw [seats_eq_error hsound hfirst] at hseats
      cases hseats
  · obtain ⟨ranks, hunderway, hwork⟩ := (hequipped hnone).run_eq_summarize
    exact ⟨ranks, hunderway, (Plan.launch_of_serves hserves formulas).trans (congrArg _ hwork)⟩

/-- Four ranks and two engines, the second of which does not support the logic: two formulas are
put to nobody. -/
theorem refusals_precede_work_two :
    let settings : Settings :=
      { logic := .k, ranks := some 4, roster := [{ engine := .leo }, { engine := .tpg }] }
    let host : Host := ⟨fun _ => .ended ⟨"", "", some 0, 7⟩, fun _ => 8, .ample⟩
    let plan := settings.planOn host
    let formulas : List Syllogism :=
      [⟨.predicate "P", default, "1A"⟩, ⟨.predicate "Q", default, "2A"⟩]
    (settings.plan host = .ok plan ∧ host.memory.Serves [plan.enginesRequest]) ∧
      settings.Refuses 1 (.logic .tpg .k) ∧
      ∃ error, plan.launch host.memory formulas = .ok (.error error) ∧ error.ofRequest ∧
        ¬∃ ranks, plan.Underway formulas ranks := by
  intro settings host plan formulas
  have hsound : settings.Sound :=
    ⟨by decide, by decide, by decide, by decide, .inr ⟨2, by decide, rfl⟩⟩
  have hplan : settings.plan host = .ok plan := plan_eq_ok_iff.mpr ⟨hsound, rfl⟩
  have hserves : host.memory.Serves [plan.enginesRequest] := Memory.serves_ample.mpr (by decide)
  have hentry : settings.roster[1]? = some { engine := .tpg } := rfl
  have hrefuses : settings.Refuses 1 (.logic .tpg .k) := .logic hentry (by decide)
  obtain ⟨hasked, -⟩ := (refusals_precede_work settings host).2 plan hplan host.memory formulas
  obtain ⟨hiff, hrefused⟩ := hasked hserves
  obtain ⟨error, hlaunch, hrequest⟩ := hiff.mpr ⟨1, by decide, _, hrefuses⟩
  exact ⟨⟨hplan, hserves⟩, hrefuses, error, hlaunch, hrequest,
    (hrefused error hlaunch hrequest).2⟩

/-- With as many ranks as a word can count, the check of settings passes, and the run ends for
want of addresses before it comes to the engine that does not support the logic. -/
theorem launch_unaddressable :
    let settings : Settings :=
      { logic := .k, ranks := some 18446744073709551615, roster := [{ engine := .tpg }] }
    settings.rankCount < UInt64.size ∧
      (∃ role < settings.active, ∃ error, settings.Refuses role error) ∧
      ∀ host : Host, settings.plan host = .ok (settings.planOn host) ∧
        ∀ memory : Memory,
          (settings.planOn host).launch memory [] = .error .unaddressable ∧
          ¬∃ error, (settings.planOn host).launch memory [] = .ok (.error error) ∧
            error.ofRequest := by
  intro settings
  have hsound : settings.Sound :=
    ⟨by decide, by decide, by decide, by decide, .inr ⟨_, by decide, (Nat.mul_one _).symm⟩⟩
  have hactive : 0 < settings.active := Nat.lt_min.mpr ⟨by decide, by decide⟩
  have hentry : settings.roster[0]? = some { engine := .tpg } := rfl
  refine ⟨by decide, ⟨0, hactive, _, .logic hentry (by decide)⟩,
    fun host => ⟨plan_eq_ok_iff.mpr ⟨hsound, rfl⟩, fun memory => ?_⟩⟩
  have hrequest : (settings.planOn host).enginesRequest.addressable = false := by
    show (MemoryRequest.items 18446744073709551615 120).addressable = false
    decide
  have hmissing : (settings.planOn host).launch memory [] = .error .unaddressable := by
    rw [Plan.launch, Memory.reserve_unaddressable hrequest]
  refine ⟨hmissing, ?_⟩
  rintro ⟨error, hlaunch, -⟩
  rw [hmissing] at hlaunch
  cases hlaunch

end Settings

end Syllogistic
