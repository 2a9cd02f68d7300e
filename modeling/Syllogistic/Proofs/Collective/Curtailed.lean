import Mathlib.Data.List.Forall2
import Syllogistic.Proofs.Collective.Polling

/-!
# Members that may be broken off

A member that has to keep within a limit is broken off where it would go on without the limit.
Up to there it does the same. So a crew in which nobody has ended with an error is where the
crew without limits is, on any schedule and if the members take turns: a frame that one of the
two sends or takes is the other's frame too. An error is never taken back, so it is enough to
look at the errors at the end, and a crew that ends without any has kept within the limits.
-/

namespace Syllogistic.Collective

theorem exists_of_forall₂ {α β : Type} {R : α → β → Prop} {items : List α} {others : List β}
    (h : List.Forall₂ R items others) {place : Nat} {item : α} (hitem : items[place]? = some item) :
    ∃ other, others[place]? = some other ∧ R item other := by
  induction h generalizing place with
  | nil => cases hitem
  | cons hfirst _ ih =>
      cases place with
      | zero =>
          cases hitem
          exact ⟨_, rfl, hfirst⟩
      | succ place => exact ih hitem

theorem forall₂_set {α β : Type} {R : α → β → Prop} {items : List α} {others : List β}
    (h : List.Forall₂ R items others) {item : α} {other : β} (hitem : R item other)
    (place : Nat) : List.Forall₂ R (items.set place item) (others.set place other) := by
  induction h generalizing place with
  | nil => exact .nil
  | cons hfirst hrest ih =>
      cases place with
      | zero => exact .cons hitem hrest
      | succ place => exact .cons hfirst (ih place)

variable {ε α : Type} {keeps : α → Prop}

namespace Call

/-- A call that does what another one does, or is broken off on the way. Unless it is, what it
ends with satisfies `keeps`. -/
inductive Curtails (keeps : α → Prop) : Call (Except ε α) → Call (Except ε α) → Prop where
  | done (result : Except ε α) (h : ∀ a, result = .ok a → keeps a) :
    Curtails keeps (.done result) (.done result)
  | brokenOff (error : ε) (call : Call (Except ε α)) :
    Curtails keeps (.done (.error error)) call
  | send {short long : Except Error Unit → Call (Except ε α)} (endpoint : Endpoint) (target : Nat)
    (payload : Payload) (h : ∀ sent, Curtails keeps (short sent) (long sent)) :
    Curtails keeps (.send endpoint target payload short) (.send endpoint target payload long)
  | receive {short long : Except Error Payload → Call (Except ε α)} (endpoint : Endpoint)
    (source : Nat) (h : ∀ received, Curtails keeps (short received) (long received)) :
    Curtails keeps (.receive endpoint source short) (.receive endpoint source long)

/-- What is done in the same way before does not matter. -/
theorem curtails_bind {β : Type} (call : ExceptT ε Call β) {short long : β → ExceptT ε Call α}
    (h : ∀ b, (short b).run.Curtails keeps (long b).run) :
    (call >>= short).run.Curtails keeps (call >>= long).run := by
  have hcall : ∀ first : Call (Except ε β),
      (first.andThen (ExceptT.bindCont short)).Curtails keeps
        (first.andThen (ExceptT.bindCont long)) := by
    intro first
    induction first with
    | done result =>
        cases result with
        | error error => exact .done _ nofun
        | ok b => exact h b
    | send endpoint target payload next ih => exact .send _ _ _ ih
    | receive endpoint source next ih => exact .receive _ _ ih
  exact hcall call

namespace Curtails

variable {short long : Call (Except ε α)}

/-- Without an error, the calls have both come to this result, or both to none. -/
theorem result_eq (h : short.Curtails keeps long)
    (hunbroken : ∀ error, short.result? ≠ some (.error error)) :
    short.result? = long.result? := by
  cases h with
  | done result _ => rfl
  | brokenOff error call => exact absurd rfl (hunbroken error)
  | send endpoint target payload _ => rfl
  | receive endpoint source _ => rfl

theorem keeps_of_result (h : short.Curtails keeps long) {a : α}
    (hresult : short.result? = some (.ok a)) : keeps a := by
  cases h with
  | done result hkeeps => exact hkeeps a (Option.some.inj hresult)
  | brokenOff error call => cases hresult
  | send endpoint target payload _ => cases hresult
  | receive endpoint source _ => cases hresult

/-- One step is the same for both, on the network and for what is left of the calls. -/
theorem step (h : short.Curtails keeps long) (hresult : short.result? = none)
    (network : Network) :
    (short.step network).1 = (long.step network).1 ∧
      Option.Rel (Curtails keeps) (short.step network).2 (long.step network).2 := by
  cases h with
  | done result _ => cases hresult
  | brokenOff error call => cases hresult
  | send endpoint target payload h =>
      rw [Call.step, Call.step]
      split
      · exact ⟨rfl, .some (h _)⟩
      · exact ⟨rfl, .some (h _)⟩
  | receive endpoint source h =>
      rw [Call.step, Call.step]
      split
      · exact ⟨rfl, .some (.receive endpoint source h)⟩
      · exact ⟨rfl, .some (h _)⟩
      · exact ⟨rfl, .some (h _)⟩
      · exact ⟨rfl, .none⟩

theorem poll (h : short.Curtails keeps long) (network : Network)
    (hunbroken : ∀ error, (short.poll network).2.result? ≠ some (.error error)) :
    (short.poll network).1 = (long.poll network).1 ∧
      (short.poll network).2.Curtails keeps (long.poll network).2 := by
  induction h generalizing network with
  | done result h => exact ⟨rfl, .done result h⟩
  | brokenOff error call => exact absurd rfl (hunbroken error)
  | send endpoint target payload _ ih =>
      rw [Call.poll] at hunbroken
      rw [Call.poll, Call.poll]
      split at hunbroken
      · exact ih _ _ hunbroken
      · exact ih _ _ hunbroken
  | receive endpoint source h ih =>
      rw [Call.poll] at hunbroken
      rw [Call.poll, Call.poll]
      split at hunbroken
      · exact ih _ _ hunbroken
      · exact ih _ _ hunbroken
      · exact ⟨rfl, .receive endpoint source h⟩

end Curtails

end Call

namespace Runner

section Results

variable {ρ : Type} {runner : Runner ρ} {result : ρ}

theorem call_eq_done (h : runner.call.result? = some result) : runner.call = .done result := by
  cases hcall : runner.call with
  | done other =>
      rw [hcall] at h
      exact congrArg Call.done (Option.some.inj h)
  | send _ _ _ _ =>
      rw [hcall] at h
      cases h
  | receive _ _ _ =>
      rw [hcall] at h
      cases h

/-- A member that has come to a result does not take it back. -/
theorem result_advance (h : runner.call.result? = some result) (network : Network) :
    (runner.advance network).2.call.result? = some result := by
  rw [advance, h]
  dsimp only
  split
  · exact h
  · exact h

theorem result_settle (h : runner.call.result? = some result) (network : Network) :
    (runner.settle network).2.call.result? = some result := by
  rw [settle]
  split
  · exact h
  · rw [call_eq_done h]
    rfl

/-- What some members have come to, so far. -/
def resultsOf (runners : List (Runner ρ)) : List ρ :=
  runners.filterMap (·.call.result?)

theorem mem_resultsOf_cons_self {rest : List (Runner ρ)} (h : runner.call.result? = some result) :
    result ∈ resultsOf (runner :: rest) :=
  List.mem_filterMap.mpr ⟨runner, List.mem_cons_self, h⟩

theorem mem_resultsOf_cons_of_mem {rest : List (Runner ρ)} (h : result ∈ resultsOf rest) :
    result ∈ resultsOf (runner :: rest) := by
  obtain ⟨member, hmem, hresult⟩ := List.mem_filterMap.mp h
  exact List.mem_filterMap.mpr ⟨member, List.mem_cons_of_mem _ hmem, hresult⟩

theorem mem_resultsOf_settleAll {runners : List (Runner ρ)} (h : result ∈ resultsOf runners)
    (network : Network) : result ∈ resultsOf (settleAll network runners).2 := by
  induction runners generalizing network with
  | nil => cases h
  | cons runner rest ih =>
      obtain ⟨member, hmem, hresult⟩ := List.mem_filterMap.mp h
      rw [settleAll_cons]
      rcases List.mem_cons.mp hmem with rfl | hmem
      · exact mem_resultsOf_cons_self (result_settle hresult network)
      · have hrest : result ∈ resultsOf rest := List.mem_filterMap.mpr ⟨member, hmem, hresult⟩
        exact mem_resultsOf_cons_of_mem (ih hrest _)

end Results

/-- Members with the same endpoints, of which the second may go on where the first is broken
off. -/
structure Curtails (keeps : α → Prop) (short long : Runner (Except ε α)) : Prop where
  endpoints : short.endpoints = long.endpoints
  gone : short.gone = long.gone
  call : short.call.Curtails keeps long.call

namespace Curtails

variable {short long : Runner (Except ε α)}

theorem leave_eq (h : Curtails keeps short long) (network : Network) :
    short.leave network = long.leave network := by
  rw [Runner.leave, Runner.leave, h.endpoints]

theorem advance (h : Curtails keeps short long) (network : Network)
    (hunbroken : ∀ error, short.call.result? ≠ some (.error error)) :
    (short.advance network).1 = (long.advance network).1 ∧
      Curtails keeps (short.advance network).2 (long.advance network).2 := by
  have hresult := h.call.result_eq hunbroken
  rw [Runner.advance, Runner.advance, ← hresult, ← h.gone]
  split
  · split
    · exact ⟨rfl, h⟩
    · exact ⟨h.leave_eq network, h.endpoints, rfl, h.call⟩
  · next hnone =>
      obtain ⟨hnetwork, hnext⟩ := h.call.step hnone network
      rcases hshort : short.call.step network with ⟨after, next⟩
      rcases hlong : long.call.step network with ⟨after', next'⟩
      rw [hshort, hlong] at hnetwork hnext
      obtain rfl : after = after' := hnetwork
      cases hnext with
      | none => exact ⟨rfl, h⟩
      | some hcall => exact ⟨rfl, h.endpoints, rfl, hcall⟩

theorem settle (h : Curtails keeps short long) (network : Network)
    (hunbroken : ∀ error, (short.settle network).2.call.result? ≠ some (.error error)) :
    (short.settle network).1 = (long.settle network).1 ∧
      Curtails keeps (short.settle network).2 (long.settle network).2 := by
  rw [Runner.settle] at hunbroken ⊢
  rw [Runner.settle, ← h.gone]
  split at hunbroken
  · next hgone =>
      rw [if_pos hgone, if_pos hgone]
      exact ⟨rfl, h⟩
  · next hgone =>
      rw [if_neg hgone, if_neg hgone]
      have hpoll := h.call.poll network
      rcases hshort : short.call.poll network with ⟨after, call⟩
      rcases hlong : long.call.poll network with ⟨after', call'⟩
      rw [hshort] at hunbroken
      rw [hshort, hlong] at hpoll
      dsimp only at hunbroken hpoll ⊢
      have hcalm : ∀ error, call.result? ≠ some (.error error) := by
        intro error hresult
        rw [hresult] at hunbroken
        exact hunbroken error hresult
      obtain ⟨rfl, hcall⟩ := hpoll hcalm
      rw [← hcall.result_eq hcalm]
      split
      · exact ⟨h.leave_eq after, h.endpoints, rfl, hcall⟩
      · exact ⟨rfl, h.endpoints, rfl, hcall⟩

end Curtails

theorem resultsOf_eq {short long : List (Runner (Except ε α))}
    (h : List.Forall₂ (Curtails keeps) short long)
    (hunbroken : ∀ error, .error error ∉ resultsOf short) : resultsOf short = resultsOf long := by
  induction h with
  | nil => rfl
  | cons hrunner _ ih =>
      have hhead := hrunner.call.result_eq fun error hresult =>
        hunbroken error (mem_resultsOf_cons_self hresult)
      have hrest := ih fun error hmem => hunbroken error (mem_resultsOf_cons_of_mem hmem)
      rw [resultsOf] at hrest ⊢
      rw [resultsOf, List.filterMap_cons, List.filterMap_cons, hhead, hrest]
      rfl

theorem curtails_settleAll {short long : List (Runner (Except ε α))}
    (h : List.Forall₂ (Curtails keeps) short long) (network : Network)
    (hunbroken : ∀ error, .error error ∉ resultsOf (settleAll network short).2) :
    (settleAll network short).1 = (settleAll network long).1 ∧
      List.Forall₂ (Curtails keeps) (settleAll network short).2 (settleAll network long).2 := by
  induction h generalizing network with
  | nil => exact ⟨rfl, .nil⟩
  | cons hrunner _ ih =>
      rw [settleAll_cons] at hunbroken
      rw [settleAll_cons, settleAll_cons]
      obtain ⟨hnetwork, hrunner⟩ := hrunner.settle network fun error hresult =>
        hunbroken error (mem_resultsOf_cons_self hresult)
      rw [← hnetwork]
      obtain ⟨hlast, hrest⟩ := ih _ fun error hmem =>
        hunbroken error (mem_resultsOf_cons_of_mem hmem)
      exact ⟨hlast, .cons hrunner hrest⟩

end Runner

namespace Crew

section Results

variable {ρ : Type} {crew : Crew ρ} {result : ρ}

theorem mem_results_iff : result ∈ crew.results ↔
    ∃ (member : Nat) (runner : Runner ρ), crew.runners[member]? = some runner ∧
      runner.call.result? = some result := by
  rw [results, List.mem_filterMap]
  constructor
  · rintro ⟨runner, hmem, hresult⟩
    obtain ⟨member, hmember⟩ := List.mem_iff_getElem?.mp hmem
    exact ⟨member, runner, hmember, hresult⟩
  · rintro ⟨member, runner, hmember, hresult⟩
    exact ⟨runner, List.mem_of_getElem? hmember, hresult⟩

/-- Whatever the members do next, the results so far stand. -/
theorem mem_results_advance (h : result ∈ crew.results) (member : Nat) :
    result ∈ (crew.advance member).results := by
  obtain ⟨other, runner, hother, hresult⟩ := mem_results_iff.mp h
  rw [advance]
  split
  · exact h
  · next mover hmover =>
      refine mem_results_iff.mpr ?_
      by_cases heq : member = other
      · subst heq
        cases hmover.symm.trans hother
        obtain ⟨hlt, -⟩ := List.getElem?_eq_some_iff.mp hother
        exact ⟨member, _, List.getElem?_set_self hlt, Runner.result_advance hresult crew.network⟩
      · exact ⟨other, runner, (List.getElem?_set_ne heq).trans hother, hresult⟩

theorem mem_results_follow (h : result ∈ crew.results) (schedule : List Nat) :
    result ∈ (crew.follow schedule).results := by
  induction schedule generalizing crew with
  | nil => exact h
  | cons member rest ih => exact ih (mem_results_advance h member)

theorem mem_results_rounds (h : result ∈ crew.results) (n : Nat) :
    result ∈ (crew.rounds n).results := by
  induction n generalizing crew with
  | zero => exact h
  | succ n ih =>
      rw [rounds]
      split
      · exact h
      · exact ih (Runner.mem_resultsOf_settleAll h crew.network)

end Results

/-- Nobody has ended with an error. -/
def Unbroken (crew : Crew (Except ε α)) : Prop :=
  ∀ error, .error error ∉ crew.results

/-- Crews at the same place, of which the second has no limits. -/
structure Curtails (keeps : α → Prop) (short long : Crew (Except ε α)) : Prop where
  network : short.network = long.network
  runners : List.Forall₂ (Runner.Curtails keeps) short.runners long.runners

namespace Curtails

variable {short long : Crew (Except ε α)}

theorem results_eq (h : Curtails keeps short long) (hunbroken : short.Unbroken) :
    short.results = long.results :=
  Runner.resultsOf_eq h.runners hunbroken

theorem keeps_of_mem (h : Curtails keeps short long) {a : α} (hmem : .ok a ∈ short.results) :
    keeps a := by
  obtain ⟨member, runner, hmember, hresult⟩ := mem_results_iff.mp hmem
  obtain ⟨runner', -, hrunner⟩ := exists_of_forall₂ h.runners hmember
  exact hrunner.call.keeps_of_result hresult

theorem finished_eq (h : Curtails keeps short long) : short.finished = long.finished := by
  have hall : ∀ {short long : List (Runner (Except ε α))},
      List.Forall₂ (Runner.Curtails keeps) short long →
        short.all (·.gone) = long.all (·.gone) := by
    intro short long h
    induction h with
    | nil => rfl
    | cons hrunner _ ih => rw [List.all_cons, List.all_cons, hrunner.gone, ih]
  exact hall h.runners

theorem advance (h : Curtails keeps short long) (hunbroken : short.Unbroken) (member : Nat) :
    Curtails keeps (short.advance member) (long.advance member) := by
  cases hshort : short.runners[member]? with
  | none =>
      have hlong : long.runners[member]? = none := by
        rwa [List.getElem?_eq_none_iff, ← h.runners.length_eq, ← List.getElem?_eq_none_iff]
      rw [Crew.advance, hshort, Crew.advance, hlong]
      exact h
  | some runner =>
      obtain ⟨runner', hlong, hrunner⟩ := exists_of_forall₂ h.runners hshort
      obtain ⟨hnetwork, hafter⟩ := hrunner.advance short.network fun error hresult =>
        hunbroken error (mem_results_iff.mpr ⟨member, runner, hshort, hresult⟩)
      rw [Crew.advance, hshort, Crew.advance, hlong, ← h.network]
      exact ⟨hnetwork, forall₂_set h.runners hafter member⟩

theorem round (h : Curtails keeps short long) (hunbroken : short.round.Unbroken) :
    Curtails keeps short.round long.round := by
  obtain ⟨hnetwork, hrunners⟩ := Runner.curtails_settleAll h.runners short.network hunbroken
  rw [h.network] at hnetwork hrunners
  rw [Crew.round, Crew.round, h.network]
  exact ⟨hnetwork, hrunners⟩

/-- Both are at the same place after any schedule on which nobody has been broken off. -/
theorem follow (h : Curtails keeps short long) {schedule : List Nat}
    (hunbroken : (short.follow schedule).Unbroken) :
    Curtails keeps (short.follow schedule) (long.follow schedule) := by
  induction schedule generalizing short long with
  | nil => exact h
  | cons member rest ih =>
      have hstart : short.Unbroken := fun error hmem =>
        hunbroken error (mem_results_follow hmem (member :: rest))
      exact ih (h.advance hstart member) hunbroken

theorem rounds (h : Curtails keeps short long) {n : Nat}
    (hunbroken : (short.rounds n).Unbroken) :
    Curtails keeps (short.rounds n) (long.rounds n) := by
  induction n generalizing short long with
  | zero => exact h
  | succ n ih =>
      rw [Crew.rounds] at hunbroken
      rw [Crew.rounds, Crew.rounds, ← h.finished_eq]
      split at hunbroken
      · next hfinished =>
          rw [if_pos hfinished, if_pos hfinished]
          exact h
      · next hfinished =>
          rw [if_neg hfinished, if_neg hfinished]
          have hround : short.round.Unbroken := fun error hmem =>
            hunbroken error (mem_results_rounds hmem n)
          exact ih (h.round hround) hunbroken

end Curtails

end Crew

end Syllogistic.Collective
