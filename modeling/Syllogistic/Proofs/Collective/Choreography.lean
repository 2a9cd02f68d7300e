import Syllogistic.Collective.Crew
import Syllogistic.Proofs.Collective.Stream

/-!
# Who does what, frame by frame

A choreography is a list of transfers: which frame one member of a group has to
bring to another, in an order that nobody has to keep as a whole. Each runner
reads off the list what it has to do itself, which is to send the frames that
its endpoints are the source of and to take those that they are the target of,
in this order. A staff says which endpoint is which member's and which runner
owns it.

A transfer that has been sent stays in the list until it is taken, so the list
also says what is on its way.
-/

namespace Syllogistic.Collective

/-- What a call does next, if it is a step that sends or takes a frame. -/
inductive Op where
  | send (endpoint : Endpoint) (target : Nat) (payload : Payload)
  | receive (endpoint : Endpoint) (source : Nat) (payload : Payload)
  deriving DecidableEq, Repr

/-- The call does these things one after the other and comes to the result, if
sends succeed and every frame it takes is as given. -/
inductive Call.Performs {α : Type} : Call α → List Op → α → Prop where
  | done (result : α) : Performs (.done result) [] result
  | send (endpoint : Endpoint) (target : Nat) (payload : Payload)
      {next : Except Error Unit → Call α} {ops : List Op} {result : α} :
    Performs (next (.ok ())) ops result →
      Performs (.send endpoint target payload next) (.send endpoint target payload :: ops) result
  | receive (endpoint : Endpoint) (source : Nat) (payload : Payload)
      {next : Except Error Payload → Call α} {ops : List Op} {result : α} :
    Performs (next (.ok payload)) ops result →
      Performs (.receive endpoint source next) (.receive endpoint source payload :: ops) result

/-- A frame that one member of a group has to bring to another. -/
structure Transfer where
  group : Nat
  source : Nat
  target : Nat
  payload : Payload
  /-- Whether the frame is on its way. -/
  sent : Bool := false
  deriving DecidableEq, Repr

/-- The frame is from one member to another. -/
def Transfer.On (transfer : Transfer) (group source target : Nat) : Prop :=
  transfer.group = group ∧ transfer.source = source ∧ transfer.target = target

instance (transfer : Transfer) (group source target : Nat) :
    Decidable (transfer.On group source target) :=
  inferInstanceAs (Decidable (_ ∧ _ ∧ _))

/-- The transfer once the frame is on its way. -/
def Transfer.dispatched (transfer : Transfer) : Transfer :=
  { transfer with sent := true }

/-- The payloads that are on their way from one member to another. -/
def underway (transfers : List Transfer) (group source target : Nat) : List Payload :=
  transfers.filterMap fun transfer =>
    if transfer.sent = true ∧ transfer.On group source target then some transfer.payload
    else none

/-- The endpoint of each member of each group, and the runner that owns it. -/
structure Staff where
  endpoint : (group index : Nat) → Endpoint
  owner : (group index : Nat) → Nat
  group_endpoint : ∀ group index, (endpoint group index).group = group
  index_endpoint : ∀ group index, (endpoint group index).index = index

namespace Staff

attribute [simp] group_endpoint index_endpoint

/-- What a runner has to do for a transfer. -/
def opOf (staff : Staff) (runner : Nat) (transfer : Transfer) : Option Op :=
  if transfer.sent = false ∧ staff.owner transfer.group transfer.source = runner then
    some (.send (staff.endpoint transfer.group transfer.source) transfer.target transfer.payload)
  else if staff.owner transfer.group transfer.target = runner then
    some (.receive (staff.endpoint transfer.group transfer.target) transfer.source
      transfer.payload)
  else none

/-- What a runner has to do for some transfers. -/
def opsOf (staff : Staff) (runner : Nat) (transfers : List Transfer) : List Op :=
  transfers.filterMap (staff.opOf runner)

/-- The owner of a member's endpoint is at work and holds it. -/
def Holds {ρ : Type} (staff : Staff) (runners : List (Runner ρ)) (group index : Nat) : Prop :=
  ∃ runner, runners[staff.owner group index]? = some runner ∧
    staff.endpoint group index ∈ runner.endpoints

/-- The transfer is between endpoints that different runners hold. -/
structure Proper {ρ : Type} (staff : Staff) (runners : List (Runner ρ))
    (transfer : Transfer) : Prop where
  source : staff.Holds runners transfer.group transfer.source
  target : staff.Holds runners transfer.group transfer.target
  owner_ne : staff.owner transfer.group transfer.source ≠
    staff.owner transfer.group transfer.target

end Staff

/-! ## What a call performs -/

namespace Call

variable {α β ε : Type}

theorem Performs.andThen {call : Call α} {f : α → Call β} {ops ops' : List Op} {a : α} {b : β}
    (h : call.Performs ops a) (h' : (f a).Performs ops' b) :
    (call.andThen f).Performs (ops ++ ops') b := by
  induction h with
  | done result => exact h'
  | send endpoint target payload _ ih => exact .send endpoint target payload (ih h')
  | receive endpoint source payload _ ih => exact .receive endpoint source payload (ih h')

theorem performs_bind {x : ExceptT ε Call α} {f : α → ExceptT ε Call β} {ops ops' : List Op}
    {a : α} {result : Except ε β} (h : x.run.Performs ops (.ok a))
    (h' : (f a).run.Performs ops' result) : (x >>= f).run.Performs (ops ++ ops') result :=
  Performs.andThen (f := ExceptT.bindCont f) h h'

theorem performs_pure (a : α) : (pure a : ExceptT ε Call α).run.Performs [] (.ok a) :=
  .done _

theorem performs_return {x : ExceptT ε Call α} {ops : List Op} {a : α}
    (h : x.run.Performs ops (.ok a)) (f : α → β) :
    (x >>= fun a => (pure (f a) : ExceptT ε Call β)).run.Performs ops (.ok (f a)) := by
  have hbind := performs_bind (f := fun a => (pure (f a) : ExceptT ε Call β)) h
    (performs_pure (f a))
  rwa [List.append_nil] at hbind

theorem Performs.result_eq {call : Call α} {ops : List Op} {a b : α} (h : call.Performs ops a)
    (hresult : call.result? = some b) : b = a := by
  cases h with
  | done result => exact (Option.some.inj hresult).symm
  | send endpoint target payload _ => cases hresult
  | receive endpoint source payload _ => cases hresult

theorem Performs.ops_eq_nil {call : Call α} {ops : List Op} {a b : α} (h : call.Performs ops a)
    (hresult : call.result? = some b) : ops = [] := by
  cases h with
  | done result => rfl
  | send endpoint target payload _ => cases hresult
  | receive endpoint source payload _ => cases hresult

theorem Performs.send_inv {endpoint : Endpoint} {target : Nat} {payload : Payload}
    {next : Except Error Unit → Call α} {ops : List Op} {a : α}
    (h : (Call.send endpoint target payload next).Performs ops a) :
    ∃ rest, ops = .send endpoint target payload :: rest ∧ (next (.ok ())).Performs rest a := by
  cases h with
  | send _ _ _ hnext => exact ⟨_, rfl, hnext⟩

theorem Performs.receive_inv {endpoint : Endpoint} {source : Nat}
    {next : Except Error Payload → Call α} {ops : List Op} {a : α}
    (h : (Call.receive endpoint source next).Performs ops a) :
    ∃ payload rest, ops = .receive endpoint source payload :: rest ∧
      (next (.ok payload)).Performs rest a := by
  cases h with
  | receive _ _ payload hnext => exact ⟨payload, _, rfl, hnext⟩

end Call

/-! ## What a transfer asks of whom -/

namespace Staff

variable {staff : Staff} {runner : Nat} {transfer : Transfer}

theorem opOf_source (staff : Staff) (transfer : Transfer) (hsent : transfer.sent = false) :
    staff.opOf (staff.owner transfer.group transfer.source) transfer =
      some (.send (staff.endpoint transfer.group transfer.source) transfer.target
        transfer.payload) := by
  rw [opOf, if_pos ⟨hsent, rfl⟩]

theorem opOf_target (staff : Staff) (transfer : Transfer)
    (hne : staff.owner transfer.group transfer.source ≠
      staff.owner transfer.group transfer.target) :
    staff.opOf (staff.owner transfer.group transfer.target) transfer =
      some (.receive (staff.endpoint transfer.group transfer.target) transfer.source
        transfer.payload) := by
  rw [opOf, if_neg (fun h => hne h.2), if_pos rfl]

theorem opOf_eq_none (staff : Staff) (transfer : Transfer)
    (hsource : staff.owner transfer.group transfer.source ≠ runner)
    (htarget : staff.owner transfer.group transfer.target ≠ runner) :
    staff.opOf runner transfer = none := by
  rw [opOf, if_neg (fun h => hsource h.2), if_neg htarget]

theorem opOf_eq_send {endpoint : Endpoint} {target : Nat} {payload : Payload}
    (h : staff.opOf runner transfer = some (.send endpoint target payload)) :
    transfer.sent = false ∧ staff.owner transfer.group transfer.source = runner ∧
      endpoint = staff.endpoint transfer.group transfer.source ∧ target = transfer.target ∧
      payload = transfer.payload := by
  rw [opOf] at h
  split at h
  · next hsource =>
      cases h
      exact ⟨hsource.1, hsource.2, rfl, rfl, rfl⟩
  · split at h <;> cases h

theorem opOf_eq_receive {endpoint : Endpoint} {source : Nat} {payload : Payload}
    (h : staff.opOf runner transfer = some (.receive endpoint source payload)) :
    staff.owner transfer.group transfer.target = runner ∧
      endpoint = staff.endpoint transfer.group transfer.target ∧ source = transfer.source ∧
      payload = transfer.payload := by
  rw [opOf] at h
  split at h
  · cases h
  · split at h
    · next htarget =>
        cases h
        exact ⟨htarget, rfl, rfl, rfl⟩
    · cases h

theorem opOf_sent (hsent : transfer.sent = true)
    (htarget : staff.owner transfer.group transfer.target ≠ runner) :
    staff.opOf runner transfer = none := by
  rw [opOf, hsent, if_neg (fun hboth => Bool.noConfusion hboth.1), if_neg htarget]

/-- Once a frame is on its way, only the runner that has sent it is rid of it. -/
theorem opOf_dispatched (h : staff.owner transfer.group transfer.source ≠ runner) :
    staff.opOf runner transfer.dispatched = staff.opOf runner transfer := by
  simp only [opOf, Transfer.dispatched, h, and_false, if_false]
  rfl

theorem opOf_dispatched_source
    (hne : staff.owner transfer.group transfer.source ≠
      staff.owner transfer.group transfer.target) :
    staff.opOf (staff.owner transfer.group transfer.source) transfer.dispatched = none := by
  simp [opOf, Transfer.dispatched, Ne.symm hne]

theorem opsOf_append (staff : Staff) (runner : Nat) (transfers more : List Transfer) :
    staff.opsOf runner (transfers ++ more) =
      staff.opsOf runner transfers ++ staff.opsOf runner more :=
  List.filterMap_append

/-- The first thing a runner has to do comes from the first transfer that asks
anything of it. -/
theorem opsOf_eq_cons {transfers : List Transfer} {op : Op} {ops : List Op}
    (h : staff.opsOf runner transfers = op :: ops) :
    ∃ before transfer after, transfers = before ++ transfer :: after ∧
      staff.opsOf runner before = [] ∧ staff.opOf runner transfer = some op ∧
      staff.opsOf runner after = ops := by
  obtain ⟨before, transfer, after, rfl, hbefore, hop, hafter⟩ := List.filterMap_eq_cons_iff.mp h
  exact ⟨before, transfer, after, rfl, List.filterMap_eq_nil_iff.mpr hbefore, hop, hafter⟩

theorem opsOf_cons_some {op : Op} (h : staff.opOf runner transfer = some op)
    (transfers : List Transfer) :
    staff.opsOf runner (transfer :: transfers) = op :: staff.opsOf runner transfers :=
  List.filterMap_cons_some h

theorem opsOf_cons_none (h : staff.opOf runner transfer = none) (transfers : List Transfer) :
    staff.opsOf runner (transfer :: transfers) = staff.opsOf runner transfers :=
  List.filterMap_cons_none h

theorem opOf_eq_none_of_mem {transfers : List Transfer}
    (h : staff.opsOf runner transfers = []) (hmem : transfer ∈ transfers) :
    staff.opOf runner transfer = none :=
  List.filterMap_eq_nil_iff.mp h transfer hmem

/-- A runner that has nothing to do for a transfer does not own its target, and
its source only if the frame is on its way. -/
theorem of_opOf_eq_none (h : staff.opOf runner transfer = none) :
    staff.owner transfer.group transfer.target ≠ runner ∧
      (staff.owner transfer.group transfer.source = runner → transfer.sent = true) := by
  rw [opOf] at h
  split at h
  · cases h
  · next hsource =>
      split at h
      · cases h
      · next htarget =>
          refine ⟨htarget, fun howner => ?_⟩
          cases hsent : transfer.sent with
          | true => rfl
          | false => exact absurd ⟨hsent, howner⟩ hsource

theorem Holds.set {ρ : Type} {runners : List (Runner ρ)} {group index place : Nat}
    (h : staff.Holds runners group index) {before after : Runner ρ}
    (hbefore : runners[place]? = some before) (hendpoints : after.endpoints = before.endpoints) :
    staff.Holds (runners.set place after) group index := by
  obtain ⟨other, hother, hmem⟩ := h
  obtain ⟨hlt, -⟩ := List.getElem?_eq_some_iff.mp hbefore
  by_cases hplace : place = staff.owner group index
  · rw [← hplace, hbefore] at hother
    cases hother
    refine ⟨after, ?_, by rwa [hendpoints]⟩
    rw [← hplace, List.getElem?_set, if_pos rfl, if_pos hlt]
  · exact ⟨other, by rwa [List.getElem?_set_ne hplace], hmem⟩

theorem Proper.set {ρ : Type} {runners : List (Runner ρ)} {place : Nat}
    (h : staff.Proper runners transfer) {before after : Runner ρ}
    (hbefore : runners[place]? = some before) (hendpoints : after.endpoints = before.endpoints) :
    staff.Proper (runners.set place after) transfer where
  source := h.source.set hbefore hendpoints
  target := h.target.set hbefore hendpoints
  owner_ne := h.owner_ne

end Staff

/-! ## What is on its way -/

theorem underway_append (transfers more : List Transfer) (group source target : Nat) :
    underway (transfers ++ more) group source target =
      underway transfers group source target ++ underway more group source target :=
  List.filterMap_append

theorem underway_cons (transfer : Transfer) (transfers : List Transfer)
    (group source target : Nat) :
    underway (transfer :: transfers) group source target =
      (if transfer.sent = true ∧ transfer.On group source target then [transfer.payload] else []) ++
        underway transfers group source target := by
  rw [underway, List.filterMap_cons]
  split <;> simp_all [underway]

theorem underway_eq_nil {transfers : List Transfer} {group source target : Nat}
    (h : ∀ transfer ∈ transfers, transfer.On group source target → transfer.sent = false) :
    underway transfers group source target = [] := by
  refine List.filterMap_eq_nil_iff.mpr fun transfer hmem => if_neg fun hboth => ?_
  rw [h transfer hmem hboth.2] at hboth
  exact Bool.noConfusion hboth.1

end Syllogistic.Collective
