import Syllogistic.Collective.Crew
import Syllogistic.Proofs.Collective.Stream

/-!
# A turn is made of steps

A member that takes its turn makes all the steps it can: it polls its call, and
leaves if that is done. Here the turn is taken apart. The frame that is looked
for is found by looking once and, if that puts a frame aside, looking again;
polling goes on from wherever a step has led; and a turn is one step followed by
the rest of the turn, until no step can be made, when it is nothing.
-/

namespace Syllogistic.Collective

theorem set_of_getElem? {α : Type} {items : List α} {place : Nat} {item : α}
    (h : items[place]? = some item) : items.set place item = items := by
  obtain ⟨hlt, rfl⟩ := List.getElem?_eq_some_iff.mp h
  exact List.set_getElem_self hlt

namespace Network

variable {network : Network} {endpoint : Endpoint} {mailbox : Mailbox}

theorem put_self (h : network.mailbox? endpoint.group endpoint.index = some mailbox) :
    network.put endpoint mailbox = network := by
  obtain ⟨members, hmembers, hmember⟩ := Option.bind_eq_some_iff.mp h
  have hgroup : network.groupOf endpoint = members := by rw [groupOf, hmembers]; rfl
  rw [put, hgroup, set_of_getElem? hmember, set_of_getElem? hmembers]

theorem put_put (before after : Mailbox) :
    (network.put endpoint before).put endpoint after = network.put endpoint after := by
  rw [put_eq_modify, put_eq_modify, put_eq_modify, List.modify_modify_eq]
  congr 1
  funext members
  exact List.modify_modify_eq ..

/-- Who is still there does not change when a mailbox is put in another's place. -/
theorem emptyHanded_put (h : network.mailbox? endpoint.group endpoint.index = some mailbox)
    {after : Mailbox} (hopen : after.isOpen = mailbox.isOpen) :
    (network.put endpoint after).emptyHanded endpoint = network.emptyHanded endpoint := by
  have hlength : ((network.put endpoint after).groupOf endpoint).length =
      (network.groupOf endpoint).length := by
    obtain ⟨members, hmembers, -⟩ := Option.bind_eq_some_iff.mp h
    obtain ⟨hlt, -⟩ := List.getElem?_eq_some_iff.mp hmembers
    rw [groupOf, put, List.getElem?_set_self hlt, Option.getD_some, List.length_set]
  have hpresent : ∀ member, ((network.put endpoint after).groupOf endpoint).present member =
      (network.groupOf endpoint).present member := by
    intro member
    rw [Group.present, Group.present, groupOf_getElem?, groupOf_getElem?, mailbox?_put h]
    split
    · next heq =>
        rw [heq.2, h, Option.any_some, Option.any_some, hopen]
    · rfl
  rw [emptyHanded, emptyHanded, Group.othersGone, Group.othersGone, hlength]
  simp only [hpresent]

theorem look_eq_of_mailbox (h : network.mailbox? endpoint.group endpoint.index = some mailbox)
    (source : Nat) :
    network.look endpoint source =
      match mailbox.look source with
      | .found mailbox payload => (network.put endpoint mailbox, some (.delivered payload))
      | .moved mailbox => (network.put endpoint mailbox, none)
      | .nothing => (network, some (network.emptyHanded endpoint)) := by
  rewrite [look, groupOf_getElem?, h]
  rfl

theorem receive_eq_of_mailbox
    (h : network.mailbox? endpoint.group endpoint.index = some mailbox) (source : Nat) :
    network.receive endpoint source =
      match mailbox.take source with
      | (mailbox, some payload) => (network.put endpoint mailbox, .delivered payload)
      | (mailbox, none) => (network.put endpoint mailbox, network.emptyHanded endpoint) := by
  rewrite [receive, groupOf_getElem?, h]
  rfl

theorem look_eq_waiting {network' : Network} {source : Nat}
    (h : network.look endpoint source = (network', some .waiting)) : network' = network := by
  rw [look] at h
  split at h
  · cases h
  · split at h
    · cases h
    · cases h
    · exact (congrArg Prod.fst h).symm

/-- Looking as long as it takes is looking once, and again if a frame was put
aside. -/
theorem receive_eq_look {size : Nat → Nat} (hsound : network.Sound size) (endpoint : Endpoint)
    (source : Nat) :
    network.receive endpoint source =
      match network.look endpoint source with
      | (network, none) => network.receive endpoint source
      | (network, some receipt) => (network, receipt) := by
  cases hmailbox : network.mailbox? endpoint.group endpoint.index with
  | none => rw [receive, look, groupOf_getElem?, hmailbox]
  | some mailbox =>
      rw [receive_eq_of_mailbox hmailbox, look_eq_of_mailbox hmailbox, Mailbox.take_eq]
      cases hlook : mailbox.look source with
      | found after payload => rfl
      | moved after =>
          obtain ⟨hleaves, -⟩ := Mailbox.look_moved (hsound _ _ _ hmailbox).2 hlook
          have hafter : (network.put endpoint after).mailbox? endpoint.group endpoint.index =
              some after := by rw [mailbox?_put hmailbox, if_pos ⟨rfl, rfl⟩]
          dsimp only
          rw [receive_eq_of_mailbox hafter, emptyHanded_put hmailbox hleaves.isOpen]
          simp only [put_put]
      | nothing =>
          dsimp only
          rw [put_self hmailbox]

end Network

namespace Call

variable {α : Type} {call call' : Call α} {network network' : Network}

/-- Polling goes on from where a step has led. -/
theorem poll_of_step {size : Nat → Nat} (hsound : network.Sound size)
    (h : call.step network = (network', some call')) :
    call.poll network = call'.poll network' := by
  cases call with
  | done result => cases h
  | send endpoint target payload next =>
      rw [step] at h
      rw [poll]
      split at h
      · cases h
        rfl
      · cases h
        rfl
  | receive endpoint source next =>
      rw [step] at h
      rw [poll, Network.receive_eq_look hsound]
      split at h
      · next hlook =>
          cases h
          rw [hlook, poll]
      · next hlook =>
          cases h
          rw [hlook]
      · next hlook =>
          cases h
          rw [hlook]
      · cases h

/-- Where no step can be made, polling does nothing. -/
theorem poll_of_stuck {size : Nat → Nat} (hsound : network.Sound size)
    (h : (call.step network).2 = none) : call.poll network = (network, call) := by
  cases call with
  | done result => rfl
  | send endpoint target payload next =>
      rw [step] at h
      split at h <;> cases h
  | receive endpoint source next =>
      rw [step] at h
      rw [poll, Network.receive_eq_look hsound]
      split at h
      · cases h
      · cases h
      · cases h
      · next hlook =>
          rw [hlook, Network.look_eq_waiting hlook]

end Call

namespace Runner

variable {ρ : Type} {runner : Runner ρ} {network : Network}

theorem advance_of_step {network' : Network} {call : Call ρ}
    (hstep : runner.call.step network = (network', some call)) :
    runner.advance network = (network', { runner with call }) := by
  have hresult : runner.call.result? = none := by
    cases hcall : runner.call with
    | done result =>
        rw [hcall] at hstep
        cases hstep
    | send _ _ _ _ => rfl
    | receive _ _ _ => rfl
  rw [advance, hresult]
  dsimp only
  rw [hstep]

theorem advance_of_result {result : ρ} (hresult : runner.call.result? = some result)
    (hgone : runner.gone = false) :
    runner.advance network = (runner.leave network, { runner with gone := true }) := by
  rw [advance, hresult, hgone]
  rfl

/-- A turn is a step and the rest of the turn. -/
theorem settle_of_ready {size : Nat → Nat} (hsound : network.Sound size)
    (hgone : runner.gone = false) (hready : runner.ready network = true) :
    runner.settle network = (runner.advance network).2.settle (runner.advance network).1 := by
  rw [ready] at hready
  split at hready
  · next result hresult =>
      rw [advance_of_result hresult hgone]
      cases hcall : runner.call with
      | done result => rw [settle, settle, hgone, hcall]; rfl
      | send _ _ _ _ => rw [hcall] at hresult; cases hresult
      | receive _ _ _ => rw [hcall] at hresult; cases hresult
  · rcases hstep : runner.call.step network with ⟨network', next⟩
    rw [hstep] at hready
    obtain ⟨call, rfl⟩ := Option.isSome_iff_exists.mp hready
    rw [advance_of_step hstep, settle, settle, Call.poll_of_step hsound hstep, hgone]
    rfl

/-- A member that cannot make a step has no turn. -/
theorem settle_of_stuck {size : Nat → Nat} (hsound : network.Sound size)
    (hready : runner.ready network = false) : runner.settle network = (network, runner) := by
  rw [settle]
  split
  · rfl
  · next hgone =>
      rw [ready] at hready
      split at hready
      · exact absurd (by simpa using hready) hgone
      · next hresult =>
          have hstuck : (runner.call.step network).2 = none := by simpa using hready
          rw [Call.poll_of_stuck hsound hstuck]
          dsimp only
          rw [hresult]

theorem settleAll_cons (runner : Runner ρ) (rest : List (Runner ρ)) (network : Network) :
    settleAll network (runner :: rest) =
      ((settleAll (runner.settle network).1 rest).1,
        (runner.settle network).2 :: (settleAll (runner.settle network).1 rest).2) := rfl

end Runner

end Syllogistic.Collective
