import Syllogistic.Proofs.Collective.InStep
import Syllogistic.Proofs.Collective.Polling

/-!
# A crew in step gets done

The first transfer of the list is what keeps a crew from getting stuck. If it
has not been sent, nothing comes before it for whoever is to send it; if it has,
nothing comes before it for whoever is to take it, and its frame is there. When
the list is empty every call is done and who is still there can leave. So some
runner can always make a step, and since every step strikes something off, every
schedule can be continued until all have left, and taking turns gets there in as
many rounds as there is effort left.

Nothing here depends on who goes first. What a runner comes to is what the list
says, on every schedule.
-/

namespace Syllogistic.Collective

theorem Crew.length_advance {ρ : Type} (crew : Crew ρ) (m : Nat) :
    (crew.advance m).runners.length = crew.runners.length := by
  rw [advance]
  split
  · rfl
  · exact List.length_set

theorem Crew.length_follow {ρ : Type} (crew : Crew ρ) (schedule : List Nat) :
    (crew.follow schedule).runners.length = crew.runners.length := by
  induction schedule generalizing crew with
  | nil => rfl
  | cons m rest ih => exact (ih _).trans (crew.length_advance m)

theorem Runner.length_settleAll {ρ : Type} (network : Network) (runners : List (Runner ρ)) :
    (settleAll network runners).2.length = runners.length := by
  induction runners generalizing network with
  | nil => rfl
  | cons runner rest ih => rw [settleAll_cons, List.length_cons, ih, List.length_cons]

theorem Crew.length_rounds {ρ : Type} (crew : Crew ρ) (n : Nat) :
    (crew.rounds n).runners.length = crew.runners.length := by
  induction n generalizing crew with
  | zero => rfl
  | succ n ih =>
      rw [rounds]
      split
      · rfl
      · rw [ih]
        exact Runner.length_settleAll crew.network crew.runners

namespace InStep

variable {ρ : Type} {staff : Staff} {size : Nat → Nat} {expected : Nat → ρ}
  {transfers : List Transfer} {crew : Crew ρ} {m : Nat} {runner : Runner ρ}

/-! ## One step

The cases are those of the call and, for a call that waits, of the look into the
mailbox; each has its lemma about crews in step. -/

theorem advance_eq (hrunner : crew.runners[m]? = some runner) :
    crew.advance m = ⟨(runner.advance crew.network).1,
      crew.runners.set m (runner.advance crew.network).2⟩ := by
  rw [Crew.advance, hrunner]

theorem ready_eq (hrunner : crew.runners[m]? = some runner) :
    crew.ready m = runner.ready crew.network := by
  rw [Crew.ready, hrunner]
  rfl

theorem advance_of_stuck (hrunner : crew.runners[m]? = some runner)
    (hadvance : runner.advance crew.network = (crew.network, runner)) :
    crew.advance m = crew := by
  rw [advance_eq hrunner, hadvance, set_of_getElem? hrunner]

/-- A step keeps the crew in step and strikes something off; a runner that cannot
make one changes nothing. -/
theorem advance (h : InStep staff size expected transfers crew) (m : Nat) :
    (crew.ready m = false ∧ crew.advance m = crew) ∨
      Onward staff size expected transfers crew (crew.advance m) := by
  cases hrunner : crew.runners[m]? with
  | none => exact .inl ⟨by rw [Crew.ready, hrunner]; rfl, by rw [Crew.advance, hrunner]⟩
  | some runner =>
      rw [ready_eq hrunner]
      cases hcall : runner.call with
      | done result =>
          have hresult : runner.call.result? = some result := by rw [hcall]; rfl
          cases hgone : runner.gone with
          | true =>
              refine .inl ⟨by rw [Runner.ready, hresult, hgone]; rfl, ?_⟩
              refine advance_of_stuck hrunner ?_
              rw [Runner.advance, hresult, hgone]
              rfl
          | false =>
              rw [advance_eq hrunner, Runner.advance_of_result hresult hgone]
              exact .inr (h.leave hrunner hgone hresult)
      | send endpoint target payload next =>
          obtain ⟨network, hsend, honward⟩ := h.send hrunner hcall
          have hcall' : runner.call.step crew.network = (network, some (next (.ok ()))) := by
            rw [hcall, Call.step, hsend]
          rw [advance_eq hrunner, Runner.advance_of_step hcall']
          exact .inr honward
      | receive endpoint source next =>
          obtain ⟨mailbox, hmailbox, -⟩ := h.receive_mailbox hrunner hcall
          have hlook := Network.look_eq_of_mailbox hmailbox source
          cases hfound : mailbox.look source with
          | found after payload =>
              have hcall' : runner.call.step crew.network =
                  (crew.network.put endpoint after, some (next (.ok payload))) := by
                rw [hcall, Call.step, hlook, hfound]
              rw [advance_eq hrunner, Runner.advance_of_step hcall']
              exact .inr (h.found hrunner hcall hmailbox hfound)
          | moved after =>
              have hcall' : runner.call.step crew.network =
                  (crew.network.put endpoint after, some runner.call) := by
                rw [hcall, Call.step, hlook, hfound]
              rw [advance_eq hrunner, Runner.advance_of_step hcall', set_of_getElem? hrunner]
              exact .inr (h.moved hmailbox hfound)
          | nothing =>
              have hstep : runner.call.step crew.network = (crew.network, none) := by
                rw [hcall, Call.step, hlook, hfound, h.nothing hrunner hcall hmailbox hfound]
              have hresult : runner.call.result? = none := by rw [hcall]; rfl
              refine .inl ⟨by rw [Runner.ready, hresult, hstep]; rfl, ?_⟩
              refine advance_of_stuck hrunner ?_
              rw [Runner.advance, hresult, hstep]

/-! ## Somebody can make a step -/

theorem ready_of_send (hrunner : crew.runners[m]? = some runner) {endpoint : Endpoint}
    {target : Nat} {payload : Payload} {next : Except Error Unit → Call ρ}
    (hcall : runner.call = .send endpoint target payload next) : crew.ready m = true := by
  rw [ready_eq hrunner, Runner.ready, hcall, Call.step]
  dsimp only [Call.result?]
  split <;> rfl

/-- Whoever waits for a frame that has come can make a step. -/
theorem ready_of_stream (h : InStep staff size expected transfers crew)
    (hrunner : crew.runners[m]? = some runner) {endpoint : Endpoint} {source : Nat}
    {next : Except Error Payload → Call ρ}
    (hcall : runner.call = .receive endpoint source next)
    (hstream : crew.network.stream endpoint.group source endpoint.index ≠ []) :
    crew.ready m = true := by
  obtain ⟨mailbox, hmailbox, -⟩ := h.receive_mailbox hrunner hcall
  rw [Network.stream_eq hmailbox] at hstream
  rw [ready_eq hrunner, Runner.ready, hcall, Call.step, Network.look_eq_of_mailbox hmailbox]
  dsimp only [Call.result?]
  cases hlook : mailbox.look source with
  | found after payload => rfl
  | moved after => rfl
  | nothing => exact absurd (Mailbox.look_nothing hlook).2 hstream

theorem result_of_opsOf (h : InStep staff size expected transfers crew)
    (hrunner : crew.runners[m]? = some runner) (hops : staff.opsOf m transfers = []) :
    runner.call.result? = some (expected m) := by
  have hperforms := h.performs m runner hrunner
  rw [hops] at hperforms
  cases hcall : runner.call with
  | done result =>
      have hresult : runner.call.result? = some result := by rw [hcall]; rfl
      rw [← hcall, ← hperforms.result_eq hresult]
      exact hresult
  | send endpoint target payload next =>
      rw [hcall] at hperforms
      obtain ⟨rest, hrest, -⟩ := hperforms.send_inv
      cases hrest
  | receive endpoint source next =>
      rw [hcall] at hperforms
      obtain ⟨payload, rest, hrest, -⟩ := hperforms.receive_inv
      cases hrest

/-- As long as not everybody has left, somebody can make a step. -/
theorem exists_ready (h : InStep staff size expected transfers crew)
    (hfinished : crew.finished = false) :
    ∃ m, m < crew.runners.length ∧ crew.ready m = true := by
  have hlt : ∀ {m : Nat} {runner : Runner ρ}, crew.runners[m]? = some runner →
      m < crew.runners.length := fun hrunner => (List.getElem?_eq_some_iff.mp hrunner).1
  match transfers, h with
  | [], h =>
      obtain ⟨runner, hmem, hgone⟩ := List.all_eq_false.mp hfinished
      obtain ⟨m, hrunner⟩ := List.getElem?_of_mem hmem
      refine ⟨m, hlt hrunner, ?_⟩
      rw [ready_eq hrunner, Runner.ready, h.result_of_opsOf hrunner rfl]
      simpa using hgone
  | transfer :: rest, h =>
      have hproper := h.proper transfer List.mem_cons_self
      cases hsent : transfer.sent with
      | false =>
          obtain ⟨runner, hrunner, -⟩ := hproper.source
          refine ⟨_, hlt hrunner, ?_⟩
          have hops := Staff.opsOf_cons_some (staff.opOf_source transfer hsent) rest
          have hperforms := h.performs _ runner hrunner
          rw [hops] at hperforms
          cases hcall : runner.call with
          | done result =>
              cases hperforms.ops_eq_nil (b := result) (by rw [hcall]; rfl)
          | send endpoint target payload next => exact ready_of_send hrunner hcall
          | receive endpoint source next =>
              rw [hcall] at hperforms
              obtain ⟨payload, ops, hne, -⟩ := hperforms.receive_inv
              cases hne
      | true =>
          obtain ⟨runner, hrunner, -⟩ := hproper.target
          refine ⟨_, hlt hrunner, ?_⟩
          have hops := Staff.opsOf_cons_some (staff.opOf_target transfer hproper.owner_ne) rest
          have hperforms := h.performs _ runner hrunner
          rw [hops] at hperforms
          cases hcall : runner.call with
          | done result =>
              cases hperforms.ops_eq_nil (b := result) (by rw [hcall]; rfl)
          | send endpoint target payload next =>
              rw [hcall] at hperforms
              obtain ⟨ops, hne, -⟩ := hperforms.send_inv
              cases hne
          | receive endpoint source next =>
              rw [hcall] at hperforms
              obtain ⟨payload, ops, heq, -⟩ := hperforms.receive_inv
              cases heq
              refine h.ready_of_stream hrunner hcall ?_
              rw [staff.group_endpoint, staff.index_endpoint, h.stream, underway_cons,
                if_pos ⟨hsent, rfl, rfl, rfl⟩]
              exact List.cons_ne_nil _ _

/-! ## Schedules

Every step leaves less effort, so a schedule that only names runners that are
ready comes to an end, and that end is a crew in which nobody is left. -/

theorem follow (h : InStep staff size expected transfers crew) (schedule : List Nat) :
    ∃ transfers', InStep staff size expected transfers' (crew.follow schedule) := by
  induction schedule generalizing transfers crew with
  | nil => exact ⟨transfers, h⟩
  | cons m rest ih =>
      rcases h.advance m with ⟨-, hstuck⟩ | ⟨transfers', hstep, -⟩
      · rw [Crew.follow, List.foldl_cons, hstuck]
        exact ih h
      · exact ih hstep

theorem exists_finished (h : InStep staff size expected transfers crew) :
    ∃ schedule, (crew.follow schedule).finished = true := by
  induction heffort : effort transfers crew using Nat.strongRecOn generalizing transfers crew with
  | _ n ih =>
      cases hfinished : crew.finished with
      | true => exact ⟨[], hfinished⟩
      | false =>
          obtain ⟨m, -, hready⟩ := h.exists_ready hfinished
          rcases h.advance m with ⟨hstuck, -⟩ | ⟨transfers', hstep, hless⟩
          · rw [hready] at hstuck
            cases hstuck
          · obtain ⟨schedule, hschedule⟩ := ih _ (heffort ▸ hless) hstep rfl
            exact ⟨m :: schedule, hschedule⟩

/-- Whoever is done has come to what was expected. -/
theorem resultOf_eq (h : InStep staff size expected transfers crew) {result : ρ}
    (hresult : crew.resultOf m = some result) : result = expected m := by
  obtain ⟨runner, hrunner, hcall⟩ := Option.bind_eq_some_iff.mp hresult
  exact (h.performs m runner hrunner).result_eq hcall

theorem result_of_finished (h : InStep staff size expected transfers crew)
    (hfinished : crew.finished = true) (hrunner : crew.runners[m]? = some runner) :
    runner.call.result? = some (expected m) := by
  refine h.result_of_opsOf hrunner (h.gone m runner hrunner ?_)
  exact List.all_eq_true.mp hfinished runner (List.mem_of_getElem? hrunner)

theorem resultOf_of_finished (h : InStep staff size expected transfers crew)
    (hfinished : crew.finished = true) (hm : m < crew.runners.length) :
    crew.resultOf m = some (expected m) := by
  have hrunner := List.getElem?_eq_getElem hm
  rw [Crew.resultOf, hrunner]
  exact h.result_of_finished hfinished hrunner

theorem filterMap_eq_map_range {α β : Type} {f : α → Option β} {g : Nat → β} {items : List α}
    (h : ∀ i a, items[i]? = some a → f a = some (g i)) :
    items.filterMap f = (List.range items.length).map g := by
  induction items generalizing g with
  | nil => rfl
  | cons a rest ih =>
      rw [List.filterMap_cons_some (h 0 a rfl), List.length_cons, List.range_succ_eq_map,
        List.map_cons, List.map_map, ih fun i b hb => h (i + 1) b hb]
      rfl

theorem results_of_finished (h : InStep staff size expected transfers crew)
    (hfinished : crew.finished = true) :
    crew.results = (List.range crew.runners.length).map expected :=
  filterMap_eq_map_range fun _ _ hrunner => h.result_of_finished hfinished hrunner

/-- Whatever has been come to so far is what was expected of somebody. -/
theorem exists_of_mem_results (h : InStep staff size expected transfers crew) {result : ρ}
    (hmem : result ∈ crew.results) : ∃ m, m < crew.runners.length ∧ result = expected m := by
  obtain ⟨runner, hrunner, hresult⟩ := List.mem_filterMap.mp hmem
  obtain ⟨m, hm⟩ := List.getElem?_of_mem hrunner
  exact ⟨m, (List.getElem?_eq_some_iff.mp hm).1, (h.performs m runner hm).result_eq hresult⟩

/-! ## Turns

A turn is taken apart into steps, so what holds of steps holds of turns and of
rounds. A round in which nobody could make a step would leave the effort as it
is, but then everybody has left. -/

theorem not_gone_of_ready (h : InStep staff size expected transfers crew)
    (hrunner : crew.runners[m]? = some runner) (hready : crew.ready m = true) :
    runner.gone = false := by
  cases hgone : runner.gone with
  | false => rfl
  | true =>
      rw [ready_eq hrunner, Runner.ready,
        h.result_of_opsOf hrunner (h.gone m runner hrunner hgone), hgone] at hready
      cases hready

theorem settle (h : InStep staff size expected transfers crew)
    (hrunner : crew.runners[m]? = some runner) :
    (crew.ready m = false ∧ runner.settle crew.network = (crew.network, runner)) ∨
      Onward staff size expected transfers crew ⟨(runner.settle crew.network).1,
        crew.runners.set m (runner.settle crew.network).2⟩ := by
  induction heffort : effort transfers crew using Nat.strongRecOn
    generalizing transfers crew runner with
  | _ n ih =>
      obtain ⟨hlt, -⟩ := List.getElem?_eq_some_iff.mp hrunner
      cases hready : crew.ready m with
      | false =>
          rw [ready_eq hrunner] at hready
          exact .inl ⟨rfl, Runner.settle_of_stuck h.sound hready⟩
      | true =>
          have hgone : runner.gone = false := h.not_gone_of_ready hrunner hready
          rcases h.advance m with ⟨hstuck, -⟩ | ⟨transfers', hstep, hless⟩
          · rw [hready] at hstuck
            cases hstuck
          · rw [ready_eq hrunner] at hready
            rw [Runner.settle_of_ready h.sound hgone hready]
            rw [advance_eq hrunner] at hstep hless
            have hnext : (crew.runners.set m (runner.advance crew.network).2)[m]? =
                some (runner.advance crew.network).2 := List.getElem?_set_self hlt
            rcases ih _ (heffort ▸ hless) hstep hnext rfl with
              ⟨-, hstuck⟩ | ⟨transfers'', hturn, hless'⟩
            · -- The step was all of the turn.
              dsimp only at hstuck
              rw [hstuck]
              exact .inr ⟨transfers', hstep, hless⟩
            · dsimp only at hturn hless'
              rw [List.set_set] at hturn hless'
              exact .inr ⟨transfers'', hturn, Nat.lt_trans hless' hless⟩

theorem settleAll (done : List (Runner ρ)) {rest : List (Runner ρ)} {network : Network}
    (h : InStep staff size expected transfers ⟨network, done ++ rest⟩) :
    ((∀ m, done.length ≤ m → Crew.ready ⟨network, done ++ rest⟩ m = false) ∧
        Runner.settleAll network rest = (network, rest)) ∨
      Onward staff size expected transfers ⟨network, done ++ rest⟩
        ⟨(Runner.settleAll network rest).1, done ++ (Runner.settleAll network rest).2⟩ := by
  -- Those who had their turn move over to the front, so that the induction is
  -- about one and the same crew.
  induction rest generalizing network done transfers with
  | nil =>
      refine .inl ⟨fun m hm => ?_, rfl⟩
      rw [Crew.ready, List.append_nil, List.getElem?_eq_none hm]
      rfl
  | cons runner rest ih =>
      have hrunner : (done ++ runner :: rest)[done.length]? = some runner := by
        rw [List.getElem?_append_right (Nat.le_refl _), Nat.sub_self]
        rfl
      have hset : ∀ after, (done ++ runner :: rest).set done.length after =
          (done ++ [after]) ++ rest := by
        intro after
        rw [List.set_append_right _ _ (Nat.le_refl _), Nat.sub_self, List.set_cons_zero,
          List.append_cons]
      have hcons : ∀ after (others : List (Runner ρ)),
          done ++ after :: others = (done ++ [after]) ++ others := fun _ _ => List.append_cons ..
      rw [Runner.settleAll_cons]
      dsimp only
      rcases h.settle hrunner with ⟨hready, hstuck⟩ | ⟨transfers', hturn, hless⟩
      · dsimp only at hstuck
        rw [hstuck]
        rw [hcons] at h
        rcases ih _ h with ⟨hrest, hsame⟩ | hrest
        · refine .inl ⟨fun m hm => ?_, by rw [hsame]⟩
          rcases Nat.lt_or_ge done.length m with hlt | hge
          · rw [hcons]
            refine hrest m ?_
            rw [List.length_append, List.length_singleton]
            exact hlt
          · rw [Nat.le_antisymm hge hm]
            exact hready
        · dsimp only
          rw [hcons runner (Runner.settleAll network rest).2, hcons runner rest]
          exact .inr hrest
      · dsimp only at hturn hless
        rw [hset] at hturn hless
        rw [hcons (runner.settle network).2]
        rcases ih _ hturn with ⟨-, hsame⟩ | ⟨transfers'', hrest, hless'⟩
        · rw [hsame]
          exact .inr ⟨transfers', hturn, hless⟩
        · exact .inr ⟨transfers'', hrest, Nat.lt_trans hless' hless⟩

/-- A round keeps the crew in step, and strikes something off if anybody could
make a step. -/
theorem round (h : InStep staff size expected transfers crew) :
    ((∀ m, crew.ready m = false) ∧ crew.round = crew) ∨
      Onward staff size expected transfers crew crew.round := by
  rcases settleAll [] h with ⟨hready, hsame⟩ | honward
  · exact .inl ⟨fun m => hready m (Nat.zero_le m), by rw [Crew.round, hsame]⟩
  · exact .inr honward

/-- In as many rounds as there is effort left, everybody has left. -/
theorem rounds (h : InStep staff size expected transfers crew) {n : Nat}
    (hn : effort transfers crew ≤ n) :
    (∃ transfers', InStep staff size expected transfers' (crew.rounds n)) ∧
      (crew.rounds n).finished = true := by
  induction n generalizing transfers crew with
  | zero =>
      refine ⟨⟨transfers, h⟩, List.all_eq_true.mpr fun runner hmem => ?_⟩
      have hcount : crew.runners.countP (!·.gone) = 0 := by
        rw [effort] at hn
        omega
      simpa using List.countP_eq_zero.mp hcount runner hmem
  | succ n ih =>
      rw [Crew.rounds]
      cases hfinished : crew.finished with
      | true => exact ⟨⟨transfers, h⟩, hfinished⟩
      | false =>
          rcases h.round with ⟨hstuck, -⟩ | ⟨transfers', hround, hless⟩
          · obtain ⟨m, -, hready⟩ := h.exists_ready hfinished
            rw [hstuck m] at hready
            cases hready
          · exact ih hround (by omega)

end InStep

end Syllogistic.Collective
