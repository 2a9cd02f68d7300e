import Syllogistic.Proofs.Collective.Departure

/-!
# The course of a call

A call makes its steps one at a time, and between any two of them the others in the group may
do whatever they like: send frames, look for some, leave. Its course is what it has sent and
taken itself when it is done, with the state of the group at that moment. The frames that the
others send and take are noted as well, so the account of all frames is kept along a course,
and what the call has sent and taken is all that its member has.

A course is taken apart from its front: what the others do first ends in a state where the
call makes its next step, and that step is one of few. A call made of two has a course made of
two. Polling a call that ends is a course in which the others do nothing.
-/

namespace Syllogistic.Collective

variable {α β : Type} {label : String} {size member actor : Nat} {network : Network}
  {session later after : Session} {history : List Event}

/-- The frame that a look for one takes, if it finds one. -/
def Network.lookEvent (network : Network) (endpoint : Endpoint) (source : Nat) : List Event :=
  ((network.look endpoint source).2.bind (·.payload?)).toList.map (.taken endpoint source)

/-- The frame that a step of a call sends or takes, if it does. -/
def Call.event (network : Network) : Call α → List Event
  | .done _ => []
  | .send endpoint target payload _ =>
    match network.send endpoint target payload with
    | .ok _ => [.sent endpoint target payload]
    | .error _ => []
  | .receive endpoint source _ => network.lookEvent endpoint source

/-- One thing that a member of the group does, noted with the frame that it sends or takes. -/
inductive Deed (label : String) (size actor : Nat) (session : Session) : Session → Prop where
  | send {target : Nat} {payload : Payload} {after : Network} :
    session.network.Present 0 actor →
      session.network.send ⟨label, 0, actor, size⟩ target payload = .ok after →
        Deed label size actor session
          ⟨after, session.history ++ [.sent ⟨label, 0, actor, size⟩ target payload]⟩
  | look (source : Nat) :
    session.network.Present 0 actor →
      Deed label size actor session
        ⟨(session.network.look ⟨label, 0, actor, size⟩ source).1,
          session.history ++ session.network.lookEvent ⟨label, 0, actor, size⟩ source⟩
  | leave :
    Deed label size actor session
      ⟨session.network.leave ⟨label, 0, actor, size⟩, session.history⟩

/-- What some of the members do, one thing after the other. -/
def Deeds (label : String) (size : Nat) (who : Nat → Prop) : Session → Session → Prop :=
  Relation.ReflTransGen fun session after =>
    ∃ actor, who actor ∧ Deed label size actor session after

/-- From a state of the group, a member's call comes to a result, in another state, and has
sent and taken some frames. -/
inductive Course (label : String) (size member : Nat) {α : Type} :
    Session → Call α → List Event → Session → α → Prop where
  | done (session : Session) (result : α) :
    Course label size member session (.done result) [] session result
  /-- Before the next step, the others move on. -/
  | meanwhile {session later after : Session} {call : Call α} {history : List Event} {result : α} :
    call.result? = none → Deeds label size (· ≠ member) session later →
      Course label size member later call history after result →
        Course label size member session call history after result
  | step {session after : Session} {network : Network} {call next : Call α}
      {history : List Event} {result : α} :
    call.step session.network = (network, some next) →
      Course label size member ⟨network, session.history ++ call.event session.network⟩ next
          history after result →
        Course label size member session call (call.event session.network ++ history) after result

/-- The account of all frames is kept so far, and a member is there. -/
structure Underway (size member : Nat) (session : Session) : Prop where
  account : Accounted (fun _ => size) session.history session.network
  present : session.network.Present 0 member

/-- The account is kept still, and a member has sent and taken these frames since. -/
structure Affected (size member : Nat) (history : List Event) (session after : Session) :
    Prop where
  account : Accounted (fun _ => size) after.history after.network
  sent : ∀ target, sentFrames after.history 0 member target =
    sentFrames session.history 0 member target ++ sentFrames history 0 member target
  taken : ∀ source, takenFrames after.history 0 source member =
    takenFrames session.history 0 source member ++ takenFrames history 0 source member

/-! ## What is done meanwhile -/

namespace Affected

theorem refl (h : Accounted (fun _ => size) session.history session.network) :
    Affected size member [] session session :=
  ⟨h, fun _ => (List.append_nil _).symm, fun _ => (List.append_nil _).symm⟩

theorem trans {more : List Event} (h : Affected size member history session later)
    (h' : Affected size member more later after) :
    Affected size member (history ++ more) session after where
  account := h'.account
  sent target := by rw [h'.sent, h.sent, sentFrames_append, List.append_assoc]
  taken source := by rw [h'.taken, h.taken, takenFrames_append, List.append_assoc]

end Affected

theorem Network.look_accounted (endpoint : Endpoint)
    (h : Accounted (fun _ => size) history network)
    (hpresent : network.Present endpoint.group endpoint.index) (source : Nat) :
    Accounted (fun _ => size) (history ++ network.lookEvent endpoint source)
      (network.look endpoint source).1 := by
  obtain ⟨mailbox, hmailbox, -⟩ := hpresent
  rw [lookEvent, look_eq_of_mailbox hmailbox]
  cases hlook : mailbox.look source with
  | found left payload => exact h.put hmailbox (Mailbox.look_found hlook)
  | moved left =>
      exact h.put hmailbox (Mailbox.look_moved (h.sound _ _ _ hmailbox).2 hlook).1
  | nothing =>
      dsimp only [Option.bind_some]
      rw [payload?_emptyHanded, Option.toList_none, List.map_nil, List.append_nil]
      exact h

theorem Network.present_look (endpoint : Endpoint) (hsound : network.Sound fun _ => size)
    (source group member : Nat)
    (hpresent : network.Present endpoint.group endpoint.index) :
    (network.look endpoint source).1.Present group member ↔ network.Present group member := by
  obtain ⟨before, hbefore, hopen⟩ := hpresent
  rcases look_cases endpoint hbefore hsound source with heq | ⟨_, after, hleaves, heq⟩
  · rw [heq]
  · rw [heq]
    exact present_put hbefore hleaves _ _

namespace Deed

theorem move (h : Deed label size actor session after) :
    Move label size session.network after.network := by
  cases h with
  | send hpresent hsend => exact .send hpresent hsend
  | look source hpresent => exact .look source hpresent
  | leave => exact .leave actor

theorem account (h : Deed label size actor session after)
    (haccount : Accounted (fun _ => size) session.history session.network) :
    Accounted (fun _ => size) after.history after.network := by
  cases h with
  | send hpresent hsend => exact haccount.send (hpresent.lt haccount.sound) hsend
  | look source hpresent => exact Network.look_accounted _ haccount hpresent source
  | leave => exact haccount.leave _

theorem present (h : Deed label size actor session after)
    (hsound : session.network.Sound fun _ => size) (hne : actor ≠ member)
    (hpresent : session.network.Present 0 member) : after.network.Present 0 member := by
  cases h with
  | send _ hsend => exact (Network.present_send hsend 0 member).mpr hpresent
  | look source hactor => exact (Network.present_look _ hsound source 0 member hactor).mpr hpresent
  | leave => exact Network.present_leave.mpr ⟨hpresent, fun heq => hne heq.2.symm⟩

/-- What others do is not the member's. -/
theorem frames_eq (h : Deed label size actor session after) (hne : actor ≠ member) :
    (∀ target, sentFrames after.history 0 member target =
        sentFrames session.history 0 member target) ∧
      ∀ source, takenFrames after.history 0 source member =
        takenFrames session.history 0 source member := by
  cases h with
  | send _ _ =>
      refine ⟨fun target => ?_, fun source => ?_⟩
      · rw [sentFrames_append, sentFrames_sent, if_neg fun heq => hne heq.2.1, List.append_nil]
      · rw [takenFrames_append, takenFrames_sent, List.append_nil]
  | look source _ =>
      refine ⟨fun target => ?_, fun source => ?_⟩
      · rw [sentFrames_append, Network.lookEvent, sentFrames_map_taken, List.append_nil]
      · rw [takenFrames_append, Network.lookEvent, takenFrames_map_taken,
          if_neg fun heq => hne heq.2.2.symm, List.append_nil]
  | leave => exact ⟨fun _ => rfl, fun _ => rfl⟩

end Deed

namespace Deeds

variable {who : Nat → Prop}

theorem moves (h : Deeds label size who session after) :
    Moves label size session.network after.network := by
  induction h with
  | refl => exact .refl
  | tail _ hdeed ih =>
      obtain ⟨actor, -, hdeed⟩ := hdeed
      exact ih.tail hdeed.move

theorem account (h : Deeds label size who session after)
    (haccount : Accounted (fun _ => size) session.history session.network) :
    Accounted (fun _ => size) after.history after.network := by
  induction h with
  | refl => exact haccount
  | tail _ hdeed ih =>
      obtain ⟨actor, -, hdeed⟩ := hdeed
      exact hdeed.account ih

theorem underway (h : Deeds label size (· ≠ member) session after)
    (hstart : Underway size member session) :
    Underway size member after ∧ Affected size member [] session after := by
  induction h with
  | refl => exact ⟨hstart, .refl hstart.account⟩
  | tail _ hdeed ih =>
      obtain ⟨actor, hne, hdeed⟩ := hdeed
      obtain ⟨hmiddle, haffected⟩ := ih
      obtain ⟨hsent, htaken⟩ := hdeed.frames_eq hne
      have haccount := hdeed.account hmiddle.account
      refine ⟨⟨haccount, hdeed.present hmiddle.account.sound hne hmiddle.present⟩, haccount,
        fun target => ?_, fun source => ?_⟩
      · rw [hsent, haffected.sent]
      · rw [htaken, haffected.taken]

end Deeds

/-! ## The steps of the call itself -/

/-- A step of a call that waits for a frame is a look; the call goes on, or looks once more if
nothing has come of it. -/
theorem Call.step_receive {endpoint : Endpoint} {source : Nat}
    {next : Except Error Payload → Call α} {following : Call α} {last : Network}
    (h : (Call.receive endpoint source next).step network = (last, some following)) :
    last = (network.look endpoint source).1 ∧
      ((network.look endpoint source).2 = none ∧ following = .receive endpoint source next ∨
        ∃ received, following = next received) := by
  rw [step] at h
  rcases hlook : network.look endpoint source with ⟨looked, _ | receipt⟩
  · rw [hlook] at h
    cases h
    exact ⟨rfl, .inl ⟨rfl, rfl⟩⟩
  · rw [hlook] at h
    cases receipt with
    | delivered payload =>
        cases h
        exact ⟨rfl, .inr ⟨_, rfl⟩⟩
    | closed =>
        cases h
        exact ⟨rfl, .inr ⟨_, rfl⟩⟩
    | waiting => cases h

namespace Underway

theorem look (h : Underway size member session) (label : String) (source : Nat) :
    Underway size member ⟨(session.network.look ⟨label, 0, member, size⟩ source).1,
      session.history ++ session.network.lookEvent ⟨label, 0, member, size⟩ source⟩ where
  account := Network.look_accounted ⟨label, 0, member, size⟩ h.account h.present source
  present := (Network.present_look ⟨label, 0, member, size⟩ h.account.sound source 0 member
    h.present).mpr h.present

theorem send (h : Underway size member session) {target : Nat} {payload : Payload}
    (hsend : session.network.send ⟨label, 0, member, size⟩ target payload = .ok network) :
    Underway size member
      ⟨network, session.history ++ [.sent ⟨label, 0, member, size⟩ target payload]⟩ where
  account := h.account.send (h.present.lt h.account.sound) hsend
  present := (Network.present_send hsend 0 member).mpr h.present

theorem step {call next : Call α} (h : Underway size member session)
    (hthrough : call.Through (· = ⟨label, 0, member, size⟩))
    (hstep : call.step session.network = (network, some next)) :
    Underway size member ⟨network, session.history ++ call.event session.network⟩ ∧
      next.Through (· = ⟨label, 0, member, size⟩) := by
  cases hthrough with
  | done result => cases hstep
  | @send endpoint target payload following heq hfollowing =>
      subst heq
      rw [Call.step] at hstep
      rw [Call.event]
      cases hsend : session.network.send ⟨label, 0, member, size⟩ target payload with
      | ok sent =>
          rw [hsend] at hstep
          cases hstep
          exact ⟨h.send hsend, hfollowing _⟩
      | error error =>
          rw [hsend] at hstep
          cases hstep
          rw [List.append_nil]
          exact ⟨h, hfollowing _⟩
  | @receive endpoint source following heq hfollowing =>
      subst heq
      obtain ⟨rfl, ⟨-, rfl⟩ | ⟨received, rfl⟩⟩ := Call.step_receive hstep
      · exact ⟨h.look label source, .receive source rfl hfollowing⟩
      · exact ⟨h.look label source, hfollowing received⟩

end Underway

/-- The account of the frames along a course. -/
theorem Course.affected {call : Call α} {result : α}
    (h : Course label size member session call history after result)
    (hthrough : call.Through (· = ⟨label, 0, member, size⟩))
    (hstart : Underway size member session) : Affected size member history session after := by
  induction h with
  | done => exact .refl hstart.account
  | meanwhile _ hdeeds _ ih =>
      obtain ⟨hlater, haffected⟩ := hdeeds.underway hstart
      exact haffected.trans (ih hthrough hlater)
  | step hstep _ ih =>
      obtain ⟨hlater, hnext⟩ := hstart.step hthrough hstep
      have hown : Affected size member _ _ ⟨_, _ ++ _⟩ :=
        ⟨hlater.account, fun _ => sentFrames_append .., fun _ => takenFrames_append ..⟩
      exact hown.trans (ih hnext hlater)

/-! ## The front of a course -/

namespace Course

theorem done_inv {a result : α}
    (h : Course label size member session (.done a) history after result) :
    history = [] ∧ after = session ∧ result = a := by
  cases h with
  | done => exact ⟨rfl, rfl, rfl⟩
  | meanwhile hresult => cases hresult
  | step hstep => cases hstep

theorem send_inv {target : Nat} {payload : Payload} {next : Except Error Unit → Call α}
    {result : α} (hstart : Underway size member session)
    (h : Course label size member session (.send ⟨label, 0, member, size⟩ target payload next)
      history after result) :
    ∃ ready, Later size session.network ready.network ∧ Underway size member ready ∧
      ((∃ network rest,
          ready.network.send ⟨label, 0, member, size⟩ target payload = .ok network ∧
            history = .sent ⟨label, 0, member, size⟩ target payload :: rest ∧
              Course label size member
                ⟨network, ready.history ++ [.sent ⟨label, 0, member, size⟩ target payload]⟩
                (next (.ok ())) rest after result) ∨
        ∃ error, ready.network.send ⟨label, 0, member, size⟩ target payload = .error error ∧
          Course label size member ready (next (.error error)) history after result) := by
  generalize hcall : Call.send ⟨label, 0, member, size⟩ target payload next = call at h
  induction h with
  | done => cases hcall
  | @meanwhile session _ _ _ _ _ _ hdeeds _ ih =>
      obtain ⟨ready, hlater, hready, hfront⟩ := ih (hdeeds.underway hstart).1 hcall
      exact ⟨ready, (hdeeds.moves.later hstart.account.sound).trans hlater, hready, hfront⟩
  | @step session after network call following history result hstep hrest =>
      subst hcall
      refine ⟨session, .refl hstart.account.sound, hstart, ?_⟩
      rw [Call.step] at hstep
      rw [Call.event] at hrest ⊢
      cases hsend : session.network.send ⟨label, 0, member, size⟩ target payload with
      | ok sent =>
          rw [hsend] at hstep hrest
          cases hstep
          exact .inl ⟨_, _, rfl, rfl, hrest⟩
      | error error =>
          rw [hsend] at hstep hrest
          cases hstep
          rw [List.append_nil] at hrest
          exact .inr ⟨error, rfl, hrest⟩

/-- A call that waits for a frame looks for it over and over; the last look finds it, or finds
that the group is closed. -/
theorem receive_inv {source : Nat} {next : Except Error Payload → Call α} {result : α}
    (hstart : Underway size member session)
    (h : Course label size member session (.receive ⟨label, 0, member, size⟩ source next) history
      after result) :
    ∃ ready network, Later size session.network ready.network ∧ Underway size member ready ∧
      ((∃ payload rest, ready.network.look ⟨label, 0, member, size⟩ source =
            (network, some (.delivered payload)) ∧
          history = .taken ⟨label, 0, member, size⟩ source payload :: rest ∧
            Course label size member
              ⟨network, ready.history ++ [.taken ⟨label, 0, member, size⟩ source payload]⟩
              (next (.ok payload)) rest after result) ∨
        ready.network.look ⟨label, 0, member, size⟩ source = (network, some .closed) ∧
          Course label size member ⟨network, ready.history⟩
            (next (.error (.groupClosed label member source))) history after result) := by
  generalize hcall : Call.receive ⟨label, 0, member, size⟩ source next = call at h
  induction h with
  | done => cases hcall
  | meanwhile _ hdeeds _ ih =>
      obtain ⟨ready, network, hlater, hready, hfront⟩ := ih (hdeeds.underway hstart).1 hcall
      exact ⟨ready, network, (hdeeds.moves.later hstart.account.sound).trans hlater, hready, hfront⟩
  | @step session after network call following history result hstep hrest ih =>
      subst hcall
      have hlooked := hstart.look label source
      have hmove : Move label size session.network _ := .look source hstart.present
      have hlater := hmove.later hstart.account.sound
      have hself := Later.refl hstart.account.sound
      rw [Call.step] at hstep
      rw [Call.event] at hrest ih ⊢
      split at hstep
      · next moved hlook =>
          cases hstep
          rw [hlook] at hlooked hlater
          obtain ⟨ready, last, hready, hunderway, hfront⟩ := ih hlooked rfl
          rw [Network.lookEvent, hlook]
          exact ⟨ready, last, hlater.trans hready, hunderway, hfront⟩
      · next payload hlook =>
          cases hstep
          rw [Network.lookEvent, hlook] at hrest ⊢
          exact ⟨session, network, hself, hstart, .inl ⟨payload, history, hlook, rfl, hrest⟩⟩
      · next hlook =>
          cases hstep
          have hnone : session.network.lookEvent ⟨label, 0, member, size⟩ source = [] := by
            rw [Network.lookEvent, hlook]
            rfl
          rw [hnone, List.append_nil] at hrest
          rw [hnone, List.nil_append]
          exact ⟨session, network, hself, hstart, .inr ⟨hlook, hrest⟩⟩
      · cases hstep

end Course

/-! ## Calls made of two -/

theorem Call.step_andThen {call : Call α} (h : call.result? = none) (f : α → Call β) :
    (call.andThen f).step network =
      ((call.step network).1, (call.step network).2.map (·.andThen f)) := by
  cases call with
  | done result => cases h
  | send endpoint target payload next =>
      rw [andThen, step, step]
      split <;> rfl
  | receive endpoint source next =>
      rw [andThen, step, step]
      split <;> rfl

theorem Call.event_andThen {call : Call α} (h : call.result? = none) (f : α → Call β) :
    (call.andThen f).event network = call.event network := by
  cases call with
  | done result => cases h
  | send endpoint target payload next => rfl
  | receive endpoint source next => rfl

theorem Call.done_or_running (call : Call α) : (∃ a, call = .done a) ∨ call.result? = none := by
  cases call with
  | done result => exact .inl ⟨result, rfl⟩
  | send endpoint target payload next => exact .inr rfl
  | receive endpoint source next => exact .inr rfl

namespace Course

theorem of_eq {call call' : Call α} {result : α} (h : call = call')
    (h' : Course label size member session call' history after result) :
    Course label size member session call history after result :=
  h ▸ h'

theorem andThen_inv {call : Call α} {f : α → Call β} {result : β}
    (h : Course label size member session (call.andThen f) history after result) :
    ∃ a middle first rest, history = first ++ rest ∧
      Course label size member session call first middle a ∧
        Course label size member middle (f a) rest after result := by
  generalize hboth : call.andThen f = both at h
  -- The first part ends where what is left of the first call is its result.
  induction h generalizing call with
  | done session result =>
      cases call with
      | done a => exact ⟨a, session, [], [], rfl, .done .., .of_eq hboth (.done ..)⟩
      | send endpoint target payload next => cases hboth
      | receive endpoint source next => cases hboth
  | meanwhile hresult hdeeds hlater ih =>
      rcases call.done_or_running with ⟨a, rfl⟩ | hrunning
      · exact ⟨a, _, [], _, rfl, .done .., .of_eq hboth (.meanwhile hresult hdeeds hlater)⟩
      · obtain ⟨a, middle, first, rest, rfl, hfirst, hrest⟩ := ih hboth
        exact ⟨a, middle, first, rest, rfl, .meanwhile hrunning hdeeds hfirst, hrest⟩
  | step hstep hnext ih =>
      rcases call.done_or_running with ⟨a, rfl⟩ | hrunning
      · exact ⟨a, _, [], _, rfl, .done .., .of_eq hboth (.step hstep hnext)⟩
      · subst hboth
        rw [Call.step_andThen hrunning] at hstep
        obtain ⟨hlater, hnone⟩ := Prod.mk.inj hstep
        obtain ⟨following, hfollowing, rfl⟩ := Option.map_eq_some_iff.mp hnone
        obtain ⟨a, middle, first, rest, rfl, hfirst, hrest⟩ := ih rfl
        rw [Call.event_andThen hrunning] at hfirst ⊢
        rw [← List.append_assoc]
        exact ⟨a, middle, _, rest, rfl, .step (Prod.ext hlater hfollowing) hfirst, hrest⟩

/-- An error of the first call ends both. -/
theorem bind_inv {ε : Type} {x : ExceptT ε Call α} {f : α → ExceptT ε Call β}
    {result : Except ε β}
    (h : Course label size member session (x >>= f).run history after result) :
    (∃ a middle first rest, history = first ++ rest ∧
        Course label size member session x.run first middle (.ok a) ∧
          Course label size member middle (f a).run rest after result) ∨
      ∃ error, result = .error error ∧
        Course label size member session x.run history after (.error error) := by
  obtain ⟨a | a, middle, first, rest, rfl, hfirst, hrest⟩ := andThen_inv h
  · obtain ⟨rfl, rfl, rfl⟩ := done_inv hrest
    rw [List.append_nil]
    exact .inr ⟨a, rfl, hfirst⟩
  · exact .inl ⟨a, middle, first, rest, rfl, hfirst, hrest⟩

end Course

/-! ## Polling is a course

A look that puts a frame aside leaves a shorter inbox, so looking on ends. -/

theorem Call.history_of_step {call next : Call α} {later : Network}
    (hsound : network.Sound fun _ => size) (h : call.step network = (later, some next)) :
    call.history network = call.event network ++ next.history later := by
  cases call with
  | done result => cases h
  | send endpoint target payload next =>
      rw [step] at h
      rw [history, event]
      cases hsend : network.send endpoint target payload with
      | ok sent =>
          rw [hsend] at h
          cases h
          rfl
      | error error =>
          rw [hsend] at h
          cases h
          rfl
  | receive endpoint source next =>
      rw [step] at h
      rw [history, event, Network.lookEvent, Network.receive_eq_look hsound]
      split at h
      · next hlook =>
          cases h
          rw [hlook, history]
          rfl
      · next hlook =>
          cases h
          rw [hlook]
          rfl
      · next hlook =>
          cases h
          rw [hlook]
          rfl
      · cases h

namespace Course

variable {last : Network}

/-- A poll whose first step leads to a state from which the rest is a course. -/
theorem of_step {call : Call α} {result : α} (hstart : Underway size member session)
    (hpoll : call.poll session.network = (last, .done result)) (hrunning : call.result? = none)
    (hrest : ∀ network next, call.step session.network = (network, some next) →
      next.poll network = (last, .done result) →
        Course label size member ⟨network, session.history ++ call.event session.network⟩ next
          (next.history network)
          ⟨last, session.history ++ call.event session.network ++ next.history network⟩ result) :
    Course label size member session call (call.history session.network)
      ⟨last, session.history ++ call.history session.network⟩ result := by
  have hsound := hstart.account.sound
  rcases hstep : call.step session.network with ⟨network, _ | next⟩
  · have hstuck := Call.poll_of_stuck hsound (congrArg Prod.snd hstep)
    rw [hpoll] at hstuck
    obtain ⟨-, rfl⟩ := Prod.mk.inj hstuck
    cases hrunning
  · rw [Call.poll_of_step hsound hstep] at hpoll
    rw [Call.history_of_step hsound hstep, ← List.append_assoc]
    exact .step hstep (hrest network next hstep hpoll)

theorem of_poll_receive {session : Session} {mailbox : Mailbox} {source : Nat}
    {next : Except Error Payload → Call α} {result : α}
    (hmailbox : session.network.mailbox? 0 member = some mailbox)
    (hstart : Underway size member session)
    (hnext : ∀ received (later : Session), Underway size member later →
      (next received).poll later.network = (last, .done result) →
        Course label size member later (next received) ((next received).history later.network)
          ⟨last, later.history ++ (next received).history later.network⟩ result)
    (hpoll : (Call.receive ⟨label, 0, member, size⟩ source next).poll session.network =
      (last, .done result)) :
    Course label size member session (.receive ⟨label, 0, member, size⟩ source next)
      ((Call.receive ⟨label, 0, member, size⟩ source next).history session.network)
      ⟨last, session.history ++
        (Call.receive ⟨label, 0, member, size⟩ source next).history session.network⟩ result := by
  refine of_step hstart hpoll rfl fun network following hstep hlater => ?_
  have hlooked := hstart.look label source
  obtain ⟨rfl, ⟨hmoved, rfl⟩ | ⟨received, rfl⟩⟩ := Call.step_receive hstep
  · have hlook : session.network.look ⟨label, 0, member, size⟩ source = _ :=
      Network.look_eq_of_mailbox hmailbox source
    cases hfound : mailbox.look source with
    | found left payload =>
        rw [hlook, hfound] at hmoved
        cases hmoved
    | nothing =>
        rw [hlook, hfound] at hmoved
        cases hmoved
    | moved left =>
        -- The call is what it was, and a frame less stands in the inbox.
        obtain ⟨-, hshorter⟩ := Mailbox.look_moved (hstart.account.sound _ _ _ hmailbox).2 hfound
        rw [hfound] at hlook
        have hleft : (session.network.look ⟨label, 0, member, size⟩ source).1.mailbox? 0 member =
            some left := by rw [hlook, Network.mailbox?_put hmailbox, if_pos ⟨rfl, rfl⟩]
        exact of_poll_receive hleft hlooked hnext hlater
  · exact hnext received ⟨_, _⟩ hlooked hlater
termination_by mailbox.inbox.length

/-- Polling a call that ends is its course with nothing happening meanwhile. -/
theorem of_poll {endpoint : Endpoint} {call : Call α} {result : α}
    (hthrough : call.Through (· = endpoint)) (hendpoint : endpoint = ⟨label, 0, member, size⟩)
    (hstart : Underway size member session)
    (hpoll : call.poll session.network = (last, .done result)) :
    Course label size member session call (call.history session.network)
      ⟨last, session.history ++ call.history session.network⟩ result := by
  subst hendpoint
  induction hthrough generalizing session with
  | done a =>
      cases hpoll
      rw [Call.history, List.append_nil]
      exact .done ..
  | @send endpoint target payload next heq hnext ih =>
      subst heq
      refine of_step hstart hpoll rfl fun network following hstep hlater => ?_
      have hunderway := (hstart.step (.send target payload rfl hnext) hstep).1
      rw [Call.step] at hstep
      split at hstep
      · cases hstep
        exact ih _ hunderway hlater
      · cases hstep
        exact ih _ hunderway hlater
  | @receive endpoint source next heq _ ih =>
      subst heq
      obtain ⟨mailbox, hmailbox, -⟩ := hstart.present
      exact of_poll_receive hmailbox hstart (fun received _ => ih received) hpoll

end Course

end Syllogistic.Collective
