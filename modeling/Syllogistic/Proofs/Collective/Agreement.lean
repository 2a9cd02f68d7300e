import Syllogistic.Proofs.Collective.Completion
import Syllogistic.Proofs.Collective.Segments

/-!
# Members that call the same collectives agree

All members of a group go through one list of exchanges, each a collective with
its own root and type of values, and give up their endpoints when they are done.
Fast members may be several exchanges ahead of slow ones, the roots change, and
the frames of all exchanges and senders stand in the same inboxes. Still every
call comes to what its exchange says for the member, whatever the order of the
members' steps, and nobody gets stuck.

The exchanges of the list, one after the other, are a choreography that the
members are in step with when they begin.
-/

namespace Syllogistic.Collective

/-- A collective of a group with `n` members, with what every member brings to it.
The root of a broadcast or a scatter has what it needs; what the others pass is
theirs to choose. -/
inductive Exchange (n : Nat) : Type 1 where
  | broadcast {α : Type} [Wire.Codec α] (root : Fin n) (value : α) (others : Fin n → Option α)
  | scatter {α : Type} [Wire.Codec α] (root : Fin n) (items : Fin n → α)
      (others : Fin n → Option (List α))
  | gather {α : Type} [Wire.Codec α] (root : Fin n) (values : Fin n → α)

namespace Exchange

variable {n : Nat}

/-- What a member gets from an exchange. -/
def Outcome : Exchange n → Type
  | @broadcast _ α _ _ _ _ => α
  | @scatter _ α _ _ _ _ => α
  | @gather _ α _ _ _ => Option (List α)

/-- The call of a member. -/
def call (endpoint : Endpoint) (m : Fin n) : (exchange : Exchange n) → Attempt exchange.Outcome
  | @broadcast _ α _ root value others =>
    endpoint.broadcast (α := α) root (if m = root then some value else others m)
  | @scatter _ α _ root items others =>
    endpoint.scatter (α := α) root (if m = root then some (List.ofFn items) else others m)
  | @gather _ _ _ root values => endpoint.gather root (values m)

/-- What the exchange is to bring a member. -/
def specified (m : Fin n) : (exchange : Exchange n) → exchange.Outcome
  | broadcast _ value _ => value
  | scatter _ items _ => items m
  | gather root values => if m = root then some (List.ofFn values) else none

/-- All values that are sent come out of their frames as they went in. -/
def Faithful : Exchange n → Prop
  | broadcast _ value _ => Travels value
  | scatter _ items _ => ∀ m, Travels (items m)
  | gather _ values => ∀ m, Travels (values m)

/-- What a member gets from some exchanges. -/
def Outcomes : List (Exchange n) → Type
  | [] => Unit
  | exchange :: rest => exchange.Outcome × Outcomes rest

/-- The calls of a member, one after the other. -/
def callAll (endpoint : Endpoint) (m : Fin n) :
    (exchanges : List (Exchange n)) → Attempt (Outcomes exchanges)
  | [] => pure ()
  | exchange :: rest => do
    let outcome ← exchange.call endpoint m
    let outcomes ← callAll endpoint m rest
    return (outcome, outcomes)

/-- What some exchanges are to bring a member. -/
def specifiedAll (m : Fin n) : (exchanges : List (Exchange n)) → Outcomes exchanges
  | [] => ()
  | exchange :: rest => (exchange.specified m, specifiedAll m rest)

/-- The endpoint of each member of a group. -/
def endpoint (label : String) (n m : Nat) : Endpoint := ⟨label, 0, m, n⟩

/-- The members of a group before they go through some exchanges. -/
def crew (label : String) (exchanges : List (Exchange n)) :
    Crew (Except Error (Outcomes exchanges)) where
  network := [Group.create n]
  runners := (List.finRange n).map fun m : Fin n =>
    { endpoints := [endpoint label n m]
      call := (callAll (endpoint label n m) m exchanges).run }

/-! ## The exchanges as a choreography -/

/-- Values of members, of which every number is one. -/
def onMembers {α : Type} (root : Fin n) (values : Fin n → α) (m : Nat) : α :=
  if h : m < n then values ⟨m, h⟩ else values root

theorem onMembers_val {α : Type} (root : Fin n) (values : Fin n → α) (m : Fin n) :
    onMembers root values m = values m := dif_pos m.isLt

theorem map_onMembers {α : Type} (root : Fin n) (values : Fin n → α) :
    (List.range n).map (onMembers root values) = List.ofFn values := by
  refine List.ext_getElem (by simp) fun m hm _ => ?_
  rw [List.getElem_map, List.getElem_range, List.getElem_ofFn, onMembers, dif_pos]

theorem travels_onMembers {α : Type} [Wire.Codec α] {values : Fin n → α}
    (h : ∀ m, Travels (values m)) (root : Fin n) (m : Nat) : Travels (onMembers root values m) := by
  rw [onMembers]
  split
  · exact h _
  · exact h root

/-- The transfers of an exchange. -/
def transfers : Exchange n → List Transfer
  | broadcast root value _ => fanOut 0 n root fun _ => Wire.encode value
  | scatter root items _ => fanOut 0 n root fun m => Wire.encode (onMembers root items m)
  | gather root values => fanIn 0 n root fun m => Wire.encode (onMembers root values m)

/-- Every member is a runner of its own. -/
def staff (label : String) (n : Nat) : Staff where
  endpoint group index := ⟨label, group, index, n⟩
  owner _ index := index
  group_endpoint _ _ := rfl
  index_endpoint _ _ := rfl

theorem separate_staff (label : String) (n : Nat) : (staff label n).Separate 0 n :=
  fun _ _ _ _ h => h

theorem getElem?_runners {label : String} {exchanges : List (Exchange n)} (m : Fin n) :
    (crew label exchanges).runners[(m : Nat)]? =
      some { endpoints := [endpoint label n m]
             call := (callAll (endpoint label n m) m exchanges).run } := by
  rw [crew, List.getElem?_map, List.getElem?_eq_getElem (by simp), List.getElem_finRange]
  rfl

theorem length_runners (label : String) (exchanges : List (Exchange n)) :
    (crew label exchanges).runners.length = n := by
  rw [crew, List.length_map, List.length_finRange]

theorem holds_crew {label : String} {exchanges : List (Exchange n)} (m : Nat) (hm : m < n) :
    (staff label n).Holds (crew label exchanges).runners 0 m :=
  ⟨_, getElem?_runners ⟨m, hm⟩, List.mem_singleton.mpr rfl⟩

theorem performs_call {exchange : Exchange n} (h : exchange.Faithful) (label : String)
    (m : Fin n) :
    (exchange.call (endpoint label n m) m).run.Performs
      ((staff label n).opsOf m exchange.transfers) (.ok (exchange.specified m)) := by
  cases exchange with
  | broadcast root value others =>
      exact Endpoint.performs_broadcast (separate_staff label n) rfl root.isLt m.isLt h
        (if m = root then some value else others m) fun heq => if_pos (Fin.ext heq)
  | scatter root items others =>
      have hscatter := Endpoint.performs_scatter (separate_staff label n) rfl root.isLt m.isLt
        (fun other _ => travels_onMembers h root other)
        (if m = root then some (List.ofFn items) else others m)
        fun heq => by rw [if_pos (Fin.ext heq), map_onMembers]
      rw [onMembers_val] at hscatter
      exact hscatter
  | gather root values =>
      have hgather := Endpoint.performs_gather (separate_staff label n) rfl root.isLt m.isLt
        (fun other _ => travels_onMembers h root other)
      rw [onMembers_val, map_onMembers] at hgather
      simp only [← Fin.ext_iff] at hgather
      exact hgather

theorem performs_callAll {exchanges : List (Exchange n)}
    (h : ∀ exchange ∈ exchanges, exchange.Faithful) (label : String) (m : Fin n) :
    (callAll (endpoint label n m) m exchanges).run.Performs
      ((staff label n).opsOf m (exchanges.flatMap transfers)) (.ok (specifiedAll m exchanges)) := by
  induction exchanges with
  | nil => exact .done _
  | cons exchange rest ih =>
      rw [List.flatMap_cons, Staff.opsOf_append]
      refine Call.performs_bind (performs_call (h exchange List.mem_cons_self) label m) ?_
      exact Call.performs_return (ih fun other hother => h other (List.mem_cons_of_mem _ hother))
        (exchange.specified m, ·)

theorem sent_transfers (exchange : Exchange n) :
    ∀ transfer ∈ exchange.transfers, transfer.sent = false := by
  cases exchange with
  | broadcast root value others => exact sent_fanOut
  | scatter root items others => exact sent_fanOut
  | gather root values => exact sent_fanIn

theorem proper_transfers {ρ : Type} {label : String} {runners : List (Runner ρ)}
    (hholds : ∀ m, m < n → (staff label n).Holds runners 0 m) (exchange : Exchange n) :
    ∀ transfer ∈ exchange.transfers, (staff label n).Proper runners transfer := by
  cases exchange with
  | broadcast root value others =>
      exact proper_fanOut (separate_staff label n) hholds root.isLt
  | scatter root items others =>
      exact proper_fanOut (separate_staff label n) hholds root.isLt
  | gather root values => exact proper_fanIn (separate_staff label n) hholds root.isLt

/-- What a member is expected to come to; a number that is no member's comes to
nothing. -/
def expected (label : String) (exchanges : List (Exchange n)) (m : Nat) :
    Except Error (Outcomes exchanges) :=
  if h : m < n then .ok (specifiedAll ⟨m, h⟩ exchanges) else .error (.rootOutOfRange label m n)

theorem inStep_crew {exchanges : List (Exchange n)}
    (h : ∀ exchange ∈ exchanges, exchange.Faithful) (label : String) :
    InStep (staff label n) (fun group => [n][group]?.getD 0) (expected label exchanges)
      (exchanges.flatMap transfers) (crew label exchanges) := by
  refine InStep.start (Network.sound_create [n]) (Network.stream_create [n]) ?_ ?_ ?_
  · intro transfer hmem
    obtain ⟨exchange, -, hmem⟩ := List.mem_flatMap.mp hmem
    exact exchange.sent_transfers transfer hmem
  · intro transfer hmem
    obtain ⟨exchange, -, hmem⟩ := List.mem_flatMap.mp hmem
    exact exchange.proper_transfers holds_crew transfer hmem
  · intro m runner hrunner
    have hm : m < n := by
      obtain ⟨hlt, -⟩ := List.getElem?_eq_some_iff.mp hrunner
      rwa [length_runners] at hlt
    rw [getElem?_runners ⟨m, hm⟩] at hrunner
    cases hrunner
    refine ⟨?_, rfl, fun other hother => ?_⟩
    · rw [expected, dif_pos hm]
      exact performs_callAll h label ⟨m, hm⟩
    · rw [List.mem_singleton.mp hother]
      exact ⟨rfl, Network.present_create [n] rfl hm⟩

/-- Members that go through the same exchanges, in any order of their steps: no
call fails, every call comes to what its exchange says for the member, somebody
can make a step until all have left, and everybody can be brought to the end.
A member that is halfway has its first outcomes already; they are as specified
too, as the schedule goes on to an end where all of the member's outcomes are. -/
theorem exchanges_agree (label : String) (exchanges : List (Exchange n))
    (h : ∀ exchange ∈ exchanges, exchange.Faithful) (schedule : List Nat) :
    (∀ (m : Fin n) outcome, ((crew label exchanges).follow schedule).resultOf m = some outcome →
      outcome = .ok (specifiedAll m exchanges)) ∧
    (((crew label exchanges).follow schedule).finished = false →
      ∃ m : Fin n, ((crew label exchanges).follow schedule).ready m = true) ∧
    ∃ rest, ((crew label exchanges).follow (schedule ++ rest)).finished = true ∧
      ∀ m : Fin n, ((crew label exchanges).follow (schedule ++ rest)).resultOf m =
        some (.ok (specifiedAll m exchanges)) := by
  have hlength : ∀ schedule, ((crew label exchanges).follow schedule).runners.length = n := by
    intro schedule
    rw [Crew.length_follow, length_runners]
  have hexpected : ∀ m : Fin n, expected label exchanges m = .ok (specifiedAll m exchanges) :=
    fun m => dif_pos m.isLt
  obtain ⟨remaining, hstep⟩ := (inStep_crew h label).follow schedule
  refine ⟨fun m outcome houtcome => ?_, fun hfinished => ?_, ?_⟩
  · rw [← hexpected]
    exact hstep.resultOf_eq houtcome
  · obtain ⟨m, hm, hready⟩ := hstep.exists_ready hfinished
    rw [hlength] at hm
    exact ⟨⟨m, hm⟩, hready⟩
  · obtain ⟨rest, hfinished⟩ := hstep.exists_finished
    obtain ⟨remaining, hrest⟩ := (inStep_crew h label).follow (schedule ++ rest)
    have happend : (crew label exchanges).follow (schedule ++ rest) =
        ((crew label exchanges).follow schedule).follow rest := List.foldl_append
    rw [← happend] at hfinished
    refine ⟨rest, hfinished, fun m => ?_⟩
    rw [← hexpected]
    exact hrest.resultOf_of_finished hfinished (by rw [hlength]; exact m.isLt)

/-- Three members whose root changes from one exchange to the next, of which the
last is ahead of the others at first. -/
theorem exchanges_agree_three :
    let exchanges : List (Exchange 3) :=
      [.gather 0 fun m => m == 1, .broadcast 2 true fun _ => none,
        .scatter 1 (fun m => m != 0) fun _ => none]
    (∀ exchange ∈ exchanges, exchange.Faithful) ∧
    ∃ rest, ((crew "work-0" exchanges).follow ([2, 0, 2] ++ rest)).finished = true ∧
      ∀ m : Fin 3, ((crew "work-0" exchanges).follow ([2, 0, 2] ++ rest)).resultOf m =
        some (.ok (specifiedAll m exchanges)) := by
  intro exchanges
  have htravels : ∀ b : Bool, Travels b := fun b => by cases b <;> rfl
  have hfaithful : ∀ exchange ∈ exchanges, exchange.Faithful := by
    intro exchange hmem
    rcases List.mem_cons.mp hmem with rfl | hmem
    · exact fun m => htravels (m == 1)
    rcases List.mem_pair.mp hmem with rfl | rfl
    · exact htravels true
    · exact fun m => htravels (m != 0)
  exact ⟨hfaithful, (exchanges_agree "work-0" exchanges hfaithful [2, 0, 2]).2.2⟩

end Exchange

end Syllogistic.Collective
