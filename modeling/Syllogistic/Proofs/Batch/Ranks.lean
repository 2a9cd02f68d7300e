import Syllogistic.Batch.Rank
import Syllogistic.Proofs.Collective.Fabric
import Syllogistic.Proofs.Collective.Segments

/-!
# The work of the ranks as one choreography

A run is a scatter of chunks over the leaders, then in every group a broadcast of
the chunk and a gather of the columns, then a gather of the records over the
leaders. The course of a run says what is in the frames. Written as transfers,
these collectives are a choreography, and the work of the rank at each place of
the grid performs what it asks of that rank: the leaders have a part in the first
and the last collective, and each rank in those of its own group.
-/

namespace Syllogistic.Batch

open Collective Collective.Fabric

/-- What the ranks of a run send each other: each group's chunk, the column of each
of its members, and its records. -/
structure Course where
  chunk : Nat → List Syllogism
  column : Nat → Nat → List EngineResult
  records : Nat → List Record

/-- The endpoints of all ranks by group; the executive group comes after the
others. -/
def staff (layout : Layout) : Staff where
  endpoint group index :=
    if group < layout.groups then workEndpoint layout group index
    else ⟨"executive", group, index, layout.groups⟩
  owner group index :=
    if group < layout.groups then group * layout.width + index else index * layout.width
  group_endpoint group index := by
    split <;> rfl
  index_endpoint group index := by
    split <;> rfl

namespace Course

variable (course : Course) (layout : Layout)

/-- The chunks on their way to the leaders. -/
def scatter : List Transfer :=
  fanOut layout.groups layout.groups 0 fun group => Wire.encode (course.chunk group)

/-- The chunk on its way to the members of a group, and their columns on the way
back. -/
def row (group : Nat) : List Transfer :=
  fanOut group layout.width 0 (fun _ => Wire.encode (course.chunk group)) ++
    fanIn group layout.width 0 fun index => Wire.encode (course.column group index)

/-- The records on their way to the master. -/
def gather : List Transfer :=
  fanIn layout.groups layout.groups 0 fun group => Wire.encode (course.records group)

/-- All transfers of a run. -/
def transfers : List Transfer :=
  course.scatter layout ++ (List.range layout.groups).flatMap (course.row layout) ++
    course.gather layout

/-- What is sent comes out of its frames as it went in. -/
structure Travels : Prop where
  chunk : ∀ group, group < layout.groups → Collective.Travels (course.chunk group)
  column : ∀ group index, group < layout.groups → index < layout.width →
    Collective.Travels (course.column group index)
  records : ∀ group, group < layout.groups → Collective.Travels (course.records group)

end Course

/-! ## The staff of a grid -/

section Staff

variable {layout : Layout} {group index : Nat}

theorem endpoint_work (hgroup : group < layout.groups) (index : Nat) :
    (staff layout).endpoint group index = workEndpoint layout group index := if_pos hgroup

theorem endpoint_leader (group : Nat) :
    (staff layout).endpoint layout.groups group = leaderEndpoint layout group :=
  if_neg (Nat.lt_irrefl _)

theorem owner_work (hgroup : group < layout.groups) (index : Nat) :
    (staff layout).owner group index = group * layout.width + index := if_pos hgroup

theorem owner_leader (group : Nat) :
    (staff layout).owner layout.groups group = group * layout.width + 0 :=
  if_neg (Nat.lt_irrefl _)

theorem separate_work (hgroup : group < layout.groups) (size : Nat) :
    (staff layout).Separate group size := by
  intro i _ j _ heq
  rw [owner_work hgroup, owner_work hgroup] at heq
  exact Nat.add_left_cancel heq

theorem separate_leaders (h : layout.Grid) (size : Nat) :
    (staff layout).Separate layout.groups size := by
  intro i _ j _ heq
  rw [owner_leader, owner_leader] at heq
  exact (Layout.Grid.place_inj h.width_pos h.width_pos heq).1

/-! ## What a run asks of the rank at a place

Of all rows of the grid, only its own asks anything of a rank; and only the
leaders are asked for the collectives of the executive group. -/

theorem flatMap_range_eq {α : Type} {f : Nat → List α} {n k : Nat} (hk : k < n)
    (h : ∀ other, other < n → other ≠ k → f other = []) : (List.range n).flatMap f = f k := by
  induction n with
  | zero => exact absurd hk (Nat.not_lt_zero k)
  | succ n ih =>
      rw [List.range_succ, List.flatMap_append, List.flatMap_singleton]
      rcases Nat.lt_or_ge k n with hlt | hge
      · rw [ih hlt fun other hother => h other (Nat.lt_succ_of_lt hother),
          h n (Nat.lt_succ_self n) (Nat.ne_of_gt hlt), List.append_nil]
      · obtain rfl : k = n := by omega
        have hnone : (List.range k).flatMap f = [] := by
          refine List.flatMap_eq_nil_iff.mpr fun other hother => ?_
          have hlt := List.mem_range.mp hother
          exact h other (Nat.lt_succ_of_lt hlt) (Nat.ne_of_lt hlt)
        rw [hnone, List.nil_append]

theorem opsOf_rows (course : Course) (h : layout.Grid) (hgroup : group < layout.groups)
    (hindex : index < layout.width) :
    (staff layout).opsOf (group * layout.width + index)
        ((List.range layout.groups).flatMap (course.row layout)) =
      (staff layout).opsOf (group * layout.width + index) (course.row layout group) := by
  rw [Staff.opsOf, List.filterMap_flatMap]
  refine flatMap_range_eq hgroup fun other hother hne => ?_
  have howner : ∀ i, i < layout.width →
      (staff layout).owner other i ≠ group * layout.width + index := by
    intro i hi heq
    rw [owner_work hother] at heq
    exact hne (Layout.Grid.place_inj hi hindex heq).1
  show Staff.opsOf _ _ _ = []
  rw [Course.row, Staff.opsOf_append, Staff.opsOf_fanOut_eq_nil howner h.width_pos,
    Staff.opsOf_fanIn_eq_nil howner h.width_pos]
  rfl

/-- A rank that leads no group has no part in what the leaders do. -/
theorem owner_leader_ne (h : layout.Grid) (hindex : index < layout.width) (hne : index ≠ 0)
    (other : Nat) : (staff layout).owner layout.groups other ≠ group * layout.width + index := by
  rw [owner_leader]
  exact fun heq => hne (Layout.Grid.place_inj h.width_pos hindex heq).2.symm

end Staff

/-! ## The work of a rank -/

section Work

variable {layout : Layout} {course : Course} {group index : Nat}

theorem performs_collective {α : Type} {attempt : Attempt α} {ops : List Op} {a : α}
    (h : attempt.run.Performs ops (.ok a)) : (collective attempt).run.Performs ops (.ok a) := by
  have hdone := Call.Performs.andThen
    (f := fun outcome => .done (outcome.mapError RankError.collective)) h (.done _)
  rw [List.append_nil] at hdone
  exact hdone

theorem performs_leaderChunk (h : layout.Grid) (hgroup : group < layout.groups)
    (hindex : index < layout.width) (htravels : course.Travels layout)
    {formulas : Option (List Syllogism)}
    (hformulas : group = 0 → index = 0 →
      formulas.map (partition · layout.groups) =
        some ((List.range layout.groups).map course.chunk)) :
    (leaderChunk (channelsAt layout group index) formulas).run.Performs
      ((staff layout).opsOf (group * layout.width + index) (course.scatter layout))
      (.ok (if index = 0 then some (course.chunk group) else none)) := by
  rw [leaderChunk, channelsAt]
  by_cases hzero : index = 0
  · subst hzero
    rw [if_pos rfl, if_pos rfl, ← owner_leader]
    have hscatter := Endpoint.performs_scatter (separate_leaders h layout.groups)
      (by rw [endpoint_leader]; rfl) h.groups_pos hgroup htravels.chunk
      (formulas.map (partition · layout.groups)) (fun hroot => hformulas hroot rfl)
    rw [endpoint_leader] at hscatter
    exact Call.performs_return (performs_collective hscatter) some
  · rw [if_neg hzero, if_neg hzero, Course.scatter,
      Staff.opsOf_fanOut_eq_nil (fun other _ => owner_leader_ne h hindex hzero other)
        h.groups_pos]
    exact Call.performs_pure none

theorem performs_leaderRecords (h : layout.Grid) (hgroup : group < layout.groups)
    (htravels : course.Travels layout) {policy : Policy} {columns : List (List EngineResult)}
    (hrecords : policy.consolidateGroup (course.chunk group) columns layout.width =
      .ok (course.records group)) (rank : Nat) :
    (leaderRecords policy rank (channelsAt layout group 0) (course.chunk group)
      columns).run.Performs ((staff layout).opsOf (group * layout.width + 0) (course.gather layout))
      (.ok (if group = 0 then some ((List.range layout.groups).map course.records).flatten
        else none)) := by
  rw [leaderRecords, channelsAt]
  dsimp only [workEndpoint]
  rw [hrecords, if_pos rfl, ← owner_leader]
  have hgather := Endpoint.performs_gather (separate_leaders h layout.groups)
    (by rw [endpoint_leader]; rfl) h.groups_pos hgroup htravels.records
  rw [endpoint_leader] at hgather
  have hflatten := Call.performs_return (performs_collective hgather)
    (Option.map List.flatten)
  rw [apply_ite (Option.map List.flatten)] at hflatten
  exact hflatten

/-- The worker of a rank once it has decided its group's chunk. -/
def workerAfter (terms : Terms) (course : Course) (group : Nat) (worker : Worker) : Worker :=
  (worker.run terms.base (course.chunk group)).2

theorem performs_account {α : Type} {terms : Terms} {tally : Tally} {next : Unit → Task α}
    {ops : List Op} {a : Except RankError α} (h : tally.Within terms.longest)
    (hnext : (next ()).run.Performs ops a) :
    (account terms tally >>= next).run.Performs ops a := by
  rw [account, if_pos h]
  exact hnext

theorem performs_work (h : layout.Grid) (hgroup : group < layout.groups)
    (hindex : index < layout.width) (htravels : course.Travels layout) {terms : Terms}
    {worker : Worker} (formulas : Option (List Syllogism))
    (hformulas : group = 0 → index = 0 →
      formulas.map (partition · layout.groups) =
        some ((List.range layout.groups).map course.chunk))
    (hcolumn : (worker.run terms.base (course.chunk group)).1 = course.column group index)
    (hwithin : (workerAfter terms course group worker).tally.Within terms.longest)
    (hrecords : terms.policy.consolidateGroup (course.chunk group)
      ((List.range layout.width).map (course.column group)) layout.width =
        .ok (course.records group)) (position : Position) :
    (work terms position (channelsAt layout group index) worker formulas).run.Performs
      ((staff layout).opsOf (group * layout.width + index) (course.transfers layout))
      (.ok ⟨⟨position.rank, position.role, (workerAfter terms course group worker).backend.name,
          (workerAfter terms course group worker).tally⟩,
        if index = 0 ∧ group = 0 then
          some ((List.range layout.groups).map course.records).flatten
        else none⟩) := by
  have hbroadcast := Endpoint.performs_broadcast (separate_work hgroup layout.width)
    (by rw [endpoint_work hgroup]; rfl) h.width_pos hindex (htravels.chunk group hgroup)
    (if index = 0 then some (course.chunk group) else none) fun hroot => if_pos hroot
  have hgather := Endpoint.performs_gather (separate_work hgroup layout.width)
    (by rw [endpoint_work hgroup]; rfl) h.width_pos hindex
    (htravels.column group · hgroup)
  rw [endpoint_work hgroup, owner_work hgroup] at hbroadcast hgather
  rw [Course.transfers, Staff.opsOf_append, Staff.opsOf_append, opsOf_rows course h hgroup hindex,
    Course.row, Staff.opsOf_append, List.append_assoc, List.append_assoc]
  rw [work]
  refine Call.performs_bind (performs_leaderChunk h hgroup hindex htravels hformulas) ?_
  refine Call.performs_bind (performs_collective hbroadcast) ?_
  rcases hrun : worker.run terms.base (course.chunk group) with ⟨results, after⟩
  rw [workerAfter, hrun] at hwithin
  rw [hrun] at hcolumn
  dsimp only at hcolumn
  dsimp only [workerAfter]
  rw [hrun, hcolumn]
  refine performs_account hwithin ?_
  refine Call.performs_bind (performs_collective hgather) ?_
  by_cases hzero : index = 0
  · subst hzero
    rw [if_pos rfl]
    simp only [true_and]
    exact Call.performs_return
      (performs_leaderRecords h hgroup htravels hrecords position.rank)
      (RankOutcome.mk ⟨position.rank, position.role, after.backend.name, after.tally⟩)
  · rw [if_neg hzero, if_neg fun hboth => hzero hboth.1, Course.gather,
      Staff.opsOf_fanIn_eq_nil (fun other _ => owner_leader_ne h hindex hzero other) h.groups_pos]
    exact Call.performs_pure _

end Work

end Syllogistic.Batch
