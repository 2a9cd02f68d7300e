import Syllogistic.Batch.Run
import Syllogistic.Proofs.Batch.Frames
import Syllogistic.Proofs.Batch.Ranks
import Syllogistic.Proofs.Collective.Completion
import Syllogistic.Proofs.Layout.Partition

/-!
# A run by the backends of its ranks

Setting a run up gives each rank a backend, and nothing else of the roster is used after
that. From the backends of the ranks follows the whole course of the run: the formulas in
chunks, the column of each rank on the chunk of its group, and the records that the plain loop
over a group's backends decides. The ranks are a crew that is in step with this course. So on
every schedule no rank fails, nobody gets stuck before all have left, and what the ranks end
with does not depend on the schedule. Taking turns is one of these schedules, and the number
of rounds that a run allows itself is enough for it.
-/

namespace Syllogistic.Batch

open Collective Collective.Fabric

/-- The formulas of a group. -/
def chunkOf (layout : Layout) (formulas : List Syllogism) (group : Nat) : List Syllogism :=
  (partition formulas layout.groups)[group]?.getD []

/-- The backends of a group's ranks, by role. -/
def groupBackends (layout : Layout) (backend : Nat → Backend) (group : Nat) : List Backend :=
  (List.range layout.width).map fun index => backend (group * layout.width + index)

/-- The fabric has the endpoints of the layout's grid. -/
structure Laid (layout : Layout) (fabric : Fabric) : Prop where
  network : fabric.network = (sizes layout).map Group.create
  length : fabric.channels.length = layout.total
  channels : ∀ group index, group < layout.groups → index < layout.width →
    fabric.channels[group * layout.width + index]? = some (channelsAt layout group index)

theorem laid_of_build {layout : Layout} {fabric : Fabric} (h : Fabric.build layout = .ok fabric) :
    Laid layout fabric := by
  obtain ⟨built, hbuilt, hnetwork, hlength, hchannels⟩ := build_eq (check_of_build h)
  cases hbuilt.symm.trans h
  exact ⟨hnetwork, hlength, hchannels⟩

namespace Plan

variable {ε : Type}

/-- The course of a run whose ranks have these backends. -/
def courseBy (plan : Plan ε) (backend : Nat → Backend) (formulas : List Syllogism) : Course where
  chunk := chunkOf plan.layout formulas
  column group index :=
    (backend (group * plan.layout.width + index)).column plan.terms.base
      (chunkOf plan.layout formulas group)
  records group :=
    (sequential plan.terms.policy (groupBackends plan.layout backend group) plan.terms.base
      (chunkOf plan.layout formulas group)).toOption.getD []

def seatBy (plan : Plan ε) (backend : Nat → Backend) (rank : Nat) : Position × Worker :=
  (⟨plan.layout, rank⟩, { backend := backend rank })

/-- What a rank ends with. -/
def outcomeBy (plan : Plan ε) (backend : Nat → Backend) (formulas : List Syllogism) (rank : Nat) :
    RankOutcome :=
  let course := plan.courseBy backend formulas
  let (position, worker) := plan.seatBy backend rank
  let after := workerAfter plan.terms course position.group worker
  ⟨⟨rank, position.role, after.backend.name, after.tally⟩,
    if rank = 0 then some ((List.range plan.layout.groups).map course.records).flatten else none⟩

/-- The ranks at the start. -/
def ranksBy (plan : Plan ε) (backend : Nat → Backend) (fabric : Fabric)
    (formulas : List Syllogism) : Ranks :=
  plan.start ((List.range plan.layout.total).map (plan.seatBy backend)) fabric formulas

/-- The rank at a place, before it has done anything. -/
def runnerBy (plan : Plan ε) (backend : Nat → Backend) (formulas : List Syllogism)
    (group index : Nat) : Runner (Except RankError RankOutcome) :=
  let rank := group * plan.layout.width + index
  { endpoints := (channelsAt plan.layout group index).endpoints
    call := (work plan.terms ⟨plan.layout, rank⟩ (channelsAt plan.layout group index)
      { backend := backend rank } (if rank == 0 then some formulas else none)).run }

/-- What the master has when all ranks have ended. -/
def summaryBy (plan : Plan ε) (backend : Nat → Backend) (formulas : List Syllogism) : Summary where
  records := ((List.range plan.layout.groups).map (plan.courseBy backend formulas).records).flatten
  reports := (List.range plan.layout.total).map fun rank =>
    (plan.outcomeBy backend formulas rank).report
  engines := plan.active

/-- The ranks stand in a grid, and nothing they send is too long for a frame. -/
structure Sized (plan : Plan ε) (backend : Nat → Backend) (formulas : List Syllogism) : Prop where
  grid : plan.layout.Grid
  total : plan.layout.total < 2 ^ 64
  backends : ∀ rank, rank < plan.layout.total → (backend rank).Sized
  input : Wire.Fits formulas

/-- The times of all ranks can be told, too. -/
structure Fits (plan : Plan ε) (backend : Nat → Backend) (formulas : List Syllogism) : Prop
    extends plan.Sized backend formulas where
  within : ∀ rank, rank < plan.layout.total →
    (plan.outcomeBy backend formulas rank).report.tally.Within plan.terms.longest

end Plan

section Course

variable {ε : Type} {plan : Plan ε} {layout : Layout} {backend : Nat → Backend}
  {formulas : List Syllogism} {group index : Nat}

theorem map_getElem?_getD {α : Type} (default : α) (items : List α) :
    (List.range items.length).map (fun i => items[i]?.getD default) = items := by
  refine List.ext_getElem (by simp) fun i hi _ => ?_
  rw [List.length_map, List.length_range] at hi
  simp [hi]

theorem map_chunkOf (h : layout.Grid) (formulas : List Syllogism) :
    (List.range layout.groups).map (chunkOf layout formulas) =
      partition formulas layout.groups := by
  have hchunks := map_getElem?_getD [] (partition formulas layout.groups)
  rw [length_partition formulas h.groups_pos] at hchunks
  exact hchunks

theorem fits_chunkOf (h : layout.Grid) (hformulas : Wire.Fits formulas) (group : Nat) :
    Wire.Fits (chunkOf layout formulas group) := by
  rw [chunkOf]
  cases hchunk : (partition formulas layout.groups)[group]? with
  | none => exact fits_sublist hformulas (List.nil_sublist _)
  | some chunk =>
      refine fits_sublist hformulas ?_
      rw [← flatten_partition formulas h.groups_pos]
      exact List.sublist_flatten_of_mem (List.mem_of_getElem? hchunk)

theorem length_groupBackends (layout : Layout) (backend : Nat → Backend) (group : Nat) :
    (groupBackends layout backend group).length = layout.width := by
  rw [groupBackends, List.length_map, List.length_range]

theorem groupBackends_ne_nil (h : layout.Grid) (backend : Nat → Backend) (group : Nat) :
    groupBackends layout backend group ≠ [] := by
  refine List.ne_nil_of_length_pos ?_
  rw [length_groupBackends]
  exact h.width_pos

theorem exists_of_mem_groupBackends (h : layout.Grid) (hgroup : group < layout.groups)
    {member : Backend} (hmem : member ∈ groupBackends layout backend group) :
    ∃ rank, rank < layout.total ∧ backend rank = member := by
  obtain ⟨index, hindex, rfl⟩ := List.mem_map.mp hmem
  exact ⟨_, h.rank_lt hgroup (List.mem_range.mp hindex), rfl⟩

theorem columns_courseBy (plan : Plan ε) (backend : Nat → Backend) (formulas : List Syllogism)
    (group : Nat) :
    (List.range plan.layout.width).map ((plan.courseBy backend formulas).column group) =
      (groupBackends plan.layout backend group).map
        (·.column plan.terms.base (chunkOf plan.layout formulas group)) := by
  rw [groupBackends, List.map_map]
  rfl

/-- The plain loop over the backends of a group comes to the group's records. -/
theorem sequential_groupBackends (h : plan.layout.Grid) (backend : Nat → Backend)
    (formulas : List Syllogism) (group : Nat) :
    sequential plan.terms.policy (groupBackends plan.layout backend group) plan.terms.base
        (chunkOf plan.layout formulas group) =
      .ok ((plan.courseBy backend formulas).records group) := by
  obtain ⟨records, hrecords⟩ := exists_sequential (groupBackends_ne_nil h backend group)
    plan.terms.policy plan.terms.base (chunkOf plan.layout formulas group)
  rw [Plan.courseBy]
  dsimp only
  rw [hrecords]
  rfl

theorem travels_courseBy (h : plan.Fits backend formulas) :
    (plan.courseBy backend formulas).Travels plan.layout where
  chunk group _ := Wire.load_encode (fits_chunkOf h.grid h.input group)
  column group index hgroup hindex :=
    Wire.load_encode (Backend.fits_column (h.backends _ (h.grid.rank_lt hgroup hindex))
      (fits_chunkOf h.grid h.input group) _)
  records group hgroup := by
    refine Wire.load_encode (fits_records (fun member hmem => ?_) ?_
      (fits_chunkOf h.grid h.input group)
      (sequential_groupBackends h.grid backend formulas group))
    · obtain ⟨rank, hrank, rfl⟩ := exists_of_mem_groupBackends h.grid hgroup hmem
      exact h.backends rank hrank
    · rw [length_groupBackends]
      exact Nat.lt_of_le_of_lt (Nat.min_le_right _ _) h.total

end Course

/-! ## The ranks at the start -/

section Start

variable {ε : Type} {plan : Plan ε} {backend : Nat → Backend} {formulas : List Syllogism}
  {fabric : Fabric} {group index : Nat}

theorem seat_of_build (hcheck : plan.layout.check = .ok ()) {rank : Nat}
    (hrank : rank < plan.layout.total) {built : Backend}
    (hbuild : plan.roster.build (⟨plan.layout, rank⟩ : Position).roleIndex rank = .ok built) :
    plan.seat rank = .ok (⟨plan.layout, rank⟩, { backend := built }) := by
  rw [Plan.seat, Position.place_of_check hcheck hrank]
  dsimp only
  rw [hbuild]

theorem seats_eq_ok {ranks : List Nat} (seat : Nat → Position × Worker)
    (h : ∀ rank ∈ ranks, plan.seat rank = .ok (seat rank)) :
    plan.seats ranks = .ok (ranks.map seat) := by
  induction ranks with
  | nil => rfl
  | cons rank rest ih =>
      rw [Plan.seats, h rank List.mem_cons_self,
        ih fun other hother => h other (List.mem_cons_of_mem _ hother)]
      rfl

theorem getElem?_ranksBy (h : plan.layout.Grid) (hlaid : Laid plan.layout fabric)
    (hgroup : group < plan.layout.groups) (hindex : index < plan.layout.width) :
    (plan.ranksBy backend fabric formulas).runners[group * plan.layout.width + index]? =
      some (plan.runnerBy backend formulas group index) := by
  have hseat : ((List.range plan.layout.total).map (plan.seatBy backend))[
      group * plan.layout.width + index]? =
        some (plan.seatBy backend (group * plan.layout.width + index)) := by
    rw [List.getElem?_map, List.getElem?_range (h.rank_lt hgroup hindex)]
    rfl
  have hchannels := hlaid.channels group index hgroup hindex
  rw [Plan.ranksBy, Plan.start, List.getElem?_map,
    (List.getElem?_zip_eq_some (z := (_, _))).mpr ⟨hseat, hchannels⟩]
  rfl

theorem length_ranksBy (hlaid : Laid plan.layout fabric) :
    (plan.ranksBy backend fabric formulas).runners.length = plan.layout.total := by
  rw [Plan.ranksBy, Plan.start, List.length_map, List.length_zip, List.length_map,
    List.length_range, hlaid.length, Nat.min_self]

theorem holds_work (h : plan.layout.Grid) (hlaid : Laid plan.layout fabric)
    (hgroup : group < plan.layout.groups) (hindex : index < plan.layout.width) :
    (staff plan.layout).Holds (plan.ranksBy backend fabric formulas).runners group index := by
  refine ⟨plan.runnerBy backend formulas group index, ?_, ?_⟩
  · rw [owner_work hgroup]
    exact getElem?_ranksBy h hlaid hgroup hindex
  · rw [endpoint_work hgroup]
    exact List.mem_cons_self

theorem holds_leader (h : plan.layout.Grid) (hlaid : Laid plan.layout fabric)
    (hgroup : group < plan.layout.groups) :
    (staff plan.layout).Holds (plan.ranksBy backend fabric formulas).runners
      plan.layout.groups group := by
  refine ⟨plan.runnerBy backend formulas group 0, ?_, ?_⟩
  · rw [owner_leader]
    exact getElem?_ranksBy h hlaid hgroup h.width_pos
  · rw [endpoint_leader]
    exact List.mem_cons_of_mem _ (List.mem_singleton.mpr rfl)

theorem proper_transfers (h : plan.layout.Grid) (hlaid : Laid plan.layout fabric)
    (course : Course) : ∀ transfer ∈ course.transfers plan.layout,
      (staff plan.layout).Proper (plan.ranksBy backend fabric formulas).runners transfer := by
  intro transfer hmem
  have hleaders : ∀ group, group < plan.layout.groups → (staff plan.layout).Holds
      (plan.ranksBy backend fabric formulas).runners plan.layout.groups group :=
    fun _ hgroup => holds_leader h hlaid hgroup
  rw [Course.transfers, List.mem_append, List.mem_append, List.mem_flatMap] at hmem
  rcases hmem with (hmem | ⟨group, hgroup, hmem⟩) | hmem
  · exact proper_fanOut (separate_leaders h _) hleaders h.groups_pos transfer hmem
  · have hlt := List.mem_range.mp hgroup
    have hmembers : ∀ index, index < plan.layout.width → (staff plan.layout).Holds
        (plan.ranksBy backend fabric formulas).runners group index :=
      fun _ hindex => holds_work h hlaid hlt hindex
    rcases List.mem_append.mp hmem with hmem | hmem
    · exact proper_fanOut (separate_work hlt _) hmembers h.width_pos transfer hmem
    · exact proper_fanIn (separate_work hlt _) hmembers h.width_pos transfer hmem
  · exact proper_fanIn (separate_leaders h _) hleaders h.groups_pos transfer hmem

theorem sent_transfers (course : Course) (layout : Layout) :
    ∀ transfer ∈ course.transfers layout, transfer.sent = false := by
  intro transfer hmem
  rw [Course.transfers, List.mem_append, List.mem_append, List.mem_flatMap] at hmem
  rcases hmem with (hmem | ⟨group, -, hmem⟩) | hmem
  · exact sent_fanOut transfer hmem
  · rcases List.mem_append.mp hmem with hmem | hmem
    · exact sent_fanOut transfer hmem
    · exact sent_fanIn transfer hmem
  · exact sent_fanIn transfer hmem

/-- The first place is the master's. -/
theorem place_eq_zero_iff (h : plan.layout.Grid) :
    group * plan.layout.width + index = 0 ↔ index = 0 ∧ group = 0 := by
  constructor
  · intro hzero
    obtain ⟨hmul, hindex⟩ := Nat.add_eq_zero_iff.mp hzero
    exact ⟨hindex, (Nat.mul_eq_zero.mp hmul).resolve_right (Nat.ne_of_gt h.width_pos)⟩
  · rintro ⟨rfl, rfl⟩
    rw [Nat.zero_mul]

theorem performs_runnerBy (h : plan.Fits backend formulas) (hgroup : group < plan.layout.groups)
    (hindex : index < plan.layout.width) :
    (plan.runnerBy backend formulas group index).call.Performs
      ((staff plan.layout).opsOf (group * plan.layout.width + index)
        ((plan.courseBy backend formulas).transfers plan.layout))
      (.ok (plan.outcomeBy backend formulas (group * plan.layout.width + index))) := by
  have hplace := (h.grid.position hgroup hindex).1
  have hconsolidate := consolidateGroup_columns plan.terms.policy
    (groupBackends plan.layout backend group) plan.terms.base (chunkOf plan.layout formulas group)
  rw [← columns_courseBy, length_groupBackends, sequential_groupBackends h.grid] at hconsolidate
  have hcolumn : (Worker.run { backend := backend (group * plan.layout.width + index) }
      plan.terms.base (chunkOf plan.layout formulas group)).1 =
        (plan.courseBy backend formulas).column group index := (Worker.run_eq _ _ _).1
  have hwithin := h.within _ (h.grid.rank_lt hgroup hindex)
  dsimp only [Plan.outcomeBy, Plan.seatBy] at hwithin ⊢
  rw [hplace] at hwithin ⊢
  have hwork := performs_work h.grid hgroup hindex (travels_courseBy h)
    (if group * plan.layout.width + index == 0 then some formulas else none)
    (fun hg hi => by
      subst hg hi
      rw [show (plan.courseBy backend formulas).chunk = chunkOf plan.layout formulas from rfl,
        map_chunkOf h.grid, Nat.zero_mul]
      rfl)
    hcolumn hwithin hconsolidate ⟨plan.layout, group * plan.layout.width + index⟩
  simp only [← place_eq_zero_iff h.grid] at hwork
  exact hwork

theorem getElem?_sizes (layout : Layout) (hgroup : group < layout.groups) :
    (sizes layout)[group]? = some layout.width := by
  rw [sizes, List.getElem?_append_left (by rwa [List.length_replicate]),
    List.getElem?_replicate, if_pos hgroup]

theorem getElem?_sizes_leaders (layout : Layout) :
    (sizes layout)[layout.groups]? = some layout.groups := by
  rw [sizes, List.getElem?_append_right (Nat.le_of_eq List.length_replicate),
    List.length_replicate, Nat.sub_self]
  rfl

/-- The ranks of a run are in step with its course when they begin. -/
theorem inStep_ranksBy (h : plan.Fits backend formulas) (hlaid : Laid plan.layout fabric) :
    InStep (staff plan.layout) (fun group => (sizes plan.layout)[group]?.getD 0)
      (fun rank => .ok (plan.outcomeBy backend formulas rank))
      ((plan.courseBy backend formulas).transfers plan.layout)
      (plan.ranksBy backend fabric formulas) := by
  have hnetwork : (plan.ranksBy backend fabric formulas).network =
      (sizes plan.layout).map Group.create := hlaid.network
  refine InStep.start ?_ ?_ (sent_transfers _ _) (proper_transfers h.grid hlaid _) ?_
  · rw [hnetwork]
    exact Network.sound_create _
  · rw [hnetwork]
    exact Network.stream_create _
  · intro rank runner hrunner
    obtain ⟨hlt, -⟩ := List.getElem?_eq_some_iff.mp hrunner
    rw [length_ranksBy hlaid] at hlt
    obtain ⟨group, index, hgroup, hindex, rfl⟩ := h.grid.exists_place hlt
    rw [getElem?_ranksBy h.grid hlaid hgroup hindex] at hrunner
    cases hrunner
    refine ⟨performs_runnerBy h hgroup hindex, rfl, fun endpoint hendpoint => ?_⟩
    rw [hnetwork]
    -- An endpoint of a rank is its place in its group, or the group's among the leaders.
    rcases List.mem_cons.mp hendpoint with rfl | hendpoint
    · exact ⟨owner_work hgroup index,
        Network.present_create _ (getElem?_sizes plan.layout hgroup) hindex⟩
    · have hleader := Option.mem_toList.mp hendpoint
      dsimp only [channelsAt] at hleader
      split at hleader
      · next hzero =>
          cases hleader
          rw [hzero]
          exact ⟨owner_leader group,
            Network.present_create _ (getElem?_sizes_leaders plan.layout) hgroup⟩
      · cases hleader

theorem length_transfers (h : plan.layout.Grid) (course : Course) :
    (course.transfers plan.layout).length =
      (plan.layout.groups - 1) +
        plan.layout.groups * ((plan.layout.width - 1) + (plan.layout.width - 1)) +
        (plan.layout.groups - 1) := by
  have hrow : ∀ group, (course.row plan.layout group).length =
      (plan.layout.width - 1) + (plan.layout.width - 1) := by
    intro group
    rw [Course.row, List.length_append, length_fanOut h.width_pos, length_fanIn h.width_pos]
  rw [Course.transfers, List.length_append, List.length_append, Course.scatter, Course.gather,
    length_fanOut h.groups_pos, length_fanIn h.groups_pos, List.length_flatMap]
  simp [hrow, List.map_const']

/-- With three steps for each frame and one for each rank to leave, there are rounds
to spare. -/
theorem steps_le_rounds {groups width engines total : Nat} (hgroups : 0 < groups)
    (hwidth : 0 < width) (hle : width ≤ engines) (htotal : groups * width = total) :
    3 * ((groups - 1) + groups * ((width - 1) + (width - 1)) + (groups - 1)) + 0 + total ≤
      total * (2 * groups + 2 * engines + 1) := by
  obtain ⟨a, rfl⟩ : ∃ a, groups = a + 1 := ⟨groups - 1, by omega⟩
  obtain ⟨b, rfl⟩ : ∃ b, width = b + 1 := ⟨width - 1, by omega⟩
  simp only [Nat.add_sub_cancel]
  have hframes : (a + 1) * (b + b) = a * b + a * b + b + b := by
    rw [Nat.succ_mul, Nat.mul_add]
    omega
  have hranks : total = a * b + a + b + 1 := by
    rw [← htotal, Nat.succ_mul, Nat.mul_succ]
    omega
  -- A rank by itself sends nothing; with more there are at least seven rounds for each.
  by_cases hone : a = 0 ∧ b = 0
  · obtain ⟨rfl, rfl⟩ := hone
    obtain rfl : total = 1 := by omega
    omega
  · have hrounds : total * 7 ≤ total * (2 * (a + 1) + 2 * engines + 1) :=
      Nat.mul_le_mul_left total (by omega)
    omega

/-- The rounds that a run allows itself are enough. -/
theorem effort_ranksBy_le (h : plan.layout.Grid) (hlaid : Laid plan.layout fabric)
    (course : Course) :
    effort (course.transfers plan.layout) (plan.ranksBy backend fabric formulas) ≤
      plan.enoughRounds := by
  have hcount : (plan.ranksBy backend fabric formulas).runners.countP (!·.gone) ≤
      plan.layout.total := by
    rw [← length_ranksBy hlaid]
    exact List.countP_le_length
  have hframes : (plan.ranksBy backend fabric formulas).network.frames = 0 := by
    rw [show (plan.ranksBy backend fabric formulas).network =
      (sizes plan.layout).map Group.create from hlaid.network]
    exact Network.frames_create _
  rw [effort, cost_of_unsent (sent_transfers course plan.layout), length_transfers h, hframes]
  refine Nat.le_trans (Nat.add_le_add_left hcount _) ?_
  exact steps_le_rounds h.groups_pos h.width_pos Layout.Grid.width_le_engines h.groups_mul_width

end Start

/-! ## The end

All ranks have ended as expected, so the results are those outcomes in the order
of the ranks, and only the first of them comes with records. -/

section End

variable {ε : Type} {plan : Plan ε} {backend : Nat → Backend} {formulas : List Syllogism}
  {fabric : Fabric}

theorem firstError_map_ok (outcomes : List RankOutcome) :
    Plan.firstError (outcomes.map .ok) = none := by
  induction outcomes with
  | nil => rfl
  | cons outcome rest ih => exact ih

theorem successes_map_ok (outcomes : List RankOutcome) :
    Plan.successes (outcomes.map .ok) = outcomes := by
  induction outcomes with
  | nil => rfl
  | cons outcome rest ih => exact congrArg (outcome :: ·) ih

theorem records_outcomeBy {rank : Nat} {records : List Record}
    (h : (plan.outcomeBy backend formulas rank).records = some records) :
    records = (plan.summaryBy backend formulas).records := by
  dsimp only [Plan.outcomeBy] at h
  split at h
  · exact (Option.some.inj h).symm
  · cases h

/-- The first rank is the master, and the records are its own. -/
theorem summarize_eq (h : plan.layout.Grid) {ranks : Ranks}
    (hresults : ranks.results = (List.range plan.layout.total).map fun rank =>
      .ok (plan.outcomeBy backend formulas rank)) :
    plan.summarize ranks = .ok (plan.summaryBy backend formulas) := by
  have houtcomes : ranks.results = ((List.range plan.layout.total).map
      (plan.outcomeBy backend formulas)).map .ok := by
    rw [hresults, List.map_map]
    rfl
  obtain ⟨others, hothers⟩ : ∃ others, plan.layout.total = others + 1 :=
    ⟨plan.layout.total - 1, by have := h.total_pos; omega⟩
  have hmaster : ((List.range plan.layout.total).map
      (plan.outcomeBy backend formulas)).findSome? (·.records) =
        some (plan.summaryBy backend formulas).records := by
    rw [hothers, List.range_succ_eq_map, List.map_cons, List.findSome?_cons]
    rfl
  rw [Plan.summarize, houtcomes, firstError_map_ok, successes_map_ok]
  dsimp only
  rw [hmaster, List.map_map]
  rfl

/-- What the ranks end with does not depend on the schedule. -/
theorem results_follow_ranksBy (h : plan.Fits backend formulas) (hlaid : Laid plan.layout fabric)
    {schedule : List Nat}
    (hfinished : ((plan.ranksBy backend fabric formulas).follow schedule).finished = true) :
    ((plan.ranksBy backend fabric formulas).follow schedule).results =
      (List.range plan.layout.total).map fun rank =>
        .ok (plan.outcomeBy backend formulas rank) := by
  obtain ⟨remaining, hstep⟩ := (inStep_ranksBy h hlaid).follow schedule
  rw [hstep.results_of_finished hfinished, Crew.length_follow, length_ranksBy hlaid]

/-- The rounds of a run are a schedule that gets to the end. -/
theorem results_rounds_ranksBy (h : plan.Fits backend formulas) (hlaid : Laid plan.layout fabric) :
    ((plan.ranksBy backend fabric formulas).rounds plan.enoughRounds).results =
      (List.range plan.layout.total).map fun rank =>
        .ok (plan.outcomeBy backend formulas rank) := by
  obtain ⟨⟨remaining, hstep⟩, hfinished⟩ :=
    (inStep_ranksBy h hlaid).rounds (effort_ranksBy_le h.grid hlaid _)
  rw [hstep.results_of_finished hfinished, Crew.length_rounds, length_ranksBy hlaid]

/-- Any schedule of the ranks. -/
theorem follow_ranksBy (h : plan.Fits backend formulas) (hlaid : Laid plan.layout fabric)
    (schedule : List Nat) :
    (∀ outcome ∈ ((plan.ranksBy backend fabric formulas).follow schedule).results,
      ∃ ended, outcome = .ok ended ∧
        ∀ records ∈ ended.records, records = (plan.summaryBy backend formulas).records) ∧
    (((plan.ranksBy backend fabric formulas).follow schedule).finished = false →
      ∃ rank, rank < plan.layout.total ∧
        ((plan.ranksBy backend fabric formulas).follow schedule).ready rank = true) ∧
    (((plan.ranksBy backend fabric formulas).follow schedule).finished = true →
      plan.summarize ((plan.ranksBy backend fabric formulas).follow schedule) =
        .ok (plan.summaryBy backend formulas)) ∧
    ∃ rest, ((plan.ranksBy backend fabric formulas).follow (schedule ++ rest)).finished = true := by
  obtain ⟨remaining, hstep⟩ := (inStep_ranksBy h hlaid).follow schedule
  refine ⟨fun outcome hmem => ?_, fun hfinished => ?_, fun hfinished => ?_, ?_⟩
  · obtain ⟨rank, -, rfl⟩ := hstep.exists_of_mem_results hmem
    exact ⟨_, rfl, fun records hrecords => records_outcomeBy hrecords⟩
  · obtain ⟨rank, hrank, hready⟩ := hstep.exists_ready hfinished
    rw [Crew.length_follow, length_ranksBy hlaid] at hrank
    exact ⟨rank, hrank, hready⟩
  · exact summarize_eq h.grid (results_follow_ranksBy h hlaid hfinished)
  · obtain ⟨rest, hfinished⟩ := hstep.exists_finished
    refine ⟨rest, ?_⟩
    rw [Crew.follow, List.foldl_append]
    exact hfinished

theorem rounds_ranksBy (h : plan.Fits backend formulas) (hlaid : Laid plan.layout fabric) :
    plan.summarize ((plan.ranksBy backend fabric formulas).rounds plan.enoughRounds) =
      .ok (plan.summaryBy backend formulas) :=
  summarize_eq h.grid (results_rounds_ranksBy h hlaid)

end End

end Syllogistic.Batch
