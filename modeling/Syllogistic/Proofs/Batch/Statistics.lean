import Mathlib.Data.List.Nodup
import Syllogistic.Proofs.Batch.Longest
import Syllogistic.Proofs.Rows

/-!
# The reports of the ranks and the records

Each rank counts for itself what it decides, and the master only collects the reports; the
records come to it another way. That the two agree is a matter of the grid: the ranks of one
role decide one chunk each, and the chunks are all formulas. So the counts of a role are those
of one engine on the whole batch, which is also what stands in its place in every record.
-/

namespace Syllogistic

theorem Tally.add_concluded (tally : Tally) (took : Nat) (backend : Backend) (formula : Formula)
    (outcome : Except EngineFailure Answer) :
    (tally.add took outcome).concluded =
      tally.concluded + if (backend.result formula outcome).verdict.conclusive then 1 else 0 := by
  cases outcome with
  | error failure => rfl
  | ok answer =>
      rw [add, Backend.result]
      cases answer.verdict <;> rfl

/-- A worker counts every formula of a chunk, and those with a conclusive result. -/
theorem Worker.decideAll_tally (worker : Worker) (timeout : Nat) (chunk : List Syllogism) :
    (worker.decideAll timeout chunk).2.tally.processed =
        worker.tally.processed + chunk.length ∧
      (worker.decideAll timeout chunk).2.tally.concluded =
        worker.tally.concluded + chunk.countP fun syllogism =>
          (worker.backend.decide syllogism.formula timeout).verdict.conclusive := by
  induction chunk generalizing worker with
  | nil => exact ⟨rfl, rfl⟩
  | cons syllogism rest ih =>
      obtain ⟨hprocessed, hconcluded⟩ := ih (worker.decide syllogism.formula timeout).2
      constructor
      · rw [decideAll, hprocessed, List.length_cons]
        show worker.tally.processed + 1 + rest.length = _
        omega
      · rw [decideAll, hconcluded, List.countP_cons, decide]
        dsimp only
        rw [Tally.add_concluded _ _ worker.backend syllogism.formula, Backend.decide]
        omega

/-- A contradiction is left open. -/
theorem Policy.consolidate_open {policy : Policy} {syllogism : Syllogism}
    {results : List EngineResult} {record : Record}
    (h : policy.consolidate syllogism results = .ok record) (hflag : record.contradiction = true) :
    record.verdict = .unknown := by
  obtain ⟨-, -, rfl⟩ := consolidate_eq_ok_iff.mp h
  rw [recordOf, decide, if_pos (decide_contradiction_iff.mp hflag)]

namespace Batch

open Collective Collective.Fabric

variable {ε : Type} {plan : Plan ε} {backend : Nat → Backend} {formulas : List Syllogism}
  {summary : Summary} {group index : Nat}

/-- The reports of the ranks with a role. -/
def Plan.reportsOf (plan : Plan ε) (summary : Summary) (role : Nat) : List RankReport :=
  summary.reports.filter fun report => (⟨plan.layout, report.rank⟩ : Position).roleIndex = role

/-- The reports and the records of a run agree. -/
structure Plan.Balanced (plan : Plan ε) (formulas : List Syllogism) (summary : Summary) : Prop where
  ranks : summary.reports.map (·.rank) = List.range plan.layout.total
  chunk : ∀ report ∈ summary.reports,
    (partition formulas plan.layout.groups)[(⟨plan.layout, report.rank⟩ : Position).group]?.map
      List.length = some report.tally.processed
  processed : ∀ role < min plan.layout.engines plan.layout.total,
    ((plan.reportsOf summary role).map (·.tally.processed)).sum = formulas.length
  concluded : ∀ role < min plan.layout.engines plan.layout.total,
    ((plan.reportsOf summary role).map (·.tally.concluded)).sum =
      summary.records.countP fun record => record.votes[role]?.any (·.verdict.conclusive)
  votes : ∀ record ∈ summary.records,
    record.votes.length = min plan.layout.engines plan.layout.total
  verdicts : summary.records.countP (·.verdict = .proved) +
    summary.records.countP (·.verdict = .refuted) +
      summary.records.countP (·.verdict = .unknown) = formulas.length
  contradiction : ∀ record ∈ summary.records, record.contradiction = true →
    record.verdict = .unknown
  contradictions : summary.contradictions ≤ summary.records.countP (·.verdict = .unknown)

/-- Some schedule brings all ranks of the run to their end, and this is what they come to. -/
def Plan.Succeeds (plan : Plan ε) (formulas : List Syllogism) (summary : Summary) : Prop :=
  ∃ seats fabric schedule,
    plan.seats (List.range plan.layout.total) = .ok seats ∧ Fabric.build plan.layout = .ok fabric ∧
      ((plan.start seats fabric formulas).follow schedule).finished = true ∧
      plan.summarize ((plan.start seats fabric formulas).follow schedule) = .ok summary

/-! ## The ranks of one role -/

theorem filter_range_eq (width : Nat) (h : index < width) :
    (List.range width).filter (· = index) = [index] := by
  rw [List.filter_eq, List.count_eq_one_of_mem List.nodup_range (List.mem_range.mpr h)]
  rfl

theorem ranks_of_role (h : plan.layout.Grid) {role : Nat} (hrole : role < plan.layout.width) :
    (List.range plan.layout.total).filter (fun rank =>
        (⟨plan.layout, rank⟩ : Position).roleIndex = role) =
      (List.range plan.layout.groups).map (· * plan.layout.width + role) := by
  have hrow : ∀ group ∈ List.range plan.layout.groups,
      ((List.range plan.layout.width).map (group * plan.layout.width + ·)).filter (fun rank =>
        (⟨plan.layout, rank⟩ : Position).roleIndex = role) =
        [group * plan.layout.width + role] := by
    intro group hgroup
    rw [List.filter_map, ← List.map_singleton, ← filter_range_eq plan.layout.width hrole]
    refine congrArg _ (List.filter_congr fun index hindex => ?_)
    rw [Function.comp_apply,
      (h.position (List.mem_range.mp hgroup) (List.mem_range.mp hindex)).2]
  -- The ranks go row by row, and each row has one rank of the role.
  rw [← h.groups_mul_width, range_mul, List.filter_flatMap, List.flatMap_congr hrow,
    List.map_eq_flatMap]

/-- What the rank at a place counts: the chunk of its group, and the conclusive results in its
column. -/
theorem tally_outcomeBy (h : plan.layout.Grid) (hgroup : group < plan.layout.groups)
    (hindex : index < plan.layout.width) :
    let tally := (plan.outcomeBy backend formulas (group * plan.layout.width + index)).report.tally
    tally.processed = (chunkOf plan.layout formulas group).length ∧
      tally.concluded = ((plan.courseBy backend formulas).column group index).countP
        (·.verdict.conclusive) := by
  obtain ⟨hprocessed, hconcluded⟩ :=
    Worker.decideAll_tally { backend := backend (group * plan.layout.width + index) }
      ((backend (group * plan.layout.width + index)).engine.timeout plan.terms.base)
      (chunkOf plan.layout formulas group)
  dsimp only [Plan.outcomeBy, Plan.seatBy, workerAfter]
  rw [(h.position hgroup hindex).1]
  constructor
  · exact hprocessed.trans (Nat.zero_add _)
  · refine hconcluded.trans ?_
    dsimp only [Plan.courseBy, Backend.column]
    rw [List.countP_map]
    exact Nat.zero_add _

theorem reportsOf_summaryBy (h : plan.layout.Grid) {role : Nat} (hrole : role < plan.layout.width) :
    plan.reportsOf (plan.summaryBy backend formulas) role =
      (List.range plan.layout.groups).map fun group =>
        (plan.outcomeBy backend formulas (group * plan.layout.width + role)).report := by
  rw [Plan.reportsOf, Plan.summaryBy, List.filter_map]
  have hrank : (fun report : RankReport =>
      decide ((⟨plan.layout, report.rank⟩ : Position).roleIndex = role)) ∘
        (fun rank => (plan.outcomeBy backend formulas rank).report) =
          fun rank => decide ((⟨plan.layout, rank⟩ : Position).roleIndex = role) := rfl
  rw [hrank, ranks_of_role h hrole, List.map_map]
  rfl

/-- The chunks have all formulas. -/
theorem sum_length_chunkOf (h : plan.layout.Grid) (formulas : List Syllogism) :
    ((List.range plan.layout.groups).map fun group =>
      (chunkOf plan.layout formulas group).length).sum = formulas.length := by
  conv_rhs => rw [← flatten_partition formulas h.groups_pos, ← map_chunkOf h formulas,
    List.length_flatten, List.map_map]
  rfl

/-! ## The records -/

/-- In the place of a role stands what the rank with this role says. -/
theorem vote_of_mem_records (h : plan.layout.Grid) (hindex : index < plan.layout.width)
    {record : Record} (hmem : record ∈ (plan.courseBy backend formulas).records group) :
    record.votes[index]? = some ((backend (group * plan.layout.width + index)).decide
      record.syllogism.formula ((backend (group * plan.layout.width + index)).engine.timeout
        plan.terms.base)).vote := by
  rw [votes_of_sequential (sequential_groupBackends h backend formulas group) hmem, resultsOf,
    groupBackends, List.getElem?_map, List.getElem?_map, List.getElem?_map,
    List.getElem?_range hindex]
  rfl

theorem countP_records (h : plan.layout.Grid) (hindex : index < plan.layout.width)
    (group : Nat) :
    ((plan.courseBy backend formulas).records group).countP
        (fun record => record.votes[index]?.any (·.verdict.conclusive)) =
      ((plan.courseBy backend formulas).column group index).countP (·.verdict.conclusive) := by
  have hsyllogisms := syllogisms_of_sequential
    (sequential_groupBackends h backend formulas group)
  have hcolumn : (plan.courseBy backend formulas).column group index =
      ((plan.courseBy backend formulas).records group).map fun record =>
        (backend (group * plan.layout.width + index)).decide record.syllogism.formula
          ((backend (group * plan.layout.width + index)).engine.timeout plan.terms.base) := by
    rw [show (plan.courseBy backend formulas).column group index =
      (backend (group * plan.layout.width + index)).column plan.terms.base
        (chunkOf plan.layout formulas group) from rfl, Backend.column, ← hsyllogisms, List.map_map]
    rfl
  -- Now both sides count over the records, and a vote has the verdict of its result.
  rw [hcolumn, List.countP_map]
  refine List.countP_congr fun record hmem => ?_
  rw [vote_of_mem_records h hindex hmem]
  rfl

theorem length_records (h : plan.layout.Grid) :
    (plan.summaryBy backend formulas).records.length = formulas.length := by
  have hgroup : ∀ group, ((plan.courseBy backend formulas).records group).length =
      (chunkOf plan.layout formulas group).length := by
    intro group
    have hsyllogisms := syllogisms_of_sequential
      (sequential_groupBackends h backend formulas group)
    rw [← hsyllogisms, List.length_map]
  rw [Plan.summaryBy, List.length_flatten, List.map_map, ← sum_length_chunkOf h formulas]
  exact congrArg List.sum (List.map_congr_left fun group _ => hgroup group)

theorem countP_verdicts (records : List Record) :
    records.countP (·.verdict = .proved) + records.countP (·.verdict = .refuted) +
      records.countP (·.verdict = .unknown) = records.length := by
  induction records with
  | nil => rfl
  | cons record rest ih =>
      rw [List.countP_cons, List.countP_cons, List.countP_cons, List.length_cons, ← ih]
      cases record.verdict <;> simp <;> omega

/-- A record that is flagged is open. -/
theorem verdict_of_contradiction {policy : Policy} {backends : List Backend} {base : Nat}
    {records : List Record} (h : sequential policy backends base formulas = .ok records)
    {record : Record} (hmem : record ∈ records) (hflag : record.contradiction = true) :
    record.verdict = .unknown := by
  obtain ⟨syllogism, hrecord⟩ := consolidate_of_mem_sequential h hmem
  exact Policy.consolidate_open hrecord hflag

theorem records_of_mem_summaryBy {record : Record}
    (hmem : record ∈ (plan.summaryBy backend formulas).records) :
    ∃ group, record ∈ (plan.courseBy backend formulas).records group := by
  obtain ⟨records, hrecords, hmem⟩ := List.mem_flatten.mp hmem
  obtain ⟨group, -, rfl⟩ := List.mem_map.mp hrecords
  exact ⟨group, hmem⟩

theorem balanced_summaryBy (h : plan.layout.Grid) (backend : Nat → Backend)
    (formulas : List Syllogism) : plan.Balanced formulas (plan.summaryBy backend formulas) where
  ranks := by
    rw [Plan.summaryBy, List.map_map]
    exact List.map_id _
  chunk report hmem := by
    obtain ⟨rank, hrank, rfl⟩ := List.mem_map.mp hmem
    obtain ⟨group, index, hgroup, hindex, rfl⟩ := h.exists_place (List.mem_range.mp hrank)
    have hlt : group < (partition formulas plan.layout.groups).length := by
      rwa [length_partition formulas h.groups_pos]
    rw [(tally_outcomeBy h hgroup hindex).1, chunkOf]
    show (partition formulas plan.layout.groups)[
      (⟨plan.layout, group * plan.layout.width + index⟩ : Position).group]?.map List.length = _
    rw [(h.position hgroup hindex).1, List.getElem?_eq_getElem hlt]
    rfl
  processed role hrole := by
    rw [reportsOf_summaryBy h hrole, List.map_map, ← sum_length_chunkOf h formulas]
    refine congrArg List.sum (List.map_congr_left fun group hgroup => ?_)
    exact (tally_outcomeBy h (List.mem_range.mp hgroup) hrole).1
  concluded role hrole := by
    rw [reportsOf_summaryBy h hrole, List.map_map, Plan.summaryBy, List.countP_flatten,
      List.map_map]
    refine congrArg List.sum (List.map_congr_left fun group hgroup => ?_)
    exact (tally_outcomeBy h (List.mem_range.mp hgroup) hrole).2.trans
      (countP_records h hrole group).symm
  votes record hmem := by
    obtain ⟨group, hmem⟩ := records_of_mem_summaryBy hmem
    rw [votes_of_sequential (sequential_groupBackends h backend formulas group) hmem,
      List.length_map, resultsOf, List.length_map, length_groupBackends]
    rfl
  verdicts := by rw [countP_verdicts, length_records h]
  contradiction record hmem hflag := by
    obtain ⟨group, hmem⟩ := records_of_mem_summaryBy hmem
    exact verdict_of_contradiction (sequential_groupBackends h backend formulas group) hmem hflag
  contradictions := by
    refine List.countP_mono_left fun record hmem hflag => ?_
    obtain ⟨group, hmem⟩ := records_of_mem_summaryBy hmem
    simpa using verdict_of_contradiction (sequential_groupBackends h backend formulas group) hmem
      hflag

/-! ## Runs that succeed

The set-up of a run that succeeds has gone well for every rank, so there is a backend for each
of them; and none of them has been broken off. -/

/-- The backend that is set up for a rank; one that gives no answer stands in for one that
cannot be. -/
def Plan.builtBackend (plan : Plan ε) (rank : Nat) : Backend :=
  (plan.roster.build (⟨plan.layout, rank⟩ : Position).roleIndex rank).toOption.getD
    ⟨"", default, fun _ _ => .error .timeout, fun _ _ => 0⟩

theorem seat_ok {rank : Nat} {seat : Position × Worker} (h : plan.seat rank = .ok seat) :
    seat = plan.seatBy plan.builtBackend rank ∧
      plan.roster.build (⟨plan.layout, rank⟩ : Position).roleIndex rank =
        .ok (plan.builtBackend rank) := by
  rw [Plan.seat] at h
  split at h
  · cases h
  · next position hplace =>
      have hposition : position = ⟨plan.layout, rank⟩ := by
        rw [Position.place] at hplace
        split at hplace
        · cases hplace
        · split at hplace
          · cases hplace
          · exact (Except.ok.inj hplace).symm
      subst hposition
      split at h
      · cases h
      · next backend hbuild =>
          cases h
          have hbuilt : plan.builtBackend rank = backend := by
            rw [Plan.builtBackend, hbuild]
            rfl
          rw [Plan.seatBy, hbuilt]
          exact ⟨rfl, hbuild⟩

theorem seats_ok {ranks : List Nat} {seats : List (Position × Worker)}
    (h : plan.seats ranks = .ok seats) :
    seats = ranks.map (plan.seatBy plan.builtBackend) ∧ ∀ rank ∈ ranks,
      plan.roster.build (⟨plan.layout, rank⟩ : Position).roleIndex rank =
        .ok (plan.builtBackend rank) := by
  induction ranks generalizing seats with
  | nil =>
      cases h
      exact ⟨rfl, nofun⟩
  | cons rank rest ih =>
      rw [Plan.seats] at h
      split at h
      · cases h
      · next seat hseat =>
          split at h
          · cases h
          · next others hothers =>
              cases h
              obtain ⟨rfl, hbuild⟩ := seat_ok hseat
              obtain ⟨rfl, hrest⟩ := ih hothers
              exact ⟨rfl, List.forall_mem_cons.mpr ⟨hbuild, hrest⟩⟩

theorem sized_of_seats (htotal : plan.layout.total < 2 ^ 64)
    (hroster : ∀ role rank backend, plan.roster.build role rank = .ok backend → backend.Sized)
    (hformulas : Wire.Fits formulas) {seats : List (Position × Worker)} {fabric : Fabric}
    (hseats : plan.seats (List.range plan.layout.total) = .ok seats)
    (hfabric : Fabric.build plan.layout = .ok fabric) :
    plan.Sized plan.builtBackend formulas where
  grid := Layout.grid_of_check (check_of_build hfabric)
  total := htotal
  backends rank hrank :=
    hroster _ _ _ ((seats_ok hseats).2 rank (List.mem_range.mpr hrank))
  input := hformulas

/-- Whatever the order of the ranks' steps, a run whose times can be told comes to one
summary. -/
theorem run_eq_of_fits (hfits : plan.Fits plan.builtBackend formulas)
    {seats : List (Position × Worker)} {fabric : Fabric}
    (hseats : plan.seats (List.range plan.layout.total) = .ok seats)
    (hfabric : Fabric.build plan.layout = .ok fabric) :
    plan.run formulas = .ok (plan.summaryBy plan.builtBackend formulas) ∧
      (∃ schedule, ((plan.start seats fabric formulas).follow schedule).finished = true) ∧
      ∀ schedule, ((plan.start seats fabric formulas).follow schedule).finished = true →
        plan.summarize ((plan.start seats fabric formulas).follow schedule) =
          .ok (plan.summaryBy plan.builtBackend formulas) := by
  obtain ⟨rfl, -⟩ := seats_ok hseats
  have hlaid := laid_of_build hfabric
  refine ⟨?_, ?_, fun schedule => (follow_ranksBy hfits hlaid schedule).2.2.1⟩
  · rw [Plan.run, hseats, hfabric]
    exact rounds_ranksBy hfits hlaid
  · obtain ⟨rest, hfinished⟩ := (follow_ranksBy hfits hlaid []).2.2.2
    exact ⟨_, hfinished⟩

theorem setUp_of_run (h : plan.run formulas = .ok summary) :
    ∃ seats fabric, plan.seats (List.range plan.layout.total) = .ok seats ∧
      Fabric.build plan.layout = .ok fabric ∧ plan.conduct seats fabric formulas = .ok summary := by
  rw [Plan.run] at h
  split at h
  · cases h
  · next seats hseats =>
      split at h
      · cases h
      · next fabric hfabric => exact ⟨seats, fabric, hseats, hfabric, h⟩

/-- The times of a run that comes to a summary can be told. -/
theorem fits_of_run (htotal : plan.layout.total < 2 ^ 64)
    (hroster : ∀ role rank backend, plan.roster.build role rank = .ok backend → backend.Sized)
    (hformulas : Wire.Fits formulas) (h : plan.run formulas = .ok summary) :
    plan.Fits plan.builtBackend formulas := by
  obtain ⟨seats, fabric, hseats, hfabric, hconduct⟩ := setUp_of_run h
  have hsized := sized_of_seats htotal hroster hformulas hseats hfabric
  obtain ⟨rfl, -⟩ := seats_ok hseats
  exact fits_of_rounds hsized (laid_of_build hfabric) hconduct

theorem fits_of_succeeds (htotal : plan.layout.total < 2 ^ 64)
    (hroster : ∀ role rank backend, plan.roster.build role rank = .ok backend → backend.Sized)
    (hformulas : Wire.Fits formulas) (h : plan.Succeeds formulas summary) :
    plan.Fits plan.builtBackend formulas := by
  obtain ⟨seats, fabric, schedule, hseats, hfabric, hfinished, hsummary⟩ := h
  have hsized := sized_of_seats htotal hroster hformulas hseats hfabric
  obtain ⟨rfl, -⟩ := seats_ok hseats
  exact fits_of_follow hsized (laid_of_build hfabric) hfinished hsummary

/-- A run comes to a summary exactly if some order of the ranks' steps does. Then there is one
report for each rank, in their order; a rank has processed its group's chunk, and the ranks of
one role all formulas; they have concluded as many as there are records with a conclusive vote
in the place of the role; and every contradiction is among the records that are open. -/
theorem reports_balance (htotal : plan.layout.total < 2 ^ 64)
    (hroster : ∀ role rank backend, plan.roster.build role rank = .ok backend → backend.Sized)
    (hformulas : Wire.Fits formulas) :
    (plan.run formulas = .ok summary ↔ plan.Succeeds formulas summary) ∧
      (plan.run formulas = .ok summary → plan.Balanced formulas summary) := by
  -- Success shows that the times can be told, and then the run and every schedule to the end
  -- come to one summary.
  refine ⟨⟨fun hrun => ?_, fun hsucceeds => ?_⟩, fun hrun => ?_⟩
  · have hfits := fits_of_run htotal hroster hformulas hrun
    obtain ⟨seats, fabric, hseats, hfabric, -⟩ := setUp_of_run hrun
    obtain ⟨hruns, ⟨schedule, hfinished⟩, hfollow⟩ := run_eq_of_fits hfits hseats hfabric
    cases hruns.symm.trans hrun
    exact ⟨seats, fabric, schedule, hseats, hfabric, hfinished, hfollow schedule hfinished⟩
  · have hfits := fits_of_succeeds htotal hroster hformulas hsucceeds
    obtain ⟨seats, fabric, schedule, hseats, hfabric, hfinished, hsummary⟩ := hsucceeds
    obtain ⟨hruns, -, hfollow⟩ := run_eq_of_fits hfits hseats hfabric
    cases (hfollow schedule hfinished).symm.trans hsummary
    exact hruns
  · have hfits := fits_of_run htotal hroster hformulas hrun
    obtain ⟨seats, fabric, hseats, hfabric, -⟩ := setUp_of_run hrun
    obtain ⟨hruns, -, -⟩ := run_eq_of_fits hfits hseats hfabric
    cases hruns.symm.trans hrun
    exact balanced_summaryBy hfits.grid _ _

/-- Two groups of two engines and one formula. The second engine has an answer in the first
group only. -/
theorem reports_balance_four :
    let build (role rank : Nat) : Except Unit Backend :=
      .ok ⟨if role = 0 then "LEO-III" else "TPG", if role = 0 then .leo else .tpg, fun _ _ =>
        if rank < 2 then .ok ⟨.refuted, none, 7⟩ else .error .timeout, fun _ _ => 8⟩
    let plan : Plan Unit :=
      ⟨⟨["LEO-III", "TPG"], build⟩, ⟨4, 2⟩, { base := 10, policy := {} }⟩
    let formulas : List Syllogism := [⟨.predicate "P", default, "1A"⟩]
    (plan.layout.total < 2 ^ 64 ∧
        (∀ role rank backend, plan.roster.build role rank = .ok backend → backend.Sized) ∧
        Wire.Fits formulas) ∧
      ∃ summary, plan.run formulas = .ok summary ∧ plan.Balanced formulas summary := by
  intro build plan formulas
  have htotal : plan.layout.total < 2 ^ 64 := by decide
  have hroster : ∀ role rank backend, plan.roster.build role rank = .ok backend →
      backend.Sized := by
    intro role rank backend h
    cases h
    refine ⟨?_, fun formula timeout answer h => ?_⟩
    · dsimp only
      split <;> exact Wire.fits_string.mpr (by decide)
    · dsimp only at h
      split at h <;> cases h
      exact Wire.fits_none
  have hformulas : Wire.Fits formulas := by
    simp [formulas, Wire.fits_list, Wire.fits_syllogism, Wire.fits_formula, Wire.fits_string,
      Formula.leaves]
    decide
  have hcheck : plan.layout.check = .ok () := by
    show Layout.check ⟨4, 2⟩ = .ok ()
    rfl
  obtain ⟨fabric, hfabric, -⟩ := build_eq hcheck
  have hseats := seats_eq_ok (plan.seatBy plan.builtBackend) fun rank hrank =>
    seat_of_build hcheck (List.mem_range.mp hrank) rfl
  have hwithin : ∀ rank, rank < plan.layout.total →
      (plan.outcomeBy plan.builtBackend formulas rank).report.tally.Within plan.terms.longest := by
    decide +kernel
  have hsized := sized_of_seats htotal hroster hformulas hseats hfabric
  have hrun := (run_eq_of_fits ⟨hsized, hwithin⟩ hseats hfabric).1
  exact ⟨⟨htotal, hroster, hformulas⟩, _, hrun,
    (reports_balance htotal hroster hformulas).2 hrun⟩

end Batch

end Syllogistic
