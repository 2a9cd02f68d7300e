import Syllogistic.Proofs.Batch.Launch
import Syllogistic.Proofs.Batch.Longest

/-!
# A run comes to what the plain loop comes to

A roster gives each role a backend, whatever rank it is for. Then the groups of a run all
have the same backends, and the records that the plain loop decides from the chunk of each
group are, joined, those it decides from all formulas. So on every schedule no rank fails,
nobody gets stuck before all have left, and what the master has at the end are the records of
the plain loop on all formulas, whatever the number of groups.

That takes memory for the ranks and their endpoints, and times that can be told: no rank may
work longer on its chunk than a duration holds. A launch that has both comes to the records,
and one that lacks either comes to none.
-/

namespace Syllogistic.Batch

open Collective Collective.Fabric

/-- Setting up the engine of a role gives the role's backend, whatever rank it is
for. -/
structure Roster.Provides {ε : Type} (roster : Roster ε) (backends : List Backend) : Prop where
  length : roster.names.length = backends.length
  build : ∀ i rank backend, backends[i]? = some backend → roster.build i rank = .ok backend

/-- The times of every backend that runs are none too long on any of the chunks. -/
def Plan.Timely {ε : Type} (plan : Plan ε) (backends : List Backend) (formulas : List Syllogism) :
    Prop :=
  ∀ backend ∈ backends.take plan.layout.width, ∀ chunk ∈ partition formulas plan.layout.groups,
    backend.Timely plan.terms.base plan.terms.longest chunk

/-- The backend of a rank's role; the first backend stands in for one that is not there. -/
def backendAt (layout : Layout) (backends : List Backend) (first : Backend) (rank : Nat) :
    Backend :=
  backends[(⟨layout, rank⟩ : Position).roleIndex]?.getD first

section Roles

variable {ε : Type} {plan : Plan ε} {backends : List Backend} (first : Backend)
  {formulas : List Syllogism} {group index : Nat}

theorem backendAt_place (h : plan.layout.Grid) (hengines : plan.layout.engines = backends.length)
    (hgroup : group < plan.layout.groups) (hindex : index < plan.layout.width) :
    backends[index]? =
      some (backendAt plan.layout backends first (group * plan.layout.width + index)) := by
  have hlt : index < backends.length := by
    rw [← hengines]
    exact Nat.lt_of_lt_of_le hindex Layout.Grid.width_le_engines
  rw [backendAt, (h.position hgroup hindex).2, List.getElem?_eq_getElem hlt]
  rfl

theorem groupBackends_backendAt (h : plan.layout.Grid)
    (hengines : plan.layout.engines = backends.length) (hgroup : group < plan.layout.groups) :
    groupBackends plan.layout (backendAt plan.layout backends first) group =
      backends.take plan.layout.width := by
  refine List.ext_getElem? fun index => ?_
  rw [groupBackends, List.getElem?_map, List.getElem?_take]
  split
  · next hindex =>
      rw [List.getElem?_range hindex, backendAt_place first h hengines hgroup hindex]
      rfl
  · next hindex =>
      rw [List.getElem?_eq_none (by rw [List.length_range]; omega)]
      rfl

/-- The records of all groups, joined, are those of the plain loop. -/
theorem sequential_summaryBy (h : plan.layout.Grid)
    (hengines : plan.layout.engines = backends.length) (formulas : List Syllogism) :
    sequential plan.terms.policy (backends.take plan.layout.width) plan.terms.base formulas =
      .ok (plan.summaryBy (backendAt plan.layout backends first) formulas).records := by
  have hchunks := map_chunkOf h formulas
  conv_lhs => rw [← flatten_partition formulas h.groups_pos, ← hchunks]
  refine sequential_flatten ?_
  rw [List.forall₂_map_left_iff, List.forall₂_map_right_iff, List.forall₂_same]
  intro group hgroup
  rw [← groupBackends_backendAt first h hengines (List.mem_range.mp hgroup)]
  exact sequential_groupBackends h _ formulas group

theorem seat_eq_ok (hcheck : plan.layout.check = .ok ())
    (hprovides : plan.roster.Provides backends) (hengines : plan.layout.engines = backends.length)
    {rank : Nat} (hrank : rank < plan.layout.total) :
    plan.seat rank = .ok (plan.seatBy (backendAt plan.layout backends first) rank) := by
  have hgrid := Layout.grid_of_check hcheck
  obtain ⟨group, index, hgroup, hindex, rfl⟩ := hgrid.exists_place hrank
  refine seat_of_build hcheck hrank (hprovides.build _ _ _ ?_)
  rw [(hgrid.position hgroup hindex).2]
  exact backendAt_place first hgrid hengines hgroup hindex

theorem sized_backendAt (h : plan.layout.Grid) (hengines : plan.layout.engines = backends.length)
    (htotal : plan.layout.total < 2 ^ 64) (hbackends : ∀ backend ∈ backends, backend.Sized)
    (hformulas : Wire.Fits formulas) :
    plan.Sized (backendAt plan.layout backends first) formulas where
  grid := h
  total := htotal
  backends rank hrank := by
    obtain ⟨group, index, hgroup, hindex, rfl⟩ := h.exists_place hrank
    exact hbackends _ (List.mem_of_getElem? (backendAt_place first h hengines hgroup hindex))
  input := hformulas

/-- The times of all ranks can be told exactly if those of all backends can, on all chunks. -/
theorem within_backendAt_iff (h : plan.layout.Grid)
    (hengines : plan.layout.engines = backends.length) :
    (∀ rank, rank < plan.layout.total →
      (plan.outcomeBy (backendAt plan.layout backends first) formulas rank).report.tally.Within
        plan.terms.longest) ↔ plan.Timely backends formulas := by
  constructor
  · intro hwithin backend hbackend chunk hchunk
    obtain ⟨index, hindex⟩ := List.mem_iff_getElem?.mp hbackend
    rw [← map_chunkOf h formulas] at hchunk
    obtain ⟨group, hgroup, rfl⟩ := List.mem_map.mp hchunk
    have hgroup := List.mem_range.mp hgroup
    rw [List.getElem?_take] at hindex
    split at hindex
    · next hlt =>
        have hrank := (within_outcomeBy_iff h hgroup hlt).mp (hwithin _ (h.rank_lt hgroup hlt))
        rw [backendAt_place first h hengines hgroup hlt] at hindex
        cases hindex
        exact hrank
    · cases hindex
  · intro htimely rank hrank
    obtain ⟨group, index, hgroup, hindex, rfl⟩ := h.exists_place hrank
    refine (within_outcomeBy_iff h hgroup hindex).mpr (htimely _ ?_ _ ?_)
    · refine List.mem_of_getElem? (i := index) ?_
      rw [List.getElem?_take, if_pos hindex]
      exact backendAt_place first h hengines hgroup hindex
    · rw [← map_chunkOf h formulas]
      exact List.mem_map.mpr ⟨group, List.mem_range.mpr hgroup, rfl⟩

end Roles

theorem make_eq_ok {ε : Type} {roster : Roster ε} {total base : Nat} {policy : Policy}
    {plan : Plan ε} (h : Plan.make roster total base policy = .ok plan) :
    plan.layout.check = .ok () ∧ plan.roster = roster ∧ plan.layout.total = total ∧
      plan.layout.engines = plan.roster.names.length ∧
      plan.terms = { base, policy } := by
  rw [Plan.make] at h
  split at h
  · cases h
  · next hcheck =>
      cases h
      exact ⟨hcheck, rfl, rfl, rfl, rfl⟩

section Batch

variable {ε : Type} {plan : Plan ε} {backends : List Backend} {formulas : List Syllogism}

/-- Ranks that have their seats come to a summary exactly if their times can be told. -/
theorem exists_run_iff (hcheck : plan.layout.check = .ok ())
    (hprovides : plan.roster.Provides backends) (hengines : plan.layout.engines = backends.length)
    (htotal : plan.layout.total < 2 ^ 64) (hbackends : ∀ backend ∈ backends, backend.Sized)
    (hformulas : Wire.Fits formulas) :
    (∃ summary, plan.run formulas = .ok summary) ↔ plan.Timely backends formulas := by
  have hgrid := Layout.grid_of_check hcheck
  obtain ⟨first, -⟩ : ∃ first, first ∈ backends := by
    refine List.exists_mem_of_length_pos ?_
    rw [← hengines]
    exact hgrid.engines_pos
  obtain ⟨fabric, hfabric, -⟩ := build_eq hcheck
  have hlaid := laid_of_build hfabric
  have hsized := sized_backendAt first hgrid hengines htotal hbackends hformulas
  have hseats := seats_eq_ok (plan.seatBy (backendAt plan.layout backends first)) fun rank hrank =>
    seat_eq_ok first hcheck hprovides hengines (List.mem_range.mp hrank)
  rw [← within_backendAt_iff first hgrid hengines, Plan.run, hseats, hfabric]
  constructor
  · rintro ⟨summary, hsummary⟩
    exact (fits_of_rounds hsized hlaid hsummary).within
  · intro hwithin
    exact ⟨_, rounds_ranksBy ⟨hsized, hwithin⟩ hlaid⟩

end Batch

/-- A batch that can be laid out, for any roster whose backends can be set up and any
formulas. A launch comes to a summary exactly if its memory is granted and its times can be
told. Then, whatever the order of the ranks' steps, no rank fails or ends with other records
than the run's, some rank can make a step until all have left, all can be brought to the end,
and what they then come to is what the launch comes to. Its records are those of the plain
loop, in the order of the formulas, and their votes are in the order of the engines. -/
theorem launch_eq_sequential {ε : Type} {roster : Roster ε} {backends : List Backend}
    {total base : Nat} {policy : Policy} {plan : Plan ε} {formulas : List Syllogism}
    (hplan : Plan.make roster total base policy = .ok plan) (hroster : roster.Provides backends)
    (htotal : total < 2 ^ 64) (hbackends : ∀ backend ∈ backends, backend.Sized)
    (hformulas : Wire.Fits formulas) :
    (∀ memory : Memory, (∃ summary, plan.launch memory formulas = .ok (.ok summary)) ↔
      memory.Serves plan.requests ∧ plan.Timely backends formulas) ∧
    (plan.Timely backends formulas → ∃ seats fabric summary,
      plan.seats (List.range total) = .ok seats ∧ Fabric.build plan.layout = .ok fabric ∧
      (∀ memory : Memory, memory.Serves plan.requests →
        plan.launch memory formulas = .ok (.ok summary)) ∧
      sequential policy (backends.take (min backends.length total)) base formulas =
        .ok summary.records ∧
      summary.records.map (·.syllogism) = formulas ∧
      (roster.names = backends.map (·.name) →
        ∀ record ∈ summary.records, record.votes.map (·.engine) = plan.active) ∧
      ∀ schedule,
        (∀ outcome ∈ ((plan.start seats fabric formulas).follow schedule).results,
          ∃ ended, outcome = .ok ended ∧
            ∀ records ∈ ended.records, records = summary.records) ∧
        (((plan.start seats fabric formulas).follow schedule).finished = false →
          ∃ rank, rank < total ∧
            ((plan.start seats fabric formulas).follow schedule).ready rank = true) ∧
        (((plan.start seats fabric formulas).follow schedule).finished = true →
          plan.summarize ((plan.start seats fabric formulas).follow schedule) = .ok summary) ∧
        ∃ rest,
          ((plan.start seats fabric formulas).follow (schedule ++ rest)).finished = true) := by
  obtain ⟨hcheck, rfl, rfl, hengines, hterms⟩ := make_eq_ok hplan
  have hgrid := Layout.grid_of_check hcheck
  rw [hroster.length] at hengines
  refine ⟨fun memory => ?_, fun htimely => ?_⟩
  · rw [← exists_run_iff hcheck hroster hengines htotal hbackends hformulas]
    simp only [Plan.launch_eq_ok_iff, exists_and_left]
  obtain ⟨first, -⟩ : ∃ first, first ∈ backends := by
    refine List.exists_mem_of_length_pos ?_
    rw [← hengines]
    exact hgrid.engines_pos
  obtain ⟨fabric, hfabric, -⟩ := build_eq hcheck
  have hlaid := laid_of_build hfabric
  have hfits : plan.Fits (backendAt plan.layout backends first) formulas :=
    ⟨sized_backendAt first hgrid hengines htotal hbackends hformulas,
      (within_backendAt_iff first hgrid hengines).mpr htimely⟩
  have hseats := seats_eq_ok (plan.seatBy (backendAt plan.layout backends first)) fun rank hrank =>
    seat_eq_ok first hcheck hroster hengines (List.mem_range.mp hrank)
  have hsequential := sequential_summaryBy first hgrid hengines formulas
  have hwidth : min backends.length plan.layout.total = plan.layout.width := by
    rw [Layout.width, hengines]
  refine ⟨_, fabric, plan.summaryBy (backendAt plan.layout backends first) formulas, hseats,
    hfabric, fun memory hserves => ?_, ?_, syllogisms_of_sequential hsequential,
    fun hnames record hrecord => ?_, follow_ranksBy hfits hlaid⟩
  · rw [Plan.launch_of_serves hserves, Plan.run, hseats, hfabric]
    exact congrArg Except.ok (rounds_ranksBy hfits hlaid)
  · rw [hterms] at hsequential
    rw [hwidth]
    exact hsequential
  · rw [engines_of_sequential hsequential hrecord, Plan.active, hnames, List.map_take]
    rfl

/-- Two groups of two engines, one that proves everything and one that refutes the first of
three formulas and gives no answer in time for the others. -/
theorem launch_eq_sequential_four :
    let backends : List Backend :=
      [⟨"LEO-III", .leo, fun _ _ => .ok ⟨.proved, some "q.e.d.", 7⟩, fun _ _ => 8⟩,
        ⟨"MleanTAP", .mleanTap, fun formula _ =>
          if formula = .predicate "P" then .ok ⟨.refuted, none, 7⟩ else .error .timeout,
          fun _ _ => 9⟩]
    let roster : Roster Unit :=
      ⟨["LEO-III", "MleanTAP"], fun i _ => (backends[i]?.map Except.ok).getD (.error ())⟩
    let formulas : List Syllogism :=
      [⟨.predicate "P", default, "1A"⟩, ⟨.not (.predicate "P"), default, "1E"⟩,
        ⟨.predicate "Q", default, "2A"⟩]
    ∃ plan summary, Plan.make roster 4 10 {} = .ok plan ∧
      plan.launch .ample formulas = .ok (.ok summary) ∧
      sequential {} backends 10 formulas = .ok summary.records := by
  intro backends roster formulas
  have hroster : roster.Provides backends := ⟨rfl, fun i _ backend h => by
    show (backends[i]?.map Except.ok).getD (.error ()) = .ok backend
    rw [h]
    rfl⟩
  have hbackends : ∀ backend ∈ backends, backend.Sized := by
    intro backend hmem
    rcases List.mem_pair.mp hmem with rfl | rfl
    · exact ⟨Wire.fits_string.mpr (by decide), fun _ _ _ h => by
        cases h
        exact Wire.fits_some.mpr (Wire.fits_string.mpr (by decide))⟩
    · refine ⟨Wire.fits_string.mpr (by decide), fun _ _ _ h => ?_⟩
      dsimp only at h
      split at h <;> cases h
      exact Wire.fits_none
  have hformulas : Wire.Fits formulas := by
    simp [formulas, Wire.fits_list, Wire.fits_syllogism, Wire.fits_formula, Wire.fits_string,
      Formula.leaves]
    decide
  have hcheck : Layout.check ⟨4, roster.names.length⟩ = .ok () := by
    show Layout.check ⟨4, 2⟩ = .ok ()
    rfl
  let plan : Plan Unit := ⟨roster, ⟨4, 2⟩, { base := 10, policy := {} }⟩
  have hplan : Plan.make roster 4 10 {} = .ok plan := by
    rw [Plan.make, hcheck]
    rfl
  have htimely : plan.Timely backends formulas :=
    (within_backendAt_iff ⟨"", default, fun _ _ => .error .timeout, fun _ _ => 0⟩
      (Layout.grid_of_check hcheck) rfl).mp (by decide +kernel)
  have hserves : Memory.ample.Serves plan.requests := Memory.serves_ample.mpr (by decide)
  obtain ⟨_, _, summary, -, -, hlaunch, hsequential, -⟩ :=
    (launch_eq_sequential hplan hroster (by decide) hbackends hformulas).2 htimely
  exact ⟨plan, summary, hplan, hlaunch .ample hserves, hsequential⟩

/-- The plain loop has records where a run has none: if there are as many ranks as a word can
count, the list of their engines has no addresses, and a single rank cannot tell what its engine
took for two formulas, each of which took it as long as can be told. -/
theorem launch_falls_short :
    let backend : Backend :=
      ⟨"TPG", .tpg, fun _ _ => .ok ⟨.refuted, none, Tally.longest⟩, fun _ _ => 8⟩
    let roster : Roster Unit :=
      ⟨["TPG"], fun i _ => ([backend][i]?.map Except.ok).getD (.error ())⟩
    let formulas : List Syllogism :=
      [⟨.predicate "P", default, "1A"⟩, ⟨.predicate "Q", default, "2A"⟩]
    (roster.Provides [backend] ∧ backend.Sized ∧ Wire.Fits formulas ∧
      ∃ records, sequential {} [backend] 10 formulas = .ok records) ∧
    (∃ plan, Plan.make roster 18446744073709551615 10 {} = .ok plan ∧
      ∀ memory : Memory, plan.launch memory formulas = .error .unaddressable) ∧
    ∃ plan, Plan.make roster 1 10 {} = .ok plan ∧
      ∀ memory : Memory, ¬∃ summary, plan.launch memory formulas = .ok (.ok summary) := by
  intro backend roster formulas
  have hroster : roster.Provides [backend] := ⟨rfl, fun i _ other h => by
    show ([backend][i]?.map Except.ok).getD (.error ()) = .ok other
    rw [h]
    rfl⟩
  have hbackend : backend.Sized := ⟨Wire.fits_string.mpr (by decide), fun _ _ _ h => by
    cases h
    exact Wire.fits_none⟩
  have hformulas : Wire.Fits formulas := by
    simp [formulas, Wire.fits_list, Wire.fits_syllogism, Wire.fits_formula, Wire.fits_string,
      Formula.leaves]
    decide
  have hmake : ∀ total, Layout.check ⟨total, 1⟩ = .ok () →
      Plan.make roster total 10 {} = .ok ⟨roster, ⟨total, 1⟩, { base := 10, policy := {} }⟩ := by
    intro total hcheck
    rw [Plan.make, show roster.names.length = 1 from rfl, hcheck]
  refine ⟨⟨hroster, hbackend, hformulas, exists_sequential (by simp) _ _ _⟩,
    ⟨_, hmake _ rfl, fun memory => ?_⟩, _, hmake _ rfl, fun memory hsummary => ?_⟩
  · rw [Plan.launch, Memory.reserve_unaddressable (by decide)]
  · obtain ⟨summary, hlaunch⟩ := hsummary
    have htimely := (exists_run_iff rfl hroster rfl (by decide)
      (by simpa using hbackend) hformulas).mp ⟨summary, (Plan.launch_eq_ok_iff.mp hlaunch).2⟩
    -- The only chunk is the whole list.
    have hchunk : formulas ∈ partition formulas (Layout.groups ⟨1, 1⟩) := by decide +kernel
    exact absurd (htimely backend List.mem_cons_self formulas hchunk).proving (by decide)

end Syllogistic.Batch
