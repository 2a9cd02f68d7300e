import Mathlib.Data.List.Basic
import Syllogistic.Proofs.Consensus.Decision

/-!
# Columns are decided row by row

A chunk is decided by the columns of its engines. Each row is what stands first in every
column, and after that the columns go on without it. A column that had run dry would be left
out of a row without a word, and the results of later engines would move up into its place;
but the number of columns and their lengths are compared beforehand, so a row has exactly one
result of each engine, at the engine's place.

So a chunk is decided if and only if the columns make a rectangle of the chunk's length in
which every result is for the syllogism of its row, and each row is decided by itself. What is
reported otherwise is the first thing that is wrong: the number of columns, then the first
column of another length, then what is wrong in the first row that does not line up.
-/

namespace Syllogistic

namespace Columns

/-- Whether each engine has a column with one result for each syllogism. -/
structure Rectangular (chunk : List Syllogism) (columns : List (List EngineResult))
    (engines : Nat) : Prop where
  count : columns.length = engines
  length : ∀ column ∈ columns, column.length = chunk.length

/-- Whether the result of an engine at a place of the chunk is for the syllogism there. -/
def AgreeAt (chunk : List Syllogism) (columns : List (List EngineResult))
    (place engine : Nat) : Prop :=
  ∀ syllogism column result, chunk[place]? = some syllogism → columns[engine]? = some column →
    column[place]? = some result → result.formula = syllogism.formula

/-- Whether the columns can decide the chunk. -/
structure Aligned (chunk : List Syllogism) (columns : List (List EngineResult))
    (engines : Nat) : Prop extends Rectangular chunk columns engines where
  engine : chunk = [] ∨ 1 ≤ engines
  agree : ∀ place engine, AgreeAt chunk columns place engine

/-- What is to be reported of columns that do not line up with a chunk: each fault only if
nothing that is looked at before it is wrong. -/
inductive Misaligned (chunk : List Syllogism) (columns : List (List EngineResult))
    (engines : Nat) : AlignmentError → Prop where
  | columns (hcount : columns.length ≠ engines) :
    Misaligned chunk columns engines (.columns engines columns.length)
  | columnLength {engine : Nat} {column : List EngineResult} (hcount : columns.length = engines)
    (hcolumn : columns[engine]? = some column) (hlength : column.length ≠ chunk.length)
    (hfirst : ∀ k < engine, ∀ earlier, columns[k]? = some earlier →
      earlier.length = chunk.length) :
    Misaligned chunk columns engines (.columnLength engine column.length chunk.length)
  | noResults {syllogism : Syllogism} (hrectangular : Rectangular chunk columns engines)
    (hengines : engines = 0) (hfirst : chunk[0]? = some syllogism) :
    Misaligned chunk columns engines (.noResults syllogism.code)
  | stray {place engine : Nat} {syllogism : Syllogism} {column : List EngineResult}
    {result : EngineResult} (hrectangular : Rectangular chunk columns engines)
    (hsyllogism : chunk[place]? = some syllogism) (hcolumn : columns[engine]? = some column)
    (hresult : column[place]? = some result) (hformula : result.formula ≠ syllogism.formula)
    (hfirst : ∀ i j, i < place ∨ i = place ∧ j < engine → AgreeAt chunk columns i j) :
    Misaligned chunk columns engines (.stray result.engine result.formula syllogism)

/-- What the columns have at a place. -/
def row (columns : List (List EngineResult)) (place : Nat) : List EngineResult :=
  columns.filterMap (·[place]?)

variable {chunk : List Syllogism} {columns : List (List EngineResult)} {engines place : Nat}
  {syllogism : Syllogism}

theorem row_zero : columns.filterMap List.head? = row columns 0 :=
  List.filterMap_congr fun _ _ => List.head?_eq_getElem?

theorem row_tail : row (columns.map List.tail) place = row columns (place + 1) := by
  rw [row, row, List.filterMap_map]
  exact List.filterMap_congr fun _ _ => List.getElem?_tail

theorem mem_row {result : EngineResult} :
    result ∈ row columns place ↔
      ∃ engine : Nat, columns[engine]?.bind (·[place]?) = some result := by
  rw [row, List.mem_filterMap]
  constructor
  · rintro ⟨column, hmem, hresult⟩
    obtain ⟨engine, hengine⟩ := List.mem_iff_getElem?.mp hmem
    exact ⟨engine, Option.bind_eq_some_iff.mpr ⟨column, hengine, hresult⟩⟩
  · rintro ⟨engine, hbind⟩
    obtain ⟨column, hengine, hresult⟩ := Option.bind_eq_some_iff.mp hbind
    exact ⟨column, List.mem_of_getElem? hengine, hresult⟩

theorem agreeAt_iff (hsyllogism : chunk[place]? = some syllogism) {engine : Nat} :
    AgreeAt chunk columns place engine ↔
      ∀ result, columns[engine]?.bind (·[place]?) = some result →
        result.formula = syllogism.formula := by
  constructor
  · intro h result hbind
    obtain ⟨column, hcolumn, hresult⟩ := Option.bind_eq_some_iff.mp hbind
    exact h syllogism column result hsyllogism hcolumn hresult
  · intro h other column result hother hcolumn hresult
    rw [hsyllogism] at hother
    cases hother
    exact h result (Option.bind_eq_some_iff.mpr ⟨column, hcolumn, hresult⟩)

theorem forall_mem_row_iff (hsyllogism : chunk[place]? = some syllogism) :
    (∀ result ∈ row columns place, result.formula = syllogism.formula) ↔
      ∀ engine, AgreeAt chunk columns place engine := by
  constructor
  · intro h engine
    exact (agreeAt_iff hsyllogism).mpr fun result hbind => h result (mem_row.mpr ⟨engine, hbind⟩)
  · intro h result hmem
    obtain ⟨engine, hbind⟩ := mem_row.mp hmem
    exact (agreeAt_iff hsyllogism).mp (h engine) result hbind

/-- No column is left out of a row of a rectangle. -/
theorem map_some_row (h : Rectangular chunk columns engines) (hplace : place < chunk.length) :
    (row columns place).map some = columns.map (·[place]?) := by
  have hlength := h.length
  clear h
  induction columns with
  | nil => rfl
  | cons column rest ih =>
      have hlt : place < column.length := by
        rw [hlength column List.mem_cons_self]
        exact hplace
      have hrest := ih fun other hmem => hlength other (List.mem_cons_of_mem _ hmem)
      rw [row] at hrest ⊢
      simp only [List.filterMap_cons, List.getElem?_eq_getElem hlt, List.map_cons, hrest]

theorem getElem?_row (h : Rectangular chunk columns engines) (hplace : place < chunk.length)
    (engine : Nat) : (row columns place)[engine]? = columns[engine]?.bind (·[place]?) := by
  have hrow := congrArg (·[engine]?) (map_some_row h hplace)
  simp only [List.getElem?_map] at hrow
  cases hcolumn : columns[engine]? with
  | none => simpa [hcolumn] using hrow
  | some column =>
      rw [hcolumn] at hrow
      cases hresult : (row columns place)[engine]? with
      | none => simp [hresult] at hrow
      | some result => simpa [hresult] using hrow

theorem length_row (h : Rectangular chunk columns engines) (hplace : place < chunk.length) :
    (row columns place).length = engines := by
  rw [← h.count, ← List.length_map some, map_some_row h hplace, List.length_map]

theorem Aligned.not_misaligned {error : AlignmentError} (h : Aligned chunk columns engines) :
    ¬ Misaligned chunk columns engines error := by
  intro hfault
  cases hfault with
  | columns hcount => exact hcount h.count
  | columnLength _ hcolumn hlength => exact hlength (h.length _ (List.mem_of_getElem? hcolumn))
  | noResults _ hengines hfirst =>
      rcases h.engine with rfl | hpos
      · simp at hfirst
      · omega
  | stray _ hsyllogism hcolumn hresult hformula =>
      exact hformula (h.agree _ _ _ _ _ hsyllogism hcolumn hresult)

end Columns

namespace Policy

open Columns

variable {policy : Policy} {chunk : List Syllogism} {columns : List (List EngineResult)}
  {engines : Nat} {records : List Record} {error : AlignmentError}

/-! ## One row after the other

A row that cannot be decided ends the whole with its own error, and the rows before it have
all been decided. -/

section Rows

variable {syllogism : Syllogism} {rest : List Syllogism}

theorem consolidateRows_cons :
    policy.consolidateRows (syllogism :: rest) columns =
      (policy.consolidate syllogism (row columns 0)).bind fun record =>
        (policy.consolidateRows rest (columns.map List.tail)).map (record :: ·) := by
  rw [consolidateRows, row_zero]
  cases policy.consolidate syllogism (row columns 0) with
  | error error => rfl
  | ok record => cases policy.consolidateRows rest (columns.map List.tail) <;> rfl

theorem consolidateRows_eq_ok_iff :
    policy.consolidateRows chunk columns = .ok records ↔
      records.length = chunk.length ∧
        ∀ (place : Nat) syllogism, chunk[place]? = some syllogism →
          ∃ record, records[place]? = some record ∧
            policy.consolidate syllogism (row columns place) = .ok record := by
  induction chunk generalizing columns records with
  | nil =>
      rw [consolidateRows, List.length_nil, List.length_eq_zero_iff]
      constructor
      · intro h
        exact ⟨(Except.ok.inj h).symm, fun place syllogism hnone => by simp at hnone⟩
      · rintro ⟨rfl, -⟩
        rfl
  | cons syllogism rest ih =>
      rw [consolidateRows_cons]
      constructor
      · intro h
        cases hrecord : policy.consolidate syllogism (row columns 0) with
        | error error => simp [hrecord, Except.bind] at h
        | ok record =>
            cases hrest : policy.consolidateRows rest (columns.map List.tail) with
            | error error => simp [hrecord, hrest, Except.bind, Except.map] at h
            | ok others =>
                simp only [hrecord, hrest, Except.bind, Except.map, Except.ok.injEq] at h
                subst h
                obtain ⟨hlength, hrows⟩ := ih.mp hrest
                refine ⟨congrArg Nat.succ hlength, fun place other hother => ?_⟩
                cases place with
                | zero =>
                    cases hother
                    exact ⟨record, rfl, hrecord⟩
                | succ place =>
                    rw [← row_tail]
                    exact hrows place other hother
      · rintro ⟨hlength, hrows⟩
        obtain ⟨record, hfirst, hrecord⟩ := hrows 0 syllogism rfl
        obtain ⟨head, others, rfl⟩ := List.exists_cons_of_length_eq_add_one hlength
        cases hfirst
        have hrest : policy.consolidateRows rest (columns.map List.tail) = .ok others := by
          refine ih.mpr ⟨Nat.succ.inj hlength, fun place other hother => ?_⟩
          rw [row_tail]
          exact hrows (place + 1) other hother
        rw [hrecord, hrest]
        rfl

theorem consolidateRows_eq_error_iff :
    policy.consolidateRows chunk columns = .error error ↔
      ∃ (place : Nat) (syllogism : Syllogism), chunk[place]? = some syllogism ∧
        policy.consolidate syllogism (row columns place) = .error error ∧
        ∀ k < place, ∀ earlier, chunk[k]? = some earlier →
          ∃ record, policy.consolidate earlier (row columns k) = .ok record := by
  induction chunk generalizing columns with
  | nil => exact iff_of_false nofun fun ⟨_, _, hnone, _⟩ => by simp at hnone
  | cons syllogism rest ih =>
      rw [consolidateRows_cons]
      cases hrecord : policy.consolidate syllogism (row columns 0) with
      | error fault =>
          constructor
          · intro h
            cases h
            exact ⟨0, syllogism, rfl, hrecord, fun k hk => absurd hk (Nat.not_lt_zero k)⟩
          · rintro ⟨place, other, hother, herror, hbefore⟩
            cases place with
            | zero =>
                cases hother
                rw [hrecord] at herror
                cases herror
                rfl
            | succ place =>
                obtain ⟨record, hok⟩ := hbefore 0 (Nat.succ_pos place) syllogism rfl
                rw [hrecord] at hok
                cases hok
      | ok record =>
          have hmap : ((policy.consolidateRows rest (columns.map List.tail)).map (record :: ·) =
              .error error) ↔ policy.consolidateRows rest (columns.map List.tail) =
              .error error := by
            cases policy.consolidateRows rest (columns.map List.tail) <;> simp [Except.map]
          show (policy.consolidateRows rest (columns.map List.tail)).map (record :: ·) = _ ↔ _
          rw [hmap, ih]
          constructor
          · rintro ⟨place, other, hother, herror, hbefore⟩
            rw [row_tail] at herror
            refine ⟨place + 1, other, hother, herror, fun k hk earlier hearlier => ?_⟩
            cases k with
            | zero =>
                cases hearlier
                exact ⟨record, hrecord⟩
            | succ k =>
                rw [← row_tail]
                exact hbefore k (Nat.lt_of_succ_lt_succ hk) earlier hearlier
          · rintro ⟨place, other, hother, herror, hbefore⟩
            cases place with
            | zero =>
                cases hother
                rw [hrecord] at herror
                cases herror
            | succ place =>
                refine ⟨place, other, hother, by rw [row_tail]; exact herror,
                  fun k hk earlier hearlier => ?_⟩
                rw [row_tail]
                exact hbefore (k + 1) (Nat.succ_lt_succ hk) earlier hearlier

end Rows

/-! ## Rows of a rectangle -/

section Rectangle

variable {place : Nat} {syllogism : Syllogism}

theorem consolidate_row_ok_iff (h : Rectangular chunk columns engines)
    (hsyllogism : chunk[place]? = some syllogism) :
    (∃ record, policy.consolidate syllogism (row columns place) = .ok record) ↔
      1 ≤ engines ∧ ∀ engine, AgreeAt chunk columns place engine := by
  have hplace : place < chunk.length := (List.getElem?_eq_some_iff.mp hsyllogism).1
  have hempty : row columns place ≠ [] ↔ 1 ≤ engines := by
    rw [← List.length_pos_iff, length_row h hplace]
    exact Iff.rfl
  rw [← hempty, ← forall_mem_row_iff hsyllogism]
  constructor
  · rintro ⟨record, hrecord⟩
    obtain ⟨hresults, hformula, -⟩ := consolidate_eq_ok_iff.mp hrecord
    exact ⟨hresults, hformula⟩
  · rintro ⟨hresults, hformula⟩
    exact ⟨_, consolidate_eq_recordOf hresults hformula⟩

theorem consolidate_row_error_iff (h : Rectangular chunk columns engines)
    (hsyllogism : chunk[place]? = some syllogism) :
    policy.consolidate syllogism (row columns place) = .error error ↔
      engines = 0 ∧ error = .noResults syllogism.code ∨
        ∃ (engine : Nat) (column : List EngineResult) (result : EngineResult),
          columns[engine]? = some column ∧ column[place]? = some result ∧
          result.formula ≠ syllogism.formula ∧
          (∀ k < engine, AgreeAt chunk columns place k) ∧
          error = .stray result.engine result.formula syllogism := by
  have hplace : place < chunk.length := (List.getElem?_eq_some_iff.mp hsyllogism).1
  have hnil : row columns place = [] ↔ engines = 0 := by
    rw [← List.length_eq_zero_iff, length_row h hplace]
  simp only [consolidate_eq_error_iff, hnil, getElem?_row h hplace, ← agreeAt_iff hsyllogism]
  refine or_congr Iff.rfl (exists_congr fun engine => ?_)
  constructor
  · rintro ⟨result, hbind, hother⟩
    obtain ⟨column, hcolumn, hresult⟩ := Option.bind_eq_some_iff.mp hbind
    exact ⟨column, result, hcolumn, hresult, hother⟩
  · rintro ⟨column, result, hcolumn, hresult, hother⟩
    exact ⟨result, Option.bind_eq_some_iff.mpr ⟨column, hcolumn, hresult⟩, hother⟩

theorem consolidateGroup_of_rectangular (h : Rectangular chunk columns engines) :
    policy.consolidateGroup chunk columns engines = policy.consolidateRows chunk columns := by
  have hnone : columns.zipIdx.find? (·.1.length ≠ chunk.length) = none := by
    refine List.find?_eq_none.mpr fun column hmem => ?_
    simpa using h.length column.1 (List.fst_mem_of_mem_zipIdx hmem)
  rw [consolidateGroup, if_neg (not_not_intro h.count), hnone]

theorem consolidateRows_eq_error_iff_misaligned (h : Rectangular chunk columns engines) :
    policy.consolidateRows chunk columns = .error error ↔
      Misaligned chunk columns engines error := by
  rw [consolidateRows_eq_error_iff]
  constructor
  · rintro ⟨place, syllogism, hsyllogism, herror, hbefore⟩
    have hplace : place < chunk.length := (List.getElem?_eq_some_iff.mp hsyllogism).1
    have hagree : ∀ k < place, 1 ≤ engines ∧ ∀ engine, AgreeAt chunk columns k engine := by
      intro k hk
      have hearlier := List.getElem?_eq_getElem (Nat.lt_trans hk hplace)
      exact (consolidate_row_ok_iff h hearlier).mp (hbefore k hk _ hearlier)
    rcases (consolidate_row_error_iff h hsyllogism).mp herror with
      ⟨hengines, rfl⟩ | ⟨engine, column, result, hcolumn, hresult, hformula, hfirst, rfl⟩
    · -- Without engines already the first row is empty.
      have hzero : place = 0 := by
        by_contra hpos
        have := (hagree 0 (Nat.pos_of_ne_zero hpos)).1
        omega
      subst hzero
      exact .noResults h hengines hsyllogism
    · refine .stray h hsyllogism hcolumn hresult hformula fun i j hij => ?_
      rcases hij with hlt | ⟨rfl, hlt⟩
      · exact (hagree i hlt).2 j
      · exact hfirst j hlt
  · intro hfault
    cases hfault with
    | columns hcount => exact absurd h.count hcount
    | columnLength hcount hcolumn hlength hfirst =>
        exact absurd (h.length _ (List.mem_of_getElem? hcolumn)) hlength
    | noResults hrectangular hengines hfirst =>
        exact ⟨0, _, hfirst, (consolidate_row_error_iff h hfirst).mpr (.inl ⟨hengines, rfl⟩),
          fun k hk => absurd hk (Nat.not_lt_zero k)⟩
    | @stray place engine syllogism column result hrectangular hsyllogism hcolumn hresult hformula
        hfirst =>
        have hengines : engine < engines := by
          rw [← h.count]
          exact (List.getElem?_eq_some_iff.mp hcolumn).1
        have herror : policy.consolidate syllogism (row columns place) =
            .error (.stray result.engine result.formula syllogism) :=
          (consolidate_row_error_iff h hsyllogism).mpr (.inr ⟨engine, column, result, hcolumn,
            hresult, hformula, fun k hk => hfirst place k (.inr ⟨rfl, hk⟩), rfl⟩)
        refine ⟨place, syllogism, hsyllogism, herror, fun k hk earlier hearlier => ?_⟩
        exact (consolidate_row_ok_iff h hearlier).mpr ⟨by omega, fun j => hfirst k j (.inl hk)⟩

theorem consolidateRows_ok_iff_aligned (h : Rectangular chunk columns engines) :
    (∃ records, policy.consolidateRows chunk columns = .ok records) ↔
      Aligned chunk columns engines := by
  constructor
  · rintro ⟨records, hrecords⟩
    have hrow : ∀ (place : Nat) syllogism, chunk[place]? = some syllogism →
        1 ≤ engines ∧ ∀ engine, AgreeAt chunk columns place engine := by
      intro place syllogism hsyllogism
      obtain ⟨record, -, hrecord⟩ :=
        (consolidateRows_eq_ok_iff.mp hrecords).2 place syllogism hsyllogism
      exact (consolidate_row_ok_iff h hsyllogism).mp ⟨record, hrecord⟩
    refine ⟨h, ?_, fun place engine syllogism column result hsyllogism => ?_⟩
    · cases chunk with
      | nil => exact .inl rfl
      | cons syllogism rest => exact .inr (hrow 0 syllogism rfl).1
    · exact (hrow place syllogism hsyllogism).2 engine syllogism column result hsyllogism
  · intro haligned
    cases hrows : policy.consolidateRows chunk columns with
    | ok records => exact ⟨records, rfl⟩
    | error error =>
        exact absurd ((consolidateRows_eq_error_iff_misaligned h).mp hrows)
          haligned.not_misaligned

end Rectangle

/-! ## Columns that make no rectangle -/

theorem find?_columnLength {engine length : Nat} {column : List EngineResult} :
    columns.zipIdx.find? (·.1.length ≠ length) = some (column, engine) ↔
      columns[engine]? = some column ∧ column.length ≠ length ∧
        ∀ k < engine, ∀ earlier, columns[k]? = some earlier → earlier.length = length := by
  rw [find?_eq_some_iff_first]
  simp only [List.getElem?_zipIdx, Option.map_eq_some_iff, Prod.mk.injEq, Nat.zero_add, ne_eq,
    Decidable.not_not]
  constructor
  · rintro ⟨_, ⟨_, hcolumn, rfl, rfl⟩, hlength, hfirst⟩
    exact ⟨hcolumn, hlength, fun k hk earlier hearlier => hfirst k hk _ ⟨earlier, hearlier, rfl⟩⟩
  · rintro ⟨hcolumn, hlength, hfirst⟩
    refine ⟨engine, ⟨column, hcolumn, rfl, rfl⟩, hlength, ?_⟩
    rintro k hk _ ⟨earlier, hearlier, rfl⟩
    exact hfirst k hk earlier hearlier

theorem consolidateGroup_of_not_rectangular (policy : Policy)
    (h : ¬ Rectangular chunk columns engines) :
    ∃ fault, policy.consolidateGroup chunk columns engines = .error fault ∧
      ∀ error, Misaligned chunk columns engines error ↔ error = fault := by
  rw [consolidateGroup]
  split
  · next hcount =>
      refine ⟨_, rfl, fun error => ⟨fun hfault => ?_, fun herror => herror ▸ .columns hcount⟩⟩
      cases hfault with
      | columns => rfl
      | columnLength heq => exact absurd heq hcount
      | noResults hrectangular => exact absurd hrectangular h
      | stray hrectangular => exact absurd hrectangular h
  · next hcount =>
      have hcount : columns.length = engines := Decidable.not_not.mp hcount
      split
      · next column engine hfind =>
          obtain ⟨hcolumn, hlength, hfirst⟩ := find?_columnLength.mp hfind
          refine ⟨_, rfl, fun error => ⟨fun hfault => ?_,
            fun herror => herror ▸ .columnLength hcount hcolumn hlength hfirst⟩⟩
          cases hfault with
          | columns hne => exact absurd hcount hne
          | columnLength _ hcolumn' hlength' hfirst' =>
              have hsame := find?_columnLength.mpr ⟨hcolumn', hlength', hfirst'⟩
              rw [hfind] at hsame
              cases hsame
              rfl
          | noResults hrectangular => exact absurd hrectangular h
          | stray hrectangular => exact absurd hrectangular h
      · next hnone =>
          refine absurd ⟨hcount, fun column hmem => ?_⟩ h
          obtain ⟨engine, hcolumn⟩ := List.mem_iff_getElem?.mp hmem
          have hzip : (column, engine) ∈ columns.zipIdx :=
            List.mk_mem_zipIdx_iff_getElem?.mpr hcolumn
          simpa using List.find?_eq_none.mp hnone _ hzip

/-- A chunk is decided if and only if the columns of its engines line up with it; each of its
records is then what the results of all engines at its place come to, and otherwise the fault
that is found first is reported. -/
theorem consolidateGroup_transposes (policy : Policy) (chunk : List Syllogism)
    (columns : List (List EngineResult)) (engines : Nat) :
    ((∃ records, policy.consolidateGroup chunk columns engines = .ok records) ↔
        Aligned chunk columns engines) ∧
      (∀ records, policy.consolidateGroup chunk columns engines = .ok records →
        records.length = chunk.length ∧
          ∀ (place : Nat) syllogism, chunk[place]? = some syllogism →
            ∃ results record, results.map some = columns.map (·[place]?) ∧
              records[place]? = some record ∧
              policy.consolidate syllogism results = .ok record) ∧
      ∀ error, policy.consolidateGroup chunk columns engines = .error error ↔
        Misaligned chunk columns engines error := by
  by_cases h : Rectangular chunk columns engines
  · rw [consolidateGroup_of_rectangular h]
    refine ⟨consolidateRows_ok_iff_aligned h, fun records hrecords => ?_,
      fun error => consolidateRows_eq_error_iff_misaligned h⟩
    obtain ⟨hlength, hrows⟩ := consolidateRows_eq_ok_iff.mp hrecords
    refine ⟨hlength, fun place syllogism hsyllogism => ?_⟩
    obtain ⟨record, hrecord, hdecides⟩ := hrows place syllogism hsyllogism
    have hplace := (List.getElem?_eq_some_iff.mp hsyllogism).1
    exact ⟨row columns place, record, map_some_row h hplace, hrecord, hdecides⟩
  · obtain ⟨fault, hfault, hmisaligned⟩ := consolidateGroup_of_not_rectangular policy h
    rw [hfault]
    refine ⟨iff_of_false nofun fun haligned => h haligned.toRectangular, nofun, fun error => ?_⟩
    rw [hmisaligned error, Except.error.injEq, eq_comm]

end Policy

end Syllogistic
