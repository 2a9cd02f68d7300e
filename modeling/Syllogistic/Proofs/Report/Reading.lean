import Syllogistic.Report.Table

/-!
# A report reads back as what was written

The reader is followed through one cell at a time. A cell that is written plainly
leaves it in a plain cell, or at the start if there was nothing to write, and a
quoted cell leaves it behind a quote. What the cell holds is in its memory in each
of these cases, and in each of them a separator ends the cell, so the lines of a
table do not depend on how its cells were written. Only a line without any cell
would be taken for another one, a line with one empty cell; a report has none.

As all lines of a report are as wide as its header, the two cells of an engine
stand under its two titles in every line.
-/

namespace Syllogistic

namespace Csv

variable {place : Place} {row : List String}

/-! ## One cell -/

theorem readFrom_plain_cons {c : Char} (hc : needsQuotes c = false)
    (h : place = .start ∨ place = .plain) (acc rest : List Char) :
    readFrom place acc row (c :: rest) = readFrom .plain (c :: acc) row rest := by
  simp only [needsQuotes, Bool.or_eq_false_iff, beq_eq_false_iff_ne] at hc
  obtain ⟨⟨⟨hcomma, hquote⟩, hline⟩, -⟩ := hc
  rcases h with rfl | rfl <;> rw [readFrom] <;>
    simp only [if_neg hcomma, if_neg hline, if_neg hquote]

theorem readFrom_plain {text : List Char} (h : text.any needsQuotes = false)
    (acc rest : List Char) :
    readFrom .plain acc row (text ++ rest) = readFrom .plain (text.reverse ++ acc) row rest := by
  induction text generalizing acc with
  | nil => rfl
  | cons c text ih =>
      rw [List.any_cons, Bool.or_eq_false_iff] at h
      rw [List.cons_append, readFrom_plain_cons h.1 (.inr rfl), ih h.2, List.reverse_cons,
        List.append_assoc]
      rfl

/-- Inside quotes everything belongs to the cell, quotes in pairs. -/
theorem readFrom_quoted (row : List String) (text acc rest : List Char) :
    readFrom .quoted acc row (doubled text ++ rest) =
      readFrom .quoted (text.reverse ++ acc) row rest := by
  induction text generalizing acc with
  | nil => rfl
  | cons c text ih =>
      rw [doubled, List.flatMap_cons, List.append_assoc, List.reverse_cons, List.append_assoc]
      by_cases hquote : c = '"'
      · subst hquote
        rw [if_pos rfl]
        exact ih ('"' :: acc)
      · rw [if_neg hquote, List.singleton_append, readFrom, if_neg hquote]
        exact ih (c :: acc)

/-- Behind a cell the reader is not inside quotes and has the cell in its memory. -/
theorem readFrom_cell (row : List String) (text rest : List Char) :
    ∃ place, place ≠ .quoted ∧
      readFrom .start [] row (cell text ++ rest) = readFrom place text.reverse row rest := by
  rw [cell]
  split
  · refine ⟨.afterQuote, nofun, ?_⟩
    have hread := readFrom_quoted row text [] ('"' :: rest)
    rw [List.append_nil] at hread
    rw [List.cons_append, List.cons_append, List.append_assoc]
    exact hread
  · next hplain =>
      rw [Bool.not_eq_true] at hplain
      cases text with
      | nil => exact ⟨.start, nofun, rfl⟩
      | cons c text =>
          refine ⟨.plain, nofun, ?_⟩
          rw [List.any_cons, Bool.or_eq_false_iff] at hplain
          rw [List.cons_append, readFrom_plain_cons hplain.1 (.inl rfl), readFrom_plain hplain.2,
            List.reverse_cons]

/-! ## Lines -/

theorem readFrom_comma (h : place ≠ .quoted) (acc rest : List Char) :
    readFrom place acc row (',' :: rest) =
      readFrom .start [] (String.ofList acc.reverse :: row) rest := by
  cases place with
  | quoted => exact absurd rfl h
  | start | plain | afterQuote => rfl

theorem readFrom_lineFeed (h : place ≠ .quoted) (acc rest : List Char) :
    readFrom place acc row ('\n' :: rest) =
      (readFrom .start [] [] rest).map ((String.ofList acc.reverse :: row).reverse :: ·) := by
  cases place with
  | quoted => exact absurd rfl h
  | start | plain | afterQuote => rfl

theorem readFrom_cells {texts : List String} (h : texts ≠ []) (rest : List Char) :
    readFrom .start [] row (cells texts ++ '\n' :: rest) =
      (readFrom .start [] [] rest).map ((row.reverse ++ texts) :: ·) := by
  induction texts generalizing row with
  | nil => exact absurd rfl h
  | cons first texts ih =>
      cases texts with
      | nil =>
          obtain ⟨place, hplace, hread⟩ := readFrom_cell row first.toList ('\n' :: rest)
          rw [cells, hread, readFrom_lineFeed hplace, List.reverse_reverse, String.ofList_toList,
            List.reverse_cons]
      | cons second texts =>
          obtain ⟨place, hplace, hread⟩ := readFrom_cell row first.toList
            (',' :: (cells (second :: texts) ++ '\n' :: rest))
          rw [cells, List.append_assoc, List.cons_append, hread, readFrom_comma hplace,
            List.reverse_reverse, String.ofList_toList, ih (List.cons_ne_nil _ _),
            List.reverse_cons, List.append_assoc]
          · rfl
          · exact List.cons_ne_nil _ _

/-- A table whose lines have cells reads back as its cells. -/
theorem read_table {rows : List (List String)} (h : ∀ row ∈ rows, row ≠ []) :
    read (table rows) = some rows := by
  rw [read, table, String.toList_ofList]
  induction rows with
  | nil => rfl
  | cons row rows ih =>
      rw [List.flatMap_cons, line, List.append_assoc, List.singleton_append,
        readFrom_cells (h row (by simp)), ih fun other hother => h other (by simp [hother])]
      rfl

end Csv

namespace Report

/-! ## The columns of a report -/

theorem length_flatMap_pairs {α β : Type} {pair : α → List β} (h : ∀ a, (pair a).length = 2)
    (items : List α) : (items.flatMap pair).length = 2 * items.length := by
  induction items with
  | nil => rfl
  | cons a items ih =>
      rw [List.flatMap_cons, List.length_append, h, ih, List.length_cons]
      omega

/-- The pair of an item stands at twice its place. -/
theorem pair_flatMap {α β : Type} (pair : α → List β) (h : ∀ a, (pair a).length = 2)
    {items : List α} {i : Nat} {a : α} (hitem : items[i]? = some a) :
    ((items.flatMap pair).drop (2 * i)).take 2 = pair a := by
  induction items generalizing i with
  | nil => cases hitem
  | cons first items ih =>
      rw [List.flatMap_cons]
      cases i with
      | zero =>
          obtain rfl : first = a := by simpa using hitem
          rw [Nat.mul_zero, List.drop_zero, ← h first, List.take_left]
      | succ i =>
          rw [Nat.mul_succ, Nat.add_comm, ← List.drop_drop, ← h first, List.drop_left, h first]
          exact ih (by simpa using hitem)

theorem length_voteCells (vote : Option Vote) : (voteCells vote).length = 2 := by
  cases vote <;> rfl

theorem length_header (engines : List String) :
    (header engines).length = 9 + 2 * engines.length := by
  rw [header, List.length_append, length_flatMap_pairs fun _ => rfl]
  rfl

theorem length_row (record : Record) (engines : Nat) :
    (row record engines).length = 9 + 2 * engines := by
  rw [row, List.length_append, length_flatMap_pairs fun _ => length_voteCells _, List.length_range]
  rfl

theorem titles_header {engines : List String} {i : Nat} {name : String}
    (h : engines[i]? = some name) :
    ((header engines).drop (9 + 2 * i)).take 2 = [name ++ " result", name ++ " proof"] := by
  rw [← List.drop_drop]
  exact pair_flatMap (fun name => [name ++ " result", name ++ " proof"]) (fun _ => rfl) h

theorem cells_row (record : Record) {engines i : Nat} (h : i < engines) :
    ((row record engines).drop (9 + 2 * i)).take 2 = voteCells record.votes[i]? := by
  rw [← List.drop_drop]
  exact pair_flatMap _ (fun _ => length_voteCells _) (List.getElem?_range h)

/-- Whatever engines, formulas and proofs are called, a report reads back as its
header and one row for each record in their order; all of these are equally wide,
and under the two titles of an engine every row has that engine's two cells. -/
theorem read_text (engines : List String) (records : List Record) :
    let rows := records.map (row · engines.length)
    Csv.read (text engines records) = some (header engines :: rows) ∧
      (∀ line ∈ header engines :: rows, line.length = 9 + 2 * engines.length) ∧
      ∀ i name, engines[i]? = some name →
        ((header engines).drop (9 + 2 * i)).take 2 = [name ++ " result", name ++ " proof"] ∧
        ∀ record ∈ records,
          ((row record engines.length).drop (9 + 2 * i)).take 2 = voteCells record.votes[i]? := by
  intro rows
  have hwidth : ∀ line ∈ header engines :: rows, line.length = 9 + 2 * engines.length := by
    intro line hline
    rcases List.mem_cons.mp hline with rfl | hline
    · exact length_header engines
    · obtain ⟨record, -, rfl⟩ := List.mem_map.mp hline
      exact length_row record engines.length
  refine ⟨Csv.read_table fun line hline hnil => ?_, hwidth, fun i name hname => ?_⟩
  · have hlength := hwidth line hline
    rw [hnil, List.length_nil] at hlength
    omega
  · obtain ⟨hi, -⟩ := List.getElem?_eq_some_iff.mp hname
    exact ⟨titles_header hname, fun record _ => cells_row record hi⟩

/-- A proof of nothing but separators, and an engine that did not vote. -/
theorem read_text_separators :
    let engines := ["a,b", "c"]
    let record : Record := ⟨default, .proved, false, [⟨"a,b", .proved, some "\"\n,\r\n\""⟩]⟩
    engines[0]? = some "a,b" ∧ record ∈ [record] ∧
      Csv.read (text engines [record]) = some [header engines, row record 2] ∧
      (row record 2).length = 13 ∧
      ((header engines).drop 9).take 2 = ["a,b result", "a,b proof"] ∧
      ((row record 2).drop 9).take 2 = ["Theorem", "\"\n,\r\n\""] := by
  intro engines record
  obtain ⟨hread, hwidth, hcolumns⟩ := read_text engines [record]
  obtain ⟨htitles, hcells⟩ := hcolumns 0 "a,b" rfl
  exact ⟨rfl, List.mem_singleton_self record, hread, hwidth _ (by simp [engines]), htitles,
    hcells record (List.mem_singleton_self record)⟩

end Report

end Syllogistic
