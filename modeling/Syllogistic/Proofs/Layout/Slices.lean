import Mathlib.Algebra.Order.Floor.Div
import Syllogistic.Proofs.Layout.Partition

/-!
# A chunk is a slice

Where a chunk begins and ends can be said without splitting anything: chunk `i` is what stands
between `i` and `i + 1` times the length of a piece, as far as the list goes. From this alone
follows what the groups of a batch rely on: an item's chunk is found by dividing its place, all
chunks are full up to the last that has an item, and after an empty one there are only empty
ones.

The list of the chunks is sized before the first item is looked at. A number of groups for
which that list has no addresses is therefore refused, however short the batch is.
-/

namespace Syllogistic

variable {α : Type} {items : List α} {chunks : List (List α)} {piece groups : Nat}

/-- What stands between two places, as far as the list goes. -/
def slice (items : List α) (first last : Nat) : List α :=
  items.extract (min items.length first) (min items.length last)

/-- The chunks are the slices between multiples of the length of a piece. -/
structure Sliced (items : List α) (piece groups : Nat) (chunks : List (List α)) : Prop where
  length : chunks.length = groups
  chunk {i : Nat} : i < groups → chunks[i]? = some (slice items (i * piece) ((i + 1) * piece))
  flatten : chunks.flatten = items
  /-- A chunk with anything after it is full. -/
  full {i j : Nat} {chunk later : List α} : i < j → chunks[i]? = some chunk →
    chunks[j]? = some later → later ≠ [] → chunk.length = piece
  /-- After an empty chunk there are only empty ones. -/
  empty {i j : Nat} {later : List α} : i < j → chunks[i]? = some [] → chunks[j]? = some later →
    later = []
  /-- Each item is in the chunk that dividing its place gives. -/
  place {j : Nat} (hj : j < items.length) :
    ∃ chunk, chunks[j / piece]? = some chunk ∧ chunk[j % piece]? = some items[j]

/-! ## Slices -/

theorem slice_eq (items : List α) (first last : Nat) :
    slice items first last = (items.drop first).take (last - first) := by
  rw [slice, List.extract_eq_take_drop]
  rcases Nat.le_total items.length first with h | h
  · rw [Nat.min_eq_left h, List.drop_length, List.drop_of_length_le h, List.take_nil, List.take_nil]
  · rw [Nat.min_eq_right h, List.take_eq_take_iff, List.length_drop]
    omega

theorem length_slice (items : List α) (first last : Nat) :
    (slice items first last).length = min items.length last - min items.length first := by
  rw [slice, List.extract_eq_take_drop, List.length_take, List.length_drop]
  omega

theorem slice_eq_nil {first : Nat} (h : items.length ≤ first) (last : Nat) :
    slice items first last = [] := by
  refine List.eq_nil_of_length_eq_zero ?_
  rw [length_slice]
  omega

theorem getElem?_pieces (piece : Nat) (items : List α) (i : Nat) :
    (pieces piece items)[i]? =
      if i * (piece + 1) < items.length then
        some (slice items (i * (piece + 1)) ((i + 1) * (piece + 1)))
      else none := by
  fun_induction pieces piece items generalizing i with
  | case1 => simp
  | case2 a rest ih =>
      cases i with
      | zero => simp [slice_eq]
      | succ i =>
          have hstart : (i + 1) * (piece + 1) = i * (piece + 1) + piece + 1 := by
            rw [Nat.succ_mul, Nat.add_assoc]
          have hend : (i + 1 + 1) * (piece + 1) = (i + 1) * (piece + 1) + piece + 1 := by
            rw [Nat.succ_mul (i + 1), Nat.add_assoc]
          rw [List.getElem?_cons_succ, ih, List.length_drop, List.length_cons, slice_eq, slice_eq,
            hend, hstart, List.drop_succ_cons, List.drop_drop, Nat.add_comm piece (i * _)]
          refine if_congr (by omega) ?_ rfl
          rw [Nat.add_sub_add_right, Nat.add_sub_add_right]

/-! ## The chunks of a batch -/

theorem pieceLength_eq (count groups : Nat) :
    pieceLength count groups = max 1 (count ⌈/⌉ groups) := by
  rw [pieceLength, Nat.ceilDiv_eq_add_pred_div]

theorem getElem?_partition {i : Nat} (hi : i < groups) :
    (partition items groups)[i]? =
      some (slice items (i * pieceLength items.length groups)
        ((i + 1) * pieceLength items.length groups)) := by
  have hpiece : pieceLength items.length groups - 1 + 1 = pieceLength items.length groups := by
    rw [pieceLength]
    omega
  have hpieces := getElem?_pieces (pieceLength items.length groups - 1) items i
  rw [hpiece] at hpieces
  rw [partition_eq items (Nat.zero_lt_of_lt hi), List.getElem?_append]
  split at hpieces
  · next hstart =>
      obtain ⟨hlt, -⟩ := List.getElem?_eq_some_iff.mp hpieces
      rw [if_pos hlt, hpieces]
  · next hstart =>
      -- The pieces are used up, and what is taken from here on is nothing.
      rw [List.getElem?_eq_none_iff] at hpieces
      rw [if_neg (Nat.not_lt_of_le hpieces), List.getElem?_replicate, if_pos (by omega),
        slice_eq_nil (Nat.le_of_not_lt hstart)]

/-- All that is asked of the chunks follows from where they begin and end. -/
theorem sliced_of_chunk (hpiece : 0 < piece) (hcover : items.length ≤ groups * piece)
    (hlength : chunks.length = groups) (hflatten : chunks.flatten = items)
    (hchunk : ∀ i < groups, chunks[i]? = some (slice items (i * piece) ((i + 1) * piece))) :
    Sliced items piece groups chunks := by
  have hfound : ∀ {i chunk}, chunks[i]? = some chunk →
      i < groups ∧ chunk = slice items (i * piece) ((i + 1) * piece) := by
    intro i chunk h
    obtain ⟨hlt, -⟩ := List.getElem?_eq_some_iff.mp h
    rw [hlength] at hlt
    exact ⟨hlt, Option.some.inj (h.symm.trans (hchunk i hlt))⟩
  -- Between two chunks lies at least one whole piece.
  have hapart : ∀ {i j}, i < j → (i + 1) * piece ≤ j * piece := fun hlt =>
    Nat.mul_le_mul_right piece hlt
  have hnext : ∀ i, (i + 1) * piece = i * piece + piece := fun i => Nat.succ_mul i piece
  refine ⟨hlength, fun hi => hchunk _ hi, hflatten, ?_, ?_, ?_⟩
  · intro i j chunk later hlt hi hj hne
    obtain ⟨-, rfl⟩ := hfound hi
    obtain ⟨-, rfl⟩ := hfound hj
    have hstart : j * piece < items.length :=
      Nat.lt_of_not_le fun h => hne (slice_eq_nil h _)
    have hbefore := hapart hlt
    rw [length_slice, hnext i]
    rw [hnext i] at hbefore
    omega
  · intro i j later hlt hi hj
    obtain ⟨-, hnil⟩ := hfound hi
    obtain ⟨-, rfl⟩ := hfound hj
    have hbefore := hapart hlt
    have hzero := length_slice items (i * piece) ((i + 1) * piece)
    rw [← hnil, List.length_nil] at hzero
    rw [hnext i] at hbefore hzero
    exact slice_eq_nil (by omega) _
  · intro j hj
    have hdiv := Nat.div_add_mod' j piece
    have hmod := Nat.mod_lt j hpiece
    have hgroup : j / piece < groups := by
      rw [Nat.div_lt_iff_lt_mul hpiece]
      exact Nat.lt_of_lt_of_le hj hcover
    refine ⟨_, hchunk _ hgroup, ?_⟩
    rw [slice_eq, hnext, Nat.add_sub_cancel_left, List.getElem?_take_of_lt hmod,
      List.getElem?_drop, hdiv, List.getElem?_eq_getElem hj]

/-- A batch is split into the slices of the smallest length that suffices. The pieces are never
more than there are groups, so that none is cut off; and splitting the batch gives them exactly
where there is room for a list of so many chunks. -/
theorem partition_slices (items : List α) {groups : Nat} (h : 0 < groups) :
    let piece := max 1 (items.length ⌈/⌉ groups)
    Sliced items piece groups (partition items groups) ∧
      (pieces (piece - 1) items).length ≤ groups ∧
      ∀ memory : Memory, memory.Serves [chunksRequest groups] ↔
        split memory items groups = .ok (partition items groups) := by
  intro piece
  have hpiece : pieceLength items.length groups = piece := pieceLength_eq items.length groups
  have hpos : 0 < piece := Nat.le_max_left 1 _
  refine ⟨?_, ?_, fun memory => ?_⟩
  · have hcover := le_mul_pieceLength items.length h
    rw [hpiece, Nat.sub_add_cancel hpos] at hcover
    refine sliced_of_chunk hpos hcover (length_partition items h) (flatten_partition items h) ?_
    intro i hi
    rw [getElem?_partition hi, hpiece]
  · rw [← hpiece]
    exact length_pieces_le (le_mul_pieceLength items.length h)
  · rw [Memory.serves_singleton, split]
    cases memory.reserve (chunksRequest groups) with
    | error fault => exact iff_of_false nofun nofun
    | ok after => exact iff_of_true ⟨after, rfl⟩ rfl

/-- Nine items among four groups leave the last one nothing. -/
theorem partition_slices_nine :
    0 < 4 ∧ split .ample (List.range 9) 4 = .ok [[0, 1, 2], [3, 4, 5], [6, 7, 8], []] ∧
      Sliced (List.range 9) 3 4 [[0, 1, 2], [3, 4, 5], [6, 7, 8], []] := by
  have hchunks : partition (List.range 9) 4 = [[0, 1, 2], [3, 4, 5], [6, 7, 8], []] := by
    decide +kernel
  have hgroups : 0 < 4 := by decide
  obtain ⟨hsliced, -, hsplit⟩ := partition_slices (List.range 9) hgroups
  rw [hchunks] at hsliced hsplit
  have hroom : Memory.ample.Serves [chunksRequest 4] := Memory.serves_ample.mpr (by decide)
  exact ⟨hgroups, (hsplit .ample).mp hroom, hsliced⟩

/-- There are numbers of groups for which no memory holds the chunks. -/
theorem split_unaddressable :
    0 < 18446744073709551615 ∧ ∀ memory : Memory,
      split memory [0] 18446744073709551615 = .error .unaddressable ∧
      ¬∃ chunks, split memory [0] 18446744073709551615 = .ok chunks ∧
        chunks.length = 18446744073709551615 := by
  refine ⟨by decide, fun memory => ?_⟩
  have hmissing : split memory [0] 18446744073709551615 = .error .unaddressable := by
    rw [split, Memory.reserve_unaddressable (by decide)]
  refine ⟨hmissing, fun ⟨chunks, hchunks, _⟩ => ?_⟩
  rw [hmissing] at hchunks
  cases hchunks

end Syllogistic
