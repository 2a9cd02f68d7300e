import Syllogistic.Layout.Partition

/-!
# The chunks of a batch are the batch

Splitting a list gives one chunk for each group, and the chunks joined are the
list. Cutting the list off after so many chunks, which the definition does for
safety, never cuts anything off: the pieces are long enough for as many of them
as there are groups to hold all items.
-/

namespace Syllogistic

variable {α : Type}

theorem length_pieces_le {piece count : Nat} {items : List α}
    (h : items.length ≤ count * (piece + 1)) : (pieces piece items).length ≤ count := by
  fun_induction pieces piece items generalizing count with
  | case1 => exact Nat.zero_le count
  | case2 a rest ih =>
      rw [List.length_cons] at h ⊢
      cases count with
      | zero => omega
      | succ count =>
          refine Nat.succ_le_succ (ih ?_)
          rw [List.length_drop]
          rw [Nat.succ_mul] at h
          omega

/-- So many pieces hold so many items. -/
theorem le_mul_pieceLength (count : Nat) {groups : Nat} (h : 0 < groups) :
    count ≤ groups * (pieceLength count groups - 1 + 1) := by
  have hdiv := Nat.div_add_mod (count + groups - 1) groups
  have hmod := Nat.mod_lt (count + groups - 1) h
  have hround : count ≤ groups * ((count + groups - 1) / groups) := by omega
  refine Nat.le_trans hround (Nat.mul_le_mul_left groups ?_)
  rw [pieceLength]
  omega

theorem partition_eq (items : List α) {groups : Nat} (h : 0 < groups) :
    partition items groups =
      pieces (pieceLength items.length groups - 1) items ++
        List.replicate
          (groups - (pieces (pieceLength items.length groups - 1) items).length) [] := by
  have hlength := length_pieces_le (le_mul_pieceLength items.length h)
  rw [partition, if_neg (Nat.ne_of_gt h), List.take_of_length_le hlength]

theorem length_partition (items : List α) {groups : Nat} (h : 0 < groups) :
    (partition items groups).length = groups := by
  have hlength := length_pieces_le (le_mul_pieceLength items.length h)
  rw [partition_eq items h, List.length_append, List.length_replicate]
  omega

theorem flatten_partition (items : List α) {groups : Nat} (h : 0 < groups) :
    (partition items groups).flatten = items := by
  rw [partition_eq items h, List.flatten_append, flatten_pieces, List.flatten_replicate_nil,
    List.append_nil]

end Syllogistic
