import Syllogistic.Memory

/-!
# Splitting a batch

A list is split into as many chunks as there are groups: contiguous pieces of
one length, the smallest that suffices, with what is left in the last piece and
empty chunks after it.
-/

namespace Syllogistic

/-- The length of the pieces of `count` items among `groups`, at least one. -/
def pieceLength (count groups : Nat) : Nat :=
  max 1 ((count + groups - 1) / groups)

/-- The contiguous pieces of a list, `piece + 1` items each but for the last. -/
def pieces {α : Type} (piece : Nat) (items : List α) : List (List α) :=
  match items with
  | [] => []
  | a :: rest => (a :: rest.take piece) :: pieces piece (rest.drop piece)
  termination_by items.length

/-- The chunks of a list for a number of groups. -/
def partition {α : Type} (items : List α) (groups : Nat) : List (List α) :=
  if groups = 0 then []
  else
    let chunks := (pieces (pieceLength items.length groups - 1) items).take groups
    chunks ++ List.replicate (groups - chunks.length) []

/-- What the list of the chunks of so many groups asks for, each of them a list. -/
def chunksRequest (groups : Nat) : MemoryRequest :=
  .items groups 24

/-- The chunks of a list, put into a list that is sized before there are any. -/
def split {α : Type} (memory : Memory) (items : List α) (groups : Nat) :
    Except MemoryFault (List (List α)) :=
  match memory.reserve (chunksRequest groups) with
  | .error fault => .error fault
  | .ok _ => .ok (partition items groups)

theorem flatten_pieces {α : Type} (piece : Nat) (items : List α) :
    (pieces piece items).flatten = items := by
  fun_induction pieces piece items with
  | case1 => rfl
  | case2 a rest ih => simp [ih]

end Syllogistic
