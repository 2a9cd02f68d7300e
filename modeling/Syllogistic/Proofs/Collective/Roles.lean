import Syllogistic.Collective.Operation

/-!
# What each member does in a collective

A collective is one text for all members, with the parts of the root and of the
others in its branches. Here the parts stand by themselves: what a member has to
do that is not the root, what the root does that has what it needs, and what
anyone does whose root is no member.
-/

namespace Syllogistic.Collective.Endpoint

variable {α : Type} [Wire.Codec α] {endpoint : Endpoint} {root : Nat}

theorem checkRoot_of_le (h : endpoint.size ≤ root) :
    endpoint.checkRoot root = throw (.rootOutOfRange endpoint.label root endpoint.size) := by
  rw [checkRoot, if_pos h]

theorem checkRoot_of_lt (h : root < endpoint.size) :
    endpoint.checkRoot root = pure () := by
  rw [checkRoot, if_neg (by omega)]

theorem broadcast_of_ne (hroot : root < endpoint.size)
    (hne : endpoint.index ≠ root) (value : Option α) :
    endpoint.broadcast root value = endpoint.receiveValue root := by
  unfold broadcast
  rw [checkRoot_of_lt hroot, if_pos hne]
  rfl

theorem broadcast_root (endpoint : Endpoint) (hindex : endpoint.index < endpoint.size) (value : α) :
    endpoint.broadcast endpoint.index (some value) = do
      endpoint.sendAll ((endpoint.others endpoint.index).map fun member =>
        (member, Wire.encode value))
      return value := by
  unfold broadcast
  rw [checkRoot_of_lt hindex, if_neg (fun h => h rfl)]
  rfl

theorem scatter_of_ne (hroot : root < endpoint.size)
    (hne : endpoint.index ≠ root) (values : Option (List α)) :
    endpoint.scatter root values = endpoint.receiveValue root := by
  unfold scatter
  rw [checkRoot_of_lt hroot, if_pos hne]
  rfl

theorem scatter_root (endpoint : Endpoint) (hindex : endpoint.index < endpoint.size)
    {values : List α} (hlength : values.length = endpoint.size) {own : α}
    (hown : values[endpoint.index]? = some own) :
    endpoint.scatter endpoint.index (some values) = do
      endpoint.sendAll ((values.zipIdx.filter (·.2 ≠ endpoint.index)).map fun item =>
        (item.2, Wire.encode item.1))
      return own := by
  unfold scatter
  rw [checkRoot_of_lt hindex, if_neg (fun h => h rfl)]
  dsimp only
  rw [if_neg (by omega), hown]
  rfl

theorem gather_of_ne (hroot : root < endpoint.size)
    (hne : endpoint.index ≠ root) (value : α) :
    endpoint.gather root value = do
      endpoint.sendFrame root (Wire.encode value)
      return none := by
  unfold gather
  rw [checkRoot_of_lt hroot, if_pos hne]
  rfl

theorem gather_root (endpoint : Endpoint) (hindex : endpoint.index < endpoint.size) (value : α) :
    endpoint.gather endpoint.index value = do
      return some (← endpoint.receiveAll endpoint.index value (List.range endpoint.size)) := by
  unfold gather
  rw [checkRoot_of_lt hindex, if_neg (fun h => h rfl)]
  rfl
end Syllogistic.Collective.Endpoint
