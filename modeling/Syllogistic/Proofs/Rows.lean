import Mathlib.Data.List.Basic
import Mathlib.Tactic.Ring

/-!
# Counting in rows

The numbers below a product are rows of one length, put one after the other. So a
list that goes through the digits of a place, and for each of them through all that
can follow, is numbered from its beginning to its end if what follows a digit is.
-/

namespace Syllogistic

theorem range_mul (rows width : Nat) :
    List.range (rows * width) =
      (List.range rows).flatMap fun row => (List.range width).map (row * width + ·) := by
  induction rows with
  | zero => rw [Nat.zero_mul]; rfl
  | succ rows ih =>
      rw [Nat.succ_mul, List.range_add, ih, List.range_succ, List.flatMap_append,
        List.flatMap_singleton]

/-- Digits of one place, each with the numbers that begin with it. -/
theorem map_number_flatMap {α β : Type} (base : Nat) {digits : List α} {digit : α → Nat}
    {inner : α → List β} {number : β → Nat} {radix width : Nat}
    (hdigits : digits.map digit = List.range radix)
    (hinner : ∀ a, (inner a).map number =
      (List.range width).map ((base * radix + digit a) * width + ·)) :
    (digits.flatMap inner).map number =
      (List.range (radix * width)).map (base * (radix * width) + ·) := by
  rw [List.map_flatMap, range_mul, ← hdigits, List.flatMap_map, List.map_flatMap]
  refine List.flatMap_congr fun a _ => ?_
  rw [hinner, List.map_map]
  refine List.map_congr_left fun k _ => ?_
  show (base * radix + digit a) * width + k = base * (radix * width) + (digit a * width + k)
  ring

end Syllogistic
