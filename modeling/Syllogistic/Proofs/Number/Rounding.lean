import Mathlib.Algebra.Order.Floor.Semifield
import Mathlib.Data.Rat.Floor
import Mathlib.Tactic.FieldSimp
import Mathlib.Tactic.Linarith
import Mathlib.Tactic.Positivity
import Syllogistic.Number.Binary64

/-!
# Rounding to a double

A double that a number is rounded to lies on the grid of the number's own binade: its
significand has 53 bits, it is no further from the number than half a step of that grid, and
half a step away its significand is even. Nothing else about rounding is used. That rounding
keeps the order follows from these facts, with a case for each order of the two binades, and
so does the one thing that makes rounding harmless for whole numbers: where a step is at most
1 every whole number is on the grid, so a number less than half a step below it is not rounded
to anything less.

`nearest` finds the binade with integer logarithms and rounds the fraction it has scaled to it.
-/

namespace Syllogistic.Number

/-! ## Quotients -/

section Quotient

variable {num den : Nat}

theorem roundDiv_cases (num : Nat) (h : 0 < den) :
    (2 * num < 2 * (roundDiv num den * den) + den ∧ 2 * (roundDiv num den * den) < 2 * num + den) ∨
      ((2 * num = 2 * (roundDiv num den * den) + den ∨
        2 * (roundDiv num den * den) = 2 * num + den) ∧ roundDiv num den % 2 = 0) := by
  have hdiv := Nat.div_add_mod' num den
  have hmod := Nat.mod_lt num h
  have hnext : (num / den + 1) * den = num / den * den + den := Nat.succ_mul _ _
  simp only [roundDiv]
  split
  · omega
  · split
    · omega
    · -- A tie: an odd quotient goes up, and an even one stays.
      rcases Nat.mod_two_eq_zero_or_one (num / den) with hq | hq
      · rw [hq, Nat.add_zero]
        omega
      · rw [hq]
        omega

/-- A quotient is rounded by at most a half, and by a half only to an even number. -/
theorem roundDiv_nearest (num : Nat) (h : 0 < den) :
    |(roundDiv num den : ℚ) - num / den| ≤ 1 / 2 ∧
      (|(roundDiv num den : ℚ) - num / den| = 1 / 2 → roundDiv num den % 2 = 0) := by
  have hpos : (0 : ℚ) < den := by exact_mod_cast h
  have hden : (2 * den : ℚ) * (roundDiv num den - num / den) =
      2 * (roundDiv num den * den) - 2 * num := by
    field_simp
  rcases roundDiv_cases num h with ⟨hlow, hhigh⟩ | ⟨htie, heven⟩
  · have hlow' : (2 * num : ℚ) < 2 * (roundDiv num den * den) + den := by exact_mod_cast hlow
    have hhigh' : (2 * (roundDiv num den * den) : ℚ) < 2 * num + den := by exact_mod_cast hhigh
    have hlt : |(roundDiv num den : ℚ) - num / den| < 1 / 2 := by
      rw [abs_lt]
      constructor <;> nlinarith
    exact ⟨hlt.le, fun heq => absurd heq hlt.ne⟩
  · refine ⟨?_, fun _ => heven⟩
    rw [abs_le]
    rcases htie with htie | htie
    · have htie' : (2 * num : ℚ) = 2 * (roundDiv num den * den) + den := by exact_mod_cast htie
      constructor <;> nlinarith
    · have htie' : (2 * (roundDiv num den * den) : ℚ) = 2 * num + den := by exact_mod_cast htie
      constructor <;> nlinarith

theorem binaryExponent_spec (hnum : 0 < num) (hden : 0 < den) :
    (2 : ℚ) ^ binaryExponent num den ≤ (num : ℚ) / den ∧
      (num : ℚ) / den < 2 ^ (binaryExponent num den + 1) := by
  have hpos : (0 : ℚ) < den := by exact_mod_cast hden
  rw [le_div_iff₀ hpos, div_lt_iff₀ hpos, binaryExponent]
  split
  · next hle =>
      have hne : num / den ≠ 0 := (Nat.div_pos hle hden).ne'
      have hlow := Nat.mul_le_of_le_div _ _ _ (Nat.log2_self_le hne)
      have hhigh : num < 2 ^ ((num / den).log2 + 1) * den :=
        (Nat.div_lt_iff_lt_mul hden).mp Nat.lt_log2_self
      constructor
      · exact_mod_cast hlow
      · exact_mod_cast hhigh
  · next hlt =>
      have hle : num ≤ den - 1 := by omega
      have hne : (den - 1) / num ≠ 0 := (Nat.div_pos hle hnum).ne'
      have hlow := Nat.mul_le_of_le_div _ _ _ (Nat.log2_self_le hne)
      have hhigh : den - 1 < 2 ^ (((den - 1) / num).log2 + 1) * num :=
        (Nat.div_lt_iff_lt_mul hnum).mp Nat.lt_log2_self
      generalize ((den - 1) / num).log2 = k at hlow hhigh
      have hlow' : (2 : ℚ) ^ k * num < den := by
        have : 2 ^ k * num < den := by omega
        exact_mod_cast this
      have hhigh' : (den : ℚ) ≤ 2 ^ (k + 1) * num := by
        have : den ≤ 2 ^ (k + 1) * num := by omega
        exact_mod_cast this
      have hzero : (-((k : ℤ) + 1) + 1) = -(k : ℤ) := by ring
      have hcast : -((k : ℤ) + 1) = -((k + 1 : ℕ) : ℤ) := by push_cast; ring
      rw [hzero, hcast, zpow_neg, zpow_neg, zpow_natCast, zpow_natCast,
        inv_mul_le_iff₀ (by positivity), lt_inv_mul_iff₀ (by positivity)]
      exact ⟨hhigh', hlow'⟩

end Quotient

namespace Binary64

/-- The number that a double is. -/
def value (x : Binary64) : ℚ := x.significand * 2 ^ x.exponent

/-- A double is a number rounded to 53 bits: to nearest, a tie to even. -/
structure Rounds (exact : ℚ) (x : Binary64) : Prop where
  /-- The grid is that of the number's binade. -/
  low : 2 ^ (52 + x.exponent) ≤ exact
  high : exact < 2 ^ (53 + x.exponent)
  nearest : |x.value - exact| ≤ 2 ^ x.exponent / 2
  even : |x.value - exact| = 2 ^ x.exponent / 2 → x.significand % 2 = 0

theorem two_zpow_eq (s : ℤ) : (2 : ℚ) ^ s = 2 ^ s.toNat / 2 ^ (-s).toNat := by
  rcases le_total 0 s with h | h
  · obtain ⟨k, rfl⟩ := Int.eq_ofNat_of_zero_le h
    simp
  · obtain ⟨k, hk⟩ := Int.eq_ofNat_of_zero_le (Int.neg_nonneg.mpr h)
    obtain rfl : s = -(k : ℤ) := by omega
    simp

theorem value_eq (x : Binary64) : x.value = (x.num : ℚ) / x.den := by
  rw [value, num, den, two_zpow_eq]
  simp [mul_div_assoc]

theorem floor_eq (x : Binary64) : x.floor = ⌊x.value⌋₊ := by
  rw [value_eq, Nat.floor_div_eq_div, floor]

variable {num den : Nat}

theorem nearest_rounds (hnum : 0 < num) (hden : 0 < den) :
    Rounds ((num : ℚ) / den) (nearest num den) := by
  obtain ⟨hlow, hhigh⟩ := binaryExponent_spec hnum hden
  rw [nearest, if_neg hnum.ne']
  dsimp only [Nat.pow_eq]
  generalize binaryExponent num den = e at hlow hhigh
  have hpow : 0 < den * 2 ^ (-(52 - e)).toNat := by positivity
  have hscaled : ((num * 2 ^ (52 - e).toNat : ℕ) : ℚ) / (den * 2 ^ (-(52 - e)).toNat : ℕ) =
      num / den * 2 ^ (52 - e) := by
    rw [two_zpow_eq]
    push_cast
    rw [mul_div_mul_comm]
  obtain ⟨hnear, heven⟩ := roundDiv_nearest (num * 2 ^ (52 - e).toNat) hpow
  rw [hscaled] at hnear heven
  generalize roundDiv _ _ = significand at hnear heven
  have hstep : (0 : ℚ) < 2 ^ (-(52 - e)) := zpow_pos two_pos _
  have herror : (significand : ℚ) * 2 ^ (-(52 - e)) - num / den =
      (significand - num / den * 2 ^ (52 - e)) * 2 ^ (-(52 - e)) := by
    rw [sub_mul, mul_assoc _ ((2 : ℚ) ^ _), ← zpow_add₀ two_ne_zero, add_neg_cancel, zpow_zero,
      mul_one]
  refine ⟨?_, ?_, ?_, ?_⟩
  · rwa [show 52 + -(52 - e) = e by ring]
  · rwa [show 53 + -(52 - e) = e + 1 by ring]
  · rw [value, herror, abs_mul, abs_of_pos hstep]
    nlinarith
  · rw [value, herror, abs_mul, abs_of_pos hstep]
    intro htie
    have hhalf : (2 : ℚ) ^ (-(52 - e)) / 2 = 1 / 2 * 2 ^ (-(52 - e)) := by ring
    exact heven (mul_right_cancel₀ hstep.ne' (htie.trans hhalf))

theorem ofNat_rounds {n : Nat} (h : 0 < n) : Rounds n (ofNat n) := by
  have hrounds := nearest_rounds h Nat.one_pos
  rwa [Nat.cast_one, div_one] at hrounds

theorem mul_rounds {x y : Binary64} (h : 0 < x.value * y.value) :
    Rounds (x.value * y.value) (x.mul y) := by
  have hvalue : x.value * y.value = ((x.num * y.num : ℕ) : ℚ) / (x.den * y.den : ℕ) := by
    rw [value_eq, value_eq, div_mul_div_comm, Nat.cast_mul, Nat.cast_mul]
  have hden : 0 < x.den * y.den := Nat.mul_pos (Nat.two_pow_pos _) (Nat.two_pow_pos _)
  have hnum : 0 < x.num * y.num := by
    rw [hvalue] at h
    refine Nat.pos_of_ne_zero fun hzero => ?_
    rw [hzero, Nat.cast_zero, zero_div] at h
    exact lt_irrefl _ h
  rw [hvalue]
  exact nearest_rounds hnum hden

/-! ## What rounding keeps -/

namespace Rounds

variable {exact other : ℚ} {x y : Binary64} {n : Nat}

theorem step_pos (x : Binary64) : (0 : ℚ) < 2 ^ x.exponent := zpow_pos two_pos _

theorem binade (x : Binary64) (k : ℤ) : (2 : ℚ) ^ (k + x.exponent) = 2 ^ k * 2 ^ x.exponent :=
  zpow_add₀ two_ne_zero _ _

/-- A significand has 53 bits, or is the next power of two after a carry. -/
theorem significand_bounds (h : Rounds exact x) :
    2 ^ 52 ≤ x.significand ∧ x.significand ≤ 2 ^ 53 := by
  have hstep := step_pos x
  have hlow := h.low
  have hhigh := h.high
  obtain ⟨hbelow, habove⟩ := abs_le.mp h.nearest
  rw [binade] at hlow hhigh
  rw [value] at hbelow habove
  constructor
  · have hlt : (2 : ℚ) ^ 52 < x.significand + 1 := by
      refine lt_of_mul_lt_mul_right ?_ hstep.le
      norm_num at hlow ⊢
      linarith
    exact Nat.lt_succ_iff.mp (by exact_mod_cast hlt)
  · have hlt : (x.significand : ℚ) < 2 ^ 53 + 1 := by
      refine lt_of_mul_lt_mul_right ?_ hstep.le
      norm_num at hhigh ⊢
      linarith
    exact Nat.lt_succ_iff.mp (by exact_mod_cast hlt)

theorem value_pos (h : Rounds exact x) : 0 < x.value := by
  have hpos : 0 < x.significand := lt_of_lt_of_le (by norm_num) h.significand_bounds.1
  have hcast : (0 : ℚ) < x.significand := by exact_mod_cast hpos
  exact mul_pos hcast (step_pos x)

/-- A smaller number is not rounded to a larger one. -/
theorem mono (h : Rounds exact x) (h' : Rounds other y) (hle : exact ≤ other) :
    x.value ≤ y.value := by
  rcases lt_trichotomy x.exponent y.exponent with hlt | heq | hgt
  · -- The larger number is in a later binade, which starts where this one ends.
    have hx : (x.significand : ℚ) ≤ 2 ^ 53 := by exact_mod_cast h.significand_bounds.2
    have hy : (2 : ℚ) ^ 52 ≤ y.significand := by exact_mod_cast h'.significand_bounds.1
    calc x.value ≤ 2 ^ 53 * 2 ^ x.exponent := mul_le_mul_of_nonneg_right hx (step_pos x).le
      _ = 2 ^ (53 + x.exponent) := (binade x 53).symm
      _ ≤ 2 ^ (52 + y.exponent) := zpow_le_zpow_right₀ one_le_two (by omega)
      _ = 2 ^ 52 * 2 ^ y.exponent := binade y 52
      _ ≤ y.value := mul_le_mul_of_nonneg_right hy (step_pos y).le
  · by_contra hvalue
    have hstep := step_pos x
    obtain ⟨-, habove⟩ := abs_le.mp h.nearest
    obtain ⟨hbelow, -⟩ := abs_le.mp h'.nearest
    have hxeven := h.even
    have hyeven := h'.even
    rw [value] at hvalue habove hxeven
    rw [value, ← heq] at hvalue hbelow hyeven
    have hsignificand : y.significand + 1 ≤ x.significand := by
      have := lt_of_mul_lt_mul_right (not_le.mp hvalue) hstep.le
      exact_mod_cast this
    have hcast : (y.significand : ℚ) + 1 ≤ x.significand := by exact_mod_cast hsignificand
    -- The two significands are a whole step apart, so each number is half a step away.
    have hapart := mul_le_mul_of_nonneg_right hcast hstep.le
    have hxtie : |(x.significand : ℚ) * 2 ^ x.exponent - exact| = 2 ^ x.exponent / 2 := by
      rw [abs_of_nonneg] <;> linarith
    have hytie : |(y.significand : ℚ) * 2 ^ x.exponent - other| = 2 ^ x.exponent / 2 := by
      rw [abs_of_nonpos] <;> linarith
    have hnext : (x.significand : ℚ) * 2 ^ x.exponent = (y.significand + 1) * 2 ^ x.exponent := by
      linarith
    have hsucc : x.significand = y.significand + 1 := by
      exact_mod_cast mul_right_cancel₀ hstep.ne' hnext
    have := hxeven hxtie
    have := hyeven hytie
    omega
  · exfalso
    have hbinades : (2 : ℚ) ^ (53 + y.exponent) ≤ 2 ^ (52 + x.exponent) :=
      zpow_le_zpow_right₀ one_le_two (by omega)
    linarith [h.low, h'.high]

theorem exponent_lt (h : Rounds exact x) {k : ℤ} (hlt : exact < 2 ^ k) : 52 + x.exponent < k :=
  (zpow_lt_zpow_iff_right₀ one_lt_two).mp (lt_of_le_of_lt h.low hlt)

/-! ### Whole numbers

Where a step is at most 1, a whole number is a number of steps. -/

theorem exists_steps (x : Binary64) (h : x.exponent ≤ 0) (n : Nat) :
    ∃ k : ℕ, (n : ℚ) = k * 2 ^ x.exponent := by
  obtain ⟨d, hd⟩ := Int.eq_ofNat_of_zero_le (Int.neg_nonneg.mpr h)
  refine ⟨n * 2 ^ d, ?_⟩
  rw [show x.exponent = -(d : ℤ) by omega]
  simp

/-- A number less than half a step below a whole number is rounded to no less than that. -/
theorem natCast_le_value (h : Rounds exact x) (hexponent : x.exponent ≤ 0)
    (hn : n - 2 ^ x.exponent / 2 < exact) : n ≤ x.value := by
  have hstep := step_pos x
  obtain ⟨k, hk⟩ := exists_steps x hexponent n
  obtain ⟨hbelow, -⟩ := abs_le.mp h.nearest
  rw [value] at hbelow ⊢
  rw [hk] at hn ⊢
  have hlt : (k : ℚ) < x.significand + 1 := by
    refine lt_of_mul_lt_mul_right ?_ hstep.le
    linarith
  have hle : k ≤ x.significand := Nat.lt_succ_iff.mp (by exact_mod_cast hlt)
  exact mul_le_mul_of_nonneg_right (by exact_mod_cast hle) hstep.le

theorem value_natCast (h : Rounds n x) (hexponent : x.exponent ≤ 0) : x.value = n := by
  have hstep := step_pos x
  refine le_antisymm ?_ (h.natCast_le_value hexponent (by linarith))
  obtain ⟨k, hk⟩ := exists_steps x hexponent n
  obtain ⟨-, habove⟩ := abs_le.mp h.nearest
  rw [value] at habove ⊢
  rw [hk] at habove ⊢
  have hlt : (x.significand : ℚ) < k + 1 := by
    refine lt_of_mul_lt_mul_right ?_ hstep.le
    linarith
  have hle : x.significand ≤ k := Nat.lt_succ_iff.mp (by exact_mod_cast hlt)
  exact mul_le_mul_of_nonneg_right (by exact_mod_cast hle) hstep.le

/-- A number between half a step below a whole number and half a step below the next one is
rounded to something between the two. -/
theorem floor_value (h : Rounds exact x) (hexponent : x.exponent ≤ 0)
    (hlow : n - 2 ^ x.exponent / 2 < exact) (hhigh : exact + 2 ^ x.exponent / 2 < n + 1) :
    ⌊x.value⌋₊ = n := by
  obtain ⟨-, habove⟩ := abs_le.mp h.nearest
  rw [Nat.floor_eq_iff h.value_pos.le]
  exact ⟨h.natCast_le_value hexponent hlow, by linarith⟩

end Rounds

theorem value_ofNat {n : Nat} (hpos : 0 < n) (hlt : n < 2 ^ 53) : (ofNat n).value = n := by
  have hrounds := ofNat_rounds hpos
  have hexact : (n : ℚ) < 2 ^ (53 : ℤ) := by exact_mod_cast hlt
  exact hrounds.value_natCast (by have := hrounds.exponent_lt hexact; omega)

end Binary64

end Syllogistic.Number
