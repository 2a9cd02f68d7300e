import Syllogistic.Engine.Invocation
import Syllogistic.Proofs.Number.Rounding

/-!
# Time limits lose nothing to rounding

A share of three or four fifths is no double, so a limit is scaled by a number a little off,
and rounded twice. Where the base limit is a multiple of five, the exact product is a whole
number, and the least error in the wrong direction would cost a second. It does not: up to
`2 ^ 50` the base limit itself is not rounded, and the product is off by less than half a step
of its grid, on which the whole number lies. Where the base limit is no multiple of five, the
exact product is at least a fifth away from the next whole number, and all errors together are
less than that.

Beyond `2 ^ 50` a limit may be rounded, but a longer base limit never gives a shorter one.
And however long it is, a limit is no limit only if the base limit is none: the deadline is
counted up to the largest number of seconds and never around it, so no engine is killed before
the time that it was told.
-/

namespace Syllogistic

open Number

namespace Engine

/-- The share of the base limit that an engine is promised. -/
def portion : Engine → ℚ
  | mleanCop | tpg => 1
  | mleanTap => 4 / 5
  | leo => 3 / 5

/-- The share in fifths. -/
def fifths : Engine → Nat
  | mleanCop | tpg => 5
  | mleanTap => 4
  | leo => 3

theorem portion_eq (engine : Engine) : engine.portion = (engine.fifths : ℚ) / 5 := by
  cases engine <;> norm_num [portion, fifths]

theorem modifier_rounds (engine : Engine) : Binary64.Rounds engine.portion engine.modifier := by
  have hshare : engine.portion = (engine.share.1 : ℚ) / engine.share.2 := by
    cases engine <;> norm_num [portion, share]
  rw [hshare, modifier]
  cases engine <;> exact Binary64.nearest_rounds (by decide) (by decide)

theorem modifier_value (engine : Engine) :
    engine.modifier.value =
      match engine with
      | mleanCop | tpg => 1
      | mleanTap => 7205759403792794 / 2 ^ 53
      | leo => 5404319552844595 / 2 ^ 53 := by
  have hmodifier : engine.modifier =
      match engine with
      | mleanCop | tpg => ⟨2 ^ 52, -52⟩
      | mleanTap => ⟨7205759403792794, -53⟩
      | leo => ⟨5404319552844595, -53⟩ := by
    cases engine <;> rfl
  rw [hmodifier]
  cases engine <;> norm_num [Binary64.value]

/-- Of the two shares that are rounded, one is too small by a fifth of a unit in the last place
and the other is too large by two. -/
theorem modifier_bounds (engine : Engine) :
    1 / 2 ≤ engine.modifier.value ∧
      (engine.fifths : ℚ) / 5 - 1 / 5 / 2 ^ 53 ≤ engine.modifier.value ∧
      engine.modifier.value ≤ (engine.fifths : ℚ) / 5 + 2 / 5 / 2 ^ 53 := by
  rw [modifier_value]
  cases engine <;> norm_num [fifths]

/-- The base limit times the share, as doubles. -/
def scaled (engine : Engine) (base : Nat) : Binary64 :=
  (Binary64.ofNat base).mul engine.modifier

theorem timeout_eq (engine : Engine) {base : Nat} (h : 0 < base) :
    engine.timeout base = max 1 (min maxSeconds ⌊(engine.scaled base).value⌋₊) := by
  rw [timeout, if_neg h.ne', scaled, Binary64.floor_eq]

theorem scaled_rounds (engine : Engine) {base : Nat} (h : 0 < base) :
    Binary64.Rounds ((Binary64.ofNat base).value * engine.modifier.value) (engine.scaled base) :=
  Binary64.mul_rounds (mul_pos (Binary64.ofNat_rounds h).value_pos engine.modifier_rounds.value_pos)

/-- The product of a base limit and a share, as far as the error of the share goes. -/
theorem product_bounds (engine : Engine) (base : Nat) :
    ((base * engine.fifths / 5 : ℕ) : ℚ) - base / 5 / 2 ^ 53 ≤ base * engine.modifier.value ∧
      base * engine.modifier.value ≤
        ((base * engine.fifths / 5 : ℕ) : ℚ) + 4 / 5 + base * 2 / 5 / 2 ^ 53 := by
  obtain ⟨-, hlow, hhigh⟩ := engine.modifier_bounds
  -- The exact product is a whole number of fifths.
  have hfifths : (base * engine.fifths : ℚ) =
      5 * (base * engine.fifths / 5 : ℕ) + (base * engine.fifths % 5 : ℕ) := by
    exact_mod_cast (Nat.div_add_mod (base * engine.fifths) 5).symm
  have hrest : ((base * engine.fifths % 5 : ℕ) : ℚ) ≤ 4 := by
    exact_mod_cast Nat.lt_succ_iff.mp (Nat.mod_lt _ (by decide))
  have hrest_nonneg : (0 : ℚ) ≤ (base * engine.fifths % 5 : ℕ) := Nat.cast_nonneg _
  have hbase : (0 : ℚ) ≤ base := Nat.cast_nonneg _
  have hproduct_low := mul_le_mul_of_nonneg_left hlow hbase
  have hproduct_high := mul_le_mul_of_nonneg_left hhigh hbase
  constructor <;> linarith

theorem floor_scaled (engine : Engine) {base : Nat} (hpos : 0 < base) (hle : base ≤ 2 ^ 50) :
    ⌊(engine.scaled base).value⌋₊ = base * engine.fifths / 5 := by
  have hrounds := engine.scaled_rounds hpos
  rw [Binary64.value_ofNat hpos (by omega)] at hrounds
  have hstep := Binary64.Rounds.step_pos (engine.scaled base)
  have hbase : (base : ℚ) ≤ 2 ^ 50 := by exact_mod_cast hle
  obtain ⟨hlow, hhigh⟩ := engine.product_bounds base
  obtain ⟨hhalf, -, hshare⟩ := engine.modifier_bounds
  have hnonneg : (0 : ℚ) ≤ base := Nat.cast_nonneg base
  have hproduct_half := mul_le_mul_of_nonneg_left hhalf hnonneg
  have hexponent : (engine.scaled base).exponent ≤ -2 := by
    have hproduct : base * engine.modifier.value < 2 ^ (51 : ℤ) := by
      have hfifths : (engine.fifths : ℚ) ≤ 5 := by cases engine <;> norm_num [fifths]
      have hshare' : engine.modifier.value < 2 := by linarith
      calc base * engine.modifier.value ≤ 2 ^ 50 * engine.modifier.value :=
            mul_le_mul_of_nonneg_right hbase (by linarith)
        _ < 2 ^ 50 * 2 := mul_lt_mul_of_pos_left hshare' (by norm_num)
        _ = 2 ^ (51 : ℤ) := by norm_num
    have := hrounds.exponent_lt hproduct
    omega
  have hquarter : (2 : ℚ) ^ (engine.scaled base).exponent ≤ 1 / 4 := by
    calc (2 : ℚ) ^ (engine.scaled base).exponent ≤ 2 ^ (-2 : ℤ) :=
          zpow_le_zpow_right₀ one_le_two hexponent
      _ = 1 / 4 := by norm_num
  -- What the share is too small by is less than half a step, since the product is in the binade.
  have herror : (base : ℚ) / 5 / 2 ^ 53 < 2 ^ (engine.scaled base).exponent / 2 := by
    have hhigh := hrounds.high
    rw [Binary64.Rounds.binade] at hhigh
    norm_num at hhigh ⊢
    linarith
  exact hrounds.floor_value (by omega) (by linarith) (by linarith)

theorem timeout_of_le (engine : Engine) {base : Nat} (hpos : 0 < base) (hle : base ≤ 2 ^ 50) :
    engine.timeout base = max 1 (base * engine.fifths / 5) := by
  have hfifths : engine.fifths ≤ 5 := by cases engine <;> decide
  have hbound : base * engine.fifths / 5 ≤ base := by
    refine Nat.div_le_of_le_mul ?_
    rw [Nat.mul_comm]
    exact Nat.mul_le_mul_right base hfifths
  have hseconds : base ≤ maxSeconds := le_trans hle (by decide)
  rw [engine.timeout_eq hpos, engine.floor_scaled hpos hle, min_eq_right (by omega)]

theorem timeout_zero (engine : Engine) : engine.timeout 0 = 0 := if_pos rfl

theorem timeout_eq_zero_iff (engine : Engine) {base : Nat} :
    engine.timeout base = 0 ↔ base = 0 := by
  constructor
  · intro h
    by_contra hbase
    rw [engine.timeout_eq (Nat.pos_of_ne_zero hbase)] at h
    omega
  · rintro rfl
    exact engine.timeout_zero

theorem timeout_le_maxSeconds (engine : Engine) (base : Nat) :
    engine.timeout base ≤ maxSeconds := by
  rcases Nat.eq_zero_or_pos base with rfl | hpos
  · rw [timeout_zero]
    exact Nat.zero_le _
  · rw [engine.timeout_eq hpos]
    exact max_le (by decide) (min_le_left _ _)

theorem timeout_monotone (engine : Engine) : Monotone engine.timeout := by
  intro base longer hle
  rcases Nat.eq_zero_or_pos base with rfl | hpos
  · rw [timeout_zero]
    exact Nat.zero_le _
  · have hlonger := lt_of_lt_of_le hpos hle
    have hbase := (Binary64.ofNat_rounds hpos).mono (Binary64.ofNat_rounds hlonger)
      (by exact_mod_cast hle)
    have hscaled := (engine.scaled_rounds hpos).mono (engine.scaled_rounds hlonger)
      (mul_le_mul_of_nonneg_right hbase engine.modifier_rounds.value_pos.le)
    rw [engine.timeout_eq hpos, engine.timeout_eq hlonger]
    exact max_le_max_left 1 (min_le_min_left maxSeconds (Nat.floor_mono hscaled))

theorem deadline_eq_none_iff (engine : Engine) {limit : Nat} :
    engine.deadline limit = none ↔ limit = 0 := by
  rw [deadline]
  split <;> simp [*]

theorem deadline_timeout (engine : Engine) {base seconds : Nat}
    (h : engine.deadline (engine.timeout base) = some seconds) :
    seconds = min maxSeconds (engine.timeout base * engine.patience) ∧
      engine.timeout base ≤ seconds := by
  have hbound := engine.timeout_le_maxSeconds base
  rw [deadline] at h
  split at h
  · cases h
  · cases h
    have hpatience : 1 ≤ engine.patience := by cases engine <;> decide
    exact ⟨rfl, le_min hbound (Nat.le_mul_of_pos_right _ hpatience)⟩

end Engine

namespace Prover

/-- What an engine is told of its time limit: the two that heed one are told it in decimal digits,
and nothing where there is none. -/
def told (engine : Engine) (limit : Nat) : List Argument :=
  match engine with
  | .mleanCop => if limit = 0 then [] else [.text (toString limit)]
  | .leo => if limit = 0 then [] else [.text "-t", .text (toString limit)]
  | .mleanTap | .tpg => []

theorem arguments_eq_told (prover : Prover) (formula : Formula) (limit : Nat) :
    (prover.invocation formula limit).arguments =
      (prover.invocation formula 0).arguments ++ told prover.engine limit := by
  rw [invocation, invocation]
  dsimp only
  rw [List.append_assoc, List.append_cancel_left_eq, arguments, arguments]
  cases prover.engine <;> by_cases h : limit = 0 <;> simp [Prover.limit, told, h]

/-- The limits of a prover's calls with a base limit. -/
structure Limits (prover : Prover) (formula : Formula) (base : Nat) : Prop where
  /-- The limit is computed with two roundings, and the share is rounded too. -/
  rounded : 0 < base → ∃ whole share product : Binary64,
    Binary64.Rounds base whole ∧ Binary64.Rounds prover.engine.portion share ∧
      Binary64.Rounds (whole.value * share.value) product ∧
      prover.engine.timeout base = max 1 (min (2 ^ 64 - 1) ⌊product.value⌋₊)
  /-- Up to a bound it is what it would be without rounding. -/
  scaled : 0 < base → base ≤ 2 ^ 50 →
    prover.engine.timeout base = max 1 ⌊base * prover.engine.portion⌋₊ ∧
      prover.engine.timeout base ≤ base
  unlimited_iff : prover.engine.timeout base = 0 ↔ base = 0
  longer {other : Nat} : base ≤ other → prover.engine.timeout base ≤ prover.engine.timeout other
  arguments : (prover.invocation formula (prover.engine.timeout base)).arguments =
    (prover.invocation formula 0).arguments ++ told prover.engine (prover.engine.timeout base)
  told_iff : prover.engine = .mleanCop ∨ prover.engine = .leo →
    (told prover.engine (prover.engine.timeout base) = [] ↔ base = 0)
  deadline_none_iff :
    (prover.invocation formula (prover.engine.timeout base)).deadline = none ↔ base = 0
  /-- An engine that is told its limit has twice as long, and none has less than its limit. -/
  deadline {seconds : Nat} :
    (prover.invocation formula (prover.engine.timeout base)).deadline = some seconds →
      prover.engine.timeout base ≤ seconds ∧
        seconds =
          match prover.engine with
          | .mleanCop | .leo => min (2 ^ 64 - 1) (2 * prover.engine.timeout base)
          | .mleanTap | .tpg => prover.engine.timeout base

/-- Whatever the base limit, an engine's limit is its share of it, rounded down but never to
nothing; up to `2 ^ 50` seconds the rounding of doubles changes nothing in that. An engine is
called without a limit, and without a deadline, exactly if there is no base limit. -/
theorem limits_kept (prover : Prover) (formula : Formula) (base : Nat) :
    prover.Limits formula base where
  rounded h := ⟨_, _, _, Binary64.ofNat_rounds h, prover.engine.modifier_rounds,
    prover.engine.scaled_rounds h, prover.engine.timeout_eq h⟩
  scaled hpos hle := by
    have hfloor : ⌊(base : ℚ) * prover.engine.portion⌋₊ = base * prover.engine.fifths / 5 := by
      rw [Engine.portion_eq, ← mul_div_assoc]
      exact_mod_cast Nat.floor_div_eq_div (K := ℚ) (base * prover.engine.fifths) 5
    have hlimit := prover.engine.timeout_of_le hpos hle
    refine ⟨by rw [hfloor, hlimit], ?_⟩
    have hfifths : prover.engine.fifths ≤ 5 := by cases prover.engine <;> decide
    have := Nat.mul_le_mul_left base hfifths
    omega
  unlimited_iff := prover.engine.timeout_eq_zero_iff
  longer h := prover.engine.timeout_monotone h
  arguments := prover.arguments_eq_told formula _
  told_iff h := by
    rw [← prover.engine.timeout_eq_zero_iff]
    rcases h with h | h
    · rw [h]
      simp [told]
    · rw [h]
      simp [told]
  deadline_none_iff := by
    rw [← prover.engine.timeout_eq_zero_iff]
    exact prover.engine.deadline_eq_none_iff
  deadline h := by
    obtain ⟨rfl, hle⟩ := prover.engine.deadline_timeout h
    refine ⟨hle, ?_⟩
    have hbound := prover.engine.timeout_le_maxSeconds base
    cases hengine : prover.engine <;> rw [hengine] at hbound
    · exact congrArg (min maxSeconds) (Nat.mul_comm _ 2)
    · rw [Engine.patience, Nat.mul_one, min_eq_right hbound]
    · exact congrArg (min maxSeconds) (Nat.mul_comm _ 2)
    · rw [Engine.patience, Nat.mul_one, min_eq_right hbound]

/-- Three fifths of a million and a half are no less for not being a double. -/
example : Engine.leo.timeout 1500000 = 900000 := by decide

end Prover

end Syllogistic
