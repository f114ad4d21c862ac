/-
Module: WebHost.Proofs.Number.Rounding
Purpose: The exact values of binary numbers, and how a ratio is rounded to one.
Main exports:
  Binary.magnitude, Binary.value, IsNearest, Binary.isNearest_roundEven, Binary.Rounding,
  Binary.RoundsTo, Binary.roundRatio_roundsTo, Binary.divide_roundsTo,
  Binary.Rounding.magnitude_le, Binary.Rounding.two_zpow_le_iff
-/
import Mathlib.Algebra.Order.Field.Power
import Mathlib.Data.Rat.Defs
import Mathlib.Tactic.FieldSimp
import Mathlib.Tactic.Linarith
import Mathlib.Tactic.NormNum
import Mathlib.Tactic.Positivity
import Mathlib.Tactic.Ring
import WebHost.Number.Binary

namespace WebHost.Number

/-!
A positive ratio lies below some power of two, and is counted in units of the
last bit that a significand has there.  The number of units is the nearest
natural, the even one of two, so no representable number is ever passed over.
-/

/-! ### The nearest natural -/

/-- A natural that no other one is nearer to the number than, and which is even
if another one is as near. -/
structure IsNearest (number : ℚ) (nearest : Nat) : Prop where
  near : |(nearest : ℚ) - number| ≤ 1 / 2
  even : |(nearest : ℚ) - number| = 1 / 2 → nearest % 2 = 0

namespace IsNearest

variable {number : ℚ} {nearest : Nat}

theorem of_lt (near : |(nearest : ℚ) - number| < 1 / 2) : IsNearest number nearest :=
  ⟨near.le, fun tie => absurd tie near.ne⟩

/-- A natural bound from below holds of the nearest natural. -/
theorem le_of_le (rounded : IsNearest number nearest) {bound : Nat} (le : (bound : ℚ) ≤ number) :
    bound ≤ nearest := by
  by_contra less
  have step : ((nearest + 1 : Nat) : ℚ) ≤ bound := Nat.cast_le.2 (Nat.lt_of_not_le less)
  push_cast at step
  have near := (abs_le.1 rounded.near).1
  linarith

/-- A natural bound from above holds of the nearest natural. -/
theorem le_of_ge (rounded : IsNearest number nearest) {bound : Nat} (ge : number ≤ bound) :
    nearest ≤ bound := by
  by_contra greater
  have step : ((bound + 1 : Nat) : ℚ) ≤ nearest := Nat.cast_le.2 (Nat.lt_of_not_le greater)
  push_cast at step
  have near := (abs_le.1 rounded.near).2
  linarith

/-- An even natural is reached from half a unit below it on. -/
theorem le_iff_of_even (rounded : IsNearest number nearest) {bound : Nat}
    (even : bound % 2 = 0) : bound ≤ nearest ↔ (bound : ℚ) - 1 / 2 ≤ number := by
  constructor
  · intro le
    have cast : (bound : ℚ) ≤ nearest := Nat.cast_le.2 le
    have near := (abs_le.1 rounded.near).2
    linarith
  · intro half
    by_contra less
    have step : ((nearest + 1 : Nat) : ℚ) ≤ bound := Nat.cast_le.2 (Nat.lt_of_not_le less)
    push_cast at step
    have near := (abs_le.1 rounded.near).1
    -- Both bounds are met, so this is a tie between neighbours.
    have tie : (nearest : ℚ) - number = -(1 / 2) := by linarith
    have next : (bound : ℚ) = ((nearest + 1 : Nat) : ℚ) := by
      push_cast
      linarith
    have odd := rounded.even (by rw [tie, abs_neg, abs_of_pos (by norm_num)])
    have same : bound = nearest + 1 := Nat.cast_injective next
    omega

end IsNearest

namespace Binary

/-! ### Exact values -/

/-- The value of a significand with an exponent. -/
def magnitude (significand : Nat) (exponent : Int) : ℚ :=
  significand * (2 : ℚ) ^ exponent

/-- The value of a finite number. -/
def value : Binary → ℚ
  | .finite false significand exponent => magnitude significand exponent
  | .finite true significand exponent => -magnitude significand exponent
  | _ => 0

theorem two_zpow_pos (exponent : Int) : (0 : ℚ) < (2 : ℚ) ^ exponent :=
  zpow_pos (by norm_num) exponent

theorem magnitude_pos {significand : Nat} (exponent : Int) (nonzero : significand ≠ 0) :
    0 < magnitude significand exponent :=
  mul_pos (Nat.cast_pos.2 (Nat.pos_of_ne_zero nonzero)) (two_zpow_pos exponent)

/-- Bits at the end of a significand can be moved into the exponent. -/
theorem magnitude_mul_pow (significand places : Nat) (exponent : Int) :
    magnitude (significand * 2 ^ places) exponent = magnitude significand (exponent + places) := by
  unfold magnitude
  rw [zpow_add₀ (by norm_num), zpow_natCast]
  push_cast
  ring

theorem pow_natAbs_of_nonneg {exponent : Int} (nonneg : 0 ≤ exponent) :
    ((Nat.pow 2 exponent.natAbs : Nat) : ℚ) = (2 : ℚ) ^ exponent := by
  obtain ⟨places, rfl⟩ := Int.eq_ofNat_of_zero_le nonneg
  simp

theorem pow_natAbs_of_neg {exponent : Int} (negative : exponent < 0) :
    ((Nat.pow 2 exponent.natAbs : Nat) : ℚ) = ((2 : ℚ) ^ exponent)⁻¹ := by
  have turned : ((Nat.pow 2 (-exponent).natAbs : Nat) : ℚ) = (2 : ℚ) ^ (-exponent) :=
    pow_natAbs_of_nonneg (by omega)
  rw [Int.natAbs_neg] at turned
  rw [turned, zpow_neg]

theorem ratio_snd_pos (significand : Nat) (exponent : Int) :
    0 < (ratio significand exponent).2 := by
  unfold ratio
  split
  · exact Nat.pow_pos (by decide)
  · exact Nat.one_pos

/-- The ratio of a number is its value. -/
theorem ratio_eq (significand : Nat) (exponent : Int) :
    ((ratio significand exponent).1 : ℚ) / (ratio significand exponent).2 =
      magnitude significand exponent := by
  unfold ratio magnitude
  split
  · rename_i negative
    rw [pow_natAbs_of_neg negative, div_inv_eq_mul]
  · rename_i nonneg
    rw [Nat.cast_mul, pow_natAbs_of_nonneg (Int.not_lt.1 nonneg), Nat.cast_one, div_one]

theorem magnitudeLessEqual_iff (left right : Nat × Int) :
    magnitudeLessEqual left right = true ↔
      magnitude left.1 left.2 ≤ magnitude right.1 right.2 := by
  have scale : ∀ number : Nat × Int, min left.2 right.2 ≤ number.2 →
      magnitude number.1 number.2 =
        ((number.1 * Nat.pow 2 (number.2 - min left.2 right.2).natAbs : Nat) : ℚ) *
          (2 : ℚ) ^ min left.2 right.2 := by
    intro number above
    rw [Nat.cast_mul, pow_natAbs_of_nonneg (by omega), mul_assoc,
      ← zpow_add₀ (by norm_num), sub_add_cancel, magnitude]
  rw [scale left (min_le_left _ _), scale right (min_le_right _ _),
    mul_le_mul_iff_left₀ (two_zpow_pos _), Nat.cast_le]
  simp [magnitudeLessEqual]

/-- Positive numbers are ordered by their values. -/
theorem lessEqual_iff (leftSignificand rightSignificand : Nat) (leftExponent rightExponent : Int) :
    lessEqual (.finite false leftSignificand leftExponent)
        (.finite false rightSignificand rightExponent) = true ↔
      magnitude leftSignificand leftExponent ≤ magnitude rightSignificand rightExponent :=
  magnitudeLessEqual_iff _ _

/-! ### Rounding to a natural -/

/-- A ratio is its whole part and a fraction, which is compared with a half as the
remainder is with half the denominator. -/
theorem exists_fraction (numerator : Nat) {denominator : Nat} (positive : 0 < denominator) :
    ∃ fraction : ℚ, (numerator : ℚ) / denominator = (numerator / denominator : Nat) + fraction ∧
      0 ≤ fraction ∧ fraction < 1 ∧
      (2 * fraction < 1 ↔ 2 * (numerator % denominator) < denominator) ∧
      (1 < 2 * fraction ↔ denominator < 2 * (numerator % denominator)) := by
  have cast : (0 : ℚ) < denominator := Nat.cast_pos.2 positive
  have parts : (denominator : ℚ) * (numerator / denominator : Nat) +
      (numerator % denominator : Nat) = numerator := by
    exact_mod_cast Nat.div_add_mod numerator denominator
  refine ⟨(numerator % denominator : Nat) / denominator, ?_, by positivity, ?_, ?_, ?_⟩
  · rw [← parts]
    field_simp
  · rw [div_lt_one cast]
    exact_mod_cast Nat.mod_lt numerator positive
  · rw [← mul_div_assoc, div_lt_one cast]
    exact_mod_cast Iff.rfl
  · rw [← mul_div_assoc, one_lt_div cast]
    exact_mod_cast Iff.rfl

theorem isNearest_roundEven (numerator : Nat) {denominator : Nat} (positive : 0 < denominator) :
    IsNearest ((numerator : ℚ) / denominator) (roundEven numerator denominator) := by
  obtain ⟨fraction, whole, nonneg, less, below_iff, above_iff⟩ :=
    exists_fraction numerator positive
  unfold roundEven
  rw [whole]
  generalize numerator / denominator = quotient
  rcases Nat.lt_trichotomy (2 * (numerator % denominator)) denominator with below | tie | above
  · have down := below_iff.2 below
    rw [if_neg (by omega), if_neg (by omega)]
    apply IsNearest.of_lt
    rw [abs_lt]
    constructor <;> linarith
  · -- The remainder is exactly half the denominator.
    have half : fraction = 1 / 2 := by
      have low : ¬ 2 * fraction < 1 := fun low => absurd (below_iff.1 low) (by omega)
      have high : ¬ 1 < 2 * fraction := fun high => absurd (above_iff.1 high) (by omega)
      linarith
    rw [if_neg (by omega), if_pos tie, half]
    refine ⟨?_, fun _ => by omega⟩
    rcases Nat.mod_two_eq_zero_or_one quotient with even | odd
    · rw [even]
      norm_num
    · rw [odd]
      push_cast
      norm_num
  · have up := above_iff.2 above
    rw [if_pos above]
    apply IsNearest.of_lt
    rw [abs_lt]
    push_cast
    constructor <;> linarith

/-! ### Rounding to a format -/

/-- The exponent of the last bit of the significand that a ratio is rounded to. -/
def lastBit (format : Format) (numerator denominator : Nat) : Int :=
  let guess := max format.lowest
    ((Nat.log2 numerator : Int) - (Nat.log2 denominator : Int) - (format.precision : Int))
  let inUnits := scaled numerator denominator guess
  if inUnits.1 / inUnits.2 < Nat.pow 2 format.precision then guess else guess + 1

/-- The units of the last bit in a ratio, rounded. -/
def unitCount (format : Format) (numerator denominator : Nat) : Nat :=
  let units := scaled numerator denominator (lastBit format numerator denominator)
  roundEven units.1 units.2

/-- A count of units that is one too long for a significand takes one bit more. -/
def carried (format : Format) (units : Nat) (exponent : Int) : Nat × Int :=
  if units = Nat.pow 2 format.precision then (Nat.pow 2 (format.precision - 1), exponent + 1)
  else (units, exponent)

/-- How a positive number is rounded to a format: the exponent of the last bit,
and the number of units of that bit. -/
structure Rounding (format : Format) (number : ℚ) (exponent : Int) (units : Nat) : Prop where
  lowest : format.lowest ≤ exponent
  below : number < (2 : ℚ) ^ (exponent + format.precision)
  normal : exponent = format.lowest ∨ (2 : ℚ) ^ (exponent + format.precision - 1) ≤ number
  nearest : IsNearest (number / (2 : ℚ) ^ exponent) units

theorem scaled_spec (numerator : Nat) {denominator : Nat} (positive : 0 < denominator)
    (exponent : Int) :
    0 < (scaled numerator denominator exponent).2 ∧
      ((scaled numerator denominator exponent).1 : ℚ) /
          (scaled numerator denominator exponent).2 =
        numerator / denominator / (2 : ℚ) ^ exponent := by
  unfold scaled
  split
  · rename_i negative
    refine ⟨positive, ?_⟩
    rw [Nat.cast_mul, pow_natAbs_of_neg negative]
    ring
  · rename_i nonneg
    refine ⟨Nat.mul_pos positive (Nat.pow_pos (by decide)), ?_⟩
    rw [Nat.cast_mul, pow_natAbs_of_nonneg (Int.not_lt.1 nonneg), div_mul_eq_div_div]

/-- A ratio lies between two powers of two that the lengths of its parts tell. -/
theorem log2_ratio_bounds {numerator denominator : Nat} (nonzero : numerator ≠ 0)
    (positive : 0 < denominator) :
    (2 : ℚ) ^ ((numerator.log2 : Int) - denominator.log2 - 1) < (numerator : ℚ) / denominator ∧
      (numerator : ℚ) / denominator <
        (2 : ℚ) ^ ((numerator.log2 : Int) - denominator.log2 + 1) := by
  have cast : (0 : ℚ) < denominator := Nat.cast_pos.2 positive
  have low : (2 : ℚ) ^ (numerator.log2 : Int) ≤ numerator := by
    exact_mod_cast Nat.log2_self_le nonzero
  have high : (numerator : ℚ) < (2 : ℚ) ^ ((numerator.log2 : Int) + 1) := by
    exact_mod_cast Nat.lt_log2_self
  have lowBelow : (2 : ℚ) ^ (denominator.log2 : Int) ≤ denominator := by
    exact_mod_cast Nat.log2_self_le positive.ne'
  have highBelow : (denominator : ℚ) < (2 : ℚ) ^ ((denominator.log2 : Int) + 1) := by
    exact_mod_cast Nat.lt_log2_self
  constructor
  · rw [lt_div_iff₀ cast]
    calc (2 : ℚ) ^ ((numerator.log2 : Int) - denominator.log2 - 1) * denominator
        < (2 : ℚ) ^ ((numerator.log2 : Int) - denominator.log2 - 1) *
            (2 : ℚ) ^ ((denominator.log2 : Int) + 1) :=
          mul_lt_mul_of_pos_left highBelow (two_zpow_pos _)
      _ = (2 : ℚ) ^ (numerator.log2 : Int) := by
          rw [← zpow_add₀ (by norm_num)]
          congr 1
          omega
      _ ≤ numerator := low
  · rw [div_lt_iff₀ cast]
    calc (numerator : ℚ) < (2 : ℚ) ^ ((numerator.log2 : Int) + 1) := high
      _ = (2 : ℚ) ^ ((numerator.log2 : Int) - denominator.log2 + 1) *
            (2 : ℚ) ^ (denominator.log2 : Int) := by
          rw [← zpow_add₀ (by norm_num)]
          congr 1
          omega
      _ ≤ _ := mul_le_mul_of_nonneg_left lowBelow (two_zpow_pos _).le

/-- The whole units of a ratio fill a significand when the ratio does. -/
theorem units_lt_iff (numerator : Nat) {denominator : Nat} (positive : 0 < denominator)
    (exponent : Int) (precision : Nat) :
    (scaled numerator denominator exponent).1 / (scaled numerator denominator exponent).2 <
        Nat.pow 2 precision ↔
      (numerator : ℚ) / denominator < (2 : ℚ) ^ (exponent + precision) := by
  obtain ⟨scaledPositive, value⟩ := scaled_spec numerator positive exponent
  have cast : (0 : ℚ) < (scaled numerator denominator exponent).2 := Nat.cast_pos.2 scaledPositive
  rw [Nat.div_lt_iff_lt_mul scaledPositive, ← Nat.cast_lt (α := ℚ), Nat.cast_mul,
    ← div_lt_iff₀ cast, value, div_lt_iff₀ (two_zpow_pos exponent), add_comm exponent,
    zpow_add₀ (by norm_num), zpow_natCast, Nat.pow_eq, Nat.cast_pow, Nat.cast_ofNat]

theorem rounding_lastBit (format : Format) {numerator denominator : Nat}
    (nonzero : numerator ≠ 0) (positive : 0 < denominator) :
    Rounding format ((numerator : ℚ) / denominator) (lastBit format numerator denominator)
      (unitCount format numerator denominator) := by
  obtain ⟨low, high⟩ := log2_ratio_bounds nonzero positive
  have fits := fun exponent => units_lt_iff numerator positive exponent format.precision
  have nearest : IsNearest
      ((numerator : ℚ) / denominator / (2 : ℚ) ^ lastBit format numerator denominator)
      (unitCount format numerator denominator) := by
    obtain ⟨scaledPositive, value⟩ :=
      scaled_spec numerator positive (lastBit format numerator denominator)
    rw [← value]
    exact isNearest_roundEven _ scaledPositive
  generalize unitCount format numerator denominator = units at nearest ⊢
  revert nearest
  unfold lastBit
  simp only [fits]
  generalize guessed : max format.lowest
    ((numerator.log2 : Int) - denominator.log2 - format.precision) = guess
  split
  · rename_i below
    intro nearest
    refine ⟨by omega, below, ?_, nearest⟩
    by_cases bottom : guess = format.lowest
    · exact .inl bottom
    · have lengths : guess + format.precision - 1 =
          (numerator.log2 : Int) - denominator.log2 - 1 := by omega
      rw [lengths]
      exact .inr low.le
  · rename_i above
    intro nearest
    refine ⟨by omega, ?_, .inr ?_, nearest⟩
    · exact lt_of_lt_of_le high (zpow_le_zpow_right₀ (by norm_num) (by omega))
    · rw [show guess + 1 + (format.precision : Int) - 1 = guess + format.precision by ring]
      exact not_lt.1 above

/-- A carry does not change the value. -/
theorem magnitude_carried (format : Format) (precise : 0 < format.precision) (units : Nat)
    (exponent : Int) :
    magnitude (carried format units exponent).1 (carried format units exponent).2 =
      magnitude units exponent := by
  unfold carried
  split
  · rename_i full
    have longer : Nat.pow 2 format.precision = Nat.pow 2 (format.precision - 1) * 2 ^ 1 := by
      rw [Nat.pow_eq, Nat.pow_eq, ← Nat.pow_add, Nat.sub_add_cancel precise]
    rw [full, longer, magnitude_mul_pow]
    rfl
  · rfl

theorem carried_snd_le (format : Format) (units : Nat) (exponent : Int) :
    (carried format units exponent).2 ≤ exponent + 1 := by
  unfold carried
  split
  · exact Int.le_refl _
  · exact Int.le_add_one (Int.le_refl _)

theorem roundRatio_eq (format : Format) (negative : Bool) {numerator : Nat} (denominator : Nat)
    (nonzero : numerator ≠ 0) :
    roundRatio format negative numerator denominator =
      let result := carried format (unitCount format numerator denominator)
        (lastBit format numerator denominator)
      if format.highest < result.2 then .infinite negative
      else .finite negative result.1 result.2 := by
  unfold roundRatio
  rw [if_neg nonzero]
  rfl

/-- What comes of rounding a positive number: a number with the value of the
units, or an infinity if their last bit is at the top of the format or above. -/
inductive RoundsTo (format : Format) (negative : Bool) (number : ℚ) : Binary → Prop where
  | finite {exponent : Int} {units : Nat} (significand : Nat) (power : Int)
      (rounding : Rounding format number exponent units)
      (same : magnitude significand power = magnitude units exponent) :
      RoundsTo format negative number (.finite negative significand power)
  | infinite {exponent : Int} {units : Nat} (rounding : Rounding format number exponent units)
      (above : format.highest ≤ exponent) : RoundsTo format negative number (.infinite negative)

theorem roundRatio_roundsTo (format : Format) (precise : 0 < format.precision) (negative : Bool)
    {numerator denominator : Nat} (nonzero : numerator ≠ 0) (positive : 0 < denominator) :
    RoundsTo format negative ((numerator : ℚ) / denominator)
      (roundRatio format negative numerator denominator) := by
  have rounding := rounding_lastBit format nonzero positive
  rw [roundRatio_eq format negative denominator nonzero]
  generalize unitCount format numerator denominator = units at rounding
  generalize lastBit format numerator denominator = exponent at rounding
  by_cases above : format.highest < (carried format units exponent).2
  · have next := carried_snd_le format units exponent
    simp only [above, if_true]
    exact .infinite rounding (by omega)
  · simp only [above, if_false]
    exact .finite _ _ rounding (magnitude_carried format precise units exponent)

/-- A quotient of two numbers is that of their values, rounded. -/
theorem divide_roundsTo (leftNegative rightNegative : Bool) {leftSignificand rightSignificand : Nat}
    (leftExponent rightExponent : Int) (left : leftSignificand ≠ 0) (right : rightSignificand ≠ 0) :
    RoundsTo binary64 (leftNegative != rightNegative)
      (magnitude leftSignificand leftExponent / magnitude rightSignificand rightExponent)
      (divide (.finite leftNegative leftSignificand leftExponent)
        (.finite rightNegative rightSignificand rightExponent)) := by
  have parts := ratio_eq leftSignificand (leftExponent - rightExponent)
  have positive := ratio_snd_pos leftSignificand (leftExponent - rightExponent)
  have quotient : ((ratio leftSignificand (leftExponent - rightExponent)).1 : ℚ) /
      ((ratio leftSignificand (leftExponent - rightExponent)).2 * rightSignificand : Nat) =
        magnitude leftSignificand leftExponent / magnitude rightSignificand rightExponent := by
    rw [Nat.cast_mul, ← div_div, parts, magnitude, magnitude, magnitude,
      zpow_sub₀ (by norm_num)]
    field_simp
  have nonzero : (ratio leftSignificand (leftExponent - rightExponent)).1 ≠ 0 := by
    intro zero
    rw [zero, Nat.cast_zero, zero_div] at parts
    exact absurd parts (magnitude_pos _ left).ne
  rw [divide, if_neg right, ← quotient]
  exact roundRatio_roundsTo binary64 (by decide) _ nonzero
    (Nat.mul_pos positive (Nat.pos_of_ne_zero right))

namespace Rounding

variable {format : Format} {number : ℚ} {exponent : Int} {units : Nat}

/-- Above the bottom of the range a significand is as long as can be. -/
theorem pow_le_units (rounded : Rounding format number exponent units)
    (precise : 0 < format.precision) (above : exponent ≠ format.lowest) :
    2 ^ (format.precision - 1) ≤ units := by
  apply rounded.nearest.le_of_le
  rcases rounded.normal with bottom | normal
  · exact absurd bottom above
  · rw [le_div_iff₀ (two_zpow_pos exponent)]
    have split : exponent + (format.precision : Int) - 1 =
        ((format.precision - 1 : Nat) : Int) + exponent := by omega
    rw [split, zpow_add₀ (by norm_num), zpow_natCast] at normal
    exact_mod_cast normal

/-- A representable bound from below holds of the rounded number. -/
theorem magnitude_le (rounded : Rounding format number exponent units)
    (precise : 0 < format.precision) {significand : Nat} {power : Int}
    (short : significand < 2 ^ format.precision) (low : format.lowest ≤ power)
    (le : magnitude significand power ≤ number) :
    magnitude significand power ≤ magnitude units exponent := by
  by_cases coarser : exponent ≤ power
  · -- The bound is a whole number of units.
    obtain ⟨places, same⟩ := Int.le.dest coarser
    rw [← same, ← magnitude_mul_pow] at le ⊢
    have count : significand * 2 ^ places ≤ units := by
      apply rounded.nearest.le_of_le
      rw [le_div_iff₀ (two_zpow_pos exponent)]
      exact le
    exact mul_le_mul_of_nonneg_right (Nat.cast_le.2 count) (two_zpow_pos exponent).le
  · -- The last bit is above that of the bound, so the significand is full.
    have full := rounded.pow_le_units precise (by omega)
    have wider : significand ≤ units * 2 := by
      have double : 2 ^ format.precision = 2 ^ (format.precision - 1) * 2 := by
        rw [← Nat.pow_succ, Nat.succ_eq_add_one, Nat.sub_add_cancel precise]
      omega
    calc magnitude significand power
        ≤ magnitude (units * 2 ^ 1) power :=
          mul_le_mul_of_nonneg_right (Nat.cast_le.2 wider) (two_zpow_pos power).le
      _ = magnitude units (power + 1) := magnitude_mul_pow units 1 power
      _ ≤ magnitude units exponent := by
          apply mul_le_mul_of_nonneg_left _ (Nat.cast_nonneg units)
          exact zpow_le_zpow_right₀ (by norm_num) (by omega)

/-- A significand has at most one unit more than it has room for. -/
theorem units_le (rounded : Rounding format number exponent units) :
    units ≤ 2 ^ format.precision := by
  apply rounded.nearest.le_of_ge
  rw [div_le_iff₀ (two_zpow_pos exponent)]
  have below := rounded.below
  rw [add_comm, zpow_add₀ (by norm_num), zpow_natCast] at below
  exact_mod_cast below.le

/-- What is rounded to is no more than a significand of full width and one unit. -/
theorem magnitude_le_two_zpow (rounded : Rounding format number exponent units) :
    magnitude units exponent ≤ (2 : ℚ) ^ (exponent + format.precision) := by
  calc magnitude units exponent
      ≤ magnitude (1 * 2 ^ format.precision) exponent := by
        apply mul_le_mul_of_nonneg_right _ (two_zpow_pos exponent).le
        rw [one_mul]
        exact Nat.cast_le.2 rounded.units_le
    _ = magnitude 1 (exponent + format.precision) := magnitude_mul_pow _ _ _
    _ = (2 : ℚ) ^ (exponent + format.precision) := by simp [magnitude]

/-- Above the lowest exponent what is rounded to has a significand of full width. -/
theorem two_zpow_le_magnitude (rounded : Rounding format number exponent units)
    (precise : 0 < format.precision) (above : exponent ≠ format.lowest) :
    (2 : ℚ) ^ (exponent + (format.precision - 1 : Nat)) ≤ magnitude units exponent := by
  calc (2 : ℚ) ^ (exponent + (format.precision - 1 : Nat))
      = magnitude 1 (exponent + (format.precision - 1 : Nat)) := by simp [magnitude]
    _ = magnitude (1 * 2 ^ (format.precision - 1)) exponent := (magnitude_mul_pow _ _ _).symm
    _ ≤ magnitude units exponent := by
        apply mul_le_mul_of_nonneg_right _ (two_zpow_pos exponent).le
        rw [one_mul]
        exact Nat.cast_le.2 (rounded.pow_le_units precise above)

/-- A power of two is reached from half a unit below it on, in the units of the
numbers below it. -/
theorem two_zpow_le_iff (rounded : Rounding format number exponent units)
    (precise : 0 < format.precision) {power : Int}
    (inside : format.lowest + format.precision ≤ power) :
    (2 : ℚ) ^ power ≤ magnitude units exponent ↔
      (2 : ℚ) ^ power - (2 : ℚ) ^ (power - format.precision - 1) ≤ number := by
  have grows : ∀ {low high : Int}, low ≤ high → (2 : ℚ) ^ low ≤ (2 : ℚ) ^ high :=
    fun le => zpow_le_zpow_right₀ (by norm_num) le
  have half : (2 : ℚ) ^ power = (2 : ℚ) ^ (power - 1) + (2 : ℚ) ^ (power - 1) := by
    rw [← mul_two, ← zpow_add_one₀ (by norm_num), sub_add_cancel]
  have positive := two_zpow_pos (power - 1)
  have gap := two_zpow_pos (power - format.precision - 1)
  rcases lt_trichotomy exponent (power - format.precision) with finer | same | coarser
  · -- The number is below half the power, and so are its units.
    have small : number < (2 : ℚ) ^ (power - 1) :=
      lt_of_lt_of_le rounded.below (grows (by omega))
    have smallGap : (2 : ℚ) ^ (power - format.precision - 1) ≤ (2 : ℚ) ^ (power - 1) :=
      grows (by omega)
    have units_small : magnitude units exponent ≤ (2 : ℚ) ^ (power - 1) :=
      rounded.magnitude_le_two_zpow.trans (grows (by omega))
    constructor <;> intro reached <;> linarith
  · -- The power is one unit more than a significand has room for.
    subst same
    have even : 2 ^ format.precision % 2 = 0 := Nat.two_pow_mod_two_eq_zero.2 precise
    have whole : (2 : ℚ) ^ power =
        ((2 ^ format.precision : Nat) : ℚ) * (2 : ℚ) ^ (power - format.precision) := by
      push_cast
      rw [← zpow_natCast, ← zpow_add₀ (by norm_num)]
      congr 1
      omega
    have halfUnit : (2 : ℚ) ^ (power - format.precision - 1) =
        1 / 2 * (2 : ℚ) ^ (power - format.precision) := by
      rw [zpow_sub_one₀ (by norm_num)]
      ring
    rw [whole, halfUnit, ← sub_mul, magnitude, mul_le_mul_iff_left₀ (two_zpow_pos _),
      Nat.cast_le, rounded.nearest.le_iff_of_even even, le_div_iff₀ (two_zpow_pos _)]
  · -- The significand is full, above the power.
    have large : (2 : ℚ) ^ power ≤ number := by
      rcases rounded.normal with bottom | normal
      · omega
      · exact le_trans (grows (by omega)) normal
    have units_large : (2 : ℚ) ^ power ≤ magnitude units exponent :=
      (grows (by omega)).trans (rounded.two_zpow_le_magnitude precise (by omega))
    constructor
    · intro _
      linarith
    · intro _
      exact units_large

end Rounding

end Binary

end WebHost.Number
