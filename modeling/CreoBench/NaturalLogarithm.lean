import CreoBench.ArrivalSampling
import Mathlib.Analysis.Complex.ExponentialBounds
import Mathlib.Analysis.SpecialFunctions.Log.Basic

/-!
# The natural logarithm

The logarithm of the reals, cut off at the smallest positive number and rounded
to the nearest one, meets what is asked of a logarithm for drawing gaps.
-/

namespace CreoBench

namespace NaturalLogarithm

open Binary64 (unitExponent)

/-- The magnitude of the logarithm in units, cut off. -/
noncomputable def lnUnits (u : Binary64) : Nat :=
  ⌊-Real.log (u.units / 2 ^ unitExponent) * 2 ^ unitExponent⌋₊

noncomputable def ln (u : Binary64) : Binary64 :=
  .neg (.ofFraction (lnUnits u) (2 ^ unitExponent))

variable {u : Binary64}

theorem one_le_lnUnits (positive : 0 < u.units) (belowOne : u.units < 2 ^ unitExponent) :
    1 ≤ lnUnits u := by
  have scalePos : (0 : ℝ) < 2 ^ unitExponent := by positivity
  have valuePos : (0 : ℝ) < u.units / 2 ^ unitExponent :=
    div_pos (Nat.cast_pos.mpr positive) scalePos
  have gap : (u.units : ℝ) + 1 ≤ 2 ^ unitExponent := by exact_mod_cast belowOne
  apply Nat.le_floor
  have tangent := Real.log_le_sub_one_of_pos valuePos
  calc ((1 : Nat) : ℝ) ≤ 2 ^ unitExponent - u.units := by
        rw [Nat.cast_one]
        linarith
    _ = (1 - u.units / 2 ^ unitExponent) * 2 ^ unitExponent := by
        rw [sub_mul, one_mul, div_mul_cancel₀ _ scalePos.ne']
    _ ≤ -Real.log (u.units / 2 ^ unitExponent) * 2 ^ unitExponent :=
        mul_le_mul_of_nonneg_right (by linarith) scalePos.le

/-- The logarithm of `2 ^ -exponent` bounds those of larger numbers. -/
theorem lnUnits_le {exponent bound : Nat} (large : 2 ^ unitExponent ≤ u.units * 2 ^ exponent)
    (le : exponent * (0.6931471808 : ℝ) ≤ bound) : lnUnits u ≤ bound * 2 ^ unitExponent := by
  have scalePos : (0 : ℝ) < 2 ^ unitExponent := by positivity
  have powerPos : (0 : ℝ) < 2 ^ exponent := by positivity
  have value : (2 ^ exponent : ℝ)⁻¹ ≤ u.units / 2 ^ unitExponent := by
    rw [le_div_iff₀ scalePos, inv_mul_le_iff₀ powerPos, mul_comm]
    exact_mod_cast large
  have logarithm := Real.log_le_log (inv_pos.mpr powerPos) value
  rw [Real.log_inv, Real.log_pow] at logarithm
  have two := mul_le_mul_of_nonneg_left Real.log_two_lt_d9.le (Nat.cast_nonneg (α := ℝ) exponent)
  apply Nat.floor_le_of_le
  push_cast
  exact mul_le_mul_of_nonneg_right (by linarith) scalePos.le

theorem isFinite_of_lnUnits_le (le : lnUnits u ≤ 1024 * 2 ^ unitExponent) :
    (ln u).isFinite = true := by
  rw [ln, Binary64.isFinite_neg]
  have bound : (Binary64.ofFraction 1024 1).isFinite = true := by decide +kernel
  refine Binary64.isFinite_ofFraction_of_le (Nat.two_pow_pos unitExponent) Nat.one_pos ?_ bound
  rw [Nat.mul_one]
  exact le

theorem units_ln_le {bound : Nat} (small : bound < 2 ^ 53)
    (le : lnUnits u ≤ bound * 2 ^ unitExponent) : (ln u).units ≤ bound * 2 ^ unitExponent := by
  rw [ln, Binary64.units_neg, ← Binary64.units_ofNat small]
  apply Binary64.units_ofFraction_mono (Nat.two_pow_pos _) Nat.one_pos
  rw [Nat.mul_one]
  exact le

theorem units_ln_pos (positive : 1 ≤ lnUnits u) : 0 < (ln u).units := by
  rw [ln, Binary64.units_neg]
  have unit : 0 < (Binary64.ofFraction 1 (2 ^ unitExponent)).units := by decide +kernel
  exact unit.trans_le (Binary64.units_ofFraction_mono (Nat.two_pow_pos _) (Nat.two_pow_pos _)
    (Nat.mul_le_mul_right _ positive))

end NaturalLogarithm

/-- `f64::ln` rounded to the nearest number. -/
noncomputable def naturalLogarithm : Logarithm where
  ln := NaturalLogarithm.ln
  negative u _ positive belowOne := by
    have smallest : 2 ^ Binary64.unitExponent ≤ u.units * 2 ^ Binary64.unitExponent :=
      Nat.le_mul_of_pos_left _ positive
    refine ⟨Binary64.isNegative_neg (Binary64.ofFraction_bits_lt _ _), ?_, ?_⟩
    · apply NaturalLogarithm.isFinite_of_lnUnits_le
      apply NaturalLogarithm.lnUnits_le smallest
      norm_num [Binary64.unitExponent]
    · exact NaturalLogarithm.units_ln_pos (NaturalLogarithm.one_le_lnUnits positive belowOne)
  bounded u _ large _ := by
    apply NaturalLogarithm.units_ln_le (by decide)
    apply NaturalLogarithm.lnUnits_le large
    norm_num

end CreoBench
