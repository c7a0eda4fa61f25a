import CreoBench.Library.Binary64Order
import Mathlib.Algebra.Order.Field.Rat
import Mathlib.Algebra.Order.AbsoluteValue.Basic
import Mathlib.Tactic.FieldSimp
import Mathlib.Tactic.Linarith
import Mathlib.Tactic.NormNum
import Mathlib.Tactic.Positivity

/-!
# Rounding errors

Rounding to a binary64 number moves a fraction by at most half a unit in the last
place.  The errors of sums and quotients are stated for bounds that are powers of
two, below which the unit is known.
-/

namespace Binary64

/-! ## Nearest integers -/

theorem roundHalfEven_mul_le (num den : Nat) :
    2 * (roundHalfEven num den * den) ≤ 2 * num + den := by
  have split := Nat.div_add_mod num den
  have commuted := Nat.mul_comm den (num / den)
  have parity : num / den % 2 * den ≤ 1 * den :=
    Nat.mul_le_mul_right _ (Nat.le_of_lt_succ (Nat.mod_lt _ (by decide)))
  rw [roundHalfEven]
  split_ifs with below above
  · omega
  · rw [Nat.add_mul]
    omega
  · rw [Nat.add_mul]
    omega

theorem le_roundHalfEven_mul {den : Nat} (denPos : 0 < den) (num : Nat) :
    2 * num ≤ 2 * (roundHalfEven num den * den) + den := by
  have split := Nat.div_add_mod num den
  have remainder := Nat.mod_lt num denPos
  have commuted := Nat.mul_comm den (num / den)
  rw [roundHalfEven]
  split_ifs with below above
  · omega
  · rw [Nat.add_mul]
    omega
  · rw [Nat.add_mul]
    omega

/-- An integer that is closer than one half is the nearest one. -/
theorem roundHalfEven_eq {num den whole : Nat} (denPos : 0 < den)
    (below : 2 * num < (2 * whole + 1) * den) (above : 2 * whole * den < 2 * num + den) :
    roundHalfEven num den = whole := by
  have upper := roundHalfEven_mul_le num den
  have lower := le_roundHalfEven_mul denPos num
  apply Nat.le_antisymm
  · by_contra more
    have next : (whole + 1) * den ≤ roundHalfEven num den * den :=
      Nat.mul_le_mul_right _ (Nat.lt_of_not_le more)
    nlinarith
  · by_contra less
    have next : (roundHalfEven num den + 1) * den ≤ whole * den :=
      Nat.mul_le_mul_right _ (Nat.lt_of_not_le less)
    nlinarith

/-! ## Rounded fractions -/

section

variable {num den : Nat}

/-- The magnitude that a fraction is rounded to, with or without a carry. -/
theorem units_ofFraction (denPos : 0 < den) (finite : (ofFraction num den).isFinite = true) :
    (ofFraction num den).units = roundedSignificand num den * 2 ^ excess num den := by
  rw [isFinite_iff (ofFraction_bits_lt num den), ofFraction_bits] at finite
  have bits : (ofFraction num den).bits.toNat =
      excess num den * 2 ^ 52 + roundedSignificand num den := by
    rw [ofFraction_bits]
    omega
  have upper : roundedSignificand num den ≤ 2 ^ 53 := roundedSignificand_le denPos
  rcases Nat.lt_or_ge (roundedSignificand num den) (2 ^ 52) with subnormal | normal
  · have noExcess : excess num den = 0 := by
      by_contra exceeds
      have full := le_roundedSignificand denPos (Nat.pos_of_ne_zero exceeds)
      omega
    have exponentEq : (ofFraction num den).exponentField = 0 := by
      rw [exponentField, bits, noExcess]
      omega
    have fractionEq : (ofFraction num den).fractionField = roundedSignificand num den := by
      rw [fractionField, bits, noExcess]
      omega
    rw [units, significand, if_pos exponentEq, exponentEq, fractionEq, noExcess,
      Nat.max_eq_left (by decide), Nat.sub_self]
  rcases Nat.lt_or_eq_of_le upper with full | carried
  · have exponentEq : (ofFraction num den).exponentField = excess num den + 1 := by
      rw [exponentField, bits]
      omega
    have fractionEq : (ofFraction num den).fractionField = roundedSignificand num den - 2 ^ 52 := by
      rw [fractionField, bits]
      omega
    rw [units, significand, if_neg (by omega), exponentEq, fractionEq,
      Nat.max_eq_right (by omega), Nat.add_sub_cancel, Nat.add_sub_cancel' normal]
  · have exponentEq : (ofFraction num den).exponentField = excess num den + 2 := by
      rw [exponentField, bits]
      omega
    have fractionEq : (ofFraction num den).fractionField = 0 := by
      rw [fractionField, bits]
      omega
    have next : excess num den + 2 - 1 = excess num den + 1 := by omega
    rw [units, significand, if_neg (by omega), exponentEq, fractionEq, carried,
      Nat.max_eq_right (by omega), next, Nat.add_zero, pow_succ]
    omega

theorem units_ofFraction_le (denPos : 0 < den) (finite : (ofFraction num den).isFinite = true) :
    2 * ((ofFraction num den).units * den) ≤
      2 * (num * 2 ^ unitExponent) + den * 2 ^ excess num den := by
  have rounded := roundHalfEven_mul_le (num * 2 ^ unitExponent) (den * 2 ^ excess num den)
  rw [units_ofFraction denPos finite, Nat.mul_assoc, Nat.mul_comm (2 ^ excess num den) den]
  exact rounded

theorem le_units_ofFraction (denPos : 0 < den) (finite : (ofFraction num den).isFinite = true) :
    2 * (num * 2 ^ unitExponent) ≤
      2 * ((ofFraction num den).units * den) + den * 2 ^ excess num den := by
  have rounded := le_roundHalfEven_mul (Nat.mul_pos denPos (Nat.two_pow_pos (excess num den)))
    (num * 2 ^ unitExponent)
  rw [units_ofFraction denPos finite, Nat.mul_assoc, Nat.mul_comm (2 ^ excess num den) den]
  exact rounded

/-- Below `2 ^ exponent`, a significand has this excess at most. -/
theorem excess_le {exponent : Nat} (denPos : 0 < den) (below : num < 2 ^ exponent * den) :
    excess num den ≤ exponent + 1021 := by
  rcases Nat.eq_zero_or_pos (num * 2 ^ unitExponent / den) with zero | positive
  · simp [excess, zero]
  have quotient : num * 2 ^ unitExponent / den < 2 ^ (exponent + unitExponent) := by
    rw [Nat.div_lt_iff_lt_mul denPos, pow_add]
    calc num * 2 ^ unitExponent
        < 2 ^ exponent * den * 2 ^ unitExponent :=
          Nat.mul_lt_mul_of_pos_right below (Nat.two_pow_pos _)
      _ = 2 ^ exponent * 2 ^ unitExponent * den := by ring
  have logarithm := (Nat.log2_lt positive.ne').mpr quotient
  rw [excess]
  rw [unitExponent] at logarithm ⊢
  omega

/-- What is below a power of two in range is finite after rounding. -/
theorem isFinite_ofFraction {exponent : Nat} (denPos : 0 < den)
    (below : num < 2 ^ exponent * den) (inRange : exponent < 1024) :
    (ofFraction num den).isFinite = true := by
  have small := excess_le denPos below
  have upper : roundedSignificand num den ≤ 2 ^ 53 := roundedSignificand_le denPos
  rw [isFinite_iff (ofFraction_bits_lt num den), ofFraction_bits]
  omega

end

/-! ## Magnitudes -/

/-- The magnitude of a finite number. -/
def magnitude (word : Binary64) : ℚ := word.numerator / word.denominator

theorem magnitude_eq (word : Binary64) : word.magnitude = word.units / 2 ^ unitExponent := by
  have denominatorPos : (0 : ℚ) < word.denominator := Nat.cast_pos.mpr (denominator_pos word)
  rw [magnitude, div_eq_div_iff denominatorPos.ne' (by positivity)]
  exact_mod_cast numerator_mul_two_pow word

theorem magnitude_ofNat {value : Nat} (small : value < 2 ^ 53) :
    (ofNat value).magnitude = value := by
  have denominatorPos : (0 : ℚ) < (ofNat value).denominator :=
    Nat.cast_pos.mpr (denominator_pos _)
  rw [magnitude, numerator_ofNat small, Nat.cast_mul, mul_div_cancel_right₀ _ denominatorPos.ne']

/-- Rounding errs by half a unit in the last place of the numbers below `2 ^ exponent`. -/
theorem abs_magnitude_ofFraction_sub_le {num den exponent : Nat} (denPos : 0 < den)
    (below : num < 2 ^ exponent * den) (inRange : exponent < 1024) :
    |(ofFraction num den).magnitude - num / den| ≤ 2 ^ exponent / 2 ^ 54 := by
  have finite := isFinite_ofFraction denPos below inRange
  have excessLe : den * 2 ^ excess num den ≤ den * 2 ^ (exponent + 1021) :=
    Nat.mul_le_mul_left _ (Nat.pow_le_pow_right (by decide) (excess_le denPos below))
  have upper := (units_ofFraction_le denPos finite).trans (Nat.add_le_add_left excessLe _)
  have lower := (le_units_ofFraction denPos finite).trans (Nat.add_le_add_left excessLe _)
  have denPos' : (0 : ℚ) < den := Nat.cast_pos.mpr denPos
  have unitPos : (0 : ℚ) < 2 ^ unitExponent := by positivity
  have unit : (2 : ℚ) ^ (exponent + 1021) = 2 * (2 ^ exponent / 2 ^ 54 * 2 ^ unitExponent) := by
    have split : unitExponent = 1020 + 54 := rfl
    rw [split, pow_add, pow_add, pow_succ 2 1020]
    field_simp
  have upper' : 2 * ((ofFraction num den).units * (den : ℚ)) ≤
      2 * (num * 2 ^ unitExponent) + den * 2 ^ (exponent + 1021) := by exact_mod_cast upper
  have lower' : 2 * (num * (2 : ℚ) ^ unitExponent) ≤
      2 * ((ofFraction num den).units * den) + den * 2 ^ (exponent + 1021) := by
    exact_mod_cast lower
  rw [unit] at upper' lower'
  rw [magnitude_eq, div_sub_div _ _ unitPos.ne' denPos'.ne', abs_div,
    abs_of_pos (mul_pos unitPos denPos'), div_le_iff₀ (mul_pos unitPos denPos'), abs_le]
  constructor
  · linarith
  · linarith

/-- The error of a sum. -/
theorem abs_magnitude_add_sub_le (first second : Binary64) (exponent : Nat)
    (below : first.magnitude + second.magnitude < 2 ^ exponent) (inRange : exponent < 1024) :
    |(add first second).magnitude - (first.magnitude + second.magnitude)| ≤
      2 ^ exponent / 2 ^ 54 := by
  have firstPos : (0 : ℚ) < first.denominator := Nat.cast_pos.mpr (denominator_pos first)
  have secondPos : (0 : ℚ) < second.denominator := Nat.cast_pos.mpr (denominator_pos second)
  have sum : first.magnitude + second.magnitude =
      ((first.numerator * second.denominator + second.numerator * first.denominator : Nat) : ℚ) /
        ((first.denominator * second.denominator : Nat) : ℚ) := by
    rw [magnitude, magnitude, div_add_div _ _ firstPos.ne' secondPos.ne']
    push_cast
    ring
  rw [sum] at below ⊢
  apply abs_magnitude_ofFraction_sub_le _ _ inRange
  · exact Nat.mul_pos (denominator_pos first) (denominator_pos second)
  · rw [div_lt_iff₀ (by exact_mod_cast mul_pos firstPos secondPos)] at below
    exact_mod_cast below

/-- The error of a quotient. -/
theorem abs_magnitude_div_sub_le (first second : Binary64) (exponent : Nat)
    (positive : 0 < second.magnitude) (below : first.magnitude / second.magnitude < 2 ^ exponent)
    (inRange : exponent < 1024) :
    |(div first second).magnitude - first.magnitude / second.magnitude| ≤
      2 ^ exponent / 2 ^ 54 := by
  have firstPos : (0 : ℚ) < first.denominator := Nat.cast_pos.mpr (denominator_pos first)
  have secondPos : (0 : ℚ) < second.denominator := Nat.cast_pos.mpr (denominator_pos second)
  have numeratorPos : (0 : ℚ) < second.numerator := by
    rw [magnitude, div_pos_iff_of_pos_right secondPos] at positive
    exact positive
  have quotient : first.magnitude / second.magnitude =
      ((first.numerator * second.denominator : Nat) : ℚ) /
        ((first.denominator * second.numerator : Nat) : ℚ) := by
    rw [magnitude, magnitude, div_div_div_eq]
    push_cast
    rfl
  rw [quotient] at below ⊢
  apply abs_magnitude_ofFraction_sub_le _ _ inRange
  · exact Nat.mul_pos (denominator_pos first) (by exact_mod_cast numeratorPos)
  · rw [div_lt_iff₀ (by exact_mod_cast mul_pos firstPos numeratorPos)] at below
    exact_mod_cast below

theorem magnitude_mul (word : Binary64) (factor : Nat) :
    word.magnitude * factor = (word.numerator * factor : ℚ) / word.denominator := by
  rw [magnitude]
  ring

/-- The nearest integer to a multiple of a number. -/
theorem abs_roundHalfEven_sub_le (word : Binary64) (factor : Nat) :
    |(roundHalfEven (word.numerator * factor) word.denominator : ℚ) - word.magnitude * factor| ≤
      1 / 2 := by
  have denominatorPos : (0 : ℚ) < word.denominator := Nat.cast_pos.mpr (denominator_pos word)
  have upper : (2 : ℚ) * (roundHalfEven (word.numerator * factor) word.denominator *
      word.denominator) ≤ 2 * (word.numerator * factor) + word.denominator := by
    exact_mod_cast roundHalfEven_mul_le (word.numerator * factor) word.denominator
  have lower : (2 : ℚ) * (word.numerator * factor) ≤
      2 * (roundHalfEven (word.numerator * factor) word.denominator * word.denominator) +
        word.denominator := by
    exact_mod_cast le_roundHalfEven_mul (denominator_pos word) (word.numerator * factor)
  rw [magnitude_mul, abs_le, le_sub_iff_add_le, sub_le_iff_le_add, ← le_sub_iff_add_le',
    div_le_iff₀ denominatorPos, ← sub_le_iff_le_add', le_div_iff₀ denominatorPos]
  constructor
  · linarith
  · linarith

/-- A multiple of a number that is closer than one half to an integer is rounded to it. -/
theorem roundHalfEven_eq_of_abs_lt {word : Binary64} {factor whole : Nat}
    (close : |word.magnitude * factor - whole| < 1 / 2) :
    roundHalfEven (word.numerator * factor) word.denominator = whole := by
  have denominatorPos : (0 : ℚ) < word.denominator := Nat.cast_pos.mpr (denominator_pos word)
  rw [magnitude_mul, abs_lt, lt_sub_iff_add_lt, sub_lt_iff_lt_add, lt_div_iff₀ denominatorPos,
    div_lt_iff₀ denominatorPos] at close
  apply roundHalfEven_eq (denominator_pos word)
  · have upper : (2 : ℚ) * (word.numerator * factor) < (2 * whole + 1) * word.denominator := by
      linarith [close.2]
    exact_mod_cast upper
  · have lower : (2 : ℚ) * whole * word.denominator <
        2 * (word.numerator * factor) + word.denominator := by
      linarith [close.1]
    exact_mod_cast lower

end Binary64
