import Mathlib.Data.Nat.Log
import Mathlib.Tactic.Ring

/-!
# Binary64 words as exact fractions

A binary64 number is kept as its 64-bit pattern, and its magnitude is read as
an exact fraction of natural numbers.  Rounding to nearest, ties to even, is
done on such fractions, so every operation here is integer arithmetic.
Only what conversions of non-negative quantities need is developed: decoding,
rounding a fraction, and the exactness of integers below `2 ^ 53`.
-/

/-- A binary64 number, identified with its bit pattern. -/
structure Binary64 where
  bits : UInt64
  deriving DecidableEq

namespace Binary64

def isNegative (word : Binary64) : Bool :=
  2 ^ 63 ≤ word.bits.toNat

def exponentField (word : Binary64) : Nat :=
  word.bits.toNat / 2 ^ 52 % 2 ^ 11

def fractionField (word : Binary64) : Nat :=
  word.bits.toNat % 2 ^ 52

/-- Neither infinite nor not-a-number. -/
def isFinite (word : Binary64) : Bool :=
  word.exponentField ≠ 2047

/-- `word > 0.0`: neither zero nor negative nor not-a-number. -/
def isPositive (word : Binary64) : Bool :=
  0 < word.bits.toNat ∧ word.bits.toNat ≤ 2047 * 2 ^ 52

/-- The significand with its implicit bit, if the number is normal. -/
def significand (word : Binary64) : Nat :=
  if word.exponentField = 0 then word.fractionField
  else 2 ^ 52 + word.fractionField

/-- The magnitude of a finite number is `numerator / denominator`. -/
def numerator (word : Binary64) : Nat :=
  word.significand * 2 ^ (max 1 word.exponentField - 1075)

def denominator (word : Binary64) : Nat :=
  2 ^ (1075 - max 1 word.exponentField)

theorem denominator_pos (word : Binary64) : 0 < word.denominator :=
  Nat.two_pow_pos _

/-- The integer nearest to a fraction, ties to even. -/
def roundHalfEven (num den : Nat) : Nat :=
  if 2 * (num % den) < den then num / den
  else if den < 2 * (num % den) then num / den + 1
  else num / den + num / den % 2

@[simp]
theorem roundHalfEven_mul_left {den : Nat} (denPos : 0 < den) (whole : Nat) :
    roundHalfEven (whole * den) den = whole := by
  simp [roundHalfEven, denPos]

theorem roundHalfEven_scale {factor : Nat} (factorPos : 0 < factor)
    (num den : Nat) :
    roundHalfEven (num * factor) (den * factor) = roundHalfEven num den := by
  have remainder : num * factor % (den * factor) = num % den * factor :=
    Nat.mul_mod_mul_right factor num den
  have quotient : num * factor / (den * factor) = num / den :=
    Nat.mul_div_mul_right num den factorPos
  have below : 2 * (num % den * factor) < den * factor ↔ 2 * (num % den) < den := by
    rw [← Nat.mul_assoc]
    exact Nat.mul_lt_mul_right factorPos
  have above : den * factor < 2 * (num % den * factor) ↔ den < 2 * (num % den) := by
    rw [← Nat.mul_assoc]
    exact Nat.mul_lt_mul_right factorPos
  simp only [roundHalfEven, remainder, quotient, below, above]

/-- The exponent of the smallest positive number, negated. -/
def unitExponent : Nat := 1074

/-- How far the quotient of a fraction, counted in units of the smallest positive
number, exceeds the 53 bits of a significand. -/
def excess (num den : Nat) : Nat :=
  (num * 2 ^ unitExponent / den).log2 - 52

/-- The number nearest to a non-negative fraction, ties to even; infinity if it
is too large.  A significand that rounds up to `2 ^ 53` carries into the
exponent field by the addition. -/
def ofFraction (num den : Nat) : Binary64 :=
  ⟨UInt64.ofNat (min (2047 * 2 ^ 52)
    (excess num den * 2 ^ 52 +
      roundHalfEven (num * 2 ^ unitExponent) (den * 2 ^ excess num den)))⟩

def ofNat (value : Nat) : Binary64 :=
  ofFraction value 1

/-- The sum of two finite non-negative numbers. -/
def add (first second : Binary64) : Binary64 :=
  ofFraction
    (first.numerator * second.denominator + second.numerator * first.denominator)
    (first.denominator * second.denominator)

/-- The quotient of a finite non-negative number and a finite positive one. -/
def div (first second : Binary64) : Binary64 :=
  ofFraction (first.numerator * second.denominator)
    (first.denominator * second.numerator)

/-- The largest integer below a finite non-negative number, as a natural. -/
def floorNat (word : Binary64) : Nat :=
  word.numerator / word.denominator

/-- `f64::floor` of a finite non-negative number. -/
def floor (word : Binary64) : Binary64 :=
  ofNat word.floorNat

theorem ofFraction_scale {factor : Nat} (factorPos : 0 < factor)
    (num den : Nat) :
    ofFraction (num * factor) (den * factor) = ofFraction num den := by
  have sameExcess : excess (num * factor) (den * factor) = excess num den := by
    unfold excess
    rw [Nat.mul_right_comm, Nat.mul_div_mul_right _ _ factorPos]
  have sameSignificand :
      roundHalfEven (num * factor * 2 ^ unitExponent)
          (den * factor * 2 ^ excess num den) =
        roundHalfEven (num * 2 ^ unitExponent) (den * 2 ^ excess num den) := by
    rw [Nat.mul_right_comm num, Nat.mul_right_comm den]
    exact roundHalfEven_scale factorPos _ _
  rw [ofFraction, ofFraction, sameExcess, sameSignificand]

@[simp]
theorem ofFraction_zero {den : Nat} (denPos : 0 < den) :
    ofFraction 0 den = ⟨0⟩ := by
  have noExcess : excess 0 den = 0 := by simp [excess]
  simp [ofFraction, noExcess, roundHalfEven, denPos]

@[simp]
theorem ofNat_zero : ofNat 0 = ⟨0⟩ :=
  ofFraction_zero Nat.one_pos

@[simp]
theorem numerator_zero : (⟨0⟩ : Binary64).numerator = 0 := by
  simp [numerator, significand, exponentField, fractionField]

theorem log2_mul_two_pow {value : Nat} (positive : 0 < value) (shift : Nat) :
    (value * 2 ^ shift).log2 = value.log2 + shift := by
  have shiftPos : 0 < 2 ^ shift := Nat.two_pow_pos shift
  rw [Nat.log2_eq_iff (Nat.mul_pos positive shiftPos).ne']
  constructor
  · rw [pow_add]
    exact Nat.mul_le_mul_right _ (Nat.log2_self_le (by omega))
  · rw [Nat.add_right_comm, pow_add]
    exact Nat.mul_lt_mul_of_pos_right Nat.lt_log2_self shiftPos

/-- The fields of a positive integer below `2 ^ 53`. -/
private theorem ofNat_bits {value : Nat} (positive : 0 < value)
    (small : value < 2 ^ 53) :
    (ofNat value).bits.toNat =
      (value.log2 + 1023) * 2 ^ 52 + (value * 2 ^ (52 - value.log2) - 2 ^ 52) ∧
      2 ^ 52 ≤ value * 2 ^ (52 - value.log2) ∧
      value * 2 ^ (52 - value.log2) < 2 ^ 53 := by
  have nonzero : value ≠ 0 := by omega
  have log2Small : value.log2 < 53 := (Nat.log2_lt nonzero).mpr small
  have lower : 2 ^ 52 ≤ value * 2 ^ (52 - value.log2) := by
    calc 2 ^ 52 = 2 ^ value.log2 * 2 ^ (52 - value.log2) := by
          rw [← pow_add]
          congr 1
          omega
      _ ≤ value * 2 ^ (52 - value.log2) :=
          Nat.mul_le_mul_right _ (Nat.log2_self_le nonzero)
  have upper : value * 2 ^ (52 - value.log2) < 2 ^ 53 := by
    calc value * 2 ^ (52 - value.log2)
        < 2 ^ (value.log2 + 1) * 2 ^ (52 - value.log2) :=
          Nat.mul_lt_mul_of_pos_right Nat.lt_log2_self (Nat.two_pow_pos _)
      _ = 2 ^ 53 := by
          rw [← pow_add]
          congr 1
          omega
  have excessEq : excess value 1 = value.log2 + 1022 := by
    unfold excess
    rw [Nat.div_one, log2_mul_two_pow positive, unitExponent]
    omega
  have exact : roundHalfEven (value * 2 ^ unitExponent) (1 * 2 ^ excess value 1) =
      value * 2 ^ (52 - value.log2) := by
    have split : unitExponent = 52 - value.log2 + (value.log2 + 1022) := by
      rw [unitExponent]
      omega
    rw [excessEq, split, pow_add, ← Nat.mul_assoc, Nat.one_mul]
    exact roundHalfEven_mul_left (Nat.two_pow_pos _) _
  refine ⟨?_, lower, upper⟩
  rw [ofNat, ofFraction, exact, excessEq, UInt64.toNat_ofNat']
  omega

/-- Integers below `2 ^ 53` are represented exactly. -/
theorem numerator_ofNat {value : Nat} (small : value < 2 ^ 53) :
    (ofNat value).numerator = value * (ofNat value).denominator := by
  rcases Nat.eq_zero_or_pos value with rfl | positive
  · rw [ofNat_zero, numerator_zero, Nat.zero_mul]
  obtain ⟨bits, lower, upper⟩ := ofNat_bits positive small
  have log2Small : value.log2 < 53 := (Nat.log2_lt (by omega)).mpr small
  have exponentEq : (ofNat value).exponentField = value.log2 + 1023 := by
    rw [exponentField, bits]
    omega
  have fractionEq : (ofNat value).fractionField =
      value * 2 ^ (52 - value.log2) - 2 ^ 52 := by
    rw [fractionField, bits]
    omega
  have significandEq : (ofNat value).significand = value * 2 ^ (52 - value.log2) := by
    rw [significand, exponentEq, fractionEq, if_neg (by omega)]
    omega
  rw [numerator, denominator, significandEq, exponentEq]
  have noLeftShift : max 1 (value.log2 + 1023) - 1075 = 0 := by omega
  have rightShift : 1075 - max 1 (value.log2 + 1023) = 52 - value.log2 := by omega
  rw [noLeftShift, rightShift, pow_zero, Nat.mul_one]

theorem ofNat_isNegative {value : Nat} (small : value < 2 ^ 53) :
    (ofNat value).isNegative = false := by
  rcases Nat.eq_zero_or_pos value with rfl | positive
  · rw [ofNat_zero]
    decide
  obtain ⟨bits, lower, upper⟩ := ofNat_bits positive small
  have log2Small : value.log2 < 53 := (Nat.log2_lt (by omega)).mpr small
  rw [isNegative, bits, decide_eq_false_iff_not]
  omega

theorem ofNat_isFinite {value : Nat} (small : value < 2 ^ 53) :
    (ofNat value).isFinite = true := by
  rcases Nat.eq_zero_or_pos value with rfl | positive
  · rw [ofNat_zero]
    decide
  obtain ⟨bits, lower, upper⟩ := ofNat_bits positive small
  have log2Small : value.log2 < 53 := (Nat.log2_lt (by omega)).mpr small
  rw [isFinite, exponentField, bits, decide_eq_true_eq]
  omega

/-- Adding zero changes no exactly represented integer. -/
theorem ofNat_add_zero {value : Nat} (small : value < 2 ^ 53) :
    add (ofNat value) ⟨0⟩ = ofNat value := by
  rw [add, numerator_zero, Nat.zero_mul, Nat.add_zero,
    ofFraction_scale (denominator_pos _), numerator_ofNat small]
  conv_lhs => rw [← Nat.one_mul (ofNat value).denominator, ← Nat.mul_assoc,
    Nat.mul_one, ofFraction_scale (denominator_pos _)]
  rfl

end Binary64
