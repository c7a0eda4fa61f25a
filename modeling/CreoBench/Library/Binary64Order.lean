import CreoBench.Library.Binary64Rounding

/-!
# Comparing binary64 numbers

Comparisons, negation and differences of numbers.  Sums and quotients of larger
numbers are no smaller after rounding, so a bound on the operands gives a bound
on the result, which is computed from the bounds themselves.
-/

namespace Binary64

def isNan (word : Binary64) : Bool :=
  word.exponentField = 2047 ∧ word.fractionField ≠ 0

/-- A number in units of the smallest positive one; an infinity lies beyond all finite numbers. -/
def signedUnits (word : Binary64) : Int :=
  if word.isNegative then -word.units else word.units

/-- `first <= second`, which no not-a-number meets. -/
def le (first second : Binary64) : Bool :=
  ¬ first.isNan ∧ ¬ second.isNan ∧ first.signedUnits ≤ second.signedUnits

/-- `f64::max` of two numbers. -/
def max (first second : Binary64) : Binary64 :=
  if first.le second then second else first

/-- The opposite number; the addition flips the sign bit. -/
def neg (word : Binary64) : Binary64 :=
  ⟨word.bits + 0x8000000000000000⟩

/-- The difference of two finite non-negative numbers, the first of which is not smaller. -/
def sub (first second : Binary64) : Binary64 :=
  ofFraction
    (first.numerator * second.denominator - second.numerator * first.denominator)
    (first.denominator * second.denominator)

/-! ## Signs -/

section

variable {word : Binary64}

theorem isNan_of_isFinite (finite : word.isFinite = true) : word.isNan = false := by
  simp only [isFinite, decide_eq_true_eq] at finite
  simp [isNan, finite]

/-- The order of finite non-negative numbers. -/
theorem le_iff {first second : Binary64} (firstFinite : first.isFinite = true)
    (firstSign : first.isNegative = false) (secondFinite : second.isFinite = true)
    (secondSign : second.isNegative = false) :
    first.le second = true ↔ first.units ≤ second.units := by
  simp [le, signedUnits, isNan_of_isFinite firstFinite, isNan_of_isFinite secondFinite, firstSign,
    secondSign]

/-- A number above zero. -/
theorem le_zero_eq_false (sign : word.isNegative = false) (positive : 0 < word.units) :
    word.le ⟨0⟩ = false := by
  have zero : (⟨0⟩ : Binary64).signedUnits = 0 := by decide
  have own : word.signedUnits = word.units := if_neg (Bool.eq_false_iff.mp sign)
  simp only [le, zero, own, decide_eq_false_iff_not]
  rintro ⟨-, -, notPositive⟩
  omega

/-- Only zero has no units. -/
theorem units_pos_iff (nonNegative : word.bits.toNat < 2 ^ 63) :
    0 < word.units ↔ 0 < word.bits.toNat := by
  have powerPos : 0 < 2 ^ (Nat.max 1 word.exponentField - 1) := Nat.two_pow_pos _
  have significandPos : 0 < word.significand ↔ 0 < word.bits.toNat := by
    rw [significand, exponentField, fractionField]
    split_ifs <;> omega
  rw [← significandPos, units]
  exact Nat.mul_pos_iff_of_pos_right powerPos

theorem isPositive_ofFraction_iff {num den : Nat} :
    (ofFraction num den).isPositive = true ↔ 0 < (ofFraction num den).units := by
  have notNan : (ofFraction num den).bits.toNat ≤ 2047 * 2 ^ 52 := by
    rw [ofFraction_bits]
    exact Nat.min_le_left _ _
  rw [units_pos_iff (ofFraction_bits_lt num den)]
  simp only [isPositive, decide_eq_true_eq]
  exact and_iff_left notNan

theorem ofFraction_isNegative (num den : Nat) : (ofFraction num den).isNegative = false := by
  have := ofFraction_bits_lt num den
  simpa [isNegative] using this

theorem isFinite_iff (nonNegative : word.bits.toNat < 2 ^ 63) :
    word.isFinite = true ↔ word.bits.toNat < 2047 * 2 ^ 52 := by
  rw [isFinite, exponentField, decide_eq_true_eq]
  omega

/-- What is at most a finite number is finite after rounding. -/
theorem isFinite_ofFraction_of_le {num den num' den' : Nat} (denPos : 0 < den)
    (denPos' : 0 < den') (le : num * den' ≤ num' * den)
    (finite : (ofFraction num' den').isFinite = true) : (ofFraction num den).isFinite = true := by
  rw [isFinite_iff (ofFraction_bits_lt _ _)] at finite ⊢
  exact (ofFraction_bits_mono denPos denPos' le).trans_lt finite

theorem neg_bits (word : Binary64) :
    word.neg.bits.toNat = (word.bits.toNat + 2 ^ 63) % 2 ^ 64 :=
  UInt64.toNat_add word.bits 0x8000000000000000

@[simp]
theorem exponentField_neg : word.neg.exponentField = word.exponentField := by
  have bound := word.bits.toNat_lt
  rw [exponentField, exponentField, neg_bits]
  omega

@[simp]
theorem units_neg : word.neg.units = word.units := by
  have bound := word.bits.toNat_lt
  have fractions : word.neg.fractionField = word.fractionField := by
    rw [fractionField, fractionField, neg_bits]
    omega
  rw [units, units, significand, significand, exponentField_neg, fractions]

@[simp]
theorem isFinite_neg : word.neg.isFinite = word.isFinite := by
  rw [isFinite, isFinite, exponentField_neg]

theorem isNegative_neg (nonNegative : word.bits.toNat < 2 ^ 63) :
    word.neg.isNegative = true := by
  rw [isNegative, neg_bits, decide_eq_true_eq]
  omega

end

/-! ## Bounds -/

section

variable {first second first' second' : Binary64}

/-- Comparing units is comparing fractions. -/
theorem units_le_iff : first.units ≤ second.units ↔
    first.numerator * second.denominator ≤ second.numerator * first.denominator := by
  have denominators : 0 < first.denominator * second.denominator :=
    Nat.mul_pos (denominator_pos _) (denominator_pos _)
  have firstEq : first.numerator * second.denominator * 2 ^ unitExponent =
      first.units * (first.denominator * second.denominator) := by
    rw [Nat.mul_right_comm, numerator_mul_two_pow]
    ring
  have secondEq : second.numerator * first.denominator * 2 ^ unitExponent =
      second.units * (first.denominator * second.denominator) := by
    rw [Nat.mul_right_comm, numerator_mul_two_pow]
    ring
  rw [← Nat.mul_le_mul_right_iff denominators, ← firstEq, ← secondEq,
    Nat.mul_le_mul_right_iff (Nat.two_pow_pos unitExponent)]

theorem numerator_pos_iff : 0 < first.numerator ↔ 0 < first.units := by
  rw [← Nat.mul_pos_iff_of_pos_right (Nat.two_pow_pos unitExponent), numerator_mul_two_pow,
    Nat.mul_pos_iff_of_pos_right (denominator_pos first)]

theorem units_ofNat_mono {small large : Nat} (le : small ≤ large) :
    (ofNat small).units ≤ (ofNat large).units :=
  units_ofFraction_mono Nat.one_pos Nat.one_pos (Nat.mul_le_mul_right 1 le)

theorem units_add_mono (le : first.units ≤ first'.units) (le' : second.units ≤ second'.units) :
    (add first second).units ≤ (add first' second').units := by
  rw [units_le_iff] at le le'
  apply units_ofFraction_mono (Nat.mul_pos (denominator_pos _) (denominator_pos _))
    (Nat.mul_pos (denominator_pos _) (denominator_pos _))
  calc (first.numerator * second.denominator + second.numerator * first.denominator) *
        (first'.denominator * second'.denominator)
      = first.numerator * first'.denominator * (second.denominator * second'.denominator) +
          second.numerator * second'.denominator * (first.denominator * first'.denominator) := by
        ring
    _ ≤ first'.numerator * first.denominator * (second.denominator * second'.denominator) +
          second'.numerator * second.denominator * (first.denominator * first'.denominator) :=
        Nat.add_le_add (Nat.mul_le_mul_right _ le) (Nat.mul_le_mul_right _ le')
    _ = (first'.numerator * second'.denominator + second'.numerator * first'.denominator) *
          (first.denominator * second.denominator) := by ring

/-- A larger minuend and a smaller subtrahend give no smaller difference. -/
theorem units_sub_mono (le : first.units ≤ first'.units) (ge : second'.units ≤ second.units) :
    (sub first second).units ≤ (sub first' second').units := by
  rw [units_le_iff] at le ge
  apply units_ofFraction_mono (Nat.mul_pos (denominator_pos _) (denominator_pos _))
    (Nat.mul_pos (denominator_pos _) (denominator_pos _))
  rw [Nat.sub_mul, Nat.sub_mul]
  apply tsub_le_tsub
  · calc first.numerator * second.denominator * (first'.denominator * second'.denominator)
        = first.numerator * first'.denominator * (second.denominator * second'.denominator) := by
          ring
      _ ≤ first'.numerator * first.denominator * (second.denominator * second'.denominator) :=
          Nat.mul_le_mul_right _ le
      _ = first'.numerator * second'.denominator * (first.denominator * second.denominator) := by
          ring
  · calc second'.numerator * first'.denominator * (first.denominator * second.denominator)
        = second'.numerator * second.denominator * (first.denominator * first'.denominator) := by
          ring
      _ ≤ second.numerator * second'.denominator * (first.denominator * first'.denominator) :=
          Nat.mul_le_mul_right _ ge
      _ = second.numerator * first.denominator * (first'.denominator * second'.denominator) := by
          ring

/-- A larger dividend and a smaller divisor give no smaller quotient. -/
theorem units_div_mono (le : first.units ≤ first'.units) (ge : second'.units ≤ second.units)
    (divisorPos : 0 < second'.units) :
    (div first second).units ≤ (div first' second').units := by
  have secondPos := numerator_pos_iff.mpr (divisorPos.trans_le ge)
  have secondPos' := numerator_pos_iff.mpr divisorPos
  rw [units_le_iff] at le ge
  apply units_ofFraction_mono (Nat.mul_pos (denominator_pos _) secondPos)
    (Nat.mul_pos (denominator_pos _) secondPos')
  calc first.numerator * second.denominator * (first'.denominator * second'.numerator)
      = first.numerator * first'.denominator * (second'.numerator * second.denominator) := by ring
    _ ≤ first'.numerator * first.denominator * (second.numerator * second'.denominator) :=
        Nat.mul_le_mul le ge
    _ = first'.numerator * second'.denominator * (first.denominator * second.numerator) := by ring

/-- Multiples of larger numbers are rounded to no smaller integers. -/
theorem roundHalfEven_mul_mono (factor : Nat) (le : first.units ≤ second.units) :
    roundHalfEven (first.numerator * factor) first.denominator ≤
      roundHalfEven (second.numerator * factor) second.denominator := by
  rw [units_le_iff] at le
  apply roundHalfEven_mono (denominator_pos _) (denominator_pos _)
  rw [Nat.mul_right_comm, Nat.mul_right_comm second.numerator]
  exact Nat.mul_le_mul_right _ le

end

end Binary64
