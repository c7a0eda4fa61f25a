import CreoBench.Library.Binary64

/-!
# Rounding keeps the order

The magnitude of a binary64 number is counted here in units of the smallest
positive number.  It grows with the bit pattern, and rounding a larger fraction
gives no smaller pattern, so rounding keeps every bound that is a number itself.
-/

namespace Binary64

/-! ## Nearest integers -/

theorem roundHalfEven_le_succ (num den : Nat) : roundHalfEven num den ≤ num / den + 1 := by
  unfold roundHalfEven
  split_ifs <;> omega

theorem div_le_roundHalfEven (num den : Nat) : num / den ≤ roundHalfEven num den := by
  unfold roundHalfEven
  split_ifs <;> omega

/-- The order of fractions with one denominator. -/
private theorem roundHalfEven_mono_num {first second den : Nat} (le : first ≤ second) :
    roundHalfEven first den ≤ roundHalfEven second den := by
  have quotients : first / den ≤ second / den := Nat.div_le_div_right le
  rcases Nat.lt_or_eq_of_le quotients with less | same
  · exact (roundHalfEven_le_succ first den).trans 
      ((Nat.succ_le_of_lt less).trans (div_le_roundHalfEven second den))
  · have firstSplit := Nat.div_add_mod first den
    have secondSplit := Nat.div_add_mod second den
    rw [same] at firstSplit
    have remainders : first % den ≤ second % den := by omega
    unfold roundHalfEven
    rw [same]
    split_ifs <;> omega

theorem roundHalfEven_mono {num den num' den' : Nat} (denPos : 0 < den) (denPos' : 0 < den')
    (le : num * den' ≤ num' * den) : roundHalfEven num den ≤ roundHalfEven num' den' := by
  rw [← roundHalfEven_scale denPos' num den, ← roundHalfEven_scale denPos num' den',
    Nat.mul_comm den' den]
  exact roundHalfEven_mono_num le

/-! ## Units -/

/-- The magnitude of a finite number in units of the smallest positive one. -/
def units (word : Binary64) : Nat :=
  word.significand * 2 ^ (max 1 word.exponentField - 1)

theorem significand_lt (word : Binary64) : word.significand < 2 ^ 53 := by
  have fraction : word.fractionField < 2 ^ 52 := Nat.mod_lt _ (Nat.two_pow_pos 52)
  unfold significand
  split_ifs <;> omega

theorem numerator_mul_two_pow (word : Binary64) :
    word.numerator * 2 ^ unitExponent = word.units * word.denominator := by
  have exponents : max 1 word.exponentField - 1075 + unitExponent =
      max 1 word.exponentField - 1 + (1075 - max 1 word.exponentField) := by
    rw [unitExponent]
    omega
  rw [numerator, units, denominator, Nat.mul_assoc, Nat.mul_assoc, ← pow_add, ← pow_add, exponents]

theorem floorNat_eq_units_div (word : Binary64) :
    word.floorNat = word.units / 2 ^ unitExponent := by
  rw [floorNat, ← Nat.mul_div_mul_right word.numerator word.denominator
    (Nat.two_pow_pos unitExponent), numerator_mul_two_pow, Nat.mul_comm word.denominator]
  exact Nat.mul_div_mul_right _ _ (denominator_pos word)

/-- The order of non-negative numbers is the order of their bit patterns. -/
theorem units_mono {first second : Binary64} (nonNegative : second.bits.toNat < 2 ^ 63)
    (le : first.bits.toNat ≤ second.bits.toNat) : first.units ≤ second.units := by
  have firstExponent : first.exponentField = first.bits.toNat / 2 ^ 52 := by
    rw [exponentField]
    omega
  have secondExponent : second.exponentField = second.bits.toNat / 2 ^ 52 := by
    rw [exponentField]
    omega
  have exponents : first.exponentField ≤ second.exponentField := by
    rw [firstExponent, secondExponent]
    exact Nat.div_le_div_right le
  rcases Nat.lt_or_eq_of_le exponents with less | same
  · have positive : 2 ^ 52 ≤ second.significand := by
      rw [significand, if_neg (by omega)]
      exact Nat.le_add_right _ _
    rcases Nat.eq_zero_or_pos first.exponentField with subnormal | normal
    · have small : first.significand < 2 ^ 52 := by
        rw [significand, if_pos subnormal]
        exact Nat.mod_lt _ (Nat.two_pow_pos 52)
      rw [units, subnormal, Nat.max_eq_left (by omega), Nat.sub_self, pow_zero, Nat.mul_one]
      exact small.le.trans (positive.trans (Nat.le_mul_of_pos_right _ (Nat.two_pow_pos _)))
    · have powers : max 1 first.exponentField - 1 + 1 ≤ max 1 second.exponentField - 1 := by omega
      calc first.units
          ≤ 2 ^ 53 * 2 ^ (max 1 first.exponentField - 1) :=
            Nat.mul_le_mul_right _ (significand_lt first).le
        _ = 2 ^ 52 * 2 ^ (max 1 first.exponentField - 1 + 1) := by rw [pow_succ]; omega
        _ ≤ 2 ^ 52 * 2 ^ (max 1 second.exponentField - 1) :=
            Nat.mul_le_mul_left _ (Nat.pow_le_pow_right (by decide) powers)
        _ ≤ second.units := Nat.mul_le_mul_right _ positive
  · have significands : first.significand ≤ second.significand := by
      have fractions : first.fractionField ≤ second.fractionField := by
        rw [firstExponent, secondExponent] at same
        rw [fractionField, fractionField]
        omega
      rw [significand, significand, same]
      split_ifs
      · exact fractions
      · exact Nat.add_le_add_left fractions _
    rw [units, units, same]
    exact Nat.mul_le_mul_right _ significands

/-! ## Rounded fractions -/

section

variable {num den num' den' : Nat}

/-- The significand that a fraction is rounded to; `2 ^ 53` is still to be carried. -/
def roundedSignificand (num den : Nat) : Nat :=
  roundHalfEven (num * 2 ^ unitExponent) (den * 2 ^ excess num den)

theorem ofFraction_bits (num den : Nat) : (ofFraction num den).bits.toNat =
    min (2047 * 2 ^ 52) (excess num den * 2 ^ 52 + roundedSignificand num den) := by
  rw [ofFraction, UInt64.toNat_ofNat', roundedSignificand]
  apply Nat.mod_eq_of_lt
  exact (Nat.min_le_left _ _).trans_lt (by decide)

theorem ofFraction_bits_lt (num den : Nat) : (ofFraction num den).bits.toNat < 2 ^ 63 := by
  rw [ofFraction_bits]
  exact (Nat.min_le_left _ _).trans_lt (by decide)

theorem roundedSignificand_le (denPos : 0 < den) : roundedSignificand num den ≤ 2 ^ 53 := by
  have scaledPos : 0 < den * 2 ^ excess num den := Nat.mul_pos denPos (Nat.two_pow_pos _)
  have below : num * 2 ^ unitExponent ≤ 2 ^ 53 * (den * 2 ^ excess num den) := by
    have quotient : num * 2 ^ unitExponent / den <
        2 ^ ((num * 2 ^ unitExponent / den).log2 + 1) := Nat.lt_log2_self
    have powers : 2 ^ ((num * 2 ^ unitExponent / den).log2 + 1) ≤ 2 ^ (53 + excess num den) :=
      Nat.pow_le_pow_right (by decide) (by rw [excess]; omega)
    have total := (Nat.div_lt_iff_lt_mul denPos).mp (quotient.trans_le powers)
    rw [pow_add] at total
    exact total.le.trans_eq (by ring)
  calc roundedSignificand num den
      ≤ roundHalfEven (2 ^ 53 * (den * 2 ^ excess num den)) (den * 2 ^ excess num den) :=
        roundHalfEven_mono_num below
    _ = 2 ^ 53 := roundHalfEven_mul_left scaledPos _

/-- A fraction with an excess has a full significand. -/
theorem le_roundedSignificand (denPos : 0 < den) (exceeds : 0 < excess num den) :
    2 ^ 52 ≤ roundedSignificand num den := by
  have scaledPos : 0 < den * 2 ^ excess num den := Nat.mul_pos denPos (Nat.two_pow_pos _)
  have above : 2 ^ 52 * (den * 2 ^ excess num den) ≤ num * 2 ^ unitExponent := by
    have logarithm : (num * 2 ^ unitExponent / den).log2 = 52 + excess num den := by
      rw [excess] at exceeds ⊢
      omega
    have nonzero : num * 2 ^ unitExponent / den ≠ 0 := by
      intro zero
      rw [zero, Nat.log2_zero] at logarithm
      omega
    have quotient := Nat.log2_self_le nonzero
    rw [logarithm, Nat.le_div_iff_mul_le denPos, pow_add] at quotient
    exact le_of_eq_of_le (by ring) quotient
  calc 2 ^ 52
      = roundHalfEven (2 ^ 52 * (den * 2 ^ excess num den)) (den * 2 ^ excess num den) :=
        (roundHalfEven_mul_left scaledPos _).symm
    _ ≤ roundedSignificand num den := roundHalfEven_mono_num above

theorem excess_mono (denPos : 0 < den) (denPos' : 0 < den') (le : num * den' ≤ num' * den) :
    excess num den ≤ excess num' den' := by
  have quotients : num * 2 ^ unitExponent / den ≤ num' * 2 ^ unitExponent / den' := by
    rw [Nat.le_div_iff_mul_le denPos']
    apply Nat.le_of_mul_le_mul_right _ denPos
    calc num * 2 ^ unitExponent / den * den' * den
        = num * 2 ^ unitExponent / den * den * den' := by ring
      _ ≤ num * 2 ^ unitExponent * den' := Nat.mul_le_mul_right _ (Nat.div_mul_le_self _ _)
      _ = num * den' * 2 ^ unitExponent := by ring
      _ ≤ num' * den * 2 ^ unitExponent := Nat.mul_le_mul_right _ le
      _ = num' * 2 ^ unitExponent * den := by ring
  have logarithms : (num * 2 ^ unitExponent / den).log2 ≤
      (num' * 2 ^ unitExponent / den').log2 := by
    rw [Nat.log2_eq_log_two, Nat.log2_eq_log_two]
    exact Nat.log_mono_right quotients
  exact Nat.sub_le_sub_right logarithms 52

theorem ofFraction_bits_mono (denPos : 0 < den) (denPos' : 0 < den')
    (le : num * den' ≤ num' * den) :
    (ofFraction num den).bits.toNat ≤ (ofFraction num' den').bits.toNat := by
  have exponents := excess_mono denPos denPos' le
  have patterns : excess num den * 2 ^ 52 + roundedSignificand num den ≤
      excess num' den' * 2 ^ 52 + roundedSignificand num' den' := by
    rcases Nat.lt_or_eq_of_le exponents with less | same
    · have upper : roundedSignificand num den ≤ 2 ^ 53 := roundedSignificand_le denPos
      have lower := le_roundedSignificand denPos' (Nat.zero_lt_of_lt less)
      omega
    · have significands : roundedSignificand num den ≤ roundedSignificand num' den' := by
        unfold roundedSignificand
        rw [same]
        apply roundHalfEven_mono (Nat.mul_pos denPos (Nat.two_pow_pos _))
          (Nat.mul_pos denPos' (Nat.two_pow_pos _))
        calc num * 2 ^ unitExponent * (den' * 2 ^ excess num' den')
            = num * den' * (2 ^ unitExponent * 2 ^ excess num' den') := by ring
          _ ≤ num' * den * (2 ^ unitExponent * 2 ^ excess num' den') :=
              Nat.mul_le_mul_right _ le
          _ = num' * 2 ^ unitExponent * (den * 2 ^ excess num' den') := by ring
      omega
  rw [ofFraction_bits, ofFraction_bits]
  omega

/-- Rounding keeps the order of fractions. -/
theorem units_ofFraction_mono (denPos : 0 < den) (denPos' : 0 < den')
    (le : num * den' ≤ num' * den) :
    (ofFraction num den).units ≤ (ofFraction num' den').units :=
  units_mono (ofFraction_bits_lt num' den') (ofFraction_bits_mono denPos denPos' le)

end

theorem units_ofNat {value : Nat} (small : value < 2 ^ 53) :
    (ofNat value).units = value * 2 ^ unitExponent := by
  apply Nat.eq_of_mul_eq_mul_right (denominator_pos (ofNat value))
  rw [← numerator_mul_two_pow, numerator_ofNat small]
  ring

/-- An integer that a fraction reaches is reached by the rounded fraction. -/
theorem le_floorNat_ofFraction {whole num den : Nat} (denPos : 0 < den) (small : whole < 2 ^ 53)
    (reached : whole * den ≤ num) : whole ≤ (ofFraction num den).floorNat := by
  rw [floorNat_eq_units_div, Nat.le_div_iff_mul_le (Nat.two_pow_pos _), ← units_ofNat small]
  exact units_ofFraction_mono Nat.one_pos denPos (by rw [Nat.mul_one]; exact reached)

/-- Adding to an exact integer does not fall below it. -/
theorem le_floorNat_add {whole : Nat} (small : whole < 2 ^ 53) (other : Binary64) :
    whole ≤ (add (ofNat whole) other).floorNat := by
  apply le_floorNat_ofFraction _ small
  · rw [numerator_ofNat small]
    calc whole * ((ofNat whole).denominator * other.denominator)
        = whole * (ofNat whole).denominator * other.denominator := by ring
      _ ≤ _ := Nat.le_add_right _ _
  · exact Nat.mul_pos (denominator_pos _) (denominator_pos _)

/-- The sum of exact integers is exact. -/
theorem add_ofNat {first second : Nat} (small : first + second < 2 ^ 53) :
    add (ofNat first) (ofNat second) = ofNat (first + second) := by
  have firstExact : (ofNat first).numerator = first * (ofNat first).denominator :=
    numerator_ofNat (by omega)
  have secondExact : (ofNat second).numerator = second * (ofNat second).denominator :=
    numerator_ofNat (by omega)
  have sum : (ofNat first).numerator * (ofNat second).denominator +
      (ofNat second).numerator * (ofNat first).denominator =
        (first + second) * ((ofNat first).denominator * (ofNat second).denominator) := by
    rw [firstExact, secondExact]
    ring
  rw [add, sum]
  conv_lhs => rw [← Nat.one_mul ((ofNat first).denominator * (ofNat second).denominator),
    ← Nat.mul_assoc, Nat.mul_one]
  exact ofFraction_scale (Nat.mul_pos (denominator_pos _) (denominator_pos _)) _ _

/-- A quotient of integers that is at most one is so after rounding. -/
theorem units_div_ofNat_le {num den : Nat} (denPos : 0 < den) (le : num ≤ den)
    (small : den < 2 ^ 53) : (div (ofNat num) (ofNat den)).units ≤ 2 ^ unitExponent := by
  have one : (ofNat 1).units = 2 ^ unitExponent := by rw [units_ofNat (by decide), Nat.one_mul]
  rw [← one]
  apply units_ofFraction_mono _ Nat.one_pos
  · rw [numerator_ofNat (by omega), numerator_ofNat small]
    calc num * (ofNat num).denominator * (ofNat den).denominator * 1
        ≤ den * (ofNat num).denominator * (ofNat den).denominator * 1 :=
          Nat.mul_le_mul_right _ (Nat.mul_le_mul_right _ (Nat.mul_le_mul_right _ le))
      _ = 1 * ((ofNat num).denominator * (den * (ofNat den).denominator)) := by ring
  · rw [numerator_ofNat small]
    exact Nat.mul_pos (denominator_pos _) (Nat.mul_pos denPos (denominator_pos _))

/-- Adding at most one to an exact integer does not exceed the next one. -/
theorem floorNat_add_le {whole : Nat} (small : whole + 1 < 2 ^ 53) {other : Binary64}
    (atMostOne : other.units ≤ 2 ^ unitExponent) :
    (add (ofNat whole) other).floorNat ≤ whole + 1 := by
  have fraction : other.numerator ≤ other.denominator := by
    apply Nat.le_of_mul_le_mul_right _ (Nat.two_pow_pos unitExponent)
    rw [numerator_mul_two_pow, Nat.mul_comm other.denominator]
    exact Nat.mul_le_mul_right _ atMostOne
  have next : (ofNat (whole + 1)).floorNat = whole + 1 := by
    rw [floorNat, numerator_ofNat small, Nat.mul_div_cancel _ (denominator_pos _)]
  rw [← next, floorNat_eq_units_div, floorNat_eq_units_div]
  apply Nat.div_le_div_right
  apply units_ofFraction_mono _ Nat.one_pos
  · rw [numerator_ofNat (by omega)]
    calc (whole * (ofNat whole).denominator * other.denominator +
          other.numerator * (ofNat whole).denominator) * 1
        ≤ (whole * (ofNat whole).denominator * other.denominator +
          other.denominator * (ofNat whole).denominator) * 1 :=
          Nat.mul_le_mul_right _ (Nat.add_le_add_left (Nat.mul_le_mul_right _ fraction) _)
      _ = (whole + 1) * ((ofNat whole).denominator * other.denominator) := by ring
  · exact Nat.mul_pos (denominator_pos _) (denominator_pos _)

end Binary64
