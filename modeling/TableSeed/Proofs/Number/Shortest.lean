import Mathlib
import TableSeed.Number.Decimal

/-!
# The shortest decimal of a double is not zero

The decimal of a double that is not zero begins with a digit other than zero. Where a decimal is
found in the rounding interval this is so because the interval lies above zero. A decimal that ends
the search without lying in it comes from the exact value, whose power of ten is estimated from its
powers of two; the estimate is never too high by as much as one.
-/

namespace TableSeed

/-- The coefficient keeps a digit other than zero. -/
theorem Decimal.trimAux_coefficient_ne_zero (fuel : Nat) {c : Nat} (nonzero : c ≠ 0) (s : Int) :
    (trimAux fuel c s).coefficient ≠ 0 := by
  induction fuel generalizing c s with
  | zero => exact nonzero
  | succ fuel ih =>
    unfold trimAux
    split_ifs with ends
    · refine ih ?_ _
      simp only [bne_iff_ne, beq_iff_eq, Bool.and_eq_true] at ends
      omega
    · exact nonzero

namespace Binary64

variable {num den : Nat} {p : Int}

/-- `10^p ≤ num / den`, as the search for the decimal exponent has it. -/
def Reaches (num den : Nat) (p : Int) : Prop :=
  if p ≥ 0 then den * Nat.pow 10 p.toNat ≤ num else den ≤ num * Nat.pow 10 (-p).toNat

/-- The search for the decimal exponent compares a power of ten with the quotient. -/
theorem reaches_iff : Reaches num den p ↔ (den : ℚ) * 10 ^ p ≤ num := by
  unfold Reaches
  split_ifs with nonneg
  · lift p to ℕ using nonneg
    rw [Int.toNat_natCast, zpow_natCast]
    exact_mod_cast Iff.rfl
  · obtain ⟨n, rfl⟩ : ∃ n : ℕ, p = -n := ⟨(-p).toNat, by omega⟩
    rw [neg_neg, Int.toNat_natCast, zpow_neg, zpow_natCast, mul_inv_le_iff₀ (by positivity)]
    exact_mod_cast Iff.rfl

/-- What reaches a power of ten reaches the lower ones. -/
theorem Reaches.of_le {q : Int} (reaches : Reaches num den p) (le : q ≤ p) :
    Reaches num den q := by
  rw [reaches_iff] at *
  calc (den : ℚ) * 10 ^ q ≤ den * 10 ^ p := by gcongr; norm_num
    _ ≤ num := reaches

/-- What reaches a power of ten is at least one in units of it. -/
theorem onGrid_ne_zero (positive : den ≠ 0) (reaches : Reaches num den p) :
    (onGrid num den p).1 ≠ 0 := by
  unfold Reaches at reaches
  unfold onGrid
  split_ifs at * with nonneg
  · refine (Nat.div_pos reaches (Nat.mul_pos (by omega) ?_)).ne'
    exact Nat.pow_pos (by omega)
  · exact (Nat.div_pos reaches (by omega)).ne'

/-- The binary estimate of a decimal exponent is too high by less than one, for exponents as large
as those of doubles: fifty-nine decades are a little less than 196 binades, and ninety-three binades
a little less than twenty-eight decades. -/
theorem ten_pow_le_five_mul_two_pow {guess l : Int} (estimate : 100000 * guess ≤ 30103 * l)
    (low : -1500 ≤ l) (high : l ≤ 1500) : (10 : ℚ) ^ guess ≤ 5 * 2 ^ l := by
  obtain nonneg | negative := le_or_gt 0 guess
  · have decades : ∀ b < 59, 10 ^ b ≤ 5 * 2 ^ (b * 100000 / 30103) := by decide +kernel
    obtain ⟨a, b, split, bound⟩ : ∃ a b : ℕ, guess = (59 * a + b : ℕ) ∧ b < 59 :=
      ⟨guess.toNat / 59, guess.toNat % 59, by omega, by omega⟩
    have rest : (10 : ℚ) ^ b ≤ 5 * 2 ^ (b * 100000 / 30103) := by exact_mod_cast decades b bound
    rw [split, zpow_natCast]
    calc (10 : ℚ) ^ (59 * a + b) = (10 ^ 59) ^ a * 10 ^ b := by rw [pow_add, pow_mul]
      _ ≤ (2 ^ 196) ^ a * (5 * 2 ^ (b * 100000 / 30103)) := by gcongr; norm_num
      _ = 5 * 2 ^ ((196 * a + b * 100000 / 30103 : ℕ) : ℤ) := by
          rw [zpow_natCast, pow_add, pow_mul]
          ring
      _ ≤ 5 * 2 ^ l := by
          gcongr
          · norm_num
          · omega
  · obtain nonneg | below := le_or_gt 0 l
    · calc (10 : ℚ) ^ guess ≤ 1 := zpow_le_one_of_nonpos₀ (by norm_num) negative.le
        _ ≤ 2 ^ l := one_le_zpow₀ (by norm_num) nonneg
        _ ≤ 5 * 2 ^ l := le_mul_of_one_le_left (by positivity) (by norm_num)
    · have binades : ∀ b < 93, 2 ^ b ≤ 5 * 10 ^ ((30103 * b + 93263) / 100000) := by
        decide +kernel
      obtain ⟨n, rfl⟩ : ∃ n : ℕ, guess = -n := ⟨(-guess).toNat, by omega⟩
      obtain ⟨a, b, rfl, bound⟩ : ∃ a b : ℕ, l = -(93 * a + b : ℕ) ∧ b < 93 :=
        ⟨(-l).toNat / 93, (-l).toNat % 93, by omega, by omega⟩
      have rest : (2 : ℚ) ^ b ≤ 5 * 10 ^ ((30103 * b + 93263) / 100000) := by
        exact_mod_cast binades b bound
      have powers : (2 : ℚ) ^ (93 * a + b) ≤ 5 * 10 ^ n := by
        calc (2 : ℚ) ^ (93 * a + b) = (2 ^ 93) ^ a * 2 ^ b := by rw [pow_add, pow_mul]
          _ ≤ (10 ^ 28) ^ a * (5 * 10 ^ ((30103 * b + 93263) / 100000)) := by gcongr; norm_num
          _ = 5 * 10 ^ (28 * a + (30103 * b + 93263) / 100000) := by
              rw [pow_add, pow_mul]
              ring
          _ ≤ 5 * 10 ^ n := by
              gcongr
              · norm_num
              · omega
      rw [zpow_neg, zpow_neg, zpow_natCast, zpow_natCast, ← div_eq_mul_inv, inv_eq_one_div,
        div_le_div_iff₀ (by positivity) (by positivity), one_mul]
      exact powers

/-- What the search for the decimal exponent tries. -/
theorem tried_iff (num den : Nat) (p : Int) :
    (if p ≥ 0 then decide (den * Nat.pow 10 p.toNat ≤ num)
      else decide (den ≤ num * Nat.pow 10 (-p).toNat)) = true ↔ Reaches num den p := by
  unfold Reaches
  split_ifs with nonneg
  · exact decide_eq_true_iff
  · exact decide_eq_true_iff

/-- The decimal exponent is not too high. The guess is one of three, and the last needs no trial. -/
theorem reaches_decimalExponent (numerator : num ≠ 0) (near : |(num.log2 : Int) - den.log2| ≤ 1500) :
    Reaches num den (decimalExponent num den) := by
  obtain ⟨low, high⟩ := abs_le.mp near
  have above : (2 : ℚ) ^ num.log2 ≤ num := by exact_mod_cast Nat.log2_self_le numerator
  have below : (den : ℚ) ≤ 2 ^ (den.log2 + 1) := by exact_mod_cast Nat.lt_log2_self.le
  unfold decimalExponent
  dsimp only
  rw [Int.fdiv_eq_ediv_of_nonneg _ (by norm_num)]
  generalize guessed : (((num.log2 : Int) - den.log2) * 30103) / 100000 = guess
  by_cases first : Reaches num den (guess + 1)
  · rw [if_pos ((tried_iff num den _).mpr first)]
    exact first
  rw [if_neg ((tried_iff num den _).not.mpr first)]
  by_cases second : Reaches num den guess
  · rw [if_pos ((tried_iff num den _).mpr second)]
    exact second
  · rw [if_neg ((tried_iff num den _).not.mpr second)]
    have estimate : (10 : ℚ) ^ guess ≤ 5 * 2 ^ ((num.log2 : Int) - den.log2) :=
      ten_pow_le_five_mul_two_pow (by omega) low high
    rw [reaches_iff]
    calc (den : ℚ) * 10 ^ (guess - 1)
        = den * (10 ^ guess / 10) := by rw [zpow_sub_one₀ (by norm_num)]; rfl
      _ ≤ 2 ^ (den.log2 + 1) * (5 * 2 ^ ((num.log2 : Int) - den.log2) / 10) := by gcongr
      _ = 2 ^ den.log2 * 2 ^ ((num.log2 : Int) - den.log2) := by
          rw [pow_succ]
          ring
      _ = 2 ^ num.log2 := by
          rw [← zpow_natCast, ← zpow_natCast, ← zpow_add₀ (by norm_num)]
          congr 1
          ring
      _ ≤ num := above

/-- Zero is not in an interval above it. -/
theorem RoundingInterval.not_contains_zero {i : RoundingInterval} (low : 0 < i.low) (scale : Int) :
    i.contains 0 scale = false := by
  have scaled : 0 < i.low * Nat.pow 10 (-scale).toNat :=
    Nat.mul_pos low (Nat.pow_pos (by omega))
  unfold contains
  split_ifs <;> simp only [zero_mul, Bool.and_eq_false_iff, decide_eq_false_iff_not] <;> omega

/-- No search in an interval above zero comes to zero. -/
theorem shortestFrom_coefficient_ne_zero {i : RoundingInterval} {leading : Int} (low : 0 < i.low)
    (positive : i.den ≠ 0) (reaches : Reaches i.value i.den (leading - 17)) {fuel digits : Nat}
    (spent : fuel + digits = 18) : (shortestFrom i leading fuel digits).coefficient ≠ 0 := by
  induction fuel generalizing digits with
  | zero =>
    obtain rfl : digits = 18 := by omega
    have scale : leading - (18 : Nat) + 1 = leading - 17 := by push_cast; ring
    rw [shortestFrom, scale]
    exact onGrid_ne_zero positive reaches
  | succ fuel ih =>
    unfold shortestFrom
    dsimp only
    split_ifs with lower upper
    · intro zero
      replace zero : (onGrid i.value i.den (leading - digits + 1)).1 = 0 := zero
      simp [zero, RoundingInterval.not_contains_zero low] at lower
    · exact Nat.succ_ne_zero _
    · exact ih (by omega)

/-- The field of the exponent has eleven bits. -/
theorem exponentField_le (x : Binary64) : x.exponentField ≤ 0x7ff := by
  rw [exponentField, UInt64.toNat_and]
  exact Nat.and_le_right

/-- The field of the fraction has 52 bits. -/
theorem fractionField_lt (x : Binary64) : x.fractionField < 2 ^ 52 := by
  have le : x.fractionField ≤ 0xfffffffffffff := by
    rw [fractionField, UInt64.toNat_and]
    exact Nat.and_le_right
  omega

/-- The significand of a double other than zero is positive. -/
theorem significand_pos {x : Binary64} (nonzero : x.isZero = false) : 0 < x.significand := by
  unfold isZero at nonzero
  unfold significand
  split_ifs with subnormal
  · simp only [subnormal, Bool.true_and, beq_eq_false_iff_ne] at nonzero
    omega
  · omega

/-- The significand has 53 bits at most. -/
theorem significand_lt (x : Binary64) : x.significand < 2 ^ 53 := by
  have fraction := x.fractionField_lt
  unfold significand
  split_ifs <;> omega

/-- The exponent is that of a finite double or one more. -/
theorem exponent_mem (x : Binary64) : -1074 ≤ x.exponent ∧ x.exponent ≤ 972 := by
  have field := x.exponentField_le
  unfold exponent
  split_ifs with subnormal
  · omega
  · simp only [beq_iff_eq] at subnormal
    omega

/-- The rounding interval of a double other than zero lies above zero. -/
theorem roundingInterval_low_pos {x : Binary64} (nonzero : x.isZero = false) :
    0 < x.roundingInterval.low := by
  have positive := significand_pos nonzero
  unfold roundingInterval
  refine Nat.mul_pos ?_ ?_
  · split_ifs <;> omega
  · split_ifs
    · exact Nat.pow_pos (by omega)
    · exact Nat.one_pos

/-- The value as a natural number of units, which are a power of two. -/
theorem roundingInterval_eq (x : Binary64) :
    x.roundingInterval.value = 4 * x.significand * 2 ^ (x.exponent - 2).toNat ∧
      x.roundingInterval.den = 2 ^ (2 - x.exponent).toNat := by
  unfold roundingInterval
  dsimp only
  split_ifs with nonneg
  · have none : (2 - x.exponent).toNat = 0 := by omega
    simp [none]
  · have none : (x.exponent - 2).toNat = 0 := by omega
    simp [none]

/-- The decimal exponent of a double other than zero is not too high. -/
theorem reaches_roundingInterval {x : Binary64} (nonzero : x.isZero = false) :
    Reaches x.roundingInterval.value x.roundingInterval.den
      (decimalExponent x.roundingInterval.value x.roundingInterval.den) := by
  have positive := significand_pos nonzero
  have small := x.significand_lt
  obtain ⟨lowest, highest⟩ := x.exponent_mem
  obtain ⟨value, den⟩ := x.roundingInterval_eq
  rw [value, den]
  generalize up : (x.exponent - 2).toNat = a
  generalize down : (2 - x.exponent).toNat = b
  have unit : 0 < 2 ^ a := Nat.pow_pos (by omega)
  have numerator : 4 * x.significand * 2 ^ a ≠ 0 := by positivity
  have above : a ≤ (4 * x.significand * 2 ^ a).log2 :=
    (Nat.le_log2 numerator).mpr (Nat.le_mul_of_pos_left _ (by omega))
  have below : (4 * x.significand * 2 ^ a).log2 < 55 + a := by
    rw [Nat.log2_lt numerator, pow_add]
    exact Nat.mul_lt_mul_of_pos_right (by omega) unit
  refine reaches_decimalExponent numerator (abs_le.mpr ?_)
  rw [Nat.log2_two_pow]
  omega

/-- The decimal of a double other than zero is not zero. -/
theorem shortest_coefficient_ne_zero {x : Binary64} (nonzero : x.isZero = false) :
    x.shortest.coefficient ≠ 0 := by
  have positive : x.roundingInterval.den ≠ 0 := by
    rw [x.roundingInterval_eq.2]
    exact (Nat.pow_pos (by omega)).ne'
  rw [shortest, nonzero, if_neg Bool.false_ne_true]
  refine Decimal.trimAux_coefficient_ne_zero _ ?_ _
  have reaches := (reaches_roundingInterval nonzero).of_le (sub_le_self _ (by norm_num : (0 : Int) ≤ 17))
  exact shortestFrom_coefficient_ne_zero (roundingInterval_low_pos nonzero) positive reaches rfl

end Binary64

end TableSeed
