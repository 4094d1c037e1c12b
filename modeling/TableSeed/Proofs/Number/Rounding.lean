import TableSeed.Proofs.Number.Shortest

/-!
# The shortest decimal of a double is its own

The decimal of a double other than zero lies among the reals that round to the double: seventeen
digits are always enough for that. No real rounds to two doubles, so doubles of one sign that have
the same decimal are the same.
-/

namespace TableSeed

namespace Decimal

/-- The number that a decimal is. -/
def value (d : Decimal) : ℚ := d.coefficient * 10 ^ d.scale

/-- Trailing zeros make no difference to the number. -/
theorem value_trimAux (fuel c : Nat) (s : Int) : (trimAux fuel c s).value = c * 10 ^ s := by
  induction fuel generalizing c s with
  | zero => rfl
  | succ fuel ih =>
    unfold trimAux
    split_ifs with ends
    · simp only [bne_iff_ne, beq_iff_eq, Bool.and_eq_true] at ends
      have split : c / 10 * 10 = c := by omega
      calc (trimAux fuel (c / 10) (s + 1)).value = (c / 10 : ℕ) * 10 ^ (s + 1) := ih _ _
        _ = (c / 10 * 10 : ℕ) * 10 ^ s := by
            rw [zpow_add_one₀ (by norm_num)]
            push_cast
            ring
        _ = c * 10 ^ s := by rw [split]
    · rfl

end Decimal

namespace Binary64

/-! ## The grid and the interval in rationals -/

section Grid

variable {num den : Nat} {p : Int}

/-- The ratio lies between the multiple below it and the next one. -/
theorem onGrid_spec (positive : 0 < den) :
    ((onGrid num den p).1 : ℚ) * 10 ^ p * den ≤ num ∧
      (num : ℚ) < ((onGrid num den p).1 + 1) * 10 ^ p * den := by
  unfold onGrid
  split_ifs with nonneg
  · lift p to ℕ using nonneg
    have unit : 0 < den * 10 ^ p := Nat.mul_pos positive (Nat.pow_pos (by omega))
    have below : num / (den * 10 ^ p) * (den * 10 ^ p) ≤ num := Nat.div_mul_le_self _ _
    have above : num < (num / (den * 10 ^ p) + 1) * (den * 10 ^ p) := by
      rw [mul_comm]
      exact Nat.lt_mul_div_succ num unit
    simp only [Int.toNat_natCast, zpow_natCast, Nat.pow_eq]
    constructor
    · calc ((num / (den * 10 ^ p) : ℕ) : ℚ) * 10 ^ p * den
          = (num / (den * 10 ^ p) * (den * 10 ^ p) : ℕ) := by push_cast; ring
        _ ≤ num := by exact_mod_cast below
    · calc (num : ℚ) < ((num / (den * 10 ^ p) + 1) * (den * 10 ^ p) : ℕ) := by exact_mod_cast above
        _ = ((num / (den * 10 ^ p) : ℕ) + 1) * 10 ^ p * den := by push_cast; ring
  · obtain ⟨n, rfl⟩ : ∃ n : ℕ, p = -n := ⟨(-p).toNat, by omega⟩
    have below : num * 10 ^ n / den * den ≤ num * 10 ^ n := Nat.div_mul_le_self _ _
    have above : num * 10 ^ n < (num * 10 ^ n / den + 1) * den := by
      rw [mul_comm _ den]
      exact Nat.lt_mul_div_succ _ positive
    have unit : (0 : ℚ) < 10 ^ n := by positivity
    simp only [neg_neg, Int.toNat_natCast, zpow_neg, zpow_natCast, Nat.pow_eq]
    rw [mul_right_comm, mul_right_comm _ _ (den : ℚ), mul_inv_le_iff₀ unit, lt_mul_inv_iff₀ unit]
    constructor
    · exact_mod_cast below
    · exact_mod_cast above

end Grid

/-- The natural numbers that are compared are the point and the ends of the interval, times one
factor. -/
theorem RoundingInterval.contains_eq (i : RoundingInterval) (d : Nat) (scale : Int) :
    ∃ factor : ℚ, 0 < factor ∧ ∃ point low high : ℕ,
      i.contains d scale = (if i.closed then decide (low ≤ point) && decide (point ≤ high)
        else decide (low < point) && decide (point < high)) ∧
      (point : ℚ) = d * 10 ^ scale * i.den * factor ∧ (low : ℚ) = i.low * factor ∧
      (high : ℚ) = i.high * factor := by
  by_cases nonneg : scale ≥ 0
  · obtain ⟨n, rfl⟩ : ∃ n : ℕ, scale = n := ⟨scale.toNat, by omega⟩
    refine ⟨1, one_pos, d * 10 ^ n * i.den, i.low, i.high, ?_, by simp, by simp, by simp⟩
    rw [contains, if_pos nonneg]
    rfl
  · obtain ⟨n, rfl⟩ : ∃ n : ℕ, scale = -n := ⟨(-scale).toNat, by omega⟩
    have unit : (0 : ℚ) < 10 ^ n := by positivity
    refine ⟨10 ^ n, unit, d * i.den, i.low * 10 ^ n, i.high * 10 ^ n, ?_, ?_, by simp, by simp⟩
    · rw [contains, if_neg nonneg, neg_neg]
      rfl
    · rw [zpow_neg, zpow_natCast, mul_right_comm, inv_mul_cancel_right₀ unit.ne']
      push_cast
      rfl

/-- Whether a decimal lies in the interval, as a comparison of rationals. -/
theorem RoundingInterval.contains_iff (i : RoundingInterval) (d : Nat) (scale : Int) :
    i.contains d scale = true ↔
      (i.low : ℚ) ≤ d * 10 ^ scale * i.den ∧ (d : ℚ) * 10 ^ scale * i.den ≤ i.high ∧
        (i.closed = false → (i.low : ℚ) < d * 10 ^ scale * i.den ∧
          (d : ℚ) * 10 ^ scale * i.den < i.high) := by
  obtain ⟨factor, positive, point, low, high, compared, point', low', high'⟩ :=
    i.contains_eq d scale
  have above : (i.low : ℚ) ≤ d * 10 ^ scale * i.den ↔ low ≤ point := by
    rw [← mul_le_mul_iff_left₀ positive, ← low', ← point', Nat.cast_le]
  have below : (d : ℚ) * 10 ^ scale * i.den ≤ i.high ↔ point ≤ high := by
    rw [← mul_le_mul_iff_left₀ positive, ← high', ← point', Nat.cast_le]
  have above' : (i.low : ℚ) < d * 10 ^ scale * i.den ↔ low < point := by
    rw [← mul_lt_mul_iff_left₀ positive, ← low', ← point', Nat.cast_lt]
  have below' : (d : ℚ) * 10 ^ scale * i.den < i.high ↔ point < high := by
    rw [← mul_lt_mul_iff_left₀ positive, ← high', ← point', Nat.cast_lt]
  rw [compared, above, below, above', below']
  cases i.closed with
  | true => simp
  | false =>
    simp only [Bool.false_eq_true, if_false, Bool.and_eq_true, decide_eq_true_eq, forall_const]
    omega

/-! ## The reals that round to a double -/

/-- A quarter of the last place. -/
def quarter (x : Binary64) : ℚ := 2 ^ (x.exponent - 2)

/-- How many quarters below a double its interval begins: at a power of two the doubles below are
twice as dense. -/
def gap (x : Binary64) : Nat := if x.significand = 2 ^ 52 ∧ -1074 < x.exponent then 1 else 2

/-- The number rounds to the magnitude of the double: it is at most half a place away, and less if
the significand is odd. -/
structure Rounds (x : Binary64) (q : ℚ) : Prop where
  low : (4 * x.significand - x.gap) * x.quarter ≤ q
  high : q ≤ (4 * x.significand + 2) * x.quarter
  strict : x.significand % 2 = 1 →
    (4 * x.significand - x.gap) * x.quarter < q ∧ q < (4 * x.significand + 2) * x.quarter

variable {x y : Binary64} {q : ℚ}

/-- A quarter of the last place is positive. -/
theorem quarter_pos (x : Binary64) : 0 < x.quarter := zpow_pos (by norm_num) _

/-- The interval of a double other than zero, measured in quarters of the last place. -/
theorem roundingInterval_scaled (nonzero : x.isZero = false) :
    0 < x.roundingInterval.den ∧
      (x.roundingInterval.low : ℚ) =
        (4 * x.significand - x.gap) * x.quarter * x.roundingInterval.den ∧
      (x.roundingInterval.value : ℚ) = 4 * x.significand * x.quarter * x.roundingInterval.den ∧
      (x.roundingInterval.high : ℚ) =
        (4 * x.significand + 2) * x.quarter * x.roundingInterval.den ∧
      x.roundingInterval.closed = (x.significand % 2 == 0) := by
  have positive := significand_pos nonzero
  have gap_eq : (if x.significand == 0x10000000000000 && x.exponent > -1074 then 1 else 2) =
      x.gap := by
    unfold gap
    congr 1
    simp
  have gap_le : x.gap ≤ 4 * x.significand := by
    unfold gap
    split_ifs <;> omega
  unfold roundingInterval quarter
  simp only [gap_eq]
  generalize x.exponent - 2 = p
  split_ifs with nonneg
  · lift p to ℕ using nonneg
    refine ⟨one_pos, ?_, ?_, ?_, trivial⟩
    · push_cast [Nat.cast_sub gap_le]
      simp
    · simp
    · simp
  · obtain ⟨n, rfl⟩ : ∃ n : ℕ, p = -n := ⟨(-p).toNat, by omega⟩
    have unit : (2 : ℚ) ^ (-n : ℤ) * ((2 : ℕ) ^ n : ℕ) = 1 := by
      rw [zpow_neg, zpow_natCast]
      push_cast
      exact inv_mul_cancel₀ (by positivity)
    simp only [neg_neg, Int.toNat_natCast, Nat.pow_eq, mul_one]
    refine ⟨Nat.pow_pos (by omega), ?_, ?_, ?_, trivial⟩
    · rw [mul_assoc, unit]
      push_cast [Nat.cast_sub gap_le]
      ring
    · rw [mul_assoc, unit]
      push_cast
      ring
    · rw [mul_assoc, unit]
      push_cast
      ring

/-- A decimal lies in the interval of a double other than zero exactly if it rounds to it. -/
theorem contains_iff_rounds (nonzero : x.isZero = false) (d : Nat) (scale : Int) :
    x.roundingInterval.contains d scale = true ↔ x.Rounds (d * 10 ^ scale) := by
  obtain ⟨den, low, -, high, closed⟩ := roundingInterval_scaled nonzero
  have positive : (0 : ℚ) < x.roundingInterval.den := by exact_mod_cast den
  have odd : x.roundingInterval.closed = false ↔ x.significand % 2 = 1 := by
    rw [closed, beq_eq_false_iff_ne]
    omega
  rw [RoundingInterval.contains_iff, low, high, odd, mul_le_mul_iff_left₀ positive,
    mul_le_mul_iff_left₀ positive, mul_lt_mul_iff_left₀ positive, mul_lt_mul_iff_left₀ positive]
  exact ⟨fun ⟨low, high, strict⟩ => ⟨low, high, strict⟩, fun r => ⟨r.low, r.high, r.strict⟩⟩

/-! ## Seventeen digits are enough -/

/-- On a grid as fine as `10^-16` of the value one of the two neighbours rounds to it, since the
grid is finer than the interval is wide. -/
theorem rounds_neighbour {unit : ℚ} (fine : unit * 10 ^ 16 ≤ 4 * x.significand * x.quarter)
    {below : ℕ} (le : below * unit ≤ 4 * x.significand * x.quarter)
    (lt : 4 * x.significand * x.quarter < (below + 1) * unit) :
    x.Rounds (below * unit) ∨ x.Rounds ((below + 1) * unit) := by
  have positive := x.quarter_pos
  have small : (x.significand : ℚ) < 2 ^ 53 := by exact_mod_cast x.significand_lt
  have narrow : unit < (x.gap + 2) * x.quarter := by
    unfold gap
    split_ifs with power
    · have exact' : (x.significand : ℚ) = 2 ^ 52 := by exact_mod_cast power.1
      rw [exact'] at fine
      push_cast
      linarith
    · push_cast
      nlinarith
  obtain near | far := lt_or_ge (4 * x.significand * x.quarter - below * unit) (x.gap * x.quarter)
  · left
    have low : (4 * x.significand - x.gap) * x.quarter < below * unit := by linarith
    have high : below * unit < (4 * x.significand + 2) * x.quarter := by linarith
    exact ⟨low.le, high.le, fun _ => ⟨low, high⟩⟩
  · right
    have gap : 0 ≤ (x.gap : ℚ) * x.quarter := by positivity
    have low : (4 * x.significand - x.gap) * x.quarter < (below + 1) * unit := by linarith
    have high : (below + 1) * unit < (4 * x.significand + 2) * x.quarter := by linarith
    exact ⟨low.le, high.le, fun _ => ⟨low, high⟩⟩

/-- A search that finds something with seventeen digits finds what lies in the interval: with so
many digits one of the two neighbours is inside. -/
theorem contains_shortestFrom {i : RoundingInterval} {leading : Int}
    (enough : i.contains (onGrid i.value i.den (leading - 16)).1 (leading - 16) = true ∨
      i.contains ((onGrid i.value i.den (leading - 16)).1 + 1) (leading - 16) = true)
    {fuel digits : Nat} (spent : fuel + digits = 18) (few : digits ≤ 17) :
    i.contains (shortestFrom i leading fuel digits).coefficient
      (shortestFrom i leading fuel digits).scale = true := by
  induction fuel generalizing digits with
  | zero => omega
  | succ fuel ih =>
    unfold shortestFrom
    dsimp only
    split_ifs with lower upper
    · exact (Bool.and_eq_true _ _ ▸ lower).1
    · exact upper
    · have neither : i.contains (onGrid i.value i.den (leading - digits + 1)).1
          (leading - digits + 1) = false := by
        rw [Bool.eq_false_iff]
        intro below
        exact lower (by simp [below, Bool.eq_false_iff.mpr upper])
      have more : digits ≠ 17 := by
        rintro rfl
        have scale : leading - ((17 : ℕ) : ℤ) + 1 = leading - 16 := by push_cast; ring
        rw [scale] at neither upper
        rw [neither] at enough
        exact enough.elim Bool.false_ne_true upper
      exact ih (by omega) (by omega)

/-- The shortest decimal of a double other than zero rounds to it. -/
theorem rounds_shortest (nonzero : x.isZero = false) : x.Rounds x.shortest.value := by
  obtain ⟨den, low, value, high, closed⟩ := roundingInterval_scaled nonzero
  have positive : (0 : ℚ) < x.roundingInterval.den := by exact_mod_cast den
  have reaches := reaches_iff.mp (reaches_roundingInterval nonzero)
  rw [shortest, nonzero, if_neg Bool.false_ne_true]
  dsimp only
  rw [Decimal.trim, Decimal.value_trimAux]
  generalize decimalExponent x.roundingInterval.value x.roundingInterval.den = leading at reaches ⊢
  set coarse := onGrid x.roundingInterval.value x.roundingInterval.den (leading - 16)
  have le : (coarse.1 : ℚ) * 10 ^ (leading - 16) * x.roundingInterval.den ≤
      x.roundingInterval.value := (onGrid_spec den).1
  have lt : (x.roundingInterval.value : ℚ) <
      (coarse.1 + 1) * 10 ^ (leading - 16) * x.roundingInterval.den := (onGrid_spec den).2
  rw [value, mul_le_mul_iff_left₀ positive] at le
  rw [value, mul_lt_mul_iff_left₀ positive] at lt
  rw [value, mul_comm, mul_le_mul_iff_left₀ positive] at reaches
  have fine : (10 : ℚ) ^ (leading - 16) * 10 ^ 16 ≤ 4 * x.significand * x.quarter := by
    calc (10 : ℚ) ^ (leading - 16) * 10 ^ 16 = 10 ^ leading := by
          rw [← zpow_natCast, ← zpow_add₀ (by norm_num)]
          congr 1
          push_cast
          ring
      _ ≤ 4 * x.significand * x.quarter := reaches
  have enough := rounds_neighbour fine le lt
  rw [← contains_iff_rounds nonzero, ← Nat.cast_succ, ← contains_iff_rounds nonzero] at enough
  have spent : 17 + 1 = 18 := rfl
  exact (contains_iff_rounds nonzero _ _).mp (contains_shortestFrom enough spent (by norm_num))

/-! ## No real rounds to two doubles -/

/-- A double above the smallest exponent has all its places. -/
theorem le_significand (large : -1074 < x.exponent) : 2 ^ 52 ≤ x.significand := by
  unfold exponent at large
  unfold significand
  split_ifs at large ⊢ with field
  · omega
  · omega

/-- What rounds to a double does not round to one of a larger exponent. The interval of the larger
one begins where that of the largest smaller one ends, and the significand of that is odd, so its
interval is open. -/
theorem not_rounds_of_exponent_lt (lt : x.exponent < y.exponent) (first : x.Rounds q)
    (second : y.Rounds q) : False := by
  have positive := x.quarter_pos
  have lowest := x.exponent_mem.1
  have large : 2 ^ 52 ≤ y.significand := le_significand (by omega)
  have small := x.significand_lt
  have double : 2 * x.quarter ≤ y.quarter := by
    calc 2 * x.quarter = 2 ^ (x.exponent - 1) := by
          rw [quarter, ← zpow_one_add₀ (by norm_num)]
          congr 1
          ring
      _ ≤ y.quarter := zpow_le_zpow_right₀ (by norm_num) (by omega)
  have begins : (2 ^ 54 - 1) * y.quarter ≤ (4 * y.significand - y.gap) * y.quarter := by
    refine mul_le_mul_of_nonneg_right ?_ y.quarter_pos.le
    unfold gap
    split_ifs with power
    · have least : (2 ^ 52 : ℚ) ≤ y.significand := by exact_mod_cast large
      push_cast
      linarith
    · have more : 2 ^ 52 + 1 ≤ y.significand := by omega
      have least : (2 ^ 52 + 1 : ℚ) ≤ y.significand := by exact_mod_cast more
      push_cast
      linarith
  have above : (2 ^ 55 - 2) * x.quarter ≤ q := by linarith [second.low]
  obtain last | before := Nat.lt_or_ge x.significand (2 ^ 53 - 1)
  · have most : (x.significand : ℚ) ≤ 2 ^ 53 - 2 := by
      have := Nat.le_sub_one_of_lt last
      exact_mod_cast (show (x.significand : ℤ) ≤ 2 ^ 53 - 2 by omega)
    have below : (4 * x.significand + 2) * x.quarter ≤ (2 ^ 55 - 6) * x.quarter := by
      refine mul_le_mul_of_nonneg_right ?_ positive.le
      linarith
    linarith [first.high]
  · have odd : x.significand % 2 = 1 := by omega
    have exact' : (x.significand : ℚ) = 2 ^ 53 - 1 := by
      exact_mod_cast (show (x.significand : ℤ) = 2 ^ 53 - 1 by omega)
    have below := (first.strict odd).2
    rw [exact'] at below
    linarith

/-- What rounds to a double does not round to one of the same exponent and a larger significand: of
two neighbours one is odd, and its interval is open. -/
theorem not_rounds_of_significand_lt (same : x.exponent = y.exponent)
    (lt : x.significand < y.significand) (first : x.Rounds q) (second : y.Rounds q) : False := by
  have positive := x.quarter_pos
  have unit : y.quarter = x.quarter := by rw [quarter, quarter, same]
  have gap : y.gap = 2 := by
    unfold Binary64.gap
    refine if_neg fun power => ?_
    have large : 2 ^ 52 ≤ x.significand := le_significand (by omega)
    omega
  obtain ⟨low, -, strict⟩ := second
  rw [unit, gap] at low strict
  obtain next | later := Nat.lt_or_ge (x.significand + 1) y.significand
  · have more : (x.significand : ℚ) + 2 ≤ y.significand := by exact_mod_cast next
    have apart : (4 * x.significand + 2) * x.quarter < (4 * y.significand - 2) * x.quarter :=
      mul_lt_mul_of_pos_right (by linarith) positive
    push_cast at low
    linarith [first.high]
  · have next : (y.significand : ℚ) = x.significand + 1 := by
      exact_mod_cast (show y.significand = x.significand + 1 by omega)
    rw [next] at low strict
    push_cast at low strict
    obtain odd | odd : x.significand % 2 = 1 ∨ y.significand % 2 = 1 := by omega
    · linarith [(first.strict odd).2]
    · linarith [(strict odd).1, first.high]

/-- What rounds to two doubles rounds to one. -/
theorem eq_of_rounds (first : x.Rounds q) (second : y.Rounds q) :
    x.significand = y.significand ∧ x.exponent = y.exponent := by
  have exponents : x.exponent = y.exponent := by
    obtain lt | same | gt := lt_trichotomy x.exponent y.exponent
    · exact (not_rounds_of_exponent_lt lt first second).elim
    · exact same
    · exact (not_rounds_of_exponent_lt gt second first).elim
  refine ⟨?_, exponents⟩
  obtain lt | same | gt := lt_trichotomy x.significand y.significand
  · exact (not_rounds_of_significand_lt exponents lt first second).elim
  · exact same
  · exact (not_rounds_of_significand_lt exponents.symm gt second first).elim

/-! ## Doubles by their parts -/

/-- The sign is the uppermost bit. -/
theorem toNat_signBit (x : Binary64) : (x.bits >>> 63).toNat = x.bits.toNat / 2 ^ 63 := by
  rw [UInt64.toNat_shiftRight, Nat.shiftRight_eq_div_pow]
  rfl

/-- The bits of a double are its sign, its exponent field and its fraction. -/
theorem toNat_bits (x : Binary64) : x.bits.toNat =
    (x.bits >>> 63).toNat * 2 ^ 63 + x.exponentField * 2 ^ 52 + x.fractionField := by
  have bound := x.bits.toNat_lt
  have sign := x.toNat_signBit
  have field : x.exponentField = x.bits.toNat / 2 ^ 52 % 2 ^ 11 := by
    rw [exponentField, UInt64.toNat_and, UInt64.toNat_shiftRight, Nat.shiftRight_eq_div_pow]
    exact Nat.and_two_pow_sub_one_eq_mod _ 11
  have fraction : x.fractionField = x.bits.toNat % 2 ^ 52 := by
    rw [fractionField, UInt64.toNat_and]
    exact Nat.and_two_pow_sub_one_eq_mod _ 52
  omega

/-- The sign bit is zero or one. -/
theorem sign_eq (x : Binary64) : (x.bits >>> 63).toNat = if x.isNegative then 1 else 0 := by
  have bound := x.bits.toNat_lt
  have sign := x.toNat_signBit
  unfold isNegative
  split_ifs with negative
  · rw [eq_of_beq negative]
    rfl
  · have other : (x.bits >>> 63).toNat ≠ 1 := fun one =>
      negative (beq_iff_eq.mpr (UInt64.toNat_inj.mp one))
    omega

/-- Doubles with the same sign, exponent field and fraction are the same. -/
theorem eq_of_fields (sign : x.isNegative = y.isNegative)
    (field : x.exponentField = y.exponentField) (fraction : x.fractionField = y.fractionField) :
    x = y := by
  have bits : x.bits = y.bits := by
    rw [← UInt64.toNat_inj, x.toNat_bits, y.toNat_bits, x.sign_eq, y.sign_eq, sign, field,
      fraction]
  cases x
  cases y
  exact congrArg Binary64.mk bits

/-- Doubles with the same sign, significand and exponent are the same. -/
theorem eq_of_parts (sign : x.isNegative = y.isNegative)
    (significand' : x.significand = y.significand) (exponent' : x.exponent = y.exponent) : x = y := by
  have fx := x.fractionField_lt
  have fy := y.fractionField_lt
  unfold significand at significand'
  unfold exponent at exponent'
  simp only [beq_iff_eq] at significand' exponent'
  refine eq_of_fields sign ?_ ?_
  · split_ifs at significand' exponent' <;> omega
  · split_ifs at significand' exponent' <;> omega

/-- Doubles of one sign with the same decimal are the same. Zero has no rounding interval and is
told apart by its value. -/
theorem eq_of_shortest_value (sign : x.isNegative = y.isNegative)
    (same : x.shortest.value = y.shortest.value) : x = y := by
  have zero_iff : ∀ z : Binary64, z.shortest.value = 0 ↔ z.isZero = true := by
    intro z
    cases zero : z.isZero with
    | true => simp [shortest, zero, Decimal.value]
    | false =>
      have nonzero : (z.shortest.coefficient : ℚ) ≠ 0 := by
        exact_mod_cast shortest_coefficient_ne_zero zero
      have power : (10 : ℚ) ^ z.shortest.scale ≠ 0 := zpow_ne_zero _ (by norm_num)
      simp [Decimal.value, nonzero, power]
  have both : x.isZero = y.isZero := by
    rw [Bool.eq_iff_iff, ← zero_iff, ← zero_iff, same]
  cases zero : x.isZero with
  | true =>
    rw [zero] at both
    have fields : ∀ z : Binary64, z.isZero = true → z.exponentField = 0 ∧ z.fractionField = 0 := by
      intro z zero
      simpa [isZero] using zero
    obtain ⟨field, fraction⟩ := fields x zero
    obtain ⟨field', fraction'⟩ := fields y both.symm
    exact eq_of_fields sign (field.trans field'.symm) (fraction.trans fraction'.symm)
  | false =>
    rw [zero] at both
    have rounds := rounds_shortest zero
    rw [same] at rounds
    obtain ⟨significand', exponent'⟩ := eq_of_rounds rounds (rounds_shortest both.symm)
    exact eq_of_parts sign significand' exponent'

end Binary64

end TableSeed
