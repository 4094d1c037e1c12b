import Mathlib
import TableSeed.Proofs.Lua.Reach

/-!
# Borders of a table

The length of a table is one of its borders: zero or a position in use whose successor is not. It
is found in the array part by halving, or past it by doubling and then halving. A table whose keys
are a sequence has one border only.
-/

namespace TableSeed.Lua

/-- The last position: the largest integer. -/
def lastPosition : Nat := 0x7fffffffffffffff

namespace Table

/-- All positions of the array part, and the one behind it, are integers. -/
def Fits (t : Table) : Prop := t.array.size < lastPosition

/-- The value at a position. -/
def valueAt (t : Table) (m : Nat) : Value := t.getInt (Int64.ofNat m)

/-- A position is in use. -/
def Has (t : Table) (m : Nat) : Prop := (t.valueAt m).isNil = false

/-- Zero or a position in use whose successor is not. -/
structure IsBorder (t : Table) (b : Nat) : Prop where
  bounded : b ≤ lastPosition
  used : b = 0 ∨ t.Has b
  ends : b = lastPosition ∨ ¬t.Has (b + 1)

/-- The keys in use are exactly the positions `1 … n`. -/
structure IsSequence (t : Table) (n : Nat) : Prop where
  bounded : n ≤ lastPosition
  keys : ∀ k, (t.get k).isNil = false ↔ ∃ m, 1 ≤ m ∧ m ≤ n ∧ k = .integer (Int64.ofNat m)

section Positions

/-- Positions are different integers. -/
theorem ofNat_inj {m n : Nat} (mBound : m ≤ lastPosition) (nBound : n ≤ lastPosition)
    (same : Int64.ofNat m = Int64.ofNat n) : m = n := by
  have values := congrArg Int64.toInt same
  rw [Int64.toInt_ofNat_of_lt (by rw [lastPosition] at mBound; omega),
    Int64.toInt_ofNat_of_lt (by rw [lastPosition] at nBound; omega)] at values
  exact Int.ofNat.inj values

/-- A positive integer is a position. -/
theorem exists_position {n : Int64} (positive : 1 ≤ n) :
    ∃ m, 1 ≤ m ∧ m ≤ lastPosition ∧ n = Int64.ofNat m ∧ n.toUInt64.toNat = m := by
  have signed : (1 : Int) ≤ n.toInt := Int64.le_iff_toInt_le.mp positive
  have nonneg : 0 ≤ n := Int64.le_iff_toInt_le.mpr (by change (0 : Int) ≤ n.toInt; omega)
  refine ⟨n.toNatClampNeg, ?_, ?_, (Int64.ofNat_toNatClampNeg n nonneg).symm,
    Int64.toNat_toUInt64_of_le nonneg⟩
  · have := Int64.toNat_toInt n
    omega
  · exact Nat.lt_succ_iff.mp (Int64.toNatClampNeg_lt n)

/-- A position is a positive integer of 64 bits. -/
theorem one_le_ofNat {m : Nat} (positive : 1 ≤ m) (bound : m ≤ lastPosition) :
    1 ≤ Int64.ofNat m := by
  rw [Int64.le_iff_toInt_le, Int64.toInt_ofNat_of_lt (by rw [lastPosition] at bound; omega)]
  change (1 : Int) ≤ m
  omega

variable {t : Table}

/-- The integers that have a place in the array part are its positions. -/
theorem slot?_eq_some_iff (fits : t.Fits) (n : Int64) (i : Nat) :
    t.slot? n = some i ↔ i < t.array.size ∧ n = Int64.ofNat (i + 1) := by
  unfold Fits at fits
  unfold slot?
  by_cases positive : n ≥ 1
  · obtain ⟨m, low, high, rfl, value⟩ := exists_position positive
    rw [if_pos positive, value]
    dsimp only
    split_ifs with inside
    · refine Option.some_inj.trans ⟨?_, ?_⟩
      · rintro rfl
        exact ⟨by omega, by rw [Nat.sub_add_cancel low]⟩
      · rintro ⟨bound, same⟩
        have := ofNat_inj high (by omega) same
        omega
    · refine iff_of_false (by simp) ?_
      rintro ⟨bound, same⟩
      have := ofNat_inj high (by omega) same
      omega
  · rw [if_neg positive]
    refine iff_of_false (by simp) ?_
    rintro ⟨bound, rfl⟩
    exact positive (one_le_ofNat (by omega) (by omega))

/-- The value at a position of the array part. -/
theorem valueAt_of_le (fits : t.Fits) {m : Nat} (low : 1 ≤ m) (high : m ≤ t.array.size) :
    t.valueAt m = t.array.getD (m - 1) .nil := by
  have slot : t.slot? (Int64.ofNat m) = some (m - 1) :=
    (slot?_eq_some_iff fits _ _).mpr ⟨by omega, by rw [Nat.sub_add_cancel low]⟩
  rw [valueAt, getInt, slot]

/-- The value at the position behind the array part. -/
theorem valueAt_size_add_one (fits : t.Fits) :
    t.valueAt (t.array.size + 1) =
      t.hash.getD (.integer (Int64.ofNat (t.array.size + 1))) .nil := by
  have slot : t.slot? (Int64.ofNat (t.array.size + 1)) = none := by
    rw [Option.eq_none_iff_forall_ne_some]
    intro i found
    obtain ⟨bound, same⟩ := (slot?_eq_some_iff fits _ _).mp found
    unfold Fits at fits
    have := ofNat_inj (by omega) (by omega) same
    omega
  rw [valueAt, getInt, slot]

end Positions

section Halving

/-- Halves the gap between a position in use (or zero) and one that is not, up to `fuel` times. -/
def halve (absent : Nat → Bool) : Nat → Nat → Nat → Nat
  | 0, low, _ => low
  | fuel + 1, low, high =>
    if high - low ≤ 1 then low
    else
      let mid := (low + high) / 2
      if absent mid then halve absent fuel low mid else halve absent fuel mid high

/-- Halving a gap that is not too wide ends at a border. -/
theorem halve_spec (absent : Nat → Bool) (fuel : Nat) {low high : Nat} (gap : low < high)
    (narrow : high - low ≤ 2 ^ fuel) (used : low = 0 ∨ absent low = false)
    (ends : absent high = true) :
    let b := halve absent fuel low high
    b < high ∧ (b = 0 ∨ absent b = false) ∧ absent (b + 1) = true := by
  induction fuel generalizing low high with
  | zero =>
    obtain rfl : high = low + 1 := by omega
    exact ⟨gap, used, ends⟩
  | succ fuel ih =>
    rw [halve]
    split_ifs with small
    · obtain rfl : high = low + 1 := by omega
      exact ⟨gap, used, ends⟩
    · dsimp only
      have power : 2 ^ (fuel + 1) = 2 * 2 ^ fuel := Nat.pow_succ'
      split_ifs with middle
      · obtain ⟨below, found⟩ := ih (by omega) (by omega) used middle
        exact ⟨by omega, found⟩
      · exact ih (by omega) (by omega) (.inr (by simpa using middle)) ends

variable (t : Table)

/-- The search in the array part halves its positions. -/
theorem halveArray_eq (fuel low high : Nat) :
    t.halveArray fuel low high = halve (fun m => (t.array.getD (m - 1) .nil).isNil) fuel low high := by
  induction fuel generalizing low high with
  | zero => rfl
  | succ fuel ih => simp only [halveArray, halve, ih]

/-- The search among the keys halves the positions they stand for. -/
theorem halveKeys_eq (fuel low high : Nat) :
    t.halveKeys fuel low high = halve (fun m => (t.valueAt m).isNil) fuel low high := by
  induction fuel generalizing low high with
  | zero => rfl
  | succ fuel ih =>
    simp only [halveKeys, halve, ih]
    rfl

end Halving

section Searching

variable {t : Table}

/-- Halving between positions ends at a border. -/
theorem isBorder_halveKeys {low high : Nat} (gap : low < high) (bound : high ≤ lastPosition)
    (used : t.Has low) (ends : (t.valueAt high).isNil = true) :
    t.IsBorder (t.halveKeys 64 low high) := by
  rw [halveKeys_eq]
  obtain ⟨below, found, next⟩ := halve_spec (fun m => (t.valueAt m).isNil) 64 gap
    (by rw [lastPosition] at bound; omega) (.inr used) ends
  exact ⟨by omega, found, .inr fun has => by rw [Has, next] at has; cases has⟩

/-- Doubling a position in use ends at a border, if there are doublings enough. Past half of all
positions doubling stops, and the last position is looked at. -/
theorem isBorder_searchKeys {fuel low : Nat} (positive : 1 ≤ low) (bound : low ≤ lastPosition)
    (enough : lastPosition < low * 2 ^ fuel) (used : t.Has low) :
    t.IsBorder (t.searchKeys fuel low) := by
  induction fuel generalizing low with
  | zero => omega
  | succ fuel ih =>
    rw [searchKeys]
    have last : t.valueAt lastPosition = t.getInt Int64.maxValue := rfl
    split_ifs with far none none
    · have differs : low ≠ lastPosition := by
        rintro rfl
        rw [Has, last, none] at used
        cases used
      exact isBorder_halveKeys (Nat.lt_of_le_of_ne bound differs) (Nat.le_refl _) used (last ▸ none)
    · change t.IsBorder lastPosition
      refine ⟨Nat.le_refl _, .inr ?_, .inl rfl⟩
      rw [Has, last]
      exact Bool.eq_false_iff.mpr none
    · exact isBorder_halveKeys (by omega) (by rw [lastPosition]; omega) used none
    · refine ih (by omega) (by rw [lastPosition]; omega) ?_ (Bool.eq_false_iff.mpr none)
      rw [Nat.mul_comm 2 low, Nat.mul_assoc, ← Nat.pow_succ']
      exact enough

/-- The length of a table is a border. If the array part ends in nil, it is right before the end of
that or further down, and otherwise it is its end or lies among the other keys. -/
theorem isBorder_border (fits : t.Fits) : t.IsBorder t.border := by
  have bound : t.array.size < lastPosition := fits
  have within (m : Nat) (low : 1 ≤ m) (high : m ≤ t.array.size) := valueAt_of_le fits low high
  unfold border
  dsimp only
  split_ifs with empty before next
  · rw [Bool.and_eq_true, decide_eq_true_eq] at empty before
    have last := within t.array.size empty.1 (Nat.le_refl _)
    have previous := within (t.array.size - 1) (by omega) (by omega)
    refine ⟨by omega, .inr ?_, .inr ?_⟩
    · rw [Has, previous, Nat.sub_sub]
      simpa using before.2
    · rw [Nat.sub_add_cancel empty.1, Has, last, empty.2]
      simp
  · rw [Bool.and_eq_true, decide_eq_true_eq] at empty
    rw [halveArray_eq]
    obtain ⟨below, found, next⟩ := halve_spec
      (fun m => (t.array.getD (m - 1) .nil).isNil) 64 empty.1
      (by rw [lastPosition] at bound; omega) (.inl rfl) empty.2
    refine ⟨by omega, ?_, .inr ?_⟩
    · rcases Nat.eq_zero_or_pos (halve (fun m => (t.array.getD (m - 1) .nil).isNil) 64 0
        t.array.size) with zero | positive
      · exact .inl zero
      · refine .inr ?_
        rw [Has, within _ positive (by omega)]
        exact found.resolve_left (by omega)
    · rw [Has, within _ (by omega) (by omega), next]
      simp
  · rw [Bool.and_eq_true, decide_eq_true_eq, not_and, Bool.not_eq_true] at empty
    refine ⟨by omega, ?_, .inr ?_⟩
    · rcases Nat.eq_zero_or_pos t.array.size with zero | positive
      · exact .inl zero
      · exact .inr (by rw [Has, within _ positive (Nat.le_refl _), empty positive])
    · rw [Has, valueAt_size_add_one fits, next]
      simp
  · rw [Bool.and_eq_true, decide_eq_true_eq, not_and, Bool.not_eq_true] at empty
    refine isBorder_searchKeys (by omega) (by rw [lastPosition] at bound ⊢; omega) ?_ ?_
    · rw [lastPosition]
      omega
    · rcases Nat.eq_zero_or_pos t.array.size with zero | positive
      · have first := valueAt_size_add_one fits
        rw [zero] at first next ⊢
        rw [Has]
        rw [show max 0 1 = 0 + 1 from rfl, first]
        simpa using next
      · rw [Nat.max_eq_left positive, Has, within _ positive (Nat.le_refl _), empty positive]

end Searching

section Sequences

variable {t : Table} {n : Nat}

/-- A sequence has its positions in use. -/
theorem IsSequence.has_iff (sequence : t.IsSequence n) {m : Nat} (low : 1 ≤ m)
    (high : m ≤ lastPosition) : t.Has m ↔ m ≤ n := by
  refine (sequence.keys (.integer (Int64.ofNat m))).trans ⟨?_, fun inside => ⟨m, low, inside, rfl⟩⟩
  rintro ⟨m', -, inside, same⟩
  rwa [ofNat_inj high (Nat.le_trans inside sequence.bounded) (Key.integer.inj same)]

/-- The end of a sequence is its only border. -/
theorem IsSequence.eq_of_isBorder (sequence : t.IsSequence n) {b : Nat} (isBorder : t.IsBorder b) :
    b = n := by
  have below : b ≤ n := by
    rcases isBorder.used with zero | used
    · omega
    · rcases Nat.eq_zero_or_pos b with zero | positive
      · omega
      · exact (sequence.has_iff positive isBorder.bounded).mp used
  refine Nat.le_antisymm below (Nat.not_lt.mp fun gap => ?_)
  have bounded := sequence.bounded
  rcases isBorder.ends with last | ends
  · omega
  · exact ends ((sequence.has_iff (by omega) (by omega)).mpr gap)

/-- The length of a sequence is the number of its positions. -/
theorem IsSequence.border_eq (sequence : t.IsSequence n) (fits : t.Fits) : t.border = n :=
  sequence.eq_of_isBorder (isBorder_border fits)

end Sequences

end Table

end TableSeed.Lua
