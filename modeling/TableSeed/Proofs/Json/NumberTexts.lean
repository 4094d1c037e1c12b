import TableSeed.Json.Writer
import TableSeed.Proofs.Json.Numerals
import TableSeed.Proofs.Number.Shortest

/-!
# The texts of numbers

The text of a number is a proper numeral. The numeral of an integer reads back as the integer. That
of a double may not: the double it is read as comes from its digits by roundings of its own.
-/

namespace TableSeed.Json

namespace NumeralText

open DecimalLayout (zeros)

/-- The text of an integer. -/
def ofInt (n : Int) : NumeralText where
  negative := decide (n < 0)
  whole := Nat.toDigits 10 n.natAbs
  fraction := none
  exponent := none

/-- The text of a decimal as it is laid out in JSON. -/
def ofDecimal (negative : Bool) (d : Decimal) : NumeralText :=
  if -5 ≤ d.leading ∧ d.leading < 16 then
    if d.leading < 0 then
      { negative, whole := ['0'], fraction := some (zeros (-d.leading - 1).toNat ++ d.digits),
        exponent := none }
    else if d.digits.length ≤ d.leading.toNat + 1 then
      { negative, whole := d.digits ++ zeros (d.leading.toNat + 1 - d.digits.length),
        fraction := some ['0'], exponent := none }
    else
      { negative, whole := d.digits.take (d.leading.toNat + 1),
        fraction := some (d.digits.drop (d.leading.toNat + 1)), exponent := none }
  else
    { negative, whole := d.digits.take 1,
      fraction := if d.digits.length ≤ 1 then none else some (d.digits.drop 1),
      exponent := some (decide (d.leading < 0), Nat.toDigits 10 d.leading.natAbs) }

/-- The decimal digits of a number are digits, and there is one at least. -/
theorem digits_toDigits (n : Nat) : Digits (Nat.toDigits 10 n) :=
  ⟨Nat.toDigits_ne_nil, fun _ mem => Nat.isDigit_of_mem_toDigits (by decide) (by decide) mem⟩

/-- Digits may be followed by more of them. -/
theorem Digits.append {cs ds : List Char} (digits : Digits cs)
    (others : ∀ c ∈ ds, c.isDigit = true) : Digits (cs ++ ds) :=
  ⟨List.append_ne_nil_of_left_ne_nil digits.1 _, fun c mem =>
    (List.mem_append.mp mem).elim (digits.2 c) (others c)⟩

/-- The first digits are digits if any are taken. -/
theorem Digits.take {cs : List Char} (digits : Digits cs) {n : Nat} (positive : 0 < n) :
    Digits (cs.take n) := by
  refine ⟨?_, fun c mem => digits.2 c (List.mem_of_mem_take mem)⟩
  simp [digits.1, positive.ne']

/-- The last digits are digits if any are left. -/
theorem Digits.drop {cs : List Char} (digits : Digits cs) {n : Nat} (short : n < cs.length) :
    Digits (cs.drop n) :=
  ⟨by simpa using short, fun c mem => digits.2 c (List.mem_of_mem_drop mem)⟩

/-- Each of several zeros is a digit. -/
theorem isDigit_of_mem_zeros {n : Nat} {c : Char} (mem : c ∈ zeros n) : c.isDigit = true := by
  rw [List.eq_of_mem_replicate mem]
  decide

/-- The digits of a number other than zero do not begin with a zero. -/
theorem head?_toDigits_ne {n : Nat} (nonzero : n ≠ 0) : (Nat.toDigits 10 n).head? ≠ some '0' := by
  induction n using Nat.strongRecOn with
  | ind n ih =>
    obtain small | large := Nat.lt_or_ge n 10
    · rw [Nat.toDigits_of_lt_base small]
      interval_cases n <;> simp_all [Nat.digitChar]
    · rw [Nat.toDigits_of_base_le (by decide) large, List.head?_append_of_ne_nil _ Nat.toDigits_ne_nil]
      exact ih (n / 10) (by omega) (by omega)

/-- The text of an integer is proper. -/
theorem proper_ofInt (n : Int) : (ofInt n).Proper where
  whole := digits_toDigits _
  leading zero := by
    by_cases nonzero : n.natAbs = 0
    · rw [ofInt, nonzero, Nat.toDigits_zero]
    · exact absurd zero (head?_toDigits_ne nonzero)
  fraction := by rintro _ ⟨⟩
  exponent := by rintro _ ⟨⟩

/-- Zero is laid out as `0.0`. -/
theorem proper_zero (negative : Bool) : (ofDecimal negative ⟨0, 0⟩).Proper := by
  have zero : Digits ['0'] := digits_toDigits 0
  have layout : ofDecimal negative ⟨0, 0⟩ = ⟨negative, ['0'], some ['0'], none⟩ := rfl
  rw [layout]
  exact ⟨zero, fun _ => rfl, by rintro _ ⟨⟩; exact zero, by rintro _ ⟨⟩⟩

/-- The text of a decimal other than zero is proper. -/
theorem proper_ofDecimal (negative : Bool) {d : Decimal} (nonzero : d.coefficient ≠ 0) :
    (ofDecimal negative d).Proper := by
  have digits : Digits d.digits := digits_toDigits _
  have head : d.digits.head? ≠ some '0' := head?_toDigits_ne nonzero
  have head_take : ∀ n, 0 < n → (d.digits.take n).head? ≠ some '0' := fun n positive => by
    rwa [List.head?_take, if_neg positive.ne']
  have zero : Digits ['0'] := digits_toDigits 0
  unfold ofDecimal
  split_ifs with positional below short single
  · have fraction : Digits (zeros (-d.leading - 1).toNat ++ d.digits) :=
      ⟨by simp [digits.1], fun c mem =>
        (List.mem_append.mp mem).elim isDigit_of_mem_zeros (digits.2 c)⟩
    exact ⟨zero, fun _ => rfl, by rintro _ ⟨⟩; exact fraction, by rintro _ ⟨⟩⟩
  · have leading : (d.digits ++ zeros (d.leading.toNat + 1 - d.digits.length)).head? ≠ some '0' := by
      rwa [List.head?_append_of_ne_nil _ digits.1]
    exact ⟨digits.append fun _ => isDigit_of_mem_zeros, fun same => absurd same leading,
      by rintro _ ⟨⟩; exact zero, by rintro _ ⟨⟩⟩
  · exact ⟨digits.take (by omega), fun same => absurd same (head_take _ (by omega)),
      by rintro _ ⟨⟩; exact digits.drop (by omega), by rintro _ ⟨⟩⟩
  · exact ⟨digits.take one_pos, fun same => absurd same (head_take 1 one_pos),
      by rintro _ ⟨⟩, by rintro _ ⟨⟩; exact digits_toDigits _⟩
  · exact ⟨digits.take one_pos, fun same => absurd same (head_take 1 one_pos),
      by rintro _ ⟨⟩; exact digits.drop (by omega), by rintro _ ⟨⟩; exact digits_toDigits _⟩

/-- An exponent is written with its sign and without zeros in front. -/
theorem exponentText_eq (e : Int) : doubleLayout.exponentText e =
    'e' :: (if e < 0 then '-' else '+') :: Nat.toDigits 10 e.natAbs := by
  have filled : 1 - (Nat.toDigits 10 e.natAbs).length = 0 :=
    Nat.sub_eq_zero_of_le Nat.length_toDigits_pos
  have padded : DecimalLayout.padded 1 (Nat.toDigits 10 e.natAbs) = Nat.toDigits 10 e.natAbs := by
    rw [DecimalLayout.padded, filled]
    rfl
  simp only [DecimalLayout.exponentText, doubleLayout, padded]
  split_ifs <;> rfl

/-- What is laid out is the text that is written. -/
theorem chars_ofDecimal (negative : Bool) (d : Decimal) :
    (ofDecimal negative d).chars = (if negative then ['-'] else []) ++ doubleLayout.write d := by
  have range : (doubleLayout.positionalFrom ≤ d.leading &&
      d.leading < doubleLayout.positionalBelow) = true ↔ -5 ≤ d.leading ∧ d.leading < 16 := by
    simp only [Bool.and_eq_true, decide_eq_true_eq]
    exact Iff.rfl
  unfold ofDecimal DecimalLayout.write
  by_cases positional : -5 ≤ d.leading ∧ d.leading < 16
  · rw [if_pos positional]
    simp only [range.mpr positional, if_true]
    by_cases below : d.leading < 0
    · simp [below, chars, DecimalLayout.positional]
    · by_cases short : d.digits.length ≤ d.leading.toNat + 1
      · simp [below, short, chars, DecimalLayout.positional, doubleLayout]
      · simp [below, short, chars, DecimalLayout.positional]
  · rw [if_neg positional, if_neg (range.not.mpr positional), exponentText_eq]
    generalize d.digits = digits
    obtain _ | ⟨first, _ | ⟨second, rest⟩⟩ := digits
    all_goals simp [chars, DecimalLayout.mantissa]

/-- An integer is written with its sign and its digits. -/
theorem chars_ofInt (n : Int) : (ofInt n).chars = writeInt n := by
  unfold writeInt
  by_cases negative : n < 0
  · simp [ofInt, chars, negative]
  · have same : n.natAbs = n.toNat := by omega
    simp [ofInt, chars, negative, same]

end NumeralText

namespace Number

/-- The text of a number. -/
def text : Number → NumeralText
  | .integer n _ => .ofInt n
  | .double x _ => .ofDecimal x.isNegative x.shortest

/-- A number is written as the characters of its text. -/
theorem chars_text (n : Number) : n.text.chars = n.write := by
  cases n with
  | integer n fits => exact NumeralText.chars_ofInt n
  | double x finite => exact NumeralText.chars_ofDecimal _ _

/-- The text of a number is a proper one. -/
theorem proper_text (n : Number) : n.text.Proper := by
  cases n with
  | integer n fits => exact NumeralText.proper_ofInt n
  | double x finite =>
    cases zero : x.isZero with
    | false => exact NumeralText.proper_ofDecimal _ (Binary64.shortest_coefficient_ne_zero zero)
    | true =>
      rw [text, Binary64.shortest, zero, if_pos rfl]
      exact NumeralText.proper_zero _

end Number

namespace Numeral

/-- A number only grows by further digits. -/
theorem le_ofDigitChars (cs : List Char) (word : Nat) : word ≤ Nat.ofDigitChars 10 cs word := by
  induction cs generalizing word with
  | nil => exact Nat.le_refl _
  | cons c rest ih =>
    rw [Nat.ofDigitChars_cons]
    exact le_trans (by omega) (ih _)

/-- Digits that fit a word are gathered into their number. -/
theorem gather_digits {cs : List Char} {word : Nat}
    (fits : Nat.ofDigitChars 10 cs word < 0x10000000000000000) :
    gather word (cs.map digitOf) = (Nat.ofDigitChars 10 cs word, []) := by
  induction cs generalizing word with
  | nil => rfl
  | cons c rest ih =>
    have next : word * 10 + digitOf c = 10 * word + (c.toNat - '0'.toNat) := by
      rw [mul_comm]
      rfl
    rw [Nat.ofDigitChars_cons] at fits ⊢
    have below := (le_ofDigitChars rest _).trans_lt fits
    rw [List.map_cons, gather, next, if_pos below, ih fits]

/-- An integer reads back. -/
theorem toNumber_ofInt (n : Int) (fits : -0x8000000000000000 ≤ n ∧ n < 0x10000000000000000) :
    (NumeralText.ofInt n).numeral.toNumber = .ok (.integer n fits) := by
  have word : gather 0 ((Nat.toDigits 10 n.natAbs).map digitOf) = (n.natAbs, []) := by
    rw [gather_digits, Nat.ofDigitChars_ten_toDigits]
    rw [Nat.ofDigitChars_ten_toDigits]
    omega
  simp only [toNumber, NumeralText.ofInt, NumeralText.numeral, word, Option.map_none]
  have ofInt? : Number.ofInt? n = some (.integer n fits) := dif_pos fits
  by_cases negative : n < 0
  · have nonzero : n.natAbs ≠ 0 := by omega
    have same : -(n.natAbs : Int) = n := by omega
    simp only [List.isEmpty_nil, if_true, negative, decide_true, toInteger, if_neg nonzero, same,
      ofInt?]
  · have same : (n.natAbs : Int) = n := by omega
    simp only [List.isEmpty_nil, if_true, negative, decide_false, Bool.false_eq_true, if_false,
      toInteger, same, ofInt?]

end Numeral

end TableSeed.Json
