import TableSeed.Proofs.Json.ReadBack
import TableSeed.Proofs.Number.Rounding

/-!
# Texts tell values apart

Values with the same text are the same: of the same kind, integers and doubles apart, with the same
characters, the same items in the same order and the same members in the same order. The text of a
value has the tree of the value, so it is enough that no tree is that of two values. This comes down
to the numerals: that of a double shows a fraction or an exponent, and its magnitude is the shortest
decimal, which is no other double's.
-/

namespace TableSeed.Json

namespace Numeral

/-- The number that digits spell. -/
def spelled (digits : List Nat) : Nat := digits.foldl (fun acc d => acc * 10 + d) 0

/-- The power of ten that the exponent stands for. -/
def power (t : Numeral) : Int :=
  match t.exponent with
  | none => 0
  | some e => if e.negative then -(spelled e.digits : Int) else spelled e.digits

/-- The number that a numeral stands for without its sign. -/
def magnitude (t : Numeral) : ℚ :=
  spelled (t.whole ++ t.fraction.getD []) * 10 ^ (t.power - (t.fraction.getD []).length)

/-- Digits spell the number that their characters do. -/
theorem spelled_map_digitOf (cs : List Char) :
    spelled (cs.map digitOf) = Nat.ofDigitChars 10 cs 0 := by
  rw [spelled, List.foldl_map, Nat.ofDigitChars_eq_foldl]
  congr 1
  funext acc c
  rw [mul_comm]
  rfl

end Numeral

namespace NumeralText

open DecimalLayout (zeros)

variable {t : NumeralText}

/-- The magnitude of a numeral from its characters. -/
theorem magnitude_numeral (t : NumeralText) : t.numeral.magnitude =
    Nat.ofDigitChars 10 (t.whole ++ t.fraction.getD []) 0 *
      10 ^ (t.numeral.power - (t.fraction.getD []).length) := by
  have fraction : t.numeral.fraction.getD [] = (t.fraction.getD []).map digitOf := by
    unfold numeral
    cases t.fraction <;> rfl
  have digits : t.numeral.whole ++ t.numeral.fraction.getD [] =
      (t.whole ++ t.fraction.getD []).map digitOf := by
    rw [fraction, List.map_append]
    rfl
  rw [Numeral.magnitude, digits, Numeral.spelled_map_digitOf, fraction, List.length_map]

/-- Zeros in front add nothing. -/
theorem ofDigitChars_zeros_append (n : Nat) (cs : List Char) :
    Nat.ofDigitChars 10 (zeros n ++ cs) 0 = Nat.ofDigitChars 10 cs 0 := by
  induction n with
  | zero => rfl
  | succ n ih => exact ih

/-- Zeros at the end are powers of ten. -/
theorem ofDigitChars_append_zeros (cs : List Char) (n : Nat) :
    Nat.ofDigitChars 10 (cs ++ zeros n) 0 = Nat.ofDigitChars 10 cs 0 * 10 ^ n := by
  have none : Nat.ofDigitChars 10 (zeros n) 0 = 0 := by
    have := ofDigitChars_zeros_append n []
    rwa [List.append_nil] at this
  have length : (zeros n).length = n := List.length_replicate
  rw [Nat.ofDigitChars_append, Nat.ofDigitChars_eq_ofDigitChars_zero, none, length, add_zero,
    mul_comm]

/-- The numeral of a decimal stands for it. -/
theorem magnitude_ofDecimal (negative : Bool) (d : Decimal) :
    (ofDecimal negative d).numeral.magnitude = d.value := by
  have spelled : Nat.ofDigitChars 10 d.digits 0 = d.coefficient := Nat.ofDigitChars_ten_toDigits
  have positive : 0 < d.digits.length := List.length_pos_of_ne_nil (digits_toDigits _).1
  have leading : d.leading = d.scale + d.digits.length - 1 := rfl
  rw [magnitude_numeral]
  unfold ofDecimal
  split_ifs with positional below short single
  · have places : (zeros (-d.leading - 1).toNat ++ d.digits).length =
        (-d.leading - 1).toNat + d.digits.length := by simp [zeros]
    have digits : Nat.ofDigitChars 10 (['0'] ++ (zeros (-d.leading - 1).toNat ++ d.digits)) 0 =
        d.coefficient := (ofDigitChars_zeros_append _ _).trans spelled
    simp only [Option.getD_some, digits, places, numeral, Numeral.power, Option.map_none,
      Decimal.value]
    congr 2
    omega
  · have zero : d.digits ++ zeros (d.leading.toNat + 1 - d.digits.length) ++ ['0'] =
        d.digits ++ zeros (d.leading.toNat + 1 - d.digits.length + 1) := by
      rw [List.append_assoc, zeros, zeros, List.replicate_succ']
    have scale : d.scale = (d.leading.toNat + 1 - d.digits.length : ℕ) := by omega
    simp only [Option.getD_some, zero, ofDigitChars_append_zeros, spelled, numeral, Numeral.power,
      Option.map_none, Decimal.value, List.length_singleton]
    rw [scale, zpow_natCast, pow_succ]
    push_cast
    field_simp
  · have whole : d.digits.take (d.leading.toNat + 1) ++ d.digits.drop (d.leading.toNat + 1) =
        d.digits := List.take_append_drop _ _
    simp only [Option.getD_some, whole, spelled, numeral, Numeral.power, Option.map_none,
      Decimal.value, List.length_drop]
    congr 2
    omega
  all_goals
    have power : (if decide (d.leading < 0) = true then
        -(Nat.ofDigitChars 10 (Nat.toDigits 10 d.leading.natAbs) 0 : Int)
        else Nat.ofDigitChars 10 (Nat.toDigits 10 d.leading.natAbs) 0) = d.leading := by
      rw [Nat.ofDigitChars_ten_toDigits]
      split_ifs with sign
      · have := of_decide_eq_true sign
        omega
      · have := of_decide_eq_false (Bool.eq_false_iff.mpr sign)
        omega
  · have whole : d.digits.take 1 = d.digits := List.take_of_length_le single
    simp only [Option.getD_none, List.append_nil, whole, spelled, numeral, Numeral.power,
      Option.map_some, Numeral.spelled_map_digitOf, power, Decimal.value, List.length_nil]
    congr 2
    omega
  · have whole : d.digits.take 1 ++ d.digits.drop 1 = d.digits := List.take_append_drop _ _
    simp only [Option.getD_some, whole, spelled, numeral, Numeral.power, Option.map_some,
      Numeral.spelled_map_digitOf, power, Decimal.value, List.length_drop]
    congr 2
    omega

/-- The numeral of a decimal has a fraction or an exponent. -/
theorem ofDecimal_ne_whole (negative : Bool) (d : Decimal) :
    (ofDecimal negative d).numeral.fraction ≠ none ∨
      (ofDecimal negative d).numeral.exponent ≠ none := by
  unfold ofDecimal
  split_ifs <;> simp [numeral]

/-- The numeral of a whole number is none of a decimal. -/
theorem numeral_ofInt_ne (n : Int) (negative : Bool) (d : Decimal) :
    (ofInt n).numeral ≠ (ofDecimal negative d).numeral := by
  intro same
  have whole := ofDecimal_ne_whole negative d
  rw [← same] at whole
  exact whole.elim (fun ne => absurd rfl ne) (fun ne => absurd rfl ne)

/-- The numeral of a decimal has its sign. -/
theorem negative_ofDecimal (negative : Bool) (d : Decimal) :
    (ofDecimal negative d).numeral.negative = negative := by
  unfold ofDecimal
  split_ifs <;> rfl

end NumeralText

/-- The numeral of a number is no other number's. -/
theorem Number.eq_of_numeral {m n : Number} (same : m.text.numeral = n.text.numeral) : m = n := by
  cases m with
  | integer m fits =>
    cases n with
    | integer n fits' =>
      have first := Numeral.toNumber_ofInt m fits
      have second := Numeral.toNumber_ofInt n fits'
      have numerals : (NumeralText.ofInt m).numeral = (NumeralText.ofInt n).numeral := same
      rw [numerals, second] at first
      exact (Except.ok.inj first).symm
    | double y finite =>
      exact absurd same (NumeralText.numeral_ofInt_ne m y.isNegative y.shortest)
  | double x finite =>
    cases n with
    | integer n fits =>
      exact absurd same.symm (NumeralText.numeral_ofInt_ne n x.isNegative x.shortest)
    | double y finite' =>
      have numerals : (NumeralText.ofDecimal x.isNegative x.shortest).numeral =
          (NumeralText.ofDecimal y.isNegative y.shortest).numeral := same
      have sign := congrArg Numeral.negative numerals
      have magnitude := congrArg Numeral.magnitude numerals
      rw [NumeralText.negative_ofDecimal, NumeralText.negative_ofDecimal] at sign
      rw [NumeralText.magnitude_ofDecimal, NumeralText.magnitude_ofDecimal] at magnitude
      obtain rfl := Binary64.eq_of_shortest_value sign magnitude
      rfl

namespace Value

mutual

/-- A tree is that of one value at most. -/
theorem eq_of_tree (v w : Value) (same : v.tree = w.tree) : v = w := by
  match v with
  | .null => cases w <;> cases same; rfl
  | .bool b => cases w <;> cases same; rfl
  | .number n =>
    cases w with
    | number m => exact congrArg Value.number (Number.eq_of_numeral (Tree.number.inj same))
    | _ => cases same
  | .string s => cases w <;> cases same; rfl
  | .array items =>
    cases w with
    | array others =>
      exact congrArg Value.array (eq_of_itemTrees items others (Tree.array.inj same).1)
    | _ => cases same
  | .object members =>
    cases w with
    | object others =>
      exact congrArg Value.object (eq_of_memberTrees members others (Tree.object.inj same).1)
    | _ => cases same

/-- Items with one tree are the same. -/
theorem eq_of_itemTrees (vs ws : List Value) (same : itemTrees vs = itemTrees ws) : vs = ws := by
  match vs, ws with
  | [], [] => rfl
  | [], _ :: _ | _ :: _, [] => cases same
  | v :: vs, w :: ws =>
    obtain ⟨first, later⟩ := List.cons.inj same
    rw [eq_of_tree v w first, eq_of_itemTrees vs ws later]

/-- Members with one tree are the same. -/
theorem eq_of_memberTrees (ms ns : List (String × Value)) (same : memberTrees ms = memberTrees ns) :
    ms = ns := by
  match ms, ns with
  | [], [] => rfl
  | [], _ :: _ | _ :: _, [] => cases same
  | (k, v) :: ms, (l, w) :: ns =>
    obtain ⟨first, later⟩ := List.cons.inj same
    obtain ⟨name, value⟩ := Prod.mk.inj first
    rw [Option.some.inj name, eq_of_tree v w value, eq_of_memberTrees ms ns later]

end

/-- The text of a value is no other value's. -/
theorem render_inj {v w : Value} : v.render = w.render ↔ v = w := by
  constructor
  · intro same
    have trees := Tree.ofText_render v
    rw [same, Tree.ofText_render] at trees
    exact (eq_of_tree w v (Prod.mk.inj trees).1).symm
  · rintro rfl
    rfl

end Value

end TableSeed.Json
