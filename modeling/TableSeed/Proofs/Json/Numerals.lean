import Mathlib
import TableSeed.Json.Tree

/-!
# Scanning numerals

A numeral is a sign, digits, perhaps a fraction and perhaps an exponent. The scanner reads it
character by character, and cannot tell that it has ended until the next character is there.
-/

namespace TableSeed.Json

/-- The characters of a numeral, part by part. An exponent is written with its sign. -/
structure NumeralText where
  negative : Bool
  whole : List Char
  fraction : Option (List Char)
  /-- Whether the exponent is negative, and its digits. -/
  exponent : Option (Bool × List Char)

/-- The value of a digit. -/
def digitOf (c : Char) : Nat := c.toNat - 48

namespace NumeralText

/-- The text as it is written. -/
def chars (t : NumeralText) : List Char :=
  (if t.negative then ['-'] else []) ++ t.whole ++
    (match t.fraction with
      | some digits => '.' :: digits
      | none => []) ++
    match t.exponent with
      | some (negative, digits) => 'e' :: (if negative then '-' else '+') :: digits
      | none => []

/-- The numeral that the text spells. -/
def numeral (t : NumeralText) : Numeral where
  negative := t.negative
  whole := t.whole.map digitOf
  fraction := t.fraction.map (·.map digitOf)
  exponent := t.exponent.map fun e => ⟨e.1, e.2.map digitOf⟩

/-- Digits, at least one. -/
def Digits (cs : List Char) : Prop := cs ≠ [] ∧ ∀ c ∈ cs, c.isDigit = true

/-- Every part has digits, and a zero in front is the only digit before the point. -/
structure Proper (t : NumeralText) : Prop where
  whole : Digits t.whole
  leading : t.whole.head? = some '0' → t.whole = ['0']
  fraction : ∀ digits ∈ t.fraction, Digits digits
  exponent : ∀ e ∈ t.exponent, Digits e.2

/-- What the scanner has read of a numeral once its last character is there. -/
def scanned (t : NumeralText) : Token.PartialNumeral where
  stage :=
    if t.exponent.isSome then .exponent
    else if t.fraction.isSome then .fraction
    else if t.whole = ['0'] then .zero
    else .whole
  negative := t.negative
  whole := (t.whole.map digitOf).reverse
  fraction := ((t.fraction.getD []).map digitOf).reverse
  exponentNegative := (t.exponent.map (·.1)).getD false
  exponent := (((t.exponent.map (·.2)).getD []).map digitOf).reverse

end NumeralText

namespace Token

variable {c : Char} {cs : List Char} {p : PartialNumeral} {tokens : List Token}

/-- A character that may stand after a value. -/
def EndsValue (c : Char) : Prop := c = ',' ∨ c = ']' ∨ c = '}'

/-- A digit is read as its value. -/
theorem digit?_of_isDigit (digit : c.isDigit = true) : digit? c = some (digitOf c) := by
  rw [digit?, if_pos digit, digitOf]

/-- A digit is neither a point nor the mark of an exponent. -/
theorem ne_marks_of_isDigit (digit : c.isDigit = true) : c ≠ '.' ∧ c ≠ 'e' ∧ c ≠ 'E' := by
  refine ⟨?_, ?_, ?_⟩ <;> rintro rfl <;> exact absurd digit (by decide)

/-- A numeral goes on. -/
theorem step_numeral {q : PartialNumeral} (next : p.next? c = some q) :
    State.step { scan := .numeral p, tokens } c = { scan := .numeral q, tokens } := by
  simp only [State.step, State.numeral, next]

/-- There are ten digits. -/
theorem exists_digitChar (digit : c.isDigit = true) : ∃ n < 10, c = Nat.digitChar n := by
  have bounds : 48 ≤ c.toNat ∧ c.toNat ≤ 57 := by
    simpa [Char.isDigit, UInt32.le_iff_toNat_le] using digit
  refine ⟨c.toNat - 48, by omega, ?_⟩
  rw [← Char.ofNat_toNat c]
  generalize c.toNat = n at bounds
  obtain ⟨low, high⟩ := bounds
  interval_cases n <;> decide

/-- Further digits are added to the part of the numeral that the scanner is in. -/
theorem foldl_part (part : List Nat → PartialNumeral)
    (next : ∀ read c, c.isDigit = true → (part read).next? c = some (part (digitOf c :: read)))
    (digits : ∀ c ∈ cs, c.isDigit = true) (read : List Nat) :
    cs.foldl State.step { scan := .numeral (part read), tokens } =
      { scan := .numeral (part ((cs.map digitOf).reverse ++ read)), tokens } := by
  induction cs generalizing read with
  | nil => rfl
  | cons c rest ih =>
    obtain ⟨digit, others⟩ := List.forall_mem_cons.mp digits
    rw [List.foldl_cons, step_numeral (next read c digit), ih others, List.map_cons,
      List.reverse_cons, List.append_assoc]
    rfl

/-- Further digits before the point. -/
theorem foldl_whole (digits : ∀ c ∈ cs, c.isDigit = true) (stage : p.stage = .whole) :
    cs.foldl State.step { scan := .numeral p, tokens } =
      { scan := .numeral { p with whole := (cs.map digitOf).reverse ++ p.whole }, tokens } := by
  refine foldl_part (fun read => { p with whole := read }) (fun read c digit => ?_) digits
    p.whole
  obtain ⟨point, mark, mark'⟩ := ne_marks_of_isDigit digit
  simp [PartialNumeral.next?, stage, point, mark, mark', digit?_of_isDigit digit]

/-- Further digits after the point. -/
theorem foldl_fraction (digits : ∀ c ∈ cs, c.isDigit = true) (stage : p.stage = .fraction) :
    cs.foldl State.step { scan := .numeral p, tokens } =
      { scan := .numeral { p with fraction := (cs.map digitOf).reverse ++ p.fraction },
        tokens } := by
  refine foldl_part (fun read => { p with fraction := read }) (fun read c digit => ?_) digits
    p.fraction
  obtain ⟨-, mark, mark'⟩ := ne_marks_of_isDigit digit
  simp [PartialNumeral.next?, stage, mark, mark', digit?_of_isDigit digit]

/-- Further digits of an exponent. -/
theorem foldl_exponent (digits : ∀ c ∈ cs, c.isDigit = true) (stage : p.stage = .exponent) :
    cs.foldl State.step { scan := .numeral p, tokens } =
      { scan := .numeral { p with exponent := (cs.map digitOf).reverse ++ p.exponent },
        tokens } := by
  refine foldl_part (fun read => { p with exponent := read }) (fun read c digit => ?_) digits
    p.exponent
  simp [PartialNumeral.next?, stage, digit?_of_isDigit digit]

/-- The first character of a numeral. -/
theorem step_first (digit : c.isDigit = true) :
    State.step { scan := .between, tokens := tokens } c =
      { scan := .numeral { stage := (if c = '0' then .zero else .whole), whole := [digitOf c] },
        tokens := tokens } := by
  obtain ⟨n, bound, rfl⟩ := exists_digitChar digit
  interval_cases n <;> rfl

/-- The first digit after a sign. -/
theorem step_first_negative (digit : c.isDigit = true) :
    State.step { scan := .numeral { stage := .minus, negative := true }, tokens := tokens } c =
      { scan := .numeral
          { stage := (if c = '0' then .zero else .whole), negative := true, whole := [digitOf c] },
        tokens := tokens } := by
  obtain ⟨n, bound, rfl⟩ := exists_digitChar digit
  interval_cases n <;> rfl

/-- The digits before the point, after the sign if there is one. -/
theorem foldl_sign_whole (negative : Bool) (digits : NumeralText.Digits cs)
    (leading : cs.head? = some '0' → cs = ['0']) :
    ((if negative then ['-'] else []) ++ cs).foldl State.step
        { scan := .between, tokens := tokens } =
      { scan := .numeral
          { stage := (if cs = ['0'] then .zero else .whole), negative := negative,
            whole := (cs.map digitOf).reverse },
        tokens := tokens } := by
  obtain ⟨nonempty, digits⟩ := digits
  obtain ⟨c, rest, rfl⟩ := List.exists_cons_of_ne_nil nonempty
  obtain ⟨digit, others⟩ := List.forall_mem_cons.mp digits
  have first : ((if negative then ['-'] else []) ++ [c]).foldl State.step
        { scan := .between, tokens := tokens } =
      { scan := .numeral
          { stage := (if c = '0' then .zero else .whole), negative := negative,
            whole := [digitOf c] },
        tokens := tokens } := by
    cases negative
    · exact step_first digit
    · exact step_first_negative digit
  rw [List.append_cons, List.foldl_append, first]
  by_cases zero : c = '0'
  · obtain rfl : rest = [] := by simpa [zero] using leading
    simp [zero]
  · rw [if_neg zero, foldl_whole others rfl]
    simp [zero]

/-- A point and the digits after it. -/
theorem foldl_point (stage : p.stage = .zero ∨ p.stage = .whole) (digits : NumeralText.Digits cs) :
    ('.' :: cs).foldl State.step { scan := .numeral p, tokens := tokens } =
      { scan := .numeral { p with stage := .fraction, fraction := (cs.map digitOf).reverse },
        tokens := tokens } := by
  obtain ⟨nonempty, digits⟩ := digits
  obtain ⟨c, rest, rfl⟩ := List.exists_cons_of_ne_nil nonempty
  obtain ⟨digit, others⟩ := List.forall_mem_cons.mp digits
  have point : p.next? '.' = some { p with stage := .point } := by
    obtain stage | stage := stage <;> simp [PartialNumeral.next?, stage]
  have first : PartialNumeral.next? { p with stage := .point } c =
      some { p with stage := .fraction, fraction := [digitOf c] } := by
    simp [PartialNumeral.next?, digit?_of_isDigit digit]
  rw [List.foldl_cons, step_numeral point, List.foldl_cons, step_numeral first]
  refine (foldl_fraction (p := { p with stage := .fraction, fraction := [digitOf c] }) others
    rfl).trans ?_
  simp

/-- The mark of an exponent, its sign and its digits. -/
theorem foldl_mark (stage : p.stage = .zero ∨ p.stage = .whole ∨ p.stage = .fraction)
    (positive : p.exponentNegative = false) (negative : Bool)
    (digits : NumeralText.Digits cs) :
    ('e' :: (if negative then '-' else '+') :: cs).foldl State.step
        { scan := .numeral p, tokens := tokens } =
      { scan := .numeral
          { p with stage := .exponent, exponentNegative := negative,
                   exponent := (cs.map digitOf).reverse },
        tokens := tokens } := by
  obtain ⟨nonempty, digits⟩ := digits
  obtain ⟨c, rest, rfl⟩ := List.exists_cons_of_ne_nil nonempty
  obtain ⟨digit, others⟩ := List.forall_mem_cons.mp digits
  have mark : p.next? 'e' = some { p with stage := .mark } := by
    obtain stage | stage | stage := stage <;> simp [PartialNumeral.next?, stage]
  have sign : PartialNumeral.next? { p with stage := .mark } (if negative then '-' else '+') =
      some { p with stage := .sign, exponentNegative := negative } := by
    cases negative <;> simp [PartialNumeral.next?, positive]
  have first : PartialNumeral.next? { p with stage := .sign, exponentNegative := negative } c =
      some { p with stage := .exponent, exponentNegative := negative, exponent := [digitOf c] } := by
    simp [PartialNumeral.next?, digit?_of_isDigit digit]
  rw [List.foldl_cons, step_numeral mark, List.foldl_cons, step_numeral sign, List.foldl_cons,
    step_numeral first]
  refine (foldl_exponent (p := { p with
    stage := .exponent, exponentNegative := negative, exponent := [digitOf c] }) others rfl).trans ?_
  simp

/-- The scanner has read a numeral that is written in full. -/
theorem foldl_numeral {t : NumeralText} (proper : t.Proper) (tokens : List Token) :
    t.chars.foldl State.step { scan := .between, tokens := tokens } =
      { scan := .numeral t.scanned, tokens := tokens } := by
  obtain ⟨negative, whole, fraction, exponent⟩ := t
  obtain ⟨digits, leading, fraction', exponent'⟩ := proper
  have stages : (if whole = ['0'] then NumeralStage.zero else .whole) = .zero ∨
      (if whole = ['0'] then NumeralStage.zero else .whole) = .whole := by
    split_ifs <;> simp
  simp only [NumeralText.chars, NumeralText.scanned]
  rw [List.foldl_append, List.foldl_append, foldl_sign_whole negative digits leading]
  cases fraction with
  | none =>
    cases exponent with
    | none => rfl
    | some e =>
      exact foldl_mark (by obtain zero | whole := stages <;> simp [*]) rfl e.1 (exponent' e rfl)
  | some places =>
    simp only
    rw [foldl_point stages (fraction' places rfl)]
    cases exponent with
    | none => rfl
    | some e => exact foldl_mark (.inr (.inr rfl)) rfl e.1 (exponent' e rfl)

/-- What has been read of a numeral may end there. -/
theorem complete?_scanned {t : NumeralText} (proper : t.Proper) :
    t.scanned.complete? = some t.numeral := by
  obtain ⟨negative, whole, fraction, exponent⟩ := t
  cases fraction with
  | none =>
    cases exponent with
    | some e => simp [PartialNumeral.complete?, NumeralText.scanned, NumeralText.numeral]
    | none =>
      simp only [PartialNumeral.complete?, NumeralText.scanned, NumeralText.numeral]
      by_cases zero : whole = ['0'] <;> simp [zero]
  | some places =>
    have nonempty : places ≠ [] := (proper.fraction places rfl).1
    cases exponent with
    | some e => simp [PartialNumeral.complete?, NumeralText.scanned, NumeralText.numeral, nonempty]
    | none => simp [PartialNumeral.complete?, NumeralText.scanned, NumeralText.numeral, nonempty]

/-- A numeral does not go on with a character that stands after a value. -/
theorem next?_of_endsValue (p : PartialNumeral) (ends : EndsValue c) : p.next? c = none := by
  unfold PartialNumeral.next?
  obtain rfl | rfl | rfl := ends <;> cases p.stage <;> rfl

end Token

end TableSeed.Json
