import TableSeed.Calendar.Reader
import TableSeed.Calendar.Writer
import TableSeed.Proofs.Calendar.Days
import TableSeed.Proofs.Json.Injectivity
import TableSeed.Proofs.Lua.Strings

/-!
# Reading dates that are written

Each field of the normal form is read back by the reader that is due there, which takes the field and
leaves what follows. A year has four digits, or a sign and as many as it needs; the layout with an
offset reads the years of the first kind, and the layout without one those of the second.
-/

namespace TableSeed.Calendar

open FormatItem (twoPlaces pad yearText)

/-- Digits that spell a number. -/
structure Spells (cs : List Char) (n : Nat) : Prop where
  digits : ∀ c ∈ cs, c.isDigit = true
  value : Nat.ofDigitChars 10 cs 0 = n

/-- The decimal digits of a number spell it. -/
theorem spells_toDigits (n : Nat) : Spells (Nat.toDigits 10 n) n where
  digits _ mem := Nat.isDigit_of_mem_toDigits (by decide) (by decide) mem
  value := Nat.ofDigitChars_ten_toDigits

/-- Zeros in front do not change what digits spell. -/
theorem Spells.pad {cs : List Char} {n : Nat} (spells : Spells cs n) (width : Nat) :
    Spells (pad .zero width cs) n where
  digits c mem := by
    obtain zero | digit := List.mem_append.mp mem
    · rw [List.eq_of_mem_replicate zero]
      rfl
    · exact spells.digits c digit
  value := (Json.NumeralText.ofDigitChars_zeros_append _ cs).trans spells.value

/-- A digit is no white space. -/
theorem isBlank_of_isDigit {c : Char} (digit : c.isDigit = true) : Text.isBlank c = false := by
  have bounds : 48 ≤ c.toNat ∧ c.toNat ≤ 57 := by
    simpa [Char.isDigit, UInt32.le_iff_toNat_le] using digit
  simp only [Text.isBlank, Bool.or_eq_false_iff, Bool.and_eq_false_iff, decide_eq_false_iff_not,
    beq_eq_false_iff_ne]
  omega

/-- A text that starts with a digit has no white space in front. -/
theorem Spells.head?_isBlank {cs rest : List Char} {n : Nat} (spells : Spells cs n)
    (nonempty : cs ≠ []) : (cs ++ rest).head?.any Text.isBlank = false := by
  cases cs with
  | nil => exact absurd rfl nonempty
  | cons c cs => exact isBlank_of_isDigit (spells.digits c List.mem_cons_self)

/-- Padding lengthens a text to the width, and never shortens it. -/
theorem length_pad (width : Nat) (cs : List Char) :
    (pad .zero width cs).length = max width cs.length := by
  rw [pad, List.length_append, List.length_replicate]
  omega

/-- The characters from that of zero on are the digits. -/
theorem digitChar_eq : ∀ n < 10, Char.ofNat (48 + n) = Nat.digitChar n := by decide

/-- A number below one hundred is written as its tens and its ones. -/
theorem twoPlaces_eq {n : Nat} (small : n < 100) :
    twoPlaces .zero n = [Nat.digitChar (n / 10), Nat.digitChar (n % 10)] := by
  have tens := digitChar_eq (n / 10) (by omega)
  have ones := digitChar_eq (n % 10) (by omega)
  unfold twoPlaces
  dsimp only
  rw [ones]
  split_ifs with none
  · rw [none]
    rfl
  · rw [tens]
    rfl

/-- The two places of a number below one hundred spell it. -/
theorem spells_twoPlaces {n : Nat} (small : n < 100) : Spells (twoPlaces .zero n) n := by
  have tens : n / 10 < 10 := by omega
  have ones : n % 10 < 10 := by omega
  rw [twoPlaces_eq small]
  constructor
  · simp [Nat.isDigit_digitChar, tens, ones]
  · have value (k : Nat) (digit : k < 10) : (Nat.digitChar k).toNat - '0'.toNat = k := by
      rw [Nat.toNat_digitChar_of_lt_ten digit]
      change 48 + k - 48 = k
      omega
    rw [Nat.ofDigitChars_eq_foldl, List.foldl_cons, List.foldl_cons, List.foldl_nil, value _ tens,
      value _ ones]
    omega

/-- Two places are two characters. -/
theorem length_twoPlaces {n : Nat} (small : n < 100) : (twoPlaces .zero n).length = 2 := by
  rw [twoPlaces_eq small]
  rfl

namespace Reader

variable {α β : Type} {read : Reading α} {next : α → Reading β} {text text' rest cs : List Char}
  {x : α} {y : β} {n least most low high : Nat}

/-- The reader takes a text before others and gives a value. -/
def Reads (read : Reading α) (text rest : List Char) (x : α) : Prop :=
  read (text ++ rest) = some (x, rest)

/-- One reader after the other takes the two texts, one after the other. -/
theorem Reads.bind (first : Reads read text (text' ++ rest) x) (then_ : Reads (next x) text' rest y) :
    Reads (read >>= next) (text ++ text') rest y := by
  unfold Reads at *
  change (read (text ++ text' ++ rest)).bind (fun p => next p.1 p.2) = _
  rw [List.append_assoc, first]
  exact then_

/-- A value that is given without reading takes no text. -/
theorem reads_pure (x : α) : Reads (pure x) [] rest x := rfl

/-- What is read may be changed in the end. -/
theorem Reads.map (reads : Reads read text rest x) (f : α → β) :
    Reads (read >>= fun a => pure (f a)) text rest (f x) := by
  have whole : Reads (read >>= fun a => pure (f a)) (text ++ []) rest (f x) :=
    Reads.bind reads (reads_pure (f x))
  rwa [List.append_nil] at whole

/-- A fixed character is taken. -/
theorem reads_char (c : Char) : Reads (char c) [c] rest () := by
  simp [Reads, char]

/-- A number is read as it is spelled, if it has enough digits and ends where the digits do or where
no more of them are taken. -/
theorem reads_number (spells : Spells text n) (enough : least ≤ text.length)
    (fits : text.length ≤ most)
    (stop : text.length = most ∨ rest.head?.any Char.isDigit = false) :
    Reads (number least most) text rest n := by
  have ends : (rest.take (most - text.length)).head?.any Char.isDigit = false := by
    obtain full | other := stop
    · rw [full, Nat.sub_self]
      rfl
    · cases rest with
      | nil => rw [List.take_nil]; rfl
      | cons c rest => cases most - text.length <;> [rfl; exact other]
  have digits : ((text ++ rest).take most).takeWhile Char.isDigit = text := by
    rw [List.take_append, List.take_of_length_le fits]
    exact (Lua.Token.span_append spells.digits ends).1
  have value : text.foldl (fun n c => n * 10 + (c.toNat - 48)) 0 = n := by
    rw [← spells.value, Nat.ofDigitChars_eq_foldl]
    congr 1
    funext acc c
    rw [Nat.mul_comm]
    rfl
  unfold Reads number
  dsimp only
  rw [digits, if_neg (Nat.not_lt.mpr enough), value, List.drop_left]

/-- A number in the range is read like any other. -/
theorem reads_numberIn (reads : Reads (number least most) text rest n) (above : low ≤ n)
    (below : n ≤ high) : Reads (numberIn least most low high) text rest n := by
  have inRange : (decide (low ≤ n) && decide (n ≤ high)) = true := by simp [above, below]
  have checked : Reads (if low ≤ n && n ≤ high then (pure n : Reading Nat) else fail) [] rest n := by
    rw [if_pos inRange]
    exact reads_pure n
  have whole : Reads (numberIn least most low high) (text ++ []) rest n := Reads.bind reads checked
  rwa [List.append_nil] at whole

/-- A number of two places is taken whatever follows. -/
theorem reads_two (small : n < 100) (enough : least ≤ 2) (above : low ≤ n) (below : n ≤ high) :
    Reads (numberIn least 2 low high) (twoPlaces .zero n) rest n := by
  have length := length_twoPlaces small
  apply reads_numberIn _ above below
  exact reads_number (spells_twoPlaces small) (by omega) length.le (.inl length)

/-! ## Fields -/

/-- A reader that takes nothing may stand before another one. -/
theorem Reads.bind_nil (first : Reads read [] (text' ++ rest) x) (then_ : Reads (next x) text' rest y) :
    Reads (read >>= next) text' rest y := by
  change Reads (read >>= next) ([] ++ text') rest y
  exact Reads.bind first then_

/-- Any of the characters is taken. -/
theorem reads_oneOf {options : List Char} {c : Char} (mem : options.contains c = true) :
    Reads (oneOf options) [c] rest c := by
  unfold Reads oneOf
  rw [List.singleton_append]
  exact if_pos mem

/-- No white space is taken where there is none. -/
theorem reads_blanks (plain : rest.head?.any Text.isBlank = false) : Reads blanks [] rest () := by
  have stays : Text.trimStart rest = rest := by
    cases rest with
    | nil => rfl
    | cons c rest =>
      have other : Text.isBlank c = false := plain
      rw [Text.trimStart, List.dropWhile_cons_of_neg (by simp [other])]
  change some ((), Text.trimStart rest) = some ((), rest)
  rw [stays]

/-- A field is read from the two places of its number. -/
theorem reads_field (small : n < 100) (above : low ≤ n) (below : n ≤ high) :
    Reads (field low high) (twoPlaces .zero n) rest n := by
  have nonempty : twoPlaces .zero n ≠ [] := by
    rw [twoPlaces_eq small]
    exact List.cons_ne_nil _ _
  apply Reads.bind_nil (reads_blanks ((spells_twoPlaces small).head?_isBlank nonempty))
  exact reads_two small (by decide) above below

/-- A date of the calendar passes the check. -/
theorem reads_checkedDate {d : Date} (valid : d.isValid = true) :
    Reads (checkedDate d.year d.month d.day) [] rest d := by
  have checked : (checkedDate d.year d.month d.day : Reading Date) = pure d := if_pos valid
  rw [checked]
  exact reads_pure d

/-- The rest of the text is what stands there. -/
theorem reads_get : Reads (get : Reading (List Char)) [] rest rest := rfl

/-- Nothing is left at the end of the text. -/
theorem reads_atEnd : Reads atEnd [] [] () := rfl

/-- There is no fraction where no point follows. -/
theorem reads_fraction (other : rest.head? ≠ some '.') : Reads fraction [] rest 0 := by
  have plain : (rest.head? == some '.') = false := beq_eq_false_iff_ne.mpr other
  apply Reads.bind_nil reads_get
  rw [List.nil_append, plain]
  exact reads_pure 0

/-- The letter for the time of Greenwich is an offset of zero. -/
theorem reads_utc : Reads offset ['Z'] rest 0 := rfl

/-- An optional value that is there is given without reading. -/
theorem reads_liftM {o : Option α} (same : o = some x) : Reads (liftM o) [] rest x := by
  rw [same]
  rfl

/-! ## Years -/

/-- A year from 0 to 9999 is written in four places. -/
theorem yearText_of_short {y : Int} (short : 0 ≤ y ∧ y < 10000) :
    yearText .zero y = pad .zero 4 (Nat.toDigits 10 y.natAbs) := by
  have inRange : (decide (0 ≤ y) && decide (y < 10000)) = true := by simp [short]
  unfold yearText FormatItem.number
  rw [if_pos inRange, if_neg (Int.not_lt.mpr short.1)]

/-- Any other year is written with its sign and in at least four places. -/
theorem yearText_of_long {y : Int} (long : ¬ (0 ≤ y ∧ y < 10000)) : yearText .zero y =
    (if y < 0 then '-' else '+') :: pad .zero 4 (Nat.toDigits 10 y.natAbs) := by
  have outside : ¬ (decide (0 ≤ y) && decide (y < 10000)) = true := by simpa using long
  unfold yearText
  rw [if_neg outside]

/-- The digits of a year. -/
theorem spells_year (y : Int) : Spells (pad .zero 4 (Nat.toDigits 10 y.natAbs)) y.natAbs :=
  (spells_toDigits y.natAbs).pad 4

/-- A year from 0 to 9999 takes up just the four places. -/
theorem length_short {y : Int} (short : 0 ≤ y ∧ y < 10000) :
    (pad .zero 4 (Nat.toDigits 10 y.natAbs)).length = 4 := by
  have few : (Nat.toDigits 10 y.natAbs).length ≤ 4 := by
    rw [Nat.length_toDigits_le_iff (by decide) (by decide)]
    omega
  rw [length_pad, max_eq_left few]

/-- A year takes up at least four places. -/
theorem four_le_length (y : Int) : 4 ≤ (pad .zero 4 (Nat.toDigits 10 y.natAbs)).length := by
  rw [length_pad]
  exact le_max_left _ _

/-- A year without a sign is four digits. -/
theorem reads_unsigned {c : Char} (spells : Spells (c :: cs) n) (four : (c :: cs).length = 4) :
    Reads year (c :: cs) rest n := by
  have digit := spells.digits c List.mem_cons_self
  have number : Reads (number 1 4) (c :: cs) rest n :=
    reads_number spells (by omega) four.le (.inl four)
  apply Reads.bind_nil (reads_blanks (spells.head?_isBlank (List.cons_ne_nil c cs)))
  apply Reads.bind_nil reads_get
  rw [List.cons_append, List.head?_cons]
  split
  case h_3 => exact number.map Int.ofNat
  all_goals
    injections
    subst c
    cases digit

/-- A year with a sign ends where its digits do. -/
theorem reads_signed {c : Char} (sign : c = '-' ∨ c = '+') (spells : Spells cs n)
    (nonempty : 1 ≤ cs.length) (stop : rest.head?.any Char.isDigit = false) :
    Reads year (c :: cs) rest (if c = '-' then -n else n) := by
  have number : Reads (number 1 (c :: cs ++ rest).length) cs rest n :=
    reads_number spells nonempty (by simp; omega) (.inr stop)
  have plain : (c :: cs ++ rest).head?.any Text.isBlank = false := by
    obtain rfl | rfl := sign <;> rfl
  apply Reads.bind_nil (reads_blanks plain)
  apply Reads.bind_nil reads_get
  obtain rfl | rfl := sign
  · exact Reads.bind (reads_char '-') (number.map fun n => -(n : Int))
  · exact Reads.bind (reads_char '+') (number.map Int.ofNat)

/-- A year is read back before a hyphen. -/
theorem reads_year (y : Int) : Reads year (yearText .zero y) ('-' :: rest) y := by
  have spells := spells_year y
  by_cases short : 0 ≤ y ∧ y < 10000
  · have four := length_short short
    have value : (y.natAbs : Int) = y := by omega
    rw [yearText_of_short short]
    obtain ⟨c, digits, same⟩ := List.exists_cons_of_length_eq_add_one four
    rw [same] at spells four ⊢
    have read : Reads year (c :: digits) ('-' :: rest) y.natAbs := reads_unsigned spells four
    rwa [value] at read
  · have four := four_le_length y
    have nonempty : 1 ≤ (pad .zero 4 (Nat.toDigits 10 y.natAbs)).length := by omega
    rw [yearText_of_long short]
    by_cases negative : y < 0
    · have value : -(y.natAbs : Int) = y := by omega
      have read : Reads year _ ('-' :: rest) (if '-' = '-' then -(y.natAbs : Int) else y.natAbs) :=
        reads_signed (.inl rfl) spells nonempty rfl
      rw [if_pos rfl, value] at read
      rwa [if_pos negative]
    · have value : (y.natAbs : Int) = y := by omega
      have read : Reads year _ ('-' :: rest) (if '+' = '-' then -(y.natAbs : Int) else y.natAbs) :=
        reads_signed (.inr rfl) spells nonempty rfl
      rw [if_neg (by decide), value] at read
      rwa [if_neg negative]

end Reader

end TableSeed.Calendar
