import TableSeed.Proofs.Lua.Takes

/-!
# Where words stand

A numeral is made of digits, points, signs and marks, and punctuation has no letters at all. So
letters that make no numeral stand in words, in strings and in comments only.
-/

namespace TableSeed.Lua

namespace Numeral

variable {cs rest : List Char}

/-- Whether a character may stand in a numeral or around it. -/
def isNumeralPart (c : Char) : Bool :=
  (hexDigit? c).isSome || isBlank c || ['+', '-', '.', 'x', 'X', 'p', 'P'].contains c

/-- The rest of a text comes after characters of a numeral only. -/
def Passes (cs rest : List Char) : Prop := ∃ text, cs = text ++ rest ∧ text.all isNumeralPart = true

namespace Passes

/-- Nothing stands between a text and itself. -/
theorem refl (cs : List Char) : Passes cs cs := ⟨[], rfl, rfl⟩

/-- One rest after another comes after the characters of both. -/
theorem trans {middle : List Char} (first : Passes cs middle) (second : Passes middle rest) :
    Passes cs rest := by
  obtain ⟨text, rfl, all⟩ := first
  obtain ⟨more, rfl, all'⟩ := second
  refine ⟨text ++ more, (List.append_assoc _ _ _).symm, ?_⟩
  rw [List.all_append, all, all', Bool.and_self]

/-- One more character of a numeral may stand in front. -/
theorem cons {c : Char} (part : isNumeralPart c = true) (passes : Passes cs rest) :
    Passes (c :: cs) rest :=
  trans ⟨[c], rfl, by simp [part]⟩ passes

end Passes

/-- A digit is a character of a numeral. -/
theorem isNumeralPart_of_digit {c : Char} (digit : (digit? c).isSome) : isNumeralPart c = true := by
  have decimal : c.isDigit = true := by
    unfold digit? at digit
    split_ifs at digit with decimal
    · exact decimal
    · cases digit
  simp [isNumeralPart, hexDigit?, decimal]

/-- A hexadecimal digit is a character of a numeral. -/
theorem isNumeralPart_of_hexDigit {c : Char} (digit : (hexDigit? c).isSome) :
    isNumeralPart c = true := by
  simp [isNumeralPart, digit]

/-- Digits are characters of a numeral. -/
theorem passes_digits {value? : Char → Option Nat}
    (parts : ∀ c, (value? c).isSome → isNumeralPart c = true) (cs : List Char) :
    Passes cs (digits value? cs).2 := by
  induction cs with
  | nil => exact .refl []
  | cons c cs ih =>
    rw [digits]
    cases digit : value? c with
    | none => exact .refl (c :: cs)
    | some d => exact .cons (parts c (by rw [digit]; rfl)) ih

/-- A sign is a character of a numeral. -/
theorem passes_sign (cs : List Char) : Passes cs (sign cs).2 := by
  unfold sign
  split
  · exact .cons (by decide) (.refl _)
  · exact .cons (by decide) (.refl _)
  · exact .refl _

/-- An exponent is made of characters of a numeral. -/
theorem passes_exponent? {lower upper : Char} {e : Int}
    (marks : isNumeralPart lower = true ∧ isNumeralPart upper = true)
    (found : exponent? lower upper cs = some (e, rest)) : Passes cs rest := by
  cases cs with
  | nil => cases found
  | cons c cs =>
    rw [exponent?] at found
    split_ifs at found with mark
    have part : isNumeralPart c = true := by
      rcases Bool.or_eq_true_iff.mp mark with same | same
      · rw [of_decide_eq_true same]
        exact marks.1
      · rw [of_decide_eq_true same]
        exact marks.2
    have passes := (passes_sign cs).trans (passes_digits (fun _ => isNumeralPart_of_digit) _)
    dsimp only at found
    split at found
    · cases found
    · rename_i ds after some read
      obtain ⟨-, rfl⟩ := Prod.mk.inj (Option.some.inj found)
      rw [read] at passes
      exact .cons part passes

/-- A mantissa is made of characters of a numeral. -/
theorem passes_mantissa (base : Nat) {value? : Char → Option Nat}
    (parts : ∀ c, (value? c).isSome → isNumeralPart c = true) (cs : List Char) :
    Passes cs (mantissa base value? cs).2.2.2.2 := by
  have whole := passes_digits parts cs
  unfold mantissa
  dsimp only
  split
  · rename_i after point
    rw [point] at whole
    exact whole.trans (.cons (by decide) (passes_digits parts after))
  · exact whole

/-- A numeral without a sign is made of characters of a numeral. -/
theorem passes_unsigned? {negated : Bool} {n : Num} (found : unsigned? negated cs = some (n, rest)) :
    Passes cs rest := by
  unfold unsigned? at found
  dsimp only at found
  split at found
  · rename_i body marked
    have marks : Passes cs body := by
      split at marked
      all_goals cases marked
      all_goals exact .cons (by decide) (.cons (by decide) (.refl body))
    have digits : Passes cs (mantissa 16 hexDigit? body).2.2.2.2 :=
      marks.trans (passes_mantissa 16 (fun _ => isNumeralPart_of_hexDigit) body)
    cases exponent : exponent? 'p' 'P' (mantissa 16 hexDigit? body).2.2.2.2 with
    | some result =>
      simp only [exponent] at found
      split_ifs at found
      cases found
      exact digits.trans (passes_exponent? (by decide) exponent)
    | none =>
      simp only [exponent] at found
      split_ifs at found
      all_goals
        cases found
        exact digits
  · have digits : Passes cs (mantissa 10 digit? cs).2.2.2.2 :=
      passes_mantissa 10 (fun _ => isNumeralPart_of_digit) cs
    cases exponent : exponent? 'e' 'E' (mantissa 10 digit? cs).2.2.2.2 with
    | some result =>
      simp only [exponent] at found
      split_ifs at found
      cases found
      exact digits.trans (passes_exponent? (by decide) exponent)
    | none =>
      simp only [exponent] at found
      split_ifs at found
      all_goals
        cases found
        exact digits

/-- A text that is a number has characters of numerals only. -/
theorem all_of_ofString? {n : Num} (found : ofString? cs = some n) :
    cs.all isNumeralPart = true := by
  have blank {c : Char} (here : isBlank c = true) : isNumeralPart c = true := by
    simp [isNumeralPart, here]
  have leading : Passes cs (cs.dropWhile isBlank) := by
    refine ⟨cs.takeWhile isBlank, List.takeWhile_append_dropWhile.symm, ?_⟩
    exact List.all_eq_true.mpr fun c mem => blank (List.mem_takeWhile_imp mem)
  unfold ofString? at found
  dsimp only at found
  cases number : unsigned? (sign (cs.dropWhile isBlank)).1 (sign (cs.dropWhile isBlank)).2 with
  | none => simp [number] at found
  | some result =>
    obtain ⟨m, after⟩ := result
    have trailing : after.all isBlank = true := by
      simp only [number] at found
      split_ifs at found with blanks <;> exact blanks
    obtain ⟨text, same, parts⟩ := leading.trans ((passes_sign _).trans (passes_unsigned? number))
    rw [same, List.all_append, parts, Bool.true_and]
    exact List.all_eq_true.mpr fun c mem => blank (List.all_eq_true.mp trailing c mem)

end Numeral

namespace Token

variable {cs rest text : List Char} {c : Char} {line lines : Nat} {token : Option Token}

/-! ## The characters of tokens -/

/-- What is taken for a numeral is put after what was taken before. -/
theorem numeralSpan_eq (lower upper : Char) (out cs : List Char) :
    ∃ text, cs = text ++ (numeralSpan lower upper out cs).2 ∧
      (numeralSpan lower upper out cs).1 = out.reverse ++ text := by
  fun_induction numeralSpan lower upper out cs with
  | case1 out => exact ⟨[], rfl, (List.append_nil _).symm⟩
  | case2 out c _ tail ih =>
    obtain ⟨text, same, taken⟩ := ih
    exact ⟨c :: '+' :: text, congrArg (c :: '+' :: ·) same, by simp [taken]⟩
  | case3 out c _ tail ih =>
    obtain ⟨text, same, taken⟩ := ih
    exact ⟨c :: '-' :: text, congrArg (c :: '-' :: ·) same, by simp [taken]⟩
  | case4 out c _ tail _ _ ih | case5 out c tail _ _ ih =>
    obtain ⟨text, same, taken⟩ := ih
    exact ⟨c :: text, congrArg (c :: ·) same, by simp [taken]⟩
  | case6 out c tail => exact ⟨[c], rfl, by simp⟩
  | case7 out c tail => exact ⟨[], rfl, (List.append_nil _).symm⟩

/-- The text of a numeral is made of characters of a numeral if they all are. -/
theorem passes_numeralText (parts : (numeralText cs).1.all Numeral.isNumeralPart = true) :
    Numeral.Passes cs (numeralText cs).2 := by
  fun_cases numeralText cs with
  | case1 tail | case2 tail =>
    obtain ⟨text, same, taken⟩ := numeralSpan_eq 'p' 'P' ['x', '0'] tail
    have digits : Numeral.Passes tail (numeralSpan 'p' 'P' ['x', '0'] tail).2 := by
      refine ⟨text, same, ?_⟩
      rw [numeralText, taken, List.all_append] at parts
      exact (Bool.and_eq_true_iff.mp parts).2
    exact .cons (by decide) (.cons (by decide) digits)
  | case3 _ lower upper =>
    obtain ⟨text, same, taken⟩ := numeralSpan_eq 'e' 'E' [] cs
    rw [numeralText.eq_3 cs lower upper, taken] at parts
    exact ⟨text, same, parts⟩

/-- What is read as a numeral is made of characters of a numeral. -/
theorem passes_numeral {n : Num} (found : numeral cs = .ok (n, rest)) : Numeral.Passes cs rest := by
  rw [numeral_eq] at found
  cases number : Numeral.ofString? (numeralText cs).1 with
  | none => simp [number] at found
  | some m =>
    simp only [number] at found
    cases found
    exact passes_numeralText (Numeral.all_of_ofString? number)

/-- A line end is made of blanks. -/
theorem passes_lineEnd? (found : lineEnd? cs = some rest) : Numeral.Passes cs rest := by
  unfold lineEnd? at found
  split at found
  all_goals cases found
  all_goals first
    | exact .cons (by decide) (.cons (by decide) (.refl rest))
    | exact .cons (by decide) (.refl rest)

/-- Punctuation has no letters. -/
theorem punctuation?_append {symbol : Symbol} (found : punctuation? cs = some (symbol, rest)) :
    ∃ text, cs = text ++ rest ∧ text.any isNamePart = false := by
  unfold punctuation? at found
  split at found
  all_goals cases found
  case h_1 => exact ⟨[_, _, _], rfl, by decide⟩
  case h_2 | h_4 | h_6 | h_8 | h_9 | h_11 | h_12 | h_14 | h_16 => exact ⟨[_, _], rfl, by decide⟩
  all_goals exact ⟨[_], rfl, by decide⟩

/-- What is no word and no numeral is a long string or has no letters. -/
theorem nextSymbol_cases (found : nextSymbol line c cs = .ok (token, lines, rest)) :
    (∃ bytes, token = some (.string bytes)) ∨
      ∃ text, c :: cs = text ++ rest ∧ text.any isNamePart = false := by
  obtain ⟨_, _, _, -, -, -, string⟩ | ⟨-, s, symbol, -, -⟩ := nextSymbol_ok_iff.mp found
  · exact .inl ⟨_, string⟩
  · exact .inr (punctuation?_append symbol)

/-- Where no quote and no comment begins, such a letter stands in a word or in a long string. -/
theorem word_of_nextPlain {letter : Char} (mem : letter ∈ c :: cs)
    (start : isNameStart letter = true) (other : Numeral.isNumeralPart letter = false)
    (found : nextPlain line c (cs ++ rest) = .ok (token, lines, rest)) :
    (∃ bytes, token = some (.string bytes)) ∨
      token = some (ofWord (String.ofList (c :: cs))) ∧ (∀ d ∈ c :: cs, isNamePart d = true) ∧
        rest.head?.any isNamePart = false := by
  have noPart (passes : Numeral.Passes (c :: (cs ++ rest)) rest) : False := by
    obtain ⟨text, same, parts⟩ := passes
    obtain rfl : c :: cs = text := List.append_cancel_right same
    rw [List.all_eq_true.mp parts letter mem] at other
    cases other
  generalize whole : cs ++ rest = tail at found noPart
  cases nextPlain_ok_iff.mp found with
  | lineEnd ends => exact (noPart (passes_lineEnd? ends)).elim
  | blank _ blank =>
    have part : Numeral.isNumeralPart c = true := by simp [Numeral.isNumeralPart, blank]
    exact (noPart (.cons part (.refl _))).elim
  | word =>
    have word : (c :: tail).takeWhile isNamePart = c :: cs := by
      refine List.append_cancel_right (List.takeWhile_append_dropWhile.trans ?_)
      rw [List.cons_append, whole]
    refine .inr ⟨by rw [word], fun d part => ?_, head?_dropWhile _ _⟩
    rw [← word] at part
    exact List.mem_takeWhile_imp part
  | number _ _ _ _ number => exact (noPart (passes_numeral number)).elim
  | symbol _ _ _ _ found =>
    obtain string | ⟨text, same, noName⟩ := nextSymbol_cases found
    · exact .inl string
    · rw [← whole, ← List.cons_append] at same
      obtain rfl : c :: cs = text := List.append_cancel_right same
      have name := List.any_eq_false.mp noName letter mem
      exact absurd (isNamePart_of_start start) name

/-- A letter that is no part of a numeral stands in a comment, in a string or in a word. -/
theorem word_of_letter {letter : Char} (mem : letter ∈ text) (start : isNameStart letter = true)
    (other : Numeral.isNumeralPart letter = false)
    (found : next line (text ++ rest) = .ok (token, lines, rest)) :
    IsComment text ∨ (∃ bytes, token = some (.string bytes)) ∨
      token = some (ofWord (String.ofList text)) ∧ (∀ d ∈ text, isNamePart d = true) ∧
        rest.head?.any isNamePart = false := by
  cases text with
  | nil => cases mem
  | cons c cs =>
    by_cases isComment : IsComment (c :: cs ++ rest)
    · obtain ⟨body, -, same, -⟩ := comment_of_taken isComment found
      exact .inl ⟨body, same.symm⟩
    · refine .inr ?_
      by_cases noQuote : c ≠ '"' ∧ c ≠ '\''
      · rw [List.cons_append] at isComment found
        rw [next_eq_plain line isComment noQuote] at found
        exact word_of_nextPlain mem start other found
      · have quote : c = '"' ∨ c = '\'' := by tauto
        obtain ⟨bytes, -, string⟩ := (next_quote_iff quote).mp found
        exact .inl ⟨_, string⟩

end Token

end TableSeed.Lua
