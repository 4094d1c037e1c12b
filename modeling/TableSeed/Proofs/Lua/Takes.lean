import TableSeed.Proofs.Lua.Strings

/-!
# What a token takes

A token is decided by the characters that it takes and by the next one, and so are blanks. Comments
are apart: they take what they take, however it is changed.
-/

namespace TableSeed.Lua.Token

variable {cs rest : List Char} {c : Char}

/-! ## Numerals -/

section Span

variable {lower upper sign : Char} {out : List Char}

/-- The mark of an exponent with its sign. -/
theorem numeralSpan_sign (mark : (c = lower || c = upper) = true) (signed : sign = '+' ∨ sign = '-')
    (cs : List Char) :
    numeralSpan lower upper out (c :: sign :: cs) = numeralSpan lower upper (sign :: c :: out) cs := by
  conv_lhs => unfold numeralSpan
  rw [if_pos mark]
  obtain rfl | rfl := signed <;> rfl

/-- The mark of an exponent without a sign. -/
theorem numeralSpan_mark (mark : (c = lower || c = upper) = true)
    (unsigned : cs.head? ≠ some '+' ∧ cs.head? ≠ some '-') :
    numeralSpan lower upper out (c :: cs) = numeralSpan lower upper (c :: out) cs := by
  conv_lhs => unfold numeralSpan
  rw [if_pos mark]
  split
  · exact absurd rfl unsigned.1
  · exact absurd rfl unsigned.2
  · rfl

/-- A digit or a point. -/
theorem numeralSpan_part (mark : ¬ (c = lower || c = upper) = true)
    (part : ((Numeral.hexDigit? c).isSome || c = '.') = true) (cs : List Char) :
    numeralSpan lower upper out (c :: cs) = numeralSpan lower upper (c :: out) cs := by
  conv_lhs => unfold numeralSpan
  rw [if_neg mark, if_pos part]

/-- A numeral takes its characters as far as they go. -/
theorem takes_numeralSpan (lower upper : Char) (out cs : List Char) :
    Takes (numeralSpan lower upper out) ((numeralSpan lower upper out cs).1, ·) cs
      (numeralSpan lower upper out cs).2 := by
  fun_induction numeralSpan lower upper out cs with
  | case1 out =>
    refine ⟨[], rfl, fun rest' alike => ?_⟩
    cases alike
    rfl
  | case2 out c mark tail ih =>
    obtain ⟨text, same, takes⟩ := ih
    refine ⟨c :: '+' :: text, congrArg (c :: '+' :: ·) same, fun rest' alike => ?_⟩
    rw [← takes rest' alike]
    exact numeralSpan_sign mark (.inl rfl) _
  | case3 out c mark tail ih =>
    obtain ⟨text, same, takes⟩ := ih
    refine ⟨c :: '-' :: text, congrArg (c :: '-' :: ·) same, fun rest' alike => ?_⟩
    rw [← takes rest' alike]
    exact numeralSpan_sign mark (.inr rfl) _
  | case4 out c mark tail noPlus noMinus ih =>
    obtain ⟨text, same, takes⟩ := ih
    refine ⟨c :: text, congrArg (c :: ·) same, fun rest' alike => ?_⟩
    have alike' : Alike tail (text ++ rest') := by
      rw [same]
      exact alike.append text
    have noSign {sign : Char} (first : ∀ rest, tail = sign :: rest → False) :
        tail.head? ≠ some sign := by
      intro starts
      obtain ⟨after, starts⟩ := List.head?_eq_some_iff.mp starts
      exact first after starts
    rw [← takes rest' alike]
    apply numeralSpan_mark mark
    constructor
    · exact (alike'.head?_iff (by decide)).not.mpr (noSign noPlus)
    · exact (alike'.head?_iff (by decide)).not.mpr (noSign noMinus)
  | case5 out c tail mark part ih =>
    obtain ⟨text, same, takes⟩ := ih
    refine ⟨c :: text, congrArg (c :: ·) same, fun rest' alike => ?_⟩
    rw [← takes rest' alike]
    exact numeralSpan_part mark part _
  | case6 out c tail mark part start =>
    refine ⟨[c], rfl, fun rest' _ => ?_⟩
    rw [List.singleton_append]
    unfold numeralSpan
    rw [if_neg mark, if_neg part, if_pos start]
  | case7 out c tail mark part start =>
    refine ⟨[], rfl, fun rest' alike => ?_⟩
    cases alike with
    | same =>
      rw [List.nil_append]
      unfold numeralSpan
      rw [if_neg mark, if_neg part, if_neg start]
    | marked => exact absurd rfl start

end Span

/-- The characters of a numeral, hexadecimal if it is marked so, and the rest. -/
def numeralText : List Char → List Char × List Char
  | '0' :: 'x' :: rest => numeralSpan 'p' 'P' ['x', '0'] rest
  | '0' :: 'X' :: rest => numeralSpan 'p' 'P' ['x', '0'] rest
  | cs => numeralSpan 'e' 'E' [] cs

/-- A numeral is read from its text. -/
theorem numeral_eq (cs : List Char) : numeral cs =
    match Numeral.ofString? (numeralText cs).1 with
    | some n => .ok (n, (numeralText cs).2)
    | none => .error .malformedNumber := by
  fun_cases numeralText cs with
  | case1 | case2 => rfl
  | case3 _ lower upper => exact numeral.eq_3 _ lower upper

/-- A numeral without the mark of a hexadecimal one is decimal. -/
theorem numeralText_decimal (first : (c.isDigit || c = '.') = true)
    (unmarked : ¬ (c = '0' ∧ (cs.head? = some 'x' ∨ cs.head? = some 'X'))) :
    numeralText (c :: cs) = numeralSpan 'e' 'E' [c] cs := by
  have mark : ¬ (c = 'e' || c = 'E') = true := by
    intro mark
    rcases Bool.or_eq_true_iff.mp mark with same | same
    · rw [of_decide_eq_true same] at first
      cases first
    · rw [of_decide_eq_true same] at first
      cases first
  have part : ((Numeral.hexDigit? c).isSome || c = '.') = true := by
    rcases Bool.or_eq_true_iff.mp first with digit | point
    · simp [Numeral.hexDigit?, digit]
    · rw [point, Bool.or_true]
  rw [← numeralSpan_part mark part]
  apply numeralText.eq_3
  · intro tail same
    obtain ⟨rfl, rfl⟩ := List.cons.inj same
    exact unmarked ⟨rfl, .inl rfl⟩
  · intro tail same
    obtain ⟨rfl, rfl⟩ := List.cons.inj same
    exact unmarked ⟨rfl, .inr rfl⟩

/-- A numeral begins with a character of its own. -/
theorem takes_numeralText (first : (c.isDigit || c = '.') = true) (cs : List Char) :
    Takes (fun tail => numeralText (c :: tail)) ((numeralText (c :: cs)).1, ·) cs
      (numeralText (c :: cs)).2 := by
  by_cases hexadecimal : c = '0' ∧ (cs.head? = some 'x' ∨ cs.head? = some 'X')
  · obtain ⟨rfl, mark⟩ := hexadecimal
    obtain ⟨d, tail, rfl, letter⟩ : ∃ d tail, cs = d :: tail ∧ (d = 'x' ∨ d = 'X') := by
      cases cs with
      | nil => simp at mark
      | cons d tail => exact ⟨d, tail, rfl, by simpa using mark⟩
    obtain ⟨text, same, takes⟩ := takes_numeralSpan 'p' 'P' ['x', '0'] tail
    obtain rfl | rfl := letter <;> exact ⟨_ :: text, congrArg (_ :: ·) same, takes⟩
  · rw [numeralText_decimal first hexadecimal]
    obtain ⟨text, same, takes⟩ := takes_numeralSpan 'e' 'E' [c] cs
    refine ⟨text, same, fun rest' alike => ?_⟩
    have alike' : Alike cs (text ++ rest') := by
      have := alike.append text
      rwa [← same] at this
    have unmarked : ¬ (c = '0' ∧ ((text ++ rest').head? = some 'x' ∨
        (text ++ rest').head? = some 'X')) := by
      rwa [alike'.head?_iff (by decide), alike'.head?_iff (by decide)]
    show numeralText (c :: (text ++ rest')) = _
    rw [numeralText_decimal first unmarked]
    exact takes rest' alike

/-- Reading a numeral takes its text away, whatever follows that begins alike. -/
theorem takes_numeral {n : Num} (first : (c.isDigit || c = '.') = true)
    (found : numeral (c :: cs) = .ok (n, rest)) :
    Takes (fun tail => numeral (c :: tail)) (fun rest => .ok (n, rest)) cs rest := by
  obtain ⟨text, same, takes⟩ := takes_numeralText first cs
  rw [numeral_eq] at found
  cases number : Numeral.ofString? (numeralText (c :: cs)).1 with
  | none => simp [number] at found
  | some m =>
    simp only [number] at found
    obtain ⟨rfl, rfl⟩ := Prod.mk.inj (Except.ok.inj found)
    refine ⟨text, same, fun rest' alike => ?_⟩
    have again : numeralText (c :: (text ++ rest')) = ((numeralText (c :: cs)).1, rest') :=
      takes rest' alike
    show numeral (c :: (text ++ rest')) = _
    rw [numeral_eq, again, number]

/-! ## Punctuation -/

/-- Punctuation takes its characters, as many as make a symbol. A symbol that could be longer is
not, and none of the characters that would make it longer can come to stand after it. -/
theorem takes_punctuation? {symbol : Symbol} (found : punctuation? cs = some (symbol, rest)) :
    ∃ c text, cs = c :: text ++ rest ∧
      ∀ rest', Alike rest rest' → punctuation? (c :: text ++ rest') = some (symbol, rest') := by
  have other (rest' : List Char) (alike : Alike rest rest') (d : Char)
      (neutral : d ≠ 't' ∧ d ≠ '_') (none : ∀ tail, rest = d :: tail → False) (tail : List Char) :
      rest' = d :: tail → False := by
    rintro rfl
    obtain ⟨after, starts⟩ := List.head?_eq_some_iff.mp ((alike.head?_iff neutral).mp rfl)
    exact none after starts
  unfold punctuation? at found
  split at found
  all_goals cases found
  case h_2 none =>
    refine ⟨'.', ['.'], rfl, fun rest' alike => ?_⟩
    exact punctuation?.eq_2 rest' (other rest' alike '.' (by decide) none)
  case h_3 _ none =>
    refine ⟨'.', [], rfl, fun rest' alike => ?_⟩
    have single := other rest' alike '.' (by decide) none
    exact punctuation?.eq_3 rest' (fun tail => single ('.' :: tail)) single
  case h_5 none | h_7 none | h_15 none | h_17 none =>
    refine ⟨_, [], rfl, fun rest' alike => ?_⟩
    rw [List.cons_append, List.nil_append, punctuation?]
    exact other rest' alike _ (by decide) none
  case h_10 none none' | h_13 none none' =>
    refine ⟨_, [], rfl, fun rest' alike => ?_⟩
    rw [List.cons_append, List.nil_append, punctuation?]
    · exact other rest' alike _ (by decide) none
    · exact other rest' alike _ (by decide) none'
  case h_1 => exact ⟨'.', ['.', '.'], rfl, fun _ _ => rfl⟩
  case h_4 | h_6 | h_8 | h_9 | h_11 | h_12 | h_14 | h_16 => exact ⟨_, [_], rfl, fun _ _ => rfl⟩
  all_goals exact ⟨_, [], rfl, fun _ _ => rfl⟩

/-! ## Tokens -/

/-- A long string or the punctuation that a text begins with. -/
def nextSymbol (line : Nat) (c : Char) (rest : List Char) :
    Except SourceFault (Option Token × Nat × List Char) :=
  match (if c = '[' then longBracket? '[' rest else none) with
  | some (level, body) =>
    match longStringBody level line body with
    | some (text, line, rest) =>
      .ok (some (.string (Bytes.ofText (String.ofList text))), line, rest)
    | none => .error .unfinishedString
  | none =>
    if c = '[' && rest.head? = some '=' then .error .invalidDelimiter
    else
      match punctuation? (c :: rest) with
      | some (s, rest) => .ok (some (.symbol s), line, rest)
      | none => .error .unexpectedCharacter

/-- The next token where no quote and no comment begins. -/
def nextPlain (line : Nat) (c : Char) (rest : List Char) :
    Except SourceFault (Option Token × Nat × List Char) :=
  match lineEnd? (c :: rest) with
  | some rest => .ok (none, line + 1, rest)
  | none =>
    if Numeral.isBlank c then .ok (none, line, rest)
    else if isNameStart c then
      .ok (some (ofWord (String.ofList ((c :: rest).takeWhile isNamePart))), line,
        (c :: rest).dropWhile isNamePart)
    else if c.isDigit || (c = '.' && (rest.head?.any Char.isDigit)) then
      match numeral (c :: rest) with
      | .ok (n, rest) => .ok (some (.number n), line, rest)
      | .error e => .error e
    else nextSymbol line c rest

/-- A long string is read, or a symbol where no long string begins. -/
theorem nextSymbol_ok_iff {line lines : Nat} {token : Option Token} :
    nextSymbol line c cs = .ok (token, lines, rest) ↔
      (∃ level body text, c = '[' ∧ longBracket? '[' cs = some (level, body) ∧
        longStringBody level line body = some (text, lines, rest) ∧
        token = some (.string (Bytes.ofText (String.ofList text)))) ∨
      (c = '[' → longBracket? '[' cs = none ∧ cs.head? ≠ some '=') ∧
        ∃ s, punctuation? (c :: cs) = some (s, rest) ∧ token = some (.symbol s) ∧ lines = line := by
  constructor
  · intro found
    unfold nextSymbol at found
    split at found
    · rename_i level body bracket
      split_ifs at bracket with opens
      split at found
      · rename_i text ending after content
        cases found
        exact .inl ⟨level, body, text, opens, bracket, content, rfl⟩
      · cases found
    · rename_i noBracket
      split_ifs at found with delimiter
      split at found
      · rename_i s after symbol
        cases found
        refine .inr ⟨fun opens => ⟨by rwa [if_pos opens] at noBracket, fun equals => ?_⟩, s, symbol,
          rfl, rfl⟩
        exact delimiter (by rw [equals, opens]; rfl)
      · cases found
  · rintro (⟨level, body, text, rfl, bracket, content, rfl⟩ | ⟨noBracket, s, symbol, rfl, rfl⟩)
    · simp only [nextSymbol, if_true, bracket, content]
    · have none : (if c = '[' then longBracket? '[' cs else none) = none := by
        split_ifs with opens
        · exact (noBracket opens).1
        · rfl
      have delimiter : ¬ (c = '[' && cs.head? = some '=') = true := by
        rw [Bool.and_eq_true, decide_eq_true_eq, decide_eq_true_eq]
        exact fun both => (noBracket both.1).2 both.2
      simp only [nextSymbol, none, if_neg delimiter, symbol]

/-- How a token is read where no quote and no comment begins. -/
inductive ReadsPlain (line : Nat) (c : Char) (cs : List Char) :
    Option Token → Nat → List Char → Prop where
  | lineEnd {rest : List Char} : lineEnd? (c :: cs) = some rest →
    ReadsPlain line c cs none (line + 1) rest
  | blank : lineEnd? (c :: cs) = none → Numeral.isBlank c = true → ReadsPlain line c cs none line cs
  | word : lineEnd? (c :: cs) = none → ¬ Numeral.isBlank c = true → isNameStart c = true →
    ReadsPlain line c cs (some (ofWord (String.ofList ((c :: cs).takeWhile isNamePart)))) line
      ((c :: cs).dropWhile isNamePart)
  | number {n : Num} {rest : List Char} : lineEnd? (c :: cs) = none → ¬ Numeral.isBlank c = true →
    ¬ isNameStart c = true → (c.isDigit || (c = '.' && (cs.head?.any Char.isDigit))) = true →
    numeral (c :: cs) = .ok (n, rest) → ReadsPlain line c cs (some (.number n)) line rest
  | symbol {token : Option Token} {lines : Nat} {rest : List Char} : lineEnd? (c :: cs) = none →
    ¬ Numeral.isBlank c = true → ¬ isNameStart c = true →
    ¬ (c.isDigit || (c = '.' && (cs.head?.any Char.isDigit))) = true →
    nextSymbol line c cs = .ok (token, lines, rest) → ReadsPlain line c cs token lines rest

/-- The tokens but comments and quoted strings are read as the relation says. -/
theorem nextPlain_ok_iff {line lines : Nat} {token : Option Token} :
    nextPlain line c cs = .ok (token, lines, rest) ↔ ReadsPlain line c cs token lines rest := by
  constructor
  · intro found
    unfold nextPlain at found
    cases ends : lineEnd? (c :: cs) with
    | some after =>
      simp only [ends] at found
      cases found
      exact .lineEnd ends
    | none =>
      simp only [ends] at found
      split_ifs at found with blank start digit
      · cases found
        exact .blank ends blank
      · cases found
        exact .word ends blank start
      · cases number : numeral (c :: cs) with
        | error e => simp [number] at found
        | ok result =>
          simp only [number] at found
          cases found
          exact .number ends blank start digit number
      · exact .symbol ends blank start digit found
  · intro reads
    cases reads with
    | lineEnd ends => simp only [nextPlain, ends]
    | blank ends blank => simp only [nextPlain, ends, if_pos blank]
    | word ends blank start => simp only [nextPlain, ends, if_neg blank, if_pos start]
    | number ends blank start digit number =>
      simp only [nextPlain, ends, if_neg blank, if_neg start, if_pos digit, number]
    | symbol ends blank start digit found =>
      simp only [nextPlain, ends, if_neg blank, if_neg start, if_neg digit, found]

/-- Whether a text begins with a comment. -/
def IsComment (cs : List Char) : Prop := ['-', '-'] <+: cs

instance (cs : List Char) : Decidable (IsComment cs) :=
  inferInstanceAs (Decidable (['-', '-'] <+: cs))

/-- Where neither a comment nor a quotation begins, one of the other tokens does. -/
theorem next_eq_plain (line : Nat) (noComment : ¬ IsComment (c :: cs))
    (noQuote : c ≠ '"' ∧ c ≠ '\'') : next line (c :: cs) = nextPlain line c cs := by
  refine next.eq_5 line c cs (fun tail dash dash' => noComment ?_) noQuote.1 noQuote.2
  rw [dash, dash']
  exact ⟨tail, rfl⟩

/-- What follows cannot make a comment of what is none. -/
theorem not_isComment_of_alike {tail tail' : List Char} (noComment : ¬ IsComment (c :: tail))
    (alike : Alike tail tail') : ¬ IsComment (c :: tail') := by
  rintro ⟨after, same⟩
  obtain ⟨rfl, rfl⟩ := List.cons.inj same
  have begins : tail.head? = some '-' := (alike.head?_iff (by decide)).mp rfl
  obtain ⟨others, rfl⟩ := List.head?_eq_some_iff.mp begins
  exact noComment ⟨others, rfl⟩

/-- What may begin a name may go on with it. -/
theorem isNamePart_of_start (start : isNameStart c = true) : isNamePart c = true := by
  rcases Bool.or_eq_true_iff.mp start with letter | underscore
  · simp [isNamePart, Char.isAlphanum, letter]
  · simp [isNamePart, underscore]

variable {line lines : Nat} {token : Option Token}

/-- A long string takes its characters, and a symbol those that make it. -/
theorem takes_nextSymbol (found : nextSymbol line c cs = .ok (token, lines, rest)) :
    Takes (nextSymbol line c) (fun rest => .ok (token, lines, rest)) cs rest := by
  obtain ⟨level, body, text, rfl, bracket, content, string⟩ |
    ⟨noBracket, s, symbol, isSymbol, same⟩ := nextSymbol_ok_iff.mp found
  · obtain ⟨first, rfl, last, bracket'⟩ := takes_longBracket? (by decide) bracket
    have mem := List.mem_of_getLast? last
    obtain ⟨second, rfl, -, takes⟩ := takes_longStringBody content
    refine ⟨first ++ second, (List.append_assoc _ _ _).symm, fun rest' _ => ?_⟩
    have again : longBracket? '[' (first ++ second ++ rest') = some (level, second ++ rest') := by
      rw [List.append_assoc, longBracket?_append (by decide) mem, bracket']
      rfl
    exact nextSymbol_ok_iff.mpr (.inl ⟨level, _, text, rfl, again, takes rest', string⟩)
  · obtain ⟨d, text, begins, takes⟩ := takes_punctuation? symbol
    rw [List.cons_append] at begins
    obtain ⟨rfl, rfl⟩ := List.cons.inj begins
    refine ⟨text, rfl, fun rest' alike => ?_⟩
    refine nextSymbol_ok_iff.mpr (.inr ⟨fun opens => ?_, s, takes rest' alike, isSymbol, same⟩)
    have alike' := alike.append text
    obtain ⟨none, equals⟩ := noBracket opens
    have closed := (longBracket?_eq_none_iff equals).mp none
    have equals' := (alike'.head?_iff (by decide)).not.mpr equals
    exact ⟨(longBracket?_eq_none_iff equals').mpr ((alike'.head?_iff (by decide)).not.mpr closed),
      equals'⟩

/-- A token without quotes takes its characters, as many as are its own. -/
theorem takes_nextPlain (found : nextPlain line c cs = .ok (token, lines, rest)) :
    Takes (nextPlain line c) (fun rest => .ok (token, lines, rest)) cs rest := by
  have noEnd (ends : lineEnd? (c :: cs) = none) (tail : List Char) : lineEnd? (c :: tail) = none :=
    lineEnd?_eq_none_iff.mpr (lineEnd?_eq_none_iff.mp ends)
  cases nextPlain_ok_iff.mp found with
  | lineEnd ends =>
    obtain ⟨d, text, same, -, takes⟩ := takes_lineEnd? ends
    obtain ⟨rfl, rfl⟩ := List.cons.inj same
    exact ⟨text, rfl, fun rest' alike => nextPlain_ok_iff.mpr (.lineEnd (takes rest' alike))⟩
  | blank ends blank =>
    exact ⟨[], rfl, fun rest' _ => nextPlain_ok_iff.mpr (.blank (noEnd ends _) blank)⟩
  | word ends blank start =>
    have part := isNamePart_of_start start
    rw [List.takeWhile_cons_of_pos part, List.dropWhile_cons_of_pos part]
    refine ⟨cs.takeWhile isNamePart, List.takeWhile_append_dropWhile.symm, fun rest' alike => ?_⟩
    have stop : rest'.head?.any isNamePart = false :=
      (alike.head?_any (by decide)).trans (head?_dropWhile _ _)
    obtain ⟨word, after⟩ := span_append
      (fun d (mem : d ∈ cs.takeWhile isNamePart) => List.mem_takeWhile_imp mem) stop
    have reads : ReadsPlain line c (cs.takeWhile isNamePart ++ rest') _ _ _ :=
      .word (noEnd ends _) blank start
    rw [List.takeWhile_cons_of_pos part, List.dropWhile_cons_of_pos part, word, after] at reads
    exact nextPlain_ok_iff.mpr reads
  | number ends blank start digit number =>
    have first : (c.isDigit || c = '.') = true := by
      rcases Bool.or_eq_true_iff.mp digit with here | point
      · rw [here, Bool.true_or]
      · rw [(Bool.and_eq_true_iff.mp point).1, Bool.or_true]
    obtain ⟨text, rfl, takes⟩ := takes_numeral first number
    refine ⟨text, rfl, fun rest' alike => ?_⟩
    rw [← (alike.append text).head?_any (by decide)] at digit
    exact nextPlain_ok_iff.mpr (.number (noEnd ends _) blank start digit (takes rest' alike))
  | symbol ends blank start digit found =>
    obtain ⟨text, rfl, takes⟩ := takes_nextSymbol found
    refine ⟨text, rfl, fun rest' alike => ?_⟩
    rw [← (alike.append text).head?_any (by decide)] at digit
    exact nextPlain_ok_iff.mpr (.symbol (noEnd ends _) blank start digit (takes rest' alike))

/-- Where a quote begins, the next token is the string up to the closing quote. -/
theorem next_quote_iff (quote : c = '"' ∨ c = '\'') : next line (c :: cs) = .ok (token, lines, rest) ↔
    ∃ bytes, quoted c (cs.length + 1) line [] cs = .ok (bytes, lines, rest) ∧
      token = some (.string (Bytes.ofList bytes)) := by
  obtain rfl | rfl := quote
  all_goals
    unfold next
    simp only
    split
    · rename_i bytes ending after content
      rw [content]
      constructor
      · intro found
        cases found
        exact ⟨bytes, rfl, rfl⟩
      · rintro ⟨bytes, same, rfl⟩
        cases same
        rfl
    · rename_i e content
      rw [content]
      constructor
      · intro found
        cases found
      · rintro ⟨bytes, same, -⟩
        cases same

/-- What the next token takes, unless it is a comment. -/
theorem takes_next (noComment : ¬ IsComment (c :: cs))
    (found : next line (c :: cs) = .ok (token, lines, rest)) :
    Takes (fun tail => next line (c :: tail)) (fun rest => .ok (token, lines, rest)) cs rest := by
  by_cases noQuote : c ≠ '"' ∧ c ≠ '\''
  · rw [next_eq_plain line noComment noQuote] at found
    obtain ⟨text, rfl, takes⟩ := takes_nextPlain found
    refine ⟨text, rfl, fun rest' alike => ?_⟩
    show next line (c :: (text ++ rest')) = _
    rw [next_eq_plain line (not_isComment_of_alike noComment (alike.append text)) noQuote]
    exact takes rest' alike
  · have quote : c = '"' ∨ c = '\'' := by tauto
    obtain ⟨bytes, content, string⟩ := (next_quote_iff quote).mp found
    obtain ⟨text, rfl, -, takes⟩ := takes_quoted content
    refine ⟨text, rfl, fun rest' _ => ?_⟩
    exact (next_quote_iff quote).mpr ⟨bytes, takes rest' _ (by simp), string⟩

/-- Whether a character does not end its line. -/
def isInLine (c : Char) : Bool := c ≠ '\n' && c ≠ '\r'

/-- A comment after a long bracket ends with the closing one. -/
theorem comment_of_bracket {level : Nat} {body : List Char}
    (bracket : longBracket? '[' cs = some (level, body)) : comment ('[' :: cs) =
      match longStringBody level 0 body with
      | some (_, lines, rest) => .ok (lines, rest)
      | none => .error .unfinishedComment := by
  cases content : longStringBody level 0 body <;> simp [comment, bracket, content]

/-- A comment without a long bracket ends with its line. -/
theorem comment_of_line (line : ∀ tail, cs = '[' :: tail → longBracket? '[' tail = none) :
    comment cs = .ok (0, cs.dropWhile isInLine) := by
  unfold comment
  simp only
  split
  · rename_i tail
    rw [line tail rfl]
    rfl
  · rfl

/-- A comment has a long bracket or goes up to the end of its line. -/
theorem comment_cases (cs : List Char) :
    (∃ tail level body, cs = '[' :: tail ∧ longBracket? '[' tail = some (level, body)) ∨
      ∀ tail, cs = '[' :: tail → longBracket? '[' tail = none := by
  by_cases opens : ∃ tail, cs = '[' :: tail
  · obtain ⟨tail, rfl⟩ := opens
    cases bracket : longBracket? '[' tail with
    | none =>
      refine .inr fun other same => ?_
      rw [← (List.cons.inj same).2, bracket]
    | some found => exact .inl ⟨tail, found.1, found.2, rfl, bracket⟩
  · exact .inr fun tail same => absurd ⟨tail, same⟩ opens

/-- A comment takes what stands up to its closing bracket or up to the end of its line. -/
theorem takes_comment {n : Nat} (found : comment cs = .ok (n, rest)) :
    ∃ text, cs = text ++ rest ∧
      (text.getLast? = some ']' ∨ rest.head?.any isInLine = false) := by
  obtain ⟨tail, level, body, rfl, bracket⟩ | line := comment_cases cs
  · obtain ⟨first, rfl, -, -⟩ := takes_longBracket? (by decide) bracket
    rw [comment_of_bracket bracket] at found
    split at found
    · rename_i content lines after inner
      obtain ⟨rfl, rfl⟩ := by simpa using found
      obtain ⟨second, rfl, last, -⟩ := takes_longStringBody inner
      refine ⟨'[' :: first ++ second, by simp, .inl ?_⟩
      rw [List.getLast?_append, last]
      rfl
    · cases found
  · rw [comment_of_line line, Except.ok.injEq, Prod.mk.injEq] at found
    obtain ⟨rfl, rfl⟩ := found
    exact ⟨_, List.takeWhile_append_dropWhile.symm, .inr (head?_dropWhile _ cs)⟩

/-- A comment is no token. -/
theorem next_comment (line : Nat) (cs : List Char) : next line ('-' :: '-' :: cs) =
    match comment cs with
    | .ok (lines, rest) => .ok (none, line + lines, rest)
    | .error e => .error e := rfl

/-- A comment is read as such after its two dashes, and gives no token. -/
theorem comment_of_next (isComment : IsComment cs)
    (found : next line cs = .ok (token, lines, rest)) : ∃ body n, cs = '-' :: '-' :: body ∧
      token = none ∧ lines = line + n ∧ comment body = .ok (n, rest) := by
  obtain ⟨body, rfl⟩ := isComment
  change next line ('-' :: '-' :: body) = _ at found
  rw [next_comment] at found
  cases result : comment body with
  | error e => simp [result] at found
  | ok taken =>
    obtain ⟨n, after⟩ := taken
    simp only [result] at found
    cases found
    exact ⟨body, n, rfl, rfl, rfl, result⟩

/-- A comment is no token, and its text is its own. -/
theorem comment_of_taken {text : List Char} (isComment : IsComment (text ++ rest))
    (found : next line (text ++ rest) = .ok (token, lines, rest)) :
    ∃ body n, text = '-' :: '-' :: body ∧ token = none ∧ lines = line + n ∧
      comment (body ++ rest) = .ok (n, rest) ∧
      (body.getLast? = some ']' ∨ rest.head?.any isInLine = false) := by
  obtain ⟨tail, n, same, none, ending, result⟩ := comment_of_next isComment found
  obtain ⟨body, rfl, last⟩ := takes_comment result
  exact ⟨body, n, List.append_cancel_right same, none, ending, result, last⟩

/-- What the next token takes is not empty. -/
theorem exists_taken (found : next line (c :: cs) = .ok (token, lines, rest)) :
    ∃ text, text ≠ [] ∧ c :: cs = text ++ rest := by
  by_cases isComment : IsComment (c :: cs)
  · obtain ⟨body, n, same, -, -, result⟩ := comment_of_next isComment found
    obtain ⟨text, rfl, -⟩ := takes_comment result
    exact ⟨'-' :: '-' :: text, List.cons_ne_nil _ _, same⟩
  · obtain ⟨text, rfl, -⟩ := takes_next isComment found
    exact ⟨c :: text, List.cons_ne_nil _ _, rfl⟩

/-! ## Names -/

/-- A word that is a name is that name. -/
theorem eq_of_ofWord_eq_name {word name : String} (same : ofWord word = .name name) : word = name := by
  unfold ofWord at same
  split at same
  all_goals cases same
  rfl

/-- What begins a name comes after the digits and most signs. -/
theorem le_toNat_of_start (start : isNameStart c = true) : 65 ≤ c.toNat := by
  simp only [isNameStart, Char.isAlpha, Char.isUpper, Char.isLower, Bool.or_eq_true,
    Bool.and_eq_true, decide_eq_true_eq, ge_iff_le, UInt32.le_iff_toNat_le] at start
  have same : c.toNat = c.val.toNat := rfl
  obtain (upper | lower) | rfl := start
  · rw [same]
    exact upper.1
  · rw [same]
    exact le_trans (by decide) lower.1
  · decide

/-- A word is taken as a whole. -/
theorem next_word (line : Nat) (start : isNameStart c = true) (part : ∀ d ∈ cs, isNamePart d = true)
    (stop : rest.head?.any isNamePart = false) :
    next line (c :: cs ++ rest) = .ok (some (ofWord (String.ofList (c :: cs))), line, rest) := by
  have part' := isNamePart_of_start start
  have other {d : Char} (differs : isNameStart d = false) : c ≠ d := by
    rintro rfl
    rw [start] at differs
    cases differs
  have noComment : ¬ IsComment (c :: (cs ++ rest)) := by
    rintro ⟨tail, same⟩
    exact other (by decide : isNameStart '-' = false) (List.cons.inj same).1.symm
  have noEnd : lineEnd? (c :: (cs ++ rest)) = none :=
    lineEnd?_eq_none_iff.mpr ⟨other (by decide), other (by decide)⟩
  have noBlank : ¬ Numeral.isBlank c = true := by
    have bound := le_toNat_of_start start
    intro blank
    rcases Bool.or_eq_true_iff.mp blank with space | control
    · rw [of_decide_eq_true space] at bound
      exact absurd bound (by decide)
    · have high := of_decide_eq_true (Bool.and_eq_true_iff.mp control).2
      omega
  obtain ⟨word, after⟩ := span_append part stop
  have reads : ReadsPlain line c (cs ++ rest) _ _ _ := .word noEnd noBlank start
  rw [List.takeWhile_cons_of_pos part', List.dropWhile_cons_of_pos part', word, after] at reads
  rw [List.cons_append, next_eq_plain line noComment ⟨other (by decide), other (by decide)⟩]
  exact nextPlain_ok_iff.mpr reads

/-- Only words are names. -/
theorem takes_name_plain {name : String}
    (found : nextPlain line c cs = .ok (some (.name name), lines, rest)) :
    c :: cs = name.toList ++ rest ∧ lines = line ∧ rest.head?.any isNamePart = false := by
  generalize same : some (Token.name name) = token at found
  cases nextPlain_ok_iff.mp found with
  | lineEnd | blank | number => cases same
  | word ends blank start =>
    rw [← eq_of_ofWord_eq_name (Option.some.inj same).symm, String.toList_ofList,
      List.takeWhile_append_dropWhile]
    exact ⟨rfl, rfl, head?_dropWhile _ _⟩
  | symbol ends blank start digit found =>
    obtain ⟨_, _, _, -, -, -, rfl⟩ | ⟨-, _, -, rfl, -⟩ := nextSymbol_ok_iff.mp found
    · cases same
    · cases same

/-- A name is the word that it takes. -/
theorem takes_name {name : String}
    (found : next line (c :: cs) = .ok (some (.name name), lines, rest)) :
    c :: cs = name.toList ++ rest ∧ lines = line ∧ rest.head?.any isNamePart = false := by
  by_cases isComment : IsComment (c :: cs)
  · obtain ⟨_, _, -, none, -⟩ := comment_of_next isComment found
    cases none
  · by_cases noQuote : c ≠ '"' ∧ c ≠ '\''
    · rw [next_eq_plain line isComment noQuote] at found
      exact takes_name_plain found
    · have quote : c = '"' ∨ c = '\'' := by tauto
      obtain ⟨bytes, -, string⟩ := (next_quote_iff quote).mp found
      cases string

end TableSeed.Lua.Token
