import Mathlib
import TableSeed.Lua.Token

/-!
# What a string takes

A scanner reads the characters that it takes and looks at the next one. Of the next character it
does not matter whether it is the letter `t` or an underscore, so what follows can be changed as far
as it begins alike. A string does not even look at it: its closing quote or bracket is its end.
-/

namespace TableSeed.Lua.Token

/-- The second text begins with the same character as the first, or with an underscore where the
first has the letter `t`. -/
inductive Alike : List Char → List Char → Prop
  | nil : Alike [] []
  | same (c : Char) (tail tail' : List Char) : Alike (c :: tail) (c :: tail')
  | marked (tail tail' : List Char) : Alike ('t' :: tail) ('_' :: tail')

namespace Alike

variable {rest rest' : List Char}

/-- Texts that begin with a text of their own begin alike. -/
theorem append (alike : Alike rest rest') : ∀ text : List Char, Alike (text ++ rest) (text ++ rest')
  | [] => alike
  | c :: _ => .same c _ _

/-- Nothing changes at the start of a text that is not empty. -/
theorem of_ne_nil {text : List Char} (some : text ≠ []) (rest rest' : List Char) :
    Alike (text ++ rest) (text ++ rest') := by
  cases text with
  | nil => exact absurd rfl some
  | cons c tail => exact .same c _ _

/-- The start of the second text has the properties that the start of the first one has, if the
letter `t` and the underscore do not differ in them. -/
theorem head?_any (alike : Alike rest rest') {p : Char → Bool} (neutral : p 't' = p '_') :
    rest'.head?.any p = rest.head?.any p := by
  cases alike with
  | nil | same => rfl
  | marked => exact neutral.symm

/-- Texts that begin alike begin with the same character, unless that is a letter that may be
marked. -/
theorem head?_iff (alike : Alike rest rest') {c : Char} (neutral : c ≠ 't' ∧ c ≠ '_') :
    rest'.head? = some c ↔ rest.head? = some c := by
  cases alike with
  | nil | same => rfl
  | marked =>
    refine iff_of_false ?_ ?_
    · exact fun same => neutral.2 (Option.some.inj same).symm
    · exact fun same => neutral.1 (Option.some.inj same).symm

end Alike

/-- What is read from a text is `found` of its rest, and so it is of any rest that begins alike. -/
def Takes {β : Type} (read found : List Char → β) (cs rest : List Char) : Prop :=
  ∃ text, cs = text ++ rest ∧ ∀ rest', Alike rest rest' → read (text ++ rest') = found rest'

variable {cs rest : List Char} {c : Char}

/-! ## Line ends and digits -/

/-- A character begins a line end if it is a line feed or a carriage return. -/
theorem lineEnd?_eq_none_iff : lineEnd? (c :: rest) = none ↔ c ≠ '\n' ∧ c ≠ '\r' := by
  unfold lineEnd?
  split <;> simp_all

/-- A line end takes one character or two. -/
theorem takes_lineEnd? (found : lineEnd? cs = some rest) :
    ∃ c text, cs = c :: text ++ rest ∧ (c = '\n' ∨ c = '\r') ∧
      ∀ rest', Alike rest rest' → lineEnd? (c :: text ++ rest') = some rest' := by
  unfold lineEnd? at found
  split at found
  · obtain rfl := Option.some.inj found
    exact ⟨'\r', ['\n'], rfl, .inr rfl, fun _ _ => rfl⟩
  · obtain rfl := Option.some.inj found
    exact ⟨'\n', ['\r'], rfl, .inl rfl, fun _ _ => rfl⟩
  · rename_i single
    obtain rfl := Option.some.inj found
    refine ⟨'\n', [], rfl, .inl rfl, fun rest' alike => ?_⟩
    have other : rest'.head? ≠ some '\r' := (alike.head?_iff (by decide)).not.mpr fun same => by
      obtain ⟨tail, rfl⟩ := List.head?_eq_some_iff.mp same
      exact single tail rfl
    cases rest' with
    | nil => rfl
    | cons d ds => simp_all [lineEnd?]
  · rename_i single
    obtain rfl := Option.some.inj found
    refine ⟨'\r', [], rfl, .inr rfl, fun rest' alike => ?_⟩
    have other : rest'.head? ≠ some '\n' := (alike.head?_iff (by decide)).not.mpr fun same => by
      obtain ⟨tail, rfl⟩ := List.head?_eq_some_iff.mp same
      exact single tail rfl
    cases rest' with
    | nil => rfl
    | cons d ds => simp_all [lineEnd?]
  · cases found

/-- Digits end where the rest begins. -/
theorem takes_digits (value? : Char → Option Nat) (neither : value? '_' = none) (cs : List Char) :
    Takes (Numeral.digits value?) ((Numeral.digits value? cs).1, ·) cs
      (Numeral.digits value? cs).2 := by
  induction cs with
  | nil =>
    refine ⟨[], rfl, fun rest' alike => ?_⟩
    cases alike
    rfl
  | cons c rest ih =>
    obtain ⟨text, same, takes⟩ := ih
    rw [Numeral.digits]
    cases digit : value? c with
    | some d =>
      refine ⟨c :: text, congrArg (c :: ·) same, fun rest' alike => ?_⟩
      rw [List.cons_append, Numeral.digits, digit, takes rest' alike]
    | none =>
      refine ⟨[], rfl, fun rest' alike => ?_⟩
      rw [List.nil_append]
      cases alike with
      | same => rw [Numeral.digits, digit]
      | marked => rw [Numeral.digits, neither]

/-- Reading decimal digits takes them away, and no more depends on what follows. -/
theorem takes_takeDecimal (n : Nat) (cs : List Char) :
    Takes (takeDecimal n) ((takeDecimal n cs).1, ·) cs (takeDecimal n cs).2 := by
  induction n generalizing cs with
  | zero => exact ⟨[], rfl, fun _ _ => rfl⟩
  | succ n ih =>
    cases cs with
    | nil =>
      refine ⟨[], rfl, fun rest' alike => ?_⟩
      cases alike
      rfl
    | cons c rest =>
      obtain ⟨text, same, takes⟩ := ih rest
      rw [takeDecimal]
      cases digit : Numeral.digit? c with
      | some d =>
        refine ⟨c :: text, congrArg (c :: ·) same, fun rest' alike => ?_⟩
        rw [List.cons_append, takeDecimal, digit, takes rest' alike]
      | none =>
        refine ⟨[], rfl, fun rest' alike => ?_⟩
        rw [List.nil_append]
        cases alike with
        | same => rw [takeDecimal, digit]
        | marked => rfl

/-- Characters of a kind are taken up to the first that is of another. -/
theorem span_append {p : Char → Bool} {text : List Char} (all : ∀ c ∈ text, p c = true)
    (stop : rest.head?.any p = false) :
    (text ++ rest).takeWhile p = text ∧ (text ++ rest).dropWhile p = rest := by
  have alone : rest.takeWhile p = [] ∧ rest.dropWhile p = rest := by
    cases rest with
    | nil => exact ⟨rfl, rfl⟩
    | cons c tail =>
      have other : p c = false := stop
      simp [other]
  rw [List.takeWhile_append_of_pos all, List.dropWhile_append_of_pos all, alone.1, alone.2,
    List.append_nil]
  exact ⟨rfl, rfl⟩

/-- What stands after characters of a kind is of another. -/
theorem head?_dropWhile (p : Char → Bool) (cs : List Char) :
    (cs.dropWhile p).head?.any p = false := by
  induction cs with
  | nil => rfl
  | cons c rest ih =>
    rw [List.dropWhile_cons]
    split_ifs with here
    · exact ih
    · simpa using here

/-! ## Long brackets -/

/-- A bracket is decided by what stands up to the first second bracket. -/
theorem longBracket?_append {text : List Char} (bracket : c ≠ '=') (mem : c ∈ text) :
    longBracket? c (text ++ rest) = (longBracket? c text).map fun (n, tail) => (n, tail ++ rest) := by
  induction text with
  | nil => cases mem
  | cons d text ih =>
    by_cases equals : d = '='
    · subst equals
      have later := (List.mem_cons.mp mem).resolve_left bracket
      rw [List.cons_append, longBracket?, longBracket?, ih later]
      cases longBracket? c text <;> rfl
    · rw [List.cons_append]
      have first (tail : List Char) : longBracket? c (d :: tail) =
          if d = c then some (0, tail) else none := by
        rw [longBracket?.eq_2 c d tail equals]
      rw [first, first]
      split_ifs <;> rfl

/-- Without equals signs there is no bracket exactly if the second one does not follow at once. -/
theorem longBracket?_eq_none_iff (equals : cs.head? ≠ some '=') :
    longBracket? c cs = none ↔ cs.head? ≠ some c := by
  cases cs with
  | nil => simp [longBracket?]
  | cons d tail =>
    have other : d ≠ '=' := by simpa using equals
    rw [longBracket?.eq_2 c d tail other]
    simp

/-- A bracket that is found takes its characters and nothing else. -/
theorem takes_longBracket? {level : Nat} (bracket : c ≠ '=')
    (found : longBracket? c cs = some (level, rest)) :
    ∃ text, cs = text ++ rest ∧ text.getLast? = some c ∧
      longBracket? c text = some (level, []) := by
  induction cs generalizing level with
  | nil => cases found
  | cons d tail ih =>
    by_cases equals : d = '='
    · subst equals
      rw [longBracket?, Option.map_eq_some_iff] at found
      obtain ⟨⟨inner, rest'⟩, found, same⟩ := found
      obtain ⟨rfl, rfl⟩ := Prod.mk.inj same
      obtain ⟨text, rfl, last, closed⟩ := ih found
      refine ⟨'=' :: text, rfl, by simp [List.getLast?_cons, last], ?_⟩
      rw [longBracket?, closed]
      rfl
    · rw [longBracket?.eq_2 c d tail equals] at found
      split_ifs at found with same
      obtain ⟨rfl, rfl⟩ := Prod.mk.inj (Option.some.inj found)
      subst same
      refine ⟨[d], rfl, rfl, ?_⟩
      rw [longBracket?.eq_2 d d [] equals, if_pos rfl]

/-- Whether a long bracket closes is decided by what stands up to the next bracket. -/
theorem closesLong?_append (level : Nat) {text : List Char} (mem : ']' ∈ text) :
    closesLong? level (c :: text ++ rest) = (closesLong? level (c :: text)).map (· ++ rest) := by
  by_cases bracket : c = ']'
  · subst bracket
    rw [List.cons_append, closesLong?, closesLong?, longBracket?_append (by decide) mem]
    cases longBracket? ']' text with
    | none => rfl
    | some found =>
      simp only [Option.map_some]
      split_ifs <;> rfl
  · have open' (tail : List Char) : closesLong? level (c :: tail) = none :=
      closesLong?.eq_2 level (c :: tail) fun _ same => bracket (List.cons.inj same).1
    rw [List.cons_append, open', open']
    rfl

/-- A closing bracket takes its characters and nothing else. -/
theorem takes_closesLong? {level : Nat} (found : closesLong? level cs = some rest) :
    ∃ text, cs = ']' :: text ++ rest ∧ text.getLast? = some ']' ∧
      closesLong? level (']' :: text) = some [] := by
  unfold closesLong? at found
  split at found
  · rename_i tail
    split at found
    · rename_i n rest' bracket
      split_ifs at found with same
      obtain rfl := Option.some.inj found
      obtain ⟨text, rfl, last, closed⟩ := takes_longBracket? (by decide) bracket
      refine ⟨text, rfl, last, ?_⟩
      rw [closesLong?, closed]
      exact if_pos same
    · cases found
  · cases found

/-- What a long string does at its next character: it closes, or it goes on after a line end or after
a character of its own. -/
theorem longString_succ_iff {level fuel line lines : Nat} {out content : List Char} :
    longString level (fuel + 1) line out cs = some (content, lines, rest) ↔
      (closesLong? level cs = some rest ∧ out.reverse = content ∧ line = lines) ∨
      (closesLong? level cs = none ∧
        ((∃ tail, lineEnd? cs = some tail ∧
            longString level fuel (line + 1) ('\n' :: out) tail = some (content, lines, rest)) ∨
          ∃ d tail, cs = d :: tail ∧ lineEnd? cs = none ∧
            longString level fuel line (d :: out) tail = some (content, lines, rest))) := by
  conv_lhs => unfold longString
  cases closes : closesLong? level cs with
  | some tail =>
    simp only [Option.some.injEq, Prod.mk.injEq, reduceCtorEq, false_and, or_false]
    tauto
  | none =>
    cases ends : lineEnd? cs with
    | some tail => simp
    | none => cases cs <;> simp

/-- A long string takes what stands up to its closing bracket, whatever follows. No shorter piece
closes it, whatever follows the bracket that does. -/
theorem takes_longString {level : Nat} {fuel line : Nat} {out content : List Char} {lines : Nat}
    (found : longString level fuel line out cs = some (content, lines, rest)) :
    ∃ text, cs = text ++ rest ∧ text.getLast? = some ']' ∧ ∀ rest' fuel', text.length < fuel' →
      longString level fuel' line out (text ++ rest') = some (content, lines, rest') := by
  induction fuel generalizing line out cs with
  | zero => cases found
  | succ fuel ih =>
    obtain ⟨closes, rfl, rfl⟩ | ⟨stays, ⟨tail, ends, later⟩ | ⟨d, tail, rfl, plain, later⟩⟩ :=
      longString_succ_iff.mp found
    · obtain ⟨text, rfl, last, closed⟩ := takes_closesLong? closes
      have mem := List.mem_of_getLast? last
      refine ⟨']' :: text, rfl, by simp [List.getLast?_cons, last], fun rest' fuel' enough => ?_⟩
      obtain ⟨fuel', rfl⟩ : ∃ n, fuel' = n + 1 := ⟨fuel' - 1, by omega⟩
      have closes' : closesLong? level (']' :: text ++ rest') = some rest' := by
        rw [closesLong?_append level mem, closed]
        rfl
      exact longString_succ_iff.mpr (.inl ⟨closes', rfl, rfl⟩)
    · obtain ⟨d, feed, rfl, newline, takes⟩ := takes_lineEnd? ends
      obtain ⟨text, rfl, last, inner⟩ := ih later
      have mem := List.mem_of_getLast? last
      refine ⟨d :: feed ++ text, by simp, by rw [List.getLast?_append, last]; rfl,
        fun rest' fuel' enough => ?_⟩
      obtain ⟨fuel', rfl⟩ : ∃ n, fuel' = n + 1 := ⟨fuel' - 1, by omega⟩
      have alike : Alike (text ++ rest) (text ++ rest') :=
        .of_ne_nil (List.ne_nil_of_mem mem) rest rest'
      have stays' : closesLong? level (d :: feed ++ (text ++ rest')) = none := by
        obtain rfl | rfl := newline <;> rfl
      have shorter : text.length < fuel' := by
        simp at enough
        omega
      rw [List.append_assoc]
      exact longString_succ_iff.mpr
        (.inr ⟨stays', .inl ⟨text ++ rest', takes _ alike, inner rest' fuel' shorter⟩⟩)
    · obtain ⟨text, rfl, last, inner⟩ := ih later
      have mem := List.mem_of_getLast? last
      refine ⟨d :: text, rfl, by simp [List.getLast?_cons, last], fun rest' fuel' enough => ?_⟩
      obtain ⟨fuel', rfl⟩ : ∃ n, fuel' = n + 1 := ⟨fuel' - 1, by omega⟩
      have stays' : closesLong? level (d :: text ++ rest') = none := by
        rw [← List.cons_append, closesLong?_append level mem, Option.map_eq_none_iff] at stays
        rw [closesLong?_append level mem, stays]
        rfl
      have plain' : lineEnd? (d :: text ++ rest') = none :=
        lineEnd?_eq_none_iff.mpr (lineEnd?_eq_none_iff.mp plain)
      have shorter : text.length < fuel' := by
        simp at enough
        omega
      exact longString_succ_iff.mpr
        (.inr ⟨stays', .inr ⟨d, text ++ rest', rfl, plain', inner rest' fuel' shorter⟩⟩)

/-- The body of a long string ends with its closing bracket, whatever follows that. -/
theorem takes_longStringBody {level line : Nat} {content : List Char} {lines : Nat}
    (found : longStringBody level line cs = some (content, lines, rest)) :
    ∃ text, cs = text ++ rest ∧ text.getLast? = some ']' ∧ ∀ rest',
      longStringBody level line (text ++ rest') = some (content, lines, rest') := by
  unfold longStringBody at found
  split at found
  · rename_i tail ends
    obtain ⟨d, feed, rfl, newline, takes⟩ := takes_lineEnd? ends
    obtain ⟨text, rfl, last, inner⟩ := takes_longString found
    have mem := List.mem_of_getLast? last
    refine ⟨d :: feed ++ text, by simp, by rw [List.getLast?_append, last]; rfl, fun rest' => ?_⟩
    have alike : Alike (text ++ rest) (text ++ rest') :=
      .of_ne_nil (List.ne_nil_of_mem mem) rest rest'
    rw [List.append_assoc, longStringBody, takes _ alike]
    exact inner rest' _ (by simp)
  · rename_i plain
    obtain ⟨text, rfl, last, inner⟩ := takes_longString found
    cases text with
    | nil => cases last
    | cons e text =>
      refine ⟨e :: text, rfl, last, fun rest' => ?_⟩
      have plain' : lineEnd? (e :: text ++ rest') = none :=
        lineEnd?_eq_none_iff.mpr (lineEnd?_eq_none_iff.mp plain)
      rw [longStringBody, plain']
      exact inner rest' _ (by simp)

/-! ## Quoted strings -/

/-- Whether a character is a digit or ends a line. -/
def isDigitOrEnd (c : Char) : Bool := (Numeral.digit? c).isSome || c == '\n' || c == '\r'

/-- An escape that begins with a digit or a line end is read as such. -/
theorem escape_cons (plain : isDigitOrEnd c = true) :
    escape (c :: rest) = match lineEnd? (c :: rest) with
      | some rest => .ok ([10], 1, rest)
      | none =>
        match takeDecimal 3 (c :: rest) with
        | ([], _) => .error .invalidEscape
        | (ds, rest) =>
          let n := Numeral.ofDigits 10 ds
          if n < 256 then .ok ([n.toUInt8], 0, rest) else .error .invalidEscape := by
  apply escape.eq_15
  all_goals
    intros
    subst_vars
    exact absurd plain (by decide)

/-- An escape that begins with a digit or a line end takes its characters. -/
theorem takes_escape_cons {bytes : List UInt8} {lines : Nat} (plain : isDigitOrEnd c = true)
    (found : escape (c :: cs) = .ok (bytes, lines, rest)) :
    Takes escape (fun rest => .ok (bytes, lines, rest)) (c :: cs) rest := by
  rw [escape_cons plain] at found
  cases ends : lineEnd? (c :: cs) with
  | some after =>
    simp only [ends] at found
    obtain ⟨rfl, rfl, rfl⟩ := by simpa using found
    obtain ⟨d, feed, same, -, takes⟩ := takes_lineEnd? ends
    obtain rfl : c = d := (List.cons.inj same).1
    refine ⟨c :: feed, same, fun rest' alike => ?_⟩
    have ends' := takes rest' alike
    rw [List.cons_append] at ends' ⊢
    rw [escape_cons plain, ends']
  | none =>
    obtain ⟨text, same, takes⟩ := takes_takeDecimal 2 cs
    simp only [ends, takeDecimal] at found
    cases digit : Numeral.digit? c with
    | none => simp [digit] at found
    | some d =>
      simp only [digit] at found
      split_ifs at found with small
      obtain ⟨rfl, rfl, rfl⟩ := by simpa using found
      refine ⟨c :: text, congrArg (c :: ·) same, fun rest' alike => ?_⟩
      have ends' : lineEnd? (c :: (text ++ rest')) = none :=
        lineEnd?_eq_none_iff.mpr (lineEnd?_eq_none_iff.mp ends)
      rw [List.cons_append, escape_cons plain, ends', takeDecimal, digit, takes rest' alike]
      exact if_pos small

/-- An escape takes its characters: two hexadecimal digits, a code point in braces, a line end,
decimal digits and blanks as far as they go, and otherwise one character. -/
theorem takes_escape {bytes : List UInt8} {lines : Nat}
    (found : escape cs = .ok (bytes, lines, rest)) :
    Takes escape (fun rest => .ok (bytes, lines, rest)) cs rest := by
  have whole := found
  unfold escape at found
  split at found
  case h_1 => cases found
  case h_12 a b tail =>
    split at found
    · rename_i x y high low
      obtain ⟨rfl, rfl, rfl⟩ := by simpa using found
      exact ⟨['x', a, b], rfl, fun rest' _ => by simp [escape, high, low]⟩
    · cases found
  case h_13 tail =>
    obtain ⟨rfl, rfl, rfl⟩ := by simpa using found
    refine ⟨'z' :: tail.takeWhile Numeral.isBlank, ?_, fun rest' alike => ?_⟩
    · rw [List.cons_append, List.takeWhile_append_dropWhile]
    · have stop : rest'.head?.any Numeral.isBlank = false :=
        (alike.head?_any (by decide)).trans (head?_dropWhile _ _)
      obtain ⟨blanks, others⟩ := span_append (fun c => List.mem_takeWhile_imp) stop
      rw [List.cons_append, escape, blanks, others]
  case h_14 tail =>
    obtain ⟨text, same, takes⟩ := takes_digits Numeral.hexDigit? (by decide) tail
    split at found
    · cases found
    · rename_i ds after some read
      rw [read] at same takes
      dsimp only at found same takes
      split_ifs at found with small
      obtain ⟨rfl, rfl, rfl⟩ := by simpa using found
      refine ⟨'u' :: '{' :: text ++ ['}'], by simp [same], fun rest' _ => ?_⟩
      have read' := takes ('}' :: rest') (.same '}' _ _)
      rw [List.append_assoc, List.cons_append, List.cons_append, List.singleton_append, escape, read']
      simp [small]
    · cases found
  case h_15 c tail _ _ _ _ _ _ _ _ _ _ _ _ _ =>
    have plain : isDigitOrEnd c = true := by
      by_contra other
      simp only [isDigitOrEnd, Bool.or_eq_true, beq_iff_eq, not_or, Option.not_isSome_iff_eq_none]
        at other
      obtain ⟨⟨digit, feed⟩, carriage⟩ := other
      simp [lineEnd?_eq_none_iff.mpr ⟨feed, carriage⟩, takeDecimal, digit] at found
    exact takes_escape_cons plain whole
  all_goals
    obtain ⟨rfl, rfl, rfl⟩ := by simpa using found
    exact ⟨[_], rfl, fun _ _ => rfl⟩

/-- A quoted string takes what stands up to its closing quote, whatever follows. -/
theorem takes_quoted {quote : Char} {fuel line : Nat} {out bytes : List UInt8} {lines : Nat}
    (found : quoted quote fuel line out cs = .ok (bytes, lines, rest)) :
    ∃ text, cs = text ++ rest ∧ text ≠ [] ∧ ∀ rest' fuel', text.length < fuel' →
      quoted quote fuel' line out (text ++ rest') = .ok (bytes, lines, rest') := by
  induction fuel generalizing line out cs with
  | zero => cases found
  | succ fuel ih =>
    cases cs with
    | nil => cases found
    | cons c tail =>
      rw [quoted] at found
      split_ifs at found with closes slash ends
      · obtain ⟨rfl, rfl, rfl⟩ := by simpa using found
        refine ⟨[c], rfl, List.cons_ne_nil _ _, fun rest' fuel' enough => ?_⟩
        obtain ⟨fuel', rfl⟩ : ∃ n, fuel' = n + 1 := ⟨fuel' - 1, by omega⟩
        rw [List.singleton_append, quoted, if_pos closes]
      · cases escaped : escape tail with
        | error e => simp [escaped] at found
        | ok result =>
          obtain ⟨escapeBytes, escapeLines, after⟩ := result
          simp only [escaped] at found
          obtain ⟨first, rfl, takes⟩ := takes_escape escaped
          obtain ⟨text, rfl, some, inner⟩ := ih found
          refine ⟨c :: (first ++ text), by simp, List.cons_ne_nil _ _, fun rest' fuel' enough => ?_⟩
          obtain ⟨fuel', rfl⟩ : ∃ n, fuel' = n + 1 := ⟨fuel' - 1, by omega⟩
          have alike : Alike (text ++ rest) (text ++ rest') := .of_ne_nil some rest rest'
          have escaped' : escape (first ++ text ++ rest') =
              .ok (escapeBytes, escapeLines, text ++ rest') := by
            rw [List.append_assoc]
            exact takes _ alike
          rw [List.cons_append, quoted, if_neg closes, if_pos slash, escaped']
          exact inner rest' fuel' (by simp at enough; omega)
      · obtain ⟨text, rfl, some, inner⟩ := ih found
        refine ⟨c :: text, rfl, List.cons_ne_nil _ _, fun rest' fuel' enough => ?_⟩
        obtain ⟨fuel', rfl⟩ : ∃ n, fuel' = n + 1 := ⟨fuel' - 1, by omega⟩
        rw [List.cons_append, quoted, if_neg closes, if_neg slash, if_neg ends]
        exact inner rest' fuel' (by simp at enough; omega)

end TableSeed.Lua.Token
