import TableSeed.Expression.SelfReference
import TableSeed.Proofs.Lua.Letters
import TableSeed.Proofs.Lua.Pieces

/-!
# Marking in pieces

A text is marked piece by piece, where each piece is looked at with what stands before and after it.
Marking changes nothing but the letter `t` at the start of a self-reference, so it passes over
brackets and line ends, and comments stay comments of as many lines.
-/

namespace TableSeed.SelfReference

open Lua Lua.Token

variable {before : Option Char} {c : Char} {cs text after rest : List Char}

/-- Whether a self-reference is marked here. -/
def marksHere (before : Option Char) (cs : List Char) : Bool :=
  startsHere cs && !before.any Text.isWordCharacter

/-- A text marked where it stands. -/
def markIn (after : List Char) : Option Char → List Char → List Char
  | _, [] => []
  | before, c :: cs =>
    if marksHere before (c :: cs ++ after) then '_' :: c :: markIn after (some c) cs
    else c :: markIn after (some c) cs

/-- A letter where a self-reference begins gets an underscore in front of it. -/
theorem mark_cons (before : Option Char) (c : Char) (cs : List Char) : mark before (c :: cs) =
    if marksHere before (c :: cs) then '_' :: c :: mark (some c) cs else c :: mark (some c) cs := rfl

/-- A self-reference begins with the letter `t`. -/
theorem eq_of_marksHere (marks : marksHere before (c :: cs) = true) : c = 't' := by
  have starts := (Bool.and_eq_true_iff.mp marks).1
  unfold startsHere at starts
  split at starts
  · rename_i same
    exact (List.cons.inj same).1
  · cases starts

/-- Only the letter `t` can begin a self-reference. -/
theorem mark_cons_of_ne (before : Option Char) (other : c ≠ 't') (cs : List Char) :
    mark before (c :: cs) = c :: mark (some c) cs := by
  rw [mark_cons, if_neg fun marks => other (eq_of_marksHere marks)]

/-- The last character of a text, where the character before it stands for none. -/
theorem getLast?_cons_or (c : Char) (text : List Char) (before : Option Char) :
    (c :: text).getLast?.or before = text.getLast?.or (some c) := by
  rw [List.getLast?_cons]
  cases text.getLast? <;> rfl

/-- A text is marked in parts. -/
theorem mark_append (before : Option Char) (text rest : List Char) :
    mark before (text ++ rest) =
      markIn rest before text ++ mark (text.getLast?.or before) rest := by
  induction text generalizing before with
  | nil => rfl
  | cons c text ih =>
    rw [List.cons_append, mark_cons, markIn, List.cons_append, ih, getLast?_cons_or]
    split_ifs <;> rfl

/-- Of what stands before it matters only whether it belongs to a word. -/
theorem mark_congr {before' : Option Char}
    (same : before.any Text.isWordCharacter = before'.any Text.isWordCharacter) (cs : List Char) :
    mark before cs = mark before' cs := by
  cases cs with
  | nil => rfl
  | cons c cs => rw [mark_cons, mark_cons, marksHere, marksHere, same]

/-- What stands before does not matter to a text that does not begin with the letter `t`. -/
theorem mark_of_head (before before' : Option Char) (other : cs.head? ≠ some 't') :
    mark before cs = mark before' cs := by
  cases cs with
  | nil => rfl
  | cons c cs =>
    have other' : c ≠ 't' := by simpa using other
    rw [mark_cons_of_ne before other', mark_cons_of_ne before' other']

/-- A marked text begins alike. -/
theorem alike_mark (before : Option Char) : ∀ cs : List Char, Alike cs (mark before cs)
  | [] => .nil
  | c :: cs => by
    rw [mark_cons]
    split_ifs with marks
    · obtain rfl := eq_of_marksHere marks
      exact .marked _ _
    · exact .same c _ _

/-! ## Where self-references begin -/

/-- A self-reference begins within a text that stands between others. -/
def BeginsIn (before : Option Char) (text after : List Char) : Prop :=
  ∃ front back, text = front ++ back ∧ back ≠ [] ∧
    marksHere (front.getLast?.or before) (back ++ after) = true

/-- A self-reference begins in a text at its first letter or in the rest. -/
theorem beginsIn_cons : BeginsIn before (c :: text) after ↔
    marksHere before (c :: text ++ after) = true ∨ BeginsIn (some c) text after := by
  constructor
  · rintro ⟨front, back, same, some, marks⟩
    cases front with
    | nil => exact .inl (by rw [same]; exact marks)
    | cons d front =>
      obtain ⟨rfl, rfl⟩ := List.cons.inj same
      rw [getLast?_cons_or] at marks
      exact .inr ⟨front, back, rfl, some, marks⟩
  · rintro (marks | ⟨front, back, rfl, some, marks⟩)
    · exact ⟨[], c :: text, rfl, List.cons_ne_nil _ _, marks⟩
    · exact ⟨c :: front, back, rfl, some, by rw [getLast?_cons_or]; exact marks⟩

/-- A text without self-references stays as it is. -/
theorem markIn_eq_self (none : ¬ BeginsIn before text after) : markIn after before text = text := by
  induction text generalizing before with
  | nil => rfl
  | cons c text ih =>
    obtain ⟨here, later⟩ := not_or.mp (beginsIn_cons.not.mp none)
    rw [markIn, if_neg here, ih later]

/-- A text that begins as if nothing were marked has no self-reference. -/
theorem not_beginsIn_of_eq {front back : List Char}
    (same : markIn after before text ++ front = text ++ back) :
    ¬ BeginsIn before text after ∧ front = back := by
  induction text generalizing before with
  | nil =>
    refine ⟨?_, same⟩
    rintro ⟨front, back, none, some, -⟩
    exact some (List.append_eq_nil_iff.mp none.symm).2
  | cons c text ih =>
    rw [markIn] at same
    split_ifs at same with marks
    · have clash : '_' = c := (List.cons.inj same).1
      rw [eq_of_marksHere marks] at clash
      cases clash
    · obtain ⟨later, rest⟩ := ih (List.cons.inj same).2
      exact ⟨beginsIn_cons.not.mpr (not_or.mpr ⟨marks, later⟩), rest⟩

/-- A self-reference begins within a text exactly if marking changes it. -/
theorem beginsIn_iff : BeginsIn before text after ↔ markIn after before text ≠ text := by
  constructor
  · intro begins same
    have whole : markIn after before text ++ [] = text ++ [] := by rw [same]
    exact (not_beginsIn_of_eq whole).1 begins
  · intro changed
    by_contra none
    exact changed (markIn_eq_self none)

instance (before : Option Char) (text after : List Char) : Decidable (BeginsIn before text after) :=
  decidable_of_iff _ beginsIn_iff.symm

/-- A text in which a self-reference begins has the letter `t`. -/
theorem mem_of_beginsIn (begins : BeginsIn before text after) : 't' ∈ text := by
  obtain ⟨front, back, rfl, nonempty, marks⟩ := begins
  cases back with
  | nil => exact absurd rfl nonempty
  | cons c back =>
    obtain rfl := eq_of_marksHere marks
    exact List.mem_append_right _ List.mem_cons_self

/-- A part of a name is a word character. -/
theorem isWordCharacter_of_isNamePart (part : isNamePart c = true) :
    Text.isWordCharacter c = true := by
  have small : c.toNat < 128 := by
    rcases Bool.or_eq_true_iff.mp part with letter | underscore
    · simp only [Char.isAlphanum, Char.isAlpha, Char.isUpper, Char.isLower, Char.isDigit,
        Bool.or_eq_true, Bool.and_eq_true, decide_eq_true_eq, UInt32.le_iff_toNat_le] at letter
      have same : c.toNat = c.val.toNat := rfl
      obtain ((upper | lower) | digit) := letter
      · exact lt_of_le_of_lt upper.2 (by decide)
      · exact lt_of_le_of_lt lower.2 (by decide)
      · exact lt_of_le_of_lt digit.2 (by decide)
    · rw [of_decide_eq_true underscore]
      decide
  rw [Text.isWordCharacter, if_pos small]
  exact part

/-- A self-reference that begins within a word is the word. -/
theorem eq_this_of_beginsIn (word : ∀ d ∈ text, isNamePart d = true)
    (stop : after.head?.any isNamePart = false) (begins : BeginsIn before text after) :
    text = "this".toList := by
  obtain ⟨front, back, rfl, -, marks⟩ := begins
  obtain ⟨starts, outside⟩ := Bool.and_eq_true_iff.mp marks
  have first : front = [] := by
    by_contra nonempty
    have part := word _ (List.mem_append_left back (List.getLast_mem nonempty))
    rw [List.getLast?_eq_some_getLast nonempty, Option.some_or, Option.any_some,
      isWordCharacter_of_isNamePart part] at outside
    cases outside
  subst first
  rw [List.nil_append] at word ⊢
  unfold startsHere at starts
  split at starts
  · rename_i c tail same
    have whole := (span_append word stop).1
    rw [same] at whole
    rw [← whole]
    rcases Bool.or_eq_true_iff.mp starts with point | bracket
    · rw [of_decide_eq_true point]
      rfl
    · rw [of_decide_eq_true bracket]
      rfl
  · cases starts

/-! ## Comments -/

/-- What a comment ends with belongs to no word. -/
theorem mark_some (outside : Text.isWordCharacter c = false) (cs : List Char) :
    mark (some c) cs = mark none cs :=
  mark_congr (by rw [Option.any_some, outside]; rfl) cs

/-- A line end of one character. -/
theorem lineEnd?_single {feed other : Char} (pair : (feed = '\n' ∧ other = '\r') ∨
    (feed = '\r' ∧ other = '\n')) (single : cs.head? ≠ some other) :
    lineEnd? (feed :: cs) = some cs := by
  cases cs with
  | nil => obtain ⟨rfl, rfl⟩ | ⟨rfl, rfl⟩ := pair <;> rfl
  | cons c tail =>
    obtain ⟨rfl, rfl⟩ | ⟨rfl, rfl⟩ := pair <;> simp_all [lineEnd?]

/-- Marks are made past a line end. A line end may be two characters, and none of them is marked or
hides a mark. -/
theorem lineEnd?_mark (before : Option Char) (cs : List Char) :
    lineEnd? (mark before cs) = (lineEnd? cs).map (mark none) := by
  have ending {feed other : Char} (pair : (feed = '\n' ∧ other = '\r') ∨
      (feed = '\r' ∧ other = '\n')) (tail : List Char) :
      lineEnd? (mark before (feed :: tail)) = (lineEnd? (feed :: tail)).map (mark none) := by
    have plain : feed ≠ 't' ∧ Text.isWordCharacter feed = false := by
      obtain ⟨rfl, -⟩ | ⟨rfl, -⟩ := pair <;> decide
    have plain' : other ≠ 't' ∧ other ≠ '_' ∧ Text.isWordCharacter other = false := by
      obtain ⟨-, rfl⟩ | ⟨-, rfl⟩ := pair <;> decide
    rw [mark_cons_of_ne before plain.1, mark_some plain.2]
    by_cases double : tail.head? = some other
    · obtain ⟨rest, rfl⟩ := List.head?_eq_some_iff.mp double
      rw [mark_cons_of_ne none plain'.1, mark_some plain'.2.2]
      obtain ⟨rfl, rfl⟩ | ⟨rfl, rfl⟩ := pair <;> rfl
    · have double' := ((alike_mark none tail).head?_iff ⟨plain'.1, plain'.2.1⟩).not.mpr double
      rw [lineEnd?_single pair double, lineEnd?_single pair double']
      rfl
  cases cs with
  | nil => rfl
  | cons c tail =>
    by_cases feed : c = '\n'
    · exact feed ▸ ending (.inl ⟨rfl, rfl⟩) tail
    · by_cases carriage : c = '\r'
      · exact carriage ▸ ending (.inr ⟨rfl, rfl⟩) tail
      · rw [lineEnd?_eq_none_iff.mpr ⟨feed, carriage⟩, mark_cons]
        split_ifs
        · rfl
        · exact lineEnd?_eq_none_iff.mpr ⟨feed, carriage⟩

/-- A bracket is found in the marked text as it is in the text. -/
theorem longBracket?_mark (bracket : c ≠ '=' ∧ c ≠ 't' ∧ c ≠ '_')
    (outside : Text.isWordCharacter c = false) (before : Option Char) (cs : List Char) :
    longBracket? c (mark before cs) =
      (longBracket? c cs).map fun (level, rest) => (level, mark none rest) := by
  induction cs generalizing before with
  | nil => rfl
  | cons d tail ih =>
    by_cases equals : d = '='
    · subst equals
      rw [mark_cons_of_ne before (by decide), longBracket?, longBracket?, ih]
      cases longBracket? c tail <;> rfl
    · rw [longBracket?.eq_2 c d tail equals, mark_cons]
      by_cases same : d = c
      · subst same
        have stays : ¬ marksHere before (d :: tail) = true := fun marks =>
          bracket.2.1 (eq_of_marksHere marks)
        rw [if_neg stays, longBracket?.eq_2 d d _ equals, if_pos rfl, if_pos rfl, mark_some outside]
        rfl
      · rw [if_neg same]
        split_ifs
        · rw [longBracket?.eq_2 c '_' _ (by decide), if_neg bracket.2.2.symm]
          rfl
        · rw [longBracket?.eq_2 c d _ equals, if_neg same]
          rfl

/-- Marks do not change whether a long bracket closes. -/
theorem closesLong?_mark (level : Nat) (before : Option Char) (cs : List Char) :
    closesLong? level (mark before cs) = (closesLong? level cs).map (mark none) := by
  have other {d : Char} (differs : d ≠ ']') (tail : List Char) : closesLong? level (d :: tail) = none :=
    closesLong?.eq_2 level (d :: tail) fun _ same => differs (List.cons.inj same).1
  cases cs with
  | nil => rfl
  | cons c tail =>
    by_cases bracket : c = ']'
    · subst bracket
      rw [mark_cons_of_ne before (by decide), closesLong?, closesLong?,
        longBracket?_mark (by decide) (by decide)]
      cases longBracket? ']' tail with
      | none => rfl
      | some found =>
        simp only [Option.map_some]
        split_ifs <;> rfl
    · rw [other bracket, mark_cons]
      split_ifs
      · exact other (by decide) _
      · exact other bracket _

/-- A long string that is marked goes on to the same bracket over as many lines. The induction is on
the unmarked text, where a marked letter makes two steps of one. -/
theorem longString_mark {level fuel line : Nat} {out content : List Char} {lines : Nat}
    (found : longString level fuel line out cs = some (content, lines, rest))
    (before : Option Char) (out' : List Char) {fuel' : Nat}
    (enough : (mark before cs).length < fuel') : ∃ content',
      longString level fuel' line out' (mark before cs) = some (content', lines, mark none rest) := by
  induction fuel generalizing line out out' cs before fuel' with
  | zero => cases found
  | succ fuel ih =>
    obtain ⟨fuel', rfl⟩ : ∃ n, fuel' = n + 1 := ⟨fuel' - 1, by omega⟩
    obtain ⟨closes, rfl, rfl⟩ | ⟨stays, ⟨tail, ends, later⟩ | ⟨d, tail, rfl, plain, later⟩⟩ :=
      longString_succ_iff.mp found
    · have closes' : closesLong? level (mark before cs) = some (mark none rest) := by
        rw [closesLong?_mark, closes]
        rfl
      exact ⟨_, longString_succ_iff.mpr (.inl ⟨closes', rfl, rfl⟩)⟩
    · have stays' : closesLong? level (mark before cs) = none := by
        rw [closesLong?_mark, stays]
        rfl
      have ends' : lineEnd? (mark before cs) = some (mark none tail) := by
        rw [lineEnd?_mark, ends]
        rfl
      obtain ⟨d, text, same, -, -⟩ := takes_lineEnd? ends'
      have shorter : (mark none tail).length < fuel' := by
        have length := congrArg List.length same
        simp at length
        omega
      obtain ⟨content', inner⟩ := ih later none ('\n' :: out') shorter
      exact ⟨content', longString_succ_iff.mpr (.inr ⟨stays', .inl ⟨_, ends', inner⟩⟩)⟩
    · have stays' : closesLong? level (mark before (d :: tail)) = none := by
        rw [closesLong?_mark, stays]
        rfl
      have plain' : lineEnd? (mark before (d :: tail)) = none := by
        rw [lineEnd?_mark, plain]
        rfl
      rw [mark_cons] at enough stays' plain' ⊢
      split_ifs at enough stays' plain' ⊢ with marks
      · obtain rfl := eq_of_marksHere marks
        obtain ⟨fuel', rfl⟩ : ∃ n, fuel' = n + 1 := ⟨fuel' - 1, by simp at enough; omega⟩
        have shorter : (mark (some 't') tail).length < fuel' := by
          simp at enough
          omega
        obtain ⟨content', inner⟩ := ih later (some 't') ('t' :: '_' :: out') shorter
        refine ⟨content', longString_succ_iff.mpr (.inr ⟨stays', .inr ⟨'_', _, rfl, plain', ?_⟩⟩)⟩
        exact longString_succ_iff.mpr (.inr ⟨rfl, .inr ⟨'t', _, rfl, rfl, inner⟩⟩)
      · have shorter : (mark (some d) tail).length < fuel' := by simpa using enough
        obtain ⟨content', inner⟩ := ih later (some d) (d :: out') shorter
        exact ⟨content', longString_succ_iff.mpr
          (.inr ⟨stays', .inr ⟨d, _, rfl, plain', inner⟩⟩)⟩

/-- The body of a long string ends where it did, with the same rest. -/
theorem longStringBody_mark {level line : Nat} {content : List Char} {lines : Nat}
    (found : longStringBody level line cs = some (content, lines, rest)) (before : Option Char) :
    ∃ content', longStringBody level line (mark before cs) =
      some (content', lines, mark none rest) := by
  unfold longStringBody at found ⊢
  rw [lineEnd?_mark]
  split at found
  · rename_i tail ends
    rw [ends]
    exact longString_mark found none [] (Nat.lt_succ_self _)
  · rename_i plain
    rw [plain]
    exact longString_mark found before [] (Nat.lt_succ_self _)

/-- The rest of a line that is marked ends where the line does. -/
theorem dropWhile_mark (before : Option Char) (cs : List Char) :
    (mark before cs).dropWhile isInLine = mark none (cs.dropWhile isInLine) := by
  induction cs generalizing before with
  | nil => rfl
  | cons c tail ih =>
    by_cases stays : isInLine c = true
    · rw [List.dropWhile_cons_of_pos stays, ← ih (some c), mark_cons]
      split_ifs
      · rw [List.dropWhile_cons_of_pos (by decide), List.dropWhile_cons_of_pos stays]
      · rw [List.dropWhile_cons_of_pos stays]
    · have other : c ≠ 't' := by
        rintro rfl
        exact stays (by decide)
      rw [List.dropWhile_cons_of_neg stays, mark_cons_of_ne before other,
        List.dropWhile_cons_of_neg stays, mark_cons_of_ne none other]

/-- A comment that is marked is one of as many lines. -/
theorem comment_mark {lines : Nat} (found : comment cs = .ok (lines, rest)) (before : Option Char) :
    comment (mark before cs) = .ok (lines, mark none rest) := by
  have opening (tail : List Char) : mark before ('[' :: tail) = '[' :: mark none tail := by
    rw [mark_cons_of_ne before (by decide), mark_some (by decide)]
  have bracket_mark (tail : List Char) : longBracket? '[' (mark none tail) =
      (longBracket? '[' tail).map fun (level, rest) => (level, mark none rest) :=
    longBracket?_mark (by decide) (by decide) none tail
  obtain ⟨tail, level, body, rfl, bracket⟩ | line := comment_cases cs
  · have bracket' : longBracket? '[' (mark none tail) = some (level, mark none body) := by
      rw [bracket_mark, bracket]
      rfl
    rw [comment_of_bracket bracket] at found
    rw [opening, comment_of_bracket bracket']
    split at found
    · rename_i content after closing inner
      obtain ⟨rfl, rfl⟩ := by simpa using found
      obtain ⟨content', inner'⟩ := longStringBody_mark inner none
      rw [inner']
    · cases found
  · have line' : ∀ tail, mark before cs = '[' :: tail → longBracket? '[' tail = none := by
      intro tail same
      have begins : cs.head? = some '[' :=
        ((alike_mark before cs).head?_iff (by decide)).mp (by rw [same]; rfl)
      obtain ⟨tail', rfl⟩ := List.head?_eq_some_iff.mp begins
      rw [opening] at same
      rw [← (List.cons.inj same).2, bracket_mark, line tail' rfl]
      rfl
    rw [comment_of_line line, Except.ok.injEq, Prod.mk.injEq] at found
    obtain ⟨rfl, rfl⟩ := found
    rw [comment_of_line line', dropWhile_mark]

end TableSeed.SelfReference
