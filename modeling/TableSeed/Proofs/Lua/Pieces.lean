import TableSeed.Proofs.Lua.Takes

/-!
# Source texts in pieces

The scanner takes a source text piece by piece: a token, a blank, a line end or a comment each. The
pieces of a text are its own, put together they are the text, and their tokens are those of the
text. A text has pieces exactly if the scanner comes to its end.
-/

namespace TableSeed.Lua

/-- A part of a source text that the scanner takes at once. -/
structure Piece where
  text : List Char
  /-- The token, if the part is one. -/
  token : Option Token
  /-- The line on which the part ends. -/
  line : Nat
  deriving DecidableEq

namespace Piece

/-- The text that the pieces make up. -/
def source (ps : List Piece) : List Char := ps.flatMap text

/-- The tokens among the pieces. -/
def tokens (ps : List Piece) : List Token := ps.filterMap token

/-- The tokens among the pieces, with their lines. -/
def lexemes (ps : List Piece) : List Lexeme := ps.filterMap fun p => p.token.map (⟨·, p.line⟩)

/-- The pieces of a text that begins on a line. -/
inductive Lexes : Nat → List Char → List Piece → Prop
  | nil (line : Nat) : Lexes line [] []
  | cons {line : Nat} {p : Piece} {rest : List Char} {later : List Piece} (nonempty : p.text ≠ [])
      (taken : Token.next line (p.text ++ rest) = .ok (p.token, p.line, rest))
      (lexes : Lexes p.line rest later) : Lexes line (p.text ++ rest) (p :: later)

variable {line : Nat} {cs : List Char} {ps : List Piece} {p : Piece}

/-- The source of pieces begins with the text of the first one. -/
@[simp] theorem source_cons (p : Piece) (ps : List Piece) : source (p :: ps) = p.text ++ source ps :=
  List.flatMap_cons

/-- The tokens of pieces begin with that of the first one, if it has one. -/
theorem lexemes_cons (p : Piece) (ps : List Piece) :
    lexemes (p :: ps) = (p.token.map (⟨·, p.line⟩)).toList ++ lexemes ps := by
  unfold lexemes
  rw [List.filterMap_cons]
  cases p.token <;> rfl

namespace Lexes

/-- Pieces make up their text. -/
theorem source_eq (lexes : Lexes line cs ps) : source ps = cs := by
  induction lexes with
  | nil => rfl
  | cons _ _ _ ih => rw [source_cons, ih]

/-- A piece is taken from what it and the later ones make up. -/
theorem next_eq (lexes : Lexes line cs (p :: ps)) :
    p.text ≠ [] ∧ Token.next line (p.text ++ source ps) = .ok (p.token, p.line, source ps) ∧
      Lexes p.line (source ps) ps := by
  cases lexes with
  | cons some taken lexes =>
    rw [lexes.source_eq]
    exact ⟨some, taken, lexes⟩

/-- A piece that is taken from a text, and the pieces of the rest. -/
theorem step {rest : List Char} (taken : Token.next line cs = .ok (p.token, p.line, rest))
    (text : cs = p.text ++ rest) (nonempty : p.text ≠ []) (lexes : Lexes p.line rest ps) :
    Lexes line cs (p :: ps) := by
  subst text
  exact .cons nonempty taken lexes

/-- The tokens of a text are those of its pieces. -/
theorem scanFrom_eq (lexes : Lexes line cs ps) {fuel : Nat} (enough : cs.length < fuel)
    (out : List Lexeme) :
    Token.scanFrom fuel line out cs = .ok (out.reverse ++ lexemes ps) := by
  induction lexes generalizing fuel out with
  | nil line =>
    obtain ⟨fuel, rfl⟩ : ∃ n, fuel = n + 1 := ⟨fuel - 1, by omega⟩
    simp [Token.scanFrom, lexemes]
  | @cons line p rest later some taken lexes ih =>
    obtain ⟨fuel, rfl⟩ : ∃ n, fuel = n + 1 := ⟨fuel - 1, by omega⟩
    have nonempty : (p.text ++ rest).isEmpty = false := by simp [some]
    have positive : 0 < p.text.length := List.length_pos_of_ne_nil some
    have enough' : rest.length < fuel := by
      rw [List.length_append] at enough
      omega
    rw [Token.scanFrom, nonempty, taken]
    cases token : p.token with
    | none => simpa [lexemes_cons, token] using ih enough' out
    | some t => simpa [lexemes_cons, token] using ih enough' (⟨t, p.line⟩ :: out)

/-- Pieces that a text is read as have the tokens that scanning finds. -/
theorem scan_eq (lexes : Lexes 1 cs ps) : Token.scan cs = .ok (lexemes ps) :=
  lexes.scanFrom_eq (Nat.lt_succ_self _) []

/-- The pieces of a text are its own. -/
theorem unique (lexes : Lexes line cs ps) {qs : List Piece} (other : Lexes line cs qs) : ps = qs := by
  induction lexes generalizing qs with
  | nil line =>
    generalize same : ([] : List Char) = none at other
    cases other with
    | nil => rfl
    | cons some _ _ => exact absurd (List.append_eq_nil_iff.mp same.symm).1 some
  | @cons line p rest later some taken lexes ih =>
    generalize same : p.text ++ rest = whole at other
    cases other with
    | nil => exact absurd (List.append_eq_nil_iff.mp same).1 some
    | @cons _ q rest' later' some' taken' lexes' =>
      rw [← same, taken] at taken'
      obtain ⟨token, rfl', rfl⟩ : p.token = q.token ∧ p.line = q.line ∧ rest = rest' := by
        simpa using taken'
      have text : p.text = q.text := List.append_cancel_right same
      have same' : p = q := by
        cases p
        cases q
        simp_all
      subst same'
      rw [ih lexes']

end Lexes

/-- A text that is scanned to its end has pieces. -/
theorem exists_lexes {fuel : Nat} {out found : List Lexeme} (enough : cs.length < fuel)
    (scanned : Token.scanFrom fuel line out cs = .ok found) : ∃ ps, Lexes line cs ps := by
  induction fuel generalizing line out cs with
  | zero => omega
  | succ fuel ih =>
    cases cs with
    | nil => exact ⟨[], .nil line⟩
    | cons c tail =>
      rw [Token.scanFrom] at scanned
      simp only [List.isEmpty_cons, Bool.false_eq_true, if_false] at scanned
      cases taken : Token.next line (c :: tail) with
      | error e => simp [taken] at scanned
      | ok result =>
        obtain ⟨token, ending, rest⟩ := result
        obtain ⟨text, some, same⟩ := Token.exists_taken taken
        have positive : 0 < text.length := List.length_pos_of_ne_nil some
        have shorter : rest.length < fuel := by
          have := congrArg List.length same
          simp at this enough
          omega
        have later : ∃ ps, Lexes ending rest ps := by
          cases token with
          | none =>
            simp only [taken] at scanned
            exact ih shorter scanned
          | some t =>
            simp only [taken] at scanned
            exact ih shorter scanned
        obtain ⟨ps, lexes⟩ := later
        exact ⟨⟨text, token, ending⟩ :: ps, .step taken same some lexes⟩

/-- A text has pieces, and one list of them, exactly if the scanner comes to its end. -/
theorem existsUnique_lexes_iff :
    (∃! ps, Lexes 1 cs ps) ↔ ∃ found, Token.scan cs = .ok found := by
  constructor
  · rintro ⟨ps, lexes, -⟩
    exact ⟨lexemes ps, lexes.scan_eq⟩
  · rintro ⟨found, scanned⟩
    obtain ⟨ps, lexes⟩ := exists_lexes (Nat.lt_succ_self _) scanned
    exact ⟨ps, lexes, fun qs other => (lexes.unique other).symm⟩

end Piece

end TableSeed.Lua
