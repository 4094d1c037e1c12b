import TableSeed.Expression.Evaluation
import TableSeed.Proofs.Expression.Marking

/-!
# What becomes of self-references

The source of an expression is marked as plain text. It is to be read as if the variable `this`
were renamed where a point or a bracket follows it, and nothing else. So it is exactly if
self-references begin at these variables and nowhere else: not in quotes, not in comments and not at
the names of fields. In comments they do no harm to the tokens, and an expression that has them
nowhere else has the value of its source as it was written.
-/

namespace TableSeed.SelfReference

open Lua Lua.Token Lua.Piece

variable {line : Nat} {cs after : List Char} {before : Option Char} {earlier ps later : List Piece}
  {p : Piece}

/-- The name by which a source addresses its record. -/
def self : Token := .name "this"

/-- The name under which the record is bound. -/
def bound : Token := .name "_this"

/-- Whether a self-reference begins within a piece of a source, taken as plain text. -/
def Marks (earlier : List Piece) (p : Piece) (later : List Piece) : Prop :=
  BeginsIn (source earlier).getLast? p.text (source later)

instance (earlier : List Piece) (p : Piece) (later : List Piece) :
    Decidable (Marks earlier p later) := inferInstanceAs (Decidable (BeginsIn _ _ _))

/-- Whether a piece is the variable `this`, which is no field, with a point or a bracket after it. -/
def Addresses (earlier : List Piece) (p : Piece) (later : List Piece) : Prop :=
  p.token = some self ∧
    (tokens earlier).getLast? ∉ [some (.symbol .dot), some (.symbol .colon)] ∧
    (tokens later).head? ∈ [some (.symbol .dot), some (.symbol .openBracket)]

instance (earlier : List Piece) (p : Piece) (later : List Piece) :
    Decidable (Addresses earlier p later) := inferInstanceAs (Decidable (_ ∧ _ ∧ _))

/-- The pieces with every variable renamed that addresses the record. -/
def renamed (earlier : List Piece) : List Piece → List Piece
  | [] => []
  | p :: later =>
    (if Addresses earlier p later then { p with text := "_this".toList, token := some bound } else p)
      :: renamed (earlier ++ [p]) later

/-- The piece of the marked source that comes of a piece. -/
def markedPiece (earlier : List Piece) (p : Piece) (later : List Piece) : Piece :=
  let text := markIn (source later) (source earlier).getLast? p.text
  { p with text, token := if p.token = some self ∧ text ≠ p.text then some bound else p.token }

/-- The pieces of the marked source. -/
def marked (earlier : List Piece) : List Piece → List Piece
  | [] => []
  | p :: later => markedPiece earlier p later :: marked (earlier ++ [p]) later

/-! ## The variable -/

/-- In the word `this` only its beginning can be marked. -/
theorem markIn_this (after : List Char) (before : Option Char) :
    markIn after before "this".toList =
      if marksHere before ("this".toList ++ after) then "_this".toList else "this".toList := rfl

/-- In the word `this` a self-reference can begin only with the word. -/
theorem beginsIn_this : BeginsIn before "this".toList after ↔
    marksHere before ("this".toList ++ after) = true := by
  have none : ¬ BeginsIn (some 't') ['h', 'i', 's'] after := by
    simp only [beginsIn_cons]
    rintro (marks | marks | marks | ⟨front, back, same, some, -⟩)
    · cases marks
    · cases marks
    · cases marks
    · exact some (List.append_eq_nil_iff.mp same.symm).2
  exact beginsIn_cons.trans (or_iff_left none)

/-- The text of the variable is its name. -/
theorem text_of_self {rest : List Char} (nonempty : p.text ≠ [])
    (taken : next line (p.text ++ rest) = .ok (p.token, p.line, rest)) (name : p.token = some self) :
    p.text = "this".toList ∧ p.line = line ∧ rest.head?.any isNamePart = false := by
  rw [name] at taken
  cases text : p.text with
  | nil => exact absurd text nonempty
  | cons c tail =>
    rw [text, List.cons_append] at taken
    obtain ⟨same, here, stop⟩ := takes_name taken
    rw [← List.cons_append] at same
    exact ⟨List.append_cancel_right same, here, stop⟩

/-- What a self-reference can begin in is a name, a string or a comment. -/
theorem kind_of_marks (lexes : Lexes line cs (p :: later)) (marks : Marks earlier p later) :
    p.token = some self ∨ (∃ bytes, p.token = some (.string bytes)) ∨ IsComment p.text := by
  obtain ⟨-, taken, -⟩ := lexes.next_eq
  obtain isComment | string | ⟨word, parts, stop⟩ :=
    word_of_letter (mem_of_beginsIn marks) (by decide) (by decide) taken
  · exact .inr (.inr isComment)
  · exact .inr (.inl string)
  · refine .inl ?_
    rw [word, eq_this_of_beginsIn parts stop marks]
    rfl

/-! ## The marked source in pieces -/

/-- The last character before a place is that of the last piece with text. -/
theorem getLast?_source (earlier : List Piece) (p : Piece) :
    (source (earlier ++ [p])).getLast? = p.text.getLast?.or (source earlier).getLast? := by
  simp [source, List.getLast?_append]

/-- A source is marked piece by piece. -/
theorem mark_source (earlier : List Piece) (p : Piece) (rest : List Char) :
    mark (source earlier).getLast? (p.text ++ rest) =
      markIn rest (source earlier).getLast? p.text ++
        mark (source (earlier ++ [p])).getLast? rest := by
  rw [mark_append, getLast?_source]

/-- A piece other than a comment is taken as it was where nothing in it is marked. -/
theorem next_of_alike {rest rest' : List Char} (nonempty : p.text ≠ [])
    (noComment : ¬ IsComment p.text)
    (taken : next line (p.text ++ rest) = .ok (p.token, p.line, rest)) (alike : Alike rest rest') :
    next line (p.text ++ rest') = .ok (p.token, p.line, rest') := by
  have noComment' : ¬ IsComment (p.text ++ rest) := fun isComment => by
    obtain ⟨body, -, text, -⟩ := comment_of_taken isComment taken
    exact noComment ⟨body, text.symm⟩
  cases text : p.text with
  | nil => exact absurd text nonempty
  | cons c tail =>
    rw [text] at taken noComment'
    obtain ⟨own, same, takes⟩ := takes_next noComment' taken
    obtain rfl : tail = own := List.append_cancel_right same
    exact takes rest' alike

/-- A comment is taken as one where it is marked. -/
theorem next_comment_mark {rest : List Char} (isComment : IsComment p.text)
    (taken : next line (p.text ++ rest) = .ok (p.token, p.line, rest)) (before : Option Char) :
    p.token = none ∧ next line (mark before (p.text ++ rest)) =
      .ok (none, p.line, mark (p.text.getLast?.or before) rest) := by
  have whole : IsComment (p.text ++ rest) := isComment.trans (List.prefix_append _ _)
  obtain ⟨body, n, text, token, ending, found, last⟩ := comment_of_taken whole taken
  refine ⟨token, ?_⟩
  have after : mark (p.text.getLast?.or before) rest = mark none rest := by
    obtain bracket | lineEnd := last
    · have last' : p.text.getLast?.or before = some ']' := by
        rw [text, getLast?_cons_or, getLast?_cons_or, bracket]
        rfl
      rw [last', mark_some (by decide)]
    · refine mark_of_head _ _ fun letter => ?_
      rw [letter] at lineEnd
      cases lineEnd
  have dashes : mark before (p.text ++ rest) = '-' :: '-' :: mark (some '-') (body ++ rest) := by
    rw [text, List.cons_append, List.cons_append, mark_cons_of_ne _ (by decide),
      mark_cons_of_ne _ (by decide)]
  rw [after, dashes, next_comment, comment_mark found, ending]

/-- What holds of every piece with those before and after it. -/
def Everywhere (holds : List Piece → Piece → List Piece → Prop) (earlier ps : List Piece) : Prop :=
  ∀ init p later, ps = init ++ p :: later → holds (earlier ++ init) p later

/-- What holds of every piece holds of the first one and of those after it. -/
theorem everywhere_cons {holds : List Piece → Piece → List Piece → Prop} :
    Everywhere holds earlier (p :: later) ↔
      holds earlier p later ∧ Everywhere holds (earlier ++ [p]) later := by
  constructor
  · intro each
    refine ⟨by simpa using each [] p later rfl, fun init q others same => ?_⟩
    rw [List.append_assoc]
    exact each (p :: init) q others (by rw [same]; rfl)
  · rintro ⟨here, each⟩ init q others same
    cases init with
    | nil =>
      obtain ⟨rfl, rfl⟩ := List.cons.inj same
      rwa [List.append_nil]
    | cons r init =>
      obtain ⟨rfl, rfl⟩ := List.cons.inj same
      have := each init q others rfl
      rwa [List.append_assoc] at this

/-- What can be decided of each piece can be decided of all. -/
def decideEverywhere {holds : List Piece → Piece → List Piece → Prop}
    [each : ∀ earlier p later, Decidable (holds earlier p later)] :
    ∀ earlier ps, Decidable (Everywhere holds earlier ps)
  | _, [] => .isTrue fun _ _ _ same => absurd same.symm (by simp)
  | earlier, p :: later =>
    have : Decidable (Everywhere holds (earlier ++ [p]) later) := decideEverywhere _ later
    decidable_of_iff (holds earlier p later ∧ Everywhere holds (earlier ++ [p]) later)
      everywhere_cons.symm

instance {holds : List Piece → Piece → List Piece → Prop}
    [∀ earlier p later, Decidable (holds earlier p later)] (earlier ps : List Piece) :
    Decidable (Everywhere holds earlier ps) := decideEverywhere earlier ps

/-- Self-references begin in names, strings and comments only. -/
theorem everywhere_kind (lexes : Lexes line cs ps) : Everywhere (fun earlier p later =>
    Marks earlier p later →
      p.token = some self ∨ (∃ bytes, p.token = some (.string bytes)) ∨ IsComment p.text)
    earlier ps := by
  induction lexes generalizing earlier with
  | nil => exact fun init p later same => absurd same.symm (by simp)
  | cons nonempty taken lexes ih =>
    exact everywhere_cons.mpr ⟨kind_of_marks (.cons nonempty taken lexes), ih⟩

/-- Outside comments, self-references begin at names only. -/
def OnlyNames (earlier : List Piece) (p : Piece) (later : List Piece) : Prop :=
  ¬ IsComment p.text → Marks earlier p later → p.token = some self

/-- A self-reference begins exactly if the piece is a variable that addresses the record. -/
def Faithful (earlier : List Piece) (p : Piece) (later : List Piece) : Prop :=
  Marks earlier p later ↔ Addresses earlier p later

/-- What a piece without self-references becomes. -/
theorem markedPiece_of_not_marks (none : ¬ Marks earlier p later) :
    markedPiece earlier p later = p := by
  have text := markIn_eq_self none
  simp [markedPiece, text]

/-- What the variable becomes where a self-reference begins. -/
theorem markedPiece_of_marks (name : p.token = some self) (text : p.text = "this".toList)
    (marks : Marks earlier p later) : markedPiece earlier p later =
      { p with text := "_this".toList, token := some bound } := by
  have marked : markIn (source later) (source earlier).getLast? p.text = "_this".toList := by
    rw [Marks, text, beginsIn_this] at marks
    rw [text, markIn_this, if_pos marks]
  have differs : "_this".toList ≠ p.text := by
    rw [text]
    decide
  rw [markedPiece, marked]
  simp only [name, differs, ne_eq, not_false_eq_true, and_self, if_true]

/-- The bound name is taken as one. -/
theorem next_bound (line : Nat) {rest : List Char} (stop : rest.head?.any isNamePart = false) :
    next line ("_this".toList ++ rest) = .ok (some bound, line, rest) := by
  have word : "_this".toList = '_' :: "this".toList := rfl
  have part : ∀ d ∈ "this".toList, isNamePart d = true := by
    simp [isNamePart, Char.isAlphanum, Char.isAlpha, Char.isLower]
  have token : ofWord (String.ofList ('_' :: "this".toList)) = bound := rfl
  rw [word, next_word line (by decide) part stop, token]

/-- A piece that is marked is a piece of the marked source. A comment ends where it did whatever is
marked in it, a piece that marks is a name, and every other piece is read as before. -/
theorem next_mark {rest : List Char} (lexes : Lexes line (p.text ++ rest) (p :: later))
    (names : OnlyNames earlier p later) :
    next line (mark (source earlier).getLast? (p.text ++ rest)) =
      .ok ((markedPiece earlier p later).token, p.line,
        mark (source (earlier ++ [p])).getLast? rest) := by
  obtain rfl : source later = rest := List.append_cancel_left lexes.source_eq
  obtain ⟨nonempty, taken, -⟩ := lexes.next_eq
  by_cases isComment : IsComment p.text
  · obtain ⟨token, marked⟩ := next_comment_mark isComment taken (source earlier).getLast?
    have token' : (markedPiece earlier p later).token = none := by simp [markedPiece, token]
    rw [marked, token', getLast?_source]
  · rw [mark_source]
    have alike := alike_mark (source (earlier ++ [p])).getLast? (source later)
    by_cases marks : Marks earlier p later
    · have name := names isComment marks
      obtain ⟨text, ending, stop⟩ := text_of_self nonempty taken name
      have piece := markedPiece_of_marks name text marks
      have text' : markIn (source later) (source earlier).getLast? p.text = "_this".toList :=
        congrArg Piece.text piece
      rw [piece, text', ending]
      exact next_bound line ((alike.head?_any (by decide)).trans stop)
    · have piece := markedPiece_of_not_marks marks
      have text' : markIn (source later) (source earlier).getLast? p.text = p.text :=
        congrArg Piece.text piece
      rw [piece, text']
      exact next_of_alike nonempty isComment taken alike

/-- A text does not vanish when it is marked. -/
theorem markIn_ne_nil (nonempty : cs ≠ []) : markIn after before cs ≠ [] := by
  cases cs with
  | nil => exact absurd rfl nonempty
  | cons c tail =>
    rw [markIn]
    split_ifs <;> exact List.cons_ne_nil _ _

/-- A marked source has the marked pieces, unless a quotation or another piece is marked that is no
name and no comment. -/
theorem lexes_mark (lexes : Lexes line cs ps) (names : Everywhere OnlyNames earlier ps) :
    Lexes line (mark (source earlier).getLast? cs) (marked earlier ps) := by
  induction lexes generalizing earlier with
  | nil line => exact .nil line
  | @cons line p rest later nonempty taken lexes ih =>
    obtain ⟨here, others⟩ := everywhere_cons.mp names
    have step := next_mark (.cons nonempty taken lexes) here
    have text : (markedPiece earlier p later).text = markIn rest (source earlier).getLast? p.text := by
      rw [markedPiece, lexes.source_eq]
    rw [mark_source, ← text] at step ⊢
    refine Lexes.cons (p := markedPiece earlier p later) ?_ step (ih others)
    rw [text]
    exact markIn_ne_nil nonempty

/-! ## The renamed source -/

/-- Where the marked source is the renamed one, nothing else is marked. -/
theorem faithful_of_mark_eq (lexes : Lexes line cs ps)
    (same : mark (source earlier).getLast? cs = source (renamed earlier ps)) :
    Everywhere Faithful earlier ps := by
  induction lexes generalizing earlier with
  | nil =>
    intro init p later same
    exact absurd same.symm (by simp)
  | @cons line p rest later nonempty taken lexes ih =>
    obtain rfl := lexes.source_eq
    rw [renamed, source_cons, mark_source] at same
    by_cases addresses : Addresses earlier p later
    · obtain ⟨text, -, -⟩ := text_of_self nonempty taken addresses.1
      rw [if_pos addresses, text, markIn_this] at same
      split_ifs at same with marks
      · have here : Marks earlier p later := by
          rw [Marks, text, beginsIn_this]
          exact marks
        exact everywhere_cons.mpr
          ⟨iff_of_true here addresses, ih (List.append_cancel_left same)⟩
      · have clash : 't' = '_' := (List.cons.inj same).1
        cases clash
    · rw [if_neg addresses] at same
      obtain ⟨none, after⟩ := not_beginsIn_of_eq same
      exact everywhere_cons.mpr ⟨iff_of_false none addresses, ih after⟩

/-- Where self-references begin at the variables only, the marked pieces are the renamed ones. -/
theorem marked_eq_renamed (lexes : Lexes line cs ps) (faithful : Everywhere Faithful earlier ps) :
    marked earlier ps = renamed earlier ps := by
  induction lexes generalizing earlier with
  | nil => rfl
  | @cons line p rest later nonempty taken lexes ih =>
    obtain ⟨here, others⟩ := everywhere_cons.mp faithful
    rw [marked, renamed, ih others]
    split_ifs with addresses
    · obtain ⟨text, -, -⟩ := text_of_self nonempty taken addresses.1
      rw [markedPiece_of_marks addresses.1 text (here.mpr addresses)]
    · rw [markedPiece_of_not_marks (here.not.mpr addresses)]

/-- A comment among pieces is no token. -/
theorem token_of_comment (lexes : Lexes line cs (p :: later)) (isComment : IsComment p.text) :
    p.token = none := by
  obtain ⟨-, taken, -⟩ := lexes.next_eq
  obtain ⟨-, -, -, token, -⟩ := comment_of_taken (isComment.trans (List.prefix_append _ _)) taken
  exact token

/-- A comment or white space stays without a token when it is marked. -/
theorem token_markedPiece_of_none (none : p.token = none) :
    (markedPiece earlier p later).token = Option.none := by
  simp [markedPiece, none]

/-- What is marked in comments changes no token. -/
theorem lexemes_marked_eq_renamed (lexes : Lexes line cs ps)
    (faithful : Everywhere (fun earlier p later => ¬ IsComment p.text → Faithful earlier p later)
      earlier ps) : lexemes (marked earlier ps) = lexemes (renamed earlier ps) := by
  induction lexes generalizing earlier with
  | nil => rfl
  | @cons line p rest later nonempty taken lexes ih =>
    obtain ⟨here, others⟩ := everywhere_cons.mp faithful
    rw [marked, renamed, lexemes_cons, lexemes_cons, ih others]
    congr 1
    by_cases isComment : IsComment p.text
    · have token := token_of_comment (.cons nonempty taken lexes) isComment
      have other : ¬ Addresses earlier p later := fun addresses => by
        have name := addresses.1
        rw [token] at name
        cases name
      rw [if_neg other, token, token_markedPiece_of_none token]
      rfl
    · split_ifs with addresses
      · obtain ⟨text, -, -⟩ := text_of_self nonempty taken addresses.1
        rw [markedPiece_of_marks addresses.1 text ((here isComment).mpr addresses)]
      · rw [markedPiece_of_not_marks ((here isComment).not.mpr addresses)]

/-- A source that is marked in comments only has the tokens that it had. -/
theorem lexemes_marked_eq_self (lexes : Lexes line cs ps)
    (comments : Everywhere (fun earlier p later => Marks earlier p later → IsComment p.text)
      earlier ps) : lexemes (marked earlier ps) = lexemes ps := by
  induction lexes generalizing earlier with
  | nil => rfl
  | @cons line p rest later nonempty taken lexes ih =>
    obtain ⟨here, others⟩ := everywhere_cons.mp comments
    rw [marked, lexemes_cons, lexemes_cons, ih others]
    congr 1
    by_cases marks : Marks earlier p later
    · have token := token_of_comment (.cons nonempty taken lexes) (here marks)
      rw [token, token_markedPiece_of_none token]
      rfl
    · rw [markedPiece_of_not_marks marks]

/-! ## What the expression evaluates to -/

/-- The tokens of a source that is returned. -/
theorem scan_return (lexes : Lexes 1 cs ps) :
    Token.scan ("return ".toList ++ cs) = .ok (⟨.symbol .wReturn, 1⟩ :: lexemes ps) := by
  have part : ∀ d ∈ "eturn".toList, isNamePart d = true := by
    simp [isNamePart, Char.isAlphanum, Char.isAlpha, Char.isLower]
  have word : next 1 ("return".toList ++ (' ' :: cs)) = .ok (some (.symbol .wReturn), 1, ' ' :: cs) :=
    next_word 1 (by decide) part rfl
  have blank : next 1 ([' '] ++ cs) = .ok (none, 1, cs) := rfl
  let first : Piece := ⟨"return".toList, some (.symbol .wReturn), 1⟩
  let second : Piece := ⟨[' '], none, 1⟩
  have returned : Lexes 1 ("return".toList ++ ([' '] ++ cs)) (first :: second :: ps) :=
    Lexes.cons (p := first) (by decide) word (Lexes.cons (p := second) (by decide) blank lexes)
  exact returned.scan_eq

/-- Sources with the same tokens are compiled alike. -/
theorem compile_congr {first second : String} {qs : List Piece} (lexes : Lexes 1 first.toList ps)
    (lexes' : Lexes 1 second.toList qs) (same : lexemes ps = lexemes qs) :
    Sandbox.compile first = Sandbox.compile second := by
  have parse_congr {a b : List Char} (scans : Token.scan a = Token.scan b) :
      FunctionBody.parse a = FunctionBody.parse b := by
    unfold FunctionBody.parse
    rw [scans]
  have returned : Token.scan ("return ".toList ++ first.toList) =
      Token.scan ("return ".toList ++ second.toList) := by
    rw [scan_return lexes, scan_return lexes', same]
  have plain : Token.scan first.toList = Token.scan second.toList := by
    rw [lexes.scan_eq, lexes'.scan_eq, same]
  unfold Sandbox.compile
  rw [parse_congr returned, parse_congr plain]

end TableSeed.SelfReference

namespace TableSeed

open Lua

namespace Sandbox

/-- The value that an expression has if its source is taken as it is written. -/
def evaluateAsWritten (s : Sandbox) (source : String) (this : Option TableRef) :
    Except EvaluationError Json.Value × Sandbox :=
  let mark := Mark.of s.world.heap
  let (env, s) := s.environment this
  let ended := s.run source expressionChunk env
  (answer ended.2.world.heap ended.1, ended.2.mapHeap (release mark))

/-- An expression is evaluated as it is rewritten. -/
theorem evaluate_eq (s : Sandbox) (source : String) (this : Option TableRef) :
    s.evaluate source this = s.evaluateAsWritten (SelfReference.rewrite source) this := rfl

/-- Sources that are compiled alike have the same value. -/
theorem evaluateAsWritten_congr {first second : String} (same : compile first = compile second)
    (s : Sandbox) (this : Option TableRef) :
    s.evaluateAsWritten first this = s.evaluateAsWritten second this := by
  simp only [evaluateAsWritten, run, same]

end Sandbox

namespace SelfReference

variable {source : String} {ps : List Piece}

/-- The marked source in pieces. -/
theorem lexes_rewrite (lexes : Piece.Lexes 1 source.toList ps) (names : Everywhere OnlyNames [] ps) :
    Piece.Lexes 1 (rewrite source).toList (marked [] ps) := by
  rw [rewrite, String.toList_ofList]
  exact lexes_mark lexes names

/-- Self-references begin in names `this`, in strings and in comments only. The marked source has
the pieces of the source with the variables renamed that address the record exactly if they begin at
these variables and nowhere else. It has their tokens if this is so outside comments. If
self-references begin in comments only, the expression has the value of its source as it is
written. -/
theorem rewrite_renames_iff (lexes : Piece.Lexes 1 source.toList ps) :
    Everywhere (fun earlier p later => Marks earlier p later →
      p.token = some self ∨ (∃ bytes, p.token = some (.string bytes)) ∨ Token.IsComment p.text)
      [] ps ∧
    (Piece.Lexes 1 (rewrite source).toList (renamed [] ps) ↔
      Everywhere (fun earlier p later => Marks earlier p later ↔ Addresses earlier p later) [] ps) ∧
    (Everywhere (fun earlier p later => ¬ Token.IsComment p.text →
        (Marks earlier p later ↔ Addresses earlier p later)) [] ps →
      Token.scan (rewrite source).toList = .ok (Piece.lexemes (renamed [] ps))) ∧
    (Everywhere (fun earlier p later => Marks earlier p later → Token.IsComment p.text) [] ps →
      ∀ (s : Sandbox) (this : Option TableRef),
        s.evaluate source this = s.evaluateAsWritten source this) := by
  refine ⟨everywhere_kind lexes, ⟨fun lexes' => ?_, fun faithful => ?_⟩, fun faithful => ?_,
    fun comments s this => ?_⟩
  · refine faithful_of_mark_eq lexes ?_
    rw [lexes'.source_eq, rewrite, String.toList_ofList]
    rfl
  · rw [← marked_eq_renamed lexes faithful]
    exact lexes_rewrite lexes fun init p later same _ marks => ((faithful init p later same).mp marks).1
  · rw [← lexemes_marked_eq_renamed lexes faithful]
    exact (lexes_rewrite lexes fun init p later same noComment marks =>
      ((faithful init p later same noComment).mp marks).1).scan_eq
  · have marked' := lexes_rewrite lexes fun init p later same noComment marks =>
      absurd (comments init p later same marks) noComment
    rw [Sandbox.evaluate_eq]
    exact Sandbox.evaluateAsWritten_congr
      (compile_congr marked' lexes (lexemes_marked_eq_self lexes comments)) s this

/-- A source in which a variable addresses the record, a string mentions it in other words and a
comment is marked. -/
theorem renames_in_greeting :
    let greeting := "this.a..'is this ok'--this.b"
    let ps : List Piece :=
      [⟨"this".toList, some self, 1⟩, ⟨".".toList, some (.symbol .dot), 1⟩,
        ⟨"a".toList, some (.name "a"), 1⟩, ⟨"..".toList, some (.symbol .concat), 1⟩,
        ⟨"'is this ok'".toList, some (.string (Bytes.ofText "is this ok")), 1⟩,
        ⟨"--this.b".toList, none, 1⟩]
    Piece.Lexes 1 greeting.toList ps ∧
      rewrite greeting = "_this.a..'is this ok'--_this.b" ∧
      ¬ Piece.Lexes 1 (rewrite greeting).toList (renamed [] ps) ∧
      Token.scan (rewrite greeting).toList = .ok (Piece.lexemes (renamed [] ps)) := by
  intro greeting ps
  have lexes : Piece.Lexes 1 "this.a..'is this ok'--this.b".toList ps := by
    refine .step rfl rfl (by decide) ?_
    refine .step rfl rfl (by decide) ?_
    refine .step rfl rfl (by decide) ?_
    refine .step rfl rfl (by decide) ?_
    refine .step rfl rfl (by decide) ?_
    refine .step rfl rfl (by decide) ?_
    exact .nil 1
  obtain ⟨-, all, tokens, -⟩ := rewrite_renames_iff lexes
  refine ⟨lexes, by decide +kernel, ?_, ?_⟩
  · rw [all]
    decide +kernel
  · exact tokens (by decide +kernel)

/-- A string that is no variable is changed. -/
theorem quotation_is_changed :
    let quotation := "'see this.name'"
    Token.scan quotation.toList = .ok [⟨.string (Bytes.ofText "see this.name"), 1⟩] ∧
      Token.scan (rewrite quotation).toList =
        .ok [⟨.string (Bytes.ofText "see _this.name"), 1⟩] ∧
      Bytes.ofText "see this.name" ≠ Bytes.ofText "see _this.name" :=
  ⟨rfl, rfl, by decide +kernel⟩

end SelfReference

end TableSeed
