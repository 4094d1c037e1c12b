import Mathlib
import TableSeed.Store.Database

/-!
# Names in statements

A quoted name is read back whole, whatever follows it but another quote, and a text from which a
name is read begins with that name as it is quoted. A statement is read lexeme by lexeme: words,
quoted names and marks. In a statement of the store the table's name is one lexeme, and the lexemes
before and behind it are those of the words that the statement is written in. So a database takes a
statement for unreadable only if the name holds the null character.
-/

namespace TableSeed

namespace Identifier

variable {name rest tail cs : List Char} {c : Char}

/-- Two quotes are a quote of the name. -/
theorem readRest_pair :
    readRest ('"' :: '"' :: rest) = (readRest rest).map fun r => ('"' :: r.1, r.2) := by
  rw [readRest]

/-- A quote that no other one follows ends the name. -/
theorem readRest_single (apart : rest.head? ≠ some '"') :
    readRest ('"' :: rest) = some ([], rest) := by
  rw [readRest, if_pos rfl]
  rintro more - rfl
  exact apart rfl

/-- Any other character stands for itself, unless it ends the statement. -/
theorem readRest_cons (plain : c ≠ '"') :
    readRest (c :: rest) =
      if c.toNat = 0 then none else (readRest rest).map fun r => (c :: r.1, r.2) := by
  rw [readRest, if_neg plain]
  rintro more rfl
  exact absurd rfl plain

/-- What is read from behind the opening quote of a quoted name. The induction is on the name: a
quote of it is read as a pair, so a pair never takes in the closing quote. -/
theorem readRest_doubled (name : List Char) (apart : rest.head? ≠ some '"') :
    readRest (doubled name ++ '"' :: rest) =
      if name.all (·.toNat ≠ 0) then some (name, rest) else none := by
  induction name with
  | nil => exact readRest_single apart
  | cons c name ih =>
    by_cases quote : c = '"'
    · subst quote
      rw [doubled, if_pos rfl, List.cons_append, List.cons_append, readRest_pair, ih]
      simp [apply_ite]
    · rw [doubled, if_neg quote, List.cons_append, readRest_cons quote, ih]
      by_cases null : c.toNat = 0
      · simp [null]
      · simp [null, apply_ite]

/-- A name that is read stands in the text with its quotes written twice, up to a quote that no
other one follows. -/
theorem eq_of_readRest (read : readRest cs = some (name, rest)) :
    cs = doubled name ++ '"' :: rest ∧ rest.head? ≠ some '"' := by
  fun_induction readRest cs generalizing name with
  | case1 => cases read
  | case2 cs ih =>
    obtain ⟨⟨tail, after⟩, found, pair⟩ := Option.map_eq_some_iff.mp read
    obtain ⟨rfl, rfl⟩ := Prod.mk.inj pair
    obtain ⟨rfl, apart⟩ := ih found
    exact ⟨by simp [doubled], apart⟩
  | case3 cs single =>
    obtain ⟨rfl, rfl⟩ := Prod.mk.inj (Option.some.inj read)
    refine ⟨rfl, fun pair => ?_⟩
    obtain ⟨more, rfl⟩ := List.head?_eq_some_iff.mp pair
    exact single more rfl rfl
  | case4 => cases read
  | case5 c cs _ plain _ ih =>
    obtain ⟨⟨tail, after⟩, found, pair⟩ := Option.map_eq_some_iff.mp read
    obtain ⟨rfl, rfl⟩ := Prod.mk.inj pair
    obtain ⟨rfl, apart⟩ := ih found
    exact ⟨by simp [doubled, plain], apart⟩

/-- A name that can stand in a statement is read from exactly the texts that begin with it as it is
quoted. -/
theorem read?_eq_some_iff (readable : name.all (·.toNat ≠ 0) = true) :
    read? cs = some (name, rest) ↔ cs = quoted name ++ rest ∧ rest.head? ≠ some '"' := by
  constructor
  · intro read
    unfold read? at read
    split at read
    · obtain ⟨rfl, apart⟩ := eq_of_readRest read
      exact ⟨by simp [quoted], apart⟩
    · cases read
  · rintro ⟨rfl, apart⟩
    rw [quoted, List.cons_append, List.append_assoc]
    change readRest (doubled name ++ '"' :: rest) = _
    rw [readRest_doubled name apart, if_pos readable]

/-- The text behind a name that is read may be longer. -/
theorem readRest_append (read : readRest cs = some (name, rest)) (apart : tail.head? ≠ some '"') :
    readRest (cs ++ tail) = some (name, rest ++ tail) := by
  obtain ⟨rfl, single⟩ := eq_of_readRest read
  have still : (rest ++ tail).head? ≠ some '"' := by
    cases rest with
    | nil => exact apart
    | cons c rest => exact single
  rw [readRest_doubled name single] at read
  rw [List.append_assoc, List.cons_append, readRest_doubled name still]
  split_ifs at read ⊢
  rfl

/-- Different names are doubled differently. -/
theorem doubled_injective : Function.Injective doubled := by
  intro name other same
  induction name generalizing other with
  | nil => cases other <;> grind [doubled]
  | cons c name ih => cases other <;> grind [doubled]

/-- Different names are quoted differently. -/
theorem text_injective : Function.Injective text := fun name other same => by
  have quotes : quoted name.toList = quoted other.toList := String.ofList_injective same
  have names := List.append_cancel_right (List.cons.inj quotes).2
  exact String.toList_injective (doubled_injective names)

/-- Reading a quoted name leaves less than there was. -/
theorem length_of_readRest (read : readRest cs = some (name, rest)) :
    rest.length < cs.length := by
  obtain ⟨rfl, -⟩ := eq_of_readRest read
  simp only [List.length_append, List.length_cons]
  omega

end Identifier

namespace Database

/-- A name cannot be read exactly if it holds the null character. -/
theorem use_eq_unreadableName_iff (db : Database) (name : String) :
    db.use name = .error .unreadableName ↔ Identifier.isReadable name = false := by
  unfold use
  cases Identifier.isReadable name with
  | false => simp
  | true => cases isSystem name <;> cases db.find? name <;> simp

/-- A statement of a table is unreadable exactly if the table's name is. -/
theorem execute_eq_unreadableName_iff (db : Database) {s : Statement} {name : String}
    (names : s.table? = some name) :
    db.execute s = .error .unreadableName ↔ Identifier.isReadable name = false := by
  cases s with
  | list => cases names
  | create table =>
    obtain rfl := Option.some.inj names
    rw [execute, create]
    split_ifs <;> simp_all [bind, Except.bind, pure, Except.pure]
  | drop table =>
    obtain rfl := Option.some.inj names
    rw [execute, drop]
    split_ifs <;> simp_all [bind, Except.bind, pure, Except.pure]
  | insert table key item =>
    obtain rfl := Option.some.inj names
    rw [← use_eq_unreadableName_iff, execute, insert]
    cases db.use table with
    | error fault => simp [bind, Except.bind]
    | ok t =>
      by_cases taken : t.rows.any (·.key == key) = true <;>
        simp [taken, bind, Except.bind, pure, Except.pure, throw, throwThe, MonadExceptOf.throw]
  | find table key =>
    obtain rfl := Option.some.inj names
    rw [← use_eq_unreadableName_iff, execute]
    cases db.use table <;> simp [bind, Except.bind, pure, Except.pure]
  | scan table | count table =>
    obtain rfl := Option.some.inj names
    rw [← use_eq_unreadableName_iff, execute]
    cases db.use table <;> simp [bind, Except.bind, pure, Except.pure]

end Database

namespace Statement

/-- A lexeme of a statement. -/
inductive Lexeme where
  /-- A keyword, or a name that needs no quotes. -/
  | word (letters : List Char)
  /-- A quoted name. -/
  | identifier (name : List Char)
  /-- A bracket, a comma, an operator or the place of a parameter. -/
  | mark (c : Char)
  deriving DecidableEq, Repr

namespace Lexeme

/-- What may stand between lexemes. -/
def isBlank (c : Char) : Bool := [' ', '\t', '\n', '\r', '\x0c'].contains c

/-- How a word begins. -/
def beginsWord (c : Char) : Bool := c.isAlpha || c = '_'

/-- How a word goes on. -/
def continuesWord (c : Char) : Bool := c.isAlphanum || c = '_'

/-- The characters that are lexemes of their own. -/
def isMark (c : Char) : Bool := ['(', ')', ',', '*', '=', '?'].contains c

/-- The lexemes of a text that is made of words, quoted names and marks, as those of the store are.
No mark stands twice in a row, because two equals signs are one operator. -/
def read? : List Char → Option (List Lexeme)
  | [] => some []
  | c :: rest =>
    if isBlank c then read? rest
    else if beginsWord c then
      (read? (rest.dropWhile continuesWord)).map (word (c :: rest.takeWhile continuesWord) :: ·)
    else if c = '"' then
      match _found : Identifier.readRest rest with
      | some (name, after) => (read? after).map (identifier name :: ·)
      | none => none
    else if isMark c ∧ rest.head? ≠ some c then (read? rest).map (mark c :: ·)
    else none
  termination_by text => text.length
  decreasing_by
    · simp
    · exact Nat.lt_succ_of_le (List.dropWhile_sublist _).length_le
    · exact Nat.lt_succ_of_lt (Identifier.length_of_readRest ‹_›)
    · simp

variable {text following : List Char} {lexemes before after : List Lexeme} {name : List Char}

/-- A blank ends a word. -/
theorem takeWhile_append_blank (cs following : List Char) :
    (cs ++ ' ' :: following).takeWhile continuesWord = cs.takeWhile continuesWord := by
  induction cs with
  | nil => rfl
  | cons c cs ih => rw [List.cons_append, List.takeWhile_cons, List.takeWhile_cons, ih]

/-- A word that a blank follows ends where it did. -/
theorem dropWhile_append_blank (cs following : List Char) :
    (cs ++ ' ' :: following).dropWhile continuesWord =
      cs.dropWhile continuesWord ++ ' ' :: following := by
  induction cs with
  | nil => rfl
  | cons c cs ih =>
    rw [List.cons_append, List.dropWhile_cons, List.dropWhile_cons, ih]
    split_ifs <;> rfl

/-- A blank in front of a text is skipped. -/
theorem read?_blank {c : Char} (blank : isBlank c = true) : read? (c :: text) = read? text := by
  rw [read?, if_pos blank]

/-- A quote opens a name, which is read to its end. -/
theorem read?_quote : read? ('"' :: text) =
    (Identifier.readRest text).bind fun r => (read? r.2).map (identifier r.1 :: ·) := by
  rw [read?, if_neg (by decide), if_neg (by decide), if_pos rfl]
  split
  · rename_i found
    rw [found, Option.bind_some]
  · rename_i found
    rw [found, Option.bind_none]

/-- A blank parts the lexemes of a text from those of what follows it. Each lexeme ends where it
did: a blank goes on with no word, makes no pair with the quote that closes a name, and repeats no
mark. The induction is on the reading of the text. -/
theorem read?_append_blank (read : read? text = some lexemes) (following : List Char) :
    read? (text ++ ' ' :: following) = (read? following).map (lexemes ++ ·) := by
  fun_induction read? text generalizing lexemes with
  | case1 =>
    obtain rfl := Option.some.inj read
    rw [List.nil_append, read?_blank (by decide)]
    exact Option.map_id'.symm
  | case2 c text blank ih =>
    rw [List.cons_append, read?_blank blank]
    exact ih read
  | case3 c text filled begins ih =>
    obtain ⟨later, rest, rfl⟩ := Option.map_eq_some_iff.mp read
    rw [List.cons_append, read?, if_neg filled, if_pos begins, takeWhile_append_blank,
      dropWhile_append_blank, ih rest, Option.map_map]
    rfl
  | case4 text name after found _ _ ih =>
    obtain ⟨later, rest, rfl⟩ := Option.map_eq_some_iff.mp read
    have longer : Identifier.readRest (text ++ ' ' :: following) =
        some (name, after ++ ' ' :: following) := Identifier.readRest_append found (by simp)
    rw [List.cons_append, read?_quote, longer, Option.bind_some, ih rest, Option.map_map]
    rfl
  | case6 c text filled unlettered unquoted marked ih =>
    obtain ⟨later, rest, rfl⟩ := Option.map_eq_some_iff.mp read
    have single : (text ++ ' ' :: following).head? ≠ some c := by
      cases text with
      | nil => exact fun same => filled (Option.some.inj same ▸ by decide)
      | cons next text => exact marked.2
    rw [List.cons_append, read?, if_neg filled, if_neg unlettered, if_neg unquoted,
      if_pos ⟨marked.1, single⟩, ih rest, Option.map_map]
    rfl
  | case5 | case7 => cases read

/-- A quoted name is one lexeme, if it can be read at all. -/
theorem read?_quoted (name : List Char) (apart : following.head? ≠ some '"') :
    read? (Identifier.quoted name ++ following) =
      if name.all (·.toNat ≠ 0) then (read? following).map (identifier name :: ·) else none := by
  rw [Identifier.quoted, List.cons_append, List.append_assoc, List.singleton_append, read?_quote,
    Identifier.readRest_doubled name apart]
  split_ifs <;> rfl

end Lexeme

variable {s : Statement} {table : String}

/-- The words before a table's name end with a blank, and no quote follows the name. -/
theorem frame_parts (names : s.table? = some table) :
    (∃ opening, s.frame.1.toList = opening ++ [' '] ∧ (Lexeme.read? opening).isSome = true) ∧
      (Lexeme.read? s.frame.2.toList).isSome = true ∧ s.frame.2.toList.head? ≠ some '"' := by
  cases s with
  | list => cases names
  | create | drop | insert | find | scan | count =>
    exact ⟨⟨_, (List.dropLast_append_getLast? ' ' (by cbv)).symm, by cbv⟩, by cbv, by simp [frame]⟩

/-- The lexemes of a statement are those of the words around its table's name, with the name as one
lexeme between them. -/
theorem lexemes_of_text (names : s.table? = some table) : ∃ before after,
    Lexeme.read? s.frame.1.toList = some before ∧ Lexeme.read? s.frame.2.toList = some after ∧
      Lexeme.read? s.text.toList = if Identifier.isReadable table then
        some (before ++ .identifier table.toList :: after) else none := by
  obtain ⟨⟨opening, blank, opens⟩, closes, apart⟩ := frame_parts names
  obtain ⟨before, opens⟩ := Option.isSome_iff_exists.mp opens
  obtain ⟨after, closes⟩ := Option.isSome_iff_exists.mp closes
  refine ⟨before, after, ?_, closes, ?_⟩
  · rw [blank, Lexeme.read?_append_blank opens [], Lexeme.read?, Option.map_some, List.append_nil]
  · have written : s.text.toList =
        opening ++ ' ' :: (Identifier.quoted table.toList ++ s.frame.2.toList) := by
      rw [text, names]
      simp [Identifier.text, blank]
    rw [written, Lexeme.read?_append_blank opens, Lexeme.read?_quoted table.toList apart, closes,
      ← Identifier.isReadable]
    split_ifs <;> rfl

/-- What a database says of a statement agrees with its text: it is unreadable exactly if the text
has no lexemes. -/
theorem execute_eq_unreadableName_iff_text (db : Database) (names : s.table? = some table) :
    db.execute s = .error .unreadableName ↔ Lexeme.read? s.text.toList = none := by
  obtain ⟨before, after, -, -, whole⟩ := lexemes_of_text names
  rw [Database.execute_eq_unreadableName_iff db names, whole]
  split_ifs with readable <;> simp [readable]

/-- A name without the null character cannot leave its quotes. It is read from the texts that begin
with the quoted name and from no others. In every statement of its table it is one lexeme, the other
lexemes are those of the words around it, and no database finds the statement unreadable. No other
name is quoted in the same way. -/
theorem names_stay_quoted {name : String} (readable : Identifier.isReadable name = true) :
    (∀ text following, Identifier.read? text = some (name.toList, following) ↔
      text = (Identifier.text name).toList ++ following ∧ following.head? ≠ some '"') ∧
    (∀ s : Statement, s.table? = some name →
      (∃ before after, Lexeme.read? s.frame.1.toList = some before ∧
        Lexeme.read? s.frame.2.toList = some after ∧
        Lexeme.read? s.text.toList = some (before ++ .identifier name.toList :: after)) ∧
      ∀ db : Database, db.execute s ≠ .error .unreadableName) ∧
    ∀ other, Identifier.text other = Identifier.text name → other = name := by
  refine ⟨fun text following => ?_, fun s names => ?_, fun _ same => Identifier.text_injective same⟩
  · rw [Identifier.text, String.toList_ofList]
    exact Identifier.read?_eq_some_iff readable
  · obtain ⟨before, after, opens, closes, whole⟩ := lexemes_of_text names
    rw [if_pos readable] at whole
    refine ⟨⟨before, after, opens, closes, whole⟩, fun db refused => ?_⟩
    have unread := (execute_eq_unreadableName_iff_text db names).mp refused
    cases unread.symm.trans whole

/-- A name with quotes at its ends and inside, which looks like the end of a statement. -/
theorem names_stay_quoted_hostile :
    let name := "\"; DROP TABLE \"users\"\""
    let following := " WHERE item_key = ?".toList
    Identifier.isReadable name = true ∧
      Identifier.read? ((Identifier.text name).toList ++ following) =
        some (name.toList, following) ∧
      (∃ before after, Lexeme.read? "SELECT item FROM ".toList = some before ∧
        Lexeme.read? following = some after ∧
        Lexeme.read? (find name "[1]").text.toList =
          some (before ++ .identifier name.toList :: after)) ∧
      Identifier.text "users" ≠ Identifier.text name := by
  intro name following
  have readable : Identifier.isReadable name = true := by cbv
  obtain ⟨reads, statements, others⟩ := names_stay_quoted readable
  refine ⟨readable, (reads _ _).mpr ⟨rfl, by decide⟩, (statements (find name _) rfl).1, ?_⟩
  exact fun same => absurd (others _ same) (by decide)

example : Lexeme.read? (scan "we\"ird").text.toList =
    some [.word "SELECT".toList, .word "item".toList, .word "FROM".toList,
      .identifier "we\"ird".toList, .word "ORDER".toList, .word "BY".toList,
      .word "rowid".toList] := by
  cbv

end Statement

end TableSeed
