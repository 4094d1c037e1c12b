import TableSeed.Toml.Table
import TableSeed.Toml.Text

/-!
# Reading TOML

A document is a list of lines: headers of tables, keys with their values, and comments. Arrays and
tables in braces may go over several lines and may end with a comma, and 80 of them may enclose
one another.
-/

namespace TableSeed.Toml

/-- How many arrays and tables in braces may enclose one another. -/
def maxNesting : Nat := 80

/-- Leaves out blanks within a line. -/
def skipBlanks (cs : List Char) : List Char := cs.dropWhile fun c => c = ' ' || c = '\t'

/-- What follows a comment, if one stands here; its characters stand for themselves. -/
def skipComment? : List Char → Option (List Char)
  | '#' :: rest =>
    match rest.dropWhile Text.isPlain with
    | [] => some []
    | '\n' :: after => some ('\n' :: after)
    | '\r' :: '\n' :: after => some ('\r' :: '\n' :: after)
    | _ => none
  | cs => some cs

/-- What follows blanks, comments and line ends. -/
def skipLayout? : Nat → List Char → Option (List Char)
  | 0, cs => some cs
  | fuel + 1, cs =>
    match skipBlanks cs with
    | '\n' :: rest => skipLayout? fuel rest
    | '\r' :: '\n' :: rest => skipLayout? fuel rest
    | '#' :: rest => (skipComment? ('#' :: rest)).bind (skipLayout? fuel)
    | cs => some cs

/-- What follows the rest of a line that holds nothing more. -/
def endLine? (cs : List Char) : Option (List Char) :=
  (skipComment? (skipBlanks cs)).bind fun cs =>
    match cs with
    | [] => some []
    | '\n' :: rest => some rest
    | '\r' :: '\n' :: rest => some rest
    | _ => none

/-- Whether a character may stand in a name without quotes. -/
def isBareCharacter (c : Char) : Bool := c.isAlphanum || c = '_' || c = '-'

/-- A name, and what follows it. -/
def name? (cs : List Char) : Option (String × List Char) :=
  match cs with
  | '"' :: _ | '\'' :: _ => Text.line? cs
  | _ =>
    let bare := cs.takeWhile isBareCharacter
    if bare.isEmpty then none else some (String.ofList bare, cs.dropWhile isBareCharacter)

/-- The parts of a key, at most `fuel`, and what follows them and the blanks behind them. -/
def key? : Nat → List Char → Option (List String × List Char)
  | 0, _ => none
  | fuel + 1, cs => do
    let (name, rest) ← name? (skipBlanks cs)
    match skipBlanks rest with
    | '.' :: rest => do
      let (names, rest) ← key? fuel rest
      return (name :: names, rest)
    | rest => return ([name], rest)

/-- The last part of a key, and the parts before it. -/
def splitKey (names : List String) : List String × String := (names.dropLast, names.getLastD "")

mutual

/-- A value inside which `room` containers may nest, and what follows it. -/
def value? (room : Nat) : Nat → List Char → Option (Value × List Char)
  | 0, _ => none
  | fuel + 1, cs =>
    match cs with
    | '"' :: _ | '\'' :: _ => (Text.read? cs).map fun (s, rest) => (.text s, rest)
    | '[' :: rest =>
      if room = 0 then none else array? (room - 1) [] fuel rest
    | '\x7b' :: rest =>
      if room = 0 then none else braces? (room - 1) ⟨.braces, []⟩ fuel rest
    | _ => (Scalar.read? cs).map fun (s, rest) => (.scalar s, rest)

/-- The items of an array after those in `items`, last one first, and what follows its bracket. -/
def array? (room : Nat) (items : List Value) : Nat → List Char → Option (Value × List Char)
  | 0, _ => none
  | fuel + 1, cs => do
    match ← skipLayout? cs.length cs with
    | ']' :: rest => return (.array items.reverse false, rest)
    | cs => do
      let (v, rest) ← value? room fuel cs
      match ← skipLayout? rest.length rest with
      | ',' :: rest => array? room (v :: items) fuel rest
      | ']' :: rest => return (.array (v :: items).reverse false, rest)
      | _ => none

/-- The members of a table in braces after those that it has, and what follows its brace. -/
def braces? (room : Nat) (t : Table) : Nat → List Char → Option (Value × List Char)
  | 0, _ => none
  | fuel + 1, cs => do
    match ← skipLayout? cs.length cs with
    | '\x7d' :: rest => return (t.toValue, rest)
    | cs => do
      let (names, rest) ← key? cs.length cs
      match rest with
      | '=' :: rest => do
        let (v, rest) ← value? room fuel (skipBlanks rest)
        let (path, name) := splitKey names
        let t ← t.assign path name v
        match ← skipLayout? rest.length rest with
        | ',' :: rest => braces? room t fuel rest
        | '\x7d' :: rest => return (t.toValue, rest)
        | _ => none
      | _ => none

end

/-- A document as far as it is read. -/
structure Progress where
  root : Table := ⟨.header, []⟩
  /-- The path of the table that the last header has opened. -/
  current : List String := []

namespace Progress

/-- Reads a header behind its brackets. -/
def header? (p : Progress) (isItem : Bool) (cs : List Char) : Option (Progress × List Char) := do
  let (names, rest) ← key? cs.length cs
  let rest ← match isItem, rest with
    | true, ']' :: ']' :: rest => some rest
    | false, ']' :: rest => some rest
    | _, _ => none
  let (path, name) := splitKey names
  let root ← if isItem then p.root.openItem path name else p.root.openTable path name
  return ({ root, current := names }, rest)

/-- Reads a key with its value. -/
def assignment? (p : Progress) (cs : List Char) : Option (Progress × List Char) := do
  let (names, rest) ← key? cs.length cs
  match rest with
  | '=' :: rest => do
    let (v, rest) ← value? maxNesting rest.length (skipBlanks rest)
    let (path, name) := splitKey names
    let root ← p.root.change .header (Table.assign path name v) p.current
    return ({ p with root }, rest)
  | _ => none

/-- Reads a line that is not empty. -/
def line? (p : Progress) (cs : List Char) : Option (Progress × List Char) :=
  match cs with
  | '[' :: '[' :: rest => p.header? true rest
  | '[' :: rest => p.header? false rest
  | _ => p.assignment? cs

/-- Reads the lines of a document, at most `fuel`. -/
def lines? (p : Progress) : Nat → List Char → Option Progress
  | 0, _ => none
  | fuel + 1, cs => do
    match ← skipLayout? cs.length cs with
    | [] => return p
    | cs => do
      let (p, rest) ← p.line? cs
      lines? p fuel (← endLine? rest)

end Progress

/-- The table that a document holds. A mark of the byte order may stand in front. -/
def parse? (document : String) : Option (List (String × Value)) :=
  let cs := match document.toList with
    | c :: rest => if c.toNat = 0xfeff then rest else c :: rest
    | [] => []
  (Progress.lines? {} (cs.length + 1) cs).map (·.root.members)

end TableSeed.Toml
