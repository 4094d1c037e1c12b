import TableSeed.Environment.Basic
import TableSeed.Text.Blank
import TableSeed.Text.Bytes
import TableSeed.Text.WordCharacter

/-!
# Reading variables

A file of variables has one on a line, as `NAME=value`, where `export` may stand in front. A value
may stand in quotes, which may hold line ends, and may name variables behind a dollar sign. The
variables above a line can be named in it. The first line that is malformed ends the reading, and
what stands above it counts.
-/

namespace TableSeed.Environment

/-- Where in a line a character stands. -/
inductive Mode where
  | plain
  /-- Behind a blank, where a comment may start. -/
  | blank
  /-- Behind a backslash outside of quotes. -/
  | escape
  | single
  | singleEscape
  | double
  | doubleEscape
  | comment
  deriving DecidableEq, Repr

namespace Mode

/-- Where the next character stands, after one outside of quotes. -/
def opened : Char → Mode
  | '\\' => .escape
  | '"' => .double
  | '\'' => .single
  | _ => .plain

/-- Where the next character stands. -/
def next : Mode → Char → Mode
  | .plain, c => if Text.isBlank c && c ≠ '\n' && c ≠ '\r' then .blank else opened c
  | .blank, c => if c = '#' then .comment else opened c
  | .escape, _ => .plain
  | .single, c => if c = '\\' then .singleEscape else if c = '\'' then .plain else .single
  | .singleEscape, _ => .single
  | .double, c => if c = '\\' then .doubleEscape else if c = '"' then .plain else .double
  | .doubleEscape, _ => .double
  | .comment, _ => .comment

end Mode

/-- A line as far as it is read, and where the next character stands. -/
structure LineScan where
  mode : Mode := .plain
  /-- The characters before the comment, last one first. -/
  kept : List Char := []

namespace LineScan

/-- Reads a character. -/
def step (s : LineScan) (c : Char) : LineScan :=
  match s.mode.next c with
  | .comment => { s with mode := .comment }
  | mode => ⟨mode, c :: s.kept⟩

end LineScan

/-- A line without its end. -/
def withoutLineEnd (line : List Char) : List Char :=
  match line.reverse with
  | '\n' :: '\r' :: rest | '\n' :: rest => rest.reverse
  | _ => line

/-- Puts together lines that quotes join, after an unfinished one; a line that is never finished is
malformed. -/
def joinLines (s : LineScan) : List (List Char) → List (Option (List Char))
  | [] => if s.mode = .plain then [] else [none]
  | line :: rest =>
    if (Text.trimStart (s.kept.reverse ++ line)).head? = some '#' then some [] :: joinLines {} rest
    else
      let s := line.foldl LineScan.step s
      match s.mode with
      | .plain => some (withoutLineEnd s.kept.reverse) :: joinLines {} rest
      | .comment => some s.kept.reverse :: joinLines {} rest
      | _ => joinLines s rest

/-- Where in a value a character stands. -/
inductive ValueMode where
  | text
  | escape
  | single
  /-- Behind a dollar sign and these characters of a name, last one first. -/
  | name (cs : List Char)
  /-- Behind a dollar sign, a brace and these characters, last one first. -/
  | braced (cs : List Char)
  /-- Behind the value. -/
  | ended
  | comment
  deriving DecidableEq, Repr

/-- A value as far as it is read. -/
structure ValueScan where
  mode : ValueMode := .text
  inDouble : Bool := false
  /-- The characters of the value, last one first. -/
  out : List Char := []

namespace ValueScan

/-- Adds a character. -/
def push (s : ValueScan) (c : Char) : ValueScan := { s with mode := .text, out := c :: s.out }

/-- Adds the value of the variable with these characters, last one first. -/
def substitute (e : Environment) (s : ValueScan) (cs : List Char) : ValueScan :=
  let value := (e.get? (String.ofList cs.reverse)).getD ""
  { s with mode := .text, out := value.toList.reverse ++ s.out }

/-- Whether a character may stand in the name of a variable that has no braces. -/
def isNameCharacter (c : Char) : Bool := Text.isWordCharacter c && c ≠ '_'

/-- Reads a character outside of escapes, names and single quotes. -/
def stepText (s : ValueScan) (c : Char) : ValueScan :=
  if c = '$' then { s with mode := .name [] }
  else if c = '\\' then { s with mode := .escape }
  else if c = '"' then { s with inDouble := !s.inDouble }
  else if s.inDouble then s.push c
  else if c = '\'' then { s with mode := .single }
  else if c = ' ' || c = '\t' then { s with mode := .ended }
  else s.push c

/-- Reads a character. -/
def step? (e : Environment) (s : ValueScan) (c : Char) : Option ValueScan :=
  match s.mode with
  | .text => some (s.stepText c)
  | .escape =>
    if ['\\', '\'', '"', '$', ' '].contains c then some (s.push c)
    else if c = 'n' then some (s.push '\n')
    else none
  | .single => if c = '\'' then some { s with mode := .text } else some { s with out := c :: s.out }
  | .name cs =>
    if isNameCharacter c then some { s with mode := .name (c :: cs) }
    else if c = '\x7b' && cs.isEmpty then some { s with mode := .braced [] }
    else if c = '$' then some { s.substitute e cs with mode := .name [] }
    else some ((s.substitute e cs).push c)
  | .braced cs =>
    if c = '\x7d' then some (s.substitute e cs) else some { s with mode := .braced (c :: cs) }
  | .ended =>
    if c = ' ' || c = '\t' then some s
    else if c = '#' then some { s with mode := .comment }
    else none
  | .comment => some s

/-- The value that is read; quotes and braces are closed. -/
def finish? (e : Environment) (s : ValueScan) : Option String :=
  if s.inDouble then none
  else
    match s.mode with
    | .single | .braced _ => none
    | .name cs => some (String.ofList (s.substitute e cs).out.reverse)
    | _ => some (String.ofList s.out.reverse)

end ValueScan

/-- The value that characters spell. -/
def value? (e : Environment) (cs : List Char) : Option String :=
  (cs.foldlM (ValueScan.step? e) {}).bind (ValueScan.finish? e)

/-- The name of a variable, and what follows it and the blanks behind it. -/
def name? (cs : List Char) : Option (String × List Char) :=
  let inName (c : Char) : Bool := c.isAlphanum || c = '_' || c = '.'
  match cs with
  | [] => none
  | c :: _ =>
    if c.isAlpha || c = '_' then
      some (String.ofList (cs.takeWhile inName), Text.trimStart (cs.dropWhile inName))
    else none

/-- What follows an equals sign and the blanks behind it. -/
def behindEquals? : List Char → Option (List Char)
  | '=' :: rest => some (Text.trimStart rest)
  | _ => none

/-- The name that a line gives a value, and what follows the equals sign. -/
def definition? (cs : List Char) : Option (String × List Char) := do
  let (name, rest) ← name? cs
  match behindEquals? rest with
  | some rest => return (name, rest)
  | none =>
    if name = "export" then
      let (name, rest) ← name? rest
      return (name, ← behindEquals? rest)
    else none

/-- Takes account of a line. -/
def line? (e : Environment) (line : List Char) : Option Environment :=
  let cs := Text.trimChars line
  if cs.isEmpty || cs.head? = some '#' then some e
  else do
    let (name, rest) ← definition? cs
    if rest.isEmpty || rest.head? = some '#' then return e.define name ""
    else return e.define name (← value? e rest)

/-- Takes account of lines up to the first one that is malformed. -/
def lines (e : Environment) : List (Option (List Char)) → Environment
  | [] | none :: _ => e
  | some line :: rest =>
    match e.line? line with
    | some e => lines e rest
    | none => e

/-- The lines of a file, each with its end. -/
def byteLines : List UInt8 → List (List UInt8)
  | [] => []
  | b :: rest =>
    if b = 10 then [b] :: byteLines rest
    else
      match byteLines rest with
      | [] => [[b]]
      | line :: below => (b :: line) :: below

/-- The lines of a file up to the first one that is no UTF-8. A mark of the byte order may stand in
front. -/
def textLines (content : Bytes) : List (List Char) :=
  let bs := match content.toList with
    | 0xef :: 0xbb :: 0xbf :: rest => rest
    | bs => bs
  let texts := (byteLines bs).map fun line => Bytes.toText? (Bytes.ofList line)
  (texts.takeWhile Option.isSome).map fun t => (t.getD "").toList

/-- The words of a file that may be names of variables. -/
def mentioned (content : Bytes) : List String :=
  let inName (c : Char) : Bool := c.isAlphanum || c = '_'
  let words := content.toChars.splitBy fun a b => inName a = inName b
  ((words.filter fun word => word.any inName).map String.ofList).eraseDups

/-- The environment with the variables of a file. -/
def load (e : Environment) (content : Bytes) : Environment :=
  e.lines (joinLines {} (textLines content))

end TableSeed.Environment
