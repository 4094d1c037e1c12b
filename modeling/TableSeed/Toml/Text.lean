/-!
# Texts in TOML

A text stands between double quotes, where a backslash starts an escape, or between single quotes,
where every character is itself. Three quotes open a text of several lines, whose first line end
is left out. Controls other than the tab are not allowed.
-/

namespace TableSeed.Toml.Text

/-- Whether a character stands for itself within a line. -/
def isPlain (c : Char) : Bool := c = '\t' || (32 ≤ c.toNat && c.toNat ≠ 127)

/-- The value of a hexadecimal digit. -/
def hexValue? (c : Char) : Option Nat :=
  if c.isDigit then some (c.toNat - 48)
  else if 'a' ≤ c && c ≤ 'f' then some (c.toNat - 87)
  else if 'A' ≤ c && c ≤ 'F' then some (c.toNat - 55)
  else none

/-- The character of a code point of `count` hexadecimal digits, and what follows them. -/
def codePoint? (count : Nat) (cs : List Char) : Option (Char × List Char) := do
  let ds ← (cs.take count).mapM hexValue?
  if ds.length < count then none
  else
    let n := ds.foldl (fun acc d => acc * 16 + d) 0
    if n.isValidChar then some (Char.ofNat n, cs.drop count) else none

/-- The character of an escape, from behind its backslash, and what follows it. -/
def escaped? : List Char → Option (Char × List Char)
  | 'b' :: rest => some (Char.ofNat 8, rest)
  | 't' :: rest => some ('\t', rest)
  | 'n' :: rest => some ('\n', rest)
  | 'f' :: rest => some (Char.ofNat 12, rest)
  | 'r' :: rest => some ('\r', rest)
  | 'e' :: rest => some (Char.ofNat 27, rest)
  | '"' :: rest => some ('"', rest)
  | '\\' :: rest => some ('\\', rest)
  | 'x' :: rest => codePoint? 2 rest
  | 'u' :: rest => codePoint? 4 rest
  | 'U' :: rest => codePoint? 8 rest
  | _ => none

/-- A text of one line with escapes, from behind its opening quote, `fuel` characters at most. -/
def basic? (out : List Char) : Nat → List Char → Option (String × List Char)
  | 0, _ => none
  | fuel + 1, cs =>
    match cs with
    | [] => none
    | '"' :: rest => some (String.ofList out.reverse, rest)
    | '\\' :: rest => do
      let (c, rest) ← escaped? rest
      basic? (c :: out) fuel rest
    | c :: rest => if isPlain c then basic? (c :: out) fuel rest else none

/-- A text of one line without escapes, from behind its opening quote. -/
def literal? (out : List Char) : List Char → Option (String × List Char)
  | [] => none
  | c :: rest =>
    if c = '\'' then some (String.ofList out.reverse, rest)
    else if isPlain c then literal? (c :: out) rest
    else none

/-- Leaves out a line end at the start. -/
def skipLineEnd : List Char → List Char
  | '\n' :: rest => rest
  | '\r' :: '\n' :: rest => rest
  | cs => cs

/-- Leaves out blanks and line ends. -/
def skipLines (cs : List Char) : List Char :=
  cs.dropWhile fun c => c = ' ' || c = '\t' || c = '\n' || c = '\r'

/-- What follows a backslash at the end of a line: the next line that is not blank. -/
def continued? (cs : List Char) : Option (List Char) :=
  match cs.dropWhile fun c => c = ' ' || c = '\t' with
  | '\n' :: rest => some (skipLines rest)
  | '\r' :: '\n' :: rest => some (skipLines rest)
  | _ => none

/-- The end of a text of several lines at a run of three quotes or more, of which up to two belong
to the text. -/
def closed? (quote : Char) (out cs : List Char) : Option (String × List Char) :=
  let run := (cs.takeWhile (· = quote)).length
  if run < 3 then none
  else
    let kept := min (run - 3) 2
    some (String.ofList (List.replicate kept quote ++ out).reverse, cs.drop (kept + 3))

/-- A text of several lines, from behind its opening quotes, `fuel` characters at most. -/
def lines? (quote : Char) (out : List Char) : Nat → List Char → Option (String × List Char)
  | 0, _ => none
  | fuel + 1, cs =>
    match closed? quote out cs with
    | some result => some result
    | none =>
      match cs with
      | [] => none
      | '\n' :: rest => lines? quote ('\n' :: out) fuel rest
      | '\r' :: '\n' :: rest => lines? quote ('\n' :: '\r' :: out) fuel rest
      | c :: rest =>
        if c = '\\' && quote = '"' then
          match continued? rest with
          | some rest => lines? quote out fuel rest
          | none =>
            match escaped? rest with
            | some (c, rest) => lines? quote (c :: out) fuel rest
            | none => none
        else if isPlain c then lines? quote (c :: out) fuel rest
        else none

/-- A text of one line, and what follows it. -/
def line? (cs : List Char) : Option (String × List Char) :=
  match cs with
  | '"' :: rest => basic? [] cs.length rest
  | '\'' :: rest => literal? [] rest
  | _ => none

/-- A text, and what follows it. -/
def read? (cs : List Char) : Option (String × List Char) :=
  match cs with
  | '"' :: '"' :: '"' :: rest => lines? '"' [] cs.length (skipLineEnd rest)
  | '\'' :: '\'' :: '\'' :: rest => lines? '\'' [] cs.length (skipLineEnd rest)
  | _ => line? cs

end TableSeed.Toml.Text
