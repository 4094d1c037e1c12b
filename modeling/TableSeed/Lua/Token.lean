import TableSeed.Lua.Numeral
import TableSeed.Text.Bytes

/-!
# Lua tokens

The scanner turns a source text into tokens with their lines. Names are made of ASCII letters,
digits and underscores. A quoted string is a string of bytes: characters of the source stand for
their UTF-8 encoding, and escapes may name any byte.
-/

namespace TableSeed.Lua

/-- Reserved words and punctuation. -/
inductive Symbol where
  | wAnd | wBreak | wDo | wElse | wElseif | wEnd | wFalse | wFor | wFunction | wGoto | wIf | wIn
  | wLocal | wNil | wNot | wOr | wRepeat | wReturn | wThen | wTrue | wUntil | wWhile
  | plus | minus | star | slash | percent | caret | hash | ampersand | tilde | bar
  | shiftLeft | shiftRight | doubleSlash | equal | unequal | lessEqual | greaterEqual | less
  | greater | assign | openParen | closeParen | openBrace | closeBrace | openBracket | closeBracket
  | doubleColon | semicolon | colon | comma | dot | concat | ellipsis
  deriving DecidableEq, Repr

/-- A token of Lua source. -/
inductive Token where
  | name (s : String)
  | symbol (s : Symbol)
  | number (n : Num)
  | string (b : Bytes)
  deriving DecidableEq

/-- A token and the line on which it ends. -/
structure Lexeme where
  token : Token
  line : Nat

/-- Why a source text is not Lua. -/
inductive SourceFault where
  | unexpectedCharacter
  | malformedNumber
  | unfinishedString
  | unfinishedComment
  | invalidEscape
  | invalidDelimiter
  | unexpected
  | expected (what : String)
  | tooNested
  | breakOutsideLoop
  | unknownLabel (name : String)
  | repeatedLabel (name : String)
  | jumpIntoScope (name : String)
  | constantAssigned (name : String)
  | varargOutside
  | tooManyLocals
  | unknownAttribute (name : String)
  | secondToClose
  deriving DecidableEq, Repr

namespace SourceFault

/-- The message of the fault. -/
def message : SourceFault → String
  | .unexpectedCharacter => "unexpected symbol"
  | .malformedNumber => "malformed number"
  | .unfinishedString => "unfinished string"
  | .unfinishedComment => "unfinished long comment"
  | .invalidEscape => "invalid escape sequence"
  | .invalidDelimiter => "invalid long string delimiter"
  | .unexpected => "unexpected symbol"
  | .expected what => s!"{what} expected"
  | .tooNested => "chunk has too many syntax levels"
  | .breakOutsideLoop => "break outside a loop"
  | .unknownLabel name => s!"no visible label '{name}' for goto"
  | .repeatedLabel name => s!"label '{name}' already defined"
  | .jumpIntoScope name => s!"goto '{name}' jumps into the scope of a local"
  | .constantAssigned name => s!"attempt to assign to const variable '{name}'"
  | .varargOutside => "cannot use '...' outside a vararg function"
  | .tooManyLocals => "too many local variables"
  | .unknownAttribute name => s!"unknown attribute '{name}'"
  | .secondToClose => "multiple to-be-closed variables in local list"

end SourceFault

namespace Token

/-- The token of a word. -/
def ofWord (s : String) : Token :=
  match s with
  | "and" => .symbol .wAnd
  | "break" => .symbol .wBreak
  | "do" => .symbol .wDo
  | "else" => .symbol .wElse
  | "elseif" => .symbol .wElseif
  | "end" => .symbol .wEnd
  | "false" => .symbol .wFalse
  | "for" => .symbol .wFor
  | "function" => .symbol .wFunction
  | "goto" => .symbol .wGoto
  | "if" => .symbol .wIf
  | "in" => .symbol .wIn
  | "local" => .symbol .wLocal
  | "nil" => .symbol .wNil
  | "not" => .symbol .wNot
  | "or" => .symbol .wOr
  | "repeat" => .symbol .wRepeat
  | "return" => .symbol .wReturn
  | "then" => .symbol .wThen
  | "true" => .symbol .wTrue
  | "until" => .symbol .wUntil
  | "while" => .symbol .wWhile
  | s => .name s

/-- A character that may start a name. -/
def isNameStart (c : Char) : Bool := c.isAlpha || c = '_'

/-- A character that may go on a name. -/
def isNamePart (c : Char) : Bool := c.isAlphanum || c = '_'

/-- A line end at the start of a text, where a carriage return and a line feed next to each other
count as one: the rest after it. -/
def lineEnd? : List Char → Option (List Char)
  | '\r' :: '\n' :: rest => some rest
  | '\n' :: '\r' :: rest => some rest
  | '\n' :: rest => some rest
  | '\r' :: rest => some rest
  | _ => none

/-- The characters of a numeral, and the rest: hexadecimal digits, points, and exponent marks each
perhaps with a sign. -/
def numeralSpan (lower upper : Char) (out : List Char) : List Char → List Char × List Char
  | [] => (out.reverse, [])
  | c :: rest =>
    if c = lower || c = upper then
      match rest with
      | '+' :: rest => numeralSpan lower upper ('+' :: c :: out) rest
      | '-' :: rest => numeralSpan lower upper ('-' :: c :: out) rest
      | rest => numeralSpan lower upper (c :: out) rest
    else if (Numeral.hexDigit? c).isSome || c = '.' then numeralSpan lower upper (c :: out) rest
    else if isNameStart c then ((c :: out).reverse, rest)
    else (out.reverse, c :: rest)

/-- A numeral and the rest. -/
def numeral (cs : List Char) : Except SourceFault (Num × List Char) :=
  let (text, rest) := match cs with
    | '0' :: 'x' :: rest => numeralSpan 'p' 'P' ['x', '0'] rest
    | '0' :: 'X' :: rest => numeralSpan 'p' 'P' ['x', '0'] rest
    | cs => numeralSpan 'e' 'E' [] cs
  match Numeral.ofString? text with
  | some n => .ok (n, rest)
  | none => .error .malformedNumber

/-- The level of a long bracket whose first bracket is read: the equals signs, and the rest after
the second bracket. -/
def longBracket? (c : Char) : List Char → Option (Nat × List Char)
  | '=' :: rest => (longBracket? c rest).map fun (n, rest) => (n + 1, rest)
  | d :: rest => if d = c then some (0, rest) else none
  | [] => none

/-- The rest after a closing long bracket of that level, when one starts here. -/
def closesLong? (level : Nat) : List Char → Option (List Char)
  | ']' :: rest =>
    match longBracket? ']' rest with
    | some (n, rest) => if n = level then some rest else none
    | none => none
  | _ => none

/-- The content of a long string after its opening bracket, its lines counted, and the rest.
`fuel` bounds the characters to go. -/
def longString (level : Nat) : Nat → Nat → List Char → List Char →
    Option (List Char × Nat × List Char)
  | 0, _, _, _ => none
  | fuel + 1, line, out, cs =>
    match closesLong? level cs with
    | some rest => some (out.reverse, line, rest)
    | none =>
      match lineEnd? cs with
      | some rest => longString level fuel (line + 1) ('\n' :: out) rest
      | none =>
        match cs with
        | [] => none
        | c :: rest => longString level fuel line (c :: out) rest

/-- A long string after its opening bracket: a line end right after the bracket is left out. -/
def longStringBody (level line : Nat) (cs : List Char) : Option (List Char × Nat × List Char) :=
  match lineEnd? cs with
  | some rest => longString level (rest.length + 1) (line + 1) [] rest
  | none => longString level (cs.length + 1) line [] cs

/-- The bytes of a code point below `2^31` in the extended UTF-8 scheme. -/
def extendedUtf8 (n : Nat) : List UInt8 :=
  let tail (shift : Nat) : UInt8 := (0x80 + n / Nat.pow 64 shift % 64).toUInt8
  if n < 0x80 then [n.toUInt8]
  else if n < 0x800 then [(0xC0 + n / 64).toUInt8, tail 0]
  else if n < 0x10000 then [(0xE0 + n / 0x1000).toUInt8, tail 1, tail 0]
  else if n < 0x200000 then [(0xF0 + n / 0x40000).toUInt8, tail 2, tail 1, tail 0]
  else if n < 0x4000000 then [(0xF8 + n / 0x1000000).toUInt8, tail 3, tail 2, tail 1, tail 0]
  else [(0xFC + n / 0x40000000).toUInt8, tail 4, tail 3, tail 2, tail 1, tail 0]

/-- Up to `n` decimal digits and the rest. -/
def takeDecimal : Nat → List Char → List Nat × List Char
  | 0, cs => ([], cs)
  | _ + 1, [] => ([], [])
  | n + 1, c :: rest =>
    match Numeral.digit? c with
    | some d =>
      let (ds, rest) := takeDecimal n rest
      (d :: ds, rest)
    | none => ([], c :: rest)

/-- The bytes of an escape after its backslash, the lines it spans, and the rest. -/
def escape : List Char → Except SourceFault (List UInt8 × Nat × List Char)
  | [] => .error .unfinishedString
  | 'a' :: rest => .ok ([7], 0, rest)
  | 'b' :: rest => .ok ([8], 0, rest)
  | 'f' :: rest => .ok ([12], 0, rest)
  | 'n' :: rest => .ok ([10], 0, rest)
  | 'r' :: rest => .ok ([13], 0, rest)
  | 't' :: rest => .ok ([9], 0, rest)
  | 'v' :: rest => .ok ([11], 0, rest)
  | '\\' :: rest => .ok ([92], 0, rest)
  | '"' :: rest => .ok ([34], 0, rest)
  | '\'' :: rest => .ok ([39], 0, rest)
  | 'x' :: a :: b :: rest =>
    match Numeral.hexDigit? a, Numeral.hexDigit? b with
    | some a, some b => .ok ([(a * 16 + b).toUInt8], 0, rest)
    | _, _ => .error .invalidEscape
  | 'z' :: rest =>
    let blanks := rest.takeWhile Numeral.isBlank
    .ok ([], (blanks.filter (· = '\n')).length, rest.dropWhile Numeral.isBlank)
  | 'u' :: '{' :: rest =>
    match Numeral.digits Numeral.hexDigit? rest with
    | ([], _) => .error .invalidEscape
    | (ds, '}' :: rest) =>
      let n := Numeral.ofDigits 16 ds
      if n < 0x80000000 then .ok (extendedUtf8 n, 0, rest) else .error .invalidEscape
    | _ => .error .invalidEscape
  | c :: rest =>
    match lineEnd? (c :: rest) with
    | some rest => .ok ([10], 1, rest)
    | none =>
      match takeDecimal 3 (c :: rest) with
      | ([], _) => .error .invalidEscape
      | (ds, rest) =>
        let n := Numeral.ofDigits 10 ds
        if n < 256 then .ok ([n.toUInt8], 0, rest) else .error .invalidEscape

/-- The content of a quoted string after its opening quote, its bytes gathered in reverse, with
the line it ends on and the rest. `fuel` bounds the characters to go. -/
def quoted (quote : Char) : Nat → Nat → List UInt8 → List Char →
    Except SourceFault (List UInt8 × Nat × List Char)
  | 0, _, _, _ => .error .unfinishedString
  | _ + 1, _, _, [] => .error .unfinishedString
  | fuel + 1, line, out, c :: rest =>
    if c = quote then .ok (out.reverse, line, rest)
    else if c = '\\' then
      match escape rest with
      | .ok (bytes, lines, rest) => quoted quote fuel (line + lines) (bytes.reverse ++ out) rest
      | .error e => .error e
    else if c = '\n' || c = '\r' then .error .unfinishedString
    else quoted quote fuel line ((String.utf8EncodeChar c).reverse ++ out) rest

/-- The punctuation at the start of a text, the longest first, and the rest. -/
def punctuation? : List Char → Option (Symbol × List Char)
  | '.' :: '.' :: '.' :: rest => some (.ellipsis, rest)
  | '.' :: '.' :: rest => some (.concat, rest)
  | '.' :: rest => some (.dot, rest)
  | '=' :: '=' :: rest => some (.equal, rest)
  | '=' :: rest => some (.assign, rest)
  | '~' :: '=' :: rest => some (.unequal, rest)
  | '~' :: rest => some (.tilde, rest)
  | '<' :: '<' :: rest => some (.shiftLeft, rest)
  | '<' :: '=' :: rest => some (.lessEqual, rest)
  | '<' :: rest => some (.less, rest)
  | '>' :: '>' :: rest => some (.shiftRight, rest)
  | '>' :: '=' :: rest => some (.greaterEqual, rest)
  | '>' :: rest => some (.greater, rest)
  | '/' :: '/' :: rest => some (.doubleSlash, rest)
  | '/' :: rest => some (.slash, rest)
  | ':' :: ':' :: rest => some (.doubleColon, rest)
  | ':' :: rest => some (.colon, rest)
  | '+' :: rest => some (.plus, rest)
  | '-' :: rest => some (.minus, rest)
  | '*' :: rest => some (.star, rest)
  | '%' :: rest => some (.percent, rest)
  | '^' :: rest => some (.caret, rest)
  | '#' :: rest => some (.hash, rest)
  | '&' :: rest => some (.ampersand, rest)
  | '|' :: rest => some (.bar, rest)
  | '(' :: rest => some (.openParen, rest)
  | ')' :: rest => some (.closeParen, rest)
  | '{' :: rest => some (.openBrace, rest)
  | '}' :: rest => some (.closeBrace, rest)
  | '[' :: rest => some (.openBracket, rest)
  | ']' :: rest => some (.closeBracket, rest)
  | ';' :: rest => some (.semicolon, rest)
  | ',' :: rest => some (.comma, rest)
  | _ => none

/-- A comment after its two dashes: the lines it spans and the rest. -/
def comment (cs : List Char) : Except SourceFault (Nat × List Char) :=
  let toLineEnd := cs.dropWhile fun c => c ≠ '\n' && c ≠ '\r'
  match cs with
  | '[' :: rest =>
    match longBracket? '[' rest with
    | some (level, rest) =>
      match longStringBody level 0 rest with
      | some (_, lines, rest) => .ok (lines, rest)
      | none => .error .unfinishedComment
    | none => .ok (0, toLineEnd)
  | _ => .ok (0, toLineEnd)

/-- The next token with the line it ends on, if any, and the rest. -/
def next (line : Nat) (cs : List Char) : Except SourceFault (Option Token × Nat × List Char) :=
  match cs with
  | [] => .ok (none, line, [])
  | '-' :: '-' :: rest =>
    match comment rest with
    | .ok (lines, rest) => .ok (none, line + lines, rest)
    | .error e => .error e
  | '"' :: rest =>
    match quoted '"' (rest.length + 1) line [] rest with
    | .ok (bytes, line, rest) => .ok (some (.string (Bytes.ofList bytes)), line, rest)
    | .error e => .error e
  | '\'' :: rest =>
    match quoted '\'' (rest.length + 1) line [] rest with
    | .ok (bytes, line, rest) => .ok (some (.string (Bytes.ofList bytes)), line, rest)
    | .error e => .error e
  | c :: rest =>
    match lineEnd? cs with
    | some rest => .ok (none, line + 1, rest)
    | none =>
      if Numeral.isBlank c then .ok (none, line, rest)
      else if isNameStart c then
        let word := String.ofList (cs.takeWhile isNamePart)
        .ok (some (ofWord word), line, cs.dropWhile isNamePart)
      else if c.isDigit || (c = '.' && (rest.head?.any Char.isDigit)) then
        match numeral cs with
        | .ok (n, rest) => .ok (some (.number n), line, rest)
        | .error e => .error e
      else
        match (if c = '[' then longBracket? '[' rest else none) with
        | some (level, body) =>
          match longStringBody level line body with
          | some (text, line, rest) =>
            .ok (some (.string (Bytes.ofText (String.ofList text))), line, rest)
          | none => .error .unfinishedString
        | none =>
          if c = '[' && rest.head? = some '=' then .error .invalidDelimiter
          else
            match punctuation? cs with
            | some (s, rest) => .ok (some (.symbol s), line, rest)
            | none => .error .unexpectedCharacter

/-- The tokens of the rest of a text, where `fuel` bounds the steps and `out` holds the tokens so
far in reverse. -/
def scanFrom : Nat → Nat → List Lexeme → List Char → Except (Nat × SourceFault) (List Lexeme)
  | 0, _, out, _ => .ok out.reverse
  | fuel + 1, line, out, cs =>
    if cs.isEmpty then .ok out.reverse
    else
      match next line cs with
      | .ok (some token, line, rest) => scanFrom fuel line (⟨token, line⟩ :: out) rest
      | .ok (none, line, rest) => scanFrom fuel line out rest
      | .error e => .error (line, e)

/-- The tokens of a source text, or the line of the first fault and the fault. -/
def scan (source : List Char) : Except (Nat × SourceFault) (List Lexeme) :=
  scanFrom (source.length + 1) 1 [] source

end Token

end TableSeed.Lua
