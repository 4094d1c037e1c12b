import TableSeed.Json.Numeral

/-!
# JSON tokens

The scanner takes one character at a time, so it ends on every text. A text token whose escapes
name half of a surrogate pair has no content, but it is a whole token all the same: a reader that
skips the text does not mind. A token that cannot be completed is the last one.
-/

namespace TableSeed.Json

/-- Why reading stops: skipping a text is more lenient than reading it. -/
structure Stop where
  /-- The fault for a reader that wants the value. -/
  read : Fault
  /-- The fault for a reader that skips the value. -/
  skipped : Fault
  deriving DecidableEq, Repr

/-- The same fault for both kinds of reader. -/
def Stop.both (f : Fault) : Stop := ⟨f, f⟩

/-- A token of JSON text. -/
inductive Token where
  | openArray
  | closeArray
  | openObject
  | closeObject
  | comma
  | colon
  | null
  | bool (b : Bool)
  | number (n : Numeral)
  /-- A quoted text; it has no content when a surrogate stands alone in it. -/
  | text (content : Option String)
  /-- A quoted text that breaks off. -/
  | brokenText (stop : Stop)
  /-- Anything else that is no token. -/
  | broken (fault : Fault)

namespace Token

/-- How far a numeral has been read. -/
inductive NumeralStage where
  | minus | zero | whole | point | fraction | mark | sign | exponent

/-- A numeral being read, its digits in reverse. -/
structure PartialNumeral where
  stage : NumeralStage
  negative : Bool := false
  whole : List Nat := []
  fraction : List Nat := []
  exponentNegative : Bool := false
  exponent : List Nat := []

/-- How far an escape has been read. -/
inductive EscapeStage where
  | plain
  | escape
  /-- Four hexadecimal digits are due: the bytes seen, their value, and whether all are digits. -/
  | hex (bytes value : Nat) (valid : Bool)

/-- A quoted text being read, its characters in reverse. -/
structure PartialText where
  out : List Char := []
  /-- No surrogate has stood alone so far. -/
  intact : Bool := true
  /-- The first half of a surrogate pair, waiting for the second. -/
  half : Option Nat := none
  stage : EscapeStage := .plain

/-- What the scanner is in the middle of. -/
inductive Scan where
  | between
  | word (rest : List Char) (token : Token)
  | numeral (n : PartialNumeral)
  | text (t : PartialText)
  | stopped

/-- The scanner: what it is in the middle of and the tokens so far, last first. -/
structure State where
  scan : Scan := .between
  tokens : List Token := []

/-- Adds a token and stands between tokens again. -/
def State.emit (s : State) (t : Token) : State := { scan := .between, tokens := t :: s.tokens }

/-- Adds the token that ends the scan. -/
def State.stop (s : State) (t : Token) : State := { scan := .stopped, tokens := t :: s.tokens }

/-- Space, tab, line feed and carriage return. -/
def isBlank (c : Char) : Bool := c = ' ' || c = '\n' || c = '\t' || c = '\r'

/-- The value of a decimal digit. -/
def digit? (c : Char) : Option Nat := if c.isDigit then some (c.toNat - 48) else none

/-- The value of a hexadecimal digit. -/
def hexDigit? (c : Char) : Option Nat :=
  if c.isDigit then some (c.toNat - 48)
  else if 'a' ≤ c && c ≤ 'f' then some (c.toNat - 87)
  else if 'A' ≤ c && c ≤ 'F' then some (c.toNat - 55)
  else none

/-- A character between tokens. -/
def State.start (s : State) (c : Char) : State :=
  if isBlank c then { s with scan := .between }
  else match c with
    | '[' => s.emit .openArray
    | ']' => s.emit .closeArray
    | '{' => s.emit .openObject
    | '}' => s.emit .closeObject
    | ',' => s.emit .comma
    | ':' => s.emit .colon
    | 'n' => { s with scan := .word ['u', 'l', 'l'] .null }
    | 't' => { s with scan := .word ['r', 'u', 'e'] (.bool true) }
    | 'f' => { s with scan := .word ['a', 'l', 's', 'e'] (.bool false) }
    | '-' => { s with scan := .numeral { stage := .minus, negative := true } }
    | '0' => { s with scan := .numeral { stage := .zero, whole := [0] } }
    | '"' => { s with scan := .text {} }
    | c =>
      match digit? c with
      | some d => { s with scan := .numeral { stage := .whole, whole := [d] } }
      | none => s.stop (.broken .malformed)

/-- The numeral read so far, when it may end here. -/
def PartialNumeral.complete? (n : PartialNumeral) : Option Numeral :=
  let base : Numeral := ⟨n.negative, n.whole.reverse, none, none⟩
  let fraction := if n.fraction.isEmpty then none else some n.fraction.reverse
  match n.stage with
  | .zero | .whole => some base
  | .fraction => some { base with fraction }
  | .exponent =>
    some { base with fraction, exponent := some ⟨n.exponentNegative, n.exponent.reverse⟩ }
  | _ => none

/-- A character of a numeral, or none when the numeral does not go on with it. -/
def PartialNumeral.next? (n : PartialNumeral) (c : Char) : Option PartialNumeral :=
  match n.stage with
  | .minus =>
    (digit? c).map fun d => { n with stage := if d = 0 then .zero else .whole, whole := [d] }
  | .zero =>
    if c = '.' then some { n with stage := .point }
    else if c = 'e' || c = 'E' then some { n with stage := .mark }
    else none
  | .whole =>
    if c = '.' then some { n with stage := .point }
    else if c = 'e' || c = 'E' then some { n with stage := .mark }
    else (digit? c).map fun d => { n with whole := d :: n.whole }
  | .point => (digit? c).map fun d => { n with stage := .fraction, fraction := [d] }
  | .fraction =>
    if c = 'e' || c = 'E' then some { n with stage := .mark }
    else (digit? c).map fun d => { n with fraction := d :: n.fraction }
  | .mark =>
    if c = '+' then some { n with stage := .sign }
    else if c = '-' then some { n with stage := .sign, exponentNegative := true }
    else (digit? c).map fun d => { n with stage := .exponent, exponent := [d] }
  | .sign => (digit? c).map fun d => { n with stage := .exponent, exponent := [d] }
  | .exponent => (digit? c).map fun d => { n with exponent := d :: n.exponent }

/-- A character in or after a numeral. A digit may not follow a leading zero. -/
def State.numeral (s : State) (n : PartialNumeral) (c : Char) : State :=
  match n.next? c with
  | some n => { s with scan := .numeral n }
  | none =>
    match n.stage, n.complete? with
    | .zero, some m => if c.isDigit then s.stop (.broken .malformed) else (s.emit (.number m)).start c
    | _, some m => (s.emit (.number m)).start c
    | _, none => s.stop (.broken .malformed)

/-- A character of the text itself; a waiting half of a pair stands alone. -/
def PartialText.push (t : PartialText) (c : Char) : PartialText :=
  { t with out := c :: t.out, intact := t.intact && t.half.isNone, half := none, stage := .plain }

/-- The code unit that four hexadecimal digits name. -/
def PartialText.pushUnit (t : PartialText) (u : Nat) : PartialText :=
  let low := 0xDC00 ≤ u && u < 0xE000
  let high := 0xD800 ≤ u && u < 0xDC00
  match t.half with
  | some h =>
    if low then
      { t with out := Char.ofNat (0x10000 + (h - 0xD800) * 0x400 + (u - 0xDC00)) :: t.out,
               half := none, stage := .plain }
    else { t with intact := false, half := none, stage := .plain }
  | none =>
    if high then { t with half := some u, stage := .plain }
    else if low then { t with intact := false, stage := .plain }
    else t.push (Char.ofNat u)

/-- What an unfinished text means to the two kinds of reader. -/
def PartialText.brokenBy (t : PartialText) (f : Fault) : Token :=
  .brokenText ⟨if t.intact then f else .malformed, f⟩

/-- The character named by a one-letter escape. -/
def simpleEscape? (c : Char) : Option Char :=
  match c with
  | '"' => some '"'
  | '\\' => some '\\'
  | '/' => some '/'
  | 'b' => some '\x08'
  | 'f' => some '\x0c'
  | 'n' => some '\n'
  | 'r' => some '\r'
  | 't' => some '\t'
  | _ => none

/-- A character inside quotes. -/
def State.text (s : State) (t : PartialText) (c : Char) : State :=
  match t.stage with
  | .plain =>
    if c = '"' then
      s.emit (.text (if t.intact && t.half.isNone then some (String.ofList t.out.reverse) else none))
    else if c = '\\' then { s with scan := .text { t with stage := .escape } }
    else if c.toNat < 32 then s.stop ({ t with intact := t.intact && t.half.isNone }.brokenBy .malformed)
    else { s with scan := .text (t.push c) }
  | .escape =>
    if c = 'u' then { s with scan := .text { t with stage := .hex 0 0 true } }
    else match simpleEscape? c with
      | some e => { s with scan := .text (t.push e) }
      | none => s.stop (t.brokenBy .malformed)
  | .hex bytes value valid =>
    let bytes := bytes + c.utf8Size
    let (value, valid) := match hexDigit? c with
      | some d => (value * 16 + d, valid)
      | none => (value, false)
    if bytes < 4 then { s with scan := .text { t with stage := .hex bytes value valid } }
    else if valid then { s with scan := .text (t.pushUnit value) }
    else s.stop (t.brokenBy .malformed)

/-- One character. -/
def State.step (s : State) (c : Char) : State :=
  match s.scan with
  | .between => s.start c
  | .word (e :: rest) token =>
    if c = e then
      if rest.isEmpty then s.emit token else { s with scan := .word rest token }
    else s.stop (.broken .malformed)
  | .word [] token => (s.emit token).start c
  | .numeral n => s.numeral n c
  | .text t => s.text t c
  | .stopped => s

/-- The tokens when the text ends here. -/
def State.finish (s : State) : List Token :=
  let last : List Token :=
    match s.scan with
    | .between | .stopped => []
    | .word [] token => [token]
    | .word _ _ => [.broken .truncated]
    | .numeral n =>
      match n.complete? with
      | some m => [.number m]
      | none => [.broken .truncated]
    | .text t => [t.brokenBy .truncated]
  (last ++ s.tokens).reverse

/-- The tokens of a text. -/
def ofChars (cs : List Char) : List Token := (cs.foldl State.step {}).finish

end Token

end TableSeed.Json
