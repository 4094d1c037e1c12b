import TableSeed.Json.Value
import TableSeed.Number.Decimal

/-!
# JSON text

Values are written without blanks. Text keeps every character but the quote, the backslash and
the control characters. A double has the fewest digits that read back, always with a fraction
when it has no exponent, so that it never looks like an integer.
-/

namespace TableSeed.Json

/-- Doubles are positional from `0.00001` to below `10^16`, keep a fraction, and otherwise have an
exponent with its sign. -/
def doubleLayout : DecimalLayout :=
  { positionalFrom := -5, positionalBelow := 16, keepsFraction := true, exponentPlus := true,
    exponentWidth := 1 }

/-- The text of a finite double. -/
def writeDouble (x : Binary64) : List Char :=
  (if x.isNegative then ['-'] else []) ++ doubleLayout.write x.shortest

/-- The text of an integer. -/
def writeInt (n : Int) : List Char :=
  if n < 0 then '-' :: Nat.toDigits 10 n.natAbs else Nat.toDigits 10 n.toNat

/-- The text of a number. -/
def Number.write : Number → List Char
  | .integer n _ => writeInt n
  | .double x _ => writeDouble x

/-- A hexadecimal digit in lower case. -/
def hexDigit (n : Nat) : Char := if n < 10 then Char.ofNat (48 + n) else Char.ofNat (87 + n)

/-- One character of a quoted text. -/
def escapeChar (c : Char) : List Char :=
  if c = '"' then ['\\', '"']
  else if c = '\\' then ['\\', '\\']
  else if 32 ≤ c.toNat then [c]
  else if c = '\n' then ['\\', 'n']
  else if c = '\r' then ['\\', 'r']
  else if c = '\t' then ['\\', 't']
  else if c = '\x08' then ['\\', 'b']
  else if c = '\x0c' then ['\\', 'f']
  else ['\\', 'u', '0', '0', hexDigit (c.toNat / 16), hexDigit (c.toNat % 16)]

/-- A quoted text. -/
def writeString (s : String) : List Char := '"' :: (s.toList.flatMap escapeChar ++ ['"'])

namespace Value

mutual

/-- The characters of a value's text. -/
def write : Value → List Char
  | .null => ['n', 'u', 'l', 'l']
  | .bool true => ['t', 'r', 'u', 'e']
  | .bool false => ['f', 'a', 'l', 's', 'e']
  | .number n => n.write
  | .string s => writeString s
  | .array items => '[' :: writeItems items ++ [']']
  | .object members => '{' :: writeMembers members ++ ['}']

/-- The items between the brackets of an array. -/
def writeItems : List Value → List Char
  | [] => []
  | v :: rest => write v ++ (if rest.isEmpty then [] else ',' :: writeItems rest)

/-- The members between the braces of an object. -/
def writeMembers : List (String × Value) → List Char
  | [] => []
  | (k, v) :: rest =>
    writeString k ++ ':' :: write v ++ (if rest.isEmpty then [] else ',' :: writeMembers rest)

end

/-- The text of a value. -/
def render (v : Value) : String := String.ofList v.write

end Value

end TableSeed.Json
