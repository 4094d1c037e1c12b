import TableSeed.Text.Bytes

/-!
# Percent signs in addresses

In an address a byte may be written as a percent sign and two hexadecimal digits. In the
parameters of an address, which ampersands part, a plus stands for a blank.
-/

namespace TableSeed.Text.Percent

/-- The value of a hexadecimal digit. -/
def hexValue? (b : UInt8) : Option UInt8 :=
  if 48 ≤ b && b ≤ 57 then some (b - 48)
  else if 97 ≤ b && b ≤ 102 then some (b - 87)
  else if 65 ≤ b && b ≤ 70 then some (b - 55)
  else none

/-- The percent sign. -/
def sign : UInt8 := 37

/-- The bytes that a text stands for. A sign without two digits behind it stands for itself. -/
def decodeBytes : List UInt8 → List UInt8
  | [] => []
  | [b] => [b]
  | [b, c] => [b, c]
  | b :: c :: d :: rest =>
    if b = sign then
      match hexValue? c, hexValue? d with
      | some high, some low => (high * 16 + low) :: decodeBytes rest
      | _, _ => b :: decodeBytes (c :: d :: rest)
    else b :: decodeBytes (c :: d :: rest)

/-- The text that another one stands for, if its bytes are a text. -/
def decode? (s : String) : Option String :=
  Bytes.toText? (Bytes.ofList (decodeBytes (Bytes.ofText s).toList))

/-- A name or a value of a parameter. -/
def parameterText (s : String) : String :=
  (decode? (String.ofList (s.toList.map fun c => if c = '+' then ' ' else c))).getD s

/-- The parameters of an address, each a name and a value. -/
def parameters (s : String) : List (String × String) :=
  ((s.splitOn "&").filter (· ≠ "")).map fun part =>
    let cs := part.toList
    let name := String.ofList (cs.takeWhile (· ≠ '='))
    let value := String.ofList ((cs.dropWhile (· ≠ '=')).drop 1)
    (parameterText name, parameterText value)

end TableSeed.Text.Percent
