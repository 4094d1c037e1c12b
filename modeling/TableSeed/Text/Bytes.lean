/-!
# Byte strings

A byte string need not be text. `Bytes.toText?` gives the text that the bytes encode in UTF-8,
`Bytes.ofText` encodes a text, and `Bytes.toChars` shows each byte as the character of its number,
which is what byte-wise scanners work on.
-/

namespace TableSeed

/-- A string of bytes. -/
abbrev Bytes := ByteArray

namespace Bytes

/-- Byte strings are equal when their bytes are. -/
instance decidableEq : DecidableEq Bytes := ByteArray.instDecidableEq

/-- The UTF-8 encoding of a text. -/
@[inline] def ofText (s : String) : Bytes := s.toUTF8

/-- The text that the bytes encode in UTF-8. -/
@[inline] def toText? (b : Bytes) : Option String := String.fromUTF8? b

/-- The bytes of a list. -/
def ofList (bs : List UInt8) : Bytes := bs.toByteArray

/-- The characters with the numbers of the bytes from `start` on, in front of `rest`. -/
def charsFrom (b : Bytes) : Nat → List Char → List Char
  | 0, rest => rest
  | n + 1, rest => charsFrom b n (Char.ofNat (b.get! n).toNat :: rest)

/-- Each byte as the character of its number. -/
def toChars (b : Bytes) : List Char := charsFrom b b.size []

/-- The bytes of characters that are all below 256. -/
def ofChars (cs : List Char) : Bytes := ofList (cs.map fun c => c.toNat.toUInt8)

/-- The byte at a position, or zero past the end. -/
@[inline] def at! (b : Bytes) (i : Nat) : UInt8 := if i < b.size then b.get! i else 0

/-- Compares from position `i`, with `fuel` positions to go. -/
def compareFrom (a b : Bytes) (i : Nat) : Nat → Ordering
  | 0 => compare a.size b.size
  | fuel + 1 =>
    if i < a.size && i < b.size then
      let x := a.get! i
      let y := b.get! i
      if x < y then .lt else if y < x then .gt else compareFrom a b (i + 1) fuel
    else compare a.size b.size

/-- The order by the first bytes that differ; a string stands before its extensions. -/
def order (a b : Bytes) : Ordering := compareFrom a b 0 a.size

/-- Whether `part` stands in `b` at `i`, checked for the last `fuel` bytes of `part`. -/
def occursFrom (b part : Bytes) (i : Nat) : Nat → Bool
  | 0 => true
  | fuel + 1 =>
    let j := part.size - (fuel + 1)
    b.at! (i + j) == part.at! j && occursFrom b part i fuel

/-- Whether `part` stands in `b` at `i`. -/
def occursAt (b part : Bytes) (i : Nat) : Bool := i + part.size ≤ b.size && occursFrom b part i part.size

/-- The first place of `part` among the `fuel` places from `i` on. -/
def findFrom (b part : Bytes) (i : Nat) : Nat → Option Nat
  | 0 => none
  | fuel + 1 => if occursAt b part i then some i else findFrom b part (i + 1) fuel

/-- The first place at or after `i` where `part` stands. -/
def find? (b part : Bytes) (i : Nat) : Option Nat := findFrom b part i (b.size + 1 - i)

/-- `n` copies put together by doubling. -/
def repeated (b : Bytes) (n : Nat) : Bytes :=
  if _h : n = 0 then ByteArray.empty
  else
    let half := repeated b (n / 2)
    let both := half ++ half
    if n % 2 = 0 then both else both ++ b
termination_by n
decreasing_by omega

/-- The bytes in reverse order. -/
def reversed (b : Bytes) : Bytes := ofList b.toList.reverse

/-- Each byte changed. -/
def mapBytes (f : UInt8 → UInt8) (b : Bytes) : Bytes := ofList (b.toList.map f)

end Bytes

end TableSeed
