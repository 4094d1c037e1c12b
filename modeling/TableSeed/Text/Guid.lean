/-!
# GUIDs

A GUID is 128 bits, written as 32 hexadecimal digits: with hyphens in four places, in braces or
after a mark, or without hyphens.
-/

namespace TableSeed.Text.Guid

/-- Whether a character is a hexadecimal digit. -/
def isHexDigit (c : Char) : Bool :=
  c.isDigit || ('a' ≤ c && c ≤ 'f') || ('A' ≤ c && c ≤ 'F')

/-- Whether a text is groups of digits of the given sizes with hyphens between them. -/
def isGroups : List Nat → List Char → Bool
  | [], cs => cs.isEmpty
  | [n], cs => cs.length == n && cs.all isHexDigit
  | n :: rest, cs =>
    (cs.take n).length == n && (cs.take n).all isHexDigit &&
      match cs.drop n with
      | '-' :: cs => isGroups rest cs
      | _ => false

/-- The sizes of the groups. -/
def groupSizes : List Nat := [8, 4, 4, 4, 12]

/-- The mark before a GUID as a name, in lower case. -/
def urnMark : List Char := "urn:uuid:".toList

/-- Whether a text is in braces, and what they hold. -/
def unbraced? : List Char → Option (List Char)
  | '\x7b' :: rest =>
    match rest.reverse with
    | '\x7d' :: inner => some inner.reverse
    | _ => none
  | _ => none

/-- Whether a text is a GUID. -/
def isGuid (s : String) : Bool :=
  let cs := s.toList
  isGroups [32] cs || isGroups groupSizes cs || (unbraced? cs).any (isGroups groupSizes) ||
    (urnMark == (cs.take urnMark.length).map Char.toLower &&
      isGroups groupSizes (cs.drop urnMark.length))

/-- The hexadecimal digits of a number, `n` of them. -/
def digits (n v : Nat) : List Char :=
  let ds := Nat.toDigits 16 (v % Nat.pow 16 n)
  List.replicate (n - ds.length) '0' ++ ds

/-- The random GUID of 128 bits, with the marks of its version and its variant. -/
def ofBits (high low : UInt64) : String :=
  let h := digits 16 high.toNat
  let l := digits 16 ((low.toNat % 0x4000000000000000) + 0x8000000000000000)
  String.ofList (h.take 8 ++ '-' :: (h.drop 8).take 4 ++ '-' :: '4' :: h.drop 13 ++ '-' ::
    l.take 4 ++ '-' :: l.drop 4)

end TableSeed.Text.Guid
