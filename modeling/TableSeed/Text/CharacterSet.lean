/-!
# Sets of characters

A set is given by the code points at which membership changes, in ascending order: the first
opens a range, the second ends it, and so on.
-/

namespace TableSeed.Text

/-- A set of characters by the ascending code points at which membership changes. -/
structure CharacterSet where
  boundaries : List Nat

namespace CharacterSet

/-- Whether the code point lies in one of the ranges, where `inside` says whether the list starts
within a range. -/
def member (n : Nat) (inside : Bool) : List Nat → Bool
  | [] => inside
  | b :: rest => if n < b then inside else member n (!inside) rest

/-- Whether the set has the character. -/
def contains (s : CharacterSet) (c : Char) : Bool := member c.toNat false s.boundaries

end CharacterSet

end TableSeed.Text
