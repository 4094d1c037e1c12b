import TableSeed.Lua.Arguments

/-!
# The UTF-8 library

A code is read with up to five continuation bytes. A strict reader takes only the codes of
characters; a lax one takes every number below `2^31`.
-/

namespace TableSeed.Lua

open TableSeed.Lua.Action

namespace Utf8Function

/-- The functions of the library. -/
def all : List Utf8Function := [.char, .codepoint, .codes, .len, .offset]

/-- The name of a function. -/
def name : Utf8Function → String
  | .char => "char"
  | .codepoint => "codepoint"
  | .codes | .codesStep _ => "codes"
  | .len => "len"
  | .offset => "offset"

end Utf8Function

namespace Utf8Text

/-- A pattern for one character. -/
def charPattern : Bytes :=
  Bytes.ofList ([91, 0, 45, 0x7F, 0xC2, 45, 0xFD, 93, 91, 0x80, 45, 0xBF, 93, 42] : List UInt8)

/-- Whether the byte at a position goes on a character. -/
def isContinuation (s : Bytes) (i : Nat) : Bool := Bytes.at! s i &&& 0xC0 == 0x80

/-- How many ones the first byte starts with after its first bit. -/
def continuationCount (b : UInt8) : Nat :=
  if b &&& 0x40 == 0 then 0
  else if b &&& 0x20 == 0 then 1
  else if b &&& 0x10 == 0 then 2
  else if b &&& 0x08 == 0 then 3
  else if b &&& 0x04 == 0 then 4
  else if b &&& 0x02 == 0 then 5
  else 6

/-- The six-bit digits of the next `n` continuation bytes put after a number. -/
def digits (s : Bytes) : Nat → Nat → Nat → Option Nat
  | 0, _, acc => some acc
  | n + 1, i, acc =>
    if isContinuation s i then digits s n (i + 1) (acc * 64 + (Bytes.at! s i &&& 0x3F).toNat) else none

/-- The least code that needs that many continuation bytes. -/
def leastCode (n : Nat) : Nat :=
  match n with
  | 1 => 0x80
  | 2 => 0x800
  | 3 => 0x10000
  | 4 => 0x200000
  | _ => 0x4000000

/-- The code at a position and the position after it. -/
def decode (s : Bytes) (strict : Bool) (i : Nat) : Option (Nat × Nat) :=
  let b := Bytes.at! s i
  if b < 0x80 then some (b.toNat, i + 1)
  else
    let n := continuationCount b
    if n = 0 || n > 5 then none
    else
      match digits s n (i + 1) (b.toNat % Nat.pow 2 (6 - n)) with
      | some code =>
        if code < leastCode n then none
        else if strict && (code > 0x10FFFF || (0xD800 ≤ code && code ≤ 0xDFFF)) then none
        else some (code, i + 1 + n)
      | none => none

/-- The lowest `n` six-bit digits of a code as continuation bytes, before others. -/
def continuation : Nat → Nat → List UInt8 → List UInt8
  | 0, _, rest => rest
  | n + 1, code, rest => continuation n (code / 64) ((0x80 + code % 64).toUInt8 :: rest)

/-- The bytes of a code below `2^31`. -/
def encode (code : Nat) : List UInt8 :=
  if code < 0x80 then [code.toUInt8]
  else
    let n := if code < 0x800 then 1 else if code < 0x10000 then 2 else if code < 0x200000 then 3
      else if code < 0x4000000 then 4 else 5
    let mark := 256 - Nat.pow 2 (7 - n)
    (mark + code / Nat.pow 64 n).toUInt8 :: continuation n code []

/-- The integer as a value. -/
def ofNat (n : Nat) : Value := .integer (Int64.ofNat n)

/-- A position that may count from the end; zero is before the start. -/
def position (pos : Int64) (size : Nat) : Int :=
  let p := pos.toInt
  if p ≥ 0 then p else if -p > size then 0 else size + p + 1

/-- Fails because bytes are no code. -/
def invalid {α : Type} : Action α := complain "invalid UTF-8 code"

/-- The bytes of codes. -/
def char (args : Arguments) : Action (List Value) := do
  let pieces ← (List.range args.values.length).mapM fun i => do
    let code ← args.int (i + 1)
    if code.toUInt64 ≤ 0x7FFFFFFF then pure (encode code.toUInt64.toNat)
    else args.bad (i + 1) "value out of range"
  return [.string (Bytes.ofList pieces.flatten)]

/-- The codes from position `i` to before `stop`, at most `fuel`, after those in `out`. -/
def codesBetween (s : Bytes) (strict : Bool) (stop : Nat) : Nat → Nat → List Value → Action (List Value)
  | 0, _, out => .done out.reverse
  | fuel + 1, i, out =>
    if i < stop then
      match decode s strict i with
      | some (code, j) => codesBetween s strict stop fuel j (ofNat code :: out)
      | none => invalid
    else .done out.reverse

/-- The codes of a part of a string. -/
def codepoint (args : Arguments) : Action (List Value) := do
  let s ← args.bytes 1
  let first := position (← args.intOr 2 1) s.size
  let last := position (← args.intOr 3 (Int64.ofInt first)) s.size
  if first < 1 then args.bad 2 "out of bounds"
  else if last > s.size then args.bad 3 "out of bounds"
  else if first > last then return []
  else codesBetween s (!(args.value 4).truthy) last.toNat s.size (first - 1).toNat []

/-- Counts the codes from position `i` to `last`, at most `fuel`; the place of what is no code ends
the count. -/
def countBetween (s : Bytes) (strict : Bool) (last : Int) : Nat → Nat → Nat → List Value
  | 0, _, n => [ofNat n]
  | fuel + 1, i, n =>
    if (i : Int) ≤ last then
      match decode s strict i with
      | some (_, j) => countBetween s strict last fuel j (n + 1)
      | none => [.nil, ofNat (i + 1)]
    else [ofNat n]

/-- The number of codes in a part of a string. -/
def len (args : Arguments) : Action (List Value) := do
  let s ← args.bytes 1
  let first := position (← args.intOr 2 1) s.size
  let last := position (← args.intOr 3 (-1)) s.size
  if !(1 ≤ first && first - 1 ≤ s.size) then args.bad 2 "initial position out of bounds"
  else if !(last - 1 < s.size) then args.bad 3 "final position out of bounds"
  else
    return countBetween s (!(args.value 4).truthy) (last - 1) (s.size + 1) (first - 1).toNat 0

/-- The start of the character that goes on at a position, looked for in `fuel` steps back. -/
def backToStart (s : Bytes) : Nat → Nat → Nat
  | 0, i => i
  | fuel + 1, i => if i > 0 && isContinuation s i then backToStart s fuel (i - 1) else i

/-- The first position from `i` on that does not go on a character. -/
def forthToStart (s : Bytes) : Nat → Nat → Nat
  | 0, i => i
  | fuel + 1, i => if isContinuation s i then forthToStart s fuel (i + 1) else i

/-- The start of the character `n` before a position; none when there are fewer. -/
def back (s : Bytes) : Nat → Nat → Option Nat
  | 0, i => some i
  | n + 1, i => if i > 0 then back s n (backToStart s s.size (i - 1)) else none

/-- The start of the character `n` after a position; none when there are fewer. -/
def forth (s : Bytes) : Nat → Nat → Option Nat
  | 0, i => some i
  | n + 1, i => if i < s.size then forth s n (forthToStart s s.size (i + 1)) else none

/-- Where a character stands, counted from a position. -/
def offset (args : Arguments) : Action (List Value) := do
  let s ← args.bytes 1
  let n ← args.int 2
  let default : Int64 := if n > 0 then 1 else Int64.ofNat (s.size + 1)
  let pos := position (← args.intOr 3 default) s.size - 1
  if !(0 ≤ pos && pos ≤ s.size) then args.bad 3 "position out of bounds"
  else
    let i := pos.toNat
    if n = 0 then return [ofNat (backToStart s s.size i + 1)]
    else if isContinuation s i then complain "initial position is a continuation byte"
    else
      let steps := min n.toInt.natAbs (s.size + 2)
      let found := if n < 0 then back s steps i else forth s (steps - 1) i
      match found with
      | some j => return [ofNat (j + 1)]
      | none => return [.nil]

/-- An iterator over codes, the string, and where it starts. -/
def codes (args : Arguments) : Action (List Value) := do
  let s ← args.bytes 1
  if isContinuation s 0 then args.bad 1 "invalid UTF-8 code"
  else return [.builtin (.utf8 (.codesStep (args.value 2).truthy)), .string s, .integer 0]

/-- The code after a position. -/
def codesStep (args : Arguments) (lax : Bool) : Action (List Value) := do
  let s ← args.bytes 1
  let n := match (args.value 2).toNum?.bind Num.toInt64? with
    | some n => n.toUInt64.toNat
    | none => 0
  let i := if n < s.size then forthToStart s s.size n else n
  if i ≥ s.size then return []
  else
    match decode s (!lax) i with
    | some (code, j) =>
      if isContinuation s j then invalid else return [ofNat (i + 1), ofNat code]
    | none => invalid

end Utf8Text

/-- What a UTF-8 function does. -/
def Utf8Function.run (f : Utf8Function) (values : List Value) : Action (List Value) :=
  let args : Arguments := ⟨f.name, values⟩
  match f with
  | .char => Utf8Text.char args
  | .codepoint => Utf8Text.codepoint args
  | .codes => Utf8Text.codes args
  | .codesStep lax => Utf8Text.codesStep args lax
  | .len => Utf8Text.len args
  | .offset => Utf8Text.offset args

end TableSeed.Lua
