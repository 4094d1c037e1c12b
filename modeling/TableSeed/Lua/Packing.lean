import TableSeed.Lua.Arithmetic

/-!
# Packed bytes

A packing format is a list of pieces, each with its size, its alignment and its byte order. A
number of `n` bytes is its value modulo `256^n`, the low byte first in little-endian order.
-/

namespace TableSeed.Lua

namespace Packing

/-- What a piece of a format holds. -/
inductive Kind where
  | signed | unsigned
  | single | double
  /-- Bytes of a fixed number. -/
  | fixed
  /-- Bytes after their number. -/
  | counted
  /-- Bytes before a zero. -/
  | terminated
  | padding
  /-- Nothing but what alignment adds. -/
  | aligned
  deriving DecidableEq, Repr

/-- A piece of a format. -/
structure Piece where
  kind : Kind
  size : Nat
  /-- The piece starts at a multiple of this number. -/
  alignment : Nat
  little : Bool

/-- What a format has said so far about the pieces to come. -/
structure Mode where
  little : Bool := true
  maxAlignment : Nat := 1

/-- An option of a format as it stands there. -/
inductive Directive where
  | piece (kind : Kind) (size : Nat)
  | mode (m : Mode)
  | alignNext
  | blank

/-- A number in the format, or none when no digit comes next. -/
def readNumber : List Char → Option Nat × List Char
  | [] => (none, [])
  | c :: rest =>
    if c.isDigit then
      let (ds, rest) := Numeral.digits Numeral.digit? (c :: rest)
      (some (Numeral.ofDigits 10 ds), rest)
    else (none, c :: rest)

/-- A size between 1 and 16, with a default. -/
def readSize (default : Nat) (cs : List Char) : Except String (Nat × List Char) :=
  match readNumber cs with
  | (some n, rest) =>
    if 1 ≤ n && n ≤ 16 then .ok (n, rest)
    else .error s!"integral size ({n}) out of limits [1,16]"
  | (none, rest) => .ok (default, rest)

/-- The first option of a format. -/
def readOption (mode : Mode) (c : Char) (rest : List Char) : Except String (Directive × List Char) :=
  let number (kind : Kind) (size : Nat) : Except String (Directive × List Char) := .ok (.piece kind size, rest)
  match c with
  | 'b' => number .signed 1
  | 'B' => number .unsigned 1
  | 'h' => number .signed 2
  | 'H' => number .unsigned 2
  | 'l' | 'j' => number .signed 8
  | 'L' | 'J' | 'T' => number .unsigned 8
  | 'f' => number .single 4
  | 'd' | 'n' => number .double 8
  | 'i' => do
    let (n, rest) ← readSize 4 rest
    return (.piece .signed n, rest)
  | 'I' => do
    let (n, rest) ← readSize 4 rest
    return (.piece .unsigned n, rest)
  | 's' => do
    let (n, rest) ← readSize 8 rest
    return (.piece .counted n, rest)
  | 'c' =>
    match readNumber rest with
    | (some n, rest) => .ok (.piece .fixed n, rest)
    | (none, _) => .error "missing size for format option 'c'"
  | 'z' => number .terminated 0
  | 'x' => number .padding 1
  | 'X' => .ok (.alignNext, rest)
  | ' ' => .ok (.blank, rest)
  | '<' | '=' => .ok (.mode { mode with little := true }, rest)
  | '>' => .ok (.mode { mode with little := false }, rest)
  | '!' => do
    let (n, rest) ← readSize 8 rest
    return (.mode { mode with maxAlignment := n }, rest)
  | c => .error s!"invalid format option '{c}'"

/-- The alignment of something of a size. -/
def alignmentOf (mode : Mode) (kind : Kind) (size : Nat) : Except String Nat :=
  if size ≤ 1 || kind = .fixed then .ok 1
  else
    let a := min size mode.maxAlignment
    if Nat.pow 2 a.log2 = a then .ok a else .error "format asks for alignment not power of 2"

/-- The pieces of a format, from at most `fuel` options. -/
def readPieces : Nat → Mode → List Char → Except String (List Piece)
  | 0, _, _ => .ok []
  | _, _, [] => .ok []
  | fuel + 1, mode, c :: rest => do
    let (option, rest) ← readOption mode c rest
    match option with
    | .blank => readPieces fuel mode rest
    | .mode mode => readPieces fuel mode rest
    | .piece kind size =>
      let alignment ← alignmentOf mode kind size
      return ⟨kind, size, alignment, mode.little⟩ :: (← readPieces fuel mode rest)
    | .alignNext =>
      match rest with
      | [] => throw "invalid next option for option 'X'"
      | c :: rest =>
        match ← readOption mode c rest with
        | (.piece kind size, rest) =>
          if kind = .fixed || size = 0 then throw "invalid next option for option 'X'"
          else
            let alignment ← alignmentOf mode kind size
            return ⟨.aligned, 0, alignment, mode.little⟩ :: (← readPieces fuel mode rest)
        | _ => throw "invalid next option for option 'X'"

/-- The pieces of a format. -/
def pieces (format : Bytes) : Except String (List Piece) :=
  readPieces format.size {} format.toChars

/-- How many bytes of padding a piece needs after `total` bytes. -/
def Piece.gap (p : Piece) (total : Nat) : Nat :=
  if p.alignment ≤ 1 then 0 else (p.alignment - total % p.alignment) % p.alignment

/-- `n` bytes of a number, the low byte first. -/
def littleBytes : Nat → Nat → List UInt8
  | 0, _ => []
  | n + 1, v => (v % 256).toUInt8 :: littleBytes n (v / 256)

/-- `n` bytes of an integer. -/
def ofInt (little : Bool) (n : Nat) (v : Int) : List UInt8 :=
  let bytes := littleBytes n (v % (Nat.pow 256 n : Nat)).toNat
  if little then bytes else bytes.reverse

/-- The number that bytes stand for. -/
def toNat (little : Bool) (bytes : List UInt8) : Nat :=
  (if little then bytes.reverse else bytes).foldl (fun acc b => acc * 256 + b.toNat) 0

/-- The integer that bytes stand for; more than eight bytes must extend an integer of eight. -/
def toInt64 (little signed : Bool) (bytes : List UInt8) : Except String Int64 :=
  let n := bytes.length
  let v := toNat little bytes
  let v : Int := if signed && 2 * v ≥ Nat.pow 256 n then (v : Int) - (Nat.pow 256 n : Nat) else v
  if n > 8 && !(if signed then -0x8000000000000000 ≤ v && v < 0x8000000000000000 else v < 0x10000000000000000) then
    .error s!"{n}-byte integer does not fit into Lua Integer"
  else .ok (Int64.ofInt v)

/-- The four bytes of a float in single precision. -/
def ofSingle (little : Bool) (x : Binary64) : List UInt8 :=
  ofInt little 4 (x.toFloat.toFloat32.toBits.toNat : Nat)

/-- The float that four bytes stand for. -/
def toSingle (little : Bool) (bytes : List UInt8) : Binary64 :=
  Binary64.ofFloat (Float32.ofBits (toNat little bytes).toUInt32).toFloat

/-- The eight bytes of a float. -/
def ofDouble (little : Bool) (x : Binary64) : List UInt8 := ofInt little 8 (x.bits.toNat : Nat)

/-- The float that eight bytes stand for. -/
def toDouble (little : Bool) (bytes : List UInt8) : Binary64 := ⟨(toNat little bytes).toUInt64⟩

end Packing

end TableSeed.Lua
