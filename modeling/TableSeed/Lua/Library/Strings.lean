import TableSeed.Lua.Arguments
import TableSeed.Lua.Format
import TableSeed.Lua.Packing
import TableSeed.Lua.Pattern

/-!
# The string library

Positions count bytes from 1; a negative position counts from the end. Every string method is a
function of this library.
-/

namespace TableSeed.Lua

open TableSeed.Lua.Action

namespace StringFunction

/-- The functions of the library. -/
def all : List StringFunction :=
  [.byte, .char, .dump, .find, .format, .gmatch, .gsub, .len, .lower, .match, .pack, .packsize,
   .rep, .reverse, .sub, .unpack, .upper]

/-- The name of a function. -/
def name : StringFunction → String
  | .byte => "byte"
  | .char => "char"
  | .dump => "dump"
  | .find => "find"
  | .format => "format"
  | .gmatch => "gmatch"
  | .gsub => "gsub"
  | .len => "len"
  | .lower => "lower"
  | .match => "match"
  | .pack => "pack"
  | .packsize => "packsize"
  | .rep => "rep"
  | .reverse => "reverse"
  | .sub => "sub"
  | .unpack => "unpack"
  | .upper => "upper"

end StringFunction

namespace Strings

/-- The integer as a value. -/
def ofNat (n : Nat) : Value := .integer (Int64.ofNat n)

/-- The place from which a string is taken, where a negative position counts from the end. -/
def startPosition (pos : Int64) (size : Nat) : Nat :=
  let p := pos.toInt
  if p > 0 then p.toNat
  else if p = 0 || p < -(size : Int) then 1
  else ((size : Int) + p + 1).toNat

/-- The place up to which a string is taken. -/
def endPosition (pos : Int64) (size : Nat) : Nat :=
  let p := pos.toInt
  if p > size then size
  else if p ≥ 0 then p.toNat
  else if p < -(size : Int) then 0
  else ((size : Int) + p + 1).toNat

/-- A string that is not too long. -/
def checked (b : Bytes) : Action Bytes :=
  if b.size > Value.maxStringSize then Value.exhausted else .done b

/-- The part of a string between two positions, ends included. -/
def slice (b : Bytes) (first last : Nat) : Bytes := b.extract (first - 1) last

/-- The bytes of a part of a string. -/
def byte (args : Arguments) : Action (List Value) := do
  let s ← args.bytes 1
  let start ← args.intOr 2 1
  let first := startPosition start s.size
  let last := endPosition (← args.intOr 3 start) s.size
  return (slice s first last).toList.map fun b => ofNat b.toNat

/-- The byte that a number is. -/
def charByte (args : Arguments) (i : Nat) : Action UInt8 := do
  let n ← args.int i
  if 0 ≤ n && n ≤ 255 then return n.toUInt64.toUInt8 else args.bad i "value out of range"

/-- A string of the given bytes. -/
def char (args : Arguments) : Action (List Value) := do
  let bytes ← (List.range args.values.length).mapM fun i => charByte args (i + 1)
  return [.string (Bytes.ofList bytes)]

/-- Copies of a string with a separator between them. -/
def rep (args : Arguments) : Action (List Value) := do
  let s ← args.bytes 1
  let n ← args.int 2
  let separator ← args.bytesOr 3 ByteArray.empty
  if n ≤ 0 then return [.string ByteArray.empty]
  else
    let count := n.toUInt64.toNat
    let total := (s.size + separator.size) * count - separator.size
    if total ≥ 0x8000000000000000 then complain "resulting string too large"
    else if 2 * total > Value.maxStringSize then Value.exhausted
    else return [.string (Bytes.repeated (s ++ separator) (count - 1) ++ s)]

/-- A part of a string. -/
def sub (args : Arguments) : Action (List Value) := do
  let s ← args.bytes 1
  let start ← args.int 2
  let first := startPosition start s.size
  let last := endPosition (← args.intOr 3 (-1)) s.size
  return [.string (if first ≤ last then slice s first last else ByteArray.empty)]

/-- A byte in lower case. -/
def lowerByte (b : UInt8) : UInt8 := if 65 ≤ b && b ≤ 90 then b + 32 else b

/-- A byte in upper case. -/
def upperByte (b : UInt8) : UInt8 := if 97 ≤ b && b ≤ 122 then b - 32 else b

/-- The result of matching, as an action. -/
def orComplain {α : Type} : Except PatternFault α → Action α
  | .ok a => .done a
  | .error fault => complain fault.message

/-- A capture as a value. -/
def capturedValue : Pattern.Captured → Value
  | .bytes b => .string b
  | .position i => ofNat i

/-- The first match of a pattern, as positions or as captures. -/
def findOrMatch (wantsPositions : Bool) (args : Arguments) : Action (List Value) := do
  let s ← args.bytes 1
  let p ← args.bytes 2
  let start := startPosition (← args.intOr 3 1) s.size - 1
  if start > s.size then return [.nil]
  else if wantsPositions && ((args.value 4).truthy || Pattern.isPlain p) then
    match Bytes.find? s p start with
    | some i => return [ofNat (i + 1), ofNat (i + p.size)]
    | none => return [.nil]
  else
    let (anchored, items) := Pattern.anchoredItems p
    match ← orComplain (Pattern.search anchored items s start) with
    | none => return [.nil]
    | some found =>
      if wantsPositions then
        let captures ← orComplain (found.explicit s)
        return ofNat (found.start + 1) :: ofNat found.stop :: captures.map capturedValue
      else return (← orComplain (found.captured s)).map capturedValue

/-- The names under which the iterator of `gmatch` keeps its subject, its pattern, where it goes on
and where its last match ended. -/
def subjectKey : Key := .ofText "subject"

/-- The key of the pattern. -/
def patternKey : Key := .ofText "pattern"

/-- The key of the position. -/
def positionKey : Key := .ofText "position"

/-- The key of the end of the last match. -/
def lastKey : Key := .ofText "last"

/-- An iterator over all matches. -/
def gmatch (args : Arguments) : Action (List Value) := do
  let s ← args.bytes 1
  let p ← args.bytes 2
  let start := startPosition (← args.intOr 3 1) s.size - 1
  let state ← create
  set state subjectKey (.string s)
  set state patternKey (.string p)
  set state positionKey (ofNat (min start (s.size + 1)))
  return [.builtin (.gmatchStep state.index)]

/-- The next match of an iterator. -/
def gmatchStep (state : TableRef) : Action (List Value) := do
  match ← get state subjectKey, ← get state patternKey, ← get state positionKey with
  | .string s, .string p, .integer i =>
    let last := match ← get state lastKey with
      | .integer n => some n.toUInt64.toNat
      | _ => none
    let i := i.toUInt64.toNat
    match ← orComplain (Pattern.searchFrom (Pattern.items p) s last (s.size + 1 - i) i) with
    | none => return [.nil]
    | some found =>
      set state positionKey (ofNat found.stop)
      set state lastKey (ofNat found.stop)
      return (← orComplain (found.captured s)).map capturedValue
  | _, _, _ => return [.nil]

/-- The bytes that a replacement text stands for. -/
def expand (subject : Bytes) (found : Pattern.Found) : List UInt8 → Bytes → Action Bytes
  | [], out => .done out
  | 37 :: 37 :: rest, out => expand subject found rest (out.push 37)
  | 37 :: b :: rest, out =>
    if b == 48 then expand subject found rest (out ++ found.whole subject)
    else if 49 ≤ b && b ≤ 57 then
      match found.capturedAt subject (b.toNat - 49) with
      | .ok (.bytes c) => expand subject found rest (out ++ c)
      | .ok (.position i) => expand subject found rest (out ++ Bytes.ofText (toString i))
      | .error fault => complain s!"{fault.message} in replacement string"
    else complain "invalid use of '%' in replacement string"
  | [37], _ => complain "invalid use of '%' in replacement string"
  | b :: rest, out => expand subject found rest (out.push b)

/-- What replaces a match, where a result that is not true keeps it. -/
def replacement (subject : Bytes) (replacer : Value) (found : Pattern.Found) : Action Bytes := do
  let v ← match replacer with
    | .table _ => do
      Value.index replacer (capturedValue (← orComplain (found.capturedAt subject 0)))
    | .closure _ | .builtin _ => do
      call1 replacer ((← orComplain (found.captured subject)).map capturedValue)
    | v =>
      match v.toBytes? with
      | some text => do
        let b ← expand subject found text.toList ByteArray.empty
        pure (Value.string b)
      | none => pure Value.nil
  if !v.truthy then return found.whole subject
  else
    match v.toBytes? with
    | some b => return b
    | none => complain s!"invalid replacement value (a {v.typeName})"

/-- Replaces matches from position `i` on, at most `left`, where `n` are replaced already and the
last match ended at `last`. -/
def replaceFrom (anchored : Bool) (items : List Pattern.Item) (subject : Bytes) (replacer : Value) :
    Nat → Nat → Option Nat → Nat → Nat → Bytes → Action (Bytes × Nat)
  | 0, i, _, _, n, out => .done (out ++ subject.extract i subject.size, n)
  | fuel + 1, i, last, left, n, out =>
    if left = 0 then .done (out ++ subject.extract i subject.size, n)
    else
      let finish (out : Bytes) (i n : Nat) : Action (Bytes × Nat) :=
        .done (out ++ subject.extract i subject.size, n)
      let skip : Action (Bytes × Nat) :=
        if i < subject.size then
          let out := out.push (subject.get! i)
          if anchored then finish out (i + 1) n
          else replaceFrom anchored items subject replacer fuel (i + 1) last left n out
        else .done (out, n)
      match Pattern.matchAt items subject i with
      | .error fault => complain fault.message
      | .ok (some found) =>
        if some found.stop == last then skip
        else do
          let text ← replacement subject replacer found
          let out ← checked (out ++ text)
          if anchored then finish out found.stop (n + 1)
          else
            replaceFrom anchored items subject replacer fuel found.stop (some found.stop) (left - 1)
              (n + 1) out
      | .ok none => skip

/-- Replaces matches of a pattern; how many is the second result. -/
def gsub (args : Arguments) : Action (List Value) := do
  let s ← args.bytes 1
  let p ← args.bytes 2
  let replacer := args.value 3
  if !(match replacer with
      | .table _ | .closure _ | .builtin _ | .string _ | .integer _ | .float _ => true
      | _ => false) then
    args.mismatch 3 "string/function/table"
  else
    let most ← args.intOr 4 (Int64.ofNat (s.size + 1))
    let left := if most ≤ 0 then 0 else most.toUInt64.toNat
    let (anchored, items) := Pattern.anchoredItems p
    let (text, n) ← replaceFrom anchored items s replacer (2 * s.size + 2) 0 none left 0 ByteArray.empty
    return [.string text, ofNat n]

/-- Fails because of a directive. -/
def badDirective {α : Type} (modifiers : List Char) (conversion : Char) : Action α :=
  complain s!"invalid conversion '%{String.ofList (modifiers ++ [conversion])}' to 'format'"

/-- The flags, and whether a precision may follow, for each conversion letter. -/
def conversionRule? (c : Char) : Option (String × Bool) :=
  match c with
  | 'd' | 'i' => some ("-+0 ", true)
  | 'u' => some ("-0", true)
  | 'o' | 'x' | 'X' => some ("-#0", true)
  | 'a' | 'A' | 'e' | 'E' | 'f' | 'g' | 'G' => some ("-+ #0", true)
  | 'c' | 'p' => some ("-", false)
  | 's' => some ("-", true)
  | _ => none

/-- A string as a directive lays it out. -/
def formatString (args : Arguments) (i : Nat) (modifiers : List Char) (d : Directive) :
    Action Bytes := do
  let s ← (← args.any i).toText
  if modifiers.isEmpty then return s
  else if s.toList.contains 0 then args.bad i "string contains zeros"
  else if d.precision.isNone && s.size ≥ 100 then return s
  else
    let kept := match d.precision with
      | some p => s.extract 0 p
      | none => s
    let blanks : Bytes := Bytes.ofList (List.replicate (d.width - kept.size) 32)
    return if d.left then kept ++ blanks else blanks ++ kept

/-- An argument as a directive lays it out. -/
def formatOne (args : Arguments) (i : Nat) (modifiers : List Char) (conversion : Char) :
    Action Bytes := do
  if !args.has i then args.bad i "no value"
  else if conversion = 'q' then
    if !modifiers.isEmpty then complain "specifier '%q' cannot have modifiers"
    else
      match Format.literal? (args.value i) with
      | some text => return Bytes.ofChars text
      | none => args.bad i "value has no literal form"
  else
    match conversionRule? conversion with
    | none => badDirective modifiers conversion
    | some (flags, hasPrecision) =>
      match Directive.read? modifiers conversion flags hasPrecision with
      | none => badDirective modifiers conversion
      | some d =>
        match conversion with
        | 'c' => do
          let n ← args.int i
          return Bytes.ofChars (d.pad [Char.ofNat (n.toUInt64.toNat % 256)])
        | 'd' | 'i' => do return Bytes.ofChars (d.signed (← args.int i))
        | 'u' => do return Bytes.ofChars (d.bits 10 false (← args.int i))
        | 'o' => do return Bytes.ofChars (d.bits 8 false (← args.int i))
        | 'x' => do return Bytes.ofChars (d.bits 16 false (← args.int i))
        | 'X' => do return Bytes.ofChars (d.bits 16 true (← args.int i))
        | 'p' =>
          let v := args.value i
          let text := match v with
            | .table r => (Value.addressText "" r.index).toList.drop 2
            | .closure r => (Value.addressText "" r.index).toList.drop 2
            | .string _ | .builtin _ => (Value.addressText "" 0).toList.drop 2
            | _ => "(null)".toList
          return Bytes.ofChars (d.pad text)
        | 's' => formatString args i modifiers d
        | _ => do return Bytes.ofChars (d.float (← args.float i))

/-- The longest modifiers of a directive. -/
def maxModifiers : Nat := 20

/-- Formats the rest of a format from at most `fuel` bytes, where argument `i` comes next. -/
def formatFrom (args : Arguments) : Nat → Nat → List UInt8 → Bytes → Action Bytes
  | 0, _, _, out => .done out
  | _, _, [], out => .done out
  | fuel + 1, i, 37 :: 37 :: rest, out => formatFrom args fuel i rest (out.push 37)
  | fuel + 1, i, 37 :: rest, out => do
    let modifiers := (rest.takeWhile fun b => Directive.isModifier (Char.ofNat b.toNat)).map
      fun b => Char.ofNat b.toNat
    if modifiers.length > maxModifiers then complain "invalid format string to 'format'"
    else
      match rest.drop modifiers.length with
      | [] => badDirective modifiers '\x00'
      | c :: rest =>
        let text ← formatOne args i modifiers (Char.ofNat c.toNat)
        formatFrom args fuel (i + 1) rest (← checked (out ++ text))
  | fuel + 1, i, b :: rest, out => formatFrom args fuel i rest (out.push b)

/-- Lays out the arguments after the first as the first says. -/
def format (args : Arguments) : Action (List Value) := do
  let f ← args.bytes 1
  return [.string (← formatFrom args (f.size + 1) 2 f.toList ByteArray.empty)]

/-- The result of a packing step, as an action. -/
def orBad {α : Type} (args : Arguments) (i : Nat) : Except String α → Action α
  | .ok a => .done a
  | .error why => args.bad i why

/-- One argument in packed form. -/
def packOne (args : Arguments) (i : Nat) (p : Packing.Piece) : Action (List UInt8) := do
  match p.kind with
  | .signed =>
    let n ← args.int i
    let limit : Int := Nat.pow 2 (p.size * 8 - 1)
    if p.size < 8 && !(-limit ≤ n.toInt && n.toInt < limit) then args.bad i "integer overflow"
    else return Packing.ofInt p.little p.size n.toInt
  | .unsigned =>
    let n ← args.int i
    if p.size < 8 && !(n.toUInt64.toNat < Nat.pow 256 p.size) then args.bad i "unsigned overflow"
    else return Packing.ofInt p.little p.size n.toUInt64.toNat
  | .single => do return Packing.ofSingle p.little (← args.float i)
  | .double => do return Packing.ofDouble p.little (← args.float i)
  | .fixed =>
    let s ← args.bytes i
    if s.size > p.size then args.bad i "string longer than given size"
    else if p.size > Value.maxStringSize then Value.exhausted
    else return s.toList ++ List.replicate (p.size - s.size) 0
  | .counted =>
    let s ← args.bytes i
    if p.size < 8 && s.size ≥ Nat.pow 256 p.size then
      args.bad i "string length does not fit in given size"
    else return Packing.ofInt p.little p.size (s.size : Nat) ++ s.toList
  | .terminated =>
    let s ← args.bytes i
    if s.toList.contains 0 then args.bad i "string contains zeros" else return s.toList ++ [0]
  | .padding => return [0]
  | .aligned => return []

/-- Packs the pieces in turn, where argument `i` comes next. -/
def packFrom (args : Arguments) : List Packing.Piece → Nat → Bytes → Action Bytes
  | [], _, out => .done out
  | p :: rest, i, out => do
    let gap := List.replicate (p.gap out.size) 0
    let bytes ← packOne args i p
    let isPadding := p.kind = .padding || p.kind = .aligned
    packFrom args rest (if isPadding then i else i + 1) (out ++ Bytes.ofList (gap ++ bytes))

/-- Packs the arguments after the first as the first says. -/
def pack (args : Arguments) : Action (List Value) := do
  let pieces ← orBad args 1 (Packing.pieces (← args.bytes 1))
  return [.string (← packFrom args pieces 2 ByteArray.empty)]

/-- The number of bytes that pieces of fixed size take. -/
def packsize (args : Arguments) : Action (List Value) := do
  let pieces ← orBad args 1 (Packing.pieces (← args.bytes 1))
  if pieces.any fun p => p.kind = .counted || p.kind = .terminated then
    args.bad 1 "variable-length format"
  else
    let total := pieces.foldl (fun total p => total + p.gap total + p.size) 0
    if total ≥ 0x80000000 then args.bad 1 "format result too large" else return [ofNat total]

/-- Where a zero stands among the next `fuel` bytes. -/
def zeroFrom (s : Bytes) : Nat → Nat → Option Nat
  | 0, _ => none
  | fuel + 1, i => if s.get! i == 0 then some i else zeroFrom s fuel (i + 1)

/-- Unpacks pieces from position `i` on. -/
def unpackFrom (args : Arguments) (s : Bytes) :
    List Packing.Piece → Nat → List Value → Action (List Value)
  | [], i, out => .done (out.reverse ++ [ofNat (i + 1)])
  | p :: rest, i, out => do
    let i := i + p.gap i
    if i + p.size > s.size then args.bad 2 "data string too short"
    else
      let bytes := (s.extract i (i + p.size)).toList
      let after := i + p.size
      match p.kind with
      | .signed =>
        let n ← orBad args 2 (Packing.toInt64 p.little true bytes)
        unpackFrom args s rest after (.integer n :: out)
      | .unsigned =>
        let n ← orBad args 2 (Packing.toInt64 p.little false bytes)
        unpackFrom args s rest after (.integer n :: out)
      | .single => unpackFrom args s rest after (.float (Packing.toSingle p.little bytes) :: out)
      | .double => unpackFrom args s rest after (.float (Packing.toDouble p.little bytes) :: out)
      | .fixed => unpackFrom args s rest after (.string (Bytes.ofList bytes) :: out)
      | .counted =>
        let n := Packing.toNat p.little bytes
        if after + n > s.size then args.bad 2 "data string too short"
        else unpackFrom args s rest (after + n) (.string (s.extract after (after + n)) :: out)
      | .terminated =>
        match zeroFrom s (s.size - i) i with
        | some j => unpackFrom args s rest (j + 1) (.string (s.extract i j) :: out)
        | none => args.bad 2 "unfinished string for format 'z'"
      | .padding | .aligned => unpackFrom args s rest after out

/-- Unpacks values as a format says, followed by the position after them. -/
def unpack (args : Arguments) : Action (List Value) := do
  let format ← args.bytes 1
  let s ← args.bytes 2
  let start := startPosition (← args.intOr 3 1) s.size - 1
  if start > s.size then args.bad 3 "initial position out of string"
  else
    let pieces ← orBad args 1 (Packing.pieces format)
    unpackFrom args s pieces start []

/-- What every compiled chunk starts with: its mark, the version and the sizes of numbers. -/
def chunkHeader : Bytes :=
  Bytes.ofList
    [0x1b, 0x4c, 0x75, 0x61, 0x54, 0, 0x19, 0x93, 0x0d, 0x0a, 0x1a, 0x0a, 4, 8, 8,
     0x78, 0x56, 0, 0, 0, 0, 0, 0, 0, 0, 0, 0, 0, 0x28, 0x77, 0x40]

/-- A function as a compiled chunk. Nothing loads such a chunk, so it holds the header alone; a
library function has no chunk. -/
def dump (args : Arguments) : Action (List Value) :=
  match args.value 1 with
  | .closure _ => .done [.string chunkHeader]
  | .builtin _ => complain "unable to dump given function"
  | _ => args.mismatch 1 "function"

end Strings

/-- What a string function does. -/
def StringFunction.run (f : StringFunction) (values : List Value) : Action (List Value) :=
  let args : Arguments := ⟨f.name, values⟩
  match f with
  | .byte => Strings.byte args
  | .char => Strings.char args
  | .dump => Strings.dump args
  | .find => Strings.findOrMatch true args
  | .format => Strings.format args
  | .gmatch => Strings.gmatch args
  | .gsub => Strings.gsub args
  | .len => do return [Strings.ofNat (← args.bytes 1).size]
  | .lower => do return [.string (Bytes.mapBytes Strings.lowerByte (← args.bytes 1))]
  | .match => Strings.findOrMatch false args
  | .pack => Strings.pack args
  | .packsize => Strings.packsize args
  | .rep => Strings.rep args
  | .reverse => do return [.string (Bytes.reversed (← args.bytes 1))]
  | .sub => Strings.sub args
  | .unpack => Strings.unpack args
  | .upper => do return [.string (Bytes.mapBytes Strings.upperByte (← args.bytes 1))]

end TableSeed.Lua
