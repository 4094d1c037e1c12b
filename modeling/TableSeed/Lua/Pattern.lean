import TableSeed.Text.Bytes

/-!
# String patterns

A pattern is a list of items. A malformed end of a pattern is an item of its own, which fails the
match only when the match gets there. Matching tries the longest repetition first, or the shortest
for `-`, and goes back until the rest of the pattern matches.
-/

namespace TableSeed.Lua

/-- Why a pattern cannot be matched. -/
inductive PatternFault where
  | endsWithPercent
  | missingBracket
  | missingBalance
  | missingFrontier
  | invalidCapture
  | invalidCaptureIndex (n : Nat)
  | unfinishedCapture
  | tooManyCaptures
  deriving DecidableEq, Repr

namespace PatternFault

/-- The message of the fault. -/
def message : PatternFault → String
  | .endsWithPercent => "malformed pattern (ends with '%')"
  | .missingBracket => "malformed pattern (missing ']')"
  | .missingBalance => "malformed pattern (missing arguments to '%b')"
  | .missingFrontier => "missing '[' after '%f' in pattern"
  | .invalidCapture => "invalid pattern capture"
  | .invalidCaptureIndex n => s!"invalid capture index %{n}"
  | .unfinishedCapture => "unfinished capture"
  | .tooManyCaptures => "too many captures"

end PatternFault

namespace Pattern

/-- A member of a set of bytes. -/
inductive SetMember where
  | byte (b : UInt8)
  | range (low high : UInt8)
  /-- A class by its letter, or the byte itself when no class has that letter. -/
  | named (letter : UInt8)
  deriving DecidableEq

/-- What one byte may be. -/
inductive Single where
  | any
  | byte (b : UInt8)
  | named (letter : UInt8)
  | set (complement : Bool) (members : List SetMember)
  deriving DecidableEq

/-- How often an item may repeat. -/
inductive Repetition where
  | once
  | optional
  /-- Zero or more times, as many as possible. -/
  | many
  /-- One or more times, as many as possible. -/
  | some
  /-- Zero or more times, as few as possible. -/
  | few
  deriving DecidableEq

/-- An item of a pattern. -/
inductive Item where
  | single (s : Single) (r : Repetition)
  | openCapture
  | positionCapture
  | closeCapture
  /-- The same bytes as an earlier capture, counted from zero. -/
  | again (capture : Nat)
  | balance (opening closing : UInt8)
  | frontier (s : Single)
  /-- The end of the subject. -/
  | atEnd
  | malformed (fault : PatternFault)
  deriving DecidableEq

/-- Whether a byte is in the class of a lower-case letter, for letters that have one. -/
def inClass? (letter b : UInt8) : Option Bool :=
  let c := Char.ofNat b.toNat
  let ascii := b < 128
  match Char.ofNat letter.toNat with
  | 'a' => some (ascii && c.isAlpha)
  | 'c' => some (b < 32 || b == 127)
  | 'd' => some (ascii && c.isDigit)
  | 'g' => some (33 ≤ b && b ≤ 126)
  | 'l' => some (ascii && c.isLower)
  | 'p' => some (33 ≤ b && b ≤ 126 && !c.isAlphanum)
  | 's' => some (b == 32 || (9 ≤ b && b ≤ 13))
  | 'u' => some (ascii && c.isUpper)
  | 'w' => some (ascii && c.isAlphanum)
  | 'x' => some (ascii && (c.isDigit || ('a' ≤ c.toLower && c.toLower ≤ 'f')))
  | _ => none

/-- Whether a byte is in the class of a letter; an upper-case letter stands for all other bytes. -/
def inClass (letter b : UInt8) : Bool :=
  let isUpper := 65 ≤ letter && letter ≤ 90
  match inClass? (if isUpper then letter + 32 else letter) b with
  | some r => r != isUpper
  | none => letter == b

/-- Whether a byte is a member of a set. -/
def SetMember.has (m : SetMember) (b : UInt8) : Bool :=
  match m with
  | .byte x => x == b
  | .range low high => low ≤ b && b ≤ high
  | .named letter => inClass letter b

/-- Whether a byte is what one byte may be. -/
def Single.has (s : Single) (b : UInt8) : Bool :=
  match s with
  | .any => true
  | .byte x => x == b
  | .named letter => inClass letter b
  | .set complement members => members.any (·.has b) != complement

/-- The members of a set up to its closing bracket, with the bytes after it. The first byte never
closes the set, and a byte after a percent sign does not either. -/
def splitSet : List UInt8 → Bool → Option (List UInt8 × List UInt8)
  | [], _ => none
  | 37 :: b :: rest, _ => (splitSet rest false).map fun r => (37 :: b :: r.1, r.2)
  | b :: rest, isFirst =>
    if b == 93 && !isFirst then some ([], rest)
    else (splitSet rest false).map fun r => (b :: r.1, r.2)

/-- The members of a set without its brackets. -/
def setMembers : List UInt8 → List SetMember
  | [] => []
  | [37] => [.named 93]
  | 37 :: b :: rest => .named b :: setMembers rest
  | low :: 45 :: high :: rest => .range low high :: setMembers rest
  | b :: rest => .byte b :: setMembers rest

/-- A set after its opening bracket, with the bytes after it. -/
def readSet (bs : List UInt8) : Except PatternFault (Single × List UInt8) :=
  let (complement, bs) := match bs with
    | 94 :: rest => (true, rest)
    | bs => (false, bs)
  match splitSet bs true with
  | some (members, rest) => .ok (.set complement (setMembers members), rest)
  | none => .error .missingBracket

/-- What one byte may be, with the bytes after it. -/
def readSingle : List UInt8 → Except PatternFault (Single × List UInt8)
  | [] => .error .endsWithPercent
  | [37] => .error .endsWithPercent
  | 37 :: b :: rest => .ok (.named b, rest)
  | 91 :: rest => readSet rest
  | 46 :: rest => .ok (.any, rest)
  | b :: rest => .ok (.byte b, rest)

/-- A repetition, with the bytes after it. -/
def readRepetition : List UInt8 → Repetition × List UInt8
  | 42 :: rest => (.many, rest)
  | 43 :: rest => (.some, rest)
  | 45 :: rest => (.few, rest)
  | 63 :: rest => (.optional, rest)
  | bs => (.once, bs)

/-- The first item of a pattern, with the bytes after it. -/
def readItem (bs : List UInt8) : Except PatternFault (Item × List UInt8) :=
  let single : Except PatternFault (Item × List UInt8) := do
    let (s, rest) ← readSingle bs
    let (r, rest) := readRepetition rest
    return (.single s r, rest)
  match bs with
  | 40 :: 41 :: rest => .ok (.positionCapture, rest)
  | 40 :: rest => .ok (.openCapture, rest)
  | 41 :: rest => .ok (.closeCapture, rest)
  | [36] => .ok (.atEnd, [])
  | 37 :: 98 :: rest =>
    match rest with
    | opening :: closing :: rest => .ok (.balance opening closing, rest)
    | _ => .error .missingBalance
  | 37 :: 102 :: rest =>
    match rest with
    | 91 :: rest => do
      let (s, rest) ← readSet rest
      return (.frontier s, rest)
    | _ => .error .missingFrontier
  | 37 :: b :: rest =>
    if b == 48 then .ok (.malformed (.invalidCaptureIndex 0), rest)
    else if 49 ≤ b && b ≤ 57 then .ok (.again (b.toNat - 49), rest)
    else single
  | _ => single

/-- The items of a pattern, at most `fuel`. -/
def readItems : Nat → List UInt8 → List Item
  | 0, _ => []
  | _, [] => []
  | fuel + 1, bs =>
    match readItem bs with
    | .ok (item, rest) => item :: readItems fuel rest
    | .error fault => [.malformed fault]

/-- The items of a pattern. -/
def items (pattern : Bytes) : List Item := readItems pattern.size pattern.toList

/-- Whether a pattern may only match where the search starts, and its items. -/
def anchoredItems (pattern : Bytes) : Bool × List Item :=
  match pattern.toList with
  | 94 :: rest => (true, readItems rest.length rest)
  | bs => (false, readItems bs.length bs)

/-- What is known of a capture. -/
inductive CaptureExtent where
  /-- The capture is not closed yet. -/
  | unfinished
  /-- The capture is a position. -/
  | position
  | length (n : Nat)
  deriving DecidableEq

/-- A capture by where it starts. -/
structure Capture where
  start : Nat
  extent : CaptureExtent
  deriving DecidableEq

/-- The greatest number of captures. -/
def maxCaptures : Nat := 32

/-- Where a match ends, and its captures, the last one first. -/
abbrev Result := Except PatternFault (Option (Nat × List Capture))

/-- Tries the longest of at most `n` repetitions first. -/
def tryLongest (k : Nat → Result) : Nat → Result
  | 0 => k 0
  | n + 1 =>
    match k (n + 1) with
    | .ok none => tryLongest k n
    | r => r

/-- Tries `j` repetitions and then more, up to `fuel` more, as long as another one is possible. -/
def tryShortest (k : Nat → Result) (more : Nat → Bool) : Nat → Nat → Result
  | 0, j => k j
  | fuel + 1, j =>
    match k j with
    | .ok none => if more j then tryShortest k more fuel (j + 1) else .ok none
    | r => r

/-- How many bytes from a position on are what one byte may be, among the next `fuel`. -/
def countSingles (subject : Bytes) (s : Single) : Nat → Nat → Nat → Nat
  | 0, _, n => n
  | fuel + 1, i, n =>
    if i < subject.size && s.has (subject.get! i) then countSingles subject s fuel (i + 1) (n + 1) else n

/-- Where the balanced text ends that has `depth` openings before position `i`. -/
def balanceEnd (subject : Bytes) (opening closing : UInt8) : Nat → Nat → Nat → Option Nat
  | 0, _, _ => none
  | fuel + 1, i, depth =>
    if i < subject.size then
      let b := subject.get! i
      if b == closing then
        if depth ≤ 1 then some (i + 1) else balanceEnd subject opening closing fuel (i + 1) (depth - 1)
      else if b == opening then balanceEnd subject opening closing fuel (i + 1) (depth + 1)
      else balanceEnd subject opening closing fuel (i + 1) depth
    else none

/-- Closes the innermost open capture. -/
def closeCapture (i : Nat) : List Capture → Option (List Capture)
  | [] => none
  | c :: rest =>
    match c.extent with
    | .unfinished => some (⟨c.start, .length (i - c.start)⟩ :: rest)
    | _ => (closeCapture i rest).map (c :: ·)

/-- Matches items from a position on. -/
def matchItems (subject : Bytes) : List Item → Nat → List Capture → Result
  | [], i, captures => .ok (some (i, captures))
  | item :: rest, i, captures =>
    match item with
    | .single s r =>
      let here := i < subject.size && s.has (subject.get! i)
      let goOn (j : Nat) : Result := matchItems subject rest (i + j) captures
      match r with
      | .once => if here then goOn 1 else .ok none
      | .optional => if here then tryLongest goOn 1 else goOn 0
      | .many => tryLongest goOn (countSingles subject s (subject.size - i) i 0)
      | .some =>
        if here then
          tryLongest (fun j => goOn (j + 1)) (countSingles subject s (subject.size - i) (i + 1) 0)
        else .ok none
      | .few =>
        tryShortest goOn (fun j => i + j < subject.size && s.has (subject.get! (i + j)))
          (subject.size - i) 0
    | .openCapture =>
      if captures.length ≥ maxCaptures then .error .tooManyCaptures
      else matchItems subject rest i (⟨i, .unfinished⟩ :: captures)
    | .positionCapture =>
      if captures.length ≥ maxCaptures then .error .tooManyCaptures
      else matchItems subject rest i (⟨i, .position⟩ :: captures)
    | .closeCapture =>
      match closeCapture i captures with
      | some captures => matchItems subject rest i captures
      | none => .error .invalidCapture
    | .again n =>
      match captures.reverse[n]? with
      | some ⟨start, .length len⟩ =>
        if Bytes.occursAt subject (subject.extract start (start + len)) i then
          matchItems subject rest (i + len) captures
        else .ok none
      | some ⟨_, .position⟩ => .ok none
      | _ => .error (.invalidCaptureIndex (n + 1))
    | .balance opening closing =>
      if Bytes.at! subject i == opening then
        match balanceEnd subject opening closing (subject.size - i) (i + 1) 1 with
        | some j => matchItems subject rest j captures
        | none => .ok none
      else .ok none
    | .frontier s =>
      let before := if i = 0 then 0 else Bytes.at! subject (i - 1)
      if !s.has before && s.has (Bytes.at! subject i) then matchItems subject rest i captures
      else .ok none
    | .atEnd => if i = subject.size then matchItems subject rest i captures else .ok none
    | .malformed fault => .error fault

/-- A match by its ends and its captures in order. -/
structure Found where
  start : Nat
  stop : Nat
  captures : List Capture

/-- The match of items at a position. -/
def matchAt (items : List Item) (subject : Bytes) (i : Nat) : Except PatternFault (Option Found) := do
  match ← matchItems subject items i [] with
  | some (j, captures) => return some ⟨i, j, captures.reverse⟩
  | none => return none

/-- The first match among the `fuel` positions from `i` on that does not end at `except`. -/
def searchFrom (items : List Item) (subject : Bytes) (except : Option Nat) :
    Nat → Nat → Except PatternFault (Option Found)
  | 0, _ => .ok none
  | fuel + 1, i => do
    match ← matchAt items subject i with
    | some found =>
      if some found.stop == except then searchFrom items subject except fuel (i + 1)
      else return some found
    | none => searchFrom items subject except fuel (i + 1)

/-- The first match from a position on. -/
def search (anchored : Bool) (items : List Item) (subject : Bytes) (i : Nat) :
    Except PatternFault (Option Found) :=
  if anchored then matchAt items subject i
  else searchFrom items subject none (subject.size + 1 - i) i

/-- Whether a pattern has no bytes with a meaning of their own. -/
def isPlain (pattern : Bytes) : Bool :=
  pattern.toList.all fun b => !("^$*+?.([%-".toList.contains (Char.ofNat b.toNat))

/-- What a capture holds: bytes of the subject or a position. -/
inductive Captured where
  | bytes (b : Bytes)
  | position (i : Nat)

/-- What a capture holds, once the match is complete. -/
def Capture.read (subject : Bytes) (c : Capture) : Except PatternFault Captured :=
  match c.extent with
  | .unfinished => .error .unfinishedCapture
  | .position => .ok (.position (c.start + 1))
  | .length n => .ok (.bytes (subject.extract c.start (c.start + n)))

namespace Found

/-- The bytes that a match covers. -/
def whole (found : Found) (subject : Bytes) : Bytes := subject.extract found.start found.stop

/-- What the captures of a match hold. -/
def explicit (found : Found) (subject : Bytes) : Except PatternFault (List Captured) :=
  found.captures.mapM (·.read subject)

/-- What the captures of a match hold; a match without captures captures itself. -/
def captured (found : Found) (subject : Bytes) : Except PatternFault (List Captured) :=
  if found.captures.isEmpty then .ok [.bytes (found.whole subject)] else found.explicit subject

/-- What the capture of an index from zero on holds. -/
def capturedAt (found : Found) (subject : Bytes) (n : Nat) : Except PatternFault Captured :=
  match found.captures[n]? with
  | some c => c.read subject
  | none =>
    if n = 0 then .ok (.bytes (found.whole subject)) else .error (.invalidCaptureIndex (n + 1))

end Found

end Pattern

end TableSeed.Lua
