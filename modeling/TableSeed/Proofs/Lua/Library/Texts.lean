import TableSeed.Lua.Library.Strings
import TableSeed.Lua.Library.Utf8Text
import TableSeed.Proofs.Lua.Library.Arguments

/-!
# What functions of texts reach

The results of the string functions and of the UTF-8 functions are texts and numbers. An iterator over
matches keeps a table of its own, and a replacement is taken out of a table or called.
-/

namespace TableSeed.Lua

open TableSeed.Lua.Action

variable {R : Reach}

namespace Utf8Text

variable {args : Arguments}

/-- A natural number as a value refers to nothing. -/
@[simp] theorem within_ofNat (n : Nat) : (ofNat n).Within R := trivial

/-- Characters of codes are a string. -/
theorem char_within : (char args).Within R (Value.AllWithin R) := by
  refine (mapM_within _ fun i => ?_).bind fun _ _ => by simp
  simp

/-- The codes between two positions are numbers. -/
theorem codesBetween_within (s : Bytes) (strict : Bool) (stop fuel i : Nat) {out : List Value}
    (found : Value.AllWithin R out) :
    (codesBetween s strict stop fuel i out).Within R (Value.AllWithin R) := by
  induction fuel generalizing i out with
  | zero => exact (Value.allWithin_reverse out).mpr found
  | succ fuel ih =>
    unfold codesBetween
    rw [within_ite]
    refine ⟨fun _ => ?_, fun _ => (Value.allWithin_reverse out).mpr found⟩
    split
    · exact ih _ (by simpa using found)
    · trivial

/-- The codes of a string are numbers. -/
theorem codepoint_within : (codepoint args).Within R (Value.AllWithin R) := by
  simp [codepoint, codesBetween_within]

/-- A count of codes, or the place where it ended, refers to nothing. -/
theorem countBetween_within (s : Bytes) (strict : Bool) (last : Int) (fuel i n : Nat) :
    Value.AllWithin R (countBetween s strict last fuel i n) := by
  induction fuel generalizing i n with
  | zero => simp [countBetween]
  | succ fuel ih =>
    unfold countBetween
    split
    · split
      · exact ih _ _
      · simp
    · simp

/-- A number of codes refers to nothing. -/
theorem len_within : (len args).Within R (Value.AllWithin R) := by
  simp [len, countBetween_within]

/-- The place of a code refers to nothing. -/
theorem offset_within : (offset args).Within R (Value.AllWithin R) := by
  simp only [offset, within_bind, within_ite, Arguments.within_bytes, Arguments.within_int,
    Arguments.within_intOr]
  refine fun _ _ _ _ _ _ => ⟨fun _ => trivial, fun _ => ⟨fun _ => by simp, fun _ => ⟨fun _ => trivial,
    fun _ => ?_⟩⟩⟩
  split <;> simp

/-- The iterator over codes refers to its string only. -/
theorem codes_within : (codes args).Within R (Value.AllWithin R) := by
  simp [codes]

/-- A step over codes gives numbers. -/
theorem codesStep_within (lax : Bool) : (codesStep args lax).Within R (Value.AllWithin R) := by
  simp only [codesStep, within_bind, within_ite, Arguments.within_bytes]
  refine fun s _ => ⟨fun _ => by simp, fun _ => ?_⟩
  generalize decode s (!lax) _ = decoded
  cases decoded with
  | none => trivial
  | some read => split <;> simp [invalid]

end Utf8Text

/-- The results of a UTF-8 function. -/
theorem Utf8Function.run_within (f : Utf8Function) (values : List Value) :
    (f.run values).Within R (Value.AllWithin R) := by
  cases f with
  | char => exact Utf8Text.char_within
  | codepoint => exact Utf8Text.codepoint_within
  | codes => exact Utf8Text.codes_within
  | codesStep lax => exact Utf8Text.codesStep_within lax
  | len => exact Utf8Text.len_within
  | offset => exact Utf8Text.offset_within

namespace Strings

variable {args : Arguments}

/-- A natural number as a value refers to nothing. -/
@[simp] theorem within_ofNat (n : Nat) : (ofNat n).Within R := trivial

/-- A capture is a string or a position. -/
@[simp] theorem within_capturedValue (c : Pattern.Captured) : (capturedValue c).Within R := by
  cases c <;> trivial

/-- Captures are strings and positions. -/
@[simp] theorem allWithin_map_capturedValue (captures : List Pattern.Captured) :
    Value.AllWithin R (captures.map capturedValue) := by
  intro v mem
  obtain ⟨c, -, rfl⟩ := List.mem_map.mp mem
  exact within_capturedValue c

/-- A result of matching is handed on, and a fault of the pattern is a message. -/
@[simp] theorem within_orComplain {α : Type} {Q : α → Prop} (result : Except PatternFault α) :
    (orComplain result).Within R Q ↔ ∀ a, result = .ok a → Q a := by
  cases result <;> simp [orComplain]

/-- A result of packing is handed on, and a fault is a message about the argument. -/
@[simp] theorem within_orBad {α : Type} {Q : α → Prop} (i : Nat) (result : Except String α) :
    (orBad args i result).Within R Q ↔ ∀ a, result = .ok a → Q a := by
  cases result <;> simp [orBad]

/-- What exceeds the memory is a message. -/
@[simp] theorem within_exhausted {α : Type} {Q : α → Prop} :
    (Value.exhausted : Action α).Within R Q := trivial

/-- A string is handed on if it is not too long. -/
@[simp] theorem within_checked (b : Bytes) {Q : Bytes → Prop} :
    (checked b).Within R Q ↔ (b.size ≤ Value.maxStringSize → Q b) := by
  simp [checked]

/-- Bytes of a string are numbers. -/
theorem byte_within : (byte args).Within R (Value.AllWithin R) := by
  simp only [byte, within_bind, within_pure, Arguments.within_bytes, Arguments.within_intOr]
  intro s _ start _ stop _ v mem
  obtain ⟨b, -, rfl⟩ := List.mem_map.mp mem
  trivial

/-- Characters of bytes are a string. -/
theorem char_within : (char args).Within R (Value.AllWithin R) := by
  refine (mapM_within _ fun i => ?_).bind fun _ _ => by simp
  simp [charByte]

/-- A repeated string is a string. -/
theorem rep_within : (rep args).Within R (Value.AllWithin R) := by
  simp [rep]

/-- A part of a string is a string. -/
theorem sub_within : (sub args).Within R (Value.AllWithin R) := by
  simp [sub]

/-- A match is told as positions and captures. -/
theorem findOrMatch_within (wantsPositions : Bool) :
    (findOrMatch wantsPositions args).Within R (Value.AllWithin R) := by
  simp only [findOrMatch, within_bind, within_ite, Arguments.within_bytes, Arguments.within_intOr,
    within_orComplain]
  refine fun _ _ _ _ _ _ => ⟨fun _ => by simp, fun _ => ⟨fun _ => ?_, fun _ found _ => ?_⟩⟩
  · split <;> simp
  · cases found <;> simp

/-- The iterator over matches keeps its state in a new table. -/
theorem gmatch_within : (gmatch args).Within R (Value.AllWithin R) := by
  simp only [gmatch, within_bind, Arguments.within_bytes, Arguments.within_intOr]
  refine fun _ _ _ _ _ _ => ⟨trivial, fun state made => ?_⟩
  have made : R state := made
  simp [made, subjectKey, patternKey, positionKey]

/-- A step over matches reads and writes the table with its state. -/
theorem gmatchStep_within {state : TableRef} (table : R state) :
    (gmatchStep state).Within R (Value.AllWithin R) := by
  simp only [gmatchStep, within_bind, within_get]
  refine ⟨table, fun subject _ => ⟨table, fun pattern _ => ⟨table, fun position _ => ?_⟩⟩⟩
  split
  · simp only [within_bind, within_get, within_orComplain]
    refine ⟨table, fun last _ found _ => ?_⟩
    cases found <;> simp [table, positionKey, lastKey]
  · simp

/-- What a replacement text stands for is made of bytes. -/
theorem expand_within (subject : Bytes) (found : Pattern.Found) (text : List UInt8) (out : Bytes) :
    (expand subject found text out).Within R fun _ => True := by
  fun_induction expand subject found text out <;> simp_all

/-- A replacement asks the replacer, which is within reach. -/
theorem replacement_within (subject : Bytes) {replacer : Value} (found : Pattern.Found)
    (value : replacer.Within R) : (replacement subject replacer found).Within R fun _ => True := by
  cases replacer with
  | table r =>
    simp only [replacement, within_bind, within_orComplain, within_ite]
    refine fun c _ => (Value.index_within value (within_capturedValue c)).mono fun v _ => ?_
    exact ⟨fun _ => trivial, fun _ => by split <;> trivial⟩
  | closure | builtin =>
    simp only [replacement, within_bind, within_orComplain, within_ite]
    refine fun captures _ =>
      (call1_within value (allWithin_map_capturedValue captures)).mono fun v _ => ?_
    exact ⟨fun _ => trivial, fun _ => by split <;> trivial⟩
  | _ =>
    simp only [replacement]
    split
    · simp only [within_bind, within_pure, within_ite]
      refine (expand_within subject found _ _).mono fun b _ => ?_
      exact ⟨fun _ => trivial, fun _ => by split <;> trivial⟩
    · trivial

/-- Replacing matches asks the replacer, which is within reach. -/
theorem replaceFrom_within (anchored : Bool) (items : List Pattern.Item) (subject : Bytes)
    {replacer : Value} (value : replacer.Within R) (fuel i : Nat) (last : Option Nat) (left n : Nat)
    (out : Bytes) :
    (replaceFrom anchored items subject replacer fuel i last left n out).Within R fun _ => True := by
  induction fuel generalizing i last left n out with
  | zero => trivial
  | succ fuel ih =>
    simp only [replaceFrom, within_ite, within_done]
    refine ⟨fun _ => trivial, fun _ => ?_⟩
    have skipped : (if i < subject.size then
        if anchored then
          Action.done (out.push (subject.get! i) ++ subject.extract (i + 1) subject.size, n)
        else replaceFrom anchored items subject replacer fuel (i + 1) last left n
          (out.push (subject.get! i))
      else .done (out, n)).Within R fun _ => True := by
      simp [ih]
    split
    · trivial
    · rw [within_ite]
      refine ⟨fun _ => skipped, fun _ => (replacement_within subject _ value).bind fun text _ => ?_⟩
      simp [ih]
    · exact skipped

/-- A string with matches replaced is a string, with their number. -/
theorem gsub_within (within : args.Within R) : (gsub args).Within R (Value.AllWithin R) := by
  simp only [gsub, within_bind, within_ite, Arguments.within_bytes, Arguments.within_intOr]
  refine fun _ _ _ _ => ⟨fun _ => trivial, fun _ _ _ => ?_⟩
  exact (replaceFrom_within _ _ _ (within.value 3) _ _ _ _ _ _).mono fun _ _ => by simp

/-- A string is laid out as bytes. -/
theorem formatString_within (within : args.Within R) (i : Nat) (modifiers : List Char) (d : Directive) :
    (formatString args i modifiers d).Within R fun _ => True := by
  simp only [formatString, within_bind, within_ite, Arguments.within_any]
  exact fun _ => (Value.toText_within (within.value i)).mono fun _ _ => by simp

/-- An argument is laid out as bytes. -/
theorem formatOne_within (within : args.Within R) (i : Nat) (modifiers : List Char) (conversion : Char) :
    (formatOne args i modifiers conversion).Within R fun _ => True := by
  simp only [formatOne, within_ite, Arguments.within_bad]
  refine ⟨fun _ => trivial, fun _ => ⟨fun _ => ⟨fun _ => trivial, fun _ => ?_⟩, fun _ => ?_⟩⟩
  · split <;> trivial
  · split
    · trivial
    · split
      · trivial
      · split <;> first | exact formatString_within within _ _ _ | simp

/-- The rest of a format is laid out as bytes. -/
theorem formatFrom_within (within : args.Within R) (fuel i : Nat) (text : List UInt8) (out : Bytes) :
    (formatFrom args fuel i text out).Within R fun _ => True := by
  fun_induction formatFrom args fuel i text out with
  | case3 fuel i rest out ih | case7 fuel i b rest out _ _ ih => exact ih
  | case6 fuel i rest out _ modifiers _ c after _ ih =>
    refine (formatOne_within within i _ _).bind fun text _ => ?_
    simp only [within_bind, within_checked]
    exact fun _ => ih _
  | _ => trivial

/-- A format with its arguments is laid out as a string. -/
theorem format_within (within : args.Within R) : (format args).Within R (Value.AllWithin R) := by
  simp only [format, within_bind, Arguments.within_bytes]
  exact fun _ _ => (formatFrom_within within _ _ _ _).mono fun _ _ => by simp

/-- An argument is packed as bytes. -/
theorem packOne_within (i : Nat) (p : Packing.Piece) :
    (packOne args i p).Within R fun _ => True := by
  unfold packOne
  split <;> simp

/-- Arguments are packed as bytes. -/
theorem packFrom_within (pieces : List Packing.Piece) (i : Nat) (out : Bytes) :
    (packFrom args pieces i out).Within R fun _ => True := by
  induction pieces generalizing i out with
  | nil => trivial
  | cons p rest ih => exact (packOne_within i p).bind fun _ _ => ih _ _

/-- Packed arguments are a string. -/
theorem pack_within : (pack args).Within R (Value.AllWithin R) := by
  simp only [pack, within_bind, Arguments.within_bytes, within_orBad]
  exact fun _ _ _ _ => (packFrom_within _ _ _).mono fun _ _ => by simp

/-- The size of what is packed is a number. -/
theorem packsize_within : (packsize args).Within R (Value.AllWithin R) := by
  simp [packsize]

/-- What is unpacked is strings and numbers, after those found before. -/
theorem unpackFrom_within (s : Bytes) (pieces : List Packing.Piece) (i : Nat) {out : List Value}
    (found : Value.AllWithin R out) : (unpackFrom args s pieces i out).Within R (Value.AllWithin R) := by
  induction pieces generalizing i out with
  | nil => simp [unpackFrom, found]
  | cons p rest ih =>
    simp only [unpackFrom]
    rw [within_ite]
    refine ⟨fun _ => trivial, fun _ => ?_⟩
    split
    case h_7 => split <;> simp [found, ih]
    all_goals simp [found, ih]

/-- What is unpacked from a string is strings and numbers. -/
theorem unpack_within : (unpack args).Within R (Value.AllWithin R) := by
  simp [unpack, unpackFrom_within]

/-- A function of a chunk is dumped as a string, and dumping any other value is a message. -/
theorem dump_within : (dump args).Within R (Value.AllWithin R) := by
  unfold dump
  split <;> simp

end Strings

/-- The results of a string function. -/
theorem StringFunction.run_within (f : StringFunction) {values : List Value}
    (within : Value.AllWithin R values) : (f.run values).Within R (Value.AllWithin R) := by
  have args : Arguments.Within R ⟨f.name, values⟩ := within
  cases f with
  | byte => exact Strings.byte_within
  | char => exact Strings.char_within
  | dump => exact Strings.dump_within
  | find | «match» => exact Strings.findOrMatch_within _
  | format => exact Strings.format_within args
  | gmatch => exact Strings.gmatch_within
  | gsub => exact Strings.gsub_within args
  | pack => exact Strings.pack_within
  | packsize => exact Strings.packsize_within
  | rep => exact Strings.rep_within
  | sub => exact Strings.sub_within
  | unpack => exact Strings.unpack_within
  | len | lower | reverse | upper => simp [run]

end TableSeed.Lua
