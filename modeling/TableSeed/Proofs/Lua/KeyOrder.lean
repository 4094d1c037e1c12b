import Mathlib.Tactic.SplitIfs
import TableSeed.Lua.Value

/-!
# The order of keys

Keys are ordered by their kind first and within a kind by what they hold. The order is total, and
keys that it does not tell apart are the same, so a table finds under a key what was put there.
-/

namespace TableSeed

namespace Bytes

/-- Where one of two byte strings ends, the longer one stands behind the other. -/
theorem compare_size (a b : Bytes) {i : Nat} (inA : i ≤ a.size) (inB : i ≤ b.size)
    (ended : i = a.size ∨ i = b.size) :
    compare a.size b.size = compare (a.data.toList.drop i) (b.data.toList.drop i) := by
  have sizeA : a.data.toList.length = a.size := Array.length_toList
  have sizeB : b.data.toList.length = b.size := Array.length_toList
  rcases Nat.lt_trichotomy a.size b.size with less | same | more
  · rw [Nat.compare_eq_lt.mpr less, List.drop_of_length_le (l := a.data.toList) (by omega),
      ← List.getElem_cons_drop (by omega : i < b.data.toList.length), List.compare_nil_cons]
  · rw [Nat.compare_eq_eq.mpr same, List.drop_of_length_le (by omega),
      List.drop_of_length_le (by omega), List.compare_nil_nil]
  · rw [Nat.compare_eq_gt.mpr more, List.drop_of_length_le (l := b.data.toList) (by omega),
      ← List.getElem_cons_drop (by omega : i < a.data.toList.length), List.compare_cons_nil]

/-- Bytes are ordered as the lists of their bytes, from any place up to which they agree. -/
theorem compareFrom_eq (a b : Bytes) (i fuel : Nat) (inA : i ≤ a.size) (inB : i ≤ b.size)
    (enough : a.size ≤ i + fuel) :
    compareFrom a b i fuel = compare (a.data.toList.drop i) (b.data.toList.drop i) := by
  have sizeA : a.data.toList.length = a.size := Array.length_toList
  have sizeB : b.data.toList.length = b.size := Array.length_toList
  induction fuel generalizing i with
  | zero => exact compare_size a b inA inB (.inl (by omega))
  | succ fuel ih =>
    rw [compareFrom]
    by_cases inside : i < a.size ∧ i < b.size
    · have getA : a.get! i = a.data.toList[i] := getElem!_pos a.data i inside.1
      have getB : b.get! i = b.data.toList[i] := getElem!_pos b.data i inside.2
      rw [if_pos (by simpa using inside),
        ← List.getElem_cons_drop (by omega : i < a.data.toList.length),
        ← List.getElem_cons_drop (by omega : i < b.data.toList.length), List.compare_cons_cons,
        ih (i + 1) inside.1 inside.2 (by omega), getA, getB]
      generalize a.data.toList[i] = x
      generalize b.data.toList[i] = y
      dsimp only
      by_cases less : x < y
      · rw [if_pos less, Std.compare_eq_lt.mpr less]
        rfl
      · by_cases more : y < x
        · rw [if_neg less, if_pos more, Std.compare_eq_gt.mpr more]
          rfl
        · obtain rfl : x = y := UInt8.le_antisymm (UInt8.not_lt.mp more) (UInt8.not_lt.mp less)
          have self : compare x x = .eq := Std.ReflOrd.compare_self
          rw [if_neg less, if_neg less, self]
          rfl
    · rw [if_neg (by simpa using inside)]
      exact compare_size a b inA inB (by omega)

/-- Texts are in the order of their bytes. -/
theorem order_eq (a b : Bytes) : order a b = compare a.data.toList b.data.toList := by
  rw [order, compareFrom_eq a b 0 a.size (Nat.zero_le _) (Nat.zero_le _) (by omega)]
  rfl

instance : Std.TransCmp order where
  eq_swap {a b} := by
    rw [order_eq, order_eq]
    exact Std.OrientedOrd.eq_swap
  isLE_trans {a b c} first second := by
    rw [order_eq] at *
    exact Std.TransOrd.isLE_trans first second

instance : Std.LawfulEqCmp order where
  eq_of_compare {a b} same := by
    rw [order_eq, Std.LawfulEqOrd.compare_eq_iff_eq] at same
    exact ByteArray.ext (Array.toList_inj.mp same)

end Bytes

namespace Lua

namespace Utf8Function

/-- The place of a function in the order of its library. -/
def place : Utf8Function → Nat
  | .char => 0
  | .codepoint => 1
  | .codes => 2
  | .len => 3
  | .offset => 4
  | .codesStep lax => 5 + lax.toNat

/-- The functions of the UTF-8 library are in the order of their places. -/
theorem compare_eq (f g : Utf8Function) : compare f g = compare f.place g.place := by
  rcases f with _ | _ | _ | _ | _ | _ | _ <;> rcases g with _ | _ | _ | _ | _ | _ | _ <;> rfl

/-- No two functions of the UTF-8 library have one place. -/
theorem place_inj {f g : Utf8Function} (same : f.place = g.place) : f = g := by
  rcases f with _ | _ | _ | _ | _ | _ | _ <;> rcases g with _ | _ | _ | _ | _ | _ | _ <;>
    first | rfl | cases same

end Utf8Function

namespace Builtin

/-- The place of the library of a function, and its place there. -/
def place : Builtin → Nat × Nat
  | .base f => (0, f.ctorIdx)
  | .string f => (1, f.ctorIdx)
  | .table f => (2, f.ctorIdx)
  | .math f => (3, f.ctorIdx)
  | .utf8 f => (4, f.place)
  | .helper f => (5, f.ctorIdx)
  | .gmatchStep state => (6, state)

/-- Built-in functions are in the order of their libraries, and then of their places there. -/
theorem compare_eq (a b : Builtin) :
    compare a b = compareLex (compareOn (·.place.1)) (compareOn (·.place.2)) a b := by
  cases a <;> cases b <;>
    first | rfl | exact Ordering.then_eq | exact Ordering.then_eq.trans (Utf8Function.compare_eq ..)

/-- No two built-in functions have one place. -/
theorem place_inj {a b : Builtin} (same : a.place = b.place) : a = b := by
  cases a <;> cases b <;> simp only [place, Prod.mk.injEq, true_and] at same <;>
    try exact absurd same.1 (by decide)
  case base f g => rw [← f.ofNat_ctorIdx, same, g.ofNat_ctorIdx]
  case string f g => rw [← f.ofNat_ctorIdx, same, g.ofNat_ctorIdx]
  case table f g => rw [← f.ofNat_ctorIdx, same, g.ofNat_ctorIdx]
  case math f g => rw [← f.ofNat_ctorIdx, same, g.ofNat_ctorIdx]
  case utf8 f g => rw [Utf8Function.place_inj same]
  case helper f g => rw [← f.ofNat_ctorIdx, same, g.ofNat_ctorIdx]
  case gmatchStep => rw [same]

instance : Std.TransOrd Builtin := by
  have same : (compare : Builtin → Builtin → Ordering) =
      compareLex (compareOn (·.place.1)) (compareOn (·.place.2)) :=
    funext fun a => funext (compare_eq a)
  rw [Std.TransOrd, same]
  infer_instance

instance : Std.LawfulEqOrd Builtin where
  eq_of_compare {a b} same := by
    rw [compare_eq, compareLex, Ordering.then_eq_eq] at same
    obtain ⟨library, function⟩ := same
    exact place_inj (Prod.ext (Std.LawfulEqOrd.eq_of_compare library)
      (Std.LawfulEqOrd.eq_of_compare function))

end Builtin

namespace Failure

/-- Failures at the limit are in the order of their limits. -/
theorem compare_instructionLimit (a b : Nat) :
    compare (instructionLimit a) (instructionLimit b) = compare a b := Ordering.then_eq

/-- Failures of calls are in the order of their reasons. -/
theorem compare_badCall (a b : String) : compare (badCall a) (badCall b) = compare a b :=
  Ordering.then_eq

instance : Std.TransOrd Failure where
  eq_swap {a b} := by
    cases a <;> cases b
    case instructionLimit.instructionLimit =>
      rw [compare_instructionLimit, compare_instructionLimit]
      exact Std.OrientedOrd.eq_swap
    case badCall.badCall =>
      rw [compare_badCall, compare_badCall]
      exact Std.OrientedOrd.eq_swap
    all_goals rfl
  isLE_trans {a b c} first second := by
    cases a <;> cases b <;> cases c
    case instructionLimit.instructionLimit.instructionLimit =>
      rw [compare_instructionLimit] at first second ⊢
      exact Std.TransOrd.isLE_trans first second
    case badCall.badCall.badCall =>
      rw [compare_badCall] at first second ⊢
      exact Std.TransOrd.isLE_trans first second
    all_goals first | contradiction | rfl

instance : Std.LawfulEqOrd Failure where
  eq_of_compare {a b} same := by
    cases a <;> cases b
    case instructionLimit.instructionLimit =>
      rw [compare_instructionLimit] at same
      rw [Std.LawfulEqOrd.eq_of_compare same]
    case badCall.badCall =>
      rw [compare_badCall] at same
      rw [Std.LawfulEqOrd.eq_of_compare same]
    case aborted.aborted => rfl
    all_goals contradiction

end Failure

namespace Key

/-- Integers are in their own order. -/
theorem order_integer (m n : Int64) : order (.integer m) (.integer n) = compare m n := by
  change (if m < n then Ordering.lt else if m = n then .eq else .gt) = _
  split_ifs with less same
  · exact (Std.compare_eq_lt.mpr less).symm
  · rw [same, Std.ReflOrd.compare_self]
  · exact (Std.compare_eq_gt.mpr (Std.lt_of_le_of_ne (Int64.not_lt.mp less) (Ne.symm same))).symm

/-- A key of an earlier kind comes before one of a later kind. -/
theorem order_of_rank_lt {a b : Key} (less : a.rank < b.rank) : order a b = .lt := by
  cases a <;> cases b <;> first | rfl | exact absurd less (Nat.not_lt_of_ge (Nat.le_of_ble_eq_true rfl))

/-- A key of a later kind comes after one of an earlier kind. -/
theorem order_of_rank_gt {a b : Key} (more : b.rank < a.rank) : order a b = .gt := by
  cases a <;> cases b <;> first | rfl | exact absurd more (Nat.not_lt_of_ge (Nat.le_of_ble_eq_true rfl))

/-- A key that does not come after another is of no later kind. -/
theorem rank_le_of_isLE {a b : Key} (before : (order a b).isLE = true) : a.rank ≤ b.rank := by
  refine Nat.le_of_not_lt fun more => ?_
  rw [order_of_rank_gt more] at before
  cases before

/-- Two keys of one kind that change places change their order. -/
theorem order_swap_of_rank {a b : Key} (same : a.rank = b.rank) :
    order a b = (order b a).swap := by
  cases a <;> cases b <;> try exact absurd same (Nat.ne_of_beq_eq_false rfl)
  case integer =>
    rw [order_integer, order_integer]
    exact Std.OrientedOrd.eq_swap
  case string s t =>
    change Bytes.order s t = (Bytes.order t s).swap
    exact Std.OrientedCmp.eq_swap
  all_goals exact Std.OrientedOrd.eq_swap

/-- The order of keys of one kind is transitive. -/
theorem order_trans_of_rank {a b c : Key} (same : a.rank = b.rank) (next : b.rank = c.rank)
    (first : (order a b).isLE = true) (second : (order b c).isLE = true) :
    (order a c).isLE = true := by
  cases a <;> cases b <;> try exact absurd same (Nat.ne_of_beq_eq_false rfl)
  all_goals cases c <;> try exact absurd next (Nat.ne_of_beq_eq_false rfl)
  case integer =>
    rw [order_integer] at *
    exact Std.TransOrd.isLE_trans first second
  case string s t u =>
    change (Bytes.order s u).isLE = true
    exact Std.TransCmp.isLE_trans (b := t) first second
  all_goals exact Std.TransOrd.isLE_trans first second

instance : Std.TransCmp order where
  eq_swap {a b} := by
    rcases Nat.lt_trichotomy a.rank b.rank with less | same | more
    · rw [order_of_rank_lt less, order_of_rank_gt less]
      rfl
    · exact order_swap_of_rank same
    · rw [order_of_rank_gt more, order_of_rank_lt more]
      rfl
  isLE_trans {a b c} first second := by
    have one := rank_le_of_isLE first
    have two := rank_le_of_isLE second
    rcases Nat.lt_or_eq_of_le (Nat.le_trans one two) with less | same
    · rw [order_of_rank_lt less]
      rfl
    · exact order_trans_of_rank (by omega) (by omega) first second

instance : Std.LawfulEqCmp order where
  eq_of_compare {a b} same := by
    have kinds : a.rank = b.rank := by
      rcases Nat.lt_trichotomy a.rank b.rank with less | kinds | more
      · rw [order_of_rank_lt less] at same
        cases same
      · exact kinds
      · rw [order_of_rank_gt more] at same
        cases same
    cases a <;> cases b <;> try exact absurd kinds (Nat.ne_of_beq_eq_false rfl)
    case integer =>
      rw [order_integer] at same
      rw [Std.LawfulEqOrd.eq_of_compare same]
    case string s t =>
      have same : Bytes.order s t = .eq := same
      rw [Std.LawfulEqCmp.eq_of_compare same]
    case boolean b c => cases b <;> cases c <;> first | rfl | cases same
    case float x y => exact congrArg float (congrArg Binary64.mk (Std.LawfulEqOrd.eq_of_compare same))
    case table r s => exact congrArg table (congrArg TableRef.mk (Std.LawfulEqOrd.eq_of_compare same))
    case closure r s =>
      exact congrArg closure (congrArg ClosureRef.mk (Std.LawfulEqOrd.eq_of_compare same))
    case builtin f g =>
      have same : compare f g = .eq := same
      rw [Std.LawfulEqOrd.eq_of_compare same]
    case failure f g =>
      have same : compare f g = .eq := same
      rw [Std.LawfulEqOrd.eq_of_compare same]

end Key

end Lua

end TableSeed
