import TableSeed.Lua.Library.Tables
import TableSeed.Proofs.Lua.Library.Arguments

/-!
# What table functions reach

A table function walks the tables that it is given. What it moves from one to another lies within the
set that both lie in.
-/

namespace TableSeed.Lua

open TableSeed.Lua.Action

variable {R : Reach}

namespace Tables

variable {args : Arguments} {t source target order pivot : Value}

/-- The length of a value within reach stays within reach. -/
theorem lengthOf_within {v : Value} (value : v.Within R) :
    (lengthOf v).Within R fun _ => True := by
  refine (Value.length_within value).bind fun n _ => ?_
  split
  · trivial
  · split <;> trivial

/-- The item at a position is within reach. -/
theorem item_within (list : t.Within R) (i : Int64) : (item t i).Within R (·.Within R) :=
  Value.index_within list (Value.within_integer i)

/-- Giving a position an item within reach stays within reach. -/
theorem setItem_within (list : t.Within R) (i : Int64) {v : Value} (value : v.Within R) :
    (setItem t i v).Within R fun _ => True :=
  Value.setIndex_within list (Value.within_integer i) value

/-- Copying items from list to list stays within reach. -/
theorem copy_within (read : source.Within R) (written : target.Within R) (step : Int64) (n : Nat)
    (i j : Int64) : (copy source target step n i j).Within R fun _ => True := by
  induction n generalizing i j with
  | zero => trivial
  | succ n ih =>
    exact (item_within read i).bind fun v item => (setItem_within written j item).bind fun _ _ => ih _ _

/-- Inserting an item stays within reach. -/
theorem insert_within (within : args.Within R) : (insert args).Within R (Value.AllWithin R) := by
  have list := within.value 1
  refine (within.table 1).bind fun _ _ => (lengthOf_within list).bind fun size _ => ?_
  dsimp only
  split
  · exact (setItem_within list _ (within.value 2)).bind fun _ _ => by simp
  · simp only [within_bind, within_ite, Arguments.within_int]
    refine fun pos _ => ⟨fun _ => ?_, fun _ => trivial⟩
    exact (copy_within list list _ _ _ _).mono fun _ _ =>
      (setItem_within list pos (within.value 3)).mono fun _ _ => by simp
  · trivial

/-- An item that is removed is within reach. -/
theorem remove_within (within : args.Within R) : (remove args).Within R (Value.AllWithin R) := by
  have list := within.value 1
  refine (within.table 1).bind fun _ _ => (lengthOf_within list).bind fun size _ => ?_
  simp only [within_bind, within_ite, Arguments.within_intOr]
  refine fun pos _ => ⟨fun _ => trivial, fun _ => ?_⟩
  refine (item_within list pos).mono fun result read => ?_
  exact (copy_within list list _ _ _ _).mono fun _ _ =>
    (setItem_within list _ Value.within_nil).mono fun _ _ => by simpa using read

/-- The table to copy to is one of the arguments. -/
theorem destination_within (within : args.Within R) :
    (destination args).Within R (·.Within R) := by
  simp only [destination, within_bind, within_ite, within_pure, Arguments.within_table]
  exact ⟨fun _ => within.value 1, fun _ _ _ => within.value 5⟩

/-- Moving items from list to list stays within reach. -/
theorem move_within (within : args.Within R) : (move args).Within R (Value.AllWithin R) := by
  have list := within.value 1
  simp only [move, within_bind, within_ite, Arguments.within_int, Arguments.within_table]
  refine fun first _ last _ start _ _ _ => (destination_within within).mono fun target written => ?_
  have result : Value.AllWithin R [target] := by simpa using written
  have moved (step : Int64) (n : Nat) (i j : Int64) :
      (copy (args.value 1) target step n i j).Within R fun _ => Value.AllWithin R [target] :=
    (copy_within list written step n i j).mono fun _ _ => result
  refine ⟨fun _ => ⟨fun _ => trivial, fun _ => ⟨fun _ => trivial, fun _ => ⟨fun _ => ?_, fun _ => ?_⟩⟩⟩,
    fun _ => result⟩
  · exact ⟨fun _ => moved _ _ _ _, fun _ => moved _ _ _ _⟩
  · refine (Value.equals_within list written).bind fun same _ => ?_
    exact ⟨fun _ => moved _ _ _ _, fun _ => moved _ _ _ _⟩

/-- Joining items asks only for what is in the list. -/
theorem join_within (list : t.Within R) (separator : Bytes) (n : Nat) (i : Int64) (out : Bytes) :
    (join t separator n i out).Within R fun _ => True := by
  induction n generalizing i out with
  | zero => trivial
  | succ n ih =>
    refine (item_within list i).bind fun v _ => ?_
    split
    · dsimp only
      rw [within_ite]
      exact ⟨fun _ => trivial, fun _ => ih _ _⟩
    · trivial

/-- A concatenated list is a string. -/
theorem concat_within (within : args.Within R) : (concat args).Within R (Value.AllWithin R) := by
  have list := within.value 1
  refine (within.table 1).bind fun _ _ => (lengthOf_within list).bind fun size _ => ?_
  simp only [within_bind, Arguments.within_intOr, Arguments.within_bytesOr]
  exact fun _ _ _ _ _ _ => (join_within list _ _ _ _).mono fun _ _ => by simp

/-- Filling a table within reach with values within reach stays within reach. -/
theorem fill_within {r : TableRef} (table : R r) (n : Nat) {vs : List Value}
    (values : Value.AllWithin R vs) : (fill r n vs).Within R fun _ => True := by
  induction vs generalizing n with
  | nil => trivial
  | cons v rest ih =>
    rw [Value.allWithin_cons] at values
    exact ⟨⟨table, trivial, values.1⟩, fun _ _ => ih (n - 1) values.2⟩

/-- The arguments packed as a table are within reach. -/
theorem pack_within (within : args.Within R) : (pack args).Within R (Value.AllWithin R) := by
  simp only [pack, within_bind]
  refine ⟨trivial, fun r (made : R r) => ?_⟩
  refine (fill_within made _ ((Value.allWithin_reverse _).mpr within)).mono fun _ _ => ?_
  simp [made, lengthKey]

/-- Items of a list are within reach, with those found before. -/
theorem items_within (list : t.Within R) (n : Nat) (i : Int64) {out : List Value}
    (found : Value.AllWithin R out) : (items t n i out).Within R (Value.AllWithin R) := by
  induction n generalizing i out with
  | zero => exact (Value.allWithin_reverse out).mpr found
  | succ n ih =>
    exact (item_within list i).bind fun v read => ih _ ((Value.allWithin_cons v out).mpr ⟨read, found⟩)

/-- The items of a list as results are within reach. -/
theorem unpack_within (within : args.Within R) : (unpack args).Within R (Value.AllWithin R) := by
  have list := within.value 1
  have unpacked (first last : Int64) : (if first > last then return []
      else if count first last ≥ maxResults then complain "too many results to unpack"
      else items (args.value 1) (count first last) first [] : Action (List Value)).Within R
        (Value.AllWithin R) := by
    simp only [within_ite]
    exact ⟨fun _ => Value.allWithin_nil, fun _ => ⟨fun _ => trivial,
      fun _ => items_within list _ _ Value.allWithin_nil⟩⟩
  simp only [unpack, within_bind, Arguments.within_intOr]
  intro first _
  rw [within_ite]
  refine ⟨fun _ => (lengthOf_within list).bind fun last _ => unpacked first last, fun _ => ?_⟩
  rw [within_bind, Arguments.within_int]
  exact fun last _ => unpacked first last

/-- Comparing two items by a given order stays within reach. -/
theorem before_within {a b : Value} (ordered : order.Within R) (left : a.Within R)
    (right : b.Within R) : (before order a b).Within R fun _ => True := by
  unfold before
  rw [within_ite]
  exact ⟨fun _ => Value.less_within left right,
    fun _ => Value.truth_within ordered left right id⟩

/-- Giving two positions items within reach stays within reach. -/
theorem setTwo_within (list : t.Within R) (i j : Nat) {v w : Value} (first : v.Within R)
    (second : w.Within R) : (setTwo t i v j w).Within R fun _ => True :=
  (setItem_within list _ first).bind fun _ _ => setItem_within list _ second

/-- The search upwards ends at an item within reach. -/
theorem scanUp_within (list : t.Within R) (ordered : order.Within R) (middle : pivot.Within R)
    (stop fuel i : Nat) : (scanUp t order pivot stop fuel i).Within R (·.2.Within R) := by
  induction fuel generalizing i with
  | zero => trivial
  | succ fuel ih =>
    refine (item_within list _).bind fun v read => ?_
    refine (before_within ordered read middle).bind fun isBefore _ => ?_
    simp only [within_ite, within_pure]
    exact ⟨fun _ => ⟨fun _ => trivial, fun _ => ih _⟩, fun _ => read⟩

/-- The search downwards ends at an item within reach. -/
theorem scanDown_within (list : t.Within R) (ordered : order.Within R) (middle : pivot.Within R)
    (i fuel j : Nat) : (scanDown t order pivot i fuel j).Within R (·.2.Within R) := by
  induction fuel generalizing j with
  | zero => trivial
  | succ fuel ih =>
    refine (item_within list _).bind fun v read => ?_
    refine (before_within ordered middle read).bind fun isBefore _ => ?_
    simp only [within_ite, within_pure]
    exact ⟨fun _ => ⟨fun _ => trivial, fun _ => ih _⟩, fun _ => read⟩

/-- Parting items around a pivot stays within reach. -/
theorem part_within (list : t.Within R) (ordered : order.Within R) (middle : pivot.Within R)
    (up fuel i j : Nat) : (part t order pivot up fuel i j).Within R fun _ => True := by
  induction fuel generalizing i j with
  | zero => trivial
  | succ fuel ih =>
    refine (scanUp_within list ordered middle _ _ _).bind fun (i, v) lower => ?_
    refine (scanDown_within list ordered middle _ _ _).bind fun (j, w) upper => ?_
    dsimp only
    rw [within_ite]
    exact ⟨fun _ => (setTwo_within list _ _ lower middle).bind fun _ _ => trivial,
      fun _ => (setTwo_within list _ _ upper lower).bind fun _ _ => ih _ _⟩

/-- Exchanging two items stays within reach. -/
theorem settle_within (list : t.Within R) (ordered : order.Within R) (i j : Nat) :
    (settle t order i j).Within R fun _ => True := by
  refine (item_within list _).bind fun a first => (item_within list _).bind fun b second => ?_
  refine (before_within ordered second first).bind fun isBefore _ => ?_
  rw [within_ite]
  exact ⟨fun _ => setTwo_within list _ _ second first, fun _ => trivial⟩

/-- Sorting between two positions stays within reach. -/
theorem sortBetween_within (list : t.Within R) (ordered : order.Within R) (fuel low up : Nat) :
    (sortBetween t order fuel low up).Within R fun _ => True := by
  induction fuel generalizing low up with
  | zero => trivial
  | succ fuel ih =>
    have halves (p : Nat) : (if p - low < up - p then do
          sortBetween t order fuel low (p - 1)
          sortBetween t order fuel (p + 1) up
        else do
          sortBetween t order fuel (p + 1) up
          sortBetween t order fuel low (p - 1)).Within R fun _ => True := by
      rw [within_ite]
      exact ⟨fun _ => (ih _ _).bind fun _ _ => ih _ _, fun _ => (ih _ _).bind fun _ _ => ih _ _⟩
    have parted : (if up - low = 2 then return ()
        else do
          let pivot ← itemAt t ((low + up) / 2)
          let last ← itemAt t (up - 1)
          setTwo t ((low + up) / 2) last (up - 1) pivot
          let p ← part t order pivot up (up + 1) low (up - 1)
          if p - low < up - p then
            sortBetween t order fuel low (p - 1)
            sortBetween t order fuel (p + 1) up
          else
            sortBetween t order fuel (p + 1) up
            sortBetween t order fuel low (p - 1)).Within R fun _ => True := by
      rw [within_ite]
      refine ⟨fun _ => trivial, fun _ => ?_⟩
      refine (item_within list _).bind fun pivot middle => (item_within list _).bind fun last read => ?_
      exact (setTwo_within list _ _ read middle).bind fun _ _ =>
        (part_within list ordered middle _ _ _ _).bind fun p _ => halves p
    unfold sortBetween
    rw [within_ite]
    refine ⟨fun _ => trivial, fun _ => (settle_within list ordered _ _).bind fun _ _ => ?_⟩
    rw [within_ite]
    refine ⟨fun _ => trivial, fun _ => ?_⟩
    refine (item_within list _).bind fun a first => (item_within list _).bind fun b second => ?_
    refine (before_within ordered first second).bind fun isBefore _ => ?_
    rw [within_ite]
    refine ⟨fun _ => (setTwo_within list _ _ second first).bind fun _ _ => parted, fun _ => ?_⟩
    refine (item_within list _).bind fun c third => ?_
    refine (before_within ordered third first).bind fun isBefore _ => ?_
    rw [within_ite]
    exact ⟨fun _ => (setTwo_within list _ _ third first).bind fun _ _ => parted, fun _ => parted⟩

/-- Sorting a list stays within reach. -/
theorem sort_within (within : args.Within R) : (sort args).Within R (Value.AllWithin R) := by
  have list := within.value 1
  refine (within.table 1).bind fun _ _ => (lengthOf_within list).bind fun n _ => ?_
  simp only [within_ite, within_bind]
  refine ⟨fun _ => ⟨fun _ => trivial, fun _ => ⟨fun _ => trivial, fun _ => ?_⟩⟩, fun _ => by simp⟩
  exact (sortBetween_within list (within.value 2) _ _ _).mono fun _ _ => by simp

end Tables

/-- The results of a table function. -/
theorem TableFunction.run_within (f : TableFunction) {values : List Value}
    (within : Value.AllWithin R values) : (f.run values).Within R (Value.AllWithin R) := by
  have args : Arguments.Within R ⟨f.name, values⟩ := within
  cases f with
  | concat => exact Tables.concat_within args
  | insert => exact Tables.insert_within args
  | move => exact Tables.move_within args
  | pack => exact Tables.pack_within args
  | remove => exact Tables.remove_within args
  | sort => exact Tables.sort_within args
  | unpack => exact Tables.unpack_within args

end TableSeed.Lua
