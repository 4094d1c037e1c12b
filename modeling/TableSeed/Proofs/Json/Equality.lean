import TableSeed.Proofs.Json.Members

/-!
# Equal values

Two values are equal if they differ at most in the order of members and in the sign of zeros. An
integer is never equal to a double. A value that leaves no choice in either is equal to itself only,
and every other value is equal to one that differs from it.
-/

namespace TableSeed.Json

/-- Whether two numbers are equal: as integers, or as doubles, of which the zeros are equal. -/
def Number.equal : Number → Number → Bool
  | .integer m _, .integer n _ => m == n
  | .double x _, .double y _ => x == y || (x.isZero && y.isZero)
  | _, _ => false

/-- A number equals itself. -/
theorem Number.equal_self (n : Number) : n.equal n = true := by
  cases n with
  | integer n fits => exact beq_self_eq_true n
  | double x finite =>
    have same : (x == x) = true := beq_self_eq_true x.bits
    rw [Number.equal, same, Bool.true_or]

namespace Value

mutual

/-- Whether two values are equal, whatever the order of members. -/
def equal : Value → Value → Bool
  | .null, .null => true
  | .bool a, .bool b => a == b
  | .number m, .number n => m.equal n
  | .string s, .string t => s == t
  | .array vs, .array ws => equalItems vs ws
  | .object ms, .object ns => ms.length == ns.length && equalMembers ms ns
  | _, _ => false

/-- Whether two lists hold equal values in the same order. -/
def equalItems : List Value → List Value → Bool
  | [], [] => true
  | v :: vs, w :: ws => equal v w && equalItems vs ws
  | _, _ => false

/-- Whether each member stands among others under its name, with an equal value. -/
def equalMembers : List (String × Value) → Members → Bool
  | [], _ => true
  | (name, v) :: rest, ns =>
    (match Members.get? name ns with
      | some w => equal v w
      | none => false) && equalMembers rest ns

end

mutual

/-- No object inside the value has two members, and no double is zero. -/
def Rigid : Value → Prop
  | .number (.double x _) => x.isZero = false
  | .array items => ItemsRigid items
  | .object members => members.length ≤ 1 ∧ MembersRigid members
  | .null | .bool _ | .number (.integer _ _) | .string _ => True

/-- No object inside the items has two members, and no double is zero. -/
def ItemsRigid : List Value → Prop
  | [] => True
  | v :: rest => v.Rigid ∧ ItemsRigid rest

/-- No object inside the members has two members, and no double is zero. -/
def MembersRigid : List (String × Value) → Prop
  | [] => True
  | (_, v) :: rest => v.Rigid ∧ MembersRigid rest

end

/-- Members equal those of an object if each of them has an equal value there under its name. -/
theorem equalMembers_iff {ms : List (String × Value)} {ns : Members} :
    equalMembers ms ns = true ↔
      ∀ m ∈ ms, ∃ w, Members.get? m.1 ns = some w ∧ m.2.equal w = true := by
  induction ms with
  | nil => simp [equalMembers]
  | cons m rest ih =>
    rw [equalMembers, Bool.and_eq_true, ih, List.forall_mem_cons]
    cases Members.get? m.1 ns <;> simp

/-- Members that stand among others, each with an equal value, where the others may be more. -/
theorem equalMembers_of_subset {ms : List (String × Value)} {ns : Members}
    (distinct : Members.Distinct ns) (within : ∀ m ∈ ms, m ∈ ns)
    (reflexive : ∀ m ∈ ms, m.2.equal m.2 = true) : equalMembers ms ns = true :=
  equalMembers_iff.mpr fun m mem => ⟨m.2, distinct.get?_of_mem (within m mem), reflexive m mem⟩

mutual

/-- A value is equal to itself. -/
theorem equal_self (v : Value) (distinct : v.Distinct) : v.equal v = true := by
  match v with
  | .null => rfl
  | .bool b => exact beq_self_eq_true b
  | .number n => exact n.equal_self
  | .string s => exact beq_self_eq_true s
  | .array items => exact equalItems_self items distinct
  | .object members =>
    have reflexive := equalMembers_self members distinct.2
    rw [equal, beq_self_eq_true, Bool.true_and]
    exact equalMembers_of_subset distinct.1 (fun _ mem => mem) reflexive

/-- Items equal themselves. -/
theorem equalItems_self (vs : List Value) (distinct : ItemsDistinct vs) :
    equalItems vs vs = true := by
  match vs with
  | [] => rfl
  | v :: rest => rw [equalItems, equal_self v distinct.1, equalItems_self rest distinct.2]; rfl

/-- The value of each member equals itself. -/
theorem equalMembers_self (ms : List (String × Value)) (distinct : MembersDistinct ms) :
    ∀ m ∈ ms, m.2.equal m.2 = true := by
  match ms with
  | [] => exact fun _ mem => absurd mem List.not_mem_nil
  | (_, v) :: rest =>
    exact List.forall_mem_cons.mpr ⟨equal_self v distinct.1, equalMembers_self rest distinct.2⟩

end

/-- A number other than the zeros is equal to itself only. -/
theorem eq_of_equal_number {m n : Number} (rigid : (Value.number m).Rigid)
    (equal : m.equal n = true) : n = m := by
  cases m with
  | integer m fits =>
    cases n with
    | integer n fits' =>
      obtain rfl : m = n := eq_of_beq equal
      rfl
    | double y finite => cases equal
  | double x finite =>
    cases n with
    | integer n fits => cases equal
    | double y finite' =>
      have nonzero : x.isZero = false := rigid
      rw [Number.equal, nonzero, Bool.false_and, Bool.or_false] at equal
      have same : x.bits = y.bits := eq_of_beq equal
      obtain rfl : x = y := congrArg Binary64.mk same
      rfl

mutual

/-- A rigid value is equal to itself only. -/
theorem eq_of_equal (v w : Value) (rigid : v.Rigid) (equal : v.equal w = true) : w = v := by
  match v with
  | .null => cases w <;> cases equal; rfl
  | .bool a =>
    cases w with
    | bool b => exact congrArg Value.bool (eq_of_beq equal).symm
    | _ => cases equal
  | .number m =>
    cases w with
    | number n => exact congrArg Value.number (eq_of_equal_number rigid equal)
    | _ => cases equal
  | .string s =>
    cases w with
    | string t => exact congrArg Value.string (eq_of_beq equal).symm
    | _ => cases equal
  | .array vs =>
    cases w with
    | array ws => exact congrArg Value.array (eq_of_equalItems vs ws rigid equal)
    | _ => cases equal
  | .object ms =>
    cases w with
    | object ns =>
      obtain ⟨length, members⟩ := Bool.and_eq_true_iff.mp equal
      exact congrArg Value.object
        (eq_of_equalMembers ms ns rigid.1 rigid.2 (eq_of_beq length) members)
    | _ => cases equal

/-- Rigid items equal no others. -/
theorem eq_of_equalItems (vs ws : List Value) (rigid : ItemsRigid vs)
    (equal : equalItems vs ws = true) : ws = vs := by
  match vs, ws with
  | [], [] => rfl
  | [], _ :: _ | _ :: _, [] => cases equal
  | v :: vs, w :: ws =>
    obtain ⟨first, later⟩ := Bool.and_eq_true_iff.mp equal
    rw [eq_of_equal v w rigid.1 first, eq_of_equalItems vs ws rigid.2 later]

/-- A rigid member equals no other. -/
theorem eq_of_equalMembers (ms ns : List (String × Value)) (single : ms.length ≤ 1)
    (rigid : MembersRigid ms) (length : ms.length = ns.length)
    (equal : equalMembers ms ns = true) : ns = ms := by
  match ms, ns with
  | [], [] => rfl
  | [], _ :: _ | [_], [] | [_], _ :: _ :: _ => cases length
  | [(k, v)], [(l, w)] =>
    obtain ⟨found, given, same⟩ := equalMembers_iff.mp equal (k, v) List.mem_cons_self
    rw [Members.get?] at given
    split_ifs at given with here
    · obtain rfl := Option.some.inj given
      rw [here, eq_of_equal v w rigid.1 same]
    · cases given
  | _ :: _ :: _, _ => exact absurd single (by simp)

end

/-- An object that is equal to itself only has one member at most. -/
theorem length_le_one_of_forall {ms : Members} (distinct : (Value.object ms).Distinct)
    (only : ∀ w, (Value.object ms).equal w = true → w = .object ms) : ms.length ≤ 1 := by
  match ms with
  | [] | [_] => simp
  | m :: n :: rest =>
    have swapped : (m :: n :: rest).Perm (n :: m :: rest) := List.Perm.swap n m rest
    have names : Members.Distinct (n :: m :: rest) :=
      (swapped.map Prod.fst).nodup_iff.mp distinct.1
    have members : equalMembers (m :: n :: rest) (n :: m :: rest) = true :=
      equalMembers_of_subset names (fun _ mem => swapped.mem_iff.mp mem)
        (equalMembers_self _ distinct.2)
    have equal : (Value.object (m :: n :: rest)).equal (.object (n :: m :: rest)) = true := by
      rw [Value.equal, members]
      simp
    have same : n = m := (List.cons.inj (Value.object.inj (only _ equal))).1
    have apart : m.1 ≠ n.1 := fun clash => by
      have nodup := (List.nodup_cons.mp distinct.1).1
      exact nodup (clash ▸ List.mem_cons_self)
    exact absurd (congrArg Prod.fst same).symm apart

mutual

/-- A value that is equal to itself only is rigid: a double that is zero would be the same as the
other zero. -/
theorem rigid_of_forall (v : Value) (distinct : v.Distinct)
    (only : ∀ w, v.equal w = true → w = v) : v.Rigid := by
  match v with
  | .null | .bool _ | .number (.integer _ _) | .string _ => trivial
  | .number (.double x finite) =>
    have zero (y : Binary64) (finite' : y.isFinite = true) (isZero : y.isZero = true)
        (this : x.isZero = true) : y = x := by
      have equal : (Value.number (.double x finite)).equal (.number (.double y finite')) = true := by
        rw [Value.equal, Number.equal, this, isZero]
        simp
      exact (Number.double.inj (Value.number.inj (only _ equal)))
    refine Bool.eq_false_iff.mpr fun this => ?_
    have positive := zero ⟨0⟩ (by decide) (by decide) this
    have negative := zero ⟨0x8000000000000000⟩ (by decide) (by decide) this
    exact absurd (positive.trans negative.symm) (by decide)
  | .array items =>
    exact itemsRigid_of_forall items distinct fun ws equal => Value.array.inj (only (.array ws) equal)
  | .object members =>
    have single := length_le_one_of_forall distinct only
    refine ⟨single, membersRigid_of_forall members distinct.2 fun m mem w equal => ?_⟩
    obtain ⟨first, rfl⟩ : ∃ first, members = [first] := by
      match members with
      | [first] => exact ⟨first, rfl⟩
    obtain rfl := List.mem_singleton.mp mem
    have replaced : (Value.object [m]).equal (.object [(m.1, w)]) = true := by
      simp [Value.equal, equalMembers, Members.get?, equal]
    have same := List.cons.inj (Value.object.inj (only _ replaced))
    exact congrArg Prod.snd same.1

/-- Items that equal no others are rigid. -/
theorem itemsRigid_of_forall (vs : List Value) (distinct : ItemsDistinct vs)
    (only : ∀ ws, equalItems vs ws = true → ws = vs) : ItemsRigid vs := by
  match vs with
  | [] => trivial
  | v :: rest =>
    have first : ∀ w, v.equal w = true → w = v := fun w equal =>
      (List.cons.inj (only (w :: rest) (by
        rw [equalItems, equal, equalItems_self rest distinct.2]
        rfl))).1
    have later : ∀ ws, equalItems rest ws = true → ws = rest := fun ws equal =>
      (List.cons.inj (only (v :: ws) (by
        rw [equalItems, equal, equal_self v distinct.1]
        rfl))).2
    exact ⟨rigid_of_forall v distinct.1 first, itemsRigid_of_forall rest distinct.2 later⟩

/-- Members whose values equal no others are rigid. -/
theorem membersRigid_of_forall (ms : List (String × Value)) (distinct : MembersDistinct ms)
    (only : ∀ m ∈ ms, ∀ w, m.2.equal w = true → w = m.2) : MembersRigid ms := by
  match ms with
  | [] => trivial
  | (name, v) :: rest =>
    obtain ⟨first, later⟩ := List.forall_mem_cons.mp only
    exact ⟨rigid_of_forall v distinct.1 first, membersRigid_of_forall rest distinct.2 later⟩

end

/-- The rigid values are those that are equal to themselves only. -/
theorem rigid_iff {v : Value} (distinct : v.Distinct) :
    v.Rigid ↔ ∀ w, v.equal w = true → w = v :=
  ⟨fun rigid w => eq_of_equal v w rigid, rigid_of_forall v distinct⟩

end Value

end TableSeed.Json
