import Mathlib
import TableSeed.Resolution

/-!
# The leaves of a template

Resolving a template is one pass over its leaves, depth first, which puts a value in the place of
each leaf and leaves the objects and lists around them as they are.
-/

namespace TableSeed

/-- What stands in a template where nothing is nested. -/
inductive Leaf where
  | literal (v : Json.Value)
  | expression (source : String)
  | reference (path : ReferencePath)

namespace Template

mutual

/-- The leaves of a template, depth first. -/
def leaves : Template → List Leaf
  | .literal v => [.literal v]
  | .expression source => [.expression source]
  | .reference path => [.reference path]
  | .object fields => fieldLeaves fields
  | .sequence items => itemLeaves items

/-- The leaves of items. -/
def itemLeaves : List Template → List Leaf
  | [] => []
  | t :: rest => leaves t ++ itemLeaves rest

/-- The leaves of fields. -/
def fieldLeaves : List (String × Template) → List Leaf
  | [] => []
  | (_, t) :: rest => leaves t ++ fieldLeaves rest

end

mutual

/-- A template with values in the places of its leaves, and the values that are left over. -/
def fill : Template → List Json.Value → Json.Value × List Json.Value
  | .literal _, vs | .expression _, vs | .reference _, vs => (vs.headD .null, vs.tail)
  | .object fields, vs =>
    let (members, vs) := fillFields fields vs
    (.object members, vs)
  | .sequence items, vs =>
    let (values, vs) := fillItems items vs
    (.array values, vs)

/-- Items with values in the places of their leaves. -/
def fillItems : List Template → List Json.Value → List Json.Value × List Json.Value
  | [], vs => ([], vs)
  | t :: rest, vs =>
    let (v, vs) := fill t vs
    let (values, vs) := fillItems rest vs
    (v :: values, vs)

/-- Fields with values in the places of their leaves. -/
def fillFields : List (String × Template) → List Json.Value → Json.Members × List Json.Value
  | [], vs => ([], vs)
  | (name, t) :: rest, vs =>
    let (v, vs) := fill t vs
    let (members, vs) := fillFields rest vs
    ((name, v) :: members, vs)

end

end Template

namespace Leaf

variable (commits : Commits) (this : Option Lua.TableRef)

/-- The value of a leaf, and the sandbox after it. -/
def resolve (s : Sandbox) : Leaf → Except ResolutionError Json.Value × Sandbox
  | .literal v => (.ok v, s)
  | .expression source =>
    match s.evaluateOrKeep source (Template.expressionText source) this with
    | (.ok v, s) => (.ok v, s)
    | (.error .aborted, s) => (.error .aborted, s)
  | .reference path =>
    match commits.resolve path with
    | .ok v => (.ok v, s)
    | .error e => (.error (.reference e), s)

/-- The values of leaves, one after the other. -/
def resolveAll (s : Sandbox) : List Leaf → Except ResolutionError (List Json.Value) × Sandbox
  | [] => (.ok [], s)
  | leaf :: rest =>
    match leaf.resolve commits this s with
    | (.error e, s) => (.error e, s)
    | (.ok v, s) =>
      match resolveAll s rest with
      | (.error e, s) => (.error e, s)
      | (.ok vs, s) => (.ok (v :: vs), s)

variable {commits this}

/-- A literal stands for its value. -/
theorem resolve_literal (v : Json.Value) (s : Sandbox) :
    (literal v).resolve commits this s = (.ok v, s) :=
  rfl

/-- An expression stands for its value, or for its text. -/
theorem resolve_expression (source : String) (s : Sandbox) :
    (expression source).resolve commits this s =
      match s.evaluateOrKeep source (Template.expressionText source) this with
      | (.ok v, s) => (.ok v, s)
      | (.error .aborted, s) => (.error .aborted, s) := by
  unfold resolve
  simp only

/-- A reference stands for what it refers to. -/
theorem resolve_reference (path : ReferencePath) (s : Sandbox) :
    (reference path).resolve commits this s =
      match commits.resolve path with
      | .ok v => (.ok v, s)
      | .error e => (.error (.reference e), s) := by
  unfold resolve
  simp only

/-- The values of some leaves and then of others. -/
theorem resolveAll_append (s : Sandbox) (first second : List Leaf) :
    resolveAll commits this s (first ++ second) =
      match resolveAll commits this s first with
      | (.error e, s) => (.error e, s)
      | (.ok vs, s) =>
        match resolveAll commits this s second with
        | (.error e, s) => (.error e, s)
        | (.ok ws, s) => (.ok (vs ++ ws), s) := by
  induction first generalizing s with
  | nil =>
    rw [List.nil_append, resolveAll]
    dsimp only
    obtain ⟨_ | ws, s⟩ := resolveAll commits this s second <;> rfl
  | cons leaf rest ih =>
    rw [List.cons_append, resolveAll, resolveAll]
    obtain ⟨_ | v, s⟩ := leaf.resolve commits this s
    · rfl
    · simp only [ih]
      obtain ⟨_ | vs, s⟩ := resolveAll commits this s rest
      · rfl
      · dsimp only
        obtain ⟨_ | ws, s⟩ := resolveAll commits this s second <;> rfl

/-- There are as many values as leaves. -/
theorem length_resolveAll {s s' : Sandbox} {leaves : List Leaf} {vs : List Json.Value}
    (resolved : resolveAll commits this s leaves = (.ok vs, s')) : vs.length = leaves.length := by
  induction leaves generalizing s vs with
  | nil =>
    cases resolved
    rfl
  | cons leaf rest ih =>
    rw [resolveAll] at resolved
    split at resolved
    · cases resolved
    · split at resolved
      · cases resolved
      · rename_i others
        cases resolved
        rw [List.length_cons, List.length_cons, ih others]

end Leaf

namespace Template

/-- As many values as two lists of leaves have are values for the one and values for the other. -/
theorem exists_append_of_length {vs : List Json.Value} {m n : Nat} (enough : vs.length = m + n) :
    ∃ first others, vs = first ++ others ∧ first.length = m ∧ others.length = n :=
  ⟨vs.take m, vs.drop m, (List.take_append_drop m vs).symm, by rw [List.length_take]; omega,
    by rw [List.length_drop]; omega⟩

mutual

/-- A template takes as many values as it has leaves. -/
theorem fill_append (t : Template) (vs ws : List Json.Value) (enough : vs.length = t.leaves.length) :
    t.fill (vs ++ ws) = ((t.fill vs).1, ws) := by
  cases t with
  | literal _ | expression _ | reference _ =>
    obtain ⟨v, rfl⟩ := List.length_eq_one_iff.mp enough
    rfl
  | object fields => simp only [fill, fillFields_append fields vs ws enough]
  | sequence items => simp only [fill, fillItems_append items vs ws enough]

/-- Items take as many values as they have leaves. -/
theorem fillItems_append (items : List Template) (vs ws : List Json.Value)
    (enough : vs.length = (itemLeaves items).length) :
    fillItems items (vs ++ ws) = ((fillItems items vs).1, ws) := by
  cases items with
  | nil =>
    rw [List.length_eq_zero_iff.mp enough]
    rfl
  | cons t rest =>
    rw [itemLeaves, List.length_append] at enough
    obtain ⟨first, others, rfl, count, enough⟩ := exists_append_of_length enough
    simp only [fillItems, List.append_assoc, fill_append t first _ count,
      fillItems_append rest others ws enough]

/-- Fields take as many values as they have leaves. -/
theorem fillFields_append (fields : List (String × Template)) (vs ws : List Json.Value)
    (enough : vs.length = (fieldLeaves fields).length) :
    fillFields fields (vs ++ ws) = ((fillFields fields vs).1, ws) := by
  cases fields with
  | nil =>
    rw [List.length_eq_zero_iff.mp enough]
    rfl
  | cons field rest =>
    obtain ⟨name, t⟩ := field
    rw [fieldLeaves, List.length_append] at enough
    obtain ⟨first, others, rfl, count, enough⟩ := exists_append_of_length enough
    simp only [fillFields, List.append_assoc, fill_append t first _ count,
      fillFields_append rest others ws enough]

end

/-- Filled fields keep their names. -/
theorem names_fillFields (fields : List (String × Template)) (vs : List Json.Value) :
    (fillFields fields vs).1.map Prod.fst = fields.map Prod.fst := by
  induction fields generalizing vs with
  | nil => rfl
  | cons field rest ih => rw [fillFields, List.map_cons, List.map_cons, ih]

variable {commits : Commits} {this : Option Lua.TableRef}

mutual

/-- A template is resolved by filling in the values of its leaves. -/
theorem resolve_eq_fill (t : Template) (s : Sandbox) :
    t.resolve commits this s =
      match Leaf.resolveAll commits this s t.leaves with
      | (.error e, s) => (.error e, s)
      | (.ok vs, s) => (.ok (t.fill vs).1, s) := by
  cases t with
  | literal _ => rfl
  | expression source =>
    unfold resolve
    rw [leaves, Leaf.resolveAll, Leaf.resolve_expression]
    obtain ⟨⟨⟩ | v, s⟩ := s.evaluateOrKeep source (expressionText source) this <;> rfl
  | reference path =>
    unfold resolve
    rw [leaves, Leaf.resolveAll, Leaf.resolve_reference]
    cases commits.resolve path <;> rfl
  | object fields =>
    unfold resolve
    rw [leaves, resolveFields_eq_fill fields s]
    obtain ⟨_ | vs, s⟩ := Leaf.resolveAll commits this s (fieldLeaves fields) <;> rfl
  | sequence items =>
    unfold resolve
    rw [leaves, resolveItems_eq_fill items s]
    obtain ⟨_ | vs, s⟩ := Leaf.resolveAll commits this s (itemLeaves items) <;> rfl

/-- Items are resolved by filling in the values of their leaves. -/
theorem resolveItems_eq_fill (items : List Template) (s : Sandbox) :
    resolveItems commits this s items =
      match Leaf.resolveAll commits this s (itemLeaves items) with
      | (.error e, s) => (.error e, s)
      | (.ok vs, s) => (.ok (fillItems items vs).1, s) := by
  cases items with
  | nil => rfl
  | cons t rest =>
    rw [resolveItems, itemLeaves, Leaf.resolveAll_append, resolve_eq_fill t s]
    cases first : Leaf.resolveAll commits this s t.leaves with
    | mk result s =>
      cases result with
      | error e => rfl
      | ok vs =>
        simp only [resolveItems_eq_fill rest s]
        obtain ⟨_ | ws, s⟩ := Leaf.resolveAll commits this s (itemLeaves rest)
        · rfl
        · simp only [fillItems, fill_append t vs ws (Leaf.length_resolveAll first)]

/-- Fields are resolved by filling in the values of their leaves. -/
theorem resolveFields_eq_fill (fields : List (String × Template)) (s : Sandbox) :
    resolveFields commits this s fields =
      match Leaf.resolveAll commits this s (fieldLeaves fields) with
      | (.error e, s) => (.error e, s)
      | (.ok vs, s) => (.ok (fillFields fields vs).1, s) := by
  cases fields with
  | nil => rfl
  | cons field rest =>
    obtain ⟨name, t⟩ := field
    rw [resolveFields, fieldLeaves, Leaf.resolveAll_append, resolve_eq_fill t s]
    cases first : Leaf.resolveAll commits this s t.leaves with
    | mk result s =>
      cases result with
      | error e => rfl
      | ok vs =>
        simp only [resolveFields_eq_fill rest s]
        obtain ⟨_ | ws, s⟩ := Leaf.resolveAll commits this s (fieldLeaves rest)
        · rfl
        · simp only [fillFields, fill_append t vs ws (Leaf.length_resolveAll first)]

end

/-- Fields have the values of their leaves in their places, or the failure of one of them. -/
theorem resolveFields_fst (fields : List (String × Template)) (s : Sandbox) :
    (resolveFields commits this s fields).1 =
      (Leaf.resolveAll commits this s (fieldLeaves fields)).1.map
        fun vs => (fillFields fields vs).1 := by
  rw [resolveFields_eq_fill]
  obtain ⟨_ | vs, s⟩ := Leaf.resolveAll commits this s (fieldLeaves fields) <;> rfl

mutual

/-- A template has expressions if one of its leaves is one. -/
theorem hasExpressions_iff (t : Template) :
    t.hasExpressions = true ↔ ∃ source, .expression source ∈ t.leaves := by
  cases t with
  | literal _ | expression _ | reference _ => simp [hasExpressions, leaves]
  | object fields => rw [hasExpressions, leaves, anyFieldHasExpressions_iff fields]
  | sequence items => rw [hasExpressions, leaves, anyHasExpressions_iff items]

/-- Items have expressions if one of their leaves is one. -/
theorem anyHasExpressions_iff (items : List Template) :
    anyHasExpressions items = true ↔ ∃ source, .expression source ∈ itemLeaves items := by
  cases items with
  | nil => simp [anyHasExpressions, itemLeaves]
  | cons t rest =>
    simp only [anyHasExpressions, itemLeaves, Bool.or_eq_true, hasExpressions_iff t,
      anyHasExpressions_iff rest, List.mem_append, exists_or]

/-- Fields have expressions if one of their leaves is one. -/
theorem anyFieldHasExpressions_iff (fields : List (String × Template)) :
    anyFieldHasExpressions fields = true ↔ ∃ source, .expression source ∈ fieldLeaves fields := by
  cases fields with
  | nil => simp [anyFieldHasExpressions, fieldLeaves]
  | cons field rest =>
    obtain ⟨name, t⟩ := field
    simp only [anyFieldHasExpressions, fieldLeaves, Bool.or_eq_true, hasExpressions_iff t,
      anyFieldHasExpressions_iff rest, List.mem_append, exists_or]

end

end Template

end TableSeed
