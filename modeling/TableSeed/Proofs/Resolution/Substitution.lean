import TableSeed.Json.Writer
import TableSeed.Proofs.Resolution.Leaves

/-!
# Resolving is substitution

A resolved record is the record with a value in the place of each leaf. Its expressions are
evaluated one after the other, with the table of the whole record as it stands in the document. All
of them share that table, so what one of them changes in an object nested in the record, the later
ones see. The first reference that leads nowhere is the only reason to fail.
-/

namespace TableSeed

namespace Leaf

variable (commits : Commits) (this : Option Lua.TableRef)

/-- The sandbox after a leaf: only an expression can change it. -/
def after (s : Sandbox) : Leaf → Sandbox
  | .expression source => (s.evaluateOrKeep source (Template.expressionText source) this).2
  | .literal _ | .reference _ => s

/-- The value that belongs in the place of a leaf. -/
inductive Yields (s : Sandbox) : Leaf → Json.Value → Prop where
  | literal (v : Json.Value) : Yields s (.literal v) v
  | reference {path : ReferencePath} {v : Json.Value} :
    commits.resolve path = .ok v → Yields s (.reference path) v
  | value {source : String} {v : Json.Value} :
    (s.evaluate source this).1 = .ok v → Yields s (.expression source) v
  /-- An expression without a value stands for its text, with the mark and as it was written. -/
  | text {source : String} {e : EvaluationError} :
    (s.evaluate source this).1 = .error e →
      Yields s (.expression source) (.string (Template.expressionText source))

/-- The values that belong in the places of leaves, each in the sandbox that those before it have
left. -/
inductive YieldAll : Sandbox → List Leaf → List Json.Value → Prop where
  | nil (s : Sandbox) : YieldAll s [] []
  | cons {s : Sandbox} {leaf : Leaf} {rest : List Leaf} {v : Json.Value} {vs : List Json.Value} :
    leaf.Yields commits this s v → YieldAll (leaf.after this s) rest vs →
      YieldAll s (leaf :: rest) (v :: vs)

/-- The first reference among leaves that has no value, and why it has none. -/
def FirstFailure (leaves : List Leaf) (e : ReferenceError) : Prop :=
  ∃ before path after, leaves = before ++ .reference path :: after ∧
    (∀ p, .reference p ∈ before → ∃ v, commits.resolve p = .ok v) ∧ commits.resolve path = .error e

variable {commits this} {s : Sandbox} {leaf : Leaf} {leaves : List Leaf}

/-- Resolving a leaf leaves the sandbox as it is after the leaf. -/
theorem resolve_snd : (leaf.resolve commits this s).2 = leaf.after this s := by
  cases leaf with
  | literal v => rfl
  | expression source =>
    rw [resolve_expression, after]
    obtain ⟨⟨⟩ | v, s⟩ := s.evaluateOrKeep source (Template.expressionText source) this <;> rfl
  | reference path =>
    rw [resolve_reference]
    cases commits.resolve path <;> rfl

/-- The value of an expression, or why there is none. -/
theorem resolve_expression_fst (source : String) :
    ((Leaf.expression source).resolve commits this s).1 =
      match (s.evaluate source this).1 with
      | .ok v => .ok v
      | .error (.chunk .aborted) => .error .aborted
      | .error _ => .ok (.string (Template.expressionText source)) := by
  rw [resolve_expression]
  unfold Sandbox.evaluateOrKeep
  obtain ⟨((_ | _ | _ | _) | _) | v, s'⟩ := s.evaluate source this <;> rfl

/-- The value that belongs in the place of an expression is its own, or else its text. -/
theorem yields_expression_iff {source : String} {v : Json.Value} :
    Yields commits this s (.expression source) v ↔
      match (s.evaluate source this).1 with
      | .ok w => v = w
      | .error _ => v = .string (Template.expressionText source) := by
  constructor
  · rintro (_ | _ | value | text)
    · rw [value]
    · rw [text]
  · intro found
    split at found
    · rw [found]
      exact .value ‹_›
    · rw [found]
      exact .text ‹_›

/-- A leaf is replaced by the value that belongs in its place. -/
theorem resolve_ok_iff {v : Json.Value} (goesOn : (leaf.resolve commits this s).1 ≠ .error .aborted) :
    (leaf.resolve commits this s).1 = .ok v ↔ leaf.Yields commits this s v := by
  cases leaf with
  | literal w =>
    constructor
    · rintro ⟨⟩
      exact .literal _
    · rintro ⟨⟩
      rfl
  | reference path =>
    rw [resolve_reference]
    constructor
    · intro found
      split at found
      · cases found
        exact .reference ‹_›
      · cases found
    · rintro (_ | found)
      rw [found]
  | expression source =>
    rw [resolve_expression_fst] at goesOn ⊢
    rw [yields_expression_iff]
    generalize (s.evaluate source this).1 = answer at goesOn ⊢
    obtain ((_ | _ | _ | _) | _) | w := answer
    case error.chunk.aborted => contradiction
    all_goals simp [eq_comm]

/-- Only a reference fails. -/
theorem resolve_error_iff {e : ResolutionError}
    (goesOn : (leaf.resolve commits this s).1 ≠ .error .aborted) :
    (leaf.resolve commits this s).1 = .error e ↔
      ∃ path e', leaf = .reference path ∧ commits.resolve path = .error e' ∧ e = .reference e' := by
  cases leaf with
  | literal v => simp [resolve_literal]
  | reference path =>
    rw [resolve_reference]
    cases resolved : commits.resolve path <;> simp [resolved, eq_comm]
  | expression source =>
    rw [resolve_expression_fst] at goesOn ⊢
    generalize (s.evaluate source this).1 = answer at goesOn ⊢
    obtain ((_ | _ | _ | _) | _) | w := answer
    case error.chunk.aborted => contradiction
    all_goals simp

/-- The first leaf is resolved, and then the others in the sandbox after it. -/
theorem resolveAll_cons_fst (rest : List Leaf) :
    (resolveAll commits this s (leaf :: rest)).1 =
      (leaf.resolve commits this s).1.bind fun v =>
        (resolveAll commits this (leaf.after this s) rest).1.map (v :: ·) := by
  rw [resolveAll, ← resolve_snd]
  obtain ⟨_ | v, s'⟩ := leaf.resolve commits this s
  · rfl
  · dsimp only
    obtain ⟨_ | vs, s''⟩ := resolveAll commits this s' rest <;> rfl

/-- The run goes on after the first leaf and after the others. -/
theorem goesOn_cons {rest : List Leaf}
    (goesOn : (resolveAll commits this s (leaf :: rest)).1 ≠ .error .aborted) :
    (leaf.resolve commits this s).1 ≠ .error .aborted ∧
      ∀ v, (leaf.resolve commits this s).1 = .ok v →
        (resolveAll commits this (leaf.after this s) rest).1 ≠ .error .aborted := by
  rw [resolveAll_cons_fst] at goesOn
  refine ⟨fun aborted => goesOn (by rw [aborted]; rfl), fun v first aborted => goesOn ?_⟩
  rw [first, aborted]
  rfl

/-- Leaves are replaced by the values that belong in their places. -/
theorem resolveAll_ok_iff {vs : List Json.Value}
    (goesOn : (resolveAll commits this s leaves).1 ≠ .error .aborted) :
    (resolveAll commits this s leaves).1 = .ok vs ↔ YieldAll commits this s leaves vs := by
  induction leaves generalizing s vs with
  | nil =>
    constructor
    · rintro ⟨⟩
      exact .nil s
    · rintro ⟨⟩
      rfl
  | cons leaf rest ih =>
    obtain ⟨alive, others⟩ := goesOn_cons goesOn
    rw [resolveAll_cons_fst]
    constructor
    · intro found
      cases first : (leaf.resolve commits this s).1 with
      | error e =>
        rw [first] at found
        cases found
      | ok v =>
        rw [first] at found
        cases second : (resolveAll commits this (leaf.after this s) rest).1 with
        | error e =>
          rw [second] at found
          cases found
        | ok ws =>
          rw [second] at found
          cases found
          exact .cons ((resolve_ok_iff alive).mp first) ((ih (others v first)).mp second)
    · rintro (_ | ⟨value, values⟩)
      have first := (resolve_ok_iff alive).mpr value
      rw [first, Except.bind, (ih (others _ first)).mpr values]
      rfl

/-- The first failure is that of the first leaf, or of the others if the first one is fine. -/
theorem firstFailure_cons_iff {rest : List Leaf} {e : ReferenceError} :
    FirstFailure commits (leaf :: rest) e ↔
      (∃ path, leaf = .reference path ∧ commits.resolve path = .error e) ∨
      (∀ path, leaf = .reference path → ∃ v, commits.resolve path = .ok v) ∧
        FirstFailure commits rest e := by
  constructor
  · rintro ⟨before, path, after', split', fine, failed⟩
    cases before with
    | nil =>
      cases split'
      exact .inl ⟨path, rfl, failed⟩
    | cons head before =>
      cases split'
      exact .inr ⟨fun p here => fine p (here ▸ List.mem_cons_self), before, path, after', rfl,
        fun p mem => fine p (List.mem_cons_of_mem _ mem), failed⟩
  · rintro (⟨path, rfl, failed⟩ | ⟨first, before, path, after', rfl, fine, failed⟩)
    · exact ⟨[], path, rest, rfl, by simp, failed⟩
    · refine ⟨leaf :: before, path, after', rfl, fun p mem => ?_, failed⟩
      obtain here | mem := List.mem_cons.mp mem
      · exact first p here.symm
      · exact fine p mem

/-- Leaves fail with the first reference that has no value. -/
theorem resolveAll_error_iff {e : ResolutionError}
    (goesOn : (resolveAll commits this s leaves).1 ≠ .error .aborted) :
    (resolveAll commits this s leaves).1 = .error e ↔
      ∃ e', e = .reference e' ∧ FirstFailure commits leaves e' := by
  induction leaves generalizing s with
  | nil => simp [resolveAll, FirstFailure]
  | cons leaf rest ih =>
    obtain ⟨alive, others⟩ := goesOn_cons goesOn
    rw [resolveAll_cons_fst]
    cases first : (leaf.resolve commits this s).1 with
    | error e₁ =>
      obtain ⟨path, e', rfl, failed, rfl⟩ := (resolve_error_iff alive).mp first
      simp [Except.bind, firstFailure_cons_iff, failed, eq_comm]
    | ok v =>
      have fine : ∀ path, leaf = .reference path → commits.resolve path = .ok v := by
        rintro path rfl
        cases (resolve_ok_iff alive).mp first with
        | reference found => exact found
      have notHere : ∀ e', ¬ ∃ path, leaf = .reference path ∧ commits.resolve path = .error e' := by
        rintro e' ⟨path, rfl, failed⟩
        rw [fine path rfl] at failed
        cases failed
      have passes : ∀ path, leaf = .reference path → ∃ v, commits.resolve path = .ok v :=
        fun path here => ⟨v, fine path here⟩
      have step : ∀ e', FirstFailure commits (leaf :: rest) e' ↔ FirstFailure commits rest e' :=
        fun e' => firstFailure_cons_iff.trans (by rw [or_iff_right (notHere e'), and_iff_right passes])
      simp only [step, ← ih (others v first)]
      cases (resolveAll commits this (leaf.after this s) rest).1 <;> simp [Except.bind, Except.map]

/-- Leaves fail if one of them is a reference without a value. -/
theorem exists_firstFailure_iff :
    (∃ e, FirstFailure commits leaves e) ↔
      ∃ path, .reference path ∈ leaves ∧ ∀ v, commits.resolve path ≠ .ok v := by
  constructor
  · rintro ⟨e, before, path, after', rfl, -, failed⟩
    exact ⟨path, by simp, fun v found => by rw [failed] at found; cases found⟩
  · rintro ⟨path, mem, failing⟩
    induction leaves with
    | nil => contradiction
    | cons leaf rest ih =>
      by_cases here : ∃ p e, leaf = .reference p ∧ commits.resolve p = .error e
      · obtain ⟨p, e, failed⟩ := here
        exact ⟨e, firstFailure_cons_iff.mpr (.inl ⟨p, failed⟩)⟩
      · have fine : ∀ p, leaf = .reference p → ∃ v, commits.resolve p = .ok v := by
          intro p same
          cases found : commits.resolve p with
          | ok v => exact ⟨v, rfl⟩
          | error e => exact absurd ⟨p, e, same, found⟩ here
        obtain same | later := List.mem_cons.mp mem
        · obtain ⟨v, found⟩ := fine path same.symm
          exact absurd found (failing v)
        · obtain ⟨e, failed⟩ := ih later
          exact ⟨e, firstFailure_cons_iff.mpr (.inr ⟨fine, failed⟩)⟩

/-- Leaves without an expression look neither at the record nor at the sandbox. -/
theorem resolveAll_of_no_expression {this' : Option Lua.TableRef} {s' : Sandbox}
    (none' : ∀ source, .expression source ∉ leaves) :
    (resolveAll commits this s leaves).1 = (resolveAll commits this' s' leaves).1 := by
  induction leaves generalizing s s' with
  | nil => rfl
  | cons leaf rest ih =>
    have same : (leaf.resolve commits this s).1 = (leaf.resolve commits this' s').1 := by
      cases leaf with
      | literal v => rfl
      | reference path =>
        rw [resolve_reference, resolve_reference]
        cases commits.resolve path <;> rfl
      | expression source => exact absurd List.mem_cons_self (none' source)
    rw [resolveAll_cons_fst, resolveAll_cons_fst, same,
      ih fun source mem => none' source (List.mem_cons_of_mem _ mem)]

end Leaf

section Unmarked

mutual

/-- No text in a value starts with a mark. -/
def Json.Value.Unmarked : Json.Value → Prop
  | .string s => ¬ [Template.expressionMarker] <+: s.toList ∧ ¬ ReferencePath.marker <+: s.toList
  | .array items => Json.Value.ItemsUnmarked items
  | .object members => Json.Value.MembersUnmarked members
  | .null | .bool _ | .number _ => True

/-- No text in any item starts with a mark. -/
def Json.Value.ItemsUnmarked : List Json.Value → Prop
  | [] => True
  | v :: rest => v.Unmarked ∧ Json.Value.ItemsUnmarked rest

/-- No text in the value of any member starts with a mark. -/
def Json.Value.MembersUnmarked : List (String × Json.Value) → Prop
  | [] => True
  | (_, v) :: rest => v.Unmarked ∧ Json.Value.MembersUnmarked rest

end

namespace Template

/-- A text without a mark stands for itself. -/
theorem ofString_of_unmarked {text : String} (unmarked : (Json.Value.string text).Unmarked) :
    ofString text = .literal (.string text) := by
  obtain ⟨noExpression, noReference⟩ := unmarked
  unfold ofString
  split
  · rename_i source here
    exact absurd (here ▸ List.prefix_append ['='] source) noExpression
  · rename_i path here
    exact absurd (here ▸ List.prefix_append ['-', '>'] path) noReference
  · rfl

variable {commits : Commits} {this : Option Lua.TableRef}

mutual

/-- A value without marks is resolved to itself. -/
theorem resolve_classify (v : Json.Value) (s : Sandbox) (unmarked : v.Unmarked) :
    (classify v).resolve commits this s = (.ok v, s) := by
  cases v with
  | null | bool _ | number _ => rfl
  | string text =>
    rw [classify, ofString_of_unmarked unmarked]
    rfl
  | array items =>
    rw [Json.Value.Unmarked] at unmarked
    rw [classify]
    unfold resolve
    rw [resolveItems_classify items s unmarked]
  | object members =>
    rw [Json.Value.Unmarked] at unmarked
    rw [classify]
    unfold resolve
    rw [resolveFields_classify members s unmarked]

/-- Items without marks are resolved to themselves. -/
theorem resolveItems_classify (items : List Json.Value) (s : Sandbox)
    (unmarked : Json.Value.ItemsUnmarked items) :
    resolveItems commits this s (classifyItems items) = (.ok items, s) := by
  cases items with
  | nil => rfl
  | cons v rest =>
    obtain ⟨first, others⟩ := unmarked
    rw [classifyItems, resolveItems, resolve_classify v s first]
    dsimp only
    rw [resolveItems_classify rest s others]

/-- Members without marks are resolved to themselves. -/
theorem resolveFields_classify (members : List (String × Json.Value)) (s : Sandbox)
    (unmarked : Json.Value.MembersUnmarked members) :
    resolveFields commits this s (classifyMembers members) = (.ok members, s) := by
  cases members with
  | nil => rfl
  | cons m rest =>
    obtain ⟨name, v⟩ := m
    obtain ⟨first, others⟩ := unmarked
    rw [classifyMembers, resolveFields, resolve_classify v s first]
    dsimp only
    rw [resolveFields_classify rest s others]

end

end Template

end Unmarked

namespace RecordTemplate

/-- The table of the whole record as it stands in the document, and the sandbox with it. -/
def exposed (record : RecordTemplate) (s : Sandbox) : Lua.TableRef × Sandbox :=
  let (this, heap) := Conversion.ofRecord s.world.heap record.raw
  (this, { s with world := { s.world with heap } })

/-- What resolving a record does. -/
structure Substitutes (record : RecordTemplate) (commits : Commits) (s : Sandbox) : Prop where
  /-- The result is the record with a value in the place of each leaf, where expressions see the
  table of the whole record. -/
  value : ∀ members, (record.resolve commits s).1 = .ok members ↔
    ∃ vs, Leaf.YieldAll commits (some (record.exposed s).1) (record.exposed s).2
      (Template.fieldLeaves record) vs ∧ members = (Template.fillFields record vs).1
  names : ∀ members, (record.resolve commits s).1 = .ok members →
    members.map Prod.fst = record.map Prod.fst
  /-- The only failure is that of the first reference without a value. -/
  failure : ∀ e, (record.resolve commits s).1 = .error e ↔
    ∃ e', e = .reference e' ∧ Leaf.FirstFailure commits (Template.fieldLeaves record) e'
  fails : (∃ e, (record.resolve commits s).1 = .error e) ↔
    ∃ path, .reference path ∈ Template.fieldLeaves record ∧ ∀ v, commits.resolve path ≠ .ok v
  /-- A record without marks is resolved to itself. -/
  unmarked : ∀ members, record = ofMembers members → Json.Value.MembersUnmarked members →
    (record.resolve commits s).1 = .ok members
  /-- Whether the table is made for a record without expressions makes no difference. -/
  parent : (Template.resolveFields commits (some (record.exposed s).1) (record.exposed s).2 record).1 =
    (record.resolve commits s).1

/-- A record is resolved as if its table were always made. -/
theorem resolve_fst (record : RecordTemplate) (commits : Commits) (s : Sandbox) :
    (record.resolve commits s).1 =
      (Template.resolveFields commits (some (record.exposed s).1) (record.exposed s).2 record).1 := by
  change (Template.resolveFields commits (record.parent s).1 (record.parent s).2 record).1 = _
  rw [parent]
  split_ifs with has
  · rfl
  · rw [Template.resolveFields_fst, Template.resolveFields_fst]
    refine congrArg (Except.map _) (Leaf.resolveAll_of_no_expression fun source mem => has ?_)
    exact (Template.anyFieldHasExpressions_iff record).mpr ⟨source, mem⟩

/-- Resolving a record that does not end the run substitutes a value for each leaf. -/
theorem substitutes_of_goesOn (record : RecordTemplate) (commits : Commits) (s : Sandbox)
    (goesOn : (record.resolve commits s).1 ≠ .error .aborted) : record.Substitutes commits s := by
  have filled : (record.resolve commits s).1 =
      (Leaf.resolveAll commits (some (record.exposed s).1) (record.exposed s).2
        (Template.fieldLeaves record)).1.map fun vs => (Template.fillFields record vs).1 := by
    rw [resolve_fst, Template.resolveFields_fst]
  have alive : (Leaf.resolveAll commits (some (record.exposed s).1) (record.exposed s).2
      (Template.fieldLeaves record)).1 ≠ .error .aborted := fun aborted => by
    rw [filled, aborted] at goesOn
    exact goesOn rfl
  have value : ∀ members, (record.resolve commits s).1 = .ok members ↔
      ∃ vs, Leaf.YieldAll commits (some (record.exposed s).1) (record.exposed s).2
        (Template.fieldLeaves record) vs ∧ members = (Template.fillFields record vs).1 := by
    intro members
    simp only [filled, ← Leaf.resolveAll_ok_iff alive]
    cases (Leaf.resolveAll commits (some (record.exposed s).1) (record.exposed s).2
      (Template.fieldLeaves record)).1 <;> simp [Except.map, eq_comm]
  have failure : ∀ e, (record.resolve commits s).1 = .error e ↔
      ∃ e', e = .reference e' ∧ Leaf.FirstFailure commits (Template.fieldLeaves record) e' := by
    intro e
    simp only [filled, ← Leaf.resolveAll_error_iff alive]
    cases (Leaf.resolveAll commits (some (record.exposed s).1) (record.exposed s).2
      (Template.fieldLeaves record)).1 <;> simp [Except.map]
  refine ⟨value, ?_, failure, ?_, ?_, (resolve_fst record commits s).symm⟩
  · intro members resolved
    obtain ⟨vs, -, rfl⟩ := (value members).mp resolved
    exact Template.names_fillFields record vs
  · rw [← Leaf.exists_firstFailure_iff]
    simp only [failure]
    exact ⟨fun ⟨_, e', _, first⟩ => ⟨e', first⟩, fun ⟨e', first⟩ => ⟨_, e', rfl, first⟩⟩
  · rintro members rfl unmarked
    rw [resolve_fst, ofMembers, Template.resolveFields_classify members _ unmarked]

/-- A record with a nested object, which its first expression changes and its second one reads. -/
def nestedChange : RecordTemplate := .ofMembers
  [("n", .object [("x", .number (.ofInt64 1))]),
   ("a", .string "=(function() this.n.x = 2 return 0 end)()"),
   ("list", .array [.string "=this.n.x", .string "->Users.ann.age"])]

/-- The records of one user. -/
def oneUser : Commits := (Commits.commit {} "Users" "ann" [("age", .string "=1 + 1")]).1

/-- The record is resolved, and the text that the reference leads to is not evaluated. -/
theorem substitutes_nestedChange :
    (nestedChange.resolve oneUser (.create 0 0)).1 ≠ .error .aborted ∧
      nestedChange.Substitutes oneUser (.create 0 0) := by
  have goesOn : (nestedChange.resolve oneUser (.create 0 0)).1 ≠ .error .aborted := by
    intro aborted
    have resolved : (nestedChange.resolve oneUser (.create 0 0)).1.isOk = true := by decide +kernel
    rw [aborted] at resolved
    cases resolved
  exact ⟨goesOn, substitutes_of_goesOn nestedChange oneUser (.create 0 0) goesOn⟩

/-- The second expression does not see the record as it stands in the document: in that record
`this.n.x` is one, but the expression has the value two. -/
theorem nested_change_is_seen :
    ((nestedChange.resolve oneUser (.create 0 0)).1.toOption.map fun members =>
      (Json.Value.object members).write) =
        some "\x7b\"n\":\x7b\"x\":1\x7d,\"a\":0,\"list\":[2,\"=1 + 1\"]\x7d".toList ∧
    ((nestedChange.exposed (.create 0 0)).2.evaluate "this.n.x"
      (some (nestedChange.exposed (.create 0 0)).1)).1.toOption.map Json.Value.write =
        some "1".toList := by
  decide +kernel

end RecordTemplate

end TableSeed
