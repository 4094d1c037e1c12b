import TableSeed.Proofs.Expression.Forms
import TableSeed.Proofs.Expression.GoingOn

/-!
# The walk of a conversion

A conversion walks from a value through the entries that it converts, table by table. It fails where it
meets a table that it is inside of, a table inside too many others, or a value without a JSON form, and
otherwise gives the tree that the heap unfolds to, in which a shared table stands as often as it is come
to. The tables that it is inside of are marked on the way in and released on the way out, so the marks
after a conversion are those before it. No heap keeps it going for ever.
-/

namespace TableSeed

open Lua (Heap TableRef Key Table)
open Json (Members)

namespace Conversion

section Walks

/-- The values of a table that are converted: the positions of an array, and the entries under texts and
integers of any other table. -/
def values (t : Table) : List Lua.Value :=
  if isArray t then (List.range t.border).map fun i => t.valueAt (i + 1)
  else (named t).map Prod.snd

/-- The walk from a value inside of some tables comes to another value, inside of these tables and of
those on its way, the innermost first. -/
inductive Visits (h : Heap) (path : List TableRef) (v : Lua.Value) :
    List TableRef → Lua.Value → Prop where
  | start : Visits h path v path v
  | enter {inner : List TableRef} {r : TableRef} {w : Lua.Value} :
    Visits h path v inner (.table r) → w ∈ values (h.table r) → Visits h path v (r :: inner) w

/-- What ends a walk, with the error that it is. -/
inductive Obstacle (h : Heap) (path : List TableRef) : Lua.Value → ConversionError → Prop where
  | cyclic {r : TableRef} : r ∈ path → Obstacle h path (.table r) .cyclic
  | deep {r : TableRef} : ConversionError.maxDepth ≤ path.length →
    Obstacle h path (.table r) .tooDeep
  | number {x : Binary64} : x.isFinite = false → Obstacle h path (.float x) (.nonFinite x)
  | closure (r : Lua.ClosureRef) : Obstacle h path (.closure r) (.noForm "function")
  | builtin (f : Lua.Builtin) : Obstacle h path (.builtin f) (.noForm "function")
  | failure {f : Lua.Failure} : f ≠ .aborted → Obstacle h path (.failure f) (.noForm "error")
  | text {b : Bytes} : b.toText? = none → Obstacle h path (.string b) .notText
  | name {r : TableRef} {b : Bytes} {w : Lua.Value} : isArray (h.table r) = false →
    (.string b, w) ∈ (h.table r).entries → b.toText? = none → Obstacle h path (.table r) .notText

/-- The value is the failure of a helper that could not go on, or a table that has it for a key or a
value. Whoever looks at it ends the whole run. -/
inductive Aborts (h : Heap) : Lua.Value → Prop where
  | failure : Aborts h (.failure .aborted)
  | table {r : TableRef} : isAborted (h.table r) = true → Aborts h (.table r)

/-- The tree that a value unfolds to, whatever else is in the heap. -/
inductive Unfolds (h : Heap) : Lua.Value → Json.Value → Prop where
  | nil : Unfolds h .nil .null
  | boolean (b : Bool) : Unfolds h (.boolean b) (.bool b)
  | integer (n : Int64) : Unfolds h (.integer n) (.number (.ofInt64 n))
  | float (x : Binary64) (finite : x.isFinite = true) : Unfolds h (.float x) (.number (.double x finite))
  | text {b : Bytes} {s : String} : b.toText? = some s → Unfolds h (.string b) (.string s)
  | array {r : TableRef} {items : List Json.Value} : isArray (h.table r) = true →
    List.Forall₂ (Unfolds h) (values (h.table r)) items → Unfolds h (.table r) (.array items)
  | object {r : TableRef} {ms : Members} : isArray (h.table r) = false →
    (named (h.table r)).map (fun e => memberName? e.1) = ms.map (fun m => some (.ok m.1)) →
    List.Forall₂ (Unfolds h) (values (h.table r)) (ms.map Prod.snd) →
    Unfolds h (.table r) (.object (Members.putAll [] ms))

variable {h : Heap} {path inner : List TableRef} {v w : Lua.Value} {r : TableRef}

/-- A walk from a value of a table is part of the walk from the table. -/
theorem Visits.under (value : w ∈ values (h.table r)) {x : Lua.Value}
    (visits : Visits h (r :: path) w inner x) : Visits h path (.table r) inner x := by
  induction visits with
  | start => exact .enter .start value
  | enter _ mem ih => exact .enter ih mem

/-- A walk comes to its start, or it goes on from a value of the table that is its start. -/
theorem Visits.cases_head (visits : Visits h path v inner w) :
    (inner = path ∧ w = v) ∨
      ∃ r x, v = .table r ∧ x ∈ values (h.table r) ∧ Visits h (r :: path) x inner w := by
  induction visits with
  | start => exact .inl ⟨rfl, rfl⟩
  | enter _ mem ih =>
    obtain ⟨rfl, same⟩ | ⟨r, x, same, value, rest⟩ := ih
    · exact .inr ⟨_, _, same.symm, mem, .start⟩
    · exact .inr ⟨r, x, same, value, .enter rest mem⟩

end Walks

section Results

variable {h : Heap} {path inner : List TableRef} {v w : Lua.Value} {r : TableRef} {room : Nat}

/-- The members of the entries of a table, put one by one. -/
def members (convert : Lua.Value → Except ConversionError Json.Value) (t : Table) :
    Except ConversionError Members := t.entries.foldlM (addMember convert) []

/-- A table is converted if it is neither on the path to it nor broken: as an array of its values,
or as an object of its members. -/
theorem toJsonWithin_table_eq (h : Heap) (room : Nat) (path : List TableRef) (r : TableRef) :
    toJsonWithin h (room + 1) path (.table r) =
      if r ∈ path then .error .cyclic
      else if isAborted (h.table r) then .error .aborted
      else if isArray (h.table r) then
        ((values (h.table r)).mapM (toJsonWithin h room (r :: path))).map .array
      else (members (toJsonWithin h room (r :: path)) (h.table r)).map .object := by
  rw [toJsonWithin]
  simp only [List.contains_iff_mem]
  split_ifs with cyclic aborted array
  · rfl
  · rfl
  · rw [values, if_pos array, List.mapM_map]
    rfl
  · rfl

/-- An object that cannot be put together has an entry whose name or whose value has no form. -/
theorem exists_of_foldlM_addMember_error
    {convert : Lua.Value → Except ConversionError Json.Value} {entries : List (Key × Lua.Value)}
    {acc : Members} {e : ConversionError}
    (failed : entries.foldlM (addMember convert) acc = .error e) :
    ∃ entry ∈ entries, memberName? entry.1 = some (.error e) ∨
      ((memberName? entry.1).isSome ∧ convert entry.2 = .error e) := by
  induction entries generalizing acc with
  | nil => cases failed
  | cons entry rest ih =>
    have later {acc : Members} (failed : rest.foldlM (addMember convert) acc = .error e) :
        ∃ entry' ∈ entry :: rest, memberName? entry'.1 = some (.error e) ∨
          ((memberName? entry'.1).isSome ∧ convert entry'.2 = .error e) := by
      obtain ⟨found, mem, reason⟩ := ih failed
      exact ⟨found, List.mem_cons_of_mem _ mem, reason⟩
    rw [List.foldlM_cons, addMember] at failed
    cases named : memberName? entry.1 with
    | none =>
      rw [named] at failed
      exact later failed
    | some name =>
      rw [named] at failed
      cases name with
      | error fault =>
        cases failed
        exact ⟨entry, List.mem_cons_self, .inl named⟩
      | ok name =>
        cases converted : convert entry.2 with
        | error fault =>
          simp only [converted, bind, Except.bind, Except.error.injEq] at failed
          subst failed
          exact ⟨entry, List.mem_cons_self, .inr ⟨by rw [named]; rfl, converted⟩⟩
        | ok j =>
          simp only [converted, bind, Except.bind, pure, Except.pure] at failed
          exact later failed

/-- What a result says of the walk: a tree is what the value unfolds to, and nothing stood in the way; a
failure has met its obstacle, unless it was the failure of a helper. -/
def Walked (h : Heap) (path : List TableRef) (v : Lua.Value) :
    Except ConversionError Json.Value → Prop
  | .ok j => Unfolds h v j ∧
    ∀ inner w, Visits h path v inner w → (∀ e, ¬Obstacle h inner w e) ∧ ¬Aborts h w
  | .error e => ∃ inner w, Visits h path v inner w ∧ (Obstacle h inner w e ∨ e = .aborted ∧ Aborts h w)

/-- A walk that ends where it starts. -/
theorem walked_of_error {e : ConversionError}
    (here : Obstacle h path v e ∨ e = .aborted ∧ Aborts h v) : Walked h path v (.error e) :=
  ⟨path, v, .start, here⟩

/-- A scalar that unfolds to a tree is walked with that result. -/
theorem walked_of_unfolds {j : Json.Value} (scalar : ∀ r, v ≠ .table r) (unfolds : Unfolds h v j) :
    Walked h path v (.ok j) := by
  refine ⟨unfolds, fun inner w visits => ?_⟩
  obtain ⟨rfl, rfl⟩ | ⟨r, x, same, -⟩ := visits.cases_head
  · constructor
    · rintro e (_ | _ | infinite | _ | _ | _ | noText | _)
      case number =>
        cases unfolds with
        | float x finite => rw [finite] at infinite; cases infinite
      case text =>
        cases unfolds with
        | text isText =>
          rw [isText] at noText
          cases noText
      all_goals cases unfolds
      all_goals exact scalar _ rfl
    · rintro (_ | _)
      · cases unfolds
      · exact scalar _ rfl
  · exact absurd same (scalar r)

/-- The conversion of a scalar is its walk. -/
theorem walked_scalar (scalar : ∀ r, v ≠ .table r) :
    Walked h path v (toJsonWithin h room path v) := by
  unfold toJsonWithin
  cases v with
  | nil => exact walked_of_unfolds scalar .nil
  | boolean b => exact walked_of_unfolds scalar (.boolean b)
  | integer n => exact walked_of_unfolds scalar (.integer n)
  | float x =>
    dsimp only [Json.Number.ofDouble?]
    by_cases finite : x.isFinite = true
    · rw [dif_pos finite]
      exact walked_of_unfolds scalar (.float x finite)
    · rw [dif_neg finite]
      exact walked_of_error (.inl (.number (by simpa using finite)))
  | string b =>
    dsimp only
    cases text : b.toText? with
    | none => exact walked_of_error (.inl (.text text))
    | some s => exact walked_of_unfolds scalar (.text text)
  | table r => exact absurd rfl (scalar r)
  | closure r => exact walked_of_error (.inl (.closure r))
  | builtin f => exact walked_of_error (.inl (.builtin f))
  | failure f =>
    cases f with
    | aborted => exact walked_of_error (.inr ⟨rfl, .failure⟩)
    | instructionLimit n => exact walked_of_error (.inl (.failure (by simp)))
    | badCall text => exact walked_of_error (.inl (.failure (by simp)))

/-- Whatever the values of a table have met, the table has met. -/
theorem walked_of_inside {e : ConversionError} (value : w ∈ values (h.table r))
    (walked : Walked h (r :: path) w (.error e)) : Walked h path (.table r) (.error e) := by
  obtain ⟨inner, x, visits, met⟩ := walked
  exact ⟨inner, x, visits.under value, met⟩

/-- The value of an entry under a text or an integer is a value of an object. -/
theorem mem_values_of_mem_entries {entry : Key × Lua.Value} {t : Table} (object : isArray t = false)
    (mem : entry ∈ t.entries) (isNamed : (memberName? entry.1).isSome) : entry.2 ∈ values t := by
  rw [values, if_neg (by rw [object]; decide)]
  exact List.mem_map_of_mem (List.mem_filter.mpr ⟨mem, isNamed⟩)

/-- A name that is no text is that of an entry under bytes. -/
theorem memberName?_eq_error {k : Key} {e : ConversionError} (failed : memberName? k = some (.error e)) :
    ∃ b, k = .string b ∧ b.toText? = none ∧ e = .notText := by
  cases k with
  | string b =>
    rw [memberName?] at failed
    cases text : b.toText? with
    | none =>
      rw [text] at failed
      cases failed
      exact ⟨b, rfl, text, rfl⟩
    | some s =>
      rw [text] at failed
      cases failed
  | _ => cases failed

/-- Nothing stands in the way inside of a table that is neither one of those it is inside of nor too deep,
unless it does so in one of its values. -/
theorem free_of_values (fresh : r ∉ path) (shallow : path.length < ConversionError.maxDepth)
    (calm : isAborted (h.table r) = false)
    (texts : ∀ b w, isArray (h.table r) = false → (.string b, w) ∈ (h.table r).entries →
      b.toText? ≠ none)
    (each : ∀ x ∈ values (h.table r), ∀ inner w, Visits h (r :: path) x inner w →
      (∀ e, ¬Obstacle h inner w e) ∧ ¬Aborts h w) (inner : List TableRef) (w : Lua.Value)
    (visits : Visits h path (.table r) inner w) : (∀ e, ¬Obstacle h inner w e) ∧ ¬Aborts h w := by
  obtain ⟨rfl, rfl⟩ | ⟨r', x, same, value, rest⟩ := visits.cases_head
  · constructor
    · rintro e (cyclic | deep | _ | _ | _ | _ | _ | ⟨object, mem, noText⟩)
      · exact fresh cyclic
      · exact absurd deep (Nat.not_le.mpr shallow)
      · exact texts _ _ object mem noText
    · rintro (_ | aborted)
      rw [calm] at aborted
      cases aborted
  · cases same
    exact each x value inner w rest

/-- A table that is an array is walked through its values. -/
theorem walked_array {items : List Json.Value} {convert : Lua.Value → Except ConversionError Json.Value}
    (fresh : r ∉ path) (shallow : path.length < ConversionError.maxDepth)
    (calm : isAborted (h.table r) = false) (array : isArray (h.table r) = true)
    (each : ∀ w, Walked h (r :: path) w (convert w))
    (converted : (values (h.table r)).mapM convert = .ok items) :
    Walked h path (.table r) (.ok (.array items)) := by
  have forms := mapM_eq_ok_iff.mp converted
  refine ⟨.array array (forms.imp fun w j form => ?_), free_of_values fresh shallow calm ?_ ?_⟩
  · have walked := each w
    rw [form] at walked
    exact walked.1
  · intro b w object
    rw [array] at object
    cases object
  · intro x value
    obtain ⟨j, -, form⟩ := exists_of_mem_forall₂ forms value
    have walked := each x
    rw [form] at walked
    exact walked.2

/-- A table that is an object is walked through its entries. An entry whose name is no text would
have no member. -/
theorem walked_object {ms : Members} {convert : Lua.Value → Except ConversionError Json.Value}
    (fresh : r ∉ path) (shallow : path.length < ConversionError.maxDepth)
    (calm : isAborted (h.table r) = false) (object : isArray (h.table r) = false)
    (each : ∀ w, Walked h (r :: path) w (convert w)) (converted : members convert (h.table r) = .ok ms) :
    Walked h path (.table r) (.ok (.object ms)) := by
  obtain ⟨ms, forms, rfl⟩ := foldlM_addMember_ok converted
  have same : values (h.table r) = (named (h.table r)).map Prod.snd :=
    if_neg (by rw [object]; decide)
  have names := names_of_forms forms
  rw [Members.names, List.map_map] at names
  have converts : List.Forall₂ (fun w j => convert w = .ok j) (values (h.table r)) (ms.map Prod.snd) := by
    rw [same, List.forall₂_map_left_iff, List.forall₂_map_right_iff]
    exact forms.imp fun _ _ isMember => isMember.2
  refine ⟨.object object names (converts.imp fun w j form => ?_), free_of_values fresh shallow calm ?_ ?_⟩
  · have walked := each w
    rw [form] at walked
    exact walked.1
  · intro b w _ mem noText
    have isNamed : (.string b, w) ∈ named (h.table r) := List.mem_filter.mpr ⟨mem, rfl⟩
    obtain ⟨m, -, name, -⟩ := exists_of_mem_forall₂ forms isNamed
    rw [memberName?, noText] at name
    cases name
  · intro x value
    obtain ⟨j, -, form⟩ := exists_of_mem_forall₂ converts value
    have walked := each x
    rw [form] at walked
    exact walked.2

/-- A table is walked as its conversion goes. -/
theorem walked_table {convert : Lua.Value → Except ConversionError Json.Value}
    (shallow : path.length < ConversionError.maxDepth)
    (each : ∀ w, Walked h (r :: path) w (convert w)) :
    Walked h path (.table r)
      (if r ∈ path then .error .cyclic
      else if isAborted (h.table r) then .error .aborted
      else if isArray (h.table r) then ((values (h.table r)).mapM convert).map .array
      else (members convert (h.table r)).map .object) := by
  split_ifs with cyclic aborted array
  · exact walked_of_error (.inl (.cyclic cyclic))
  · exact walked_of_error (.inr ⟨rfl, .table aborted⟩)
  · cases converted : (values (h.table r)).mapM convert with
    | ok items => exact walked_array cyclic shallow (by simpa using aborted) array each converted
    | error e =>
      obtain ⟨w, value, failed⟩ := exists_of_mapM_error converted
      exact walked_of_inside value (failed ▸ each w)
  · have object : isArray (h.table r) = false := by simpa using array
    cases converted : members convert (h.table r) with
    | ok ms => exact walked_object cyclic shallow (by simpa using aborted) object each converted
    | error e =>
      obtain ⟨entry, mem, noName | ⟨isNamed, failed⟩⟩ := exists_of_foldlM_addMember_error converted
      · obtain ⟨b, isBytes, noText, rfl⟩ := memberName?_eq_error noName
        exact walked_of_error (.inl (.name object (w := entry.2) (isBytes ▸ mem) noText))
      · exact walked_of_inside (mem_values_of_mem_entries object mem isNamed) (failed ▸ each entry.2)

/-- A value is a table or not. -/
theorem table_or_scalar (v : Lua.Value) : (∃ r, v = .table r) ∨ ∀ r, v ≠ .table r := by
  cases v with
  | table r => exact .inl ⟨r, rfl⟩
  | _ => exact .inr nofun

/-- A conversion with room for as many tables as it may yet be inside of. -/
theorem walked_toJsonWithin (inside : path.length + room = ConversionError.maxDepth) :
    Walked h path v (toJsonWithin h room path v) := by
  induction room generalizing path v with
  | zero =>
    obtain ⟨r, rfl⟩ | scalar := table_or_scalar v
    · exact walked_of_error (.inl (.deep (by omega)))
    · exact walked_scalar scalar
  | succ room ih =>
    obtain ⟨r, rfl⟩ | scalar := table_or_scalar v
    · rw [toJsonWithin_table_eq]
      exact walked_table (by omega) fun w => ih (by rw [List.length_cons]; omega)
    · exact walked_scalar scalar

end Results

section Uniqueness

variable {h : Heap} {v : Lua.Value}

/-- A value unfolds to one tree. -/
theorem Unfolds.unique {i : Json.Value} (first : Unfolds h v i) :
    ∀ {j : Json.Value}, Unfolds h v j → i = j := by
  refine @Unfolds.rec h (fun v i _ => ∀ {j}, Unfolds h v j → i = j)
    (fun vs is _ => ∀ {js}, List.Forall₂ (Unfolds h) vs js → is = js)
    ?nil ?boolean ?integer ?float ?text ?array ?object ?none ?more v i first
  case nil | boolean | integer | float =>
    intros
    rename_i j second
    cases second
    rfl
  case text =>
    intro b s isText j second
    cases second with
    | text isText' => rw [Option.some.inj (isText.symm.trans isText')]
  case array =>
    intro r items array _ same j second
    cases second with
    | array _ forms => rw [same forms]
    | object object => rw [array] at object; cases object
  case object =>
    intro r ms object names _ same j second
    cases second with
    | array array => rw [object] at array; cases array
    | @object _ ms' _ names' forms =>
      have keys : ms.map Prod.fst = ms'.map Prod.fst := by
        have injective : Function.Injective fun name : String =>
            (some (.ok name) : Option (Except ConversionError String)) :=
          fun _ _ same => Except.ok.inj (Option.some.inj same)
        refine List.map_injective_iff.mpr injective ?_
        rw [List.map_map, List.map_map]
        exact names.symm.trans names'
      rw [List.zip_of_prod keys (same forms), ← List.zip_of_prod rfl rfl]
  case none =>
    intro js second
    cases second
    rfl
  case more =>
    intro v j vs js _ _ first rest js' second
    cases second with
    | cons head tail => rw [first head, rest tail]

end Uniqueness

section Marks

/-- A computation that marks tables: its result and the marks after it, unless its calls nest deeper than
they may. -/
abbrev Marking (α : Type) := Finset TableRef → Option (Except ConversionError α × Finset TableRef)

variable {α β : Type}

/-- The computation with its result changed. -/
def Marking.map (f : α → β) (compute : Marking α) : Marking β := fun marks =>
  (compute marks).map fun ended => (ended.1.map f, ended.2)

/-- Goes through items up to the first failure, each with the marks that the one before it left. -/
def foldMarking (step : β → α → Marking β) : β → List α → Marking β
  | acc, [], marks => some (.ok acc, marks)
  | acc, x :: rest, marks =>
    match step acc x marks with
    | some (.ok acc, marks) => foldMarking step acc rest marks
    | ended => ended

/-- The member of an entry, after the members before it. -/
def putMarking (convert : Lua.Value → Marking Json.Value) (members : Members)
    (entry : Key × Lua.Value) : Marking Members :=
  match memberName? entry.1 with
  | none => fun marks => some (.ok members, marks)
  | some (.error e) => fun marks => some (.error e, marks)
  | some (.ok name) => (convert entry.2).map (members.put name)

/-- The array or the object of a table. -/
def tableMarking (convert : Lua.Value → Marking Json.Value) (t : Table) : Marking Json.Value :=
  if isAborted t then fun marks => some (.error .aborted, marks)
  else if isArray t then
    (foldMarking (fun items w => (convert w).map (items ++ [·])) [] (values t)).map .array
  else (foldMarking (putMarking convert) [] t.entries).map .object

/-- Converts a value with calls that nest at most so deep. A table is marked while it is converted, and
the marks are all that tells how deep a table is nested and whether it contains itself. -/
def convertMarking (h : Heap) : Nat → Lua.Value → Marking Json.Value
  | 0, _, _ => none
  | calls + 1, v, marks =>
    match v with
    | .table r =>
      if ConversionError.maxDepth ≤ marks.card then some (.error .tooDeep, marks)
      else if r ∈ marks then some (.error .cyclic, marks)
      else
        (tableMarking (convertMarking h calls) (h.table r) (insert r marks)).map fun ended =>
          (ended.1, ended.2.erase r)
    | v => some (toJson h v, marks)

variable {h : Heap} {marks : Finset TableRef}

/-- Steps that leave the marks as they are. -/
theorem foldMarking_eq {step : β → α → Marking β} {f : β → α → Except ConversionError β} {xs : List α}
    (steps : ∀ x ∈ xs, ∀ acc, step acc x marks = some (f acc x, marks)) (acc : β) :
    foldMarking step acc xs marks = some (xs.foldlM f acc, marks) := by
  induction xs generalizing acc with
  | nil => rfl
  | cons x rest ih =>
    obtain ⟨first, later⟩ := List.forall_mem_cons.mp steps
    rw [foldMarking, first, List.foldlM_cons]
    cases f acc x with
    | ok acc => exact ih later acc
    | error e => rfl

/-- A fold that adds the converted items at the end converts them all. -/
theorem foldlM_push (convert : α → Except ConversionError β) (xs : List α) (items : List β) :
    xs.foldlM (fun items x => (convert x).map (items ++ [·])) items =
      (xs.mapM convert).map (items ++ ·) := by
  induction xs generalizing items with
  | nil => exact congrArg Except.ok (List.append_nil items).symm
  | cons x rest ih =>
    rw [List.foldlM_cons, List.mapM_cons]
    cases convert x with
    | error e => rfl
    | ok y =>
      refine (ih (items ++ [y])).trans ?_
      cases rest.mapM convert with
      | error e => rfl
      | ok ys => exact congrArg Except.ok (List.append_assoc items [y] ys)

/-- A table is converted with marks as it is without, and the marks are as they were, if that holds
of its values. -/
theorem tableMarking_eq {marking : Lua.Value → Marking Json.Value}
    {convert : Lua.Value → Except ConversionError Json.Value}
    (each : ∀ w, marking w marks = some (convert w, marks)) (t : Table) :
    tableMarking marking t marks =
      some (if isAborted t then .error .aborted
        else if isArray t then ((values t).mapM convert).map .array
        else (members convert t).map .object, marks) := by
  unfold tableMarking
  split_ifs
  · rfl
  · have push (w : Lua.Value) (items : List Json.Value) :
        (marking w).map (items ++ [·]) marks = some ((convert w).map (items ++ [·]), marks) := by
      rw [Marking.map, each w]
      rfl
    rw [Marking.map, foldMarking_eq (fun w _ => push w), foldlM_push]
    cases (values t).mapM convert <;> rfl
  · have put (entry : Key × Lua.Value) (acc : Members) :
        putMarking marking acc entry marks = some (addMember convert acc entry, marks) := by
      unfold putMarking addMember
      rcases memberName? entry.1 with _ | _ | name
      · rfl
      · rfl
      · change Marking.map _ _ _ = _
        rw [Marking.map, each entry.2]
        cases convert entry.2 <;> rfl
    rw [Marking.map, foldMarking_eq fun entry _ => put entry]
    rfl

/-- The form of a value other than a table does not depend on where it stands. -/
theorem toJsonWithin_scalar {v : Lua.Value} (scalar : ∀ r, v ≠ .table r) (room : Nat)
    (path : List TableRef) : toJsonWithin h room path v = toJson h v := by
  rw [toJson]
  unfold toJsonWithin
  cases v with
  | table r => exact absurd rfl (scalar r)
  | failure f => cases f <;> rfl
  | _ => rfl

/-- A scalar is converted without a mark. -/
theorem convertMarking_scalar {v : Lua.Value} (scalar : ∀ r, v ≠ .table r) (calls : Nat)
    (marks : Finset TableRef) : convertMarking h (calls + 1) v marks = some (toJson h v, marks) := by
  cases v with
  | table r => exact absurd rfl (scalar r)
  | _ => rfl

/-- Marks on the largest number of tables leave no room for one more. -/
theorem convertMarking_deep (deep : ConversionError.maxDepth ≤ marks.card) (calls : Nat) (r : TableRef) :
    convertMarking h (calls + 1) (.table r) marks = some (.error .tooDeep, marks) := if_pos deep

/-- With calls that may nest once more than there is room for tables, the marks do what the path does, and
they are the same afterwards. -/
theorem convertMarking_eq {path : List TableRef} {room calls : Nat}
    (inside : marks.card + room = ConversionError.maxDepth) (same : ∀ r, r ∈ marks ↔ r ∈ path)
    (enough : room < calls) (v : Lua.Value) :
    convertMarking h calls v marks = some (toJsonWithin h room path v, marks) := by
  obtain ⟨calls, rfl⟩ := Nat.exists_eq_succ_of_ne_zero (Nat.ne_zero_of_lt enough)
  induction room generalizing marks path calls v with
  | zero =>
    obtain ⟨r, rfl⟩ | scalar := table_or_scalar v
    · exact convertMarking_deep (Nat.le_of_eq inside.symm) calls r
    · rw [toJsonWithin_scalar scalar, convertMarking_scalar scalar]
  | succ room ih =>
    obtain ⟨r, rfl⟩ | scalar := table_or_scalar v
    · rw [convertMarking, if_neg (by omega), toJsonWithin_table_eq]
      by_cases cyclic : r ∈ path
      · rw [if_pos ((same r).mpr cyclic), if_pos cyclic]
      · have fresh : r ∉ marks := mt (same r).mp cyclic
        obtain ⟨calls, rfl⟩ := Nat.exists_eq_succ_of_ne_zero (show calls ≠ 0 by omega)
        have inside' : (insert r marks).card + room = ConversionError.maxDepth := by
          rw [Finset.card_insert_of_notMem fresh]
          omega
        have same' (x : TableRef) : x ∈ insert r marks ↔ x ∈ r :: path := by
          rw [Finset.mem_insert, List.mem_cons, same]
        have each (w : Lua.Value) :
            convertMarking h (calls + 1) w (insert r marks) =
              some (toJsonWithin h room (r :: path) w, insert r marks) :=
          ih inside' same' w calls (show room < calls + 1 by omega)
        rw [if_neg fresh, if_neg cyclic, tableMarking_eq each, Option.map_some,
          Finset.erase_insert fresh]
    · rw [toJsonWithin_scalar scalar, convertMarking_scalar scalar]

/-- The conversion of a value comes to its end whatever tables are marked and however they refer to one
another, and leaves the marks as they are. -/
theorem exists_convertMarking (h : Heap) (v : Lua.Value) (marks : Finset TableRef) :
    ∃ result, ∀ calls, ConversionError.maxDepth < calls →
      convertMarking h calls v marks = some (result, marks) := by
  obtain ⟨r, rfl⟩ | scalar := table_or_scalar v
  · by_cases deep : ConversionError.maxDepth ≤ marks.card
    · refine ⟨.error .tooDeep, fun calls enough => ?_⟩
      obtain ⟨calls, rfl⟩ := Nat.exists_eq_succ_of_ne_zero (Nat.ne_zero_of_lt enough)
      exact convertMarking_deep deep calls r
    · have inside : marks.card + (ConversionError.maxDepth - marks.card) = ConversionError.maxDepth := by
        omega
      exact ⟨_, fun calls enough =>
        convertMarking_eq inside (fun _ => Finset.mem_toList.symm) (by omega) (.table r)⟩
  · refine ⟨toJson h v, fun calls enough => ?_⟩
    obtain ⟨calls, rfl⟩ := Nat.exists_eq_succ_of_ne_zero (Nat.ne_zero_of_lt enough)
    exact convertMarking_scalar scalar calls marks

end Marks

section Outcomes

variable {h : Heap} {v : Lua.Value}

/-- What the conversion of a value comes to. -/
structure Outcome (h : Heap) (v : Lua.Value) : Prop where
  /-- It comes to its end whatever is marked, and the marks are the same afterwards. -/
  ends : ∀ marks, ∃ result, ∀ calls, ConversionError.maxDepth < calls →
    convertMarking h calls v marks = some (result, marks)
  /-- Nothing is marked when it starts. -/
  result : ∀ calls, ConversionError.maxDepth < calls →
    convertMarking h calls v ∅ = some (toJson h v, ∅)
  /-- It ends the run only where the walk comes to the failure of a helper. -/
  aborts : toJson h v = .error .aborted → ∃ path w, Visits h [] v path w ∧ Aborts h w
  /-- Otherwise it fails exactly if the walk meets an obstacle. -/
  fails : toJson h v ≠ .error .aborted →
    ((∃ e, toJson h v = .error e) ↔ ∃ path w e, Visits h [] v path w ∧ Obstacle h path w e)
  /-- The error is that of an obstacle which the walk meets. -/
  blames : ∀ e, toJson h v = .error e → e ≠ .aborted →
    ∃ path w, Visits h [] v path w ∧ Obstacle h path w e
  /-- Otherwise it gives the one tree that the value unfolds to. -/
  unfolds : toJson h v ≠ .error .aborted → (∀ path w e, Visits h [] v path w → ¬Obstacle h path w e) →
    ∃ j, toJson h v = .ok j ∧ ∀ i, Unfolds h v i ↔ i = j

/-- Every conversion ends, unfolds the heap where nothing is in the way, and fails where something is. -/
theorem has_outcome (h : Heap) (v : Lua.Value) : Outcome h v := by
  have walked : Walked h [] v (toJson h v) := walked_toJsonWithin (Nat.zero_add _)
  constructor
  case ends => exact exists_convertMarking h v
  case result =>
    intro calls enough
    exact convertMarking_eq (Nat.zero_add _) (fun r => by simp) enough v
  all_goals
    generalize toJson h v = result at walked ⊢
  case aborts =>
    rintro rfl
    obtain ⟨path, w, visits, obstacle | ⟨-, aborts⟩⟩ := walked
    · cases obstacle
    · exact ⟨path, w, visits, aborts⟩
  case blames =>
    rintro e rfl goesOn
    obtain ⟨path, w, visits, obstacle | ⟨aborted, -⟩⟩ := walked
    · exact ⟨path, w, visits, obstacle⟩
    · exact absurd aborted goesOn
  case fails =>
    intro goesOn
    cases result with
    | ok j =>
      refine iff_of_false nofun ?_
      rintro ⟨path, w, e, visits, obstacle⟩
      exact (walked.2 path w visits).1 e obstacle
    | error e =>
      refine iff_of_true ⟨e, rfl⟩ ?_
      obtain ⟨path, w, visits, obstacle | ⟨rfl, -⟩⟩ := walked
      · exact ⟨path, w, e, visits, obstacle⟩
      · exact absurd rfl goesOn
  case unfolds =>
    intro goesOn free
    cases result with
    | ok j => exact ⟨j, rfl, fun i => ⟨fun other => other.unique walked.1, fun same => same ▸ walked.1⟩⟩
    | error e =>
      obtain ⟨path, w, visits, obstacle | ⟨rfl, -⟩⟩ := walked
      · exact absurd obstacle (free path w e visits)
      · exact absurd rfl goesOn

/-- A result decided to be an error is that error. -/
theorem eq_error_of_decide {ε α : Type} [DecidableEq ε] {e : ε} {x : Except ε α}
    (failed : (match x with | .error e' => decide (e' = e) | .ok _ => false) = true) : x = .error e := by
  cases x with
  | error e' => rw [of_decide_eq_true failed]
  | ok a => cases failed

/-- The table of `{[true] = e}`, where `e` is the failure of a helper that was caught. -/
def catching : Table := (Table.withRoom 0 1).set (.boolean true) (.failure .aborted)

/-- The failure of a helper that stands under no name is not converted, so nothing is in the way of the
empty object. The conversion ends the run all the same. -/
theorem caught_failure_ends_run :
    toJson (alone catching) (.table ⟨0⟩) = .error .aborted ∧
      (∀ path w e, Visits (alone catching) [] (.table ⟨0⟩) path w →
        ¬Obstacle (alone catching) path w e) ∧
      Unfolds (alone catching) (.table ⟨0⟩) (.object []) ∧
      (Sandbox.helped.evaluate
        "(function() local ok, e = pcall(lib.format_date, '2024-01-01', '%Q') return {[true] = e} end)()"
        none).1 = .error (.chunk .aborted) := by
  have irregular : isArray catching = false := rfl
  have nameless : named catching = [] := rfl
  have valueless : values catching = [] := rfl
  refine ⟨rfl, fun path w e visits => ?_, ?_, ?_⟩
  · obtain ⟨rfl, rfl⟩ | ⟨r, x, same, value, -⟩ := visits.cases_head
    · rintro (cyclic | deep | _ | _ | _ | _ | _ | ⟨-, mem, -⟩)
      · cases cyclic
      · cases deep
      · have isNamed : _ ∈ named catching := List.mem_filter.mpr ⟨mem, rfl⟩
        rw [nameless] at isNamed
        cases isNamed
    · cases same
      change x ∈ values catching at value
      rw [valueless] at value
      cases value
  · have unfolds : Unfolds (alone catching) (.table ⟨0⟩) (.object (Members.putAll [] [])) :=
      .object irregular rfl .nil
    exact unfolds
  · exact eq_error_of_decide (by decide +kernel)

end Outcomes

end Conversion

end TableSeed
