import TableSeed.Json.Reader
import TableSeed.Proofs.Json.Members
import TableSeed.Proofs.Json.Scanning

/-!
# Reading back what is written

The tokens of a value build the tree of the value, and the tree is read back as the value exactly
when it nests few enough containers and each of its numbers is read back.
-/

namespace TableSeed.Json

namespace Value

mutual

/-- The value as the tree of its text. -/
def tree : Value → Tree
  | .null => .null
  | .bool b => .bool b
  | .number n => .number n.text.numeral
  | .string s => .text (some s)
  | .array items => .array (itemTrees items) none
  | .object members => .object (memberTrees members) none

/-- The items as trees. -/
def itemTrees : List Value → List Tree
  | [] => []
  | v :: rest => tree v :: itemTrees rest

/-- The members as trees. -/
def memberTrees : List (String × Value) → List (Option String × Tree)
  | [] => []
  | (k, v) :: rest => (some k, tree v) :: memberTrees rest

end

mutual

/-- How many containers enclose one another inside the value. -/
def nesting : Value → Nat
  | .array items => itemsNesting items + 1
  | .object members => membersNesting members + 1
  | .null | .bool _ | .number _ | .string _ => 0

/-- How many containers enclose one another inside an item. -/
def itemsNesting : List Value → Nat
  | [] => 0
  | v :: rest => max (nesting v) (itemsNesting rest)

/-- How many containers enclose one another inside the value of a member. -/
def membersNesting : List (String × Value) → Nat
  | [] => 0
  | (_, v) :: rest => max (nesting v) (membersNesting rest)

end

/-- Items nest as deep as the deepest of them. -/
theorem itemsNesting_le_iff {items : List Value} {room : Nat} :
    itemsNesting items ≤ room ↔ ∀ v ∈ items, v.nesting ≤ room := by
  induction items with
  | nil => simp [itemsNesting]
  | cons v rest ih => rw [itemsNesting, max_le_iff, ih, List.forall_mem_cons]

/-- Members nest as deep as the deepest of their values. -/
theorem membersNesting_le_iff {members : List (String × Value)} {room : Nat} :
    membersNesting members ≤ room ↔ ∀ m ∈ members, m.2.nesting ≤ room := by
  induction members with
  | nil => simp [membersNesting]
  | cons m rest ih => rw [membersNesting, max_le_iff, ih, List.forall_mem_cons]

mutual

/-- The numbers inside the value, in order. -/
def numbers : Value → List Number
  | .number n => [n]
  | .array items => itemNumbers items
  | .object members => memberNumbers members
  | .null | .bool _ | .string _ => []

/-- The numbers inside the items. -/
def itemNumbers : List Value → List Number
  | [] => []
  | v :: rest => numbers v ++ itemNumbers rest

/-- The numbers inside the values of the members. -/
def memberNumbers : List (String × Value) → List Number
  | [] => []
  | (_, v) :: rest => numbers v ++ memberNumbers rest

end

end Value

namespace Numeral

variable {negative : Bool} {word : Nat} {exponent : Int} {t : Numeral} {fault : Fault}

/-- A numeral that is no double is malformed. -/
theorem fault_of_toDouble (failed : toDouble negative word exponent = .error fault) :
    fault = .malformed := by
  unfold toDouble at failed
  split at failed
  · cases failed
    rfl
  · split at failed <;> cases failed
    rfl

/-- A numeral that is no integer is malformed. -/
theorem fault_of_toInteger (failed : toInteger negative word = .error fault) :
    fault = .malformed := by
  unfold toInteger at failed
  split at failed <;> split at failed
  · cases failed
  · exact fault_of_toDouble failed
  · cases failed
  · cases failed
    rfl

/-- The only fault of a numeral is that no finite double is near it. -/
theorem fault_of_toNumber (failed : t.toNumber = .error fault) : fault = .malformed := by
  simp only [toNumber] at failed
  split at failed
  · split_ifs at failed
    · exact fault_of_toInteger failed
    · exact fault_of_toDouble failed
  · split at failed
    · exact fault_of_toDouble failed
    · split at failed
      · exact fault_of_toDouble failed
      · split_ifs at failed
        · cases failed
          rfl
        · exact fault_of_toDouble failed

end Numeral

namespace Tree

open Value

/-- A part is due: the value of a member, an item, or the whole. -/
def Builder.Due (b : Builder) : Prop := b.expected = .value ∨ b.expected = .valueOrClose

/-- What was expected does not matter once a part is there. -/
theorem Builder.add_expected (stack : List Opened) (root : Option Tree) (excess : Bool)
    (expected expected' : Expected) (t : Tree) :
    Builder.add ⟨stack, expected, root, excess⟩ t = Builder.add ⟨stack, expected', root, excess⟩ t := by
  cases stack <;> rfl

/-- An array that closes is a part of what encloses it. -/
theorem Builder.feed_closeArray (items : List Tree) (stack : List Opened) (root : Option Tree)
    (excess : Bool) (expected : Expected) :
    Builder.feed ⟨.array items.reverse :: stack, .commaOrClose, root, excess⟩ .closeArray =
      Builder.add ⟨stack, expected, root, excess⟩ (.array items none) := by
  change Builder.add ⟨stack, .commaOrClose, root, excess⟩ (.array items.reverse.reverse none) = _
  rw [List.reverse_reverse, Builder.add_expected]

/-- An object that closes is a part of what encloses it. -/
theorem Builder.feed_closeObject (members : List (Option String × Tree)) (stack : List Opened)
    (root : Option Tree) (excess : Bool) (expected : Expected) :
    Builder.feed ⟨.object members.reverse none :: stack, .commaOrClose, root, excess⟩ .closeObject =
      Builder.add ⟨stack, expected, root, excess⟩ (.object members none) := by
  change Builder.add ⟨stack, .commaOrClose, root, excess⟩ (.object members.reverse.reverse none) = _
  rw [List.reverse_reverse, Builder.add_expected]

mutual

/-- The tokens of a value build its tree. -/
theorem foldl_feed (b : Builder) (v : Value) (due : b.Due) :
    v.tokens.foldl Builder.feed b = b.add v.tree := by
  obtain ⟨stack, expected, root, excess⟩ := b
  match v with
  | .null | .bool _ | .number _ | .string _ => obtain rfl | rfl := due <;> rfl
  | .array items =>
    have opened : Builder.feed ⟨stack, expected, root, excess⟩ .openArray =
        ⟨.array [] :: stack, .valueOrClose, root, excess⟩ := by
      obtain rfl | rfl := due <;> rfl
    rw [tokens, List.foldl_cons, opened, List.foldl_append]
    match items with
    | [] => exact Builder.add_expected stack root excess _ _ _
    | w :: rest =>
      rw [foldl_feed_items (w :: rest) (List.cons_ne_nil _ _) [] stack root excess (.inr rfl),
        List.append_nil]
      exact Builder.feed_closeArray _ stack root excess expected
  | .object members =>
    have opened : Builder.feed ⟨stack, expected, root, excess⟩ .openObject =
        ⟨.object [] none :: stack, .nameOrClose, root, excess⟩ := by
      obtain rfl | rfl := due <;> rfl
    rw [tokens, List.foldl_cons, opened, List.foldl_append]
    match members with
    | [] => exact Builder.add_expected stack root excess _ _ _
    | m :: rest =>
      rw [foldl_feed_members (m :: rest) (List.cons_ne_nil _ _) [] stack root excess (.inr rfl),
        List.append_nil]
      exact Builder.feed_closeObject _ stack root excess expected

/-- The tokens of items add their trees to the array that is open. -/
theorem foldl_feed_items (items : List Value) (nonempty : items ≠ []) (read : List Tree)
    (stack : List Opened) (root : Option Tree) (excess : Bool) {expected : Expected}
    (due : expected = .value ∨ expected = .valueOrClose) :
    (itemTokens items).foldl Builder.feed ⟨.array read :: stack, expected, root, excess⟩ =
      ⟨.array ((itemTrees items).reverse ++ read) :: stack, .commaOrClose, root, excess⟩ := by
  match items with
  | [] => exact absurd rfl nonempty
  | [v] =>
    rw [itemTokens, List.isEmpty_nil, if_pos rfl, List.append_nil, foldl_feed ⟨_, _, _, _⟩ v due]
    rfl
  | v :: w :: rest =>
    have first := foldl_feed ⟨.array read :: stack, expected, root, excess⟩ v due
    have comma : Builder.feed (Builder.add ⟨.array read :: stack, expected, root, excess⟩ v.tree)
        .comma = ⟨.array (v.tree :: read) :: stack, .value, root, excess⟩ := rfl
    rw [itemTokens, List.isEmpty_cons, if_neg Bool.false_ne_true, List.foldl_append, first,
      List.foldl_cons, comma, foldl_feed_items (w :: rest) (List.cons_ne_nil _ _) _ _ _ _ (.inl rfl)]
    simp [itemTrees]

/-- The tokens of members add their trees to the object that is open. -/
theorem foldl_feed_members (members : List (String × Value)) (nonempty : members ≠ [])
    (read : List (Option String × Tree)) (stack : List Opened) (root : Option Tree)
    (excess : Bool) {expected : Expected} (due : expected = .name ∨ expected = .nameOrClose) :
    (memberTokens members).foldl Builder.feed ⟨.object read none :: stack, expected, root, excess⟩ =
      ⟨.object ((memberTrees members).reverse ++ read) none :: stack, .commaOrClose, root,
        excess⟩ := by
  match members with
  | [] => exact absurd rfl nonempty
  | (k, v) :: rest =>
    have named : Builder.feed (Builder.feed ⟨.object read none :: stack, expected, root, excess⟩
        (.text (some k))) .colon = ⟨.object read (some k) :: stack, .value, root, excess⟩ := by
      obtain rfl | rfl := due <;> rfl
    have first := foldl_feed ⟨.object read (some k) :: stack, .value, root, excess⟩ v (.inl rfl)
    rw [memberTokens, List.foldl_cons, List.foldl_cons, named, List.foldl_append, first]
    match rest with
    | [] => rfl
    | (l, w) :: rest =>
      have comma : Builder.feed (Builder.add ⟨.object read (some k) :: stack, .value, root, excess⟩
          v.tree) .comma =
          ⟨.object ((some k, v.tree) :: read) none :: stack, .name, root, excess⟩ := rfl
      rw [List.isEmpty_cons, if_neg Bool.false_ne_true, List.foldl_cons, comma,
        foldl_feed_members ((l, w) :: rest) (List.cons_ne_nil _ _) _ _ _ _ (.inl rfl)]
      simp [memberTrees]

end

/-- The text of a value has the tree of the value, and nothing follows it. -/
theorem ofText_render (v : Value) : ofText v.render = (v.tree, false) := by
  have built := foldl_feed {} v (.inl rfl)
  simp only [ofText, render, String.toList_ofList, ofChars_write, built]
  rfl

variable {room : Nat} {v w : Value} {vs : List Value} {ms : List (String × Value)} {fault : Fault}

/-- A numeral reads as the number it stands for. -/
theorem read_number_ok_iff {n : Numeral} :
    (Tree.number n).read room = .ok v ↔ ∃ m, n.toNumber = .ok m ∧ v = .number m := by
  simp only [Tree.read, bind, Except.bind]
  cases n.toNumber <;> simp [pure, Except.pure, eq_comm]

/-- An array is read if there is room for it and for each item. -/
theorem read_array_ok_iff {ts : List Tree} : (Tree.array ts none).read room = .ok v ↔
    1 < room ∧ ∃ vs, readItems (room - 1) ts = .ok vs ∧ v = .array vs := by
  simp only [Tree.read, bind, Except.bind]
  split_ifs with full
  · simp [not_lt.mpr full]
  · cases readItems (room - 1) ts <;>
      simp [pure, Except.pure, readStop, not_le.mp full, eq_comm]

/-- An object is read if there is room for it and for the value of each member, and of members with
one name the last counts. -/
theorem read_object_ok_iff {ts : List (Option String × Tree)} :
    (Tree.object ts none).read room = .ok v ↔
      1 < room ∧ ∃ ms, readMembers (room - 1) ts = .ok ms ∧ v = .object (Members.ofList ms) := by
  simp only [Tree.read, bind, Except.bind]
  split_ifs with full
  · simp [not_lt.mpr full]
  · cases readMembers (room - 1) ts <;>
      simp [pure, Except.pure, readStop, not_le.mp full, eq_comm]

/-- Items are read one after the other. -/
theorem readItems_cons_ok_iff {t : Tree} {ts : List Tree} : readItems room (t :: ts) = .ok vs ↔
    ∃ v rest, t.read room = .ok v ∧ readItems room ts = .ok rest ∧ vs = v :: rest := by
  simp only [readItems, bind, Except.bind]
  cases t.read room <;> cases readItems room ts <;> simp [pure, Except.pure, eq_comm]

/-- Members are read one after the other. -/
theorem readMembers_cons_ok_iff {k : String} {t : Tree} {ts : List (Option String × Tree)} :
    readMembers room ((some k, t) :: ts) = .ok ms ↔
      ∃ v rest, t.read room = .ok v ∧ readMembers room ts = .ok rest ∧ ms = (k, v) :: rest := by
  simp only [readMembers, readText, bind, Except.bind]
  cases t.read room <;> cases readMembers room ts <;> simp [pure, Except.pure, eq_comm]

/-- The names of members are read back. -/
theorem names_of_readMembers (members : List (String × Value))
    (read : readMembers room (memberTrees members) = .ok ms) :
    Members.names ms = Members.names members := by
  induction members generalizing ms with
  | nil => cases read; rfl
  | cons m rest ih =>
    obtain ⟨v, later, -, others, rfl⟩ := readMembers_cons_ok_iff.mp read
    exact congrArg (m.1 :: ·) (ih others)

/-- Members that are read back are those that were written. -/
theorem ofList_eq_iff {members : Members} (distinct : Members.Distinct members)
    (names : Members.names ms = Members.names members) :
    Members.ofList ms = members ↔ ms = members := by
  have apart : Members.Distinct ([] ++ ms) := by
    rw [List.nil_append, Members.Distinct, names]
    exact distinct
  have kept : Members.ofList ms = ms := Members.putAll_of_distinct apart
  rw [kept]

mutual

/-- A tree is read back when it nests less than there is room for and its numbers are. -/
theorem read_tree_iff (v : Value) (distinct : v.Distinct) {room : Nat} (positive : 0 < room) :
    v.tree.read room = .ok v ↔
      v.nesting < room ∧ ∀ n ∈ v.numbers, n.text.numeral.toNumber = .ok n := by
  match v with
  | .null | .bool _ | .string _ => simp [tree, Tree.read, readText, nesting, numbers, positive]
  | .number n =>
    rw [tree, read_number_ok_iff]
    simp [nesting, numbers, positive]
  | .array items =>
    rw [tree, read_array_ok_iff, nesting, numbers]
    constructor
    · rintro ⟨large, _, read, ⟨⟩⟩
      obtain ⟨fits, back⟩ := (readItems_itemTrees_iff items distinct (by omega)).mp read
      exact ⟨by omega, back⟩
    · rintro ⟨fits, back⟩
      have positive : 0 < room - 1 := by omega
      have inner := readItems_itemTrees_iff items distinct positive
      exact ⟨by omega, items, inner.mpr ⟨by omega, back⟩, rfl⟩
  | .object members =>
    rw [tree, read_object_ok_iff, nesting, numbers]
    constructor
    · rintro ⟨large, ms, read, same⟩
      obtain rfl := (ofList_eq_iff distinct.1 (names_of_readMembers members read)).mp
        (Value.object.inj same).symm
      obtain ⟨fits, back⟩ := (readMembers_memberTrees_iff ms distinct.2 (by omega)).mp read
      exact ⟨by omega, back⟩
    · rintro ⟨fits, back⟩
      have positive : 0 < room - 1 := by omega
      have inner := readMembers_memberTrees_iff members distinct.2 positive
      have kept := (ofList_eq_iff distinct.1 rfl).mpr rfl
      exact ⟨by omega, members, inner.mpr ⟨by omega, back⟩, congrArg Value.object kept.symm⟩

/-- Items are read back from their trees if there is room for them and each number is read back. -/
theorem readItems_itemTrees_iff (items : List Value) (distinct : ItemsDistinct items) {room : Nat}
    (positive : 0 < room) : readItems room (itemTrees items) = .ok items ↔
      itemsNesting items < room ∧ ∀ n ∈ itemNumbers items, n.text.numeral.toNumber = .ok n := by
  match items with
  | [] => simp [itemTrees, readItems, itemsNesting, itemNumbers, positive]
  | v :: rest =>
    have first := read_tree_iff v distinct.1 positive
    have later := readItems_itemTrees_iff rest distinct.2 positive
    rw [itemTrees, readItems_cons_ok_iff, itemsNesting, itemNumbers, List.forall_mem_append,
      max_lt_iff, and_and_and_comm, ← first, ← later]
    constructor
    · rintro ⟨_, _, head, tail, ⟨⟩⟩
      exact ⟨head, tail⟩
    · rintro ⟨head, tail⟩
      exact ⟨v, rest, head, tail, rfl⟩

/-- Members are read back from their trees if there is room for their values and each number is read
back. -/
theorem readMembers_memberTrees_iff (members : List (String × Value))
    (distinct : MembersDistinct members) {room : Nat} (positive : 0 < room) :
    readMembers room (memberTrees members) = .ok members ↔
      membersNesting members < room ∧
        ∀ n ∈ memberNumbers members, n.text.numeral.toNumber = .ok n := by
  match members with
  | [] => simp [memberTrees, readMembers, membersNesting, memberNumbers, positive]
  | (k, v) :: rest =>
    have first := read_tree_iff v distinct.1 positive
    have later := readMembers_memberTrees_iff rest distinct.2 positive
    rw [memberTrees, readMembers_cons_ok_iff, membersNesting, memberNumbers,
      List.forall_mem_append, max_lt_iff, and_and_and_comm, ← first, ← later]
    constructor
    · rintro ⟨_, _, head, tail, ⟨⟩⟩
      exact ⟨head, tail⟩
    · rintro ⟨head, tail⟩
      exact ⟨v, rest, head, tail, rfl⟩

end

mutual

/-- Nothing is read from a tree that nests too deep. -/
theorem nesting_lt_of_read (v : Value) {room : Nat} (positive : 0 < room) {w : Value}
    (read : v.tree.read room = .ok w) : v.nesting < room := by
  match v with
  | .null | .bool _ | .number _ | .string _ => exact positive
  | .array items =>
    obtain ⟨large, vs, read, -⟩ := read_array_ok_iff.mp read
    have inner := itemsNesting_lt_of_read items (by omega) read
    rw [nesting]
    omega
  | .object members =>
    obtain ⟨large, ms, read, -⟩ := read_object_ok_iff.mp read
    have inner := membersNesting_lt_of_read members (by omega) read
    rw [nesting]
    omega

/-- Items whose trees are read nest less deep than there is room. -/
theorem itemsNesting_lt_of_read (items : List Value) {room : Nat} (positive : 0 < room)
    {vs : List Value} (read : readItems room (itemTrees items) = .ok vs) :
    itemsNesting items < room := by
  match items with
  | [] => exact positive
  | v :: rest =>
    obtain ⟨w, ws, first, later, -⟩ := readItems_cons_ok_iff.mp read
    exact max_lt (nesting_lt_of_read v positive first) (itemsNesting_lt_of_read rest positive later)

/-- Members whose trees are read nest less deep than there is room. -/
theorem membersNesting_lt_of_read (members : List (String × Value)) {room : Nat}
    (positive : 0 < room) {ms : List (String × Value)}
    (read : readMembers room (memberTrees members) = .ok ms) : membersNesting members < room := by
  match members with
  | [] => exact positive
  | (k, v) :: rest =>
    obtain ⟨w, ws, first, later, -⟩ := readMembers_cons_ok_iff.mp read
    exact max_lt (nesting_lt_of_read v positive first)
      (membersNesting_lt_of_read rest positive later)

end

mutual

/-- What is written breaks nowhere off, so a fault in it is one of nesting or of a number. -/
theorem fault_of_read (v : Value) {room : Nat} {fault : Fault}
    (failed : v.tree.read room = .error fault) : fault = .malformed := by
  match v with
  | .null | .bool _ | .string _ => cases failed
  | .number n =>
    simp only [tree, Tree.read, bind, Except.bind] at failed
    split at failed <;> cases failed
    exact Numeral.fault_of_toNumber ‹_›
  | .array items =>
    simp only [tree, Tree.read, bind, Except.bind] at failed
    split at failed
    · cases failed
      rfl
    · cases inner : readItems (room - 1) (itemTrees items) with
      | ok vs =>
        rw [inner] at failed
        cases failed
      | error fault' =>
        rw [inner] at failed
        cases failed
        exact fault_of_readItems items inner
  | .object members =>
    simp only [tree, Tree.read, bind, Except.bind] at failed
    split at failed
    · cases failed
      rfl
    · cases inner : readMembers (room - 1) (memberTrees members) with
      | ok ms =>
        rw [inner] at failed
        cases failed
      | error fault' =>
        rw [inner] at failed
        cases failed
        exact fault_of_readMembers members inner

/-- The trees of items fail to be read only as malformed. -/
theorem fault_of_readItems (items : List Value) {room : Nat} {fault : Fault}
    (failed : readItems room (itemTrees items) = .error fault) : fault = .malformed := by
  match items with
  | [] => cases failed
  | v :: rest =>
    simp only [itemTrees, readItems, bind, Except.bind] at failed
    split at failed
    · cases failed
      exact fault_of_read v ‹_›
    · split at failed <;> cases failed
      exact fault_of_readItems rest ‹_›

/-- The trees of members fail to be read only as malformed. -/
theorem fault_of_readMembers (members : List (String × Value)) {room : Nat} {fault : Fault}
    (failed : readMembers room (memberTrees members) = .error fault) : fault = .malformed := by
  match members with
  | [] => cases failed
  | (k, v) :: rest =>
    simp only [memberTrees, readMembers, readText, bind, Except.bind] at failed
    split at failed
    · cases failed
      exact fault_of_read v ‹_›
    · split at failed <;> cases failed
      exact fault_of_readMembers rest ‹_›

end

end Tree

namespace Value

/-- Reading the text of a value reads its tree. -/
theorem parse_render (v : Value) : parse v.render = v.tree.read maxNesting := by
  simp only [parse, Tree.ofText_render, bind, Except.bind]
  cases v.tree.read maxNesting <;> rfl

end Value

/-- A number is read back from its own text. -/
def Number.ReadsBack (n : Number) : Prop :=
  Value.parse (Value.number n).render = .ok (.number n)

/-- A number is read back from its text if its numeral stands for it. -/
theorem Number.readsBack_iff (n : Number) : n.ReadsBack ↔ n.text.numeral.toNumber = .ok n := by
  have distinct : (Value.number n).Distinct := trivial
  rw [ReadsBack, Value.parse_render, Tree.read_tree_iff _ distinct (by decide)]
  simp [Value.nesting, Value.numbers, maxNesting]

/-- An integer is read back. -/
theorem Number.readsBack_integer (n : Int)
    (fits : -0x8000000000000000 ≤ n ∧ n < 0x10000000000000000) :
    (Number.integer n fits).ReadsBack :=
  (readsBack_iff _).mpr (Numeral.toNumber_ofInt n fits)

/-- The double `1e-24` is not read back: the text `1e-24` is read as one divided by `1e24`, which is
rounded to a neighbour. -/
theorem Number.not_readsBack : ¬ (Number.double ⟨0x3af357c299a88ea7⟩ (by decide)).ReadsBack := by
  rw [readsBack_iff]
  decide +kernel

namespace Value

/-- The value nests few enough containers for the reader, and each double in it is read back. -/
structure Readable (v : Value) : Prop where
  nesting : v.nesting < maxNesting
  doubles : ∀ x finite, Number.double x finite ∈ v.numbers → (Number.double x finite).ReadsBack

/-- What is written is read back exactly if it is readable. -/
theorem parse_render_iff {v : Value} (distinct : v.Distinct) :
    parse v.render = .ok v ↔ v.Readable := by
  rw [parse_render, Tree.read_tree_iff v distinct (by decide)]
  constructor
  · rintro ⟨nesting, numbers⟩
    exact ⟨nesting, fun x finite mem => (Number.readsBack_iff _).mpr (numbers _ mem)⟩
  · rintro ⟨nesting, doubles⟩
    refine ⟨nesting, fun n mem => ?_⟩
    cases n with
    | integer n fits => exact Numeral.toNumber_ofInt n fits
    | double x finite => exact (Number.readsBack_iff _).mp (doubles x finite mem)

/-- What is written breaks nowhere off. -/
theorem fault_of_parse_render {v : Value} {fault : Fault} (failed : parse v.render = .error fault) :
    fault = .malformed :=
  Tree.fault_of_read v (v.parse_render ▸ failed)

/-- What nests too deep is written and cannot be read back. -/
theorem parse_render_of_deep {v : Value} (deep : maxNesting ≤ v.nesting) :
    parse v.render = .error .malformed := by
  cases read : parse v.render with
  | ok w =>
    have shallow := Tree.nesting_lt_of_read v (by decide) (v.parse_render ▸ read)
    omega
  | error fault => rw [fault_of_parse_render read]

end Value

end TableSeed.Json
