import TableSeed.Proofs.Document.Templates

/-!
# What a document value is classified as

A text is an expression if it starts with `=`, a reference if it starts with `->`, and stands for
itself otherwise; a list and an object are classified part by part. The path of a reference has one
segment more than its text has dots. So a template has expressions exactly where a text inside the
document value starts with `=`, at whatever depth.
-/

namespace TableSeed

open Json (Value Members)

/-- A value stands somewhere inside another, or is it. The names of members are no values. -/
inductive Json.Value.Inside (w : Value) : Value → Prop
  | here : Inside w w
  | item {v : Value} {items : List Value} : v ∈ items → Inside w v → Inside w (.array items)
  | member {m : String × Value} {members : Members} :
    m ∈ members → Inside w m.2 → Inside w (.object members)

namespace Json.Value

variable {v : Value} {items : List Value} {members : Members}

/-- The only text in a text is the text itself. -/
theorem inside_string_iff {s t : String} : Inside (.string t) (.string s) ↔ s = t := by
  constructor
  · intro inside
    cases inside
    rfl
  · intro same
    rw [same]
    exact .here

/-- A text is in an array if it is in one of the items. -/
theorem inside_array_iff {t : String} :
    Inside (.string t) (.array items) ↔ ∃ v ∈ items, Inside (.string t) v := by
  constructor
  · intro inside
    cases inside with
    | item mem inside => exact ⟨_, mem, inside⟩
  · rintro ⟨v, mem, inside⟩
    exact .item mem inside

/-- A text is in an object if it is in the value of one of the members. -/
theorem inside_object_iff {t : String} :
    Inside (.string t) (.object members) ↔ ∃ m ∈ members, Inside (.string t) m.2 := by
  constructor
  · intro inside
    cases inside with
    | member mem inside => exact ⟨_, mem, inside⟩
  · rintro ⟨m, mem, inside⟩
    exact .member mem inside

end Json.Value

namespace ReferencePath

/-- The root and the fields. -/
def segments (path : ReferencePath) : List String := path.root :: path.fields

/-- A text has one piece more than it has separators. -/
theorem length_splitChars (separator : Char) (cs : List Char) :
    (splitChars separator cs).2.length = cs.count separator := by
  induction cs with
  | nil => rfl
  | cons c rest ih =>
    rw [splitChars, List.count_cons]
    dsimp only
    by_cases here : c = separator
    · rw [if_pos here, if_pos (beq_iff_eq.mpr here), List.length_cons, ih]
    · rw [if_neg here, if_neg (mt beq_iff_eq.mp here), ih, Nat.add_zero]

/-- A path has one segment more than its text has points. -/
theorem length_segments (text : String) :
    (parse text).segments.length = text.toList.count '.' + 1 := by
  have pieces := length_splitChars '.' text.toList
  rw [segments, List.length_cons, parse, ofChars, List.length_map, pieces]

/-- Pieces with separators between them. -/
theorem intercalate_cons (separator : Char) (first : List Char) (others : List (List Char)) :
    [separator].intercalate (first :: others) = first ++ joinChars separator others := by
  induction others generalizing first with
  | nil => rw [List.intercalate_singleton, joinChars, List.append_nil]
  | cons piece rest ih =>
    rw [List.intercalate_cons_cons, ih, joinChars]
    simp

/-- The segments with dots between them are the text. -/
theorem intercalate_segments (text : String) : ".".intercalate (parse text).segments = text := by
  have joined : (".".intercalate (parse text).segments).toList = (parse text).toChars := by
    rw [String.toList_intercalate, segments, List.map_cons]
    exact intercalate_cons '.' _ _
  have back : (parse text).toChars = text.toList := toChars_ofChars text.toList
  exact String.toList_inj.mp (joined.trans back)

end ReferencePath

namespace Template

variable {s : String}

/-- A text starts with given characters if it is made of them and a rest. -/
theorem eq_append_iff (cs : List Char) {text : String} : s.toList = cs ++ text.toList ↔
    s = String.ofList cs ++ text := by
  rw [← String.toList_inj, String.toList_append, String.toList_ofList]

/-- The texts that start with an equals sign stand for expressions, and the rest is the source. -/
theorem ofString_eq_expression_iff {source : String} :
    ofString s = .expression source ↔ s = "=" ++ source := by
  have marked : s.toList = '=' :: source.toList ↔ s = "=" ++ source := eq_append_iff ['=']
  rw [← marked]
  unfold ofString
  split
  · rename_i cs chars
    rw [chars, expression.injEq, List.cons_eq_cons, and_iff_right rfl, ← String.toList_inj,
      String.toList_ofList]
  · rename_i cs chars
    rw [chars]
    simp
  · rename_i other _
    simp only [reduceCtorEq, false_iff]
    exact other source.toList

/-- The texts that start with an arrow stand for references, and the rest is the path. -/
theorem ofString_eq_reference_iff {path : ReferencePath} :
    ofString s = .reference path ↔ ∃ text, s = "->" ++ text ∧ path = .parse text := by
  have marked (text : String) : s.toList = '-' :: '>' :: text.toList ↔ s = "->" ++ text :=
    eq_append_iff ['-', '>']
  simp only [← marked]
  unfold ofString
  split
  · rename_i cs chars
    rw [chars]
    simp
  · rename_i cs chars
    rw [chars, reference.injEq]
    constructor
    · intro same
      refine ⟨String.ofList cs, ?_, ?_⟩
      · rw [String.toList_ofList]
      · rw [ReferencePath.parse, String.toList_ofList, same]
    · rintro ⟨text, same, rfl⟩
      obtain ⟨-, same⟩ := List.cons_eq_cons.mp same
      obtain ⟨-, same⟩ := List.cons_eq_cons.mp same
      rw [ReferencePath.parse, same]
  · rename_i _ other
    simp only [reduceCtorEq, false_iff]
    rintro ⟨text, same, -⟩
    exact other text.toList same

/-- The texts without a mark stand for themselves. -/
theorem ofString_eq_literal_iff {v : Value} : ofString s = .literal v ↔
    v = .string s ∧ ¬ "=".toList <+: s.toList ∧ ¬ "->".toList <+: s.toList := by
  unfold ofString
  split
  · rename_i cs chars
    rw [chars]
    have marked : "=".toList <+: '=' :: cs := List.prefix_append ['='] cs
    simp only [reduceCtorEq, marked, not_true, false_and, and_false]
  · rename_i cs chars
    rw [chars]
    have marked : "->".toList <+: '-' :: '>' :: cs := List.prefix_append ['-', '>'] cs
    simp only [reduceCtorEq, marked, not_true, and_false]
  · rename_i expression reference
    have unmarked : ¬ "=".toList <+: s.toList ∧ ¬ "->".toList <+: s.toList := by
      constructor
      · rintro ⟨cs, chars⟩
        exact expression cs chars.symm
      · rintro ⟨cs, chars⟩
        exact reference cs chars.symm
    rw [literal.injEq, and_iff_left unmarked, eq_comm]

/-- Items are classified one by one. -/
theorem classifyItems_eq (items : List Value) : classifyItems items = items.map classify := by
  induction items with
  | nil => rfl
  | cons v rest ih => rw [classifyItems, ih, List.map_cons]

/-- The values of members are classified one by one, under their names. -/
theorem classifyMembers_eq (members : Members) :
    classifyMembers members = members.map fun m => (m.1, classify m.2) := by
  induction members with
  | nil => rfl
  | cons m rest ih => rw [classifyMembers, ih, List.map_cons]

/-- Some item has an expression if an item has one. -/
theorem anyHasExpressions_eq (items : List Template) :
    anyHasExpressions items = items.any hasExpressions := by
  induction items with
  | nil => rfl
  | cons t rest ih => rw [anyHasExpressions, ih, List.any_cons]

/-- Some field has an expression if the template of a field has one. -/
theorem anyFieldHasExpressions_eq (fields : List (String × Template)) :
    anyFieldHasExpressions fields = fields.any fun field => field.2.hasExpressions := by
  induction fields with
  | nil => rfl
  | cons field rest ih => rw [anyFieldHasExpressions, ih, List.any_cons]

/-- A text has an expression if it starts with an equals sign. -/
theorem hasExpressions_ofString_iff :
    (ofString s).hasExpressions = true ↔ ∃ source, s = "=" ++ source := by
  constructor
  · intro has
    unfold ofString at has
    split at has
    · rename_i cs chars
      refine ⟨String.ofList cs, (eq_append_iff _).mp ?_⟩
      rw [chars, String.toList_ofList]
      rfl
    · cases has
    · cases has
  · rintro ⟨source, marked⟩
    rw [ofString_eq_expression_iff.mpr marked]
    rfl

/-- A template has expressions exactly if a text inside the value starts with their mark. -/
theorem hasExpressions_classify_iff (v : Value) :
    (classify v).hasExpressions = true ↔ ∃ source, Value.Inside (.string ("=" ++ source)) v := by
  have scalar {v : Value} (plain : (classify v).hasExpressions = false)
      (none : ∀ t, ¬ Value.Inside (.string t) v) :
      (classify v).hasExpressions = true ↔ ∃ source, Value.Inside (.string ("=" ++ source)) v := by
    rw [plain]
    exact iff_of_false Bool.false_ne_true fun ⟨source, inside⟩ => none _ inside
  induction v using Value.parts_induction with
  | null | bool | number =>
    apply scalar rfl
    intro t inside
    cases inside
  | string s =>
    rw [classify, hasExpressions_ofString_iff]
    simp only [Value.inside_string_iff]
  | array items each =>
    rw [classify, hasExpressions, classifyItems_eq, anyHasExpressions_eq, List.any_map,
      List.any_eq_true]
    constructor
    · rintro ⟨v, mem, has⟩
      obtain ⟨source, inside⟩ := (each v mem).mp has
      exact ⟨source, .item mem inside⟩
    · rintro ⟨source, inside⟩
      obtain ⟨v, mem, inside⟩ := Value.inside_array_iff.mp inside
      exact ⟨v, mem, (each v mem).mpr ⟨source, inside⟩⟩
  | object members each =>
    rw [classify, hasExpressions, classifyMembers_eq, anyFieldHasExpressions_eq, List.any_map,
      List.any_eq_true]
    constructor
    · rintro ⟨m, mem, has⟩
      obtain ⟨source, inside⟩ := (each m mem).mp has
      exact ⟨source, .member mem inside⟩
    · rintro ⟨source, inside⟩
      obtain ⟨m, mem, inside⟩ := Value.inside_object_iff.mp inside
      exact ⟨m, mem, (each m mem).mpr ⟨source, inside⟩⟩

/-- Classifying a value loses nothing of it, and its marked form is classified as it was. A text is an
expression, a reference or itself by the mark that it starts with; lists and objects are classified
part by part, in order. The path of a reference has one segment more than its text has dots, and its
segments with dots between them are the text. The template has expressions exactly if a text inside
the value starts with their mark. -/
theorem classify_loses_nothing (v : Value) :
    (classify v).raw = v ∧ classify (classify v).raw = classify v ∧
    ((classify v).hasExpressions = true ↔
      ∃ source, Value.Inside (.string ("=" ++ source)) v) ∧
    (∀ s source, classify (.string s) = .expression source ↔ s = "=" ++ source) ∧
    (∀ s path, classify (.string s) = .reference path ↔
      ∃ text, s = "->" ++ text ∧ path = .parse text) ∧
    (∀ s w, classify (.string s) = .literal w ↔
      w = .string s ∧ ¬ "=".toList <+: s.toList ∧ ¬ "->".toList <+: s.toList) ∧
    (∀ items, classify (.array items) = .sequence (items.map classify)) ∧
    (∀ members, classify (.object members) = .object (members.map fun m => (m.1, classify m.2))) ∧
    (∀ text, (ReferencePath.parse text).segments.length = text.toList.count '.' + 1 ∧
      ".".intercalate (ReferencePath.parse text).segments = text) := by
  have back : (classify v).raw = v := raw_classify v
  refine ⟨back, congrArg classify back, hasExpressions_classify_iff v,
    fun _ _ => ofString_eq_expression_iff, fun _ _ => ofString_eq_reference_iff,
    fun _ _ => ofString_eq_literal_iff, ?_, ?_, ?_⟩
  · intro items
    rw [classify, classifyItems_eq]
  · intro members
    rw [classify, classifyMembers_eq]
  · intro text
    exact ⟨ReferencePath.length_segments text, ReferencePath.intercalate_segments text⟩

end Template

end TableSeed
