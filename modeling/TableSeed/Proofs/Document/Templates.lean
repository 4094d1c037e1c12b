import TableSeed.Document.Template
import TableSeed.Proofs.Json.Arrangement

/-!
# Templates with their marks

Classifying a document value loses nothing of it: writing the marks back gives the value, whatever it
holds. A reference is written as its segments with dots between them, and the dots of a text are
exactly where it is split.
-/

namespace TableSeed

open Json (Value Members)

/-- The pieces of a text with the separators between them are the text. -/
theorem ReferencePath.splitChars_join (separator : Char) (cs : List Char) :
    (splitChars separator cs).1 ++ joinChars separator (splitChars separator cs).2 = cs := by
  induction cs with
  | nil => rfl
  | cons c rest ih =>
    rw [splitChars]
    dsimp only
    split_ifs with here
    · rw [List.nil_append, joinChars, List.cons_append, ih, here]
    · rw [List.cons_append, ih]

/-- A path is written as the text that it was read from. -/
theorem ReferencePath.toChars_ofChars (cs : List Char) : (ofChars cs).toChars = cs := by
  rw [ofChars, toChars, String.toList_ofList, List.map_map]
  simp only [Function.comp_def, String.toList_ofList, List.map_id']
  exact splitChars_join '.' cs

namespace Template

/-- A classified text is written as the text it was. -/
theorem raw_ofString (s : String) : raw (ofString s) = .string s := by
  unfold ofString
  split
  · rename_i source marked
    rw [raw, expressionText, String.toList_ofList, expressionMarker, ← marked, String.ofList_toList]
  · rename_i path marked
    rw [raw, ReferencePath.render, ReferencePath.toChars_ofChars]
    change Value.string (String.ofList ('-' :: '>' :: path)) = _
    rw [← marked, String.ofList_toList]
  · rfl

/-- Classifying a value loses nothing of it. -/
theorem raw_classify (v : Value) : raw (classify v) = v := by
  induction v using Value.parts_induction with
  | null | bool | number => rfl
  | string s => exact raw_ofString s
  | array items each =>
    have kept : rawItems (classifyItems items) = items := by
      induction items with
      | nil => rfl
      | cons v rest ih =>
        obtain ⟨first, later⟩ := List.forall_mem_cons.mp each
        rw [classifyItems, rawItems, first, ih later]
    rw [classify, raw, kept]
  | object members each =>
    have kept : rawFields (classifyMembers members) = members := by
      induction members with
      | nil => rfl
      | cons m rest ih =>
        obtain ⟨first, later⟩ := List.forall_mem_cons.mp each
        rw [classifyMembers, rawFields, first, ih later]
    rw [classify, raw, kept]

end Template

/-- A record has the fields that it was read from. -/
theorem RecordTemplate.raw_ofMembers (members : Members) : (ofMembers members).raw = members := by
  have whole := Template.raw_classify (.object members)
  rw [Template.classify, Template.raw] at whole
  exact Value.object.inj whole

/-- A record is written under the names of its fields. -/
theorem RecordTemplate.names_raw (record : RecordTemplate) :
    Members.names record.raw = record.map Prod.fst := by
  induction record with
  | nil => rfl
  | cons field rest ih => exact congrArg (field.1 :: ·) ih

end TableSeed
