import TableSeed.Text.WordCharacter

/-!
# Self-references

Expressions write `this` for the record they stand in, but the record is bound as `_this`. An
underscore is put before every `this` that a point or a bracket follows and no word character
precedes. The source is taken as plain text, so this also happens inside quotes and comments.
-/

namespace TableSeed.SelfReference

/-- Whether the text starts with `this` and a point or an opening bracket. -/
def startsHere : List Char → Bool
  | 't' :: 'h' :: 'i' :: 's' :: c :: _ => c = '.' || c = '['
  | _ => false

/-- The text with its self-references marked, where `before` is the character before it. -/
def mark (before : Option Char) : List Char → List Char
  | [] => []
  | c :: rest =>
    if startsHere (c :: rest) && !before.any Text.isWordCharacter then
      '_' :: c :: mark (some c) rest
    else c :: mark (some c) rest

/-- A source with its self-references marked. -/
def rewrite (source : String) : String := String.ofList (mark none source.toList)

end TableSeed.SelfReference
