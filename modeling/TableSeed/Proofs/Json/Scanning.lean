import TableSeed.Proofs.Json.NumberTexts

/-!
# Scanning what is written

The text of a value is scanned into the tokens of the value, whatever stands before it.
-/

namespace TableSeed.Json

namespace Value

mutual

/-- The tokens of a value. -/
def tokens : Value → List Token
  | .null => [.null]
  | .bool b => [.bool b]
  | .number n => [.number n.text.numeral]
  | .string s => [.text (some s)]
  | .array items => .openArray :: (itemTokens items ++ [.closeArray])
  | .object members => .openObject :: (memberTokens members ++ [.closeObject])

/-- The tokens between the brackets of an array. -/
def itemTokens : List Value → List Token
  | [] => []
  | v :: rest => tokens v ++ (if rest.isEmpty then [] else .comma :: itemTokens rest)

/-- The tokens between the braces of an object. -/
def memberTokens : List (String × Value) → List Token
  | [] => []
  | (k, v) :: rest =>
    .text (some k) :: .colon ::
      (tokens v ++ (if rest.isEmpty then [] else .comma :: memberTokens rest))

end

end Value

namespace Token

variable {c : Char} {s : State} {read earlier : List Token}

/-- Tokens have been scanned, the last one first. The last one may be a numeral that has not come
to its end. -/
inductive State.Settled (read : List Token) : State → Prop where
  | between : Settled read { scan := .between, tokens := read }
  | numeral {p : PartialNumeral} {m : Numeral} {earlier : List Token}
      (complete : p.complete? = some m) (last : read = .number m :: earlier) :
      Settled read { scan := .numeral p, tokens := earlier }

namespace State.Settled

/-- A character that may stand after a value ends a numeral. -/
theorem step (settled : s.Settled read) (ends : EndsValue c) :
    s.step c = State.start { scan := .between, tokens := read } c := by
  cases settled with
  | between => rfl
  | @numeral p m earlier complete last =>
    subst last
    have apart : c.isDigit = false := by obtain rfl | rfl | rfl := ends <;> rfl
    simp only [State.step, State.numeral, next?_of_endsValue p ends, complete, apart,
      Bool.false_eq_true, if_false]
    cases p.stage <;> rfl

/-- A comma ends what was read before it. -/
theorem step_comma (settled : s.Settled read) :
    s.step ',' = { scan := .between, tokens := .comma :: read } :=
  settled.step (.inl rfl)

/-- A bracket ends what was read before it, and closes an array. -/
theorem step_closeArray (settled : s.Settled read) :
    s.step ']' = { scan := .between, tokens := .closeArray :: read } :=
  settled.step (.inr (.inl rfl))

/-- A brace ends what was read before it, and closes an object. -/
theorem step_closeObject (settled : s.Settled read) :
    s.step '}' = { scan := .between, tokens := .closeObject :: read } :=
  settled.step (.inr (.inr rfl))

/-- The text may end. -/
theorem finish (settled : s.Settled read) : s.finish = read.reverse := by
  cases settled with
  | between => rfl
  | numeral complete last =>
    subst last
    simp only [State.finish, complete]
    rfl

end State.Settled

/-- A character is read back from its escape. -/
theorem foldl_escapeChar (c : Char) (out : List Char) (tokens : List Token) :
    (escapeChar c).foldl State.step { scan := .text { out := out }, tokens := tokens } =
      { scan := .text { out := c :: out }, tokens := tokens } := by
  obtain control | plain := Nat.lt_or_ge c.toNat 32
  · rw [← Char.ofNat_toNat c]
    generalize c.toNat = n at control
    interval_cases n <;> rfl
  · unfold escapeChar
    split_ifs with quote backslash
    · rw [quote]
      rfl
    · rw [backslash]
      rfl
    · simp [State.step, State.text, quote, backslash, not_lt.mpr plain, PartialText.push]

/-- The characters of a quoted text are read back. -/
theorem foldl_escapes (cs out : List Char) (tokens : List Token) :
    (cs.flatMap escapeChar).foldl State.step { scan := .text { out := out }, tokens := tokens } =
      { scan := .text { out := cs.reverse ++ out }, tokens := tokens } := by
  induction cs generalizing out with
  | nil => rfl
  | cons c rest ih =>
    rw [List.flatMap_cons, List.foldl_append, foldl_escapeChar, ih, List.reverse_cons,
      List.append_assoc, List.singleton_append]

/-- A quoted text is scanned into its token. -/
theorem foldl_writeString (text : String) (tokens : List Token) :
    (writeString text).foldl State.step { scan := .between, tokens := tokens } =
      { scan := .between, tokens := .text (some text) :: tokens } := by
  have opened : State.step { scan := .between, tokens := tokens } '"' =
      { scan := .text {}, tokens := tokens } := rfl
  have closed : ∀ out, State.step { scan := .text { out := out }, tokens := tokens } '"' =
      { scan := .between, tokens := .text (some (String.ofList out.reverse)) :: tokens } :=
    fun _ => rfl
  rw [writeString, List.foldl_cons, opened, List.foldl_append, foldl_escapes, List.append_nil,
    List.foldl_cons, closed, List.reverse_reverse, String.ofList_toList, List.foldl_nil]

end Token

namespace Value

open Token

mutual

/-- The text of a value is scanned into its tokens. -/
theorem settled_write (v : Value) (earlier : List Token) :
    State.Settled (v.tokens.reverse ++ earlier)
      (v.write.foldl State.step { scan := .between, tokens := earlier }) := by
  match v with
  | .null => exact .between
  | .bool true => exact .between
  | .bool false => exact .between
  | .number n =>
    rw [write, ← n.chars_text, foldl_numeral n.proper_text, tokens]
    exact .numeral (complete?_scanned n.proper_text) rfl
  | .string s =>
    rw [write, foldl_writeString, tokens]
    exact .between
  | .array items =>
    have inner := settled_writeItems items (.openArray :: earlier)
    have opened : State.step { scan := .between, tokens := earlier } '[' =
        { scan := .between, tokens := .openArray :: earlier } := rfl
    rw [write, List.cons_append, List.foldl_cons, opened, List.foldl_append, List.foldl_cons,
      inner.step_closeArray, List.foldl_nil]
    simpa [tokens] using State.Settled.between
  | .object members =>
    have inner := settled_writeMembers members (.openObject :: earlier)
    have opened : State.step { scan := .between, tokens := earlier } '{' =
        { scan := .between, tokens := .openObject :: earlier } := rfl
    rw [write, List.cons_append, List.foldl_cons, opened, List.foldl_append, List.foldl_cons,
      inner.step_closeObject, List.foldl_nil]
    simpa [tokens] using State.Settled.between

/-- The items of an array are scanned into their tokens. -/
theorem settled_writeItems (items : List Value) (earlier : List Token) :
    State.Settled ((itemTokens items).reverse ++ earlier)
      ((writeItems items).foldl State.step { scan := .between, tokens := earlier }) := by
  match items with
  | [] => exact .between
  | v :: rest =>
    have first := settled_write v earlier
    rw [writeItems, List.foldl_append, itemTokens]
    cases rest with
    | nil => simpa using first
    | cons w rest =>
      have later := settled_writeItems (w :: rest) (.comma :: (v.tokens.reverse ++ earlier))
      rw [List.isEmpty_cons, if_neg Bool.false_ne_true, if_neg Bool.false_ne_true, List.foldl_cons,
        first.step_comma]
      simpa using later

/-- The members of an object are scanned into their tokens. -/
theorem settled_writeMembers (members : List (String × Value)) (earlier : List Token) :
    State.Settled ((memberTokens members).reverse ++ earlier)
      ((writeMembers members).foldl State.step { scan := .between, tokens := earlier }) := by
  match members with
  | [] => exact .between
  | (k, v) :: rest =>
    have first := settled_write v (.colon :: .text (some k) :: earlier)
    have colon : State.step { scan := .between, tokens := .text (some k) :: earlier } ':' =
        { scan := .between, tokens := .colon :: .text (some k) :: earlier } := rfl
    rw [writeMembers, List.append_assoc, List.foldl_append, foldl_writeString, List.cons_append,
      List.foldl_cons, colon, List.foldl_append, memberTokens]
    cases rest with
    | nil => simpa using first
    | cons w rest =>
      have later := settled_writeMembers (w :: rest)
        (.comma :: (v.tokens.reverse ++ .colon :: .text (some k) :: earlier))
      rw [List.isEmpty_cons, if_neg Bool.false_ne_true, if_neg Bool.false_ne_true, List.foldl_cons,
        first.step_comma]
      simpa using later

end

/-- The text of a value holds its tokens. -/
theorem ofChars_write (v : Value) : Token.ofChars v.write = v.tokens := by
  have scanned := (v.settled_write []).finish
  rwa [List.append_nil, List.reverse_reverse] at scanned

end Value

end TableSeed.Json
