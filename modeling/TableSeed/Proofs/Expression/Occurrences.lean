import TableSeed.Proofs.Expression.Marking

/-!
# Where underscores are inserted

A source is looked at from left to right: the first self-reference is replaced, and the search goes on
after the delimiter that belongs to it. That comes to the same as one underscore before each place
where a self-reference occurs, whatever occurs before it. An underscore belongs to a word, so a source
that is marked has no self-reference left.
-/

namespace TableSeed.SelfReference

variable {before : Option Char} {c delimiter : Char} {cs rest front back after out : List Char}

/-- Whether a character ends a self-reference. -/
def IsDelimiter (c : Char) : Prop := c = '.' ∨ c = '['

/-- A self-reference occurs at a place of a text: the text `this` with a delimiter after it and no word
character before it. -/
def Occurs (cs : List Char) (i : Nat) : Prop :=
  ∃ before delimiter after, cs = before ++ "this".toList ++ delimiter :: after ∧ before.length = i ∧
    IsDelimiter delimiter ∧ ∀ c ∈ before.getLast?, Text.isWordCharacter c = false

/-- A text with the self-references replaced one after another. The first one is replaced, and the
search goes on after its delimiter, before which nothing is looked at again. -/
inductive Replaces : Option Char → List Char → List Char → Prop
  | none {before : Option Char} {cs : List Char} : ¬ BeginsIn before cs [] → Replaces before cs cs
  | first {before : Option Char} {front rest out : List Char} {delimiter : Char} :
    IsDelimiter delimiter →
    marksHere (front.getLast?.or before) ("this".toList ++ delimiter :: rest) = true →
    ¬ BeginsIn before front ("this".toList ++ delimiter :: rest) →
    Replaces (some delimiter) rest out →
    Replaces before (front ++ ("this".toList ++ delimiter :: rest))
      (front ++ ("_this".toList ++ delimiter :: out))

/-! ## One self-reference -/

/-- A self-reference starts with the text `this` and a delimiter. -/
theorem startsHere_iff : startsHere cs = true ↔
    ∃ delimiter after, cs = "this".toList ++ delimiter :: after ∧ IsDelimiter delimiter := by
  constructor
  · intro starts
    unfold startsHere at starts
    split at starts
    · rename_i delimiter after
      have ends : IsDelimiter delimiter := by
        simpa [IsDelimiter] using starts
      exact ⟨delimiter, after, rfl, ends⟩
    · cases starts
  · rintro ⟨delimiter, after, rfl, point | bracket⟩
    · rw [point]
      rfl
    · rw [bracket]
      rfl

/-- A delimiter is not the letter that begins a self-reference. -/
theorem IsDelimiter.ne (ends : IsDelimiter delimiter) : delimiter ≠ 't' := by
  obtain rfl | rfl := ends <;> decide

/-- A delimiter is no word character. -/
theorem IsDelimiter.not_isWordCharacter (ends : IsDelimiter delimiter) :
    Text.isWordCharacter delimiter = false := by
  obtain rfl | rfl := ends <;> decide

/-- A self-reference is marked where the text `this` has a delimiter after it and no word character
before it. -/
theorem marksHere_iff : marksHere before cs = true ↔
    (∃ delimiter after, cs = "this".toList ++ delimiter :: after ∧ IsDelimiter delimiter) ∧
      ∀ c ∈ before, Text.isWordCharacter c = false := by
  have outside : (!before.any Text.isWordCharacter) = true ↔
      ∀ c ∈ before, Text.isWordCharacter c = false := by
    cases before <;> simp
  rw [marksHere, Bool.and_eq_true, startsHere_iff, outside]

/-- A place of a text has a self-reference if one is marked there. -/
theorem occurs_iff (front : List Char) (nonempty : rest ≠ []) :
    Occurs (front ++ rest) front.length ↔ marksHere front.getLast? rest = true := by
  rw [marksHere_iff]
  constructor
  · rintro ⟨before, delimiter, after, text, place, ends, outside⟩
    rw [List.append_assoc] at text
    obtain ⟨rfl, rfl⟩ := List.append_inj text place.symm
    exact ⟨⟨delimiter, after, rfl, ends⟩, outside⟩
  · rintro ⟨⟨delimiter, after, rfl, ends⟩, outside⟩
    exact ⟨front, delimiter, after, (List.append_assoc _ _ _).symm, rfl, ends, outside⟩

/-- A self-reference occurs within the text. -/
theorem Occurs.lt {i : Nat} (occurs : Occurs cs i) : i < cs.length := by
  obtain ⟨before, delimiter, after, rfl, rfl, -⟩ := occurs
  simp

/-- A self-reference occurs where it is marked. -/
theorem occurs_iff_marksHere {i : Nat} :
    Occurs cs i ↔ i < cs.length ∧ marksHere (cs.take i).getLast? (cs.drop i) = true := by
  constructor
  · intro occurs
    have inside := occurs.lt
    have place : (cs.take i).length = i := List.length_take_of_le inside.le
    refine ⟨inside, (occurs_iff (cs.take i) ?_).mp ?_⟩
    · simpa using inside
    · rwa [List.take_append_drop, place]
  · rintro ⟨inside, marks⟩
    have place : (cs.take i).length = i := List.length_take_of_le inside.le
    have occurs := (occurs_iff (cs.take i) (by simpa using inside)).mpr marks
    rwa [List.take_append_drop, place] at occurs

instance (cs : List Char) (i : Nat) : Decidable (Occurs cs i) :=
  decidable_of_iff _ occurs_iff_marksHere.symm

/-- A self-reference that is marked, with the text after it. -/
theorem mark_this (ends : IsDelimiter delimiter)
    (marks : marksHere before ("this".toList ++ delimiter :: rest) = true) :
    mark before ("this".toList ++ delimiter :: rest) =
      "_this".toList ++ delimiter :: mark (some delimiter) rest := by
  have inner : mark (some 't') ('h' :: 'i' :: 's' :: delimiter :: rest) =
      'h' :: 'i' :: 's' :: delimiter :: mark (some delimiter) rest := by
    rw [mark_cons_of_ne _ (by decide), mark_cons_of_ne _ (by decide),
      mark_cons_of_ne _ (by decide), mark_cons_of_ne _ ends.ne]
  have first : marksHere before ('t' :: 'h' :: 'i' :: 's' :: delimiter :: rest) = true := marks
  change mark before ('t' :: 'h' :: 'i' :: 's' :: delimiter :: rest) = _
  rw [mark_cons, if_pos first, inner]
  rfl

/-! ## Each place by itself -/

/-- The part of a text from a place on is marked where self-references occur in the text. -/
theorem mark_eq_flatten (front rest : List Char) : mark front.getLast? rest =
    (rest.mapIdx fun i c =>
      if Occurs (front ++ rest) (front.length + i) then ['_', c] else [c]).flatten := by
  induction rest generalizing front with
  | nil => rfl
  | cons c rest ih =>
    have here : Occurs (front ++ c :: rest) (front.length + 0) ↔
        marksHere front.getLast? (c :: rest) = true := occurs_iff front (List.cons_ne_nil c rest)
    have later := ih (front ++ [c])
    rw [List.getLast?_concat, List.length_append, List.length_singleton, List.append_assoc] at later
    simp only [List.singleton_append, Nat.add_right_comm, Nat.add_assoc] at later
    rw [mark_cons, later, List.mapIdx_cons, List.flatten_cons]
    by_cases marks : marksHere front.getLast? (c :: rest) = true
    · rw [if_pos marks, if_pos (here.mpr marks)]
      rfl
    · rw [if_neg marks, if_neg (here.not.mpr marks)]
      rfl

/-- A text is marked by an underscore before each occurrence of a self-reference. -/
theorem mark_eq_flatten_none (cs : List Char) : mark none cs =
    (cs.mapIdx fun i c => if Occurs cs i then ['_', c] else [c]).flatten := by
  have whole := mark_eq_flatten [] cs
  simp only [List.nil_append, List.length_nil, Nat.zero_add] at whole
  exact whole

/-! ## The search from left to right -/

/-- Marking a text is marking it where nothing follows. -/
theorem mark_eq_markIn (before : Option Char) (cs : List Char) :
    mark before cs = markIn [] before cs := by
  have whole := mark_append before cs []
  rw [List.append_nil] at whole
  exact whole.trans (List.append_nil _)

/-- Where a self-reference begins within a text, there is a first one. -/
theorem exists_first (begins : BeginsIn before cs after) : ∃ front back, cs = front ++ back ∧
    back ≠ [] ∧ marksHere (front.getLast?.or before) (back ++ after) = true ∧
    ¬ BeginsIn before front (back ++ after) := by
  induction cs generalizing before with
  | nil =>
    obtain ⟨front, back, same, nonempty, -⟩ := begins
    exact absurd (List.append_eq_nil_iff.mp same.symm).2 nonempty
  | cons c cs ih =>
    have none : ¬ BeginsIn before [] (c :: cs ++ after) := by
      rintro ⟨front, back, same, nonempty, -⟩
      exact nonempty (List.append_eq_nil_iff.mp same.symm).2
    by_cases here : marksHere before (c :: cs ++ after) = true
    · exact ⟨[], c :: cs, rfl, List.cons_ne_nil c cs, here, none⟩
    · have later : BeginsIn (some c) cs after := (beginsIn_cons.mp begins).resolve_left here
      obtain ⟨front, back, rfl, nonempty, marks, first⟩ := ih later
      refine ⟨c :: front, back, rfl, nonempty, ?_, ?_⟩
      · rwa [getLast?_cons_or]
      · rw [beginsIn_cons, not_or]
        refine ⟨?_, first⟩
        rwa [List.cons_append, ← List.append_assoc]

/-- What the search from left to right replaces is what is marked. -/
theorem Replaces.eq_mark (replaces : Replaces before cs out) : out = mark before cs := by
  induction replaces with
  | none clean => rw [mark_eq_markIn, markIn_eq_self clean]
  | first ends marks clean _ ih => rw [mark_append, markIn_eq_self clean, mark_this ends marks, ih]

/-- Marking replaces the self-references one after another. -/
theorem replaces_mark (before : Option Char) (cs : List Char) :
    Replaces before cs (mark before cs) := by
  induction size : cs.length using Nat.strong_induction_on generalizing before cs with
  | _ n ih =>
    by_cases begins : BeginsIn before cs []
    · obtain ⟨front, back, rfl, -, marks, clean⟩ := exists_first begins
      rw [List.append_nil] at marks clean
      obtain ⟨⟨delimiter, rest, rfl, ends⟩, -⟩ := marksHere_iff.mp marks
      have shorter : rest.length < n := by
        simp at size
        omega
      have later := ih rest.length shorter (some delimiter) rest rfl
      rw [mark_append, markIn_eq_self clean, mark_this ends marks]
      exact .first ends marks clean later
    · have same := (Replaces.none begins).eq_mark
      rw [← same]
      exact .none begins

/-- The text with the self-references replaced is the marked one, and no other. -/
theorem replaces_iff : Replaces before cs out ↔ out = mark before cs := by
  constructor
  · exact Replaces.eq_mark
  · rintro rfl
    exact replaces_mark before cs

/-! ## Marking twice -/

/-- What a marked text starts with, the letter `t` and the underscore apart, the text starts with. -/
theorem prefix_mark_iff {word : List Char} (plain : ∀ d ∈ word, d ≠ 't' ∧ d ≠ '_') :
    word <+: mark before cs ↔ word <+: cs := by
  induction word generalizing before cs with
  | nil => exact iff_of_true List.nil_prefix List.nil_prefix
  | cons d word ih =>
    obtain ⟨⟨letter, underscore⟩, others⟩ := List.forall_mem_cons.mp plain
    cases cs with
    | nil => rfl
    | cons c cs =>
      by_cases same : d = c
      · subst same
        rw [mark_cons_of_ne before letter, List.cons_prefix_cons, List.cons_prefix_cons, ih others]
      · have other : ¬ d :: word <+: c :: cs := fun starts => same (List.cons_prefix_cons.mp starts).1
        refine iff_of_false ?_ other
        intro starts
        rw [mark_cons] at starts
        split_ifs at starts
        · exact underscore (List.cons_prefix_cons.mp starts).1
        · exact same (List.cons_prefix_cons.mp starts).1

/-- A self-reference starts with the letter `t`, and the rest of it stands after that. -/
theorem startsHere_cons_iff : startsHere (c :: cs) = true ↔
    c = 't' ∧ ("his.".toList <+: cs ∨ "his[".toList <+: cs) := by
  rw [startsHere_iff]
  constructor
  · rintro ⟨delimiter, after, same, rfl | rfl⟩
    · obtain ⟨rfl, rfl⟩ := List.cons.inj same
      exact ⟨rfl, .inl ⟨after, rfl⟩⟩
    · obtain ⟨rfl, rfl⟩ := List.cons.inj same
      exact ⟨rfl, .inr ⟨after, rfl⟩⟩
  · rintro ⟨rfl, ⟨after, rfl⟩ | ⟨after, rfl⟩⟩
    · exact ⟨'.', after, rfl, .inl rfl⟩
    · exact ⟨'[', after, rfl, .inr rfl⟩

/-- Whether a self-reference is marked does not depend on what is marked after its first letter. -/
theorem marksHere_mark (before : Option Char) (c : Char) (cs : List Char) :
    marksHere before (c :: mark (some c) cs) = marksHere before (c :: cs) := by
  have point : "his.".toList <+: mark (some c) cs ↔ "his.".toList <+: cs :=
    prefix_mark_iff (by simp)
  have bracket : "his[".toList <+: mark (some c) cs ↔ "his[".toList <+: cs :=
    prefix_mark_iff (by simp)
  have starts : startsHere (c :: mark (some c) cs) = startsHere (c :: cs) := by
    rw [Bool.eq_iff_iff, startsHere_cons_iff, startsHere_cons_iff, point, bracket]
  rw [marksHere, marksHere, starts]

/-- A marked text has no self-reference left: each has an underscore before it. -/
theorem mark_mark (before : Option Char) (cs : List Char) :
    mark before (mark before cs) = mark before cs := by
  induction cs generalizing before with
  | nil => rfl
  | cons c cs ih =>
    rw [mark_cons]
    split_ifs with marks
    · have inWord : ¬ marksHere (some '_') (c :: mark (some c) cs) = true := by
        rw [marksHere_iff]
        rintro ⟨-, outside⟩
        have underscore : Text.isWordCharacter '_' = true := by decide
        rw [outside '_' rfl] at underscore
        cases underscore
      rw [mark_cons_of_ne before (by decide), mark_cons, if_neg inWord, ih]
    · rw [mark_cons, marksHere_mark, if_neg marks, ih]

/-- A self-reference begins in a text if it occurs at some place of it. -/
theorem beginsIn_iff_occurs : BeginsIn none cs [] ↔ ∃ i, Occurs cs i := by
  constructor
  · rintro ⟨front, back, rfl, nonempty, marks⟩
    rw [Option.or_none, List.append_nil] at marks
    exact ⟨front.length, (occurs_iff front nonempty).mpr marks⟩
  · rintro ⟨i, occurs⟩
    obtain ⟨inside, marks⟩ := occurs_iff_marksHere.mp occurs
    refine ⟨cs.take i, cs.drop i, (List.take_append_drop i cs).symm, ?_, ?_⟩
    · simpa using inside
    · rwa [Option.or_none, List.append_nil]

/-- A text in which nothing occurs stays as it is, and no other text does. -/
theorem mark_eq_self_iff : mark none cs = cs ↔ ∀ i, ¬ Occurs cs i := by
  rw [← not_exists, ← beginsIn_iff_occurs, beginsIn_iff, not_ne_iff, ← mark_eq_markIn]

/-- Where every `this` belongs to a longer word, nothing occurs. -/
theorem not_occurs_of_words (words : ∀ before after, cs = before ++ "this".toList ++ after →
    before.getLast?.any Text.isWordCharacter = true ∨ after.head?.any Text.isWordCharacter = true)
    (i : Nat) : ¬ Occurs cs i := by
  rintro ⟨before, delimiter, after, rfl, -, ends, outside⟩
  obtain left | right := words before (delimiter :: after) rfl
  · obtain ⟨c, last, part⟩ := (Option.any_eq_true _ _).mp left
    rw [outside c last] at part
    cases part
  · rw [List.head?_cons, Option.any_some, ends.not_isWordCharacter] at right
    cases right

/-! ## Sources -/

/-- A source is rewritten by one underscore before each self-reference that occurs in it, and nothing
else changes. Replacing the first self-reference and going on after its delimiter comes to the same,
and to nothing else. A source that has been rewritten stays as it is; any source stays so exactly if
no self-reference occurs in it, as when each `this` is part of a longer word. A self-reference at the
start is rewritten, whatever comes after its delimiter. -/
theorem rewrite_inserts_underscores (source : String) :
    (rewrite source).toList = (source.toList.mapIdx fun i c =>
      if Occurs source.toList i then ['_', c] else [c]).flatten ∧
    (∀ out, Replaces none source.toList out ↔ out = (rewrite source).toList) ∧
    rewrite (rewrite source) = rewrite source ∧
    (rewrite source = source ↔ ∀ i, ¬ Occurs source.toList i) ∧
    ((∀ before after, source.toList = before ++ "this".toList ++ after →
        before.getLast?.any Text.isWordCharacter = true ∨
          after.head?.any Text.isWordCharacter = true) → rewrite source = source) ∧
    rewrite ("this." ++ source) = "_this." ++ rewrite source ∧
    rewrite ("this[" ++ source) = "_this[" ++ rewrite source := by
  have chars : (rewrite source).toList = mark none source.toList := String.toList_ofList
  have stays : rewrite source = source ↔ ∀ i, ¬ Occurs source.toList i := by
    rw [← String.toList_inj, chars, mark_eq_self_iff]
  have leading {delimiter : Char} (ends : IsDelimiter delimiter) :
      mark none ("this".toList ++ delimiter :: source.toList) =
        "_this".toList ++ delimiter :: (rewrite source).toList := by
    have marks : marksHere none ("this".toList ++ delimiter :: source.toList) = true :=
      marksHere_iff.mpr ⟨⟨delimiter, source.toList, rfl, ends⟩, nofun⟩
    rw [mark_this ends marks, mark_some ends.not_isWordCharacter, chars]
  refine ⟨?_, ?_, ?_, stays, ?_, ?_, ?_⟩
  · rw [chars]
    exact mark_eq_flatten_none source.toList
  · intro out
    rw [chars]
    exact replaces_iff
  · rw [← String.toList_inj, chars, rewrite, String.toList_ofList, chars]
    exact mark_mark none source.toList
  · intro words
    exact stays.mpr (not_occurs_of_words words)
  · rw [← String.toList_inj, rewrite, String.toList_ofList, String.toList_append,
      String.toList_append]
    exact leading (.inl rfl)
  · rw [← String.toList_inj, rewrite, String.toList_ofList, String.toList_append,
      String.toList_append]
    exact leading (.inr rfl)

/-- References next to one another are rewritten one by one; names with other letters next to them and
names that are bound stay. -/
example : rewrite "this.this.x .. thisone.y .. _this[1] .. this[this.k]" =
    "_this._this.x .. thisone.y .. _this[1] .. _this[_this.k]" := by
  decide +kernel

end TableSeed.SelfReference
