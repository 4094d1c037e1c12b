import Mathlib
import TableSeed.Commits.Basic

/-!
# Committed records

What is committed under a group and an entry is the record that was committed there first, whatever
is committed elsewhere or later.
-/

namespace TableSeed

namespace Commits

/-- The committed record of an entry of a group. -/
def record? (commits : Commits) (group entry : String) : Option Json.Value :=
  (commits.group? group).bind (Json.Members.get? entry)

/-- A change under one name leaves the values under the others alone. -/
theorem lookup_update {α : Type} (name other : String) (change : Option α → α)
    (entries : List (String × α)) :
    (update name change entries).lookup other =
      if other = name then some (change (entries.lookup name)) else entries.lookup other := by
  induction entries with
  | nil => by_cases here : other = name <;> simp [update, here, List.lookup_cons, beq_false_of_ne]
  | cons first rest ih =>
    obtain ⟨k, a⟩ := first
    by_cases same : k = name
    · subst same
      by_cases here : other = k
      · simp [update, here]
      · simp [update, here, List.lookup_cons, beq_false_of_ne here]
    · rw [update, if_neg same, List.lookup_cons, List.lookup_cons, List.lookup_cons, ih,
        beq_false_of_ne (Ne.symm same)]
      by_cases here : other = k
      · have apart : other ≠ name := fun equal => same (here.symm.trans equal)
        simp [here, same]
      · simp [beq_false_of_ne here]

/-- A name is found among members if one of them has it. -/
theorem isSome_get? (name : String) (members : Json.Members) :
    (Json.Members.get? name members).isSome = Json.Members.contains name members := by
  induction members with
  | nil => rfl
  | cons m rest ih =>
    rw [Json.Members.contains, List.any_cons, ← Json.Members.contains, ← ih, Json.Members.get?]
    by_cases same : m.1 = name <;> simp [same]

/-- An entry is committed if it has a record. -/
theorem contains_eq (commits : Commits) (group entry : String) :
    commits.contains group entry = (commits.record? group entry).isSome := by
  unfold contains record?
  cases commits.group? group with
  | none => rfl
  | some entries => exact (isSome_get? entry entries).symm

end Commits

end TableSeed
