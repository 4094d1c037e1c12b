import Mathlib

/-!
# Passes over a list

A pass does the same with each member of a list, from the first on, and stops at the first failure.
So either every member has a result, and the results stand in the order of the members, or the pass
fails as the first member does that fails.
-/

namespace TableSeed

variable {α β ε : Type} {f : α → Except ε β} {xs : List α} {ys : List β} {e : ε} {x : α}

/-- A mapped result is good if the result is, and is then its image. -/
theorem map_eq_ok_iff {result : Except ε α} {g : α → β} {y : β} :
    result.map g = .ok y ↔ ∃ x, result = .ok x ∧ g x = y := by
  cases result <;> simp [Except.map]

/-- Mapping a result keeps its error. -/
theorem map_eq_error_iff {result : Except ε α} {g : α → β} :
    result.map g = .error e ↔ result = .error e := by
  cases result <;> simp [Except.map]

/-- The results of a pass, in the order of the members. -/
theorem mapM_eq_ok_iff : xs.mapM f = .ok ys ↔ List.Forall₂ (fun x y => f x = .ok y) xs ys := by
  induction xs generalizing ys with
  | nil => simp [pure, Except.pure, eq_comm]
  | cons x rest ih =>
    rw [List.mapM_cons, List.forall₂_cons_left_iff]
    simp only [← ih]
    cases f x <;> cases rest.mapM f <;> simp [bind, Except.bind, pure, Except.pure, eq_comm]

/-- Every member has something beside it. -/
theorem exists_of_mem_forall₂ {R : α → β → Prop} (related : List.Forall₂ R xs ys) (mem : x ∈ xs) :
    ∃ y ∈ ys, R x y := by
  induction related with
  | nil => cases mem
  | cons first _ ih =>
    rcases List.mem_cons.mp mem with rfl | later
    · exact ⟨_, List.mem_cons_self, first⟩
    · obtain ⟨y, mem, holds⟩ := ih later
      exact ⟨y, List.mem_cons_of_mem _ mem, holds⟩

/-- All results are there exactly if each is. -/
theorem mapM_eq_ok_map_iff {g : α → β} : xs.mapM f = .ok (xs.map g) ↔ ∀ x ∈ xs, f x = .ok (g x) := by
  rw [mapM_eq_ok_iff, List.forall₂_map_right_iff, List.forall₂_same]

/-- A pass comes to its end if no member fails. -/
theorem exists_mapM_eq_ok_iff : (∃ ys, xs.mapM f = .ok ys) ↔ ∀ x ∈ xs, ∃ y, f x = .ok y := by
  induction xs with
  | nil => simp [pure, Except.pure]
  | cons x rest ih =>
    rw [List.forall_mem_cons, ← ih, List.mapM_cons]
    cases f x <;> cases rest.mapM f <;> simp [bind, Except.bind, pure, Except.pure]

/-- The failure of a pass is that of the first member that fails. -/
theorem mapM_eq_error_iff : xs.mapM f = .error e ↔
    ∃ before x after, xs = before ++ x :: after ∧ (∀ y ∈ before, ∃ z, f y = .ok z) ∧
      f x = .error e := by
  induction xs with
  | nil => simp [pure, Except.pure]
  | cons first rest ih =>
    rw [List.mapM_cons]
    constructor
    · intro failed
      cases result : f first with
      | error e' =>
        rw [result] at failed
        cases failed
        exact ⟨[], first, rest, rfl, fun _ mem => absurd mem List.not_mem_nil, result⟩
      | ok y =>
        cases others : rest.mapM f with
        | ok ys => simp [result, others, bind, Except.bind, pure, Except.pure] at failed
        | error e' =>
          rw [result, others] at failed
          cases failed
          obtain ⟨before, x, after, rfl, fine, failed⟩ := ih.mp others
          exact ⟨first :: before, x, after, rfl, List.forall_mem_cons.mpr ⟨⟨y, result⟩, fine⟩, failed⟩
    · rintro ⟨before, x, after, split, fine, failed⟩
      cases before with
      | nil =>
        obtain ⟨rfl, rfl⟩ := List.cons.inj split
        rw [failed]
        rfl
      | cons m before =>
        obtain ⟨rfl, rfl⟩ := List.cons.inj split
        obtain ⟨⟨y, result⟩, fine⟩ := List.forall_mem_cons.mp fine
        rw [result, ih.mpr ⟨before, x, after, rfl, fine, failed⟩]
        rfl

/-- A pass that fails fails as some member does. -/
theorem exists_of_mapM_error (failed : xs.mapM f = .error e) : ∃ x ∈ xs, f x = .error e := by
  obtain ⟨before, x, after, rfl, -, failed⟩ := mapM_eq_error_iff.mp failed
  exact ⟨x, List.mem_append_right _ List.mem_cons_self, failed⟩

/-- One failure is that of the whole pass, if no other failure is possible. -/
theorem mapM_eq_error (mem : x ∈ xs) (failed : f x = .error e)
    (only : ∀ y ∈ xs, ∀ e', f y = .error e' → e' = e) : xs.mapM f = .error e := by
  cases result : xs.mapM f with
  | ok ys =>
    obtain ⟨y, fine⟩ := exists_mapM_eq_ok_iff.mp ⟨ys, result⟩ x mem
    rw [failed] at fine
    cases fine
  | error e' =>
    obtain ⟨y, mem, failed⟩ := exists_of_mapM_error result
    rw [only y mem e' failed]

end TableSeed
