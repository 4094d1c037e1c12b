import Std.Data.DTreeMap.Internal.WF.Lemmas
import TableSeed.Proofs.Lua.KeyOrder
import TableSeed.Lua.Table

/-!
# Entries of a table

The entry that a walk over the hash part comes to next is one that is stored there.
-/

namespace TableSeed.Lua

namespace Table

open Std.DTreeMap.Internal (Impl)

/-- The next larger entry of a tree is one of the tree, or the best one found before. -/
theorem mem_toListModel_of_later [Ord Key] {k : Key} {t : Impl Key fun _ => Value}
    {best : Option (Key × Value)} {e : Key × Value}
    (found : Impl.Const.getEntryGT?.go k best t = some e) :
    best = some e ∨ ⟨e.1, e.2⟩ ∈ t.toListModel := by
  induction t generalizing best with
  | leaf => exact .inl found
  | inner size key value left right leftIh rightIh =>
    rw [Impl.Const.getEntryGT?.go] at found
    rw [Impl.toListModel_inner, List.mem_append, List.mem_cons]
    cases order : compare k key with
    | lt =>
      rw [order] at found
      rcases leftIh found with here | there
      · cases here
        exact .inr (.inr (.inl rfl))
      · exact .inr (.inl there)
    | eq | gt =>
      rw [order] at found
      exact (rightIh found).imp_right fun there => .inr (.inr there)

/-- The least entry of a tree is one of the tree. -/
theorem mem_toListModel_of_first {t : Impl Key fun _ => Value} {e : Key × Value}
    (found : Impl.Const.minEntry? t = some e) : ⟨e.1, e.2⟩ ∈ t.toListModel := by
  induction t with
  | leaf => rw [Impl.Const.minEntry?] at found; cases found
  | inner size key value left right leftIh rightIh =>
    rw [Impl.toListModel_inner, List.mem_append, List.mem_cons]
    cases left with
    | leaf =>
      rw [Impl.Const.minEntry?] at found
      cases found
      exact .inr (.inl rfl)
    | inner =>
      rw [Impl.Const.minEntry?] at found
      exact .inl (leftIh found)

/-- What is stored under a key stands in the list of all entries. -/
theorem getElem?_of_mem_toListModel {m : Std.TreeMap Key Value Key.order} {k : Key} {v : Value}
    (mem : ⟨k, v⟩ ∈ m.inner.inner.toListModel) : m[k]? = some v := by
  rw [← Std.TreeMap.mem_toList_iff_getElem?_eq_some]
  change (k, v) ∈ Impl.Const.toList m.inner.inner
  rw [Impl.Const.toList_eq_toListModel_map]
  exact List.mem_map.mpr ⟨⟨k, v⟩, mem, rfl⟩

/-- The next entry of a map is in the map. -/
theorem getElem?_of_later {m : Std.TreeMap Key Value Key.order} {k : Key} {e : Key × Value}
    (found : m.getEntryGT? k = some e) : m[e.1]? = some e.2 :=
  letI : Ord Key := ⟨Key.order⟩
  getElem?_of_mem_toListModel
    ((mem_toListModel_of_later (k := k) found).resolve_left nofun)

/-- The first entry of a map is in the map. -/
theorem getElem?_of_first {m : Std.TreeMap Key Value Key.order} {e : Key × Value}
    (found : m.minEntry? = some e) : m[e.1]? = some e.2 :=
  getElem?_of_mem_toListModel (mem_toListModel_of_first found)

end Table

end TableSeed.Lua
