import TableSeed.Document.Reference
import TableSeed.Proofs.Commits.Log

/-!
# Qualified references

Records that are offered for different places are all accepted, and a reference that names the
group and the entry of one of them leads to it, whatever other names there are.
-/

namespace TableSeed

namespace ReferencePath

variable {separator : Char} {cs rest : List Char}

/-- A text without separators is one piece. -/
theorem splitChars_of_notMem (whole : separator ∉ cs) : splitChars separator cs = (cs, []) := by
  induction cs with
  | nil => rfl
  | cons c cs ih =>
    obtain ⟨differs, later⟩ := not_or.mp (List.mem_cons.not.mp whole)
    rw [splitChars, ih later]
    exact if_neg (Ne.symm differs)

/-- The first piece ends at the first separator. -/
theorem splitChars_append (whole : separator ∉ cs) :
    splitChars separator (cs ++ separator :: rest) =
      (cs, (splitChars separator rest).1 :: (splitChars separator rest).2) := by
  induction cs with
  | nil =>
    rw [List.nil_append, splitChars]
    exact if_pos rfl
  | cons c cs ih =>
    obtain ⟨differs, later⟩ := not_or.mp (List.mem_cons.not.mp whole)
    rw [List.cons_append, splitChars, ih later]
    exact if_neg (Ne.symm differs)

/-- A group and an entry, joined by a dot, are the path from the group to the entry. -/
theorem parse_qualified {group entry : String} (groupWhole : '.' ∉ group.toList)
    (entryWhole : '.' ∉ entry.toList) :
    parse (group ++ "." ++ entry) = ⟨group, [entry]⟩ := by
  have text : (group ++ "." ++ entry).toList = group.toList ++ '.' :: entry.toList := by simp
  rw [parse, text, ofChars, splitChars_append groupWhole, splitChars_of_notMem entryWhole]
  simp

end ReferencePath

namespace CommitLog

variable {offers : List Submission}

/-- Records for different places are all accepted. -/
theorem ofOffers_of_pairwise (apart : offers.Pairwise fun p q => ¬p.SamePlace q) :
    ofOffers offers = offers := by
  induction offers using List.reverseRecOn with
  | nil => rfl
  | append_singleton offers p ih =>
    obtain ⟨before, -, new⟩ := List.pairwise_append.mp apart
    have free : ¬∃ q ∈ offers, q.SamePlace p := by
      rintro ⟨q, mem, same⟩
      exact new q mem p (List.mem_singleton_self p) same
    rw [ofOffers, List.foldl_append, ← ofOffers, ih before]
    exact if_neg free

end CommitLog

namespace Commits

variable {offers before after : List Submission} {p : Submission}

/-- The indexes hold all records for different places. -/
theorem indexes_of_pairwise (apart : offers.Pairwise fun p q => ¬p.SamePlace q) :
    (ofOffers offers).Indexes offers := by
  have indexes := indexes_ofOffers offers
  rwa [CommitLog.ofOffers_of_pairwise apart] at indexes

/-- A record for a place of its own is accepted. -/
theorem accepts_of_pairwise
    (apart : (before ++ p :: after).Pairwise fun p q => ¬p.SamePlace q) :
    ((ofOffers before).commit p.group p.entry p.record).2 = true := by
  obtain ⟨earlier, -, new⟩ := List.pairwise_append.mp apart
  exact ((indexes_of_pairwise earlier).shows.accepts p).mpr fun q mem =>
    new q mem p List.mem_cons_self

/-- The name of a group and that of an entry lead to the record. -/
theorem resolve_qualified (apart : offers.Pairwise fun p q => ¬p.SamePlace q) (mem : p ∈ offers)
    (groupWhole : '.' ∉ p.group.toList) (entryWhole : '.' ∉ p.entry.toList) :
    (ofOffers offers).resolve (ReferencePath.parse (p.group ++ "." ++ p.entry)) =
      .ok (.object p.record) := by
  have indexes := indexes_of_pairwise apart
  rw [ReferencePath.parse_qualified groupWhole entryWhole, indexes.shows.value]
  refine ⟨.object (CommitLog.entriesOf offers p.group), if_pos ⟨p, mem, rfl⟩, ?_⟩
  exact .under (.member (indexes.get?_entriesOf mem)) (.here _)

end Commits

end TableSeed
