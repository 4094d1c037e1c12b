import TableSeed.Proofs.Commits.Log
import TableSeed.Proofs.Json.Members

/-!
# The order of commits

The records of one group may be committed in any order. It shows in the object of the group's
entries, and nowhere else: every reference that goes on from a group to one of its entries, or that
starts at an entry, has the same value or fails for the same reason.
-/

namespace TableSeed

namespace Json.Members

variable {members others : Members} {name : String}

/-- A name is found where it stands, whatever the order of the members. -/
theorem Distinct.get?_perm (distinct : Distinct members) (perm : others.Perm members) :
    get? name others = get? name members := by
  have distinct' : Distinct others := (perm.map Prod.fst).nodup_iff.mpr distinct
  refine Option.ext fun v => ⟨fun found => ?_, fun found => ?_⟩
  · exact distinct.get?_of_mem (perm.mem_iff.mp (mem_of_get? found))
  · exact distinct'.get?_of_mem (perm.mem_iff.mpr (mem_of_get? found))

end Json.Members

namespace CommitLog

variable {log log' : CommitLog} {offers offers' : List Submission}

/-- Two logs have the same records, and those of one entry key stand in the same order. -/
structure Reordered (log log' : CommitLog) : Prop where
  perm : log'.Perm log
  keys : ∀ key, log'.filter (·.entry = key) = log.filter (·.entry = key)

/-- Records for different places are accepted where the log has none. -/
theorem foldl_offer (log : CommitLog) (apart : offers.Pairwise fun p q => ¬p.SamePlace q) :
    offers.foldl offer log = log ++ offers.filter fun p => ¬∃ q ∈ log, q.SamePlace p := by
  induction offers generalizing log with
  | nil => simp
  | cons p rest ih =>
    obtain ⟨new, later⟩ := List.pairwise_cons.mp apart
    rw [List.foldl_cons, ih _ later, offer, List.filter_cons]
    by_cases known : ∃ q ∈ log, q.SamePlace p
    · simp [known]
    · rw [if_neg known, if_pos (by simpa using known), List.append_assoc, List.singleton_append]
      refine congrArg (log ++ p :: ·) (List.filter_congr fun q mem => ?_)
      simp [or_and_right, exists_or, new q mem]

/-- Records for different entry keys may be offered in any order. Of one key there is one record at
most, so there is no order to differ in. -/
theorem Reordered.foldl_offer (same : log.Reordered log') (perm : offers'.Perm offers)
    (keys : (offers.map (·.entry)).Nodup) :
    (offers.foldl offer log).Reordered (offers'.foldl offer log') := by
  have apart : offers.Pairwise fun p q => ¬p.SamePlace q :=
    (List.pairwise_map.mp keys).imp fun differs here => differs here.2
  have apart' : offers'.Pairwise fun p q => ¬p.SamePlace q :=
    perm.symm.pairwise apart fun differs here => differs ⟨here.1.symm, here.2.symm⟩
  have accepted (p : Submission) :
      (∃ q ∈ log', q.SamePlace p) ↔ ∃ q ∈ log, q.SamePlace p := by
    simp only [same.perm.mem_iff]
  rw [CommitLog.foldl_offer log apart, CommitLog.foldl_offer log' apart']
  simp only [accepted]
  have added := perm.filter fun p => ¬∃ q ∈ log, q.SamePlace p
  refine ⟨same.perm.append added, fun key => ?_⟩
  rw [List.filter_append, List.filter_append, same.keys]
  refine congrArg (List.filter _ log ++ ·) ?_
  have alone (offers : List Submission) (keys : offers.Pairwise fun p q => p.entry ≠ q.entry) :
      (offers.filter fun p => p.entry = key).Pairwise fun _ _ => False :=
    (List.Pairwise.and_mem.mp (keys.filter _)).imp fun ⟨p, q, differs⟩ =>
      differs (by simp only [List.mem_filter, decide_eq_true_eq] at p q; rw [p.2, q.2])
  have single := alone _ ((List.pairwise_map.mp keys).filter fun p =>
    ¬∃ q ∈ log, q.SamePlace p)
  have single' := alone _ ((List.pairwise_map.mp ((perm.map (·.entry)).nodup_iff.mpr keys)).filter
    fun p => ¬∃ q ∈ log, q.SamePlace p)
  exact (added.filter _).eq_of_pairwise (fun _ _ _ _ impossible _ => impossible.elim) single' single

end CommitLog

namespace Commits

/-- Both indexes follow the log while records are committed. -/
theorem Indexes.foldl_commit {commits : Commits} {log : CommitLog} (h : commits.Indexes log)
    (offers : List Submission) :
    (offers.foldl (fun commits p => (commits.commit p.group p.entry p.record).1) commits).Indexes
      (offers.foldl CommitLog.offer log) := by
  induction offers generalizing commits log with
  | nil => exact h
  | cons p rest ih => exact ih (h.commit p)

/-- A group has one object under each entry key. -/
theorem Indexes.distinct_entriesOf {commits : Commits} {log : CommitLog} (h : commits.Indexes log)
    (group : String) : Json.Members.Distinct (log.entriesOf group) := by
  rw [Json.Members.Distinct, Json.Members.names, CommitLog.entriesOf, List.map_map]
  refine List.pairwise_map.mpr ((List.Pairwise.and_mem.mp (h.distinct.filter _)).imp ?_)
  rintro p q ⟨here, here', apart⟩ same
  simp only [List.mem_filter, decide_eq_true_eq] at here here'
  exact apart ⟨here.2.trans here'.2.symm, same⟩

/-- The records of the named groups are committed in two orders, which differ inside of groups
only. -/
def Reordered (names : List String) (commits commits' : Commits) : Prop :=
  ∃ log log', commits.Indexes log ∧ commits'.Indexes log' ∧ log.Reordered log' ∧
    ∀ p ∈ log, p.group ∈ names

section Reordered

variable {names : List String} {commits commits' : Commits} {offers offers' : List Submission}
  {name : String}

/-- Empty indexes are the same in any order. -/
theorem reordered_empty (names : List String) : Reordered names {} {} :=
  ⟨[], [], .empty, .empty, ⟨.nil, fun _ => rfl⟩, nofun⟩

/-- The records of a group may be committed in any order. -/
theorem Reordered.foldl_commit (same : commits.Reordered names commits')
    (perm : offers'.Perm offers) (group : ∀ p ∈ offers, p.group = name) (known : name ∈ names)
    (keys : (offers.map (·.entry)).Nodup) :
    (offers.foldl (fun commits p => (commits.commit p.group p.entry p.record).1) commits).Reordered
      names
      (offers'.foldl (fun commits p => (commits.commit p.group p.entry p.record).1) commits') := by
  obtain ⟨log, log', indexes, indexes', reordered, named⟩ := same
  have apart : offers.Pairwise fun p q => ¬p.SamePlace q :=
    (List.pairwise_map.mp keys).imp fun differs here => differs here.2
  refine ⟨_, _, indexes.foldl_commit offers, indexes'.foldl_commit offers',
    reordered.foldl_offer perm keys, fun p mem => ?_⟩
  rw [CommitLog.foldl_offer log apart, List.mem_append, List.mem_filter] at mem
  obtain before | ⟨offered, -⟩ := mem
  · exact named p before
  · exact group p offered ▸ known

/-- A reference that is not to a whole group does not see the order. -/
theorem Reordered.resolve (same : commits.Reordered names commits') {path : ReferencePath}
    (below : path.fields = [] → path.root ∉ names) :
    commits'.resolve path = commits.resolve path := by
  obtain ⟨log, log', indexes, indexes', reordered, named⟩ := same
  rw [Commits.resolve, Commits.resolve, indexes.root, indexes'.root, CommitLog.root,
    CommitLog.root]
  have groups : (∃ p ∈ log', p.group = path.root) ↔ ∃ p ∈ log, p.group = path.root := by
    simp only [reordered.perm.mem_iff]
  simp only [groups, CommitLog.groupsOf, reordered.keys]
  split_ifs with isGroup
  · obtain ⟨p, mem, here⟩ := isGroup
    cases fields : path.fields with
    | nil => exact absurd (here ▸ named p mem) (below fields)
    | cons field rest =>
      have perm : (log'.entriesOf path.root).Perm (log.entriesOf path.root) :=
        (reordered.perm.filter _).map _
      have distinct : Json.Members.Distinct (log.entriesOf path.root) := indexes.distinct_entriesOf _
      simp only [bind, Except.bind, follow, step?, distinct.get?_perm perm]
  · rfl

end Reordered

end Commits

end TableSeed
