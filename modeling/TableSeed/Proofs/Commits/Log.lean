import Mathlib
import TableSeed.Proofs.Commits.Records

/-!
# The log of commits

The two indexes of the committed records are one view of a plain log: the records in the order in
which they were accepted, each of which was the first of its group and entry. What a reference
leads to is told by the log alone. It starts at the entries of a group that the log knows, or else
at the only record of an entry key, and then follows members by name and items by position.
-/

namespace TableSeed

/-- A record under a group and an entry. -/
structure Submission where
  group : String
  entry : String
  record : Json.Members

/-- Whether two records are meant for the same place. -/
def Submission.SamePlace (p q : Submission) : Prop := p.group = q.group ∧ p.entry = q.entry

instance (p q : Submission) : Decidable (p.SamePlace q) :=
  inferInstanceAs (Decidable (_ ∧ _))

/-- Accepted records, in the order in which they were accepted. -/
abbrev CommitLog := List Submission

namespace CommitLog

/-- Accepts a record unless there is one in its place. -/
def offer (log : CommitLog) (p : Submission) : CommitLog :=
  if ∃ q ∈ log, q.SamePlace p then log else log ++ [p]

/-- The log after some records have been offered, in order. -/
def ofOffers (offers : List Submission) : CommitLog := offers.foldl offer []

/-- The object of the entries of a group. -/
def entriesOf (log : CommitLog) (group : String) : Json.Members :=
  (log.filter (·.group = group)).map fun p => (p.entry, .object p.record)

/-- The groups that have an entry of a key. -/
def groupsOf (log : CommitLog) (entry : String) : List String :=
  (log.filter (·.entry = entry)).map (·.group)

/-- Where a reference starts: at a group, or else at the only record of an entry key. -/
def root (log : CommitLog) (name : String) : Except ReferenceError Json.Value :=
  if ∃ p ∈ log, p.group = name then .ok (.object (log.entriesOf name))
  else
    match log.filter (·.entry = name) with
    | [] => .error (.missingRoot name)
    | [p] => .ok (.object p.record)
    | _ :: _ :: _ => .error (.ambiguousRoot name (log.groupsOf name))

end CommitLog

/-- The value of a decimal digit. -/
def digitValue (c : Char) : Nat := c.toNat - 48

/-- A text spells a position: decimal digits, perhaps after a plus, whose number fits 64 bits. -/
def SpellsPosition (s : String) (n : Nat) : Prop :=
  ∃ digits : List Char, (s.toList = digits ∨ s.toList = '+' :: digits) ∧ digits ≠ [] ∧
    (∀ c ∈ digits, c.isDigit = true) ∧ Nat.ofDigits 10 (digits.reverse.map digitValue) = n ∧
    n < 2 ^ 64

/-- A value has a part under a field. -/
inductive Json.Value.Part : Json.Value → String → Json.Value → Prop where
  | member {members : Json.Members} {field : String} {v : Json.Value} :
    Json.Members.get? field members = some v → Part (.object members) field v
  | item {items : List Json.Value} {field : String} {n : Nat} {v : Json.Value} :
    SpellsPosition field n → items[n]? = some v → Part (.array items) field v

/-- Fields lead from a value to one of its parts, one after the other. -/
inductive Json.Value.Leads : Json.Value → List String → Json.Value → Prop where
  | here (v : Json.Value) : Leads v [] v
  | under {v w u : Json.Value} {field : String} {rest : List String} :
    v.Part field w → Leads w rest u → Leads v (field :: rest) u

/-- What the committed records are to those who only see the log of what was accepted. -/
structure Commits.Shows (commits : Commits) (log : CommitLog) : Prop where
  /-- A record is accepted if there is none in its place. -/
  accepts : ∀ p : Submission, (commits.commit p.group p.entry p.record).2 = true ↔
    ∀ q ∈ log, ¬ q.SamePlace p
  /-- A record that is refused changes nothing. -/
  refuses : ∀ p : Submission, (commits.commit p.group p.entry p.record).2 = false →
    (commits.commit p.group p.entry p.record).1 = commits
  length : commits.length = log.length
  isEmpty : commits.isEmpty = true ↔ log = []
  /-- A reference has the value that its fields lead to from its root. -/
  value : ∀ path v, commits.resolve path = .ok v ↔
    ∃ start, log.root path.root = .ok start ∧ start.Leads path.fields v
  /-- A reference fails at its root, or at the first field that leads nowhere. -/
  failure : ∀ path e, commits.resolve path = .error e ↔
    log.root path.root = .error e ∨
    ∃ start before field after v, log.root path.root = .ok start ∧
      path.fields = before ++ field :: after ∧ start.Leads before v ∧ (∀ w, ¬ v.Part field w) ∧
      e = .missingField path.render field

section Positions

/-- Digits read from the left have the value of the digits. -/
theorem foldl_digits (digits : List Char) :
    digits.foldl (fun acc c => acc * 10 + (c.toNat - 48)) 0 =
      Nat.ofDigits 10 (digits.reverse.map digitValue) := by
  rw [Nat.ofDigits_eq_foldr, List.foldr_map, List.foldr_reverse]
  simp only [digitValue, Nat.cast_id, Nat.add_comm, Nat.mul_comm]

/-- A text without a plus in front of it. -/
def withoutPlus : List Char → List Char
  | '+' :: rest => rest
  | cs => cs

/-- A plus is all that may stand in front. -/
theorem eq_withoutPlus (cs : List Char) : cs = withoutPlus cs ∨ cs = '+' :: withoutPlus cs := by
  unfold withoutPlus
  split
  · exact .inr rfl
  · exact .inl rfl

/-- The digits of a text that may start with a plus. -/
theorem withoutPlus_eq {cs digits : List Char} (text : cs = digits ∨ cs = '+' :: digits)
    (isDigit : ∀ c ∈ digits, c.isDigit = true) : withoutPlus cs = digits := by
  obtain rfl | rfl := text
  · unfold withoutPlus
    split
    · exact absurd (isDigit '+' List.mem_cons_self) (by decide)
    · rfl
  · rfl

/-- A position is read from the digits of a text. -/
theorem position?_eq (s : String) :
    position? s =
      if withoutPlus s.toList = [] ∨ ¬ ∀ c ∈ withoutPlus s.toList, c.isDigit = true then none
      else
        let n := Nat.ofDigits 10 ((withoutPlus s.toList).reverse.map digitValue)
        if n < 2 ^ 64 then some n else none := by
  rw [← foldl_digits]
  change (if ((withoutPlus s.toList).isEmpty || !(withoutPlus s.toList).all Char.isDigit) = true then _
    else _) = _
  refine if_congr ?_ rfl rfl
  rw [Bool.or_eq_true, List.isEmpty_iff, Bool.not_eq_true', ← Bool.not_eq_true, List.all_eq_true]

/-- The position of a text is the one that it spells. -/
theorem position?_eq_some_iff (s : String) (n : Nat) : position? s = some n ↔ SpellsPosition s n := by
  rw [position?_eq]
  constructor
  · intro found
    split_ifs at found with shape
    rw [not_or, not_not] at shape
    simp only at found
    split_ifs at found with fits
    cases found
    exact ⟨_, eq_withoutPlus _, shape.1, shape.2, rfl, fits⟩
  · rintro ⟨digits, text, nonempty, isDigit, rfl, fits⟩
    rw [withoutPlus_eq text isDigit, if_neg (by rw [not_or, not_not]; exact ⟨nonempty, isDigit⟩)]
    exact if_pos fits

/-- The part of a value that a step finds is the one under the field. -/
theorem Commits.step?_eq_some_iff (v w : Json.Value) (field : String) :
    step? v field = some w ↔ v.Part field w := by
  constructor
  · intro found
    cases v with
    | object members => exact .member found
    | array items =>
      obtain ⟨n, position, item⟩ := Option.bind_eq_some_iff.mp found
      exact .item ((position?_eq_some_iff field n).mp position) item
    | _ => contradiction
  · rintro (found | ⟨position, item⟩)
    · exact found
    · exact Option.bind_eq_some_iff.mpr ⟨_, (position?_eq_some_iff field _).mpr position, item⟩

end Positions

namespace Commits

section Following

variable {reference : String} {v w : Json.Value} {fields : List String} {e : ReferenceError}

/-- Following fields ends where they lead. -/
theorem follow_eq_ok_iff : follow reference v fields = .ok w ↔ v.Leads fields w := by
  induction fields generalizing v with
  | nil =>
    constructor
    · rintro ⟨⟩
      exact .here _
    · rintro ⟨⟩
      rfl
  | cons field rest ih =>
    rw [follow]
    constructor
    · intro followed
      split at followed
      · rename_i found
        exact .under ((step?_eq_some_iff _ _ _).mp found) (ih.mp followed)
      · contradiction
    · rintro (_ | ⟨part, leads⟩)
      rw [(step?_eq_some_iff _ _ _).mpr part]
      exact ih.mpr leads

/-- Following fields fails at the first one without a part. -/
theorem follow_eq_error_iff :
    follow reference v fields = .error e ↔
      ∃ before field after w, fields = before ++ field :: after ∧ v.Leads before w ∧
        (∀ u, ¬ w.Part field u) ∧ e = .missingField reference field := by
  induction fields generalizing v with
  | nil => simp [follow]
  | cons field rest ih =>
    rw [follow]
    constructor
    · intro failed
      split at failed
      · rename_i found
        obtain ⟨before, last, after, w, rfl, leads, nothing, rfl⟩ := ih.mp failed
        exact ⟨field :: before, last, after, w, rfl,
          .under ((step?_eq_some_iff _ _ _).mp found) leads, nothing, rfl⟩
      · rename_i missing
        cases failed
        refine ⟨[], field, rest, v, rfl, .here v, fun u part => ?_, rfl⟩
        rw [(step?_eq_some_iff _ _ _).mpr part] at missing
        contradiction
    · rintro ⟨before, last, after, w, split', leads, nothing, rfl⟩
      cases leads with
      | here =>
        cases split'
        have missing : step? v field = none :=
          Option.eq_none_iff_forall_ne_some.mpr fun u found =>
            nothing u ((step?_eq_some_iff _ _ _).mp found)
        rw [missing]
      | under part leads =>
        cases split'
        rw [(step?_eq_some_iff _ _ _).mpr part]
        exact ih.mpr ⟨_, _, _, w, rfl, leads, nothing, rfl⟩

end Following

/-- The records after some have been committed, in order, refused ones included. -/
def ofOffers (offers : List Submission) : Commits :=
  offers.foldl (fun commits p => (commits.commit p.group p.entry p.record).1) {}

/-- Both indexes hold what the log says. -/
structure Indexes (commits : Commits) (log : CommitLog) : Prop where
  group : ∀ name, commits.group? name =
    if ∃ p ∈ log, p.group = name then some (log.entriesOf name) else none
  owners : ∀ name, commits.owners.lookup name =
    if ∃ p ∈ log, p.entry = name then some (log.groupsOf name) else none
  length : commits.length = log.length
  isEmpty : commits.owners = [] ↔ log = []
  /-- The log has one record in each place. -/
  distinct : log.Pairwise fun p q => ¬ p.SamePlace q

namespace Indexes

variable {commits : Commits} {log : CommitLog}

/-- Nothing is an index of nothing. -/
theorem empty : Indexes {} [] where
  group _ := rfl
  owners _ := rfl
  length := rfl
  isEmpty := by simp
  distinct := List.Pairwise.nil

/-- An entry of a group is committed if the log has a record in its place. -/
theorem contains_iff (h : commits.Indexes log) (group entry : String) :
    commits.contains group entry = true ↔ ∃ q ∈ log, q.group = group ∧ q.entry = entry := by
  rw [Commits.contains, h.group]
  split_ifs with known
  · simp [CommitLog.entriesOf, Json.Members.contains]
  · refine ⟨fun impossible => absurd impossible (by simp), ?_⟩
    rintro ⟨q, mem, here, -⟩
    exact absurd ⟨q, mem, here⟩ known

/-- A name is added to the list under one key. -/
theorem length_update (entries : List (String × List String)) (name added : String) :
    ((update name (fun groups => groups.getD [] ++ [added]) entries).flatMap (·.2)).length =
      (entries.flatMap (·.2)).length + 1 := by
  induction entries with
  | nil => simp [update]
  | cons first rest ih =>
    rw [update]
    split_ifs with here
    · simp only [List.flatMap_cons, List.length_append, Option.getD_some, List.length_singleton]
      omega
    · simp only [List.flatMap_cons, List.length_append, ih]
      omega

/-- An update leaves something. -/
theorem update_ne_nil {α : Type} (name : String) (change : Option α → α) (entries : List (String × α)) :
    update name change entries ≠ [] := by
  cases entries with
  | nil => simp [update]
  | cons first rest =>
    rw [update]
    split_ifs <;> simp

/-- The list under a key with one more name, where the log tells the list. -/
theorem getD_append {α : Type} (known : Prop) [Decidable known] (found : List α) (added : α)
    (unknown : ¬ known → found = []) :
    (if known then some found else none).getD [] ++ [added] = found ++ [added] := by
  split_ifs with here
  · rfl
  · rw [unknown here, Option.getD_none]

/-- Committing a record keeps the indexes, and the log accepts it exactly if it is committed. The
object of its group then has one more entry, and its entry key one more group. -/
theorem commit (h : commits.Indexes log) (p : Submission) :
    (commits.commit p.group p.entry p.record).1.Indexes (log.offer p) := by
  unfold Commits.commit CommitLog.offer
  by_cases known : ∃ q ∈ log, q.SamePlace p
  · rw [if_pos ((h.contains_iff _ _).mpr known), if_pos known]
    exact h
  · rw [if_neg fun committed => known ((h.contains_iff _ _).mp committed), if_neg known]
    refine ⟨fun name => ?_, fun name => ?_, ?_, ?_, ?_⟩
    · have before := h.group p.group
      rw [group?] at before ⊢
      rw [lookup_update, before, getD_append _ _ _ fun new => by
        simpa [CommitLog.entriesOf] using fun q mem here => new ⟨q, mem, here⟩]
      by_cases here : name = p.group
      · subst here
        rw [if_pos rfl, if_pos ⟨p, by simp, rfl⟩]
        simp [CommitLog.entriesOf]
      · rw [if_neg here]
        refine (h.group name).trans ?_
        simp [CommitLog.entriesOf, or_and_right, exists_or, Ne.symm here]
    · rw [lookup_update, h.owners, getD_append _ _ _ fun new => by
        simpa [CommitLog.groupsOf] using fun q mem here => new ⟨q, mem, here⟩]
      by_cases here : name = p.entry
      · subst here
        rw [if_pos rfl, if_pos ⟨p, by simp, rfl⟩]
        simp [CommitLog.groupsOf]
      · rw [if_neg here, h.owners]
        simp [CommitLog.groupsOf, or_and_right, exists_or, Ne.symm here]
    · have before := h.length
      rw [Commits.length] at before ⊢
      rw [length_update, before, List.length_append, List.length_singleton]
    · simp [update_ne_nil]
    · refine List.pairwise_append.mpr ⟨h.distinct, List.pairwise_singleton _ _, ?_⟩
      rintro q mem _ (_ | ⟨_, ⟨⟩⟩) same
      exact known ⟨q, mem, same⟩

/-- A record in its place is found under its group and its entry. -/
theorem get?_entriesOf (h : commits.Indexes log) {p : Submission} (mem : p ∈ log) :
    Json.Members.get? p.entry (log.entriesOf p.group) = some (.object p.record) := by
  have distinct := h.distinct
  clear h
  induction log with
  | nil => contradiction
  | cons q rest ih =>
    rw [List.pairwise_cons] at distinct
    obtain rfl | later := List.mem_cons.mp mem
    · simp [CommitLog.entriesOf, Json.Members.get?]
    · rw [CommitLog.entriesOf, List.filter_cons]
      split_ifs with here
      · have apart : q.entry ≠ p.entry := fun same =>
          distinct.1 p later ⟨by simpa using here, same⟩
        rw [List.map_cons, Json.Members.get?, if_neg apart]
        exact ih later distinct.2
      · exact ih later distinct.2

/-- A reference starts where the log says. -/
theorem root (h : commits.Indexes log) (name : String) : commits.root name = log.root name := by
  rw [Commits.root, CommitLog.root, h.group]
  by_cases isGroup : ∃ p ∈ log, p.group = name
  · rw [if_pos isGroup, if_pos isGroup]
  · rw [if_neg isGroup, if_neg isGroup, h.owners]
    by_cases isEntry : ∃ p ∈ log, p.entry = name
    · rw [if_pos isEntry, CommitLog.groupsOf]
      have belongs : ∀ p ∈ log.filter (·.entry = name), p ∈ log ∧ p.entry = name := fun p mem => by
        simpa using mem
      cases found : log.filter (·.entry = name) with
      | nil =>
        obtain ⟨p, mem, here⟩ := isEntry
        have : p ∈ log.filter (·.entry = name) := by simp [mem, here]
        rw [found] at this
        contradiction
      | cons p others =>
        cases others with
        | nil =>
          obtain ⟨mem, rfl⟩ := belongs p (by rw [found]; exact List.mem_singleton_self p)
          simp only [List.map_cons, List.map_nil]
          rw [h.group, if_pos ⟨p, mem, rfl⟩, Option.bind_some, h.get?_entriesOf mem]
        | cons q others => rfl
    · rw [if_neg isEntry]
      have none' : log.filter (·.entry = name) = [] := by
        simpa using fun p mem here => isEntry ⟨p, mem, here⟩
      rw [none']

end Indexes

/-- The indexes hold what the log says after any records were offered. -/
theorem indexes_ofOffers (offers : List Submission) :
    (ofOffers offers).Indexes (CommitLog.ofOffers offers) := by
  induction offers using List.reverseRecOn with
  | nil => exact .empty
  | append_singleton offers p ih =>
    rw [ofOffers, CommitLog.ofOffers, List.foldl_append, List.foldl_append]
    exact ih.commit p

/-- Indexes that hold what the log says show nothing else. -/
theorem Indexes.shows {commits : Commits} {log : CommitLog} (h : commits.Indexes log) :
    commits.Shows log where
  accepts p := by
    have known := h.contains_iff p.group p.entry
    rw [Commits.commit]
    split_ifs with committed
    · obtain ⟨q, mem, same⟩ := known.mp committed
      exact ⟨fun impossible => absurd impossible (by simp), fun free => absurd same (free q mem)⟩
    · exact ⟨fun _ q mem same => committed (known.mpr ⟨q, mem, same⟩), fun _ => rfl⟩
  refuses p refused := by
    rw [Commits.commit] at refused ⊢
    split_ifs at refused ⊢
    rfl
  length := h.length
  isEmpty := by rw [Commits.isEmpty, List.isEmpty_iff]; exact h.isEmpty
  value path v := by
    rw [Commits.resolve, h.root]
    cases log.root path.root with
    | error e => simp [bind, Except.bind]
    | ok start => simpa [bind, Except.bind] using follow_eq_ok_iff
  failure path e := by
    rw [Commits.resolve, h.root]
    cases log.root path.root with
    | error other => simp [bind, Except.bind]
    | ok start => simpa [bind, Except.bind] using follow_eq_error_iff

/-- After any records were offered, the committed ones are what the log of the accepted ones
shows. -/
theorem shows_log (offers : List Submission) :
    (ofOffers offers).Shows (CommitLog.ofOffers offers) :=
  (indexes_ofOffers offers).shows

/-- Two groups share the entry `a`, and one of its records is offered twice. -/
example :
    (CommitLog.ofOffers [⟨"G", "a", []⟩, ⟨"H", "a", []⟩, ⟨"G", "a", [("x", .null)]⟩]).length = 2 ∧
    (CommitLog.ofOffers [⟨"G", "a", []⟩, ⟨"H", "a", []⟩]).groupsOf "a" = ["G", "H"] := by
  decide

end Commits

end TableSeed
