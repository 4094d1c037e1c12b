import TableSeed.Proofs.Expression.Layers

/-!
# The first writer of a name

A name is bound once. Whatever is bound and loaded afterwards, it keeps its place among the names and
its value, also where a module fails on the way, and loading what has been loaded once does nothing.
-/

namespace TableSeed

open Lua (Heap World TableRef Key Table)

namespace Sandbox

variable {s t u : Sandbox} {directory : ModuleDirectory} {d : Dependency}

section Extension

/-- Nothing but the sandbox itself refers to its own tables. -/
def Owned (s : Sandbox) : Prop := ∃ own : Heap, own.tables.size = ownTables ∧ s.Owns (·.index < 4) own

/-- A sandbox in which perhaps more names are bound, and nothing else of its own has changed. -/
structure Extends (s t : Sandbox) : Prop where
  globals : t.globals = s.globals
  bindings : t.bindings = s.bindings
  aliases : s.aliases <+: t.aliases
  distinct : s.aliases.Nodup → t.aliases.Nodup
  bound : ∀ name ∈ s.aliases, t.bound name = s.bound name
  tables : ∀ r : TableRef, r.index < ownTables → r ≠ s.bindings →
    t.world.heap.table r = s.world.heap.table r

/-- Each sandbox extends itself. -/
theorem Extends.refl (s : Sandbox) : s.Extends s :=
  ⟨rfl, rfl, List.prefix_refl _, id, fun _ _ => rfl, fun _ _ _ => rfl⟩

/-- An extension of an extension is an extension. -/
theorem Extends.trans (first : s.Extends t) (second : t.Extends u) : s.Extends u where
  globals := second.globals.trans first.globals
  bindings := second.bindings.trans first.bindings
  aliases := first.aliases.trans second.aliases
  distinct := second.distinct ∘ first.distinct
  bound name mem := (second.bound name (first.aliases.subset mem)).trans (first.bound name mem)
  tables r own other :=
    (second.tables r own (first.bindings ▸ other)).trans (first.tables r own other)

variable {own : Heap}

/-- Whatever happens to the other tables. -/
theorem Owned.keep (count : own.tables.size = ownTables) (owns : s.Owns (·.index < 4) own)
    (confined : own.Confines True t.world.heap) (globals : t.globals = s.globals)
    (bindings : t.bindings = s.bindings) (aliases : t.aliases = s.aliases) :
    t.Owned ∧ s.Extends t := by
  have same (r : TableRef) (isOwn : r.index < ownTables) :
      t.world.heap.table r = s.world.heap.table r := by
    have older : ¬own.Made r := Nat.not_le.mpr (count ▸ isOwn)
    rw [confined.spared r older, owns.confined.spared r older]
  refine ⟨⟨own, count, owns.keep confined globals bindings aliases⟩, globals, bindings,
    aliases ▸ List.prefix_refl _, aliases ▸ id, fun name _ => ?_, fun r isOwn _ => same r isOwn⟩
  rw [bound, bindings, same _ (count ▸ owns.bindings)]
  rfl

/-- A note in the log changes nothing that is the sandbox's own. -/
theorem Owned.note (owned : s.Owned) (level : LogLevel) (text : String) :
    (s.note level text).Owned ∧ s.Extends (s.note level text) := by
  obtain ⟨own, count, owns⟩ := owned
  exact Owned.keep count owns owns.confined rfl rfl rfl

/-- A new name is bound to a value that refers to none of the sandbox's own tables. -/
theorem Owned.bind (count : own.tables.size = ownTables) (owns : s.Owns (·.index < 4) own)
    {name : String} (free : name ∉ s.aliases) {v : Lua.Value} (value : v.Within (own.reach True)) :
    (s.bind name v).1.Owned ∧ s.Extends (s.bind name v).1 := by
  have values := owns.bound_bind free v
  refine ⟨⟨_, (Heap.size_set ..).trans count, owns.bind free value⟩, ?_⟩
  rw [bind_of_not_mem free] at values ⊢
  refine ⟨rfl, rfl, List.prefix_append _ _, fun distinct => ?_, fun other mem => ?_,
    fun r _ other => ?_⟩
  · exact distinct.append (List.nodup_singleton name) (by simpa using free)
  · rw [values, if_neg fun same : other = name => free (same ▸ mem)]
  · exact Heap.table_set_of_ne other ..

end Extension

section Loading

/-- Which module has no value is said by the name that was to be bound. -/
theorem name_of_value_error {e : DependencyError} (failed : (directory.value s d).1 = .error e) :
    e.name = d.name := by
  rcases value_cases directory s d with valued | ⟨e', named, valued⟩ |
    ⟨-, -, source, -, result, t, -, ⟨e', named, valued⟩ | ⟨v, -, valued⟩⟩
  all_goals
    rw [valued] at failed
    cases failed
  · exact named
  · exact named

/-- What the log says of a name that is bound already. -/
def skipText (d : Dependency) : String := s!"Dependency '{d.name}' already bound, skipping"

/-- What the log says of a name that is bound now. -/
def loadText (d : Dependency) : String := s!"Bound dependency '{d.name}' -> '{d.moduleName}'"

/-- A dependency is skipped, or its module has no value, or its name is bound to the value. -/
theorem load_cases (s : Sandbox) (directory : ModuleDirectory) (d : Dependency) :
    (d.name ∈ s.aliases ∧ s.load directory d = (.ok false, s.note .debug (skipText d))) ∨
    d.name ∉ s.aliases ∧
      ((∃ e t, directory.value s d = (.error e, t) ∧ s.load directory d = (.error e, t)) ∨
      ∃ v t, directory.value s d = (.ok v, t) ∧
        s.load directory d = (.ok true, (t.bind d.name v).1.note .debug (loadText d))) := by
  rw [load]
  by_cases taken : d.name ∈ s.aliases
  · rw [if_pos (by rwa [contains, List.contains_iff_mem])]
    exact .inl ⟨taken, rfl⟩
  · rw [if_neg (by rwa [contains, List.contains_iff_mem])]
    refine .inr ⟨taken, ?_⟩
    obtain ⟨_ | v, t⟩ := directory.value s d
    · exact .inl ⟨_, t, rfl, rfl⟩
    · exact .inr ⟨v, t, rfl, rfl⟩

/-- Loading a dependency. -/
theorem Owned.load (owned : s.Owned) (directory : ModuleDirectory) (d : Dependency) :
    (s.load directory d).2.Owned ∧ s.Extends (s.load directory d).2 := by
  rcases load_cases s directory d with
    ⟨-, loaded⟩ | ⟨free, ⟨e, t, valued, loaded⟩ | ⟨v, t, valued, loaded⟩⟩
  · rw [loaded]
    exact owned.note _ _
  all_goals
    obtain ⟨own, count, owns⟩ := owned
    obtain ⟨value, after⟩ := owns.value directory d free
    obtain ⟨world, left, same⟩ := value_snd_eq directory s d
    rw [valued] at value after same
    dsimp only at value after same
    have kept := Owned.keep count owns after.confined (by rw [same]) (by rw [same]) (by rw [same])
    rw [loaded]
  · exact kept
  · have free : d.name ∉ t.aliases := by rwa [same]
    obtain ⟨owned, named⟩ := Owned.bind count after free (value v rfl)
    obtain ⟨noted, last⟩ := owned.note .debug (loadText d)
    exact ⟨noted, kept.2.trans (named.trans last)⟩

/-- Loading dependencies, however far it comes. -/
theorem Owned.loadAll (owned : s.Owned) (directory : ModuleDirectory) (deps : List Dependency) :
    (s.loadAll directory deps).2.Owned ∧ s.Extends (s.loadAll directory deps).2 := by
  induction deps generalizing s with
  | nil => exact ⟨owned, .refl s⟩
  | cons d rest ih =>
    obtain ⟨one, first⟩ := owned.load directory d
    rw [Sandbox.loadAll]
    generalize s.load directory d = loaded at one first ⊢
    obtain ⟨_ | isNew, t⟩ := loaded
    · exact ⟨one, first⟩
    · obtain ⟨all, second⟩ := ih one
      dsimp only
      generalize t.loadAll directory rest = ended at all second ⊢
      obtain ⟨_ | n, u⟩ := ended
      · exact ⟨all, first.trans second⟩
      · exact ⟨all, first.trans second⟩

/-- The names of a list of dependencies that are not taken yet, each once, in their order. -/
def newNames (taken : List String) : List Dependency → List String
  | [] => []
  | d :: rest =>
    if d.name ∈ taken then newNames taken rest else d.name :: newNames (taken ++ [d.name]) rest

example : newNames ["names"] [⟨"dates", "dates"⟩, ⟨"names", "other"⟩, ⟨"dates", "other"⟩] =
    ["dates"] := by decide

/-- What a dependency adds to the names. -/
theorem aliases_load (s : Sandbox) (directory : ModuleDirectory) (d : Dependency) :
    ((s.load directory d).1 = .ok false ∧ d.name ∈ s.aliases ∧
      (s.load directory d).2.aliases = s.aliases) ∨
    ((s.load directory d).1 = .ok true ∧ d.name ∉ s.aliases ∧
      (s.load directory d).2.aliases = s.aliases ++ [d.name]) ∨
    (∃ e, (s.load directory d).1 = .error e ∧ e.name = d.name ∧ d.name ∉ s.aliases ∧
      directory.value s d = (.error e, (s.load directory d).2) ∧
      (s.load directory d).2.aliases = s.aliases) := by
  obtain ⟨world, left, same⟩ := value_snd_eq directory s d
  rcases load_cases s directory d with
    ⟨taken, loaded⟩ | ⟨free, ⟨e, t, valued, loaded⟩ | ⟨v, t, valued, loaded⟩⟩
  · rw [loaded]
    exact .inl ⟨rfl, taken, rfl⟩
  · have named := name_of_value_error (congrArg Prod.fst valued)
    rw [valued] at same
    rw [loaded, valued]
    exact .inr (.inr ⟨e, rfl, named, free, rfl, by dsimp only at same ⊢; rw [same]⟩)
  · rw [valued] at same
    dsimp only at same
    have free' : d.name ∉ t.aliases := by rwa [same]
    rw [loaded, bind_of_not_mem free', same]
    exact .inr (.inl ⟨rfl, free, rfl⟩)

/-- After a module that is loaded the others are loaded, and it counts if it is new. -/
theorem loadAll_cons_of_ok {isNew : Bool} {rest : List Dependency}
    (loaded : (s.load directory d).1 = .ok isNew) :
    s.loadAll directory (d :: rest) =
      (((s.load directory d).2.loadAll directory rest).1.map fun n => if isNew then n + 1 else n,
        ((s.load directory d).2.loadAll directory rest).2) := by
  rw [loadAll]
  generalize s.load directory d = one at loaded ⊢
  obtain ⟨_, t⟩ := one
  obtain rfl := loaded
  dsimp only
  obtain ⟨_ | n, u⟩ := t.loadAll directory rest <;> rfl

/-- A module that is not loaded ends the loading with its error. -/
theorem loadAll_cons_of_error {e : DependencyError} (rest : List Dependency)
    (failed : (s.load directory d).1 = .error e) :
    s.loadAll directory (d :: rest) = (.error e, (s.load directory d).2) := by
  rw [loadAll]
  generalize s.load directory d = one at failed ⊢
  obtain ⟨_, t⟩ := one
  obtain rfl := failed
  rfl

/-- What is counted on from a result is counted on from its number. -/
theorem exists_of_map_ok {ε : Type} {f : Nat → Nat} {x : Except ε Nat} {n : Nat}
    (counted : x.map f = .ok n) : ∃ m, x = .ok m ∧ f m = n := by
  cases x with
  | error e => cases counted
  | ok m => exact ⟨m, rfl, Except.ok.inj counted⟩

/-- Counting on does not change an error. -/
theorem error_of_map_error {ε : Type} {f : Nat → Nat} {x : Except ε Nat} {e : ε}
    (failed : x.map f = .error e) : x = .error e := by
  cases x with
  | error e => exact failed
  | ok m => cases failed

/-- Loading more goes on from what has been loaded. -/
theorem loadAll_append {n : Nat} {before : List Dependency}
    (loaded : (s.loadAll directory before).1 = .ok n) (rest : List Dependency) :
    (s.loadAll directory (before ++ rest)).2 =
      ((s.loadAll directory before).2.loadAll directory rest).2 := by
  induction before generalizing s n with
  | nil => rfl
  | cons d before ih =>
    cases one : (s.load directory d).1 with
    | error e =>
      rw [loadAll_cons_of_error before one] at loaded
      cases loaded
    | ok isNew =>
      rw [loadAll_cons_of_ok one] at loaded
      rw [List.cons_append, loadAll_cons_of_ok one, loadAll_cons_of_ok one]
      obtain ⟨m, all, -⟩ := exists_of_map_ok loaded
      exact ih all

/-- Dependencies that are all loaded add the names that are not taken yet, and are counted by them. -/
theorem aliases_loadAll {n : Nat} {deps : List Dependency}
    (loaded : (s.loadAll directory deps).1 = .ok n) :
    (s.loadAll directory deps).2.aliases = s.aliases ++ newNames s.aliases deps ∧
      n = (newNames s.aliases deps).length := by
  induction deps generalizing s n with
  | nil =>
    cases loaded
    exact ⟨(List.append_nil _).symm, rfl⟩
  | cons d rest ih =>
    rcases aliases_load s directory d with ⟨one, taken, same⟩ | ⟨one, free, more⟩ | ⟨e, one, -⟩
    · rw [loadAll_cons_of_ok one] at loaded ⊢
      obtain ⟨m, all, rfl⟩ := exists_of_map_ok loaded
      have rest := ih all
      rw [same] at rest
      rw [newNames, if_pos taken]
      exact rest
    · rw [loadAll_cons_of_ok one] at loaded ⊢
      obtain ⟨m, all, rfl⟩ := exists_of_map_ok loaded
      obtain ⟨names, count⟩ := ih all
      rw [more] at names count
      rw [newNames, if_neg free, List.length_cons, ← count]
      exact ⟨by rw [names, List.append_assoc, List.singleton_append], rfl⟩
    · rw [loadAll_cons_of_error rest one] at loaded
      cases loaded

/-- Dependencies that are not all loaded add the names that are declared before the first that fails,
which is not among them. -/
theorem fails_loadAll {e : DependencyError} {deps : List Dependency}
    (failed : (s.loadAll directory deps).1 = .error e) :
    ∃ before d after n, deps = before ++ d :: after ∧ (s.loadAll directory before).1 = .ok n ∧
      d.name ∉ (s.loadAll directory before).2.aliases ∧
      directory.value (s.loadAll directory before).2 d = (.error e, (s.loadAll directory deps).2) ∧
      e.name = d.name ∧
      (s.loadAll directory deps).2.aliases = s.aliases ++ newNames s.aliases before := by
  induction deps generalizing s with
  | nil => cases failed
  | cons d rest ih =>
    rcases aliases_load s directory d with
      ⟨one, taken, same⟩ | ⟨one, free, more⟩ | ⟨e', one, named, free, valued, same⟩
    · rw [loadAll_cons_of_ok one] at failed ⊢
      obtain ⟨before, d', after, n, rfl, loaded, free, valued, named, names⟩ :=
        ih (error_of_map_error failed)
      refine ⟨d :: before, d', after, n, rfl, ?_⟩
      rw [loadAll_cons_of_ok one, newNames, if_pos taken, loaded]
      exact ⟨rfl, free, valued, named, same ▸ names⟩
    · rw [loadAll_cons_of_ok one] at failed ⊢
      obtain ⟨before, d', after, n, rfl, loaded, free', valued, named, names⟩ :=
        ih (error_of_map_error failed)
      refine ⟨d :: before, d', after, n + 1, rfl, ?_⟩
      rw [loadAll_cons_of_ok one, newNames, if_neg free, loaded]
      rw [more, List.append_assoc, List.singleton_append] at names
      exact ⟨rfl, free', valued, named, names⟩
    · rw [loadAll_cons_of_error rest one] at failed ⊢
      cases failed
      exact ⟨[], d, rest, 0, rfl, rfl, free, valued, named, same.trans (List.append_nil _).symm⟩

/-- Dependencies whose names are all taken are skipped. -/
theorem loadAll_of_taken (directory : ModuleDirectory) {deps : List Dependency}
    (taken : ∀ d ∈ deps, d.name ∈ s.aliases) :
    s.loadAll directory deps = (.ok 0, deps.foldl (fun s d => s.note .debug (skipText d)) s) := by
  induction deps generalizing s with
  | nil => rfl
  | cons d rest ih =>
    obtain ⟨own, others⟩ := List.forall_mem_cons.mp taken
    have skipped : s.load directory d = (.ok false, s.note .debug (skipText d)) :=
      ((load_cases s directory d).resolve_right fun free => free.1 own).2
    have rest := ih (s := s.note .debug (skipText d)) others
    rw [loadAll, skipped]
    dsimp only
    rw [rest]
    rfl

/-- Every declared name is taken or new. -/
theorem mem_newNames {deps : List Dependency} (declared : d ∈ deps) (taken : List String) :
    d.name ∈ taken ++ newNames taken deps := by
  induction deps generalizing taken with
  | nil => cases declared
  | cons first rest ih =>
    rw [newNames]
    split
    · rename_i isTaken
      rcases List.mem_cons.mp declared with rfl | later
      · exact List.mem_append_left _ isTaken
      · exact ih later taken
    · rcases List.mem_cons.mp declared with rfl | later
      · exact List.mem_append_right _ (List.mem_cons_self ..)
      · rw [← List.singleton_append, ← List.append_assoc]
        exact ih later _

/-- The name has the value of the module. -/
theorem Owned.bound_load {v : Lua.Value} (owned : s.Owned) (free : d.name ∉ s.aliases)
    (valued : (directory.value s d).1 = .ok v) :
    (s.load directory d).1 = .ok true ∧ d.name ∈ (s.load directory d).2.aliases ∧
      (s.load directory d).2.bound d.name = v := by
  obtain ⟨own, -, owns⟩ := owned
  have after := (owns.value directory d free).2
  obtain ⟨world, left, same⟩ := value_snd_eq directory s d
  rcases load_cases s directory d with
    ⟨taken, -⟩ | ⟨-, ⟨e, t, failed, -⟩ | ⟨w, t, valued', loaded⟩⟩
  · exact absurd taken free
  · rw [failed] at valued
    cases valued
  · rw [valued'] at valued after same
    cases valued
    dsimp only at after same
    have free : d.name ∉ t.aliases := by rwa [same]
    have bound := after.bound_bind free v d.name
    rw [if_pos rfl] at bound
    rw [loaded]
    refine ⟨rfl, ?_, bound⟩
    rw [bind_of_not_mem free]
    exact List.mem_append_right _ (List.mem_singleton_self _)

/-- The name has the value of the module that is the first to be loaded for it, whatever is loaded after
it. -/
theorem Owned.bound_loadAll {n : Nat} {v : Lua.Value} {before : List Dependency} (owned : s.Owned)
    (loaded : (s.loadAll directory before).1 = .ok n)
    (free : d.name ∉ (s.loadAll directory before).2.aliases)
    (valued : (directory.value (s.loadAll directory before).2 d).1 = .ok v) (after : List Dependency) :
    (s.loadAll directory (before ++ d :: after)).2.bound d.name = v := by
  have begun := (owned.loadAll directory before).1
  obtain ⟨one, mem, bound⟩ := begun.bound_load free valued
  have rest := ((begun.load directory d).1.loadAll directory after).2
  rw [loadAll_append loaded, loadAll_cons_of_ok one]
  exact (rest.bound d.name mem).trans bound

end Loading

section Calls

/-- A value from outside: what it refers to, and what is made with it, are none of a sandbox's own
tables. -/
structure HostValue where
  make : Heap → Lua.Value × Heap
  foreign : ∀ {own h : Heap}, own.tables.size = ownTables → own.Confines True h →
    (make h).1.Within (own.reach True) ∧ own.Confines True (make h).2

/-- What is asked of a sandbox. -/
inductive Call where
  | bind (name : String) (v : HostValue)
  | bindJson (name : String) (v : Json.Value)
  | loadAll (directory : ModuleDirectory) (dependencies : List Dependency)

/-- The sandbox after a value from outside has been made. -/
def receive (s : Sandbox) (v : HostValue) : Sandbox :=
  { s with world := { s.world with heap := (v.make s.world.heap).2 } }

/-- The sandbox after a call. -/
def call (s : Sandbox) : Call → Sandbox
  | .bind name v => ((s.receive v).bind name (v.make s.world.heap).1).1
  | .bindJson name v => (s.bindJson name v).1
  | .loadAll directory dependencies => (s.loadAll directory dependencies).2

/-- The sandbox after one call after the other. -/
def calls (s : Sandbox) (history : List Call) : Sandbox := history.foldl call s

/-- JSON values are from outside. -/
def HostValue.ofJson (v : Json.Value) : HostValue where
  make h := Conversion.ofJson h v
  foreign _ confined := Conversion.ofJson_confined v confined

/-- A name that is taken is not bound again. -/
theorem bindJson_of_mem {name : String} (taken : name ∈ s.aliases) (v : Json.Value) :
    s.bindJson name v = (s, false) :=
  if_pos (by rwa [contains, List.contains_iff_mem])

/-- A name that is free is bound to a table or a scalar made for it. -/
theorem bindJson_of_not_mem {name : String} (free : name ∉ s.aliases) (v : Json.Value) :
    s.bindJson name v =
      (s.receive (.ofJson v)).bind name ((HostValue.ofJson v).make s.world.heap).1 :=
  if_neg (by rwa [contains, List.contains_iff_mem])

/-- A value from outside is made without a reference to the sandbox's own tables. -/
theorem Owned.receive (owned : s.Owned) (v : HostValue) :
    (s.receive v).Owned ∧ s.Extends (s.receive v) := by
  obtain ⟨own, count, owns⟩ := owned
  exact Owned.keep count owns (v.foreign count owns.confined).2 rfl rfl rfl

/-- A binding of a value from outside extends the sandbox. -/
theorem Owned.bindHost (owned : s.Owned) (name : String) (v : HostValue) :
    ((s.receive v).bind name (v.make s.world.heap).1).1.Owned ∧
      s.Extends ((s.receive v).bind name (v.make s.world.heap).1).1 := by
  have received := owned.receive v
  by_cases taken : name ∈ s.aliases
  · have taken : name ∈ (s.receive v).aliases := taken
    rw [bind_of_mem taken]
    exact received
  · obtain ⟨own, count, owns⟩ := owned
    obtain ⟨value, confined⟩ := v.foreign count owns.confined
    have bound := Owned.bind count (owns.keep (t := s.receive v) confined rfl rfl rfl) taken value
    exact ⟨bound.1, received.2.trans bound.2⟩

/-- Each call extends the sandbox. -/
theorem Owned.call (owned : s.Owned) (c : Call) : (s.call c).Owned ∧ s.Extends (s.call c) := by
  cases c with
  | bind name v => exact owned.bindHost name v
  | bindJson name v =>
    by_cases taken : name ∈ s.aliases
    · rw [Sandbox.call, bindJson_of_mem taken]
      exact ⟨owned, .refl s⟩
    · rw [Sandbox.call, bindJson_of_not_mem taken]
      exact owned.bindHost name (.ofJson v)
  | loadAll directory dependencies => exact owned.loadAll directory dependencies

/-- A history of calls extends the sandbox. -/
theorem Owned.calls (owned : s.Owned) (history : List Call) :
    (s.calls history).Owned ∧ s.Extends (s.calls history) := by
  induction history generalizing s with
  | nil => exact ⟨owned, .refl s⟩
  | cons c rest ih =>
    obtain ⟨one, first⟩ := owned.call c
    obtain ⟨all, others⟩ := ih one
    exact ⟨all, first.trans others⟩

/-- A new sandbox owns its tables. -/
theorem owned_create (now : Int) (seed : UInt64) : (create now seed).Owned :=
  ⟨_, (fresh_create now seed).count, owns_create now seed⟩

end Calls

section FirstWriter

/-- A binding of a name to a value has done nothing if the name was taken, and otherwise the name comes
after the others and has the value. -/
structure Binds (s : Sandbox) (name : String) (v : Lua.Value) (outcome : Sandbox × Bool) : Prop where
  taken : name ∈ s.aliases → outcome = (s, false)
  free : name ∉ s.aliases → outcome.2 = true ∧ outcome.1.aliases = s.aliases ++ [name] ∧
    outcome.1.bound name = v

/-- The first binding of a name is kept, and a later one does nothing. -/
theorem Owned.binds (owned : s.Owned) (name : String) (v : Lua.Value) :
    s.Binds name v (s.bind name v) where
  taken taken := bind_of_mem taken v
  free free := by
    obtain ⟨own, -, owns⟩ := owned
    have bound := owns.bound_bind free v name
    rw [if_pos rfl] at bound
    refine ⟨?_, ?_, bound⟩ <;> rw [bind_of_not_mem free]

/-- The first binding of a name to a JSON value is kept, and a later one does nothing. -/
theorem Owned.bindsJson (owned : s.Owned) (name : String) (v : Json.Value) :
    s.Binds name (Conversion.ofJson s.world.heap v).1 (s.bindJson name v) where
  taken taken := bindJson_of_mem taken v
  free free := by
    rw [bindJson_of_not_mem free]
    exact ((owned.receive (.ofJson v)).1.binds name _).free free

/-- The safe functions and the libraries stay as they are. -/
theorem Extends.safe {own : Heap} (grown : s.Extends t) (owns : s.Owns (·.index < 4) own)
    (count : own.tables.size = ownTables) (name : String) :
    t.safe name = s.safe name ∧
      ∀ r, s.safe name = .table r → t.world.heap.table r = s.world.heap.table r := by
  have globals := grown.tables s.globals (count ▸ owns.globals) owns.apart
  refine ⟨by rw [Sandbox.safe, grown.globals, globals]; rfl, fun r isTable => ?_⟩
  have leaf : r.index < 4 := by
    have value := owns.library.get (.ofText name)
    rw [← owns.table_globals] at value
    change (s.safe name).Isolable _ at value
    rw [isTable] at value
    exact value
  exact grown.tables r (Nat.lt_trans leaf (by decide)) fun same => owns.unshared (same ▸ leaf)

/-- What the names of a sandbox stand for, in which there was once nothing bound. -/
structure FirstWriterWins (s fresh : Sandbox) : Prop where
  distinct : s.aliases.Nodup
  /-- A name has a value only if it is among the bound ones. -/
  agrees : ∀ name, name ∉ s.aliases → s.bound name = .nil
  grows : ∀ later, s.aliases <+: (s.calls later).aliases
  keeps : ∀ later, ∀ name ∈ s.aliases, (s.calls later).bound name = s.bound name
  binds : ∀ name v, s.Binds name v (s.bind name v)
  bindsJson : ∀ name v, s.Binds name (Conversion.ofJson s.world.heap v).1 (s.bindJson name v)
  /-- A name has the value of the module that is the first to be loaded for it, whatever is declared after
  it and wherever that fails. -/
  loads : ∀ directory before d after n v, (s.loadAll directory before).1 = .ok n →
    d.name ∉ (s.loadAll directory before).2.aliases →
    (directory.value (s.loadAll directory before).2 d).1 = .ok v →
    (s.loadAll directory (before ++ d :: after)).2.bound d.name = v
  /-- Loading adds the declared names that were not taken, and counts them. -/
  counts : ∀ directory dependencies n, (s.loadAll directory dependencies).1 = .ok n →
    (s.loadAll directory dependencies).2.aliases = s.aliases ++ newNames s.aliases dependencies ∧
      n = (newNames s.aliases dependencies).length
  /-- Loading that fails has added those declared before the first whose module has no value. -/
  fails : ∀ directory dependencies e, (s.loadAll directory dependencies).1 = .error e →
    ∃ before d after n, dependencies = before ++ d :: after ∧
      (s.loadAll directory before).1 = .ok n ∧ d.name ∉ (s.loadAll directory before).2.aliases ∧
      directory.value (s.loadAll directory before).2 d =
        (.error e, (s.loadAll directory dependencies).2) ∧
      e.name = d.name ∧
      (s.loadAll directory dependencies).2.aliases = s.aliases ++ newNames s.aliases before
  /-- What has been loaded once is skipped ever after, from whatever directory it is to be loaded. -/
  repeats : ∀ directory dependencies n, (s.loadAll directory dependencies).1 = .ok n →
    ∀ later directory', let t := (s.loadAll directory dependencies).2.calls later
      t.loadAll directory' dependencies =
        (.ok 0, dependencies.foldl (fun t d => t.note .debug (skipText d)) t)
  /-- The safe functions are those of the fresh sandbox, and so are the libraries. -/
  safe : ∀ name, s.safe name = fresh.safe name ∧
    ∀ r, fresh.safe name = .table r → s.world.heap.table r = fresh.world.heap.table r
  /-- In every environment a name has what it stands for. -/
  environment : ∀ this name,
    Lua.Heap.Isolated s.world.heap (s.environment this).2.world.heap (s.environment this).1
      (s.denoted this name)
      (((s.environment this).2.world.heap.table (s.environment this).1).getText name)

/-- Whatever is bound and loaded, the first writer of a name wins. -/
theorem first_writer_wins (now : Int) (seed : UInt64) (history : List Call) :
    ((create now seed).calls history).FirstWriterWins (create now seed) := by
  obtain ⟨owned, grown⟩ := (owned_create now seed).calls history
  have fresh := fresh_create now seed
  have safe := grown.safe (owns_create now seed) fresh.count
  have distinct : ((create now seed).calls history).aliases.Nodup := by
    refine grown.distinct ?_
    rw [fresh.unnamed]
    exact List.nodup_nil
  generalize (create now seed).calls history = s at owned safe distinct ⊢
  exact {
    distinct := distinct
    agrees := by
      obtain ⟨own, -, owns⟩ := owned
      exact fun _ => owns.bound_of_not_mem
    grows := fun later => (owned.calls later).2.aliases
    keeps := fun later => (owned.calls later).2.bound
    binds := owned.binds
    bindsJson := owned.bindsJson
    loads := fun _ _ _ after _ _ loaded free valued => owned.bound_loadAll loaded free valued after
    counts := fun _ _ _ => aliases_loadAll
    fails := fun _ _ _ => fails_loadAll
    repeats := fun directory _ _ loaded later directory' =>
      loadAll_of_taken directory' fun d declared =>
        ((owned.loadAll directory _).1.calls later).2.aliases.subset <|
          (aliases_loadAll loaded).1 ▸ mem_newNames declared s.aliases
    safe := safe
    environment := by
      obtain ⟨own, -, owns⟩ := owned
      exact owns.environment_denotes }

end FirstWriter

end Sandbox

end TableSeed
