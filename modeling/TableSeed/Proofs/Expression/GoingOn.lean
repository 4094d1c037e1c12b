import TableSeed.Proofs.Expression.Calm

/-!
# Expressions that end the run

An expression that fails keeps its text, and the run goes on. Only the failure of a helper that cannot
go on ends the run: of a call of `format_date` with a date and a format in which no date can be
written. Such a call ends it unless a function of the chunk catches the failure, and nothing else
does, whatever has been bound in the sandbox and whatever was evaluated in it before.
-/

namespace TableSeed

open Lua (Heap World TableRef Value Machine HelperFunction FunctionBody)

namespace Lua.Machine

/-- A call that a helper cannot go on with raises a failure, two steps later. -/
theorem step_step_of_aborts {m : Machine} (aborts : m.Aborts) (within : ¬m.Overruns) :
    m.step.step.control = .signal (.raise (.failure .aborted)) ∧ m.step.step.stack = m.stack := by
  obtain ⟨f, args, caller, b, given, control, found, helper, rfl, aborts⟩ := aborts
  have isCounted : m.control.isCounted = true := by rw [control]; rfl
  have counted : m.meter.count.2 = none :=
    Classical.byContradiction fun overruns => within ⟨isCounted, overruns⟩
  have applied : m.proceed = m.goOn (.act Helpers.abort ⟨.native, caller⟩) := by
    rw [proceed, control]
    dsimp only
    rw [apply, found]
    dsimp only
    rw [← HelperFunction.run_of_aborts aborts]
    rfl
  rw [step_of_within isCounted counted, applied]
  exact ⟨rfl, rfl⟩

/-- It ends the run of the machine with that failure if no frame catches it. -/
theorem outcome_of_aborts {m : Machine} (aborts : m.Aborts) (within : ¬m.Overruns)
    (uncaught : ∀ frame ∈ m.stack, frame.catches = false) :
    (m.after (2 + m.stack.length)).outcome? = some (.error (.failure .aborted)) := by
  obtain ⟨raised, stack⟩ := step_step_of_aborts aborts within
  rw [after_add, ← stack]
  exact outcome_of_raise _ raised (stack ▸ uncaught)

end Lua.Machine

namespace Sandbox

variable {s : Sandbox} {source text : String} {this : Option TableRef}

section Ends

/-- An uncaught call that a helper cannot go on with leaves the expression without a value or an
error of its own. -/
theorem evaluate_of_aborts {body : FunctionBody} {k : Nat}
    (compiled : compile (SelfReference.rewrite source) = .ok body)
    (aborts : ((s.evaluation body this).after k).Aborts)
    (within : ¬((s.evaluation body this).after k).Overruns)
    (uncaught : ∀ frame ∈ ((s.evaluation body this).after k).stack, frame.catches = false)
    (enough : k + (2 + ((s.evaluation body this).after k).stack.length) < maxSteps) :
    (s.evaluate source this).1 = .error (.chunk .aborted) := by
  have ended := Machine.outcome_of_aborts aborts within uncaught
  rw [← Machine.after_add] at ended
  rw [evaluate_fst_of_compile compiled, Machine.run_of_outcome ended enough]
  rfl

/-- An expression whose evaluation ends the run has no text to keep. -/
theorem evaluateOrKeep_of_aborted (aborted : (s.evaluate source this).1 = .error (.chunk .aborted)) :
    (s.evaluateOrKeep source text this).1 = .error .aborted := by
  unfold evaluateOrKeep
  generalize s.evaluate source this = evaluated at aborted ⊢
  obtain ⟨result, after⟩ := evaluated
  obtain rfl : result = .error (.chunk .aborted) := aborted
  rfl

/-- Any other expression has its value or keeps its text. -/
theorem evaluateOrKeep_of_ne_aborted (text : String)
    (goes : (s.evaluate source this).1 ≠ .error (.chunk .aborted)) :
    (∃ v, (s.evaluate source this).1 = .ok v ∧ (s.evaluateOrKeep source text this).1 = .ok v) ∨
      ∃ e, (s.evaluate source this).1 = .error e ∧
        (s.evaluateOrKeep source text this).1 = .ok (.string text) := by
  unfold evaluateOrKeep
  generalize s.evaluate source this = evaluated at goes ⊢
  obtain ⟨_ | v, after⟩ := evaluated
  · rename_i e
    refine .inr ⟨e, rfl, ?_⟩
    cases e with
    | chunk e =>
      cases e with
      | aborted => exact absurd rfl goes
      | _ => rfl
    | conversion e => rfl
  · exact .inl ⟨v, rfl, rfl⟩

end Ends

section Histories

variable {leaves : TableRef → Prop} {directory : ModuleDirectory} {d : Dependency}

/-- A module is run to be loaded, and it calls a helper that cannot go on. -/
def LoadAborts (s : Sandbox) (directory : ModuleDirectory) (d : Dependency) : Prop :=
  s.contains d.name = false ∧ d.moduleName ≠ ModuleDirectory.helperModule ∧
    directory.files.isFile (directory.path d.moduleName) = true ∧
    ∃ source, directory.files.readText (directory.path d.moduleName) = .ok source ∧
      (s.environment none).2.ChunkAborts source
        (ModuleDirectory.chunkName (directory.path d.moduleName)) (s.environment none).1

/-- The sandbox is one that a run comes to from a new one without a call of a helper that cannot go
on. -/
inductive GoesOn : Sandbox → Prop where
  | create (now : Int) (seed : UInt64) : GoesOn (create now seed)
  | limit {s : Sandbox} (n : Nat) : GoesOn s → GoesOn { s with instructionLimit := n }
  | bindJson {s : Sandbox} (name : String) (v : Json.Value) : GoesOn s → GoesOn (s.bindJson name v).1
  | load {s : Sandbox} (directory : ModuleDirectory) (d : Dependency) :
    GoesOn s → ¬s.LoadAborts directory d → GoesOn (s.load directory d).2
  /-- A record becomes a table for its expressions. -/
  | host {s : Sandbox} (record : Json.Members) :
    GoesOn s → GoesOn (s.mapHeap fun h => (Conversion.ofRecord h record).2)
  | evaluate {s : Sandbox} (source : String) (this : Option TableRef) :
    GoesOn s → ¬s.Aborts source this → GoesOn (s.evaluate source this).2
  | release {s : Sandbox} (m : Mark) : GoesOn s → GoesOn (s.mapHeap (release m))
  | note {s : Sandbox} (level : LogLevel) (text : String) : GoesOn s → GoesOn (s.note level text)

/-- A sandbox as deep as an environment copies holds no failure of a helper. -/
theorem Stocked.calm (stocked : s.Stocked leaves) : s.world.heap.Calm where
  tables r := by
    refine (stocked.heap.shallow r).mono (fun k plain => Value.Plain.within plain)
      (fun v isolable => ?_) fun _ => False.elim
    cases v with
    | table r => exact trivial
    | _ => exact Value.Plain.within isolable
  cells v mem := by
    rw [stocked.heap.cells] at mem
    exact absurd mem (Array.not_mem_empty v)

/-- A JSON value under a name leaves the heap calm. -/
theorem bindJson_calm (calm : s.world.heap.Calm) (name : String) (v : Json.Value) :
    (s.bindJson name v).1.world.heap.Calm := by
  rw [bindJson]
  split
  · exact calm
  · obtain ⟨value, confined⟩ :=
      Conversion.ofJson_confined v calm.confined
    exact bind_calm (s := { s with world := { s.world with heap := _ } }) confined.calm name
      (Heap.reach_bare s.world.heap ▸ value)

/-- A module is the helper library, or its source cannot be had, or it is what its source comes to in a
fresh environment. -/
theorem value_cases (directory : ModuleDirectory) (s : Sandbox) (d : Dependency) :
    directory.value s d =
        (.ok (.table (tableOf s.world.heap helperEntries).1),
          { s with world := { s.world with heap := (tableOf s.world.heap helperEntries).2 } }) ∨
      (∃ e, e.name = d.name ∧ directory.value s d = (.error e, s)) ∨
      d.moduleName ≠ ModuleDirectory.helperModule ∧
        directory.files.isFile (directory.path d.moduleName) = true ∧
        ∃ source, directory.files.readText (directory.path d.moduleName) = .ok source ∧
          ∃ result t, (s.environment none).2.run source
              (ModuleDirectory.chunkName (directory.path d.moduleName)) (s.environment none).1 =
                (result, t) ∧
            ((∃ e, e.name = d.name ∧ directory.value s d = (.error e, t)) ∨
              ∃ v, result = .ok v ∧ directory.value s d = (.ok v, t)) := by
  rw [ModuleDirectory.value]
  by_cases isLib : d.moduleName = ModuleDirectory.helperModule
  · rw [if_pos isLib]
    exact .inl rfl
  · rw [if_neg isLib]
    dsimp only
    split_ifs with missing
    · exact .inr (.inl ⟨_, rfl, rfl⟩)
    · cases read : directory.files.readText (directory.path d.moduleName) with
      | error fault => exact .inr (.inl ⟨_, rfl, rfl⟩)
      | ok source =>
        refine .inr (.inr ⟨isLib, by simpa using missing, source, rfl, ?_⟩)
        dsimp only
        generalize (s.environment none).2.run source _ (s.environment none).1 = ran
        obtain ⟨_ | v, t⟩ := ran
        · exact ⟨_, t, rfl, .inl ⟨_, rfl, rfl⟩⟩
        · cases v with
          | nil => exact ⟨_, t, rfl, .inl ⟨_, rfl, rfl⟩⟩
          | _ => exact ⟨_, t, rfl, .inr ⟨_, rfl, rfl⟩⟩

/-- The value of a module keeps to what was made since an earlier world, if the environment that it runs
in does. -/
theorem value_within {base : World} {p : Prop} (based : base.Based) (confined : base.Confines p s.world)
    (environment : base.heap.Made (s.environment none).1 ∧
      base.heap.Confines p (s.environment none).2.world.heap)
    (fresh : s.contains d.name = false) (goesOn : p ∨ ¬s.LoadAborts directory d) :
    (∀ v, (directory.value s d).1 = .ok v → v.Within (base.heap.reach p)) ∧
      base.Confines p (directory.value s d).2.world := by
  rcases value_cases directory s d with
    valued | ⟨e, -, valued⟩ | ⟨noLib, isFile, source, read, result, t, ran, ended⟩
  · rw [valued]
    have grown := tableOf_confined confined.heap flat_helperEntries
    exact ⟨fun v same => Except.ok.inj same ▸ confined.heap.grown, grown, confined.now⟩
  · rw [valued]
    exact ⟨nofun, confined⟩
  · have goesOn : p ∨ ¬(s.environment none).2.ChunkAborts source
        (ModuleDirectory.chunkName (directory.path d.moduleName)) (s.environment none).1 :=
      goesOn.imp id fun goesOn aborts => goesOn ⟨fresh, noLib, isFile, source, read, aborts⟩
    have begun : base.Confines p (s.environment none).2.world :=
      ⟨environment.2, (now_environment s none).trans confined.now⟩
    obtain ⟨-, value, world⟩ := run_within based begun environment.1 goesOn
    rw [ran] at value world
    rcases ended with ⟨e, -, valued⟩ | ⟨v, rfl, valued⟩
    · rw [valued]
      exact ⟨nofun, world⟩
    · rw [valued]
      exact ⟨fun w same => value w (by cases same; rfl), world⟩

/-- The value of a module that goes on is calm, and it leaves the heap calm. -/
theorem value_calm (calm : s.world.heap.Calm) (fresh : s.contains d.name = false)
    (goesOn : ¬s.LoadAborts directory d) :
    (∀ v, (directory.value s d).1 = .ok v → v.Within .calm) ∧
      (directory.value s d).2.world.heap.Calm := by
  obtain ⟨value, after⟩ := value_within (p := False) (Lua.World.based_bare s.world)
    ⟨calm.confined, rfl⟩ ⟨Heap.made_bare _ _, environment_bare calm none⟩ fresh
    (.inr goesOn)
  exact ⟨fun v valued => Heap.reach_bare s.world.heap ▸ value v valued, after.heap.calm⟩

/-- Loading a module that goes on leaves the heap calm. -/
theorem load_calm (calm : s.world.heap.Calm) (goesOn : ¬s.LoadAborts directory d) :
    (s.load directory d).2.world.heap.Calm := by
  rw [load]
  split
  · exact calm
  · rename_i unbound
    obtain ⟨value, heap⟩ := value_calm calm (by simpa using unbound) goesOn
    generalize directory.value s d = loaded at value heap ⊢
    obtain ⟨_ | v, after⟩ := loaded
    · exact heap
    · exact bind_calm heap d.name (value v rfl)

/-- Nothing in the heap of such a sandbox is the failure of a helper that could not go on. -/
theorem GoesOn.calm (goesOn : s.GoesOn) : s.world.heap.Calm := by
  induction goesOn with
  | create now seed => exact (stocked_create now seed).calm
  | limit n _ calm => exact calm
  | bindJson name v _ calm => exact bindJson_calm calm name v
  | load directory d _ goesOn calm => exact load_calm calm goesOn
  | @host s record _ calm =>
    have blank := calm.confined.newTable Lua.Table.within_empty
    exact (Conversion.ofMembers_confined record blank (Heap.made_bare _ _)).calm
  | evaluate source this _ goesOn calm => exact (evaluate_calm calm goesOn).2
  | release m _ calm => exact release_calm calm m
  | note level text _ calm => exact calm

end Histories

section Evaluations

/-- What an expression comes to, and what a helper does that is called. -/
structure Evaluates (s : Sandbox) (source text : String) (this : Option TableRef) : Prop where
  /-- The expression has a value, or it keeps its text and there is an error that says why. -/
  keeps : ¬s.Aborts source this →
    (∃ v, (s.evaluate source this).1 = .ok v ∧ (s.evaluateOrKeep source text this).1 = .ok v) ∨
      ∃ e, e ≠ .chunk .aborted ∧ (s.evaluate source this).1 = .error e ∧
        (s.evaluateOrKeep source text this).1 = .ok (.string text)
  /-- After it the sandbox serves the next expression. -/
  next : ¬s.Aborts source this → (s.evaluate source this).2.GoesOn
  /-- A call that a helper cannot go on with ends the whole run if it is within the limit and no frame
  catches its failure. -/
  ends : ∀ body k, compile (SelfReference.rewrite source) = .ok body →
    ((s.evaluation body this).after k).Aborts → ¬((s.evaluation body this).after k).Overruns →
    (∀ frame ∈ ((s.evaluation body this).after k).stack, frame.catches = false) →
    k + (2 + ((s.evaluation body this).after k).stack.length) < maxSteps →
    (s.evaluate source this).1 = .error (.chunk .aborted) ∧
      (s.evaluateOrKeep source text this).1 = .error .aborted
  /-- Every other call of a helper gives values or an error about an argument, at once. -/
  helpers : ∀ (f : HelperFunction) (values : List Value) (w : World), ¬f.Aborts values →
    (∀ v ∈ values, v.isAborted = false) →
    (∃ results, (w.perform (f.run values)).1 = .done results) ∨
      ∃ reason, (w.perform (f.run values)).1 = .failed (.value (.failure (.badCall reason)))

/-- Only a call of `format_date` with a date and a format in which no date can be written keeps an
expression from having a value or an error. -/
theorem evaluates (goesOn : s.GoesOn) (source text : String) (this : Option TableRef) :
    s.Evaluates source text this where
  keeps goes := by
    have settled := (evaluate_calm goesOn.calm goes).1
    rcases evaluateOrKeep_of_ne_aborted text settled with valued | ⟨e, failed, kept⟩
    · exact .inl valued
    · exact .inr ⟨e, fun same => settled (same ▸ failed), failed, kept⟩
  next goes := goesOn.evaluate source this goes
  ends body k compiled aborts within uncaught enough := by
    have aborted := evaluate_of_aborts compiled aborts within uncaught enough
    exact ⟨aborted, evaluateOrKeep_of_aborted aborted⟩
  helpers f values w goes sound := by
    rcases (f.settles goes sound).perform w with ⟨results, -, done⟩ | failed
    · exact .inl ⟨results, done⟩
    · exact .inr failed

/-- A sandbox with the helpers under the name `lib`. -/
def helped : Sandbox := ((create 0 0).load ⟨{}, ""⟩ ⟨"lib", ModuleDirectory.helperModule⟩).2

/-- A run comes to a sandbox with the helpers. -/
theorem goesOn_helped : helped.GoesOn :=
  (GoesOn.create 0 0).load _ _ fun aborts => aborts.2.1 rfl

/-- An expression in a sandbox with the helpers. -/
theorem evaluates_helped :
    helped.GoesOn ∧
      helped.Evaluates "lib.add_days('2024-01-31', 1)" "=lib.add_days('2024-01-31', 1)" none :=
  ⟨goesOn_helped, evaluates goesOn_helped _ _ _⟩

/-- A directive that is none ends the whole run, though every other mistake keeps the text. -/
theorem unwritable_format_ends_run :
    helped.GoesOn ∧
      (helped.evaluateOrKeep "lib.format_date('2024-01-01', '%Q')"
        "=lib.format_date('2024-01-01', '%Q')" none).1 = .error .aborted := by
  refine ⟨goesOn_helped, ?_⟩
  have valueless : (helped.evaluateOrKeep "lib.format_date('2024-01-01', '%Q')"
      "=lib.format_date('2024-01-01', '%Q')" none).1.toOption.isNone = true := by
    decide +kernel
  generalize (helped.evaluateOrKeep _ _ none).1 = ended at valueless ⊢
  cases ended with
  | error e => rfl
  | ok v => cases valueless

end Evaluations

end Sandbox

end TableSeed
