import TableSeed.Proofs.Lua.Confinement
import TableSeed.Proofs.Lua.LibraryReach
import TableSeed.Proofs.Lua.Steps

/-!
# What machines reach

A machine whose values all refer to what was made since a world keeps to it in every step: it changes
nothing older and comes to no value that refers to anything older. It comes to no failure of a helper
that could not go on either, unless it calls a helper that cannot.
-/

namespace TableSeed.Lua

section Parts

variable (R : Reach)

/-- The environment's values refer to no table outside of a set. -/
def Env.Within (env : Env) : Prop := Value.AllWithin R env.varargs

/-- The parts of an assignment's target refer to no table outside of a set. -/
def Assignee.Within : Assignee → Prop
  | .cell _ => True
  | .field object key => object.Within R ∧ key.Within R

/-- The assignments refer to no table outside of a set. -/
def Assignee.AllWithin (assignments : List (Assignee × Value)) : Prop :=
  ∀ e ∈ assignments, e.1.Within R ∧ e.2.Within R

/-- The loop refers to no table outside of a set. -/
def Round.Within : Round → Prop
  | .each function state control _ _ _ => function.Within R ∧ state.Within R ∧ control.Within R
  | .whileTrue _ _ | .forever _ | .count _ _ _ _ | .floats _ _ _ _ => True

/-- The task refers to no table outside of a set. -/
def Task.Within : Task → Prop
  | .invoke object _ _ _ => object.Within R
  | .store rest _ => Assignee.AllWithin R rest
  | .each function state _ _ _ => function.Within R ∧ state.Within R
  | _ => True

/-- The outcome refers to no table outside of a set. -/
def Signal.Within : Signal → Prop
  | .deliver vs | .give vs => Value.AllWithin R vs
  | .tail _ args => Value.AllWithin R args
  | .jump _ env => env.Within R
  | .raise v => v.Within R
  | .leave => True

/-- What runs refers to no table outside of a set and asks for none. -/
def Control.Within : Control → Prop
  | .signal s => s.Within R
  | .eval _ env | .exec _ env | .land _ env => env.Within R
  | .finish task vs env => task.Within R ∧ Value.AllWithin R vs ∧ env.Within R
  | .round r env => r.Within R ∧ env.Within R
  | .apply f args _ => f.Within R ∧ Value.AllWithin R args
  | .act a _ => a.Within R (Value.AllWithin R)

/-- The frame refers to no table outside of a set, and what comes after it asks for none. -/
def Frame.Within : Frame → Prop
  | .collect found _ env task => Value.AllWithin R found ∧ env.Within R ∧ task.Within R
  | .follow _ env => env.Within R
  | .loop r env => r.Within R ∧ env.Within R
  | .close v _ => v.Within R
  | .closing s => s.Within R
  | .native next _ => ∀ vs, Value.AllWithin R vs → (next vs).Within R (Value.AllWithin R)
  | .protect handler next _ => (∀ h, handler = some h → h.Within R) ∧
      ∀ outcome, Value.AllWithin R outcome.2 → (next outcome).Within R (Value.AllWithin R)
  | .handled next _ =>
    ∀ outcome, Value.AllWithin R outcome.2 → (next outcome).Within R (Value.AllWithin R)
  | .block _ | .activation _ => True

end Parts

namespace Machine

/-- The frames and the world of a machine are confined to what was made since an earlier world. -/
structure Kept (base : World) (p : Prop) (m : Machine) : Prop where
  stack : ∀ f ∈ m.stack, f.Within (base.heap.reach p)
  world : base.Confines p m.world

/-- The machine is confined to what was made since an earlier world. -/
structure Confined (base : World) (p : Prop) (m : Machine) : Prop extends Kept base p m where
  control : m.control.Within (base.heap.reach p)

variable {base : World} {p : Prop} {m : Machine} {env : Env}

/-- A machine that goes on with something within reach is confined. -/
theorem Kept.goOn (kept : m.Kept base p) {c : Control} (within : c.Within (base.heap.reach p)) :
    (m.goOn c).Confined base p := ⟨⟨kept.stack, kept.world⟩, within⟩

/-- A machine that delivers values within reach is confined. -/
theorem Kept.deliver (kept : m.Kept base p) {vs : List Value}
    (values : Value.AllWithin (base.heap.reach p) vs) : (m.deliver vs).Confined base p := kept.goOn values

/-- A machine that fails with a message is confined. -/
theorem Kept.complain (kept : m.Kept base p) (site : Site) (text : String) :
    (m.complain site text).Confined base p := kept.goOn (c := .signal (.raise _)) trivial

/-- A frame within reach may be put on the stack. -/
theorem Kept.push (kept : m.Kept base p) {f : Frame} (frame : f.Within (base.heap.reach p)) :
    (m.push f).Kept base p where
  stack := List.forall_mem_cons.mpr ⟨frame, kept.stack⟩
  world := kept.world

/-- A machine that begins an operation within reach is confined. -/
theorem Kept.operate (kept : m.Kept base p) {a : Action (List Value)} (site : Site)
    (within : a.Within (base.heap.reach p) (Value.AllWithin (base.heap.reach p))) :
    (m.operate a site).Confined base p := kept.goOn within

/-- A machine that begins an operation with one result within reach is confined. -/
theorem Kept.operate1 (kept : m.Kept base p) {a : Action Value} (site : Site)
    (within : a.Within (base.heap.reach p) (·.Within (base.heap.reach p))) :
    (m.operate1 a site).Confined base p := by
  have single (v : Value) (value : v.Within (base.heap.reach p)) :
      Value.AllWithin (base.heap.reach p) [v] := by simpa using value
  cases a with
  | done v => exact kept.deliver (single v within)
  | fail fault => exact kept.operate site within
  | ask r next => exact kept.operate site (Action.Within.bind within single)

/-- A literal refers to nothing. -/
theorem within_literal {R : Reach} (c : Literal) : c.value.Within R := by
  cases c with
  | number n => exact Value.within_ofNum n
  | _ => trivial

/-- A value that is found at once is within reach. -/
theorem Kept.immediate (kept : m.Kept base p) {e : Expr} {v : Value}
    (found : immediate? e env m.world.heap = some v) : v.Within (base.heap.reach p) := by
  unfold immediate? at found
  split at found <;> cases found
  · exact within_literal _
  · exact kept.world.heap.cell _

/-- Gathering expressions keeps a machine confined. -/
theorem Kept.gather (kept : m.Kept base p) (scope : env.Within (base.heap.reach p)) {t : Task}
    (within : t.Within (base.heap.reach p)) (es : List Expr) {found : List Value}
    (values : Value.AllWithin (base.heap.reach p) found) :
    (m.gather env t es found).Confined base p := by
  induction es generalizing found with
  | nil => exact kept.goOn ⟨within, (Value.allWithin_reverse found).mpr values, scope⟩
  | cons e rest ih =>
    rw [Machine.gather]
    split
    · exact ih ((Value.allWithin_cons _ _).mpr ⟨kept.immediate (by assumption), values⟩)
    · exact (kept.push (f := .collect found rest env t) ⟨values, scope, within⟩).goOn scope

/-- Evaluating an expression keeps a machine confined. -/
theorem Kept.eval (kept : m.Kept base p) (e : Expr) (scope : env.Within (base.heap.reach p)) :
    (m.eval e env).Confined base p := by
  have none : Value.AllWithin (base.heap.reach p) [] := Value.allWithin_nil
  have one {v : Value} (value : v.Within (base.heap.reach p)) : Value.AllWithin (base.heap.reach p) [v] :=
    (Value.allWithin_cons _ _).mpr ⟨value, none⟩
  cases e with
  | const c => exact kept.deliver (one (within_literal c))
  | var n name => exact kept.deliver (one (kept.world.heap.cell _))
  | vararg => exact kept.deliver scope
  | lambda body =>
    exact ⟨⟨kept.stack, kept.world.heap.newClosure _, kept.world.now⟩, one trivial⟩
  | _ =>
    refine kept.gather scope ?_ _ none
    trivial

/-- A task within reach may be awaited. -/
theorem Kept.await (kept : m.Kept base p) (scope : env.Within (base.heap.reach p)) {t : Task}
    (within : t.Within (base.heap.reach p)) : (m.await env t).Kept base p :=
  kept.push (f := .collect [] [] env t) ⟨Value.allWithin_nil, scope, within⟩

/-- The rest of a block may be put off. -/
theorem Kept.before (kept : m.Kept base p) (rest : List Stat) (scope : env.Within (base.heap.reach p)) :
    (m.before rest env).Kept base p := by
  cases rest with
  | nil => exact kept
  | cons stat rest => exact kept.push (f := .follow (stat :: rest) env) scope

/-- The body of a loop may be run within the round that it belongs to. -/
theorem Kept.runBody (kept : m.Kept base p) {r : Round} (round : r.Within (base.heap.reach p))
    (scope : env.Within (base.heap.reach p)) (body : List Stat) {inner : Env}
    (within : inner.Within (base.heap.reach p)) : (m.runBody r env body inner).Confined base p :=
  ((kept.push (f := .loop r env) ⟨round, scope⟩).push (f := .block body) trivial).goOn within

/-- A new variable with a value within reach keeps frames and world confined. -/
theorem Kept.bindCell (kept : m.Kept base p) {v : Value} (value : v.Within (base.heap.reach p))
    (env : Env) : (m.bindCell env v).2.2.Kept base p :=
  ⟨kept.stack, kept.world.heap.newCell value, kept.world.now⟩

/-- A loop enters its body with a variable of its own. -/
theorem Kept.enter (kept : m.Kept base p) {r : Round} (round : r.Within (base.heap.reach p))
    (scope : env.Within (base.heap.reach p)) (body : List Stat) {v : Value}
    (value : v.Within (base.heap.reach p)) :
    ((m.bindCell env v).2.2.runBody r env body (m.bindCell env v).2.1).Confined base p :=
  (kept.bindCell value env).runBody round scope body scope

/-- New variables with values within reach keep frames and world confined. -/
theorem Kept.bindCells (kept : m.Kept base p) {vs : List Value}
    (values : Value.AllWithin (base.heap.reach p) vs) (env : Env) : (m.bindCells env vs).2.Kept base p :=
  ⟨kept.stack, kept.world.heap.newCells env.vars values, kept.world.now⟩

/-- New variables come into a scope that refers to what it did before. -/
theorem within_bindCells {R : Reach} (scope : env.Within R) (vs : List Value) :
    (m.bindCells env vs).1.Within R := scope

/-- Executing a block keeps a machine confined. -/
theorem Kept.exec (kept : m.Kept base p) (body : List Stat) (scope : env.Within (base.heap.reach p)) :
    (m.exec env body).Confined base p := by
  have none : Value.AllWithin (base.heap.reach p) [] := Value.allWithin_nil
  cases body with
  | nil => exact kept.deliver none
  | cons stat rest =>
    have waiting := kept.before rest scope
    cases stat with
    | locals | give =>
      refine kept.gather scope ?_ _ none
      trivial
    | giveCall e =>
      cases e <;>
      · refine kept.gather scope ?_ _ none
        trivial
    | assign | whileLoop | leaveIf | branch | numericFor | genericFor =>
      refine waiting.gather scope ?_ _ none
      trivial
    | call e => exact waiting.goOn scope
    | block body => exact (waiting.push (f := .block body) trivial).goOn scope
    | loop body => exact waiting.goOn ⟨trivial, scope⟩
    | localFunction body =>
      have bound := (kept.bindCell Value.within_nil env).world.heap
      exact ⟨⟨kept.stack, (bound.newClosure _).setCell _ trivial, kept.world.now⟩, scope⟩
    | leave => exact kept.goOn (c := .signal .leave) trivial
    | jump label => exact kept.goOn (c := .signal (.jump label env)) scope
    | label => exact kept.goOn scope

/-- Values stay within reach when they are made as many as variables. -/
theorem allWithin_adjust {R : Reach} (n : Nat) {vs : List Value}
    (values : Value.AllWithin R vs) : Value.AllWithin R (adjust n vs) := by
  induction n generalizing vs with
  | zero => exact Value.allWithin_nil
  | succ n ih =>
    cases vs with
    | nil => exact (Value.allWithin_cons _ _).mpr ⟨trivial, ih values⟩
    | cons v rest =>
      rw [Value.allWithin_cons] at values
      exact (Value.allWithin_cons _ _).mpr ⟨values.1, ih values.2⟩

/-- What a value stands for when it is called, and the arguments it is given. -/
theorem callable_within {h : Heap} (confined : base.heap.Confines p h) (fuel : Nat) {f g : Value}
    {args given : List Value} (function : f.Within (base.heap.reach p))
    (values : Value.AllWithin (base.heap.reach p) args)
    (found : callable h fuel f args = .ok (g, given)) :
    g.Within (base.heap.reach p) ∧ Value.AllWithin (base.heap.reach p) given := by
  induction fuel generalizing f args with
  | zero => cases found
  | succ fuel ih =>
    unfold callable at found
    split at found
    · cases found
      exact ⟨function, values⟩
    · cases found
      exact ⟨function, values⟩
    · dsimp only at found
      split at found
      · cases found
      · exact ih (confined.metafield function _)
          ((Value.allWithin_cons _ _).mpr ⟨function, values⟩) found

/-- A helper is called that cannot go on. -/
def Aborts (m : Machine) : Prop :=
  ∃ f args caller b given, m.control = .apply f args caller ∧
    callable m.world.heap maxCallables f args = .ok (.builtin b, given) ∧ b.Aborts given

/-- Calling a function within reach keeps a machine confined, unless it calls a helper that cannot
go on where none may. -/
theorem Kept.apply (kept : m.Kept base p) {f : Value} {args : List Value}
    (function : f.Within (base.heap.reach p)) (values : Value.AllWithin (base.heap.reach p) args)
    (caller : Site)
    (goesOn : p ∨ ∀ b given, callable m.world.heap maxCallables f args = .ok (.builtin b, given) →
      ¬b.Aborts given) : (m.apply f args caller).Confined base p := by
  unfold Machine.apply
  split
  · exact kept.complain caller _
  · rename_i r given found
    obtain ⟨-, within⟩ := callable_within kept.world.heap _ function values found
    split
    · exact kept.complain caller _
    · dsimp only
      generalize m.world.heap.closure r = c
      obtain ⟨⟨params, variadic, body⟩, vars, chunk⟩ := c
      have scope : Env.Within (base.heap.reach p)
          ⟨vars, if variadic then given.drop params else [], chunk⟩ := by
        unfold Env.Within
        dsimp only
        split
        · exact within.drop params
        · exact Value.allWithin_nil
      have bound := kept.bindCells (allWithin_adjust params within)
        ⟨vars, if variadic then given.drop params else [], chunk⟩
      exact ((bound.push (f := .activation caller) trivial).push (f := .block body) trivial).goOn
        (within_bindCells scope _)
  · rename_i b given found
    obtain ⟨function, given⟩ := callable_within kept.world.heap _ function values found
    exact kept.goOn (Builtin.run_within function given (goesOn.imp_right fun goesOn => goesOn b _ found))
  · exact kept.complain caller _

/-- Putting waiting items within reach into a table keeps the table within reach. -/
theorem flush_within {R : Reach} {t : Table} (table : t.Within R) {pending : List Value}
    (values : Value.AllWithin R pending) (next : Nat) : (flush t pending next).Within R := by
  have filled (vs : List Value) (values : Value.AllWithin R vs) (acc : Table × Nat)
      (table : acc.1.Within R) : ((vs.foldl (fun (acc : Table × Nat) v =>
        (acc.1.set (.integer (Int64.ofNat acc.2)) v, acc.2 + 1)) acc).1).Within R := by
    induction vs generalizing acc with
    | nil => exact table
    | cons v rest ih =>
      rw [Value.allWithin_cons] at values
      exact ih values.2 _ (table.set (Key.within_integer _) values.1)
  exact filled _ ((Value.allWithin_reverse _).mpr values) _ table

/-- The table and the items that wait after as many as may wait have been put into the table. -/
theorem flushed_within {R : Reach} {t s : Table} {pending left : List Value}
    {count next count' next' : Nat} (table : t.Within R) (waiting : Value.AllWithin R pending)
    (flushed : (if count = maxPending then (flush t pending next, [], 0, next + count)
      else (t, pending, count, next)) = (s, left, count', next')) :
    s.Within R ∧ Value.AllWithin R left := by
  split at flushed <;> cases flushed
  · exact ⟨flush_within table waiting next, Value.allWithin_nil⟩
  · exact ⟨table, waiting⟩

/-- A table that is filled with values. -/
theorem fillTable_within {R : Reach} {t filled : Table} (table : t.Within R)
    (kinds : List Bool) {vs pending : List Value} (values : Value.AllWithin R vs)
    (waiting : Value.AllWithin R pending) (count next : Nat)
    (found : fillTable t kinds vs pending count next = .ok filled) : filled.Within R := by
  fun_induction fillTable t kinds vs pending count next with
  | case1 => cases found; exact flush_within table waiting _
  | case2 t kinds vs pending count next t' pending' count' next' flushed last all =>
    cases found
    obtain ⟨table, waiting⟩ := flushed_within table waiting flushed
    exact flush_within (table.growArray _)
      ((Value.allWithin_append _ _).mpr ⟨(Value.allWithin_reverse _).mpr values, waiting⟩) _
  | case3 t kinds pending count next t' pending' count' next' flushed last v vs ih =>
    obtain ⟨table, waiting⟩ := flushed_within table waiting flushed
    rw [Value.allWithin_cons] at values
    exact ih table values.2 ((Value.allWithin_cons _ _).mpr ⟨values.1, waiting⟩) found
  | case4 t kinds pending count next t' pending' count' next' flushed last ih =>
    obtain ⟨table, waiting⟩ := flushed_within table waiting flushed
    exact ih table values ((Value.allWithin_cons _ _).mpr ⟨trivial, waiting⟩) found
  | case5 t kinds vs pending count next t' pending' count' next' flushed k key isKey ih =>
    obtain ⟨table, waiting⟩ := flushed_within table waiting flushed
    exact ih (table.set (Key.within_of_toKey? isKey values.headD) (values.getD 1)) (values.drop 2)
      waiting found
  | case6 => cases found

/-- Constructing a table from values within reach keeps a machine confined. -/
theorem Kept.construct (kept : m.Kept base p) (items entries : Nat) (kinds : List Bool)
    {vs : List Value} (values : Value.AllWithin (base.heap.reach p) vs) (site : Site) :
    (m.construct items entries kinds vs site).Confined base p := by
  unfold Machine.construct
  split
  · exact kept.complain site _
  · rename_i t filled
    have table := fillTable_within (Table.within_withRoom items entries) kinds values
      Value.allWithin_nil 0 1 filled
    exact ⟨⟨kept.stack, kept.world.heap.newTable table, kept.world.now⟩,
      (Value.allWithin_cons _ _).mpr ⟨kept.world.heap.grown, Value.allWithin_nil⟩⟩

/-- The variable to close has a value within reach. -/
theorem toClose_within {R : Reach} (kinds : List LocalKind) {vs : List Value}
    (values : Value.AllWithin R vs) {v : Value} (found : toClose? kinds vs = some v) :
    v.Within R := by
  fun_induction toClose? kinds vs with
  | case1 kinds w vs =>
    cases found
    exact ((Value.allWithin_cons _ _).mp values).1
  | case2 kind kinds w vs _ ih => exact ih ((Value.allWithin_cons _ _).mp values).2 found
  | case3 => cases found

/-- Declaring local variables keeps a machine confined. -/
theorem Kept.declare (kept : m.Kept base p) (kinds : List LocalKind) (rest : List Stat) (line : Nat)
    {vs : List Value} (values : Value.AllWithin (base.heap.reach p) vs)
    (scope : env.Within (base.heap.reach p)) :
    (m.declare kinds rest line vs env).Confined base p := by
  have values := allWithin_adjust kinds.length values
  have bound := kept.bindCells values env
  unfold Machine.declare
  dsimp only
  split
  · exact bound.goOn scope
  · rename_i v found
    split
    · exact (bound.push (f := .close v rest) (toClose_within kinds values found)).goOn scope
    · exact kept.complain _ _

/-- The targets of an assignment are within reach, and so are the values for them. -/
theorem assignees_within {R : Reach} (env : Env) (targets : List Target)
    {vs : List Value} (values : Value.AllWithin R vs) :
    (∀ a ∈ (assignees env targets vs).1, a.Within R) ∧
      Value.AllWithin R (assignees env targets vs).2 := by
  induction targets generalizing vs with
  | nil =>
    rw [assignees]
    exact ⟨fun _ mem => absurd mem List.not_mem_nil, values⟩
  | cons target rest ih =>
    cases target with
    | cell n =>
      obtain ⟨found, left⟩ := ih values
      rw [assignees]
      exact ⟨List.forall_mem_cons.mpr ⟨trivial, found⟩, left⟩
    | field =>
      obtain ⟨found, left⟩ := ih (values.drop 2)
      rw [assignees]
      exact ⟨List.forall_mem_cons.mpr ⟨⟨values.headD, values.getD 1⟩, found⟩, left⟩

/-- Assigning values within reach keeps a machine confined. -/
theorem Kept.store (kept : m.Kept base p) (scope : env.Within (base.heap.reach p)) (line : Nat)
    {assignments : List (Assignee × Value)}
    (within : Assignee.AllWithin (base.heap.reach p) assignments) :
    (m.store env line assignments).Confined base p := by
  induction assignments generalizing m with
  | nil => exact kept.deliver Value.allWithin_nil
  | cons first rest ih =>
    obtain ⟨⟨target, value⟩, later⟩ := List.forall_mem_cons.mp within
    obtain ⟨r | ⟨o, k⟩, v⟩ := first
    · exact ih ⟨kept.stack, kept.world.heap.setCell r value, kept.world.now⟩ later
    · have stored : ((Value.setIndex o k v).bind fun _ => .done []).Within (base.heap.reach p)
          (Value.AllWithin (base.heap.reach p)) :=
        (Value.setIndex_within target.1 target.2 value).bind fun _ _ => Value.allWithin_nil
      cases rest with
      | nil => exact kept.operate _ stored
      | cons e rest => exact (kept.await (t := .store (e :: rest) line) scope later).operate _ stored

/-- Starting a counting loop keeps a machine confined. -/
theorem Kept.startCount (kept : m.Kept base p) (vs : List Value) (body : List Stat) (line : Nat)
    (scope : env.Within (base.heap.reach p)) : (m.startCount vs body line env).Confined base p := by
  have none : (m.deliver []).Confined base p := kept.deliver Value.allWithin_nil
  have failed (text : String) : (m.complain (env.site line) text).Confined base p :=
    kept.complain _ text
  unfold Machine.startCount
  dsimp only
  split
  · split
    · exact failed _
    · split
      · exact failed _
      · split
        · exact none
        · split
          · exact none
          · exact kept.enter (r := .count _ _ _ body) trivial scope body (Value.within_integer _)
  · split
    · exact failed _
    · exact failed _
    · exact failed _
    · split
      · exact failed _
      · split <;> split
        all_goals first
          | exact none
          | exact kept.enter (r := .floats _ _ _ body) trivial scope body (Value.within_float _)

/-- Starting a loop over an iterator keeps a machine confined. -/
theorem Kept.startEach (kept : m.Kept base p) {vs : List Value}
    (values : Value.AllWithin (base.heap.reach p) vs) (names : Nat) (body : List Stat) (line : Nat)
    (scope : env.Within (base.heap.reach p)) : (m.startEach vs names body line env).Confined base p := by
  have round : Round.Within (base.heap.reach p)
      (.each (vs.headD .nil) (vs.getD 1 .nil) (vs.getD 2 .nil) names body line) :=
    ⟨values.headD, values.getD 1, values.getD 2⟩
  unfold Machine.startEach
  dsimp only
  split
  · exact kept.goOn ⟨round, scope⟩
  · split
    · exact (kept.push (f := .close (vs.getD 3 .nil) []) (values.getD 3)).goOn ⟨round, scope⟩
    · exact kept.complain _ _

/-- Starting a round of a loop keeps a machine confined. -/
theorem Kept.startRound (kept : m.Kept base p) {r : Round} (round : r.Within (base.heap.reach p))
    (scope : env.Within (base.heap.reach p)) : (m.startRound r env).Confined base p := by
  cases r with
  | whileTrue c body => exact kept.gather (t := .whileTest c body) scope trivial _ Value.allWithin_nil
  | forever body => exact kept.runBody (r := .forever body) trivial scope body scope
  | count rounds current step body =>
    cases rounds with
    | zero => exact kept.deliver Value.allWithin_nil
    | succ n =>
      exact kept.enter (r := .count n _ step body) trivial scope body (Value.within_integer _)
  | floats x limit step body =>
    unfold Machine.startRound
    dsimp only
    split <;> split
    all_goals first
      | exact kept.enter (r := .floats _ limit step body) trivial scope body (Value.within_float _)
      | exact kept.deliver Value.allWithin_nil
  | each f state control names body line =>
    obtain ⟨function, state, control⟩ := round
    refine (kept.await (t := .each f _ names body line) scope ⟨function, state⟩).goOn
      (c := .apply _ _ _) ⟨function, ?_⟩
    simpa using ⟨state, control⟩

/-- Calling the first of several values keeps a machine confined. -/
theorem Kept.callFirst (kept : m.Kept base p) (tail : Bool) (line : Nat) {vs : List Value}
    (values : Value.AllWithin (base.heap.reach p) vs) (scope : env.Within (base.heap.reach p)) :
    (m.callFirst tail line vs env).Confined base p := by
  unfold Machine.callFirst
  dsimp only
  split
  · split
    · exact kept.goOn (c := .signal (.tail _ _)) values.tail
    · exact (kept.await (t := .give) scope trivial).goOn (c := .apply _ _ _)
        ⟨values.headD, values.tail⟩
  · exact kept.goOn (c := .apply _ _ _) ⟨values.headD, values.tail⟩

/-- Finishing a task keeps a machine confined. -/
theorem Kept.finish (kept : m.Kept base p) {task : Task} (within : task.Within (base.heap.reach p))
    {vs : List Value} (values : Value.AllWithin (base.heap.reach p) vs)
    (scope : env.Within (base.heap.reach p)) : (m.finish task vs env).Confined base p := by
  have none : Value.AllWithin (base.heap.reach p) [] := Value.allWithin_nil
  have one {v : Value} (value : v.Within (base.heap.reach p)) : Value.AllWithin (base.heap.reach p) [v] :=
    (Value.allWithin_cons _ _).mpr ⟨value, none⟩
  have first := values.headD
  cases task with
  | first => exact kept.deliver (one first)
  | index line => exact kept.operate1 _ (Value.index_within first (values.getD 1))
  | binary op line => exact kept.operate1 _ (Value.binary_within op first (values.getD 1))
  | unary op line => exact kept.operate1 _ (Value.unary_within op first)
  | call tail line => exact kept.callFirst tail line values scope
  | select name args tail line =>
    exact (kept.await (t := .invoke _ args tail line) scope first).operate1 _
      (Value.index_within first (Value.within_string name))
  | invoke o args tail line =>
    exact kept.gather (t := .call tail line) scope trivial args
      ((Value.allWithin_cons _ _).mpr ⟨within, one first⟩)
  | both right | either right =>
    unfold Machine.finish
    dsimp only
    split
    all_goals first
      | exact kept.gather (t := .first) scope trivial _ none
      | exact kept.deliver (one first)
  | table items entries kinds line => exact kept.construct items entries kinds values _
  | give => exact kept.goOn (c := .signal (.give vs)) values
  | declare kinds rest line => exact kept.declare kinds rest line values scope
  | assign targets line =>
    obtain ⟨found, left⟩ := assignees_within env targets values
    refine kept.store scope line fun e mem => ?_
    obtain ⟨target, value⟩ := List.of_mem_zip (List.mem_reverse.mp mem)
    exact ⟨found _ target, allWithin_adjust _ left _ value⟩
  | store rest line => exact kept.store scope line within
  | branch body otherwise =>
    unfold Machine.finish
    dsimp only
    generalize (if (vs.headD .nil).truthy = true then body else otherwise) = chosen
    cases chosen with
    | nil => exact kept.deliver none
    | cons stat rest => exact (kept.push (f := .block (stat :: rest)) trivial).goOn scope
  | whileTest c body =>
    unfold Machine.finish
    dsimp only
    split
    · exact kept.runBody (r := .whileTrue c body) trivial scope body scope
    · exact kept.deliver none
  | leaveIf =>
    unfold Machine.finish
    dsimp only
    split
    · exact kept.goOn (c := .signal .leave) trivial
    · exact kept.deliver none
  | numericFor body line => exact kept.startCount vs body line scope
  | genericFor names body line => exact kept.startEach values names body line scope
  | each f state names body line =>
    unfold Machine.finish
    dsimp only
    split
    · exact kept.deliver none
    · exact (kept.bindCells (allWithin_adjust names values) env).runBody
        (r := .each f state _ names body line) ⟨within.1, within.2, first⟩ scope body scope

/-- Performing an action within reach keeps a machine confined. What the action leaves is confined
already, so each outcome only has to be put into place. -/
theorem Kept.act (kept : m.Kept base p) (based : base.Based) {a : Action (List Value)}
    (within : a.Within (base.heap.reach p) (Value.AllWithin (base.heap.reach p))) (place : Place) :
    (m.act a place).Confined base p := by
  obtain ⟨reached, confined⟩ := World.perform_within based within kept.world
  obtain ⟨control, stack, depth, natives, world, meter⟩ := m
  unfold Machine.act
  dsimp only at reached confined ⊢
  generalize world.perform a = performed at reached confined
  obtain ⟨progress, after⟩ := performed
  have raised (text : String) : Confined base p
      ⟨.signal (.raise (.ofText text)), stack, depth, natives, after, meter⟩ :=
    ⟨⟨kept.stack, confined⟩, trivial⟩
  have entered {f : Frame} (waiting : f.Within (base.heap.reach p)) {v : Value} {args : List Value}
      (function : v.Within (base.heap.reach p)) (values : Value.AllWithin (base.heap.reach p) args) :
      Confined base p
        (if natives ≥ maxNatives then
          ⟨.signal (.raise (.ofText "C stack overflow")), stack, depth, natives, after, meter⟩
        else (Machine.push ⟨.apply v args place.own, stack, depth, natives, after, meter⟩ f)) := by
    split
    · exact raised _
    · exact ⟨⟨List.forall_mem_cons.mpr ⟨waiting, kept.stack⟩, confined⟩, function, values⟩
  cases progress with
  | done vs => exact ⟨⟨kept.stack, confined⟩, reached⟩
  | failed fault =>
    cases fault with
    | value v => exact ⟨⟨kept.stack, confined⟩, reached⟩
    | here text | caller text => exact raised _
  | calling f args next =>
    exact entered (f := .native next place) reached.2.2 reached.1 reached.2.1
  | attempting f args handler next =>
    exact entered (f := .protect handler next place) reached.2.2 reached.1 reached.2.1
  | locating level next => exact ⟨⟨kept.stack, confined⟩, reached _⟩

/-- Closing a variable keeps a machine confined. -/
theorem Kept.closeWith (kept : m.Kept base p) {v error : Value} (value : v.Within (base.heap.reach p))
    (cause : error.Within (base.heap.reach p)) {s : Signal} (signal : s.Within (base.heap.reach p)) :
    (m.closeWith v error s).Confined base p := by
  unfold Machine.closeWith
  split
  · refine (kept.push (f := .closing s) signal).goOn (c := .apply _ _ _)
      ⟨kept.world.heap.metafield value _, ?_⟩
    simpa using ⟨value, cause⟩
  · exact kept.goOn signal

/-- A frame takes an outcome that it waits for, and lets the others pass to the frame below. -/
theorem Kept.resume (kept : m.Kept base p) {frame : Frame} (waiting : frame.Within (base.heap.reach p))
    {s : Signal} (signal : s.Within (base.heap.reach p)) : (m.resume frame s).Confined base p := by
  have passed : (m.goOn (.signal s)).Confined base p := kept.goOn signal
  have none : Value.AllWithin (base.heap.reach p) [] := Value.allWithin_nil
  have one {v : Value} (value : v.Within (base.heap.reach p)) : Value.AllWithin (base.heap.reach p) [v] :=
    (Value.allWithin_cons _ _).mpr ⟨value, none⟩
  cases frame with
  | collect found rest env task =>
    obtain ⟨values, scope, within⟩ := waiting
    cases s with
    | deliver vs =>
      cases rest with
      | nil =>
        exact kept.goOn (c := .finish _ _ _) ⟨within,
          (Value.allWithin_append _ _).mpr ⟨(Value.allWithin_reverse _).mpr values, signal⟩, scope⟩
      | cons e rest =>
        exact kept.gather scope within _
          ((Value.allWithin_cons _ _).mpr ⟨Value.AllWithin.headD signal, values⟩)
    | _ => exact passed
  | follow rest env =>
    cases s with
    | deliver vs => exact kept.goOn (c := .exec _ _) waiting
    | _ => exact passed
  | block body =>
    cases s with
    | jump label env =>
      simp only [Machine.resume]
      split
      · exact (kept.push (f := .block body) trivial).goOn (c := .land _ _) signal
      · exact passed
    | _ => exact passed
  | loop r env =>
    cases s with
    | deliver vs => exact kept.goOn (c := .round _ _) waiting
    | leave => exact kept.deliver none
    | _ => exact passed
  | close v rest =>
    cases s with
    | raise e => exact kept.closeWith waiting signal signal
    | jump label env =>
      simp only [Machine.resume]
      split
      · exact (kept.push (f := .close v rest) waiting).goOn (c := .land _ _) signal
      · exact kept.closeWith waiting Value.within_nil signal
    | _ => exact kept.closeWith waiting Value.within_nil signal
  | closing outcome =>
    cases s with
    | deliver vs => exact kept.goOn (c := .signal _) waiting
    | _ => exact passed
  | activation caller =>
    cases s with
    | deliver vs => exact kept.deliver none
    | give vs => exact kept.deliver signal
    | tail f args => exact kept.goOn (c := .apply _ _ _) ⟨trivial, signal⟩
    | _ => exact passed
  | native next place =>
    cases s with
    | deliver vs => exact kept.goOn (c := .act _ _) (waiting vs signal)
    | _ => exact passed
  | protect handler next place =>
    obtain ⟨handled, later⟩ := waiting
    cases s with
    | deliver vs => exact kept.goOn (c := .act _ _) (later (true, vs) signal)
    | raise v =>
      cases handler with
      | none => exact kept.goOn (c := .act _ _) (later (false, [v]) (one signal))
      | some h =>
        exact (kept.push (f := .handled next place) later).goOn (c := .apply _ _ _)
          ⟨handled h rfl, one signal⟩
    | _ => exact passed
  | handled next place =>
    cases s with
    | deliver vs =>
      exact kept.goOn (c := .act _ _)
        (waiting (false, [_]) (one (Value.AllWithin.headD signal)))
    | raise v => exact kept.goOn (c := .act _ _) (waiting (false, [v]) (one signal))
    | _ => exact passed

/-- Receiving an outcome keeps a machine confined. -/
theorem Kept.receive (kept : m.Kept base p) {s : Signal} (signal : s.Within (base.heap.reach p))
    (settled : m.control.Within (base.heap.reach p)) : (m.receive s).Confined base p := by
  obtain ⟨control, stack, depth, natives, world, meter⟩ := m
  cases stack with
  | nil => exact ⟨kept, settled⟩
  | cons frame stack =>
    obtain ⟨waiting, others⟩ := List.forall_mem_cons.mp kept.stack
    exact Kept.resume (m := ⟨.signal .leave, stack, if frame.isActivation then depth - 1 else depth,
      if frame.isNative then natives - 1 else natives, world, meter⟩) ⟨others, kept.world⟩ waiting signal

/-- What a step does apart from its count. -/
theorem Confined.proceed (confined : m.Confined base p) (based : base.Based)
    (goesOn : p ∨ ¬m.Aborts) : m.proceed.Confined base p := by
  obtain ⟨control, stack, depth, natives, world, meter⟩ := m
  obtain ⟨kept, within⟩ := confined
  cases control with
  | signal s => exact kept.receive within within
  | eval e env => exact kept.eval e within
  | exec body env => exact kept.exec body within
  | land body env => exact kept.exec body within
  | finish task vs env => exact kept.finish within.1 within.2.1 within.2.2
  | round r env => exact kept.startRound within.1 within.2
  | apply f args caller =>
    exact kept.apply within.1 within.2 caller <| goesOn.imp_right fun goesOn b given found aborts =>
      goesOn ⟨f, args, caller, b, given, rfl, found, aborts⟩
  | act a place => exact kept.act based within place

/-- Another meter keeps a machine confined. -/
theorem Confined.metered (confined : m.Confined base p) (μ : Meter) : (m.metered μ).Confined base p :=
  ⟨⟨confined.stack, confined.world⟩, confined.control⟩

/-- A step of a confined machine. -/
theorem Confined.step (confined : m.Confined base p) (based : base.Based) (goesOn : p ∨ ¬m.Aborts) :
    m.step.Confined base p := by
  by_cases isCounted : m.control.isCounted = true
  · by_cases within : m.meter.count.2 = none
    · rw [step_of_within isCounted within]
      exact (confined.proceed based goesOn).metered _
    · rw [step_of_overruns ⟨isCounted, within⟩]
      exact ⟨⟨confined.stack, confined.world⟩, trivial⟩
  · rw [step_eq, if_neg isCounted]
    exact confined.proceed based goesOn

/-- A confined machine stays confined as long as it calls no helper that cannot go on, and for good
where that does not count. -/
theorem Confined.after (confined : m.Confined base p) (based : base.Based) (k : Nat)
    (goesOn : p ∨ ∀ j < k, ¬(m.after j).Aborts) : (m.after k).Confined base p := by
  induction k with
  | zero => exact confined
  | succ k ih =>
    exact (ih (goesOn.imp_right fun all j less => all j (Nat.lt_succ_of_lt less))).step based
      (goesOn.imp_right fun all => all k (Nat.lt_succ_self k))

end Machine

end TableSeed.Lua
