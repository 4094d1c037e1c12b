import TableSeed.Lua.Library
import TableSeed.Lua.State

/-!
# The machine

`Machine.step` does one small step; `Machine.run` repeats it up to a number of times. Every
infinite run finishes tasks, starts rounds of loops, applies functions or lands after labels again
and again, and each of these counts as an instruction.
-/

namespace TableSeed.Lua

namespace Machine

/-- The number of calls of functions written in Lua that may be open. -/
def maxDepth : Nat := 190000

/-- The number of calls by library functions and operations that may be open. -/
def maxNatives : Nat := 195

/-- How often a value that is no function may stand for another one. -/
def maxCallables : Nat := 100

/-- Puts a frame on the stack. -/
@[inline] def push (m : Machine) (f : Frame) : Machine :=
  let { control, stack, depth, natives, world, meter } := m
  { control, stack := f :: stack, depth := if f.isActivation then depth + 1 else depth,
    natives := if f.isNative then natives + 1 else natives, world, meter }

/-- Goes on with something else. -/
@[inline] def goOn (m : Machine) (control : Control) : Machine :=
  let { control := _, stack, depth, natives, world, meter } := m
  { control, stack, depth, natives, world, meter }

/-- Changes the heap. -/
@[inline] def mapHeap (m : Machine) (f : Heap → Heap) : Machine :=
  let { control, stack, depth, natives, world, meter } := m
  { control, stack, depth, natives, world := world.mapHeap f, meter }

/-- Delivers values. -/
@[inline] def deliver (m : Machine) (vs : List Value) : Machine := m.goOn (.signal (.deliver vs))

/-- Raises an error value. -/
def raise (m : Machine) (v : Value) : Machine := m.goOn (.signal (.raise v))

/-- Raises a message about a site. -/
def complain (m : Machine) (site : Site) (text : String) : Machine :=
  m.raise (.ofText (site.text ++ text))

/-- Runs an operation for a line of Lua. -/
@[inline] def operate (m : Machine) (a : Action (List Value)) (site : Site) : Machine :=
  m.goOn (.act a ⟨site, .native⟩)

/-- Runs an operation that has one result. -/
@[inline] def operate1 (m : Machine) (a : Action Value) (site : Site) : Machine :=
  match a with
  | .done v => m.deliver [v]
  | a => m.operate (a.bind fun v => .done [v]) site

/-- The site of a call: level 0 is the function at work, level 1 its caller and so on. -/
def siteOf (place : Place) (stack : List Frame) : Nat → Site
  | 0 => place.own
  | 1 => place.caller
  | n + 2 => (stack.filterMap Frame.caller?).getD n .native

/-- The value of an expression that needs no step. -/
@[inline] def immediate? (e : Expr) (env : Env) (h : Heap) : Option Value :=
  match e with
  | .const c => some c.value
  | .var n _ => some (h.cell (env.vars.getD n ⟨0⟩))
  | _ => none

/-- Evaluates expressions one after the other, for a task; values found so far come last first. -/
def gather (m : Machine) (env : Env) (task : Task) : List Expr → List Value → Machine
  | [], found => m.goOn (.finish task found.reverse env)
  | e :: rest, found =>
    match immediate? e env m.world.heap with
    | some v => gather m env task rest (v :: found)
    | none => (m.push (.collect found rest env task)).goOn (.eval e env)

/-- Waits for one outcome, for a task. -/
@[inline] def await (m : Machine) (env : Env) (task : Task) : Machine :=
  m.push (.collect [] [] env task)

/-- The expressions of table fields in the order of their evaluation. -/
def fieldExprs : List Field → List Expr
  | [] => []
  | .item e :: rest => e :: fieldExprs rest
  | .entry k v :: rest => k :: v :: fieldExprs rest

/-- Which table fields are list items. -/
def fieldKinds : List Field → List Bool
  | [] => []
  | .item _ :: rest => true :: fieldKinds rest
  | .entry _ _ :: rest => false :: fieldKinds rest

/-- The parts of targets that are evaluated before the values. -/
def targetExprs : List Expr → List Expr
  | [] => []
  | .index o k _ :: rest => o :: k :: targetExprs rest
  | _ :: rest => targetExprs rest

/-- The targets of an assignment. -/
def targetKinds : List Expr → List Target
  | [] => []
  | .var n _ :: rest => .cell n :: targetKinds rest
  | _ :: rest => .field :: targetKinds rest

/-- Evaluates an expression. -/
def eval (m : Machine) (e : Expr) (env : Env) : Machine :=
  match e with
  | .const c => m.deliver [c.value]
  | .var n _ => m.deliver [m.world.heap.cell (env.vars.getD n ⟨0⟩)]
  | .vararg => m.deliver env.varargs
  | .index o k line => m.gather env (.index line) [o, k] []
  | .call f args line => m.gather env (.call false line) (f :: args) []
  | .method o name args line => m.gather env (.select name args false line) [o] []
  | .lambda body =>
    let { control := _, stack, depth, natives, world, meter } := m
    let { heap, log, now, entropy } := world
    let (r, heap) := heap.newClosure ⟨body, env.vars, env.chunk⟩
    { control := .signal (.deliver [.closure r]), stack, depth, natives,
      world := { heap, log, now, entropy }, meter }
  | .both a b => m.gather env (.both b) [a] []
  | .either a b => m.gather env (.either b) [a] []
  | .binary op a b line => m.gather env (.binary op line) [a, b] []
  | .unary op a line => m.gather env (.unary op line) [a] []
  | .paren e => m.gather env .first [e] []
  | .table items entries fields line =>
    m.gather env (.table items entries (fieldKinds fields) line) (fieldExprs fields) []

/-- Executes the body of a loop as a block and then goes on with the loop. -/
@[inline] def runBody (m : Machine) (r : Round) (env : Env) (body : List Stat) (inner : Env) : Machine :=
  ((m.push (.loop r env)).push (.block body)).goOn (.exec body inner)

/-- Makes a frame wait for the end of a statement, if there are others after it. -/
@[inline] def before (m : Machine) (rest : List Stat) (env : Env) : Machine :=
  match rest with
  | [] => m
  | rest => m.push (.follow rest env)

/-- Adds a variable to an environment. -/
@[inline] def bindCell (m : Machine) (env : Env) (v : Value) : CellRef × Env × Machine :=
  let { control, stack, depth, natives, world, meter } := m
  let { heap, log, now, entropy } := world
  let (r, heap) := heap.newCell v
  let { vars, varargs, chunk } := env
  (r, { vars := r :: vars, varargs, chunk },
    { control, stack, depth, natives, world := { heap, log, now, entropy }, meter })

/-- Adds variables to an environment. -/
def bindCells (m : Machine) (env : Env) (vs : List Value) : Env × Machine :=
  let { control, stack, depth, natives, world, meter } := m
  let { heap, log, now, entropy } := world
  let { vars, varargs, chunk } := env
  let (vars, heap) := heap.newCells vars vs
  ({ vars, varargs, chunk },
    { control, stack, depth, natives, world := { heap, log, now, entropy }, meter })

/-- Executes statements. -/
def exec (m : Machine) (env : Env) : List Stat → Machine
  | [] => m.deliver []
  | stat :: rest =>
    match stat with
    | .locals kinds values line => m.gather env (.declare kinds rest line) values []
    | .assign targets values line =>
      (m.before rest env).gather env (.assign (targetKinds targets) line)
        (targetExprs targets ++ values) []
    | .call e => (m.before rest env).goOn (.eval e env)
    | .block body => ((m.before rest env).push (.block body)).goOn (.exec body env)
    | .whileLoop c body => (m.before rest env).gather env (.whileTest c body) [c] []
    | .loop body => (m.before rest env).goOn (.round (.forever body) env)
    | .leaveIf c => (m.before rest env).gather env .leaveIf [c] []
    | .branch c body otherwise => (m.before rest env).gather env (.branch body otherwise) [c] []
    | .numericFor start stop step body line =>
      (m.before rest env).gather env (.numericFor body line)
        [start, stop, step.getD (.const (.number (.integer 1)))] []
    | .genericFor names values body line =>
      (m.before rest env).gather env (.genericFor names body line) values []
    | .localFunction body =>
      let (cell, env, m) := m.bindCell env .nil
      let { control := _, stack, depth, natives, world, meter } := m
      let { heap, log, now, entropy } := world
      let (r, heap) := heap.newClosure ⟨body, env.vars, env.chunk⟩
      let heap := heap.setCell cell (.closure r)
      { control := .exec rest env, stack, depth, natives, world := { heap, log, now, entropy }, meter }
    | .give values => m.gather env .give values []
    | .giveCall (.call f args line) => m.gather env (.call true line) (f :: args) []
    | .giveCall (.method o name args line) => m.gather env (.select name args true line) [o] []
    | .giveCall e => m.gather env .give [e] []
    | .leave => m.goOn (.signal .leave)
    | .jump label => m.goOn (.signal (.jump label env))
    | .label _ _ => m.goOn (.exec rest env)

/-- The statements after a label, and the number of variables in scope there. -/
def afterLabel? (label : String) : List Stat → Option (Nat × List Stat)
  | [] => none
  | .label name scope :: rest => if name = label then some (scope, rest) else afterLabel? label rest
  | _ :: rest => afterLabel? label rest

/-- The environment with the outermost variables of a number. -/
def outermost (env : Env) (scope : Nat) : Env :=
  { env with vars := env.vars.drop (env.vars.length - scope) }

/-- Values as many as variables. -/
def adjust : Nat → List Value → List Value
  | 0, _ => []
  | n + 1, [] => .nil :: adjust n []
  | n + 1, v :: rest => v :: adjust n rest

/-- The function that a value stands for when it is called, with the arguments it is given. -/
def callable (h : Heap) : Nat → Value → List Value → Except String (Value × List Value)
  | 0, _, _ => .error "stack overflow"
  | fuel + 1, f, args =>
    match f with
    | .closure r => .ok (.closure r, args)
    | .builtin b => .ok (.builtin b, args)
    | f =>
      let handler := h.metafield f Event.call.key
      if handler.isNil then .error s!"attempt to call a {f.typeName} value"
      else callable h fuel handler (f :: args)

/-- Calls a value. -/
def apply (m : Machine) (f : Value) (args : List Value) (caller : Site) : Machine :=
  match callable m.world.heap maxCallables f args with
  | .error text => m.complain caller text
  | .ok (.closure r, args) =>
    if m.depth ≥ maxDepth then m.complain caller "stack overflow"
    else
      let c := m.world.heap.closure r
      let .mk params variadic body := c.body
      let (env, m) := m.bindCells ⟨c.vars, if variadic then args.drop params else [], c.chunk⟩
        (adjust params args)
      ((m.push (.activation caller)).push (.block body)).goOn (.exec body env)
  | .ok (.builtin b, args) => m.goOn (.act (b.run args) ⟨.native, caller⟩)
  | .ok (_, _) => m.complain caller "stack overflow"

/-- The most list items that wait before they are put into a table. -/
def maxPending : Nat := 50

/-- Puts waiting list items, last first, into a table from the key `next` on. -/
def flush (t : Table) (pending : List Value) (next : Nat) : Table :=
  (pending.reverse.foldl
    (fun (acc : Table × Nat) v => (acc.1.set (.integer (Int64.ofNat acc.2)) v, acc.2 + 1)) (t, next)).1

/-- Fills a table with its fields from their values, where `count` list items wait, last first, and
the first of them goes under the key `next`. The last field takes all values that are left. -/
def fillTable (t : Table) : List Bool → List Value → List Value → Nat → Nat → Except String Table
  | [], _, pending, _, next => .ok (flush t pending next)
  | true :: kinds, vs, pending, count, next =>
    let (t, pending, count, next) :=
      if count = maxPending then (flush t pending next, [], 0, next + count)
      else (t, pending, count, next)
    if kinds.isEmpty then
      let all := vs.reverse ++ pending
      .ok (flush (t.growArray (next + all.length - 1)) all next)
    else
      match vs with
      | v :: vs => fillTable t kinds vs (v :: pending) (count + 1) next
      | [] => fillTable t kinds [] (.nil :: pending) (count + 1) next
  | false :: kinds, vs, pending, count, next =>
    let (t, pending, count, next) :=
      if count = maxPending then (flush t pending next, [], 0, next + count)
      else (t, pending, count, next)
    let k := vs.headD .nil
    match k.toKey? with
    | some key => fillTable (t.set key (vs.getD 1 .nil)) kinds (vs.drop 2) pending count next
    | none => .error (if k.isNil then "index is nil" else "index is NaN")

/-- Makes a table of field values. -/
def construct (m : Machine) (items entries : Nat) (kinds : List Bool) (vs : List Value)
    (site : Site) : Machine :=
  match fillTable (.withRoom items entries) kinds vs [] 0 1 with
  | .error text => m.complain site text
  | .ok t =>
    let { control := _, stack, depth, natives, world, meter } := m
    let { heap, log, now, entropy } := world
    let (r, heap) := heap.newTable t
    { control := .signal (.deliver [.table r]), stack, depth, natives,
      world := { heap, log, now, entropy }, meter }

/-- Whether a value can be closed: it has a metamethod for it, or there is nothing to close. -/
def isClosable (h : Heap) (v : Value) : Bool :=
  !v.truthy || !(h.metafield v Event.close.key).isNil

/-- The value of the variable to be closed among declared ones. -/
def toClose? : List LocalKind → List Value → Option Value
  | .toClose :: _, v :: _ => some v
  | _ :: kinds, _ :: vs => toClose? kinds vs
  | _, _ => none

/-- Brings declared variables into scope. -/
def declare (m : Machine) (kinds : List LocalKind) (rest : List Stat) (line : Nat)
    (vs : List Value) (env : Env) : Machine :=
  let vs := adjust kinds.length vs
  match toClose? kinds vs with
  | none =>
    let (env, m) := m.bindCells env vs
    m.goOn (.exec rest env)
  | some v =>
    if isClosable m.world.heap v then
      let (env, m) := m.bindCells env vs
      (m.push (.close v rest)).goOn (.exec rest env)
    else m.complain (env.site line) "variable got a non-closable value"

/-- The targets of an assignment with their parts, which come before the values, and the values. -/
def assignees (env : Env) : List Target → List Value → List Assignee × List Value
  | [], vs => ([], vs)
  | .cell n :: rest, vs =>
    let (found, vs) := assignees env rest vs
    (.cell (env.vars.getD n ⟨0⟩) :: found, vs)
  | .field :: rest, vs =>
    let (found, left) := assignees env rest (vs.drop 2)
    (.field (vs.headD .nil) (vs.getD 1 .nil) :: found, left)

/-- Stores values one after the other. -/
def store (m : Machine) (env : Env) (line : Nat) : List (Assignee × Value) → Machine
  | [] => m.deliver []
  | (.cell r, v) :: rest => store (m.mapHeap (·.setCell r v)) env line rest
  | (.field o k, v) :: rest =>
    let m := match rest with
      | [] => m
      | rest => m.await env (.store rest line)
    m.operate ((Value.setIndex o k v).bind fun _ => .done []) (env.site line)

/-- Integers that a loop counts through: the number of rounds after the first, if there is a
first. -/
def roundsAfterFirst? (start stop step : Int64) : Option Nat :=
  if step > 0 then
    if start > stop then none else some ((stop.toInt - start.toInt).toNat / step.toInt.toNat)
  else if start < stop then none
  else some ((start.toInt - stop.toInt).toNat / step.toInt.natAbs)

/-- The last integer up to a limit, in the direction of a step. -/
def integerLimit (limit : Num) (step : Int64) : Int64 :=
  match limit with
  | .integer n => n
  | .float x =>
    match Num.floatToInt64? (floatMap (if step < 0 then Float.ceil else Float.floor) x) with
    | some n => n
    | none => if x.isNegative || x.isNaN then Int64.minValue else Int64.maxValue

/-- Whether a limit lies beyond all integers on the side where a loop cannot start. -/
def isBehind (limit : Num) (step : Int64) : Bool :=
  match limit with
  | .integer _ => false
  | .float x =>
    if x.isNaN then step > 0
    else
      match Num.floatToInt64? (floatMap Float.floor x) with
      | some _ => false
      | none => if x.isNegative then step > 0 else step < 0

/-- Starts a loop over numbers. -/
def startCount (m : Machine) (vs : List Value) (body : List Stat) (line : Nat) (env : Env) : Machine :=
  let site := env.site line
  let start := vs.headD .nil
  let stop := vs.getD 1 .nil
  let step := vs.getD 2 .nil
  match start, step with
  | .integer i, .integer s =>
    if s = 0 then m.complain site "'for' step is zero"
    else
      match stop.toNum? with
      | none => m.complain site "'for' limit must be a number"
      | some limit =>
        if isBehind limit s then m.deliver []
        else
          match roundsAfterFirst? i (integerLimit limit s) s with
          | none => m.deliver []
          | some n =>
            let (_, inner, m) := m.bindCell env (.integer i)
            m.runBody (.count n i s body) env body inner
  | _, _ =>
    match stop.toNum?, step.toNum?, start.toNum? with
    | none, _, _ => m.complain site "'for' limit must be a number"
    | _, none, _ => m.complain site "'for' step must be a number"
    | _, _, none => m.complain site "'for' initial value must be a number"
    | some limit, some s, some i =>
      let zero := Num.integer 0
      let x := i.toBinary64
      let bound := limit.toBinary64
      if s.equal zero then m.complain site "'for' step is zero"
      else if if zero.less s then Num.less (.float bound) (.float x)
        else Num.less (.float x) (.float bound) then m.deliver []
      else
        let (_, inner, m) := m.bindCell env (.float x)
        m.runBody (.floats x bound s.toBinary64 body) env body inner

/-- Starts a loop over the results of a function. -/
def startEach (m : Machine) (vs : List Value) (names : Nat) (body : List Stat) (line : Nat)
    (env : Env) : Machine :=
  let closing := vs.getD 3 .nil
  let r : Round := .each (vs.headD .nil) (vs.getD 1 .nil) (vs.getD 2 .nil) names body line
  if closing.isNil then m.goOn (.round r env)
  else if isClosable m.world.heap closing then (m.push (.close closing [])).goOn (.round r env)
  else m.complain (env.site line) "variable got a non-closable value"

/-- Starts a round of a loop. -/
def startRound (m : Machine) (r : Round) (env : Env) : Machine :=
  match r with
  | .whileTrue c body => m.gather env (.whileTest c body) [c] []
  | .forever body => m.runBody (.forever body) env body env
  | .count 0 _ _ _ => m.deliver []
  | .count (n + 1) i step body =>
    let i := i + step
    let (_, inner, m) := m.bindCell env (.integer i)
    m.runBody (.count n i step body) env body inner
  | .floats x limit step body =>
    let x := floatOp (· + ·) x step
    let zero := Num.integer 0
    if if zero.less (.float step) then (Num.float x).lessEqual (.float limit)
      else (Num.float limit).lessEqual (.float x) then
      let (_, inner, m) := m.bindCell env (.float x)
      m.runBody (.floats x limit step body) env body inner
    else m.deliver []
  | .each f state control names body line =>
    (m.await env (.each f state names body line)).goOn (.apply f [state, control] (env.site line))

/-- Calls the first of values with the others. -/
def callFirst (m : Machine) (tail : Bool) (line : Nat) (vs : List Value) (env : Env) : Machine :=
  let f := vs.headD .nil
  let args := vs.tail
  if tail then
    match f with
    | .closure r => m.goOn (.signal (.tail r args))
    | f => (m.await env .give).goOn (.apply f args (env.site line))
  else m.goOn (.apply f args (env.site line))

/-- Does what a task says with values. -/
def finish (m : Machine) (task : Task) (vs : List Value) (env : Env) : Machine :=
  match task with
  | .first => m.deliver [vs.headD .nil]
  | .index line => m.operate1 (Value.index (vs.headD .nil) (vs.getD 1 .nil)) (env.site line)
  | .binary op line => m.operate1 (Value.binary op (vs.headD .nil) (vs.getD 1 .nil)) (env.site line)
  | .unary op line => m.operate1 (Value.unary op (vs.headD .nil)) (env.site line)
  | .call tail line => m.callFirst tail line vs env
  | .select name args tail line =>
    let o := vs.headD .nil
    (m.await env (.invoke o args tail line)).operate1 (Value.index o (.string name)) (env.site line)
  | .invoke o args tail line => m.gather env (.call tail line) args [o, vs.headD .nil]
  | .both right =>
    if (vs.headD .nil).truthy then m.gather env .first [right] [] else m.deliver [vs.headD .nil]
  | .either right =>
    if (vs.headD .nil).truthy then m.deliver [vs.headD .nil] else m.gather env .first [right] []
  | .table items entries kinds line => m.construct items entries kinds vs (env.site line)
  | .give => m.goOn (.signal (.give vs))
  | .declare kinds rest line => m.declare kinds rest line vs env
  | .assign targets line =>
    let (found, vs) := assignees env targets vs
    m.store env line (found.zip (adjust found.length vs)).reverse
  | .store rest line => m.store env line rest
  | .branch body otherwise =>
    let chosen := if (vs.headD .nil).truthy then body else otherwise
    match chosen with
    | [] => m.deliver []
    | chosen => (m.push (.block chosen)).goOn (.exec chosen env)
  | .whileTest c body =>
    if (vs.headD .nil).truthy then m.runBody (.whileTrue c body) env body env else m.deliver []
  | .leaveIf => if (vs.headD .nil).truthy then m.goOn (.signal .leave) else m.deliver []
  | .numericFor body line => m.startCount vs body line env
  | .genericFor names body line => m.startEach vs names body line env
  | .each f state names body line =>
    let control := vs.headD .nil
    if control.isNil then m.deliver []
    else
      let (inner, m) := m.bindCells env (adjust names vs)
      m.runBody (.each f state control names body line) env body inner

/-- Runs an action on. -/
def act (m : Machine) (a : Action (List Value)) (place : Place) : Machine :=
  let { control := _, stack, depth, natives, world, meter } := m
  let (progress, world) := world.perform a
  let next (control : Control) : Machine := { control, stack, depth, natives, world, meter }
  let enter (frame : Frame) (f : Value) (args : List Value) : Machine :=
    if natives ≥ maxNatives then next (.signal (.raise (.ofText "C stack overflow")))
    else (next (.apply f args place.own)).push frame
  match progress with
  | .done vs => next (.signal (.deliver vs))
  | .failed (.value v) => next (.signal (.raise v))
  | .failed (.here text) => next (.signal (.raise (.ofText (place.own.text ++ text))))
  | .failed (.caller text) => next (.signal (.raise (.ofText (place.caller.text ++ text))))
  | .calling f args k => enter (.native k place) f args
  | .attempting f args handler k => enter (.protect handler k place) f args
  | .locating level k => next (.act (k (siteOf place stack level).text) place)

/-- Closes a value and then goes on with an outcome. -/
def closeWith (m : Machine) (v error : Value) (s : Signal) : Machine :=
  if v.truthy then
    (m.push (.closing s)).goOn (.apply (m.world.heap.metafield v Event.close.key) [v, error] .native)
  else m.goOn (.signal s)

/-- Gives an outcome to the frame that was on top of the stack. -/
def resume (m : Machine) (frame : Frame) (s : Signal) : Machine :=
  match frame with
  | .collect found rest env task =>
    match s with
    | .deliver vs =>
      match rest with
      | [] => m.goOn (.finish task (found.reverse ++ vs) env)
      | rest => m.gather env task rest (vs.headD .nil :: found)
    | s => m.goOn (.signal s)
  | .follow rest env =>
    match s with
    | .deliver _ => m.goOn (.exec rest env)
    | s => m.goOn (.signal s)
  | .block body =>
    match s with
    | .jump label env =>
      match afterLabel? label body with
      | some (scope, rest) => (m.push (.block body)).goOn (.land rest (outermost env scope))
      | none => m.goOn (.signal s)
    | s => m.goOn (.signal s)
  | .loop r env =>
    match s with
    | .deliver _ => m.goOn (.round r env)
    | .leave => m.deliver []
    | s => m.goOn (.signal s)
  | .close v rest =>
    match s with
    | .raise e => m.closeWith v e s
    | .jump label env =>
      match afterLabel? label rest with
      | some (scope, after) => (m.push (.close v rest)).goOn (.land after (outermost env scope))
      | none => m.closeWith v .nil s
    | s => m.closeWith v .nil s
  | .closing outcome =>
    match s with
    | .deliver _ => m.goOn (.signal outcome)
    | s => m.goOn (.signal s)
  | .activation caller =>
    match s with
    | .deliver _ => m.deliver []
    | .give vs => m.deliver vs
    | .tail f args => m.goOn (.apply (.closure f) args caller)
    | s => m.goOn (.signal s)
  | .native next place =>
    match s with
    | .deliver vs => m.goOn (.act (next vs) place)
    | s => m.goOn (.signal s)
  | .protect handler next place =>
    match s with
    | .deliver vs => m.goOn (.act (next (true, vs)) place)
    | .raise v =>
      match handler with
      | some h => (m.push (.handled next place)).goOn (.apply h [v] .native)
      | none => m.goOn (.act (next (false, [v])) place)
    | s => m.goOn (.signal s)
  | .handled next place =>
    match s with
    | .deliver vs => m.goOn (.act (next (false, [vs.headD .nil])) place)
    | .raise v => m.goOn (.act (next (false, [v])) place)
    | s => m.goOn (.signal s)

/-- Gives an outcome to the frame on top of the stack. -/
def receive (m : Machine) (s : Signal) : Machine :=
  let { control, stack, depth, natives, world, meter } := m
  match stack with
  | [] => { control, stack := [], depth, natives, world, meter }
  | frame :: stack =>
    resume { control := .signal .leave, stack,
             depth := if frame.isActivation then depth - 1 else depth,
             natives := if frame.isNative then natives - 1 else natives, world, meter } frame s

/-- Counts an instruction and goes on, unless it was one too many. -/
@[inline] def charged (m : Machine) (go : Machine → Machine) : Machine :=
  let { control, stack, depth, natives, world, meter } := m
  let (meter, failure) := meter.count
  match failure with
  | none => go { control, stack, depth, natives, world, meter }
  | some failure => { control := .signal (.raise (.failure failure)), stack, depth, natives, world, meter }

/-- One step. A machine that has its outcome stays as it is. -/
def step (m : Machine) : Machine :=
  match m.control with
  | .signal s => m.receive s
  | .eval e env => m.eval e env
  | .exec body env => m.exec env body
  | .land body env => m.charged fun m => m.exec env body
  | .finish task vs env => m.charged fun m => m.finish task vs env
  | .round r env => m.charged fun m => m.startRound r env
  | .apply f args caller => m.charged fun m => m.apply f args caller
  | .act a place => m.act a place

/-- How a run has ended. -/
inductive Outcome where
  | values (vs : List Value)
  | error (v : Value)
  /-- The run was cut off, or nothing was there to take its last signal. -/
  | unfinished

/-- The outcome of a machine that has one. -/
def outcome? (m : Machine) : Option Outcome :=
  match m.stack, m.control with
  | [], .signal (.deliver vs) => some (.values vs)
  | [], .signal (.give vs) => some (.values vs)
  | [], .signal (.raise v) => some (.error v)
  | [], .signal _ => some .unfinished
  | _, _ => none

/-- Runs a machine for at most `fuel` steps: the outcome, and the machine afterwards. -/
def run : Nat → Machine → Outcome × Machine
  | 0, m => (.unfinished, m)
  | fuel + 1, m =>
    match m.outcome? with
    | some outcome => (outcome, m)
    | none => run fuel m.step

end Machine

end TableSeed.Lua
