import Mathlib.Tactic.SplitIfs
import TableSeed.Lua.Machine

/-!
# What a machine does not look at

A machine reads neither its log nor, except to count, its meter, and it reads the state of the random
numbers only where an action asks for one. A machine with another log, another meter and other
random numbers does the same, as long as no number is drawn.
-/

namespace TableSeed.Lua

/-- Whether the request is one for the random numbers. -/
def Request.isDraw : Request → Bool
  | .entropy | .reseed _ => true
  | _ => false

/-- No way through the action asks for the random numbers. -/
def Action.Drawless {α : Type} : Action α → Prop
  | .done _ => True
  | .fail _ => True
  | .ask r next => r.isDraw = false ∧ ∀ answer, Drawless (next answer)

namespace World

/-- The world with another log and other random numbers. -/
def altered (f : Log → Log) (g : UInt64 → UInt64) (w : World) : World :=
  { w with log := f w.log, entropy := g w.entropy }

/-- Drawing a random number does not look at the log. -/
theorem draw_altered_id (f : Log → Log) (w : World) :
    (w.altered f id).draw = (w.draw.1, w.draw.2.altered f id) := by
  obtain ⟨heap, log, now, entropy⟩ := w
  change draw ⟨heap, f log, now, entropy⟩ = _
  rw [draw, draw]
  generalize entropy + 0x9E3779B97F4A7C15 = state
  generalize scramble state = number
  rfl

/-- An action that draws nothing, or finds the same random numbers, does the same with another log
to which it writes. Only a note writes to the log and only two requests use the random numbers; the
others look at the heap. -/
theorem perform_altered {α : Type} {f : Log → Log} {g : UInt64 → UInt64}
    (written : ∀ line log, f (line :: log) = line :: f log) (a : Action α) (w : World)
    (drawless : g = id ∨ a.Drawless) :
    (w.altered f g).perform a = ((w.perform a).1, (w.perform a).2.altered f g) := by
  induction a generalizing w with
  | done a => rfl
  | fail fault => rfl
  | ask r next ih =>
    have later (answer : r.Answer) : g = id ∨ (next answer).Drawless :=
      drawless.imp_right fun quiet => quiet.2 answer
    cases r with
    | call f args => rfl
    | attempt f args handler => rfl
    | position level => rfl
    | get t k => exact ih _ w (later _)
    | set t k v => exact ih _ (w.mapHeap (·.set t k v)) (later _)
    | border t => exact ih _ w (later _)
    | next t k => exact ih _ w (later _)
    | create items entries =>
      exact ih _ { w with heap := (w.heap.newTable (.withRoom items entries)).2 } (later _)
    | metatable t => exact ih _ w (later _)
    | setMetatable t metatable =>
      exact ih _ (w.mapHeap (·.modifyTable t fun t => { t with metatable := metatable })) (later _)
    | method k => exact ih _ w (later _)
    | note warning text =>
      have logged : (w.altered f g).log.write (if warning then .warn else .info) ("[lua] " ++ text) =
          f (w.log.write (if warning then .warn else .info) ("[lua] " ++ text)) :=
        (written _ _).symm
      unfold perform
      dsimp only
      rw [logged]
      exact ih () { w with log := w.log.write _ _ } (later ())
    | clock => exact ih _ w (later _)
    | entropy =>
      obtain rfl : g = id := drawless.resolve_right fun quiet => nomatch quiet.1
      unfold perform
      rw [draw_altered_id]
      exact ih w.draw.1 w.draw.2 (later _)
    | reseed n =>
      obtain rfl : g = id := drawless.resolve_right fun quiet => nomatch quiet.1
      exact ih _ { w with entropy := n } (later _)

end World

namespace Machine

/-- The machine with another log, other random numbers and another meter. -/
def altered (f : Log → Log) (g : UInt64 → UInt64) (μ : Meter) (m : Machine) : Machine :=
  { m with world := m.world.altered f g, meter := μ }

section Parts

variable (φ : Log → Log) (ψ : UInt64 → UInt64) (μ : Meter) (m : Machine)

/-- A frame is pushed alike with another log, other random numbers and another meter. -/
@[simp] theorem push_altered (f : Frame) :
    (m.altered φ ψ μ).push f = (m.push f).altered φ ψ μ := rfl

/-- A machine goes on alike, whatever the log, the random numbers and the meter. -/
@[simp] theorem goOn_altered (control : Control) :
    (m.altered φ ψ μ).goOn control = (m.goOn control).altered φ ψ μ := rfl

/-- Values are delivered alike, whatever the log, the random numbers and the meter. -/
@[simp] theorem deliver_altered (vs : List Value) :
    (m.altered φ ψ μ).deliver vs = (m.deliver vs).altered φ ψ μ := rfl

/-- An operation with one result is begun alike, whatever the log, the random numbers and the
meter. -/
@[simp] theorem operate1_altered (a : Action Value) (site : Site) :
    (m.altered φ ψ μ).operate1 a site = (m.operate1 a site).altered φ ψ μ := by
  cases a <;> rfl

/-- A task is awaited alike, whatever the log, the random numbers and the meter. -/
@[simp] theorem await_altered (env : Env) (task : Task) :
    (m.altered φ ψ μ).await env task = (m.await env task).altered φ ψ μ := rfl

/-- The rest of a block is put off alike, whatever the log, the random numbers and the meter. -/
@[simp] theorem before_altered (rest : List Stat) (env : Env) :
    (m.altered φ ψ μ).before rest env = (m.before rest env).altered φ ψ μ := by
  cases rest <;> rfl

/-- The body of a loop is begun alike, whatever the log, the random numbers and the meter. -/
@[simp] theorem runBody_altered (r : Round) (env : Env) (body : List Stat) (inner : Env) :
    (m.altered φ ψ μ).runBody r env body inner = (m.runBody r env body inner).altered φ ψ μ := rfl

/-- Expressions are gathered alike, whatever the log, the random numbers and the meter. -/
@[simp] theorem gather_altered (env : Env) (task : Task) (es : List Expr) (found : List Value) :
    (m.altered φ ψ μ).gather env task es found = (m.gather env task es found).altered φ ψ μ := by
  induction es generalizing found with
  | nil => rfl
  | cons e rest ih =>
    have heap : (m.altered φ ψ μ).world.heap = m.world.heap := rfl
    rw [gather, gather, heap]
    cases immediate? e env m.world.heap with
    | none => rfl
    | some v => exact ih (v :: found)

/-- An expression is evaluated alike, whatever the log, the random numbers and the meter. -/
@[simp] theorem eval_altered (e : Expr) (env : Env) :
    (m.altered φ ψ μ).eval e env = (m.eval e env).altered φ ψ μ := by
  cases e <;> first | rfl | exact gather_altered φ ψ μ m _ _ _ _

/-- A block is executed alike, whatever the log, the random numbers and the meter. -/
@[simp] theorem exec_altered (env : Env) (body : List Stat) :
    (m.altered φ ψ μ).exec env body = (m.exec env body).altered φ ψ μ := by
  cases body with
  | nil => rfl
  | cons stat rest =>
    cases stat with
    | giveCall e => cases e <;> exact gather_altered φ ψ μ m _ _ _ _
    | locals | give => exact gather_altered φ ψ μ m _ _ _ _
    | localFunction | leave | jump | label => rfl
    | assign | call | block | whileLoop | loop | leaveIf | branch | numericFor | genericFor =>
      simp [exec]

/-- A function is applied alike, whatever the log, the random numbers and the meter. -/
@[simp] theorem apply_altered (f : Value) (args : List Value) (caller : Site) :
    (m.altered φ ψ μ).apply f args caller = (m.apply f args caller).altered φ ψ μ := by
  obtain ⟨control, stack, depth, natives, world, meter⟩ := m
  dsimp only [apply, altered, World.altered]
  cases callable world.heap maxCallables f args with
  | error text => rfl
  | ok called =>
    obtain ⟨f, args⟩ := called
    cases f with
    | closure r =>
      dsimp only
      generalize world.heap.closure r = c
      obtain ⟨⟨params, variadic, body⟩, vars, chunk⟩ := c
      split_ifs <;> rfl
    | _ => rfl

/-- A table is constructed alike, whatever the log, the random numbers and the meter. -/
@[simp] theorem construct_altered (items entries : Nat) (kinds : List Bool) (vs : List Value)
    (site : Site) :
    (m.altered φ ψ μ).construct items entries kinds vs site =
      (m.construct items entries kinds vs site).altered φ ψ μ := by
  rw [construct, construct]
  cases fillTable (.withRoom items entries) kinds vs [] 0 1 <;> rfl

/-- Local variables are declared alike, whatever the log, the random numbers and the meter. -/
@[simp] theorem declare_altered (kinds : List LocalKind) (rest : List Stat) (line : Nat)
    (vs : List Value) (env : Env) :
    (m.altered φ ψ μ).declare kinds rest line vs env =
      (m.declare kinds rest line vs env).altered φ ψ μ := by
  rw [declare, declare]
  cases toClose? kinds (adjust kinds.length vs) with
  | none => rfl
  | some v =>
    change (if isClosable m.world.heap v = true then _ else _) = _
    dsimp only
    split_ifs <;> rfl

/-- Values are assigned alike, whatever the log, the random numbers and the meter. -/
@[simp] theorem store_altered (env : Env) (line : Nat) (assignments : List (Assignee × Value)) :
    (m.altered φ ψ μ).store env line assignments =
      (m.store env line assignments).altered φ ψ μ := by
  induction assignments generalizing m with
  | nil => rfl
  | cons first rest ih =>
    obtain ⟨r | ⟨o, k⟩, v⟩ := first
    · exact ih (m.mapHeap (·.setCell r v))
    · cases rest <;> rfl

/-- A counting loop is started alike, whatever the log, the random numbers and the meter. -/
@[simp] theorem startCount_altered (vs : List Value) (body : List Stat) (line : Nat) (env : Env) :
    (m.altered φ ψ μ).startCount vs body line env =
      (m.startCount vs body line env).altered φ ψ μ := by
  unfold startCount
  dsimp only
  split
  · split_ifs
    · rfl
    · split
      · rfl
      · split_ifs
        · rfl
        · split <;> rfl
  · split
    · rfl
    · rfl
    · rfl
    · split_ifs <;> rfl

/-- A loop over an iterator is started alike, whatever the log, the random numbers and the meter. -/
@[simp] theorem startEach_altered (vs : List Value) (names : Nat) (body : List Stat) (line : Nat)
    (env : Env) :
    (m.altered φ ψ μ).startEach vs names body line env =
      (m.startEach vs names body line env).altered φ ψ μ := by
  change (if (vs.getD 3 .nil).isNil = true then _
    else if isClosable m.world.heap (vs.getD 3 .nil) = true then _ else _) = _
  unfold startEach
  dsimp only
  split_ifs <;> rfl

/-- A round of a loop is started alike, whatever the log, the random numbers and the meter. -/
@[simp] theorem startRound_altered (r : Round) (env : Env) :
    (m.altered φ ψ μ).startRound r env = (m.startRound r env).altered φ ψ μ := by
  cases r with
  | whileTrue c body => exact gather_altered φ ψ μ m _ _ _ _
  | forever body => rfl
  | count rounds current step body => cases rounds <;> rfl
  | floats current limit step body =>
    simp only [startRound]
    split_ifs <;> rfl
  | each function state control names body line => rfl

/-- The first of several values is called alike, whatever the log, the random numbers and the
meter. -/
@[simp] theorem callFirst_altered (tail : Bool) (line : Nat) (vs : List Value) (env : Env) :
    (m.altered φ ψ μ).callFirst tail line vs env = (m.callFirst tail line vs env).altered φ ψ μ := by
  unfold callFirst
  dsimp only
  split_ifs
  · split <;> rfl
  · rfl

/-- A task is finished alike, whatever the log, the random numbers and the meter. -/
@[simp] theorem finish_altered (task : Task) (vs : List Value) (env : Env) :
    (m.altered φ ψ μ).finish task vs env = (m.finish task vs env).altered φ ψ μ := by
  cases task with
  | first | give => rfl
  | index | binary | unary | call | select | invoke | table | declare | assign | store | numericFor
  | genericFor => simp [finish]
  | both right | either right | whileTest c body | leaveIf =>
    simp only [finish]
    split_ifs <;> simp
  | branch body otherwise =>
    simp only [finish]
    split <;> rfl
  | each f state names body line =>
    simp only [finish]
    split_ifs <;> rfl

/-- An action does the same with another log to which it writes, and with other random numbers if it
draws none. -/
theorem act_altered (written : ∀ line log, φ (line :: log) = line :: φ log)
    (a : Action (List Value)) (place : Place) (drawless : ψ = id ∨ a.Drawless) :
    (m.altered φ ψ μ).act a place = (m.act a place).altered φ ψ μ := by
  obtain ⟨control, stack, depth, natives, world, meter⟩ := m
  dsimp only [act, altered]
  rw [World.perform_altered written a world drawless]
  generalize world.perform a = performed
  obtain ⟨progress, after⟩ := performed
  cases progress with
  | done vs => rfl
  | failed fault => cases fault <;> rfl
  | calling f args next =>
    dsimp only
    split_ifs <;> rfl
  | attempting f args handler next =>
    dsimp only
    split_ifs <;> rfl
  | locating level next => rfl

/-- A variable is closed alike, whatever the log, the random numbers and the meter. -/
@[simp] theorem closeWith_altered (v error : Value) (s : Signal) :
    (m.altered φ ψ μ).closeWith v error s = (m.closeWith v error s).altered φ ψ μ := by
  unfold closeWith
  split_ifs <;> rfl

/-- A frame is resumed alike, whatever the log, the random numbers and the meter. -/
@[simp] theorem resume_altered (frame : Frame) (s : Signal) :
    (m.altered φ ψ μ).resume frame s = (m.resume frame s).altered φ ψ μ := by
  cases frame with
  | collect found rest env task =>
    cases s with
    | deliver vs =>
      cases rest with
      | nil => rfl
      | cons e rest => exact gather_altered φ ψ μ m _ _ _ _
    | _ => rfl
  | block body | close v body =>
    cases s with
    | jump label env =>
      simp only [resume]
      split <;> simp
    | _ => simp [resume]
  | protect handler next place =>
    cases s with
    | raise v => cases handler <;> rfl
    | _ => rfl
  | follow | loop | closing | activation | native | handled => cases s <;> rfl

/-- An outcome is received alike, whatever the log, the random numbers and the meter. -/
@[simp] theorem receive_altered (s : Signal) :
    (m.altered φ ψ μ).receive s = (m.receive s).altered φ ψ μ := by
  obtain ⟨control, stack, depth, natives, world, meter⟩ := m
  cases stack with
  | nil => rfl
  | cons frame stack =>
    exact resume_altered φ ψ μ ⟨.signal .leave, stack, if frame.isActivation then depth - 1 else depth,
      if frame.isNative then natives - 1 else natives, world, meter⟩ frame s

end Parts

end Machine

namespace Control

/-- Whether a step from here counts an instruction. -/
def isCounted : Control → Bool
  | .land _ _ | .finish _ _ _ | .round _ _ | .apply _ _ _ => true
  | .signal _ | .eval _ _ | .exec _ _ | .act _ _ => false

/-- What runs asks for no random number in its next step. -/
def Drawless : Control → Prop
  | .act a _ => a.Drawless
  | _ => True

end Control

namespace Machine

/-- A step without its count. -/
def proceed (m : Machine) : Machine :=
  match m.control with
  | .signal s => m.receive s
  | .eval e env => m.eval e env
  | .exec body env => m.exec env body
  | .land body env => m.exec env body
  | .finish task vs env => m.finish task vs env
  | .round r env => m.startRound r env
  | .apply f args caller => m.apply f args caller
  | .act a place => m.act a place

/-- The machine with another meter. -/
def metered (μ : Meter) (m : Machine) : Machine := { m with meter := μ }

section Steps

variable {φ : Log → Log} {ψ : UInt64 → UInt64} (μ : Meter) (m : Machine)

/-- A machine proceeds the same with another log to which it writes, and with other random numbers
if its action draws none. -/
theorem proceed_altered (written : ∀ line log, φ (line :: log) = line :: φ log)
    (drawless : ψ = id ∨ m.control.Drawless) :
    (m.altered φ ψ μ).proceed = m.proceed.altered φ ψ μ := by
  obtain ⟨control, stack, depth, natives, world, meter⟩ := m
  cases control with
  | signal s => exact receive_altered φ ψ μ _ s
  | eval e env => exact eval_altered φ ψ μ _ e env
  | exec body env => exact exec_altered φ ψ μ _ env body
  | land body env => exact exec_altered φ ψ μ _ env body
  | finish task vs env => exact finish_altered φ ψ μ _ task vs env
  | round r env => exact startRound_altered φ ψ μ _ r env
  | apply f args caller => exact apply_altered φ ψ μ _ f args caller
  | act a place => exact act_altered φ ψ μ _ written a place drawless

/-- What a machine does next does not depend on the meter. -/
theorem proceed_metered : (m.metered μ).proceed = m.proceed.metered μ :=
  proceed_altered (φ := id) μ m (fun _ _ => rfl) (.inl rfl)

/-- Only the count of an instruction changes the meter. -/
@[simp] theorem meter_proceed : m.proceed.meter = m.meter :=
  calc m.proceed.meter = ((m.metered m.meter).proceed).meter := rfl
    _ = (m.proceed.metered m.meter).meter := by rw [proceed_metered]
    _ = m.meter := rfl

/-- A step counts its instruction, if it counts one, and goes on unless that was one too many. -/
theorem step_eq : m.step =
    if m.control.isCounted then
      match m.meter.count with
      | (μ, none) => m.proceed.metered μ
      | (μ, some failure) => (m.raise (.failure failure)).metered μ
    else m.proceed := by
  obtain ⟨control, stack, depth, natives, world, meter⟩ := m
  let m : Machine := ⟨control, stack, depth, natives, world, meter⟩
  have counted (go : Machine → Machine) (same : ∀ μ, go (m.metered μ) = (m.metered μ).proceed) :
      m.charged go = match m.meter.count with
        | (μ, none) => m.proceed.metered μ
        | (μ, some failure) => (m.raise (.failure failure)).metered μ := by
    dsimp only [charged, m]
    cases meter.count with
    | mk μ failure =>
      cases failure with
      | none => exact (same μ).trans (proceed_metered μ m)
      | some failure => rfl
  cases control with
  | signal | eval | exec | act => rfl
  | land | finish | round | apply => exact counted _ fun _ => rfl

end Steps

end Machine

end TableSeed.Lua
