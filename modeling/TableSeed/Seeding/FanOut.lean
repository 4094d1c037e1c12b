/-!
# Permits of a fan-out

The inserts of a group are in flight together, but never more than there are permits. An insert
that finds no permit waits, and a permit that is given back goes to the one that has waited
longest. So nothing waits while a permit is free. Without a cap there are permits for all.
-/

namespace TableSeed

/-- Where the inserts of a group stand, each by its position in the group. -/
structure FanOut where
  /-- The number of free permits, if permits are counted. -/
  free : Option Nat
  /-- The inserts that wait for a permit, the one that has waited longest first. -/
  waiting : List Nat := []
  /-- The inserts that got a permit after they had waited and have yet to start. -/
  granted : List Nat := []
  /-- The inserts that have started and have not ended. -/
  inFlight : List Nat := []
  /-- The inserts that have ended. -/
  ended : List Nat := []
  deriving DecidableEq, Repr

/-- What is next for an insert. -/
inductive Stage where
  /-- It has not asked for a permit. -/
  | new
  | waiting
  | granted
  | inFlight
  | ended
  deriving DecidableEq, Repr

namespace FanOut

/-- A fan-out in which nothing has begun. There is always at least one permit, and no greatest number
of them. -/
def ofCap (cap : Option Nat) : FanOut := { free := cap.map (max 1) }

/-- The stage of an insert. -/
def stage (f : FanOut) (i : Nat) : Stage :=
  if f.ended.contains i then .ended
  else if f.inFlight.contains i then .inFlight
  else if f.granted.contains i then .granted
  else if f.waiting.contains i then .waiting
  else .new

/-- An insert asks for a permit: it starts with one, or else it waits. -/
def ask (f : FanOut) (i : Nat) : FanOut :=
  match f.free with
  | none => { f with inFlight := i :: f.inFlight }
  | some 0 => { f with waiting := f.waiting ++ [i] }
  | some (n + 1) => { f with free := some n, inFlight := i :: f.inFlight }

/-- An insert starts with the permit that it got after it had waited. -/
def start (f : FanOut) (i : Nat) : FanOut :=
  { f with granted := f.granted.erase i, inFlight := i :: f.inFlight }

/-- A permit is given back: the fan-out, and who got the permit. -/
def release (f : FanOut) : FanOut × Option Nat :=
  match f.waiting with
  | w :: rest => ({ f with waiting := rest, granted := f.granted ++ [w] }, some w)
  | [] => ({ f with free := f.free.map (· + 1) }, none)

/-- An insert ends and gives back its permit: the fan-out, and who got the permit. -/
def finish (f : FanOut) (i : Nat) : FanOut × Option Nat :=
  release { f with inFlight := f.inFlight.erase i, ended := i :: f.ended }

/-- An insert is given up: it waits no longer, and a permit that it holds is given back. -/
def giveUp (f : FanOut) (i : Nat) : FanOut :=
  match f.stage i with
  | .waiting => { f with waiting := f.waiting.erase i }
  | .granted => (release { f with granted := f.granted.erase i }).1
  | .inFlight => (release { f with inFlight := f.inFlight.erase i }).1
  | .new | .ended => f

end FanOut

end TableSeed
