import TableSeed.Lua.Value

/-!
# The instruction meter

Instructions are counted in intervals. At the end of every interval that is one too many, the
running chunk fails; a chunk that catches the failure goes on until the next interval ends. A chunk
goes on with the interval that the chunk before it has left unfinished, but only the intervals that
end while it runs are its own.
-/

namespace TableSeed.Lua

/-- The instructions used so far. -/
structure Meter where
  /-- The instructions left in the interval. -/
  left : Nat
  /-- The intervals that have ended. -/
  ticks : Nat := 0
  /-- The intervals that may end. -/
  allowed : Nat
  deriving DecidableEq

namespace Meter

/-- The number of instructions in an interval. -/
def interval : Nat := 10000

/-- The number of intervals that a limit allows: enough for the limit, and one at least. -/
def ticksFor (limit : Nat) : Nat := max 1 ((limit + interval - 1) / interval)

/-- A meter for a chunk of at most that many instructions, which starts with so many instructions
left in the interval. -/
def start (left limit : Nat) : Meter := { left, allowed := ticksFor limit }

/-- Counts one instruction: the meter afterwards, and the failure if it was one too many. -/
def count (m : Meter) : Meter × Option Failure :=
  if m.left > 1 then ({ m with left := m.left - 1 }, none)
  else
    let ticks := m.ticks + 1
    ({ m with left := interval, ticks },
      if ticks > m.allowed then some (.instructionLimit (m.allowed * interval)) else none)

end Meter

end TableSeed.Lua
