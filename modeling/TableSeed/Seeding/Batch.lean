import TableSeed.Log
import TableSeed.Seeding.FanOut
import TableSeed.Store.Basic

/-!
# Inserting a group

The inserts of a group are moved in rounds, until all have ended or one has failed. In the first
round every insert asks for a permit, in the order of the entries. What comes then depends on the
size of the group. A small group goes through all its entries in every round, and the first
failure that is met ends it. A large group keeps a queue: an insert that gets a permit joins the
queue, those that gave way come back in the next round, the last one first, and failures are told
in the order of the entries, once every earlier entry has ended.

Between two pauses of a run only so many permits are taken. An insert that comes to take one more
gives way, and there is a pause before each round but the first.
-/

namespace TableSeed

/-- An entry that is ready to be inserted. -/
structure PreparedEntry where
  key : String
  /-- The resolved record. -/
  record : Json.Members
  item : Item

/-- The inserts of a group under way. -/
structure Batch (σ : Type) where
  /-- The state of the store. -/
  store : σ
  log : Log
  fanOut : FanOut
  /-- The number of permits that may be taken before the next pause, if it is limited. -/
  allowance : Option Nat
  /-- The inserts that have started, the latest first. -/
  started : List Nat := []
  /-- How each insert that has ended came to its end, the latest first. -/
  results : List (Nat × Except StoreError Unit) := []
  /-- The number of ends of a large group that have been told, in the order of the entries. -/
  told : Nat := 0
  /-- The failure that ends the group. -/
  failure : Option StoreError := none

/-- What comes of looking at an insert. -/
structure Look (σ : Type) where
  batch : Batch σ
  /-- Who got the permit that the insert gave back. -/
  woken : Option Nat := none
  /-- Whether the insert gave way to others. -/
  gaveWay : Bool := false

namespace Batch

variable {σ : Type}

/-- The size up to which a group is small. -/
def smallSize : Nat := 30

/-- A group in which nothing has begun, at most `cap` of whose inserts are in flight together. -/
def start (cap : Option Nat) (store : σ) (log : Log) (allowance : Option Nat) : Batch σ :=
  { store, log, fanOut := .ofCap cap, allowance }

/-- Whether no permit may be taken before the next pause. -/
def exhausted (b : Batch σ) : Bool := b.fanOut.free.isSome && b.allowance == some 0

/-- A permit is taken, if permits are counted. -/
def spend (b : Batch σ) : Batch σ :=
  if b.fanOut.free.isSome then { b with allowance := b.allowance.map (· - 1) } else b

/-- The run pauses. -/
def pause (calls : TableStore σ) (b : Batch σ) : Batch σ := { b with allowance := calls.fullAllowance }

/-- Tells the ends that are next in the order of the entries, `fuel` at most. -/
def tell (b : Batch σ) : Nat → Batch σ
  | 0 => b
  | fuel + 1 =>
    match b.results.lookup b.told with
    | some (.ok _) => tell { b with told := b.told + 1 } fuel
    | some (.error e) => { b with failure := some e }
    | none => b

/-- The failure of an insert is met. -/
def meet (b : Batch σ) : Except StoreError Unit → Batch σ
  | .ok _ => b
  | .error e => { b with failure := some e }

/-- An insert ends. -/
def settle (large : Bool) (b : Batch σ) (i : Nat) (result : Except StoreError Unit) : Look σ :=
  let (fanOut, woken) := b.fanOut.finish i
  let b := { b with fanOut, results := (i, result) :: b.results }
  { batch := if large then b.tell (b.results.length + 1) else b.meet result, woken }

/-- An insert that has its permit starts. -/
def launch (calls : TableStore σ) (table : String) (large : Bool) (entry : PreparedEntry) (i : Nat)
    (b : Batch σ) : Look σ :=
  let log := b.log.write .debug s!"Insert '{entry.key}' into {table}"
  let (progress, store) := calls.startInsert table entry.item b.store
  let b := { b.spend with log, store, started := i :: b.started }
  match progress with
  | .finished result => b.settle large i result
  | .givesWay => { batch := b, gaveWay := true }

/-- Looks at an entry: its insert goes on as far as it can. -/
def look (calls : TableStore σ) (table : String) (large : Bool) (entry : PreparedEntry) (i : Nat)
    (b : Batch σ) : Look σ :=
  match b.fanOut.stage i with
  | .new =>
    if b.exhausted then { batch := b, gaveWay := true }
    else
      let b := { b with fanOut := b.fanOut.ask i }
      if b.fanOut.stage i = .inFlight then launch calls table large entry i b else { batch := b }
  | .granted =>
    if b.exhausted then { batch := b, gaveWay := true }
    else launch calls table large entry i { b with fanOut := b.fanOut.start i }
  | .inFlight =>
    let (result, store) := calls.resumeInsert table entry.item b.store
    settle large { b with store } i result
  | .waiting | .ended => { batch := b }

/-- Moves the inserts until all have ended or one has failed, with at most `fuel` looks and
rounds. The queue holds the entries that have yet to be looked at in this round, and `gaveWay`
the inserts that gave way in it, the last one first. -/
def run (calls : TableStore σ) (table : String) (large : Bool) (entries : List PreparedEntry)
    (b : Batch σ) (queue gaveWay : List Nat) : Nat → Batch σ
  | 0 => b
  | fuel + 1 =>
    if b.failure.isSome then b
    else
      match queue with
      | i :: rest =>
        match entries[i]? with
        | some entry =>
          let l := look calls table large entry i b
          run calls table large entries l.batch (if large then rest ++ l.woken.toList else rest)
            (if l.gaveWay then i :: gaveWay else gaveWay) fuel
        | none => run calls table large entries b rest gaveWay fuel
      | [] =>
        if gaveWay.isEmpty && b.fanOut.granted.isEmpty then b
        else
          run calls table large entries (b.pause calls)
            (if large then gaveWay else List.range entries.length) [] fuel

/-- How the group ends. -/
def outcome (b : Batch σ) : Except StoreError Unit :=
  match b.failure with
  | some e => .error e
  | none => .ok ()

/-- Moves the inserts of a group in which nothing has begun until all have ended or one has
failed. -/
def runAll (calls : TableStore σ) (table : String) (entries : List PreparedEntry) (b : Batch σ) :
    Batch σ :=
  let n := entries.length
  run calls table (smallSize < n) entries b (List.range n) [] ((4 * n + 2) * (n + 2))

end Batch

end TableSeed
