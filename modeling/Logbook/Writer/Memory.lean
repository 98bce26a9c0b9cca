/-
Writers in memory, with limits.  They stand for disks that fill up and for pipes that close: once
a limit is reached every call fails, or takes nothing.
-/
import Logbook.Writer

namespace Logbook

/-- When and how a writer in memory fails. -/
structure Limits where
  /-- The number of bytes it takes. -/
  bytes : Option Nat := none
  /-- The number of line feeds it takes. -/
  lines : Option Nat := none
  /-- At a limit it takes nothing, and does not fail. -/
  stalls : Bool := false
  /-- Every flush fails. -/
  flushFails : Bool := false
  /-- A call with this text among its bytes raises a fault. -/
  faultOn : Option String := none
  deriving Repr

/-- A writer in memory: its limits, all it holds, and the number of flushes. -/
structure Memory where
  limits : Limits := {}
  held : List UInt8 := []
  flushes : Nat := 0
  deriving Repr

namespace Memory

/-- The bytes hold others as a run. -/
def holdsRun (run : List UInt8) : List UInt8 → Bool
  | [] => run.isEmpty
  | b :: rest => run.isPrefixOf (b :: rest) || holdsRun run rest

/-- What a call at a limit gets. -/
def refusal (limits : Limits) : Except String Nat :=
  if limits.stalls then .ok 0 else .error "disk gone"

/-- The number of line feeds. -/
def lineCount (bytes : List UInt8) : Nat :=
  bytes.count 10

/-- It holds all the line feeds that it takes. -/
def full (memory : Memory) : Bool :=
  match memory.limits.lines with
  | some n => decide (n ≤ lineCount memory.held)
  | none => false

/-- The number of bytes that are taken of some. -/
def take (memory : Memory) (bytes : List UInt8) : Except String Nat :=
  if memory.full then refusal memory.limits
  else match memory.limits.bytes with
    | none => .ok bytes.length
    | some n =>
        let room := n - memory.held.length
        if room = 0 then refusal memory.limits else .ok (min room bytes.length)

/-- A call with some bytes raises a fault. -/
def isFaulty (memory : Memory) (bytes : List UInt8) : Bool :=
  match memory.limits.faultOn with
  | some text => holdsRun (Text.utf8 text.toList) bytes
  | none => false

def write (memory : Memory) (bytes : List UInt8) : Except Fault (Except String Nat × Memory) :=
  if memory.isFaulty bytes then .error (.raised "writer panicked")
  else match memory.take bytes with
    | .ok n => .ok (.ok n, { memory with held := memory.held ++ bytes.take n })
    | .error reason => .ok (.error reason, memory)

/-- Flushes. -/
def flush (memory : Memory) : Except String Unit × Memory :=
  (if memory.limits.flushFails then .error "flush failed" else .ok (),
    { memory with flushes := memory.flushes + 1 })

/-- A writer in memory that is a part of a world. -/
def writer {World : Type} (get : World → Memory) (set : World → Memory → World) :
    Writer World where
  write bytes world :=
    match (get world).write bytes with
    | .ok (taken, memory) => .ok taken (set world memory)
    | .error fault => .error fault world
  flush world :=
    let (done, memory) := (get world).flush
    .ok done (set world memory)

/-- A writer in memory that is all there is. -/
def alone : Writer Memory :=
  writer id fun _ memory => memory

end Memory

end Logbook
