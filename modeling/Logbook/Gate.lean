/-
Gates.  A gate decides, visit by visit, whether the statement behind it may log.  There are four:
on the first visit only; on every n-th visit; whenever a condition turns true; and at most once
in an interval of time.

The last one keeps nanoseconds in 64 bits.  Readings, intervals and differences that do not fit
stop at the ends of the range.
-/
namespace Logbook

/-- Opens on the first visit only. -/
structure OnceGate where
  hasFired : Bool := false
  deriving DecidableEq, Repr

/-- A visit: whether the gate opens, and the gate after it. -/
def OnceGate.visit (gate : OnceGate) : Bool × OnceGate :=
  (!gate.hasFired, ⟨true⟩)

/-- Opens on every n-th visit. -/
structure CountGate where
  count : UInt64 := 0
  deriving DecidableEq, Repr

/-- A visit with a given n.  For zero the gate counts and stays shut. -/
def CountGate.visit (gate : CountGate) (n : UInt64) : Bool × CountGate :=
  let count := gate.count + 1
  (n != 0 && count % n == 0, ⟨count⟩)

/-- Opens when a condition turns true.  Before the first visit the condition counts as false. -/
structure ChangeGate where
  previous : Bool := false
  deriving DecidableEq, Repr

/-- A visit with the condition as it is. -/
def ChangeGate.visit (gate : ChangeGate) (condition : Bool) : Bool × ChangeGate :=
  (condition && !gate.previous, ⟨condition⟩)

namespace Nanos

/-- The mark of a gate that has not opened yet.  No reading is so early. -/
def never : Int64 := Int64.minValue

/-- A distance from the base of the clock in whole nanoseconds. -/
def ofReading (nanos : Int) : Int64 :=
  if nanos < -0x7fffffffffffffff then never + 1
  else if 0x7fffffffffffffff < nanos then Int64.maxValue
  else Int64.ofInt nanos

/-- An interval in whole nanoseconds. -/
def ofInterval (nanos : Nat) : Int64 :=
  if 0x7fffffffffffffff < nanos then Int64.maxValue else Int64.ofNat nanos

/-- The difference, or the end of the range that it lies beyond. -/
def difference (a b : Int64) : Int64 :=
  let exact := a.toInt - b.toInt
  if exact < -0x8000000000000000 then Int64.minValue
  else if 0x7fffffffffffffff < exact then Int64.maxValue
  else Int64.ofInt exact

end Nanos

/-- Opens at most once in an interval.  The gate holds when it last opened. -/
structure IntervalGate where
  last : Int64 := Nanos.never
  deriving DecidableEq, Repr

namespace IntervalGate

/-- The gate is shut at a reading of the clock. -/
def isShut (gate : IntervalGate) (interval now : Int64) : Bool :=
  gate.last != Nanos.never && decide (Nanos.difference now gate.last < interval)

/-- A visit with an interval and a reading of the clock, both in nanoseconds. -/
def visit (gate : IntervalGate) (interval : Nat) (reading : Int) : Bool × IntervalGate :=
  let now := Nanos.ofReading reading
  if gate.isShut (Nanos.ofInterval interval) now then (false, gate) else (true, ⟨now⟩)

end IntervalGate

/-- The place of a statement with a gate. -/
abbrev Site := Nat

/-- The gates of all statements.  Each statement has its own, of the kind that it needs. -/
structure Gates where
  once : Site → OnceGate := fun _ => {}
  count : Site → CountGate := fun _ => {}
  change : Site → ChangeGate := fun _ => {}
  interval : Site → IntervalGate := fun _ => {}

/-- Under which condition a statement logs. -/
inductive Guard where
  | always
  | holds (condition : Bool)
  | once (site : Site)
  | everyNth (site : Site) (n : UInt64)
  | changes (site : Site) (condition : Bool)
  | throttled (site : Site) (interval : Nat) (reading : Int)

namespace Gates

/-- Another gate at a site. -/
def update {Gate : Type} (gates : Site → Gate) (site : Site) (gate : Gate) : Site → Gate :=
  fun other => if other = site then gate else gates other

/-- A visit to a guarded statement: whether it may log, and the gates after it. -/
def visit (gates : Gates) : Guard → Bool × Gates
  | .always => (true, gates)
  | .holds condition => (condition, gates)
  | .once site =>
      let (opens, gate) := (gates.once site).visit
      (opens, { gates with once := update gates.once site gate })
  | .everyNth site n =>
      let (opens, gate) := (gates.count site).visit n
      (opens, { gates with count := update gates.count site gate })
  | .changes site condition =>
      let (opens, gate) := (gates.change site).visit condition
      (opens, { gates with change := update gates.change site gate })
  | .throttled site interval reading =>
      let (opens, gate) := (gates.interval site).visit interval reading
      (opens, { gates with interval := update gates.interval site gate })

end Gates

namespace GateWitness

example : (IntervalGate.visit {} 5 (-3)).2.visit 5 1 = (false, ⟨-3⟩) := by decide +kernel

example : (IntervalGate.visit {} 5 (-3)).2.visit 5 2 = (true, ⟨2⟩) := by decide +kernel

example : (CountGate.visit {} 1).1 = true ∧ (CountGate.visit {} 0).1 = false := by decide +kernel

end GateWitness

end Logbook
