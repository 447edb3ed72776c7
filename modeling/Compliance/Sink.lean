/-
**Sinks.**

A sink takes bytes up to a limit and refuses what comes after.  What it takes is delivered, whether
or not the rest follows.

Main definitions:

* `Sink` — how much room is left, and whether flushing works;
* `Sink.Failure` — why a sink refuses;
* `Sink.write`, `Sink.flush` — what a sink delivers, and the sink after that.

Main results:

* `Sink.bytes_write_of_room`, `Sink.failure_write_eq_none_iff` — a sink with a limit takes the front
  of what it is offered, and refuses exactly if something is left.
-/

set_option relaxedAutoImplicit false
set_option autoImplicit false

namespace Compliance

/-- A place that takes bytes. -/
structure Sink where
  /-- How many bytes it still takes; any number if there is no limit. -/
  room : Option Nat
  /-- Whether flushing fails. -/
  flushFails : Bool
  deriving DecidableEq, Repr

namespace Sink

/-- A sink that takes everything. -/
def unlimited : Sink := ⟨none, false⟩

/-- Why a sink refuses. -/
inductive Failure
  /-- It takes no more bytes. -/
  | closed
  /-- It could not be flushed. -/
  | flushFailed
  deriving DecidableEq, Repr

/-- The wording of a failure. -/
def Failure.message : Failure → String
  | closed => "closed"
  | flushFailed => "flush failed"

/-- What a sink did. -/
structure Delivery where
  /-- The bytes that it took. -/
  bytes : List UInt8
  /-- Why it refused, if it did. -/
  failure : Option Failure
  /-- The sink afterwards. -/
  sink : Sink

/-- Offers bytes to a sink.  It takes those that it has room for and fails if there are more. -/
def write (sink : Sink) (bytes : List UInt8) : Delivery :=
  match sink.room with
  | none => ⟨bytes, none, sink⟩
  | some n =>
    ⟨bytes.take n, if bytes.length ≤ n then none else some .closed,
      { sink with room := some (n - bytes.length) }⟩

/-- Flushes a sink. -/
def flush (sink : Sink) : Delivery :=
  ⟨[], if sink.flushFails then some .flushFailed else none, sink⟩

@[simp] theorem write_nil (sink : Sink) : sink.write [] = ⟨[], none, sink⟩ := by
  obtain ⟨room, fails⟩ := sink
  cases room <;> simp [write]

@[simp] theorem write_unlimited (bytes : List UInt8) :
    unlimited.write bytes = ⟨bytes, none, unlimited⟩ := rfl

@[simp] theorem flush_unlimited : unlimited.flush = ⟨[], none, unlimited⟩ := rfl

/-- What a limited sink takes is the front of what it is offered. -/
theorem bytes_write_of_room {sink : Sink} {n : Nat} (h : sink.room = some n)
    (bytes : List UInt8) : (sink.write bytes).bytes = bytes.take n := by
  simp [write, h]

/-- A limited sink refuses exactly what it has no room for. -/
theorem failure_write_eq_none_iff {sink : Sink} {n : Nat} (h : sink.room = some n)
    (bytes : List UInt8) : (sink.write bytes).failure = none ↔ bytes.length ≤ n := by
  simp [write, h]

end Sink

end Compliance
