/-
Module: Wirelink.Spec.UnitQueue
Purpose: What the unit queue of a packet link is for: a bounded first-in first-out queue of units.
  A run of the queue is kept beside the list of everything committed to it and the number of units
  consumed from it.
Trusted boundary: none
-/
import Wirelink.Core.UnitRx

namespace Wirelink

/-- One call of the producer or of the consumer, or a store of the producer into its claim. -/
inductive UnitOp where
  | claim (maximumLength : Nat)
  | store (offset : Nat) (data : Bytes)
  | commit (claim : RxUnitClaim) (length : Nat)
  | abort (claim : RxUnitClaim)
  | consume
deriving Repr, Inhabited, DecidableEq

/-- A queue with its history: the units committed so far, oldest first, and how many of them were
consumed. -/
structure UnitRun where
  queue : RxUnitQueue
  committed : List Bytes
  consumed : Nat
deriving Repr, Inhabited, DecidableEq

namespace UnitRun

/-- A queue that has just been initialized. -/
def start (queue : RxUnitQueue) : UnitRun :=
  { queue := queue, committed := [], consumed := 0 }

/-- Number of units that are committed and not consumed. -/
def waiting (units : UnitRun) : Nat :=
  units.committed.length - units.consumed

/-- One call. A commit that succeeds appends what the claimed slot holds. -/
def step (units : UnitRun) : UnitOp → UnitRun
  | .claim maximumLength => { units with queue := (units.queue.claim maximumLength).1 }
  | .store offset data => { units with queue := units.queue.claimStore offset data }
  | .abort claim => { units with queue := (units.queue.abort claim).1 }
  | .commit claim length =>
    match units.queue.commit claim length with
    | (queue, .ok) =>
      { units with
        queue := queue
        committed := units.committed ++
          [units.queue.storage.readAt (units.queue.slotOffset units.queue.claimCursor) length] }
    | (queue, _) => { units with queue := queue }
  | .consume =>
    match units.queue.consumerConsume with
    | (queue, .ok) => { units with queue := queue, consumed := units.consumed + 1 }
    | (queue, _) => { units with queue := queue }

end UnitRun

/-- A run of the queue. -/
def runUnits (units : UnitRun) (ops : List UnitOp) : UnitRun :=
  ops.foldl UnitRun.step units

/-- The unit the consumer sees at the front of the queue. -/
def RxUnitQueue.consumerView (queue : RxUnitQueue) : Option Bytes :=
  queue.consumerPeek.map fun found => queue.storage.readAt found.1 found.2

/-- The queue behaves as a bounded first-in first-out queue of units. -/
structure QueueFifo (units : UnitRun) : Prop where
  /-- The consumer sees the oldest unit that it has not consumed, as it was committed. -/
  front : units.queue.consumerView = units.committed[units.consumed]?
  /-- A well-formed claim is granted as long as a slot is free. -/
  granted : ∀ maximumLength,
    (∃ claim, (units.queue.claim maximumLength).2 = .ok claim) ↔
      0 < maximumLength ∧ maximumLength ≤ units.queue.unitSize ∧
        units.queue.claimActive = false ∧ units.waiting < units.queue.slotCount
  /-- The claimed slot holds none of the units that wait. -/
  apart : units.queue.claimActive = true → ∀ index < units.waiting,
    units.queue.slot (units.queue.readCursor + UInt32.ofNat index) ≠
      units.queue.slot units.queue.claimCursor

end Wirelink
