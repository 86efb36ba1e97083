/-
Module: Wirelink.Spec.Fifo
Purpose: The typed queue beside the values that have gone through it. The abstract queue is the list of
  the values published and not released; the session records every value published and released and
  every claim and view handed out.
Trusted boundary: the choice of what is recorded; all behaviour is in the modules below
-/
import Mathlib.Algebra.Group.Nat.Defs
import Wirelink.Core.Fifo

namespace Wirelink

/-- The value in a slot. -/
def fifoValue (fifo : WlFifo) (index : Nat) : Bytes :=
  fifo.storage.readAt (index * fifo.slotStride.toNat) fifo.valueSize.toNat

/-- The slot at a place of the queue, the oldest value being at place zero. -/
def fifoPlace (fifo : WlFifo) (place : Nat) : Nat :=
  (fifo.readIndex.toNat + place) % fifo.capacity.toNat

/-- The abstract queue: the published values that have not been released, oldest first. -/
def fifoContent (fifo : WlFifo) : List Bytes :=
  (List.range (fifo.publishedCursor - fifo.consumedCursor).toNat).map fun place =>
    fifoValue fifo (fifoPlace fifo place)

/-- The claim an access hands out. -/
def SharedFifo.claims (shared : SharedFifo) : FifoOp → Option SpscSpan
  | .claim => if shared.writer = .idle then (wlFifoWriteClaim shared.fifo).2.toOption else none
  | _ => none

/-- The value an access publishes. -/
def SharedFifo.publishes (shared : SharedFifo) : FifoOp → Option Bytes
  | .publishStore =>
    if shared.writer = .idle then none
    else some (fifoValue shared.fifo shared.fifo.writeIndex.toNat)
  | _ => none

/-- The view an access hands out. -/
def SharedFifo.views (shared : SharedFifo) : FifoOp → Option SpscSpan
  | .acquire => (wlFifoReadAcquire shared.fifo).2.toOption
  | _ => none

/-- The value an access releases. -/
def SharedFifo.releases (shared : SharedFifo) : FifoOp → Option Bytes
  | .release view =>
    if (wlFifoReadRelease shared.fifo view).2 = .ok then
      some (fifoValue shared.fifo shared.fifo.readIndex.toNat)
    else none
  | _ => none

/-- The queue with what has gone through it. -/
structure FifoSession where
  shared : SharedFifo
  published : List Bytes
  released : List Bytes
  claims : List SpscSpan
  views : List SpscSpan
deriving Repr, DecidableEq

namespace FifoSession

/-- A session that begins. -/
def start (fifo : WlFifo) : FifoSession :=
  { shared := { fifo := fifo, writer := .idle }, published := [], released := [], claims := []
    views := [] }

/-- The session after one access. -/
def step (session : FifoSession) (op : FifoOp) : FifoSession :=
  { shared := session.shared.step op
    published := session.published ++ (session.shared.publishes op).toList
    released := session.released ++ (session.shared.releases op).toList
    claims := session.claims ++ (session.shared.claims op).toList
    views := session.views ++ (session.shared.views op).toList }

/-- The abstract queue of a session. -/
def content (session : FifoSession) : List Bytes :=
  fifoContent session.shared.fifo

end FifoSession

/-- The session after a sequence of accesses. -/
def runFifo (session : FifoSession) (ops : List FifoOp) : FifoSession :=
  ops.foldl FifoSession.step session

/-- Two spans of the storage have no byte in common. -/
def SpansApart (first firstSize second secondSize : Nat) : Prop :=
  first + firstSize ≤ second ∨ second + secondSize ≤ first

/-- The shared memory is a bounded queue: what has been published is what has been released followed by
the abstract queue, whose head is what the reader has borrowed and none of which the writer can
touch. -/
structure FifoRefines (session : FifoSession) : Prop where
  values : session.published = session.released ++ session.content
  bounded : session.content.length ≤ session.shared.fifo.capacity.toNat
  full : (wlFifoWriteClaim session.shared.fifo).2 = .error .queueFull →
    session.content.length = session.shared.fifo.capacity.toNat
  apart : session.shared.fifo.writeClaimed = true → ∀ claim, session.claims.getLast? = some claim →
    ∀ place, place < session.content.length →
      SpansApart claim.value claim.valueSize.toNat
        (fifoPlace session.shared.fifo place * session.shared.fifo.slotStride.toNat)
        session.shared.fifo.valueSize.toNat
  borrowed : session.shared.fifo.readBorrowed = true → ∀ view, session.views.getLast? = some view →
    session.content.head? =
      some (session.shared.fifo.storage.readAt view.value view.valueSize.toNat)
  highWatermark : session.shared.fifo.counters.highWatermark ≤ session.shared.fifo.capacity

/-- An access that has no part in the sequence of values. -/
def LeavesNoTrace (session : FifoSession) (op : FifoOp) : Prop :=
  (session.step op).published = session.published ∧ (session.step op).released = session.released ∧
    (session.step op).content = session.content

/-- A claim that is no longer the live one is refused, and only the error is counted, as long as the
tokens have not gone round. -/
def RefusesStaleClaim (session : FifoSession) : Prop :=
  ∀ place claim, session.claims[place]? = some claim →
    session.claims.length ≤ place + (2 ^ 32 - 1) →
    (place + 1 = session.claims.length → session.shared.fifo.writeClaimed = false) →
    wlFifoWritePublish session.shared.fifo (some claim) =
        (wlFifoError session.shared.fifo, .invalidState) ∧
      wlFifoWriteAbort session.shared.fifo (some claim) =
        (wlFifoError session.shared.fifo, .invalidState)

/-- So is a view that is no longer the live one. -/
def RefusesStaleView (session : FifoSession) : Prop :=
  ∀ place view, session.views[place]? = some view →
    session.views.length ≤ place + (2 ^ 32 - 1) →
    (place + 1 = session.views.length → session.shared.fifo.readBorrowed = false) →
    wlFifoReadRelease session.shared.fifo (some view) =
      (wlFifoError session.shared.fifo, .invalidState)

end Wirelink
