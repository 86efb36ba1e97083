/-
Module: Wirelink.Spec.Stream
Purpose: What a byte stream brings in. Each call of a producer makes some bytes readable, in the order
  of the calls; a call that had to give up bytes notes an overflow.
Trusted boundary: none
-/
import Wirelink.Core.Run

namespace Wirelink

/-- The bytes a commit of `length` makes readable. -/
def RxRing.committedBytes (ring : RxRing) (length : Nat) : Bytes :=
  if (ring.producerCommit length).2 = .ok then
    ring.memory.readAt (cursorPhysical ring.capacity ring.reservationCursor) length
  else []

/-- The bytes a publication makes readable. -/
def RxRing.publishedBytes (ring : RxRing) (token : UInt32) (offset length : Nat) : Bytes :=
  if (ring.dmaPublish token offset length).2 = .ok then
    ring.memory.readAt (cursorPhysical ring.capacity ring.dmaClaim.cursor + offset) length
  else []

/-- The calls and stores of the byte producers. -/
def Op.isProducer : Op → Bool
  | .feedUnit _ | .feedBytes _ | .rxReserve | .ringStore _ _ | .rxCommit _ | .dmaClaim _
  | .dmaStore _ _ | .dmaPublish _ _ _ | .dmaFinish _ | .dmaAbort | .noteOverflow => true
  | _ => false

/-- The bytes an operation on a stream link makes readable. -/
def streamInput (ctx : WlCtx) : Op → Bytes
  | .feedUnit unit => unit.data.take (wlFeedBytes ctx unit).2.2
  | .feedBytes data => data.data.take (wlFeedBytes ctx data).2.2
  | .rxCommit length => ctx.rx.rxRing.committedBytes length
  | .dmaPublish token offset length => ctx.rx.rxRing.publishedBytes token offset length
  | _ => []

/-- The operation reports that bytes of the stream were lost: a feed took only a part of its bytes, a
DMA transfer was aborted, or the producer said so. -/
def notesOverflow (ctx : WlCtx) : Op → Bool
  | .feedUnit unit => (wlFeedBytes ctx unit).2.1 == .wouldBlock
  | .feedBytes data => (wlFeedBytes ctx data).2.1 == .wouldBlock
  | .dmaAbort => (wlRxDmaAbort ctx).2 == .ok
  | .noteOverflow => true
  | _ => false

end Wirelink
