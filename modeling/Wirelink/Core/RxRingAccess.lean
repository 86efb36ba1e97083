/-
Module: Wirelink.Core.RxRingAccess
Purpose: The receive ring at the granularity of its single atomic accesses. A call of the producer or
  of the consumer is cut at every load and store of a cursor and at the exchange of the overflow
  count; between two accesses the other side may run. Two fields are not in the source: the bytes
  committed and not yet consumed, and whether a store of the consumer has put back a read cursor that
  was no longer the current one.
Trusted boundary: the translation of the atomic accesses in src/rx_ring_bipbuf.c and of their
  callers in wl_frame_process_stream and wl_feed_recover_reset
-/
import Wirelink.Core.RxRing

namespace Wirelink

/-- Where a producer call stands between two of its accesses. -/
inductive ProducerPc where
  /-- Between calls. -/
  | idle
  /-- `wl_rx_ring_producer_reserve` has loaded the write cursor. -/
  | reserving (write : Nat)
  /-- `wl_rx_ring_dma_claim` has loaded the write cursor. -/
  | claiming (maximumLength write : Nat)
  /-- It found the ring empty and is going to store `reset_cursor` to the read cursor. -/
  | normalizing (maximumLength reset : Nat)
  /-- It has stored the read cursor and is going to store the write cursor. -/
  | readStored (maximumLength reset : Nat)
deriving Repr, DecidableEq

/-- The calls of the consumer that take a snapshot of the cursors. `drain` is `wl_rx_ring_readable`
whose answer is then consumed, as overflow handling and `wl_feed_recover_reset` do. -/
inductive ConsumerCall where
  | find (value : UInt8)
  | peek
  | copy (offset length : Nat)
  | consume (length : Nat)
  | drain
deriving Repr, DecidableEq

/-- Where a consumer call stands between two of its accesses. -/
inductive ConsumerPc where
  /-- Between calls. -/
  | idle
  /-- A call is going to load the write cursor. -/
  | calling (call : ConsumerCall)
  /-- The write cursor is loaded, the read cursor is not. -/
  | loaded (call : ConsumerCall) (write : Nat)
  /-- `wl_rx_ring_consumer_consume` is going to store the advanced read cursor. -/
  | storing (read length : Nat)
deriving Repr, DecidableEq

/-- What a snapshot of the consumer made readable. -/
structure RingView where
  read : Nat
  count : Nat
deriving Repr, DecidableEq

/-- The ring shared by the two sides. -/
structure SharedRing where
  ring : RxRing
  producer : ProducerPc
  consumer : ConsumerPc
  view : Option RingView
  pending : Bytes
  overwrote : Bool
deriving Repr, DecidableEq

/-- One access, with the private work up to the next one, or a store of the producer into the span
it holds. -/
inductive RingOp where
  | reserve
  | store (offset : Nat) (data : Bytes)
  | commit (length : Nat)
  | claim (maximumLength : Nat)
  | dmaStore (offset : Nat) (data : Bytes)
  | publish (token : UInt32) (offset length : Nat)
  | finish (token : UInt32)
  | abort
  | noteOverflow
  | producerNext
  | call (call : ConsumerCall)
  | takeOverflow
  | consumerNext
deriving Repr, DecidableEq

namespace RxRing

/-- The answer of `readable_snapshot` for two loaded cursors. -/
def snapshot (capacity read write : Nat) : Nat :=
  let distance := cursorDistance (capacity * 2) read write
  if distance ≤ capacity then distance else 0

/-- The end of `wl_rx_ring_producer_reserve`, after both cursors are loaded. -/
def reserveWith (ring : RxRing) (write read : Nat) : RxRing :=
  let used := cursorDistance (ring.capacity * 2) read write
  if used > ring.capacity then ring
  else
    { ring with
      reservationCursor := write
      reservationLength := contiguousLength ring.capacity write (ring.capacity - used)
      reservationActive := true }

/-- The end of `wl_rx_ring_dma_claim`, after an empty ring was normalized. -/
def claimWith (ring : RxRing) (maximumLength write read : Nat) : RxRing :=
  let reserved := cursorDistance (ring.capacity * 2) read write
  if reserved > ring.capacity then ring
  else
    let free := contiguousLength ring.capacity write (ring.capacity - reserved)
    let length := if free > maximumLength then maximumLength else free
    if length = 0 then ring
    else
      let token := if ring.dmaNextToken = 0 then 1 else ring.dmaNextToken
      { ring with
        dmaNextToken := token + 1
        dmaClaim :=
          { cursor := write, length := length, published := 0, token := token, active := true } }

/-- The search cache after `wl_rx_ring_consumer_find` worked on two loaded cursors. -/
def findWith (ring : RxRing) (value : UInt8) (write read : Nat) : RxRing :=
  { (({ ring with readCursor := read, writeCursor := write } : RxRing).consumerFind value).1 with
    readCursor := ring.readCursor, writeCursor := ring.writeCursor }

end RxRing

namespace SharedRing

/-- The producer is neither in a call nor holds a span. -/
def producerFree (shared : SharedRing) : Bool :=
  shared.producer == .idle && shared.ring.capacity != 0 && !shared.ring.reservationActive &&
    !shared.ring.dmaClaim.active

/-- Replace the ring. -/
def withRing (shared : SharedRing) (ring : RxRing) : SharedRing :=
  { shared with ring := ring }

/-- `wl_rx_ring_producer_commit`: one store of the write cursor. -/
def commit (shared : SharedRing) (length : Nat) : SharedRing :=
  match shared.ring.producerCommit length with
  | (ring, .ok) =>
    { shared with
      ring := ring
      pending := shared.pending ++ shared.ring.memory.readAt
        (cursorPhysical shared.ring.capacity shared.ring.reservationCursor) length }
  | (ring, _) => shared.withRing ring

/-- `wl_rx_ring_dma_publish`: one store of the write cursor. -/
def publish (shared : SharedRing) (token : UInt32) (offset length : Nat) : SharedRing :=
  match shared.ring.dmaPublish token offset length with
  | (ring, .ok) =>
    { shared with
      ring := ring
      pending := shared.pending ++ shared.ring.memory.readAt
        (cursorPhysical shared.ring.capacity shared.ring.dmaClaim.cursor + offset) length }
  | (ring, _) => shared.withRing ring

/-- The next access of a producer call. -/
def producerNext (shared : SharedRing) : SharedRing :=
  let ring := shared.ring
  match shared.producer with
  | .idle => shared
  | .reserving write =>
    { shared with ring := ring.reserveWith write ring.readCursor, producer := .idle }
  | .claiming maximumLength write =>
    if write = ring.readCursor ∧ maximumLength ≤ ring.capacity ∧
        contiguousLength ring.capacity write ring.capacity < maximumLength then
      { shared with
        producer :=
          .normalizing maximumLength (if write < ring.capacity then ring.capacity else 0) }
    else
      { shared with
        ring := ring.claimWith maximumLength write ring.readCursor, producer := .idle }
  | .normalizing maximumLength reset =>
    { shared with
      ring := { ring with readCursor := reset }, producer := .readStored maximumLength reset }
  | .readStored maximumLength reset =>
    { shared with
      ring := ({ ring with writeCursor := reset } : RxRing).claimWith maximumLength reset reset
      producer := .idle }

/-- The read cursor is loaded, and the call goes on with the snapshot. -/
def snapshotTaken (shared : SharedRing) (call : ConsumerCall) (write : Nat) : SharedRing :=
  let ring := shared.ring
  let read := ring.readCursor
  let readable := RxRing.snapshot ring.capacity read write
  let seen := { shared with view := some { read := read, count := readable } }
  match call with
  | .find value => { seen with ring := ring.findWith value write read, consumer := .idle }
  | .peek => { seen with consumer := .idle }
  | .copy _ _ => { seen with consumer := .idle }
  | .consume length =>
    if length > readable then { seen with consumer := .idle }
    else { seen with ring := { ring with findValid := false }, consumer := .storing read length }
  | .drain => { seen with consumer := .calling (.consume readable) }

/-- The next access of a consumer call. -/
def consumerNext (shared : SharedRing) : SharedRing :=
  match shared.consumer with
  | .idle => shared
  | .calling call => { shared with consumer := .loaded call shared.ring.writeCursor }
  | .loaded call write => shared.snapshotTaken call write
  | .storing read length =>
    { shared with
      ring :=
        { shared.ring with
          readCursor := cursorAdvance (shared.ring.capacity * 2) read length }
      consumer := .idle
      view := none
      pending := shared.pending.drop length
      overwrote := shared.overwrote || read != shared.ring.readCursor }

/-- The ring after one access. A side in the middle of a call can only go on with it. -/
def step (shared : SharedRing) : RingOp → SharedRing
  | .reserve =>
    if shared.producerFree then { shared with producer := .reserving shared.ring.writeCursor }
    else shared
  | .store offset data =>
    if shared.producer = .idle then shared.withRing (shared.ring.producerStore offset data)
    else shared
  | .commit length => if shared.producer = .idle then shared.commit length else shared
  | .claim maximumLength =>
    if maximumLength ≠ 0 ∧ shared.producerFree then
      { shared with producer := .claiming maximumLength shared.ring.writeCursor }
    else shared
  | .dmaStore offset data =>
    if shared.producer = .idle then shared.withRing (shared.ring.dmaStore offset data) else shared
  | .publish token offset length =>
    if shared.producer = .idle then shared.publish token offset length else shared
  | .finish token =>
    if shared.producer = .idle then shared.withRing (shared.ring.dmaFinish token).1 else shared
  | .abort =>
    if shared.producer = .idle then shared.withRing shared.ring.dmaAbort.1 else shared
  | .noteOverflow =>
    if shared.producer = .idle then shared.withRing shared.ring.noteOverflow else shared
  | .producerNext => shared.producerNext
  | .call call =>
    if shared.consumer = .idle ∧ shared.ring.capacity ≠ 0 then
      { shared with consumer := .loaded call shared.ring.writeCursor }
    else shared
  | .takeOverflow =>
    if shared.consumer = .idle then
      { shared with
        ring := shared.ring.takeOverflow.1
        consumer := if shared.ring.takeOverflow.2 = 0 then .idle else .calling .drain }
    else shared
  | .consumerNext => shared.consumerNext

end SharedRing

/-- A freshly initialized ring. -/
def sharedStart (ring : RxRing) : SharedRing :=
  { ring := ring, producer := .idle, consumer := .idle, view := none, pending := [],
    overwrote := false }

/-- The ring after a sequence of accesses. -/
def runShared (shared : SharedRing) (ops : List RingOp) : SharedRing :=
  ops.foldl SharedRing.step shared

end Wirelink
