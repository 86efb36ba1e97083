/-
Module: Wirelink.Core.UnitRx
Purpose: The fixed-slot receive queue of packet links: claim, commit and abort by the producer,
  peek and consume by the link owner. Cursors are 32 bit and wrap.
Trusted boundary: the translation of src/unit_rx.c
-/
import Wirelink.Core.Frame

namespace Wirelink

/-- `wl_rx_unit_queue_state_t`. -/
structure RxUnitQueue where
  storage : Bytes
  unitSize : Nat
  lengths : List Nat
  writeCursor : UInt32
  readCursor : UInt32
  claimCursor : UInt32
  claimToken : UInt32
  slotCount : Nat
  claimActive : Bool
  initialized : Bool
deriving Repr, Inhabited, DecidableEq

/-- `wl_rx_unit_claim_t`: the offset of the claimed slot, its length and the token. -/
structure RxUnitClaim where
  offset : Nat
  length : Nat
  token : UInt32
deriving Repr, Inhabited, DecidableEq

namespace RxUnitQueue

/-- The zeroed queue left by `wl_init`. -/
def empty : RxUnitQueue :=
  { storage := [], unitSize := 0, lengths := List.replicate 8 0, writeCursor := 0, readCursor := 0,
    claimCursor := 0, claimToken := 0, slotCount := 0, claimActive := false, initialized := false }

/-- Slot number of a cursor, `cursor % slot_count`. -/
def slot (queue : RxUnitQueue) (cursor : UInt32) : Nat :=
  cursor.toNat % queue.slotCount

/-- Storage offset of the slot a cursor names. -/
def slotOffset (queue : RxUnitQueue) (cursor : UInt32) : Nat :=
  queue.slot cursor * queue.unitSize

/-- `wl_rx_unit_queue_init` on an initialized context with the given link configuration
(`WL_RX_UNIT_QUEUE_MAX_SLOTS` is eight). -/
def init (config : WlConfig) (storage : Bytes) (unitSize slotCount : Nat) :
    Except WlErr RxUnitQueue :=
  if unitSize = 0 ∨ slotCount < 2 ∨ slotCount > 8 ∨ unitSize > sizeMax / slotCount ∨
      storage.length < unitSize * slotCount then .error .invalidArg
  else if config.envelope = .cobsStream then .error .notSupported
  else if unitSize < wlFrameRawSize config.maxPayloadLen config.integrity then
    .error .bufTooSmall
  else
    .ok
      { empty with
        storage := storage, unitSize := unitSize, slotCount := slotCount, initialized := true }

/-- Number of committed and unconsumed units, as the cursors tell it. -/
def outstanding (queue : RxUnitQueue) : Nat :=
  (queue.writeCursor - queue.readCursor).toNat

/-- `wl_rx_unit_claim`. -/
def claim (queue : RxUnitQueue) (maximumLength : Nat) : RxUnitQueue × Except WlErr RxUnitClaim :=
  if maximumLength = 0 then (queue, .error .invalidArg)
  else if ¬ queue.initialized then (queue, .error .notInitialized)
  else if queue.claimActive then (queue, .error .busy)
  else if maximumLength > queue.unitSize then (queue, .error .bufTooSmall)
  else if queue.outstanding ≥ queue.slotCount then (queue, .error .wouldBlock)
  else
    let token := if queue.claimToken + 1 = 0 then 1 else queue.claimToken + 1
    ({ queue with claimToken := token, claimCursor := queue.writeCursor, claimActive := true },
      .ok { offset := queue.slotOffset queue.writeCursor, length := maximumLength, token := token })

/-- `claim_matches`. -/
def claimMatches (queue : RxUnitQueue) (claim : RxUnitClaim) : Bool :=
  queue.initialized && queue.claimActive && claim.token == queue.claimToken &&
    claim.offset == queue.slotOffset queue.claimCursor

/-- The producer stores `data` at `offset` of the slot it holds. -/
def claimStore (queue : RxUnitQueue) (offset : Nat) (data : Bytes) : RxUnitQueue :=
  if queue.claimActive ∧ offset + data.length ≤ queue.unitSize then
    { queue with
      storage := queue.storage.writeAt (queue.slotOffset queue.claimCursor + offset) data }
  else queue

/-- `wl_rx_unit_commit`. -/
def commit (queue : RxUnitQueue) (claim : RxUnitClaim) (length : Nat) : RxUnitQueue × WlErr :=
  if ¬ queue.claimMatches claim then (queue, .notFound)
  else if length = 0 ∨ length > claim.length ∨ length > queue.unitSize then (queue, .invalidArg)
  else
    ({ queue with
        lengths := queue.lengths.set (queue.slot queue.claimCursor) length
        claimActive := false
        writeCursor := queue.claimCursor + 1 },
      .ok)

/-- `wl_rx_unit_abort`. -/
def abort (queue : RxUnitQueue) (claim : RxUnitClaim) : RxUnitQueue × WlErr :=
  if ¬ queue.claimMatches claim then (queue, .notFound)
  else ({ queue with claimActive := false }, .ok)

/-- `wl_rx_unit_consumer_peek`: offset and length of the oldest unit. -/
def consumerPeek (queue : RxUnitQueue) : Option (Nat × Nat) :=
  if ¬ queue.initialized ∨ queue.readCursor = queue.writeCursor then none
  else
    some (queue.slotOffset queue.readCursor, queue.lengths.getD (queue.slot queue.readCursor) 0)

/-- `wl_rx_unit_consumer_has_data`. -/
def consumerHasData (queue : RxUnitQueue) : Bool :=
  queue.initialized && queue.readCursor != queue.writeCursor

/-- `wl_rx_unit_consumer_consume`. -/
def consumerConsume (queue : RxUnitQueue) : RxUnitQueue × WlErr :=
  if ¬ queue.initialized then (queue, .notInitialized)
  else if queue.readCursor = queue.writeCursor then (queue, .noData)
  else
    ({ queue with
        lengths := queue.lengths.set (queue.slot queue.readCursor) 0
        readCursor := queue.readCursor + 1 },
      .ok)

end RxUnitQueue

end Wirelink
