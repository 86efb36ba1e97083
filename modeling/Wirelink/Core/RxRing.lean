/-
Module: Wirelink.Core.RxRing
Purpose: The receive ring of a byte-stream link: cursors over two buffer lengths, the delimiter
  search cache of the consumer, and the reservation and DMA claim state of the producer. Every
  operation is modelled as one atomic call.
Trusted boundary: the translation of src/rx_ring_bipbuf.c
-/
import Wirelink.Core.Cobs

namespace Wirelink

/-- `wl_rx_dma_claim_state_t`. -/
structure RxDmaClaim where
  cursor : Nat
  length : Nat
  published : Nat
  token : UInt32
  active : Bool
deriving Repr, Inhabited, DecidableEq

/-- `wl_rx_bipbuf_state_t`. The capacity is zero until the ring is initialized. -/
structure RxRing where
  memory : Bytes
  capacity : Nat
  readCursor : Nat
  writeCursor : Nat
  overflowEvents : UInt32
  findRead : Nat
  findScanned : Nat
  findOffset : Nat
  findValid : Bool
  findFound : Bool
  reservationCursor : Nat
  reservationLength : Nat
  reservationActive : Bool
  dmaNextToken : UInt32
  dmaClaim : RxDmaClaim
deriving Repr, Inhabited, DecidableEq

/-- A span of ring memory handed to the producer or the consumer. -/
structure RingSpan where
  offset : Nat
  length : Nat
deriving Repr, Inhabited, DecidableEq

/-- `cursor_physical`. -/
def cursorPhysical (capacity cursor : Nat) : Nat :=
  if cursor < capacity then cursor else cursor - capacity

/-- `cursor_distance`. -/
def cursorDistance (period start finish : Nat) : Nat :=
  if finish ≥ start then finish - start else period - start + finish

/-- `cursor_advance`. -/
def cursorAdvance (period cursor length : Nat) : Nat :=
  if length ≥ period - cursor then length - (period - cursor) else cursor + length

/-- `contiguous_length`. -/
def contiguousLength (capacity cursor available : Nat) : Nat :=
  let toEnd := capacity - cursorPhysical capacity cursor
  if available < toEnd then available else toEnd

namespace RxRing

/-- The zeroed claim left by `memset`. -/
def noDmaClaim : RxDmaClaim :=
  { cursor := 0, length := 0, published := 0, token := 0, active := false }

/-- The zeroed state of a link without a ring. -/
def empty : RxRing :=
  { memory := [], capacity := 0, readCursor := 0, writeCursor := 0, overflowEvents := 0,
    findRead := 0, findScanned := 0, findOffset := 0, findValid := false, findFound := false,
    reservationCursor := 0, reservationLength := 0, reservationActive := false,
    dmaNextToken := 0, dmaClaim := noDmaClaim }

/-- `wl_rx_ring_init`. -/
def init (memory : Bytes) : Except WlErr RxRing :=
  if memory.length = 0 ∨ memory.length > sizeMax / 2 then .error .invalidArg
  else .ok { empty with memory := memory, capacity := memory.length, dmaNextToken := 1 }

/-- `readable_snapshot`. -/
def readable (ring : RxRing) : Nat :=
  let distance := cursorDistance (ring.capacity * 2) ring.readCursor ring.writeCursor
  if distance ≤ ring.capacity then distance else 0

/-- `wl_rx_ring_producer_note_overflow`. -/
def noteOverflow (ring : RxRing) : RxRing :=
  if ring.capacity = 0 then ring else { ring with overflowEvents := ring.overflowEvents + 1 }

/-- `wl_rx_ring_producer_reserve`. -/
def producerReserve (ring : RxRing) : RxRing × Except WlErr RingSpan :=
  if ring.capacity = 0 then (ring, .error .notInitialized)
  else if ring.reservationActive || ring.dmaClaim.active then (ring, .error .invalidState)
  else
    let used := cursorDistance (ring.capacity * 2) ring.readCursor ring.writeCursor
    if used > ring.capacity then (ring, .error .invalidState)
    else
      let length := contiguousLength ring.capacity ring.writeCursor (ring.capacity - used)
      ({ ring with
          reservationCursor := ring.writeCursor
          reservationLength := length
          reservationActive := true },
        .ok { offset := cursorPhysical ring.capacity ring.writeCursor, length := length })

/-- The producer stores `data` at `offset` of its reserved span. -/
def producerStore (ring : RxRing) (offset : Nat) (data : Bytes) : RxRing :=
  if ring.reservationActive ∧ offset + data.length ≤ ring.reservationLength then
    { ring with
      memory := ring.memory.writeAt
        (cursorPhysical ring.capacity ring.reservationCursor + offset) data }
  else ring

/-- `wl_rx_ring_producer_commit`. -/
def producerCommit (ring : RxRing) (length : Nat) : RxRing × WlErr :=
  if ring.capacity = 0 then (ring, .notInitialized)
  else if ¬ ring.reservationActive then (ring, .invalidState)
  else if length > ring.reservationLength then (ring, .invalidArg)
  else
    ({ ring with
        writeCursor := cursorAdvance (ring.capacity * 2) ring.reservationCursor length
        reservationCursor := 0
        reservationLength := 0
        reservationActive := false },
      .ok)

/-- The opposite epoch's physical zero, used when an empty ring is normalized for DMA. -/
def normalized (ring : RxRing) (maximumLength : Nat) : RxRing :=
  if ring.writeCursor = ring.readCursor ∧ maximumLength ≤ ring.capacity ∧
      contiguousLength ring.capacity ring.writeCursor ring.capacity < maximumLength then
    let reset := if ring.writeCursor < ring.capacity then ring.capacity else 0
    { ring with readCursor := reset, writeCursor := reset }
  else ring

/-- `wl_rx_ring_dma_claim`; the answer carries the span and the claim token. -/
def dmaClaimOp (ring : RxRing) (maximumLength : Nat) :
    RxRing × Except WlErr (RingSpan × UInt32) :=
  if maximumLength = 0 then (ring, .error .invalidArg)
  else if ring.capacity = 0 then (ring, .error .notInitialized)
  else if ring.reservationActive || ring.dmaClaim.active then (ring, .error .wouldBlock)
  else
    let ring := ring.normalized maximumLength
    let reserved := cursorDistance (ring.capacity * 2) ring.readCursor ring.writeCursor
    if reserved > ring.capacity then (ring, .error .invalidState)
    else
      let free := contiguousLength ring.capacity ring.writeCursor (ring.capacity - reserved)
      let length := if free > maximumLength then maximumLength else free
      if length = 0 then (ring, .error .wouldBlock)
      else
        let token := if ring.dmaNextToken = 0 then 1 else ring.dmaNextToken
        ({ ring with
            dmaNextToken := token + 1
            dmaClaim :=
              { cursor := ring.writeCursor, length := length, published := 0, token := token,
                active := true } },
          .ok ({ offset := cursorPhysical ring.capacity ring.writeCursor, length := length }, token))

/-- The DMA engine stores `data` at `offset` of the claimed span. -/
def dmaStore (ring : RxRing) (offset : Nat) (data : Bytes) : RxRing :=
  if ring.dmaClaim.active ∧ ring.dmaClaim.published ≤ offset ∧
      offset + data.length ≤ ring.dmaClaim.length then
    { ring with
      memory := ring.memory.writeAt
        (cursorPhysical ring.capacity ring.dmaClaim.cursor + offset) data }
  else ring

/-- `wl_rx_ring_dma_publish`. -/
def dmaPublish (ring : RxRing) (token : UInt32) (offset length : Nat) : RxRing × WlErr :=
  if token = 0 then (ring, .invalidArg)
  else if ring.capacity = 0 then (ring, .notInitialized)
  else if ¬ (ring.dmaClaim.active ∧ ring.dmaClaim.token = token) ∨
      offset ≠ ring.dmaClaim.published ∨ length > ring.dmaClaim.length - offset then
    (ring, .invalidState)
  else
    let published := ring.dmaClaim.published + length
    ({ ring with
        dmaClaim := { ring.dmaClaim with published := published }
        writeCursor := cursorAdvance (ring.capacity * 2) ring.dmaClaim.cursor published },
      .ok)

/-- `wl_rx_ring_dma_finish`. -/
def dmaFinish (ring : RxRing) (token : UInt32) : RxRing × WlErr :=
  if token = 0 then (ring, .invalidArg)
  else if ring.capacity = 0 then (ring, .notInitialized)
  else if ¬ (ring.dmaClaim.active ∧ ring.dmaClaim.token = token) then (ring, .invalidState)
  else ({ ring with dmaClaim := noDmaClaim }, .ok)

/-- `wl_rx_ring_dma_abort`. -/
def dmaAbort (ring : RxRing) : RxRing × WlErr :=
  if ring.capacity = 0 then (ring, .notInitialized)
  else if ring.reservationActive then (ring, .invalidState)
  else (({ ring with dmaClaim := noDmaClaim } : RxRing).noteOverflow, .ok)

/-- `wl_rx_ring_consumer_peek`, `none` when nothing is readable. -/
def consumerPeek (ring : RxRing) : Option RingSpan :=
  if ring.capacity = 0 ∨ ring.readable = 0 then none
  else
    some
      { offset := cursorPhysical ring.capacity ring.readCursor
        length := contiguousLength ring.capacity ring.readCursor ring.readable }

/-- The `memchr` loop of `wl_rx_ring_consumer_find` from `offset` on. -/
def scan (ring : RxRing) (value : UInt8) : Nat → Nat → Option Nat
  | 0, _ => none
  | fuel + 1, offset =>
    if offset < ring.readable then
      let cursor := cursorAdvance (ring.capacity * 2) ring.readCursor offset
      let length := contiguousLength ring.capacity cursor (ring.readable - offset)
      let base := cursorPhysical ring.capacity cursor
      match (ring.memory.readAt base length).findIdx? (· == value) with
      | some index => some (offset + index)
      | none => scan ring value fuel (offset + length)
    else none

/-- `wl_rx_ring_consumer_find`. Only a search for the delimiter `0x00` reads or writes the
owner-only search cache. -/
def consumerFind (ring : RxRing) (value : UInt8) : RxRing × Except WlErr Nat :=
  if ring.capacity = 0 then (ring, .error .notInitialized)
  else
    let cached := value == 0 && ring.findValid && ring.findRead == ring.readCursor &&
      decide (ring.findScanned ≤ ring.readable)
    if cached && ring.findFound then (ring, .ok ring.findOffset)
    else
      let offset := if cached then ring.findScanned else 0
      let found := ring.scan value (ring.readable + 1) offset
      let marked := { ring with
        findValid := true, findRead := ring.readCursor, findFound := found.isSome,
        findOffset := found.getD ring.findOffset, findScanned := ring.readable }
      (if value = 0 then marked else ring,
        match found with
        | some offset => .ok offset
        | none => .error .noData)

/-- `wl_rx_ring_consumer_copy`: the bytes it copies out. -/
def consumerCopy (ring : RxRing) (offset length : Nat) : Except WlErr Bytes :=
  if ring.capacity = 0 then .error .notInitialized
  else if offset > ring.readable ∨ length > ring.readable - offset then .error .noData
  else
    let cursor := cursorAdvance (ring.capacity * 2) ring.readCursor offset
    let first := contiguousLength ring.capacity cursor length
    .ok (ring.memory.readAt (cursorPhysical ring.capacity cursor) first ++
      ring.memory.readAt 0 (length - first))

/-- `wl_rx_ring_consumer_consume`. -/
def consumerConsume (ring : RxRing) (length : Nat) : RxRing × WlErr :=
  if ring.capacity = 0 then (ring, .notInitialized)
  else if length > ring.readable then (ring, .noData)
  else
    ({ ring with
        findValid := false
        readCursor := cursorAdvance (ring.capacity * 2) ring.readCursor length },
      .ok)

/-- `wl_rx_ring_consumer_take_overflow`. -/
def takeOverflow (ring : RxRing) : RxRing × UInt32 :=
  if ring.capacity = 0 then (ring, 0) else ({ ring with overflowEvents := 0 }, ring.overflowEvents)

/-- `wl_rx_ring_consumer_overflow_pending`. -/
def overflowPending (ring : RxRing) : Bool :=
  ring.capacity != 0 && ring.overflowEvents != 0

/-- `wl_rx_ring_has_space`. -/
def hasSpace (ring : RxRing) : Bool :=
  ring.capacity != 0 &&
    decide (cursorDistance (ring.capacity * 2) ring.readCursor ring.writeCursor < ring.capacity)

end RxRing

end Wirelink
