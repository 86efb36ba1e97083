/-
Module: Wirelink.Spec.RxLease
Purpose: Received payloads as the application sees them. A run is kept beside the RX events that are
  published and not yet released, each with the bytes it showed when it was published, and beside
  everything ever published.
Trusted boundary: none
-/
import Mathlib.Algebra.Group.Nat.Defs
import Wirelink.Core.Run

namespace Wirelink

/-! ### Where bytes lie -/

/-- A stretch of one of the receive memories. -/
structure RxSpan where
  source : WlRxSource
  offset : Nat
  length : Nat
deriving Repr, Inhabited, DecidableEq

/-- The byte at `position` of the memory `source` belongs to the span. -/
def RxSpan.Covers (span : RxSpan) (source : WlRxSource) (position : Nat) : Prop :=
  span.source = source ∧ span.offset ≤ position ∧ position < span.offset + span.length

/-- The bytes a pointer into the receive memories shows. -/
def RxState.bytesAt (rx : RxState) (ptr : RxPtr) (length : Nat) : Bytes :=
  match ptr.source with
  | .ring => rx.rxRing.memory.readAt ptr.offset length
  | .fallback => rx.rxFallback.readAt ptr.offset length
  | .unit => rx.rxUnits.storage.readAt ptr.offset length
  | .none => []

/-- The payload bytes of an event, read where it points. -/
def payloadBytes (ctx : WlCtx) (event : WlEvent) : Bytes :=
  match event.payload with
  | some ptr => ctx.rx.bytesAt ptr event.payloadLen
  | none => []

/-- The stretch an event points at. -/
def WlEvent.span (event : WlEvent) : RxSpan :=
  match event.payload with
  | some ptr => { source := ptr.source, offset := ptr.offset, length := event.payloadLen }
  | none => { source := .none, offset := 0, length := 0 }

/-- What the producers hold: the reservation, the unpublished rest of the DMA claim and the claimed
slot. -/
def producerSpans (ctx : WlCtx) : List RxSpan :=
  let ring := ctx.rx.rxRing
  let units := ctx.rx.rxUnits
  (if ring.reservationActive then
    [{ source := .ring
       offset := cursorPhysical ring.capacity ring.reservationCursor
       length := ring.reservationLength }]
  else []) ++
  (if ring.dmaClaim.active then
    [{ source := .ring
       offset := cursorPhysical ring.capacity ring.dmaClaim.cursor + ring.dmaClaim.published
       length := ring.dmaClaim.length - ring.dmaClaim.published }]
  else []) ++
  (if units.claimActive then
    [{ source := .unit
       offset := units.slotOffset units.claimCursor
       length := units.unitSize }]
  else [])

/-! ### Runs -/

/-- An RX event that was published, with its payload at that moment. -/
structure HeldEvent where
  event : WlEvent
  bytes : Bytes
deriving Repr, Inhabited, DecidableEq

/-- A run with the RX events published and not yet released, all RX events ever published, the number
of units committed to the unit queue and whether that queue was set up a second time. -/
structure LeaseRun where
  ctx : WlCtx
  outstanding : List HeldEvent
  published : List WlEvent
  committed : Nat
  rebuilt : Bool
deriving Repr, Inhabited, DecidableEq

/-- The RX event an operation returns to its caller. -/
def returnedEvents (ctx : WlCtx) : Op → List WlEvent
  | .poll nowMs =>
    match (wlPoll ctx nowMs).2 with
    | .ok event => if event.type.isRx then [event] else []
    | .error _ => []
  | _ => []

/-- The RX event in the slot. -/
def slotRxEvents (ctx : WlCtx) : List WlEvent :=
  if holdsRxEvent ctx then [ctx.slot.event] else []

/-- The RX events an operation publishes: in the slot or returned, and not in the slot before. -/
def publishedEvents (ctx : WlCtx) (op : Op) : List WlEvent :=
  (returnedEvents ctx op ++ slotRxEvents (step ctx op)).filter (· ∉ slotRxEvents ctx)

/-- A release called with an RX event that carries the lease of this one, which the caller has already
received. -/
def releases (ctx : WlCtx) (held : HeldEvent) : Op → Bool
  | .release type lease =>
    decide (held.event ∉ slotRxEvents ctx) && type.isRx && held.event.lease == lease
  | _ => false

/-- A unit was committed to the queue. -/
def commitsUnit (ctx : WlCtx) : Op → Bool
  | .unitCommit claim length => (wlRxUnitCommit ctx claim length).2 == .ok
  | _ => false

/-- The queue is set up although it already was. -/
def rebuildsQueue (ctx : WlCtx) : Op → Bool
  | .unitQueueInit storage unitSize slotCount =>
    ctx.rx.rxUnits.initialized && (wlRxUnitQueueInit ctx storage unitSize slotCount).2 == .ok
  | _ => false

/-- One operation. -/
def LeaseRun.step (lease : LeaseRun) (op : Op) : LeaseRun :=
  let after := Wirelink.step lease.ctx op
  let fresh := publishedEvents lease.ctx op
  { ctx := after
    outstanding :=
      fresh.map (fun event => { event := event, bytes := payloadBytes after event }) ++
        lease.outstanding.filter (fun held => !releases lease.ctx held op)
    published := fresh ++ lease.published
    committed := lease.committed + (if commitsUnit lease.ctx op then 1 else 0)
    rebuilt := lease.rebuilt || rebuildsQueue lease.ctx op }

/-- A run from a context in which nothing was received. -/
def runLease (ctx : WlCtx) (ops : List Op) : LeaseRun :=
  ops.foldl LeaseRun.step
    { ctx := ctx, outstanding := [], published := [], committed := 0, rebuilt := false }

/-- What the application may rely on between the publication of an RX event and its release. -/
structure LeaseStable (lease : LeaseRun) : Prop where
  /-- At most one RX event is outstanding. -/
  single : lease.outstanding.length ≤ 1
  /-- Its payload shows what it showed when it was published. -/
  value : ∀ held ∈ lease.outstanding, payloadBytes lease.ctx held.event = held.bytes
  /-- No producer holds a byte of it. -/
  apart : ∀ held ∈ lease.outstanding, ∀ span ∈ producerSpans lease.ctx,
    ∀ position, held.event.span.Covers span.source position → ¬ span.Covers span.source position
  /-- The release of another event is without effect, as long as the leases have not wrapped. -/
  others : lease.published.length < 2 ^ 32 → ∀ event ∈ lease.published,
    (∀ held ∈ lease.outstanding, held.event ≠ event) →
      wlEventRelease lease.ctx event.type event.lease = lease.ctx
  /-- And so is the release of a TX event. -/
  transmits : ∀ type lease', type.isRx = false → wlEventRelease lease.ctx type lease' = lease.ctx

end Wirelink
