/-
Module: Wirelink.Core.Receive
Purpose: The receiving half of the protocol owner: routing of a validated frame, the three ways a
  unit gets in (fed directly, through the slot queue, or as bytes of a stream), and the producer
  calls that pass through to the ring and the queue.
Trusted boundary: the translation of the receive part of src/protocol.c, of src/unit_frame.c
  and of src/link_frame.h
-/
import Wirelink.Core.Protocol

namespace Wirelink

/-! ### Routing -/

/-- `rx_counters.malformed++`. -/
def countMalformed (ctx : WlCtx) : WlCtx :=
  { ctx with
    rx :=
      { ctx.rx with
        rxCounters := { ctx.rx.rxCounters with malformed := ctx.rx.rxCounters.malformed + 1 } } }

/-- `rx_counters.unsupported++`. -/
def countUnsupported (ctx : WlCtx) : WlCtx :=
  { ctx with
    rx :=
      { ctx.rx with
        rxCounters :=
          { ctx.rx.rxCounters with unsupported := ctx.rx.rxCounters.unsupported + 1 } } }

/-- `rx_counters.bad_integrity++`. -/
def countBadIntegrity (ctx : WlCtx) : WlCtx :=
  { ctx with
    rx :=
      { ctx.rx with
        rxCounters :=
          { ctx.rx.rxCounters with badIntegrity := ctx.rx.rxCounters.badIntegrity + 1 } } }

/-- `rx_counters.duplicate++`. -/
def countDuplicate (ctx : WlCtx) : WlCtx :=
  { ctx with
    rx :=
      { ctx.rx with
        rxCounters := { ctx.rx.rxCounters with duplicate := ctx.rx.rxCounters.duplicate + 1 } } }

/-- The test for a copy of the last accepted reliable unit. -/
def isDuplicate (ctx : WlCtx) (sessionId : UInt64) (sequence : UInt32) : Bool :=
  ctx.dedup.rxHaveReliable && ctx.dedup.rxSessionId == sessionId &&
    ctx.dedup.rxSequence == sequence

/-- The record made of a reliable unit whose event is in the slot. -/
def recordAccepted (ctx : WlCtx) (view : WlFrameView) : WlCtx :=
  ({ ctx with
      slot :=
        { ctx.slot with event := { ctx.slot.event with peerSessionId := view.sessionId } }
      dedup :=
        { rxHaveReliable := true, rxSessionId := view.sessionId, rxSequence := view.sequence } } :
    WlCtx).note
      (.accepted view.sessionId view.sequence view.messageId view.payload
        (!ctx.port.controlPending) ctx.sink)

/-- The reliable DATA branch of `wl_frame_route_view`. -/
def routeReliable (ctx : WlCtx) (view : WlFrameView) (base : RxPtr) : WlCtx × WlErr :=
  if isDuplicate ctx view.sessionId view.sequence then
    wlSendAck
      ((countDuplicate ctx).note
        (.repeated view.sessionId view.sequence (!ctx.port.controlPending) ctx.sink))
      view.sessionId view.sequence
  else
    match wlPushEvent ctx .reliableRx view.messageId
        (some { base with offset := base.offset + view.payloadOffset }) view.payload.length 0 with
    | (pushed, .ok) => wlSendAck (recordAccepted pushed view) view.sessionId view.sequence
    | (ctx, err) => (ctx, err)

/-- `wl_frame_route_view`; `base` is where the parsed bytes start. -/
def wlFrameRouteView (ctx : WlCtx) (view : WlFrameView) (base : RxPtr) : WlCtx × WlErr :=
  if view.payload.length > ctx.config.maxPayloadLen then (ctx, .payloadTooLong)
  else
    match view.type with
    | .data =>
      if view.flags &&& wlPacketFlagReliable ≠ 0 then routeReliable ctx view base
      else
        wlPushEvent ctx .unreliableRx view.messageId
          (some { base with offset := base.offset + view.payloadOffset }) view.payload.length 0
    | .ack => wlHandleAck ctx view.sessionId view.sequence
    | .nack => (countUnsupported ctx, .notSupported)
    | .privateUse => (ctx, .ok)

/-- `wl_frame_bad_frame`. -/
def wlFrameBadFrame (ctx : WlCtx) (err : WlErr) : WlCtx × WlErr :=
  if err = .crc then (countBadIntegrity ctx, err)
  else if err = .notSupported then (countUnsupported ctx, err)
  else (countMalformed ctx, err)

/-- The end shared by both parsers: route a validated view, count anything else. -/
def routeDecoded (ctx : WlCtx) (decoded : Except WlErr WlFrameView) (base : RxPtr) :
    WlCtx × WlErr :=
  match decoded with
  | .ok view => wlFrameRouteView ctx view base
  | .error err => wlFrameBadFrame ctx err

/-! ### Units of packet links -/

/-- `wl_feed_parse_wire`. -/
def wlFeedParseWire (ctx : WlCtx) (data : Bytes) (base : RxPtr) : WlCtx × WlErr :=
  if data.length = 0 then (ctx, .invalidArg)
  else routeDecoded ctx (wlFrameDecode data ctx.config.integrity) base

/-- The raw length spelled in front of a length-prefixed unit. -/
def busRawLen (unit : Bytes) : Nat :=
  (Bytes.readBe16 unit).toNat

/-- `wl_feed_unit_raw`. -/
def wlFeedUnitRaw (ctx : WlCtx) (unit : Bytes) (base : RxPtr) : WlCtx × WlErr :=
  if ctx.config.envelope = .busLength16 then
    let rawLen := busRawLen unit
    if unit.length < 2 then (countMalformed ctx, .badFrame)
    else if rawLen + 2 > unit.length ∨ ctx.config.maxTransmissionUnit ≠ 0 ∧
        rawLen + 2 > ctx.config.maxTransmissionUnit then (countMalformed ctx, .badFrame)
    else if (unit.drop (rawLen + 2)).any (· != 0) then (countMalformed ctx, .badFrame)
    else wlFeedParseWire ctx (unit.readAt 2 rawLen) { base with offset := base.offset + 2 }
  else wlFeedParseWire ctx unit base

/-- `wl_frame_receive_unit`. -/
def wlFrameReceiveUnit (ctx : WlCtx) (unit : Bytes) : WlCtx × WlErr :=
  if ctx.slot.hasEvent || ctx.slot.rxEventLeased then (ctx, .wouldBlock)
  else if unit.length > ctx.rx.rxFallback.length then (ctx, .payloadTooLong)
  else
    wlFeedUnitRaw
      { ctx with
        rx :=
          { ctx.rx with
            rxFallback := ctx.rx.rxFallback.writeAt 0 unit
            rxCandidateSource := .fallback } }
      unit { source := .fallback, offset := 0 }

/-- The slot holds an RX event, tested after each routed unit. -/
def holdsRxEvent (ctx : WlCtx) : Bool :=
  ctx.slot.hasEvent && ctx.slot.event.type.isRx

/-- `wl_rx_unit_consumer_consume` on the context. -/
def consumeUnit (ctx : WlCtx) : WlCtx :=
  { ctx with rx := { ctx.rx with rxUnits := ctx.rx.rxUnits.consumerConsume.1 } }

/-- Set `rx_candidate_source`. -/
def setCandidate (ctx : WlCtx) (source : WlRxSource) : WlCtx :=
  { ctx with rx := { ctx.rx with rxCandidateSource := source } }

/-- Set `rx_pending_consume`. -/
def setPendingConsume (ctx : WlCtx) (length : Nat) : WlCtx :=
  { ctx with rx := { ctx.rx with rxPendingConsume := length } }

/-- The loop of `wl_frame_process_units`. Every turn that goes on consumes one unit. -/
def processUnitsLoop : Nat → WlCtx → WlCtx
  | 0, ctx => ctx
  | fuel + 1, ctx =>
    if ctx.slot.hasEvent || ctx.slot.rxEventLeased then ctx
    else
      match ctx.rx.rxUnits.consumerPeek with
      | none => ctx
      | some (offset, length) =>
        if length = 0 then ctx
        else
          let unit := ctx.rx.rxUnits.storage.readAt offset length
          let routed := (wlFeedUnitRaw (setCandidate ctx .unit) unit
            { source := .unit, offset := offset }).1
          if holdsRxEvent routed then setPendingConsume routed 1
          else
            let ctx := setCandidate (consumeUnit routed) .none
            if ctx.slot.hasEvent then ctx else processUnitsLoop fuel ctx

/-- `wl_frame_process_units`. -/
def wlFrameProcessUnits (ctx : WlCtx) : WlCtx :=
  if ¬ ctx.rx.rxUnits.initialized then ctx
  else processUnitsLoop (ctx.rx.rxUnits.outstanding + 1) ctx

/-! ### Byte streams -/

/-- `wl_rx_ring_consumer_consume` on the context. -/
def consumeRing (ctx : WlCtx) (length : Nat) : WlCtx :=
  { ctx with rx := { ctx.rx with rxRing := (ctx.rx.rxRing.consumerConsume length).1 } }

/-- `wl_feed_parse_stream` after the in-place decoder ran on a span of its own. -/
def wlFeedParseStream (ctx : WlCtx) (decoded : Except WlErr WlFrameView) (base : RxPtr) :
    WlCtx × WlErr :=
  match decoded with
  | .error .invalidArg => (ctx, .invalidArg)
  | decoded => routeDecoded ctx decoded base

/-- The overflow recovery at the head of `wl_frame_process_stream`. -/
def recoverOverflow (ctx : WlCtx) : WlCtx :=
  let (ring, events) := ctx.rx.rxRing.takeOverflow
  let ctx := { ctx with rx := { ctx.rx with rxRing := ring } }
  if events = 0 then ctx
  else
    let remaining := uint32Max - ctx.rx.rxCounters.overflow
    let increment := if events > remaining then remaining else events
    consumeRing
      { ctx with
        rx :=
          { ctx.rx with
            rxCounters :=
              { ctx.rx.rxCounters with overflow := ctx.rx.rxCounters.overflow + increment } } }
      ctx.rx.rxRing.readable

/-- `rx_counters.overflow++`, which wraps. -/
def countOverflow (ctx : WlCtx) : WlCtx :=
  { ctx with
    rx :=
      { ctx.rx with
        rxCounters := { ctx.rx.rxCounters with overflow := ctx.rx.rxCounters.overflow + 1 } } }

/-- The unit that ends at `delimiter` decoded in place in the ring. -/
def decodeInRing (ctx : WlCtx) (span : RingSpan) (delimiter : Nat) : WlCtx :=
  let encoded := ctx.rx.rxRing.memory.readAt span.offset delimiter
  let (buffer, decoded) := wlLinkDecodeStream ctx.config encoded
  let ring := { ctx.rx.rxRing with memory := ctx.rx.rxRing.memory.writeAt span.offset buffer }
  (wlFeedParseStream
    (setCandidate { ctx with rx := { ctx.rx with rxRing := ring } } .ring) decoded
    { source := .ring, offset := span.offset }).1

/-- The wrapped unit `encoded` copied to the fallback buffer and decoded there. -/
def decodeInFallback (ctx : WlCtx) (encoded : Bytes) : WlCtx :=
  let (buffer, decoded) := wlLinkDecodeStream ctx.config encoded
  let fallback := ctx.rx.rxFallback.writeAt 0 buffer
  (wlFeedParseStream
    (setCandidate { ctx with rx := { ctx.rx with rxFallback := fallback } } .fallback) decoded
    { source := .fallback, offset := 0 }).1

/-- The candidate of one turn of the stream loop, parsed where it lies; `none` when a wrapped unit
does not fit the fallback buffer. -/
def parseCandidate (ctx : WlCtx) (delimiter : Nat) : Option WlCtx :=
  let span := ctx.rx.rxRing.consumerPeek.getD { offset := 0, length := 0 }
  if delimiter ≤ span.length then some (decodeInRing ctx span delimiter)
  else if delimiter > ctx.rx.rxFallback.length then none
  else
    match ctx.rx.rxRing.consumerCopy 0 delimiter with
    | .error _ => none
    | .ok encoded => some (decodeInFallback ctx encoded)

/-- The loop of `wl_frame_process_stream`. Every turn that goes on consumes at least the
delimiter. -/
def processStreamLoop : Nat → WlCtx → WlCtx
  | 0, ctx => ctx
  | fuel + 1, ctx =>
    if ctx.slot.hasEvent || ctx.slot.rxEventLeased then ctx
    else
      let (ring, found) := ctx.rx.rxRing.consumerFind 0
      let ctx := { ctx with rx := { ctx.rx with rxRing := ring } }
      match found with
      | .error _ => ctx
      | .ok delimiter =>
        if delimiter = 0 then processStreamLoop fuel (consumeRing ctx 1)
        else
          match parseCandidate ctx delimiter with
          | none => processStreamLoop fuel (consumeRing (countOverflow ctx) (delimiter + 1))
          | some routed =>
            if holdsRxEvent routed then
              if routed.rx.rxCandidateSource = .ring then
                setPendingConsume routed (delimiter + 1)
              else setPendingConsume (consumeRing routed (delimiter + 1)) 0
            else
              let ctx := setCandidate (consumeRing routed (delimiter + 1)) .none
              if ctx.slot.hasEvent then ctx else processStreamLoop fuel ctx

/-- `wl_frame_process_stream`. -/
def wlFrameProcessStream (ctx : WlCtx) : WlCtx :=
  let ctx := recoverOverflow ctx
  processStreamLoop (ctx.rx.rxRing.readable + 1) ctx

/-- `wl_link_process_rx`. -/
def wlLinkProcessRx (ctx : WlCtx) : WlCtx :=
  if ctx.config.envelope ≠ .cobsStream then wlFrameProcessUnits ctx else wlFrameProcessStream ctx

/-! ### Producer calls -/

/-- Replace the ring of a context. -/
def setRing (ctx : WlCtx) (ring : RxRing) : WlCtx :=
  { ctx with rx := { ctx.rx with rxRing := ring } }

/-- Replace the unit queue of a context. -/
def setUnits (ctx : WlCtx) (units : RxUnitQueue) : WlCtx :=
  { ctx with rx := { ctx.rx with rxUnits := units } }

/-- The two tests every stream producer call starts with. -/
def streamGuard (ctx : WlCtx) : Option WlErr :=
  if ¬ ctx.initialized then some .notInitialized
  else if ctx.config.envelope ≠ .cobsStream then some .notSupported
  else none

/-- `wl_rx_reserve`. -/
def wlRxReserve (ctx : WlCtx) : WlCtx × Except WlErr RingSpan :=
  match streamGuard ctx with
  | some err => (ctx, .error err)
  | none =>
    let (ring, result) := ctx.rx.rxRing.producerReserve
    (setRing ctx ring, result)

/-- `wl_rx_commit`. -/
def wlRxCommit (ctx : WlCtx) (length : Nat) : WlCtx × WlErr :=
  match streamGuard ctx with
  | some err => (ctx, err)
  | none =>
    let (ring, result) := ctx.rx.rxRing.producerCommit length
    (setRing ctx ring, result)

/-- `wl_rx_dma_claim`. -/
def wlRxDmaClaim (ctx : WlCtx) (maximumLength : Nat) :
    WlCtx × Except WlErr (RingSpan × UInt32) :=
  match streamGuard ctx with
  | some err => (ctx, .error err)
  | none =>
    let (ring, result) := ctx.rx.rxRing.dmaClaimOp maximumLength
    (setRing ctx ring, result)

/-- `wl_rx_dma_publish`. -/
def wlRxDmaPublish (ctx : WlCtx) (token : UInt32) (offset length : Nat) : WlCtx × WlErr :=
  match streamGuard ctx with
  | some err => (ctx, err)
  | none =>
    let (ring, result) := ctx.rx.rxRing.dmaPublish token offset length
    (setRing ctx ring, result)

/-- `wl_rx_dma_finish`. -/
def wlRxDmaFinish (ctx : WlCtx) (token : UInt32) : WlCtx × WlErr :=
  match streamGuard ctx with
  | some err => (ctx, err)
  | none =>
    let (ring, result) := ctx.rx.rxRing.dmaFinish token
    (setRing ctx ring, result)

/-- `wl_rx_dma_abort`. -/
def wlRxDmaAbort (ctx : WlCtx) : WlCtx × WlErr :=
  match streamGuard ctx with
  | some err => (ctx, err)
  | none =>
    let (ring, result) := ctx.rx.rxRing.dmaAbort
    (setRing ctx ring, result)

/-- `wl_rx_note_overflow`. -/
def wlRxNoteOverflow (ctx : WlCtx) : WlCtx :=
  match streamGuard ctx with
  | some _ => ctx
  | none => setRing ctx ctx.rx.rxRing.noteOverflow

/-- The copy loop of `wl_feed_bytes`: the code that stopped it and the number of bytes accepted. -/
def feedBytesLoop (data : Bytes) : Nat → WlCtx → Nat → WlCtx × WlErr × Nat
  | 0, ctx, accepted => (ctx, .ok, accepted)
  | fuel + 1, ctx, accepted =>
    if accepted < data.length then
      match wlRxReserve ctx with
      | (ctx, .error err) => (ctx, err, accepted)
      | (ctx, .ok span) =>
        if span.length = 0 then ((wlRxCommit ctx 0).1, .ok, accepted)
        else
          let chunk := min (data.length - accepted) span.length
          let ring := ctx.rx.rxRing.producerStore 0 (data.readAt accepted chunk)
          match wlRxCommit (setRing ctx ring) chunk with
          | (ctx, .ok) => feedBytesLoop data fuel ctx (accepted + chunk)
          | (ctx, err) => (ctx, err, accepted)
    else (ctx, .ok, accepted)

/-- `wl_feed_bytes`; the second answer is `*out_accepted`. -/
def wlFeedBytes (ctx : WlCtx) (buffer : Buffer) : WlCtx × WlErr × Nat :=
  if buffer.invalid then (ctx, .invalidArg, 0)
  else
    match streamGuard ctx with
    | some err => (ctx, err, 0)
    | none =>
      match feedBytesLoop buffer.data (buffer.data.length + 1) ctx 0 with
      | (ctx, .ok, accepted) =>
        if accepted ≠ buffer.data.length then
          (setRing ctx ctx.rx.rxRing.noteOverflow, .wouldBlock, accepted)
        else (ctx, .ok, accepted)
      | stopped => stopped

/-- `wl_feed_unit`. -/
def wlFeedUnit (ctx : WlCtx) (unit : Buffer) : WlCtx × WlErr :=
  if unit.invalid then (ctx, .invalidArg)
  else if ¬ ctx.initialized then (ctx, .notInitialized)
  else if ctx.config.envelope = .cobsStream then ((wlFeedBytes ctx unit).1, (wlFeedBytes ctx unit).2.1)
  else wlFrameReceiveUnit ctx unit.data

/-- `wl_rx_unit_queue_init`; the argument tests come before the test for initialization. -/
def wlRxUnitQueueInit (ctx : WlCtx) (storage : Bytes) (unitSize slotCount : Nat) :
    WlCtx × WlErr :=
  match RxUnitQueue.init ctx.config storage unitSize slotCount with
  | .error .invalidArg => (ctx, .invalidArg)
  | result =>
    if ¬ ctx.initialized then (ctx, .notInitialized)
    else
      match result with
      | .error err => (ctx, err)
      | .ok units => (setUnits ctx units, .ok)

/-- `wl_rx_unit_claim`. -/
def wlRxUnitClaim (ctx : WlCtx) (maximumLength : Nat) : WlCtx × Except WlErr RxUnitClaim :=
  if maximumLength = 0 then (ctx, .error .invalidArg)
  else if ¬ ctx.initialized then (ctx, .error .notInitialized)
  else
    let (units, result) := ctx.rx.rxUnits.claim maximumLength
    (setUnits ctx units, result)

/-- `wl_rx_unit_commit`. -/
def wlRxUnitCommit (ctx : WlCtx) (claim : RxUnitClaim) (length : Nat) : WlCtx × WlErr :=
  if ¬ ctx.initialized then (ctx, .notInitialized)
  else
    let (units, result) := ctx.rx.rxUnits.commit claim length
    (setUnits ctx units, result)

/-- `wl_rx_unit_abort`. -/
def wlRxUnitAbort (ctx : WlCtx) (claim : RxUnitClaim) : WlCtx × WlErr :=
  if ¬ ctx.initialized then (ctx, .notInitialized)
  else
    let (units, result) := ctx.rx.rxUnits.abort claim
    (setUnits ctx units, result)

end Wirelink
