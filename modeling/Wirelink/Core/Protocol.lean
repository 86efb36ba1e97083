/-
Module: Wirelink.Core.Protocol
Purpose: The sending half of the protocol owner: events, the five places that hand a unit to the
  sink, reliable and unreliable sends, payload claims, ACK generation, and the consumed and drained
  reports. Each function returns the context it leaves behind and the code it returns.
Trusted boundary: the translation of src/protocol.c up to wl_tx_payload_abort
-/
import Wirelink.Core.Context

namespace Wirelink

/-! ### Events -/

/-- Generations and tokens that skip zero when they wrap. -/
def bumpNonzero (value : UInt32) : UInt32 :=
  if value + 1 = 0 then 1 else value + 1

/-- `wl_push_event`. -/
def wlPushEvent (ctx : WlCtx) (type : WlEventType) (messageId : UInt16) (payload : Option RxPtr)
    (payloadLen : Nat) (handle : UInt32) : WlCtx × WlErr :=
  if ctx.slot.hasEvent || (type.isRx && ctx.slot.rxEventLeased) then (ctx, .queueFull)
  else if type.isRx then
    if payloadLen > ctx.config.maxPayloadLen ∨ payloadLen ≠ 0 ∧ payload = none ∨
        ctx.rx.rxCandidateSource = .none then (ctx, .payloadTooLong)
    else
      let generation := bumpNonzero ctx.slot.rxEventGeneration
      ({ ctx with
          rx := { ctx.rx with rxPayload := (payload, payloadLen) }
          slot :=
            { ctx.slot with
              hasEvent := true
              rxEventGeneration := generation
              event :=
                { type := type, messageId := messageId, payload := payload,
                  payloadLen := payloadLen, handle := handle, lease := generation,
                  peerSessionId := 0 } } },
        .ok)
  else
    (({ ctx with
        slot :=
          { ctx.slot with
            hasEvent := true
            event :=
              { type := type, messageId := messageId, payload := payload,
                payloadLen := payloadLen, handle := handle, lease := 0,
                peerSessionId := 0 } } } : WlCtx).note (.posted type handle),
      .ok)

/-- `wl_push_tx_event`: the event waits while the DATA lease of the transaction is in flight or the
slot is taken. -/
def wlPushTxEvent (ctx : WlCtx) (type : WlEventType) : WlCtx :=
  let deferred := { ctx with tx := { ctx.tx with txPendingEvent := type } }
  if ctx.port.txInflight && ctx.port.inFlightReliable then deferred
  else
    match wlPushEvent ctx type 0 none 0 ctx.tx.txHandle with
    | (pushed, .ok) => pushed
    | _ => deferred

/-- `wl_complete_unreliable_tx`. -/
def wlCompleteUnreliableTx (ctx : WlCtx) : WlCtx × WlErr :=
  if ctx.port.txUnreliableCompletions = uint32Max then (ctx, .queueFull)
  else
    ({ ctx with
        port := { ctx.port with txUnreliableCompletions := ctx.port.txUnreliableCompletions + 1 }
        mem := { ctx.mem with txUnreliableLen := 0 } },
      .ok)

/-! ### Handing a unit to the sink -/

/-- The token of the next submission. -/
def nextToken (token : UInt32) : UInt32 :=
  if token = uint32Max then 1 else token + 1

/-- One sink call under a fresh token. A sink does not call back into the context, so
`in_callback` is clear again when it returns. -/
def callSink (ctx : WlCtx) (kind : UnitKind) (bytes : Bytes) : WlCtx × WlSinkResult :=
  let token := nextToken ctx.port.txToken
  let answer := ctx.answers.headD .failed
  (({ ctx with
      port := { ctx.port with txToken := token, inCallback := false }
      answers := ctx.answers.tail } : WlCtx).note (.sinkCall token kind bytes answer),
    answer)

/-- What `wl_submit_data` does with the answer of the sink. -/
def dataAnswer (ctx : WlCtx) (reliable : Bool) : WlSinkResult → WlCtx × WlErr
  | .started =>
    ({ ctx with
        port :=
          { ctx.port with inFlightReliable := reliable, txInflight := true, txQueued := false }
        tx := if reliable then { ctx.tx with txState := .sending } else ctx.tx },
      .ok)
  | .busy =>
    ({ ctx with
        port :=
          { ctx.port with
            inFlightReliable := reliable, txInflight := false, txQueued := true,
            txWritable := false }
        tx := if reliable then { ctx.tx with txState := .sending } else ctx.tx },
      .ok)
  | .sent =>
    let ctx := { ctx with
      port :=
        { ctx.port with inFlightReliable := false, txInflight := false, txQueued := false } }
    if reliable then
      ({ ctx with
          tx :=
            { ctx.tx with txState := .waitingAck, txWaitState := .ack, txStartTs := ctx.nowMs } },
        .ok)
    else wlCompleteUnreliableTx ctx
  | .failed =>
    ({ ctx with
        port :=
          { ctx.port with inFlightReliable := false, txInflight := false, txQueued := false }
        mem := if reliable then ctx.mem else { ctx.mem with txUnreliableLen := 0 } },
      .io)

/-- The kind of a DATA unit. -/
def dataKind (reliable : Bool) : UnitKind :=
  if reliable then .reliable else .unreliable

/-- Length of the DATA image of the given kind. -/
def dataLen (ctx : WlCtx) (reliable : Bool) : Nat :=
  if reliable then ctx.mem.txEncodedLen else ctx.mem.txUnreliableLen

/-- `wl_submit_data`. -/
def wlSubmitData (ctx : WlCtx) (reliable : Bool) : WlCtx × WlErr :=
  if ¬ ctx.sink then (ctx, .notInitialized)
  else
    let (ctx, answer) :=
      callSink ctx (dataKind reliable) (ctx.mem.txUnit.take (dataLen ctx reliable))
    dataAnswer ctx reliable answer

/-- Where the encoder finds the bytes of a TX span, relative to `tx_unit`. -/
def TxSpan.ref (span : TxSpan) (mem : TxMemory) : PayloadRef :=
  match span.region with
  | .payload => .apart (mem.payloadStore.readAt span.offset span.length)
  | .unit => .shared span.offset

/-- The bytes a TX span holds. -/
def TxSpan.bytes (span : TxSpan) (mem : TxMemory) : Bytes :=
  match span.region with
  | .payload => mem.payloadStore.readAt span.offset span.length
  | .unit => mem.txUnit.readAt span.offset span.length

/-- The packet `wl_send_tx_payload` rebuilds from the retained transaction. -/
def reliablePacket (ctx : WlCtx) : WlWirePacket :=
  { type := .data
    flags := wlPacketFlagReliable
    messageId := ctx.tx.txLastMessageId
    sessionId := ctx.sessionId
    sequence := ctx.tx.txWaitingSeq
    payload := ctx.mem.txPayload.ref ctx.mem
    payloadLen := ctx.mem.txPayload.length }

/-- The encoding step of `wl_send_tx_payload`: nothing to do while the cached image is valid. -/
def encodeTxPayload (ctx : WlCtx) : WlCtx × WlErr :=
  if ctx.mem.txEncodedLen = 0 then
    match wlLinkEncode ctx.config (reliablePacket ctx) ctx.mem.txUnit 0 ctx.mem.txUnit.length with
    | (unit, .error err) => ({ ctx with mem := { ctx.mem with txUnit := unit } }, err)
    | (unit, .ok encodedLen) =>
      ({ ctx with mem := { ctx.mem with txUnit := unit, txEncodedLen := encodedLen } }, .ok)
  else (ctx, .ok)

/-- `wl_send_tx_payload`. -/
def wlSendTxPayload (ctx : WlCtx) : WlCtx × WlErr :=
  if ¬ ctx.initialized ∨ ¬ ctx.sink then (ctx, .notInitialized)
  else if ctx.port.inCallback then (ctx, .reentrant)
  else
    match encodeTxPayload ctx with
    | (ctx, .ok) => wlSubmitData ctx true
    | (ctx, err) => (ctx, err)

/-- `wl_invalidate_tx_image`: a direct native payload is saved before its unit is reused. -/
def wlInvalidateTxImage (ctx : WlCtx) : WlCtx :=
  let mem := ctx.mem
  let saved :=
    if ctx.tx.txHandle ≠ 0 ∧ (mem.txPayload.region ≠ .payload ∨ mem.txPayload.offset ≠ 0) then
      { mem with
        payloadStore := mem.payloadStore.writeAt 0 (mem.txPayload.bytes mem)
        txPayload := { region := .payload, offset := 0, length := mem.txPayload.length } }
    else mem
  { ctx with mem := { saved with txEncodedLen := 0 } }

/-! ### Control units -/

/-- What `wl_submit_control` does with the answer of the sink. -/
def controlAnswer (ctx : WlCtx) : WlSinkResult → WlCtx × WlErr
  | .sent => ({ ctx with port := { ctx.port with controlPending := false } }, .ok)
  | .started => ({ ctx with port := { ctx.port with controlInflight := true } }, .ok)
  | .busy => ({ ctx with port := { ctx.port with txWritable := false } }, .ok)
  | .failed => ({ ctx with port := { ctx.port with controlPending := false } }, .io)

/-- `wl_submit_control`. -/
def wlSubmitControl (ctx : WlCtx) : WlCtx × WlErr :=
  if ¬ ctx.port.controlPending ∨ ctx.port.controlInflight ∨ ctx.port.txInflight ∨
      ctx.port.txDrainPending ∨ ¬ ctx.port.txWritable then (ctx, .ok)
  else if ¬ ctx.sink then (ctx, .notInitialized)
  else if ctx.port.inCallback then (ctx, .reentrant)
  else
    let (ctx, answer) := callSink ctx .control (ctx.mem.controlUnit.take ctx.port.controlLen)
    controlAnswer ctx answer

/-- The ACK of `wl_send_ack`. -/
def ackPacket (sessionId : UInt64) (sequence : UInt32) : WlWirePacket :=
  { type := .ack, flags := 0, messageId := 0, sessionId := sessionId, sequence := sequence,
    payload := .apart [], payloadLen := 0 }

/-- `wl_send_ack` up to the submission: the ACK is encoded into a free control slot. -/
def placeAck (ctx : WlCtx) (sessionId : UInt64) (sequence : UInt32) : WlCtx × WlErr :=
  if ¬ ctx.initialized ∨ ¬ ctx.sink then (ctx, .notInitialized)
  else if ctx.port.inCallback then (ctx, .reentrant)
  else if ctx.port.controlPending then (ctx, .queueFull)
  else
    match wlLinkEncode ctx.config (ackPacket sessionId sequence) ctx.mem.controlUnit 0
        ctx.mem.controlUnit.length with
    | (unit, .error err) => ({ ctx with mem := { ctx.mem with controlUnit := unit } }, err)
    | (unit, .ok encodedLen) =>
      (({ ctx with
          mem := { ctx.mem with controlUnit := unit }
          port := { ctx.port with controlLen := encodedLen, controlPending := true } } :
        WlCtx).note (.ackPlaced sessionId sequence (unit.take encodedLen)),
        .ok)

/-- `wl_send_ack`. -/
def wlSendAck (ctx : WlCtx) (sessionId : UInt64) (sequence : UInt32) : WlCtx × WlErr :=
  match placeAck ctx sessionId sequence with
  | (placed, .ok) => wlSubmitControl placed
  | (ctx, err) => (ctx, err)

/-! ### Ends of a transaction -/

/-- A transaction ends without success: state, result code and the event that reports it. -/
def failTransaction (ctx : WlCtx) (result : WlErr) (type : WlEventType) : WlCtx :=
  wlPushTxEvent
    { ctx with
      tx :=
        { ctx.tx with
          txState := .failed, txWaitState := .none, txWaitingSeq := 0, txResultCode := result } }
    type

/-- The transaction ends with success. A queued copy of its unit is dropped; a unit in flight keeps
its lease. -/
def acknowledge (ctx : WlCtx) : WlCtx :=
  wlPushTxEvent
    (({ ctx with
        tx :=
          { ctx.tx with
            txState := .success, txWaitState := .none, txWaitingSeq := 0, txRetriesLeft := 0,
            txResultCode := .ok }
        port :=
          if ctx.port.txQueued && ctx.port.inFlightReliable then
            { ctx.port with txQueued := false, inFlightReliable := false }
          else ctx.port } : WlCtx).note (.acked ctx.tx.txHandle))
    .txSuccess

/-- `wl_handle_ack`. -/
def wlHandleAck (ctx : WlCtx) (sessionId : UInt64) (sequence : UInt32) : WlCtx × WlErr :=
  if ctx.tx.txState ≠ .waitingAck ∧ ctx.tx.txState ≠ .sending then (ctx, .ok)
  else if ctx.sessionId ≠ sessionId ∨ ctx.tx.txWaitingSeq ≠ sequence then (ctx, .ok)
  else (acknowledge ctx, .ok)

/-! ### Sends -/

/-- The payload of a DATA packet on its way into `wl_send_frame_internal`: the caller's memory, or
a claimed span of the TX memories (`direct`). -/
inductive SendPayload where
  | copied (buffer : Buffer)
  | direct (span : TxSpan)
deriving Repr, Inhabited, DecidableEq

/-- `pkt->payload_len`. -/
def SendPayload.length : SendPayload → Nat
  | .copied buffer => buffer.length
  | .direct span => span.length

/-- The argument test on `pkt->payload`. -/
def SendPayload.invalid : SendPayload → Bool
  | .copied buffer => buffer.invalid
  | .direct _ => false

/-- The payload bytes at this moment. -/
def SendPayload.bytes (payload : SendPayload) (mem : TxMemory) : Bytes :=
  match payload with
  | .copied buffer => buffer.data
  | .direct span => span.bytes mem

/-- Where the encoder finds the payload. -/
def SendPayload.ref (payload : SendPayload) (mem : TxMemory) : PayloadRef :=
  match payload with
  | .copied buffer => .apart buffer.data
  | .direct span => span.ref mem

/-- `wl_prepare_reliable_payload`. -/
def wlPrepareReliablePayload (ctx : WlCtx) (messageId : UInt16) (payload : SendPayload) : WlCtx :=
  { ctx with
    tx := { ctx.tx with txLastMessageId := messageId }
    mem :=
      match payload with
      | .direct span => { ctx.mem with txEncodedLen := 0, txPayload := span }
      | .copied buffer =>
        { ctx.mem with
          txEncodedLen := 0
          txPayload := { region := .payload, offset := 0, length := buffer.length }
          payloadStore := ctx.mem.payloadStore.writeAt 0 buffer.data } }

/-- The handle built from a generation. -/
def generatedHandle (generation : UInt16) : UInt32 :=
  (generation.toUInt32 <<< 16) ||| 1

/-- The assignments `wl_send_frame_internal` makes before the first reliable submission. -/
def openTransaction (ctx : WlCtx) (messageId : UInt16) (sequence : UInt32) (payload : SendPayload)
    (nowMs : UInt32) : WlCtx :=
  let entry : TxEntry :=
    { sequence := sequence, messageId := messageId, payload := payload.bytes ctx.mem }
  let ctx := wlPrepareReliablePayload { ctx with nowMs := nowMs } messageId payload
  let generation := if ctx.tx.txGeneration + 1 = 0 then 1 else ctx.tx.txGeneration + 1
  ({ ctx with
      tx :=
        { ctx.tx with
          txGeneration := generation
          txHandle := generatedHandle generation
          txWaitingSeq := sequence
          txWaitState := .none
          txRetriesLeft := ctx.tx.txRetriesMax
          txRetriesUsed := 0 } } : WlCtx).note (.opened (generatedHandle generation) entry)

/-- The rollback of `wl_send_frame_internal` when the first submission fails. -/
def withdrawTransaction (ctx : WlCtx) : WlCtx :=
  ({ ctx with
      tx :=
        { ctx.tx with
          txHandle := 0, txState := .idle, txWaitingSeq := 0, txWaitState := .none,
          txRetriesLeft := 0, txLastMessageId := 0 }
      mem :=
        { ctx.mem with
          txEncodedLen := 0, txPayload := { region := .payload, offset := 0, length := 0 } } } :
    WlCtx).note .refused

/-- The unreliable tail of `wl_send_frame_internal`. The encoder clears `*out_len` first, and the
base header it writes has no session id or sequence. -/
def sendUnreliable (ctx : WlCtx) (messageId : UInt16) (payload : SendPayload) :
    WlCtx × Except WlErr UInt32 :=
  let ctx := wlInvalidateTxImage ctx
  let packet : WlWirePacket :=
    { type := .data, flags := 0, messageId := messageId, sessionId := 0, sequence := 0,
      payload := payload.ref ctx.mem, payloadLen := payload.length }
  match wlLinkEncode ctx.config packet ctx.mem.txUnit 0 ctx.mem.txUnit.length with
  | (unit, .error err) =>
    ({ ctx with mem := { ctx.mem with txUnit := unit, txUnreliableLen := 0 } }, .error err)
  | (unit, .ok encodedLen) =>
    match wlSubmitData
        { ctx with mem := { ctx.mem with txUnit := unit, txUnreliableLen := encodedLen } }
        false with
    | (ctx, .ok) => (ctx, .ok 0)
    | (ctx, err) => (ctx, .error err)

/-- The reliable tail of `wl_send_frame_internal`. -/
def sendReliable (ctx : WlCtx) (messageId : UInt16) (sequence : UInt32) (payload : SendPayload)
    (nowMs : UInt32) : WlCtx × Except WlErr UInt32 :=
  match wlSendTxPayload (openTransaction ctx messageId sequence payload nowMs) with
  | (ctx, .ok) =>
    ({ ctx with tx := { ctx.tx with txResultCode := .busy } }, .ok ctx.tx.txHandle)
  | (ctx, err) => (withdrawTransaction ctx, .error err)

/-- `wl_send_frame_internal`; on success the answer carries `*out_handle`, zero for an unreliable
packet. Every refusal leaves `*out_handle` zero. -/
def wlSendFrameInternal (ctx : WlCtx) (messageId : UInt16) (sequence : UInt32)
    (payload : SendPayload) (reliable : Bool) (nowMs : UInt32) :
    WlCtx × Except WlErr UInt32 :=
  if payload.invalid then (ctx, .error .invalidArg)
  else if ¬ ctx.initialized then (ctx, .error .notInitialized)
  else if ctx.sessionId = 0 then (ctx, .error .invalidArg)
  else if payload.length > ctx.config.maxPayloadLen then (ctx, .error .payloadTooLong)
  else if wlDataBusy ctx reliable then (ctx, .error .busy)
  else if ctx.port.inCallback then (ctx, .error .reentrant)
  else if ¬ reliable ∧ ctx.port.txUnreliableCompletions = uint32Max then (ctx, .error .queueFull)
  else if messageId = 0 then (ctx, .error .invalidArg)
  else if reliable then sendReliable ctx messageId sequence payload nowMs
  else sendUnreliable ctx messageId payload

/-- `wl_send_unreliable`. -/
def wlSendUnreliable (ctx : WlCtx) (messageId : UInt16) (payload : Buffer) :
    WlCtx × Except WlErr UInt32 :=
  if ¬ ctx.initialized then (ctx, .error .notInitialized)
  else if ctx.claim.txClaimActive then (ctx, .error .busy)
  else wlSendFrameInternal ctx messageId 0 (.copied payload) false 0

/-- The sequence number is spent before any later refusal. -/
def spendSequence (ctx : WlCtx) : WlCtx :=
  { ctx with tx := { ctx.tx with txSequence := ctx.tx.txSequence + 1 } }

/-- `wl_send_reliable`. -/
def wlSendReliable (ctx : WlCtx) (messageId : UInt16) (payload : Buffer) (nowMs : UInt32) :
    WlCtx × Except WlErr UInt32 :=
  if ¬ ctx.initialized then (ctx, .error .notInitialized)
  else if ctx.tx.txSequence = uint32Max then (ctx, .error .invalidState)
  else if ctx.claim.txClaimActive then (spendSequence ctx, .error .busy)
  else
    wlSendFrameInternal (spendSequence ctx) messageId ctx.tx.txSequence (.copied payload) true nowMs

/-- `wl_send_reliable` with the caller's `out_handle`, which it tests first. -/
def wlSendReliableTo (ctx : WlCtx) (wantsHandle : Bool) (messageId : UInt16) (payload : Buffer)
    (nowMs : UInt32) : WlCtx × Except WlErr UInt32 :=
  if ¬ wantsHandle then (ctx, .error .invalidArg) else wlSendReliable ctx messageId payload nowMs

/-! ### Payload claims -/

/-- Where `wl_tx_payload_claim` places the span. -/
def claimSpan (ctx : WlCtx) (delivery : WlDelivery) : TxSpan :=
  if ctx.config.envelope = .nativePacket then
    { region := .unit
      offset := wlFramePacketHeaderSize .data
        (if delivery = .reliable then wlPacketFlagReliable else 0)
      length := ctx.config.maxPayloadLen }
  else if delivery = .unreliable ∧ ctx.tx.txHandle ≠ 0 then
    { region := .unit, offset := 0, length := ctx.config.maxPayloadLen }
  else { region := .payload, offset := 0, length := ctx.config.maxPayloadLen }

/-- `wl_tx_payload_claim`; the answer carries the span and the token. -/
def wlTxPayloadClaim (ctx : WlCtx) (messageId : UInt16) (delivery : WlDelivery) :
    WlCtx × Except WlErr (TxSpan × UInt32) :=
  if messageId = 0 then (ctx, .error .invalidArg)
  else if ¬ ctx.initialized then (ctx, .error .notInitialized)
  else if ctx.claim.txClaimActive || wlDataBusy ctx (delivery == .reliable) then
    (ctx, .error .busy)
  else if delivery = .unreliable ∧ ctx.port.txUnreliableCompletions = uint32Max then
    (ctx, .error .queueFull)
  else
    let ctx := if delivery = .unreliable then wlInvalidateTxImage ctx else ctx
    let span := claimSpan ctx delivery
    let token := bumpNonzero ctx.claim.txClaimToken
    ({ ctx with
        claim :=
          { txClaimActive := true
            txClaimReliable := delivery == .reliable
            txClaimMessageId := messageId
            txClaimToken := token
            txClaimPayload := some span } },
      .ok (span, token))

/-- The holder of the active claim writes `data` at `offset` of its span. -/
def claimWrite (ctx : WlCtx) (offset : Nat) (data : Bytes) : WlCtx :=
  match ctx.claim.txClaimActive, ctx.claim.txClaimPayload with
  | true, some span =>
    if offset + data.length ≤ span.length then
      match span.region with
      | .payload =>
        { ctx with
          mem :=
            { ctx.mem with
              payloadStore := ctx.mem.payloadStore.writeAt (span.offset + offset) data } }
      | .unit =>
        { ctx with
          mem :=
            { ctx.mem with txUnit := ctx.mem.txUnit.writeAt (span.offset + offset) data } }
    else ctx
  | _, _ => ctx

/-- A claim as the caller presents it: the start of its span and the token. -/
structure WlTxPayloadClaim where
  region : TxRegion
  offset : Nat
  token : UInt32
deriving Repr, Inhabited, DecidableEq

/-- `tx_claim_matches`. -/
def txClaimMatches (ctx : WlCtx) (claim : WlTxPayloadClaim) : Bool :=
  ctx.claim.txClaimActive && claim.token == ctx.claim.txClaimToken &&
    match ctx.claim.txClaimPayload with
    | some span => claim.region == span.region && claim.offset == span.offset
    | none => false

/-- The claim is spent, whatever the call that spends it returns. -/
def spendClaim (ctx : WlCtx) : WlCtx :=
  { ctx with claim := { ctx.claim with txClaimActive := false, txClaimPayload := none } }

/-- `wl_tx_payload_commit`; `wantsHandle` says whether `out_handle` is given. -/
def wlTxPayloadCommit (ctx : WlCtx) (claim : WlTxPayloadClaim) (payloadLen : Nat) (nowMs : UInt32)
    (wantsHandle : Bool) : WlCtx × Except WlErr UInt32 :=
  if ¬ ctx.initialized then (ctx, .error .notInitialized)
  else if ¬ txClaimMatches ctx claim then (ctx, .error .notFound)
  else
    let reliable := ctx.claim.txClaimReliable
    let capacity := (ctx.claim.txClaimPayload.map TxSpan.length).getD 0
    let span : TxSpan := { region := claim.region, offset := claim.offset, length := payloadLen }
    let spent := spendClaim ctx
    if payloadLen > capacity ∨ reliable ∧ ¬ wantsHandle then (spent, .error .invalidArg)
    else if reliable ∧ ctx.tx.txSequence = uint32Max then (spent, .error .invalidState)
    else if reliable then
      wlSendFrameInternal (spendSequence spent) ctx.claim.txClaimMessageId ctx.tx.txSequence
        (.direct span) true nowMs
    else wlSendFrameInternal spent ctx.claim.txClaimMessageId 0 (.direct span) false nowMs

/-- `wl_tx_payload_abort`. -/
def wlTxPayloadAbort (ctx : WlCtx) (claim : WlTxPayloadClaim) : WlCtx × WlErr :=
  if ¬ ctx.initialized then (ctx, .notInitialized)
  else if ¬ txClaimMatches ctx claim then (ctx, .notFound)
  else
    ({ spendClaim ctx with resourceGeneration := ctx.resourceGeneration + 1 }, .ok)

/-! ### Reports of the adapter -/

/-- The writable mark, the resource generation and the drain obligation of `wl_tx_consumed`. -/
def consumedHead (ctx : WlCtx) (token : UInt32) (ioResult : WlErr) : WlCtx :=
  let drains := ioResult = .ok ∧ ctx.port.txDrainRequired
  ({ ctx with
      resourceGeneration := ctx.resourceGeneration + 1
      port :=
        { ctx.port with
          txWritable := true
          txDrainPending := if drains then true else ctx.port.txDrainPending
          txDrainToken := if drains then token else ctx.port.txDrainToken
          txDrainReliable :=
            if drains then ctx.port.txInflight && ctx.port.inFlightReliable
            else ctx.port.txDrainReliable } } : WlCtx).note (.consumed token (ioResult == .ok))

/-- The retry after an I/O error: deferred behind a pending ACK, or submitted at once. -/
def consumedRetry (ctx : WlCtx) : WlCtx × WlErr :=
  if ctx.port.controlPending then
    ({ ctx with port := { ctx.port with txQueued := true, inFlightReliable := true } }, .ok)
  else wlSendTxPayload ctx

/-- One retry is booked. -/
def bookRetry (ctx : WlCtx) : WlCtx :=
  { ctx with
    tx :=
      { ctx.tx with
        txRetriesLeft := ctx.tx.txRetriesLeft - 1, txRetriesUsed := ctx.tx.txRetriesUsed + 1 } }

/-- `wl_tx_consumed` for a reliable DATA unit whose transaction is still sending and whose I/O
failed. -/
def consumedError (ctx : WlCtx) : WlCtx :=
  if ctx.tx.txRetriesLeft ≠ 0 then
    match consumedRetry ctx with
    | (retried, .ok) => (wlSubmitControl (bookRetry retried)).1
    | (retried, _) => (wlSubmitControl (failTransaction retried .io .txFailed)).1
  else (wlSubmitControl (failTransaction ctx .io .txFailed)).1

/-- `wl_tx_consumed` for a reliable DATA unit; the lease has just been returned. -/
def consumedReliable (ctx : WlCtx) (ioResult : WlErr) : WlCtx :=
  if ctx.tx.txCancelRequested then
    (wlSubmitControl
      { ctx with
        tx := { ctx.tx with txCancelRequested := false }
        mem :=
          { ctx.mem with
            txPayload := { region := .payload, offset := 0, length := 0 }, txEncodedLen := 0 } }).1
  else if ctx.tx.txState ≠ .sending then (wlSubmitControl ctx).1
  else if ioResult = .ok then
    (wlSubmitControl
      { ctx with
        tx :=
          { ctx.tx with
            txState := .waitingAck
            txWaitState := if ctx.port.txDrainPending then .drain else .ack
            txStartTs := ctx.nowMs } }).1
  else consumedError ctx

/-- `wl_tx_consumed` for an unreliable DATA unit. -/
def consumedUnreliable (ctx : WlCtx) (ioResult : WlErr) : WlCtx × WlErr :=
  let (completed, result) := if ioResult = .ok then wlCompleteUnreliableTx ctx else (ctx, .ok)
  ((wlSubmitControl { completed with mem := { completed.mem with txUnreliableLen := 0 } }).1, result)

/-- `wl_tx_consumed`. -/
def wlTxConsumed (ctx : WlCtx) (token : UInt32) (ioResult : WlErr) : WlCtx × WlErr :=
  if ¬ ctx.initialized then (ctx, .notInitialized)
  else if token ≠ ctx.port.txToken then (ctx, .notFound)
  else if ¬ ctx.port.txInflight ∧ ¬ ctx.port.controlInflight then (ctx, .notFound)
  else
    let ctx := consumedHead ctx token ioResult
    if ctx.port.controlInflight then
      ({ ctx with port := { ctx.port with controlInflight := false, controlPending := false } },
        if ioResult = .ok then .ok else .io)
    else
      let reliable := ctx.port.inFlightReliable
      let ctx := { ctx with
        port := { ctx.port with txInflight := false, inFlightReliable := false } }
      if reliable then (consumedReliable ctx ioResult, .ok) else consumedUnreliable ctx ioResult

/-- The line is drained. -/
def drainReported (ctx : WlCtx) (token : UInt32) (ioResult : WlErr) : WlCtx :=
  ({ ctx with
      resourceGeneration := ctx.resourceGeneration + 1
      port := { ctx.port with txDrainPending := false, txWritable := true } } : WlCtx).note
    (.drained token (ioResult == .ok))

/-- The transaction whose unit was drained starts its ACK timer or fails. A failed drain leaves
`tx_waiting_seq` as it is. -/
def drainSettled (ctx : WlCtx) (reliable : Bool) (ioResult : WlErr) : WlCtx :=
  if reliable ∧ ctx.tx.txState = .waitingAck ∧ ctx.tx.txWaitState = .drain then
    if ioResult = .ok then
      { ctx with tx := { ctx.tx with txWaitState := .ack, txStartTs := ctx.nowMs } }
    else
      wlPushTxEvent
        { ctx with
          tx := { ctx.tx with txState := .failed, txWaitState := .none, txResultCode := .io } }
        .txFailed
  else ctx

/-- The assignments of `wl_tx_drained`. -/
def drainLine (ctx : WlCtx) (ioResult : WlErr) : WlCtx :=
  let settled :=
    drainSettled (drainReported ctx ctx.port.txDrainToken ioResult) ctx.port.txDrainReliable
      ioResult
  { settled with port := { settled.port with txDrainReliable := false } }

/-- `wl_tx_drained`. -/
def wlTxDrained (ctx : WlCtx) (token : UInt32) (ioResult : WlErr) : WlCtx × WlErr :=
  if ¬ ctx.initialized then (ctx, .notInitialized)
  else if ¬ ctx.port.txDrainPending ∨ token ≠ ctx.port.txDrainToken then (ctx, .notFound)
  else (drainLine ctx ioResult, .ok)

end Wirelink
