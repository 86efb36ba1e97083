/-
Module: Wirelink.Core.Context
Purpose: The link context with its storage. The fields of wl_ctx_impl_t keep their names and are
  grouped by owner: the reliable transaction, the physical TX port, the TX memories, the payload
  claim, the event slot, the deduplication record and the receive side. Two fields are not in the
  source: the answers the sink is going to give, and the trace of what the context did.
Trusted boundary: the translation of src/context.h and src/init.c
-/
import Wirelink.Core.RxRing
import Wirelink.Core.UnitRx

namespace Wirelink

/-! ### Pointers into the TX memories -/

/-- The two TX memories a payload pointer can lie in. -/
inductive TxRegion where
  | payload
  | unit
deriving Repr, Inhabited, DecidableEq

/-- A span of `storage.tx_payload` or `storage.tx_unit`. -/
structure TxSpan where
  region : TxRegion
  offset : Nat
  length : Nat
deriving Repr, Inhabited, DecidableEq

/-- A caller's `const uint8_t *payload, size_t payload_len` pair. -/
inductive Buffer where
  | null (length : Nat)
  | bytes (data : Bytes)
deriving Repr, Inhabited, DecidableEq

/-- The length argument of the pair. -/
def Buffer.length : Buffer → Nat
  | .null length => length
  | .bytes data => data.length

/-- The bytes behind the pair. -/
def Buffer.data : Buffer → Bytes
  | .null _ => []
  | .bytes data => data

/-- The argument test `data == NULL && len != 0`. -/
def Buffer.invalid : Buffer → Bool
  | .null length => length != 0
  | .bytes _ => false

/-! ### The trace -/

/-- What a unit handed to the sink is. -/
inductive UnitKind where
  | reliable
  | unreliable
  | control
deriving Repr, Inhabited, DecidableEq

/-- What the application asked for when a reliable transaction was opened. -/
structure TxEntry where
  sequence : UInt32
  messageId : UInt16
  payload : Bytes
deriving Repr, Inhabited, DecidableEq

/-- One observation. Sink calls, accepted reports and returned events are visible at the API; the
others mark the place in the source where the context decided something. -/
inductive Obs where
  /-- The sink was called and answered. -/
  | sinkCall (token : UInt32) (kind : UnitKind) (bytes : Bytes) (answer : WlSinkResult)
  /-- `wl_send_frame_internal` set up a reliable transaction and is about to submit it. -/
  | opened (handle : UInt32) (entry : TxEntry)
  /-- The first submission failed and the transaction was withdrawn. -/
  | refused
  /-- `wl_tx_consumed` accepted the token. -/
  | consumed (token : UInt32) (ok : Bool)
  /-- `wl_tx_drained` accepted the token. -/
  | drained (token : UInt32) (ok : Bool)
  /-- `wl_set_tx_drain_required` succeeded. -/
  | drainRequired (required : Bool)
  /-- A TX event was put into the event slot. -/
  | posted (type : WlEventType) (handle : UInt32)
  /-- `wl_poll` returned an event. -/
  | polled (type : WlEventType) (handle : UInt32)
  /-- `wl_tx_take` returned the result of the transaction. -/
  | taken (handle : UInt32) (result : WlTxResult)
  /-- `wl_tx_cancel` succeeded. -/
  | cancelled (handle : UInt32)
  /-- `wl_handle_ack` ended the transaction with success. -/
  | acked (handle : UInt32)
  /-- `wl_poll` is about to submit the queued DATA unit again. -/
  | resubmitted (reliable : Bool)
  /-- The ACK-timeout branch of `wl_poll` is about to submit a retry. -/
  | timeoutRetry (drainPending sinkSet : Bool)
  /-- A fresh reliable DATA unit was published and recorded. -/
  | accepted (sessionId : UInt64) (sequence : UInt32) (messageId : UInt16) (payload : Bytes)
      (controlFree sinkSet : Bool)
  /-- A duplicate of the recorded reliable DATA unit was recognized. -/
  | repeated (sessionId : UInt64) (sequence : UInt32) (controlFree sinkSet : Bool)
  /-- An ACK was encoded into the control slot. -/
  | ackPlaced (sessionId : UInt64) (sequence : UInt32) (bytes : Bytes)
deriving Repr, Inhabited, DecidableEq

/-! ### The context -/

/-- The logical reliable transaction. -/
structure TxTransaction where
  txState : WlTxState
  txPendingEvent : WlEventType
  txHandle : UInt32
  txStartTs : UInt32
  txRetriesLeft : UInt16
  txRetriesMax : UInt16
  txRetriesUsed : UInt16
  txSequence : UInt32
  txWaitingSeq : UInt32
  txWaitState : WlTxWait
  txCancelRequested : Bool
  txGeneration : UInt16
  txResultCode : WlErr
  txLastMessageId : UInt16
deriving Repr, Inhabited, DecidableEq

/-- The one physical TX resource and the control slot. -/
structure TxPort where
  txToken : UInt32
  txInflight : Bool
  txWritable : Bool
  inFlightReliable : Bool
  txQueued : Bool
  txUnreliableCompletions : UInt32
  txDrainRequired : Bool
  txDrainPending : Bool
  txDrainReliable : Bool
  txDrainToken : UInt32
  controlPending : Bool
  controlInflight : Bool
  controlLen : Nat
  inCallback : Bool
deriving Repr, Inhabited, DecidableEq

/-- The TX memories of `wl_storage_t` and the lengths of what they hold. -/
structure TxMemory where
  payloadStore : Bytes
  txUnit : Bytes
  controlUnit : Bytes
  txEncodedLen : Nat
  txUnreliableLen : Nat
  txPayload : TxSpan
deriving Repr, Inhabited, DecidableEq

/-- The payload claim; its span is absent once the claim is spent. -/
structure TxClaim where
  txClaimActive : Bool
  txClaimReliable : Bool
  txClaimMessageId : UInt16
  txClaimToken : UInt32
  txClaimPayload : Option TxSpan
deriving Repr, Inhabited, DecidableEq

/-- The event slot and the lease of the RX event handed out last. -/
structure EventSlot where
  hasEvent : Bool
  event : WlEvent
  rxEventLeased : Bool
  rxEventGeneration : UInt32
deriving Repr, Inhabited, DecidableEq

/-- The last accepted reliable DATA unit. -/
structure RxDedup where
  rxHaveReliable : Bool
  rxSessionId : UInt64
  rxSequence : UInt32
deriving Repr, Inhabited, DecidableEq

/-- Receive memories and the candidate being parsed. -/
structure RxState where
  rxRing : RxRing
  rxUnits : RxUnitQueue
  rxFallback : Bytes
  rxCandidateSource : WlRxSource
  rxPendingConsume : Nat
  rxCounters : WlRxCounters
  rxPayload : Option RxPtr × Nat
deriving Repr, Inhabited, DecidableEq

/-- `wl_ctx_impl_t`, with the answers of the sink and the trace, newest observation first. A sink
that has run out of answers fails. -/
structure WlCtx where
  config : WlConfig
  initialized : Bool
  sink : Bool
  sessionId : UInt64
  nowMs : UInt32
  resourceGeneration : UInt32
  tx : TxTransaction
  port : TxPort
  mem : TxMemory
  claim : TxClaim
  slot : EventSlot
  dedup : RxDedup
  rx : RxState
  answers : List WlSinkResult
  trace : List Obs
deriving Repr, Inhabited, DecidableEq

/-- Add one observation to the trace. -/
def WlCtx.note (ctx : WlCtx) (obs : Obs) : WlCtx :=
  { ctx with trace := obs :: ctx.trace }

/-- `wl_tx_retry_due`. The subtraction wraps. -/
def wlTxRetryDue (ctx : WlCtx) (now : UInt32) : Bool :=
  ctx.tx.txState == .waitingAck && ctx.tx.txWaitState == .ack && ctx.config.ackTimeoutMs != 0 &&
    decide (now - ctx.tx.txStartTs ≥ ctx.config.ackTimeoutMs)

/-- `wl_data_busy`. -/
def wlDataBusy (ctx : WlCtx) (reliable : Bool) : Bool :=
  ctx.port.txInflight || ctx.port.txDrainPending || ctx.port.controlPending ||
    ctx.port.controlInflight || ctx.port.txQueued ||
    (if reliable then ctx.tx.txHandle != 0 else wlTxRetryDue ctx ctx.nowMs)

/-! ### Initialization -/

/-- `storage_overlaps`. -/
def storageOverlaps (first second : Region) : Bool :=
  if first.address ≤ second.address then
    decide (second.address - first.address < first.bytes.length)
  else decide (first.address - second.address < second.bytes.length)

/-- `wl_max_unit_size`. -/
def wlMaxUnitSize (config : WlConfig) : Nat :=
  let raw := wlFrameRawSize config.maxPayloadLen config.integrity
  if raw = 0 then 0
  else
    match config.envelope with
    | .cobsStream => wlCobsEncodedMaxSize raw + 1
    | .busLength16 => raw + 2
    | .nativePacket => raw

/-- `wl_config_requirements`. The selectors are always valid and, in the general build, always
supported. -/
def wlConfigRequirements (config : WlConfig) : Except WlErr WlStorageRequirements :=
  if config.maxPayloadLen = 0 ∨ config.maxPayloadLen > wlFrameMaxPayload then .error .invalidArg
  else if config.sessionId = 0 then .error .invalidArg
  else if config.ackTimeoutMs ≥ 0x80000000 then .error .invalidArg
  else
    let unit := wlMaxUnitSize config
    let control := wlFrameEncodeOverhead config.envelope config.integrity
    if unit = 0 ∨ control = 0 ∨
        config.maxTransmissionUnit ≠ 0 ∧ config.maxTransmissionUnit < unit then
      .error .invalidArg
    else
      .ok
        { txPayloadSize := config.maxPayloadLen
          txUnitSize := unit
          controlUnitSize := control
          rxFifoSize := if config.envelope = .cobsStream then unit else 0
          rxFallbackSize := if config.envelope = .cobsStream then unit - 1 else unit }

/-- The test of `wl_init` that every buffer is there and large enough. -/
def storageTooSmall (storage : WlStorage) (requirements : WlStorageRequirements) : Bool :=
  storage.txPayload.address == 0 || storage.txUnit.address == 0 ||
    storage.controlUnit.address == 0 || storage.rxFallback.address == 0 ||
    decide (storage.txPayload.bytes.length < requirements.txPayloadSize) ||
    decide (storage.txUnit.bytes.length < requirements.txUnitSize) ||
    decide (storage.controlUnit.bytes.length < requirements.controlUnitSize) ||
    decide (storage.rxFallback.bytes.length < requirements.rxFallbackSize) ||
    (requirements.rxFifoSize != 0 &&
      (storage.rxFifo.address == 0 ||
        decide (storage.rxFifo.bytes.length < requirements.rxFifoSize)))

/-- The event left by `memset`. -/
def noEvent : WlEvent :=
  { type := .none, messageId := 0, payload := none, payloadLen := 0, handle := 0, lease := 0,
    peerSessionId := 0 }

/-- The counters left by `memset`. -/
def noCounters : WlRxCounters :=
  { malformed := 0, badIntegrity := 0, overflow := 0, duplicate := 0, unsupported := 0 }

/-- The context after the `memset` and the assignments of `wl_init`, around a given ring. -/
def initialCtx (config : WlConfig) (storage : WlStorage) (ring : RxRing)
    (answers : List WlSinkResult) : WlCtx :=
  { config := config
    initialized := true
    sink := false
    sessionId := config.sessionId
    nowMs := 0
    resourceGeneration := 0
    tx :=
      { txState := .idle, txPendingEvent := .none, txHandle := 0, txStartTs := 0,
        txRetriesLeft := config.maxRetries, txRetriesMax := config.maxRetries, txRetriesUsed := 0,
        txSequence := 0, txWaitingSeq := 0, txWaitState := .none, txCancelRequested := false,
        txGeneration := 0, txResultCode := .ok, txLastMessageId := 0 }
    port :=
      { txToken := 1, txInflight := false, txWritable := true, inFlightReliable := false,
        txQueued := false, txUnreliableCompletions := 0, txDrainRequired := false,
        txDrainPending := false, txDrainReliable := false, txDrainToken := 0,
        controlPending := false, controlInflight := false, controlLen := 0, inCallback := false }
    mem :=
      { payloadStore := storage.txPayload.bytes, txUnit := storage.txUnit.bytes,
        controlUnit := storage.controlUnit.bytes, txEncodedLen := 0, txUnreliableLen := 0,
        txPayload := { region := .payload, offset := 0, length := 0 } }
    claim :=
      { txClaimActive := false, txClaimReliable := false, txClaimMessageId := 0,
        txClaimToken := 0, txClaimPayload := none }
    slot := { hasEvent := false, event := noEvent, rxEventLeased := false, rxEventGeneration := 0 }
    dedup := { rxHaveReliable := false, rxSessionId := 0, rxSequence := 0 }
    rx :=
      { rxRing := ring, rxUnits := RxUnitQueue.empty, rxFallback := storage.rxFallback.bytes,
        rxCandidateSource := .none, rxPendingConsume := 0,
        rxCounters := noCounters,
        rxPayload := (some { source := .fallback, offset := 0 }, 0) }
    answers := answers
    trace := [] }

/-- `wl_init`. It compares the three TX memories only. The model gives each receive memory a store
of its own: that these do not overlap the TX memories is an assumption, which the source neither
tests nor states. -/
def wlInit (config : WlConfig) (storage : WlStorage) (answers : List WlSinkResult) :
    Except WlErr WlCtx :=
  match wlConfigRequirements config with
  | .error err => .error err
  | .ok requirements =>
    if storageTooSmall storage requirements then .error .bufTooSmall
    else if storageOverlaps storage.txPayload storage.txUnit ||
        storageOverlaps storage.txPayload storage.controlUnit ||
        storageOverlaps storage.txUnit storage.controlUnit then .error .invalidArg
    else if requirements.rxFifoSize ≠ 0 then
      match RxRing.init storage.rxFifo.bytes with
      | .error _ => .error .invalidArg
      | .ok ring => .ok (initialCtx config storage ring answers)
    else .ok (initialCtx config storage RxRing.empty answers)

end Wirelink
