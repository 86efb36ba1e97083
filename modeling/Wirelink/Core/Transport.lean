/-
Module: Wirelink.Core.Transport
Purpose: The owner's turn (wl_poll with its five stages) and the calls of the application and the
  port on a context: sink and drain selection, cancel, status, take, release and the queries.
Trusted boundary: the translation of the poll part of src/protocol.c, of src/transport.c, of
  src/schedule.c and of wl_rx_can_accept_unit in src/unit_rx.c
-/
import Wirelink.Core.Receive

namespace Wirelink

/-! ### The owner's turn -/

/-- Stage two of `wl_poll_transport_progress`: a deferred terminal event is put into a free slot
once the DATA lease is back. -/
def pollPublishPending (ctx : WlCtx) : WlCtx :=
  if ctx.tx.txPendingEvent ≠ .none ∧ ¬ ctx.slot.hasEvent ∧
      ¬ (ctx.port.txInflight ∧ ctx.port.inFlightReliable) then
    let pushed := (wlPushEvent ctx ctx.tx.txPendingEvent 0 none 0 ctx.tx.txHandle).1
    { pushed with tx := { pushed.tx with txPendingEvent := .none } }
  else ctx

/-- Stage three: parse received input while the control slot and the event slot are free. -/
def pollReceive (ctx : WlCtx) : WlCtx :=
  if ¬ ctx.port.controlPending ∧ ¬ ctx.slot.hasEvent ∧ ¬ ctx.slot.rxEventLeased then
    wlLinkProcessRx ctx
  else ctx

/-- Stage four: a queued DATA unit gets its physical turn. -/
def pollResubmit (ctx : WlCtx) : WlCtx :=
  if ¬ ctx.slot.hasEvent ∧ ¬ ctx.port.controlPending ∧ ¬ ctx.claim.txClaimActive ∧
      ctx.port.txQueued ∧ ¬ ctx.port.txInflight ∧ ¬ ctx.port.txDrainPending ∧
      ctx.port.txWritable then
    let reliable := ctx.port.inFlightReliable
    let marked := ctx.note (.resubmitted reliable)
    match if reliable then wlSendTxPayload marked else wlSubmitData marked false with
    | (sent, .ok) => sent
    | (sent, _) =>
      let cleared := { sent with
        port := { sent.port with txQueued := false, inFlightReliable := false } }
      if reliable then failTransaction cleared .io .txFailed
      else { cleared with mem := { cleared.mem with txUnreliableLen := 0 } }
  else ctx

/-- The retry of stage five. -/
def timeoutRetry (ctx : WlCtx) (nowMs : UInt32) : WlCtx :=
  match wlSendTxPayload (ctx.note (.timeoutRetry ctx.port.txDrainPending ctx.sink)) with
  | (sent, .ok) =>
    let booked := bookRetry sent
    if booked.tx.txState = .waitingAck then
      { booked with tx := { booked.tx with txStartTs := nowMs } }
    else booked
  | (sent, _) => failTransaction sent .io .txFailed

/-- Stage five: the ACK timer. -/
def pollTimeout (ctx : WlCtx) (nowMs : UInt32) : WlCtx :=
  if ¬ ctx.slot.hasEvent ∧ ¬ ctx.port.controlPending ∧ ¬ ctx.port.txInflight ∧
      ¬ ctx.port.txQueued ∧ ¬ ctx.claim.txClaimActive ∧ ctx.tx.txState = .waitingAck ∧
      ctx.tx.txWaitState = .ack ∧ ctx.initialized ∧ ctx.config.ackTimeoutMs ≠ 0 ∧
      nowMs - ctx.tx.txStartTs ≥ ctx.config.ackTimeoutMs then
    if ctx.tx.txRetriesLeft = 0 then failTransaction ctx .timeout .txTimeout
    else timeoutRetry ctx nowMs
  else ctx

/-- `wl_poll_transport_progress`. -/
def wlPollTransportProgress (ctx : WlCtx) (nowMs : UInt32) : WlCtx :=
  pollTimeout (pollResubmit (pollReceive (pollPublishPending (wlSubmitControl ctx).1))) nowMs

/-- The test of `wl_poll` for work beyond the event slot. -/
def pollHasWork (ctx : WlCtx) : Bool :=
  ctx.port.controlPending || ctx.tx.txPendingEvent != .none || ctx.port.txQueued ||
    ctx.tx.txState == .waitingAck ||
    (!ctx.slot.hasEvent && !ctx.slot.rxEventLeased &&
      (ctx.config.envelope == .cobsStream || ctx.rx.rxUnits.initialized))

/-- One unreliable completion becomes an event. -/
def pollCompletion (ctx : WlCtx) : WlCtx :=
  if ¬ ctx.slot.hasEvent ∧ ctx.port.txUnreliableCompletions ≠ 0 then
    match wlPushEvent ctx .txSuccess 0 none 0 0 with
    | (pushed, .ok) =>
      { pushed with
        port :=
          { pushed.port with
            txUnreliableCompletions := pushed.port.txUnreliableCompletions - 1 } }
    | (ctx, _) => ctx
  else ctx

/-- The slot is emptied. -/
def deliverEvent (ctx : WlCtx) : WlCtx :=
  ({ ctx with
      slot :=
        { ctx.slot with
          hasEvent := false
          rxEventLeased := ctx.slot.event.type.isRx || ctx.slot.rxEventLeased } } : WlCtx).note
    (.polled ctx.slot.event.type ctx.slot.event.handle)

/-- The slot is emptied into the caller's event. -/
def pollDeliver (ctx : WlCtx) : WlCtx × Except WlErr WlEvent :=
  if ctx.slot.hasEvent then (deliverEvent ctx, .ok ctx.slot.event) else (ctx, .error .noData)

/-- `wl_poll`. -/
def wlPoll (ctx : WlCtx) (nowMs : UInt32) : WlCtx × Except WlErr WlEvent :=
  if ¬ ctx.initialized then (ctx, .error .notInitialized)
  else
    let ctx := { ctx with nowMs := nowMs }
    let ctx := if pollHasWork ctx then wlPollTransportProgress ctx nowMs else ctx
    pollDeliver (pollCompletion ctx)

/-! ### Port and application calls -/

/-- `wl_set_sink`; the argument says whether the new sink is there. -/
def wlSetSink (ctx : WlCtx) (sink : Bool) : WlCtx × WlErr :=
  if ¬ ctx.initialized then (ctx, .notInitialized)
  else if ctx.port.inCallback then (ctx, .reentrant)
  else ({ ctx with sink := sink }, .ok)

/-- `wl_set_tx_drain_required`. -/
def wlSetTxDrainRequired (ctx : WlCtx) (required : Bool) : WlCtx × WlErr :=
  if ¬ ctx.initialized then (ctx, .notInitialized)
  else if ctx.port.txInflight || ctx.port.controlInflight || ctx.port.txDrainPending then
    (ctx, .busy)
  else
    (({ ctx with port := { ctx.port with txDrainRequired := required } } : WlCtx).note
      (.drainRequired required), .ok)

/-- `wl_tx_writable`. -/
def wlTxWritable (ctx : WlCtx) : WlCtx × WlErr :=
  if ¬ ctx.initialized then (ctx, .notInitialized)
  else
    ({ ctx with
        port := { ctx.port with txWritable := true }
        resourceGeneration := ctx.resourceGeneration + 1 },
      .ok)

/-- The three states in which a transaction has ended. -/
def WlTxState.terminal : WlTxState → Bool
  | .success | .failed | .cancelled => true
  | _ => false

/-- `wl_tx_can_take`. -/
def wlTxCanTake (ctx : WlCtx) (handle : UInt32) : Bool :=
  ctx.initialized && handle != 0 && handle == ctx.tx.txHandle &&
    !(ctx.port.txInflight && ctx.port.inFlightReliable) && ctx.tx.txState.terminal

/-- `wl_tx_can_submit`. -/
def wlTxCanSubmit (ctx : WlCtx) (delivery : WlDelivery) : Bool :=
  ctx.initialized && ctx.sink && !ctx.port.txInflight && !ctx.port.txDrainPending &&
    !ctx.port.controlPending && !ctx.port.controlInflight && !ctx.port.txQueued &&
    !ctx.claim.txClaimActive &&
    (if delivery = .reliable then ctx.tx.txHandle == 0 else !wlTxRetryDue ctx ctx.nowMs)

/-- `wl_rx_has_space`. -/
def wlRxHasSpace (ctx : WlCtx) : Bool :=
  ctx.initialized && ctx.rx.rxRing.hasSpace

/-- `wl_rx_can_accept_unit`. -/
def wlRxCanAcceptUnit (ctx : WlCtx) : Bool :=
  ctx.initialized && ctx.config.envelope != .cobsStream &&
    if ctx.rx.rxUnits.initialized then
      !ctx.rx.rxUnits.claimActive && decide (ctx.rx.rxUnits.outstanding < ctx.rx.rxUnits.slotCount)
    else !ctx.slot.rxEventLeased && !ctx.slot.hasEvent

/-- The assignments of `wl_tx_cancel`: a queued copy is dropped, a unit in flight keeps its lease. -/
def cancelTransaction (ctx : WlCtx) : WlCtx :=
  let leased := ctx.port.txInflight && ctx.port.inFlightReliable
  let queued := !leased && ctx.port.txQueued && ctx.port.inFlightReliable
  ({ ctx with
      port :=
        if queued then { ctx.port with txQueued := false, inFlightReliable := false } else ctx.port
      tx :=
        { ctx.tx with
          txCancelRequested := leased || ctx.tx.txCancelRequested
          txState := .cancelled
          txWaitState := .none
          txWaitingSeq := 0
          txRetriesLeft := 0
          txResultCode := .cancelled } } : WlCtx).note (.cancelled ctx.tx.txHandle)

/-- `wl_tx_cancel`. -/
def wlTxCancel (ctx : WlCtx) (handle : UInt32) : WlCtx × WlErr :=
  if ¬ ctx.initialized then (ctx, .notInitialized)
  else if handle = 0 ∨ handle ≠ ctx.tx.txHandle then (ctx, .notFound)
  else if ctx.tx.txState = .idle ∨ ctx.tx.txState.terminal then (ctx, .invalidState)
  else (cancelTransaction ctx, .ok)

/-- `wl_tx_status`. -/
def wlTxStatus (ctx : WlCtx) (handle : UInt32) : Except WlErr WlTxState :=
  if ¬ ctx.initialized then .error .notInitialized
  else if handle = 0 ∨ handle ≠ ctx.tx.txHandle then .error .notFound
  else .ok ctx.tx.txState

/-- The result `wl_tx_take` reports. -/
def txResult (ctx : WlCtx) : WlTxResult :=
  { state := ctx.tx.txState, result := ctx.tx.txResultCode, retriesUsed := ctx.tx.txRetriesUsed }

/-- The assignments of `wl_tx_take`. -/
def retireTransaction (ctx : WlCtx) : WlCtx :=
  ({ ctx with
      resourceGeneration := ctx.resourceGeneration + 1
      tx :=
        { ctx.tx with
          txHandle := 0
          txPendingEvent := .none
          txState := .idle
          txCancelRequested := false
          txWaitState := .none
          txWaitingSeq := 0 }
      mem :=
        { ctx.mem with
          txPayload := { region := .payload, offset := 0, length := 0 }
          txEncodedLen := 0 } } : WlCtx).note (.taken ctx.tx.txHandle (txResult ctx))

/-- `wl_tx_take`. -/
def wlTxTake (ctx : WlCtx) (handle : UInt32) : WlCtx × Except WlErr WlTxResult :=
  if ¬ ctx.initialized then (ctx, .error .notInitialized)
  else if handle = 0 ∨ handle ≠ ctx.tx.txHandle then (ctx, .error .notFound)
  else if ctx.port.txInflight ∧ ctx.port.inFlightReliable ∨ ¬ ctx.tx.txState.terminal then
    (ctx, .error .invalidState)
  else (retireTransaction ctx, .ok (txResult ctx))

/-- `wl_feed_recover_reset`. -/
def wlFeedRecoverReset (ctx : WlCtx) : WlCtx × WlErr :=
  match streamGuard ctx with
  | some err => (ctx, err)
  | none =>
    if ctx.slot.rxEventLeased then (ctx, .wouldBlock)
    else (consumeRing ctx ctx.rx.rxRing.readable, .ok)

/-- The unit behind a released event is consumed, from the queue or from the ring. -/
def consumePending (ctx : WlCtx) : WlCtx :=
  if ctx.rx.rxPendingConsume = 0 then ctx
  else
    setPendingConsume
      (if ctx.rx.rxCandidateSource = .unit then consumeUnit ctx
        else consumeRing ctx ctx.rx.rxPendingConsume) 0

/-- `wl_event_release`; it reads the type and the lease of the caller's event. -/
def wlEventRelease (ctx : WlCtx) (type : WlEventType) (lease : UInt32) : WlCtx :=
  if ctx.initialized ∧ type.isRx ∧ ctx.slot.rxEventLeased ∧
      lease = ctx.slot.rxEventGeneration then
    let released := consumePending
      { ctx with
        slot := { ctx.slot with rxEventLeased := false }
        resourceGeneration := ctx.resourceGeneration + 1 }
    { released with
      rx :=
        { released.rx with
          rxCandidateSource := .none
          rxPayload := (released.rx.rxPayload.1, 0) } }
  else ctx

/-! ### Scheduling -/

/-- `wl_readiness_t`; `none` is `WL_NO_DEADLINE`. -/
structure WlReadiness where
  runnable : Bool
  blocked : Bool
  nextDeadlineMs : Option UInt32
deriving Repr, Inhabited, DecidableEq

/-- `wl_rx_runnable`. The delimiter search leaves its cache in the ring. -/
def wlRxRunnable (ctx : WlCtx) : WlCtx × Bool :=
  if ctx.slot.rxEventLeased then (ctx, false)
  else if ctx.config.envelope = .cobsStream then
    if ctx.rx.rxRing.overflowPending then (ctx, true)
    else
      match ctx.rx.rxRing.consumerFind 0 with
      | (ring, .ok _) => (setRing ctx ring, true)
      | (ring, .error _) => (setRing ctx ring, ctx.rx.rxUnits.consumerHasData)
  else (ctx, ctx.rx.rxUnits.consumerHasData)

/-- The three conditions of `wl_link_get_readiness` that need no look at the receive side. -/
def eventReady (ctx : WlCtx) : Bool :=
  ctx.slot.hasEvent || ctx.port.txUnreliableCompletions != 0 ||
    (ctx.tx.txPendingEvent != .none && !(ctx.port.txInflight && ctx.port.inFlightReliable))

/-- `wl_link_get_readiness`. The receive side is looked at only when nothing else makes the link
runnable and the control slot is free. -/
def wlLinkGetReadiness (ctx : WlCtx) (nowMs : UInt32) : WlCtx × Except WlErr WlReadiness :=
  if ¬ ctx.initialized then (ctx, .error .notInitialized)
  else
    let (ctx, received) :=
      if eventReady ctx || ctx.port.controlPending then (ctx, false) else wlRxRunnable ctx
    let waiting := ctx.port.controlPending || ctx.port.txQueued
    let lineOpen := ctx.port.txWritable && !ctx.port.txInflight && !ctx.port.controlInflight &&
      !ctx.port.txDrainPending && !ctx.claim.txClaimActive
    let timed := !ctx.port.controlPending && !ctx.port.txInflight && !ctx.port.txQueued &&
      !ctx.claim.txClaimActive && ctx.tx.txState == .waitingAck && ctx.tx.txWaitState == .ack &&
      ctx.config.ackTimeoutMs != 0
    let elapsed := nowMs - ctx.tx.txStartTs
    let due := decide (elapsed ≥ ctx.config.ackTimeoutMs)
    (ctx,
      .ok
        { runnable := eventReady ctx || received || waiting && lineOpen || timed && due
          blocked := waiting && !lineOpen || ctx.port.txInflight || ctx.port.controlInflight ||
            ctx.port.txDrainPending || ctx.slot.rxEventLeased || ctx.claim.txClaimActive ||
            timed && !due
          nextDeadlineMs :=
            if timed then some (if due then 0 else ctx.config.ackTimeoutMs - elapsed) else none })

end Wirelink
