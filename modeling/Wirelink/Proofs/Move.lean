/-
Module: Wirelink.Proofs.Move
Purpose: What one call can do to the sending side of a context, said once. A move is one block of
  the source between two consistent states, with the guards of its call site; every operation is a
  sequence of moves, after the clock it brings along has been set. The results about whole runs are proved once per move.
Trusted boundary: none
-/
import Wirelink.Core.Run
import Wirelink.Spec.Wire

namespace Wirelink

/-! ### Blocks shared by several moves

Effects that several moves have in common. -/

/-- The context after a sink call that was answered with `answer`. -/
def sinkCalled (ctx : WlCtx) (kind : UnitKind) (bytes : Bytes) (answer : WlSinkResult) : WlCtx :=
  ({ ctx with
      port := { ctx.port with txToken := nextToken ctx.port.txToken, inCallback := false }
      answers := ctx.answers.tail } : WlCtx).note
    (.sinkCall (nextToken ctx.port.txToken) kind bytes answer)

theorem callSink_eq (ctx : WlCtx) (kind : UnitKind) (bytes : Bytes) :
    callSink ctx kind bytes =
      (sinkCalled ctx kind bytes (ctx.answers.headD .failed), ctx.answers.headD .failed) := rfl

/-- The context after a TX event was put into the slot. -/
def postTxEvent (ctx : WlCtx) (type : WlEventType) (handle : UInt32) : WlCtx :=
  ({ ctx with
      slot :=
        { ctx.slot with
          hasEvent := true
          event :=
            { type := type, messageId := 0, payload := none, payloadLen := 0, handle := handle,
              lease := 0, peerSessionId := 0 } } } : WlCtx).note (.posted type handle)

theorem wlPushEvent_tx {ctx : WlCtx} {type : WlEventType} (transmit : type.isRx = false)
    (free : ctx.slot.hasEvent = false) (handle : UInt32) :
    wlPushEvent ctx type 0 none 0 handle = (postTxEvent ctx type handle, .ok) := by
  simp [wlPushEvent, postTxEvent, transmit, free]

/-- A terminal event has to wait for the DATA lease or for the slot. -/
def eventDeferred (ctx : WlCtx) : Bool :=
  ctx.port.txInflight && ctx.port.inFlightReliable || ctx.slot.hasEvent

/-- A terminal event is deferred or put into the slot under the handle of the transaction. -/
theorem wlPushTxEvent_eq (ctx : WlCtx) {type : WlEventType} (transmit : type.isRx = false) :
    wlPushTxEvent ctx type =
      if eventDeferred ctx then { ctx with tx := { ctx.tx with txPendingEvent := type } }
      else postTxEvent ctx type ctx.tx.txHandle := by
  unfold wlPushTxEvent eventDeferred
  cases leased : ctx.port.txInflight && ctx.port.inFlightReliable with
  | true => simp
  | false =>
    cases taken : ctx.slot.hasEvent with
    | true => simp [wlPushEvent, taken]
    | false => simp [wlPushEvent_tx transmit taken]

/-- The frame of the retained transaction. -/
def reliableFrame (ctx : WlCtx) : WireFrame :=
  .reliable ctx.tx.txLastMessageId ctx.sessionId ctx.tx.txWaitingSeq
    (ctx.mem.txPayload.bytes ctx.mem)

/-- `unit` holds an image of `length` bytes: the cached one, or a fresh one of the retained
transaction. -/
structure Imaged (ctx : WlCtx) (unit : Bytes) (length : Nat) : Prop where
  size : unit.length = ctx.mem.txUnit.length
  nonempty : length ≠ 0
  image : (ctx.mem.txEncodedLen ≠ 0 ∧ unit = ctx.mem.txUnit ∧ length = ctx.mem.txEncodedLen) ∨
    (ctx.mem.txEncodedLen = 0 ∧ unit.take length = linkUnit ctx.config (reliableFrame ctx) ∧
      length = (linkUnit ctx.config (reliableFrame ctx)).length)

/-- The context with its reliable image in place. -/
def withImage (ctx : WlCtx) (unit : Bytes) (length : Nat) : WlCtx :=
  { ctx with mem := { ctx.mem with txUnit := unit, txEncodedLen := length } }

/-- The context with the image of an unreliable packet in place. -/
def withPlainImage (ctx : WlCtx) (unit : Bytes) (length : Nat) : WlCtx :=
  { ctx with mem := { ctx.mem with txUnit := unit, txUnreliableLen := length } }

/-- A reliable submission and whether it went through. -/
inductive Sent : WlCtx → WlCtx → Bool → Prop where
  | noSink {ctx : WlCtx} (absent : ctx.sink = false) : Sent ctx ctx false
  | answered {ctx : WlCtx} {unit : Bytes} {length : Nat} (answer : WlSinkResult)
      (present : ctx.sink = true) (imaged : Imaged ctx unit length) :
      Sent ctx
        (dataAnswer (sinkCalled (withImage ctx unit length) .reliable (unit.take length) answer)
          true answer).1
        (answer != .failed)

/-- What an answer of the sink makes of an unreliable unit while there is room for its completion. -/
def plainAnswer (ctx : WlCtx) : WlSinkResult → WlCtx
  | .sent =>
    { ctx with
      port :=
        { ctx.port with
          inFlightReliable := false, txInflight := false, txQueued := false
          txUnreliableCompletions := ctx.port.txUnreliableCompletions + 1 }
      mem := { ctx.mem with txUnreliableLen := 0 } }
  | answer => (dataAnswer ctx false answer).1

theorem dataAnswer_plain {ctx : WlCtx} (capacity : ctx.port.txUnreliableCompletions ≠ uint32Max)
    (answer : WlSinkResult) : (dataAnswer ctx false answer).1 = plainAnswer ctx answer := by
  cases answer with
  | sent =>
    simp only [dataAnswer, plainAnswer, wlCompleteUnreliableTx, capacity, if_false,
      Bool.false_eq_true]
  | started | busy | failed => rfl

/-- An unreliable submission and whether it went through. -/
inductive SentPlain : WlCtx → WlCtx → Bool → Prop where
  | noSink {ctx : WlCtx} (absent : ctx.sink = false) : SentPlain ctx ctx false
  | answered {ctx : WlCtx} (answer : WlSinkResult) (present : ctx.sink = true)
      (capacity : ctx.port.txUnreliableCompletions ≠ uint32Max) :
      SentPlain ctx
        (plainAnswer
          (sinkCalled ctx .unreliable (ctx.mem.txUnit.take ctx.mem.txUnreliableLen) answer) answer)
        (answer != .failed)

/-- The ACK of a received unit: placed in a free control slot, or dropped. -/
inductive AckStep (sessionId : UInt64) (sequence : UInt32) : WlCtx → WlCtx → Prop where
  | dropped {ctx : WlCtx} (blocked : ctx.sink = false ∨ ctx.port.controlPending = true) :
      AckStep sessionId sequence ctx ctx
  | placed {ctx : WlCtx} {unit : Bytes} {length : Nat} (present : ctx.sink = true)
      (free : ctx.port.controlPending = false) (size : unit.length = ctx.mem.controlUnit.length)
      (image : unit.take length = linkUnit ctx.config (.ack sessionId sequence)) :
      AckStep sessionId sequence ctx
        (({ ctx with
            mem := { ctx.mem with controlUnit := unit }
            port := { ctx.port with controlLen := length, controlPending := true } } : WlCtx).note
          (.ackPlaced sessionId sequence (unit.take length)))

/-- The DATA unit is no longer queued. -/
def unqueued (ctx : WlCtx) : WlCtx :=
  { ctx with port := { ctx.port with txQueued := false, inFlightReliable := false } }

/-- The port once a queued unit of the transaction was dropped. -/
def queueDropped (port : TxPort) : TxPort :=
  { port with
    txQueued := port.txQueued && !port.inFlightReliable
    inFlightReliable := port.inFlightReliable && !port.txQueued }

theorem queueDropped_eq (port : TxPort) :
    (if port.txQueued && port.inFlightReliable then
      { port with txQueued := false, inFlightReliable := false } else port) = queueDropped port := by
  rcases port with ⟨_, _, _, reliable, queued⟩
  cases reliable <;> cases queued <;> rfl

/-- The transaction is acknowledged; its event is still to be reported. -/
def acknowledged (ctx : WlCtx) : WlCtx :=
  ({ ctx with
      tx :=
        { ctx.tx with
          txState := .success, txWaitState := .none, txWaitingSeq := 0, txRetriesLeft := 0
          txResultCode := .ok }
      port := queueDropped ctx.port } : WlCtx).note (.acked ctx.tx.txHandle)

theorem acknowledge_eq (ctx : WlCtx) :
    acknowledge ctx = wlPushTxEvent (acknowledged ctx) .txSuccess := by
  rw [acknowledge, acknowledged, queueDropped_eq]

/-- The transaction is cancelled; a unit in flight keeps its lease. -/
def withdrawn (ctx : WlCtx) : WlCtx :=
  ({ ctx with
      port := queueDropped ctx.port
      tx :=
        { ctx.tx with
          txCancelRequested :=
            ctx.port.txInflight && ctx.port.inFlightReliable || ctx.tx.txCancelRequested
          txState := .cancelled
          txWaitState := .none
          txWaitingSeq := 0
          txRetriesLeft := 0
          txResultCode := .cancelled } } : WlCtx).note (.cancelled ctx.tx.txHandle)

/-- What is queued is not in flight. -/
theorem cancelTransaction_eq {ctx : WlCtx}
    (queued : ctx.port.txQueued = true → ctx.port.txInflight = false) :
    cancelTransaction ctx = withdrawn ctx := by
  have same : (!(ctx.port.txInflight && ctx.port.inFlightReliable) && ctx.port.txQueued &&
      ctx.port.inFlightReliable) = (ctx.port.txQueued && ctx.port.inFlightReliable) := by
    cases queue : ctx.port.txQueued with
    | false => simp
    | true => simp [queued queue]
  simp only [cancelTransaction, withdrawn, same, queueDropped_eq]

/-- The end of a timeout retry that went through. -/
def retryBooked (ctx : WlCtx) (nowMs : UInt32) : WlCtx :=
  { bookRetry ctx with
    tx :=
      { (bookRetry ctx).tx with
        txStartTs := if ctx.tx.txState = .waitingAck then nowMs else ctx.tx.txStartTs } }

/-- The DATA lease is back. -/
def leaseReturned (ctx : WlCtx) (token : UInt32) (ioResult : WlErr) : WlCtx :=
  { consumedHead ctx token ioResult with
    port :=
      { (consumedHead ctx token ioResult).port with
        txInflight := false, inFlightReliable := false } }

/-- The context behind a drain report, before its transaction is looked at. -/
def drainCleared (ctx : WlCtx) (ioResult : WlErr) : WlCtx :=
  { drainReported ctx ctx.port.txDrainToken ioResult with
    port :=
      { (drainReported ctx ctx.port.txDrainToken ioResult).port with txDrainReliable := false } }

/-- The transaction waits for the drain that is outstanding. -/
structure AwaitsDrain (ctx : WlCtx) : Prop where
  reliable : ctx.port.txDrainReliable = true
  state : ctx.tx.txState = .waitingAck
  wait : ctx.tx.txWaitState = .drain

/-- An RX event in the slot, with the receive side it was parsed from. -/
def rxEventIn (ctx : WlCtx) (rx : RxState) (event : WlEvent) (lease : UInt32) : WlCtx :=
  { ctx with
    rx := rx
    slot := { ctx.slot with hasEvent := true, event := event, rxEventGeneration := lease } }

/-- The line and the queue are free for a new DATA unit. -/
structure LineFree (ctx : WlCtx) : Prop where
  lease : ctx.port.txInflight = false
  drain : ctx.port.txDrainPending = false
  pending : ctx.port.controlPending = false
  control : ctx.port.controlInflight = false
  queue : ctx.port.txQueued = false
  claim : ctx.claim.txClaimActive = false

/-- Where the payload of an accepted reliable send lies. -/
def PlacedReliable (config : WlConfig) : SendPayload → Prop
  | .copied buffer => buffer.invalid = false
  | .direct span =>
    span.region = .payload ∧ span.offset = 0 ∨
      span.region = .unit ∧ span.offset = 16 ∧ config.envelope = .nativePacket

/-- The ACK timer of the transaction runs and has run out. -/
structure TimerDue (ctx : WlCtx) : Prop where
  waiting : ctx.tx.txWaitState = .ack
  enabled : ctx.config.ackTimeoutMs ≠ 0
  elapsed : ctx.nowMs - ctx.tx.txStartTs ≥ ctx.config.ackTimeoutMs

/-! ### Moves

A move carries the guards of its call site, so that a result about all moves needs no look at the
calls. The receive side has moves of its own, because its loops go on after each of them. -/

/-- One block of the receive side between two consistent states, labelled with the frame it handles.
These are the blocks that can run while received input is processed. -/
inductive RxMove : Option WireFrame → WlCtx → WlCtx → Prop where
  /-- Receive memories, lease marks, sink selection and the writable mark. -/
  | quiet (ctx : WlCtx) (generation : UInt32) (rx : RxState) (sink leased : Bool)
      (lease : UInt32) (writable : Bool) :
      RxMove none ctx
        { ctx with
          resourceGeneration := generation
          rx := rx
          sink := sink
          slot := { ctx.slot with rxEventLeased := leased, rxEventGeneration := lease }
          port := { ctx.port with txWritable := writable } }
  /-- `wl_submit_control` past its guards. -/
  | control {ctx : WlCtx} (answer : WlSinkResult) (pending : ctx.port.controlPending = true)
      (idle : ctx.port.controlInflight = false) (lease : ctx.port.txInflight = false)
      (drain : ctx.port.txDrainPending = false) (present : ctx.sink = true) :
      RxMove none ctx
        (controlAnswer
          (sinkCalled ctx .control (ctx.mem.controlUnit.take ctx.port.controlLen) answer) answer).1
  /-- An unreliable DATA unit was received. -/
  | receive {ctx : WlCtx} (view : WlFrameView) (rx : RxState) (event : WlEvent) (lease : UInt32)
      (free : ctx.slot.hasEvent = false) (type : event.type = .unreliableRx) :
      RxMove (some (.unreliable view.messageId view.payload)) ctx (rxEventIn ctx rx event lease)
  /-- A fresh reliable DATA unit was received. -/
  | accept {ctx after : WlCtx} (view : WlFrameView) (rx : RxState) (event : WlEvent)
      (lease : UInt32) (free : ctx.slot.hasEvent = false) (type : event.type = .reliableRx)
      (fresh : isDuplicate ctx view.sessionId view.sequence = false)
      (ack : AckStep view.sessionId view.sequence
        (recordAccepted (rxEventIn ctx rx event lease) view) after) :
      RxMove (some (.reliable view.messageId view.sessionId view.sequence view.payload)) ctx after
  /-- A copy of the last accepted reliable DATA unit was received. -/
  | duplicate {ctx after : WlCtx} (view : WlFrameView)
      (known : isDuplicate ctx view.sessionId view.sequence = true)
      (ack : AckStep view.sessionId view.sequence
        ((countDuplicate ctx).note
          (.repeated view.sessionId view.sequence (!ctx.port.controlPending) ctx.sink)) after) :
      RxMove (some (.reliable view.messageId view.sessionId view.sequence view.payload)) ctx after
  /-- The awaited ACK was received. -/
  | acked {ctx : WlCtx} (live : ctx.tx.txState = .waitingAck ∨ ctx.tx.txState = .sending) :
      RxMove (some (.ack ctx.sessionId ctx.tx.txWaitingSeq)) ctx
        (wlPushTxEvent (acknowledged ctx) .txSuccess)

/-- One block of the source between two consistent states, labelled with the frame it handles. -/
inductive Move : Option WireFrame → WlCtx → WlCtx → Prop where
  /-- A block of the receive side. -/
  | rx {label : Option WireFrame} {ctx after : WlCtx} (move : RxMove label ctx after) :
      Move label ctx after
  /-- A deferred terminal event was put into the slot. -/
  | publish {ctx : WlCtx} (pending : ctx.tx.txPendingEvent ≠ .none)
      (free : ctx.slot.hasEvent = false)
      (returned : ¬ (ctx.port.txInflight = true ∧ ctx.port.inFlightReliable = true)) :
      Move none ctx
        { postTxEvent ctx ctx.tx.txPendingEvent ctx.tx.txHandle with
          tx := { ctx.tx with txPendingEvent := .none } }
  /-- An unreliable completion was put into the slot. -/
  | complete {ctx : WlCtx} (free : ctx.slot.hasEvent = false)
      (waiting : ctx.port.txUnreliableCompletions ≠ 0) :
      Move none ctx
        { postTxEvent ctx .txSuccess 0 with
          port :=
            { ctx.port with
              txUnreliableCompletions := ctx.port.txUnreliableCompletions - 1 } }
  /-- The event in the slot was returned to the caller. -/
  | deliver {ctx : WlCtx} (taken : ctx.slot.hasEvent = true) : Move none ctx (deliverEvent ctx)
  /-- A queued reliable unit was submitted again. -/
  | resubmitReliable {ctx : WlCtx} (sent : WlCtx) (ok : Bool) (pending : ctx.port.controlPending = false)
      (claim : ctx.claim.txClaimActive = false) (queue : ctx.port.txQueued = true)
      (lease : ctx.port.txInflight = false) (drain : ctx.port.txDrainPending = false)
      (kind : ctx.port.inFlightReliable = true)
      (submission : Sent (ctx.note (.resubmitted true)) sent ok) :
      Move none ctx (if ok then sent else failTransaction (unqueued sent) .io .txFailed)
  /-- A queued unreliable unit was submitted again. -/
  | resubmitUnreliable {ctx : WlCtx} (sent : WlCtx) (ok : Bool) (pending : ctx.port.controlPending = false)
      (claim : ctx.claim.txClaimActive = false) (queue : ctx.port.txQueued = true)
      (lease : ctx.port.txInflight = false) (drain : ctx.port.txDrainPending = false)
      (kind : ctx.port.inFlightReliable = false)
      (submission : SentPlain (ctx.note (.resubmitted false)) sent ok) :
      Move none ctx
        (if ok then sent
        else { unqueued sent with mem := { (unqueued sent).mem with txUnreliableLen := 0 } })
  /-- The ACK timer ran out with no retry left. -/
  | timeoutFail {ctx : WlCtx} (lease : ctx.port.txInflight = false)
      (queue : ctx.port.txQueued = false) (claim : ctx.claim.txClaimActive = false)
      (state : ctx.tx.txState = .waitingAck) (left : ctx.tx.txRetriesLeft = 0)
      (due : TimerDue ctx) (open_ : ctx.slot.hasEvent = false) :
      Move none ctx (failTransaction ctx .timeout .txTimeout)
  /-- The ACK timer ran out and a retry was submitted. Nothing here looks at the drain. -/
  | timeoutRetry {ctx : WlCtx} (sent : WlCtx) (ok : Bool) (nowMs : UInt32)
      (pending : ctx.port.controlPending = false) (lease : ctx.port.txInflight = false)
      (queue : ctx.port.txQueued = false) (claim : ctx.claim.txClaimActive = false)
      (state : ctx.tx.txState = .waitingAck) (left : ctx.tx.txRetriesLeft ≠ 0)
      (submission : Sent (ctx.note (.timeoutRetry ctx.port.txDrainPending ctx.sink)) sent ok)
      (due : TimerDue ctx) (clock : nowMs = ctx.nowMs) :
      Move none ctx (if ok then retryBooked sent nowMs else failTransaction sent .io .txFailed)
  /-- The control unit was consumed. -/
  | consumedControl {ctx : WlCtx} (ioResult : WlErr) (inflight : ctx.port.controlInflight = true) :
      Move none ctx
        { consumedHead ctx ctx.port.txToken ioResult with
          port :=
            { (consumedHead ctx ctx.port.txToken ioResult).port with
              controlInflight := false, controlPending := false } }
  /-- An unreliable unit was consumed. -/
  | consumedUnreliable {ctx : WlCtx} (ioResult : WlErr) (inflight : ctx.port.txInflight = true)
      (kind : ctx.port.inFlightReliable = false) :
      Move none ctx
        { leaseReturned ctx ctx.port.txToken ioResult with
          port :=
            { (leaseReturned ctx ctx.port.txToken ioResult).port with
              txUnreliableCompletions :=
                if ioResult = .ok then ctx.port.txUnreliableCompletions + 1
                else ctx.port.txUnreliableCompletions }
          mem := { ctx.mem with txUnreliableLen := 0 } }
  /-- The unit of a cancelled transaction was consumed. -/
  | consumedCancelled {ctx : WlCtx} (ioResult : WlErr) (inflight : ctx.port.txInflight = true)
      (kind : ctx.port.inFlightReliable = true) (requested : ctx.tx.txCancelRequested = true) :
      Move none ctx
        { leaseReturned ctx ctx.port.txToken ioResult with
          tx := { ctx.tx with txCancelRequested := false }
          mem :=
            { ctx.mem with
              txPayload := { region := .payload, offset := 0, length := 0 }, txEncodedLen := 0 } }
  /-- The unit of a transaction that has already ended was consumed. -/
  | consumedSettled {ctx : WlCtx} (ioResult : WlErr) (inflight : ctx.port.txInflight = true)
      (kind : ctx.port.inFlightReliable = true) (requested : ctx.tx.txCancelRequested = false)
      (settled : ctx.tx.txState ≠ .sending) :
      Move none ctx (leaseReturned ctx ctx.port.txToken ioResult)
  /-- The unit of the live transaction was consumed. -/
  | consumedOk {ctx : WlCtx} (inflight : ctx.port.txInflight = true)
      (kind : ctx.port.inFlightReliable = true) (sending : ctx.tx.txState = .sending) :
      Move none ctx
        { leaseReturned ctx ctx.port.txToken .ok with
          tx :=
            { ctx.tx with
              txState := .waitingAck
              txWaitState :=
                if (leaseReturned ctx ctx.port.txToken .ok).port.txDrainPending then .drain
                else .ack
              txStartTs := ctx.nowMs } }
  /-- Its I/O failed and the retry waits behind a pending ACK. -/
  | consumedDeferred {ctx : WlCtx} (ioResult : WlErr) (failed : ioResult ≠ .ok)
      (inflight : ctx.port.txInflight = true) (kind : ctx.port.inFlightReliable = true)
      (sending : ctx.tx.txState = .sending) (left : ctx.tx.txRetriesLeft ≠ 0)
      (pending : ctx.port.controlPending = true) :
      Move none ctx
        (bookRetry
          { leaseReturned ctx ctx.port.txToken ioResult with
            port :=
              { (leaseReturned ctx ctx.port.txToken ioResult).port with
                txQueued := true, inFlightReliable := true } })
  /-- Its I/O failed and the retry was submitted. -/
  | consumedRetry {ctx : WlCtx} (sent : WlCtx) (ok : Bool) (ioResult : WlErr) (failed : ioResult ≠ .ok)
      (inflight : ctx.port.txInflight = true) (kind : ctx.port.inFlightReliable = true)
      (sending : ctx.tx.txState = .sending) (left : ctx.tx.txRetriesLeft ≠ 0)
      (pending : ctx.port.controlPending = false)
      (submission : Sent (leaseReturned ctx ctx.port.txToken ioResult) sent ok) :
      Move none ctx (if ok then bookRetry sent else failTransaction sent .io .txFailed)
  /-- Its I/O failed with no retry left. -/
  | consumedFail {ctx : WlCtx} (ioResult : WlErr) (failed : ioResult ≠ .ok)
      (inflight : ctx.port.txInflight = true) (kind : ctx.port.inFlightReliable = true)
      (sending : ctx.tx.txState = .sending) (left : ctx.tx.txRetriesLeft = 0) :
      Move none ctx (failTransaction (leaseReturned ctx ctx.port.txToken ioResult) .io .txFailed)
  /-- The drain of a unit no transaction waits for was reported. -/
  | drained {ctx : WlCtx} (ioResult : WlErr) (pending : ctx.port.txDrainPending = true)
      (other : ¬ AwaitsDrain ctx) : Move none ctx (drainCleared ctx ioResult)
  /-- The unit of the transaction is drained, and its ACK timer starts. -/
  | drainedOk {ctx : WlCtx} (pending : ctx.port.txDrainPending = true) (awaits : AwaitsDrain ctx) :
      Move none ctx
        { drainCleared ctx .ok with
          tx := { ctx.tx with txWaitState := .ack, txStartTs := ctx.nowMs } }
  /-- The drain of its unit failed. -/
  | drainedFail {ctx : WlCtx} (ioResult : WlErr) (pending : ctx.port.txDrainPending = true)
      (awaits : AwaitsDrain ctx) :
      Move none ctx
        (wlPushTxEvent
          { drainCleared ctx ioResult with
            tx := { ctx.tx with txState := .failed, txWaitState := .none, txResultCode := .io } }
          .txFailed)
  /-- A reliable send past its guards, with the sequence number it spends. -/
  | openReliable {ctx : WlCtx} (sent : WlCtx) (ok : Bool) (messageId : UInt16) (payload : SendPayload)
      (nowMs : UInt32) (free : LineFree ctx) (idle : ctx.tx.txHandle = 0)
      (placed : PlacedReliable ctx.config payload)
      (fits : payload.length ≤ ctx.config.maxPayloadLen) (named : messageId ≠ 0)
      (room : ctx.tx.txSequence ≠ uint32Max)
      (submission : Sent
        (openTransaction (Wirelink.spendSequence ctx) messageId ctx.tx.txSequence payload nowMs)
        sent ok)
      (clock : nowMs = ctx.nowMs) :
      Move none ctx
        (if ok then { sent with tx := { sent.tx with txResultCode := .busy } }
        else withdrawTransaction sent)
  /-- An unreliable send past its guards. -/
  | sendUnreliable {ctx : WlCtx} (sent : WlCtx) (ok : Bool) (messageId : UInt16) (data unit : Bytes)
      (free : LineFree ctx) (named : messageId ≠ 0) (size : unit.length = ctx.mem.txUnit.length)
      (image : unit.take (linkUnit ctx.config (.unreliable messageId data)).length =
        linkUnit ctx.config (.unreliable messageId data))
      (submission : SentPlain
        (withPlainImage (wlInvalidateTxImage ctx) unit
          (linkUnit ctx.config (.unreliable messageId data)).length) sent ok) :
      Move none ctx sent
  /-- A sequence number was spent on a send that was refused. -/
  | spendSequence {ctx : WlCtx} (room : ctx.tx.txSequence ≠ uint32Max) :
      Move none ctx (Wirelink.spendSequence ctx)
  /-- A payload claim was granted. -/
  | claim {ctx : WlCtx} (messageId : UInt16) (delivery : WlDelivery) (free : LineFree ctx)
      (named : messageId ≠ 0)
      (idle : delivery = .reliable → ctx.tx.txHandle = 0) :
      Move none ctx
        { ctx with
          mem := if delivery = .unreliable then (wlInvalidateTxImage ctx).mem else ctx.mem
          claim :=
            { txClaimActive := true
              txClaimReliable := delivery == .reliable
              txClaimMessageId := messageId
              txClaimToken := bumpNonzero ctx.claim.txClaimToken
              txClaimPayload := some (claimSpan ctx delivery) } }
  /-- The holder of the claim stored bytes in its span. -/
  | store {ctx : WlCtx} (offset : Nat) (data : Bytes) (active : ctx.claim.txClaimActive = true) :
      Move none ctx { ctx with mem := (claimWrite ctx offset data).mem }
  /-- The claim was spent. -/
  | spend {ctx : WlCtx} : Move none ctx (spendClaim ctx)
  /-- `wl_tx_cancel` succeeded. -/
  | cancel {ctx : WlCtx} (live : ctx.tx.txState = .waitingAck ∨ ctx.tx.txState = .sending) :
      Move none ctx (withdrawn ctx)
  /-- `wl_tx_take` succeeded. -/
  | take {ctx : WlCtx} (ended : ctx.tx.txState.terminal = true)
      (returned : ¬ (ctx.port.txInflight = true ∧ ctx.port.inFlightReliable = true)) :
      Move none ctx (retireTransaction ctx)
  /-- `wl_set_tx_drain_required` succeeded. -/
  | drainRequired {ctx : WlCtx} (required : Bool) (lease : ctx.port.txInflight = false)
      (control : ctx.port.controlInflight = false) (drain : ctx.port.txDrainPending = false) :
      Move none ctx
        (({ ctx with port := { ctx.port with txDrainRequired := required } } : WlCtx).note
          (.drainRequired required))

/-- Any number of steps, with the frames they were given in order. A frame can be without effect. -/
inductive Trail (Step : Option WireFrame → WlCtx → WlCtx → Prop) :
    List WireFrame → WlCtx → WlCtx → Prop where
  | refl (ctx : WlCtx) : Trail Step [] ctx ctx
  | move {frames : List WireFrame} {ctx middle after : WlCtx}
      (before : Trail Step frames ctx middle) (last : Step none middle after) :
      Trail Step frames ctx after
  | arrival {frames : List WireFrame} {ctx middle after : WlCtx} (frame : WireFrame)
      (before : Trail Step frames ctx middle) (last : Step (some frame) middle after) :
      Trail Step (frames ++ [frame]) ctx after
  | ignored {frames : List WireFrame} {ctx after : WlCtx} (frame : WireFrame)
      (before : Trail Step frames ctx after) : Trail Step (frames ++ [frame]) ctx after

namespace Trail

variable {Step : Option WireFrame → WlCtx → WlCtx → Prop} {frames more : List WireFrame}
  {ctx middle after : WlCtx}

theorem single (move : Step none ctx after) : Trail Step [] ctx after :=
  (Trail.refl ctx).move move

theorem trans (first : Trail Step frames ctx middle) (second : Trail Step more middle after) :
    Trail Step (frames ++ more) ctx after := by
  induction second with
  | refl => simpa using first
  | move _ last ih => exact (ih first).move last
  | arrival frame _ last ih =>
    rw [← List.append_assoc]
    exact (ih first).arrival frame last
  | ignored frame _ ih =>
    rw [← List.append_assoc]
    exact (ih first).ignored frame

/-- What holds before and is kept by every step holds after. -/
theorem induct (trail : Trail Step frames ctx after) (Holds : WlCtx → Prop) (start : Holds ctx)
    (kept : ∀ {label : Option WireFrame} {middle next : WlCtx}, Step label middle next →
      Holds middle → Holds next) : Holds after := by
  induction trail with
  | refl => exact start
  | move _ last ih | arrival _ _ last ih => exact kept last (ih start)
  | ignored _ _ ih => exact ih start

/-- Steps of the receive side are moves. -/
theorem toMove (trail : Trail RxMove frames ctx after) : Trail Move frames ctx after := by
  induction trail with
  | refl ctx => exact Trail.refl ctx
  | move _ last ih => exact ih.move (Move.rx last)
  | arrival frame _ last ih => exact ih.arrival frame (Move.rx last)
  | ignored frame _ ih => exact ih.ignored frame

end Trail

/-- Any number of steps. -/
def Moves (Step : Option WireFrame → WlCtx → WlCtx → Prop) (ctx after : WlCtx) : Prop :=
  ∃ frames, Trail Step frames ctx after

theorem Trail.moves {Step : Option WireFrame → WlCtx → WlCtx → Prop} {frames : List WireFrame}
    {ctx after : WlCtx} (trail : Trail Step frames ctx after) : Moves Step ctx after :=
  ⟨frames, trail⟩

theorem Moves.trans {Step : Option WireFrame → WlCtx → WlCtx → Prop} {ctx middle after : WlCtx}
    (first : Moves Step ctx middle) (second : Moves Step middle after) : Moves Step ctx after := by
  obtain ⟨frames, before⟩ := first
  obtain ⟨more, rest⟩ := second
  exact ⟨frames ++ more, before.trans rest⟩

theorem Moves.toMove {ctx after : WlCtx} (moves : Moves RxMove ctx after) : Moves Move ctx after := by
  obtain ⟨_, trail⟩ := moves
  exact trail.toMove.moves

end Wirelink
