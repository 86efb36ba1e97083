/-
Module: Wirelink.Core.BulkSender
Purpose: The sending half of a bulk transfer: a state machine that hands out one action at a time,
  waits for its status, and retries it a bounded number of times. A value of WlBulkSender is what a
  successful init has built, so the tests for a null or uninitialized sender have no counterpart.
Trusted boundary: the translation of src/bulk_sender.c
-/
import Wirelink.Core.Bulk

namespace Wirelink

/-- `wl_bulk_sender_state_t`. -/
inductive WlBulkSenderState where
  | idle
  | ready
  | waitStatus
  | completed
  | failed
  | aborted
deriving Repr, Inhabited, DecidableEq

/-- `wl_bulk_sender_config_t`. -/
structure WlBulkSenderConfig where
  statusTimeoutMs : UInt32
  busyRetryMs : UInt32
  maxRetries : UInt16
deriving Repr, Inhabited, DecidableEq

/-- `wl_bulk_sender_stats_t`. -/
structure WlBulkSenderStats where
  starts : UInt32
  actionsSubmitted : UInt32
  statusesReceived : UInt32
  retries : UInt32
  busyResponses : UInt32
  protocolErrors : UInt32
  completed : UInt32
  failed : UInt32
  aborted : UInt32
deriving Repr, Inhabited, DecidableEq

/-- `wl_bulk_sender_action_t`. -/
structure WlBulkSenderAction where
  phase : WlBulkPhase
  descriptor : WlBulkDescriptor
  offset : UInt64
  length : Nat
  abortReason : Int32
  token : UInt32
deriving Repr, Inhabited, DecidableEq

/-- `wl_bulk_sender_impl_t`. -/
structure WlBulkSender where
  descriptor : WlBulkDescriptor
  stats : WlBulkSenderStats
  nextOffset : UInt64
  actionLength : Nat
  waitStartedAt : UInt32
  waitIntervalMs : UInt32
  statusTimeoutMs : UInt32
  busyRetryMs : UInt32
  nextToken : UInt32
  acquiredToken : UInt32
  abortReason : Int32
  state : WlBulkSenderState
  phase : WlBulkPhase
  lastStatus : WlBulkStatusCode
  negotiatedChunkSize : UInt32
  retryCount : UInt16
  maxRetries : UInt16
  actionAcquired : Bool
  chunkAcknowledged : Bool
  retryWait : Bool
deriving Repr, Inhabited, DecidableEq

/-- `interval_valid`. -/
def senderIntervalValid (intervalMs : UInt32) : Bool :=
  intervalMs != 0 && decide (intervalMs < wlBulkMaxInterval)

/-- `wl_bulk_sender_init`. -/
def wlBulkSenderInit (config : WlBulkSenderConfig) : Except WlBulkErr WlBulkSender :=
  if ¬ senderIntervalValid config.statusTimeoutMs ∨ ¬ senderIntervalValid config.busyRetryMs then
    .error .invalidArg
  else
    .ok
      { descriptor := noDescriptor
        stats :=
          { starts := 0, actionsSubmitted := 0, statusesReceived := 0, retries := 0,
            busyResponses := 0, protocolErrors := 0, completed := 0, failed := 0, aborted := 0 }
        nextOffset := 0, actionLength := 0, waitStartedAt := 0, waitIntervalMs := 0
        statusTimeoutMs := config.statusTimeoutMs, busyRetryMs := config.busyRetryMs
        nextToken := 0, acquiredToken := 0, abortReason := 0, state := .idle, phase := .phaseNone
        lastStatus := .ok, negotiatedChunkSize := 0, retryCount := 0
        maxRetries := config.maxRetries, actionAcquired := false, chunkAcknowledged := false
        retryWait := false }

namespace WlBulkSender

/-- Change the statistics. -/
def tally (sender : WlBulkSender) (update : WlBulkSenderStats → WlBulkSenderStats) :
    WlBulkSender :=
  { sender with stats := update sender.stats }

/-- `sender_active`. -/
def active (sender : WlBulkSender) : Bool :=
  sender.state == .ready || sender.state == .waitStatus

/-- The action length `set_action_length` computes. -/
def chunkLength (sender : WlBulkSender) : Nat :=
  if sender.phase ≠ .phaseChunk ∨ sender.nextOffset ≥ sender.descriptor.totalLength then 0
  else
    let remaining := sender.descriptor.totalLength - sender.nextOffset
    if remaining < sender.negotiatedChunkSize.toUInt64 then remaining.toNat
    else sender.negotiatedChunkSize.toNat

/-- `prepare_phase`. -/
def preparePhase (sender : WlBulkSender) (phase : WlBulkPhase) : WlBulkSender :=
  let prepared := { sender with
    phase := phase, state := .ready, actionAcquired := false, acquiredToken := 0, retryCount := 0,
    retryWait := false, waitIntervalMs := 0 }
  { prepared with actionLength := prepared.chunkLength }

/-- `fail_sender`. -/
def failSender (sender : WlBulkSender) (status : WlBulkStatusCode) : WlBulkSender :=
  ({ sender with
      state := .failed, lastStatus := status, actionAcquired := false, acquiredToken := 0,
      retryWait := false, waitIntervalMs := 0 } : WlBulkSender).tally
    fun stats => { stats with failed := counterIncrement stats.failed }

/-- `protocol_failure`, with the code its callers return. -/
def protocolFailure (sender : WlBulkSender) : WlBulkSender × WlBulkErr :=
  ((sender.tally
      fun stats => { stats with protocolErrors := counterIncrement stats.protocolErrors }).failSender
    .invalid, .protocol)

/-- `action_matches`. -/
def actionMatches (sender : WlBulkSender) (action : WlBulkSenderAction) : Bool :=
  action.phase == sender.phase && action.descriptor == sender.descriptor &&
    action.offset == sender.nextOffset && action.length == sender.actionLength &&
    action.abortReason == sender.abortReason

/-- `status_chunk_size_matches`. -/
def statusChunkSizeMatches (sender : WlBulkSender) (status : WlBulkStatus) : Bool :=
  sender.phase == .phaseBegin || status.acceptedChunkSize == sender.negotiatedChunkSize

/-- `proposed_chunk_size_valid`. -/
def proposedChunkSizeValid (sender : WlBulkSender) (chunkSize : UInt32) : Bool :=
  !(chunkSize == 0 || decide (chunkSize > sender.descriptor.requestedChunkSize))

/-- `terminal_status_valid`. -/
def terminalStatusValid (sender : WlBulkSender) (status : WlBulkStatus) : Bool :=
  if status.nextOffset > sender.descriptor.totalLength then false
  else if sender.negotiatedChunkSize ≠ 0 then
    status.acceptedChunkSize == sender.negotiatedChunkSize
  else if status.acceptedChunkSize = 0 then sender.phase == .phaseAbort
  else sender.proposedChunkSizeValid status.acceptedChunkSize

/-- `status_is_stale`. -/
def statusIsStale (sender : WlBulkSender) (status : WlBulkStatus) : Bool :=
  decide (status.phase.value < sender.phase.value) ||
    (sender.phase == .phaseChunk && status.phase == .phaseChunk && status.code == .ok &&
      sender.chunkAcknowledged && decide (status.nextOffset ≤ sender.nextOffset))

/-- `wait_for_retry`. -/
def waitForRetry (sender : WlBulkSender) (nowMs delayMs : UInt32)
    (exhaustedStatus : WlBulkStatusCode) : WlBulkSender :=
  if sender.retryCount ≥ sender.maxRetries then sender.failSender exhaustedStatus
  else { sender with waitStartedAt := nowMs, waitIntervalMs := delayMs, retryWait := true }

/-- The phase after an acknowledged offset. -/
def nextPhase (sender : WlBulkSender) : WlBulkPhase :=
  if sender.nextOffset = sender.descriptor.totalLength then .phaseEnd else .phaseChunk

end WlBulkSender

/-- `wl_bulk_sender_reset`. -/
def wlBulkSenderReset (sender : WlBulkSender) : WlBulkSender × WlBulkErr :=
  if sender.actionAcquired ∨ sender.active ∨
      sender.state = .failed ∧ sender.phase ≠ .phaseAbort then (sender, .busy)
  else
    ({ sender with
        descriptor := noDescriptor, nextOffset := 0, actionLength := 0, waitStartedAt := 0,
        waitIntervalMs := 0, acquiredToken := 0, abortReason := 0, state := .idle,
        phase := .phaseNone, lastStatus := .ok, negotiatedChunkSize := 0, retryCount := 0,
        actionAcquired := false, chunkAcknowledged := false, retryWait := false }, .ok)

/-- `wl_bulk_sender_start`. -/
def wlBulkSenderStart (sender : WlBulkSender) (descriptor : WlBulkDescriptor) :
    WlBulkSender × WlBulkErr :=
  if descriptor.transferId = 0 ∨ descriptor.requestedChunkSize = 0 then (sender, .invalidArg)
  else if sender.state ≠ .idle then (sender, .busy)
  else
    ((({ sender with
          descriptor := descriptor, nextOffset := 0, negotiatedChunkSize := 0,
          chunkAcknowledged := false, abortReason := 0, lastStatus := .ok } :
        WlBulkSender).preparePhase .phaseBegin).tally
      fun stats => { stats with starts := counterIncrement stats.starts }, .ok)

/-- `wl_bulk_sender_request_abort`. -/
def wlBulkSenderRequestAbort (sender : WlBulkSender) (reason : Int32) :
    WlBulkSender × WlBulkErr :=
  if ¬ sender.active ∧ sender.state ≠ .failed ∨ sender.phase = .phaseAbort then
    (sender, .invalidState)
  else if sender.actionAcquired then (sender, .busy)
  else (({ sender with abortReason := reason } : WlBulkSender).preparePhase .phaseAbort, .ok)

/-- `next_token`. -/
def bulkNextToken (token : UInt32) : UInt32 :=
  if token + 1 = 0 then 1 else token + 1

/-- `wl_bulk_sender_action_acquire`. -/
def wlBulkSenderActionAcquire (sender : WlBulkSender) :
    WlBulkSender × Except WlBulkErr WlBulkSenderAction :=
  if sender.state ≠ .ready then (sender, .error .notFound)
  else if sender.actionAcquired then (sender, .error .busy)
  else
    let token := bulkNextToken sender.nextToken
    ({ sender with nextToken := token, acquiredToken := token, actionAcquired := true },
      .ok
        { phase := sender.phase, descriptor := sender.descriptor, offset := sender.nextOffset,
          length := sender.actionLength, abortReason := sender.abortReason, token := token })

/-- The tests `wl_bulk_sender_action_defer` and `wl_bulk_sender_action_submitted` share. -/
def actionRefusal (sender : WlBulkSender) (action : WlBulkSenderAction) : Option WlBulkErr :=
  if sender.state ≠ .ready ∨ ¬ sender.actionAcquired ∨ action.token ≠ sender.acquiredToken then
    some .invalidState
  else if ¬ sender.actionMatches action then some .invalidArg
  else none

/-- `wl_bulk_sender_action_defer`. -/
def wlBulkSenderActionDefer (sender : WlBulkSender) (action : WlBulkSenderAction) :
    WlBulkSender × WlBulkErr :=
  match actionRefusal sender action with
  | some err => (sender, err)
  | none => ({ sender with actionAcquired := false, acquiredToken := 0 }, .ok)

/-- `wl_bulk_sender_action_submitted`. -/
def wlBulkSenderActionSubmitted (sender : WlBulkSender) (action : WlBulkSenderAction)
    (nowMs : UInt32) : WlBulkSender × WlBulkErr :=
  match actionRefusal sender action with
  | some err => (sender, err)
  | none =>
    (({ sender with
        actionAcquired := false, acquiredToken := 0, state := .waitStatus,
        waitStartedAt := nowMs, waitIntervalMs := sender.statusTimeoutMs, retryWait := false } :
      WlBulkSender).tally
      fun stats => { stats with actionsSubmitted := counterIncrement stats.actionsSubmitted },
      .ok)

/-- The status is counted and remembered. -/
def statusReceived (sender : WlBulkSender) (status : WlBulkStatus) : WlBulkSender :=
  ({ sender with lastStatus := status.code } : WlBulkSender).tally
    fun stats => { stats with statusesReceived := counterIncrement stats.statusesReceived }

/-- The transfer was aborted by the peer. -/
def senderAborted (sender : WlBulkSender) : WlBulkSender :=
  ({ sender with state := .aborted } : WlBulkSender).tally
    fun stats => { stats with aborted := counterIncrement stats.aborted }

/-- The branch of `wl_bulk_sender_on_status` for an abort or a timeout reported by the receiver,
which is accepted in every phase. -/
def onTerminalStatus (sender : WlBulkSender) (status : WlBulkStatus) : WlBulkSender × WlBulkErr :=
  if ¬ sender.terminalStatusValid status then sender.protocolFailure
  else
    let received := { statusReceived sender status with
      nextOffset := status.nextOffset, waitIntervalMs := 0 }
    if status.code = .aborted then (senderAborted received, .ok)
    else (({ received with phase := .phaseAbort } : WlBulkSender).failSender status.code, .ok)

/-- The `OUT_OF_ORDER` branch: the sender rewinds to the receiver's offset. -/
def onOutOfOrder (sender : WlBulkSender) (status : WlBulkStatus) : WlBulkSender × WlBulkErr :=
  if status.nextOffset > sender.descriptor.totalLength ∨
      sender.phase = .phaseBegin ∧ ¬ sender.proposedChunkSizeValid status.acceptedChunkSize ∨
      sender.phase = .phaseChunk ∧ status.acceptedChunkSize ≠ sender.negotiatedChunkSize ∨
      sender.phase ≠ .phaseBegin ∧ sender.phase ≠ .phaseChunk then sender.protocolFailure
  else
    let rewound : WlBulkSender := { sender with
      negotiatedChunkSize :=
        if sender.phase = .phaseBegin then status.acceptedChunkSize
        else sender.negotiatedChunkSize
      nextOffset := status.nextOffset, chunkAcknowledged := false }
    (rewound.preparePhase rewound.nextPhase, .ok)

/-- The switch of `wl_bulk_sender_on_status` over the phase an `OK` status answers. -/
def onOkStatus (sender : WlBulkSender) (status : WlBulkStatus) : WlBulkSender × WlBulkErr :=
  match sender.phase with
  | .phaseBegin =>
    if ¬ sender.proposedChunkSizeValid status.acceptedChunkSize ∨
        status.nextOffset > sender.descriptor.totalLength then sender.protocolFailure
    else
      let begun := { sender with
        negotiatedChunkSize := status.acceptedChunkSize, nextOffset := status.nextOffset }
      (begun.preparePhase begun.nextPhase, .ok)
  | .phaseChunk =>
    if status.nextOffset ≠ sender.nextOffset + UInt64.ofNat sender.actionLength ∨
        status.nextOffset > sender.descriptor.totalLength then sender.protocolFailure
    else
      let advanced := { sender with nextOffset := status.nextOffset, chunkAcknowledged := true }
      (advanced.preparePhase advanced.nextPhase, .ok)
  | .phaseEnd =>
    if status.nextOffset ≠ sender.descriptor.totalLength then sender.protocolFailure
    else
      (({ sender with
          nextOffset := status.nextOffset, state := .completed, waitIntervalMs := 0 } :
        WlBulkSender).tally
        fun stats => { stats with completed := counterIncrement stats.completed }, .ok)
  | .phaseAbort =>
    (senderAborted { sender with nextOffset := status.nextOffset, waitIntervalMs := 0 }, .ok)
  | .phaseNone => sender.protocolFailure

/-- The part of `wl_bulk_sender_on_status` that answers a current status by its code. -/
def onCurrentStatus (sender : WlBulkSender) (status : WlBulkStatus) (nowMs : UInt32) :
    WlBulkSender × WlBulkErr :=
  match status.code with
  | .busy =>
    if status.nextOffset ≠ sender.nextOffset then sender.protocolFailure
    else
      ((sender.tally
          fun stats =>
            { stats with busyResponses := counterIncrement stats.busyResponses }).waitForRetry
        nowMs sender.busyRetryMs .busy, .ok)
  | .outOfOrder => onOutOfOrder sender status
  | .ok => onOkStatus sender status
  | .aborted => (senderAborted sender, .ok)
  | code => (sender.failSender code, .ok)

/-- `wl_bulk_sender_on_status`. -/
def wlBulkSenderOnStatus (sender : WlBulkSender) (status : WlBulkStatus) (nowMs : UInt32) :
    WlBulkSender × WlBulkErr :=
  if status.phase = .phaseNone ∨ status.code = .unknown then (sender, .invalidArg)
  else if status.transferId ≠ sender.descriptor.transferId then (sender, .notFound)
  else if sender.state ≠ .waitStatus ∨ sender.retryWait then (sender, .invalidState)
  else if status.phase = .phaseAbort ∧ (status.code = .aborted ∨ status.code = .timedOut) then
    onTerminalStatus sender status
  else if sender.statusIsStale status then (sender, .notFound)
  else if status.phase ≠ sender.phase ∨ ¬ sender.statusChunkSizeMatches status then
    sender.protocolFailure
  else onCurrentStatus (statusReceived sender status) status nowMs

/-- The action is handed out again. -/
def retryAction (sender : WlBulkSender) : WlBulkSender :=
  ({ sender with
      retryCount := sender.retryCount + 1, state := .ready, retryWait := false,
      waitIntervalMs := 0 } : WlBulkSender).tally
    fun stats => { stats with retries := counterIncrement stats.retries }

/-- `wl_bulk_sender_poll`. -/
def wlBulkSenderPoll (sender : WlBulkSender) (nowMs : UInt32) : WlBulkSender :=
  if sender.state ≠ .waitStatus ∨ nowMs - sender.waitStartedAt < sender.waitIntervalMs then sender
  else if sender.retryWait then retryAction sender
  else
    let waiting := sender.waitForRetry nowMs 0 .timedOut
    if waiting.state = .failed then waiting else retryAction waiting

end Wirelink
