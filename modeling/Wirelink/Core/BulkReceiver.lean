/-
Module: Wirelink.Core.BulkReceiver
Purpose: The receiving half of a bulk transfer: one session with its sink, the record a finished
  session leaves behind, and the one status that waits to be published. The answer of the sink is an
  argument of each input that may call it, and the calls are kept in a trace, newest first. A value
  of WlBulkReceiver is what a successful init has built.
Trusted boundary: the translation of src/bulk_receiver.c
-/
import Wirelink.Core.Bulk

namespace Wirelink

/-- `wl_bulk_receiver_state_t`. -/
inductive WlBulkReceiverState where
  | idle
  | receiving
  | completed
  | failed
  | aborted
deriving Repr, Inhabited, DecidableEq

/-- `wl_bulk_receiver_config_t`; the four callbacks of its sink are always there. -/
structure WlBulkReceiverConfig where
  maxObjectLength : UInt64
  maxChunkSize : UInt32
  writeAlignment : UInt32
  idleTimeoutMs : UInt32
deriving Repr, Inhabited, DecidableEq

/-- `wl_bulk_receiver_stats_t`. -/
structure WlBulkReceiverStats where
  begins : UInt32
  chunks : UInt32
  bytesWritten : UInt32
  duplicateMessages : UInt32
  busyResponses : UInt32
  protocolErrors : UInt32
  writeFailures : UInt32
  integrityFailures : UInt32
  aborts : UInt32
  timeouts : UInt32
deriving Repr, Inhabited, DecidableEq

/-- `wl_bulk_receiver_status_view_t`. -/
structure WlBulkReceiverStatusView where
  status : WlBulkStatus
  token : UInt32
deriving Repr, Inhabited, DecidableEq

/-- `wl_bulk_receiver_impl_t`, with the trace of sink calls. -/
structure WlBulkReceiver where
  config : WlBulkReceiverConfig
  descriptor : WlBulkDescriptor
  pendingStatus : WlBulkStatus
  stats : WlBulkReceiverStats
  nextOffset : UInt64
  lastActivityMs : UInt32
  statusToken : UInt32
  acceptedChunkSize : UInt32
  state : WlBulkReceiverState
  terminalCode : WlBulkStatusCode
  terminalPhase : WlBulkPhase
  statusPending : Bool
  statusAcquired : Bool
  sinkActive : Bool
  calls : List BulkSinkCall
deriving Repr, Inhabited, DecidableEq

/-- `power_of_two`. -/
def powerOfTwo (value : UInt32) : Bool :=
  value != 0 && (value &&& (value - 1)) == 0

/-- `wl_bulk_receiver_init`. -/
def wlBulkReceiverInit (config : WlBulkReceiverConfig) : Except WlBulkErr WlBulkReceiver :=
  if config.maxObjectLength = 0 ∨ config.maxChunkSize = 0 ∨ ¬ powerOfTwo config.writeAlignment ∨
      config.maxChunkSize < config.writeAlignment ∨
      ¬ config.idleTimeoutMs < wlBulkMaxInterval then .error .invalidArg
  else
    .ok
      { config := config, descriptor := noDescriptor, pendingStatus := noStatus
        stats :=
          { begins := 0, chunks := 0, bytesWritten := 0, duplicateMessages := 0,
            busyResponses := 0, protocolErrors := 0, writeFailures := 0, integrityFailures := 0,
            aborts := 0, timeouts := 0 }
        nextOffset := 0, lastActivityMs := 0, statusToken := 0, acceptedChunkSize := 0
        state := .idle, terminalCode := .ok, terminalPhase := .phaseNone, statusPending := false
        statusAcquired := false, sinkActive := false, calls := [] }

namespace WlBulkReceiver

/-- Change the statistics. -/
def tally (receiver : WlBulkReceiver) (update : WlBulkReceiverStats → WlBulkReceiverStats) :
    WlBulkReceiver :=
  { receiver with stats := update receiver.stats }

/-- Add one sink call to the trace. -/
def called (receiver : WlBulkReceiver) (call : BulkSinkCall) : WlBulkReceiver :=
  { receiver with calls := call :: receiver.calls }

/-- The session saw a message. -/
def active (receiver : WlBulkReceiver) (nowMs : UInt32) : WlBulkReceiver :=
  { receiver with lastActivityMs := nowMs }

/-- `retain_status`. -/
def retainStatus (receiver : WlBulkReceiver) (transferId : UInt32) (phase : WlBulkPhase)
    (code : WlBulkStatusCode) (nextOffset : UInt64) (acceptedChunkSize : UInt32) :
    WlBulkReceiver :=
  { receiver with
    pendingStatus :=
      { transferId := transferId, phase := phase, code := code, nextOffset := nextOffset,
        acceptedChunkSize := acceptedChunkSize }
    statusToken := if receiver.statusToken + 1 = 0 then 1 else receiver.statusToken + 1
    statusPending := true
    statusAcquired := false }

/-- `retain_status` with the offset and the chunk size of the record. -/
def answer (receiver : WlBulkReceiver) (transferId : UInt32) (phase : WlBulkPhase)
    (code : WlBulkStatusCode) : WlBulkReceiver :=
  receiver.retainStatus transferId phase code receiver.nextOffset receiver.acceptedChunkSize

/-- `stats.protocol_errors` is counted, as `reject_protocol` does. -/
def countProtocolError (receiver : WlBulkReceiver) : WlBulkReceiver :=
  receiver.tally fun stats =>
    { stats with protocolErrors := counterIncrement stats.protocolErrors }

/-- `stats.duplicate_messages` is counted. -/
def countDuplicate (receiver : WlBulkReceiver) : WlBulkReceiver :=
  receiver.tally fun stats =>
    { stats with duplicateMessages := counterIncrement stats.duplicateMessages }

/-- `stats.busy_responses` is counted. -/
def countBusy (receiver : WlBulkReceiver) : WlBulkReceiver :=
  receiver.tally fun stats =>
    { stats with busyResponses := counterIncrement stats.busyResponses }

/-- `active_next_offset`. -/
def activeNextOffset (receiver : WlBulkReceiver) : UInt64 :=
  if receiver.state = .idle then 0 else receiver.nextOffset

/-- `active_chunk_size`. -/
def activeChunkSize (receiver : WlBulkReceiver) : UInt32 :=
  if receiver.state = .idle then 0 else receiver.acceptedChunkSize

/-- `reject_protocol` with the code `INVALID`, the offset and the chunk size of an active record. -/
def rejectInvalid (receiver : WlBulkReceiver) (transferId : UInt32) (phase : WlBulkPhase) :
    WlBulkReceiver :=
  receiver.countProtocolError.retainStatus transferId phase .invalid receiver.activeNextOffset
    receiver.activeChunkSize

/-- `reject_protocol` with the offset and the chunk size of the record. -/
def reject (receiver : WlBulkReceiver) (transferId : UInt32) (phase : WlBulkPhase)
    (code : WlBulkStatusCode) : WlBulkReceiver :=
  receiver.countProtocolError.answer transferId phase code

/-- `negotiate_chunk_size`. -/
def negotiateChunkSize (receiver : WlBulkReceiver) (descriptor : WlBulkDescriptor) :
    Option UInt32 :=
  if descriptor.transferId = 0 ∨ descriptor.totalLength > receiver.config.maxObjectLength ∨
      descriptor.requestedChunkSize = 0 then none
  else
    let limit := min descriptor.requestedChunkSize receiver.config.maxChunkSize
    let accepted := limit - limit % receiver.config.writeAlignment
    if accepted = 0 then
      -- a chunk below the alignment can only be the sole, final span
      if descriptor.totalLength > limit.toUInt64 then none else some limit
    else some accepted

/-- `resume_offset_valid`. -/
def resumeOffsetValid (receiver : WlBulkReceiver) (resumeOffset : UInt64) : Bool :=
  decide (resumeOffset ≤ receiver.descriptor.totalLength) &&
    (resumeOffset == receiver.descriptor.totalLength ||
      resumeOffset % receiver.config.writeAlignment.toUInt64 == 0)

/-- The statistics of `sink_failure_code`. -/
def countFailure (receiver : WlBulkReceiver) (result : WlBulkSinkResult) : WlBulkReceiver :=
  match result with
  | .integrityFailed =>
    receiver.tally fun stats =>
      { stats with integrityFailures := counterIncrement stats.integrityFailures }
  | .invalid => receiver
  | _ =>
    receiver.tally fun stats =>
      { stats with writeFailures := counterIncrement stats.writeFailures }

/-- `enter_failure`. -/
def enterFailure (receiver : WlBulkReceiver) (phase : WlBulkPhase) (code : WlBulkStatusCode) :
    WlBulkReceiver :=
  { receiver with state := .failed, terminalPhase := phase, terminalCode := code }

/-- `release_sink`, and the same three lines where they stand alone. -/
def releaseSink (receiver : WlBulkReceiver) (reason : Int32) : WlBulkReceiver :=
  if receiver.sinkActive then
    { receiver.called (.aborted receiver.descriptor.transferId reason) with sinkActive := false }
  else receiver

/-- `clear_session`. -/
def clearSession (receiver : WlBulkReceiver) (reason : Int32) : WlBulkReceiver :=
  { receiver.releaseSink reason with
    descriptor := noDescriptor, nextOffset := 0, lastActivityMs := 0, acceptedChunkSize := 0,
    state := .idle, terminalCode := .ok, terminalPhase := .phaseNone }

/-- `stats.aborts` is counted. -/
def countAbort (receiver : WlBulkReceiver) : WlBulkReceiver :=
  receiver.tally fun stats => { stats with aborts := counterIncrement stats.aborts }

/-- `retain_abort_tombstone`. -/
def retainAbortTombstone (receiver : WlBulkReceiver) (transferId : UInt32) (nowMs : UInt32) :
    WlBulkReceiver :=
  (({ receiver.clearSession WlBulkErr.invalidState.code with
      descriptor := { noDescriptor with transferId := transferId }
      lastActivityMs := nowMs
      state := .aborted
      terminalPhase := .phaseAbort
      terminalCode := .aborted } : WlBulkReceiver).countAbort).retainStatus
    transferId .phaseAbort .aborted 0 0

/-- `terminal_status_code`. -/
def terminalStatusCode (receiver : WlBulkReceiver) : WlBulkStatusCode :=
  match receiver.state with
  | .completed => .ok
  | .aborted => .aborted
  | _ => receiver.terminalCode

/-- `chunk_shape_valid`; the answer is the end of the chunk. -/
def chunkShapeValid (receiver : WlBulkReceiver) (chunk : WlBulkChunk) : Option UInt64 :=
  let length := UInt64.ofNat chunk.data.length
  let alignment := receiver.config.writeAlignment.toUInt64
  if chunk.transferId = 0 ∨ chunk.data.isNull ∨ chunk.data.length = 0 ∨
      chunk.data.length > receiver.acceptedChunkSize.toNat then none
  else if chunk.offset > 0xFFFFFFFFFFFFFFFF - length then none
  else
    let finish := chunk.offset + length
    if finish > receiver.descriptor.totalLength ∨ chunk.offset % alignment ≠ 0 then none
    else if finish ≠ receiver.descriptor.totalLength ∧ length % alignment ≠ 0 then none
    else some finish

end WlBulkReceiver

/-- The code of `sink_failure_code`. -/
def sinkFailureCode : WlBulkSinkResult → WlBulkStatusCode
  | .integrityFailed => .integrityFailed
  | .invalid => .invalid
  | _ => .writeFailed

/-- `wl_bulk_receiver_reset`. -/
def wlBulkReceiverReset (receiver : WlBulkReceiver) : WlBulkReceiver × WlBulkErr :=
  if receiver.statusAcquired then (receiver, .busy)
  else
    ({ receiver.clearSession WlBulkErr.invalidState.code with
        pendingStatus := noStatus, statusPending := false, statusAcquired := false }, .ok)

/-- The end of `wl_bulk_receiver_on_begin`: what the receiver does with the answer of its sink. -/
def beginAnswered (receiver : WlBulkReceiver) (descriptor : WlBulkDescriptor)
    (acceptedChunkSize : UInt32) (nowMs : UInt32) (result : WlBulkSinkResult)
    (resumeOffset : UInt64) : WlBulkReceiver :=
  let receiver := receiver.called (.begun descriptor resumeOffset result)
  if result = .busy then
    receiver.countBusy.retainStatus descriptor.transferId .phaseBegin .busy 0 acceptedChunkSize
  else
    let opened := { receiver with
      descriptor := descriptor, acceptedChunkSize := acceptedChunkSize, lastActivityMs := nowMs,
      sinkActive := true }
    if result = .ok then
      if ¬ opened.resumeOffsetValid resumeOffset then
        (opened.enterFailure .phaseBegin .invalid).retainStatus descriptor.transferId .phaseBegin
          .invalid 0 acceptedChunkSize
      else
        (({ opened with nextOffset := resumeOffset, state := .receiving } : WlBulkReceiver).tally
          fun stats => { stats with begins := counterIncrement stats.begins }).retainStatus
            descriptor.transferId .phaseBegin .ok resumeOffset acceptedChunkSize
    else
      ((opened.countFailure result).enterFailure .phaseBegin (sinkFailureCode result)).retainStatus
        descriptor.transferId .phaseBegin (sinkFailureCode result) 0 acceptedChunkSize

/-- `wl_bulk_receiver_on_begin`. The answer of the sink comes with the resume offset it stored,
zero if it stored none. -/
def wlBulkReceiverOnBegin (receiver : WlBulkReceiver) (descriptor : WlBulkDescriptor)
    (nowMs : UInt32) (result : WlBulkSinkResult) (resumeOffset : UInt64) :
    WlBulkReceiver × WlBulkErr :=
  if receiver.statusPending then (receiver, .busy)
  else
    match receiver.negotiateChunkSize descriptor with
    | none => (receiver.rejectInvalid descriptor.transferId .phaseBegin, .ok)
    | some acceptedChunkSize =>
      if receiver.state ≠ .idle ∧ receiver.descriptor = descriptor then
        let seen := if receiver.state = .receiving then receiver.active nowMs else receiver
        (seen.countDuplicate.answer descriptor.transferId .phaseBegin
          receiver.terminalStatusCode, .ok)
      else if receiver.state = .receiving ∨
          receiver.state ≠ .idle ∧ descriptor.transferId = receiver.descriptor.transferId then
        (receiver.reject descriptor.transferId .phaseBegin .conflict, .ok)
      else
        -- the old record stays until the new sink has accepted or rejected Begin
        let ready := if receiver.state ≠ .idle then
          receiver.releaseSink WlBulkErr.invalidState.code else receiver
        (beginAnswered ready descriptor acceptedChunkSize nowMs result resumeOffset, .ok)

/-- The end of `wl_bulk_receiver_on_chunk`: what the receiver does with the answer of its sink. -/
def chunkAnswered (receiver : WlBulkReceiver) (chunk : WlBulkChunk) (finish : UInt64)
    (nowMs : UInt32) (result : WlBulkSinkResult) : WlBulkReceiver :=
  let receiver := (receiver.called
    (.written chunk.transferId chunk.offset chunk.data.data result)).active nowMs
  if result = .busy then receiver.countBusy.answer chunk.transferId .phaseChunk .busy
  else if result = .ok then
    (({ receiver with nextOffset := finish } : WlBulkReceiver).tally
      fun stats =>
        { stats with
          chunks := counterIncrement stats.chunks
          bytesWritten :=
            counterAdd stats.bytesWritten (UInt32.ofNat chunk.data.length) }).answer
      chunk.transferId .phaseChunk .ok
  else
    ((receiver.countFailure result).enterFailure .phaseChunk (sinkFailureCode result)).answer
      chunk.transferId .phaseChunk (sinkFailureCode result)

/-- `wl_bulk_receiver_on_chunk`. -/
def wlBulkReceiverOnChunk (receiver : WlBulkReceiver) (chunk : WlBulkChunk) (nowMs : UInt32)
    (result : WlBulkSinkResult) : WlBulkReceiver × WlBulkErr :=
  if receiver.statusPending then (receiver, .busy)
  else if chunk.transferId = 0 ∨ chunk.data.isNull ∨ chunk.data.length = 0 then
    (receiver.rejectInvalid chunk.transferId .phaseChunk, .ok)
  else if receiver.state = .idle then
    (receiver.countProtocolError.retainStatus chunk.transferId .phaseChunk .outOfOrder 0 0, .ok)
  else if chunk.transferId ≠ receiver.descriptor.transferId then
    (receiver.reject chunk.transferId .phaseChunk .conflict, .ok)
  else
    match receiver.chunkShapeValid chunk with
    | none => (receiver.reject chunk.transferId .phaseChunk .invalid, .ok)
    | some finish =>
      if finish ≤ receiver.nextOffset then
        ((receiver.active nowMs).countDuplicate.answer chunk.transferId .phaseChunk
          receiver.terminalStatusCode, .ok)
      else if chunk.offset ≠ receiver.nextOffset then
        (receiver.reject chunk.transferId .phaseChunk .outOfOrder, .ok)
      else if receiver.state ≠ .receiving then
        (receiver.answer chunk.transferId .phaseChunk receiver.terminalStatusCode, .ok)
      else (chunkAnswered receiver chunk finish nowMs result, .ok)

/-- The end of `wl_bulk_receiver_on_end`: what the receiver does with the answer of its sink. -/
def endAnswered (receiver : WlBulkReceiver) (transferId : UInt32) (nowMs : UInt32)
    (result : WlBulkSinkResult) : WlBulkReceiver :=
  let receiver := (receiver.called (.finished receiver.descriptor result)).active nowMs
  if result = .busy then receiver.countBusy.answer transferId .phaseEnd .busy
  else if result = .ok then
    ({ receiver with
        state := .completed, terminalPhase := .phaseEnd, terminalCode := .ok,
        sinkActive := false } : WlBulkReceiver).answer transferId .phaseEnd .ok
  else
    ((receiver.countFailure result).enterFailure .phaseEnd (sinkFailureCode result)).answer
      transferId .phaseEnd (sinkFailureCode result)

/-- `wl_bulk_receiver_on_end`. -/
def wlBulkReceiverOnEnd (receiver : WlBulkReceiver) (transferId : UInt32) (totalLength : UInt64)
    (objectCrc32c : UInt32) (nowMs : UInt32) (result : WlBulkSinkResult) :
    WlBulkReceiver × WlBulkErr :=
  if receiver.statusPending then (receiver, .busy)
  else if transferId = 0 then (receiver.rejectInvalid transferId .phaseEnd, .ok)
  else if receiver.state = .idle then
    (receiver.countProtocolError.retainStatus transferId .phaseEnd .outOfOrder 0 0, .ok)
  else if transferId ≠ receiver.descriptor.transferId ∨
      totalLength ≠ receiver.descriptor.totalLength ∨
      objectCrc32c ≠ receiver.descriptor.objectCrc32c then
    (receiver.reject transferId .phaseEnd .conflict, .ok)
  else if receiver.state = .completed ∨
      receiver.state = .failed ∧ receiver.terminalPhase = .phaseEnd then
    ((receiver.active nowMs).countDuplicate.answer transferId .phaseEnd
      receiver.terminalStatusCode, .ok)
  else if receiver.state ≠ .receiving then
    (receiver.answer transferId .phaseEnd receiver.terminalStatusCode, .ok)
  else if receiver.nextOffset ≠ receiver.descriptor.totalLength then
    (receiver.reject transferId .phaseEnd .outOfOrder, .ok)
  else (endAnswered receiver transferId nowMs result, .ok)

/-- `wl_bulk_receiver_on_abort`. -/
def wlBulkReceiverOnAbort (receiver : WlBulkReceiver) (transferId : UInt32) (reason : Int32)
    (nowMs : UInt32) : WlBulkReceiver × WlBulkErr :=
  if receiver.statusPending then (receiver, .busy)
  else if transferId = 0 then (receiver.rejectInvalid transferId .phaseAbort, .ok)
  else if receiver.state = .idle ∨
      receiver.state ≠ .receiving ∧ transferId ≠ receiver.descriptor.transferId then
    (receiver.retainAbortTombstone transferId nowMs, .ok)
  else if transferId ≠ receiver.descriptor.transferId then
    (receiver.reject transferId .phaseAbort .conflict, .ok)
  else if receiver.state = .aborted then
    ((receiver.active nowMs).countDuplicate.answer transferId .phaseAbort .aborted, .ok)
  else if receiver.state = .completed then
    (receiver.reject transferId .phaseAbort .conflict, .ok)
  else
    ((({ receiver.releaseSink reason with
          lastActivityMs := nowMs, state := .aborted, terminalPhase := .phaseAbort,
          terminalCode := .aborted } : WlBulkReceiver).countAbort).answer
      transferId .phaseAbort .aborted, .ok)

/-- `wl_bulk_receiver_status_acquire`. -/
def wlBulkReceiverStatusAcquire (receiver : WlBulkReceiver) :
    WlBulkReceiver × Except WlBulkErr WlBulkReceiverStatusView :=
  if ¬ receiver.statusPending then (receiver, .error .notFound)
  else if receiver.statusAcquired then (receiver, .error .busy)
  else
    ({ receiver with statusAcquired := true },
      .ok { status := receiver.pendingStatus, token := receiver.statusToken })

/-- `status_view_matches`. -/
def statusViewMatches (receiver : WlBulkReceiver) (view : WlBulkReceiverStatusView) : Bool :=
  receiver.statusPending && receiver.statusAcquired && view.token == receiver.statusToken &&
    view.status == receiver.pendingStatus

/-- `wl_bulk_receiver_status_defer`. -/
def wlBulkReceiverStatusDefer (receiver : WlBulkReceiver) (view : WlBulkReceiverStatusView) :
    WlBulkReceiver × WlBulkErr :=
  if ¬ statusViewMatches receiver view then (receiver, .invalidState)
  else ({ receiver with statusAcquired := false }, .ok)

/-- `wl_bulk_receiver_status_release`. -/
def wlBulkReceiverStatusRelease (receiver : WlBulkReceiver) (view : WlBulkReceiverStatusView) :
    WlBulkReceiver × WlBulkErr :=
  if ¬ statusViewMatches receiver view then (receiver, .invalidState)
  else ({ receiver with statusPending := false, statusAcquired := false }, .ok)

/-- `wl_bulk_receiver_poll`. -/
def wlBulkReceiverPoll (receiver : WlBulkReceiver) (nowMs : UInt32) : WlBulkReceiver :=
  if receiver.state ≠ .receiving ∨ receiver.config.idleTimeoutMs = 0 ∨ receiver.statusPending ∨
      nowMs - receiver.lastActivityMs < receiver.config.idleTimeoutMs then receiver
  else
    (((receiver.releaseSink WlBulkErr.timeout.code).enterFailure .phaseAbort .timedOut).tally
      fun stats => { stats with timeouts := counterIncrement stats.timeouts }).answer
        receiver.descriptor.transferId .phaseAbort .timedOut

end Wirelink
