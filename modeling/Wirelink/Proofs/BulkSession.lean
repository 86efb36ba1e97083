/-
Module: Wirelink.Proofs.BulkSession
Purpose: What one call of a bulk receiver can do to its session, said once: every call makes one of
  a few moves, each named with its guards, and every status it retains reports the record.
Trusted boundary: none
-/
import Mathlib.Tactic.Common
import Wirelink.Spec.BulkSink

namespace Wirelink

/-! ### Sessions

The session is what sink and peer can tell of a receiver. Results about whole runs are proved once
per move of the session, not once per call. -/

/-- The part of a receiver its sink and its peer can tell. -/
structure BulkSession where
  descriptor : WlBulkDescriptor
  nextOffset : UInt64
  acceptedChunkSize : UInt32
  state : WlBulkReceiverState
  terminalCode : WlBulkStatusCode
  sinkActive : Bool
  calls : List BulkSinkCall

/-- The session of a receiver. -/
def WlBulkReceiver.session (receiver : WlBulkReceiver) : BulkSession :=
  { descriptor := receiver.descriptor, nextOffset := receiver.nextOffset,
    acceptedChunkSize := receiver.acceptedChunkSize, state := receiver.state,
    terminalCode := receiver.terminalCode, sinkActive := receiver.sinkActive,
    calls := receiver.calls }

namespace BulkSession

/-- One more call of the sink. -/
def called (session : BulkSession) (call : BulkSinkCall) : BulkSession :=
  { session with calls := call :: session.calls }

/-- The sink, if it is in use, is told to abort. -/
def released (session : BulkSession) (reason : Int32) : BulkSession :=
  if session.sinkActive then
    { session.called (.aborted session.descriptor.transferId reason) with sinkActive := false }
  else session

/-- What a Begin does before it calls the sink. -/
def vacated (session : BulkSession) : BulkSession :=
  if session.state ≠ .idle then session.released WlBulkErr.invalidState.code else session

end BulkSession

@[simp] theorem released_fields (session : BulkSession) (reason : Int32) :
    (session.released reason).descriptor = session.descriptor ∧
      (session.released reason).nextOffset = session.nextOffset ∧
      (session.released reason).acceptedChunkSize = session.acceptedChunkSize ∧
      (session.released reason).state = session.state := by
  unfold BulkSession.released
  split <;> exact ⟨rfl, rfl, rfl, rfl⟩

@[simp] theorem vacated_fields (session : BulkSession) :
    session.vacated.descriptor = session.descriptor ∧
      session.vacated.nextOffset = session.nextOffset ∧
      session.vacated.acceptedChunkSize = session.acceptedChunkSize ∧
      session.vacated.state = session.state := by
  unfold BulkSession.vacated
  split
  · exact released_fields session _
  · exact ⟨rfl, rfl, rfl, rfl⟩

/-- The sink of a running session was asked to write or to finish, and gave its answer. -/
inductive SinkAsked (receiver : WlBulkReceiver) :
    ReceiverOp → WlBulkSinkResult → BulkSinkCall → Prop where
  | write {chunk : WlBulkChunk} (nowMs : UInt32) (result : WlBulkSinkResult) {finish : UInt64}
      (receiving : receiver.state = .receiving) (next : chunk.offset = receiver.nextOffset)
      (valid : receiver.chunkShapeValid chunk = some finish) :
      SinkAsked receiver (.onChunk chunk nowMs result) result
        (.written receiver.descriptor.transferId receiver.nextOffset chunk.data.data result)
  | finish {totalLength : UInt64} {objectCrc32c : UInt32} (nowMs : UInt32)
      (result : WlBulkSinkResult) (receiving : receiver.state = .receiving)
      (complete : receiver.nextOffset = receiver.descriptor.totalLength) :
      SinkAsked receiver
        (.onEnd receiver.descriptor.transferId totalLength objectCrc32c nowMs result) result
        (.finished receiver.descriptor result)

theorem SinkAsked.receiving {receiver : WlBulkReceiver} {op : ReceiverOp}
    {result : WlBulkSinkResult} {call : BulkSinkCall} (asked : SinkAsked receiver op result call) :
    receiver.state = .receiving := by
  cases asked with
  | write nowMs result receiving | finish nowMs result receiving => exact receiving

/-- What one call of a receiver does to its session. -/
inductive SessionMove (receiver : WlBulkReceiver) : ReceiverOp → BulkSession → Prop where
  | kept (op : ReceiverOp) : SessionMove receiver op receiver.session
  | beginBusy {descriptor : WlBulkDescriptor} (nowMs : UInt32) (resumeOffset : UInt64)
      (admitted : receiver.admits descriptor) :
      SessionMove receiver (.onBegin descriptor nowMs .busy resumeOffset)
        (receiver.session.vacated.called (.begun descriptor resumeOffset .busy))
  | beginFailed {descriptor : WlBulkDescriptor} (nowMs : UInt32) {result : WlBulkSinkResult}
      {resumeOffset : UInt64} {acceptedChunkSize : UInt32} (admitted : receiver.admits descriptor)
      (negotiated : receiver.config.negotiated descriptor = some acceptedChunkSize)
      (notBusy : result ≠ .busy)
      (refused : result = .ok → ¬ receiver.config.Resumable descriptor resumeOffset) :
      SessionMove receiver (.onBegin descriptor nowMs result resumeOffset)
        { receiver.session.vacated.called (.begun descriptor resumeOffset result) with
          descriptor := descriptor, acceptedChunkSize := acceptedChunkSize, state := .failed,
          terminalCode := if result = .ok then .invalid else sinkFailureCode result,
          sinkActive := true }
  | begun {descriptor : WlBulkDescriptor} (nowMs : UInt32) {resumeOffset : UInt64}
      {acceptedChunkSize : UInt32} (admitted : receiver.admits descriptor)
      (negotiated : receiver.config.negotiated descriptor = some acceptedChunkSize)
      (resumable : receiver.config.Resumable descriptor resumeOffset) :
      SessionMove receiver (.onBegin descriptor nowMs .ok resumeOffset)
        { receiver.session.vacated.called (.begun descriptor resumeOffset .ok) with
          descriptor := descriptor, nextOffset := resumeOffset,
          acceptedChunkSize := acceptedChunkSize, state := .receiving, sinkActive := true }
  | waited {op : ReceiverOp} {call : BulkSinkCall} (asked : SinkAsked receiver op .busy call) :
      SessionMove receiver op (receiver.session.called call)
  | broke {op : ReceiverOp} {result : WlBulkSinkResult} {call : BulkSinkCall}
      (asked : SinkAsked receiver op result call) (notBusy : result ≠ .busy)
      (notOk : result ≠ .ok) :
      SessionMove receiver op
        { receiver.session.called call with
          state := .failed, terminalCode := sinkFailureCode result }
  | wrote {chunk : WlBulkChunk} (nowMs : UInt32) {finish : UInt64}
      (receiving : receiver.state = .receiving) (next : chunk.offset = receiver.nextOffset)
      (valid : receiver.chunkShapeValid chunk = some finish) :
      SessionMove receiver (.onChunk chunk nowMs .ok)
        { receiver.session.called
            (.written receiver.descriptor.transferId receiver.nextOffset chunk.data.data .ok) with
          nextOffset := finish }
  | finished {totalLength : UInt64} {objectCrc32c : UInt32} (nowMs : UInt32)
      (receiving : receiver.state = .receiving)
      (complete : receiver.nextOffset = receiver.descriptor.totalLength) :
      SessionMove receiver
        (.onEnd receiver.descriptor.transferId totalLength objectCrc32c nowMs .ok)
        { receiver.session.called (.finished receiver.descriptor .ok) with
          state := .completed, terminalCode := .ok, sinkActive := false }
  | aborted (reason : Int32) (nowMs : UInt32)
      (running : receiver.state = .receiving ∨ receiver.state = .failed) :
      SessionMove receiver (.onAbort receiver.descriptor.transferId reason nowMs)
        { receiver.session.released reason with state := .aborted, terminalCode := .aborted }
  | tombstone {transferId : UInt32} (reason : Int32) (nowMs : UInt32)
      (ready : receiver.statusPending = false) (nonzero : transferId ≠ 0)
      (past : receiver.state ≠ .receiving)
      (unknown : receiver.state ≠ .idle → transferId ≠ receiver.descriptor.transferId) :
      SessionMove receiver (.onAbort transferId reason nowMs)
        { receiver.session.released WlBulkErr.invalidState.code with
          descriptor := { noDescriptor with transferId := transferId }, nextOffset := 0,
          acceptedChunkSize := 0, state := .aborted, terminalCode := .aborted }
  | timedOut (nowMs : UInt32) (receiving : receiver.state = .receiving) :
      SessionMove receiver (.poll nowMs)
        { receiver.session.released WlBulkErr.timeout.code with
          state := .failed, terminalCode := .timedOut }
  | reset (unread : receiver.statusAcquired = false) :
      SessionMove receiver .reset
        { receiver.session.released WlBulkErr.invalidState.code with
          descriptor := noDescriptor, nextOffset := 0, acceptedChunkSize := 0, state := .idle,
          terminalCode := .ok }

/-- The code of a session that is over, as `terminal_status_code` gives it. -/
def BulkSession.terminalStatusCode (session : BulkSession) : WlBulkStatusCode :=
  match session.state with
  | .completed => .ok
  | .aborted => .aborted
  | _ => session.terminalCode

/-- A code that neither accepts nor ends anything. -/
def WlBulkStatusCode.isPlain : WlBulkStatusCode → Bool
  | .ok | .outOfOrder | .aborted | .timedOut => false
  | _ => true

/-- What the answer to an End says: something is wrong, or it came too early, or the transfer is
over. -/
inductive EndReported (session : BulkSession) : WlBulkStatusCode → Prop where
  | plain {code : WlBulkStatusCode} (plain : code.isPlain = true) : EndReported session code
  | early (state : session.state = .idle ∨ session.state = .receiving ∧
      session.nextOffset ≠ session.descriptor.totalLength) : EndReported session .outOfOrder
  | ended (opened : session.state ≠ .idle) (past : session.state ≠ .receiving) :
      EndReported session session.terminalStatusCode

/-- A status reports the record it was retained for: its offset is the record's or zero, the end
of a transfer comes with the record's own offset and chunk size, and only an open record accepts a
Begin. -/
structure SessionReported (session : BulkSession) (status : WlBulkStatus) : Prop where
  offset : status.nextOffset = 0 ∨ status.nextOffset = session.nextOffset
  ended : status.code = .aborted ∨ status.code = .timedOut →
    status.nextOffset = session.nextOffset ∧
      status.acceptedChunkSize = session.acceptedChunkSize
  opened : status.phase = .phaseBegin → status.code = .ok ∨ status.code = .outOfOrder →
    session.state ≠ .idle
  ending : status.phase = .phaseEnd → EndReported session status.code

/-- The phase the status of a call is about. -/
def ReceiverOp.phase : ReceiverOp → WlBulkPhase
  | .onBegin .. => .phaseBegin
  | .onChunk .. => .phaseChunk
  | .onEnd .. => .phaseEnd
  | _ => .phaseAbort

/-- One call: a move of the session, and a status that was there before or reports the record. -/
structure ReceiverMoves (receiver : WlBulkReceiver) (op : ReceiverOp) (after : WlBulkReceiver) : Prop where
  config : after.config = receiver.config
  session : SessionMove receiver op after.session
  status : after.statusPending = true →
    receiver.statusPending = true ∧ after.pendingStatus = receiver.pendingStatus ∧
        after.session = receiver.session ∨
      SessionReported after.session after.pendingStatus ∧ after.pendingStatus.phase = op.phase

section calls

variable {receiver : WlBulkReceiver} {op : ReceiverOp}

/-! ### The calls

Each call is followed through its branches. Every branch ends in one of the moves, with the status
it retains. -/

theorem ReceiverMoves.refused : ReceiverMoves receiver op receiver :=
  ⟨rfl, .kept op, fun held => .inl ⟨held, rfl, rfl⟩⟩

theorem ReceiverMoves.flagged {after : WlBulkReceiver} (config : after.config = receiver.config)
    (session : after.session = receiver.session)
    (status : after.statusPending = true → receiver.statusPending = true)
    (same : after.pendingStatus = receiver.pendingStatus) : ReceiverMoves receiver op after := by
  refine ⟨config, ?_, fun held => .inl ⟨status held, same, session⟩⟩
  rw [session]
  exact .kept op

theorem ReceiverMoves.answered {after : WlBulkReceiver} (config : after.config = receiver.config)
    (session : after.session = receiver.session) (phase : after.pendingStatus.phase = op.phase)
    (reported : SessionReported receiver.session after.pendingStatus) :
    ReceiverMoves receiver op after := by
  refine ⟨config, ?_, fun _ => .inr ⟨?_, phase⟩⟩
  · rw [session]
    exact .kept op
  · rw [session]
    exact reported

namespace SessionReported

variable {session : BulkSession} {status : WlBulkStatus}

theorem plain (offset : status.nextOffset = 0 ∨ status.nextOffset = session.nextOffset)
    (code : status.code.isPlain = true) : SessionReported session status := by
  refine ⟨offset, ?_, ?_, fun _ => .plain code⟩
  · rintro (aborted | timedOut)
    · exact nomatch (aborted ▸ code : WlBulkStatusCode.aborted.isPlain = true)
    · exact nomatch (timedOut ▸ code : WlBulkStatusCode.timedOut.isPlain = true)
  · rintro _ (ok | outOfOrder)
    · exact nomatch (ok ▸ code : WlBulkStatusCode.ok.isPlain = true)
    · exact nomatch (outOfOrder ▸ code : WlBulkStatusCode.outOfOrder.isPlain = true)

theorem whole (offset : status.nextOffset = session.nextOffset)
    (chunkSize : status.acceptedChunkSize = session.acceptedChunkSize)
    (opened : session.state ≠ .idle)
    (ending : status.phase = .phaseEnd → EndReported session status.code) :
    SessionReported session status :=
  ⟨.inr offset, fun _ => ⟨offset, chunkSize⟩, fun _ _ => opened, ending⟩

end SessionReported

theorem isPlain_sinkFailureCode (result : WlBulkSinkResult) :
    (sinkFailureCode result).isPlain = true := by
  cases result <;> rfl

theorem ReceiverMoves.rejectInvalid (transferId : UInt32) :
    ReceiverMoves receiver op (receiver.rejectInvalid transferId op.phase) := by
  refine .answered rfl rfl rfl (.plain ?_ rfl)
  show receiver.activeNextOffset = 0 ∨ receiver.activeNextOffset = receiver.nextOffset
  unfold WlBulkReceiver.activeNextOffset
  split
  · exact .inl rfl
  · exact .inr rfl

theorem ReceiverMoves.reject {code : WlBulkStatusCode} (plain : code.isPlain = true)
    (transferId : UInt32) :
    ReceiverMoves receiver op (receiver.reject transferId op.phase code) :=
  .answered rfl rfl rfl (.plain (.inr rfl) plain)

theorem session_releaseSink (receiver : WlBulkReceiver) (reason : Int32) :
    (receiver.releaseSink reason).session = receiver.session.released reason := by
  by_cases active : receiver.sinkActive = true
  · have held : receiver.session.sinkActive = true := active
    rw [WlBulkReceiver.releaseSink, if_pos active, BulkSession.released, if_pos held]
    rfl
  · have held : ¬ receiver.session.sinkActive = true := active
    rw [WlBulkReceiver.releaseSink, if_neg active, BulkSession.released, if_neg held]

@[simp] theorem releaseSink_config (receiver : WlBulkReceiver) (reason : Int32) :
    (receiver.releaseSink reason).config = receiver.config := by
  unfold WlBulkReceiver.releaseSink
  split <;> rfl

theorem resumeOffsetValid_iff (receiver : WlBulkReceiver) (resumeOffset : UInt64) :
    receiver.resumeOffsetValid resumeOffset = true ↔
      receiver.config.Resumable receiver.descriptor resumeOffset := by
  simp only [WlBulkReceiver.resumeOffsetValid, WlBulkReceiverConfig.Resumable, Bool.and_eq_true,
    Bool.or_eq_true, decide_eq_true_eq, beq_iff_eq]

theorem session_failed (receiver : WlBulkReceiver) (result : WlBulkSinkResult)
    (phase : WlBulkPhase) (code : WlBulkStatusCode) :
    ((receiver.countFailure result).enterFailure phase code).session =
      { receiver.session with state := .failed, terminalCode := code } := by
  cases result <;> rfl

theorem config_countFailure (receiver : WlBulkReceiver) (result : WlBulkSinkResult) :
    (receiver.countFailure result).config = receiver.config := by
  cases result <;> rfl

/-- A Begin the sink has refused: the record is the new transfer's, but for the offset. -/
theorem beginAnswered_refused {ready : WlBulkReceiver} {descriptor : WlBulkDescriptor}
    {result : WlBulkSinkResult} {resumeOffset : UInt64} (notBusy : result ≠ .busy)
    (refused : result = .ok → ¬ ready.config.Resumable descriptor resumeOffset)
    (acceptedChunkSize : UInt32) (nowMs : UInt32) :
    (beginAnswered ready descriptor acceptedChunkSize nowMs result resumeOffset).config =
        ready.config ∧
      (beginAnswered ready descriptor acceptedChunkSize nowMs result resumeOffset).session =
        { ready.session.called (.begun descriptor resumeOffset result) with
          descriptor := descriptor, acceptedChunkSize := acceptedChunkSize, state := .failed,
          terminalCode := if result = .ok then .invalid else sinkFailureCode result,
          sinkActive := true } ∧
      SessionReported
        (beginAnswered ready descriptor acceptedChunkSize nowMs result resumeOffset).session
        (beginAnswered ready descriptor acceptedChunkSize nowMs result
          resumeOffset).pendingStatus ∧
      (beginAnswered ready descriptor acceptedChunkSize nowMs result
        resumeOffset).pendingStatus.phase = .phaseBegin := by
  unfold beginAnswered
  dsimp only
  rw [if_neg notBusy]
  split
  case isTrue accepted =>
    rw [if_pos fun valid => refused accepted ((resumeOffsetValid_iff _ _).mp valid)]
    exact ⟨rfl, rfl, .plain (.inl rfl) rfl, rfl⟩
  case isFalse failed =>
    exact ⟨config_countFailure _ result, session_failed _ result .phaseBegin (sinkFailureCode result),
      .plain (.inl rfl) (isPlain_sinkFailureCode result), rfl⟩

theorem beginAnswered_moves {ready : WlBulkReceiver} {descriptor : WlBulkDescriptor}
    {acceptedChunkSize : UInt32} (admitted : receiver.admits descriptor)
    (negotiated : receiver.config.negotiated descriptor = some acceptedChunkSize)
    (config : ready.config = receiver.config) (vacated : ready.session = receiver.session.vacated)
    (nowMs : UInt32) (result : WlBulkSinkResult) (resumeOffset : UInt64) :
    ReceiverMoves receiver (.onBegin descriptor nowMs result resumeOffset)
      (beginAnswered ready descriptor acceptedChunkSize nowMs result resumeOffset) := by
  by_cases busy : result = .busy
  · subst busy
    refine ⟨config, ?_, fun _ => .inr ⟨.plain (.inl rfl) rfl, rfl⟩⟩
    show SessionMove receiver _ (ready.session.called (.begun descriptor resumeOffset .busy))
    rw [vacated]
    exact .beginBusy nowMs resumeOffset admitted
  by_cases refused : result = .ok → ¬ ready.config.Resumable descriptor resumeOffset
  · obtain ⟨sameConfig, session, reported⟩ :=
      beginAnswered_refused busy refused acceptedChunkSize nowMs
    refine ⟨sameConfig.trans config, ?_, fun _ => .inr reported⟩
    rw [session, vacated]
    rw [config] at refused
    exact .beginFailed nowMs admitted negotiated busy refused
  · obtain ⟨accepted, resumable⟩ := Classical.not_imp.mp refused
    subst accepted
    have valid := not_not.mp resumable
    unfold beginAnswered
    rw [if_neg busy, if_pos rfl,
      if_neg (not_not.mpr ((resumeOffsetValid_iff { ready.called _ with
        descriptor := descriptor, acceptedChunkSize := acceptedChunkSize, lastActivityMs := nowMs,
        sinkActive := true } resumeOffset).mpr valid))]
    refine ⟨config, ?_, fun _ => .inr ⟨.whole rfl rfl nofun nofun, rfl⟩⟩
    show SessionMove receiver _
      { ready.session.called (.begun descriptor resumeOffset .ok) with
        descriptor := descriptor, nextOffset := resumeOffset,
        acceptedChunkSize := acceptedChunkSize, state := .receiving, sinkActive := true }
    rw [vacated]
    rw [config] at valid
    exact .begun nowMs admitted negotiated valid

theorem vacated_ready (receiver : WlBulkReceiver) :
    (if receiver.state ≠ .idle then receiver.releaseSink WlBulkErr.invalidState.code
        else receiver).config = receiver.config ∧
      (if receiver.state ≠ .idle then receiver.releaseSink WlBulkErr.invalidState.code
        else receiver).session = receiver.session.vacated := by
  by_cases idle : receiver.state = .idle
  · have held : receiver.session.state = .idle := idle
    rw [if_neg (not_not.mpr idle), BulkSession.vacated, if_neg (not_not.mpr held)]
    exact ⟨rfl, rfl⟩
  · have held : receiver.session.state ≠ .idle := idle
    rw [if_pos idle, BulkSession.vacated, if_pos held]
    exact ⟨releaseSink_config _ _, session_releaseSink _ _⟩

theorem wlBulkReceiverOnBegin_moves (receiver : WlBulkReceiver) (descriptor : WlBulkDescriptor)
    (nowMs : UInt32) (result : WlBulkSinkResult) (resumeOffset : UInt64) :
    ReceiverMoves receiver (.onBegin descriptor nowMs result resumeOffset)
      (wlBulkReceiverOnBegin receiver descriptor nowMs result resumeOffset).1 := by
  unfold wlBulkReceiverOnBegin
  split
  · exact .refused
  case isFalse ready =>
    cases negotiation : receiver.negotiateChunkSize descriptor with
    | none => exact .rejectInvalid _
    | some acceptedChunkSize =>
      have negotiated : receiver.config.negotiated descriptor = some acceptedChunkSize :=
        negotiation
      dsimp only
      split
      case isTrue repeated =>
        refine .answered ?_ ?_ rfl (.whole ?_ ?_ repeated.1 nofun)
        all_goals split <;> rfl
      case isFalse =>
        split
        · exact .reject rfl _
        case isFalse other =>
          simp only [not_or, not_and, ne_eq] at other
          have admitted : receiver.admits descriptor :=
            ⟨eq_false_of_ne_true ready, by rw [negotiated]; rfl, other.1, other.2⟩
          obtain ⟨config, vacated⟩ := vacated_ready receiver
          exact beginAnswered_moves admitted negotiated config vacated nowMs result resumeOffset

theorem ReceiverMoves.broke {called : WlBulkReceiver} {result : WlBulkSinkResult}
    {call : BulkSinkCall} (asked : SinkAsked receiver op result call) (notBusy : result ≠ .busy)
    (notOk : result ≠ .ok) (config : called.config = receiver.config)
    (session : called.session = receiver.session.called call) (transferId : UInt32) :
    ReceiverMoves receiver op
      (((called.countFailure result).enterFailure op.phase (sinkFailureCode result)).answer
        transferId op.phase (sinkFailureCode result)) := by
  refine ⟨(config_countFailure called result).trans config, ?_, fun _ =>
    .inr ⟨.plain (.inr rfl) (isPlain_sinkFailureCode result), rfl⟩⟩
  have failed := session_failed called result op.phase (sinkFailureCode result)
  rw [session] at failed
  show SessionMove receiver op
    ((called.countFailure result).enterFailure op.phase (sinkFailureCode result)).session
  rw [failed]
  exact .broke asked notBusy notOk

theorem chunkAnswered_moves {chunk : WlBulkChunk} {finish : UInt64}
    (receiving : receiver.state = .receiving)
    (own : chunk.transferId = receiver.descriptor.transferId)
    (next : chunk.offset = receiver.nextOffset)
    (valid : receiver.chunkShapeValid chunk = some finish) (nowMs : UInt32)
    (result : WlBulkSinkResult) :
    ReceiverMoves receiver (.onChunk chunk nowMs result)
      (chunkAnswered receiver chunk finish nowMs result) := by
  have asked := SinkAsked.write nowMs result receiving next valid
  have wrote := SessionMove.wrote nowMs receiving next valid
  rw [← own, ← next] at asked wrote
  unfold chunkAnswered
  split
  case isTrue busy =>
    subst busy
    exact ⟨rfl, .waited asked, fun _ => .inr ⟨.plain (.inr rfl) rfl, rfl⟩⟩
  case isFalse notBusy =>
    split
    case isTrue accepted =>
      subst accepted
      refine ⟨rfl, wrote, fun _ => .inr ⟨.whole rfl rfl ?_ nofun, rfl⟩⟩
      exact fun idle => nomatch receiving.symm.trans idle
    case isFalse failed =>
      refine .broke asked notBusy failed ?_ ?_ chunk.transferId
      · rfl
      · rfl

theorem wlBulkReceiverOnChunk_moves (receiver : WlBulkReceiver) (chunk : WlBulkChunk)
    (nowMs : UInt32) (result : WlBulkSinkResult) :
    ReceiverMoves receiver (.onChunk chunk nowMs result)
      (wlBulkReceiverOnChunk receiver chunk nowMs result).1 := by
  unfold wlBulkReceiverOnChunk
  split
  · exact .refused
  split
  · exact .rejectInvalid _
  split
  · exact .answered rfl rfl rfl ⟨.inl rfl, nofun, nofun, nofun⟩
  case isFalse opened =>
    split
    · exact .reject rfl _
    case isFalse own =>
      cases valid : receiver.chunkShapeValid chunk with
      | none => exact .reject rfl _
      | some =>
        dsimp only
        split
        · exact .answered rfl rfl rfl (.whole rfl rfl opened nofun)
        split
        · exact .answered rfl rfl rfl (.whole rfl rfl opened nofun)
        case isFalse next =>
          split
          · exact .answered rfl rfl rfl (.whole rfl rfl opened nofun)
          case isFalse receiving =>
            exact chunkAnswered_moves (not_not.mp receiving) (not_not.mp own) (not_not.mp next)
              valid nowMs result

theorem endAnswered_moves (receiving : receiver.state = .receiving)
    (complete : receiver.nextOffset = receiver.descriptor.totalLength) (totalLength : UInt64)
    (objectCrc32c : UInt32) (nowMs : UInt32) (result : WlBulkSinkResult) :
    ReceiverMoves receiver (.onEnd receiver.descriptor.transferId totalLength objectCrc32c nowMs result)
      (endAnswered receiver receiver.descriptor.transferId nowMs result) := by
  have asked := @SinkAsked.finish receiver totalLength objectCrc32c nowMs result receiving complete
  unfold endAnswered
  split
  case isTrue busy =>
    subst busy
    exact ⟨rfl, .waited asked, fun _ => .inr ⟨.plain (.inr rfl) rfl, rfl⟩⟩
  case isFalse notBusy =>
    split
    case isTrue accepted =>
      subst accepted
      exact ⟨rfl, .finished nowMs receiving complete, fun _ =>
        .inr ⟨.whole rfl rfl nofun fun _ => .ended nofun nofun, rfl⟩⟩
    case isFalse failed =>
      refine .broke asked notBusy failed ?_ ?_ _
      · rfl
      · rfl

theorem wlBulkReceiverOnEnd_moves (receiver : WlBulkReceiver) (transferId : UInt32)
    (totalLength : UInt64) (objectCrc32c : UInt32) (nowMs : UInt32) (result : WlBulkSinkResult) :
    ReceiverMoves receiver (.onEnd transferId totalLength objectCrc32c nowMs result)
      (wlBulkReceiverOnEnd receiver transferId totalLength objectCrc32c nowMs result).1 := by
  unfold wlBulkReceiverOnEnd
  split
  · exact .refused
  split
  · exact .rejectInvalid _
  split
  case isTrue idle =>
    exact .answered rfl rfl rfl ⟨.inl rfl, nofun, nofun, fun _ => .early (.inl idle)⟩
  case isFalse opened =>
  split
  · exact .reject rfl _
  case isFalse known =>
  split
  case isTrue ended =>
    refine .answered rfl rfl rfl (.whole rfl rfl opened fun _ => .ended opened fun receiving => ?_)
    rw [show receiver.state = _ from receiving] at ended
    rcases ended with completed | ⟨failed, _⟩
    · exact nomatch completed
    · exact nomatch failed
  split
  case isTrue past =>
    exact .answered rfl rfl rfl (.whole rfl rfl opened fun _ => .ended opened past)
  case isFalse receiving =>
  split
  case isTrue partly =>
    exact .answered rfl rfl rfl (.whole rfl rfl opened fun _ =>
      .early (.inr ⟨not_not.mp receiving, partly⟩))
  case isFalse complete =>
    simp only [not_or, not_not, ne_eq] at known
    obtain ⟨rfl, _⟩ := known
    exact endAnswered_moves (not_not.mp receiving) (not_not.mp complete) totalLength
      objectCrc32c nowMs result

theorem wlBulkReceiverOnAbort_moves (receiver : WlBulkReceiver) (transferId : UInt32)
    (reason : Int32) (nowMs : UInt32) :
    ReceiverMoves receiver (.onAbort transferId reason nowMs)
      (wlBulkReceiverOnAbort receiver transferId reason nowMs).1 := by
  unfold wlBulkReceiverOnAbort
  split
  · exact .refused
  case isFalse ready =>
  split
  · exact .rejectInvalid _
  case isFalse nonzero =>
  split
  case isTrue unknown =>
    have past : receiver.state ≠ .receiving := by
      rcases unknown with idle | ⟨past, _⟩
      · rw [idle]
        exact nofun
      · exact past
    have foreign : receiver.state ≠ .idle → transferId ≠ receiver.descriptor.transferId := by
      intro opened
      rcases unknown with idle | ⟨_, other⟩
      · exact absurd idle opened
      · exact other
    refine ⟨releaseSink_config _ _, ?_, fun _ => .inr ⟨.whole rfl rfl nofun nofun, rfl⟩⟩
    have move := SessionMove.tombstone reason nowMs (eq_false_of_ne_true ready) nonzero past foreign
    rw [← session_releaseSink] at move
    exact move
  case isFalse known =>
    have opened : receiver.state ≠ .idle := fun idle => known (.inl idle)
    split
    · exact .reject rfl _
    case isFalse own =>
      split
      · exact .answered rfl rfl rfl (.whole rfl rfl opened nofun)
      case isFalse notAborted =>
        split
        · exact .reject rfl _
        case isFalse notCompleted =>
          obtain rfl := not_not.mp own
          have running : receiver.state = .receiving ∨ receiver.state = .failed := by
            cases state : receiver.state with
            | idle => exact absurd state opened
            | receiving => exact .inl rfl
            | completed => exact absurd state notCompleted
            | failed => exact .inr rfl
            | aborted => exact absurd state notAborted
          refine ⟨releaseSink_config _ _, ?_, fun _ => .inr ⟨.whole rfl rfl nofun nofun, rfl⟩⟩
          have move := SessionMove.aborted reason nowMs running
          rw [← session_releaseSink] at move
          exact move

theorem wlBulkReceiverPoll_moves (receiver : WlBulkReceiver) (nowMs : UInt32) :
    ReceiverMoves receiver (.poll nowMs) (wlBulkReceiverPoll receiver nowMs) := by
  unfold wlBulkReceiverPoll
  split
  · exact .refused
  case isFalse due =>
    have receiving : receiver.state = .receiving := by
      by_contra other
      exact due (.inl other)
    refine ⟨releaseSink_config _ _, ?_, fun _ => .inr ⟨.whole rfl rfl nofun nofun, rfl⟩⟩
    have move := SessionMove.timedOut nowMs receiving
    rw [← session_releaseSink] at move
    exact move

/-- Every call makes one of the moves. -/
theorem step_moves (receiver : WlBulkReceiver) (op : ReceiverOp) :
    ReceiverMoves receiver op (receiver.step op) := by
  cases op with
  | onBegin descriptor nowMs result resumeOffset =>
    exact wlBulkReceiverOnBegin_moves receiver descriptor nowMs result resumeOffset
  | onChunk chunk nowMs result => exact wlBulkReceiverOnChunk_moves receiver chunk nowMs result
  | onEnd transferId totalLength objectCrc32c nowMs result =>
    exact wlBulkReceiverOnEnd_moves receiver transferId totalLength objectCrc32c nowMs result
  | onAbort transferId reason nowMs =>
    exact wlBulkReceiverOnAbort_moves receiver transferId reason nowMs
  | statusAcquire =>
    show ReceiverMoves receiver _ (wlBulkReceiverStatusAcquire receiver).1
    unfold wlBulkReceiverStatusAcquire
    split
    · exact .refused
    split
    · exact .refused
    · exact .flagged rfl rfl id rfl
  | statusDefer view =>
    show ReceiverMoves receiver _ (wlBulkReceiverStatusDefer receiver view).1
    unfold wlBulkReceiverStatusDefer
    split
    · exact .refused
    · exact .flagged rfl rfl id rfl
  | statusRelease view =>
    show ReceiverMoves receiver _ (wlBulkReceiverStatusRelease receiver view).1
    unfold wlBulkReceiverStatusRelease
    split
    · exact .refused
    · exact .flagged rfl rfl nofun rfl
  | poll nowMs => exact wlBulkReceiverPoll_moves receiver nowMs
  | reset =>
    show ReceiverMoves receiver _ (wlBulkReceiverReset receiver).1
    unfold wlBulkReceiverReset
    split
    · exact .refused
    case isFalse unread =>
      refine ⟨releaseSink_config _ _, ?_, nofun⟩
      have move := SessionMove.reset (eq_false_of_ne_true unread)
      rw [← session_releaseSink] at move
      exact move

end calls

end Wirelink
