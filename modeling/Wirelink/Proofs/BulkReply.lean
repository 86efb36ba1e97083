/-
Module: Wirelink.Proofs.BulkReply
Purpose: What a bulk receiver answers to the messages of one transfer, status by status: before it
  has opened the transfer, while it receives it, and once it has finished it. The code an earlier
  transfer left behind must be OK for that.
Trusted boundary: none
-/
import Wirelink.Proofs.BulkRecord
import Wirelink.Proofs.BulkSink

namespace Wirelink

namespace BulkSession

/-- The receiver has no record of the transfer, and the last one left the code `OK` behind. -/
structure Unopened (transferId : UInt32) (session : BulkSession) : Prop where
  past : session.state ≠ .receiving
  unknown : session.state ≠ .idle → transferId ≠ session.descriptor.transferId
  code : session.terminalCode = .ok

/-- The receiver receives the transfer. -/
structure Running (config : WlBulkReceiverConfig) (descriptor : WlBulkDescriptor)
    (session : BulkSession) : Prop where
  state : session.state = .receiving
  own : session.descriptor = descriptor
  code : session.terminalCode = .ok
  negotiated : config.negotiated descriptor = some session.acceptedChunkSize
  resumable : config.Resumable descriptor session.nextOffset

/-- The receiver has the whole object. -/
structure Finished (config : WlBulkReceiverConfig) (descriptor : WlBulkDescriptor)
    (session : BulkSession) : Prop where
  state : session.state = .completed
  own : session.descriptor = descriptor
  negotiated : config.negotiated descriptor = some session.acceptedChunkSize
  whole : session.nextOffset = descriptor.totalLength

end BulkSession

/-- The receiver accepted a message: what became of its session, and the status it retains. -/
structure Answers (receiver after : WlBulkReceiver) (session : BulkSession)
    (status : WlBulkStatus) : Prop where
  config : after.config = receiver.config
  session : after.session = session
  pending : after.statusPending = true
  status : after.pendingStatus = status

section answers

variable {receiver : WlBulkReceiver} {descriptor : WlBulkDescriptor}

theorem not_pending (ready : receiver.statusPending = false) : ¬ receiver.statusPending = true := by
  rw [ready]
  exact nofun

variable {chunkSize : UInt32} {config : WlBulkReceiverConfig} {data : Bytes} {chunk : WlBulkChunk}

/-! ### Begin

The receiver opens a transfer it has no record of, and answers a Begin it has acted on with its
current offset. -/

theorem onBegin_repeated (ready : receiver.statusPending = false)
    (negotiated : receiver.config.negotiated descriptor = some chunkSize)
    (opened : receiver.state ≠ .idle) (own : receiver.descriptor = descriptor) (nowMs : UInt32)
    (result : WlBulkSinkResult) (resumeOffset : UInt64) :
    Answers receiver (wlBulkReceiverOnBegin receiver descriptor nowMs result resumeOffset).1
      receiver.session
      { transferId := descriptor.transferId, phase := .phaseBegin,
        code := receiver.terminalStatusCode, nextOffset := receiver.nextOffset,
        acceptedChunkSize := receiver.acceptedChunkSize } := by
  have negotiation : receiver.negotiateChunkSize descriptor = some chunkSize := negotiated
  unfold wlBulkReceiverOnBegin
  rw [if_neg (not_pending ready), negotiation]
  dsimp only
  rw [if_pos ⟨opened, own⟩]
  by_cases receiving : receiver.state = .receiving
  · rw [if_pos receiving]
    exact ⟨rfl, rfl, rfl, rfl⟩
  · rw [if_neg receiving]
    exact ⟨rfl, rfl, rfl, rfl⟩

theorem BulkSession.Unopened.admits (unopened : receiver.session.Unopened descriptor.transferId)
    (ready : receiver.statusPending = false)
    (negotiated : receiver.config.negotiated descriptor = some chunkSize) :
    receiver.admits descriptor :=
  ⟨ready, by rw [negotiated]; rfl, unopened.past, unopened.unknown⟩

section

variable (admitted : receiver.admits descriptor)

include admitted

variable (negotiated : receiver.config.negotiated descriptor = some chunkSize)

include negotiated

theorem onBegin_busy (nowMs : UInt32) (resumeOffset : UInt64) :
    Answers receiver (wlBulkReceiverOnBegin receiver descriptor nowMs .busy resumeOffset).1
      (receiver.session.vacated.called (.begun descriptor resumeOffset .busy))
      { transferId := descriptor.transferId, phase := .phaseBegin, code := .busy, nextOffset := 0,
        acceptedChunkSize := chunkSize } := by
  rw [wlBulkReceiverOnBegin_admitted admitted negotiated]
  obtain ⟨config, vacated⟩ := vacated_ready receiver
  refine ⟨config, ?_, rfl, rfl⟩
  rw [← vacated]
  rfl

theorem onBegin_opened (nowMs : UInt32) {resumeOffset : UInt64}
    (resumable : receiver.config.Resumable descriptor resumeOffset) :
    Answers receiver (wlBulkReceiverOnBegin receiver descriptor nowMs .ok resumeOffset).1
      { receiver.session.vacated.called (.begun descriptor resumeOffset .ok) with
        descriptor := descriptor, nextOffset := resumeOffset, acceptedChunkSize := chunkSize,
        state := .receiving, sinkActive := true }
      { transferId := descriptor.transferId, phase := .phaseBegin, code := .ok,
        nextOffset := resumeOffset, acceptedChunkSize := chunkSize } := by
  rw [wlBulkReceiverOnBegin_admitted admitted negotiated]
  obtain ⟨config, vacated⟩ := vacated_ready receiver
  generalize (if receiver.state ≠ .idle then receiver.releaseSink WlBulkErr.invalidState.code
    else receiver) = emptied at config vacated
  rw [← config] at resumable
  unfold beginAnswered
  rw [if_neg (by decide), if_pos rfl,
    if_neg (not_not.mpr ((resumeOffsetValid_iff { emptied.called _ with
      descriptor := descriptor, acceptedChunkSize := chunkSize, lastActivityMs := nowMs,
      sinkActive := true } resumeOffset).mpr resumable))]
  refine ⟨config, ?_, rfl, rfl⟩
  rw [← vacated]
  rfl

/-- A Begin the sink refuses leaves the record of a failed transfer. -/
theorem onBegin_failed (nowMs : UInt32) {result : WlBulkSinkResult} {resumeOffset : UInt64}
    (notBusy : result ≠ .busy)
    (refused : result = .ok → ¬ receiver.config.Resumable descriptor resumeOffset) :
    (wlBulkReceiverOnBegin receiver descriptor nowMs result resumeOffset).1.session.state =
        .failed ∧
      (wlBulkReceiverOnBegin receiver descriptor nowMs result resumeOffset).1.session.descriptor =
        descriptor := by
  rw [wlBulkReceiverOnBegin_admitted admitted negotiated]
  obtain ⟨config, _⟩ := vacated_ready receiver
  rw [← config] at refused
  obtain ⟨_, session, _⟩ := beginAnswered_refused notBusy refused chunkSize nowMs
  exact ⟨congrArg BulkSession.state session, congrArg BulkSession.descriptor session⟩

end

/-! ### Chunk

A span that is allowed passes all tests of a chunk. It is written if it is the next one, and
acknowledged again if it lies behind the offset. -/

theorem SpanAllowed.measured {offset : Nat} (allowed : SpanAllowed config descriptor offset data) :
    (UInt64.ofNat data.length).toNat = data.length := by
  have inside := allowed.inside
  have bound := descriptor.totalLength.toNat_lt
  rw [UInt64.toNat_ofNat', Nat.mod_eq_of_lt (by omega)]

theorem SpanAllowed.finish {offset : UInt64}
    (allowed : SpanAllowed config descriptor offset.toNat data) :
    (offset + UInt64.ofNat data.length).toNat = offset.toNat + data.length := by
  have inside := allowed.inside
  have bound := descriptor.totalLength.toNat_lt
  rw [UInt64.toNat_add, allowed.measured, Nat.mod_eq_of_lt (by omega)]

theorem SpanAllowed.resumable {offset : UInt64}
    (allowed : SpanAllowed config descriptor offset.toNat data) :
    config.Resumable descriptor (offset + UInt64.ofNat data.length) := by
  refine ⟨?_, ?_⟩
  · rw [UInt64.le_iff_toNat_le, allowed.finish]
    exact allowed.inside
  · rcases allowed.endAligned with whole | aligned
    · refine .inl ?_
      rw [← UInt64.toNat_inj, allowed.finish]
      exact whole
    · refine .inr ?_
      rw [← UInt64.toNat_inj, UInt64.toNat_mod, allowed.finish, Nat.add_mod]
      show (offset.toNat % config.writeAlignment.toNat +
        data.length % config.writeAlignment.toNat) % config.writeAlignment.toNat = 0
      rw [allowed.startAligned, aligned, Nat.zero_mod]

theorem SpanAllowed.shapeValid (holds : chunk.data = .bytes data)
    (negotiated : receiver.config.negotiated receiver.descriptor = some receiver.acceptedChunkSize)
    (identified : chunk.transferId ≠ 0)
    (allowed : SpanAllowed receiver.config receiver.descriptor chunk.offset.toNat data) :
    receiver.chunkShapeValid chunk = some (chunk.offset + UInt64.ofNat data.length) := by
  obtain ⟨_, same, fits⟩ := allowed.sized
  obtain rfl := Option.some.inj (negotiated.symm.trans same)
  exact chunkShapeValid_iff.mpr ⟨data, ⟨identified, holds,
    fun empty => allowed.nonempty (List.eq_nil_of_length_eq_zero empty), fits,
    allowed.startAligned, allowed.endAligned, allowed.inside⟩, allowed.finish⟩

/-- The tests `wl_bulk_receiver_on_chunk` makes before it looks at the offset. -/
theorem onChunk_known (ready : receiver.statusPending = false) (opened : receiver.state ≠ .idle)
    (own : chunk.transferId = receiver.descriptor.transferId) (holds : chunk.data = .bytes data)
    (negotiated : receiver.config.negotiated receiver.descriptor = some receiver.acceptedChunkSize)
    (identified : chunk.transferId ≠ 0)
    (allowed : SpanAllowed receiver.config receiver.descriptor chunk.offset.toNat data)
    (nowMs : UInt32) (result : WlBulkSinkResult) :
    (wlBulkReceiverOnChunk receiver chunk nowMs result).1 =
      (if chunk.offset + UInt64.ofNat data.length ≤ receiver.nextOffset then
        (receiver.active nowMs).countDuplicate.answer chunk.transferId .phaseChunk
          receiver.terminalStatusCode
      else if chunk.offset ≠ receiver.nextOffset then
        receiver.reject chunk.transferId .phaseChunk .outOfOrder
      else if receiver.state ≠ .receiving then
        receiver.answer chunk.transferId .phaseChunk receiver.terminalStatusCode
      else chunkAnswered receiver chunk (chunk.offset + UInt64.ofNat data.length) nowMs result) := by
  have shaped : ¬ (chunk.transferId = 0 ∨ chunk.data.isNull = true ∨ chunk.data.length = 0) := by
    rw [holds]
    rintro (zero | null | empty)
    · exact identified zero
    · exact nomatch null
    · exact allowed.nonempty (List.eq_nil_of_length_eq_zero empty)
  unfold wlBulkReceiverOnChunk
  rw [if_neg (not_pending ready), if_neg shaped, if_neg opened, if_neg (not_not.mpr own),
    allowed.shapeValid holds negotiated identified]
  dsimp only
  split
  · rfl
  split
  · rfl
  split
  · rfl
  · rfl

theorem onChunk_next (ready : receiver.statusPending = false) (state : receiver.state = .receiving)
    (own : chunk.transferId = receiver.descriptor.transferId) (holds : chunk.data = .bytes data)
    (negotiated : receiver.config.negotiated receiver.descriptor = some receiver.acceptedChunkSize)
    (identified : chunk.transferId ≠ 0)
    (allowed : SpanAllowed receiver.config receiver.descriptor chunk.offset.toNat data)
    (next : chunk.offset = receiver.nextOffset) (nowMs : UInt32) (result : WlBulkSinkResult) :
    (wlBulkReceiverOnChunk receiver chunk nowMs result).1 =
      chunkAnswered receiver chunk (chunk.offset + UInt64.ofNat data.length) nowMs result := by
  have some : data.length ≠ 0 := fun empty =>
    allowed.nonempty (List.eq_nil_of_length_eq_zero empty)
  have beyond : ¬ chunk.offset + UInt64.ofNat data.length ≤ receiver.nextOffset := by
    rw [UInt64.le_iff_toNat_le, allowed.finish, ← next]
    omega
  rw [onChunk_known ready (by rw [state]; exact nofun) own holds negotiated
    identified allowed, if_neg beyond, if_neg (not_not.mpr next), if_neg (not_not.mpr state)]

section

variable (running : receiver.session.Running receiver.config descriptor)

include running

/-- The session runs: what the receiver itself then shows. -/
theorem BulkSession.Running.shows :
    receiver.state = .receiving ∧ receiver.descriptor = descriptor ∧
      receiver.terminalStatusCode = .ok ∧
      receiver.config.negotiated receiver.descriptor = some receiver.acceptedChunkSize := by
  have state : receiver.state = .receiving := running.state
  have own : receiver.descriptor = descriptor := running.own
  refine ⟨state, own, ?_, ?_⟩
  · unfold WlBulkReceiver.terminalStatusCode
    rw [state]
    exact running.code
  · rw [own]
    exact running.negotiated

variable (ready : receiver.statusPending = false)

include ready

theorem onBegin_running (nowMs : UInt32) (result : WlBulkSinkResult) (resumeOffset : UInt64) :
    Answers receiver (wlBulkReceiverOnBegin receiver descriptor nowMs result resumeOffset).1
      receiver.session
      { transferId := descriptor.transferId, phase := .phaseBegin, code := .ok,
        nextOffset := receiver.nextOffset, acceptedChunkSize := receiver.acceptedChunkSize } := by
  obtain ⟨state, own, code, _⟩ := running.shows
  rw [← code]
  exact onBegin_repeated ready running.negotiated (by rw [state]; exact nofun) own
    nowMs result resumeOffset

theorem onChunk_repeated (own : chunk.transferId = descriptor.transferId)
    (identified : descriptor.transferId ≠ 0) (holds : chunk.data = .bytes data)
    (allowed : SpanAllowed receiver.config descriptor chunk.offset.toNat data)
    (reached : chunk.offset + UInt64.ofNat data.length ≤ receiver.nextOffset) (nowMs : UInt32)
    (result : WlBulkSinkResult) :
    Answers receiver (wlBulkReceiverOnChunk receiver chunk nowMs result).1 receiver.session
      { transferId := descriptor.transferId, phase := .phaseChunk, code := .ok,
        nextOffset := receiver.nextOffset, acceptedChunkSize := receiver.acceptedChunkSize } := by
  obtain ⟨state, rfl, code, negotiated⟩ := running.shows
  rw [onChunk_known ready (by rw [state]; exact nofun) own holds negotiated
    (own ▸ identified) allowed, if_pos reached, code, own]
  exact ⟨rfl, rfl, rfl, rfl⟩

end

/-- What the sink of a running session makes of the message it waits for: it is busy, or the session
goes on, or it has failed. -/
inductive SinkOutcome (receiver : WlBulkReceiver) (transferId : UInt32) (phase : WlBulkPhase)
    (done : BulkSession) (after : WlBulkReceiver) : Prop where
  | busy (call : BulkSinkCall)
      (answers : Answers receiver after (receiver.session.called call)
        { transferId := transferId, phase := phase, code := .busy,
          nextOffset := receiver.nextOffset, acceptedChunkSize := receiver.acceptedChunkSize })
  | done (answers : Answers receiver after done
      { transferId := transferId, phase := phase, code := .ok, nextOffset := done.nextOffset,
        acceptedChunkSize := receiver.acceptedChunkSize })
  | failed (state : after.session.state = .failed)
      (own : after.session.descriptor = receiver.descriptor)

theorem chunkAnswered_outcome (chunk : WlBulkChunk) (finish : UInt64) (nowMs : UInt32)
    (result : WlBulkSinkResult) :
    SinkOutcome receiver chunk.transferId .phaseChunk
      { receiver.session.called (.written chunk.transferId chunk.offset chunk.data.data .ok) with
        nextOffset := finish } (chunkAnswered receiver chunk finish nowMs result) := by
  unfold chunkAnswered
  split
  · exact .busy _ ⟨rfl, rfl, rfl, rfl⟩
  split
  case isTrue accepted =>
    subst accepted
    exact .done ⟨rfl, rfl, rfl, rfl⟩
  case isFalse =>
    have session := session_failed ((receiver.called (.written chunk.transferId chunk.offset
      chunk.data.data result)).active nowMs) result .phaseChunk (sinkFailureCode result)
    exact .failed (congrArg BulkSession.state session) (congrArg BulkSession.descriptor session)

/-! ### End

The sink is asked to finish once everything is written; later Ends are answered from the record. -/

theorem onEnd_next (running : receiver.session.Running receiver.config descriptor)
    (ready : receiver.statusPending = false) (identified : descriptor.transferId ≠ 0)
    (whole : receiver.nextOffset = descriptor.totalLength) (nowMs : UInt32)
    (result : WlBulkSinkResult) :
    (wlBulkReceiverOnEnd receiver descriptor.transferId descriptor.totalLength
      descriptor.objectCrc32c nowMs result).1 =
      endAnswered receiver descriptor.transferId nowMs result := by
  obtain ⟨state, rfl, _⟩ := running.shows
  unfold wlBulkReceiverOnEnd
  rw [if_neg (not_pending ready), if_neg identified, state, if_neg (by decide), if_neg (by simp),
    if_neg (by simp), if_neg (by decide), if_neg (not_not.mpr whole)]

theorem endAnswered_outcome (transferId nowMs : UInt32) (result : WlBulkSinkResult) :
    SinkOutcome receiver transferId .phaseEnd
      { receiver.session.called (.finished receiver.descriptor .ok) with
        state := .completed, terminalCode := .ok, sinkActive := false }
      (endAnswered receiver transferId nowMs result) := by
  unfold endAnswered
  split
  · exact .busy _ ⟨rfl, rfl, rfl, rfl⟩
  split
  case isTrue accepted =>
    subst accepted
    exact .done ⟨rfl, rfl, rfl, rfl⟩
  case isFalse =>
    have session := session_failed ((receiver.called (.finished receiver.descriptor result)).active
      nowMs) result .phaseEnd (sinkFailureCode result)
    exact .failed (congrArg BulkSession.state session) (congrArg BulkSession.descriptor session)

/-- The session is finished: what the receiver itself then shows. -/
theorem BulkSession.Finished.shows
    (finished : receiver.session.Finished receiver.config descriptor) :
    receiver.state = .completed ∧ receiver.descriptor = descriptor ∧
      receiver.terminalStatusCode = .ok := by
  have state : receiver.state = .completed := finished.state
  refine ⟨state, finished.own, ?_⟩
  unfold WlBulkReceiver.terminalStatusCode
  rw [state]

theorem onEnd_repeated (finished : receiver.session.Finished receiver.config descriptor)
    (ready : receiver.statusPending = false) (identified : descriptor.transferId ≠ 0)
    (nowMs : UInt32) (result : WlBulkSinkResult) :
    Answers receiver
      (wlBulkReceiverOnEnd receiver descriptor.transferId descriptor.totalLength
        descriptor.objectCrc32c nowMs result).1
      receiver.session
      { transferId := descriptor.transferId, phase := .phaseEnd, code := .ok,
        nextOffset := receiver.nextOffset, acceptedChunkSize := receiver.acceptedChunkSize } := by
  obtain ⟨state, rfl, code⟩ := finished.shows
  unfold wlBulkReceiverOnEnd
  rw [if_neg (not_pending ready), if_neg identified, code, state, if_neg (by decide),
    if_neg (by simp)]
  exact ⟨rfl, rfl, rfl, rfl⟩

end answers

end Wirelink
