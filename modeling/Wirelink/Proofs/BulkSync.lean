/-
Module: Wirelink.Proofs.BulkSync
Purpose: A bulk sender and the receiver of its transfer are at most one message apart: which
  messages and statuses can then be under way, and what the arrival of a message leaves.
Trusted boundary: none
-/
import Wirelink.Spec.BulkLine
import Wirelink.Proofs.BulkReply

namespace Wirelink

/-! ### The receiver and the messages of one transfer

The receiver is on the track of the transfer, or it is spent and will never receive it. Only a sink
that fails or an Abort leads from one to the other. -/

/-- The receiver has not opened the transfer, receives it, or has finished it. -/
def BulkSession.OnTrack (config : WlBulkReceiverConfig) (descriptor : WlBulkDescriptor)
    (session : BulkSession) : Prop :=
  session.Unopened descriptor.transferId ∨ session.Running config descriptor ∨
    session.Finished config descriptor

/-- The receiver will never receive the transfer: it cannot be negotiated, or its record is over. -/
structure BulkSession.Spent (config : WlBulkReceiverConfig) (descriptor : WlBulkDescriptor)
    (session : BulkSession) : Prop where
  past : session.state ≠ .receiving
  record : config.negotiated descriptor = none ∨
    session.state ≠ .idle ∧ session.descriptor.transferId = descriptor.transferId

/-- A message of this transfer. -/
def BulkMessage.Own (descriptor : WlBulkDescriptor) : BulkMessage → Prop
  | .beginning other => other = descriptor
  | .chunk piece => piece.transferId = descriptor.transferId
  | .ending transferId totalLength objectCrc32c =>
    transferId = descriptor.transferId ∧ totalLength = descriptor.totalLength ∧
      objectCrc32c = descriptor.objectCrc32c
  | .abort transferId _ => transferId = descriptor.transferId

/-- A chunk that the receiver will find in shape. -/
def BulkMessage.Shaped (config : WlBulkReceiverConfig) (descriptor : WlBulkDescriptor) :
    BulkMessage → Prop
  | .chunk piece => ∃ data, piece.data = .bytes data ∧
      SpanAllowed config descriptor piece.offset.toNat data
  | _ => True

/-- A call of this transfer. -/
def ReceiverOp.About (descriptor : WlBulkDescriptor) : ReceiverOp → Prop
  | .onBegin other .. => other = descriptor
  | .onChunk chunk .. => chunk.transferId = descriptor.transferId
  | .onEnd transferId .. => transferId = descriptor.transferId
  | .onAbort transferId .. => transferId = descriptor.transferId
  | _ => False

section receiver

variable {receiver after : WlBulkReceiver} {descriptor : WlBulkDescriptor} {message : BulkMessage}

theorem vacated_code (session : BulkSession) : session.vacated.terminalCode = session.terminalCode := by
  unfold BulkSession.vacated BulkSession.released
  split
  · split <;> rfl
  · rfl

theorem BulkSession.Unopened.vacated {session : BulkSession} {transferId : UInt32}
    (unopened : session.Unopened transferId) (call : BulkSinkCall) :
    (session.vacated.called call).Unopened transferId := by
  obtain ⟨sameDescriptor, _, _, sameState⟩ := vacated_fields session
  refine ⟨?_, ?_, (vacated_code session).trans unopened.code⟩
  · exact fun receiving => unopened.past (sameState.symm.trans receiving)
  · intro opened
    show transferId ≠ session.vacated.descriptor.transferId
    rw [sameDescriptor]
    exact unopened.unknown fun idle => opened (sameState.trans idle)

theorem length_vacated (session : BulkSession) :
    session.calls.length ≤ session.vacated.calls.length := by
  obtain ⟨_, grown, _⟩ := @Unserved.vacated 0 session
  rw [grown, List.length_append]
  exact Nat.le_add_left _ _

/-- The sink was called and did not fail, or was not called. -/
def SinkQuiet (config : WlBulkReceiverConfig) (before after : List BulkSinkCall) : Prop :=
  after = before ∨ ∃ call calls, after = call :: calls ∧ call.failing config = false

/-- The sink was called and failed. -/
def SinkFails (config : WlBulkReceiverConfig) (before after : List BulkSinkCall) : Prop :=
  ∃ call calls, after = call :: calls ∧ before.length ≤ calls.length ∧ call.failing config = true

theorem sinkCause_none (quiet : SinkQuiet after.config receiver.calls after.calls) :
    BulkMessage.stopCause.sinkCause receiver after = none := by
  refine if_neg ?_
  rintro ⟨grown, failing⟩
  rcases quiet with same | ⟨call, _, called, fine⟩
  · rw [same] at grown
    exact Nat.lt_irrefl _ grown
  · rw [called] at failing
    have failed : call.failing after.config = true := failing
    exact nomatch fine.symm.trans failed

theorem sinkCause_some (fails : SinkFails after.config receiver.calls after.calls) :
    BulkMessage.stopCause.sinkCause receiver after = some .sinkFailed := by
  obtain ⟨_, _, called, grown, failed⟩ := fails
  unfold BulkMessage.stopCause.sinkCause
  rw [called]
  exact if_pos ⟨Nat.lt_succ_of_le grown, failed⟩

/-- What the arrival of a message leaves: a receiver still on its track and no cause, or one that is
spent, and then for a cause or by an Abort. -/
def Arrives (descriptor : WlBulkDescriptor) (message : BulkMessage)
    (receiver after : WlBulkReceiver) : Prop :=
  message.stopCause receiver after = none ∧ after.session.OnTrack receiver.config descriptor ∨
    after.session.Spent receiver.config descriptor ∧
      (message.stopCause receiver after ≠ none ∨ message.phase = .phaseAbort)

theorem BulkSession.OnTrack.admitted (onTrack : receiver.session.OnTrack receiver.config descriptor)
    (admitted : receiver.admits descriptor) :
    receiver.session.Unopened descriptor.transferId := by
  rcases onTrack with unopened | running | finished
  · exact unopened
  · exact absurd running.state admitted.2.2.1
  · refine absurd (congrArg WlBulkDescriptor.transferId finished.own).symm (admitted.2.2.2 ?_)
    exact fun idle => nomatch idle.symm.trans finished.state

theorem BulkSession.OnTrack.running {session : BulkSession} {config : WlBulkReceiverConfig}
    (onTrack : session.OnTrack config descriptor) (receiving : session.state = .receiving) :
    session.Running config descriptor := by
  rcases onTrack with unopened | running | finished
  · exact absurd receiving unopened.past
  · exact running
  · exact nomatch receiving.symm.trans finished.state

theorem BulkSession.OnTrack.refused {session : BulkSession} {config : WlBulkReceiverConfig}
    (onTrack : session.OnTrack config descriptor) (refused : config.negotiated descriptor = none) :
    session.Unopened descriptor.transferId := by
  rcases onTrack with unopened | running | finished
  · exact unopened
  · exact nomatch refused.symm.trans running.negotiated
  · exact nomatch refused.symm.trans finished.negotiated

section

variable {op : ReceiverOp} {session : BulkSession} (move : SessionMove receiver op session)
  (about : op.About descriptor)

include move about

theorem SessionMove.arrives (onTrack : receiver.session.OnTrack receiver.config descriptor) :
    SinkQuiet receiver.config receiver.calls session.calls ∧
        session.OnTrack receiver.config descriptor ∨
      session.Spent receiver.config descriptor ∧
        (SinkFails receiver.config receiver.calls session.calls ∨ op.phase = .phaseAbort) := by
  cases move with
  | kept => exact .inl ⟨.inl rfl, onTrack⟩
  | beginBusy nowMs resumeOffset admitted =>
    obtain rfl := about
    exact .inl ⟨.inr ⟨_, _, rfl, rfl⟩, .inl ((onTrack.admitted admitted).vacated _)⟩
  | @beginFailed _ nowMs result resumeOffset _ admitted negotiated notBusy unusable =>
    obtain rfl := about
    refine .inr ⟨⟨nofun, .inr ⟨nofun, rfl⟩⟩,
      .inl ⟨_, _, rfl, length_vacated receiver.session, ?_⟩⟩
    by_cases accepted : result = .ok
    · subst accepted
      simp [BulkSinkCall.failing, unusable rfl]
    · simp [BulkSinkCall.failing, notBusy, accepted]
  | begun nowMs admitted negotiated resumable =>
    obtain rfl := about
    refine .inl ⟨.inr ⟨_, _, rfl, ?_⟩, .inr (.inl ?_)⟩
    · simp [BulkSinkCall.failing, resumable]
    · have code := (onTrack.admitted admitted).code
      exact ⟨rfl, rfl, (vacated_code receiver.session).trans code, negotiated, resumable⟩
  | waited asked =>
    have running := onTrack.running asked.receiving
    refine .inl ⟨.inr ⟨_, _, rfl, ?_⟩, .inr (.inl { running with })⟩
    cases asked with
    | write | finish => rfl
  | broke asked notBusy notOk =>
    have running := onTrack.running asked.receiving
    refine .inr ⟨⟨nofun, .inr ⟨nofun, congrArg WlBulkDescriptor.transferId running.own⟩⟩,
      .inl ⟨_, _, rfl, Nat.le_refl _, ?_⟩⟩
    cases asked with
    | write | finish => simp [BulkSinkCall.failing, notBusy, notOk]
  | @wrote chunk _ finish receiving next valid =>
    -- the receiver's bound on the chunk is what makes the new offset one to resume from
    have running := onTrack.running receiving
    obtain ⟨_, rfl, _, negotiated⟩ := running.shows
    obtain ⟨data, shape, ends⟩ := chunkShapeValid_iff.mp valid
    have allowed := shape.allowed negotiated
    have finishEq : finish = chunk.offset + UInt64.ofNat chunk.data.data.length := by
      rw [← UInt64.toNat_inj, allowed.finish, ends, shape.holds]
      rfl
    refine .inl ⟨.inr ⟨_, _, rfl, rfl⟩, .inr (.inl { running with resumable := ?_ })⟩
    rw [finishEq]
    exact allowed.resumable
  | finished nowMs receiving complete =>
    have running := onTrack.running receiving
    refine .inl ⟨.inr ⟨_, _, rfl, rfl⟩, .inr (.inr ⟨rfl, running.own, running.negotiated, ?_⟩)⟩
    rw [← running.own]
    exact complete
  | aborted reason =>
    refine .inr ⟨⟨nofun, .inr ⟨nofun, ?_⟩⟩, .inr rfl⟩
    exact (congrArg _ (released_fields receiver.session reason).1).trans about
  | tombstone => exact .inr ⟨⟨nofun, .inr ⟨nofun, about⟩⟩, .inr rfl⟩
  | timedOut | reset => exact about.elim

theorem SessionMove.spent (spent : receiver.session.Spent receiver.config descriptor) :
    session.Spent receiver.config descriptor := by
  have unadmitted : ∀ other, other = descriptor → ¬ receiver.admits other := by
    rintro _ rfl admitted
    rcases spent.record with refused | ⟨opened, same⟩
    · have some := admitted.2.1
      rw [refused] at some
      exact nomatch some
    · exact admitted.2.2.2 opened same.symm
  cases move with
  | kept => exact spent
  | beginBusy nowMs resumeOffset admitted | beginFailed nowMs admitted | begun nowMs admitted =>
    exact absurd admitted (unadmitted _ about)
  | waited asked | broke asked => exact absurd asked.receiving spent.past
  | wrote nowMs receiving | finished nowMs receiving => exact absurd receiving spent.past
  | aborted reason =>
    refine ⟨nofun, .inr ⟨nofun, ?_⟩⟩
    exact (congrArg _ (released_fields receiver.session reason).1).trans about
  | tombstone => exact ⟨nofun, .inr ⟨nofun, about⟩⟩
  | timedOut | reset => exact about.elim

end

section

variable (own : message.Own descriptor) (nowMs : UInt32) (result : WlBulkSinkResult)
  (resumeOffset : UInt64)

include own

theorem BulkMessage.Own.about : (message.op nowMs result resumeOffset).About descriptor := by
  cases message with
  | beginning | chunk | abort => exact own
  | ending => exact own.1

theorem deliver_arrives (onTrack : receiver.session.OnTrack receiver.config descriptor) :
    Arrives descriptor message receiver (message.deliver receiver nowMs result resumeOffset) := by
  rw [deliver_eq_step]
  have moves := step_moves receiver (message.op nowMs result resumeOffset)
  have arrives := moves.session.arrives (own.about nowMs result resumeOffset) onTrack
  generalize receiver.step (message.op nowMs result resumeOffset) = after at moves arrives ⊢
  by_cases refused : message = .beginning descriptor ∧ receiver.statusPending = false ∧
      receiver.config.negotiated descriptor = none
  · obtain ⟨rfl, refused⟩ := refused
    have cause : (BulkMessage.beginning descriptor).stopCause receiver after = some .rejected :=
      if_pos refused
    refine .inr ⟨?_, .inl (by rw [cause]; exact nofun)⟩
    rcases arrives with ⟨_, track⟩ | ⟨spent, _⟩
    · exact ⟨(track.refused refused.2).past, .inl refused.2⟩
    · exact spent
  · have cause : message.stopCause receiver after =
        BulkMessage.stopCause.sinkCause receiver after := by
      cases message with
      | beginning other =>
        obtain rfl : other = descriptor := own
        exact if_neg fun unready => refused ⟨rfl, unready⟩
      | _ => rfl
    unfold Arrives
    rw [cause]
    rw [← moves.config] at arrives ⊢
    rcases arrives with ⟨quiet, track⟩ | ⟨spent, fails | abort⟩
    · exact .inl ⟨sinkCause_none quiet, track⟩
    · exact .inr ⟨spent, .inl (by rw [sinkCause_some fails]; exact nofun)⟩
    · refine .inr ⟨spent, .inr ?_⟩
      cases message with
      | abort => rfl
      | _ => exact nomatch abort

theorem deliver_spent (spent : receiver.session.Spent receiver.config descriptor) :
    (message.deliver receiver nowMs result resumeOffset).session.Spent receiver.config
      descriptor := by
  rw [deliver_eq_step]
  exact (step_moves receiver _).session.spent (own.about nowMs result resumeOffset) spent

end

end receiver

/-! ### Where the sender stands

Sender and receiver are at most one message apart. As long as the receiver has not acted on the
current message, older ones may be under way. Afterwards there are only copies of it, and behind its
first acknowledgement only others. -/

/-- What decides the message a sender sends and the statuses it takes. -/
structure SenderPosition where
  descriptor : WlBulkDescriptor
  phase : WlBulkPhase
  nextOffset : UInt64
  actionLength : Nat
  negotiatedChunkSize : UInt32
  chunkAcknowledged : Bool

/-- The position of a sender. -/
def WlBulkSender.position (sender : WlBulkSender) : SenderPosition :=
  { descriptor := sender.descriptor, phase := sender.phase, nextOffset := sender.nextOffset,
    actionLength := sender.actionLength, negotiatedChunkSize := sender.negotiatedChunkSize,
    chunkAcknowledged := sender.chunkAcknowledged }

/-- The span of the object a position is about. -/
def BulkTransfer.span (transfer : BulkTransfer) (position : SenderPosition) : Bytes :=
  transfer.object.readAt position.nextOffset.toNat position.actionLength

/-- Its chunk. -/
def BulkTransfer.piece (transfer : BulkTransfer) (position : SenderPosition) : WlBulkChunk :=
  { transferId := transfer.descriptor.transferId, offset := position.nextOffset,
    data := .bytes (transfer.span position) }

/-- The message of a position the protocol leads to: nothing is negotiated yet, or what was
negotiated allows the next span, or everything is acknowledged. -/
inductive Current (config : WlBulkReceiverConfig) (transfer : BulkTransfer)
    (position : SenderPosition) : BulkMessage → Prop where
  | opening (phase : position.phase = .phaseBegin) (offset : position.nextOffset = 0) :
      Current config transfer position (.beginning transfer.descriptor)
  | sending (phase : position.phase = .phaseChunk)
      (negotiated : config.negotiated transfer.descriptor = some position.negotiatedChunkSize)
      (length : (transfer.span position).length = position.actionLength)
      (allowed : SpanAllowed config transfer.descriptor position.nextOffset.toNat
        (transfer.span position)) :
      Current config transfer position
        (.chunk (transfer.piece position))
  | closing (phase : position.phase = .phaseEnd)
      (negotiated : config.negotiated transfer.descriptor = some position.negotiatedChunkSize)
      (offset : position.nextOffset = transfer.descriptor.totalLength) :
      Current config transfer position
        (.ending transfer.descriptor.transferId transfer.descriptor.totalLength
          transfer.descriptor.objectCrc32c)

/-- The receiver has not acted on the current message. -/
def Before (config : WlBulkReceiverConfig) (transfer : BulkTransfer) (position : SenderPosition)
    (session : BulkSession) : BulkMessage → Prop
  | .beginning _ => session.Unopened transfer.descriptor.transferId
  | _ => session.Running config transfer.descriptor ∧ session.nextOffset = position.nextOffset

/-- The receiver has acted on the current message. -/
def Past (config : WlBulkReceiverConfig) (transfer : BulkTransfer) (position : SenderPosition)
    (session : BulkSession) : BulkMessage → Prop
  | .beginning _ => session.Running config transfer.descriptor
  | .chunk _ => session.Running config transfer.descriptor ∧
      session.nextOffset = position.nextOffset + UInt64.ofNat position.actionLength
  | .ending .. => session.Finished config transfer.descriptor
  | .abort .. => False

namespace SenderPosition

/-- A message whose status the sender has taken. -/
def Old (position : SenderPosition) : BulkMessage → Prop
  | .beginning _ => position.phase ≠ .phaseBegin
  | .chunk piece =>
    position.phase ≠ .phaseBegin ∧
      piece.offset.toNat + piece.data.length ≤ position.nextOffset.toNat ∧
      (position.phase = .phaseChunk → position.chunkAcknowledged = true)
  | _ => False

/-- A status the sender passes over. -/
def Stale (position : SenderPosition) (status : WlBulkStatus) : Prop :=
  status.transferId ≠ position.descriptor.transferId ∨
    status.code = .ok ∧
      (status.phase.value < position.phase.value ∨
        position.phase = .phaseChunk ∧ status.phase = .phaseChunk ∧
          position.chunkAcknowledged = true ∧ status.nextOffset ≤ position.nextOffset)

end SenderPosition

/-- What the receiver says about the current message. -/
structure Told (config : WlBulkReceiverConfig) (transfer : BulkTransfer) (message : BulkMessage)
    (code : WlBulkStatusCode) (offset : UInt64) (status : WlBulkStatus) : Prop where
  own : status.transferId = transfer.descriptor.transferId
  phase : status.phase = message.phase
  code : status.code = code
  offset : status.nextOffset = offset
  negotiated : config.negotiated transfer.descriptor = some status.acceptedChunkSize

section sync

variable (transfer : BulkTransfer) (config : WlBulkReceiverConfig) (position : SenderPosition)
  (current : BulkMessage) (session : BulkSession) (messages : List BulkMessage)
  (reports : List WlBulkStatus)

/-- A status from before the receiver acted on the current message. -/
def Early (status : WlBulkStatus) : Prop :=
  position.Stale status ∨ Told config transfer current .busy position.nextOffset status

/-- The receiver has not acted on the current message: older messages may still be under way, and
as long as they are, every status is one the sender passes over. -/
structure SyncBefore : Prop where
  stands : Before config transfer position session current
  messages : ∃ olds news, messages = olds ++ news ∧
    (∀ message ∈ olds, position.Old message ∧ message.Own transfer.descriptor ∧
      message.Shaped config transfer.descriptor) ∧
    (∀ message ∈ news, message = current) ∧
    (olds ≠ [] → ∀ status ∈ reports, position.Stale status)
  reports : ∀ status ∈ reports, Early transfer config position current status

/-- The receiver has acted on the current message: only copies of it are under way, and nothing but
acknowledgements of it follows the first one. -/
structure SyncPast : Prop where
  stands : Past config transfer position session current
  messages : ∀ message ∈ messages, message = current
  reports : ∃ earlier acks, reports = earlier ++ acks ∧
    (∀ status ∈ earlier, Early transfer config position current status) ∧
    ∀ status ∈ acks, Told config transfer current .ok session.nextOffset status

/-- Sender and receiver are at most one message apart. -/
structure LineSync : Prop where
  own : position.descriptor = transfer.descriptor
  turn : Current config transfer position current
  stands : SyncBefore transfer config position current session messages reports ∨
    SyncPast transfer config position current session messages reports

end sync

section sync

variable {transfer : BulkTransfer} {config : WlBulkReceiverConfig} {position : SenderPosition}
  {current : BulkMessage} {session : BulkSession} {messages : List BulkMessage}
  {reports : List WlBulkStatus}

namespace Current

variable (turn : Current config transfer position current)

include turn

theorem own : current.Own transfer.descriptor ∧ current.Shaped config transfer.descriptor := by
  cases turn with
  | opening => exact ⟨rfl, trivial⟩
  | sending phase negotiated length allowed => exact ⟨rfl, _, rfl, allowed⟩
  | closing => exact ⟨⟨rfl, rfl, rfl⟩, trivial⟩

theorem phase_eq : position.phase = current.phase ∧ current.phase ≠ .phaseAbort := by
  cases turn with
  | opening phase | sending phase | closing phase => exact ⟨phase, nofun⟩

end Current

namespace LineSync

variable (sync : LineSync transfer config position current session messages reports)

include sync

theorem messages_own :
    ∀ message ∈ messages, message.Own transfer.descriptor ∧
      message.Shaped config transfer.descriptor ∧ message.phase ≠ .phaseAbort := by
  have copy : ∀ message, message = current → message.Own transfer.descriptor ∧
      message.Shaped config transfer.descriptor ∧ message.phase ≠ .phaseAbort := by
    rintro _ rfl
    exact ⟨sync.turn.own.1, sync.turn.own.2, sync.turn.phase_eq.2⟩
  intro message member
  rcases sync.stands with before | past
  · obtain ⟨_, _, rfl, old, new, _⟩ := before.messages
    rcases List.mem_append.mp member with here | there
    · obtain ⟨settled, own, shaped⟩ := old message here
      refine ⟨own, shaped, ?_⟩
      cases message with
      | beginning | chunk => exact nofun
      | ending | abort => exact settled.elim
    · exact copy message (new message there)
  · exact copy message (past.messages message member)

theorem onTrack : session.OnTrack config transfer.descriptor := by
  rcases sync.stands with before | past
  · have stands := before.stands
    cases sync.turn with
    | opening => exact .inl stands
    | sending | closing => exact .inr (.inl stands.1)
  · have stands := past.stands
    cases sync.turn with
    | opening => exact .inr (.inl stands)
    | sending => exact .inr (.inl stands.1)
    | closing => exact .inr (.inr stands)

theorem messageLost : LineSync transfer config position current session messages.tail reports := by
  refine ⟨sync.own, sync.turn, ?_⟩
  rcases sync.stands with before | past
  · obtain ⟨olds, news, rfl, old, new, quiet⟩ := before.messages
    refine .inl ⟨before.stands, ?_, before.reports⟩
    cases olds with
    | nil =>
      exact ⟨[], news.tail, rfl, List.forall_mem_nil _,
        fun message member => new message (List.mem_of_mem_tail member),
        fun some => absurd rfl some⟩
    | cons first olds =>
      exact ⟨olds, news, rfl, fun message member => old message (List.mem_cons_of_mem _ member),
        new, fun _ => quiet (List.cons_ne_nil _ _)⟩
  · exact .inr ⟨past.stands, fun message member => past.messages message
      (List.mem_of_mem_tail member), past.reports⟩

theorem sent :
    LineSync transfer config position current session (messages ++ [current]) reports := by
  have grown : ∀ news : List BulkMessage, (∀ each ∈ news, each = current) →
      ∀ each ∈ news ++ [current], each = current :=
    fun news new => List.forall_mem_append.mpr ⟨new, List.forall_mem_singleton.mpr rfl⟩
  refine ⟨sync.own, sync.turn, ?_⟩
  rcases sync.stands with before | past
  · obtain ⟨olds, news, rfl, old, new, quiet⟩ := before.messages
    exact .inl ⟨before.stands, ⟨olds, news ++ [current], List.append_assoc _ _ _, old,
      grown news new, quiet⟩, before.reports⟩
  · exact .inr ⟨past.stands, grown messages past.messages, past.reports⟩

end LineSync

variable {status : WlBulkStatus} {before : List BulkMessage} {later : BulkSession}

theorem LineSync.statusTaken
    (sync : LineSync transfer config position current session messages (status :: reports)) :
    LineSync transfer config position current session messages reports := by
  refine ⟨sync.own, sync.turn, ?_⟩
  rcases sync.stands with before | past
  · obtain ⟨olds, news, split, old, new, quiet⟩ := before.messages
    exact .inl ⟨before.stands, ⟨olds, news, split, old, new, fun some each member =>
      quiet some each (List.mem_cons_of_mem _ member)⟩, fun each member =>
      before.reports each (List.mem_cons_of_mem _ member)⟩
  · obtain ⟨earlier, acks, split, early, acked⟩ := past.reports
    refine .inr ⟨past.stands, past.messages, ?_⟩
    cases earlier with
    | nil =>
      obtain rfl : status :: reports = acks := split
      exact ⟨[], reports, rfl, List.forall_mem_nil _, fun each member =>
        acked each (List.mem_cons_of_mem _ member)⟩
    | cons first earlier =>
      obtain ⟨rfl, rfl⟩ := List.cons.inj split
      exact ⟨earlier, acks, rfl, fun each member => early each (List.mem_cons_of_mem _ member),
        acked⟩

/-! ### A message arrives

By what the message is and where the receiver stands: an old message, the current one for the first
time, or another copy of it. -/

theorem BulkSession.OnTrack.not_failed {descriptor : WlBulkDescriptor}
    (onTrack : session.OnTrack config descriptor) (failed : session.state = .failed) :
    session.descriptor ≠ descriptor := by
  intro own
  rcases onTrack with unopened | running | finished
  · exact unopened.unknown (by rw [failed]; exact nofun)
      (congrArg WlBulkDescriptor.transferId own).symm
  · exact nomatch failed.symm.trans running.state
  · exact nomatch failed.symm.trans finished.state

/-- A message that leaves a failed session behind has given a cause. -/
theorem Arrives.failed {receiver after : WlBulkReceiver} {descriptor : WlBulkDescriptor}
    {message : BulkMessage} (arrives : Arrives descriptor message receiver after)
    (notAbort : message.phase ≠ .phaseAbort) (state : after.session.state = .failed)
    (own : after.session.descriptor = descriptor) : message.stopCause receiver after ≠ none := by
  rcases arrives with ⟨_, onTrack⟩ | ⟨_, cause | abort⟩
  · exact absurd own (onTrack.not_failed state)
  · exact cause
  · exact absurd abort notAbort

variable {receiver after : WlBulkReceiver} {message : BulkMessage}

/-- What a message leaves on a line in sync: a cause, or a status and a line in sync. -/
def Synced (transfer : BulkTransfer) (position : SenderPosition) (current : BulkMessage)
    (messages : List BulkMessage) (reports : List WlBulkStatus) (message : BulkMessage)
    (receiver after : WlBulkReceiver) : Prop :=
  message.stopCause receiver after ≠ none ∨
    ∃ status, after.statusPending = true ∧ after.pendingStatus = status ∧
      LineSync transfer receiver.config position current after.session messages
        (reports ++ [status])

theorem Answers.synced (answers : Answers receiver after later status)
    (sync : LineSync transfer receiver.config position current later messages
      (reports ++ [status])) :
    Synced transfer position current messages reports message receiver after :=
  .inr ⟨status, answers.pending, answers.status, answers.session ▸ sync⟩

theorem SyncBefore.head
    (sync : SyncBefore transfer config position current session (message :: messages) reports) :
    (position.Old message ∧ message.Own transfer.descriptor ∧
        message.Shaped config transfer.descriptor ∧ ∀ status ∈ reports, position.Stale status) ∨
      ∀ each ∈ message :: messages, each = current := by
  obtain ⟨olds, _, split, old, new, quiet⟩ := sync.messages
  cases olds with
  | nil =>
    rw [split]
    exact .inr new
  | cons =>
    obtain ⟨rfl, _⟩ := List.cons.inj split
    obtain ⟨settled, own, shaped⟩ := old message List.mem_cons_self
    exact .inl ⟨settled, own, shaped, quiet (List.cons_ne_nil _ _)⟩

theorem SyncBefore.stale
    (sync : SyncBefore transfer config position current session (message :: messages) reports)
    (quiet : ∀ status ∈ reports, position.Stale status) (stale : position.Stale status) :
    SyncBefore transfer config position current session messages (reports ++ [status]) := by
  have still : ∀ each ∈ reports ++ [status], position.Stale each :=
    List.forall_mem_append.mpr ⟨quiet, List.forall_mem_singleton.mpr stale⟩
  refine ⟨sync.stands, ?_, fun each member => .inl (still each member)⟩
  obtain ⟨olds, news, split, old, new, _⟩ := sync.messages
  cases olds with
  | nil =>
    refine ⟨[], messages, rfl, List.forall_mem_nil _, fun each member => ?_,
      fun _ => still⟩
    exact new each (by rw [← List.nil_append news, ← split]; exact .tail _ member)
  | cons first olds =>
    obtain ⟨_, rfl⟩ := List.cons.inj split
    exact ⟨olds, news, rfl, fun each member => old each (.tail _ member), new, fun _ => still⟩

section

variable (sync : SyncBefore transfer config position current session before reports)
  (news : ∀ each ∈ messages, each = current)

include sync news

theorem SyncBefore.busy (stands : Before config transfer position later current)
    (busy : Told config transfer current .busy position.nextOffset status) :
    SyncBefore transfer config position current later messages (reports ++ [status]) := by
  refine ⟨stands, ⟨[], messages, rfl, List.forall_mem_nil _, news, fun some => absurd rfl some⟩, ?_⟩
  exact List.forall_mem_append.mpr ⟨sync.reports, List.forall_mem_singleton.mpr (.inr busy)⟩

theorem SyncBefore.acked (stands : Past config transfer position later current)
    (acked : Told config transfer current .ok later.nextOffset status) :
    SyncPast transfer config position current later messages (reports ++ [status]) :=
  ⟨stands, news, reports, [status], rfl, sync.reports, List.forall_mem_singleton.mpr acked⟩

end

theorem SyncPast.acked
    (sync : SyncPast transfer config position current session (message :: messages) reports)
    (acked : Told config transfer current .ok session.nextOffset status) :
    SyncPast transfer config position current session messages (reports ++ [status]) := by
  obtain ⟨earlier, acks, rfl, early, late⟩ := sync.reports
  refine ⟨sync.stands, fun each member => sync.messages each (.tail _ member), earlier,
    acks ++ [status], List.append_assoc _ _ _, early, ?_⟩
  exact List.forall_mem_append.mpr ⟨late, List.forall_mem_singleton.mpr acked⟩

section deliveries

variable (own : position.descriptor = transfer.descriptor)
  (turn : Current receiver.config transfer position current)
  (ready : receiver.statusPending = false) (nowMs : UInt32) (result : WlBulkSinkResult)

include own turn ready

theorem deliver_old (identified : transfer.descriptor.transferId ≠ 0)
    (before : SyncBefore transfer receiver.config position current receiver.session
      (message :: messages) reports) (old : position.Old message)
    (mine : message.Own transfer.descriptor)
    (shaped : message.Shaped receiver.config transfer.descriptor)
    (quiet : ∀ status ∈ reports, position.Stale status) (resumeOffset : UInt64) :
    Synced transfer position current messages reports message receiver
      (message.deliver receiver nowMs result resumeOffset) := by
  have later : (position.phase = .phaseChunk ∨ position.phase = .phaseEnd) ∧
      receiver.session.Running receiver.config transfer.descriptor ∧
      receiver.session.nextOffset = position.nextOffset := by
    have stands := before.stands
    cases turn with
    | opening phase =>
      cases message with
      | beginning => exact absurd phase old
      | chunk => exact absurd phase old.1
      | ending | abort => exact old.elim
    | sending phase => exact ⟨.inl phase, stands⟩
    | closing phase => exact ⟨.inr phase, stands⟩
  obtain ⟨later, running, reached⟩ := later
  cases message with
  | beginning other =>
    obtain rfl : other = transfer.descriptor := mine
    refine (onBegin_running running ready nowMs result resumeOffset).synced ⟨own, turn,
      .inl (before.stale quiet (.inr ⟨rfl, .inl ?_⟩))⟩
    show WlBulkPhase.phaseBegin.value < position.phase.value
    rcases later with phase | phase
    · rw [phase]
      decide
    · rw [phase]
      decide
  | chunk =>
    obtain ⟨_, holds, allowed⟩ := shaped
    obtain ⟨_, behind, acknowledged⟩ := old
    rw [holds] at behind
    refine (onChunk_repeated running ready mine identified holds allowed ?_ nowMs result).synced
      ⟨own, turn, .inl (before.stale quiet (.inr ⟨rfl, ?_⟩))⟩
    · rw [UInt64.le_iff_toNat_le, allowed.finish,
        show receiver.nextOffset = position.nextOffset from reached]
      exact behind
    · rcases later with phase | phase
      · exact .inr ⟨phase, rfl, acknowledged phase, reached ▸ UInt64.le_refl _⟩
      · refine .inl ?_
        show WlBulkPhase.phaseChunk.value < position.phase.value
        rw [phase]
        decide
  | ending | abort => exact old.elim

omit turn in
theorem deliver_opening (phase : position.phase = .phaseBegin) (offset : position.nextOffset = 0)
    (sync : SyncBefore transfer receiver.config position (.beginning transfer.descriptor)
      receiver.session before reports)
    (news : ∀ each ∈ messages, each = .beginning transfer.descriptor) (resumeOffset : UInt64) :
    Synced transfer position (.beginning transfer.descriptor) messages reports
      (.beginning transfer.descriptor) receiver
      (wlBulkReceiverOnBegin receiver transfer.descriptor nowMs result resumeOffset).1 := by
  have unopened : receiver.session.Unopened transfer.descriptor.transferId := sync.stands
  have turn : Current receiver.config transfer position _ := .opening phase offset
  cases negotiated : receiver.config.negotiated transfer.descriptor with
  | none =>
    refine .inl ?_
    rw [BulkMessage.stopCause, if_pos ⟨ready, negotiated⟩]
    exact nofun
  | some =>
    have admitted := unopened.admits ready negotiated
    by_cases busy : result = .busy
    · subst busy
      exact (onBegin_busy admitted negotiated nowMs resumeOffset).synced ⟨own, turn,
        .inl (sync.busy news (unopened.vacated _) ⟨rfl, rfl, rfl, offset.symm, negotiated⟩)⟩
    by_cases usable : result = .ok → ¬ receiver.config.Resumable transfer.descriptor resumeOffset
    · obtain ⟨state, kept⟩ := onBegin_failed admitted negotiated nowMs busy usable
      have arrives := @deliver_arrives receiver _ (.beginning transfer.descriptor) rfl nowMs result
        resumeOffset (.inl unopened)
      exact .inl (arrives.failed nofun state kept)
    · obtain ⟨rfl, resumable⟩ := Classical.not_imp.mp usable
      refine (onBegin_opened admitted negotiated nowMs (not_not.mp resumable)).synced ⟨own,
        turn, .inr (sync.acked news ?_ ⟨rfl, rfl, rfl, rfl, negotiated⟩)⟩
      exact ⟨rfl, rfl, (vacated_code receiver.session).trans unopened.code, negotiated,
        not_not.mp resumable⟩

omit ready in
/-- The sink of a running session is called for the current message. -/
theorem SinkOutcome.synced {done : BulkSession}
    (outcome : SinkOutcome receiver transfer.descriptor.transferId current.phase done after)
    (arrives : Arrives transfer.descriptor current receiver after)
    (sync : SyncBefore transfer receiver.config position current receiver.session before reports)
    (news : ∀ each ∈ messages, each = current)
    (running : receiver.session.Running receiver.config transfer.descriptor)
    (reached : receiver.nextOffset = position.nextOffset)
    (waits : ∀ call, Before receiver.config transfer position (receiver.session.called call) current)
    (past : Past receiver.config transfer position done current) :
    Synced transfer position current messages reports current receiver after := by
  cases outcome with
  | busy call answers =>
    exact answers.synced ⟨own, turn,
      .inl (sync.busy news (waits call) ⟨rfl, rfl, rfl, reached, running.negotiated⟩)⟩
  | done answers =>
    exact answers.synced ⟨own, turn,
      .inr (sync.acked news past ⟨rfl, rfl, rfl, rfl, running.negotiated⟩)⟩
  | failed state kept =>
    exact .inl (arrives.failed turn.phase_eq.2 state (kept.trans running.own))

variable (identified : transfer.descriptor.transferId ≠ 0) (resumeOffset : UInt64)

include identified

theorem deliver_current
    (sync : SyncBefore transfer receiver.config position current receiver.session before reports)
    (news : ∀ each ∈ messages, each = current) :
    Synced transfer position current messages reports current receiver
      (current.deliver receiver nowMs result resumeOffset) := by
  have copy := turn
  cases turn with
  | opening phase offset =>
    exact deliver_opening own ready nowMs result phase offset sync news resumeOffset
  | sending phase negotiated length allowed =>
    obtain ⟨running, here⟩ := sync.stands
    obtain ⟨state, same, -, negotiation⟩ := running.shows
    rw [← same] at allowed
    have next := @onChunk_next _ _ (transfer.piece position) ready state
      (congrArg (·.transferId) same.symm) rfl negotiation identified allowed here.symm nowMs result
    have arrives := deliver_arrives copy.own.1 nowMs result resumeOffset (.inr (.inl running))
    rw [show BulkMessage.deliver (.chunk _) receiver nowMs result resumeOffset = _ from next]
      at arrives ⊢
    have outcome := @chunkAnswered_outcome receiver (transfer.piece position)
      (position.nextOffset + UInt64.ofNat (transfer.span position).length) nowMs result
    refine outcome.synced own copy arrives sync news running here
      (fun _ => ⟨{ running with }, here⟩) ⟨?_, ?_⟩
    · exact { running with resumable := same ▸ allowed.resumable }
    · exact congrArg (position.nextOffset + UInt64.ofNat ·) length
  | closing phase negotiated offset =>
    obtain ⟨running, here⟩ := sync.stands
    have next := onEnd_next running ready identified (here.trans offset) nowMs result
    have arrives := deliver_arrives copy.own.1 nowMs result resumeOffset (.inr (.inl running))
    rw [show BulkMessage.deliver (.ending _ _ _) receiver nowMs result resumeOffset = _ from next]
      at arrives ⊢
    exact (endAnswered_outcome _ nowMs result).synced own copy arrives sync news running here
      (fun _ => ⟨{ running with }, here⟩)
      ⟨rfl, running.own, running.negotiated, here.trans offset⟩

theorem deliver_again
    (sync : SyncPast transfer receiver.config position current receiver.session
      (current :: messages) reports) :
    Synced transfer position current messages reports current receiver
      (current.deliver receiver nowMs result resumeOffset) := by
  have stands := sync.stands
  have copy := turn
  cases turn with
  | opening =>
    exact (onBegin_running stands ready nowMs result resumeOffset).synced ⟨own, copy,
      .inr (sync.acked ⟨rfl, rfl, rfl, rfl, stands.negotiated⟩)⟩
  | sending phase negotiated length allowed =>
    obtain ⟨running, reached⟩ := stands
    refine (onChunk_repeated running ready rfl identified rfl allowed ?_ nowMs result).synced
      ⟨own, copy, .inr (sync.acked ⟨rfl, rfl, rfl, rfl, running.negotiated⟩)⟩
    rw [length]
    exact UInt64.le_of_eq reached.symm
  | closing =>
    exact (onEnd_repeated stands ready identified nowMs result).synced ⟨own, copy,
      .inr (sync.acked ⟨rfl, rfl, rfl, rfl, stands.negotiated⟩)⟩

end deliveries

theorem deliver_synced (identified : transfer.descriptor.transferId ≠ 0)
    (sync : LineSync transfer receiver.config position current receiver.session
      (message :: messages) reports)
    (ready : receiver.statusPending = false) (nowMs : UInt32) (result : WlBulkSinkResult)
    (resumeOffset : UInt64) :
    Synced transfer position current messages reports message receiver
      (message.deliver receiver nowMs result resumeOffset) := by
  rcases sync.stands with before | past
  · rcases before.head with ⟨old, own, shaped, quiet⟩ | copies
    · exact deliver_old sync.own sync.turn ready nowMs result identified before old own shaped
        quiet resumeOffset
    · obtain rfl := copies message List.mem_cons_self
      exact deliver_current sync.own sync.turn ready nowMs result identified resumeOffset before
        fun each member => copies each (.tail _ member)
  · obtain rfl := past.messages message List.mem_cons_self
    exact deliver_again sync.own sync.turn ready nowMs result identified resumeOffset past

end sync

end Wirelink
