/-
Module: Wirelink.Proofs.BulkRecord
Purpose: The record a bulk receiver keeps of a transfer. No message resurrects a finished transfer,
  and the record agrees with its descriptor exactly as long as no refused Begin inherits a longer
  offset and no Abort meets a transfer whose record is gone.
Trusted boundary: none
-/
import Wirelink.Lib.Run
import Wirelink.Proofs.BulkSession
import Wirelink.Proofs.BulkTransfer

namespace Wirelink

/-! ### No resurrection

A record that is over is changed only by a call that replaces it. Until then the sink is called for
other transfers only. -/

/-- The sink was called some more, but never for this transfer. -/
def Unserved (transferId : UInt32) (before after : List BulkSinkCall) : Prop :=
  ∃ added, after = added ++ before ∧ ∀ call ∈ added, call.serves transferId = false

section unserved

variable {transferId : UInt32} {before after calls : List BulkSinkCall}

theorem Unserved.refl : Unserved transferId before before :=
  ⟨[], rfl, nofun⟩

theorem Unserved.cons (unserved : Unserved transferId before after) {call : BulkSinkCall}
    (other : call.serves transferId = false) : Unserved transferId before (call :: after) := by
  obtain ⟨added, rfl, quiet⟩ := unserved
  refine ⟨call :: added, rfl, fun each member => ?_⟩
  rcases List.mem_cons.mp member with here | there
  · rw [here]
    exact other
  · exact quiet each there

theorem Unserved.trans (first : Unserved transferId before after)
    (second : Unserved transferId after calls) : Unserved transferId before calls := by
  obtain ⟨early, rfl, quietEarly⟩ := first
  obtain ⟨late, rfl, quietLate⟩ := second
  refine ⟨late ++ early, (List.append_assoc _ _ _).symm, fun call member => ?_⟩
  rcases List.mem_append.mp member with new | old
  · exact quietLate call new
  · exact quietEarly call old

theorem Unserved.released (session : BulkSession) (reason : Int32) :
    Unserved transferId session.calls (session.released reason).calls := by
  unfold BulkSession.released
  split
  · exact Unserved.refl.cons rfl
  · exact .refl

theorem Unserved.vacated (session : BulkSession) :
    Unserved transferId session.calls session.vacated.calls := by
  unfold BulkSession.vacated
  split
  · exact .released session _
  · exact .refl

end unserved

/-- A session that is over and was opened for this transfer. -/
def BulkSession.Terminal (session : BulkSession) (transferId : UInt32) : Prop :=
  (session.state = .completed ∨ session.state = .failed ∨ session.state = .aborted) ∧
    session.descriptor.transferId = transferId

variable {receiver : WlBulkReceiver}

theorem TerminalRecord.states {transferId : UInt32} (record : TerminalRecord receiver transferId) :
    receiver.state ≠ .idle ∧ receiver.state ≠ .receiving := by
  rcases record.1 with state | state | state
  all_goals
    rw [state]
    exact ⟨nofun, nofun⟩

/-- No move but the ones that replace the record serves a finished transfer. -/
theorem SessionMove.unserved {op : ReceiverOp} {after : BulkSession} {transferId : UInt32}
    (move : SessionMove receiver op after) (record : TerminalRecord receiver transferId)
    (kept : ¬ Replaces transferId receiver op) :
    after.Terminal transferId ∧ Unserved transferId receiver.calls after.calls := by
  obtain ⟨opened, past⟩ := record.states
  cases move with
  | kept => exact ⟨record, .refl⟩
  | @beginBusy descriptor nowMs resumeOffset admitted =>
    have other : descriptor.transferId ≠ transferId := by
      rw [← record.2]
      exact admitted.2.2.2 opened
    obtain ⟨sameDescriptor, _, _, sameState⟩ := vacated_fields receiver.session
    have terminal : receiver.session.vacated.Terminal transferId := by
      rw [BulkSession.Terminal, sameDescriptor, sameState]
      exact record
    exact ⟨terminal, (Unserved.vacated receiver.session).cons (beq_false_of_ne other)⟩
  | @beginFailed descriptor nowMs result resumeOffset acceptedChunkSize admitted negotiated notBusy
      refused =>
      refine absurd ⟨admitted.1, admitted.2.1, ?_, notBusy⟩ kept
      rw [← record.2]
      exact admitted.2.2.2 opened
  | @begun descriptor nowMs resumeOffset acceptedChunkSize admitted negotiated resumable =>
    refine absurd ⟨admitted.1, admitted.2.1, ?_, ?_⟩ kept
    · rw [← record.2]
      exact admitted.2.2.2 opened
    · exact nofun
  | waited asked => exact absurd asked.receiving past
  | broke asked => exact absurd asked.receiving past
  | wrote nowMs receiving => exact absurd receiving past
  | finished nowMs receiving => exact absurd receiving past
  | aborted reason nowMs running =>
    refine ⟨⟨.inr (.inr rfl), ?_⟩, Unserved.released receiver.session reason⟩
    rw [(released_fields receiver.session reason).1]
    exact record.2
  | tombstone reason nowMs ready nonzero past unknown =>
    refine absurd ⟨ready, nonzero, ?_⟩ kept
    rw [← record.2]
    exact unknown opened
  | timedOut nowMs receiving => exact absurd receiving past
  | reset unread => exact absurd unread kept

/-- Once a transfer is finished, no sequence of messages, polls and status calls makes the sink
begin, write or finish it again, as long as none of them replaces the record: no Begin of another id
that the sink does not answer `BUSY`, no Abort of another id, no reset. The record stays. -/
theorem finished_transfer_not_resurrected (receiver : WlBulkReceiver) (transferId : UInt32)
    (record : TerminalRecord receiver transferId) (ops : List ReceiverOp)
    (kept : ∀ (count : Nat) (inside : count < ops.length),
      ¬ Replaces transferId (runReceiver receiver (ops.take count)) ops[count]) :
    TerminalRecord (runReceiver receiver ops) transferId ∧
      ∃ added, (runReceiver receiver ops).calls = added ++ receiver.calls ∧
        ∀ call ∈ added, call.serves transferId = false := by
  show _ ∧ Unserved transferId receiver.calls (runReceiver receiver ops).calls
  induction ops generalizing receiver with
  | nil => exact ⟨record, .refl⟩
  | cons op ops ih =>
    have first : ¬ Replaces transferId receiver op := kept 0 (Nat.zero_lt_succ _)
    obtain ⟨terminal, quiet⟩ := (step_moves receiver op).session.unserved record first
    obtain ⟨last, later⟩ := ih (receiver.step op) terminal fun count inside =>
      kept (count + 1) (Nat.succ_lt_succ inside)
    exact ⟨last, quiet.trans later⟩

/-- The small receiver after an Abort of a transfer it never saw. -/
def abortedReceiver : WlBulkReceiver :=
  runReceiver smallBulkReceiver
    [.onAbort 7 0 0, .statusAcquire,
      .statusRelease
        { status :=
            { transferId := 7, phase := .phaseAbort, code := .aborted, nextOffset := 0,
              acceptedChunkSize := 0 }
          token := 1 }]

/-- A delayed Begin of that transfer, then one of another that finds the sink busy. -/
def delayedBegins : List ReceiverOp :=
  [.onBegin smallTransfer.descriptor 5 .ok 0, .statusAcquire,
    .statusRelease
      { status :=
          { transferId := 7, phase := .phaseBegin, code := .conflict, nextOffset := 0,
            acceptedChunkSize := 0 }
        token := 2 },
    .onBegin { smallTransfer.descriptor with transferId := 8 } 6 .busy 0]

theorem delayed_begin_not_resurrected :
    TerminalRecord abortedReceiver 7 ∧
      TerminalRecord (runReceiver abortedReceiver delayedBegins) 7 ∧
      ∃ added, (runReceiver abortedReceiver delayedBegins).calls = added ++ abortedReceiver.calls ∧
        ∀ call ∈ added, call.serves 7 = false := by
  have record : TerminalRecord abortedReceiver 7 := by decide +kernel
  exact ⟨record, finished_transfer_not_resurrected abortedReceiver 7 record delayedBegins
    (by decide +kernel)⟩

/-! ### The record and its descriptor

A sound record is that of a Begin which reached the sink, or the tombstone of an Abort. Every move
that does not disagree with its transfer keeps the record sound. -/

/-- What `wl_bulk_receiver_init` has made sure of. -/
structure ConfigValid (config : WlBulkReceiverConfig) : Prop where
  chunk : config.maxChunkSize ≠ 0
  alignment : config.writeAlignment ≠ 0
  fits : config.writeAlignment ≤ config.maxChunkSize

theorem wlBulkReceiverInit_valid {config : WlBulkReceiverConfig}
    (built : wlBulkReceiverInit config = .ok receiver) :
    receiver.config = config ∧ ConfigValid config := by
  unfold wlBulkReceiverInit at built
  split at built
  · exact nomatch built
  case isFalse valid =>
    cases built
    simp only [not_or, not_not, powerOfTwo, Bool.and_eq_true, bne_iff_ne] at valid
    exact ⟨rfl, valid.2.1, valid.2.2.1.1, UInt32.not_lt.mp valid.2.2.2.1⟩

/-- What a negotiation that succeeds has made sure of. -/
structure Negotiated (config : WlBulkReceiverConfig) (descriptor : WlBulkDescriptor)
    (chunkSize : UInt32) : Prop where
  identified : descriptor.transferId ≠ 0
  requested : descriptor.requestedChunkSize ≠ 0
  nonzero : chunkSize ≠ 0
  within : chunkSize ≤ descriptor.requestedChunkSize
  aligned : chunkSize % config.writeAlignment = 0 ∨ descriptor.totalLength ≤ chunkSize.toUInt64

theorem negotiated_some {config : WlBulkReceiverConfig} {descriptor : WlBulkDescriptor}
    {chunkSize : UInt32} (configured : ConfigValid config)
    (negotiated : config.negotiated descriptor = some chunkSize) :
    Negotiated config descriptor chunkSize := by
  unfold WlBulkReceiverConfig.negotiated WlBulkReceiver.negotiateChunkSize at negotiated
  split at negotiated
  · exact nomatch negotiated
  case isFalse valid =>
    simp only [not_or] at valid
    dsimp only at negotiated
    generalize limited : min descriptor.requestedChunkSize config.maxChunkSize = limit at negotiated
    have bounds : limit ≤ descriptor.requestedChunkSize ∧ limit ≠ 0 := by
      have chosen : (if descriptor.requestedChunkSize ≤ config.maxChunkSize then
          descriptor.requestedChunkSize else config.maxChunkSize) = limit := limited
      split at chosen
      · rw [← chosen]
        exact ⟨UInt32.le_refl _, valid.2.2⟩
      case isFalse larger =>
        rw [← chosen]
        exact ⟨UInt32.le_of_lt (UInt32.not_le.mp larger), configured.chunk⟩
    have reduced : (limit - limit % config.writeAlignment).toNat =
        limit.toNat - limit.toNat % config.writeAlignment.toNat := by
      rw [UInt32.toNat_sub_of_le]
      · rw [UInt32.toNat_mod]
      · rw [UInt32.le_iff_toNat_le]
        exact Nat.mod_le _ _
    split at negotiated
    case isTrue rounded =>
      split at negotiated
      · exact nomatch negotiated
      case isFalse fits =>
        obtain rfl := Option.some.inj negotiated
        exact ⟨valid.1, valid.2.2, bounds.2, bounds.1, .inr (UInt64.not_lt.mp fits)⟩
    case isFalse rounded =>
      have same := Option.some.inj negotiated
      refine ⟨valid.1, valid.2.2, same ▸ rounded, ?_, .inl ?_⟩
      · rw [← same]
        refine UInt32.le_trans ?_ bounds.1
        rw [UInt32.le_iff_toNat_le, reduced]
        exact Nat.sub_le _ _
      · rw [← same, ← UInt32.toNat_inj, UInt32.toNat_mod, reduced]
        exact Nat.sub_mod_eq_zero_of_mod_eq (Nat.mod_mod _ _).symm

/-- The sink opened a session for this descriptor. -/
def OpenedIn (config : WlBulkReceiverConfig) (calls : List BulkSinkCall)
    (descriptor : WlBulkDescriptor) : Prop :=
  ∃ resumeOffset, config.Resumable descriptor resumeOffset ∧
    .begun descriptor resumeOffset .ok ∈ calls

/-- The record of a transfer the sink was asked to begin. -/
structure RecordHeld (config : WlBulkReceiverConfig) (session : BulkSession) : Prop where
  negotiated : config.negotiated session.descriptor = some session.acceptedChunkSize
  offset : session.nextOffset ≤ session.descriptor.totalLength

/-- The record of an Abort: it knows nothing but the id, and the sink was never opened for it. -/
structure RecordBuried (config : WlBulkReceiverConfig) (session : BulkSession) : Prop where
  aborted : session.state = .aborted
  descriptor : session.descriptor =
    { noDescriptor with transferId := session.descriptor.transferId }
  offset : session.nextOffset = 0
  chunkSize : session.acceptedChunkSize = 0
  unopened : ∀ descriptor, OpenedIn config session.calls descriptor →
    descriptor.transferId ≠ session.descriptor.transferId

/-- What holds of the session as long as no call makes it disagree with its transfer. -/
structure SessionSound (config : WlBulkReceiverConfig) (session : BulkSession) : Prop where
  begun : ∀ descriptor resumeOffset result, .begun descriptor resumeOffset result ∈ session.calls →
    ∃ chunkSize, config.negotiated descriptor = some chunkSize
  idle : session.state = .idle → session.descriptor = noDescriptor
  record : session.state ≠ .idle → RecordHeld config session ∨ RecordBuried config session

/-- What holds of the receiver. -/
structure RecordSound (receiver : WlBulkReceiver) : Prop where
  configured : ConfigValid receiver.config
  session : SessionSound receiver.config receiver.session
  status : receiver.statusPending = true → SessionReported receiver.session receiver.pendingStatus

section sound

variable {config : WlBulkReceiverConfig} {session : BulkSession}

theorem begun_released {reason : Int32} {descriptor : WlBulkDescriptor} {resumeOffset : UInt64}
    {result : WlBulkSinkResult}
    (member : .begun descriptor resumeOffset result ∈ (session.released reason).calls) :
    .begun descriptor resumeOffset result ∈ session.calls := by
  unfold BulkSession.released at member
  split at member
  · rcases List.mem_cons.mp member with same | old
    · exact nomatch same
    · exact old
  · exact member

theorem begun_vacated {descriptor : WlBulkDescriptor} {resumeOffset : UInt64}
    {result : WlBulkSinkResult}
    (member : .begun descriptor resumeOffset result ∈ session.vacated.calls) :
    .begun descriptor resumeOffset result ∈ session.calls := by
  unfold BulkSession.vacated at member
  split at member
  · exact begun_released member
  · exact member

theorem SinkAsked.begun_called {op : ReceiverOp} {answer result : WlBulkSinkResult}
    {call : BulkSinkCall} (asked : SinkAsked receiver op answer call)
    {descriptor : WlBulkDescriptor} {resumeOffset : UInt64}
    (member : .begun descriptor resumeOffset result ∈ call :: receiver.calls) :
    .begun descriptor resumeOffset result ∈ receiver.session.calls := by
  rcases List.mem_cons.mp member with same | old
  · cases asked with
    | write | finish => exact nomatch same
  · exact old

theorem SessionSound.running (sound : SessionSound config session)
    (state : session.state = .receiving ∨ session.state = .failed) :
    RecordHeld config session := by
  have opened : session.state ≠ .idle ∧ session.state ≠ .aborted := by
    rcases state with receiving | failed
    · rw [receiving]
      exact ⟨nofun, nofun⟩
    · rw [failed]
      exact ⟨nofun, nofun⟩
  rcases sound.record opened.1 with held | buried
  · exact held
  · exact absurd buried.aborted opened.2

theorem RecordHeld.moved {after : BulkSession} (held : RecordHeld config session)
    (descriptor : after.descriptor = session.descriptor)
    (offset : after.nextOffset = session.nextOffset)
    (chunkSize : after.acceptedChunkSize = session.acceptedChunkSize) :
    RecordHeld config after := by
  refine ⟨?_, ?_⟩
  · rw [descriptor, chunkSize]
    exact held.negotiated
  · rw [descriptor, offset]
    exact held.offset

theorem SessionMove.sound {op : ReceiverOp} {after : BulkSession}
    (move : SessionMove receiver op after) (sound : SessionSound receiver.config receiver.session)
    (agrees : ¬ Disagrees receiver op) : SessionSound receiver.config after := by
  cases move with
  | kept => exact sound
  | @beginBusy descriptor nowMs resumeOffset admitted =>
    obtain ⟨sameDescriptor, sameOffset, sameChunk, sameState⟩ := vacated_fields receiver.session
    refine ⟨fun other offset result member => ?_, fun idle => ?_, fun opened => ?_⟩
    · rcases List.mem_cons.mp member with same | old
      · cases same
        exact Option.isSome_iff_exists.mp admitted.2.1
      · exact sound.begun other offset result (begun_vacated old)
    · exact sameDescriptor.trans (sound.idle (sameState.symm.trans idle))
    · -- the record stays as it was, that of a transfer or a tombstone
      rcases sound.record (fun idle => opened (sameState.trans idle)) with held | buried
      · exact .inl (held.moved sameDescriptor sameOffset sameChunk)
      · refine .inr ⟨sameState.trans buried.aborted, ?_, sameOffset.trans buried.offset,
          sameChunk.trans buried.chunkSize, fun other reopened => ?_⟩
        · show receiver.session.vacated.descriptor =
            { noDescriptor with transferId := receiver.session.vacated.descriptor.transferId }
          rw [sameDescriptor]
          exact buried.descriptor
        · obtain ⟨offset, resumable, member⟩ := reopened
          show other.transferId ≠ receiver.session.vacated.descriptor.transferId
          rw [sameDescriptor]
          rcases List.mem_cons.mp member with same | old
          · exact nomatch same
          · exact buried.unopened other ⟨offset, resumable, begun_vacated old⟩
  | @beginFailed descriptor nowMs result resumeOffset acceptedChunkSize admitted negotiated notBusy
      refused =>
      -- the offset of the transfer before is kept, and need not fit the new descriptor
      have fits : receiver.nextOffset ≤ descriptor.totalLength :=
        UInt64.not_lt.mp fun longer => agrees ⟨admitted, notBusy, refused, longer⟩
      refine ⟨fun other offset answer member => ?_, nofun, fun _ =>
        .inl ⟨negotiated, ?_⟩⟩
      · rcases List.mem_cons.mp member with same | old
        · cases same
          exact ⟨_, negotiated⟩
        · exact sound.begun other offset answer (begun_vacated old)
      · show receiver.session.vacated.nextOffset ≤ descriptor.totalLength
        rw [(vacated_fields receiver.session).2.1]
        exact fits
  | @begun descriptor nowMs resumeOffset acceptedChunkSize admitted negotiated resumable =>
    refine ⟨fun other offset answer member => ?_, nofun, fun _ =>
      .inl ⟨negotiated, resumable.1⟩⟩
    rcases List.mem_cons.mp member with same | old
    · cases same
      exact ⟨_, negotiated⟩
    · exact sound.begun other offset answer (begun_vacated old)
  | waited asked =>
    have held := sound.running (.inl asked.receiving)
    exact ⟨fun other offset answer member => sound.begun other offset answer
      (asked.begun_called member), sound.idle, fun _ => .inl ⟨held.negotiated, held.offset⟩⟩
  | broke asked notBusy notOk =>
    have held := sound.running (.inl asked.receiving)
    exact ⟨fun other offset answer member => sound.begun other offset answer
      (asked.begun_called member), nofun, fun _ => .inl ⟨held.negotiated, held.offset⟩⟩
  | wrote nowMs receiving next valid =>
    have held := sound.running (.inl receiving)
    obtain ⟨_, shape, ends⟩ := chunkShapeValid_iff.mp valid
    refine ⟨fun other offset answer member => ?_, sound.idle, fun _ => .inl ⟨held.negotiated, ?_⟩⟩
    · exact sound.begun other offset answer ((SinkAsked.write nowMs .ok receiving next
        valid).begun_called member)
    · exact UInt64.le_iff_toNat_le.mpr (ends ▸ shape.inside)
  | @finished totalLength objectCrc32c nowMs receiving complete =>
    have held := sound.running (.inl receiving)
    have asked := @SinkAsked.finish receiver totalLength objectCrc32c nowMs .ok receiving complete
    exact ⟨fun other offset answer member => sound.begun other offset answer
      (asked.begun_called member), nofun, fun _ => .inl ⟨held.negotiated, held.offset⟩⟩
  | aborted reason nowMs running =>
    obtain ⟨sameDescriptor, sameOffset, sameChunk, _⟩ := released_fields receiver.session reason
    exact ⟨fun other offset answer member => sound.begun other offset answer
      (begun_released member), nofun, fun _ =>
      .inl ((sound.running running).moved sameDescriptor sameOffset sameChunk)⟩
  | @tombstone transferId reason nowMs ready nonzero past unknown =>
    refine ⟨fun other offset answer member => sound.begun other offset answer
      (begun_released member), nofun, fun _ =>
      .inr ⟨rfl, rfl, rfl, rfl, fun other opened same => ?_⟩⟩
    obtain ⟨offset, resumable, member⟩ := opened
    exact agrees ⟨ready, nonzero, past, unknown, other,
      ⟨offset, resumable, begun_released member⟩, same⟩
  | timedOut nowMs receiving =>
    obtain ⟨sameDescriptor, sameOffset, sameChunk, _⟩ :=
      released_fields receiver.session WlBulkErr.timeout.code
    exact ⟨fun other offset answer member => sound.begun other offset answer
      (begun_released member), nofun, fun _ =>
      .inl ((sound.running (.inl receiving)).moved sameDescriptor sameOffset sameChunk)⟩
  | reset unread =>
    exact ⟨fun other offset answer member => sound.begun other offset answer
      (begun_released member), fun _ => rfl, fun opened => absurd rfl opened⟩

end sound

/-! ### The sender of the record

A conforming sender understands every status of a sound record. A call that disagrees gives a status
which some conforming sender takes for a protocol error. -/

theorem WlBulkPhase.eq_of_value {first second : WlBulkPhase} (same : first.value = second.value) :
    first = second := by
  cases first <;> cases second <;> first | rfl | exact nomatch same

section senders

variable {receiver : WlBulkReceiver} {sender : WlBulkSender}

/-- What a conforming sender can rely on: the offset is inside its object, and the chunk size is the
one it negotiated, or one it may negotiate, or that of a tombstone for its own Abort. -/
theorem ConformingSender.terminal (sound : RecordSound receiver)
    (conforming : ConformingSender receiver sender) :
    receiver.nextOffset ≤ sender.descriptor.totalLength ∧
      (sender.negotiatedChunkSize ≠ 0 →
        receiver.acceptedChunkSize = sender.negotiatedChunkSize) ∧
      (sender.negotiatedChunkSize = 0 →
        receiver.acceptedChunkSize ≠ 0 ∧
            receiver.acceptedChunkSize ≤ sender.descriptor.requestedChunkSize ∨
          receiver.acceptedChunkSize = 0 ∧ sender.phase = .phaseAbort) := by
  have opened : receiver.state ≠ .idle := by
    intro idle
    rcases conforming.transfer with own | ⟨tombstone, _⟩
    · have empty : receiver.descriptor = noDescriptor := sound.session.idle idle
      have requested := conforming.started
      rw [own, empty] at requested
      exact requested rfl
    · exact nomatch idle.symm.trans tombstone.1
  rcases sound.session.record opened with held | buried
  · have own : sender.descriptor = receiver.descriptor := by
      rcases conforming.transfer with own | ⟨tombstone, _⟩
      · exact own
      · have requested := (negotiated_some sound.configured held.negotiated).requested
        rw [show receiver.session.descriptor = _ from tombstone.2] at requested
        exact absurd rfl requested
    have facts := negotiated_some sound.configured held.negotiated
    refine ⟨?_, fun nonzero => ?_, fun _ => .inl ⟨facts.nonzero, ?_⟩⟩
    · rw [own]
      exact held.offset
    · rcases conforming.negotiated with zero | ⟨_, negotiated⟩
      · exact absurd zero nonzero
      · rw [own] at negotiated
        exact Option.some.inj (held.negotiated.symm.trans negotiated)
    · rw [own]
      exact facts.within
  · have phase : sender.phase = .phaseAbort ∧
        sender.descriptor.transferId = receiver.descriptor.transferId := by
      rcases conforming.transfer with own | ⟨_, id, phase⟩
      · have requested := conforming.started
        rw [own, show receiver.descriptor = _ from buried.descriptor] at requested
        exact absurd rfl requested
      · exact ⟨phase, id⟩
    refine ⟨?_, fun nonzero => ?_, fun _ => .inr ⟨buried.chunkSize, phase.1⟩⟩
    · rw [show receiver.nextOffset = 0 from buried.offset]
      exact UInt64.zero_le
    · rcases conforming.negotiated with zero | ⟨reopened, _⟩
      · exact absurd zero nonzero
      · exact absurd phase.2 (buried.unopened sender.descriptor reopened)

theorem ConformingSender.no_protocol_error (sound : RecordSound receiver)
    (ended : receiver.reportsEnd) (conforming : ConformingSender receiver sender)
    (nowMs : UInt32) :
    (wlBulkSenderOnStatus sender receiver.pendingStatus nowMs).2 ≠ .protocol := by
  obtain ⟨offset, chunkSize⟩ := (sound.status ended.1).ended ended.2
  obtain ⟨within, matching, proposed⟩ := conforming.terminal sound
  have offsetEq : receiver.pendingStatus.nextOffset = receiver.nextOffset := offset
  have chunkEq : receiver.pendingStatus.acceptedChunkSize = receiver.acceptedChunkSize := chunkSize
  unfold wlBulkSenderOnStatus
  split
  · exact nofun
  case isFalse known =>
  split
  · exact nofun
  split
  · exact nofun
  split
  · have valid : sender.terminalStatusValid receiver.pendingStatus = true := by
      unfold WlBulkSender.terminalStatusValid
      rw [offsetEq, chunkEq, if_neg (UInt64.not_lt.mpr within)]
      split
      case isTrue nonzero => exact beq_iff_eq.mpr (matching nonzero)
      case isFalse zero =>
        rcases proposed (not_not.mp zero) with ⟨some, bounded⟩ | ⟨none, phase⟩
        · rw [if_neg some]
          simp only [WlBulkSender.proposedChunkSizeValid, Bool.not_eq_true', Bool.or_eq_false_iff,
            beq_eq_false_iff_ne, decide_eq_false_iff_not]
          exact ⟨some, UInt32.not_lt.mpr bounded⟩
        · rw [if_pos none]
          exact beq_iff_eq.mpr phase
    unfold onTerminalStatus
    rw [if_neg (not_not.mpr valid)]
    split
    · exact nofun
    · exact nofun
  case isFalse elsewhere =>
    split
    · exact nofun
    case isFalse fresh =>
      have notAbort : receiver.pendingStatus.phase ≠ .phaseAbort :=
        fun phase => elsewhere ⟨phase, ended.2⟩
      -- a status that is not stale answers the very phase the sender is in
      have samePhase : receiver.pendingStatus.phase = sender.phase := by
        have reached := conforming.phase.resolve_left notAbort
        simp only [WlBulkSender.statusIsStale, Bool.or_eq_true, decide_eq_true_eq, not_or] at fresh
        exact WlBulkPhase.eq_of_value (Nat.le_antisymm reached (Nat.not_lt.mp fresh.1))
      have sizes : sender.statusChunkSizeMatches receiver.pendingStatus = true := by
        simp only [WlBulkSender.statusChunkSizeMatches, Bool.or_eq_true, beq_iff_eq]
        rw [chunkEq]
        cases phase : sender.phase with
        | phaseNone => exact absurd (.inl (samePhase.trans phase)) known
        | phaseBegin => exact .inl rfl
        | phaseChunk => exact .inr (matching (conforming.begun (.inl phase)))
        | phaseEnd => exact .inr (matching (conforming.begun (.inr phase)))
        | phaseAbort => exact absurd (samePhase.trans phase) notAbort
      rw [if_neg (not_or.mpr ⟨not_not.mpr samePhase, not_not.mpr sizes⟩)]
      unfold onCurrentStatus
      rcases ended.2 with aborted | timedOut
      · rw [aborted]
        exact nofun
      · rw [timedOut]
        exact nofun

end senders

theorem RecordSound.consistent (sound : RecordSound receiver) :
    RecordConsistent receiver := by
  have offset : receiver.state ≠ .idle → receiver.nextOffset ≤ receiver.descriptor.totalLength := by
    intro opened
    rcases sound.session.record opened with held | buried
    · exact held.offset
    · rw [show receiver.nextOffset = 0 from buried.offset]
      exact UInt64.zero_le
  refine ⟨offset, fun opened pending _ => ?_, fun ended sender nowMs conforming =>
    conforming.no_protocol_error sound ended nowMs⟩
  rcases (sound.status pending).offset with zero | same
  · rw [zero]
    exact UInt64.zero_le
  · rw [same]
    exact offset opened

theorem RecordSound.step (sound : RecordSound receiver) {op : ReceiverOp}
    (agrees : ¬ Disagrees receiver op) : RecordSound (receiver.step op) := by
  have moves := step_moves receiver op
  refine ⟨?_, ?_, fun pending => ?_⟩
  · rw [moves.config]
    exact sound.configured
  · rw [moves.config]
    exact moves.session.sound sound.session agrees
  · rcases moves.status pending with ⟨before, same, session⟩ | ⟨reported, _⟩
    · rw [same, session]
      exact sound.status before
    · exact reported

theorem wlBulkReceiverOnBegin_admitted {descriptor : WlBulkDescriptor} {chunkSize : UInt32}
    (admitted : receiver.admits descriptor)
    (negotiated : receiver.config.negotiated descriptor = some chunkSize) (nowMs : UInt32)
    (result : WlBulkSinkResult) (resumeOffset : UInt64) :
    (wlBulkReceiverOnBegin receiver descriptor nowMs result resumeOffset).1 =
      beginAnswered (if receiver.state ≠ .idle then
        receiver.releaseSink WlBulkErr.invalidState.code else receiver) descriptor chunkSize nowMs
          result resumeOffset := by
  obtain ⟨ready, _, past, unknown⟩ := admitted
  have negotiation : receiver.negotiateChunkSize descriptor = some chunkSize := negotiated
  unfold wlBulkReceiverOnBegin
  rw [if_neg (by rw [ready]; exact nofun), negotiation]
  dsimp only
  rw [if_neg, if_neg]
  · rintro (receiving | ⟨opened, same⟩)
    · exact past receiving
    · exact unknown opened same
  · rintro ⟨opened, same⟩
    exact unknown opened (congrArg WlBulkDescriptor.transferId same).symm

theorem wlBulkReceiverOnAbort_unknown {transferId : UInt32} (ready : receiver.statusPending = false)
    (nonzero : transferId ≠ 0) (past : receiver.state ≠ .receiving)
    (unknown : receiver.state ≠ .idle → transferId ≠ receiver.descriptor.transferId)
    (reason : Int32) (nowMs : UInt32) :
    (wlBulkReceiverOnAbort receiver transferId reason nowMs).1 =
      receiver.retainAbortTombstone transferId nowMs := by
  unfold wlBulkReceiverOnAbort
  rw [if_neg (by rw [ready]; exact nofun), if_neg nonzero, if_pos]
  by_cases idle : receiver.state = .idle
  · exact .inl idle
  · exact .inr ⟨past, unknown idle⟩

theorem calls_releaseSink {call : BulkSinkCall} (member : call ∈ receiver.calls) (reason : Int32) :
    call ∈ (receiver.releaseSink reason).calls := by
  unfold WlBulkReceiver.releaseSink
  split
  · exact List.mem_cons_of_mem _ member
  · exact member

/-- A sender that negotiated and now waits for the answer to its Abort. -/
def abandonedSender (descriptor : WlBulkDescriptor) (chunkSize : UInt32) : WlBulkSender :=
  { (default : WlBulkSender) with
    descriptor := descriptor, negotiatedChunkSize := chunkSize, state := .waitStatus,
    phase := .phaseAbort, retryWait := false }

theorem abandonedSender_protocol {descriptor : WlBulkDescriptor} {transferId chunkSize : UInt32}
    (own : descriptor.transferId = transferId) (nonzero : chunkSize ≠ 0) (nowMs : UInt32) :
    (wlBulkSenderOnStatus (abandonedSender descriptor chunkSize)
      { transferId := transferId, phase := .phaseAbort, code := .aborted, nextOffset := 0,
        acceptedChunkSize := 0 } nowMs).2 = .protocol := by
  have invalid : ¬ (abandonedSender descriptor chunkSize).terminalStatusValid
      { transferId := transferId, phase := .phaseAbort, code := .aborted, nextOffset := 0,
        acceptedChunkSize := 0 } = true := by
    have held : (abandonedSender descriptor chunkSize).negotiatedChunkSize ≠ 0 := nonzero
    rw [WlBulkSender.terminalStatusValid, if_pos held]
    exact fun same => nonzero (beq_iff_eq.mp same).symm
  unfold wlBulkSenderOnStatus
  split
  case isTrue malformed => rcases malformed with phase | code <;> contradiction
  split
  case isTrue foreign => exact absurd own.symm foreign
  split
  case isTrue idle => rcases idle with state | retry <;> contradiction
  split
  · rw [onTerminalStatus, if_pos invalid]
    rfl
  case isFalse other => exact absurd ⟨rfl, .inl rfl⟩ other

theorem Disagrees.inconsistent (sound : RecordSound receiver) {op : ReceiverOp}
    (disagrees : Disagrees receiver op) :
    ¬ RecordConsistent (receiver.step op) := by
  intro consistent
  cases op with
  | onBegin descriptor nowMs result resumeOffset =>
    obtain ⟨admitted, notBusy, refused, longer⟩ := disagrees
    obtain ⟨chunkSize, negotiated⟩ := Option.isSome_iff_exists.mp admitted.2.1
    obtain ⟨config, vacated⟩ := vacated_ready receiver
    rw [← config] at refused
    have session := (beginAnswered_refused notBusy refused chunkSize nowMs).2.1
    rw [← wlBulkReceiverOnBegin_admitted admitted negotiated, vacated] at session
    have inherited : (receiver.step (.onBegin descriptor nowMs result resumeOffset)).nextOffset =
        receiver.nextOffset :=
      (congrArg BulkSession.nextOffset session).trans (vacated_fields receiver.session).2.1
    have replaced : (receiver.step (.onBegin descriptor nowMs result resumeOffset)).descriptor =
        descriptor := congrArg BulkSession.descriptor session
    have within := consistent.offset fun idle =>
      nomatch (congrArg BulkSession.state session).symm.trans idle
    rw [inherited, replaced] at within
    exact UInt64.not_lt.mpr within longer
  | onAbort transferId reason nowMs =>
    obtain ⟨ready, nonzero, past, unknown, descriptor, ⟨resumeOffset, resumable, member⟩, same⟩ :=
      disagrees
    obtain ⟨chunkSize, negotiated⟩ := sound.session.begun descriptor resumeOffset .ok member
    have facts := negotiated_some sound.configured negotiated
    have buried : receiver.step (.onAbort transferId reason nowMs) =
        receiver.retainAbortTombstone transferId nowMs :=
      wlBulkReceiverOnAbort_unknown ready nonzero past unknown reason nowMs
    have config := (step_moves receiver (.onAbort transferId reason nowMs)).config
    rw [buried] at consistent config
    have kept : .begun descriptor resumeOffset .ok ∈
        (receiver.retainAbortTombstone transferId nowMs).calls := calls_releaseSink member _
    refine consistent.sender ⟨rfl, .inl rfl⟩ (abandonedSender descriptor chunkSize) nowMs
      ⟨⟨rfl, rfl⟩, facts.requested, .inr ⟨⟨rfl, rfl⟩, same, rfl⟩, .inr ⟨?_, ?_⟩, ?_, .inl rfl⟩ ?_
    · exact ⟨resumeOffset, config ▸ resumable, kept⟩
    · exact config ▸ negotiated
    · rintro (phase | phase) <;> exact nomatch phase
    · exact abandonedSender_protocol same facts.nonzero nowMs
  | onChunk | onEnd | statusAcquire | statusDefer | statusRelease | poll | reset => exact disagrees

/-- In every run of a receiver from its initialization: each state has a record that agrees with its
transfer, and a status its sender understands, exactly as long as no Begin is refused by the sink
while the record holds a larger offset than the new transfer is long, and no Abort comes for a
transfer that was opened and whose record is gone. -/
theorem record_consistent_iff (config : WlBulkReceiverConfig) (receiver : WlBulkReceiver)
    (built : wlBulkReceiverInit config = .ok receiver) (ops : List ReceiverOp) :
    (∀ count, RecordConsistent (runReceiver receiver (ops.take count))) ↔
      ∀ (count : Nat) (inside : count < ops.length),
        ¬ Disagrees (runReceiver receiver (ops.take count)) ops[count] := by
  have init : RecordSound receiver := by
    obtain ⟨own, valid⟩ := wlBulkReceiverInit_valid built
    obtain ⟨record, quiet⟩ := wlBulkReceiverInit_ok built
    have noCalls : receiver.session.calls = [] := congrArg BulkSession.calls record
    have idle : receiver.session.state = .idle := congrArg BulkSession.state record
    refine ⟨own ▸ valid, ⟨fun descriptor resumeOffset result member => ?_, fun _ => ?_,
      fun opened => absurd idle opened⟩, fun pending => nomatch quiet.symm.trans pending⟩
    · rw [noCalls] at member
      exact nomatch member
    · exact congrArg BulkSession.descriptor record
  exact forall_take_safe_iff_steps (fun _ sound => sound.consistent)
    (fun _ _ sound agrees => sound.step agrees)
    (fun _ _ sound disagrees => disagrees.inconsistent sound) init ops

/-! ### A refused Begin after a longer transfer

The two transfers share nothing but the receiver, whose record still holds the offset of the first
one. -/

/-- The status of a phase is read and released. -/
def statusRead (status : WlBulkStatus) (token : UInt32) : List ReceiverOp :=
  [.statusAcquire, .statusRelease { status := status, token := token }]

/-- The descriptor of the transfer the sink refuses. -/
def refusedDescriptor : WlBulkDescriptor :=
  { transferId := 2, totalLength := 2, requestedChunkSize := 2, objectCrc32c := 0 }

/-- The status that reports the refusal. -/
def refusedStatus : WlBulkStatus :=
  { transferId := 2, phase := .phaseBegin, code := .writeFailed, nextOffset := 0,
    acceptedChunkSize := 2 }

/-- Four bytes are resumed at their end and finished; the next transfer, of two bytes, is refused by
the sink and aborted by its sender. -/
def inheritedOffsetOps : List ReceiverOp :=
  [.onBegin { refusedDescriptor with transferId := 1, totalLength := 4 } 0 .ok 4] ++
    statusRead
      { transferId := 1, phase := .phaseBegin, code := .ok, nextOffset := 4,
        acceptedChunkSize := 2 } 1 ++
    [.onEnd 1 4 0 0 .ok] ++
    statusRead
      { transferId := 1, phase := .phaseEnd, code := .ok, nextOffset := 4,
        acceptedChunkSize := 2 } 2 ++
    [.onBegin refusedDescriptor 0 .writeFailed 0] ++ statusRead refusedStatus 3 ++
    [.onAbort 2 9 0]

/-- The sender of the refused transfer hands out its action and submits it. -/
def submitAction (sender : WlBulkSender) : WlBulkSender :=
  match wlBulkSenderActionAcquire sender with
  | (acquired, .ok action) => (wlBulkSenderActionSubmitted acquired action 0).1
  | (acquired, .error _) => acquired

/-- The sender of the refused transfer: its Begin failed, and it has submitted an Abort. -/
def refusedSender : WlBulkSender :=
  let begun := submitAction (wlBulkSenderStart smallBulkSender refusedDescriptor).1
  let failed := (wlBulkSenderOnStatus begun refusedStatus 0).1
  submitAction (wlBulkSenderRequestAbort failed 9).1

/-- The refused record keeps the offset of the transfer before it, the status of the Abort carries
that offset, and the sender takes it for a protocol error. -/
theorem refused_begin_inherits_offset :
    (runReceiver smallBulkReceiver (inheritedOffsetOps.take 7)).state = .failed ∧
    (runReceiver smallBulkReceiver (inheritedOffsetOps.take 7)).descriptor.totalLength <
      (runReceiver smallBulkReceiver (inheritedOffsetOps.take 7)).nextOffset ∧
    (runReceiver smallBulkReceiver inheritedOffsetOps).pendingStatus =
      { transferId := 2, phase := .phaseAbort, code := .aborted, nextOffset := 4,
        acceptedChunkSize := 2 } ∧
    (wlBulkSenderOnStatus refusedSender
      (runReceiver smallBulkReceiver inheritedOffsetOps).pendingStatus 0).2 = .protocol := by
  decide +kernel

theorem inherited_offset_inconsistent :
    ¬ ∀ count, RecordConsistent (runReceiver smallBulkReceiver (inheritedOffsetOps.take count)) := by
  have disagrees : Disagrees (runReceiver smallBulkReceiver (inheritedOffsetOps.take 6))
      (.onBegin refusedDescriptor 0 .writeFailed 0) := by
    refine ⟨⟨?_, ?_, ?_, ?_⟩, ?_, ?_, ?_⟩ <;> decide +kernel
  intro consistent
  exact (record_consistent_iff smallReceiverConfig smallBulkReceiver rfl inheritedOffsetOps).mp
    consistent 6 (by decide +kernel) disagrees

end Wirelink
