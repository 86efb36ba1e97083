/-
Module: Wirelink.Proofs.BulkStatus
Purpose: What a bulk sender does with a status: it passes over a stale one, waits after a busy one,
  and turns to its next message after an acknowledgement. Nothing else stops it on a line in sync.
Trusted boundary: none
-/
import Wirelink.Proofs.BulkSync

namespace Wirelink

/-! ### A status arrives

A sender looks at a status only while it waits for one. It passes over a stale one, spends a retry
on a busy one, and goes on to its next message after an acknowledgement of the current one. -/

section statuses

variable {transfer : BulkTransfer} {config : WlBulkReceiverConfig} {sender : WlBulkSender}
  {current : BulkMessage} {session : BulkSession} {status : WlBulkStatus}

theorem onStatus_unready (unready : ¬ (sender.state = .waitStatus ∧ sender.retryWait = false))
    (nowMs : UInt32) : (wlBulkSenderOnStatus sender status nowMs).1 = sender := by
  unfold wlBulkSenderOnStatus
  split
  · rfl
  split
  · rfl
  split
  · rfl
  case isFalse waits =>
    simp only [not_or, not_not, ne_eq, Bool.not_eq_true] at waits
    exact absurd waits unready

theorem onStatus_stale (stale : sender.position.Stale status) (nowMs : UInt32) :
    (wlBulkSenderOnStatus sender status nowMs).1 = sender := by
  unfold wlBulkSenderOnStatus
  split
  · rfl
  split
  · rfl
  case isFalse own =>
  split
  · rfl
  rcases stale with foreign | ⟨code, behind⟩
  · exact absurd foreign own
  · have notEnd : ¬ (status.phase = .phaseAbort ∧
        (status.code = .aborted ∨ status.code = .timedOut)) := by
      rw [code]
      rintro ⟨_, aborted | timedOut⟩
      · exact nomatch aborted
      · exact nomatch timedOut
    have passed : sender.statusIsStale status = true := by
      unfold WlBulkSender.statusIsStale
      rcases behind with earlier | ⟨phase, samePhase, acknowledged, reached⟩
      · rw [decide_eq_true (show status.phase.value < sender.phase.value from earlier)]
        rfl
      · rw [show sender.phase = .phaseChunk from phase, samePhase, code,
          show sender.chunkAcknowledged = true from acknowledged,
          decide_eq_true (show status.nextOffset ≤ sender.nextOffset from reached)]
        decide
    rw [if_neg notEnd, if_pos passed]

theorem onStatus_current (own : status.transferId = sender.descriptor.transferId)
    (waiting : sender.state = .waitStatus ∧ sender.retryWait = false)
    (phase : status.phase = sender.phase) (known : sender.phase ≠ .phaseNone)
    (code : status.code = .ok ∨ status.code = .busy)
    (fresh : sender.statusIsStale status = false)
    (size : sender.statusChunkSizeMatches status = true) (nowMs : UInt32) :
    wlBulkSenderOnStatus sender status nowMs =
      onCurrentStatus (statusReceived sender status) status nowMs := by
  have codes : status.code ≠ .unknown ∧ status.code ≠ .aborted ∧ status.code ≠ .timedOut := by
    rcases code with code | code
    · rw [code]
      decide
    · rw [code]
      decide
  unfold wlBulkSenderOnStatus
  rw [if_neg (not_or.mpr ⟨phase ▸ known, codes.1⟩), if_neg (not_not.mpr own),
    if_neg (by rw [waiting.1, waiting.2]; simp), if_neg, if_neg (by rw [fresh]; simp),
    if_neg (not_or.mpr ⟨not_not.mpr phase, by rw [size]; simp⟩)]
  rintro ⟨_, aborted | timedOut⟩
  · exact codes.2.1 aborted
  · exact codes.2.2 timedOut

theorem Current.size_matches (turn : Current config transfer sender.position current)
    (negotiated : config.negotiated transfer.descriptor = some status.acceptedChunkSize) :
    sender.statusChunkSizeMatches status = true := by
  have matching : config.negotiated transfer.descriptor = some sender.negotiatedChunkSize →
      sender.statusChunkSizeMatches status = true := by
    intro same
    obtain same := Option.some.inj (negotiated.symm.trans same)
    exact Bool.or_eq_true _ _ |>.mpr (.inr (beq_iff_eq.mpr same))
  cases turn with
  | opening phase => exact Bool.or_eq_true _ _ |>.mpr (.inl (beq_iff_eq.mpr phase))
  | sending phase same | closing phase same => exact matching same

theorem Told.taken {code : WlBulkStatusCode} {offset : UInt64}
    (told : Told config transfer current code offset status)
    (own : sender.descriptor = transfer.descriptor)
    (turn : Current config transfer sender.position current)
    (waiting : sender.state = .waitStatus ∧ sender.retryWait = false)
    (known : code = .ok ∨ code = .busy) (fresh : sender.statusIsStale status = false)
    (nowMs : UInt32) :
    wlBulkSenderOnStatus sender status nowMs =
      onCurrentStatus (statusReceived sender status) status nowMs := by
  have phase : sender.phase = current.phase := turn.phase_eq.1
  refine onStatus_current (by rw [told.own, own]) waiting (told.phase.trans phase.symm) ?_
    (by rw [told.code]; exact known) fresh (turn.size_matches told.negotiated) nowMs
  rw [phase]
  cases turn with
  | opening | sending | closing => exact nofun

theorem onStatus_busy (own : sender.descriptor = transfer.descriptor)
    (turn : Current config transfer sender.position current)
    (busy : Told config transfer current .busy sender.nextOffset status) (nowMs : UInt32) :
    (wlBulkSenderOnStatus sender status nowMs).1.position = sender.position ∧
      ((wlBulkSenderOnStatus sender status nowMs).1.state = sender.state ∨
        (wlBulkSenderOnStatus sender status nowMs).1.state = .failed ∧ sender.Exhausted) := by
  by_cases waiting : sender.state = .waitStatus ∧ sender.retryWait = false
  · have phase : status.phase = sender.phase := busy.phase.trans turn.phase_eq.1.symm
    have fresh : sender.statusIsStale status = false := by
      unfold WlBulkSender.statusIsStale
      rw [busy.code, phase]
      simp
    rw [busy.taken own turn waiting (.inr rfl) fresh]
    unfold onCurrentStatus
    rw [busy.code]
    dsimp only
    rw [if_neg (not_not.mpr (show status.nextOffset = (statusReceived sender status).nextOffset
      from busy.offset))]
    unfold WlBulkSender.waitForRetry
    split
    case isTrue exhausted => exact ⟨rfl, .inr ⟨rfl, exhausted⟩⟩
    case isFalse => exact ⟨rfl, .inl rfl⟩
  · rw [onStatus_unready waiting]
    exact ⟨rfl, .inl rfl⟩

/-- The sender has taken the acknowledgement of a message and turned to the next one. -/
structure Advances (config : WlBulkReceiverConfig) (transfer : BulkTransfer)
    (current : BulkMessage) (status : WlBulkStatus) (next : SenderPosition)
    (following : BulkMessage) : Prop where
  own : next.descriptor = transfer.descriptor
  turn : Current config transfer next following
  moving : current.phase = .phaseBegin ∨ current.phase = .phaseChunk
  phase : next.phase = .phaseChunk ∨ next.phase = .phaseEnd
  offset : next.nextOffset = status.nextOffset
  acknowledged : current.phase = .phaseChunk → next.chunkAcknowledged = true

theorem prepared_span (configured : ConfigValid config) {offset : UInt64} {chunkSize : UInt32}
    (negotiated : config.negotiated transfer.descriptor = some chunkSize)
    (resumable : config.Resumable transfer.descriptor offset)
    (partly : offset ≠ transfer.descriptor.totalLength) {length : Nat}
    (chosen : length = min (transfer.descriptor.totalLength.toNat - offset.toNat) chunkSize.toNat) :
    (transfer.object.readAt offset.toNat length).length = length ∧
      SpanAllowed config transfer.descriptor offset.toNat
        (transfer.object.readAt offset.toNat length) := by
  have facts := negotiated_some configured negotiated
  have below : offset.toNat < transfer.descriptor.totalLength.toNat := by
    have le := UInt64.le_iff_toNat_le.mp resumable.1
    have ne : offset.toNat ≠ transfer.descriptor.totalLength.toNat :=
      fun same => partly (UInt64.toNat_inj.mp same)
    omega
  have nonzero : chunkSize.toNat ≠ 0 := fun zero => facts.nonzero (UInt32.toNat_inj.mp zero)
  have measured := transfer.measured
  have exact_ : (transfer.object.readAt offset.toNat length).length = length :=
    Bytes.length_readAt_of_le (by omega)
  refine ⟨exact_, ⟨?_, ⟨chunkSize, negotiated, by omega⟩, ?_, ?_, by omega⟩⟩
  · intro empty
    have none : length = 0 := by
      rw [← exact_, empty]
      rfl
    omega
  · have aligned := resumable.2.resolve_left partly
    have here := congrArg UInt64.toNat aligned
    exact here
  · rw [exact_]
    by_cases last : transfer.descriptor.totalLength.toNat - offset.toNat ≤ chunkSize.toNat
    · exact .inl (by omega)
    · rcases facts.aligned with aligned | small
      · refine .inr ?_
        have same : length = chunkSize.toNat := by omega
        rw [same]
        have here := congrArg UInt32.toNat aligned
        exact here
      · have bound := UInt64.le_iff_toNat_le.mp small
        rw [UInt32.toNat_toUInt64] at bound
        omega

theorem prepared_length (own : sender.descriptor = transfer.descriptor)
    (within : sender.nextOffset ≤ transfer.descriptor.totalLength)
    (partly : sender.nextOffset ≠ transfer.descriptor.totalLength) :
    (sender.preparePhase .phaseChunk).actionLength =
      min (transfer.descriptor.totalLength.toNat - sender.nextOffset.toNat)
        sender.negotiatedChunkSize.toNat := by
  have below : ¬ sender.nextOffset ≥ transfer.descriptor.totalLength :=
    fun above => partly (UInt64.le_antisymm within above)
  show WlBulkSender.chunkLength { sender with
    phase := .phaseChunk, state := .ready, actionAcquired := false, acquiredToken := 0,
    retryCount := 0, retryWait := false, waitIntervalMs := 0 } = _
  unfold WlBulkSender.chunkLength
  dsimp only
  rw [own, if_neg (not_or.mpr ⟨not_not.mpr rfl, below⟩)]
  have remaining : (transfer.descriptor.totalLength - sender.nextOffset).toNat =
      transfer.descriptor.totalLength.toNat - sender.nextOffset.toNat :=
    UInt64.toNat_sub_of_le _ _ within
  split
  case isTrue short =>
    rw [UInt64.lt_iff_toNat_lt, UInt32.toNat_toUInt64] at short
    omega
  case isFalse long =>
    rw [UInt64.lt_iff_toNat_lt, UInt32.toNat_toUInt64] at long
    omega

theorem prepared_stage (configured : ConfigValid config)
    (own : sender.descriptor = transfer.descriptor)
    (negotiated : config.negotiated transfer.descriptor = some sender.negotiatedChunkSize)
    (resumable : config.Resumable transfer.descriptor sender.nextOffset) :
    ∃ following,
      Current config transfer (sender.preparePhase sender.nextPhase).position following ∧
        (sender.nextPhase = .phaseChunk ∨ sender.nextPhase = .phaseEnd) := by
  by_cases whole : sender.nextOffset = transfer.descriptor.totalLength
  · have phase : sender.nextPhase = .phaseEnd := by
      unfold WlBulkSender.nextPhase
      rw [own, if_pos whole]
    rw [phase]
    exact ⟨_, .closing rfl negotiated whole, .inr rfl⟩
  · have phase : sender.nextPhase = .phaseChunk := by
      unfold WlBulkSender.nextPhase
      rw [own, if_neg whole]
    rw [phase]
    obtain ⟨length, allowed⟩ := prepared_span configured negotiated resumable whole
      (prepared_length own resumable.1 whole)
    exact ⟨_, .sending rfl negotiated length allowed, .inl rfl⟩

theorem Current.further (turn : Current config transfer sender.position current)
    (chunk : sender.phase = .phaseChunk) {offset : UInt64}
    (reached : offset = sender.nextOffset + UInt64.ofNat sender.actionLength) :
    ¬ offset ≤ sender.nextOffset := by
  cases turn with
  | opening phase | closing phase => exact nomatch chunk.symm.trans phase
  | sending _ _ length allowed =>
    have finish := allowed.finish
    have some : (transfer.span sender.position).length ≠ 0 := fun empty =>
      allowed.nonempty (List.eq_nil_of_length_eq_zero empty)
    rw [length] at finish some
    have here : offset.toNat = sender.nextOffset.toNat + sender.actionLength := by
      rw [reached]
      exact finish
    have positive : sender.actionLength ≠ 0 := some
    rw [UInt64.le_iff_toNat_le]
    omega

theorem onOkStatus_begin (configured : ConfigValid config)
    (own : sender.descriptor = transfer.descriptor) (phase : sender.phase = .phaseBegin)
    (negotiated : config.negotiated transfer.descriptor = some status.acceptedChunkSize)
    (resumable : config.Resumable transfer.descriptor status.nextOffset)
    (opening : current.phase = .phaseBegin) :
    (onOkStatus sender status).1.state = .ready ∧ ∃ following,
      Advances config transfer current status (onOkStatus sender status).1.position following := by
  have facts := negotiated_some configured negotiated
  have proposed : sender.proposedChunkSizeValid status.acceptedChunkSize = true := by
    unfold WlBulkSender.proposedChunkSizeValid
    simp only [Bool.not_eq_true', Bool.or_eq_false_iff, beq_eq_false_iff_ne,
      decide_eq_false_iff_not]
    exact ⟨facts.nonzero, UInt32.not_lt.mpr (own ▸ facts.within)⟩
  unfold onOkStatus
  rw [phase]
  dsimp only
  rw [if_neg (not_or.mpr ⟨not_not.mpr proposed, UInt64.not_lt.mpr (own ▸ resumable.1)⟩)]
  obtain ⟨following, next, phases⟩ := @prepared_stage transfer config
    { sender with
      negotiatedChunkSize := status.acceptedChunkSize, nextOffset := status.nextOffset }
    configured own negotiated resumable
  exact ⟨rfl, following, own, next, .inl opening, phases, rfl,
    fun chunk => nomatch opening.symm.trans chunk⟩

theorem onOkStatus_chunk (configured : ConfigValid config)
    (own : sender.descriptor = transfer.descriptor) (phase : sender.phase = .phaseChunk)
    (negotiated : config.negotiated transfer.descriptor = some sender.negotiatedChunkSize)
    (offset : status.nextOffset = sender.nextOffset + UInt64.ofNat sender.actionLength)
    (resumable : config.Resumable transfer.descriptor status.nextOffset)
    (sending : current.phase = .phaseChunk) :
    (onOkStatus sender status).1.state = .ready ∧ ∃ following,
      Advances config transfer current status (onOkStatus sender status).1.position following := by
  unfold onOkStatus
  rw [phase]
  dsimp only
  rw [if_neg (not_or.mpr ⟨not_not.mpr offset, UInt64.not_lt.mpr (own ▸ resumable.1)⟩)]
  obtain ⟨following, next, phases⟩ := @prepared_stage transfer config
    { sender with nextOffset := status.nextOffset, chunkAcknowledged := true }
    configured own negotiated resumable
  exact ⟨rfl, following, own, next, .inr sending, phases, rfl, fun _ => rfl⟩

theorem onOkStatus_end (phase : sender.phase = .phaseEnd)
    (whole : status.nextOffset = sender.descriptor.totalLength) :
    (onOkStatus sender status).1.state = .completed := by
  unfold onOkStatus
  rw [phase]
  dsimp only
  rw [if_neg (not_not.mpr whole)]
  rfl

/-- An acknowledgement is passed over, or it completes the transfer, or the sender advances. -/
theorem onStatus_acked (configured : ConfigValid config)
    (own : sender.descriptor = transfer.descriptor)
    (turn : Current config transfer sender.position current)
    (past : Past config transfer sender.position session current)
    (acked : Told config transfer current .ok session.nextOffset status) (nowMs : UInt32) :
    (wlBulkSenderOnStatus sender status nowMs).1 = sender ∨
      (wlBulkSenderOnStatus sender status nowMs).1.state = .completed ∨
      (wlBulkSenderOnStatus sender status nowMs).1.state = .ready ∧
        ∃ following, Advances config transfer current status
          (wlBulkSenderOnStatus sender status nowMs).1.position following := by
  by_cases waiting : sender.state = .waitStatus ∧ sender.retryWait = false
  swap
  · exact .inl (onStatus_unready waiting nowMs)
  have samePhase : status.phase = sender.phase := acked.phase.trans turn.phase_eq.1.symm
  have onOk : sender.statusIsStale status = false →
      wlBulkSenderOnStatus sender status nowMs =
        onOkStatus (statusReceived sender status) status := by
    intro fresh
    rw [acked.taken own turn waiting (.inl rfl) fresh]
    unfold onCurrentStatus
    rw [acked.code]
  have unchunked : sender.phase ≠ .phaseChunk → sender.statusIsStale status = false := by
    intro other
    unfold WlBulkSender.statusIsStale
    rw [samePhase, decide_eq_false (Nat.lt_irrefl _), beq_false_of_ne other]
    rfl
  have copy := turn
  cases turn with
  | opening phase =>
    have opening : sender.phase = .phaseBegin := phase
    rw [onOk (unchunked (by rw [opening]; exact nofun))]
    refine .inr (.inr (onOkStatus_begin configured own opening acked.negotiated ?_ rfl))
    rw [acked.offset]
    exact BulkSession.Running.resumable past
  | sending phase same =>
    have sending : sender.phase = .phaseChunk := phase
    obtain ⟨running, reached⟩ := past
    have offset : status.nextOffset =
        sender.nextOffset + UInt64.ofNat sender.actionLength := acked.offset.trans reached
    have fresh : sender.statusIsStale status = false := by
      unfold WlBulkSender.statusIsStale
      rw [samePhase, decide_eq_false (copy.further sending offset)]
      simp
    rw [onOk fresh]
    refine .inr (.inr (onOkStatus_chunk configured own sending same offset ?_ rfl))
    rw [acked.offset]
    exact running.resumable
  | closing phase =>
    have closing : sender.phase = .phaseEnd := phase
    rw [onOk (unchunked (by rw [closing]; exact nofun))]
    refine .inr (.inl (onOkStatus_end closing ?_))
    exact acked.offset.trans ((BulkSession.Finished.whole past).trans (by rw [← own]; rfl))

theorem onOutOfOrder_keeps (sender : WlBulkSender) (status : WlBulkStatus) :
    (onOutOfOrder sender status).1.descriptor = sender.descriptor ∧
      (sender.phase = .phaseAbort → (onOutOfOrder sender status).1.phase = .phaseAbort) := by
  unfold onOutOfOrder
  split
  · exact ⟨rfl, id⟩
  case isFalse usable =>
    refine ⟨rfl, fun phase => absurd (.inr (.inr (.inr ⟨?_, ?_⟩))) usable⟩
    · rw [phase]
      exact nofun
    · rw [phase]
      exact nofun

theorem onOkStatus_keeps (sender : WlBulkSender) (status : WlBulkStatus) :
    (onOkStatus sender status).1.descriptor = sender.descriptor ∧
      (sender.phase = .phaseAbort → (onOkStatus sender status).1.phase = .phaseAbort) := by
  unfold onOkStatus
  cases phase : sender.phase with
  | phaseBegin | phaseChunk | phaseEnd =>
    dsimp only
    split
    · exact ⟨rfl, nofun⟩
    · exact ⟨rfl, nofun⟩
  | phaseAbort => exact ⟨rfl, fun _ => rfl⟩
  | phaseNone => exact ⟨rfl, nofun⟩

/-- A status never changes the transfer of a sender, nor its phase once it aborts. -/
theorem onStatus_keeps (sender : WlBulkSender) (status : WlBulkStatus) (nowMs : UInt32) :
    (wlBulkSenderOnStatus sender status nowMs).1.descriptor = sender.descriptor ∧
      (sender.phase = .phaseAbort →
        (wlBulkSenderOnStatus sender status nowMs).1.phase = .phaseAbort) := by
  unfold wlBulkSenderOnStatus
  split
  · exact ⟨rfl, id⟩
  split
  · exact ⟨rfl, id⟩
  split
  · exact ⟨rfl, id⟩
  split
  · unfold onTerminalStatus
    split
    · exact ⟨rfl, id⟩
    split
    · exact ⟨rfl, id⟩
    · exact ⟨rfl, fun _ => rfl⟩
  split
  · exact ⟨rfl, id⟩
  split
  · exact ⟨rfl, id⟩
  unfold onCurrentStatus
  split
  · split
    · exact ⟨rfl, id⟩
    · unfold WlBulkSender.waitForRetry
      split
      · exact ⟨rfl, id⟩
      · exact ⟨rfl, id⟩
  · exact onOutOfOrder_keeps (statusReceived sender status) status
  · exact onOkStatus_keeps (statusReceived sender status) status
  · exact ⟨rfl, id⟩
  · exact ⟨rfl, id⟩

/-- A poll keeps the position; it stops the sender only at the end of its retries. -/
theorem wlBulkSenderPoll_keeps (sender : WlBulkSender) (nowMs : UInt32) :
    (wlBulkSenderPoll sender nowMs).position = sender.position ∧
      ((wlBulkSenderPoll sender nowMs).active = sender.active ∨
        (wlBulkSenderPoll sender nowMs).state = .failed ∧ sender.Exhausted ∧
          sender.waitIntervalMs ≤ nowMs - sender.waitStartedAt) := by
  unfold wlBulkSenderPoll
  split
  · exact ⟨rfl, .inl rfl⟩
  case isFalse due =>
    have waiting : sender.state = .waitStatus := by
      by_contra state
      exact due (.inl state)
    have active : sender.active = true := by
      unfold WlBulkSender.active
      rw [waiting]
      rfl
    split
    · exact ⟨rfl, .inl active.symm⟩
    · dsimp only
      unfold WlBulkSender.waitForRetry
      split
      case isTrue exhausted =>
        exact ⟨rfl, .inr ⟨rfl, exhausted, UInt32.not_lt.mp fun early => due (.inr early)⟩⟩
      case isFalse =>
        split
        case isTrue failed => exact nomatch waiting.symm.trans failed
        case isFalse => exact ⟨rfl, .inl active.symm⟩

end statuses

section sync

variable {transfer : BulkTransfer} {config : WlBulkReceiverConfig} {position : SenderPosition}
  {current : BulkMessage} {session : BulkSession} {messages : List BulkMessage}
  {reports : List WlBulkStatus} {status : WlBulkStatus}

/-! ### Statuses of a line in sync

Which statuses can come first is known from where the two sides stand. -/

/-- The oldest status is one the sender passes over, says that the sink was busy, or acknowledges
the current message. -/
theorem LineSync.head_status
    (sync : LineSync transfer config position current session messages (status :: reports)) :
    Early transfer config position current status ∨
      Past config transfer position session current ∧ (∀ message ∈ messages, message = current) ∧
        ∀ each ∈ status :: reports, Told config transfer current .ok session.nextOffset each := by
  rcases sync.stands with before | past
  · exact .inl (before.reports status List.mem_cons_self)
  · obtain ⟨earlier, acks, split, early, acked⟩ := past.reports
    cases earlier with
    | nil =>
      obtain rfl : status :: reports = acks := split
      exact .inr ⟨past.stands, past.messages, acked⟩
    | cons =>
      obtain ⟨rfl, _⟩ := List.cons.inj split
      exact .inl (early status List.mem_cons_self)

/-- Once the sender has advanced, what was under way is old. -/
theorem LineSync.advanced {next : SenderPosition} {following : BulkMessage}
    (sync : LineSync transfer config position current session messages (status :: reports))
    (past : Past config transfer position session current)
    (copies : ∀ message ∈ messages, message = current)
    (acked : ∀ each ∈ status :: reports, Told config transfer current .ok session.nextOffset each)
    (advances : Advances config transfer current status next following) :
    LineSync transfer config next following session messages reports := by
  have reached : session.nextOffset = next.nextOffset :=
    (acked status List.mem_cons_self).offset.symm.trans advances.offset.symm
  have later : next.phase ≠ .phaseBegin := by
    rcases advances.phase with phase | phase
    · rw [phase]
      exact nofun
    · rw [phase]
      exact nofun
  -- the receiver runs the transfer, and a chunk that was acknowledged lies behind it
  have old : session.Running config transfer.descriptor ∧ next.Old current := by
    have turn := sync.turn
    cases turn with
    | opening => exact ⟨past, later⟩
    | sending phase same length allowed =>
      refine ⟨past.1, later, ?_, fun _ => advances.acknowledged rfl⟩
      rw [← reached, past.2]
      have finish := allowed.finish
      rw [length] at finish
      rw [finish]
      exact Nat.le_of_eq (congrArg (position.nextOffset.toNat + ·) length)
    | closing =>
      rcases advances.moving with moving | moving
      · exact nomatch moving
      · exact nomatch moving
  have stands : Before config transfer next session following := by
    have turn := advances.turn
    cases turn with
    | opening phase => exact absurd phase later
    | sending | closing => exact ⟨old.1, reached⟩
  have stale : ∀ each ∈ reports, next.Stale each := by
    intro each member
    have ack := acked each (.tail _ member)
    refine .inr ⟨ack.code, ?_⟩
    rw [ack.phase]
    rcases advances.moving with phase | phase
    · refine .inl ?_
      rw [phase]
      rcases advances.phase with ahead | ahead
      · rw [ahead]
        decide
      · rw [ahead]
        decide
    · rw [phase]
      rcases advances.phase with ahead | ahead
      · refine .inr ⟨ahead, rfl, advances.acknowledged phase, ?_⟩
        rw [ack.offset, reached]
        exact UInt64.le_refl _
      · refine .inl ?_
        rw [ahead]
        decide
  refine ⟨advances.own, advances.turn, .inl ⟨stands, ⟨messages, [], (List.append_nil _).symm,
    fun message member => ?_, List.forall_mem_nil _, fun _ => stale⟩, fun each member =>
    .inl (stale each member)⟩⟩
  obtain rfl := copies message member
  exact ⟨old.2, sync.turn.own⟩

end sync

end Wirelink
