/-
Module: Wirelink.Proofs.BulkLeftover
Purpose: The code a failed or aborted transfer leaves in the receiver's record outlives the record
  and answers the next transfer. A line is safe exactly when the receiver starts it idle or
  completed.
Trusted boundary: none
-/
import Wirelink.Proofs.BulkLine

namespace Wirelink

/-! ### The code an earlier transfer leaves behind

The terminal code of a record is not reset when the record is replaced by that of another transfer.
What it is can be told from the state of the record. -/

/-- A record that is idle or completed left the code `OK`, a failed or aborted one did not. -/
structure CodeLeft (session : BulkSession) : Prop where
  fine : session.state = .idle ∨ session.state = .completed → session.terminalCode = .ok
  bad : session.state = .failed ∨ session.state = .aborted → session.terminalCode ≠ .ok

section codes

variable {session : BulkSession}

theorem CodeLeft.clean (state : session.state = .idle ∨ session.state = .completed)
    (code : session.terminalCode = .ok) : CodeLeft session := by
  refine ⟨fun _ => code, fun bad => ?_⟩
  rcases state with state | state
  all_goals
    rw [state] at bad
    rcases bad with failed | aborted
    · exact nomatch failed
    · exact nomatch aborted

theorem CodeLeft.running (state : session.state = .receiving) : CodeLeft session := by
  refine ⟨?_, ?_⟩
  all_goals
    rw [state]
    rintro (first | second)
    · exact nomatch first
    · exact nomatch second

theorem CodeLeft.spoiled (state : session.state = .failed ∨ session.state = .aborted)
    (code : session.terminalCode ≠ .ok) : CodeLeft session := by
  refine ⟨fun fine => ?_, fun _ => code⟩
  rcases state with state | state
  all_goals
    rw [state] at fine
    rcases fine with idle | completed
    · exact nomatch idle
    · exact nomatch completed

end codes

variable {receiver : WlBulkReceiver}

theorem SessionMove.codeLeft {op : ReceiverOp} {after : BulkSession}
    (move : SessionMove receiver op after) (left : CodeLeft receiver.session) : CodeLeft after := by
  cases move with
  | kept => exact left
  | beginBusy =>
    obtain ⟨_, _, _, state⟩ := vacated_fields receiver.session
    have code := vacated_code receiver.session
    refine ⟨fun fine => code.trans (left.fine ?_), fun bad same => left.bad ?_ (code.symm.trans same)⟩
    · rw [← state]
      exact fine
    · rw [← state]
      exact bad
  | @beginFailed descriptor nowMs result resumeOffset acceptedChunkSize admitted negotiated notBusy
      refused =>
      refine .spoiled (.inl rfl) ?_
      split
      · exact nofun
      · exact (sinkFailureCode_ne result).1
  | begun nowMs admitted negotiated resumable => exact .running rfl
  | waited asked => exact .running asked.receiving
  | broke => exact .spoiled (.inl rfl) (sinkFailureCode_ne _).1
  | wrote nowMs receiving => exact .running receiving
  | finished => exact .clean (.inr rfl) rfl
  | aborted reason nowMs running => exact .spoiled (.inr rfl) nofun
  | tombstone reason nowMs ready nonzero past unknown =>
    exact .spoiled (.inr rfl) nofun
  | timedOut nowMs receiving => exact .spoiled (.inl rfl) nofun
  | reset unread => exact .clean (.inl rfl) rfl

theorem runReceiver_codeLeft (left : CodeLeft receiver.session) (ops : List ReceiverOp) :
    CodeLeft (runReceiver receiver ops).session ∧
      (runReceiver receiver ops).config = receiver.config := by
  induction ops generalizing receiver with
  | nil => exact ⟨left, rfl⟩
  | cons op ops ih =>
    have moves := step_moves receiver op
    obtain ⟨last, config⟩ := ih (moves.session.codeLeft left)
    exact ⟨last, config.trans moves.config⟩

/-! ### A failure code that is left behind stops the next transfer

The converse, for every receiver that starts failed or aborted. The sender of an empty object sends
its Begin twice; the first one opens the transfer, and the second one is answered with the old code.
-/

/-- The receiver's driver sends whatever status is pending. -/
def clearStatus (receiver : WlBulkReceiver) : List LineOp :=
  [.statusAcquire,
    .statusRelease { status := receiver.pendingStatus, token := receiver.statusToken }]

/-- Afterwards no status is pending, and nothing else about the line but the channel changed. -/
theorem runLine_clearStatus (transfer : BulkTransfer) (line : BulkLine) :
    ∃ (receiver : WlBulkReceiver) (statuses : List WlBulkStatus),
      runLine transfer line (clearStatus line.receiver) =
          { line with receiver := receiver, statuses := statuses } ∧
        receiver.statusPending = false ∧ receiver.config = line.receiver.config ∧
        receiver.session = line.receiver.session := by
  obtain ⟨_, receiver, _, statuses, _⟩ := line
  by_cases pending : receiver.statusPending = true
  · refine ⟨{ receiver with statusPending := false, statusAcquired := false },
      statuses ++ [receiver.pendingStatus], ?_, rfl, rfl, rfl⟩
    have acquired : (wlBulkReceiverStatusAcquire receiver).1 =
        { receiver with statusAcquired := true } := by
      unfold wlBulkReceiverStatusAcquire
      rw [if_neg (not_not.mpr pending)]
      split
      case isTrue held => rw [← held]
      case isFalse => rfl
    have matching : statusViewMatches { receiver with statusAcquired := true }
        { status := receiver.pendingStatus, token := receiver.statusToken } = true := by
      simp only [statusViewMatches, pending, Bool.and_self, BEq.rfl]
    have released : wlBulkReceiverStatusRelease { receiver with statusAcquired := true }
        { status := receiver.pendingStatus, token := receiver.statusToken } =
        ({ receiver with statusPending := false, statusAcquired := false }, .ok) := by
      rw [wlBulkReceiverStatusRelease, if_neg (not_not.mpr matching)]
    show BulkLine.statusRelease (BulkLine.withReceiver _ (wlBulkReceiverStatusAcquire receiver).1)
      _ = _
    rw [acquired]
    unfold BulkLine.statusRelease BulkLine.withReceiver
    rw [released]
  · refine ⟨receiver, statuses, ?_, eq_false_of_ne_true pending, rfl, rfl⟩
    have acquired : (wlBulkReceiverStatusAcquire receiver).1 = receiver := by
      rw [wlBulkReceiverStatusAcquire, if_pos pending]
    have refused : wlBulkReceiverStatusRelease receiver
        { status := receiver.pendingStatus, token := receiver.statusToken } =
        (receiver, .invalidState) := by
      rw [wlBulkReceiverStatusRelease, if_pos]
      intro matching
      simp only [statusViewMatches, Bool.and_eq_true] at matching
      exact pending matching.1.1.1
    show BulkLine.statusRelease (BulkLine.withReceiver _ (wlBulkReceiverStatusAcquire receiver).1)
      _ = _
    rw [acquired]
    unfold BulkLine.statusRelease BulkLine.withReceiver
    rw [refused]

/-- An empty object under a given id. -/
def emptyTransfer (transferId : UInt32) : BulkTransfer :=
  { descriptor :=
      { transferId := transferId, totalLength := 0, requestedChunkSize := 1, objectCrc32c := 0 }
    object := []
    measured := rfl }

theorem negotiated_empty (config : WlBulkReceiverConfig) {transferId : UInt32}
    (nonzero : transferId ≠ 0) :
    ∃ chunkSize, config.negotiated (emptyTransfer transferId).descriptor = some chunkSize := by
  unfold WlBulkReceiverConfig.negotiated WlBulkReceiver.negotiateChunkSize
  rw [if_neg]
  · dsimp only
    split
    · split
      case isTrue long => exact absurd long (UInt64.not_lt.mpr UInt64.zero_le)
      case isFalse => exact ⟨_, rfl⟩
    · exact ⟨_, rfl⟩
  · rintro (zero | long | unrequested)
    · exact nonzero zero
    · exact UInt64.not_lt.mpr UInt64.zero_le long
    · exact nomatch unrequested

theorem exists_fresh_id (first second : UInt32) :
    ∃ transferId : UInt32, (transferId = 1 ∨ transferId = 2 ∨ transferId = 3) ∧
      first ≠ transferId ∧ second ≠ transferId := by
  by_cases one : first ≠ 1 ∧ second ≠ 1
  · exact ⟨1, .inl rfl, one⟩
  by_cases two : first ≠ 2 ∧ second ≠ 2
  · exact ⟨2, .inr (.inl rfl), two⟩
  · refine ⟨3, .inr (.inr rfl), ?_⟩
    grind

section begins

variable (transferId : UInt32)

/-- The action of a Begin of the empty object. -/
def beginAction (token : UInt32) : WlBulkSenderAction :=
  { phase := .phaseBegin, descriptor := (emptyTransfer transferId).descriptor, offset := 0,
    length := 0, abortReason := 0, token := token }

/-- The sender of the empty object sends its Begin twice. -/
def twoBegins : List LineOp :=
  [.acquire, .submitted (beginAction transferId 1) 0, .senderPoll 100, .acquire,
    .submitted (beginAction transferId 2) 100]

/-- The sender before the first one. -/
def beforeBegins : WlBulkSender :=
  (wlBulkSenderStart smallBulkSender (emptyTransfer transferId).descriptor).1

/-- The sender between the two. -/
def betweenBegins : WlBulkSender :=
  wlBulkSenderPoll (wlBulkSenderActionSubmitted
    (wlBulkSenderActionAcquire (beforeBegins transferId)).1 (beginAction transferId 1) 0).1 100

/-- The sender after the second one. -/
def afterBegins : WlBulkSender :=
  (wlBulkSenderActionSubmitted (wlBulkSenderActionAcquire (betweenBegins transferId)).1
    (beginAction transferId 2) 100).1

variable {transferId}

theorem begins_accepted (known : transferId = 1 ∨ transferId = 2 ∨ transferId = 3) :
    wlBulkSenderStart smallBulkSender (emptyTransfer transferId).descriptor =
        (beforeBegins transferId, .ok) ∧
      (wlBulkSenderActionSubmitted (wlBulkSenderActionAcquire (beforeBegins transferId)).1
        (beginAction transferId 1) 0).2 = .ok ∧
      (wlBulkSenderActionSubmitted (wlBulkSenderActionAcquire (betweenBegins transferId)).1
        (beginAction transferId 2) 100).2 = .ok := by
  rcases known with rfl | rfl | rfl
  all_goals decide +kernel

theorem submitted_accepted {transfer : BulkTransfer} {line : BulkLine} {action : WlBulkSenderAction}
    {nowMs : UInt32} (accepted : (wlBulkSenderActionSubmitted line.sender action nowMs).2 = .ok) :
    line.submitted transfer action nowMs =
      { line with
        sender := (wlBulkSenderActionSubmitted line.sender action nowMs).1
        messages := line.messages ++ (transfer.message action).toList } := by
  unfold BulkLine.submitted
  split
  case h_1 sender same => rw [same]
  case h_2 sender err refused same =>
    rw [same] at accepted
    exact absurd accepted refused

theorem runLine_twoBegins (known : transferId = 1 ∨ transferId = 2 ∨ transferId = 3)
    (receiver : WlBulkReceiver) :
    runLine (emptyTransfer transferId) (lineStart (beforeBegins transferId) receiver [])
        (twoBegins transferId) =
      { sender := afterBegins transferId, receiver := receiver, statuses := [], causes := []
        messages := [.beginning (emptyTransfer transferId).descriptor,
          .beginning (emptyTransfer transferId).descriptor] } := by
  obtain ⟨_, first, second⟩ := begins_accepted known
  have once : ((lineStart (beforeBegins transferId) receiver []).withSender
      (wlBulkSenderActionAcquire (beforeBegins transferId)).1).submitted (emptyTransfer transferId)
      (beginAction transferId 1) 0 = _ := submitted_accepted first
  simp only [runLine, twoBegins, List.foldl_cons, List.foldl_nil, BulkLine.step]
  rw [show (lineStart (beforeBegins transferId) receiver []).sender = beforeBegins transferId from
    rfl, once]
  exact submitted_accepted second

end begins

theorem runLine_append (transfer : BulkTransfer) (line : BulkLine) (first second : List LineOp) :
    runLine transfer line (first ++ second) = runLine transfer (runLine transfer line first) second :=
  List.foldl_append

/-- A line on which two Begins of an admissible transfer are under way can be led to one where the
receiver has acted on the first and has no status left. The code of the record is still the old
one. -/
theorem begin_repeats {transfer : BulkTransfer} {line : BulkLine} {chunkSize : UInt32}
    (admitted : ∀ ready : WlBulkReceiver, ready.statusPending = false →
      ready.config = line.receiver.config → ready.session = line.receiver.session →
      ready.admits transfer.descriptor)
    (negotiated : line.receiver.config.negotiated transfer.descriptor = some chunkSize)
    (copies : line.messages =
      [.beginning transfer.descriptor, .beginning transfer.descriptor]) :
    ∃ ops, (runLine transfer line ops).messages = [.beginning transfer.descriptor] ∧
      (runLine transfer line ops).receiver.state = .receiving ∧
      (runLine transfer line ops).receiver.statusPending = false ∧
      (runLine transfer line ops).receiver.descriptor = transfer.descriptor ∧
      (runLine transfer line ops).receiver.terminalCode = line.receiver.terminalCode ∧
      (runLine transfer line ops).receiver.config = line.receiver.config := by
  obtain ⟨ready, statuses, cleared, free, sameConfig, sameSession⟩ :=
    runLine_clearStatus transfer line
  have negotiatedReady : ready.config.negotiated transfer.descriptor = some chunkSize := by
    rw [sameConfig]
    exact negotiated
  have resumable : ready.config.Resumable transfer.descriptor 0 :=
    ⟨UInt64.zero_le, .inr UInt64.zero_mod⟩
  have opened := onBegin_opened (admitted ready free sameConfig sameSession) negotiatedReady 0
    resumable
  generalize opening : (wlBulkReceiverOnBegin ready transfer.descriptor 0 .ok 0).1 = receiver
    at opened
  have arrived : ∃ causes, runLine transfer line (clearStatus line.receiver ++ [.message 0 .ok 0]) =
      { line with
        receiver := receiver, statuses := statuses, causes := causes
        messages := [.beginning transfer.descriptor] } := by
    rw [runLine_append, cleared]
    show ∃ causes, BulkLine.arrive _ 0 .ok 0 = _
    unfold BulkLine.arrive
    rw [copies]
    dsimp only [BulkMessage.deliver]
    rw [opening]
    exact ⟨_, rfl⟩
  obtain ⟨_, arrived⟩ := arrived
  obtain ⟨last, _, settled, silent, lastConfig, lastSession⟩ := runLine_clearStatus transfer
    (runLine transfer line (clearStatus line.receiver ++ [.message 0 .ok 0]))
  refine ⟨clearStatus line.receiver ++ [.message 0 .ok 0] ++ clearStatus
    (runLine transfer line (clearStatus line.receiver ++ [.message 0 .ok 0])).receiver, ?_⟩
  rw [runLine_append, settled]
  rw [arrived] at lastConfig lastSession ⊢
  have session := lastSession.trans opened.session
  refine ⟨rfl, ?_, silent, ?_, ?_, lastConfig.trans (opened.config.trans sameConfig)⟩
  · exact congrArg BulkSession.state session
  · exact congrArg BulkSession.descriptor session
  · have code : last.terminalCode = ready.session.vacated.terminalCode :=
      congrArg BulkSession.terminalCode session
    rw [code, vacated_code, sameSession]
    rfl

theorem not_lineSafe (past : receiver.state ≠ .receiving) (spoiled : receiver.terminalCode ≠ .ok) :
    ¬ LineSafe receiver := by
  intro safe
  obtain ⟨transferId, known, otherRecord, otherStatus⟩ :=
    exists_fresh_id receiver.descriptor.transferId receiver.pendingStatus.transferId
  have nonzero : transferId ≠ 0 := by
    rcases known with rfl | rfl | rfl <;> decide
  obtain ⟨chunkSize, negotiated⟩ := negotiated_empty receiver.config nonzero
  have started := (begins_accepted known).1
  have sent := runLine_twoBegins known receiver
  have admitted : ∀ ready : WlBulkReceiver, ready.statusPending = false →
      ready.config = receiver.config → ready.session = receiver.session →
      ready.admits (emptyTransfer transferId).descriptor := by
    intro ready free config session
    have state : ready.state = receiver.state := congrArg BulkSession.state session
    have descriptor : ready.descriptor = receiver.descriptor :=
      congrArg BulkSession.descriptor session
    refine ⟨free, by rw [config, negotiated]; rfl, by rw [state]; exact past, fun _ => ?_⟩
    rw [descriptor]
    exact otherRecord.symm
  obtain ⟨ops, copy, receiving, silent, own, code, config⟩ :=
    @begin_repeats (emptyTransfer transferId)
      { sender := afterBegins transferId, receiver := receiver, statuses := [], causes := []
        messages := [.beginning (emptyTransfer transferId).descriptor,
          .beginning (emptyTransfer transferId).descriptor] } chunkSize admitted negotiated rfl
  have answered := (safe (emptyTransfer transferId) smallBulkSender (beforeBegins transferId) []
    started ⟨fun _ => otherRecord, fun _ => otherStatus⟩ (nofun)
    (twoBegins transferId ++ ops)).1
  rw [runLine_append, sent] at answered
  generalize runLine (emptyTransfer transferId)
    { sender := afterBegins transferId, receiver := receiver, statuses := [], causes := []
      messages := [.beginning (emptyTransfer transferId).descriptor,
        .beginning (emptyTransfer transferId).descriptor] } ops = line at *
  have first : BulkMessage.beginning (emptyTransfer transferId).descriptor ∈
      line.messages.head? := by
    rw [copy]
    rfl
  have claimed := answered _ first receiving silent own.symm 0 .ok 0
  have actual := (onBegin_repeated silent (config ▸ negotiated)
    (by rw [receiving]; exact nofun) own 0 .ok 0).status
  have codes := congrArg WlBulkStatus.code (actual.symm.trans claimed)
  refine spoiled ?_
  rw [← code]
  have shown : line.receiver.terminalStatusCode = line.receiver.terminalCode := by
    unfold WlBulkReceiver.terminalStatusCode
    rw [receiving]
  exact shown.symm.trans codes

/-- A transfer is never failed without a cause, and a receiver that receives always answers a
repeated Begin or Chunk with `OK` and its offset, in every run over channels that lose but keep
order, exactly when the receiver is idle or completed at the start. If the last transfer it heard of
failed or was aborted, the code of that one answers the retransmissions of the next. -/
theorem line_safe_iff (config : WlBulkReceiverConfig) (fresh : WlBulkReceiver)
    (built : wlBulkReceiverInit config = .ok fresh) (earlier : List ReceiverOp)
    (past : (runReceiver fresh earlier).state ≠ .receiving) :
    LineSafe (runReceiver fresh earlier) ↔
      (runReceiver fresh earlier).state = .idle ∨ (runReceiver fresh earlier).state = .completed := by
  obtain ⟨sameConfig, valid⟩ := wlBulkReceiverInit_valid built
  have clean : CodeLeft fresh.session := by
    rw [(wlBulkReceiverInit_ok built).1]
    exact .clean (.inl rfl) rfl
  obtain ⟨left, kept⟩ := runReceiver_codeLeft clean earlier
  have configured : ConfigValid (runReceiver fresh earlier).config := by
    rw [kept, sameConfig]
    exact valid
  generalize runReceiver fresh earlier = receiver at past left configured
  constructor
  · intro safe
    by_contra other
    refine not_lineSafe past (left.bad ?_) safe
    show receiver.state = .failed ∨ receiver.state = .aborted
    cases state : receiver.state with
    | idle => exact absurd (.inl state) other
    | receiving => exact absurd state past
    | completed => exact absurd (.inr state) other
    | failed => exact .inl rfl
    | aborted => exact .inr rfl
  · intro fine transfer idle sender statuses started unknown foreign ops
    have identified := (wlBulkSenderStart_position started).1
    obtain ⟨still, inv⟩ := @runLine_inv transfer (lineStart sender receiver statuses) identified
      configured (lineStart_inv started past (left.fine fine) unknown foreign) ops
    exact ⟨inv.answered identified, inv.stops still⟩

/-- An earlier transfer whose Begin the sink refused; its status has been sent. -/
def refusedEarlier : List ReceiverOp :=
  [.onBegin { smallTransfer.descriptor with transferId := 6 } 0 .writeFailed 0, .statusAcquire,
    .statusRelease
      { status :=
          { transferId := 6, phase := .phaseBegin, code := .writeFailed, nextOffset := 0,
            acceptedChunkSize := 2 }
        token := 1 }]

/-- The receiver afterwards, and the sender of the next transfer. -/
def refusedLine : BulkLine :=
  lineStart (wlBulkSenderStart smallBulkSender smallTransfer.descriptor).1
    (runReceiver smallBulkReceiver refusedEarlier) []

/-- The Begin of the next transfer is accepted, its status is lost, and the Begin is sent again. -/
def repeatedBegin : List LineOp :=
  [.acquire, .submitted (action 1) 0, .message 0 .ok 0, .statusAcquire,
    .statusRelease { status := status .ok, token := 2 }, .statusLost, .senderPoll 100, .acquire,
    .submitted (action 2) 100, .message 100 .ok 0, .statusAcquire,
    .statusRelease { status := status .writeFailed, token := 3 }]
where
  /-- The Begin. -/
  action (token : UInt32) : WlBulkSenderAction :=
    { phase := .phaseBegin, descriptor := smallTransfer.descriptor, offset := 0, length := 0,
      abortReason := 0, token := token }
  /-- The status of the Begin. -/
  status (code : WlBulkStatusCode) : WlBulkStatus :=
    { transferId := 7, phase := .phaseBegin, code := code, nextOffset := 0, acceptedChunkSize := 2 }

theorem repeated_begin_fails :
    (runReceiver smallBulkReceiver refusedEarlier).state = .failed ∧
      FreshId (runReceiver smallBulkReceiver refusedEarlier)
        smallTransfer.descriptor.transferId ∧
      (runLine smallTransfer refusedLine repeatedBegin).receiver.state = .receiving ∧
      ¬ StopsForCause smallTransfer (runLine smallTransfer refusedLine repeatedBegin)
        (.status 100) := by
  refine ⟨by decide +kernel, ⟨by decide +kernel, by decide +kernel⟩, by decide +kernel, ?_⟩
  intro stops
  have failed : ((runLine smallTransfer refusedLine repeatedBegin).step smallTransfer
      (.status 100)).sender.state = .failed := by decide +kernel
  rcases stops (by decide +kernel) (.inl failed) with cause | exhausted
  · exact cause (by decide +kernel)
  · exact absurd exhausted.1 (UInt16.not_le.mpr (by decide +kernel))

theorem refused_earlier_unsafe : ¬ LineSafe (runReceiver smallBulkReceiver refusedEarlier) := by
  intro safe
  have fine := (line_safe_iff smallReceiverConfig smallBulkReceiver rfl refusedEarlier
    (by decide +kernel)).mp safe
  revert fine
  decide +kernel

end Wirelink
