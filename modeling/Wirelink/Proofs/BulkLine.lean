/-
Module: Wirelink.Proofs.BulkLine
Purpose: The invariant of a bulk transfer over two channels that lose but keep order, kept by every
  operation. It says that no operation stops the sender without a cause and that every repeated
  message is answered.
Trusted boundary: none
-/
import Wirelink.Proofs.BulkStatus

namespace Wirelink

/-! ### The line

Every operation is one of a few moves, and the invariant is kept move by move. -/

/-- The statuses the sender may still get, oldest first. -/
def BulkLine.reports (line : BulkLine) : List WlBulkStatus :=
  line.statuses ++ if line.receiver.statusPending then [line.receiver.pendingStatus] else []

/-- What one operation does to the line. -/
inductive LineMove (transfer : BulkTransfer) (line : BulkLine) (op : LineOp) : BulkLine → Prop where
  /-- The sender stays where it is. -/
  | kept {sender : WlBulkSender} (position : sender.position = line.sender.position)
      (active : sender.active = line.sender.active) :
      LineMove transfer line op (line.withSender sender)
  /-- The sender has used up its retries. -/
  | exhausted {sender : WlBulkSender} (position : sender.position = line.sender.position)
      (failed : sender.state = .failed) (exhausted : line.sender.Exhausted)
      (spends : op.SpendsRetry line) :
      LineMove transfer line op (line.withSender sender)
  /-- An abort was requested. -/
  | aborts {sender : WlBulkSender} (own : sender.descriptor = line.sender.descriptor)
      (phase : sender.phase = .phaseAbort) :
      LineMove transfer line op
        { line with sender := sender, causes := .abortRequested :: line.causes }
  /-- The message of the sender's action was sent. -/
  | sent {sender : WlBulkSender} {action : WlBulkSenderAction}
      (accepted : actionRefusal line.sender action = none)
      (position : sender.position = line.sender.position) (waits : sender.state = .waitStatus) :
      LineMove transfer line op
        { line with
          sender := sender, messages := line.messages ++ (transfer.message action).toList }
  /-- The oldest status arrived. -/
  | status {status : WlBulkStatus} {statuses : List WlBulkStatus} (nowMs : UInt32)
      (head : line.statuses = status :: statuses)
      (spends : status.code = .busy → op.SpendsRetry line) :
      LineMove transfer line op
        { line with
          sender := (wlBulkSenderOnStatus line.sender status nowMs).1, statuses := statuses }
  | statusLost : LineMove transfer line op { line with statuses := line.statuses.tail }
  /-- The oldest message arrived. -/
  | message {message : BulkMessage} {messages : List BulkMessage} (nowMs : UInt32)
      (result : WlBulkSinkResult) (resumeOffset : UInt64)
      (head : line.messages = message :: messages) :
      LineMove transfer line op
        { line with
          receiver := message.deliver line.receiver nowMs result resumeOffset, messages := messages
          causes := (message.stopCause line.receiver
            (message.deliver line.receiver nowMs result resumeOffset)).toList ++ line.causes }
  | messageLost : LineMove transfer line op { line with messages := line.messages.tail }
  /-- The receiver changed nothing but the flags of its status. -/
  | flagged {receiver : WlBulkReceiver} {statuses : List WlBulkStatus}
      (config : receiver.config = line.receiver.config)
      (session : receiver.session = line.receiver.session)
      (reports : BulkLine.reports { line with receiver := receiver, statuses := statuses } =
        line.reports) :
      LineMove transfer line op { line with receiver := receiver, statuses := statuses }
  /-- The receiver gave up waiting. -/
  | timedOut {receiver : WlBulkReceiver} (config : receiver.config = line.receiver.config)
      (receiving : line.receiver.state = .receiving) (failed : receiver.session.state = .failed)
      (own : receiver.session.descriptor = line.receiver.descriptor) :
      LineMove transfer line op
        (if line.receiver.descriptor.transferId = transfer.descriptor.transferId then
          { line with receiver := receiver, causes := .idleTimeout :: line.causes }
        else line.withReceiver receiver)

section moves

variable {transfer : BulkTransfer} {line : BulkLine} {op : LineOp}

theorem requestAbort_moves (reason : Int32) :
    LineMove transfer line op (line.requestAbort reason) := by
  unfold BulkLine.requestAbort wlBulkSenderRequestAbort
  split
  case h_1 sender accepted =>
    split at accepted
    · exact nomatch accepted
    split at accepted
    · exact nomatch accepted
    obtain rfl := (Prod.mk.inj accepted).1
    exact .aborts rfl rfl
  case h_2 sender err refused same =>
    split at same
    · obtain rfl := (Prod.mk.inj same).1
      exact .kept rfl rfl
    split at same
    · obtain rfl := (Prod.mk.inj same).1
      exact .kept rfl rfl
    · exact absurd (Prod.mk.inj same).2.symm refused

theorem actionRefusal_ne_ok {sender : WlBulkSender} {action : WlBulkSenderAction} {err : WlBulkErr}
    (refused : actionRefusal sender action = some err) : err ≠ .ok := by
  unfold actionRefusal at refused
  split at refused
  · obtain rfl := Option.some.inj refused
    exact nofun
  split at refused
  · obtain rfl := Option.some.inj refused
    exact nofun
  · exact nomatch refused

theorem submitted_moves (action : WlBulkSenderAction) (nowMs : UInt32) :
    LineMove transfer line op (line.submitted transfer action nowMs) := by
  unfold BulkLine.submitted wlBulkSenderActionSubmitted
  cases accepted : actionRefusal line.sender action with
  | some =>
    split
    case h_1 same => exact absurd (Prod.mk.inj same).2 (actionRefusal_ne_ok accepted)
    case h_2 same =>
      obtain rfl := (Prod.mk.inj same).1
      exact .kept rfl rfl
  | none => exact .sent accepted rfl rfl

theorem senderPoll_moves (nowMs : UInt32) :
    LineMove transfer line (.senderPoll nowMs)
      (line.withSender (wlBulkSenderPoll line.sender nowMs)) := by
  obtain ⟨position, same | ⟨failed, exhausted, due⟩⟩ := wlBulkSenderPoll_keeps line.sender nowMs
  · exact .kept position same
  · exact .exhausted position failed exhausted due

theorem statusRelease_moves (view : WlBulkReceiverStatusView) :
    LineMove transfer line op (line.statusRelease view) := by
  unfold BulkLine.statusRelease wlBulkReceiverStatusRelease
  by_cases matching : statusViewMatches line.receiver view = true
  · rw [if_neg (not_not.mpr matching)]
    simp only [statusViewMatches, Bool.and_eq_true, beq_iff_eq] at matching
    obtain ⟨⟨⟨pending, _⟩, _⟩, same⟩ := matching
    refine .flagged rfl rfl ?_
    unfold BulkLine.reports
    dsimp only
    rw [if_neg (by decide), List.append_nil, if_pos pending, same]
  · rw [if_pos matching]
    exact .flagged rfl rfl rfl

theorem receiverPoll_moves (nowMs : UInt32) :
    LineMove transfer line op (line.receiverPoll transfer nowMs) := by
  unfold BulkLine.receiverPoll
  have moves := wlBulkReceiverPoll_moves line.receiver nowMs
  by_cases unchanged : wlBulkReceiverPoll line.receiver nowMs = line.receiver
  · dsimp only
    rw [unchanged, if_neg]
    · exact .flagged rfl rfl rfl
    · rintro ⟨receiving, failed, _⟩
      exact nomatch receiving.symm.trans failed
  · have due : ¬ (line.receiver.state ≠ .receiving ∨ line.receiver.config.idleTimeoutMs = 0 ∨
        line.receiver.statusPending = true ∨
        nowMs - line.receiver.lastActivityMs < line.receiver.config.idleTimeoutMs) := by
      intro early
      exact unchanged (if_pos early)
    have receiving : line.receiver.state = .receiving := not_not.mp fun state => due (.inl state)
    have polled : wlBulkReceiverPoll line.receiver nowMs = _ := if_neg due
    have failed : (wlBulkReceiverPoll line.receiver nowMs).state = .failed := by
      rw [polled]
      rfl
    have own : (wlBulkReceiverPoll line.receiver nowMs).descriptor = line.receiver.descriptor := by
      rw [polled]
      exact (congrArg BulkSession.descriptor (session_releaseSink line.receiver _)).trans
        (released_fields line.receiver.session _).1
    have move := @LineMove.timedOut transfer line op _ moves.config receiving failed own
    simp only [receiving, failed, true_and]
    exact move

theorem step_lineMoves (op : LineOp) : LineMove transfer line op (line.step transfer op) := by
  cases op with
  | requestAbort reason => exact requestAbort_moves reason
  | acquire =>
    refine .kept ?_ ?_
    all_goals
      unfold wlBulkSenderActionAcquire
      split
      · rfl
      split
      · rfl
      · rfl
  | defer =>
    refine .kept ?_ ?_
    all_goals
      unfold wlBulkSenderActionDefer
      split
      · rfl
      · rfl
  | submitted action nowMs => exact submitted_moves action nowMs
  | senderPoll nowMs => exact senderPoll_moves nowMs
  | status nowMs =>
    show LineMove transfer line _ (line.statusArrives nowMs)
    unfold BulkLine.statusArrives
    split
    · exact .kept rfl rfl
    case h_2 head => exact .status nowMs head fun busy => ⟨_, by rw [head]; rfl, busy⟩
  | statusLost => exact .statusLost
  | message nowMs result resumeOffset =>
    show LineMove transfer line _ (line.arrive nowMs result resumeOffset)
    unfold BulkLine.arrive
    split
    · exact .kept rfl rfl
    case h_2 head => exact .message nowMs result resumeOffset head
  | messageLost => exact .messageLost
  | statusAcquire =>
    refine .flagged ?_ ?_ ?_
    all_goals
      unfold wlBulkReceiverStatusAcquire
      split
      · rfl
      split
      · rfl
      · rfl
  | statusDefer =>
    refine .flagged ?_ ?_ ?_
    all_goals
      unfold wlBulkReceiverStatusDefer
      split
      · rfl
      · rfl
  | statusRelease view => exact statusRelease_moves view
  | receiverPoll nowMs => exact receiverPoll_moves nowMs

theorem deliver_config (message : BulkMessage) (receiver : WlBulkReceiver) (nowMs : UInt32)
    (result : WlBulkSinkResult) (resumeOffset : UInt64) :
    (message.deliver receiver nowMs result resumeOffset).config = receiver.config := by
  rw [deliver_eq_step]
  exact (step_moves _ _).config

variable {after : BulkLine} (move : LineMove transfer line op after)

include move

theorem LineMove.causes (cause : line.causes ≠ []) : after.causes ≠ [] := by
  cases move with
  | aborts => exact List.cons_ne_nil _ _
  | message => exact fun none => cause (List.append_eq_nil_iff.mp none).2
  | timedOut =>
    split
    · exact List.cons_ne_nil _ _
    · exact cause
  | _ => exact cause

theorem LineMove.config : after.receiver.config = line.receiver.config := by
  cases move with
  | message => exact deliver_config ..
  | flagged config => exact config
  | timedOut config =>
    split
    · exact config
    · exact config
  | _ => rfl

end moves

/-! ### The invariant

A line is in sync, or it has left sync in one of two ways. The lemmas say what becomes of a line in
sync when a status or a message arrives. -/

/-- How the line stands: the receiver will never receive the transfer, and there is a cause for it;
or both sides are in sync; or the sender sends no more data, because it is done or because an abort
was requested. -/
inductive BulkLineInv (transfer : BulkTransfer) (line : BulkLine) : Prop where
  | past (cause : line.causes ≠ [])
      (spent : line.receiver.session.Spent line.receiver.config transfer.descriptor)
      (own : line.sender.descriptor = transfer.descriptor)
      (messages : ∀ message ∈ line.messages, message.Own transfer.descriptor)
  | sync (quiet : line.causes = []) (active : line.sender.active = true) {current : BulkMessage}
      (sync : LineSync transfer line.receiver.config line.sender.position current
        line.receiver.session line.messages line.reports)
  | drained (onTrack : line.receiver.session.OnTrack line.receiver.config transfer.descriptor)
      (own : line.sender.descriptor = transfer.descriptor)
      (messages : ∀ message ∈ line.messages, message.Own transfer.descriptor ∧
        message.Shaped line.receiver.config transfer.descriptor ∧
        (message.phase = .phaseAbort → line.causes ≠ []))
      (stopped : line.sender.active = true →
        line.causes ≠ [] ∧ line.sender.phase = .phaseAbort)

section line

variable {transfer : BulkTransfer} {line : BulkLine} {current : BulkMessage}

theorem LineSync.drains {later : BulkLine} {reports : List WlBulkStatus}
    (sync : LineSync transfer line.receiver.config line.sender.position current
      line.receiver.session line.messages reports) (receiver : later.receiver = line.receiver)
    (messages : later.messages = line.messages)
    (own : later.sender.descriptor = transfer.descriptor)
    (stopped : later.sender.active = true → later.causes ≠ [] ∧ later.sender.phase = .phaseAbort) :
    BulkLineInv transfer later := by
  refine .drained ?_ own ?_ stopped
  · rw [receiver]
    exact sync.onTrack
  · rw [receiver, messages]
    intro message member
    obtain ⟨mine, shaped, notAbort⟩ := sync.messages_own message member
    exact ⟨mine, shaped, fun abort => absurd abort notAbort⟩

variable {sender : WlBulkSender} {receiver : WlBulkReceiver} {statuses : List WlBulkStatus}

theorem active_iff :
    sender.active = true ↔ sender.state = .ready ∨ sender.state = .waitStatus := by
  unfold WlBulkSender.active
  rw [Bool.or_eq_true, beq_iff_eq, beq_iff_eq]

theorem not_active
    (stopped : sender.state = .failed ∨ sender.state = .completed ∨ sender.state = .aborted) :
    ¬ sender.active = true := by
  rw [active_iff]
  rcases stopped with state | state | state
  all_goals
    rw [state]
    rintro (ready | waits)
    · exact nomatch ready
    · exact nomatch waits

theorem LineSync.statusArrives {status : WlBulkStatus} {reports : List WlBulkStatus}
    (configured : ConfigValid line.receiver.config) (active : line.sender.active = true)
    (sync : LineSync transfer line.receiver.config line.sender.position current
      line.receiver.session line.messages (status :: reports)) (nowMs : UInt32) :
    ((wlBulkSenderOnStatus line.sender status nowMs).1.active = true ∧
        ∃ following, LineSync transfer line.receiver.config
          (wlBulkSenderOnStatus line.sender status nowMs).1.position following
          line.receiver.session line.messages reports) ∨
      (wlBulkSenderOnStatus line.sender status nowMs).1.state = .completed ∨
      (wlBulkSenderOnStatus line.sender status nowMs).1.state = .failed ∧
        line.sender.Exhausted ∧ status.code = .busy := by
  rcases sync.head_status with (stale | busy) | ⟨past, copies, acked⟩
  · rw [onStatus_stale stale]
    exact .inl ⟨active, current, sync.statusTaken⟩
  · obtain ⟨position, same | failed⟩ := onStatus_busy sync.own sync.turn busy nowMs
    · refine .inl ⟨?_, current, ?_⟩
      · unfold WlBulkSender.active
        rw [same]
        exact active
      · rw [position]
        exact sync.statusTaken
    · exact .inr (.inr ⟨failed.1, failed.2, busy.code⟩)
  · rcases onStatus_acked configured sync.own sync.turn past (acked status List.mem_cons_self)
      nowMs with same | completed | ⟨ready, following, advances⟩
    · rw [same]
      exact .inl ⟨active, current, sync.statusTaken⟩
    · exact .inr (.inl completed)
    · exact .inl ⟨active_iff.mpr (.inl ready), following,
        sync.advanced past copies acked advances⟩

theorem submitted_current {action : WlBulkSenderAction} {config : WlBulkReceiverConfig}
    (accepted : actionRefusal sender action = none) :
    action.phase = sender.phase ∧ action.descriptor = sender.descriptor ∧
      (sender.descriptor = transfer.descriptor → Current config transfer sender.position current →
        transfer.message action = some current) := by
  unfold actionRefusal at accepted
  split at accepted
  · exact nomatch accepted
  split at accepted
  · exact nomatch accepted
  case isFalse matching =>
    simp only [not_not, WlBulkSender.actionMatches, Bool.and_eq_true, beq_iff_eq] at matching
    obtain ⟨⟨⟨⟨phase, descriptor⟩, offset⟩, length⟩, _⟩ := matching
    refine ⟨phase, descriptor, fun own turn => ?_⟩
    have same : action.phase = current.phase := phase.trans turn.phase_eq.1
    unfold BulkTransfer.message
    rw [same, descriptor, own, offset, length]
    cases turn with
    | opening | sending | closing => rfl

theorem message_own {action : WlBulkSenderAction} (own : action.descriptor = transfer.descriptor) :
    ∀ message ∈ (transfer.message action).toList, message.Own transfer.descriptor := by
  intro message member
  have built : transfer.message action = some message := Option.mem_toList.mp member
  unfold BulkTransfer.message at built
  rw [own] at built
  split at built
  · exact nomatch built
  · obtain rfl := Option.some.inj built
    exact rfl
  · obtain rfl := Option.some.inj built
    exact rfl
  · obtain rfl := Option.some.inj built
    exact ⟨rfl, rfl, rfl⟩
  · obtain rfl := Option.some.inj built
    exact rfl

theorem reports_cons {status : WlBulkStatus} (head : line.statuses = status :: statuses)
    (sender : WlBulkSender) :
    line.reports =
      status :: BulkLine.reports { line with sender := sender, statuses := statuses } := by
  unfold BulkLine.reports
  rw [head]
  rfl

theorem deliver_pending (pending : receiver.statusPending = true) (message : BulkMessage)
    (nowMs : UInt32) (result : WlBulkSinkResult) (resumeOffset : UInt64) :
    message.deliver receiver nowMs result resumeOffset = receiver ∧
      message.stopCause receiver receiver = none := by
  have quiet : BulkMessage.stopCause.sinkCause receiver receiver = none := sinkCause_none (.inl rfl)
  cases message with
  | beginning =>
    refine ⟨congrArg Prod.fst (if_pos pending), ?_⟩
    show (if _ then _ else _) = none
    rw [if_neg, quiet]
    rintro ⟨ready, _⟩
    exact nomatch pending.symm.trans ready
  | chunk | ending | abort => exact ⟨congrArg Prod.fst (if_pos pending), quiet⟩

theorem causes_given {cause : Option StopCause} {causes : List StopCause} (given : cause ≠ none) :
    cause.toList ++ causes ≠ [] := by
  cases cause with
  | none => exact absurd rfl given
  | some => exact List.cons_ne_nil _ _

section arrives

variable (nowMs : UInt32) (result : WlBulkSinkResult) (resumeOffset : UInt64)
  {message : BulkMessage} {messages : List BulkMessage}
  (head : line.messages = message :: messages)

include head

theorem BulkLineInv.spends {causes : List StopCause} (cause : causes ≠ [])
    (spent : (message.deliver line.receiver nowMs result resumeOffset).session.Spent
      line.receiver.config transfer.descriptor)
    (own : line.sender.descriptor = transfer.descriptor)
    (mine : ∀ each ∈ line.messages, each.Own transfer.descriptor) :
    BulkLineInv transfer
      { line with
        receiver := message.deliver line.receiver nowMs result resumeOffset, messages := messages,
        causes := causes } := by
  refine .past cause ?_ own fun each member => mine each (by rw [head]; exact .tail _ member)
  rw [← deliver_config message line.receiver nowMs result resumeOffset] at spent
  exact spent

variable (identified : transfer.descriptor.transferId ≠ 0)

include identified

theorem LineSync.arrives (quiet : line.causes = []) (active : line.sender.active = true)
    (sync : LineSync transfer line.receiver.config line.sender.position current
      line.receiver.session line.messages line.reports) :
    BulkLineInv transfer
      { line with
        receiver := message.deliver line.receiver nowMs result resumeOffset, messages := messages
        causes := (message.stopCause line.receiver
          (message.deliver line.receiver nowMs result resumeOffset)).toList ++ line.causes } := by
  have mine : ∀ each ∈ line.messages, each.Own transfer.descriptor := fun each member =>
    (sync.messages_own each member).1
  by_cases pending : line.receiver.statusPending = true
  · obtain ⟨same, none⟩ := deliver_pending pending message nowMs result resumeOffset
    rw [same, none]
    have lost := sync.messageLost
    rw [head] at lost
    exact .sync quiet active lost
  by_cases stops : message.stopCause line.receiver
      (message.deliver line.receiver nowMs result resumeOffset) = none
  · have here := sync
    rw [head] at here
    rcases deliver_synced identified here (eq_false_of_ne_true pending) nowMs result resumeOffset
      with cause | ⟨status, held, answers, next⟩
    · exact absurd stops cause
    · rw [stops]
      have reports : BulkLine.reports { line with
          receiver := message.deliver line.receiver nowMs result resumeOffset
          messages := messages, causes := none.toList ++ line.causes } =
          line.reports ++ [status] := by
        unfold BulkLine.reports
        rw [if_pos held, answers, if_neg pending, List.append_nil]
      rw [← deliver_config message line.receiver nowMs result resumeOffset, ← reports] at next
      exact .sync quiet active next
  · refine BulkLineInv.spends nowMs result resumeOffset head (causes_given stops) ?_ sync.own mine
    rcases deliver_arrives (mine message (by rw [head]; exact List.mem_cons_self)) nowMs result
      resumeOffset sync.onTrack with ⟨none, _⟩ | ⟨spent, _⟩
    · exact absurd none stops
    · exact spent

theorem BulkLineInv.arrive (inv : BulkLineInv transfer line) :
    BulkLineInv transfer
      { line with
        receiver := message.deliver line.receiver nowMs result resumeOffset, messages := messages
        causes := (message.stopCause line.receiver
          (message.deliver line.receiver nowMs result resumeOffset)).toList ++ line.causes } := by
  have first : message ∈ line.messages := by
    rw [head]
    exact List.mem_cons_self
  cases inv with
  | past cause spent own mine =>
    refine .spends nowMs result resumeOffset head ?_
      (deliver_spent (mine message first) nowMs result resumeOffset spent) own mine
    exact fun none => cause (List.append_eq_nil_iff.mp none).2
  | sync quiet active sync =>
    exact sync.arrives nowMs result resumeOffset head identified quiet active
  | drained onTrack own mine stopped =>
    rcases deliver_arrives (mine message first).1 nowMs result resumeOffset onTrack with
      ⟨none, track⟩ | ⟨spent, why⟩
    · rw [none]
      have config := deliver_config message line.receiver nowMs result resumeOffset
      refine .drained ?_ own (fun each member => ?_) stopped
      · rw [← config] at track
        exact track
      · rw [config]
        exact mine each (by rw [head]; exact .tail _ member)
    · refine .spends nowMs result resumeOffset head ?_ spent own fun each member =>
        (mine each member).1
      rcases why with cause | abort
      · exact causes_given cause
      · exact fun none => (mine message first).2.2 abort (List.append_eq_nil_iff.mp none).2

end arrives

/-! ### Every move keeps the invariant

One lemma for each move: whatever the sides do, a line in sync stays in sync or gives its cause, and a
line that has left sync does not come back. -/

section keeps

variable (inv : BulkLineInv transfer line)

include inv

/-- A sender that stays where it is keeps the line, whether it goes on or stops. -/
theorem BulkLineInv.stays (position : sender.position = line.sender.position)
    (active : sender.active = true → line.sender.active = true) :
    BulkLineInv transfer (line.withSender sender) := by
  have own : sender.descriptor = line.sender.descriptor :=
    congrArg SenderPosition.descriptor position
  cases inv with
  | past cause spent mine messages => exact .past cause spent (own.trans mine) messages
  | sync quiet _ sync =>
    by_cases running : sender.active = true
    · rw [← position] at sync
      exact .sync quiet running sync
    · exact sync.drains rfl rfl (own.trans sync.own) fun active => absurd active running
  | drained onTrack mine messages stopped =>
    refine .drained onTrack (own.trans mine) messages fun running => ?_
    obtain ⟨cause, abort⟩ := stopped (active running)
    exact ⟨cause, (congrArg SenderPosition.phase position).trans abort⟩

theorem BulkLineInv.aborts (own : sender.descriptor = line.sender.descriptor)
    (phase : sender.phase = .phaseAbort) :
    BulkLineInv transfer
      { line with sender := sender, causes := .abortRequested :: line.causes } := by
  cases inv with
  | past cause spent mine messages =>
    exact .past (List.cons_ne_nil _ _) spent (own.trans mine) messages
  | sync quiet active sync =>
    exact sync.drains rfl rfl (own.trans sync.own) fun _ => ⟨List.cons_ne_nil _ _, phase⟩
  | drained onTrack mine messages =>
    exact .drained onTrack (own.trans mine) (fun message member =>
      ⟨(messages message member).1, (messages message member).2.1,
        fun _ => List.cons_ne_nil _ _⟩) fun _ => ⟨List.cons_ne_nil _ _, phase⟩

theorem BulkLineInv.sends {action : WlBulkSenderAction}
    (accepted : actionRefusal line.sender action = none)
    (position : sender.position = line.sender.position) (waits : sender.state = .waitStatus) :
    BulkLineInv transfer
      { line with
        sender := sender, messages := line.messages ++ (transfer.message action).toList } := by
  have descriptor : sender.descriptor = line.sender.descriptor :=
    congrArg SenderPosition.descriptor position
  have active : line.sender.active = true := active_iff.mpr (.inl (actionRefusal_none accepted))
  cases inv with
  | past cause spent own messages =>
    obtain ⟨_, same, _⟩ := @submitted_current transfer (.abort 0 0) _ _ default accepted
    refine .past cause spent (descriptor.trans own) fun message member => ?_
    rcases List.mem_append.mp member with there | here
    · exact messages message there
    · exact message_own (same.trans own) message here
  | @sync quiet _ current sync =>
    obtain ⟨_, _, built⟩ := @submitted_current transfer current _ _ line.receiver.config accepted
    have next := sync.sent
    rw [← position] at next
    rw [built sync.own sync.turn]
    exact .sync quiet (active_iff.mpr (.inr waits)) next
  | drained onTrack own messages stopped =>
    -- the only message such a sender still has is its abort
    obtain ⟨phase, same, _⟩ := @submitted_current transfer (.abort 0 0) _ _ default accepted
    obtain ⟨cause, abort⟩ := stopped active
    refine .drained onTrack (descriptor.trans own) (fun message member => ?_) fun _ =>
      ⟨cause, (congrArg SenderPosition.phase position).trans abort⟩
    rcases List.mem_append.mp member with there | here
    · exact messages message there
    · refine ⟨message_own (same.trans own) message here, ?_, fun _ => cause⟩
      unfold BulkTransfer.message at here
      rw [phase, abort] at here
      obtain rfl := List.mem_singleton.mp here
      exact trivial

theorem BulkLineInv.told (configured : ConfigValid line.receiver.config) {status : WlBulkStatus}
    (nowMs : UInt32) (head : line.statuses = status :: statuses) :
    BulkLineInv transfer
      { line with
        sender := (wlBulkSenderOnStatus line.sender status nowMs).1, statuses := statuses } := by
  obtain ⟨own, aborts⟩ := onStatus_keeps line.sender status nowMs
  cases inv with
  | past cause spent mine messages => exact .past cause spent (own.trans mine) messages
  | sync quiet active sync =>
    rw [reports_cons head (wlBulkSenderOnStatus line.sender status nowMs).1] at sync
    rcases sync.statusArrives configured active nowMs with ⟨running, _, next⟩ | stopped
    · exact .sync quiet running next
    · refine sync.drains rfl rfl (own.trans sync.own) fun running =>
        absurd running (not_active ?_)
      rcases stopped with completed | ⟨failed, _⟩
      · exact .inr (.inl completed)
      · exact .inl failed
  | drained onTrack mine messages stopped =>
    refine .drained onTrack (own.trans mine) messages fun running => ?_
    by_cases active : line.sender.active = true
    · obtain ⟨cause, abort⟩ := stopped active
      exact ⟨cause, aborts abort⟩
    · have unready : ¬ (line.sender.state = .waitStatus ∧ line.sender.retryWait = false) :=
        fun waits => active (active_iff.mpr (.inr waits.1))
      rw [show (wlBulkSenderOnStatus line.sender status nowMs).1 = _ from
        onStatus_unready unready nowMs] at running
      exact absurd running active

theorem BulkLineInv.statusLost :
    BulkLineInv transfer { line with statuses := line.statuses.tail } := by
  cases inv with
  | past cause spent own messages => exact .past cause spent own messages
  | sync quiet active sync =>
    cases head : line.statuses with
    | nil =>
      have same : BulkLine.reports { line with statuses := [] } = line.reports := by
        unfold BulkLine.reports
        rw [head]
      rw [← same] at sync
      exact .sync quiet active sync
    | cons =>
      rw [reports_cons head line.sender] at sync
      exact .sync quiet active sync.statusTaken
  | drained onTrack own messages stopped => exact .drained onTrack own messages stopped

theorem BulkLineInv.messageLost :
    BulkLineInv transfer { line with messages := line.messages.tail } := by
  cases inv with
  | past cause spent own messages =>
    exact .past cause spent own fun message member =>
      messages message (List.mem_of_mem_tail member)
  | sync quiet active sync => exact .sync quiet active sync.messageLost
  | drained onTrack own messages stopped =>
    exact .drained onTrack own (fun message member =>
      messages message (List.mem_of_mem_tail member)) stopped

theorem BulkLineInv.flagged (config : receiver.config = line.receiver.config)
    (session : receiver.session = line.receiver.session)
    (reports : BulkLine.reports { line with receiver := receiver, statuses := statuses } =
      line.reports) :
    BulkLineInv transfer { line with receiver := receiver, statuses := statuses } := by
  cases inv with
  | past cause spent own messages =>
    rw [← config, ← session] at spent
    exact .past cause spent own messages
  | sync quiet active sync =>
    rw [← config, ← session, ← reports] at sync
    exact .sync quiet active sync
  | drained onTrack own messages stopped =>
    rw [← config, ← session] at onTrack
    rw [← config] at messages
    exact .drained onTrack own messages stopped

/-- Only a receiver of this very transfer times out, and it is spent then. -/
theorem BulkLineInv.timesOut (receiving : line.receiver.state = .receiving)
    (failed : receiver.session.state = .failed)
    (kept : receiver.session.descriptor = line.receiver.descriptor) :
    BulkLineInv transfer
      (if line.receiver.descriptor.transferId = transfer.descriptor.transferId then
        { line with receiver := receiver, causes := .idleTimeout :: line.causes }
      else line.withReceiver receiver) := by
  obtain ⟨onTrack, own, messages⟩ :
      line.receiver.session.OnTrack line.receiver.config transfer.descriptor ∧
        line.sender.descriptor = transfer.descriptor ∧
        ∀ message ∈ line.messages, message.Own transfer.descriptor := by
    cases inv with
    | past cause spent => exact absurd receiving spent.past
    | sync quiet active sync =>
      exact ⟨sync.onTrack, sync.own, fun message member => (sync.messages_own message member).1⟩
    | drained onTrack own messages =>
      exact ⟨onTrack, own, fun message member => (messages message member).1⟩
  have ident : line.receiver.descriptor = transfer.descriptor := (onTrack.running receiving).own
  rw [if_pos (congrArg WlBulkDescriptor.transferId ident)]
  refine .past (List.cons_ne_nil _ _) ⟨?_, .inr ⟨?_, ?_⟩⟩ own messages
  · exact fun state => nomatch failed.symm.trans state
  · exact fun state => nomatch failed.symm.trans state
  · exact congrArg WlBulkDescriptor.transferId (kept.trans ident)

theorem BulkLineInv.moved {after : BulkLine} {op : LineOp} (move : LineMove transfer line op after)
    (identified : transfer.descriptor.transferId ≠ 0)
    (configured : ConfigValid line.receiver.config) : BulkLineInv transfer after := by
  cases move with
  | kept position active => exact inv.stays position active.symm.trans
  | exhausted position failed =>
    exact inv.stays position fun active => absurd active (not_active (.inl failed))
  | aborts own phase => exact inv.aborts own phase
  | sent accepted position waits => exact inv.sends accepted position waits
  | status nowMs head => exact inv.told configured nowMs head
  | statusLost => exact inv.statusLost
  | message nowMs result resumeOffset head =>
    exact inv.arrive nowMs result resumeOffset head identified
  | messageLost => exact inv.messageLost
  | flagged config session reports => exact inv.flagged config session reports
  | timedOut _ receiving failed kept => exact inv.timesOut receiving failed kept

end keeps

/-! ### What the invariant gives

An active sender stops only for a cause or by its retries, and a receiver on its track answers what
it has already acted on. -/

theorem not_stopped (active : sender.active = true) :
    ¬ (sender.state = .failed ∨ sender.state = .aborted) := by
  rintro (failed | aborted)
  · exact not_active (.inl failed) active
  · exact not_active (.inr (.inr aborted)) active

theorem BulkLineInv.stops (configured : ConfigValid line.receiver.config)
    (inv : BulkLineInv transfer line) (op : LineOp) : StopsForCause transfer line op := by
  intro active stopped
  have move := @step_lineMoves transfer line op
  generalize line.step transfer op = after at move stopped ⊢
  cases inv with
  | past cause => exact .inl (move.causes cause)
  | drained onTrack own messages stops => exact .inl (move.causes (stops active).1)
  | sync quiet running sync =>
    cases move with
    | kept position same => exact absurd stopped (not_stopped (same.trans active))
    | exhausted position failed exhausted spends => exact .inr ⟨exhausted, spends⟩
    | aborts => exact .inl (List.cons_ne_nil _ _)
    | sent accepted position waits =>
      exact absurd stopped (not_stopped (active_iff.mpr (.inr waits)))
    | status nowMs head spends =>
      rw [reports_cons head line.sender] at sync
      rcases sync.statusArrives configured active nowMs with
        ⟨going, _⟩ | completed | ⟨_, exhausted, busy⟩
      · exact absurd stopped (not_stopped going)
      · rcases stopped with failed | aborted
        · exact nomatch completed.symm.trans failed
        · exact nomatch completed.symm.trans aborted
      · exact .inr ⟨exhausted, spends busy⟩
    | timedOut =>
      refine absurd stopped (not_stopped ?_)
      split
      · exact active
      · exact active
    | _ => exact absurd stopped (not_stopped active)

theorem BulkSession.OnTrack.answered (identified : transfer.descriptor.transferId ≠ 0)
    (onTrack : line.receiver.session.OnTrack line.receiver.config transfer.descriptor)
    (messages : ∀ message ∈ line.messages, message.Own transfer.descriptor ∧
      message.Shaped line.receiver.config transfer.descriptor) : RepeatsAnswered line := by
  intro message first receiving ready repeats nowMs result resumeOffset
  have running := onTrack.running receiving
  have sameDescriptor : line.receiver.descriptor = transfer.descriptor := running.own
  obtain ⟨own, shaped⟩ := messages message (List.mem_of_mem_head? first)
  cases message with
  | beginning other =>
    obtain rfl : other = transfer.descriptor := own
    rw [sameDescriptor]
    exact (onBegin_running running ready nowMs result resumeOffset).status
  | chunk piece =>
    obtain ⟨data, holds, allowed⟩ := shaped
    rw [sameDescriptor]
    refine (onChunk_repeated running ready own identified holds allowed ?_ nowMs result).status
    have behind : piece.offset.toNat + piece.data.length ≤ line.receiver.nextOffset.toNat := repeats
    rw [holds] at behind
    rw [UInt64.le_iff_toNat_le, allowed.finish]
    exact behind
  | ending | abort => exact repeats.elim

theorem BulkLineInv.answered (identified : transfer.descriptor.transferId ≠ 0)
    (inv : BulkLineInv transfer line) : RepeatsAnswered line := by
  cases inv with
  | past cause spent =>
    intro message first receiving
    exact absurd receiving spent.past
  | sync quiet active sync =>
    exact sync.onTrack.answered identified fun message member =>
      ⟨(sync.messages_own message member).1, (sync.messages_own message member).2.1⟩
  | drained onTrack own messages =>
    exact onTrack.answered identified fun message member =>
      ⟨(messages message member).1, (messages message member).2.1⟩

theorem runLine_inv (identified : transfer.descriptor.transferId ≠ 0)
    (configured : ConfigValid line.receiver.config) (inv : BulkLineInv transfer line)
    (ops : List LineOp) :
    ConfigValid (runLine transfer line ops).receiver.config ∧
      BulkLineInv transfer (runLine transfer line ops) := by
  induction ops generalizing line with
  | nil => exact ⟨configured, inv⟩
  | cons op ops ih =>
    have move := @step_lineMoves transfer line op
    exact ih (move.config ▸ configured) (inv.moved move identified configured)

theorem wlBulkSenderStart_position {idle : WlBulkSender} {descriptor : WlBulkDescriptor}
    (started : wlBulkSenderStart idle descriptor = (sender, .ok)) :
    descriptor.transferId ≠ 0 ∧ sender.active = true ∧
      sender.position =
        { descriptor := descriptor, phase := .phaseBegin, nextOffset := 0, actionLength := 0,
          negotiatedChunkSize := 0, chunkAcknowledged := false } := by
  unfold wlBulkSenderStart at started
  split at started
  · exact nomatch started
  case isFalse valid =>
    split at started
    · exact nomatch started
    · obtain rfl := (Prod.mk.inj started).1
      exact ⟨fun zero => valid (.inl zero), rfl, rfl⟩

/-- The line starts in sync if the receiver's last record left the code `OK` behind. -/
theorem lineStart_inv {idle : WlBulkSender}
    (started : wlBulkSenderStart idle transfer.descriptor = (sender, .ok))
    (past : receiver.state ≠ .receiving) (code : receiver.terminalCode = .ok)
    (fresh : FreshId receiver transfer.descriptor.transferId)
    (foreign : ∀ status ∈ statuses, status.transferId ≠ transfer.descriptor.transferId) :
    BulkLineInv transfer (lineStart sender receiver statuses) := by
  obtain ⟨_, active, position⟩ := wlBulkSenderStart_position started
  have stale : ∀ status ∈ BulkLine.reports (lineStart sender receiver statuses),
      status.transferId ≠ transfer.descriptor.transferId := by
    intro status member
    rcases List.mem_append.mp member with early | pending
    · exact foreign status early
    · have waiting : status ∈
          (if receiver.statusPending = true then [receiver.pendingStatus] else []) := pending
      split at waiting
      case isTrue held =>
        rw [List.mem_singleton.mp waiting]
        exact fresh.2 held
      case isFalse => exact nomatch waiting
  have sync : LineSync transfer receiver.config sender.position (.beginning transfer.descriptor)
      receiver.session [] (BulkLine.reports (lineStart sender receiver statuses)) := by
    rw [position]
    refine ⟨rfl, .opening rfl rfl, .inl ⟨?_, ⟨[], [], rfl, List.forall_mem_nil _,
      List.forall_mem_nil _, fun some => absurd rfl some⟩, fun status member =>
      .inl (.inl (stale status member))⟩⟩
    exact ⟨past, fun opened => (fresh.1 opened).symm, code⟩
  exact .sync rfl active sync

end line

end Wirelink
