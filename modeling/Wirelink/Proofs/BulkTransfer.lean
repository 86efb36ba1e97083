/-
Module: Wirelink.Proofs.BulkTransfer
Purpose: One invariant of a bulk sender, a bulk receiver and everything in flight between them. Each
  message is sound for the receiver as it is now, each status is truthful about it, and both stay so
  because the receiver only grows. A completed sender therefore means a delivered object.
Trusted boundary: none
-/
import Wirelink.Proofs.BulkReceiver

namespace Wirelink

/-! ### The sender

The sender knows what truthful statuses have told it. So it is never ahead of the receiver, and each
of its calls keeps it so. -/

/-- The part of a sender the transfer is about. -/
structure SenderSpot where
  descriptor : WlBulkDescriptor
  nextOffset : UInt64
  state : WlBulkSenderState
  phase : WlBulkPhase

/-- The spot of a sender. -/
def WlBulkSender.spot (sender : WlBulkSender) : SenderSpot :=
  { descriptor := sender.descriptor, nextOffset := sender.nextOffset, state := sender.state,
    phase := sender.phase }

/-- The sender has an action to submit or waits for its status. -/
def SenderSpot.Active (spot : SenderSpot) : Prop :=
  spot.state = .ready ∨ spot.state = .waitStatus

/-- What holds of the sender: it is never ahead of the receiver, and the phase it is in tells how
far the receiver has come. -/
structure SenderInv (transfer : BulkTransfer) (record : BulkSession) (spot : SenderSpot) :
    Prop where
  descriptor : spot.state ≠ .idle → spot.descriptor = transfer.descriptor
  offset : spot.nextOffset ≤ record.nextOffset
  opened : spot.Active → spot.phase = .phaseChunk ∨ spot.phase = .phaseEnd → record.state ≠ .idle
  total : spot.Active → spot.phase = .phaseEnd → spot.nextOffset = transfer.descriptor.totalLength
  completed : spot.state = .completed → record.state = .completed

section statuses

variable {transfer : BulkTransfer} {record : BulkSession} {sender : WlBulkSender}

variable {spot : SenderSpot} {status : WlBulkStatus}

theorem SenderInv.grown {after : BulkSession} (inv : SenderInv transfer record spot)
    (grown : Grown record after) :
    SenderInv transfer after spot where
  descriptor := inv.descriptor
  offset := UInt64.le_trans inv.offset grown.offset
  opened := fun active phase => grown.opened (inv.opened active phase)
  total := inv.total
  completed := fun state => grown.completed (inv.completed state)

theorem SenderInv.retried (inv : SenderInv transfer record spot) (active : spot.Active)
    {state : WlBulkSenderState} (next : state = .ready ∨ state = .waitStatus) :
    SenderInv transfer record { spot with state := state } where
  descriptor := fun _ => inv.descriptor fun idle => by
    rcases active with ready | waiting
    · exact nomatch ready.symm.trans idle
    · exact nomatch waiting.symm.trans idle
  offset := inv.offset
  opened := fun _ => inv.opened active
  total := fun _ => inv.total active
  completed := fun completed => by
    have state_eq : state = .completed := completed
    subst state_eq
    rcases next with state | state <;> exact nomatch state

theorem SenderInv.stopped (own : spot.descriptor = transfer.descriptor)
    (offset : spot.nextOffset ≤ record.nextOffset)
    (state : spot.state = .failed ∨ spot.state = .aborted) : SenderInv transfer record spot := by
  have inactive : ¬ spot.Active := by
    rintro (ready | waiting)
    · rcases state with failed | aborted
      · exact nomatch ready.symm.trans failed
      · exact nomatch ready.symm.trans aborted
    · rcases state with failed | aborted
      · exact nomatch waiting.symm.trans failed
      · exact nomatch waiting.symm.trans aborted
  refine ⟨fun _ => own, offset, fun active => absurd active inactive,
    fun active => absurd active inactive, fun completed => ?_⟩
  rcases state with failed | aborted
  · exact nomatch failed.symm.trans completed
  · exact nomatch aborted.symm.trans completed

/-- A sender that goes on with a chunk, or with the end once it has everything acknowledged. -/
theorem SenderInv.prepared (own : sender.descriptor = transfer.descriptor)
    (offset : sender.nextOffset ≤ record.nextOffset) (opened : record.state ≠ .idle) :
    SenderInv transfer record (sender.preparePhase sender.nextPhase).spot where
  descriptor := fun _ => own
  offset := offset
  opened := fun _ _ => opened
  total := fun _ phase => by
    have ending : sender.nextPhase = .phaseEnd := phase
    unfold WlBulkSender.nextPhase at ending
    split at ending
    case isTrue complete =>
      rw [← own]
      exact complete
    case isFalse => exact nomatch ending
  completed := nofun

/-- A sender that prepares Begin or Abort: neither says anything about the receiver. -/
theorem SenderInv.opening {phase : WlBulkPhase} (own : sender.descriptor = transfer.descriptor)
    (offset : sender.nextOffset ≤ record.nextOffset)
    (outside : phase ≠ .phaseChunk ∧ phase ≠ .phaseEnd) :
    SenderInv transfer record (sender.preparePhase phase).spot where
  descriptor := fun _ => own
  offset := offset
  opened := fun _ inside => absurd inside (not_or.mpr outside)
  total := fun _ ending => absurd ending outside.2
  completed := nofun

section

variable (inv : SenderInv transfer record sender.spot)

include inv

theorem wlBulkSenderStart_inv :
    SenderInv transfer record (wlBulkSenderStart sender transfer.descriptor).1.spot := by
  unfold wlBulkSenderStart
  split
  · exact inv
  split
  · exact inv
  · refine SenderInv.opening rfl UInt64.zero_le ⟨?_, ?_⟩
    · exact nofun
    · exact nofun

theorem wlBulkSenderReset_inv : SenderInv transfer record (wlBulkSenderReset sender).1.spot := by
  unfold wlBulkSenderReset
  split
  · exact inv
  · exact ⟨fun idle => absurd rfl idle, UInt64.zero_le,
      (fun active => by rcases active with state | state <;> exact nomatch state),
      (fun active => by rcases active with state | state <;> exact nomatch state),
      nofun⟩

theorem wlBulkSenderRequestAbort_inv (reason : Int32) :
    SenderInv transfer record (wlBulkSenderRequestAbort sender reason).1.spot := by
  unfold wlBulkSenderRequestAbort
  split
  · exact inv
  case isFalse allowed =>
    split
    · exact inv
    · have started : sender.state ≠ .idle := by
        intro idle
        refine allowed (.inl ⟨?_, ?_⟩)
        · simp [WlBulkSender.active, idle]
        · simp [idle]
      refine SenderInv.opening (inv.descriptor started) inv.offset ⟨?_, ?_⟩
      · exact nofun
      · exact nofun

theorem wlBulkSenderActionDefer_inv (action : WlBulkSenderAction) :
    SenderInv transfer record (wlBulkSenderActionDefer sender action).1.spot := by
  unfold wlBulkSenderActionDefer
  split
  · exact inv
  · exact inv

end

theorem actionRefusal_none {action : WlBulkSenderAction}
    (accepted : actionRefusal sender action = none) : sender.state = .ready := by
  unfold actionRefusal at accepted
  split at accepted
  · exact nomatch accepted
  case isFalse held =>
    by_contra state
    exact held (.inl state)

variable (inv : SenderInv transfer record sender.spot)

include inv

theorem wlBulkSenderActionSubmitted_inv (action : WlBulkSenderAction) (nowMs : UInt32) :
    SenderInv transfer record (wlBulkSenderActionSubmitted sender action nowMs).1.spot := by
  unfold wlBulkSenderActionSubmitted
  cases accepted : actionRefusal sender action with
  | some => exact inv
  | none => exact inv.retried (.inl (actionRefusal_none accepted)) (.inr rfl)

theorem wlBulkSenderPoll_inv (nowMs : UInt32) :
    SenderInv transfer record (wlBulkSenderPoll sender nowMs).spot := by
  unfold wlBulkSenderPoll
  split
  · exact inv
  case isFalse due =>
    have waiting : sender.state = .waitStatus := by
      by_contra state
      exact due (.inl state)
    split
    · exact inv.retried (.inr waiting) (.inl rfl)
    · dsimp only
      unfold WlBulkSender.waitForRetry
      split
      · rw [if_pos (show (sender.failSender .timedOut).state = .failed from rfl)]
        refine .stopped (inv.descriptor fun idle => ?_) inv.offset (.inl rfl)
        exact nomatch waiting.symm.trans idle
      · split
        case isTrue failed => exact nomatch waiting.symm.trans failed
        case isFalse => exact inv.retried (.inr waiting) (.inl rfl)

theorem onOutOfOrder_inv (waiting : sender.state = .waitStatus)
    (own : sender.descriptor = transfer.descriptor) (truthful : Truthful record status)
    (phase : status.phase = sender.phase) (code : status.code = .outOfOrder) :
    SenderInv transfer record (onOutOfOrder sender status).1.spot := by
  unfold onOutOfOrder
  split
  · exact .stopped own inv.offset (.inl rfl)
  case isFalse valid =>
    simp only [not_or] at valid
    refine .prepared own truthful.offset ?_
    by_cases begins : sender.phase = .phaseBegin
    · exact truthful.opened (phase.trans begins) (.inr code)
    · have chunks : sender.phase = .phaseChunk := by
        by_contra other
        exact valid.2.2.2 ⟨begins, other⟩
      exact inv.opened (.inr waiting) (.inl chunks)

theorem onOkStatus_inv (waiting : sender.state = .waitStatus)
    (own : sender.descriptor = transfer.descriptor) (truthful : Truthful record status)
    (phase : status.phase = sender.phase) (code : status.code = .ok) :
    SenderInv transfer record (onOkStatus sender status).1.spot := by
  unfold onOkStatus
  split
  case h_1 begins =>
    split
    · exact .stopped own inv.offset (.inl rfl)
    · exact .prepared own truthful.offset (truthful.opened (phase.trans begins) (.inl code))
  case h_2 chunks =>
    split
    · exact .stopped own inv.offset (.inl rfl)
    · exact .prepared own truthful.offset (inv.opened (.inr waiting) (.inl chunks))
  case h_3 ends =>
    split
    · exact .stopped own inv.offset (.inl rfl)
    · exact ⟨fun _ => own, truthful.offset,
        (fun active => by rcases active with state | state <;> exact nomatch state),
        (fun active => by rcases active with state | state <;> exact nomatch state),
        fun _ => truthful.ended (phase.trans ends) code⟩
  case h_4 => exact .stopped own truthful.offset (.inr rfl)
  case h_5 => exact .stopped own inv.offset (.inl rfl)

theorem onCurrentStatus_inv (waiting : sender.state = .waitStatus)
    (own : sender.descriptor = transfer.descriptor) (truthful : Truthful record status)
    (phase : status.phase = sender.phase) (nowMs : UInt32) :
    SenderInv transfer record (onCurrentStatus sender status nowMs).1.spot := by
  unfold onCurrentStatus
  split
  case h_1 =>
    split
    · exact .stopped own inv.offset (.inl rfl)
    · dsimp only
      unfold WlBulkSender.waitForRetry
      split
      · exact .stopped own inv.offset (.inl rfl)
      · exact inv
  case h_2 code => exact onOutOfOrder_inv inv waiting own truthful phase code
  case h_3 code => exact onOkStatus_inv inv waiting own truthful phase code
  case h_4 => exact .stopped own inv.offset (.inr rfl)
  case h_5 => exact .stopped own inv.offset (.inl rfl)

theorem wlBulkSenderOnStatus_inv (truthful : Truthful record status) (nowMs : UInt32) :
    SenderInv transfer record (wlBulkSenderOnStatus sender status nowMs).1.spot := by
  unfold wlBulkSenderOnStatus
  split
  · exact inv
  split
  · exact inv
  split
  · exact inv
  case isFalse awaited =>
    have waiting : sender.state = .waitStatus := by
      by_contra state
      exact awaited (.inl state)
    have own : sender.descriptor = transfer.descriptor :=
      inv.descriptor fun idle => nomatch waiting.symm.trans idle
    split
    · unfold onTerminalStatus
      split
      · exact .stopped own inv.offset (.inl rfl)
      · dsimp only
        split
        · exact .stopped own truthful.offset (.inr rfl)
        · exact .stopped own truthful.offset (.inl rfl)
    split
    · exact inv
    split
    · exact .stopped own inv.offset (.inl rfl)
    case isFalse current =>
      have phase : status.phase = sender.phase := by
        by_contra other
        exact current (.inl other)
      have received : SenderInv transfer record (statusReceived sender status).spot := inv
      exact onCurrentStatus_inv received waiting own truthful phase nowMs

end statuses

/-! ### Whole runs

What is in flight may be lost, duplicated and reordered. All of it stays sound or truthful, because
the receiver only grows. -/

/-- The invariant of the pair and of everything in flight. -/
structure LinkInv (transfer : BulkTransfer) (link : BulkLink) : Prop where
  receiver : ReceiverInv transfer link.receiver
  sender : SenderInv transfer link.receiver.session link.sender.spot
  messages : ∀ message ∈ link.messages, Sound transfer link.receiver.session message
  statuses : ∀ status ∈ link.statuses, Truthful link.receiver.session status

section runs

variable {transfer : BulkTransfer} {link : BulkLink}

variable (inv : LinkInv transfer link)

include inv

theorem LinkInv.withSender {sender : WlBulkSender}
    (next : SenderInv transfer link.receiver.session sender.spot) :
    LinkInv transfer (link.withSender sender) :=
  { inv with sender := next }

theorem LinkInv.withReceiver {receiver : WlBulkReceiver}
    (advance : Advance transfer link.receiver receiver) :
    LinkInv transfer (link.withReceiver receiver) where
  receiver := advance.inv
  sender := inv.sender.grown advance.grown
  messages := fun message sent =>
    (inv.messages message sent).grown advance.grown advance.inv.record
  statuses := fun status sent => (inv.statuses status sent).grown advance.grown

theorem message_sound (ready : link.sender.state = .ready) {action : WlBulkSenderAction}
    {message : BulkMessage} (phase : action.phase = link.sender.phase)
    (descriptor : action.descriptor = link.sender.descriptor)
    (built : transfer.message action = some message) :
    Sound transfer link.receiver.session message := by
  have own : action.descriptor = transfer.descriptor :=
    descriptor.trans (inv.sender.descriptor fun idle => nomatch ready.symm.trans idle)
  unfold BulkTransfer.message at built
  split at built
  · exact nomatch built
  · cases built
    exact own
  · cases built
    exact ⟨congrArg WlBulkDescriptor.transferId own, _, rfl⟩
  case h_4 ends =>
    cases built
    have total := inv.sender.total (.inl ready) (phase.symm.trans ends)
    have reached := inv.sender.offset
    rw [total] at reached
    exact ⟨congrArg WlBulkDescriptor.transferId own, congrArg WlBulkDescriptor.totalLength own,
      congrArg WlBulkDescriptor.objectCrc32c own,
      inv.sender.opened (.inl ready) (.inr (phase.symm.trans ends)),
      UInt64.le_antisymm inv.receiver.record.within reached⟩
  · cases built
    exact congrArg WlBulkDescriptor.transferId own

theorem LinkInv.acquire : LinkInv transfer (link.acquire transfer) := by
  unfold BulkLink.acquire wlBulkSenderActionAcquire
  split
  case h_1 sender action acquired =>
    split at acquired
    · exact nomatch acquired
    case isFalse ready =>
      split at acquired
      · exact nomatch acquired
      · cases acquired
        refine { inv with messages := fun message sent => ?_ }
        rcases List.mem_append.mp sent with built | old
        · exact message_sound inv (not_not.mp ready) rfl rfl (Option.mem_toList.mp built)
        · exact inv.messages message old
  case h_2 sender err acquired =>
    have same : sender = link.sender := by
      split at acquired
      · exact (congrArg Prod.fst acquired).symm
      · split at acquired
        · exact (congrArg Prod.fst acquired).symm
        · exact nomatch congrArg Prod.snd acquired
    subst same
    exact inv.withSender inv.sender

theorem LinkInv.statusAcquire : LinkInv transfer link.statusAcquire := by
  unfold BulkLink.statusAcquire wlBulkReceiverStatusAcquire
  split
  case h_1 receiver view acquired =>
    split at acquired
    · exact nomatch acquired
    case isFalse pending =>
      split at acquired
      · exact nomatch acquired
      · cases acquired
        have held : link.receiver.statusPending = true := not_not.mp pending
        refine ⟨⟨inv.receiver.record, inv.receiver.pending⟩, inv.sender, inv.messages,
          fun status sent => ?_⟩
        rcases List.mem_cons.mp sent with new | old
        · rw [new]
          exact inv.receiver.pending held
        · exact inv.statuses status old
  case h_2 receiver err acquired =>
    have same : receiver = link.receiver := by
      split at acquired
      · exact (congrArg Prod.fst acquired).symm
      · split at acquired
        · exact (congrArg Prod.fst acquired).symm
        · exact nomatch congrArg Prod.snd acquired
    subst same
    exact { inv with }

theorem step_linkInv (op : BulkOp) : LinkInv transfer (link.step transfer op) := by
  cases op with
  | start => exact inv.withSender (wlBulkSenderStart_inv inv.sender)
  | requestAbort reason => exact inv.withSender (wlBulkSenderRequestAbort_inv inv.sender reason)
  | acquire => exact inv.acquire
  | defer action => exact inv.withSender (wlBulkSenderActionDefer_inv inv.sender action)
  | submitted action nowMs =>
    exact inv.withSender (wlBulkSenderActionSubmitted_inv inv.sender action nowMs)
  | senderPoll nowMs => exact inv.withSender (wlBulkSenderPoll_inv inv.sender nowMs)
  | senderReset => exact inv.withSender (wlBulkSenderReset_inv inv.sender)
  | status index nowMs =>
    rw [BulkLink.step]
    split
    case h_1 status found =>
      have truthful := inv.statuses status (List.mem_of_getElem? found)
      exact inv.withSender (wlBulkSenderOnStatus_inv inv.sender truthful nowMs)
    case h_2 => exact inv
  | message index nowMs result resumeOffset =>
    rw [BulkLink.step]
    split
    case h_1 message found =>
      have sound := inv.messages message (List.mem_of_getElem? found)
      exact inv.withReceiver (deliver_advance inv.receiver sound nowMs result resumeOffset)
    case h_2 => exact inv
  | statusAcquire => exact inv.statusAcquire
  | statusDefer view =>
    exact inv.withReceiver (@step_advance _ _ (.statusDefer view) inv.receiver trivial nofun)
  | statusRelease view =>
    exact inv.withReceiver (@step_advance _ _ (.statusRelease view) inv.receiver trivial nofun)
  | receiverPoll nowMs => exact inv.withReceiver (@step_advance _ _ (.poll nowMs) inv.receiver trivial nofun)

theorem runBulk_inv (ops : List BulkOp) : LinkInv transfer (runBulk transfer link ops) := by
  induction ops generalizing link with
  | nil => exact inv
  | cons op ops ih => exact ih (step_linkInv inv op)

end runs

theorem wlBulkReceiverInit_ok {config : WlBulkReceiverConfig} {receiver : WlBulkReceiver}
    (built : wlBulkReceiverInit config = .ok receiver) :
    receiver.session =
      { descriptor := noDescriptor, nextOffset := 0, acceptedChunkSize := 0, state := .idle,
        terminalCode := .ok, sinkActive := false, calls := [] } ∧
      receiver.statusPending = false := by
  unfold wlBulkReceiverInit at built
  split at built
  · exact nomatch built
  · cases built
    exact ⟨rfl, rfl⟩

theorem wlBulkSenderInit_ok {config : WlBulkSenderConfig} {sender : WlBulkSender}
    (built : wlBulkSenderInit config = .ok sender) :
    sender.spot =
      { descriptor := noDescriptor, nextOffset := 0, state := .idle, phase := .phaseNone } := by
  unfold wlBulkSenderInit at built
  split at built
  · exact nomatch built
  · cases built
    rfl

theorem bulkStart_inv (transfer : BulkTransfer) {senderConfig : WlBulkSenderConfig}
    {receiverConfig : WlBulkReceiverConfig} {sender : WlBulkSender} {receiver : WlBulkReceiver}
    (sends : wlBulkSenderInit senderConfig = .ok sender)
    (receives : wlBulkReceiverInit receiverConfig = .ok receiver) :
    LinkInv transfer (bulkStart sender receiver) := by
  obtain ⟨record, noStatus⟩ := wlBulkReceiverInit_ok receives
  refine ⟨⟨?_, fun held => nomatch noStatus.symm.trans held⟩, ?_, ?_, ?_⟩
  · rw [show (bulkStart sender receiver).receiver.session = _ from record]
    exact ⟨fun open_ => absurd rfl open_, fun _ => ⟨rfl, rfl, rfl, rfl⟩, UInt64.zero_le,
      nofun,
      (fun state => by rcases state with state | state <;> exact nomatch state)⟩
  · rw [show (bulkStart sender receiver).sender.spot = _ from wlBulkSenderInit_ok sends]
    exact ⟨fun open_ => absurd rfl open_, UInt64.zero_le,
      (fun active => by rcases active with state | state <;> exact nomatch state),
      (fun active => by rcases active with state | state <;> exact nomatch state),
      nofun⟩
  · exact nofun
  · exact nofun

theorem RecordInv.delivered {transfer : BulkTransfer} {record : BulkSession}
    (inv : RecordInv transfer record) (completed : record.state = .completed) :
    Delivered transfer record.calls := by
  obtain ⟨resumeOffset, session⟩ := inv.session (.inr completed)
  refine ⟨resumeOffset, session.within, session.begins, ?_, ?_⟩
  · rw [← session.total completed]
    exact session.stored
  · rw [session.finishes, if_pos completed]

/-- In every run of one transfer, whatever is lost, duplicated or reordered and whatever the sink
answers: a completed sender means that the object arrived at the sink exactly once, the sender is
never ahead of the receiver, and no End is answered as coming too early. -/
theorem bulk_transfer_safe (transfer : BulkTransfer) (senderConfig : WlBulkSenderConfig)
    (receiverConfig : WlBulkReceiverConfig) (sender : WlBulkSender) (receiver : WlBulkReceiver)
    (sends : wlBulkSenderInit senderConfig = .ok sender)
    (receives : wlBulkReceiverInit receiverConfig = .ok receiver) (ops : List BulkOp) :
    ((runBulk transfer (bulkStart sender receiver) ops).sender.state = .completed →
      Delivered transfer (runBulk transfer (bulkStart sender receiver) ops).receiver.calls) ∧
    (runBulk transfer (bulkStart sender receiver) ops).sender.nextOffset ≤
      (runBulk transfer (bulkStart sender receiver) ops).receiver.nextOffset ∧
    answersEndOutOfOrder (runBulk transfer (bulkStart sender receiver) ops).receiver = false := by
  have inv := runBulk_inv (bulkStart_inv transfer sends receives) ops
  refine ⟨fun completed => ?_, inv.sender.offset, ?_⟩
  · exact inv.receiver.record.delivered (inv.sender.completed completed)
  · refine eq_false_of_ne_true fun early => ?_
    simp only [answersEndOutOfOrder, Bool.and_eq_true, beq_iff_eq] at early
    exact (inv.receiver.pending early.1.1).inOrder ⟨early.1.2, early.2⟩

/-! ### A small transfer -/

/-- Three bytes in chunks of two. -/
def smallTransfer : BulkTransfer :=
  { descriptor :=
      { transferId := 7, totalLength := 3, requestedChunkSize := 2, objectCrc32c := 0 }
    object := [10, 20, 30]
    measured := rfl }

/-- The configuration of its sender. -/
def smallSenderConfig : WlBulkSenderConfig :=
  { statusTimeoutMs := 100, busyRetryMs := 10, maxRetries := 3 }

/-- The configuration of its receiver. -/
def smallReceiverConfig : WlBulkReceiverConfig :=
  { maxObjectLength := 16, maxChunkSize := 8, writeAlignment := 1, idleTimeoutMs := 0 }

/-- Its sender. -/
def smallBulkSender : WlBulkSender :=
  (wlBulkSenderInit smallSenderConfig).toOption.getD default

/-- Its receiver. -/
def smallBulkReceiver : WlBulkReceiver :=
  (wlBulkReceiverInit smallReceiverConfig).toOption.getD default

/-- One action with its message and its status. -/
def smallTurn (phase : WlBulkPhase) (offset : UInt64) (length : Nat) (token : UInt32) :
    List BulkOp :=
  [.acquire,
    .submitted
      { phase := phase, descriptor := smallTransfer.descriptor, offset := offset, length := length,
        abortReason := 0, token := token } 0,
    .message 0 0 .ok 0, .statusAcquire,
    .statusRelease
      { status :=
          { transferId := 7, phase := phase, code := .ok,
            nextOffset := offset + UInt64.ofNat length, acceptedChunkSize := 2 }
        token := token },
    .status 0 0]

/-- Begin, two chunks and End. -/
def smallTransferOps : List BulkOp :=
  .start :: (smallTurn .phaseBegin 0 0 1 ++ smallTurn .phaseChunk 0 2 2 ++
    smallTurn .phaseChunk 2 1 3 ++ smallTurn .phaseEnd 3 0 4)

theorem small_transfer_delivered :
    (runBulk smallTransfer (bulkStart smallBulkSender smallBulkReceiver)
      smallTransferOps).sender.state = .completed ∧
    Delivered smallTransfer
      (runBulk smallTransfer (bulkStart smallBulkSender smallBulkReceiver)
        smallTransferOps).receiver.calls := by
  have completed : (runBulk smallTransfer (bulkStart smallBulkSender smallBulkReceiver)
      smallTransferOps).sender.state = .completed := by decide +kernel
  exact ⟨completed,
    (bulk_transfer_safe smallTransfer smallSenderConfig smallReceiverConfig smallBulkSender
      smallBulkReceiver rfl rfl smallTransferOps).1 completed⟩

end Wirelink
