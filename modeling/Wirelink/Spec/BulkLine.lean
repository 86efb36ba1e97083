/-
Module: Wirelink.Spec.BulkLine
Purpose: One bulk sender and one bulk receiver joined by two channels that keep order and may lose,
  but neither duplicate nor reorder. The line remembers every event that may rightly stop the
  sender; a sender that stops without one has been stopped for no reason.
Trusted boundary: the choice of operations; all behaviour is in the modules below
-/
import Wirelink.Spec.Bulk
import Wirelink.Spec.BulkSink

namespace Wirelink

/-- What may rightly stop a sender, besides the end of its retries. -/
inductive StopCause where
  | rejected
  | sinkFailed
  | idleTimeout
  | abortRequested
deriving Repr, DecidableEq

/-- The two sides and what is under way between them, oldest first. -/
structure BulkLine where
  sender : WlBulkSender
  receiver : WlBulkReceiver
  messages : List BulkMessage
  statuses : List WlBulkStatus
  causes : List StopCause

/-- One operation on the line. A message enters its channel when the driver reports it submitted, a
status when its view is released. Only the oldest message or status arrives or is lost. -/
inductive LineOp where
  | requestAbort (reason : Int32)
  | acquire
  | defer (action : WlBulkSenderAction)
  | submitted (action : WlBulkSenderAction) (nowMs : UInt32)
  | senderPoll (nowMs : UInt32)
  | status (nowMs : UInt32)
  | statusLost
  | message (nowMs : UInt32) (result : WlBulkSinkResult) (resumeOffset : UInt64)
  | messageLost
  | statusAcquire
  | statusDefer (view : WlBulkReceiverStatusView)
  | statusRelease (view : WlBulkReceiverStatusView)
  | receiverPoll (nowMs : UInt32)

/-- A sink call that ends a session without success: a failure, or a begin with a prefix that cannot
be resumed. -/
def BulkSinkCall.failing (config : WlBulkReceiverConfig) : BulkSinkCall → Bool
  | .begun descriptor resumeOffset answer =>
    answer != .busy && (answer != .ok || !decide (config.Resumable descriptor resumeOffset))
  | .written _ _ _ answer => answer != .busy && answer != .ok
  | .finished _ answer => answer != .busy && answer != .ok
  | .aborted _ _ => false

/-- What the arrival of a message gives the sender as a reason to stop. -/
def BulkMessage.stopCause (message : BulkMessage) (before after : WlBulkReceiver) :
    Option StopCause :=
  match message with
  | .beginning descriptor =>
    if before.statusPending = false ∧ before.config.negotiated descriptor = none then
      some .rejected
    else sinkCause before after
  | _ => sinkCause before after
where
  /-- The sink was called and failed. -/
  sinkCause (before after : WlBulkReceiver) : Option StopCause :=
    if before.calls.length < after.calls.length ∧
        after.calls.head?.any (BulkSinkCall.failing after.config) then some .sinkFailed
    else none

namespace BulkLine

/-- Replace the sender. -/
def withSender (line : BulkLine) (sender : WlBulkSender) : BulkLine :=
  { line with sender := sender }

/-- Replace the receiver. -/
def withReceiver (line : BulkLine) (receiver : WlBulkReceiver) : BulkLine :=
  { line with receiver := receiver }

/-- The local side asks for an abort. -/
def requestAbort (line : BulkLine) (reason : Int32) : BulkLine :=
  match wlBulkSenderRequestAbort line.sender reason with
  | (sender, .ok) => { line with sender := sender, causes := .abortRequested :: line.causes }
  | (sender, _) => line.withSender sender

/-- The driver has sent the message of an action. -/
def submitted (line : BulkLine) (transfer : BulkTransfer) (action : WlBulkSenderAction)
    (nowMs : UInt32) : BulkLine :=
  match wlBulkSenderActionSubmitted line.sender action nowMs with
  | (sender, .ok) =>
    { line with sender := sender, messages := line.messages ++ (transfer.message action).toList }
  | (sender, _) => line.withSender sender

/-- The oldest message arrives. -/
def arrive (line : BulkLine) (nowMs : UInt32) (result : WlBulkSinkResult)
    (resumeOffset : UInt64) : BulkLine :=
  match line.messages with
  | [] => line
  | message :: messages =>
    let receiver := message.deliver line.receiver nowMs result resumeOffset
    { line with
      receiver := receiver, messages := messages
      causes := (message.stopCause line.receiver receiver).toList ++ line.causes }

/-- The oldest status arrives. -/
def statusArrives (line : BulkLine) (nowMs : UInt32) : BulkLine :=
  match line.statuses with
  | [] => line
  | status :: statuses =>
    { line with
      sender := (wlBulkSenderOnStatus line.sender status nowMs).1, statuses := statuses }

/-- The driver of the receiver has sent the status it acquired. -/
def statusRelease (line : BulkLine) (view : WlBulkReceiverStatusView) : BulkLine :=
  match wlBulkReceiverStatusRelease line.receiver view with
  | (receiver, .ok) =>
    { line with receiver := receiver, statuses := line.statuses ++ [view.status] }
  | (receiver, _) => line.withReceiver receiver

/-- The receiver's clock moves on. -/
def receiverPoll (line : BulkLine) (transfer : BulkTransfer) (nowMs : UInt32) : BulkLine :=
  let receiver := wlBulkReceiverPoll line.receiver nowMs
  if line.receiver.state = .receiving ∧ receiver.state = .failed ∧
      line.receiver.descriptor.transferId = transfer.descriptor.transferId then
    { line with receiver := receiver, causes := .idleTimeout :: line.causes }
  else line.withReceiver receiver

/-- The line after one operation. -/
def step (transfer : BulkTransfer) (line : BulkLine) : LineOp → BulkLine
  | .requestAbort reason => line.requestAbort reason
  | .acquire => line.withSender (wlBulkSenderActionAcquire line.sender).1
  | .defer action => line.withSender (wlBulkSenderActionDefer line.sender action).1
  | .submitted action nowMs => line.submitted transfer action nowMs
  | .senderPoll nowMs => line.withSender (wlBulkSenderPoll line.sender nowMs)
  | .status nowMs => line.statusArrives nowMs
  | .statusLost => { line with statuses := line.statuses.tail }
  | .message nowMs result resumeOffset => line.arrive nowMs result resumeOffset
  | .messageLost => { line with messages := line.messages.tail }
  | .statusAcquire => line.withReceiver (wlBulkReceiverStatusAcquire line.receiver).1
  | .statusDefer view => line.withReceiver (wlBulkReceiverStatusDefer line.receiver view).1
  | .statusRelease view => line.statusRelease view
  | .receiverPoll nowMs => line.receiverPoll transfer nowMs

end BulkLine

/-- The line after a sequence of operations. -/
def runLine (transfer : BulkTransfer) (line : BulkLine) (ops : List LineOp) : BulkLine :=
  ops.foldl (BulkLine.step transfer) line

/-- The line when the sender has just started; statuses of earlier transfers may be under way. -/
def lineStart (sender : WlBulkSender) (receiver : WlBulkReceiver) (statuses : List WlBulkStatus) :
    BulkLine :=
  { sender := sender, receiver := receiver, messages := [], statuses := statuses, causes := [] }

/-- The receiver holds nothing of this id: neither a record nor a status. -/
def FreshId (receiver : WlBulkReceiver) (transferId : UInt32) : Prop :=
  (receiver.state ≠ .idle → receiver.descriptor.transferId ≠ transferId) ∧
    (receiver.statusPending = true → receiver.pendingStatus.transferId ≠ transferId)

/-- The retries for the current action are used up. -/
def WlBulkSender.Exhausted (sender : WlBulkSender) : Prop :=
  sender.maxRetries ≤ sender.retryCount

/-- The operation spends a retry: the status of the action is overdue, or says that the sink is busy. -/
def LineOp.SpendsRetry (line : BulkLine) : LineOp → Prop
  | .senderPoll nowMs => line.sender.waitIntervalMs ≤ nowMs - line.sender.waitStartedAt
  | .status _ => ∃ status ∈ line.statuses.head?, status.code = .busy
  | _ => False

/-- An operation stops an active sender only for a cause, or by a retry it has not got any more. -/
def StopsForCause (transfer : BulkTransfer) (line : BulkLine) (op : LineOp) : Prop :=
  line.sender.active = true →
    (line.step transfer op).sender.state = .failed ∨
      (line.step transfer op).sender.state = .aborted →
    (line.step transfer op).causes ≠ [] ∨ line.sender.Exhausted ∧ op.SpendsRetry line

/-- The phase a message belongs to. -/
def BulkMessage.phase : BulkMessage → WlBulkPhase
  | .beginning _ => .phaseBegin
  | .chunk _ => .phaseChunk
  | .ending _ _ _ => .phaseEnd
  | .abort _ _ => .phaseAbort

/-- The message is a Begin or a Chunk that the receiver has already acted on. -/
def BulkMessage.Repeats (receiver : WlBulkReceiver) : BulkMessage → Prop
  | .beginning descriptor => descriptor = receiver.descriptor
  | .chunk piece => piece.offset.toNat + piece.data.length ≤ receiver.nextOffset.toNat
  | .ending _ _ _ => False
  | .abort _ _ => False

/-- A receiver that is receiving answers a repeated message with `OK` and its current offset. -/
def RepeatsAnswered (line : BulkLine) : Prop :=
  ∀ message ∈ line.messages.head?, line.receiver.state = .receiving →
    line.receiver.statusPending = false → message.Repeats line.receiver →
    ∀ (nowMs : UInt32) (result : WlBulkSinkResult) (resumeOffset : UInt64),
      (message.deliver line.receiver nowMs result resumeOffset).pendingStatus =
        { transferId := line.receiver.descriptor.transferId, phase := message.phase, code := .ok,
          nextOffset := line.receiver.nextOffset,
          acceptedChunkSize := line.receiver.acceptedChunkSize }

/-- A transfer is never failed without a cause: in every run from here, no operation stops the sender
for no reason, and every repeated message is answered. -/
def LineSafe (receiver : WlBulkReceiver) : Prop :=
  ∀ (transfer : BulkTransfer) (idle sender : WlBulkSender) (statuses : List WlBulkStatus),
    wlBulkSenderStart idle transfer.descriptor = (sender, .ok) →
    FreshId receiver transfer.descriptor.transferId →
    (∀ status ∈ statuses, status.transferId ≠ transfer.descriptor.transferId) →
    ∀ ops : List LineOp,
      RepeatsAnswered (runLine transfer (lineStart sender receiver statuses) ops) ∧
      ∀ op, StopsForCause transfer (runLine transfer (lineStart sender receiver statuses) ops) op

end Wirelink
