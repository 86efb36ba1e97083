/-
Module: Wirelink.Spec.Bulk
Purpose: One bulk sender and one bulk receiver on a network that may lose, duplicate and reorder
  what they send, and what it means that an object arrived: the receiver's sink was opened once,
  written consecutively from the resume offset to the end, and finished once.
Trusted boundary: the choice of operations; all behaviour is in the modules below
-/
import Wirelink.Core.BulkSender
import Wirelink.Core.BulkReceiver

namespace Wirelink

/-- An object together with the descriptor that announces it. -/
structure BulkTransfer where
  descriptor : WlBulkDescriptor
  object : Bytes
  measured : object.length = descriptor.totalLength.toNat

/-- The four messages of a sender. -/
inductive BulkMessage where
  | beginning (descriptor : WlBulkDescriptor)
  | chunk (piece : WlBulkChunk)
  | ending (transferId : UInt32) (totalLength : UInt64) (objectCrc32c : UInt32)
  | abort (transferId : UInt32) (reason : Int32)
deriving Repr, DecidableEq

/-- The message the driver builds for an action; a chunk is filled from the object. -/
def BulkTransfer.message (transfer : BulkTransfer) (action : WlBulkSenderAction) :
    Option BulkMessage :=
  match action.phase with
  | .phaseNone => none
  | .phaseBegin => some (.beginning action.descriptor)
  | .phaseChunk =>
    some (.chunk
      { transferId := action.descriptor.transferId
        offset := action.offset
        data := .bytes (transfer.object.readAt action.offset.toNat action.length) })
  | .phaseEnd =>
    some (.ending action.descriptor.transferId action.descriptor.totalLength
      action.descriptor.objectCrc32c)
  | .phaseAbort => some (.abort action.descriptor.transferId action.abortReason)

/-- The two sides and everything they ever sent. Nothing is taken off the lists: a message that is
never delivered is lost, one that is delivered twice is duplicated. -/
structure BulkLink where
  sender : WlBulkSender
  receiver : WlBulkReceiver
  messages : List BulkMessage
  statuses : List WlBulkStatus

/-- One operation on the pair. The answer of the sink comes with the delivery that may call it. -/
inductive BulkOp where
  | start
  | requestAbort (reason : Int32)
  | acquire
  | defer (action : WlBulkSenderAction)
  | submitted (action : WlBulkSenderAction) (nowMs : UInt32)
  | senderPoll (nowMs : UInt32)
  | senderReset
  | status (index : Nat) (nowMs : UInt32)
  | message (index : Nat) (nowMs : UInt32) (result : WlBulkSinkResult) (resumeOffset : UInt64)
  | statusAcquire
  | statusDefer (view : WlBulkReceiverStatusView)
  | statusRelease (view : WlBulkReceiverStatusView)
  | receiverPoll (nowMs : UInt32)

/-- A message reaches the receiver. -/
def BulkMessage.deliver (message : BulkMessage) (receiver : WlBulkReceiver) (nowMs : UInt32)
    (result : WlBulkSinkResult) (resumeOffset : UInt64) : WlBulkReceiver :=
  match message with
  | .beginning descriptor =>
    (wlBulkReceiverOnBegin receiver descriptor nowMs result resumeOffset).1
  | .chunk piece => (wlBulkReceiverOnChunk receiver piece nowMs result).1
  | .ending transferId totalLength objectCrc32c =>
    (wlBulkReceiverOnEnd receiver transferId totalLength objectCrc32c nowMs result).1
  | .abort transferId reason => (wlBulkReceiverOnAbort receiver transferId reason nowMs).1

namespace BulkLink

/-- Replace the sender. -/
def withSender (link : BulkLink) (sender : WlBulkSender) : BulkLink :=
  { link with sender := sender }

/-- Replace the receiver. -/
def withReceiver (link : BulkLink) (receiver : WlBulkReceiver) : BulkLink :=
  { link with receiver := receiver }

/-- The driver acquires an action and sends its message. -/
def acquire (link : BulkLink) (transfer : BulkTransfer) : BulkLink :=
  match wlBulkSenderActionAcquire link.sender with
  | (sender, .ok action) =>
    { link with
      sender := sender, messages := (transfer.message action).toList ++ link.messages }
  | (sender, .error _) => link.withSender sender

/-- The application of the receiver acquires the pending status and sends it. -/
def statusAcquire (link : BulkLink) : BulkLink :=
  match wlBulkReceiverStatusAcquire link.receiver with
  | (receiver, .ok view) =>
    { link with receiver := receiver, statuses := view.status :: link.statuses }
  | (receiver, .error _) => link.withReceiver receiver

/-- The pair after one operation. -/
def step (transfer : BulkTransfer) (link : BulkLink) : BulkOp → BulkLink
  | .start => link.withSender (wlBulkSenderStart link.sender transfer.descriptor).1
  | .requestAbort reason => link.withSender (wlBulkSenderRequestAbort link.sender reason).1
  | .acquire => link.acquire transfer
  | .defer action => link.withSender (wlBulkSenderActionDefer link.sender action).1
  | .submitted action nowMs =>
    link.withSender (wlBulkSenderActionSubmitted link.sender action nowMs).1
  | .senderPoll nowMs => link.withSender (wlBulkSenderPoll link.sender nowMs)
  | .senderReset => link.withSender (wlBulkSenderReset link.sender).1
  | .status index nowMs =>
    match link.statuses[index]? with
    | some status => link.withSender (wlBulkSenderOnStatus link.sender status nowMs).1
    | none => link
  | .message index nowMs result resumeOffset =>
    match link.messages[index]? with
    | some message =>
      link.withReceiver (message.deliver link.receiver nowMs result resumeOffset)
    | none => link
  | .statusAcquire => link.statusAcquire
  | .statusDefer view => link.withReceiver (wlBulkReceiverStatusDefer link.receiver view).1
  | .statusRelease view => link.withReceiver (wlBulkReceiverStatusRelease link.receiver view).1
  | .receiverPoll nowMs => link.withReceiver (wlBulkReceiverPoll link.receiver nowMs)

end BulkLink

/-- The pair before anything was sent. -/
def bulkStart (sender : WlBulkSender) (receiver : WlBulkReceiver) : BulkLink :=
  { sender := sender, receiver := receiver, messages := [], statuses := [] }

/-- The pair after a sequence of operations. -/
def runBulk (transfer : BulkTransfer) (link : BulkLink) (ops : List BulkOp) : BulkLink :=
  ops.foldl (BulkLink.step transfer) link

/-! ### What the sink saw -/

/-- The begin calls answered `OK`, oldest first. -/
def acceptedBegins (calls : List BulkSinkCall) : List (WlBulkDescriptor × UInt64) :=
  calls.reverse.filterMap fun
    | .begun descriptor resumeOffset .ok => some (descriptor, resumeOffset)
    | _ => none

/-- The writes answered `OK`, oldest first. -/
def acceptedWrites (calls : List BulkSinkCall) : List (UInt64 × Bytes) :=
  calls.reverse.filterMap fun
    | .written _ offset data .ok => some (offset, data)
    | _ => none

/-- The finish calls answered `OK`, oldest first. -/
def acceptedFinishes (calls : List BulkSinkCall) : List WlBulkDescriptor :=
  calls.reverse.filterMap fun
    | .finished descriptor .ok => some descriptor
    | _ => none

/-- The writes follow each other from `start` to `finish`. -/
def Consecutive : Nat → List (UInt64 × Bytes) → Nat → Prop
  | start, [], finish => start = finish
  | start, (offset, data) :: writes, finish =>
    offset.toNat = start ∧ Consecutive (start + data.length) writes finish

/-- The writes cover the object from `start` to `finish` with its own bytes. -/
structure Stored (transfer : BulkTransfer) (calls : List BulkSinkCall) (start finish : Nat) :
    Prop where
  consecutive : Consecutive start (acceptedWrites calls) finish
  content : (acceptedWrites calls).flatMap Prod.snd =
    transfer.object.readAt start (finish - start)

/-- The object arrived: one begin, consecutive writes of the rest of the object, one finish. -/
def Delivered (transfer : BulkTransfer) (calls : List BulkSinkCall) : Prop :=
  ∃ resumeOffset : UInt64,
    resumeOffset ≤ transfer.descriptor.totalLength ∧
      acceptedBegins calls = [(transfer.descriptor, resumeOffset)] ∧
      Stored transfer calls resumeOffset.toNat transfer.descriptor.totalLength.toNat ∧
      acceptedFinishes calls = [transfer.descriptor]

/-- The receiver's pending status says that an End came too early. -/
def answersEndOutOfOrder (receiver : WlBulkReceiver) : Bool :=
  receiver.statusPending && receiver.pendingStatus.phase == .phaseEnd &&
    receiver.pendingStatus.code == .outOfOrder

end Wirelink
