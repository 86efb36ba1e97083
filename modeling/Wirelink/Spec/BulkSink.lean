/-
Module: Wirelink.Spec.BulkSink
Purpose: A bulk receiver on its own, driven by whatever a peer sends: the calls its owner may make,
  the sessions its sink must see, when its record agrees with the descriptor it is about, and which
  calls replace a finished record.
Trusted boundary: the choice of operations; all behaviour is in the modules below
-/
import Wirelink.Core.BulkSender
import Wirelink.Core.BulkReceiver

namespace Wirelink

/-- One call of a receiver. The answer of the sink comes with the input that may call it. -/
inductive ReceiverOp where
  | onBegin (descriptor : WlBulkDescriptor) (nowMs : UInt32) (result : WlBulkSinkResult)
      (resumeOffset : UInt64)
  | onChunk (chunk : WlBulkChunk) (nowMs : UInt32) (result : WlBulkSinkResult)
  | onEnd (transferId : UInt32) (totalLength : UInt64) (objectCrc32c : UInt32) (nowMs : UInt32)
      (result : WlBulkSinkResult)
  | onAbort (transferId : UInt32) (reason : Int32) (nowMs : UInt32)
  | statusAcquire
  | statusDefer (view : WlBulkReceiverStatusView)
  | statusRelease (view : WlBulkReceiverStatusView)
  | poll (nowMs : UInt32)
  | reset
deriving Repr, DecidableEq

namespace WlBulkReceiver

/-- The receiver after one call. -/
def step (receiver : WlBulkReceiver) : ReceiverOp → WlBulkReceiver
  | .onBegin descriptor nowMs result resumeOffset =>
    (wlBulkReceiverOnBegin receiver descriptor nowMs result resumeOffset).1
  | .onChunk chunk nowMs result => (wlBulkReceiverOnChunk receiver chunk nowMs result).1
  | .onEnd transferId totalLength objectCrc32c nowMs result =>
    (wlBulkReceiverOnEnd receiver transferId totalLength objectCrc32c nowMs result).1
  | .onAbort transferId reason nowMs => (wlBulkReceiverOnAbort receiver transferId reason nowMs).1
  | .statusAcquire => (wlBulkReceiverStatusAcquire receiver).1
  | .statusDefer view => (wlBulkReceiverStatusDefer receiver view).1
  | .statusRelease view => (wlBulkReceiverStatusRelease receiver view).1
  | .poll nowMs => wlBulkReceiverPoll receiver nowMs
  | .reset => (wlBulkReceiverReset receiver).1

end WlBulkReceiver

/-- The receiver after a sequence of calls. -/
def runReceiver (receiver : WlBulkReceiver) (ops : List ReceiverOp) : WlBulkReceiver :=
  ops.foldl WlBulkReceiver.step receiver

namespace WlBulkReceiverConfig

/-- The chunk size a receiver of this configuration accepts for a descriptor. -/
def negotiated (config : WlBulkReceiverConfig) (descriptor : WlBulkDescriptor) : Option UInt32 :=
  WlBulkReceiver.negotiateChunkSize { (default : WlBulkReceiver) with config := config } descriptor

/-- A prefix a session may resume after: the whole object, or an aligned part of it. -/
def Resumable (config : WlBulkReceiverConfig) (descriptor : WlBulkDescriptor) (offset : UInt64) :
    Prop :=
  offset ≤ descriptor.totalLength ∧
    (offset = descriptor.totalLength ∨ offset % config.writeAlignment.toUInt64 = 0)

instance (config : WlBulkReceiverConfig) (descriptor : WlBulkDescriptor) (offset : UInt64) :
    Decidable (config.Resumable descriptor offset) :=
  inferInstanceAs (Decidable (_ ∧ _))

end WlBulkReceiverConfig

/-! ### Sessions of the sink -/

/-- How a session of the sink stands. -/
inductive SinkPoint where
  | waiting
  | writing (descriptor : WlBulkDescriptor) (offset : Nat)
  | failed (descriptor : WlBulkDescriptor)
deriving Repr, DecidableEq

/-- The transfer a session was opened for. -/
def SinkPoint.descriptor : SinkPoint → Option WlBulkDescriptor
  | .waiting => none
  | .writing descriptor _ => some descriptor
  | .failed descriptor => some descriptor

/-- A span the sink may be asked to write at an offset: no longer than the negotiated chunk,
aligned unless it is the last one, and inside the object. -/
structure SpanAllowed (config : WlBulkReceiverConfig) (descriptor : WlBulkDescriptor) (offset : Nat)
    (data : Bytes) : Prop where
  nonempty : data ≠ []
  sized : ∃ chunkSize, config.negotiated descriptor = some chunkSize ∧
    data.length ≤ chunkSize.toNat
  startAligned : offset % config.writeAlignment.toNat = 0
  endAligned : offset + data.length = descriptor.totalLength.toNat ∨
    data.length % config.writeAlignment.toNat = 0
  inside : offset + data.length ≤ descriptor.totalLength.toNat

/-- The calls of one session, oldest first, up to where it stands: begins answered `BUSY`, one begin
that is not, then writes that follow each other from the resume offset, and finish once everything
is written. A call answered `BUSY` may be repeated; after a failure nothing more is asked for. -/
inductive SinkSession (config : WlBulkReceiverConfig) : SinkPoint → List BulkSinkCall → Prop where
  | fresh : SinkSession config .waiting []
  | beginBusy {calls : List BulkSinkCall} (session : SinkSession config .waiting calls)
      (descriptor : WlBulkDescriptor) (resumeOffset : UInt64) :
      SinkSession config .waiting (calls ++ [.begun descriptor resumeOffset .busy])
  | begun {calls : List BulkSinkCall} (session : SinkSession config .waiting calls)
      {descriptor : WlBulkDescriptor} {resumeOffset : UInt64}
      (resumable : config.Resumable descriptor resumeOffset) :
      SinkSession config (.writing descriptor resumeOffset.toNat)
        (calls ++ [.begun descriptor resumeOffset .ok])
  | beginFailed {calls : List BulkSinkCall} (session : SinkSession config .waiting calls)
      {descriptor : WlBulkDescriptor} {resumeOffset : UInt64} {answer : WlBulkSinkResult}
      (notBusy : answer ≠ .busy)
      (refused : answer = .ok → ¬ config.Resumable descriptor resumeOffset) :
      SinkSession config (.failed descriptor) (calls ++ [.begun descriptor resumeOffset answer])
  | wrote {calls : List BulkSinkCall} {descriptor : WlBulkDescriptor} {offset : UInt64}
      (session : SinkSession config (.writing descriptor offset.toNat) calls) {data : Bytes}
      (allowed : SpanAllowed config descriptor offset.toNat data) :
      SinkSession config (.writing descriptor (offset.toNat + data.length))
        (calls ++ [.written descriptor.transferId offset data .ok])
  | writeBusy {calls : List BulkSinkCall} {descriptor : WlBulkDescriptor} {offset : UInt64}
      (session : SinkSession config (.writing descriptor offset.toNat) calls) {data : Bytes}
      (allowed : SpanAllowed config descriptor offset.toNat data) :
      SinkSession config (.writing descriptor offset.toNat)
        (calls ++ [.written descriptor.transferId offset data .busy])
  | writeFailed {calls : List BulkSinkCall} {descriptor : WlBulkDescriptor} {offset : UInt64}
      (session : SinkSession config (.writing descriptor offset.toNat) calls) {data : Bytes}
      (allowed : SpanAllowed config descriptor offset.toNat data) {answer : WlBulkSinkResult}
      (failed : answer ≠ .ok ∧ answer ≠ .busy) :
      SinkSession config (.failed descriptor)
        (calls ++ [.written descriptor.transferId offset data answer])
  | finishBusy {calls : List BulkSinkCall} {descriptor : WlBulkDescriptor}
      (session : SinkSession config (.writing descriptor descriptor.totalLength.toNat) calls) :
      SinkSession config (.writing descriptor descriptor.totalLength.toNat)
        (calls ++ [.finished descriptor .busy])
  | finishFailed {calls : List BulkSinkCall} {descriptor : WlBulkDescriptor}
      (session : SinkSession config (.writing descriptor descriptor.totalLength.toNat) calls)
      {answer : WlBulkSinkResult} (failed : answer ≠ .ok ∧ answer ≠ .busy) :
      SinkSession config (.failed descriptor) (calls ++ [.finished descriptor answer])

/-- A session that is over: everything was written and finish answered `OK`, or one abort with the
id of the session. -/
inductive SinkClosed (config : WlBulkReceiverConfig) : List BulkSinkCall → Prop where
  | finished {calls : List BulkSinkCall} {descriptor : WlBulkDescriptor}
      (session : SinkSession config (.writing descriptor descriptor.totalLength.toNat) calls) :
      SinkClosed config (calls ++ [.finished descriptor .ok])
  | aborted {calls : List BulkSinkCall} {point : SinkPoint} {descriptor : WlBulkDescriptor}
      (session : SinkSession config point calls) (opened : point.descriptor = some descriptor)
      (reason : Int32) : SinkClosed config (calls ++ [.aborted descriptor.transferId reason])

/-- The whole trace of a sink, oldest first: closed sessions and one that may still be open. -/
def SinkTrace (config : WlBulkReceiverConfig) (point : SinkPoint) (calls : List BulkSinkCall) :
    Prop :=
  ∃ (closed : List (List BulkSinkCall)) (current : List BulkSinkCall),
    calls = closed.flatten ++ current ∧ (∀ session ∈ closed, SinkClosed config session) ∧
      SinkSession config point current

/-! ### The record and what the sender makes of it -/

namespace WlBulkReceiver

/-- The record was left by an Abort of a transfer the receiver had no record of. -/
def isTombstone (receiver : WlBulkReceiver) : Prop :=
  receiver.state = .aborted ∧
    receiver.descriptor = { noDescriptor with transferId := receiver.descriptor.transferId }

/-- The sink opened a session for this descriptor. -/
def Opened (receiver : WlBulkReceiver) (descriptor : WlBulkDescriptor) : Prop :=
  ∃ resumeOffset, receiver.config.Resumable descriptor resumeOffset ∧
    .begun descriptor resumeOffset .ok ∈ receiver.calls

/-- The pending status tells the sender that its transfer was aborted or timed out. -/
def reportsEnd (receiver : WlBulkReceiver) : Prop :=
  receiver.statusPending = true ∧
    (receiver.pendingStatus.code = .aborted ∨ receiver.pendingStatus.code = .timedOut)

end WlBulkReceiver

/-- A sender that waits for a status of the receiver's record: it is the sender of that transfer, or
the one whose Abort left the tombstone; it has negotiated what the receiver accepted when it opened
the transfer, or nothing yet; and it has reached the phase the status answers. -/
structure ConformingSender (receiver : WlBulkReceiver) (sender : WlBulkSender) : Prop where
  waiting : sender.state = .waitStatus ∧ sender.retryWait = false
  started : sender.descriptor.requestedChunkSize ≠ 0
  transfer : sender.descriptor = receiver.descriptor ∨
    receiver.isTombstone ∧ sender.descriptor.transferId = receiver.descriptor.transferId ∧
      sender.phase = .phaseAbort
  negotiated : sender.negotiatedChunkSize = 0 ∨ receiver.Opened sender.descriptor ∧
    receiver.config.negotiated sender.descriptor = some sender.negotiatedChunkSize
  begun : sender.phase = .phaseChunk ∨ sender.phase = .phaseEnd → sender.negotiatedChunkSize ≠ 0
  phase : receiver.pendingStatus.phase = .phaseAbort ∨
    receiver.pendingStatus.phase.value ≤ sender.phase.value

/-- The record agrees with its descriptor, the pending status agrees with the record, and the sender
of the transfer takes an abort or a timeout of it for what it is. -/
structure RecordConsistent (receiver : WlBulkReceiver) : Prop where
  offset : receiver.state ≠ .idle → receiver.nextOffset ≤ receiver.descriptor.totalLength
  status : receiver.state ≠ .idle → receiver.statusPending = true →
    receiver.pendingStatus.transferId = receiver.descriptor.transferId →
      receiver.pendingStatus.nextOffset ≤ receiver.descriptor.totalLength
  sender : receiver.reportsEnd → ∀ (sender : WlBulkSender) (nowMs : UInt32),
    ConformingSender receiver sender →
      (wlBulkSenderOnStatus sender receiver.pendingStatus nowMs).2 ≠ .protocol

/-- A Begin reaches the sink: the receiver has no session and no record of that id. -/
def WlBulkReceiver.admits (receiver : WlBulkReceiver) (descriptor : WlBulkDescriptor) : Prop :=
  receiver.statusPending = false ∧ (receiver.config.negotiated descriptor).isSome ∧
    receiver.state ≠ .receiving ∧
    (receiver.state ≠ .idle → descriptor.transferId ≠ receiver.descriptor.transferId)

/-- The call leaves a record that disagrees with its transfer: a Begin its sink refuses while the
record still holds the offset of a longer transfer, or an Abort of a transfer that was opened and
whose record is gone. -/
def Disagrees (receiver : WlBulkReceiver) : ReceiverOp → Prop
  | .onBegin descriptor _ result resumeOffset =>
    receiver.admits descriptor ∧ result ≠ .busy ∧
      (result = .ok → ¬ receiver.config.Resumable descriptor resumeOffset) ∧
      descriptor.totalLength < receiver.nextOffset
  | .onAbort transferId _ _ =>
    receiver.statusPending = false ∧ transferId ≠ 0 ∧ receiver.state ≠ .receiving ∧
      (receiver.state ≠ .idle → transferId ≠ receiver.descriptor.transferId) ∧
      ∃ descriptor, receiver.Opened descriptor ∧ descriptor.transferId = transferId
  | _ => False

/-! ### Finished records -/

/-- The receiver holds the record of a finished transfer. -/
def TerminalRecord (receiver : WlBulkReceiver) (transferId : UInt32) : Prop :=
  (receiver.state = .completed ∨ receiver.state = .failed ∨ receiver.state = .aborted) ∧
    receiver.descriptor.transferId = transferId

instance (receiver : WlBulkReceiver) (transferId : UInt32) :
    Decidable (TerminalRecord receiver transferId) :=
  inferInstanceAs (Decidable (_ ∧ _))

/-- The call replaces the record of a transfer: a Begin of another id that its sink does not answer
`BUSY`, an Abort of another id, or a reset. -/
def Replaces (transferId : UInt32) (receiver : WlBulkReceiver) : ReceiverOp → Prop
  | .onBegin descriptor _ result _ =>
    receiver.statusPending = false ∧ (receiver.config.negotiated descriptor).isSome ∧
      descriptor.transferId ≠ transferId ∧ result ≠ .busy
  | .onAbort other _ _ => receiver.statusPending = false ∧ other ≠ 0 ∧ other ≠ transferId
  | .reset => receiver.statusAcquired = false
  | _ => False

instance (transferId : UInt32) (receiver : WlBulkReceiver) (op : ReceiverOp) :
    Decidable (Replaces transferId receiver op) :=
  match op with
  | .onBegin _ _ _ _ => inferInstanceAs (Decidable (_ ∧ _ ∧ _ ∧ _))
  | .onAbort _ _ _ => inferInstanceAs (Decidable (_ ∧ _ ∧ _))
  | .reset => inferInstanceAs (Decidable (_ = _))
  | .onChunk _ _ _ | .onEnd _ _ _ _ _ | .statusAcquire | .statusDefer _ | .statusRelease _
  | .poll _ => isFalse id

/-- The sink is asked to begin, write or finish the transfer. -/
def BulkSinkCall.serves (call : BulkSinkCall) (transferId : UInt32) : Bool :=
  match call with
  | .begun descriptor _ _ => descriptor.transferId == transferId
  | .written other _ _ _ => other == transferId
  | .finished descriptor _ => descriptor.transferId == transferId
  | .aborted _ _ => false

end Wirelink
