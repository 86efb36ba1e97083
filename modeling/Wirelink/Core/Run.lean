/-
Module: Wirelink.Core.Run
Purpose: Everything that can happen to a context, as one operation type with its step function, and
  the contexts reachable from a successful wl_init. Operations are the calls of the application, of
  the port and of the producers, and the stores that holders of a claim make into their spans.
Trusted boundary: the choice of operations; all behaviour is in the modules below
-/
import Wirelink.Core.Transport

namespace Wirelink

/-- One operation on a context. -/
inductive Op where
  | poll (nowMs : UInt32)
  | sendReliable (messageId : UInt16) (payload : Buffer) (nowMs : UInt32)
  | sendUnreliable (messageId : UInt16) (payload : Buffer)
  | payloadClaim (messageId : UInt16) (delivery : WlDelivery)
  | claimStore (offset : Nat) (data : Bytes)
  | payloadCommit (claim : WlTxPayloadClaim) (payloadLen : Nat) (nowMs : UInt32)
      (wantsHandle : Bool)
  | payloadAbort (claim : WlTxPayloadClaim)
  | consumed (token : UInt32) (ioResult : WlErr)
  | drained (token : UInt32) (ioResult : WlErr)
  | writable
  | setSink (sink : Bool)
  | setDrainRequired (required : Bool)
  | cancel (handle : UInt32)
  | take (handle : UInt32)
  | release (type : WlEventType) (lease : UInt32)
  | feedUnit (unit : Buffer)
  | feedBytes (data : Buffer)
  | rxReserve
  | ringStore (offset : Nat) (data : Bytes)
  | rxCommit (length : Nat)
  | dmaClaim (maximumLength : Nat)
  | dmaStore (offset : Nat) (data : Bytes)
  | dmaPublish (token : UInt32) (offset length : Nat)
  | dmaFinish (token : UInt32)
  | dmaAbort
  | noteOverflow
  | recoverReset
  | unitQueueInit (storage : Bytes) (unitSize slotCount : Nat)
  | unitClaim (maximumLength : Nat)
  | unitStore (offset : Nat) (data : Bytes)
  | unitCommit (claim : RxUnitClaim) (length : Nat)
  | unitAbort (claim : RxUnitClaim)
  | readiness (nowMs : UInt32)
deriving Repr, Inhabited, DecidableEq

/-- The time an operation brings along. -/
def Op.time : Op → Option UInt32
  | .poll nowMs | .sendReliable _ _ nowMs | .payloadCommit _ _ nowMs _ => some nowMs
  | _ => none

/-- The context after one operation. -/
def step (ctx : WlCtx) : Op → WlCtx
  | .poll nowMs => (wlPoll ctx nowMs).1
  | .sendReliable messageId payload nowMs => (wlSendReliable ctx messageId payload nowMs).1
  | .sendUnreliable messageId payload => (wlSendUnreliable ctx messageId payload).1
  | .payloadClaim messageId delivery => (wlTxPayloadClaim ctx messageId delivery).1
  | .claimStore offset data => claimWrite ctx offset data
  | .payloadCommit claim payloadLen nowMs wantsHandle =>
    (wlTxPayloadCommit ctx claim payloadLen nowMs wantsHandle).1
  | .payloadAbort claim => (wlTxPayloadAbort ctx claim).1
  | .consumed token ioResult => (wlTxConsumed ctx token ioResult).1
  | .drained token ioResult => (wlTxDrained ctx token ioResult).1
  | .writable => (wlTxWritable ctx).1
  | .setSink sink => (wlSetSink ctx sink).1
  | .setDrainRequired required => (wlSetTxDrainRequired ctx required).1
  | .cancel handle => (wlTxCancel ctx handle).1
  | .take handle => (wlTxTake ctx handle).1
  | .release type lease => wlEventRelease ctx type lease
  | .feedUnit unit => (wlFeedUnit ctx unit).1
  | .feedBytes data => (wlFeedBytes ctx data).1
  | .rxReserve => (wlRxReserve ctx).1
  | .ringStore offset data => setRing ctx (ctx.rx.rxRing.producerStore offset data)
  | .rxCommit length => (wlRxCommit ctx length).1
  | .dmaClaim maximumLength => (wlRxDmaClaim ctx maximumLength).1
  | .dmaStore offset data => setRing ctx (ctx.rx.rxRing.dmaStore offset data)
  | .dmaPublish token offset length => (wlRxDmaPublish ctx token offset length).1
  | .dmaFinish token => (wlRxDmaFinish ctx token).1
  | .dmaAbort => (wlRxDmaAbort ctx).1
  | .noteOverflow => wlRxNoteOverflow ctx
  | .recoverReset => (wlFeedRecoverReset ctx).1
  | .unitQueueInit storage unitSize slotCount =>
    (wlRxUnitQueueInit ctx storage unitSize slotCount).1
  | .unitClaim maximumLength => (wlRxUnitClaim ctx maximumLength).1
  | .unitStore offset data => setUnits ctx (ctx.rx.rxUnits.claimStore offset data)
  | .unitCommit claim length => (wlRxUnitCommit ctx claim length).1
  | .unitAbort claim => (wlRxUnitAbort ctx claim).1
  | .readiness nowMs => (wlLinkGetReadiness ctx nowMs).1

/-- The context after a sequence of operations. -/
def run (ctx : WlCtx) (ops : List Op) : WlCtx :=
  ops.foldl step ctx

/-- The contexts a run can lead to, whatever the configuration, the storage, the operations and the
answers of the sink. -/
def Reachable (ctx : WlCtx) : Prop :=
  ∃ config storage answers start ops,
    wlInit config storage answers = .ok start ∧ ctx = run start ops

end Wirelink
