/-
Module: Wirelink.Spec.Transaction
Purpose: A reliable transaction as it can be read off the observations: which one was opened last,
  how often it was submitted, what a submission has to carry, and whether it belongs to a
  transaction opened since a given moment.
Trusted boundary: none
-/
import Wirelink.Core.Transport
import Wirelink.Lib.Trace
import Wirelink.Spec.Wire

namespace Wirelink

/-- The transaction is waiting for its ACK or has a unit in flight or queued. -/
def TxTransaction.Live (tx : TxTransaction) : Prop :=
  tx.txState = .waitingAck ∨ tx.txState = .sending

instance (tx : TxTransaction) : Decidable tx.Live :=
  inferInstanceAs (Decidable (_ ∨ _))

theorem not_live {tx : TxTransaction} (waiting : tx.txState ≠ .waitingAck)
    (sending : tx.txState ≠ .sending) : ¬ tx.Live := by
  rintro (state | state)
  · exact waiting state
  · exact sending state

/-- The transaction that was opened last, with its handle. -/
def openedLast : List Obs → Option (UInt32 × TxEntry)
  | [] => none
  | .opened handle entry :: _ => some (handle, entry)
  | _ :: past => openedLast past

/-- Submissions of the transaction opened last that the sink did not answer with `BUSY`. -/
def attempts : List Obs → Nat
  | [] => 0
  | .opened _ _ :: _ => 0
  | .sinkCall _ .reliable _ answer :: past => attempts past + if answer = .busy then 0 else 1
  | _ :: past => attempts past

/-- A transaction is opened. -/
def Obs.opens : Obs → Bool
  | .opened _ _ => true
  | _ => false

/-- A unit of a reliable transaction is handed to the sink. -/
def Obs.submitsReliable : Obs → Bool
  | .sinkCall _ .reliable _ _ => true
  | _ => false

/-- A reliable submission at the front belongs to a transaction opened in the same part. -/
def submissionReopened : List Obs → Bool
  | .sinkCall _ .reliable _ _ :: older => older.any Obs.opens
  | _ => true

/-- Every reliable submission in a part of a trace belongs to a transaction opened in that part. -/
def OnlyReopened (newer : List Obs) : Prop :=
  Trace.Always (fun part => submissionReopened part = true) newer

instance (newer : List Obs) : Decidable (OnlyReopened newer) :=
  inferInstanceAs (Decidable (Trace.Always _ newer))

/-- The frame of an accepted transaction. -/
def TxEntry.frame (config : WlConfig) (entry : TxEntry) : WireFrame :=
  .reliable entry.messageId config.sessionId entry.sequence entry.payload

/-- A reliable submission at the front is the unit of the transaction opened last. -/
def submissionFaithful (config : WlConfig) : List Obs → Bool
  | .sinkCall _ .reliable bytes _ :: past =>
    (openedLast past).map (fun opened => linkUnit config (opened.2.frame config)) == some bytes
  | _ => true

/-- Every reliable submission is the unit of the transaction as it was accepted. -/
def Faithful (config : WlConfig) (trace : List Obs) : Prop :=
  Trace.Always (fun past => submissionFaithful config past = true) trace

instance (config : WlConfig) (trace : List Obs) : Decidable (Faithful config trace) :=
  inferInstanceAs (Decidable (Trace.Always _ trace))

/-- The retained transaction is the same: its whole record, the payload it is sent with again, and
the image of it, unless that has to be made anew. -/
structure SameTransaction (ctx after : WlCtx) : Prop where
  record : after.tx = ctx.tx
  payload : after.mem.txPayload.bytes after.mem = ctx.mem.txPayload.bytes ctx.mem
  image : after.mem.txEncodedLen = 0 ∨
    after.mem.txEncodedLen = ctx.mem.txEncodedLen ∧ after.mem.txUnit = ctx.mem.txUnit

/-- The unreliable unit is the same: where it is and what it is. -/
structure SameUnit (ctx after : WlCtx) : Prop where
  port : after.port = ctx.port
  unit : after.mem.txUnit = ctx.mem.txUnit
  length : after.mem.txUnreliableLen = ctx.mem.txUnreliableLen

/-! ### Rejected sends -/

/-- One call of the application that asks for a packet to be sent. -/
inductive SendCall where
  | reliable (wantsHandle : Bool) (messageId : UInt16) (payload : Buffer) (nowMs : UInt32)
  | unreliable (messageId : UInt16) (payload : Buffer)
deriving Repr, Inhabited, DecidableEq

/-- The context and the answer of the call. -/
def SendCall.apply (ctx : WlCtx) : SendCall → WlCtx × Except WlErr UInt32
  | .reliable wantsHandle messageId payload nowMs =>
    wlSendReliableTo ctx wantsHandle messageId payload nowMs
  | .unreliable messageId payload => wlSendUnreliable ctx messageId payload

/-- The answer is one of the codes by which a send is turned away before it starts. -/
def sendRejected : Except WlErr UInt32 → Bool
  | .error .busy | .error .payloadTooLong | .error .invalidArg | .error .reentrant
  | .error .queueFull => true
  | _ => false

/-- The contexts that a sequence of calls goes through, each call made on what the last one left. -/
def afterSends (ctx : WlCtx) (calls : List SendCall) : WlCtx :=
  calls.foldl (fun ctx call => (call.apply ctx).1) ctx

/-- Every call of the sequence is rejected. -/
def AllRejected (ctx : WlCtx) : List SendCall → Prop
  | [] => True
  | call :: calls => sendRejected (call.apply ctx).2 = true ∧ AllRejected (call.apply ctx).1 calls

/-- The call reaches the point where `wl_send_reliable` takes a sequence number. -/
def SendCall.takesSequence : SendCall → Bool
  | .reliable wantsHandle _ _ _ => wantsHandle
  | .unreliable _ _ => false

end Wirelink
