/-
Module: Wirelink.Proofs.Calls
Purpose: The sends, the payload claims and the reports of the adapter as sequences of moves.
Trusted boundary: none
-/
import Wirelink.Proofs.Inbox
import Wirelink.Proofs.Submit

namespace Wirelink

variable {ctx : WlCtx}

/-! ### Guards

What the tests in front of a send have established. -/

theorem lineFree_of_not_busy {reliable : Bool} (free : wlDataBusy ctx reliable = false)
    (claim : ctx.claim.txClaimActive = false) : LineFree ctx := by
  simp only [wlDataBusy, Bool.or_eq_false_iff] at free
  obtain ⟨⟨⟨⟨⟨lease, drain⟩, pending⟩, control⟩, queue⟩, _⟩ := free
  exact ⟨lease, drain, pending, control, queue, claim⟩

theorem handle_of_not_busy (free : wlDataBusy ctx true = false) : ctx.tx.txHandle = 0 := by
  simp only [wlDataBusy, Bool.or_eq_false_iff] at free
  simpa using free.2

/-- A code other than `WL_OK` stands for a submission that did not go through. -/
theorem rejected_of {code : WlErr} {ok : Bool} (accepted : code = .ok ↔ ok = true)
    (refused : code ≠ .ok) : ok = false := by
  cases ok with
  | false => rfl
  | true => exact absurd (accepted.mpr rfl) refused

/-! ### Reliable sends

A send brings its time along: the clock is set, and the rest is a sequence of moves. The sequence
number is spent before the frame is tested. -/

/-- A sequence of moves, after the clock has been set to `nowMs` or left alone. -/
def Clocked (ctx : WlCtx) (nowMs : Option UInt32) (after : WlCtx) : Prop :=
  ∃ clock, (clock = ctx.nowMs ∨ nowMs = some clock) ∧ Moves Move { ctx with nowMs := clock } after

/-- The same for moves of the sending side. -/
def SendsAt (ctx : WlCtx) (nowMs : Option UInt32) (after : WlCtx) : Prop :=
  ∃ clock, (clock = ctx.nowMs ∨ nowMs = some clock) ∧ Sends { ctx with nowMs := clock } after

variable {nowMs : Option UInt32} {after : WlCtx} {payload : SendPayload}

theorem Clocked.still (moves : Moves Move ctx after) :
    Clocked ctx nowMs after :=
  ⟨ctx.nowMs, .inl rfl, moves⟩

theorem Sends.still (sends : Sends ctx after) : SendsAt ctx nowMs after :=
  ⟨ctx.nowMs, .inl rfl, sends⟩

theorem SendsAt.clocked (sends : SendsAt ctx nowMs after) : Clocked ctx nowMs after := by
  obtain ⟨clock, set, sends⟩ := sends
  exact ⟨clock, set, sends.trail.moves⟩

theorem SendsAt.txOnly (sends : SendsAt ctx nowMs after) : TxOnly ctx after := by
  obtain ⟨_, _, sends⟩ := sends
  exact sends.inbox.behind rfl rfl

theorem spendClaim_sends (ctx : WlCtx) : Sends ctx (spendClaim ctx) :=
  .aside Move.spend rfl rfl

theorem SendsAt.afterSpend (sends : SendsAt (spendClaim ctx) nowMs after) :
    SendsAt ctx nowMs after := by
  obtain ⟨clock, set, sends⟩ := sends
  exact ⟨clock, set, (spendClaim_sends { ctx with nowMs := clock }).trans sends⟩

theorem Inv.clock (inv : Inv ctx) (nowMs : UInt32) : Inv { ctx with nowMs := nowMs } :=
  { inv with }

theorem Clocked.inv (clocked : Clocked ctx nowMs after) (inv : Inv ctx) : Inv after := by
  obtain ⟨clock, _, moves⟩ := clocked
  exact moves.inv (inv.clock clock)

theorem Clocked.config (clocked : Clocked ctx nowMs after) :
    after.config = ctx.config := by
  obtain ⟨_, _, moves⟩ := clocked
  exact moves.config

/-- The reliable tail of `wl_send_frame_internal` under the sequence number it was given. -/
theorem sendReliable_sends (inv : Inv ctx) {messageId : UInt16} {nowMs : UInt32}
    (free : LineFree ctx) (idle : ctx.tx.txHandle = 0) (placed : PlacedReliable ctx.config payload)
    (fits : payload.length ≤ ctx.config.maxPayloadLen) (named : messageId ≠ 0)
    (room : ctx.tx.txSequence ≠ uint32Max) :
    Sends { ctx with nowMs := nowMs }
      (sendReliable (spendSequence ctx) messageId ctx.tx.txSequence payload nowMs).1 := by
  obtain ⟨ready, _⟩ := inv.opened free idle placed fits
  obtain ⟨ok, submission, accepted⟩ := wlSendTxPayload_sent ready
  have move := @Move.openReliable { ctx with nowMs := nowMs } _ ok messageId payload nowMs
    { free with } idle placed fits
    named room submission rfl
  have inbox : TxOnly { ctx with nowMs := nowMs } _ :=
    submission.txOnly.behind (by cases payload <;> rfl) (by cases payload <;> rfl)
  unfold sendReliable
  split
  · rename_i sent answer
    rw [answer] at accepted move inbox
    rw [accepted.mp rfl] at move
    exact .move move (inbox.trans (.of_eq rfl rfl))
  · rename_i sent code refused answer
    rw [answer] at accepted move inbox
    rw [rejected_of accepted refused] at move
    exact .move move (inbox.trans (.of_eq rfl rfl))

/-- `wl_send_frame_internal` for a reliable packet, with the sequence number spent before it. -/
theorem sendFrame_reliable_sends (inv : Inv ctx) (messageId : UInt16) (nowMs : UInt32)
    (claim : ctx.claim.txClaimActive = false)
    (placed : payload.invalid = false → PlacedReliable ctx.config payload)
    (room : ctx.tx.txSequence ≠ uint32Max) :
    SendsAt ctx (some nowMs)
      (wlSendFrameInternal (spendSequence ctx) messageId ctx.tx.txSequence payload true
        nowMs).1 := by
  rcases wlSendFrameInternal_cases (spendSequence ctx) messageId ctx.tx.txSequence payload true nowMs
    with ⟨_, refused⟩ | ⟨starts, sent⟩
  · rw [refused]
    exact (Sends.aside (Move.spendSequence room) rfl rfl).still
  · have free : wlDataBusy ctx true = false := starts.free
    rw [sent]
    exact ⟨nowMs, .inr rfl, sendReliable_sends inv (lineFree_of_not_busy free claim)
      (handle_of_not_busy free) (placed starts.valid) starts.fits starts.named room⟩

theorem wlSendReliable_sends (inv : Inv ctx) (messageId : UInt16) (payload : Buffer)
    (nowMs : UInt32) :
    SendsAt ctx (some nowMs) (wlSendReliable ctx messageId payload nowMs).1 := by
  unfold wlSendReliable
  split
  · exact (Sends.refl ctx).still
  split
  · exact (Sends.refl ctx).still
  rename_i room
  split
  · exact (Sends.aside (Move.spendSequence room) rfl rfl).still
  rename_i claim
  exact sendFrame_reliable_sends inv messageId nowMs (by simpa using claim) (fun valid => valid) room

/-! ### Unreliable sends

The payload may lie in the very unit that is going to be written. The encoder still finds it there.
-/

/-- Where the payload of an unreliable send can lie. -/
def PlacedPlain (ctx : WlCtx) : SendPayload → Prop
  | .copied buffer => buffer.invalid = false
  | .direct span =>
    (span.region = .payload → span.offset = 0 ∧ ctx.tx.txHandle = 0) ∧
      (span.region = .unit → span.offset ≤ 16 ∧
        (ctx.config.envelope ≠ .nativePacket → span.offset = 0))

theorem Buffer.length_data {buffer : Buffer} (valid : buffer.invalid = false) :
    buffer.data.length = buffer.length := by
  cases buffer with
  | null length =>
    have empty : length = 0 := by simpa [Buffer.invalid] using valid
    rw [empty]
    rfl
  | bytes => rfl

/-- The payload is all there, and the encoder finds it after the retained image was given up. -/
theorem PlacedPlain.placed (inv : Inv ctx) (plain : PlacedPlain ctx payload)
    (fits : payload.length ≤ ctx.config.maxPayloadLen) :
    (payload.bytes ctx.mem).length = payload.length ∧
      (payload.ref (wlInvalidateTxImage ctx).mem).bytes (wlInvalidateTxImage ctx).mem.txUnit
        (payload.bytes ctx.mem).length = payload.bytes ctx.mem := by
  obtain ⟨_, _, dropped, same⟩ := wlInvalidateTxImage_eq ctx
  rw [same]
  cases payload with
  | copied => exact ⟨Buffer.length_data plain, List.take_length⟩
  | direct span =>
    obtain ⟨atPayload, atUnit⟩ := plain
    have payloadSize := inv.mem.payloadSize
    have unitSize := inv.mem.unitSize
    simp only [SendPayload.length] at fits
    cases region : span.region with
    | payload =>
      obtain ⟨offset, none⟩ := atPayload region
      simp only [SendPayload.bytes, SendPayload.ref, SendPayload.length, TxSpan.bytes,
        TxSpan.ref, region, PayloadRef.bytes, dropped.untouched none, List.take_length, and_true]
      exact Bytes.length_readAt_of_le (by omega)
    | unit =>
      obtain ⟨offset, _⟩ := atUnit region
      have full : (ctx.mem.txUnit.readAt span.offset span.length).length = span.length := by
        apply Bytes.length_readAt_of_le
        cases envelope : ctx.config.envelope with
        | nativePacket =>
          rw [envelope, envelopeRoom] at unitSize
          omega
        | cobsStream | busLength16 =>
          rw [envelope, envelopeRoom] at unitSize
          omega
      simp only [SendPayload.bytes, SendPayload.ref, SendPayload.length, TxSpan.bytes,
        TxSpan.ref, region, PayloadRef.bytes]
      exact ⟨full, by rw [full]⟩

/-- The packet of an unreliable send. -/
def plainPacket (messageId : UInt16) (payload : PayloadRef) (payloadLen : Nat) : WlWirePacket :=
  { type := .data, flags := 0, messageId := messageId, sessionId := 0, sequence := 0,
    payload := payload, payloadLen := payloadLen }

theorem plainPacket_header (messageId : UInt16) (payload : PayloadRef) (payloadLen : Nat)
    (data : Bytes) :
    frameWriteHeader (plainPacket messageId payload payloadLen)
        (linkHeaderLen (plainPacket messageId payload payloadLen)) =
      (WireFrame.unreliable messageId data).header := by
  have kind : framePacketKind (plainPacket messageId payload payloadLen) = 0 := by
    simp [framePacketKind, plainPacket, wlPacketFlagReliable]
  have short : linkHeaderLen (plainPacket messageId payload payloadLen) = wlFrameBaseHeaderSize := by
    simp [linkHeaderLen, plainPacket]
  rw [frameWriteHeader, kind, short, if_neg (by decide)]
  rfl

/-- The unreliable tail of `wl_send_frame_internal`. -/
theorem sendUnreliable_sends (inv : Inv ctx) {messageId : UInt16} (free : LineFree ctx)
    (plain : PlacedPlain ctx payload) (fits : payload.length ≤ ctx.config.maxPayloadLen)
    (named : messageId ≠ 0) (capacity : ctx.port.txUnreliableCompletions ≠ uint32Max) :
    Sends ctx (sendUnreliable ctx messageId payload).1 := by
  obtain ⟨full, placed⟩ := plain.placed inv fits
  obtain ⟨_, _, _, same⟩ := wlInvalidateTxImage_eq ctx
  have frameFits : (WireFrame.unreliable messageId (payload.bytes ctx.mem)).payload.length ≤
      ctx.config.maxPayloadLen := by
    simp only [WireFrame.payload, full]
    exact fits
  obtain ⟨bounded, small⟩ := raw_fits _ inv.mem.maxPayload frameFits
  have room : envelopeRoom ctx.config.envelope
      ((WireFrame.unreliable messageId (payload.bytes ctx.mem)).raw ctx.config.integrity).length ≤
        (wlInvalidateTxImage ctx).mem.txUnit.length := by
    rw [same]
    exact Nat.le_trans (envelopeRoom_mono _ bounded) inv.mem.unitSize
  obtain ⟨unit, encoded, size, image⟩ :=
    wlLinkEncode_unit (plainPacket_header messageId (payload.ref (wlInvalidateTxImage ctx).mem)
      payload.length (payload.bytes ctx.mem)) full.symm placed small room
  have unitSize : unit.length = ctx.mem.txUnit.length := by
    rw [size, same]
  have config : (wlInvalidateTxImage ctx).config = ctx.config := by rw [same]
  -- Only the answer of the sink is still open.
  have submitted : (sendUnreliable ctx messageId payload).1 =
      (wlSubmitData (withPlainImage (wlInvalidateTxImage ctx) unit
        (linkUnit ctx.config (.unreliable messageId (payload.bytes ctx.mem))).length) false).1 := by
    simp only [sendUnreliable]
    rw [← config, plainPacket] at encoded
    rw [encoded, ← config]
    simp only [withPlainImage]
    split <;> rename_i answer <;> rw [answer]
  have room : (withPlainImage (wlInvalidateTxImage ctx) unit
      (linkUnit ctx.config (.unreliable messageId (payload.bytes
        ctx.mem))).length).port.txUnreliableCompletions ≠ uint32Max := by
    exact capacity
  obtain ⟨ok, submission, _⟩ := wlSubmitData_sentPlain room
  rw [submitted]
  refine .move (Move.sendUnreliable _ ok messageId _ unit free named unitSize image submission) ?_
  exact submission.txOnly.behind rfl rfl

/-- `wl_send_frame_internal` for an unreliable packet. -/
theorem sendFrame_unreliable_sends (inv : Inv ctx) (messageId : UInt16) (nowMs : UInt32)
    (claim : ctx.claim.txClaimActive = false)
    (plain : payload.invalid = false → PlacedPlain ctx payload) :
    Sends ctx (wlSendFrameInternal ctx messageId 0 payload false nowMs).1 := by
  rcases wlSendFrameInternal_cases ctx messageId 0 payload false nowMs with ⟨_, refused⟩ |
      ⟨starts, sent⟩
  · rw [refused]
    exact .refl ctx
  · rw [sent]
    exact sendUnreliable_sends inv (lineFree_of_not_busy starts.free claim) (plain starts.valid)
      starts.fits starts.named (starts.capacity rfl)

theorem wlSendUnreliable_sends (inv : Inv ctx) (messageId : UInt16) (payload : Buffer) :
    Sends ctx (wlSendUnreliable ctx messageId payload).1 := by
  unfold wlSendUnreliable
  split
  · exact .refl ctx
  split
  · exact .refl ctx
  rename_i claim
  exact sendFrame_unreliable_sends inv messageId 0 (eq_false_of_ne_true claim) (fun valid => valid)

/-! ### Payload claims

A commit spends the claim and sends its span; an abort only spends it. -/

theorem wlTxPayloadClaim_sends (messageId : UInt16) (delivery : WlDelivery) :
    Sends ctx (wlTxPayloadClaim ctx messageId delivery).1 := by
  unfold wlTxPayloadClaim
  split
  · exact .refl ctx
  rename_i named
  split
  · exact .refl ctx
  split
  · exact .refl ctx
  rename_i free
  simp only [Bool.or_eq_true, not_or, Bool.not_eq_true] at free
  split
  · exact .refl ctx
  have line : LineFree ctx := lineFree_of_not_busy free.2 free.1
  cases delivery with
  | reliable =>
    exact .aside (Move.claim messageId .reliable line named fun _ => handle_of_not_busy free.2) rfl rfl
  | unreliable => exact .aside (Move.claim messageId .unreliable line named nofun) rfl rfl

theorem txClaimMatches_span (inv : Inv ctx) {claim : WlTxPayloadClaim}
    (named : txClaimMatches ctx claim = true) :
    ∃ span, ctx.claim.txClaimPayload = some span ∧ claim.region = span.region ∧
      claim.offset = span.offset ∧ ClaimAt ctx.config ctx.tx.txHandle ctx.claim span := by
  unfold txClaimMatches at named
  simp only [Bool.and_eq_true] at named
  obtain ⟨⟨active, _⟩, same⟩ := named
  obtain ⟨span, payload, place⟩ := inv.mem.claimAt active
  rw [payload] at same
  simp only [Bool.and_eq_true, beq_iff_eq] at same
  exact ⟨span, payload, same.1, same.2, place⟩

theorem wlTxPayloadCommit_sends (inv : Inv ctx) (claim : WlTxPayloadClaim) (payloadLen : Nat)
    (nowMs : UInt32) (wantsHandle : Bool) :
    SendsAt ctx (some nowMs) (wlTxPayloadCommit ctx claim payloadLen nowMs wantsHandle).1 := by
  unfold wlTxPayloadCommit
  split
  · exact (Sends.refl ctx).still
  split
  · exact (Sends.refl ctx).still
  rename_i named
  obtain ⟨_, payload, region, offset, place⟩ := txClaimMatches_span inv (not_not.mp named)
  have spent := spendClaim_sends ctx
  have spentInv : Inv (spendClaim ctx) := spent.trail.inv inv
  simp only
  split
  · exact spent.still
  split
  · exact spent.still
  rename_i room
  split
  · rename_i reliable
    have room : ctx.tx.txSequence ≠ uint32Max := fun full => room ⟨reliable, full⟩
    refine SendsAt.afterSpend (sendFrame_reliable_sends spentInv _ nowMs rfl (fun _ => ?_) room)
    obtain ⟨_, retained⟩ := place.reliable reliable
    rw [ region, offset]
    exact retained
  · refine (spent.trans (sendFrame_unreliable_sends spentInv _ nowMs rfl (fun _ => ?_))).still
    rw [ region, offset]
    exact ⟨place.payload, place.unit⟩

theorem wlTxPayloadAbort_sends (claim : WlTxPayloadClaim) :
    Sends ctx (wlTxPayloadAbort ctx claim).1 := by
  unfold wlTxPayloadAbort
  split
  · exact .refl ctx
  split
  · exact .refl ctx
  exact (spendClaim_sends ctx).trans (.aside (Move.rx (RxMove.quiet (spendClaim ctx)
    (ctx.resourceGeneration + 1) ctx.rx ctx.sink ctx.slot.rxEventLeased ctx.slot.rxEventGeneration
    ctx.port.txWritable)) rfl rfl)

/-! ### Reports of the adapter

A report takes the lease or the drain off the line before it looks at the transaction. Most reports
end with the submission of a waiting ACK. -/

section

variable (inv : Inv ctx)

include inv

theorem wlSubmitControl_sends : Sends ctx (wlSubmitControl ctx).1 :=
  ⟨(wlSubmitControl_trail inv).toMove, .of_eq wlSubmitControl_kept.1 wlSubmitControl_kept.2⟩

theorem Sends.thenControl (sends : Sends ctx after) : Sends ctx (wlSubmitControl after).1 :=
  sends.trans (wlSubmitControl_sends (sends.trail.inv inv))

theorem consumedError_sends {ioResult : WlErr} (failed : ioResult ≠ .ok)
    (inflight : ctx.port.txInflight = true) (kind : ctx.port.inFlightReliable = true)
    (sending : ctx.tx.txState = .sending) :
    Sends ctx (consumedError (leaseReturned ctx ctx.port.txToken ioResult)) := by
  unfold consumedError
  split
  · rename_i left
    unfold consumedRetry
    by_cases pending : (leaseReturned ctx ctx.port.txToken ioResult).port.controlPending = true
    · rw [if_pos pending]
      exact .thenControl inv
        (.aside (Move.consumedDeferred ioResult failed inflight kind sending left pending) rfl rfl)
    · rw [if_neg pending]
      obtain ⟨ok, submission, accepted⟩ :=
        wlSendTxPayload_sent (inv.returned ioResult inflight sending).1
      have move := Move.consumedRetry _ ok ioResult failed inflight kind sending left
        (eq_false_of_ne_true pending) submission
      have inbox : TxOnly ctx _ := submission.txOnly.behind rfl rfl
      split
      · rename_i sent answer
        rw [answer] at accepted move inbox
        rw [accepted.mp rfl] at move
        exact .thenControl inv (.move move (inbox.trans (.of_eq rfl rfl)))
      · rename_i sent code refused answer
        rw [answer] at accepted move inbox
        rw [rejected_of accepted refused] at move
        exact .thenControl inv (.move move (inbox.trans (failTransaction_txOnly .io rfl)))
  · rename_i left
    exact .thenControl inv
      (.move (Move.consumedFail ioResult failed inflight kind sending (not_not.mp left))
        ((failTransaction_txOnly .io rfl).behind rfl rfl))

theorem consumedReliable_sends (ioResult : WlErr) (inflight : ctx.port.txInflight = true)
    (kind : ctx.port.inFlightReliable = true) :
    Sends ctx (consumedReliable (leaseReturned ctx ctx.port.txToken ioResult) ioResult) := by
  unfold consumedReliable
  split
  · rename_i requested
    exact .thenControl inv
      (.aside (Move.consumedCancelled ioResult inflight kind requested) rfl rfl)
  rename_i requested
  split
  · rename_i settled
    exact .thenControl inv
      (.aside (Move.consumedSettled ioResult inflight kind (eq_false_of_ne_true requested) settled)
        rfl rfl)
  rename_i sending
  split
  · rename_i success
    subst success
    exact .thenControl inv (.aside (Move.consumedOk inflight kind (not_not.mp sending)) rfl rfl)
  · rename_i failed
    exact consumedError_sends inv failed inflight kind (not_not.mp sending)

theorem consumedUnreliable_sends (ioResult : WlErr) (inflight : ctx.port.txInflight = true)
    (kind : ctx.port.inFlightReliable = false) :
    Sends ctx
      (consumedUnreliable (leaseReturned ctx ctx.port.txToken ioResult) ioResult).1 := by
  have capacity : (leaseReturned ctx ctx.port.txToken ioResult).port.txUnreliableCompletions ≠
      uint32Max := inv.port.capacity (.inl inflight) kind
  have move := Move.consumedUnreliable ioResult inflight kind
  unfold consumedUnreliable
  by_cases success : ioResult = .ok
  · simp only [if_pos success, wlCompleteUnreliableTx, if_neg capacity] at move ⊢
    exact .thenControl inv (.aside move rfl rfl)
  · simp only [if_neg success] at move ⊢
    exact .thenControl inv (.aside move rfl rfl)

theorem wlTxConsumed_sends (token : UInt32) (ioResult : WlErr) :
    Sends ctx (wlTxConsumed ctx token ioResult).1 := by
  unfold wlTxConsumed
  split
  · exact .refl ctx
  split
  · exact .refl ctx
  rename_i same
  have token_eq : token = ctx.port.txToken := not_not.mp same
  subst token_eq
  split
  · exact .refl ctx
  rename_i outstanding
  by_cases control : (consumedHead ctx ctx.port.txToken ioResult).port.controlInflight = true
  · simp only
    rw [if_pos control]
    exact .aside (Move.consumedControl ioResult control) rfl rfl
  · have inflight : ctx.port.txInflight = true := by
      cases lease : ctx.port.txInflight with
      | true => rfl
      | false => exact absurd ⟨by simp [lease], control⟩ outstanding
    rw [if_neg control]
    by_cases kind : (consumedHead ctx ctx.port.txToken ioResult).port.inFlightReliable = true
    · rw [if_pos kind]
      exact consumedReliable_sends inv ioResult inflight kind
    · rw [if_neg kind]
      exact consumedUnreliable_sends inv ioResult inflight (eq_false_of_ne_true kind)

end

/-- The mark of the drained unit can be cleared before its transaction is reported. -/
theorem unmarkDrain_pushTx (ctx : WlCtx) {type : WlEventType} (transmit : type.isRx = false) :
    { wlPushTxEvent ctx type with
      port := { (wlPushTxEvent ctx type).port with txDrainReliable := false } } =
        wlPushTxEvent { ctx with port := { ctx.port with txDrainReliable := false } } type := by
  have same : eventDeferred { ctx with port := { ctx.port with txDrainReliable := false } } =
      eventDeferred ctx := rfl
  rw [wlPushTxEvent_eq ctx transmit, wlPushTxEvent_eq _ transmit, same]
  cases eventDeferred ctx with
  | true | false => rfl

theorem wlTxDrained_sends (token : UInt32) (ioResult : WlErr) :
    Sends ctx (wlTxDrained ctx token ioResult).1 := by
  unfold wlTxDrained
  split
  · exact .refl ctx
  split
  · exact .refl ctx
  rename_i pending
  rw [not_or, not_not] at pending
  unfold drainLine drainSettled
  split
  case isTrue waits =>
    have awaits : AwaitsDrain ctx := ⟨waits.1, waits.2.1, waits.2.2⟩
    split
    case isTrue ok =>
      subst ok
      exact .aside (Move.drainedOk pending.1 awaits) rfl rfl
    case isFalse =>
      rw [unmarkDrain_pushTx _ rfl]
      exact .move (Move.drainedFail ioResult pending.1 awaits)
        ((wlPushTxEvent_txOnly rfl).behind rfl rfl)
  case isFalse other =>
    refine .aside (Move.drained ioResult pending.1 fun awaits => ?_) rfl rfl
    exact other ⟨awaits.reliable, awaits.state, awaits.wait⟩

/-! ### Cancel and take -/

theorem wlTxCancel_sends (inv : Inv ctx) (handle : UInt32) :
    Sends ctx (wlTxCancel ctx handle).1 := by
  unfold wlTxCancel
  split
  · exact .refl ctx
  split
  · exact .refl ctx
  split
  · exact .refl ctx
  rw [cancelTransaction_eq inv.port.no_lease]
  refine .aside (Move.cancel ?_) rfl rfl
  cases state : ctx.tx.txState <;> simp_all [WlTxState.terminal]

theorem wlTxTake_sends (handle : UInt32) : Sends ctx (wlTxTake ctx handle).1 := by
  unfold wlTxTake
  split
  · exact .refl ctx
  split
  · exact .refl ctx
  split
  · exact .refl ctx
  rename_i ended
  rw [not_or, not_not] at ended
  exact .aside (Move.take ended.2 ended.1) rfl rfl

theorem wlTxTake_ok {handle : UInt32} {result : WlTxResult}
    (taken : (wlTxTake ctx handle).2 = .ok result) :
    handle = ctx.tx.txHandle ∧ ctx.tx.txState.terminal = true ∧ txResult ctx = result := by
  unfold wlTxTake at taken
  split at taken
  · cases taken
  split at taken
  · cases taken
  rename_i named
  rw [not_or, not_not] at named
  split at taken
  · cases taken
  rename_i ended
  rw [not_or, not_not] at ended
  cases taken
  exact ⟨named.2, ended.2, rfl⟩

theorem wlSetTxDrainRequired_sends (required : Bool) :
    Sends ctx (wlSetTxDrainRequired ctx required).1 := by
  unfold wlSetTxDrainRequired
  split
  · exact .refl ctx
  split
  · exact .refl ctx
  rename_i free
  simp only [Bool.or_eq_true, not_or, Bool.not_eq_true] at free
  exact .aside (Move.drainRequired required free.1.1 free.1.2 free.2) rfl rfl

end Wirelink
