/-
Module: Wirelink.Proofs.Rejected
Purpose: What a rejected send leaves behind. Every rejection is decided before the packet is built,
  but a reliable send has taken its sequence number by then.
Trusted boundary: none
-/
import Wirelink.Proofs.Reach
import Wirelink.Spec.Transaction

namespace Wirelink

variable {ctx : WlCtx}

/-! ### Codes of a send that was started

A send that was started fails for the size of its unit, for want of a sink, or with what the sink
answered. None of these codes is a rejection. -/

variable {err : WlErr} {reliable : Bool} {messageId : UInt16} {payload : Buffer}

private theorem code_of_refusal {refuses : Prop} [Decidable refuses] {before after : Bytes}
    {code : WlErr} {length : Nat}
    (refused : (if refuses then (before, Except.error code) else (after, Except.ok length)).2 =
      .error err) : err = code := by
  split at refused
  · exact (Except.error.inj refused).symm
  · simp at refused

theorem wlFrameEncodeBounded_error {packet : WlWirePacket} {envelope : WlEnvelope}
    {kind : WlIntegrity} {header : Bytes} {rawLen : Nat} {store : Bytes} {out outCap : Nat}
    (refused : (wlFrameEncodeBounded packet envelope kind header rawLen store out outCap).2 =
      .error err) : err = .bufTooSmall ∨ err = .frameTooLong := by
  unfold wlFrameEncodeBounded at refused
  cases envelope with
  | cobsStream | nativePacket => exact .inl (code_of_refusal refused)
  | busLength16 =>
    by_cases long : rawLen > 0xFFFF
    · simp only [if_pos long] at refused
      exact .inr (Except.error.inj refused).symm
    · simp only [if_neg long] at refused
      exact .inl (code_of_refusal refused)

theorem wlLinkEncode_error {config : WlConfig} {packet : WlWirePacket} {store unit : Bytes}
    {out outCap : Nat} (refused : wlLinkEncode config packet store out outCap = (unit, .error err)) :
    err = .bufTooSmall ∨ err = .frameTooLong := by
  have code := congrArg Prod.snd refused
  unfold wlLinkEncode at code
  split at code
  · exact wlFrameEncodeBounded_error code
  · unfold wlFrameEncodeCobsCrc16 at code
    dsimp only at code
    split at code
    · exact wlFrameEncodeBounded_error code
    · simp at code

theorem not_rejected_of_size (size : err = .bufTooSmall ∨ err = .frameTooLong) :
    sendRejected (.error err) = false := by
  rcases size with rfl | rfl
  · rfl
  · rfl

theorem dataAnswer_not_rejected (answer : WlSinkResult)
    (capacity : reliable = false → ctx.port.txUnreliableCompletions ≠ uint32Max) :
    sendRejected (.error (dataAnswer ctx reliable answer).2) = false := by
  cases answer with
  | started | busy | failed => rfl
  | sent =>
    cases reliable with
    | true => rfl
    | false =>
      change sendRejected (.error (wlCompleteUnreliableTx _).2) = false
      unfold wlCompleteUnreliableTx
      rw [if_neg (capacity rfl)]
      rfl

theorem wlSubmitData_not_rejected
    (capacity : reliable = false → ctx.port.txUnreliableCompletions ≠ uint32Max) :
    sendRejected (.error (wlSubmitData ctx reliable).2) = false := by
  unfold wlSubmitData
  split
  · rfl
  · rw [callSink_eq]
    exact dataAnswer_not_rejected _ capacity

theorem encodeTxPayload_not_rejected (ctx : WlCtx) :
    sendRejected (.error (encodeTxPayload ctx).2) = false := by
  unfold encodeTxPayload
  split
  · split
    · rename_i unit err refused
      exact not_rejected_of_size (wlLinkEncode_error refused)
    · rfl
  · rfl

theorem wlSendTxPayload_not_rejected (outside : ctx.port.inCallback = false) :
    sendRejected (.error (wlSendTxPayload ctx).2) = false := by
  unfold wlSendTxPayload
  split
  · rfl
  rw [if_neg (by simp [outside])]
  have encoded := encodeTxPayload_not_rejected ctx
  split
  · exact wlSubmitData_not_rejected (by simp)
  · rename_i image err refused answer
    rw [answer] at encoded
    exact encoded

theorem sendReliable_not_rejected (messageId : UInt16) (sequence : UInt32) (payload : SendPayload)
    (nowMs : UInt32) (outside : ctx.port.inCallback = false) :
    sendRejected (sendReliable ctx messageId sequence payload nowMs).2 = false := by
  have submitted :
      sendRejected (.error
        (wlSendTxPayload (openTransaction ctx messageId sequence payload nowMs)).2) = false :=
    wlSendTxPayload_not_rejected outside
  unfold sendReliable
  split
  · rfl
  · rename_i sent err failed answer
    rw [answer] at submitted
    exact submitted

theorem sendUnreliable_not_rejected (messageId : UInt16) (payload : SendPayload)
    (capacity : ctx.port.txUnreliableCompletions ≠ uint32Max) :
    sendRejected (sendUnreliable ctx messageId payload).2 = false := by
  unfold sendUnreliable
  dsimp only
  split
  · rename_i unit err refused
    exact not_rejected_of_size (wlLinkEncode_error refused)
  · rename_i unit encodedLen encoded
    have submitted :
        sendRejected (.error
          (wlSubmitData
            { wlInvalidateTxImage ctx with
              mem :=
                { (wlInvalidateTxImage ctx).mem with
                  txUnit := unit, txUnreliableLen := encodedLen } } false).2) = false :=
      wlSubmitData_not_rejected (fun _ => capacity)
    split
    · rfl
    · rename_i sent err failed answer
      rw [answer] at submitted
      exact submitted

/-! ### What a rejection leaves behind

A rejection comes before every assignment but one: a reliable send has taken its sequence number. -/

/-- A rejection of `wl_send_frame_internal` comes before any of its assignments. -/
theorem wlSendFrameInternal_rejected {sequence : UInt32} {payload : SendPayload} {nowMs : UInt32}
    (rejected : sendRejected
      (wlSendFrameInternal ctx messageId sequence payload reliable nowMs).2 = true) :
    (wlSendFrameInternal ctx messageId sequence payload reliable nowMs).1 = ctx := by
  rcases wlSendFrameInternal_cases ctx messageId sequence payload reliable nowMs with
    ⟨err, refused⟩ | ⟨starts, sent⟩
  · rw [refused]
  · rw [sent] at rejected
    cases reliable with
    | true =>
      have started := sendReliable_not_rejected messageId sequence payload nowMs starts.outside
      exact absurd (started.symm.trans rejected) Bool.false_ne_true
    | false =>
      have started := sendUnreliable_not_rejected messageId payload (starts.capacity rfl)
      exact absurd (started.symm.trans rejected) Bool.false_ne_true

theorem wlSendUnreliable_rejected
    (rejected : sendRejected (wlSendUnreliable ctx messageId payload).2 = true) :
    (wlSendUnreliable ctx messageId payload).1 = ctx := by
  unfold wlSendUnreliable at rejected ⊢
  split
  · rfl
  rename_i initialized
  split
  · rfl
  rename_i unclaimed
  rw [if_neg initialized, if_neg unclaimed] at rejected
  exact wlSendFrameInternal_rejected rejected

theorem wlSendReliable_rejected {nowMs : UInt32}
    (rejected : sendRejected (wlSendReliable ctx messageId payload nowMs).2 = true) :
    ctx.tx.txSequence ≠ uint32Max ∧
      (wlSendReliable ctx messageId payload nowMs).1 = spendSequence ctx := by
  unfold wlSendReliable at rejected ⊢
  by_cases initialized : ctx.initialized = true
  · by_cases exhausted : ctx.tx.txSequence = uint32Max
    · simp [initialized, exhausted, sendRejected] at rejected
    · refine ⟨exhausted, ?_⟩
      simp only [initialized, not_true_eq_false, if_false, exhausted] at rejected ⊢
      split
      · rfl
      · rename_i unclaimed
        rw [if_neg unclaimed] at rejected
        exact wlSendFrameInternal_rejected rejected
  · simp [initialized, sendRejected] at rejected

/-- The context with `count` sequence numbers spent. -/
def sequencesSpent (ctx : WlCtx) (count : Nat) : WlCtx :=
  { ctx with tx := { ctx.tx with txSequence := ctx.tx.txSequence + UInt32.ofNat count } }

/-- The step: one rejected call spends one number or none. -/
theorem SendCall.rejected {call : SendCall} (rejected : sendRejected (call.apply ctx).2 = true) :
    ctx.tx.txSequence.toNat + call.takesSequence.toNat ≤ 0xFFFFFFFF ∧
      (call.apply ctx).1 = sequencesSpent ctx call.takesSequence.toNat := by
  have small := ctx.tx.txSequence.toNat_lt
  cases call with
  | unreliable =>
    refine ⟨by simp only [takesSequence, Bool.toNat_false]; omega, ?_⟩
    rw [SendCall.apply, wlSendUnreliable_rejected rejected]
    simp [sequencesSpent, takesSequence]
  | reliable wantsHandle =>
    cases wantsHandle with
    | false =>
      refine ⟨by simp only [takesSequence, Bool.toNat_false]; omega, ?_⟩
      simp [SendCall.apply, wlSendReliableTo, sequencesSpent, takesSequence]
    | true =>
      have spent := wlSendReliable_rejected rejected
      refine ⟨?_, spent.2⟩
      have below : ctx.tx.txSequence.toNat ≠ 0xFFFFFFFF :=
        fun last => spent.1 (UInt32.toNat_inj.mp last)
      simp only [takesSequence, Bool.toNat_true]
      omega

/-- The run: rejected calls spend one number for each reliable send among them. -/
theorem afterSends_rejected {calls : List SendCall} (rejected : AllRejected ctx calls) :
    ctx.tx.txSequence.toNat + calls.countP SendCall.takesSequence ≤ 0xFFFFFFFF ∧
      afterSends ctx calls = sequencesSpent ctx (calls.countP SendCall.takesSequence) := by
  induction calls generalizing ctx with
  | nil =>
    have small := ctx.tx.txSequence.toNat_lt
    refine ⟨by simp only [List.countP_nil]; omega, ?_⟩
    simp [afterSends, sequencesSpent]
  | cons call calls ih =>
    obtain ⟨_, one⟩ := SendCall.rejected rejected.1
    obtain ⟨later, rest⟩ := ih rejected.2
    rw [one] at later rest
    have count : (call :: calls).countP SendCall.takesSequence =
        call.takesSequence.toNat + calls.countP SendCall.takesSequence := by
      rw [List.countP_cons]
      cases call.takesSequence <;> simp [Nat.add_comm]
    have sum : (ctx.tx.txSequence + UInt32.ofNat call.takesSequence.toNat).toNat =
        ctx.tx.txSequence.toNat + call.takesSequence.toNat := by
      rw [UInt32.toNat_add, UInt32.toNat_ofNat']
      omega
    simp only [sequencesSpent] at later rest
    rw [count]
    refine ⟨by omega, ?_⟩
    change afterSends (call.apply ctx).1 calls = _
    rw [one]
    simp only [sequencesSpent]
    rw [rest, UInt32.ofNat_add, UInt32.add_assoc]

/-- Rejected sends leave the context as it was exactly when none of them is a reliable send past
the test of its `out_handle`, which has taken a sequence number by the time it is turned away. -/
theorem rejected_sends_unchanged_iff (ctx : WlCtx) (calls : List SendCall)
    (rejected : AllRejected ctx calls) :
    afterSends ctx calls = ctx ↔ ∀ call ∈ calls, call.takesSequence = false := by
  obtain ⟨_, spent⟩ := afterSends_rejected rejected
  rw [spent]
  constructor
  · intro same
    have sequence : ctx.tx.txSequence + UInt32.ofNat (calls.countP SendCall.takesSequence) =
        ctx.tx.txSequence := congrArg (fun left => left.tx.txSequence) same
    have none : calls.countP SendCall.takesSequence = 0 := by
      have value := congrArg UInt32.toNat sequence
      rw [UInt32.toNat_add, UInt32.toNat_ofNat'] at value
      omega
    intro call member
    exact eq_false_of_ne_true (List.countP_eq_zero.mp none call member)
  · intro free
    have none : calls.countP SendCall.takesSequence = 0 :=
      List.countP_eq_zero.mpr (fun call member => by simp [free call member])
    rw [none]
    simp [sequencesSpent]

/-- A transaction is retained, so a well-formed reliable send is turned away with `BUSY`. -/
structure TurnsAway (ctx : WlCtx) (payload : Buffer) : Prop where
  initialized : ctx.initialized = true
  session : ctx.sessionId ≠ 0
  unclaimed : ctx.claim.txClaimActive = false
  valid : payload.invalid = false
  fits : payload.length ≤ ctx.config.maxPayloadLen
  retained : ctx.tx.txHandle ≠ 0

theorem TurnsAway.busy (away : TurnsAway ctx payload) (messageId : UInt16) (nowMs : UInt32)
    (left : ctx.tx.txSequence ≠ uint32Max) :
    wlSendReliableTo ctx true messageId payload nowMs = (spendSequence ctx, .error .busy) := by
  have busy : wlDataBusy (spendSequence ctx) true = true := by
    simp [wlDataBusy, spendSequence, away.retained]
  have short : ¬ (SendPayload.copied payload).length > (spendSequence ctx).config.maxPayloadLen :=
    Nat.not_lt.mpr away.fits
  have session : (spendSequence ctx).sessionId ≠ 0 := away.session
  have initialized : (spendSequence ctx).initialized = true := away.initialized
  have valid : (SendPayload.copied payload).invalid = false := away.valid
  simp only [wlSendReliableTo, wlSendReliable, away.initialized, away.unclaimed, left,
    not_true_eq_false, if_false, Bool.false_eq_true]
  unfold wlSendFrameInternal
  rw [if_neg (by simp [valid]), if_neg (by simp [initialized]), if_neg session, if_neg short,
    if_pos busy]

theorem TurnsAway.allRejected (away : TurnsAway ctx payload) (messageId : UInt16) (nowMs : UInt32)
    (count : Nat) (room : ctx.tx.txSequence.toNat + count ≤ 0xFFFFFFFF) :
    AllRejected ctx (List.replicate count (.reliable true messageId payload nowMs)) := by
  induction count generalizing ctx with
  | zero => trivial
  | succ count ih =>
    have left : ctx.tx.txSequence ≠ uint32Max := by
      intro last
      have value : ctx.tx.txSequence.toNat = 0xFFFFFFFF := congrArg UInt32.toNat last
      omega
    have answer := away.busy messageId nowMs left
    have next : (spendSequence ctx).tx.txSequence.toNat = ctx.tx.txSequence.toNat + 1 := by
      change (ctx.tx.txSequence + 1).toNat = _
      rw [UInt32.toNat_add]
      simp only [UInt32.toNat_one]
      omega
    have later : TurnsAway (spendSequence ctx) payload :=
      { away with }
    refine ⟨?_, ?_⟩
    · change sendRejected (wlSendReliableTo ctx true messageId payload nowMs).2 = true
      rw [answer]
      rfl
    · change AllRejected (wlSendReliableTo ctx true messageId payload nowMs).1 _
      rw [answer]
      exact ih later (by rw [next]; omega)

/-- A small link whose transaction waits for its ACK. -/
def smallWaiting : WlCtx :=
  run (smallStart [.sent, .sent]) [.setSink true, .sendReliable 5 (.bytes [1]) 0]

theorem rejected_unreliable_unchanged :
    AllRejected smallWaiting [.unreliable 0 (.bytes [1]), .reliable false 5 (.bytes [1]) 0] ∧
      afterSends smallWaiting [.unreliable 0 (.bytes [1]), .reliable false 5 (.bytes [1]) 0] =
        smallWaiting := by
  have rejected : AllRejected smallWaiting
      [.unreliable 0 (.bytes [1]), .reliable false 5 (.bytes [1]) 0] :=
    ⟨by decide +kernel, by decide +kernel, trivial⟩
  exact ⟨rejected, (rejected_sends_unchanged_iff _ _ rejected).mpr (by simp [SendCall.takesSequence])⟩

/-- A reliable send turned away with `BUSY` takes a sequence number with it, and enough of them make
a later valid send fail that the same link accepts otherwise. -/
theorem busy_sends_exhaust_sequence :
    Reachable smallWaiting ∧
      (wlSendReliableTo smallWaiting true 5 (.bytes [1]) 0).2 = .error .busy ∧
      (wlSendReliableTo smallWaiting true 5 (.bytes [1]) 0).1 ≠ smallWaiting ∧
      AllRejected smallWaiting (List.replicate 0xFFFFFFFE (.reliable true 5 (.bytes [1]) 0)) ∧
      (wlSendReliableTo (run smallWaiting [.cancel 65537, .take 65537]) true 5 (.bytes [1]) 0).2 =
        .ok 131073 ∧
      (wlSendReliableTo
        (run (afterSends smallWaiting
          (List.replicate 0xFFFFFFFE (.reliable true 5 (.bytes [1]) 0)))
          [.cancel 65537, .take 65537]) true 5 (.bytes [1]) 0).2 = .error .invalidState := by
  have away : TurnsAway smallWaiting (.bytes [1]) := by
    constructor <;> decide +kernel
  have left : smallWaiting.tx.txSequence ≠ uint32Max := by decide +kernel
  have rejected := away.allRejected 5 0 0xFFFFFFFE (by decide +kernel)
  have spent := (afterSends_rejected rejected).2
  have all : (List.replicate 0xFFFFFFFE (SendCall.reliable true 5 (.bytes [1]) 0)).countP
      SendCall.takesSequence = 0xFFFFFFFE := by
    rw [List.countP_replicate]
    rfl
  refine ⟨small_reachable _ _, ?_, ?_, rejected, by decide +kernel, ?_⟩
  · rw [away.busy 5 0 left]
  · rw [away.busy 5 0 left]
    decide +kernel
  · rw [spent, all]
    decide +kernel

end Wirelink
