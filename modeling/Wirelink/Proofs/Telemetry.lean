/-
Module: Wirelink.Proofs.Telemetry
Purpose: Unreliable traffic and a live transaction share one unit, one queue and one token, but do
  not touch each other: no operation on an unreliable unit changes the transaction, and taking or
  cancelling the transaction leaves an unreliable unit where it is.
Trusted boundary: none
-/
import Wirelink.Proofs.Image
import Wirelink.Proofs.Lease

namespace Wirelink

variable {ctx middle after : WlCtx}

namespace SameTransaction

theorem refl (ctx : WlCtx) : SameTransaction ctx ctx :=
  ⟨rfl, rfl, .inr ⟨rfl, rfl⟩⟩

theorem trans (first : SameTransaction ctx middle) (second : SameTransaction middle after) :
    SameTransaction ctx after where
  record := second.record.trans first.record
  payload := second.payload.trans first.payload
  image := by
    rcases second.image with dropped | ⟨length, unit⟩
    · exact .inl dropped
    · rcases first.image with dropped | kept
      · exact .inl (length.trans dropped)
      · exact .inr ⟨length.trans kept.1, unit.trans kept.2⟩

theorem of_memory (record : after.tx = ctx.tx)
    (store : after.mem.payloadStore = ctx.mem.payloadStore)
    (unit : after.mem.txUnit = ctx.mem.txUnit) (span : after.mem.txPayload = ctx.mem.txPayload)
    (length : after.mem.txEncodedLen = ctx.mem.txEncodedLen) : SameTransaction ctx after where
  record := record
  payload := by
    unfold TxSpan.bytes
    rw [store, unit, span]
  image := .inr ⟨length, unit⟩

theorem of_saved (record : after.tx = ctx.tx)
    (store : after.mem.payloadStore = ctx.mem.payloadStore)
    (span : after.mem.txPayload = ctx.mem.txPayload)
    (dropped : after.mem.txEncodedLen = 0) (saved : ctx.mem.txPayload.region = .payload) :
    SameTransaction ctx after where
  record := record
  payload := by
    unfold TxSpan.bytes
    rw [span, saved, store]
  image := .inl dropped

end SameTransaction

/-! ### Blocks

An unreliable submission writes the unit and the line. A payload of the transaction that lies in the
unit is saved before. -/

theorem wlSubmitData_same (ctx : WlCtx) : SameTransaction ctx (wlSubmitData ctx false).1 := by
  unfold wlSubmitData
  split
  · exact SameTransaction.refl ctx
  · simp only [callSink_eq]
    cases ctx.answers.headD .failed with
    | started | busy | failed => exact SameTransaction.of_memory rfl rfl rfl rfl rfl
    | sent =>
      simp only [dataAnswer, wlCompleteUnreliableTx, Bool.false_eq_true, if_false]
      split <;> exact SameTransaction.of_memory rfl rfl rfl rfl rfl

theorem wlSubmitControl_same (ctx : WlCtx) : SameTransaction ctx (wlSubmitControl ctx).1 := by
  unfold wlSubmitControl
  split
  · exact SameTransaction.refl ctx
  split
  · exact SameTransaction.refl ctx
  split
  · exact SameTransaction.refl ctx
  · simp only [callSink_eq]
    cases ctx.answers.headD .failed <;> exact SameTransaction.of_memory rfl rfl rfl rfl rfl

section

variable (inv : Inv ctx)

include inv

section

variable (held : ctx.tx.txHandle ≠ 0)

include held

/-- Giving up the image of a transaction keeps its payload, and frees the unit. -/
theorem wlInvalidateTxImage_same :
    SameTransaction ctx (wlInvalidateTxImage ctx) ∧
      (wlInvalidateTxImage ctx).mem.txPayload.region = .payload ∧
      (wlInvalidateTxImage ctx).mem.txEncodedLen = 0 := by
  obtain ⟨_, _, dropped, same⟩ := wlInvalidateTxImage_eq ctx
  have region := dropped.region held
  have room : ctx.mem.txPayload.length ≤ ctx.mem.payloadStore.length :=
    Nat.le_trans inv.mem.retainedFits inv.mem.payloadSize
  have kept := dropped.kept held room inv.retained_full
  rw [same]
  refine ⟨⟨rfl, ?_, .inl rfl⟩, region, rfl⟩
  simp only [TxSpan.bytes, region]
  exact kept

/-! ### Calls on unreliable units -/

theorem sendUnreliable_same (messageId : UInt16) (payload : SendPayload) :
    SameTransaction ctx (sendUnreliable ctx messageId payload).1 := by
  obtain ⟨saved, region, dropped⟩ := wlInvalidateTxImage_same inv held
  unfold sendUnreliable
  simp only
  split
  · exact saved.trans (SameTransaction.of_saved rfl rfl rfl dropped region)
  · rename_i unit length encoded
    have placed : SameTransaction (wlInvalidateTxImage ctx)
        (withPlainImage (wlInvalidateTxImage ctx) unit length) :=
      SameTransaction.of_saved rfl rfl rfl dropped region
    have submitted := (saved.trans placed).trans (wlSubmitData_same _)
    simp only [withPlainImage] at submitted
    split
    · rename_i sent answer
      rw [answer] at submitted
      exact submitted
    · rename_i sent code refused answer
      rw [answer] at submitted
      exact submitted

theorem wlSendFrameInternal_same (messageId : UInt16) (payload : SendPayload) (nowMs : UInt32) :
    SameTransaction ctx (wlSendFrameInternal ctx messageId 0 payload false nowMs).1 := by
  rcases wlSendFrameInternal_cases ctx messageId 0 payload false nowMs with ⟨_, refused⟩ | ⟨-, sent⟩
  · rw [refused]
    exact SameTransaction.refl ctx
  · rw [sent]
    exact sendUnreliable_same inv held messageId payload

theorem wlSendUnreliable_same (messageId : UInt16) (payload : Buffer) :
    SameTransaction ctx (wlSendUnreliable ctx messageId payload).1 := by
  unfold wlSendUnreliable
  split
  · exact SameTransaction.refl ctx
  split
  · exact SameTransaction.refl ctx
  · exact wlSendFrameInternal_same inv held messageId (.copied payload) 0

theorem wlTxPayloadClaim_same (messageId : UInt16) (delivery : WlDelivery) :
    SameTransaction ctx (wlTxPayloadClaim ctx messageId delivery).1 := by
  unfold wlTxPayloadClaim
  split
  · exact SameTransaction.refl ctx
  split
  · exact SameTransaction.refl ctx
  split
  · exact SameTransaction.refl ctx
  split
  · exact SameTransaction.refl ctx
  · cases delivery with
    | unreliable =>
      obtain ⟨saved, _⟩ := wlInvalidateTxImage_same inv held
      exact ⟨saved.record, saved.payload, saved.image⟩
    | reliable => exact SameTransaction.of_memory rfl rfl rfl rfl rfl

theorem claimWrite_same (offset : Nat) (data : Bytes) :
    SameTransaction ctx (claimWrite ctx offset data) := by
  unfold claimWrite
  split
  · rename_i span active claimed
    obtain ⟨granted, same, place⟩ := inv.mem.claimAt active
    obtain rfl : granted = span := Option.some.inj (same.symm.trans claimed)
    obtain ⟨dropped, saved⟩ := inv.mem.claimImage active held
    split
    · cases region : granted.region with
      | payload => exact absurd (place.payload region).2 held
      | unit => exact SameTransaction.of_saved rfl rfl rfl dropped saved
    · exact SameTransaction.refl ctx
  · exact SameTransaction.refl ctx

end

theorem Inv.spendClaim : Inv (spendClaim ctx) :=
  (Move.spend).inv inv

/-- While a transaction is held, only an unreliable claim can be committed. -/
theorem wlTxPayloadCommit_same (held : ctx.tx.txHandle ≠ 0) (claim : WlTxPayloadClaim)
    (payloadLen : Nat) (nowMs : UInt32) (wantsHandle : Bool) :
    SameTransaction ctx (wlTxPayloadCommit ctx claim payloadLen nowMs wantsHandle).1 := by
  unfold wlTxPayloadCommit
  split
  · exact SameTransaction.refl ctx
  split
  · exact SameTransaction.refl ctx
  rename_i named
  rw [not_not] at named
  obtain ⟨_, _, _, _, place⟩ := txClaimMatches_span inv named
  have plain : ctx.claim.txClaimReliable = false := by
    cases reliable : ctx.claim.txClaimReliable with
    | false => rfl
    | true => exact absurd (place.reliable reliable).1 held
  have spent : SameTransaction ctx (spendClaim ctx) :=
    SameTransaction.of_memory rfl rfl rfl rfl rfl
  simp only [plain, Bool.false_eq_true, false_and, or_false, if_false]
  split
  · exact spent
  · exact spent.trans (wlSendFrameInternal_same inv.spendClaim held _ _ nowMs)

end

theorem wlTxPayloadAbort_same (claim : WlTxPayloadClaim) :
    SameTransaction ctx (wlTxPayloadAbort ctx claim).1 := by
  unfold wlTxPayloadAbort
  split
  · exact SameTransaction.refl ctx
  split
  · exact SameTransaction.refl ctx
  · exact SameTransaction.of_memory rfl rfl rfl rfl rfl

theorem wlTxConsumed_same (kind : ctx.port.inFlightReliable = false) (token : UInt32)
    (ioResult : WlErr) : SameTransaction ctx (wlTxConsumed ctx token ioResult).1 := by
  have head : SameTransaction ctx (consumedHead ctx token ioResult) :=
    SameTransaction.of_memory rfl rfl rfl rfl rfl
  have sameKind : (consumedHead ctx token ioResult).port.inFlightReliable = false := kind
  unfold wlTxConsumed
  split
  · exact SameTransaction.refl ctx
  split
  · exact SameTransaction.refl ctx
  split
  · exact SameTransaction.refl ctx
  simp only [sameKind, Bool.false_eq_true, if_false]
  split
  · exact head.trans (SameTransaction.of_memory rfl rfl rfl rfl rfl)
  · unfold consumedUnreliable
    refine head.trans (SameTransaction.trans ?_ (wlSubmitControl_same _))
    split
    · unfold wlCompleteUnreliableTx
      split <;> exact SameTransaction.of_memory rfl rfl rfl rfl rfl
    · exact SameTransaction.of_memory rfl rfl rfl rfl rfl

theorem wlTxDrained_same (kind : ctx.port.txDrainReliable = false) (token : UInt32)
    (ioResult : WlErr) : SameTransaction ctx (wlTxDrained ctx token ioResult).1 := by
  unfold wlTxDrained
  split
  · exact SameTransaction.refl ctx
  split
  · exact SameTransaction.refl ctx
  · unfold drainLine drainSettled
    simp only [kind, Bool.false_eq_true, false_and, if_false]
    exact SameTransaction.of_memory rfl rfl rfl rfl rfl

theorem pollResubmit_same (kind : ctx.port.inFlightReliable = false) :
    SameTransaction ctx (pollResubmit ctx) := by
  have marked : SameTransaction ctx (ctx.note (.resubmitted false)) :=
    SameTransaction.of_memory rfl rfl rfl rfl rfl
  have submitted := marked.trans (wlSubmitData_same (ctx.note (.resubmitted false)))
  unfold pollResubmit
  split
  · simp only [kind, Bool.false_eq_true, if_false]
    split
    · rename_i sent answer
      rw [answer] at submitted
      exact submitted
    · rename_i sent code refused answer
      rw [answer] at submitted
      exact submitted.trans (SameTransaction.of_memory rfl rfl rfl rfl rfl)
  · exact SameTransaction.refl ctx

theorem pollCompletion_same (ctx : WlCtx) : SameTransaction ctx (pollCompletion ctx) := by
  unfold pollCompletion
  split
  · rename_i due
    have pushed : wlPushEvent ctx .txSuccess 0 none 0 0 = (postTxEvent ctx .txSuccess 0, .ok) :=
      wlPushEvent_tx rfl (eq_false_of_ne_true due.1) 0
    simp only [pushed]
    exact SameTransaction.of_memory rfl rfl rfl rfl rfl
  · exact SameTransaction.refl ctx

/-! ### Calls on the transaction

The kind bit of the port tells who owns the unit that is lent out or waits. -/

theorem wlTxCancel_sameUnit (kind : ctx.port.inFlightReliable = false) (handle : UInt32) :
    SameUnit ctx (wlTxCancel ctx handle).1 := by
  unfold wlTxCancel
  split
  · exact ⟨rfl, rfl, rfl⟩
  split
  · exact ⟨rfl, rfl, rfl⟩
  split
  · exact ⟨rfl, rfl, rfl⟩
  · refine ⟨?_, rfl, rfl⟩
    simp [cancelTransaction, WlCtx.note, kind]

theorem wlTxTake_sameUnit (ctx : WlCtx) (handle : UInt32) :
    SameUnit ctx (wlTxTake ctx handle).1 := by
  unfold wlTxTake
  split
  · exact ⟨rfl, rfl, rfl⟩
  split
  · exact ⟨rfl, rfl, rfl⟩
  split
  · exact ⟨rfl, rfl, rfl⟩
  · exact ⟨rfl, rfl, rfl⟩

theorem LeaseInv.plain (held : LeaseInv ctx.port ctx.mem ctx.trace)
    (plain : unreliableHeld ctx.trace = true) : ctx.port.inFlightReliable = false := by
  cases kind : ctx.port.inFlightReliable with
  | false => rfl
  | true =>
    simp only [unreliableHeld, Bool.or_eq_true, Option.any_eq_true, beq_iff_eq] at plain
    rcases plain with ⟨unit, lent, named⟩ | ⟨unit, waiting, named⟩
    · rw [held.lent] at lent
      unfold portLease at lent
      split at lent
      · cases lent
        cases named
      split at lent
      · cases lent
        rw [kind] at named
        cases named
      · cases lent
    · have owner := (held.queued unit.1 unit.2 waiting).2.1
      rw [named, kind] at owner
      cases owner

/-- Telemetry and a live transaction do not touch each other. No unreliable send, claim, store,
commit or abort changes the transaction, and neither does what becomes of an unreliable unit: its
consumption and its drain, and the two stages of a poll that handle it, from any context a poll can
pass through. Conversely `wl_tx_cancel` and `wl_tx_take` leave an unreliable unit that the sink keeps
or refused where it is. -/
theorem telemetry_leaves_transaction (reachable : Reachable ctx) :
    (ctx.tx.Live →
      (∀ messageId payload, SameTransaction ctx (wlSendUnreliable ctx messageId payload).1) ∧
      (∀ messageId delivery, SameTransaction ctx (wlTxPayloadClaim ctx messageId delivery).1) ∧
      (∀ offset data, SameTransaction ctx (claimWrite ctx offset data)) ∧
      (∀ claim payloadLen nowMs wantsHandle,
        SameTransaction ctx (wlTxPayloadCommit ctx claim payloadLen nowMs wantsHandle).1) ∧
      (∀ claim, SameTransaction ctx (wlTxPayloadAbort ctx claim).1) ∧
      (unreliableHeld ctx.trace = true → ∀ token ioResult,
        SameTransaction ctx (wlTxConsumed ctx token ioResult).1) ∧
      (ctx.port.txDrainReliable = false → ∀ token ioResult,
        SameTransaction ctx (wlTxDrained ctx token ioResult).1)) ∧
      (∀ staged : WlCtx, staged.port.inFlightReliable = false →
        SameTransaction staged (pollResubmit staged)) ∧
      (∀ staged : WlCtx, SameTransaction staged (pollCompletion staged)) ∧
      (unreliableHeld ctx.trace = true → ∀ handle,
        SameUnit ctx (wlTxCancel ctx handle).1 ∧ SameUnit ctx (wlTxTake ctx handle).1) := by
  have inv := reachable.inv
  have owner := reachable.lease.plain
  refine ⟨fun live => ?_, fun _ => pollResubmit_same, pollCompletion_same,
    fun plain handle => ⟨wlTxCancel_sameUnit (owner plain) handle, wlTxTake_sameUnit ctx handle⟩⟩
  have held := inv.live_handle live
  exact ⟨wlSendUnreliable_same inv held, wlTxPayloadClaim_same inv held, claimWrite_same inv held,
    wlTxPayloadCommit_same inv held, wlTxPayloadAbort_same,
    fun plain => wlTxConsumed_same (owner plain), wlTxDrained_same⟩

/-- An unreliable unit is sent while a transaction waits for its ACK, refused by the sink, and left
alone when the transaction is cancelled. -/
theorem telemetry_small_run :
    SameTransaction
        (run (smallStart [.sent]) [.setSink true, .sendReliable 5 (.bytes [1]) 0])
        (wlSendUnreliable (run (smallStart [.sent]) [.setSink true, .sendReliable 5 (.bytes [1]) 0])
          6 (.bytes [2])).1 ∧
      SameUnit
        (run (smallStart [.sent, .busy])
          [.setSink true, .sendReliable 5 (.bytes [1]) 0, .sendUnreliable 6 (.bytes [2])])
        (wlTxCancel (run (smallStart [.sent, .busy])
          [.setSink true, .sendReliable 5 (.bytes [1]) 0, .sendUnreliable 6 (.bytes [2])])
            65537).1 :=
  ⟨((telemetry_leaves_transaction (small_reachable _ _)).1 (by decide +kernel)).1 6 (.bytes [2]),
    ((telemetry_leaves_transaction (small_reachable _ _)).2.2.2 (by decide +kernel) 65537).1⟩

end Wirelink
