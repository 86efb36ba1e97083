/-
Module: Wirelink.Proofs.Inbox
Purpose: The sending side and the inbox, which is the event slot with its lease and the receive
  memories. A block of the sending side leaves the receive memories alone, and touches the event slot
  only to put a TX event into it while it is free.
Trusted boundary: none
-/
import Wirelink.Proofs.Move

namespace Wirelink

/-- The slot is left alone, or a TX event is put into it while it is free. -/
inductive SlotStep : EventSlot → EventSlot → Prop where
  | same (slot : EventSlot) : SlotStep slot slot
  | posted {slot : EventSlot} (event : WlEvent) (free : slot.hasEvent = false)
      (transmit : event.type.isRx = false) :
      SlotStep slot { slot with hasEvent := true, event := event }

theorem SlotStep.trans {slot middle after : EventSlot} (first : SlotStep slot middle)
    (second : SlotStep middle after) : SlotStep slot after := by
  cases first with
  | same => exact second
  | posted event free transmit =>
    cases second with
    | same => exact .posted event free transmit
    | posted other taken => exact nomatch taken

/-- What a block of the sending side leaves of the inbox. -/
structure TxOnly (ctx after : WlCtx) : Prop where
  rx : after.rx = ctx.rx
  slot : SlotStep ctx.slot after.slot

variable {ctx middle after sent : WlCtx} {type : WlEventType} {ok : Bool}

theorem TxOnly.refl (ctx : WlCtx) : TxOnly ctx ctx :=
  ⟨rfl, .same ctx.slot⟩

theorem TxOnly.trans (first : TxOnly ctx middle) (second : TxOnly middle after) :
    TxOnly ctx after :=
  ⟨second.rx.trans first.rx, first.slot.trans second.slot⟩

theorem TxOnly.of_eq (slot : after.slot = ctx.slot) (rx : after.rx = ctx.rx) : TxOnly ctx after := by
  refine ⟨rx, ?_⟩
  rw [slot]
  exact .same ctx.slot

theorem TxOnly.behind (second : TxOnly middle after) (slot : middle.slot = ctx.slot)
    (rx : middle.rx = ctx.rx) : TxOnly ctx after :=
  (TxOnly.of_eq slot rx).trans second

/-! ### Blocks of the sending side

A terminal event goes into a free slot or is deferred, and submissions do not look at the inbox. -/

theorem postTxEvent_txOnly (transmit : type.isRx = false) (free : ctx.slot.hasEvent = false)
    (handle : UInt32) : TxOnly ctx (postTxEvent ctx type handle) :=
  ⟨rfl, .posted _ free transmit⟩

theorem wlPushTxEvent_txOnly (transmit : type.isRx = false) :
    TxOnly ctx (wlPushTxEvent ctx type) := by
  rw [wlPushTxEvent_eq ctx transmit]
  cases deferred : eventDeferred ctx with
  | true => exact .of_eq rfl rfl
  | false => exact postTxEvent_txOnly transmit (Bool.or_eq_false_iff.mp deferred).2 _

theorem failTransaction_txOnly (result : WlErr) (transmit : type.isRx = false) :
    TxOnly ctx (failTransaction ctx result type) :=
  (wlPushTxEvent_txOnly transmit).behind rfl rfl

theorem wlHandleAck_txOnly (sessionId : UInt64) (sequence : UInt32) :
    TxOnly ctx (wlHandleAck ctx sessionId sequence).1 := by
  unfold wlHandleAck
  split
  · exact .refl ctx
  split
  · exact .refl ctx
  · exact (wlPushTxEvent_txOnly rfl).behind rfl rfl

theorem Sent.txOnly (submission : Sent ctx sent ok) : TxOnly ctx sent := by
  cases submission with
  | noSink => exact .refl ctx
  | answered answer =>
    cases answer with
    | _ => exact .of_eq rfl rfl

theorem SentPlain.txOnly (submission : SentPlain ctx sent ok) : TxOnly ctx sent := by
  cases submission with
  | noSink => exact .refl ctx
  | answered answer =>
    cases answer with
    | _ => exact .of_eq rfl rfl

theorem wlSubmitControl_kept :
    (wlSubmitControl ctx).1.slot = ctx.slot ∧ (wlSubmitControl ctx).1.rx = ctx.rx := by
  unfold wlSubmitControl
  split
  · exact ⟨rfl, rfl⟩
  split
  · exact ⟨rfl, rfl⟩
  split
  · exact ⟨rfl, rfl⟩
  rw [callSink_eq]
  cases ctx.answers.headD .failed with
  | _ => exact ⟨rfl, rfl⟩

theorem wlSendAck_kept (sessionId : UInt64) (sequence : UInt32) :
    (wlSendAck ctx sessionId sequence).1.slot = ctx.slot ∧
      (wlSendAck ctx sessionId sequence).1.rx = ctx.rx := by
  have placed : (placeAck ctx sessionId sequence).1.slot = ctx.slot ∧
      (placeAck ctx sessionId sequence).1.rx = ctx.rx := by
    unfold placeAck
    split
    · exact ⟨rfl, rfl⟩
    split
    · exact ⟨rfl, rfl⟩
    split
    · exact ⟨rfl, rfl⟩
    split
    · exact ⟨rfl, rfl⟩
    · exact ⟨rfl, rfl⟩
  unfold wlSendAck
  split
  case h_1 same =>
    rw [same] at placed
    exact ⟨wlSubmitControl_kept.1.trans placed.1, wlSubmitControl_kept.2.trans placed.2⟩
  case h_2 same =>
    rw [same] at placed
    exact placed

/-! ### Calls of the sending side -/

/-- A sequence of moves of the sending side. -/
structure Sends (ctx after : WlCtx) : Prop where
  trail : Trail Move [] ctx after
  inbox : TxOnly ctx after

theorem Sends.refl (ctx : WlCtx) : Sends ctx ctx :=
  ⟨Trail.refl ctx, .refl ctx⟩

theorem Sends.trans (first : Sends ctx middle) (second : Sends middle after) : Sends ctx after :=
  ⟨first.trail.trans second.trail, first.inbox.trans second.inbox⟩

theorem Sends.move (move : Move none ctx after) (inbox : TxOnly ctx after) : Sends ctx after :=
  ⟨Trail.single move, inbox⟩

theorem Sends.aside (move : Move none ctx after) (slot : after.slot = ctx.slot)
    (rx : after.rx = ctx.rx) : Sends ctx after :=
  .move move (.of_eq slot rx)

end Wirelink
