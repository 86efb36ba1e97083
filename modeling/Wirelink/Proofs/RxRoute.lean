/-
Module: Wirelink.Proofs.RxRoute
Purpose: What parsing and routing one received unit do to the inbox. The receive memories stay as
  they are, and an RX event put into the slot points at the payload inside the parsed bytes.
Trusted boundary: none
-/
import Wirelink.Lib.Guard
import Wirelink.Proofs.Inbox

namespace Wirelink

/-! ### Views -/

/-- The payload of a view lies where the view says in the parsed bytes. -/
structure WlFrameView.Within (view : WlFrameView) (bytes : Bytes) : Prop where
  inside : view.payloadOffset + view.payload.length ≤ bytes.length
  bytes : bytes.readAt view.payloadOffset view.payload.length = view.payload

theorem WlFrameView.Within.longer {view : WlFrameView} {buffer : Bytes} {length : Nat}
    (within : view.Within (buffer.take length)) : view.Within buffer := by
  obtain ⟨inside, bytes⟩ := within
  rw [List.length_take] at inside
  refine ⟨by omega, ?_⟩
  rw [Bytes.readAt, List.drop_take, List.take_take, Nat.min_eq_left (by omega)] at bytes
  exact bytes

theorem frameParse_within {bytes : Bytes} {integrity : WlIntegrity} {crcLen : Nat}
    {cobsCrc : Option UInt16} {view : WlFrameView}
    (parsed : frameParse bytes integrity crcLen cobsCrc = .ok view) : view.Within bytes := by
  unfold frameParse at parsed
  simp only [ite_error_eq_ok, Nat.not_lt] at parsed
  obtain ⟨-, -, -, parsed⟩ := parsed
  split at parsed
  · exact nomatch parsed
  simp only [ite_error_eq_ok] at parsed
  obtain ⟨_, -, -, -, -, -, parsed⟩ := parsed
  cases parsed
  constructor
  · dsimp only
    rw [Bytes.length_readAt_of_le (by omega)]
    omega
  · dsimp only
    rw [Bytes.length_readAt_of_le (by omega)]

/-! ### In-place decoding -/

theorem length_copyForward (store : Bytes) (target source count : Nat) :
    (copyForward store target source count).length = store.length := by
  induction count generalizing store target source with
  | zero => rfl
  | succ count ih => rw [copyForward, ih, List.length_set]

theorem length_cobsCopy (input inputLen output fuel : Nat) (store : Bytes) (inPos outputLen : Nat) :
    (cobsCopy input inputLen output fuel store inPos outputLen).1.length = store.length := by
  induction fuel generalizing store inPos outputLen with
  | zero => rfl
  | succ fuel ih =>
    rw [cobsCopy]
    split
    · dsimp only
      split
      · rw [ih, List.length_set, length_copyForward]
      · rw [ih, length_copyForward]
    · rfl

theorem length_cobsCrc16Decode (encodedLen fuel : Nat) (encoded : Bytes) (read write : Nat)
    (crc : UInt16) :
    (cobsCrc16Decode encodedLen fuel encoded read write crc).1.length = encoded.length := by
  induction fuel generalizing encoded read write crc with
  | zero => rfl
  | succ fuel ih =>
    rw [cobsCrc16Decode]
    split
    · dsimp only
      split
      · rfl
      split
      · rw [ih, List.length_set, length_copyForward]
      · rw [ih, length_copyForward]
    · rfl

theorem length_wlCobsDecodeInPlace (store : Bytes) (buffer inputLen : Nat) :
    (wlCobsDecodeInPlace store buffer inputLen).1.length = store.length := by
  unfold wlCobsDecodeInPlace wlCobsDecode
  split
  · rfl
  split
  · rfl
  split
  · rfl
  · exact length_cobsCopy _ _ _ _ _ _ _

/-- The decoder works in the span of its unit, and leaves the payload of the view there. -/
theorem wlLinkDecodeStream_within (config : WlConfig) (encoded : Bytes) :
    (wlLinkDecodeStream config encoded).1.length = encoded.length ∧
      ∀ view, (wlLinkDecodeStream config encoded).2 = .ok view →
        view.Within (wlLinkDecodeStream config encoded).1 := by
  unfold wlLinkDecodeStream
  split
  · have length := length_wlCobsDecodeInPlace encoded 0 encoded.length
    unfold wlFrameDecodeCobsGeneric
    generalize wlCobsDecodeInPlace encoded 0 encoded.length = outcome at length
    rcases outcome with ⟨_, decoded⟩
    cases decoded with
    | error => exact ⟨length, nofun⟩
    | ok =>
      dsimp only at length ⊢
      split
      · exact ⟨length, nofun⟩
      · exact ⟨length, fun view parsed => (frameParse_within parsed).longer⟩
  · unfold wlFrameDecodeCobsCrc16
    split
    · exact ⟨rfl, nofun⟩
    · have length := length_cobsCrc16Decode encoded.length encoded.length encoded 0 0 0xFFFF
      generalize cobsCrc16Decode encoded.length encoded.length encoded 0 0 0xFFFF = outcome
        at length
      rcases outcome with ⟨_, decoded⟩
      cases decoded with
      | error => exact ⟨length, nofun⟩
      | ok counted =>
        dsimp only at length ⊢
        split
        · exact ⟨length, nofun⟩
        · exact ⟨length, fun view parsed => (frameParse_within parsed).longer⟩

/-! ### Routing

Routing leaves the receive memories alone. An RX event is refused without a trace, or goes into a
free slot and points at the payload inside the parsed bytes. -/

/-- The receive memories with the cursors and marks that guard them. -/
structure RxStore where
  rxRing : RxRing
  rxUnits : RxUnitQueue
  rxFallback : Bytes
  rxCandidateSource : WlRxSource
  rxPendingConsume : Nat

/-- The memories of a receive side, without its counters. -/
def RxState.store (rx : RxState) : RxStore :=
  { rxRing := rx.rxRing, rxUnits := rx.rxUnits, rxFallback := rx.rxFallback
    rxCandidateSource := rx.rxCandidateSource, rxPendingConsume := rx.rxPendingConsume }

/-- An RX event for `view` was put into a free slot under a new lease; the parsed bytes start at
`base`. -/
structure RxPushed (view : WlFrameView) (base : RxPtr) (slot after : EventSlot) : Prop where
  free : slot.hasEvent = false
  unleased : slot.rxEventLeased = false
  taken : after.hasEvent = true
  leased : after.rxEventLeased = false
  generation : after.rxEventGeneration = bumpNonzero slot.rxEventGeneration
  kind : after.event.type.isRx = true
  lease : after.event.lease = after.rxEventGeneration
  payload : after.event.payload = some { base with offset := base.offset + view.payloadOffset }
  length : after.event.payloadLen = view.payload.length

/-- What routing leaves of the inbox. -/
structure Routed (decoded : Except WlErr WlFrameView) (base : RxPtr) (ctx after : WlCtx) : Prop where
  store : after.rx.store = ctx.rx.store
  slot : SlotStep ctx.slot after.slot ∨
    ∃ view, decoded = .ok view ∧ RxPushed view base ctx.slot after.slot

section routing

variable {ctx : WlCtx} {view : WlFrameView} {base : RxPtr}

theorem wlPushEvent_rxPushed {type : WlEventType} (receive : type.isRx = true)
    (messageId : UInt16) :
    (∃ err, err ≠ .ok ∧ wlPushEvent ctx type messageId
        (some { base with offset := base.offset + view.payloadOffset }) view.payload.length 0 =
          (ctx, err)) ∨
      ∃ pushed, wlPushEvent ctx type messageId
          (some { base with offset := base.offset + view.payloadOffset }) view.payload.length 0 =
            (pushed, .ok) ∧
        pushed.rx.store = ctx.rx.store ∧ RxPushed view base ctx.slot pushed.slot := by
  unfold wlPushEvent
  rw [receive]
  split
  · exact .inl ⟨.queueFull, by decide, rfl⟩
  case isFalse open_ =>
    simp only [Bool.true_and, Bool.or_eq_true, not_or, Bool.not_eq_true] at open_
    rw [if_pos rfl]
    split
    · exact .inl ⟨.payloadTooLong, by decide, rfl⟩
    · exact .inr ⟨_, rfl, rfl,
        ⟨open_.1, open_.2, rfl, open_.2, rfl, receive, rfl, rfl, rfl⟩⟩

theorem routeReliable_routed :
    Routed (.ok view) base ctx (routeReliable ctx view base).1 := by
  unfold routeReliable
  split
  · obtain ⟨slot, rx⟩ := @wlSendAck_kept
      ((countDuplicate ctx).note
        (.repeated view.sessionId view.sequence (!ctx.port.controlPending) ctx.sink))
      view.sessionId view.sequence
    have store : (countDuplicate ctx).rx.store = ctx.rx.store := rfl
    refine ⟨(congrArg RxState.store rx).trans store, .inl ?_⟩
    rw [slot]
    exact .same ctx.slot
  · rcases @wlPushEvent_rxPushed ctx view base .reliableRx rfl view.messageId with
      ⟨err, refused, same⟩ | ⟨pushed, same, store, event⟩
    · rw [same]
      cases err <;> first | exact absurd rfl refused | exact ⟨rfl, .inl (.same ctx.slot)⟩
    · rw [same]
      obtain ⟨slot, rx⟩ := @wlSendAck_kept (recordAccepted pushed view) view.sessionId view.sequence
      refine ⟨(congrArg RxState.store rx).trans store, .inr ⟨view, rfl, ?_⟩⟩
      rw [slot]
      exact { event with }

theorem wlFrameRouteView_routed : Routed (.ok view) base ctx (wlFrameRouteView ctx view base).1 := by
  unfold wlFrameRouteView
  split
  · exact ⟨rfl, .inl (.same ctx.slot)⟩
  split
  · split
    · exact routeReliable_routed
    · rcases @wlPushEvent_rxPushed ctx view base .unreliableRx rfl view.messageId with
        ⟨err, refused, same⟩ | ⟨pushed, same, store, event⟩
      · rw [same]
        exact ⟨rfl, .inl (.same ctx.slot)⟩
      · rw [same]
        exact ⟨store, .inr ⟨view, rfl, event⟩⟩
  · have acked := @wlHandleAck_txOnly ctx view.sessionId view.sequence
    exact ⟨congrArg RxState.store acked.rx, .inl acked.slot⟩
  · exact ⟨rfl, .inl (.same ctx.slot)⟩
  · exact ⟨rfl, .inl (.same ctx.slot)⟩

theorem routeDecoded_routed (decoded : Except WlErr WlFrameView) :
    Routed decoded base ctx (routeDecoded ctx decoded base).1 := by
  cases decoded with
  | ok => exact wlFrameRouteView_routed
  | error =>
    unfold routeDecoded wlFrameBadFrame
    dsimp only
    split
    · exact ⟨rfl, .inl (.same ctx.slot)⟩
    split
    · exact ⟨rfl, .inl (.same ctx.slot)⟩
    · exact ⟨rfl, .inl (.same ctx.slot)⟩

theorem wlFeedParseStream_routed (decoded : Except WlErr WlFrameView) :
    Routed decoded base ctx (wlFeedParseStream ctx decoded base).1 := by
  unfold wlFeedParseStream
  split
  · exact ⟨rfl, .inl (.same ctx.slot)⟩
  · exact routeDecoded_routed decoded

/-- A view that was parsed from the bytes at `start` of a unit points into the unit. -/
def PointsInto (unit : Bytes) (start : Nat) (decoded : Except WlErr WlFrameView) : Prop :=
  ∀ view, decoded = .ok view →
    start + view.payloadOffset + view.payload.length ≤ unit.length ∧
      unit.readAt (start + view.payloadOffset) view.payload.length = view.payload

theorem wlFeedUnitRaw_routed (unit : Bytes) :
    ∃ decoded start, PointsInto unit start decoded ∧
      Routed decoded { base with offset := base.offset + start } ctx
        (wlFeedUnitRaw ctx unit base).1 := by
  have parse (data : Bytes) (start : Nat) (inside : start + data.length ≤ unit.length)
      (part : unit.readAt start data.length = data) :
      ∃ decoded, PointsInto unit start decoded ∧
        Routed decoded { base with offset := base.offset + start } ctx
          (wlFeedParseWire ctx data { base with offset := base.offset + start }).1 := by
    unfold wlFeedParseWire
    split
    · exact ⟨.error .invalidArg, by rintro _ ⟨⟩, rfl, .inl (.same ctx.slot)⟩
    · refine ⟨_, ?_, routeDecoded_routed _⟩
      intro view parsed
      obtain ⟨_, bytes⟩ := frameParse_within parsed
      refine ⟨by omega, ?_⟩
      rw [← part, Bytes.readAt, Bytes.readAt, List.drop_take, List.take_take, List.drop_drop,
        Nat.min_eq_left (by omega)] at bytes
      exact bytes
  have bad : ∃ decoded start, PointsInto unit start decoded ∧
      Routed decoded { base with offset := base.offset + start } ctx (countMalformed ctx) :=
    ⟨.error .badFrame, 0, by rintro _ ⟨⟩, rfl, .inl (.same ctx.slot)⟩
  unfold wlFeedUnitRaw
  dsimp only
  split
  · split
    · exact bad
    split
    · exact bad
    case isFalse fits =>
      split
      · exact bad
      · have length : (unit.readAt 2 (busRawLen unit)).length = busRawLen unit :=
          Bytes.length_readAt_of_le (by omega)
        obtain ⟨decoded, within, routed⟩ :=
          parse (unit.readAt 2 (busRawLen unit)) 2 (by rw [length]; omega) (by rw [length])
        exact ⟨decoded, 2, within, routed⟩
  · obtain ⟨decoded, within, routed⟩ := parse unit 0 (by omega)
      (by rw [Bytes.readAt, List.drop_zero, List.take_length])
    exact ⟨decoded, 0, within, routed⟩

end routing

end Wirelink
