/-
Module: Wirelink.Proofs.Arrival
Purpose: The receive paths as sequences of moves: routing of one parsed frame, the two processing
  loops, and the producer calls, which only touch the receive memories.
Trusted boundary: none
-/
import Mathlib.Data.List.Induction
import Wirelink.Proofs.Calls

namespace Wirelink

variable {ctx : WlCtx}

/-! ### Moves that only touch the receive side

A block that writes nothing but receive memories is a move, whatever it writes. -/

theorem Trail.setRx (ctx : WlCtx) (rx : RxState) : Trail RxMove [] ctx { ctx with rx := rx } :=
  Trail.single (RxMove.quiet ctx ctx.resourceGeneration rx ctx.sink ctx.slot.rxEventLeased
    ctx.slot.rxEventGeneration ctx.port.txWritable)

theorem setCandidate_trail (ctx : WlCtx) (source : WlRxSource) :
    Trail RxMove [] ctx (setCandidate ctx source) :=
  Trail.setRx ctx _

theorem setPendingConsume_trail (ctx : WlCtx) (length : Nat) :
    Trail RxMove [] ctx (setPendingConsume ctx length) :=
  Trail.setRx ctx _

theorem consumeUnit_trail (ctx : WlCtx) : Trail RxMove [] ctx (consumeUnit ctx) :=
  Trail.setRx ctx _

theorem consumeRing_trail (ctx : WlCtx) (length : Nat) : Trail RxMove [] ctx (consumeRing ctx length) :=
  Trail.setRx ctx _

theorem setRing_trail (ctx : WlCtx) (ring : RxRing) : Trail RxMove [] ctx (setRing ctx ring) :=
  Trail.setRx ctx _

theorem setUnits_trail (ctx : WlCtx) (units : RxUnitQueue) : Trail RxMove [] ctx (setUnits ctx units) :=
  Trail.setRx ctx _

theorem Trail.skip (frames : List WireFrame) (ctx : WlCtx) : Trail RxMove frames ctx ctx := by
  induction frames using List.reverseRecOn with
  | nil => exact Trail.refl ctx
  | append_singleton frames frame ih => exact ih.ignored frame

/-! ### Routing of one frame

A view is routed by its kind: an event is pushed, an ACK is placed, or the transaction is
acknowledged. Each path is a move labelled with exactly the frame of the view. -/

/-- What a parsed view carries, as frames. -/
def WlFrameView.frames (view : WlFrameView) : List WireFrame :=
  match view.type with
  | .data =>
    if view.flags &&& wlPacketFlagReliable ≠ 0 then
      [.reliable view.messageId view.sessionId view.sequence view.payload]
    else [.unreliable view.messageId view.payload]
  | .ack => [.ack view.sessionId view.sequence]
  | .nack | .privateUse => []

theorem wlSendAck_trail {frame : WireFrame} {noted : WlCtx} {sessionId : UInt64}
    {sequence : UInt32} (inv : Inv ctx)
    (move : RxMove (some frame) ctx (placeAck noted sessionId sequence).1) :
    Trail RxMove [frame] ctx (wlSendAck noted sessionId sequence).1 := by
  have placed : Trail RxMove ([] ++ [frame]) ctx (placeAck noted sessionId sequence).1 :=
    (Trail.refl ctx).arrival frame move
  unfold wlSendAck
  split
  · rename_i after answer
    rw [answer] at placed
    exact placed.trans (wlSubmitControl_trail (placed.toMove.inv inv))
  · rename_i after code refused answer
    rw [answer] at placed
    exact placed

theorem wlPushEvent_rx {type : WlEventType} {messageId : UInt16} {payload : Option RxPtr}
    {payloadLen : Nat} {pushed : WlCtx} (receive : type.isRx = true)
    (accepted : wlPushEvent ctx type messageId payload payloadLen 0 = (pushed, .ok)) :
    ctx.slot.hasEvent = false ∧ ∃ rx event lease, event.type = type ∧
      pushed = rxEventIn ctx rx event lease := by
  unfold wlPushEvent at accepted
  split at accepted
  · simp at accepted
  rename_i free
  simp only [Bool.or_eq_true, not_or, Bool.not_eq_true] at free
  split at accepted
  · simp at accepted
  · exact ⟨free.1, _, _, _, rfl, (Prod.mk.inj accepted).1.symm⟩

theorem wlPushEvent_refused {type : WlEventType} {messageId : UInt16} {payload : Option RxPtr}
    {payloadLen : Nat} {handle : UInt32} {after : WlCtx} {code : WlErr} (refused : code ≠ .ok)
    (answer : wlPushEvent ctx type messageId payload payloadLen handle = (after, code)) :
    after = ctx := by
  unfold wlPushEvent at answer
  split at answer
  · exact (Prod.mk.inj answer).1.symm
  split at answer
  · split at answer
    · exact (Prod.mk.inj answer).1.symm
    · exact absurd (Prod.mk.inj answer).2.symm refused
  · exact absurd (Prod.mk.inj answer).2.symm refused

theorem routeReliable_trail (inv : Inv ctx) (view : WlFrameView) (base : RxPtr) :
    Trail RxMove [.reliable view.messageId view.sessionId view.sequence view.payload] ctx
      (routeReliable ctx view base).1 := by
  unfold routeReliable
  split
  · rename_i known
    have noted : Inv ((countDuplicate ctx).note
        (.repeated view.sessionId view.sequence (!ctx.port.controlPending) ctx.sink)) :=
      { inv with }
    exact wlSendAck_trail inv
      (RxMove.duplicate view known (placeAck_ackStep noted view.sessionId view.sequence))
  · rename_i fresh
    split
    · rename_i pushed accepted
      obtain ⟨free, rx, event, lease, type, same⟩ := wlPushEvent_rx rfl accepted
      subst same
      have noted : Inv (recordAccepted (rxEventIn ctx rx event lease) view) :=
        { inv with }
      exact wlSendAck_trail inv
        (RxMove.accept view rx event lease free type (eq_false_of_ne_true fresh)
          (placeAck_ackStep noted view.sessionId view.sequence))
    · rename_i after code refused answer
      have same : after = ctx := wlPushEvent_refused refused answer
      subst same
      exact Trail.skip _ _

theorem wlFrameRouteView_trail (inv : Inv ctx) (view : WlFrameView) (base : RxPtr) :
    Trail RxMove view.frames ctx (wlFrameRouteView ctx view base).1 := by
  unfold wlFrameRouteView
  by_cases long : view.payload.length > ctx.config.maxPayloadLen
  · rw [if_pos long]
    exact Trail.skip _ _
  rw [if_neg long]
  cases type : view.type with
  | data =>
    by_cases reliable : view.flags &&& wlPacketFlagReliable ≠ 0
    · simp only [WlFrameView.frames, type, if_pos reliable]
      exact routeReliable_trail inv view base
    · simp only [WlFrameView.frames, type, if_neg reliable]
      generalize push : wlPushEvent ctx .unreliableRx view.messageId _ _ 0 = result
      obtain ⟨after, code⟩ := result
      by_cases accepted : code = .ok
      · subst accepted
        obtain ⟨free, rx, event, lease, kind, same⟩ := wlPushEvent_rx rfl push
        subst same
        exact (Trail.refl ctx).arrival _ (RxMove.receive view rx event lease free kind)
      · have same : after = ctx := wlPushEvent_refused accepted push
        subst same
        exact Trail.skip _ _
  | ack =>
    simp only [WlFrameView.frames, type, wlHandleAck]
    by_cases idle : ctx.tx.txState ≠ .waitingAck ∧ ctx.tx.txState ≠ .sending
    · rw [if_pos idle]
      exact Trail.skip _ _
    rw [if_neg idle]
    by_cases other : ctx.sessionId ≠ view.sessionId ∨ ctx.tx.txWaitingSeq ≠ view.sequence
    · rw [if_pos other]
      exact Trail.skip _ _
    rw [if_neg other]
    rw [not_or, not_not, not_not] at other
    rw [not_and_or, not_not, not_not] at idle
    rw [← other.1, ← other.2, acknowledge_eq]
    exact (Trail.refl ctx).arrival _ (RxMove.acked idle)
  | nack =>
    simp only [WlFrameView.frames, type]
    exact Trail.setRx ctx _
  | privateUse =>
    simp only [WlFrameView.frames, type]
    exact Trail.refl ctx

/-- The frames of a parse result. -/
def decodedFrames : Except WlErr WlFrameView → List WireFrame
  | .ok view => view.frames
  | .error _ => []

theorem wlFrameBadFrame_trail (ctx : WlCtx) (err : WlErr) :
    Trail RxMove [] ctx (wlFrameBadFrame ctx err).1 := by
  unfold wlFrameBadFrame
  split
  · exact Trail.setRx ctx _
  split
  · exact Trail.setRx ctx _
  · exact Trail.setRx ctx _

theorem routeDecoded_trail (inv : Inv ctx) (decoded : Except WlErr WlFrameView) (base : RxPtr) :
    Trail RxMove (decodedFrames decoded) ctx (routeDecoded ctx decoded base).1 := by
  cases decoded with
  | ok view => exact wlFrameRouteView_trail inv view base
  | error err => exact wlFrameBadFrame_trail ctx err

/-! ### Units of packet links -/

theorem wlFeedParseWire_trail (inv : Inv ctx) (data : Bytes) (base : RxPtr) :
    Trail RxMove (decodedFrames (wlFrameDecode data ctx.config.integrity)) ctx
      (wlFeedParseWire ctx data base).1 := by
  unfold wlFeedParseWire
  split
  · exact Trail.skip _ _
  · exact routeDecoded_trail inv _ base

theorem wlFeedUnitRaw_moves (inv : Inv ctx) (unit : Bytes) (base : RxPtr) :
    Moves RxMove ctx (wlFeedUnitRaw ctx unit base).1 := by
  unfold wlFeedUnitRaw
  simp only
  split
  · split
    · exact ⟨[], Trail.setRx ctx _⟩
    split
    · exact ⟨[], Trail.setRx ctx _⟩
    split
    · exact ⟨[], Trail.setRx ctx _⟩
    · exact ⟨_, wlFeedParseWire_trail inv _ _⟩
  · exact ⟨_, wlFeedParseWire_trail inv _ _⟩

theorem wlFrameReceiveUnit_moves (inv : Inv ctx) (unit : Bytes) :
    Moves RxMove ctx (wlFrameReceiveUnit ctx unit).1 := by
  unfold wlFrameReceiveUnit
  split
  · exact (Trail.refl ctx).moves
  split
  · exact (Trail.refl ctx).moves
  · have copied := Trail.setRx ctx
      { ctx.rx with
        rxFallback := ctx.rx.rxFallback.writeAt 0 unit
        rxCandidateSource := .fallback }
    exact copied.moves.trans (wlFeedUnitRaw_moves (copied.toMove.inv inv) unit _)

/-- The loop of `wl_frame_process_units`, by induction on the units it may still take. -/
theorem processUnitsLoop_moves (fuel : Nat) (inv : Inv ctx) :
    Moves RxMove ctx (processUnitsLoop fuel ctx) := by
  induction fuel generalizing ctx with
  | zero => exact (Trail.refl ctx).moves
  | succ fuel ih =>
    unfold processUnitsLoop
    split
    · exact (Trail.refl ctx).moves
    split
    · exact (Trail.refl ctx).moves
    rename_i offset length found
    split
    · exact (Trail.refl ctx).moves
    have marked := setCandidate_trail ctx .unit
    have routed := marked.moves.trans (wlFeedUnitRaw_moves (marked.toMove.inv inv)
      (ctx.rx.rxUnits.storage.readAt offset length) { source := .unit, offset := offset })
    simp only
    split
    · exact routed.trans (setPendingConsume_trail _ 1).moves
    · have consumed := routed.trans
        ((consumeUnit_trail _).trans (setCandidate_trail _ .none)).moves
      split
      · exact consumed
      · exact consumed.trans (ih (consumed.toMove.inv inv))

/-! ### Byte streams

The loop looks for a delimiter in the ring and decodes the segment before it, there or in the
fallback buffer. Of all this only the routing of the decoded frame is seen. -/

theorem wlFeedParseStream_trail (inv : Inv ctx) (decoded : Except WlErr WlFrameView)
    (base : RxPtr) :
    Trail RxMove (decodedFrames decoded) ctx (wlFeedParseStream ctx decoded base).1 := by
  unfold wlFeedParseStream
  split
  · exact Trail.refl ctx
  · exact routeDecoded_trail inv _ base

theorem decodeInRing_trail (inv : Inv ctx) (span : RingSpan) (delimiter : Nat) :
    Trail RxMove
      (decodedFrames
        (wlLinkDecodeStream ctx.config (ctx.rx.rxRing.memory.readAt span.offset delimiter)).2) ctx
      (decodeInRing ctx span delimiter) := by
  have marked := (setRing_trail ctx
    { ctx.rx.rxRing with
      memory := ctx.rx.rxRing.memory.writeAt span.offset
        (wlLinkDecodeStream ctx.config
          (ctx.rx.rxRing.memory.readAt span.offset delimiter)).1 }).trans
    (setCandidate_trail _ .ring)
  exact marked.trans (wlFeedParseStream_trail (marked.toMove.inv inv) _ _)

theorem decodeInFallback_trail (inv : Inv ctx) (encoded : Bytes) :
    Trail RxMove (decodedFrames (wlLinkDecodeStream ctx.config encoded).2) ctx
      (decodeInFallback ctx encoded) := by
  have marked := (Trail.setRx ctx
    { ctx.rx with
      rxFallback := ctx.rx.rxFallback.writeAt 0 (wlLinkDecodeStream ctx.config encoded).1 }).trans
    (setCandidate_trail _ .fallback)
  exact marked.trans (wlFeedParseStream_trail (marked.toMove.inv inv) _ _)

theorem parseCandidate_moves (inv : Inv ctx) {delimiter : Nat} {routed : WlCtx}
    (parsed : parseCandidate ctx delimiter = some routed) : Moves RxMove ctx routed := by
  unfold parseCandidate at parsed
  simp only at parsed
  split at parsed
  · rw [← Option.some.inj parsed]
    exact (decodeInRing_trail inv _ _).moves
  split at parsed
  · simp at parsed
  split at parsed
  · simp at parsed
  · rw [← Option.some.inj parsed]
    exact (decodeInFallback_trail inv _).moves

/-- The loop of `wl_frame_process_stream`, by induction on the bytes it may still take. -/
theorem processStreamLoop_moves (fuel : Nat) (inv : Inv ctx) :
    Moves RxMove ctx (processStreamLoop fuel ctx) := by
  induction fuel generalizing ctx with
  | zero => exact (Trail.refl ctx).moves
  | succ fuel ih =>
    unfold processStreamLoop
    split
    · exact (Trail.refl ctx).moves
    have searched := setRing_trail ctx (ctx.rx.rxRing.consumerFind 0).1
    have searchedInv := searched.toMove.inv inv
    have again : ∀ {next : WlCtx}, Moves RxMove ctx next → Moves RxMove ctx (processStreamLoop fuel next) :=
      fun reached => reached.trans (ih (reached.toMove.inv inv))
    simp only
    split
    · exact searched.moves
    rename_i delimiter found
    split
    · exact again (searched.trans (consumeRing_trail _ 1)).moves
    split
    · exact again (searched.trans ((Trail.setRx _ _).trans (consumeRing_trail _ _))).moves
    rename_i routed parsed
    have reached := searched.moves.trans (parseCandidate_moves searchedInv parsed)
    split
    · split
      · exact reached.trans (setPendingConsume_trail _ _).moves
      · exact reached.trans
          ((consumeRing_trail _ _).trans (setPendingConsume_trail _ 0)).moves
    · have consumed := reached.trans
        ((consumeRing_trail routed (delimiter + 1)).trans (setCandidate_trail _ .none)).moves
      split
      · exact consumed
      · exact again consumed

theorem recoverOverflow_trail (ctx : WlCtx) : Trail RxMove [] ctx (recoverOverflow ctx) := by
  unfold recoverOverflow
  simp only
  split
  · exact setRing_trail ctx _
  · exact (setRing_trail ctx ctx.rx.rxRing.takeOverflow.1).trans
      ((Trail.setRx _ _).trans (consumeRing_trail _ _))

theorem wlLinkProcessRx_moves (inv : Inv ctx) : Moves RxMove ctx (wlLinkProcessRx ctx) := by
  unfold wlLinkProcessRx
  split
  · unfold wlFrameProcessUnits
    split
    · exact (Trail.refl ctx).moves
    · exact processUnitsLoop_moves _ inv
  · have recovered := recoverOverflow_trail ctx
    exact recovered.moves.trans (processStreamLoop_moves _ (recovered.toMove.inv inv))

end Wirelink
