/-
Module: Wirelink.Proofs.Preservation
Purpose: Every move keeps a context consistent.
Trusted boundary: none
-/
import Wirelink.Proofs.Invariant

namespace Wirelink

variable {ctx sent after : WlCtx}

/-! ### Blocks shared by several moves

Which flags a block writes decides which parts of the invariant are left to prove: a terminal event
changes the transaction, a unit of another sender the line. -/

theorem Inv.note (inv : Inv ctx) (obs : Obs) : Inv (ctx.note obs) :=
  { inv with }

theorem Ready.note (ready : Ready ctx) (obs : Obs) : Ready (ctx.note obs) :=
  { ready with }

theorem Inv.withTx (inv : Inv ctx) (tx : TxTransaction)
    (state : tx.txState = ctx.tx.txState) (handle : tx.txHandle = ctx.tx.txHandle)
    (cancel : tx.txCancelRequested = ctx.tx.txCancelRequested)
    (event : tx.txPendingEvent = .none ∨
      tx.txPendingEvent = ctx.tx.txPendingEvent ∧ tx.txResultCode = ctx.tx.txResultCode) :
    Inv { ctx with tx := tx } :=
  { inv with
    port :=
      { inv.port with
        queuedSending := by rw [state]; exact inv.port.queuedSending
        leasedState := by rw [state]; exact inv.port.leasedState
        sendingOwned := by rw [state]; exact inv.port.sendingOwned
        handleState := by rw [state, handle]; exact inv.port.handleState
        cancelState := by rw [state, cancel]; exact inv.port.cancelState
        pendingState := by
          rcases event with none | ⟨same, result⟩
          · exact .inl none
          · rw [same, result, state]
            exact inv.port.pendingState }
    mem := by rw [handle]; exact inv.mem }

theorem Inv.pushTx (inv : Inv ctx) {type : WlEventType} (transmit : type.isRx = false)
    (ended : EndedBy type ctx.tx.txState ctx.tx.txResultCode) : Inv (wlPushTxEvent ctx type) := by
  rw [wlPushTxEvent_eq ctx transmit]
  cases eventDeferred ctx with
  | false => exact { inv with }
  | true =>
    exact { inv with port := { inv.port with pendingState := .inr ended }, mem := { inv.mem with } }

variable {type : WlEventType} {ok : Bool} {label : Option WireFrame} {frames : List WireFrame}

theorem Ready.inv_fail (ready : Ready ctx) (idle : LineIdle ctx.port) {result : WlErr}
    (transmit : type.isRx = false) (ended : EndedBy type .failed result) :
    Inv (failTransaction ctx result type) := by
  apply Inv.pushTx _ transmit ended
  exact Ready.inv_idle { ready with } idle (by simp) (by simp)

theorem AckStep.inv {sessionId : UInt64} {sequence : UInt32}
    (ack : AckStep sessionId sequence ctx after) (inv : Inv ctx) : Inv after := by
  cases ack with
  | dropped => exact inv
  | placed present free size =>
    exact ⟨inv.initialized, inv.session, inv.sessionSet,
      { inv.port with controlLease := fun _ => rfl },
      { inv.mem with controlSize := Nat.le_trans inv.mem.controlSize (Nat.le_of_eq size.symm) }⟩

theorem Inv.head (inv : Inv ctx) (token : UInt32) (ioResult : WlErr) :
    Inv (consumedHead ctx token ioResult) := by
  refine { inv with port := { inv.port with drainAllowed := ?_ }, mem := { inv.mem with } }
  simp only [consumedHead, WlCtx.note]
  split
  · rename_i drains
    exact fun _ => drains.2
  · exact inv.port.drainAllowed

/-- Where the retained payload is once its image was given up. -/
structure ImageDropped (ctx : WlCtx) (store : Bytes) (span : TxSpan) : Prop where
  size : store.length = ctx.mem.payloadStore.length
  length : span.length = ctx.mem.txPayload.length
  retainedAt : RetainedAt ctx.config ctx.mem.txPayload → RetainedAt ctx.config span
  region : ctx.tx.txHandle ≠ 0 → span.region = .payload
  untouched : ctx.tx.txHandle = 0 → store = ctx.mem.payloadStore
  kept : ctx.tx.txHandle ≠ 0 → ctx.mem.txPayload.length ≤ ctx.mem.payloadStore.length →
    (ctx.mem.txPayload.bytes ctx.mem).length = ctx.mem.txPayload.length →
    store.readAt span.offset span.length = ctx.mem.txPayload.bytes ctx.mem

theorem wlInvalidateTxImage_eq (ctx : WlCtx) :
    ∃ store span, ImageDropped ctx store span ∧
      wlInvalidateTxImage ctx =
        { ctx with
          mem := { ctx.mem with payloadStore := store, txPayload := span, txEncodedLen := 0 } } := by
  unfold wlInvalidateTxImage
  by_cases saved : ctx.tx.txHandle ≠ 0 ∧
      (ctx.mem.txPayload.region ≠ .payload ∨ ctx.mem.txPayload.offset ≠ 0)
  · refine ⟨_, { region := .payload, offset := 0, length := ctx.mem.txPayload.length },
      ⟨Bytes.length_writeAt _ _ _, rfl, fun _ => .inl ⟨rfl, rfl⟩, fun _ => rfl,
        fun none => absurd none saved.1, ?_⟩, by simp only [if_pos saved]; rfl⟩
    intro _ fits full
    rw [← full] at fits ⊢
    exact Bytes.readAt_writeAt_self (by simpa using fits)
  · refine ⟨_, _, ⟨rfl, rfl, id, ?_, fun _ => rfl, ?_⟩, by simp only [if_neg saved]⟩
    · intro held
      by_contra other
      exact saved ⟨held, .inl other⟩
    · intro held _ _
      have region : ctx.mem.txPayload.region = .payload := by
        by_contra other
        exact saved ⟨held, .inl other⟩
      simp [TxSpan.bytes, region]

theorem wlInvalidateTxImage_control (ctx : WlCtx) :
    (wlInvalidateTxImage ctx).mem.controlUnit = ctx.mem.controlUnit := by
  obtain ⟨_, _, _, same⟩ := wlInvalidateTxImage_eq ctx
  rw [same]

theorem Inv.invalidate (inv : Inv ctx) (free : LineFree ctx) : Inv (wlInvalidateTxImage ctx) := by
  have claim := free.claim
  obtain ⟨_, _, dropped, same⟩ := wlInvalidateTxImage_eq ctx
  rw [same]
  exact ⟨inv.initialized, inv.session, inv.sessionSet, inv.port,
    { inv.mem with
      payloadSize := Nat.le_trans inv.mem.payloadSize (Nat.le_of_eq dropped.size.symm)
      retainedFits := Nat.le_trans (Nat.le_of_eq dropped.length) inv.mem.retainedFits
      retainedAt := dropped.retainedAt inv.mem.retainedAt
      imageKept := by simp [free.lease, free.queue]
      claimImage := by simp [claim] }⟩

theorem Inv.lineCleared (inv : Inv ctx) (kind : ctx.port.inFlightReliable = false) (port : TxPort)
    (idle : LineIdle port) (noCallback : port.inCallback = false)
    (controlLease : port.controlInflight = true → port.controlPending = true)
    (drain : port.txDrainPending = true → port.txDrainRequired = true) :
    Inv { ctx with port := port } :=
  { inv with
    port := portInv_idle idle noCallback controlLease drain inv.port.handleState
      (inv.port.not_sending kind) (inv.port.not_requested kind) inv.port.pendingState
    mem := { inv.mem with imageKept := by simp [idle.kind] } }

theorem Inv.lineTaken (inv : Inv ctx) (kind : ctx.port.inFlightReliable = false)
    (control : ctx.port.controlInflight = false) (claim : ctx.claim.txClaimActive = false)
    (capacity : ctx.port.txUnreliableCompletions ≠ uint32Max) (token : UInt32)
    (inflight queued writable : Bool) (one : inflight = !queued) :
    Inv
      { ctx with
        port :=
          { ctx.port with
            txToken := token, inCallback := false, inFlightReliable := false,
            txInflight := inflight, txQueued := queued, txWritable := writable } } :=
  { inv with
    port :=
      { inv.port with
        noCallback := rfl
        oneLease := fun _ => control
        leaseOrQueue := by
          intro lease
          simpa [one] using lease
        kindOwned := by simp
        queuedSending := by simp
        leasedState := by simp
        sendingOwned := fun sending => absurd sending (inv.port.not_sending kind)
        claimFree := by simp [claim]
        cancelState := by simp [inv.port.not_requested kind]
        capacity := fun _ _ => capacity }
    mem := { inv.mem with imageKept := by simp } }

theorem SentPlain.inv (submission : SentPlain ctx sent ok) (inv : Inv ctx)
    (kind : ctx.port.inFlightReliable = false) (control : ctx.port.controlInflight = false)
    (claim : ctx.claim.txClaimActive = false) : Inv sent := by
  cases submission with
  | noSink => exact inv
  | answered answer present capacity =>
    cases answer with
    | sent =>
      have cleared := inv.lineCleared kind
        { ctx.port with
          txToken := nextToken ctx.port.txToken, inCallback := false,
          inFlightReliable := false, txInflight := false, txQueued := false,
          txUnreliableCompletions := ctx.port.txUnreliableCompletions + 1 }
        ⟨rfl, rfl, rfl⟩ rfl inv.port.controlLease inv.port.drainAllowed
      exact { cleared with mem := { cleared.mem with } }
    | started =>
      have taken := inv.lineTaken kind control claim capacity (nextToken ctx.port.txToken) true
        false ctx.port.txWritable rfl
      exact { taken with }
    | busy =>
      have taken := inv.lineTaken kind control claim capacity (nextToken ctx.port.txToken) false
        true false rfl
      exact { taken with }
    | failed =>
      have cleared := inv.lineCleared kind
        { ctx.port with
          txToken := nextToken ctx.port.txToken, inCallback := false,
          inFlightReliable := false, txInflight := false, txQueued := false }
        ⟨rfl, rfl, rfl⟩ rfl inv.port.controlLease inv.port.drainAllowed
      exact { cleared with mem := { cleared.mem with } }

/-- An unreliable submission that did not go through leaves no lease and no reliable unit. -/
theorem SentPlain.lease (submission : SentPlain ctx sent false)
    (lease : ctx.port.txInflight = false) : sent.port.txInflight = false := by
  generalize failed : false = ok at submission
  cases submission with
  | noSink => exact lease
  | answered answer =>
    cases answer with
    | sent | started | busy => simp at failed
    | failed => rfl

theorem SentPlain.kind (submission : SentPlain ctx sent false)
    (kind : ctx.port.inFlightReliable = false) : sent.port.inFlightReliable = false := by
  generalize failed : false = ok at submission
  cases submission with
  | noSink => exact kind
  | answered answer =>
    cases answer with
    | sent | started | busy => simp at failed
    | failed => rfl

theorem sub_one_ne_uint32Max {count : UInt32} (waiting : count ≠ 0) : count - 1 ≠ uint32Max := by
  intro full
  apply waiting
  have restored : count = uint32Max + 1 := by rw [← full, UInt32.sub_add_cancel]
  rw [restored]
  rfl

/-! ### One lemma per group of moves

Moves that end or open a transaction, give a lease back, or grant or spend a claim. -/

namespace Inv

variable (inv : Inv ctx)

include inv

theorem control (answer : WlSinkResult) (idle : ctx.port.controlInflight = false)
    (pending : ctx.port.controlPending = true) (lease : ctx.port.txInflight = false) :
    Inv
      (controlAnswer
        (sinkCalled ctx .control (ctx.mem.controlUnit.take ctx.port.controlLen) answer)
        answer).1 := by
  refine ⟨?_, ?_, ?_, ?_, ?_⟩
  · cases answer <;> exact inv.initialized
  · cases answer <;> exact inv.session
  · cases answer <;> exact inv.sessionSet
  · cases answer with
    | sent | failed =>
      exact
        { inv.port with
          noCallback := rfl
          controlLease := fun inflight => by
            simp [controlAnswer, sinkCalled, WlCtx.note, idle] at inflight }
    | started =>
      exact
        { inv.port with
          noCallback := rfl
          controlLease := fun _ => pending
          oneLease := fun inflight => by
            simp [controlAnswer, sinkCalled, WlCtx.note, lease] at inflight }
    | busy => exact { inv.port with noCallback := rfl }
  · cases answer <;> exact { inv.mem with }

/-- A live transaction ends on its ACK or on a cancel; a queued copy of its unit is dropped. -/
theorem settled (live : ctx.tx.txState = .waitingAck ∨ ctx.tx.txState = .sending)
    (tx : TxTransaction) (state : tx.txState = .success ∨ tx.txState = .cancelled)
    (handle : tx.txHandle = ctx.tx.txHandle) (event : tx.txPendingEvent = ctx.tx.txPendingEvent)
    (cancel : tx.txCancelRequested = true ↔ tx.txState = .cancelled ∧
      ctx.port.txInflight = true ∧ ctx.port.inFlightReliable = true) :
    Inv { ctx with tx := tx, port := queueDropped ctx.port } := by
  have kept {queued kind : Bool} (own : (kind && !queued) = true) : kind = true :=
    (Bool.and_eq_true_iff.mp own).1
  refine ⟨inv.initialized, inv.session, inv.sessionSet,
    { inv.port with
      leaseOrQueue := fun lease => by simp [queueDropped, inv.port.leaseOrQueue lease]
      kindOwned := ?kindOwned
      queuedSending := fun queued own => by simp_all [queueDropped]
      leasedState := fun _ _ => .inr state
      sendingOwned := by rcases state with state | state <;> simp [state]
      handleState := ?handleState
      claimFree := fun active => by simp [queueDropped, inv.port.claimFree active]
      cancelState := ?cancelState
      pendingState := .inl (event.trans (inv.live_pending live))
      capacity := ?capacity }, ?_⟩
  case kindOwned =>
    intro own
    rcases inv.port.kindOwned (kept own) with lease | queued
    · exact .inl lease
    · simp [queueDropped, queued] at own
  case handleState =>
    rw [handle]
    have named := inv.live_handle live
    rcases state with state | state <;> simp [state, named]
  case cancelState =>
    rw [cancel]
    refine and_congr_right fun _ => and_congr_right fun lease => ?_
    simp [queueDropped, inv.port.leaseOrQueue lease]
  case capacity =>
    intro used own
    cases kind : ctx.port.inFlightReliable with
    | false =>
      refine inv.port.capacity ?_ kind
      simpa [queueDropped, kind] using used
    | true =>
      have queued : ctx.port.txQueued = true := by simpa [queueDropped, kind] using own
      simp [queueDropped, kind, inv.port.no_lease queued] at used
  · rw [handle]
    refine { inv.mem with imageKept := fun used own => inv.mem.imageKept ?_ (kept own) }
    exact used.imp_right fun queued => (Bool.and_eq_true_iff.mp queued).1

/-- The lease of a unit of the transaction is back and its next submission can follow. -/
theorem returned (ioResult : WlErr) (inflight : ctx.port.txInflight = true)
    (sending : ctx.tx.txState = .sending) :
    Ready (leaseReturned ctx ctx.port.txToken ioResult) ∧
      LineIdle (leaseReturned ctx ctx.port.txToken ioResult).port := by
  have head := inv.head ctx.port.txToken ioResult
  exact ⟨{ head.ready (.inr sending) (inv.port.no_claim (.inl inflight)) with },
    ⟨rfl, inv.port.leaseOrQueue inflight, rfl⟩⟩

theorem consumedControl (ioResult : WlErr) :
    Inv
      { consumedHead ctx ctx.port.txToken ioResult with
        port :=
          { (consumedHead ctx ctx.port.txToken ioResult).port with
            controlInflight := false, controlPending := false } } := by
  have head := inv.head ctx.port.txToken ioResult
  exact ⟨head.initialized, head.session, head.sessionSet,
    { head.port with controlLease := by simp, oneLease := fun _ => rfl }, { head.mem with }⟩

/-- The lease of a unit is back and its transaction, if any, is no longer sending. -/
theorem leaseBack (ioResult : WlErr) (inflight : ctx.port.txInflight = true)
    (settled : ctx.tx.txState ≠ .sending) (requested : ctx.tx.txCancelRequested = false) :
    Inv (leaseReturned ctx ctx.port.txToken ioResult) := by
  have head := inv.head ctx.port.txToken ioResult
  refine ⟨head.initialized, head.session, head.sessionSet, ?_,
    { head.mem with imageKept := by simp [leaseReturned] }⟩
  exact portInv_idle ⟨rfl, inv.port.leaseOrQueue inflight, rfl⟩ head.port.noCallback
    head.port.controlLease head.port.drainAllowed head.port.handleState settled requested
    head.port.pendingState

theorem consumedCancelled (ioResult : WlErr) (inflight : ctx.port.txInflight = true)
    (requested : ctx.tx.txCancelRequested = true) :
    Inv
      { leaseReturned ctx ctx.port.txToken ioResult with
        tx := { ctx.tx with txCancelRequested := false }
        mem :=
          { ctx.mem with
            txPayload := { region := .payload, offset := 0, length := 0 }, txEncodedLen := 0 } } := by
  have head := inv.head ctx.port.txToken ioResult
  have state : ctx.tx.txState = .cancelled := (inv.port.cancelState.mp requested).1
  refine { head with port := ?_, mem := ?_ }
  · exact portInv_idle ⟨rfl, inv.port.leaseOrQueue inflight, rfl⟩ head.port.noCallback
      head.port.controlLease head.port.drainAllowed inv.port.handleState (by simp [state]) rfl
      inv.port.pendingState
  · exact
      { inv.mem with
        retainedFits := Nat.zero_le _
        retainedAt := .inl ⟨rfl, rfl⟩
        imageKept := by simp [leaseReturned]
        claimImage := fun _ _ => ⟨rfl, rfl⟩ }

/-- The deferred retry keeps the unit queued behind a pending ACK. -/
theorem consumedDeferred (ioResult : WlErr) (inflight : ctx.port.txInflight = true)
    (kind : ctx.port.inFlightReliable = true) (sending : ctx.tx.txState = .sending) :
    Inv
      (bookRetry
        { leaseReturned ctx ctx.port.txToken ioResult with
          port :=
            { (leaseReturned ctx ctx.port.txToken ioResult).port with
              txQueued := true, inFlightReliable := true } }) := by
  have ready := (inv.returned ioResult inflight sending).1
  have retry : Ready
      (bookRetry
        { leaseReturned ctx ctx.port.txToken ioResult with
          port :=
            { (leaseReturned ctx ctx.port.txToken ioResult).port with
              txQueued := true, inFlightReliable := true } }) := { ready with }
  exact retry.inv_sending (inv.port.oneLease inflight) rfl rfl sending
    (inv.mem.imageKept (.inl inflight) kind)

/-- A transaction that waits for its ACK fails, whatever else uses the line. -/
theorem waitingFails (waiting : ctx.tx.txState = .waitingAck) (tx : TxTransaction)
    (state : tx.txState = .failed) (handle : tx.txHandle = ctx.tx.txHandle)
    (cancel : tx.txCancelRequested = ctx.tx.txCancelRequested)
    (event : tx.txPendingEvent = ctx.tx.txPendingEvent) : Inv { ctx with tx := tx } where
  initialized := inv.initialized
  session := inv.session
  sessionSet := inv.sessionSet
  port :=
    { inv.port with
      queuedSending := fun queued kind =>
        absurd (inv.port.queuedSending queued kind) (by simp [waiting])
      leasedState := fun lease kind => absurd (inv.port.leasedState lease kind) (by simp [waiting])
      sendingOwned := by simp [state]
      handleState := by simp [state, handle, inv.port.handle_ne_zero (by simp [waiting])]
      cancelState := by simp [state, cancel, inv.port.no_cancel (by simp [waiting])]
      pendingState := .inl (event.trans (inv.port.no_pending (.inl waiting))) }
  mem := by rw [handle]; exact inv.mem

theorem drained (ioResult : WlErr) : Inv (drainCleared ctx ioResult) :=
  { inv with port := { inv.port with drainAllowed := nofun }, mem := { inv.mem with } }

end Inv

theorem generatedHandle_ne_zero (generation : UInt16) : generatedHandle generation ≠ 0 := by
  intro zero
  have bit := congrArg (fun value : UInt32 => value.toBitVec.getLsbD 0) zero
  simp [generatedHandle] at bit

theorem Inv.opened (inv : Inv ctx) {messageId : UInt16} {payload : SendPayload} {nowMs : UInt32}
    (free : LineFree ctx) (idle : ctx.tx.txHandle = 0)
    (placed : PlacedReliable ctx.config payload)
    (fits : payload.length ≤ ctx.config.maxPayloadLen) :
    Ready (openTransaction (Wirelink.spendSequence ctx) messageId ctx.tx.txSequence payload nowMs) ∧
      LineIdle
        (openTransaction (Wirelink.spendSequence ctx) messageId ctx.tx.txSequence payload
          nowMs).port := by
  have state : ctx.tx.txState = .idle := inv.port.handleState.mp idle
  refine ⟨?_, ⟨free.lease, free.queue, inv.port.no_kind free.lease free.queue⟩⟩
  have named : Ready (openTransaction (Wirelink.spendSequence ctx) messageId ctx.tx.txSequence
      (.direct ctx.mem.txPayload) nowMs) :=
    { inv, inv.port, inv.mem with
      drain := inv.port.drainAllowed
      handle := generatedHandle_ne_zero _
      event := inv.port.no_pending (by simp [state])
      cancel := inv.port.no_cancel (by simp [state])
      claim := free.claim }
  cases payload with
  | copied =>
    exact
      { named with
        payloadSize := Nat.le_trans inv.mem.payloadSize
          (Nat.le_of_eq (Bytes.length_writeAt _ _ _).symm)
        retainedFits := fits
        retainedAt := .inl ⟨rfl, rfl⟩ }
  | direct => exact { named with retainedFits := fits, retainedAt := placed }

theorem Ready.inv_withdraw (ready : Ready ctx) (idle : LineIdle ctx.port) :
    Inv (withdrawTransaction ctx) where
  initialized := ready.initialized
  session := ready.session
  sessionSet := ready.sessionSet
  port :=
    portInv_idle idle ready.noCallback ready.controlLease ready.drain
      ⟨fun _ => rfl, fun _ => rfl⟩ nofun ready.cancel (.inl ready.event)
  mem :=
    { ready.memInv 0 ctx.port (by simp [idle.kind]) with
      retainedFits := Nat.zero_le _
      retainedAt := .inl ⟨rfl, rfl⟩
      imageKept := fun _ kind => absurd kind (by simp [withdrawTransaction, WlCtx.note, idle.kind])
      claimImage := fun _ _ => ⟨rfl, rfl⟩ }

theorem claimSpan_claimAt (ctx : WlCtx) (messageId : UInt16) (token : UInt32)
    (delivery : WlDelivery) (idle : delivery = .reliable → ctx.tx.txHandle = 0) :
    ClaimAt ctx.config ctx.tx.txHandle
      { txClaimActive := true, txClaimReliable := delivery == .reliable,
        txClaimMessageId := messageId, txClaimToken := token,
        txClaimPayload := some (claimSpan ctx delivery) } (claimSpan ctx delivery) := by
  have room : ∀ flags, flags = wlPacketFlagReliable ∨ flags = 0 →
      wlFramePacketHeaderSize .data flags ≤ 16 := by
    rintro flags (rfl | rfl) <;> decide
  unfold claimSpan
  cases delivery with
  | reliable =>
    have none := idle rfl
    split
    · rename_i native
      exact ⟨rfl, nofun, fun _ => ⟨room _ (.inl rfl), fun other => absurd native other⟩,
        fun _ => ⟨none, .inr ⟨rfl, rfl, native⟩⟩⟩
    · rw [if_neg (by simp)]
      exact ⟨rfl, fun _ => ⟨rfl, none⟩, nofun, fun _ => ⟨none, .inl ⟨rfl, rfl⟩⟩⟩
  | unreliable =>
    split
    · rename_i native
      exact ⟨rfl, nofun, fun _ => ⟨room _ (.inr rfl), fun other => absurd native other⟩, nofun⟩
    · split
      · exact ⟨rfl, nofun, fun _ => ⟨Nat.zero_le _, fun _ => rfl⟩, nofun⟩
      · rename_i held
        refine ⟨rfl, fun _ => ⟨rfl, ?_⟩, nofun, nofun⟩
        simpa using held

theorem Inv.claimed (inv : Inv ctx) {messageId : UInt16} (delivery : WlDelivery)
    (free : LineFree ctx) (named : messageId ≠ 0)
    (idle : delivery = .reliable → ctx.tx.txHandle = 0)
    (image : ctx.tx.txHandle ≠ 0 → ctx.mem.txEncodedLen = 0 ∧ ctx.mem.txPayload.region = .payload)
    (token : UInt32) :
    Inv
      { ctx with
        claim :=
          { txClaimActive := true
            txClaimReliable := delivery == .reliable
            txClaimMessageId := messageId
            txClaimToken := token
            txClaimPayload := some (claimSpan ctx delivery) } } where
  initialized := inv.initialized
  session := inv.session
  sessionSet := inv.sessionSet
  port := { inv.port with claimFree := fun _ => ⟨free.lease, free.queue⟩ }
  mem :=
    { inv.mem with
      claimNamed := fun _ => named
      claimAt := fun _ => ⟨_, rfl, claimSpan_claimAt ctx messageId token delivery idle⟩
      claimImage := fun _ => image }

theorem claimWrite_eq (ctx : WlCtx) (offset : Nat) (data : Bytes) :
    { ctx with mem := (claimWrite ctx offset data).mem } = claimWrite ctx offset data := by
  unfold claimWrite
  split
  · split
    · split
      · rfl
      · rfl
    · rfl
  · rfl

theorem claimWrite_control (ctx : WlCtx) (offset : Nat) (data : Bytes) :
    (claimWrite ctx offset data).mem.controlUnit = ctx.mem.controlUnit := by
  unfold claimWrite
  split
  · split
    · split
      · rfl
      · rfl
    · rfl
  · rfl

theorem Inv.stored (inv : Inv ctx) (offset : Nat) (data : Bytes) :
    Inv (claimWrite ctx offset data) := by
  unfold claimWrite
  split
  · split
    · split
      · exact ⟨inv.initialized, inv.session, inv.sessionSet, inv.port,
          { inv.mem with
            payloadSize := Nat.le_trans inv.mem.payloadSize
              (Nat.le_of_eq (Bytes.length_writeAt _ _ _).symm) }⟩
      · exact ⟨inv.initialized, inv.session, inv.sessionSet, inv.port,
          { inv.mem with
            unitSize := Nat.le_trans inv.mem.unitSize
              (Nat.le_of_eq (Bytes.length_writeAt _ _ _).symm) }⟩
    · exact inv
  · exact inv

theorem Inv.retired (inv : Inv ctx) (ended : ctx.tx.txState.terminal = true)
    (returned : ¬ (ctx.port.txInflight = true ∧ ctx.port.inFlightReliable = true)) :
    Inv (retireTransaction ctx) := by
  have settled : ctx.tx.txState ≠ .sending := by
    intro sending
    simp [sending, WlTxState.terminal] at ended
  have kind : ctx.port.inFlightReliable = false := by
    cases kind : ctx.port.inFlightReliable with
    | false => rfl
    | true =>
      rcases inv.port.kindOwned kind with lease | queued
      · exact absurd ⟨lease, kind⟩ returned
      · exact absurd (inv.port.queuedSending queued kind) settled
  refine { inv with port := ?_, mem := ?_ }
  · exact
      { inv.port with
        queuedSending := fun _ own => absurd own (by simp [retireTransaction, WlCtx.note, kind])
        leasedState := fun _ own => absurd own (by simp [retireTransaction, WlCtx.note, kind])
        sendingOwned := nofun
        handleState := ⟨fun _ => rfl, fun _ => rfl⟩
        cancelState := by simp [retireTransaction, WlCtx.note]
        pendingState := .inl rfl }
  · exact
      { inv.mem with
        retainedFits := Nat.zero_le _
        retainedAt := .inl ⟨rfl, rfl⟩
        imageKept := fun _ own => absurd own (by simp [retireTransaction, WlCtx.note, kind])
        claimAt := by
          intro active
          obtain ⟨span, named, place⟩ := inv.mem.claimAt active
          exact ⟨span, named,
            { place with
              payload := fun region => ⟨(place.payload region).1, rfl⟩
              reliable := fun reliable => ⟨rfl, (place.reliable reliable).2⟩ }⟩
        claimImage := fun _ held => absurd rfl held }

/-! ### Every move -/

/-- A move keeps a context consistent. -/
theorem Move.inv (move : Move label ctx after) (inv : Inv ctx) : Inv after := by
  cases move with
  | rx move =>
    cases move with
    | quiet =>
      exact { inv with port := { inv.port with }, mem := { inv.mem with } }
    | control answer pending idle lease => exact inv.control answer idle pending lease
    | receive => exact { inv with }
    | accept view rx event lease free type fresh ack | duplicate view known ack =>
      exact ack.inv { inv with }
    | acked live =>
      refine Inv.pushTx (Inv.note ?_ _) rfl ⟨rfl, rfl⟩
      refine inv.settled live _ (.inl rfl) rfl rfl ?_
      simp [inv.live_uncancelled live]
  | publish =>
    have cleared := inv.withTx { ctx.tx with txPendingEvent := .none } rfl rfl rfl
      (.inl rfl)
    exact { inv with port := cleared.port, mem := cleared.mem }
  | complete free waiting =>
    refine { inv with port := { inv.port with capacity := ?_ }, mem := { inv.mem with } }
    intro _ _
    exact sub_one_ne_uint32Max waiting
  | deliver => exact { inv with }
  | resubmitReliable sent ok pending claim queue lease drain kind submission =>
    have ready := (inv.ready (.inr (inv.port.queuedSending queue kind)) claim).note
      (.resubmitted true)
    cases ok with
    | true => exact (submission.inv ready (inv.port.no_control pending)).1
    | false =>
      -- the sink refused the queued unit: the transaction fails with the line idle
      have left : Ready (unqueued sent) := { submission.ready ready with }
      exact left.inv_fail ⟨submission.lease lease, rfl, rfl⟩ rfl ⟨rfl, rfl⟩
  | resubmitUnreliable sent ok pending claim queue lease drain kind submission =>
    have after := submission.inv (inv.note (.resubmitted false)) kind
      (inv.port.no_control pending) claim
    cases ok with
    | true => exact after
    | false =>
      have cleared := after.lineCleared (submission.kind kind) (unqueued sent).port
        ⟨submission.lease lease, rfl, rfl⟩ after.port.noCallback after.port.controlLease
        after.port.drainAllowed
      exact { cleared with mem := { cleared.mem with } }
  | timeoutFail lease queue claim state =>
    exact (inv.ready (.inl state) claim).inv_fail
      ⟨lease, queue, inv.port.no_kind lease queue⟩ rfl ⟨rfl, rfl⟩
  | timeoutRetry sent ok nowMs pending lease queue claim state left submission =>
    have ready := (inv.ready (.inl state) claim).note
      (.timeoutRetry ctx.port.txDrainPending ctx.sink)
    have idle : LineIdle ctx.port := ⟨lease, queue, inv.port.no_kind lease queue⟩
    cases ok with
    | true =>
      have sentInv := (submission.inv ready (inv.port.no_control pending)).1
      exact sentInv.withTx _ rfl rfl rfl (.inr ⟨rfl, rfl⟩)
    | false =>
      exact (submission.ready ready).inv_fail (submission.idle idle) rfl ⟨rfl, rfl⟩
  | consumedControl ioResult => exact inv.consumedControl ioResult
  | consumedUnreliable ioResult inflight kind =>
    have returned := inv.leaseBack ioResult inflight (inv.port.not_sending kind)
      (inv.port.not_requested kind)
    -- the completion may now be the last one that can be counted, but the line is idle
    exact ⟨returned.initialized, returned.session, returned.sessionSet,
      { returned.port with
        capacity := fun used => absurd used (by
          simp [leaseReturned, consumedHead, WlCtx.note, inv.port.leaseOrQueue inflight]) },
      { returned.mem with }⟩
  | consumedCancelled ioResult inflight kind requested =>
    exact inv.consumedCancelled ioResult inflight requested
  | consumedSettled ioResult inflight kind requested settled =>
    exact inv.leaseBack ioResult inflight settled requested
  | consumedOk inflight kind sending =>
    obtain ⟨ready, idle⟩ := inv.returned .ok inflight sending
    exact Ready.inv_idle { ready with } idle nofun nofun
  | consumedDeferred ioResult failed inflight kind sending =>
    exact inv.consumedDeferred ioResult inflight kind sending
  | consumedRetry sent ok ioResult failed inflight kind sending left pending submission =>
    obtain ⟨ready, idle⟩ := inv.returned ioResult inflight sending
    cases ok with
    | true =>
      have sentInv := (submission.inv ready (inv.port.oneLease inflight)).1
      exact sentInv.withTx _ rfl rfl rfl (.inr ⟨rfl, rfl⟩)
    | false => exact (submission.ready ready).inv_fail (submission.idle idle) rfl ⟨rfl, rfl⟩
  | consumedFail ioResult failed inflight kind sending =>
    obtain ⟨ready, idle⟩ := inv.returned ioResult inflight sending
    exact ready.inv_fail idle rfl ⟨rfl, rfl⟩
  | drained ioResult => exact inv.drained ioResult
  | drainedOk => exact (inv.drained .ok).withTx _ rfl rfl rfl (.inr ⟨rfl, rfl⟩)
  | drainedFail ioResult pending awaits =>
    have failed := (inv.drained ioResult).waitingFails awaits.state
      { ctx.tx with txState := .failed, txWaitState := .none, txResultCode := .io } rfl rfl rfl rfl
    exact failed.pushTx rfl ⟨rfl, rfl⟩
  | openReliable sent ok messageId payload nowMs free idle placed fits named room submission =>
    obtain ⟨ready, line⟩ := inv.opened free idle placed fits
    cases ok with
    | true =>
      obtain ⟨sentInv, live⟩ := submission.inv ready free.control
      exact sentInv.withTx _ rfl rfl rfl (.inl (sentInv.port.no_pending (live.imp_right .inl)))
    | false => exact (submission.ready ready).inv_withdraw (submission.idle line)
  | sendUnreliable sent ok messageId data unit free named size image submission =>
    have dropped := inv.invalidate free
    refine submission.inv ?_ (inv.port.no_kind free.lease free.queue) free.control free.claim
    exact ⟨dropped.initialized, dropped.session, dropped.sessionSet, dropped.port,
      { dropped.mem with
        unitSize := Nat.le_trans inv.mem.unitSize (Nat.le_of_eq size.symm) }⟩
  | spendSequence => exact inv.withTx _ rfl rfl rfl (.inr ⟨rfl, rfl⟩)
  | claim messageId delivery free named idle =>
    cases delivery with
    | reliable => exact inv.claimed .reliable free named idle (fun held => absurd (idle rfl) held) _
    | unreliable =>
      -- the claim takes the unit, so a payload retained there is saved before
      obtain ⟨store, _, dropped, same⟩ := wlInvalidateTxImage_eq ctx
      have invalid := inv.invalidate free
      refine invalid.claimed .unreliable ?_ named nofun ?_ _
      · rw [same]
        exact { free with }
      · rw [same]
        exact fun held => ⟨rfl, dropped.region held⟩
  | store offset data =>
    rw [claimWrite_eq]
    exact inv.stored offset data
  | spend =>
    exact ⟨inv.initialized, inv.session, inv.sessionSet, { inv.port with claimFree := nofun },
      { inv.mem with claimNamed := nofun, claimAt := nofun, claimImage := nofun }⟩
  | cancel live =>
    refine Inv.note ?_ _
    refine inv.settled live _ (.inr rfl) rfl rfl ?_
    simp [inv.live_uncancelled live]
  | take ended returned => exact inv.retired ended returned
  | drainRequired required lease control drain =>
    exact ⟨inv.initialized, inv.session, inv.sessionSet,
      { inv.port with
        drainAllowed := fun pending => absurd pending (by simp [WlCtx.note, drain]) },
      { inv.mem with }⟩

theorem Trail.inv (trail : Trail Move frames ctx after) (inv : Inv ctx) :
    Inv after :=
  trail.induct Inv inv (fun move kept => move.inv kept)

theorem Moves.inv (moves : Moves Move ctx after) (inv : Inv ctx) : Inv after := by
  obtain ⟨_, trail⟩ := moves
  exact trail.inv inv

/-! ### The configuration and the clock -/

/-- What no move touches. -/
def WlCtx.settings (ctx : WlCtx) : WlConfig × UInt32 :=
  (ctx.config, ctx.nowMs)

theorem wlPushTxEvent_settings (transmit : type.isRx = false) :
    (wlPushTxEvent ctx type).settings = ctx.settings := by
  rw [wlPushTxEvent_eq ctx transmit]
  cases eventDeferred ctx <;> rfl

theorem Sent.settings (submission : Sent ctx sent ok) : sent.settings = ctx.settings := by
  cases submission with
  | noSink => rfl
  | answered answer => cases answer <;> rfl

theorem SentPlain.settings (submission : SentPlain ctx sent ok) :
    sent.settings = ctx.settings := by
  cases submission with
  | noSink => rfl
  | answered answer =>
    cases answer with
    | sent | started | busy | failed => rfl

theorem AckStep.settings {sessionId : UInt64} {sequence : UInt32}
    (ack : AckStep sessionId sequence ctx after) : after.settings = ctx.settings := by
  cases ack with
  | dropped | placed => rfl

/-- No move changes the configuration or touches the clock. -/
theorem Move.settings (move : Move label ctx after) :
    after.settings = ctx.settings := by
  cases move with
  | rx move =>
    cases move with
    | control answer => cases answer <;> rfl
    | accept view rx event lease free type fresh ack | duplicate view known ack =>
      exact ack.settings
    | acked => exact wlPushTxEvent_settings rfl
    | _ => rfl
  | resubmitReliable sent ok pending claim queue lease drain kind submission
  | timeoutRetry sent ok nowMs pending lease queue claim state left submission
  | consumedRetry sent ok ioResult failed inflight kind sending left pending submission =>
    cases ok with
    | true => exact submission.settings
    | false => exact (wlPushTxEvent_settings rfl).trans submission.settings
  | resubmitUnreliable sent ok pending claim queue lease drain kind submission =>
    cases ok <;> exact submission.settings
  | timeoutFail | consumedFail | drainedFail => exact wlPushTxEvent_settings rfl
  | openReliable sent ok messageId payload nowMs free idle placed fits named room submission clock =>
    subst clock
    cases ok <;> exact submission.settings
  | sendUnreliable sent ok messageId data unit free named size image submission =>
    exact submission.settings
  | _ => rfl

theorem Move.config (move : Move label ctx after) :
    after.config = ctx.config :=
  congrArg Prod.fst move.settings

theorem Trail.settings (trail : Trail Move frames ctx after) :
    after.settings = ctx.settings :=
  trail.induct (fun middle => middle.settings = ctx.settings) rfl
    (fun move same => move.settings.trans same)

theorem Trail.config (trail : Trail Move frames ctx after) :
    after.config = ctx.config :=
  congrArg Prod.fst trail.settings

theorem Moves.config (moves : Moves Move ctx after) : after.config = ctx.config := by
  obtain ⟨_, trail⟩ := moves
  exact trail.config

theorem Moves.nowMs (moves : Moves Move ctx after) : after.nowMs = ctx.nowMs := by
  obtain ⟨_, trail⟩ := moves
  exact congrArg Prod.snd trail.settings

end Wirelink
