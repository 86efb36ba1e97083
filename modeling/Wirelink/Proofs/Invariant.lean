/-
Module: Wirelink.Proofs.Invariant
Purpose: The consistency of a context between two blocks of the source: which flags can be set
  together, where the retained payload and a claimed span can lie, and that the memories are large
  enough; and what a reliable submission does to it.
Trusted boundary: none
-/
import Wirelink.Proofs.Move

namespace Wirelink

/-! ### The invariant

The flags of the transaction, the port and the claim exclude each other, and decide where the
memories are in use. The short lemmas give what a guard of the source establishes. -/

/-- The state and the result a terminal event stands for. -/
def EndedBy (type : WlEventType) (state : WlTxState) (result : WlErr) : Prop :=
  match type with
  | .txSuccess => state = .success ∧ result = .ok
  | .txTimeout => state = .failed ∧ result = .timeout
  | .txFailed => state = .failed ∧ result = .io
  | _ => False

/-- The flags of the transaction, the physical port and the claim. -/
structure PortInv (tx : TxTransaction) (port : TxPort) (claimActive : Bool) : Prop where
  noCallback : port.inCallback = false
  controlLease : port.controlInflight = true → port.controlPending = true
  oneLease : port.txInflight = true → port.controlInflight = false
  leaseOrQueue : port.txInflight = true → port.txQueued = false
  kindOwned : port.inFlightReliable = true → port.txInflight = true ∨ port.txQueued = true
  queuedSending : port.txQueued = true → port.inFlightReliable = true → tx.txState = .sending
  leasedState : port.txInflight = true → port.inFlightReliable = true →
    tx.txState = .sending ∨ tx.txState = .success ∨ tx.txState = .cancelled
  sendingOwned : tx.txState = .sending → port.inFlightReliable = true
  handleState : tx.txHandle = 0 ↔ tx.txState = .idle
  claimFree : claimActive = true → port.txInflight = false ∧ port.txQueued = false
  cancelState : tx.txCancelRequested = true ↔
    tx.txState = .cancelled ∧ port.txInflight = true ∧ port.inFlightReliable = true
  pendingState : tx.txPendingEvent = .none ∨
    EndedBy tx.txPendingEvent tx.txState tx.txResultCode
  capacity : port.txInflight = true ∨ port.txQueued = true → port.inFlightReliable = false →
    port.txUnreliableCompletions ≠ uint32Max
  drainAllowed : port.txDrainPending = true → port.txDrainRequired = true

/-- A span at the start of `tx_payload`, or the native payload position of `tx_unit`. -/
def RetainedAt (config : WlConfig) (span : TxSpan) : Prop :=
  span.region = .payload ∧ span.offset = 0 ∨
    span.region = .unit ∧ span.offset = 16 ∧ config.envelope = .nativePacket

/-- Where an active claim can lie. A span of `tx_payload` is only claimed while no transaction
retains its payload there. -/
structure ClaimAt (config : WlConfig) (handle : UInt32) (claim : TxClaim) (span : TxSpan) :
    Prop where
  length : span.length = config.maxPayloadLen
  payload : span.region = .payload → span.offset = 0 ∧ handle = 0
  unit : span.region = .unit → span.offset ≤ 16 ∧
    (config.envelope ≠ .nativePacket → span.offset = 0)
  reliable : claim.txClaimReliable = true → handle = 0 ∧ RetainedAt config span

/-- The TX memories: their sizes, the retained payload, the cached image and the claimed span. -/
structure MemInv (config : WlConfig) (handle : UInt32) (port : TxPort) (mem : TxMemory)
    (claim : TxClaim) : Prop where
  maxPayload : config.maxPayloadLen ≤ 2048
  payloadSize : config.maxPayloadLen ≤ mem.payloadStore.length
  unitSize : envelopeRoom config.envelope
    (16 + config.maxPayloadLen + wlProfileCrcSize config.integrity) ≤ mem.txUnit.length
  controlSize : envelopeRoom config.envelope (16 + wlProfileCrcSize config.integrity) ≤
    mem.controlUnit.length
  retainedFits : mem.txPayload.length ≤ config.maxPayloadLen
  retainedAt : RetainedAt config mem.txPayload
  imageKept : port.txInflight = true ∨ port.txQueued = true → port.inFlightReliable = true →
    mem.txEncodedLen ≠ 0
  claimNamed : claim.txClaimActive = true → claim.txClaimMessageId ≠ 0
  claimAt : claim.txClaimActive = true →
    ∃ span, claim.txClaimPayload = some span ∧ ClaimAt config handle claim span
  claimImage : claim.txClaimActive = true → handle ≠ 0 →
    mem.txEncodedLen = 0 ∧ mem.txPayload.region = .payload

/-- Consistency of a context. -/
structure Inv (ctx : WlCtx) : Prop where
  initialized : ctx.initialized = true
  session : ctx.sessionId = ctx.config.sessionId
  sessionSet : ctx.sessionId ≠ 0
  port : PortInv ctx.tx ctx.port ctx.claim.txClaimActive
  mem : MemInv ctx.config ctx.tx.txHandle ctx.port ctx.mem ctx.claim

namespace PortInv

variable {tx : TxTransaction} {port : TxPort} {claimActive : Bool}

variable (inv : PortInv tx port claimActive)

include inv

theorem handle_ne_zero (busy : tx.txState ≠ .idle) : tx.txHandle ≠ 0 :=
  fun zero => busy (inv.handleState.mp zero)

theorem no_pending
    (live : tx.txState = .waitingAck ∨ tx.txState = .sending ∨ tx.txState = .idle ∨
      tx.txState = .cancelled) : tx.txPendingEvent = .none := by
  rcases inv.pendingState with none | ended
  · exact none
  · revert ended
    unfold EndedBy
    split
    · rintro ⟨state, _⟩
      simp [state] at live
    · rintro ⟨state, _⟩
      simp [state] at live
    · rintro ⟨state, _⟩
      simp [state] at live
    · exact False.elim

theorem no_cancel (other : tx.txState ≠ .cancelled) : tx.txCancelRequested = false := by
  cases requested : tx.txCancelRequested with
  | false => rfl
  | true => exact absurd (inv.cancelState.mp requested).1 other

theorem no_control (free : port.controlPending = false) : port.controlInflight = false := by
  cases inflight : port.controlInflight with
  | false => rfl
  | true => exact absurd (inv.controlLease inflight) (by simp [free])

theorem no_claim (used : port.txInflight = true ∨ port.txQueued = true) : claimActive = false := by
  cases active : claimActive with
  | false => rfl
  | true =>
    obtain ⟨lease, queue⟩ := inv.claimFree active
    rcases used with inflight | queued
    · simp [lease] at inflight
    · simp [queue] at queued

theorem no_lease (queued : port.txQueued = true) : port.txInflight = false := by
  cases inflight : port.txInflight with
  | false => rfl
  | true => simp [inv.leaseOrQueue inflight] at queued

theorem no_data (control : port.controlInflight = true) : port.txInflight = false := by
  cases inflight : port.txInflight with
  | false => rfl
  | true => simp [inv.oneLease inflight] at control

theorem no_kind (lease : port.txInflight = false) (queue : port.txQueued = false) :
    port.inFlightReliable = false := by
  cases kind : port.inFlightReliable with
  | false => rfl
  | true =>
    rcases inv.kindOwned kind with inflight | queued
    · simp [lease] at inflight
    · simp [queue] at queued

/-- Without a reliable unit in flight or queued, the transaction is not sending. -/
theorem not_sending (kind : port.inFlightReliable = false) : tx.txState ≠ .sending := by
  intro sending
  simp [inv.sendingOwned sending] at kind

theorem not_requested (kind : port.inFlightReliable = false) : tx.txCancelRequested = false := by
  cases requested : tx.txCancelRequested with
  | false => rfl
  | true => simp [(inv.cancelState.mp requested).2.2] at kind

end PortInv

variable {ctx sent : WlCtx}

theorem Inv.live_handle (inv : Inv ctx)
    (live : ctx.tx.txState = .waitingAck ∨ ctx.tx.txState = .sending) : ctx.tx.txHandle ≠ 0 :=
  inv.port.handle_ne_zero (by rcases live with state | state <;> simp [state])

theorem Inv.live_pending (inv : Inv ctx)
    (live : ctx.tx.txState = .waitingAck ∨ ctx.tx.txState = .sending) :
    ctx.tx.txPendingEvent = .none :=
  inv.port.no_pending (live.imp_right .inl)

theorem Inv.live_uncancelled (inv : Inv ctx)
    (live : ctx.tx.txState = .waitingAck ∨ ctx.tx.txState = .sending) :
    ctx.tx.txCancelRequested = false :=
  inv.port.no_cancel (by rcases live with state | state <;> simp [state])

/-! ### Submissions

A submission starts from a context that is ready for it. If it fails, the context is ready again;
otherwise the line is idle or carries the unit, as the sink has answered. -/

/-- What has to hold before a reliable submission, and what is left when it fails. -/
structure Ready (ctx : WlCtx) : Prop where
  initialized : ctx.initialized = true
  session : ctx.sessionId = ctx.config.sessionId
  sessionSet : ctx.sessionId ≠ 0
  noCallback : ctx.port.inCallback = false
  controlLease : ctx.port.controlInflight = true → ctx.port.controlPending = true
  drain : ctx.port.txDrainPending = true → ctx.port.txDrainRequired = true
  handle : ctx.tx.txHandle ≠ 0
  event : ctx.tx.txPendingEvent = .none
  cancel : ctx.tx.txCancelRequested = false
  claim : ctx.claim.txClaimActive = false
  maxPayload : ctx.config.maxPayloadLen ≤ 2048
  payloadSize : ctx.config.maxPayloadLen ≤ ctx.mem.payloadStore.length
  unitSize : envelopeRoom ctx.config.envelope
    (16 + ctx.config.maxPayloadLen + wlProfileCrcSize ctx.config.integrity) ≤ ctx.mem.txUnit.length
  controlSize : envelopeRoom ctx.config.envelope (16 + wlProfileCrcSize ctx.config.integrity) ≤
    ctx.mem.controlUnit.length
  retainedFits : ctx.mem.txPayload.length ≤ ctx.config.maxPayloadLen
  retainedAt : RetainedAt ctx.config ctx.mem.txPayload

/-- The line carries no DATA unit. -/
structure LineIdle (port : TxPort) : Prop where
  lease : port.txInflight = false
  queue : port.txQueued = false
  kind : port.inFlightReliable = false

/-- A live transaction without a payload claim is ready for its next submission. -/
theorem Inv.ready (inv : Inv ctx) (live : ctx.tx.txState = .waitingAck ∨ ctx.tx.txState = .sending)
    (claim : ctx.claim.txClaimActive = false) : Ready ctx :=
  { inv, inv.port, inv.mem with
    drain := inv.port.drainAllowed
    handle := inv.live_handle live
    event := inv.live_pending live
    cancel := inv.live_uncancelled live
    claim := claim }

theorem portInv_idle {tx : TxTransaction} {port : TxPort} {claimActive : Bool}
    (idle : LineIdle port) (noCallback : port.inCallback = false)
    (controlLease : port.controlInflight = true → port.controlPending = true)
    (drain : port.txDrainPending = true → port.txDrainRequired = true)
    (handleState : tx.txHandle = 0 ↔ tx.txState = .idle) (settled : tx.txState ≠ .sending)
    (cancel : tx.txCancelRequested = false)
    (pending : tx.txPendingEvent = .none ∨ EndedBy tx.txPendingEvent tx.txState tx.txResultCode) :
    PortInv tx port claimActive where
  noCallback := noCallback
  controlLease := controlLease
  oneLease := by simp [idle.lease]
  leaseOrQueue := by simp [idle.lease]
  kindOwned := by simp [idle.kind]
  queuedSending := by simp [idle.queue]
  leasedState := by simp [idle.lease]
  sendingOwned := fun sending => absurd sending settled
  handleState := handleState
  claimFree := fun _ => ⟨idle.lease, idle.queue⟩
  cancelState := by simp [cancel, idle.lease]
  pendingState := pending
  capacity := by simp [idle.lease, idle.queue]
  drainAllowed := drain

theorem portInv_sending {tx : TxTransaction} {port : TxPort}
    (kind : port.inFlightReliable = true) (used : port.txInflight = !port.txQueued)
    (noCallback : port.inCallback = false) (control : port.controlInflight = false)
    (drain : port.txDrainPending = true → port.txDrainRequired = true)
    (handle : tx.txHandle ≠ 0) (sending : tx.txState = .sending)
    (cancel : tx.txCancelRequested = false) (pending : tx.txPendingEvent = .none) :
    PortInv tx port false where
  noCallback := noCallback
  controlLease := by simp [control]
  oneLease := fun _ => control
  leaseOrQueue := by
    intro inflight
    rw [inflight] at used
    simpa using used.symm
  kindOwned := by
    intro _
    cases queued : port.txQueued with
    | true => exact .inr rfl
    | false =>
      rw [queued] at used
      exact .inl used
  queuedSending := fun _ _ => sending
  leasedState := fun _ _ => .inl sending
  sendingOwned := fun _ => kind
  handleState := ⟨fun zero => absurd zero handle, fun none => by simp [sending] at none⟩
  claimFree := by simp
  cancelState := by simp [cancel, sending]
  pendingState := .inl pending
  capacity := by simp [kind]
  drainAllowed := drain

theorem Ready.memInv (ready : Ready ctx) (handle : UInt32) (port : TxPort)
    (imageKept : port.txInflight = true ∨ port.txQueued = true → port.inFlightReliable = true →
      ctx.mem.txEncodedLen ≠ 0) : MemInv ctx.config handle port ctx.mem ctx.claim :=
  { ready with
    imageKept := imageKept
    claimNamed := by simp [ready.claim]
    claimAt := by simp [ready.claim]
    claimImage := by simp [ready.claim] }

theorem Ready.inv_idle (ready : Ready ctx) (idle : LineIdle ctx.port)
    (waiting : ctx.tx.txState ≠ .idle) (settled : ctx.tx.txState ≠ .sending) : Inv ctx :=
  { ready with
    port :=
      portInv_idle idle ready.noCallback ready.controlLease ready.drain
        ⟨fun zero => absurd zero ready.handle, fun none => absurd none waiting⟩ settled
        ready.cancel (.inl ready.event)
    mem := ready.memInv ctx.tx.txHandle ctx.port (by simp [idle.kind]) }

theorem Ready.inv_sending (ready : Ready ctx) (control : ctx.port.controlInflight = false)
    (kind : ctx.port.inFlightReliable = true) (used : ctx.port.txInflight = !ctx.port.txQueued)
    (sending : ctx.tx.txState = .sending) (image : ctx.mem.txEncodedLen ≠ 0) : Inv ctx :=
  { ready with
    port := by
      rw [ready.claim]
      exact portInv_sending kind used ready.noCallback control ready.drain ready.handle sending
        ready.cancel ready.event
    mem := ready.memInv ctx.tx.txHandle ctx.port (fun _ _ => image) }

theorem Ready.withImage (ready : Ready ctx) {unit : Bytes}
    (size : unit.length = ctx.mem.txUnit.length) (length : Nat) :
    Ready (withImage ctx unit length) :=
  { ready with unitSize := Nat.le_trans ready.unitSize (Nat.le_of_eq size.symm) }

theorem Sent.ready {ok : Bool} (submission : Sent ctx sent ok) (ready : Ready ctx) :
    Ready sent := by
  cases submission with
  | noSink => exact ready
  | @answered unit length answer present imaged =>
    have image := ready.withImage imaged.size length
    cases answer with
    | sent | started | busy | failed => exact { image with noCallback := rfl }

theorem Sent.idle (submission : Sent ctx sent false) (idle : LineIdle ctx.port) :
    LineIdle sent.port := by
  generalize failed : false = ok at submission
  cases submission with
  | noSink => exact idle
  | @answered unit length answer =>
    cases answer with
    | sent | started | busy => simp at failed
    | failed => exact ⟨rfl, rfl, rfl⟩

theorem Sent.lease (submission : Sent ctx sent false) (lease : ctx.port.txInflight = false) :
    sent.port.txInflight = false := by
  generalize failed : false = ok at submission
  cases submission with
  | noSink => exact lease
  | @answered unit length answer =>
    cases answer with
    | sent | started | busy => simp at failed
    | failed => rfl

theorem Sent.inv (submission : Sent ctx sent true) (ready : Ready ctx)
    (control : ctx.port.controlInflight = false) :
    Inv sent ∧ (sent.tx.txState = .waitingAck ∨ sent.tx.txState = .sending) := by
  have after := submission.ready ready
  generalize through : true = ok at submission
  cases submission with
  | noSink => simp at through
  | @answered unit length answer present imaged =>
    cases answer with
    | sent =>
      exact ⟨after.inv_idle ⟨rfl, rfl, rfl⟩ (by simp [dataAnswer]) (by simp [dataAnswer]),
        .inl rfl⟩
    | started | busy => exact ⟨after.inv_sending control rfl rfl rfl imaged.nonempty, .inr rfl⟩
    | failed => simp at through

end Wirelink
