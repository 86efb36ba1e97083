/-
Module: Wirelink.Proofs.Lease
Purpose: The memory of a unit that the sink keeps, or that waits in the queue, is left alone in
  every run, and no payload claim is granted meanwhile.
Trusted boundary: none
-/
import Wirelink.Proofs.Reach
import Wirelink.Spec.Line

namespace Wirelink

variable {ctx sent after : WlCtx} {tx : TxTransaction} {port : TxPort} {mem : TxMemory}
  {trace : List Obs}

/-! ### What is lent and what is queued

Flags and memories tell which bytes are lent. The trace tells which of the queued units the sink has
refused. -/

/-- The DATA image of the given kind. -/
def dataImage (mem : TxMemory) (reliable : Bool) : Bytes :=
  mem.txUnit.take (if reliable then mem.txEncodedLen else mem.txUnreliableLen)

/-- The unit that is lent out, as the flags and the memories show it. -/
def portLease (port : TxPort) (mem : TxMemory) : Option (UInt32 × UnitKind × Bytes) :=
  if port.controlInflight then
    some (port.txToken, .control, mem.controlUnit.take port.controlLen)
  else if port.txInflight then
    some (port.txToken, dataKind port.inFlightReliable, dataImage mem port.inFlightReliable)
  else none

/-- The lent unit is still in its memory, and so is a queued one. A retry that was queued behind an
ACK has not been refused by the sink, so not every queued unit is seen in the trace. -/
structure LeaseInv (port : TxPort) (mem : TxMemory) (trace : List Obs) : Prop where
  lent : leasedBytes trace = portLease port mem
  queued : ∀ kind bytes, queuedBytes trace = some (kind, bytes) →
    port.txQueued = true ∧ kind = dataKind port.inFlightReliable ∧
      bytes = dataImage mem port.inFlightReliable

/-- The leases of a context. -/
abbrev LeaseKept (ctx : WlCtx) : Prop :=
  LeaseInv ctx.port ctx.mem ctx.trace

/-- Observations that neither lend nor return a unit and leave the queue alone. -/
def Obs.keepsUnits : Obs → Bool
  | .sinkCall _ _ _ _ | .consumed _ _ | .resubmitted _ | .acked _ | .cancelled _ => false
  | _ => true

variable {obs : Obs}

theorem leasedBytes_silent (keeps : obs.keepsUnits = true) (trace : List Obs) :
    leasedBytes (obs :: trace) = leasedBytes trace ∧
      queuedBytes (obs :: trace) = queuedBytes trace := by
  cases obs <;> first | exact ⟨rfl, rfl⟩ | simp [Obs.keepsUnits] at keeps

theorem LeaseInv.silent (held : LeaseInv port mem trace) (keeps : obs.keepsUnits = true) :
    LeaseInv port mem (obs :: trace) := by
  obtain ⟨lent, queued⟩ := leasedBytes_silent keeps trace
  refine ⟨lent.trans held.lent, ?_⟩
  rw [queued]
  exact held.queued

theorem LeaseInv.congr (held : LeaseInv port mem trace) {other : TxPort} {otherMem : TxMemory}
    (lent : portLease other otherMem = portLease port mem)
    (queued : port.txQueued = true → other.txQueued = true ∧
      other.inFlightReliable = port.inFlightReliable ∧
      dataImage otherMem port.inFlightReliable = dataImage mem port.inFlightReliable) :
    LeaseInv other otherMem trace := by
  refine ⟨held.lent.trans lent.symm, ?_⟩
  intro kind bytes waiting
  obtain ⟨queue, named, image⟩ := held.queued kind bytes waiting
  obtain ⟨still, same, kept⟩ := queued queue
  rw [same, kept]
  exact ⟨still, named, image⟩

theorem LeaseInv.no_queue (held : LeaseInv port mem trace) (free : port.txQueued = false) :
    queuedBytes trace = none := by
  cases waiting : queuedBytes trace with
  | none => rfl
  | some unit =>
    have queue := (held.queued unit.1 unit.2 waiting).1
    rw [free] at queue
    cases queue

/-- Nothing is lent out and nothing the sink refused is waiting. -/
structure UnitsFree (port : TxPort) (trace : List Obs) : Prop where
  lent : leasedBytes trace = none
  queued : queuedBytes trace = none
  lease : port.txInflight = false
  control : port.controlInflight = false

theorem UnitsFree.leaseInv (free : UnitsFree port trace) : LeaseInv port mem trace := by
  refine ⟨?_, ?_⟩
  · rw [free.lent]
    simp [portLease, free.lease, free.control]
  · intro kind bytes waiting
    rw [free.queued] at waiting
    cases waiting

theorem UnitsFree.silent (free : UnitsFree port trace) (keeps : obs.keepsUnits = true) :
    UnitsFree port (obs :: trace) := by
  obtain ⟨lent, queued⟩ := leasedBytes_silent keeps trace
  exact ⟨lent.trans free.lent, queued.trans free.queued, free.lease, free.control⟩

theorem LeaseInv.unitsFree (held : LeaseInv port mem trace) (lease : port.txInflight = false)
    (control : port.controlInflight = false) (queue : port.txQueued = false) :
    UnitsFree port trace := by
  refine ⟨?_, held.no_queue queue, lease, control⟩
  rw [held.lent]
  simp [portLease, lease, control]

theorem LeaseInv.resubmitted (held : LeaseInv port mem trace) (lease : port.txInflight = false)
    (control : port.controlInflight = false) (reliable : Bool) :
    UnitsFree port (.resubmitted reliable :: trace) := by
  refine ⟨?_, rfl, lease, control⟩
  change leasedBytes trace = none
  rw [held.lent]
  simp [portLease, lease, control]

/-! ### Submissions

A unit is lent or queued with the bytes that were encoded for it, on a line that was free. -/

section

variable (free : UnitsFree port trace) {other : TxPort} {reliable : Bool}
  (kind : other.inFlightReliable = reliable) (control : other.controlInflight = false)

include free kind control

theorem UnitsFree.started (flight : other.txInflight = true) :
    LeaseInv other mem
      (.sinkCall other.txToken (dataKind reliable) (dataImage mem reliable) .started :: trace) := by
  refine ⟨by simp [leasedBytes, portLease, flight, kind, control], fun _ _ waiting => ?_⟩
  have none : queuedBytes (.sinkCall other.txToken (dataKind reliable) (dataImage mem reliable)
      .started :: trace) = none := by
    cases reliable <;> exact free.queued
  exact nomatch none.symm.trans waiting

theorem UnitsFree.busy (flight : other.txInflight = false) (queue : other.txQueued = true) :
    LeaseInv other mem
      (.sinkCall other.txToken (dataKind reliable) (dataImage mem reliable) .busy :: trace) := by
  refine ⟨?_, fun named bytes waiting => ?_⟩
  · refine (show leasedBytes _ = leasedBytes trace from rfl).trans (free.lent.trans ?_)
    simp [portLease, flight, control]
  · rw [kind]
    cases reliable <;> cases waiting <;> exact ⟨queue, rfl, rfl⟩

end

theorem Sent.leaseInv {ok : Bool} (submission : Sent ctx sent ok)
    (free : UnitsFree ctx.port ctx.trace) :
    LeaseKept sent ∧ (ok = false → UnitsFree sent.port sent.trace) := by
  cases submission with
  | noSink => exact ⟨free.leaseInv, fun _ => free⟩
  | answered answer =>
    cases answer with
    | started => exact ⟨free.started rfl free.control rfl, nofun⟩
    | busy => exact ⟨free.busy rfl free.control rfl rfl, nofun⟩
    | sent | failed =>
      exact ⟨UnitsFree.leaseInv { free with lease := rfl },
        fun _ => { free with lease := rfl }⟩

theorem SentPlain.leaseInv {ok : Bool} (submission : SentPlain ctx sent ok)
    (free : UnitsFree ctx.port ctx.trace) :
    LeaseKept sent ∧ (ok = false → UnitsFree sent.port sent.trace) := by
  cases submission with
  | noSink => exact ⟨free.leaseInv, fun _ => free⟩
  | answered answer =>
    cases answer with
    | started => exact ⟨free.started rfl free.control rfl, nofun⟩
    | busy => exact ⟨free.busy rfl free.control rfl rfl, nofun⟩
    | sent | failed =>
      exact ⟨UnitsFree.leaseInv { free with lease := rfl },
        fun _ => { free with lease := rfl }⟩

/-- An ACK is only placed in a control slot that is not lent out. -/
theorem AckStep.leaseInv {sessionId : UInt64} {sequence : UInt32}
    (ack : AckStep sessionId sequence ctx after)
    (held : LeaseKept ctx)
    (slot : ctx.port.controlPending = false → ctx.port.controlInflight = false) :
    LeaseKept after := by
  cases ack with
  | dropped => exact held
  | placed present free =>
    refine (held.silent rfl).congr ?_ (fun queue => ⟨queue, rfl, rfl⟩)
    simp [portLease, dataImage, WlCtx.note, slot free]

theorem LeaseInv.pushTx {type : WlEventType} (held : LeaseKept ctx)
    (transmit : type.isRx = false) :
    LeaseKept (wlPushTxEvent ctx type) := by
  rw [wlPushTxEvent_eq ctx transmit]
  cases eventDeferred ctx with
  | true => exact held
  | false => exact held.silent rfl

theorem LeaseInv.returned (held : LeaseKept ctx) (inv : Inv ctx)
    (inflight : ctx.port.txInflight = true) (ioResult : WlErr) :
    UnitsFree (leaseReturned ctx ctx.port.txToken ioResult).port
      (leaseReturned ctx ctx.port.txToken ioResult).trace := by
  have control := inv.port.oneLease inflight
  refine ⟨?_, held.no_queue (inv.port.leaseOrQueue inflight), rfl, control⟩
  change (leasedBytes ctx.trace).filter (fun unit => unit.1 != ctx.port.txToken) = none
  rw [held.lent]
  simp [portLease, control, inflight]

theorem LeaseInv.dropped (held : LeaseInv port mem trace)
    (lease : port.txQueued = true → port.txInflight = false)
    (ends : (∃ handle, obs = .acked handle) ∨ ∃ handle, obs = .cancelled handle) :
    LeaseInv (queueDropped port) mem (obs :: trace) := by
  have lent : leasedBytes (obs :: trace) = leasedBytes trace := by
    rcases ends with ⟨_, rfl⟩ | ⟨_, rfl⟩ <;> rfl
  have rest : queuedBytes (obs :: trace) =
      (queuedBytes trace).filter (fun unit => unit.1 != .reliable) := by
    rcases ends with ⟨_, rfl⟩ | ⟨_, rfl⟩ <;> rfl
  refine ⟨?_, fun named bytes waiting => ?_⟩
  · rw [lent, held.lent]
    cases queue : port.txQueued with
    | false => simp [portLease, queueDropped, queue]
    | true => simp [portLease, queueDropped, lease queue]
  · rw [rest, Option.filter_eq_some_iff] at waiting
    obtain ⟨queue, same, image⟩ := held.queued named bytes waiting.1
    cases kind : port.inFlightReliable with
    | true => simp [same, kind, dataKind] at waiting
    | false =>
      exact ⟨by simp [queueDropped, queue, kind], by simpa [queueDropped, kind] using same,
        by simpa [queueDropped, kind] using image⟩

/-! ### Moves

No move writes the unit while it is lent or queued; most of them touch neither. -/

theorem Move.leaseInv {label : Option WireFrame} (move : Move label ctx after) (inv : Inv ctx)
    (held : LeaseKept ctx) :
    LeaseKept after := by
  cases move with
  | rx move =>
    cases move with
    | quiet => exact held.congr rfl (fun queue => ⟨queue, rfl, rfl⟩)
    | control answer pending idle lease =>
      have none : leasedBytes ctx.trace = none := by
        rw [held.lent]
        simp [portLease, lease, idle]
      cases answer with
      | started =>
        exact ⟨by simp [leasedBytes, portLease, controlAnswer, sinkCalled, WlCtx.note],
          held.queued⟩
      | sent | busy | failed =>
        refine ⟨?_, held.queued⟩
        refine (show leasedBytes _ = leasedBytes ctx.trace from rfl).trans (none.trans ?_)
        simp [portLease, controlAnswer, sinkCalled, WlCtx.note, lease, idle]
    | receive => exact held
    | accept view rx event lease free type fresh ack | duplicate view known ack =>
      exact ack.leaseInv (held.silent rfl) inv.port.no_control
    | acked =>
      exact LeaseInv.pushTx (held.dropped inv.port.no_lease (.inl ⟨ctx.tx.txHandle, rfl⟩)) rfl
  | publish | deliver => exact held.silent rfl
  | complete | drained | drainedOk | drainRequired =>
    exact (held.silent rfl).congr rfl (fun queue => ⟨queue, rfl, rfl⟩)
  | resubmitReliable sent ok pending claim queue lease drain kind submission =>
    have control := inv.port.no_control pending
    obtain ⟨kept, free⟩ := submission.leaseInv (held.resubmitted lease control true)
    cases ok with
    | true => exact kept
    | false =>
      have idle := free rfl
      have dropped : UnitsFree (unqueued sent).port (unqueued sent).trace :=
        { idle with }
      exact LeaseInv.pushTx dropped.leaseInv rfl
  | resubmitUnreliable sent ok pending claim queue lease drain kind submission =>
    have control := inv.port.no_control pending
    obtain ⟨kept, free⟩ := submission.leaseInv (held.resubmitted lease control false)
    cases ok with
    | true => exact kept
    | false =>
      have idle := free rfl
      exact UnitsFree.leaseInv { idle with }
  | timeoutFail => exact LeaseInv.pushTx held rfl
  | timeoutRetry sent ok nowMs pending lease queue claim state left submission =>
    have control := inv.port.no_control pending
    obtain ⟨kept, free⟩ := submission.leaseInv ((held.unitsFree lease control queue).silent rfl)
    cases ok with
    | true => exact kept
    | false => exact LeaseInv.pushTx kept rfl
  | consumedControl ioResult inflight =>
    have lease := inv.port.no_data inflight
    refine ⟨?_, held.queued⟩
    change (leasedBytes ctx.trace).filter (fun unit => unit.1 != ctx.port.txToken) = _
    rw [held.lent]
    simp [portLease, inflight, consumedHead, WlCtx.note, lease]
  | consumedUnreliable ioResult inflight | consumedDeferred ioResult _ inflight =>
    exact UnitsFree.leaseInv { held.returned inv inflight ioResult with }
  | consumedCancelled ioResult inflight | consumedSettled ioResult inflight =>
    exact (held.returned inv inflight ioResult).leaseInv
  | consumedOk inflight => exact (held.returned inv inflight .ok).leaseInv
  | consumedRetry sent ok ioResult failed inflight kind sending left pending submission =>
    obtain ⟨kept, _⟩ := submission.leaseInv (held.returned inv inflight ioResult)
    cases ok with
    | true => exact kept
    | false => exact LeaseInv.pushTx kept rfl
  | consumedFail ioResult failed inflight =>
    exact LeaseInv.pushTx (held.returned inv inflight ioResult).leaseInv rfl
  | drainedFail =>
    exact LeaseInv.pushTx ((held.silent rfl).congr rfl (fun queue => ⟨queue, rfl, rfl⟩)) rfl
  | openReliable sent ok messageId payload nowMs free idle placed fits named room submission =>
    obtain ⟨kept, refused⟩ := submission.leaseInv
      ((held.unitsFree free.lease free.control free.queue).silent rfl)
    cases ok with
    | true => exact kept
    | false => exact ((refused rfl).silent rfl).leaseInv
  | sendUnreliable sent ok messageId data unit free named size encoded submission =>
    exact (submission.leaseInv (held.unitsFree free.lease free.control free.queue)).1
  | spendSequence | spend => exact held
  | claim messageId delivery free =>
    exact (held.unitsFree free.lease free.control free.queue).leaseInv
  | store offset data active =>
    -- The holder of a claim cannot reach a unit that is lent out or queued.
    obtain ⟨lease, queue⟩ := inv.port.claimFree active
    refine held.congr ?_ (fun queued => absurd (queue.symm.trans queued) (by decide))
    simp [portLease, lease, claimWrite_control]
  | cancel => exact held.dropped inv.port.no_lease (.inr ⟨ctx.tx.txHandle, rfl⟩)
  | take ended returned =>
    -- The image that is given up is neither lent out nor queued.
    refine (held.silent rfl).congr ?_ ?_
    · cases lease : ctx.port.txInflight with
      | false => simp [portLease, retireTransaction, WlCtx.note, lease]
      | true =>
        have kind : ctx.port.inFlightReliable = false := by
          cases reliable : ctx.port.inFlightReliable with
          | false => rfl
          | true => exact absurd ⟨lease, reliable⟩ returned
        simp [portLease, dataImage, retireTransaction, WlCtx.note, kind]
    · intro queue
      have kind : ctx.port.inFlightReliable = false := by
        cases reliable : ctx.port.inFlightReliable with
        | false => rfl
        | true =>
          have sending := inv.port.queuedSending queue reliable
          simp [sending, WlTxState.terminal] at ended
      exact ⟨queue, rfl, by simp [dataImage, retireTransaction, WlCtx.note, kind]⟩

/-! ### Runs -/

theorem Reachable.lease (reachable : Reachable ctx) : LeaseKept ctx :=
  reachable.induct (fun reached => LeaseKept reached)
    (fun _ _ _ _ => ⟨rfl, nofun⟩) (fun _ held => held)
    (fun inv held move => move.leaseInv inv held)

theorem wlTxPayloadClaim_refused (busy : ∀ reliable, wlDataBusy ctx reliable = true)
    (messageId : UInt16) (delivery : WlDelivery) :
    ∃ err, wlTxPayloadClaim ctx messageId delivery = (ctx, .error err) := by
  unfold wlTxPayloadClaim
  split
  · exact ⟨_, rfl⟩
  split
  · exact ⟨_, rfl⟩
  rw [if_pos (by rw [busy, Bool.or_true])]
  exact ⟨_, rfl⟩

theorem portLease_flags {unit : UInt32 × UnitKind × Bytes} (lent : portLease port mem = some unit) :
    port.controlInflight = true ∧ unit.2.1 = .control ∨
      port.txInflight = true ∧ unit.2.1 ≠ .control := by
  unfold portLease at lent
  split at lent
  · rename_i control
    cases lent
    exact .inl ⟨control, rfl⟩
  split at lent
  · rename_i lease
    cases lent
    refine .inr ⟨lease, ?_⟩
    cases port.inFlightReliable <;> simp [dataKind]
  · cases lent

theorem portLease_memory {token : UInt32} {kind : UnitKind} {bytes : Bytes}
    (lent : portLease port mem = some (token, kind, bytes)) :
    ∃ length, bytes = (unitMemory mem kind).take length := by
  unfold portLease at lent
  split at lent
  · cases lent
    exact ⟨_, rfl⟩
  split at lent
  · cases lent
    cases port.inFlightReliable <;> exact ⟨_, rfl⟩
  · cases lent

theorem take_length_take (store : Bytes) (length : Nat) :
    store.take (store.take length).length = store.take length := by
  rw [List.length_take, ← List.take_eq_take_min]

/-- Immutability of lent and queued units. In every run, as long as a unit answered `STARTED` has
not been consumed, the memory it was handed out from holds its bytes, no payload claim is granted,
and none is active beside a DATA unit. The same holds for a DATA unit answered `BUSY` until it is
submitted again or, if it is reliable, dropped by its ACK or cancel. -/
theorem leased_memory_unchanged (reachable : Reachable ctx) :
    (∀ token kind bytes, leasedBytes ctx.trace = some (token, kind, bytes) →
      (unitMemory ctx.mem kind).take bytes.length = bytes ∧
        (kind ≠ .control → ctx.claim.txClaimActive = false) ∧
        ∀ messageId delivery, ∃ err,
          wlTxPayloadClaim ctx messageId delivery = (ctx, .error err)) ∧
      ∀ kind bytes, queuedBytes ctx.trace = some (kind, bytes) →
        ctx.mem.txUnit.take bytes.length = bytes ∧ ctx.claim.txClaimActive = false ∧
          ∀ messageId delivery, ∃ err,
            wlTxPayloadClaim ctx messageId delivery = (ctx, .error err) := by
  have inv := reachable.inv
  have held := reachable.lease
  constructor
  · intro token kind bytes lent
    rw [held.lent] at lent
    obtain ⟨_, front⟩ := portLease_memory lent
    refine ⟨?_, ?_, ?_⟩
    · rw [front]
      exact take_length_take _ _
    · intro data
      rcases portLease_flags lent with ⟨_, control⟩ | ⟨lease, _⟩
      · exact absurd control data
      · exact inv.port.no_claim (.inl lease)
    · apply wlTxPayloadClaim_refused
      intro reliable
      rcases portLease_flags lent with ⟨control, _⟩ | ⟨lease, _⟩
      · simp [wlDataBusy, control]
      · simp [wlDataBusy, lease]
  · intro kind bytes waiting
    obtain ⟨queue, _, image⟩ := held.queued kind bytes waiting
    refine ⟨?_, inv.port.no_claim (.inr queue), ?_⟩
    · rw [image]
      exact take_length_take _ _
    · apply wlTxPayloadClaim_refused
      intro reliable
      simp [wlDataBusy, queue]

/-- A reliable unit that is lent out after it was first refused, with time passing meanwhile. -/
theorem leased_memory_small_run :
    ((run (smallStart [.busy]) [.setSink true, .sendReliable 5 (.bytes [1]) 0, .poll 20]).mem.txUnit.take
        17 = [0xA5, 0, 0, 5, 0, 0, 0, 0, 0, 0, 0, 7, 0, 0, 0, 0, 1]) ∧
      ((run (smallStart [.busy, .started])
        [.setSink true, .sendReliable 5 (.bytes [1]) 0, .writable, .poll 1, .poll 20]).mem.txUnit.take
        17 = [0xA5, 0, 0, 5, 0, 0, 0, 0, 0, 0, 0, 7, 0, 0, 0, 0, 1]) :=
  ⟨((leased_memory_unchanged (small_reachable _ _)).2 .reliable
      [0xA5, 0, 0, 5, 0, 0, 0, 0, 0, 0, 0, 7, 0, 0, 0, 0, 1] (by decide +kernel)).1,
    ((leased_memory_unchanged (small_reachable _ _)).1 3 .reliable
      [0xA5, 0, 0, 5, 0, 0, 0, 0, 0, 0, 0, 7, 0, 0, 0, 0, 1] (by decide +kernel)).1⟩

/-- In every reachable context a claimed span has room for the largest payload and lies inside its
memory. No DATA unit is leased or queued meanwhile, and the payload of a live transaction is in the
other memory. -/
theorem claimed_span_exclusive (reachable : Reachable ctx)
    (active : ctx.claim.txClaimActive = true) :
    ∃ span, ctx.claim.txClaimPayload = some span ∧ span.length = ctx.config.maxPayloadLen ∧
      (span.region = .payload → span.offset + span.length ≤ ctx.mem.payloadStore.length) ∧
      (span.region = .unit → span.offset + span.length ≤ ctx.mem.txUnit.length) ∧
      ctx.port.txInflight = false ∧ ctx.port.txQueued = false ∧
      (ctx.tx.txHandle ≠ 0 → ctx.mem.txPayload.region ≠ span.region) := by
  have inv := reachable.inv
  obtain ⟨span, claimed, at_⟩ := inv.mem.claimAt active
  obtain ⟨leased, queued⟩ := inv.port.claimFree active
  refine ⟨span, claimed, at_.length, fun region => ?_, fun region => ?_, leased, queued,
    fun live same => ?_⟩
  · rw [(at_.payload region).1, at_.length, Nat.zero_add]
    exact inv.mem.payloadSize
  · have within := (at_.unit region).1
    have size := inv.mem.unitSize
    unfold envelopeRoom at size
    rw [at_.length]
    cases envelope : ctx.config.envelope with
    | cobsStream | busLength16 | nativePacket =>
      rw [envelope] at size
      dsimp only at size
      omega
  · rw [(inv.mem.claimImage active live).2] at same
    exact live (at_.payload same.symm).2

/-- A claim beside a transaction that waits for its acknowledgement: the payload of the transaction
keeps its memory, so the claim is in the unit. -/
theorem small_claim_exclusive :
    ∃ span, (run (smallStart [.sent]) [.setSink true, .sendReliable 5 (.bytes [1]) 0,
        .payloadClaim 1 .unreliable]).claim.txClaimPayload = some span ∧
      span.length = 1 ∧ span.region = .unit ∧ span.offset + span.length ≤ 17 := by
  obtain ⟨span, claimed, length, _, within, _, _, apart⟩ := claimed_span_exclusive
    (small_reachable [.sent] [.setSink true, .sendReliable 5 (.bytes [1]) 0,
      .payloadClaim 1 .unreliable]) (by decide +kernel)
  have unit : span.region = .unit := by
    cases region : span.region with
    | unit => rfl
    | payload => exact absurd (by decide +kernel) (region ▸ apart (by decide +kernel))
  exact ⟨span, claimed, length.trans (by decide +kernel), unit,
    (within unit).trans (by decide +kernel)⟩

end Wirelink
