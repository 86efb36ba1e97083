/-
Module: Wirelink.Proofs.Events
Purpose: Terminal accounting: in every run each reliable transaction is reported at most once, no
  report is lost to the one event slot, and polling until there is no data delivers it.
Trusted boundary: none
-/
import Wirelink.Proofs.Reach
import Wirelink.Spec.Events

namespace Wirelink

variable {ctx sent after : WlCtx} {tx : TxTransaction} {port : TxPort} {slot : EventSlot}
  {trace : List Obs} {handle : UInt32}

/-! ### Observations

Most observations change no account of the events. -/

/-- Observations that no event account looks at. -/
def Obs.uncounted : Obs → Bool
  | .sinkCall _ _ _ _ | .consumed _ _ | .posted _ _ | .polled _ _ | .opened _ _
  | .cancelled _ => false
  | _ => true

/-- Two traces agree on the transaction opened last and on its reports. -/
structure SameReports (trace later : List Obs) : Prop where
  terminal : terminalEvents later = terminalEvents trace
  cancelled : cancelledSince later = cancelledSince trace
  opened : openedLast later = openedLast trace

/-- They agree on all events. -/
structure SameAccounts (trace later : List Obs) : Prop extends SameReports trace later where
  posted : postedEvents later = postedEvents trace
  polled : polledEvents later = polledEvents trace

variable {obs : Obs} {later : List Obs} {other : TxPort} {otherSlot : EventSlot}
  {type : WlEventType} {ok : Bool} {label : Option WireFrame}

theorem sameAccounts_uncounted (uncounted : obs.uncounted = true) (trace : List Obs) :
    SameAccounts trace (obs :: trace) ∧
      reliableLeased (obs :: trace) = reliableLeased trace := by
  cases obs <;> first
    | exact ⟨⟨⟨rfl, rfl, rfl⟩, rfl, rfl⟩, rfl⟩
    | simp [Obs.uncounted] at uncounted

theorem sameAccounts_call (token : UInt32) (kind : UnitKind) (bytes : Bytes)
    (answer : WlSinkResult) (trace : List Obs) :
    SameAccounts trace (.sinkCall token kind bytes answer :: trace) :=
  ⟨⟨rfl, rfl, rfl⟩, rfl, rfl⟩

theorem sameAccounts_consumed (token : UInt32) (ok : Bool) (trace : List Obs) :
    SameAccounts trace (.consumed token ok :: trace) :=
  ⟨⟨rfl, rfl, rfl⟩, rfl, rfl⟩

theorem reliableLeased_call (token : UInt32) (kind : UnitKind) (bytes : Bytes)
    (answer : WlSinkResult) (trace : List Obs) :
    reliableLeased (.sinkCall token kind bytes answer :: trace) =
      if answer = .started then kind == .reliable else reliableLeased trace := by
  cases answer <;> rfl

theorem AccountedAt.congr (accounted : AccountedAt trace) (same : SameReports trace later)
    (leased : terminalEvents trace ≠ [] → reliableLeased later = false) : AccountedAt later where
  one := by rw [same.terminal]; exact accounted.one
  own := by rw [same.terminal, same.opened]; exact accounted.own
  uncancelled := by rw [same.terminal, same.cancelled]; exact accounted.uncancelled
  returned := by rw [same.terminal]; exact leased

/-! ### The accounts of a context

The ledger is about the slot and the line, whatever the transaction does. Of a live transaction
nothing was reported; the report of one that ended is posted or deferred. -/

/-- What holds of the slot and the line whatever the transaction does. -/
structure Ledger (port : TxPort) (slot : EventSlot) (trace : List Obs) : Prop where
  fifo : postedEvents trace = slotEvents slot ++ polledEvents trace
  moments : Accounted trace
  leased : reliableLeased trace = (port.txInflight && port.inFlightReliable)

/-- The transaction under `handle` is open and has not been reported. -/
structure Unreported (handle : UInt32) (trace : List Obs) : Prop where
  none : terminalEvents trace = []
  uncancelled : cancelledSince trace = false
  owned : (openedLast trace).map Prod.fst = some handle

/-- The report of a transaction that has ended is either still to be posted, or was posted. -/
def Reported (tx : TxTransaction) (trace : List Obs) : Prop :=
  tx.txPendingEvent ≠ .none ∧ Unreported tx.txHandle trace ∨
    tx.txPendingEvent = .none ∧ ∃ type, EndedBy type tx.txState tx.txResultCode ∧
      terminalEvents trace = [(type, tx.txHandle)]

/-- The accounts by the state of the transaction. -/
structure EventInv (tx : TxTransaction) (port : TxPort) (slot : EventSlot) (trace : List Obs) :
    Prop where
  ledger : Ledger port slot trace
  live : tx.Live → Unreported tx.txHandle trace
  ended : tx.txState = .success ∨ tx.txState = .failed → Reported tx trace
  cancelled : tx.txState = .cancelled → terminalEvents trace = []

/-- The events of a context. -/
abbrev EventsKept (ctx : WlCtx) : Prop :=
  EventInv ctx.tx ctx.port ctx.slot ctx.trace

theorem Unreported.congr (open_ : Unreported handle trace) (same : SameReports trace later) :
    Unreported handle later where
  none := same.terminal.trans open_.none
  uncancelled := same.cancelled.trans open_.uncancelled
  owned := by rw [same.opened]; exact open_.owned

theorem Reported.congr (reported : Reported tx trace) (same : SameReports trace later) :
    Reported tx later := by
  rcases reported with ⟨pending, open_⟩ | ⟨posted, type, ended, events⟩
  · exact .inl ⟨pending, open_.congr same⟩
  · exact .inr ⟨posted, type, ended, same.terminal.trans events⟩

namespace Ledger

variable (ledger : Ledger port slot trace)

include ledger

/-- An observation that changes no account. The lease is what the flags say afterwards, and no unit
of a reported transaction is lent out. -/
theorem add (same : SameAccounts trace (obs :: trace))
    (leased : reliableLeased (obs :: trace) = (other.txInflight && other.inFlightReliable))
    (safe : terminalEvents trace ≠ [] → (other.txInflight && other.inFlightReliable) = false) :
    Ledger other slot (obs :: trace) where
  fifo := by rw [same.posted, same.polled]; exact ledger.fifo
  moments := ⟨ledger.moments.now.congr same.toSameReports (fun events => leased.trans (safe events)),
    ledger.moments⟩
  leased := leased

theorem silent (uncounted : obs.uncounted = true) : Ledger port slot (obs :: trace) := by
  obtain ⟨same, leased⟩ := sameAccounts_uncounted uncounted trace
  refine ledger.add same (leased.trans ledger.leased) (fun events => ?_)
  rw [← ledger.leased]
  exact ledger.moments.now.returned events

theorem congr
    (leased : (other.txInflight && other.inFlightReliable) =
      (port.txInflight && port.inFlightReliable)) (events : slotEvents otherSlot = slotEvents slot) :
    Ledger other otherSlot trace where
  fifo := by rw [events]; exact ledger.fifo
  moments := ledger.moments
  leased := ledger.leased.trans leased.symm

theorem call (token : UInt32) (kind : UnitKind)
    (bytes : Bytes) (answer : WlSinkResult) {other : TxPort} (lease : port.txInflight = false)
    (after : (other.txInflight && other.inFlightReliable) =
      (answer == .started && kind == .reliable))
    (safe : kind = .reliable → terminalEvents trace = []) :
    Ledger other slot (.sinkCall token kind bytes answer :: trace) := by
  have before : reliableLeased trace = false := by rw [ledger.leased, lease, Bool.false_and]
  refine ledger.add (sameAccounts_call _ _ _ _ _) ?_ (fun events => ?_)
  · rw [reliableLeased_call, after]
    cases answer <;> simp [before]
  · rw [after]
    cases kind with
    | reliable => exact absurd (safe rfl) events
    | unreliable | control => simp

theorem consumed (token : UInt32) (ok : Bool)
    (returned : (other.txInflight && other.inFlightReliable) = false) :
    Ledger other slot (.consumed token ok :: trace) :=
  ledger.add (sameAccounts_consumed _ _ _) (by rw [returned]; rfl) (fun _ => returned)

end Ledger

namespace EventInv

variable (events : EventInv tx port slot trace)

include events

theorem congr {other : TxTransaction}
    {otherPort : TxPort} (ledger : Ledger otherPort otherSlot later)
    (same : SameReports trace later) (live : other.Live → tx.Live)
    (state : other.Live ∨ other.txState = tx.txState ∧
      other.txPendingEvent = tx.txPendingEvent ∧ other.txResultCode = tx.txResultCode)
    (handle : other.txHandle = tx.txHandle) : EventInv other otherPort otherSlot later := by
  refine ⟨ledger, fun now => ?_, fun now => ?_, fun now => ?_⟩
  · rw [handle]
    exact (events.live (live now)).congr same
  · rcases state with alive | ⟨state, pending, code⟩
    · rcases alive with alive | alive <;> rcases now with now | now <;> simp [now] at alive
    · rw [state] at now
      have reported := (events.ended now).congr same
      simp only [Reported, state, pending, code, handle] at reported ⊢
      exact reported
  · rcases state with alive | ⟨state, _⟩
    · rcases alive with alive | alive <;> simp [now] at alive
    · rw [state] at now
      exact same.terminal.trans (events.cancelled now)

theorem kept {otherPort : TxPort} (ledger : Ledger otherPort otherSlot later)
    (same : SameReports trace later) : EventInv tx otherPort otherSlot later :=
  events.congr ledger same id (.inr ⟨rfl, rfl, rfl⟩) rfl

theorem silent (uncounted : obs.uncounted = true) : EventInv tx port slot (obs :: trace) :=
  events.kept (events.ledger.silent uncounted)
    (sameAccounts_uncounted uncounted trace).1.toSameReports

theorem moved (leased : (other.txInflight && other.inFlightReliable) =
      (port.txInflight && port.inFlightReliable))
    (slots : slotEvents otherSlot = slotEvents slot) : EventInv tx other otherSlot trace :=
  { events with ledger := events.ledger.congr leased slots }

end EventInv

theorem Ledger.idle (ledger : Ledger port slot trace) (state : tx.txState = .idle) :
    EventInv tx port slot trace := by
  refine ⟨ledger, fun live => ?_, fun now => ?_, fun now => ?_⟩
  · rcases live with live | live <;> simp [live] at state
  · rcases now with now | now <;> simp [now] at state
  · simp [now] at state

theorem Ledger.cancelled (ledger : Ledger port slot trace) (none : terminalEvents trace = [])
    (state : tx.txState = .cancelled) : EventInv tx port slot trace := by
  refine ⟨ledger, fun live => ?_, fun now => ?_, fun _ => none⟩
  · rcases live with live | live <;> simp [live] at state
  · rcases now with now | now <;> simp [now] at state

/-! ### Posting

A terminal event is posted under the handle of a transaction that has not been reported, an
unreliable completion under handle zero. -/

theorem slotEvents_post (ctx : WlCtx) (transmit : type.isRx = false) (handle : UInt32) :
    slotEvents (postTxEvent ctx type handle).slot = [(type, handle)] := by
  simp [slotEvents, postTxEvent, WlCtx.note, transmit]

theorem slotEvents_free (free : slot.hasEvent = false) : slotEvents slot = [] := by
  simp [slotEvents, free]

theorem Ledger.postTerminal (ledger : Ledger ctx.port ctx.slot ctx.trace)
    (transmit : type.isRx = false) (free : ctx.slot.hasEvent = false) (named : handle ≠ 0)
    (open_ : Unreported handle ctx.trace)
    (returned : (ctx.port.txInflight && ctx.port.inFlightReliable) = false) :
    Ledger ctx.port (postTxEvent ctx type handle).slot (postTxEvent ctx type handle).trace ∧
      terminalEvents (postTxEvent ctx type handle).trace = [(type, handle)] := by
  have events : terminalEvents (.posted type handle :: ctx.trace) = [(type, handle)] := by
    rw [terminalEvents, if_neg named, open_.none]
  have leased : reliableLeased (.posted type handle :: ctx.trace) = false :=
    (show reliableLeased (.posted type handle :: ctx.trace) = reliableLeased ctx.trace from
      rfl).trans (ledger.leased.trans returned)
  refine ⟨⟨?_, ⟨⟨?_, ?_, ?_, fun _ => leased⟩, ledger.moments⟩, ?_⟩, events⟩
  · rw [slotEvents_post ctx transmit]
    have fifo := ledger.fifo
    rw [slotEvents_free free, List.nil_append] at fifo
    change (type, handle) :: postedEvents ctx.trace = (type, handle) :: polledEvents ctx.trace
    rw [fifo]
  · rw [events]
    exact Nat.le_refl 1
  · intro event found
    rw [events, List.mem_singleton] at found
    rw [found]
    exact open_.owned
  · intro cancelled
    exact absurd (open_.uncancelled.symm.trans cancelled) (by decide)
  · exact leased.trans returned.symm

theorem Ledger.postCompletion (ledger : Ledger ctx.port ctx.slot ctx.trace)
    (transmit : type.isRx = false) (free : ctx.slot.hasEvent = false) :
    Ledger ctx.port (postTxEvent ctx type 0).slot (postTxEvent ctx type 0).trace := by
  have events : terminalEvents (.posted type 0 :: ctx.trace) = terminalEvents ctx.trace := by
    rw [terminalEvents, if_pos rfl]
  have before := ledger.moments.now
  refine ⟨?_, ⟨⟨?_, ?_, ?_, ?_⟩, ledger.moments⟩, ledger.leased⟩
  · rw [slotEvents_post ctx transmit]
    have fifo := ledger.fifo
    rw [slotEvents_free free, List.nil_append] at fifo
    change (type, 0) :: postedEvents ctx.trace = (type, 0) :: polledEvents ctx.trace
    rw [fifo]
  · rw [events]
    exact before.one
  · rw [events]
    exact before.own
  · rw [events]
    exact before.uncancelled
  · rw [events]
    exact before.returned

/-- The type of a terminal event is one of three, and so is the state it stands for. -/
theorem EndedBy.settled {state : WlTxState} {result : WlErr} (ended : EndedBy type state result) :
    type ≠ .none ∧ type.isRx = false ∧ (state = .success ∨ state = .failed) := by
  cases type <;> simp_all [EndedBy, WlEventType.isRx]

/-- A transaction that has a handle and has not been reported. -/
structure Opened (ctx : WlCtx) : Prop where
  ledger : Ledger ctx.port ctx.slot ctx.trace
  unreported : Unreported ctx.tx.txHandle ctx.trace
  named : ctx.tx.txHandle ≠ 0
  pending : ctx.tx.txPendingEvent = .none

theorem EventInv.opened (events : EventInv ctx.tx after.port after.slot after.trace) (inv : Inv ctx)
    (live : ctx.tx.Live) (same : after.tx = ctx.tx) : Opened after := by
  refine ⟨events.ledger, ?_, ?_, ?_⟩
  · rw [same]
    exact events.live live
  · rw [same]
    exact inv.live_handle live
  · rw [same]
    exact inv.live_pending live

theorem Opened.note (opened : Opened ctx) (uncounted : obs.uncounted = true) :
    Opened (ctx.note obs) :=
  { opened with
    ledger := opened.ledger.silent uncounted
    unreported :=
      opened.unreported.congr (sameAccounts_uncounted uncounted ctx.trace).1.toSameReports }

theorem Opened.eventInv (opened : Opened ctx) (live : ctx.tx.Live) :
    EventsKept ctx := by
  refine ⟨opened.ledger, fun _ => opened.unreported, fun now => ?_, fun _ => opened.unreported.none⟩
  rcases live with state | state <;> rcases now with now | now <;> simp [now] at state

theorem Opened.pushTx (opened : Opened ctx)
    (ended : EndedBy type ctx.tx.txState ctx.tx.txResultCode) :
    EventsKept (wlPushTxEvent ctx type) := by
  obtain ⟨some_, transmit, state⟩ := ended.settled
  have dead : ¬ ctx.tx.Live := by
    rintro (live | live) <;> rcases state with state | state <;> simp [live] at state
  have uncancelled : ctx.tx.txState ≠ .cancelled := by
    rcases state with state | state <;> simp [state]
  rw [wlPushTxEvent_eq ctx transmit]
  cases deferred : eventDeferred ctx with
  | true =>
    exact ⟨opened.ledger, fun live => absurd live dead, fun _ => .inl ⟨some_, opened.unreported⟩,
      fun cancelled => absurd cancelled uncancelled⟩
  | false =>
    simp only [eventDeferred, Bool.or_eq_false_iff] at deferred
    obtain ⟨posted, events⟩ := opened.ledger.postTerminal transmit deferred.2 opened.named
      opened.unreported deferred.1
    exact ⟨posted, fun live => absurd live dead,
      fun _ => .inr ⟨opened.pending, type, ended, events⟩,
      fun cancelled => absurd cancelled uncancelled⟩

/-! ### Submissions

A submission reports nothing; whether the unit is lent out afterwards is what the sink answered. -/

theorem Sent.transaction (submission : Sent ctx sent ok) :
    sent.tx.txHandle = ctx.tx.txHandle ∧ sent.tx.txPendingEvent = ctx.tx.txPendingEvent ∧
      (ok = true → sent.tx.Live) := by
  cases submission with
  | noSink => exact ⟨rfl, rfl, nofun⟩
  | answered answer =>
    cases answer with
    | sent => exact ⟨rfl, rfl, fun _ => .inl rfl⟩
    | started | busy => exact ⟨rfl, rfl, fun _ => .inr rfl⟩
    | failed => exact ⟨rfl, rfl, nofun⟩

theorem Sent.opened (submission : Sent ctx sent ok) (opened : Opened ctx)
    (lease : ctx.port.txInflight = false) : Opened sent := by
  cases submission with
  | noSink => exact opened
  | @answered unit length answer =>
    have kept := opened.unreported.congr (sameAccounts_call (nextToken ctx.port.txToken) .reliable
      (unit.take length) answer ctx.trace).toSameReports
    cases answer with
    | sent | started | busy | failed =>
      exact ⟨opened.ledger.call _ .reliable _ _ lease rfl (fun _ => opened.unreported.none), kept,
        opened.named, opened.pending⟩

theorem SentPlain.pending (submission : SentPlain ctx sent ok) :
    sent.tx.txPendingEvent = ctx.tx.txPendingEvent := by
  cases submission with
  | noSink => rfl
  | answered answer =>
    cases answer with
    | sent | started | busy | failed => rfl

theorem SentPlain.eventInv (submission : SentPlain ctx sent ok)
    (events : EventsKept ctx) (lease : ctx.port.txInflight = false) :
    EventsKept sent := by
  cases submission with
  | noSink => exact events
  | answered answer =>
    cases answer with
    | sent | started | busy | failed =>
      exact events.kept (events.ledger.call _ .unreliable _ _ lease rfl nofun)
        (sameAccounts_call _ _ _ _ _).toSameReports

theorem AckStep.eventInv {sessionId : UInt64} {sequence : UInt32}
    (ack : AckStep sessionId sequence ctx after)
    (events : EventsKept ctx) :
    EventsKept after := by
  cases ack with
  | dropped => exact events
  | placed => exact (events.silent rfl).moved rfl rfl

/-! ### Moves -/

theorem EventInv.returned (events : EventsKept ctx)
    (ioResult : WlErr) :
    EventInv ctx.tx (leaseReturned ctx ctx.port.txToken ioResult).port ctx.slot
      (leaseReturned ctx ctx.port.txToken ioResult).trace :=
  events.kept (events.ledger.consumed _ _ rfl) (sameAccounts_consumed _ _ _).toSameReports

theorem EventInv.drained (events : EventsKept ctx) (ioResult : WlErr) :
    EventInv ctx.tx (drainCleared ctx ioResult).port ctx.slot (drainCleared ctx ioResult).trace :=
  (events.silent rfl).moved rfl rfl

theorem queueDropped_lease (queued : port.txQueued = true → port.txInflight = false) :
    ((queueDropped port).txInflight && (queueDropped port).inFlightReliable) =
      (port.txInflight && port.inFlightReliable) := by
  cases queue : port.txQueued with
  | false => simp [queueDropped, queue]
  | true => simp [queueDropped, queued queue]

theorem RxMove.eventInv (move : RxMove label ctx after) (inv : Inv ctx)
    (events : EventsKept ctx) :
    EventsKept after := by
  cases move with
  | quiet => exact events.moved rfl rfl
  | control answer pending idle lease =>
    cases answer with
    | sent | started | busy | failed =>
      exact events.kept
        (events.ledger.call _ .control _ _ lease
          (by simp [controlAnswer, sinkCalled, WlCtx.note, lease]) nofun)
        (sameAccounts_call _ _ _ _ _).toSameReports
  | receive view rx event lease free type =>
    have hidden : slotEvents (rxEventIn ctx rx event lease).slot = slotEvents ctx.slot := by
      rw [slotEvents_free free]
      simp [slotEvents, rxEventIn, type, WlEventType.isRx]
    exact events.moved rfl hidden
  | accept view rx event lease free type fresh ack =>
    have hidden : slotEvents (recordAccepted (rxEventIn ctx rx event lease) view).slot =
        slotEvents ctx.slot := by
      rw [slotEvents_free free]
      simp [slotEvents, recordAccepted, rxEventIn, WlCtx.note, type, WlEventType.isRx]
    apply ack.eventInv
    exact (events.silent rfl).moved rfl hidden
  | duplicate view known ack => exact ack.eventInv (events.silent rfl)
  | acked live =>
    have opened := (events.opened inv live rfl).note
      (show (Obs.acked ctx.tx.txHandle).uncounted = true from rfl)
    refine Opened.pushTx { opened with ledger := opened.ledger.congr ?_ rfl } ⟨rfl, rfl⟩
    exact queueDropped_lease inv.port.no_lease

theorem Move.eventInv (move : Move label ctx after) (inv : Inv ctx)
    (events : EventsKept ctx) :
    EventsKept after := by
  cases move with
  | rx move => exact move.eventInv inv events
  | publish pending free returned =>
    -- A deferred event belongs to a transaction that has ended and was not reported.
    have ended : EndedBy ctx.tx.txPendingEvent ctx.tx.txState ctx.tx.txResultCode :=
      inv.port.pendingState.resolve_left pending
    obtain ⟨_, transmit, state⟩ := ended.settled
    have named : ctx.tx.txHandle ≠ 0 :=
      inv.port.handle_ne_zero (by rcases state with state | state <;> simp [state])
    have lease : (ctx.port.txInflight && ctx.port.inFlightReliable) = false := by
      rw [Bool.eq_false_iff, ne_eq, Bool.and_eq_true]
      exact returned
    rcases events.ended state with ⟨_, open_⟩ | ⟨none, _⟩
    · obtain ⟨posted, reported⟩ := events.ledger.postTerminal transmit free named open_ lease
      refine ⟨posted, fun live => ?_, fun _ => .inr ⟨rfl, _, ended, reported⟩, fun cancelled => ?_⟩
      · rcases live with live | live <;> rcases state with state | state <;>
          exact absurd (live.symm.trans state) (by decide)
      · rcases state with state | state <;> exact absurd (cancelled.symm.trans state) (by decide)
    · exact absurd none pending
  | complete free =>
    have same : SameReports ctx.trace (.posted .txSuccess 0 :: ctx.trace) :=
      ⟨by rw [terminalEvents, if_pos rfl], rfl, rfl⟩
    exact events.kept ((events.ledger.postCompletion rfl free).congr rfl rfl) same
  | deliver taken =>
    have same : SameReports ctx.trace
        (.polled ctx.slot.event.type ctx.slot.event.handle :: ctx.trace) := ⟨rfl, rfl, rfl⟩
    have before := events.ledger.moments
    refine events.kept ⟨?_, ⟨before.now.congr same before.now.returned, before⟩,
      events.ledger.leased⟩ same
    change postedEvents ctx.trace = slotEvents (deliverEvent ctx).slot ++
      polledEvents (.polled ctx.slot.event.type ctx.slot.event.handle :: ctx.trace)
    rw [events.ledger.fifo, polledEvents]
    cases receive : ctx.slot.event.type.isRx with
    | true => simp [slotEvents, deliverEvent, WlCtx.note, receive]
    | false => simp [slotEvents, deliverEvent, WlCtx.note, receive, taken]
  | resubmitReliable sent ok pending claim queue lease drain kind submission =>
    have live : ctx.tx.Live := .inr (inv.port.queuedSending queue kind)
    have opened := submission.opened ((events.opened inv live rfl).note rfl) lease
    cases ok with
    | true => exact opened.eventInv (submission.transaction.2.2 rfl)
    | false =>
      refine Opened.pushTx { opened with ledger := opened.ledger.congr ?_ rfl } ⟨rfl, rfl⟩
      simp [unqueued, submission.lease lease]
  | resubmitUnreliable sent ok pending claim queue lease drain kind submission =>
    have submitted := submission.eventInv (events.silent rfl) lease
    cases ok with
    | true => exact submitted
    | false =>
      refine submitted.moved ?_ rfl
      simp [unqueued, submission.lease lease]
  | timeoutFail lease queue claim state =>
    exact Opened.pushTx { events.opened inv (.inl state) rfl with } ⟨rfl, rfl⟩
  | timeoutRetry sent ok nowMs pending lease queue claim state left submission =>
    have opened := submission.opened ((events.opened inv (.inl state) rfl).note rfl) lease
    cases ok with
    | true => exact Opened.eventInv { opened with } (submission.transaction.2.2 rfl)
    | false => exact Opened.pushTx { opened with } ⟨rfl, rfl⟩
  | consumedControl ioResult inflight =>
    have lease := inv.port.no_data inflight
    exact events.kept (events.ledger.consumed _ _ (by simp [consumedHead, WlCtx.note, lease]))
      (sameAccounts_consumed _ _ _).toSameReports
  | consumedUnreliable ioResult =>
    exact (events.returned ioResult).moved rfl rfl
  | consumedCancelled ioResult inflight kind requested =>
    have returned := events.returned ioResult
    have cancelled := (inv.port.cancelState.mp requested).1
    exact returned.ledger.cancelled (returned.cancelled cancelled) cancelled
  | consumedSettled ioResult => exact events.returned ioResult
  | consumedOk inflight kind sending =>
    exact Opened.eventInv { (events.returned .ok).opened inv (.inr sending) rfl with } (.inl rfl)
  | consumedDeferred ioResult failed inflight kind sending =>
    have opened := (events.returned ioResult).opened inv (.inr sending) rfl
    exact Opened.eventInv { opened with ledger := opened.ledger.congr rfl rfl } (.inr sending)
  | consumedRetry sent ok ioResult failed inflight kind sending left pending submission =>
    have opened := submission.opened ((events.returned ioResult).opened inv (.inr sending) rfl) rfl
    cases ok with
    | true => exact Opened.eventInv { opened with } (submission.transaction.2.2 rfl)
    | false => exact Opened.pushTx { opened with } ⟨rfl, rfl⟩
  | consumedFail ioResult failed inflight kind sending =>
    exact Opened.pushTx { (events.returned ioResult).opened inv (.inr sending) rfl with } ⟨rfl, rfl⟩
  | drained ioResult => exact events.drained ioResult
  | drainRequired => exact (events.silent rfl).moved rfl rfl
  | drainedOk pending awaits =>
    have opened := (events.drained .ok).opened inv (.inl awaits.state) rfl
    exact Opened.eventInv { opened with } (.inl awaits.state)
  | drainedFail ioResult pending awaits =>
    have opened := (events.drained ioResult).opened inv (.inl awaits.state) rfl
    exact Opened.pushTx { opened with } ⟨rfl, rfl⟩
  | openReliable sent ok messageId payload nowMs free idle placed fits named room submission =>
    -- A new transaction starts without any report.
    have opened : Opened
        (openTransaction (Wirelink.spendSequence ctx) messageId ctx.tx.txSequence payload nowMs) :=
      ⟨⟨events.ledger.fifo, ⟨⟨Nat.zero_le 1, by rintro _ ⟨⟩, fun _ => rfl, fun some_ => absurd rfl some_⟩,
        events.ledger.moments⟩, events.ledger.leased⟩, ⟨rfl, rfl, rfl⟩, generatedHandle_ne_zero _,
        inv.port.no_pending (.inr (.inr (.inl (inv.port.handleState.mp idle))))⟩
    have submitted := submission.opened opened free.lease
    cases ok with
    | true => exact Opened.eventInv { submitted with } (submission.transaction.2.2 rfl)
    | false => exact (submitted.ledger.silent rfl).idle rfl
  | sendUnreliable sent ok messageId data unit free named size encoded submission =>
    exact submission.eventInv events free.lease
  | spendSequence => exact { events with }
  | claim | store | spend => exact events
  | cancel live =>
    have open_ := events.live live
    have leased : reliableLeased (.cancelled ctx.tx.txHandle :: ctx.trace) =
        reliableLeased ctx.trace := rfl
    refine Ledger.cancelled ⟨events.ledger.fifo, ⟨⟨?_, ?_, ?_, ?_⟩, events.ledger.moments⟩, ?_⟩
      open_.none rfl
    · exact events.ledger.moments.now.one
    · exact events.ledger.moments.now.own
    · exact fun _ => open_.none
    · exact events.ledger.moments.now.returned
    · exact (leased.trans events.ledger.leased).trans (queueDropped_lease inv.port.no_lease).symm
  | take => exact (events.ledger.silent rfl).idle rfl

/-! ### Polling until there is no data

A report is deferred for two reasons: the slot is taken, or the sink still has the unit. A poll that
returns no data leaves the slot empty, so that only the second one remains. -/

/-- A deferred event only waits for the slot or for the DATA lease. -/
def Settled (ctx : WlCtx) : Prop :=
  ctx.tx.txPendingEvent ≠ .none →
    ctx.slot.hasEvent = true ∨ ctx.port.txInflight = true ∧ ctx.port.inFlightReliable = true

theorem settled_of_none (none : ctx.tx.txPendingEvent = .none) : Settled ctx :=
  fun pending => absurd none pending

theorem Settled.none (settled : Settled ctx) (free : ctx.slot.hasEvent = false)
    (lease : ctx.port.txInflight = false) : ctx.tx.txPendingEvent = .none := by
  by_contra pending
  rcases settled pending with taken | ⟨inflight, _⟩
  · exact absurd (free.symm.trans taken) (by decide)
  · exact absurd (lease.symm.trans inflight) (by decide)

theorem wlPushTxEvent_settled (transmit : type.isRx = false) :
    Settled (wlPushTxEvent ctx type) := by
  rw [wlPushTxEvent_eq ctx transmit]
  cases deferred : eventDeferred ctx with
  | true =>
    intro _
    simp only [eventDeferred, Bool.or_eq_true, Bool.and_eq_true] at deferred
    exact deferred.symm
  | false =>
    intro _
    exact .inl rfl

theorem RxMove.settled (move : RxMove label ctx after) (settled : Settled ctx) : Settled after := by
  cases move with
  | quiet => exact settled
  | control answer => cases answer <;> exact settled
  | receive => exact fun _ => .inl rfl
  | accept view rx event lease free type fresh ack =>
    cases ack with
    | dropped | placed => exact fun _ => .inl rfl
  | duplicate view known ack =>
    cases ack with
    | dropped | placed => exact settled
  | acked => exact wlPushTxEvent_settled rfl

theorem pollPublishPending_settled : Settled (pollPublishPending ctx) := by
  unfold pollPublishPending
  split
  · exact settled_of_none rfl
  · rename_i kept
    intro pending
    by_contra blocked
    rw [not_or] at blocked
    exact kept ⟨pending, blocked.1, blocked.2⟩

theorem pollReceive_settled (inv : Inv ctx) (settled : Settled ctx) :
    Settled (pollReceive ctx) := by
  obtain ⟨_, trail⟩ := pollReceive_moves inv
  exact trail.induct Settled settled (fun move kept => move.settled kept)

theorem pollResubmit_settled (inv : Inv ctx) (settled : Settled ctx) :
    Settled (pollResubmit ctx) := by
  unfold pollResubmit
  split
  · rename_i due
    obtain ⟨free, _, claim, queue, lease, _⟩ := due
    rw [Bool.not_eq_true] at free claim lease
    have none := settled.none free lease
    cases kind : ctx.port.inFlightReliable with
    | true =>
      have ready := (inv.ready (.inr (inv.port.queuedSending queue kind)) claim).note
        (.resubmitted true)
      obtain ⟨_, submission, _⟩ := wlSendTxPayload_sent ready
      have kept := submission.transaction.2.1
      simp only [if_true]
      split
      · rename_i sent answer
        rw [answer] at kept
        exact settled_of_none (kept.trans none)
      · exact wlPushTxEvent_settled rfl
    | false =>
      have capacity : (ctx.note (.resubmitted false)).port.txUnreliableCompletions ≠
          uint32Max := inv.port.capacity (.inr queue) kind
      obtain ⟨_, submission, _⟩ := wlSubmitData_sentPlain capacity
      have kept := submission.pending
      simp only [Bool.false_eq_true, if_false]
      split
      · rename_i sent answer
        rw [answer] at kept
        exact settled_of_none (kept.trans none)
      · rename_i sent code refused answer
        rw [answer] at kept
        exact settled_of_none (kept.trans none)
  · exact settled

theorem pollTimeout_settled (inv : Inv ctx) (nowMs : UInt32) (settled : Settled ctx) :
    Settled (pollTimeout ctx nowMs) := by
  unfold pollTimeout
  split
  · rename_i due
    obtain ⟨free, _, lease, _, claim, state, _⟩ := due
    rw [Bool.not_eq_true] at free lease claim
    have none := settled.none free lease
    split
    · exact wlPushTxEvent_settled rfl
    · have ready := (inv.ready (.inl state) claim).note
        (.timeoutRetry ctx.port.txDrainPending ctx.sink)
      obtain ⟨_, submission, _⟩ := wlSendTxPayload_sent ready
      have kept := submission.transaction.2.1
      unfold timeoutRetry
      split
      · rename_i sent answer
        rw [answer] at kept
        simp only
        split
        · exact settled_of_none (kept.trans none)
        · exact settled_of_none (kept.trans none)
      · exact wlPushTxEvent_settled rfl
  · exact settled

theorem wlPollTransportProgress_settled (inv : Inv ctx) (nowMs : UInt32) :
    Settled (wlPollTransportProgress ctx nowMs) := by
  have submitted := (wlSubmitControl_trail inv).toMove
  have published := submitted.trans (pollPublishPending_sends (submitted.inv inv)).trail
  have received := published.moves.trans (pollReceive_moves (published.inv inv)).toMove
  have resubmitted := received.trans (pollResubmit_sends (received.inv inv)).trail.moves
  apply pollTimeout_settled (resubmitted.inv inv)
  apply pollResubmit_settled (received.inv inv)
  apply pollReceive_settled (published.inv inv)
  exact pollPublishPending_settled

theorem pollCompletion_settled (settled : Settled ctx) : Settled (pollCompletion ctx) := by
  unfold pollCompletion
  split
  · rename_i due
    have pushed : wlPushEvent ctx .txSuccess 0 none 0 0 = (postTxEvent ctx .txSuccess 0, .ok) :=
      wlPushEvent_tx rfl (eq_false_of_ne_true due.1) 0
    simp only [pushed]
    exact fun _ => .inl rfl
  · exact settled

theorem pollDeliver_noData (empty : (pollDeliver ctx).2 = .error .noData) :
    ctx.slot.hasEvent = false ∧ (pollDeliver ctx).1 = ctx := by
  unfold pollDeliver at empty ⊢
  split at empty
  · cases empty
  · rename_i free
    exact ⟨eq_false_of_ne_true free, if_neg free ▸ rfl⟩

/-- A poll that returns no data leaves an empty slot, and defers an event only because the DATA
lease is still out. -/
theorem wlPoll_settled (inv : Inv ctx) (nowMs : UInt32)
    (empty : (wlPoll ctx nowMs).2 = .error .noData) :
    (wlPoll ctx nowMs).1.slot.hasEvent = false ∧ Settled (wlPoll ctx nowMs).1 := by
  have settled : Settled (pollCompletion
      (if pollHasWork { ctx with nowMs := nowMs } then
        wlPollTransportProgress { ctx with nowMs := nowMs } nowMs
      else { ctx with nowMs := nowMs })) := by
    apply pollCompletion_settled
    split
    · exact wlPollTransportProgress_settled (inv.clock nowMs) nowMs
    · rename_i idle
      apply settled_of_none
      simp only [pollHasWork, Bool.or_eq_true, not_or] at idle
      simpa using idle.1.1.1.2
  unfold wlPoll at empty ⊢
  rw [if_neg (not_not_intro inv.initialized)] at empty ⊢
  obtain ⟨free, same⟩ := pollDeliver_noData empty
  rw [same]
  exact ⟨free, settled⟩

/-! ### Runs -/

theorem Reachable.events (reachable : Reachable ctx) :
    EventsKept ctx :=
  reachable.induct (fun reached => EventsKept reached)
    (fun _ _ _ _ => {
      ledger := ⟨rfl, ⟨Nat.zero_le _, nofun, nofun, nofun⟩, rfl⟩
      live := nofun
      ended := nofun
      cancelled := nofun })
    (fun _ events => events) (fun inv events move => move.eventInv inv events)

/-- The events posted for a transaction that is taken agree with what it is taken with. -/
theorem EventInv.taken (events : EventsKept ctx) {result : WlTxResult}
    (taken : (wlTxTake ctx handle).2 = .ok result) :
    ∀ event ∈ terminalEvents ctx.trace,
      event.2 = handle ∧ EndedBy event.1 result.state result.result := by
  obtain ⟨rfl, terminal, rfl⟩ := wlTxTake_ok taken
  intro event posted
  have reported (ended : ctx.tx.txState = .success ∨ ctx.tx.txState = .failed) :
      event.2 = ctx.tx.txHandle ∧ EndedBy event.1 ctx.tx.txState ctx.tx.txResultCode := by
    rcases events.ended ended with ⟨_, open_⟩ | ⟨_, _, agrees, only⟩
    · exact absurd posted (open_.none ▸ List.not_mem_nil)
    · rw [only, List.mem_singleton] at posted
      subst posted
      exact ⟨rfl, agrees⟩
  cases state : ctx.tx.txState with
  | success => exact reported (.inl state)
  | failed => exact reported (.inr state)
  | cancelled => exact absurd posted (events.cancelled state ▸ List.not_mem_nil)
  | idle | sending | waitingAck => exact absurd terminal (by rw [state]; decide)

/-- A cancellation that is accepted is one of the transaction opened last. -/
theorem EventInv.cancels (events : EventsKept ctx) {handle : UInt32}
    (accepted : (wlTxCancel ctx handle).2 = .ok) :
    cancelledSince (wlTxCancel ctx handle).1.trace = true ∧
      (openedLast (wlTxCancel ctx handle).1.trace).map Prod.fst = some handle := by
  unfold wlTxCancel at accepted ⊢
  split at accepted
  · cases accepted
  split at accepted
  · cases accepted
  case isFalse initialized named =>
  split at accepted
  · cases accepted
  case isFalse running =>
    rw [if_neg initialized, if_neg named, if_neg running]
    have live : ctx.tx.Live := by
      unfold TxTransaction.Live
      cases state : ctx.tx.txState <;> simp_all [WlTxState.terminal]
    refine ⟨rfl, (events.live live).owned.trans ?_⟩
    exact congrArg some (not_not.mp fun other => named (.inr (Ne.symm other)))

/-- The terminal events of every run. At every moment there is at most one for the transaction
opened last, under its handle, none if it was cancelled and none while its unit is with the sink;
a cancellation that is accepted is one of that transaction; the slot returns what was put into it, in
order; the report of a transaction that ended is posted or still deferred; it agrees with what
`wl_tx_take` returns; and once a poll returns no data it has been returned, unless the sink still
keeps the unit. -/
theorem terminal_events_accounted (reachable : Reachable ctx) :
    (∀ past, past <:+ ctx.trace → AccountedAt past) ∧
      (∀ handle, (wlTxCancel ctx handle).2 = .ok →
        cancelledSince (wlTxCancel ctx handle).1.trace = true ∧
          (openedLast (wlTxCancel ctx handle).1.trace).map Prod.fst = some handle) ∧
      postedEvents ctx.trace = slotEvents ctx.slot ++ polledEvents ctx.trace ∧
      (ctx.tx.txState = .success ∨ ctx.tx.txState = .failed → Reported ctx.tx ctx.trace) ∧
      (∀ handle result, (wlTxTake ctx handle).2 = .ok result →
        ∀ event ∈ terminalEvents ctx.trace,
          event.2 = handle ∧ EndedBy event.1 result.state result.result) ∧
      (∀ nowMs after, wlPoll ctx nowMs = (after, .error .noData) →
        after.tx.txState = .success ∨ after.tx.txState = .failed →
        reliableLeased after.trace = false →
        polledEvents after.trace = postedEvents after.trace ∧
          ∃ type, EndedBy type after.tx.txState after.tx.txResultCode ∧
            terminalEvents after.trace = [(type, after.tx.txHandle)]) := by
  have events := reachable.events
  refine ⟨Trace.always_iff_suffix.mp events.ledger.moments, fun _ accepted => events.cancels accepted,
    events.ledger.fifo, events.ended, fun _ _ taken => events.taken taken, ?_⟩
  intro nowMs after polled ended returned
  obtain ⟨free, settled⟩ := wlPoll_settled reachable.inv nowMs (congrArg Prod.snd polled)
  have later := (reachable.step (.poll nowMs)).events
  have stepped : (wlPoll ctx nowMs).1 = after := congrArg Prod.fst polled
  rw [step, stepped] at later
  rw [stepped] at free settled
  have fifo := later.ledger.fifo
  rw [slotEvents_free free] at fifo
  refine ⟨fifo.symm, ?_⟩
  rcases later.ended ended with ⟨pending, _⟩ | ⟨_, reported⟩
  · -- the only thing left that could hold the report back is the lease
    rcases settled pending with taken | lease
    · exact absurd (free.symm.trans taken) (by decide)
    · rw [later.ledger.leased, lease.1, lease.2] at returned
      cases returned
  · exact reported

/-- A transaction that times out while the slot is also needed for an unreliable completion: once a
poll returns no data, both events have been returned, each once. -/
theorem terminal_events_small_run :
    ∃ after, wlPoll (run (smallStart [.sent, .sent, .sent]) [.setSink true,
        .sendReliable 5 (.bytes [1]) 0, .sendUnreliable 6 (.bytes [2]), .poll 20, .poll 40]) 50 =
          (after, .error .noData) ∧
      (polledEvents after.trace = postedEvents after.trace ∧
        ∃ type, EndedBy type after.tx.txState after.tx.txResultCode ∧
          terminalEvents after.trace = [(type, after.tx.txHandle)]) ∧
      postedEvents after.trace = [(.txTimeout, 65537), (.txSuccess, 0)] := by
  have reachable := small_reachable [.sent, .sent, .sent] [.setSink true,
    .sendReliable 5 (.bytes [1]) 0, .sendUnreliable 6 (.bytes [2]), .poll 20, .poll 40]
  obtain ⟨_, _, _, _, _, returned⟩ := terminal_events_accounted reachable
  have polled : wlPoll (run (smallStart [.sent, .sent, .sent]) [.setSink true,
      .sendReliable 5 (.bytes [1]) 0, .sendUnreliable 6 (.bytes [2]), .poll 20, .poll 40]) 50 =
        (_, .error .noData) := Prod.ext rfl (by decide +kernel)
  exact ⟨_, polled, returned 50 _ polled (.inr (by decide +kernel)) (by decide +kernel),
    by decide +kernel⟩

end Wirelink
