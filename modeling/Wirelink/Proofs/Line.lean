/-
Module: Wirelink.Proofs.Line
Purpose: The flags of the context agree with the line the adapter sees, in every run. The sink is
  called on an idle line exactly as long as no ACK-timeout retry is submitted under a drain; only
  the outstanding token is accepted, whatever happened before.
Trusted boundary: none
-/
import Wirelink.Proofs.Reach
import Wirelink.Spec.Line

namespace Wirelink

variable {ctx sent after : WlCtx} {trace : List Obs} {port : TxPort}

/-! ### Serialization of a trace

A trace is serialized if the sink was called on an idle line each time; reports of the adapter keep
it so. -/

/-- An observation that neither moves the line nor submits anything. -/
def Obs.silent : Obs → Bool
  | .sinkCall _ _ _ _ | .consumed _ _ | .drained _ _ | .drainRequired _ => false
  | .timeoutRetry drainPending sinkSet => !(drainPending && sinkSet)
  | _ => true

variable {obs : Obs} {token : UInt32} {ok : Bool}

theorem lineOf_silent (silent : obs.silent = true) (trace : List Obs) :
    lineOf (obs :: trace) = lineOf trace := by
  cases obs <;> first | rfl | simp [Obs.silent] at silent

theorem serialized_silent (silent : obs.silent = true) :
    Serialized (obs :: trace) ↔ Serialized trace := by
  constructor
  · exact And.right
  · intro before
    refine ⟨⟨?_, ?_⟩, before⟩
    · cases obs <;> first | rfl | simp [Obs.silent] at silent
    · rw [lineOf_silent silent]
      exact before.now.2

theorem retried_silent (silent : obs.silent = true) :
    RetriedUnderDrain (obs :: trace) ↔ RetriedUnderDrain trace := by
  have other : .timeoutRetry true true ≠ obs := by
    rintro rfl
    simp [Obs.silent] at silent
  simp [RetriedUnderDrain, other]

theorem serialized_call {kind : UnitKind} {bytes : Bytes} {answer : WlSinkResult} :
    Serialized (.sinkCall token kind bytes answer :: trace) ↔
      Serialized trace ∧ (lineOf trace).Idle := by
  constructor
  · rintro ⟨⟨idle, _⟩, before⟩
    exact ⟨before, of_decide_eq_true idle⟩
  · rintro ⟨before, idle⟩
    refine ⟨⟨decide_eq_true idle, ?_⟩, before⟩
    cases answer with
    | started => exact .inr idle.2
    | sent | busy | failed => exact .inl idle.1

theorem serialized_report (report : (∃ token ok, obs = .consumed token ok) ∨
    (∃ token ok, obs = .drained token ok) ∨ ∃ required, obs = .drainRequired required) :
    Serialized (obs :: trace) ↔ Serialized trace := by
  constructor
  · exact And.right
  · intro before
    have exclusive := before.now.2
    refine ⟨⟨?_, ?_⟩, before⟩
    · rcases report with ⟨_, _, rfl⟩ | ⟨_, _, rfl⟩ | ⟨_, rfl⟩ <;> rfl
    · rcases report with ⟨_, _, rfl⟩ | ⟨_, _, rfl⟩ | ⟨_, rfl⟩
      · exact .inl rfl
      · exact .inr rfl
      · exact exclusive

/-! ### The line and the flags

The line the adapter sees can be read off the flags of the port at any time. -/

/-- The line as the flags of the context show it. -/
def portLine (port : TxPort) : LineState :=
  { lease :=
      if port.controlInflight then some (port.txToken, .control)
      else if port.txInflight then some (port.txToken, dataKind port.inFlightReliable)
      else none
    drain := if port.txDrainPending then some port.txDrainToken else none
    required := port.txDrainRequired }

theorem portLine_queueDropped (queued : port.txQueued = true → port.txInflight = false) :
    portLine (queueDropped port) = portLine port := by
  cases queue : port.txQueued with
  | false => simp [portLine, queueDropped, queue]
  | true => simp [portLine, queueDropped, queued queue]

/-- The flags agree with the line, and serialization is lost only to a retry under a drain. -/
structure LineInv (trace : List Obs) (port : TxPort) : Prop where
  linked : lineOf trace = portLine port
  serial : Serialized trace ↔ ¬ RetriedUnderDrain trace

/-- The flags of a context agree with its line. -/
abbrev LineKept (ctx : WlCtx) : Prop :=
  LineInv ctx.trace ctx.port

theorem LineInv.congr (line : LineInv trace port) {other : TxPort}
    (same : portLine other = portLine port) : LineInv trace other :=
  ⟨line.linked.trans same.symm, line.serial⟩

theorem LineInv.silent (line : LineInv trace port) (silent : obs.silent = true) :
    LineInv (obs :: trace) port :=
  ⟨(lineOf_silent silent trace).trans line.linked, by
    rw [serialized_silent silent, retried_silent silent]
    exact line.serial⟩

theorem LineInv.report (line : LineInv trace port) {other : TxPort}
    (report : (∃ token ok, obs = .consumed token ok) ∨ (∃ token ok, obs = .drained token ok) ∨
      ∃ required, obs = .drainRequired required) (same : (portLine port).next obs = portLine other) :
    LineInv (obs :: trace) other := by
  refine ⟨?_, ?_⟩
  · rw [lineOf, line.linked]
    exact same
  · have kept : RetriedUnderDrain (obs :: trace) ↔ RetriedUnderDrain trace := by
      rcases report with ⟨_, _, rfl⟩ | ⟨_, _, rfl⟩ | ⟨_, rfl⟩ <;> simp [RetriedUnderDrain]
    rw [serialized_report report, kept]
    exact line.serial

/-- The port after a sink call that was answered with `answer`. -/
def portAnswered (port : TxPort) (kind : UnitKind) (answer : WlSinkResult) : LineState :=
  { portLine port with
    lease := if answer = .started then some (nextToken port.txToken, kind) else none }

theorem linked_call (linked : lineOf trace = portLine port) (kind : UnitKind) (bytes : Bytes)
    (answer : WlSinkResult) (lease : port.txInflight = false)
    (control : port.controlInflight = false) :
    lineOf (.sinkCall (nextToken port.txToken) kind bytes answer :: trace) =
      portAnswered port kind answer := by
  have free : (portLine port).lease = none := by simp [portLine, lease, control]
  rw [lineOf, linked, portAnswered]
  cases answer with
  | started => rfl
  | sent | busy | failed => simp [LineState.next, ← free]

/-- A sink call without a lease outstanding; a drain is outstanding only after a retry under it. -/
theorem LineInv.call (line : LineInv trace port) (kind : UnitKind) (bytes : Bytes)
    (answer : WlSinkResult) (lease : port.txInflight = false)
    (control : port.controlInflight = false)
    (drain : port.txDrainPending = true → RetriedUnderDrain trace) (other : TxPort)
    (same : portLine other = portAnswered port kind answer) :
    LineInv (.sinkCall (nextToken port.txToken) kind bytes answer :: trace) other := by
  refine ⟨(linked_call line.linked kind bytes answer lease control).trans same.symm, ?_⟩
  have kept : RetriedUnderDrain (.sinkCall (nextToken port.txToken) kind bytes answer :: trace) ↔
      RetriedUnderDrain trace := by simp [RetriedUnderDrain]
  rw [serialized_call, kept, line.linked]
  constructor
  · rintro ⟨before, _⟩
    exact line.serial.mp before
  · intro unretried
    refine ⟨line.serial.mpr unretried, by simp [portLine, lease, control], ?_⟩
    cases pending : port.txDrainPending with
    | false => simp [portLine, pending]
    | true => exact absurd (drain pending) unretried

/-! ### Moves

A lease and a drain are outstanding together only after a retry under a drain. Every other call of
the sink finds the line idle. -/

theorem LineInv.pushTx {type : WlEventType} (line : LineKept ctx)
    (transmit : type.isRx = false) :
    LineKept (wlPushTxEvent ctx type) := by
  rw [wlPushTxEvent_eq ctx transmit]
  cases eventDeferred ctx with
  | true => exact line
  | false => exact line.silent rfl

theorem Sent.lineInv (submission : Sent ctx sent ok) (line : LineKept ctx)
    (lease : ctx.port.txInflight = false) (control : ctx.port.controlInflight = false)
    (drain : ctx.port.txDrainPending = true → ctx.sink = true → RetriedUnderDrain ctx.trace) :
    LineKept sent := by
  cases submission with
  | noSink => exact line
  | @answered unit length answer present =>
    have call := line.call .reliable (unit.take length) answer lease control
      (fun pending => drain pending present)
    cases answer with
    | started | sent | busy | failed =>
      refine call _ ?_
      simp [portLine, portAnswered, dataAnswer, sinkCalled, withImage, WlCtx.note, control,
        dataKind]

theorem SentPlain.lineInv (submission : SentPlain ctx sent ok) (line : LineKept ctx)
    (lease : ctx.port.txInflight = false) (control : ctx.port.controlInflight = false)
    (drain : ctx.port.txDrainPending = false) :
    LineKept sent := by
  cases submission with
  | noSink => exact line
  | answered answer =>
    have call := line.call .unreliable (ctx.mem.txUnit.take ctx.mem.txUnreliableLen) answer lease
      control (fun pending => absurd pending (by simp [drain]))
    cases answer with
    | started | sent | busy | failed =>
      refine call _ ?_
      simp [portLine, portAnswered, plainAnswer, dataAnswer, sinkCalled, WlCtx.note, control,
        dataKind]

theorem AckStep.lineInv {sessionId : UInt64} {sequence : UInt32}
    (ack : AckStep sessionId sequence ctx after) (line : LineKept ctx) :
    LineKept after := by
  cases ack with
  | dropped => exact line
  | placed => exact (line.silent rfl).congr rfl

theorem LineInv.returned (line : LineKept ctx) (ioResult : WlErr)
    (lease : port.txInflight = false) (control : port.controlInflight = false)
    (required : port.txDrainRequired = ctx.port.txDrainRequired) (pending : port.txDrainPending =
      (consumedHead ctx ctx.port.txToken ioResult).port.txDrainPending)
    (token : port.txDrainToken = (consumedHead ctx ctx.port.txToken ioResult).port.txDrainToken) :
    LineInv (consumedHead ctx ctx.port.txToken ioResult).trace port := by
  refine line.report (.inl ⟨_, _, rfl⟩) ?_
  simp only [LineState.next, portLine, lease, control, required, pending, token, consumedHead,
    WlCtx.note]
  by_cases drains : ioResult = .ok ∧ ctx.port.txDrainRequired = true
  · simp [drains.1, drains.2]
  · have owed : (ioResult == .ok && ctx.port.txDrainRequired) = false := by
      simpa using drains
    simp [drains, owed]

theorem LineInv.retried (line : LineInv trace port) (lease : port.txInflight = true)
    (drain : port.txDrainPending = true) : RetriedUnderDrain trace := by
  by_contra unretried
  have exclusive := (line.serial.mpr unretried).now.2
  rw [line.linked] at exclusive
  rcases exclusive with free | drained
  · revert free
    simp only [portLine, lease]
    split <;> simp
  · simp [portLine, drain] at drained

/-- The ACK-timeout retry is marked before it is submitted. -/
theorem Sent.lineInv_retry
    (submission : Sent (ctx.note (.timeoutRetry ctx.port.txDrainPending ctx.sink)) sent ok)
    (line : LineKept ctx) (lease : ctx.port.txInflight = false)
    (control : ctx.port.controlInflight = false) : LineKept sent := by
  by_cases owed : ctx.port.txDrainPending = true ∧ ctx.sink = true
  · -- The one place where a unit is submitted under a drain.
    cases submission with
    | noSink absent => simp [WlCtx.note, owed.2] at absent
    | @answered unit length answer =>
      have marked : lineOf (.timeoutRetry ctx.port.txDrainPending ctx.sink :: ctx.trace) =
          portLine ctx.port := line.linked
      have linked := linked_call marked .reliable (unit.take length) answer lease control
      have broken : ¬ Serialized (.sinkCall (nextToken ctx.port.txToken) .reliable
          (unit.take length) answer ::
            .timeoutRetry ctx.port.txDrainPending ctx.sink :: ctx.trace) := by
        rw [serialized_call, marked]
        rintro ⟨_, _, drained⟩
        simp [portLine, owed.1] at drained
      have retried : RetriedUnderDrain (.sinkCall (nextToken ctx.port.txToken) .reliable
          (unit.take length) answer ::
            .timeoutRetry ctx.port.txDrainPending ctx.sink :: ctx.trace) := by
        simp [RetriedUnderDrain, owed.1, owed.2]
      cases answer with
      | started | sent | busy | failed =>
        refine ⟨linked.trans ?_, iff_of_false broken (not_not_intro retried)⟩
        simp [portLine, portAnswered, dataAnswer, sinkCalled, withImage, WlCtx.note, control,
          dataKind]
  · have quiet : (ctx.port.txDrainPending && ctx.sink) = false := by
      rw [Bool.eq_false_iff, ne_eq, Bool.and_eq_true]
      exact owed
    refine submission.lineInv (line.silent ?_) lease control (fun pending present => ?_)
    · simp [Obs.silent, quiet]
    · exact absurd ⟨pending, present⟩ owed

theorem Move.lineInv {label : Option WireFrame} (move : Move label ctx after) (inv : Inv ctx)
    (line : LineKept ctx) : LineKept after := by
  cases move with
  | rx move =>
    cases move with
    | quiet => exact line.congr rfl
    | control answer pending idle lease drain =>
      have call := line.call .control (ctx.mem.controlUnit.take ctx.port.controlLen) answer lease
        idle (fun pending => absurd pending (by simp [drain]))
      cases answer with
      | started | sent | busy | failed =>
        refine call _ ?_
        simp [portLine, portAnswered, controlAnswer, sinkCalled, WlCtx.note, idle, lease]
    | receive => exact line
    | accept view rx event lease free type fresh ack | duplicate view known ack =>
      exact ack.lineInv (line.silent rfl)
    | acked =>
      have dropped : LineKept (acknowledged ctx) :=
        (line.silent rfl).congr (portLine_queueDropped inv.port.no_lease)
      exact LineInv.pushTx dropped rfl
  | publish | deliver | take => exact line.silent rfl
  | complete => exact (line.silent rfl).congr rfl
  | resubmitReliable sent ok pending claim queue lease drain kind submission =>
    have control := inv.port.no_control pending
    have submitted := submission.lineInv (line.silent rfl) lease control
      (fun owed => absurd (drain.symm.trans owed) (by decide))
    cases ok with
    | true => exact submitted
    | false =>
      have dropped : LineKept (unqueued sent) := by
        refine submitted.congr ?_
        simp [portLine, unqueued, submission.lease lease]
      exact LineInv.pushTx dropped rfl
  | resubmitUnreliable sent ok pending claim queue lease drain kind submission =>
    have control := inv.port.no_control pending
    have submitted := submission.lineInv (line.silent rfl) lease control drain
    cases ok with
    | true => exact submitted
    | false =>
      refine submitted.congr ?_
      simp [portLine, unqueued, submission.lease lease]
  | timeoutFail => exact LineInv.pushTx line rfl
  | timeoutRetry sent ok nowMs pending lease queue claim state left submission =>
    have control := inv.port.no_control pending
    -- the only unit that may be submitted while a drain is owed
    have submitted := submission.lineInv_retry line lease control
    cases ok with
    | true => exact submitted
    | false => exact LineInv.pushTx submitted rfl
  | consumedControl ioResult inflight =>
    exact line.returned ioResult (inv.port.no_data inflight) rfl rfl rfl rfl
  | consumedUnreliable ioResult inflight | consumedCancelled ioResult inflight
  | consumedSettled ioResult inflight | consumedDeferred ioResult _ inflight =>
    exact line.returned ioResult rfl (inv.port.oneLease inflight) rfl rfl rfl
  | consumedOk inflight => exact line.returned .ok rfl (inv.port.oneLease inflight) rfl rfl rfl
  | consumedRetry sent ok ioResult failed inflight kind sending left pending submission =>
    have control := inv.port.oneLease inflight
    have returned : LineKept (leaseReturned ctx ctx.port.txToken ioResult) :=
      line.returned ioResult rfl control rfl rfl rfl
    have submitted := submission.lineInv returned rfl control (fun owed _ => by
      have before : ctx.port.txDrainPending = true := by
        simpa [leaseReturned, consumedHead, WlCtx.note, failed] using owed
      exact List.mem_cons_of_mem _ (line.retried inflight before))
    cases ok with
    | true => exact submitted
    | false => exact LineInv.pushTx submitted rfl
  | consumedFail ioResult failed inflight kind sending left =>
    have returned : LineKept (leaseReturned ctx ctx.port.txToken ioResult) :=
      line.returned ioResult rfl (inv.port.oneLease inflight) rfl rfl rfl
    exact LineInv.pushTx returned rfl
  | drained | drainedOk => exact line.report (.inr (.inl ⟨_, _, rfl⟩)) rfl
  | drainedFail ioResult =>
    have reported : LineKept (drainCleared ctx ioResult) :=
      line.report (.inr (.inl ⟨_, _, rfl⟩)) rfl
    exact LineInv.pushTx reported rfl
  | openReliable sent ok messageId payload nowMs free idle placed fits named room submission =>
    have submitted := submission.lineInv (line.silent rfl) free.lease free.control
      (fun owed => absurd (free.drain.symm.trans owed) (by decide))
    cases ok with
    | true => exact submitted
    | false => exact submitted.silent rfl
  | sendUnreliable sent ok messageId data unit free named size image submission =>
    exact submission.lineInv line free.lease free.control free.drain
  | spendSequence | claim | store | spend => exact line
  | cancel => exact (line.silent rfl).congr (portLine_queueDropped inv.port.no_lease)
  | drainRequired required lease control drain =>
    refine line.report (.inr (.inr ⟨required, rfl⟩)) ?_
    rfl

/-! ### Runs -/

theorem lineInv_initial (config : WlConfig) (storage : WlStorage) (ring : RxRing)
    (answers : List WlSinkResult) :
    LineKept (initialCtx config storage ring answers) :=
  ⟨rfl, iff_of_true ⟨rfl, .inl rfl⟩ (by simp [RetriedUnderDrain, initialCtx])⟩

theorem Reachable.line (reachable : Reachable ctx) : LineKept ctx :=
  reachable.induct (fun reached => LineKept reached) lineInv_initial
    (fun _ line => line) (fun inv line move => move.lineInv inv line)

theorem wlTxConsumed_refused (inv : Inv ctx)
    (other : (portLine ctx.port).lease.map Prod.fst ≠ some token) (ioResult : WlErr) :
    wlTxConsumed ctx token ioResult = (ctx, .notFound) := by
  simp only [wlTxConsumed, inv.initialized, not_true_eq_false, if_false]
  by_cases same : token = ctx.port.txToken
  · have free : ¬ ctx.port.txInflight = true ∧ ¬ ctx.port.controlInflight = true := by
      subst same
      constructor
      · intro lease
        have idle := inv.port.oneLease lease
        simp [portLine, lease, idle] at other
      · intro control
        simp [portLine, control] at other
    rw [if_neg (not_not_intro same), if_pos free]
  · rw [if_pos same]

theorem wlTxConsumed_accepted (inv : Inv ctx)
    (outstanding : (portLine ctx.port).lease.map Prod.fst = some token) (ioResult : WlErr) :
    (wlTxConsumed ctx token ioResult).2 ≠ .notFound := by
  have held : token = ctx.port.txToken ∧
      (ctx.port.txInflight = true ∨ ctx.port.controlInflight = true) := by
    revert outstanding
    simp only [portLine]
    split
    · rename_i control
      rintro ⟨⟩
      exact ⟨rfl, .inr control⟩
    split
    · rename_i lease
      rintro ⟨⟩
      exact ⟨rfl, .inl lease⟩
    · simp
  have used : ¬ (¬ ctx.port.txInflight = true ∧ ¬ ctx.port.controlInflight = true) := by
    rintro ⟨lease, control⟩
    exact held.2.elim lease control
  simp only [wlTxConsumed, inv.initialized, not_true_eq_false, if_false]
  rw [if_neg (not_not_intro held.1), if_neg used]
  split
  · split <;> simp
  split
  · simp
  · simp only [consumedUnreliable, wlCompleteUnreliableTx]
    split
    · split <;> simp
    · simp

theorem wlTxDrained_refused (inv : Inv ctx) (other : (portLine ctx.port).drain ≠ some token)
    (ioResult : WlErr) :
    wlTxDrained ctx token ioResult = (ctx, .notFound) := by
  have stale : ¬ ctx.port.txDrainPending = true ∨ token ≠ ctx.port.txDrainToken := by
    cases pending : ctx.port.txDrainPending with
    | false => simp
    | true =>
      right
      rintro rfl
      simp [portLine, pending] at other
  simp only [wlTxDrained, inv.initialized, not_true_eq_false, if_false, if_pos stale]

theorem wlTxDrained_accepted (inv : Inv ctx) (outstanding : (portLine ctx.port).drain = some token)
    (ioResult : WlErr) :
    (wlTxDrained ctx token ioResult).2 = .ok := by
  cases pending : ctx.port.txDrainPending with
  | false => simp [portLine, pending] at outstanding
  | true =>
    have same : ctx.port.txDrainToken = token := by simpa [portLine, pending] using outstanding
    simp [wlTxDrained, inv.initialized, pending, same]

/-- Physical serialization. In every run the sink is called on an idle line, and at most one
obligation is outstanding, exactly as long as the ACK-timeout branch of `wl_poll` has not submitted a
retry under a drain. In every run only the token of the outstanding lease or drain is accepted, and
any other one leaves the whole context unchanged. -/
theorem serialized_iff_no_retry_under_drain (reachable : Reachable ctx) :
    (Serialized ctx.trace ↔ ¬ RetriedUnderDrain ctx.trace) ∧
      (∀ token ioResult,
        if (lineOf ctx.trace).lease.map Prod.fst = some token then
          (wlTxConsumed ctx token ioResult).2 ≠ .notFound
        else wlTxConsumed ctx token ioResult = (ctx, .notFound)) ∧
      ∀ token ioResult,
        if (lineOf ctx.trace).drain = some token then (wlTxDrained ctx token ioResult).2 = .ok
        else wlTxDrained ctx token ioResult = (ctx, .notFound) := by
  have inv := reachable.inv
  have line := reachable.line
  rw [line.linked]
  refine ⟨line.serial, fun token ioResult => ?_, fun token ioResult => ?_⟩
  · split
    · rename_i outstanding
      exact wlTxConsumed_accepted inv outstanding ioResult
    · rename_i other
      exact wlTxConsumed_refused inv other ioResult
  · split
    · rename_i outstanding
      exact wlTxDrained_accepted inv outstanding ioResult
    · rename_i other
      exact wlTxDrained_refused inv other ioResult

/-- A run whose only timeout retry comes after the drain is serialized. -/
theorem serialized_small_run :
    Serialized (run (smallStart [.started, .started])
      [.setSink true, .setDrainRequired true, .sendReliable 5 (.bytes [1]) 0, .consumed 2 .ok,
        .drained 2 .ok, .poll 20]).trace := by
  refine (serialized_iff_no_retry_under_drain (small_reachable _ _)).1.mpr ?_
  decide +kernel

/-- A waiting transaction times out while the drain of an unreliable unit is still owed: the retry
is handed to the sink under that drain. -/
theorem retry_under_drain_not_serialized :
    ∃ start, wlInit smallConfig smallStorage [.started, .started, .started] = .ok start ∧
      ¬ Serialized (run start
        [.setSink true, .setDrainRequired true, .sendReliable 5 (.bytes [1]) 0, .consumed 2 .ok,
          .drained 2 .ok, .sendUnreliable 6 (.bytes [9]), .consumed 3 .ok, .poll 20]).trace :=
  ⟨smallStart [.started, .started, .started], rfl, by decide +kernel⟩

end Wirelink
