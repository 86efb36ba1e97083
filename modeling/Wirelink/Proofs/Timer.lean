/-
Module: Wirelink.Proofs.Timer
Purpose: The ACK timer under the pump. The flags of the transaction and of the port agree with the
  attempt an observer reads from the log, and the start of the timer is the lower half of the time at
  which the attempt ended; every move keeps this, so the timer never expires early.
Trusted boundary: none
-/
import Wirelink.Proofs.Reach
import Wirelink.Spec.Timer

namespace Wirelink

variable {ctx sent after : WlCtx} {time : Nat} {ackTimeoutMs : UInt32} {log : List TimedObs}
  {view : AttemptView} {tx : TxTransaction} {port : TxPort}

/-! ### The invariant

An observer reads from the log which attempt is the latest and when it ended. The start of the timer
is that time modulo 2 ^ 32. -/

/-- The port knows whether the attempt is in flight. -/
structure PortTimer (view : AttemptView) (port : TxPort) : Prop where
  required : view.drainRequired = port.txDrainRequired
  flight : port.txInflight = true → port.inFlightReliable = true →
    view.attempt = .inFlight port.txToken
  owned : ∀ token, view.attempt = .inFlight token →
    port.txInflight = true ∧ port.inFlightReliable = true

/-- The consumed unit of the attempt is being drained, and nothing else is on the line. -/
structure Draining (view : AttemptView) (port : TxPort) : Prop where
  attempt : view.attempt = .draining port.txDrainToken
  reliable : port.txDrainReliable = true
  pending : port.txDrainPending = true
  lease : port.txInflight = false
  control : port.controlInflight = false

/-- The attempt has ended, and the timer was started then. -/
structure Started (time : Nat) (view : AttemptView) (startTs : UInt32) (ended : Nat) : Prop where
  attempt : view.attempt = .ended ended
  past : ended ≤ time
  clock : startTs = UInt32.ofNat ended

/-- What a waiting transaction knows about its attempt. -/
structure TxTimer (time : Nat) (view : AttemptView) (tx : TxTransaction) (port : TxPort) : Prop where
  waiting : tx.txState = .waitingAck → tx.txWaitState = .ack →
    ∃ ended, Started time view tx.txStartTs ended
  draining : tx.txState = .waitingAck → tx.txWaitState = .drain → Draining view port
  pending : tx.txPendingEvent ≠ .txTimeout

/-- The log has been timely and the port agrees with it. -/
structure LineTimer (ackTimeoutMs : UInt32) (log : List TimedObs) (port : TxPort) : Prop where
  timely : Timely ackTimeoutMs log
  port : PortTimer (attemptOf log) port

/-- The log has been timely, and the port and the transaction agree with it. -/
structure TimerInv (time : Nat) (ackTimeoutMs : UInt32) (log : List TimedObs) (tx : TxTransaction)
    (port : TxPort) : Prop where
  line : LineTimer ackTimeoutMs log port
  tx : TxTimer time (attemptOf log) tx port

/-- `after` continues the trace of `ctx`, and the log with the new observations is in order. -/
def Timed (time : Nat) (ackTimeoutMs : UInt32) (log : List TimedObs) (ctx after : WlCtx) : Prop :=
  ∃ newer, after.trace = newer ++ ctx.trace ∧
    TimerInv time ackTimeoutMs (newer.map (fun obs => (time, obs)) ++ log) after.tx after.port

theorem Timed.still (inv : TimerInv time ackTimeoutMs log after.tx after.port)
    (trace : after.trace = ctx.trace) : Timed time ackTimeoutMs log ctx after :=
  ⟨[], trace, inv⟩

variable {obs : Obs} {type : WlEventType} {other : TxPort} {ok : Bool} {label : Option WireFrame}
  {reached : WlCtx}

theorem Timed.noted (inv : TimerInv time ackTimeoutMs ((time, obs) :: log) after.tx after.port)
    (trace : after.trace = obs :: ctx.trace) : Timed time ackTimeoutMs log ctx after :=
  ⟨[obs], trace, inv⟩

theorem Timed.trans {middle : WlCtx} {newer : List Obs} (trace : middle.trace = newer ++ ctx.trace)
    (rest : Timed time ackTimeoutMs (newer.map (fun obs => (time, obs)) ++ log) middle after) :
    Timed time ackTimeoutMs log ctx after := by
  obtain ⟨latest, continued, inv⟩ := rest
  refine ⟨latest ++ newer, ?_, ?_⟩
  · rw [continued, trace, List.append_assoc]
  · rw [List.map_append, List.append_assoc]
    exact inv

/-! ### Observations that do not concern the attempt -/

/-- Observations that neither move the attempt nor mark an expiry. -/
def Obs.untimed : Obs → Bool
  | .opened _ _ | .sinkCall _ .reliable _ _ | .consumed _ _ | .drained _ _ | .drainRequired _
  | .timeoutRetry _ _ | .posted .txTimeout _ => false
  | _ => true

theorem next_untimed (untimed : obs.untimed = true) (view : AttemptView) (time : Nat) :
    view.next time obs = view := by
  cases obs with
  | sinkCall token kind =>
    cases kind with
    | reliable => exact nomatch untimed
    | unreliable | control => rfl
  | opened | consumed | drained | drainRequired => exact nomatch untimed
  | _ => rfl

theorem expiry_untimed (untimed : obs.untimed = true) : obs.expiry = false := by
  cases obs with
  | posted type =>
    cases type with
    | txTimeout => exact nomatch untimed
    | _ => rfl
  | timeoutRetry => exact nomatch untimed
  | _ => rfl

theorem untimed_posted (other : type ≠ .txTimeout) (handle : UInt32) :
    (Obs.posted type handle).untimed = true := by
  cases type with
  | txTimeout => exact absurd rfl other
  | _ => rfl

/-- Only an expiry can spoil a timely log. -/
theorem Timely.cons (timely : Timely ackTimeoutMs log) (other : obs.expiry = false) :
    Timely ackTimeoutMs ((time, obs) :: log) :=
  ⟨fun expiry => (nomatch other.symm.trans expiry), timely⟩

theorem LineTimer.silent (line : LineTimer ackTimeoutMs log port) (untimed : obs.untimed = true) :
    LineTimer ackTimeoutMs ((time, obs) :: log) port where
  timely := line.timely.cons (expiry_untimed untimed)
  port := by
    rw [attemptOf, next_untimed untimed]
    exact line.port

theorem TimerInv.silent (inv : TimerInv time ackTimeoutMs log tx port)
    (untimed : obs.untimed = true) : TimerInv time ackTimeoutMs ((time, obs) :: log) tx port where
  line := inv.line.silent untimed
  tx := by
    rw [attemptOf, next_untimed untimed]
    exact inv.tx

/-- The part of the port the timer depends on. -/
def timerPort (port : TxPort) : Bool × Bool × Bool × UInt32 × Bool × Bool × UInt32 × Bool :=
  (port.txDrainRequired, port.txInflight, port.inFlightReliable, port.txToken, port.txDrainPending,
    port.txDrainReliable, port.txDrainToken, port.controlInflight)

theorem TimerInv.congr (inv : TimerInv time ackTimeoutMs log tx port)
    (same : timerPort other = timerPort port) : TimerInv time ackTimeoutMs log tx other := by
  simp only [timerPort, Prod.mk.injEq] at same
  obtain ⟨required, lease, kind, token, drain, reliable, drainToken, control⟩ := same
  refine ⟨⟨inv.line.timely, ⟨?_, ?_, ?_⟩⟩, inv.tx.waiting, fun state wait => ⟨?_, ?_, ?_, ?_, ?_⟩,
    inv.tx.pending⟩
  · rw [required]
    exact inv.line.port.required
  · rw [lease, kind, token]
    exact inv.line.port.flight
  · rw [lease, kind]
    exact inv.line.port.owned
  · rw [drainToken]
    exact (inv.tx.draining state wait).attempt
  · rw [reliable]
    exact (inv.tx.draining state wait).reliable
  · rw [drain]
    exact (inv.tx.draining state wait).pending
  · rw [lease]
    exact (inv.tx.draining state wait).lease
  · rw [control]
    exact (inv.tx.draining state wait).control

theorem TxTimer.settled (state : tx.txState ≠ .waitingAck) (pending : tx.txPendingEvent ≠ .txTimeout) :
    TxTimer time view tx port :=
  ⟨fun waiting => absurd waiting state, fun waiting => absurd waiting state, pending⟩

/-- An attempt that is not in flight is not touched by a call on an idle line. -/
theorem PortTimer.landed (held : PortTimer view port) (lease : port.txInflight = false)
    (token : UInt32) : view.attempt ≠ .inFlight token := by
  intro flying
  exact nomatch lease.symm.trans (held.owned token flying).1

/-! ### Blocks shared by several moves -/

theorem Timed.pushTx {middle : WlCtx} {type : WlEventType}
    (timed : Timed time ackTimeoutMs log ctx middle) (transmit : type.isRx = false)
    (other : type ≠ .txTimeout) :
    Timed time ackTimeoutMs log ctx (wlPushTxEvent middle type) := by
  obtain ⟨newer, trace, inv⟩ := timed
  rw [wlPushTxEvent_eq middle transmit]
  cases eventDeferred middle with
  | true => exact ⟨newer, trace, inv.line, inv.tx.waiting, inv.tx.draining, other⟩
  | false => exact Timed.trans trace (Timed.noted (inv.silent (untimed_posted other _)) rfl)

theorem PortTimer.idle (held : PortTimer view port) (lease : port.txInflight = false)
    (required : other.txDrainRequired = port.txDrainRequired)
    (kind : other.txInflight = true → other.inFlightReliable = false) : PortTimer view other where
  required := held.required.trans required.symm
  flight inflight reliable := nomatch (kind inflight).symm.trans reliable
  owned token flying := absurd flying (held.landed lease token)

theorem LineTimer.called (line : LineTimer ackTimeoutMs log port) (lease : port.txInflight = false)
    (untimed : obs.untimed = true) (required : other.txDrainRequired = port.txDrainRequired)
    (kind : other.txInflight = true → other.inFlightReliable = false) :
    LineTimer ackTimeoutMs ((time, obs) :: log) other where
  timely := line.timely.cons (expiry_untimed untimed)
  port := by
    rw [attemptOf, next_untimed untimed]
    exact line.port.idle lease required kind

theorem TxTimer.undrained (held : TxTimer time view tx port) (busy : Draining view port → False) :
    TxTimer time view tx other :=
  ⟨held.waiting, fun state wait => (busy (held.draining state wait)).elim, held.pending⟩

/-- A reliable submission. One that went through leaves a transaction that agrees with the attempt it
began; one that failed leaves the transaction to its caller. -/
theorem Sent.timer (submission : Sent ctx sent ok) (line : LineTimer ackTimeoutMs log ctx.port)
    (lease : ctx.port.txInflight = false) (pending : ctx.tx.txPendingEvent ≠ .txTimeout)
    (clock : ctx.nowMs = UInt32.ofNat time) :
    ∃ newer, sent.trace = newer ++ ctx.trace ∧
      LineTimer ackTimeoutMs (newer.map (fun obs => (time, obs)) ++ log) sent.port ∧
      sent.tx.txPendingEvent ≠ .txTimeout ∧ (ok = false → sent.port.txInflight = false) ∧
      (ok = true →
        TxTimer time (attemptOf (newer.map (fun obs => (time, obs)) ++ log)) sent.tx sent.port) := by
  cases submission with
  | noSink =>
    exact ⟨[], rfl, line, pending, fun _ => lease, nofun⟩
  | @answered unit length answer =>
    refine ⟨[.sinkCall (nextToken ctx.port.txToken) .reliable (unit.take length) answer], ?_⟩
    have timely : Timely ackTimeoutMs
        ((time, .sinkCall (nextToken ctx.port.txToken) .reliable (unit.take length) answer) :: log) :=
      line.timely.cons rfl
    cases answer with
    | sent =>
      refine ⟨rfl, ⟨timely, line.port.required, nofun,
        nofun⟩, pending, fun _ => rfl, fun _ => ?_⟩
      refine ⟨fun _ _ => ⟨time, rfl, Nat.le_refl _, clock⟩, nofun, pending⟩
    | started =>
      refine ⟨rfl, ⟨timely, line.port.required, fun _ _ => rfl, fun token _ => ⟨rfl, rfl⟩⟩, pending,
        nofun, fun _ => ?_⟩
      exact TxTimer.settled nofun pending
    | busy =>
      refine ⟨rfl, ⟨timely, line.port.required, nofun,
        nofun⟩, pending, fun _ => rfl, fun _ => ?_⟩
      exact TxTimer.settled nofun pending
    | failed =>
      exact ⟨rfl, ⟨timely, line.port.required, nofun,
        nofun⟩, pending, fun _ => rfl, nofun⟩

theorem SentPlain.timer (submission : SentPlain ctx sent ok)
    (inv : TimerInv time ackTimeoutMs log ctx.tx ctx.port) (lease : ctx.port.txInflight = false)
    (drain : ctx.port.txDrainPending = false) : Timed time ackTimeoutMs log ctx sent := by
  have free : Draining (attemptOf log) ctx.port → False := by
    intro draining
    exact nomatch drain.symm.trans draining.pending
  cases submission with
  | noSink => exact Timed.still inv rfl
  | answered answer =>
    cases answer with
    | sent | started | busy | failed =>
      refine Timed.noted ⟨inv.line.called lease rfl rfl (fun _ => rfl), ?_⟩ rfl
      exact inv.tx.undrained free

theorem AckStep.timer {sessionId : UInt64} {sequence : UInt32}
    (ack : AckStep sessionId sequence ctx after)
    (inv : TimerInv time ackTimeoutMs log ctx.tx ctx.port) :
    Timed time ackTimeoutMs log ctx after := by
  cases ack with
  | dropped => exact Timed.still inv rfl
  | placed => exact Timed.noted ((inv.silent rfl).congr rfl) rfl

/-! ### Reports of the adapter

An attempt ends when its unit is consumed or, where drains are required, drained. That is when the
timer starts. -/

/-- The lease of the attempt is back. -/
def AttemptView.returned (view : AttemptView) (time : Nat) (token : UInt32) (ok : Bool) : Attempt :=
  if ok then if view.drainRequired then .draining token else .ended time else .none

theorem LineTimer.returned (line : LineTimer ackTimeoutMs log ctx.port) (time : Nat)
    (lease : ctx.port.txInflight = true) (kind : ctx.port.inFlightReliable = true)
    (ioResult : WlErr) :
    LineTimer ackTimeoutMs ((time, .consumed ctx.port.txToken (ioResult == .ok)) :: log)
        (leaseReturned ctx ctx.port.txToken ioResult).port ∧
      (attemptOf ((time, .consumed ctx.port.txToken (ioResult == .ok)) :: log)).attempt =
        (attemptOf log).returned time ctx.port.txToken (ioResult == .ok) := by
  have flying := line.port.flight lease kind
  have attempt : (attemptOf ((time, .consumed ctx.port.txToken (ioResult == .ok)) :: log)).attempt =
      (attemptOf log).returned time ctx.port.txToken (ioResult == .ok) := by
    simp only [attemptOf, AttemptView.next, flying, if_true]
    rfl
  have required : (attemptOf ((time, .consumed ctx.port.txToken (ioResult == .ok)) :: log)).drainRequired
      = ctx.port.txDrainRequired := by
    simp only [attemptOf, AttemptView.next, flying, if_true]
    exact line.port.required
  refine ⟨⟨line.timely.cons rfl, required, nofun, ?_⟩, attempt⟩
  intro token still
  rw [attempt, AttemptView.returned] at still
  split at still
  · split at still
    · exact nomatch still
    · exact nomatch still
  · exact nomatch still

theorem TimerInv.returnedOther (inv : TimerInv time ackTimeoutMs log ctx.tx ctx.port)
    (away : ∀ token, (attemptOf log).attempt ≠ .inFlight token)
    (busy : Draining (attemptOf log) ctx.port → False) (ioResult : WlErr)
    (required : other.txDrainRequired = ctx.port.txDrainRequired)
    (landed : other.txInflight = false) :
    TimerInv time ackTimeoutMs ((time, .consumed ctx.port.txToken (ioResult == .ok)) :: log) ctx.tx
      other := by
  have same : attemptOf ((time, .consumed ctx.port.txToken (ioResult == .ok)) :: log) =
      attemptOf log := by
    simp only [attemptOf, AttemptView.next, if_neg (away _)]
  refine ⟨⟨inv.line.timely.cons rfl, ?_⟩, ?_⟩
  · rw [same]
    refine ⟨inv.line.port.required.trans required.symm, fun inflight => ?_, fun token flying => ?_⟩
    · exact nomatch landed.symm.trans inflight
    · exact absurd flying (away token)
  · rw [same]
    exact inv.tx.undrained busy

theorem TimerInv.consumedOk (timer : TimerInv time ackTimeoutMs log ctx.tx ctx.port) (inv : Inv ctx)
    (inflight : ctx.port.txInflight = true) (kind : ctx.port.inFlightReliable = true)
    (clock : ctx.nowMs = UInt32.ofNat time)
    (attempt : view.attempt = (attemptOf log).returned time ctx.port.txToken true) :
    TxTimer time view
      { ctx.tx with
        txState := .waitingAck
        txWaitState :=
          if (leaseReturned ctx ctx.port.txToken .ok).port.txDrainPending then .drain else .ack
        txStartTs := ctx.nowMs }
      (leaseReturned ctx ctx.port.txToken .ok).port := by
  rw [AttemptView.returned, if_pos rfl, timer.line.port.required] at attempt
  cases required : ctx.port.txDrainRequired with
  | true =>
    rw [required, if_pos rfl] at attempt
    have drains : (leaseReturned ctx ctx.port.txToken .ok).port.txDrainPending = true := by
      simp [leaseReturned, consumedHead, WlCtx.note, required]
    rw [drains]
    refine ⟨fun _ wait => absurd wait (by simp), fun _ _ => ⟨?_, ?_, drains, rfl, ?_⟩, timer.tx.pending⟩
    · simpa [leaseReturned, consumedHead, WlCtx.note, required] using attempt
    · simp [leaseReturned, consumedHead, WlCtx.note, required, inflight, kind]
    · exact inv.port.oneLease inflight
  | false =>
    rw [required, if_neg Bool.false_ne_true] at attempt
    have undrained : (leaseReturned ctx ctx.port.txToken .ok).port.txDrainPending = false := by
      have before : ctx.port.txDrainPending = false := by
        cases pending : ctx.port.txDrainPending with
        | false => rfl
        | true => cases required.symm.trans (inv.port.drainAllowed pending)
      simp [leaseReturned, consumedHead, WlCtx.note, required, before]
    rw [undrained]
    exact ⟨fun _ _ => ⟨time, attempt, Nat.le_refl _, clock⟩, fun _ wait => absurd wait (by simp),
      timer.tx.pending⟩

theorem LineTimer.drained (line : LineTimer ackTimeoutMs log port) (token : UInt32) (ok : Bool)
    (required : other.txDrainRequired = port.txDrainRequired)
    (lease : other.txInflight = port.txInflight)
    (kind : other.inFlightReliable = port.inFlightReliable) (same : other.txToken = port.txToken) :
    LineTimer ackTimeoutMs ((time, .drained token ok) :: log) other := by
  refine ⟨line.timely.cons rfl, ?_⟩
  rw [attemptOf]
  unfold AttemptView.next
  dsimp only
  split
  case isTrue waited =>
    refine ⟨line.port.required.trans required.symm, fun inflight reliable => ?_,
      fun token flying => ?_⟩
    · rw [lease] at inflight
      rw [kind] at reliable
      exact nomatch waited.symm.trans (line.port.flight inflight reliable)
    · dsimp only at flying
      split at flying
      · exact nomatch flying
      · exact nomatch flying
  case isFalse other =>
    refine ⟨line.port.required.trans required.symm, ?_, ?_⟩
    · rw [lease, kind, same]
      exact line.port.flight
    · rw [lease, kind]
      exact line.port.owned

theorem TimerInv.drained (inv : TimerInv time ackTimeoutMs log ctx.tx ctx.port)
    (other : ¬ AwaitsDrain ctx) (ioResult : WlErr) :
    TimerInv time ackTimeoutMs ((time, .drained ctx.port.txDrainToken (ioResult == .ok)) :: log) ctx.tx
      (drainCleared ctx ioResult).port := by
  refine ⟨inv.line.drained _ _ rfl rfl rfl rfl, fun state wait => ?_, fun state wait => ?_,
    inv.tx.pending⟩
  · obtain ⟨ended, started⟩ := inv.tx.waiting state wait
    refine ⟨ended, ?_, started.past, started.clock⟩
    have apart : (attemptOf log).attempt ≠ .draining ctx.port.txDrainToken :=
      fun waits => nomatch started.attempt.symm.trans waits
    simp only [attemptOf, AttemptView.next, if_neg apart]
    exact started.attempt
  · exact absurd ⟨(inv.tx.draining state wait).reliable, state, wait⟩ other

/-! ### Expiry

The source compares the wrapped difference of two clock readings, which is not larger than the time
between them. -/

theorem Started.elapsed {startTs nowMs : UInt32} {ended : Nat}
    (started : Started time view startTs ended) (clock : nowMs = UInt32.ofNat time)
    (elapsed : nowMs - startTs ≥ ackTimeoutMs) : ended + ackTimeoutMs.toNat ≤ time := by
  have wrapped : ackTimeoutMs.toNat ≤ (nowMs - startTs).toNat := UInt32.le_iff_toNat_le.mp elapsed
  rw [UInt32.toNat_sub, clock, started.clock, UInt32.toNat_ofNat', UInt32.toNat_ofNat'] at wrapped
  have past := started.past
  omega

theorem TimerInv.expire (inv : TimerInv time ctx.config.ackTimeoutMs log ctx.tx ctx.port)
    (state : ctx.tx.txState = .waitingAck) (due : TimerDue ctx)
    (clock : ctx.nowMs = UInt32.ofNat time) (obs : Obs) :
    Timely ctx.config.ackTimeoutMs ((time, obs) :: log) := by
  obtain ⟨ended, started⟩ := inv.tx.waiting state due.waiting
  exact ⟨fun _ => ⟨ended, started.attempt, started.elapsed clock due.elapsed⟩, inv.line.timely⟩

/-! ### Moves

A move marks an expiry, begins or ends an attempt, or leaves the attempt alone. -/

theorem LineTimer.opened (line : LineTimer ackTimeoutMs log port) (lease : port.txInflight = false)
    (handle : UInt32) (entry : TxEntry) :
    LineTimer ackTimeoutMs ((time, .opened handle entry) :: log) port where
  timely := line.timely.cons rfl
  port :=
    { required := line.port.required
      flight := fun inflight => nomatch lease.symm.trans inflight
      owned := nofun }

theorem TimerInv.drainRequired (timer : TimerInv time ackTimeoutMs log tx port) (required : Bool)
    (drain : port.txDrainPending = false) :
    TimerInv time ackTimeoutMs ((time, .drainRequired required) :: log) tx
      { port with txDrainRequired := required } where
  line := ⟨timer.line.timely.cons rfl, ⟨rfl, timer.line.port.flight, timer.line.port.owned⟩⟩
  tx := by
    refine ⟨fun state wait => ?_, fun state wait => ?_, timer.tx.pending⟩
    · obtain ⟨ended, started⟩ := timer.tx.waiting state wait
      exact ⟨ended, started.attempt, started.past, started.clock⟩
    · exact nomatch drain.symm.trans (timer.tx.draining state wait).pending

/-- The transaction ends on the acknowledgement or the cancel; a queued copy of its unit is dropped. -/
theorem LineTimer.ended (line : LineTimer ackTimeoutMs log ctx.port) (inv : Inv ctx)
    (untimed : obs.untimed = true) :
    LineTimer ackTimeoutMs ((time, obs) :: log) (queueDropped ctx.port) := by
  rw [← queueDropped_eq]
  split
  case isTrue own =>
    have lease := inv.port.no_lease (Bool.and_eq_true_iff.mp own).1
    exact line.called lease untimed rfl (fun _ => rfl)
  case isFalse => exact line.silent untimed

theorem RxMove.timer (move : RxMove label ctx after) (inv : Inv ctx)
    (timer : TimerInv time ackTimeoutMs log ctx.tx ctx.port) :
    Timed time ackTimeoutMs log ctx after := by
  cases move with
  | quiet => exact Timed.still (timer.congr rfl) rfl
  | control answer pending idle lease drain =>
    have free : Draining (attemptOf log) ctx.port → False := by
      intro draining
      exact nomatch drain.symm.trans draining.pending
    have held : ∀ bytes (other : TxPort), other.txDrainRequired = ctx.port.txDrainRequired →
        other.txInflight = ctx.port.txInflight →
        TimerInv time ackTimeoutMs
          ((time, .sinkCall (nextToken ctx.port.txToken) .control bytes answer) :: log) ctx.tx
          other := by
      intro bytes other required same
      refine ⟨timer.line.called lease rfl required (fun inflight => ?_), timer.tx.undrained free⟩
      exact nomatch lease.symm.trans (same.symm.trans inflight)
    cases answer with
    | started | sent | busy | failed => exact Timed.noted (held _ _ rfl rfl) rfl
  | receive => exact Timed.still timer rfl
  | accept view rx event lease free type fresh ack | duplicate view known ack =>
    refine Timed.trans (show _ = [_] ++ ctx.trace from rfl) (ack.timer ?_)
    exact timer.silent rfl
  | acked =>
    exact Timed.pushTx
      (Timed.noted ⟨timer.line.ended inv rfl, TxTimer.settled nofun timer.tx.pending⟩ rfl) rfl nofun

/-- A reliable submission from a context that is in order up to the transaction, and what its caller
makes of it. -/
theorem Sent.timed {failed booked : WlCtx} {newer : List Obs} {before : WlCtx}
    (submission : Sent ctx sent ok) (trace : ctx.trace = newer ++ before.trace)
    (line : LineTimer ackTimeoutMs (newer.map (fun obs => (time, obs)) ++ log) ctx.port)
    (lease : ctx.port.txInflight = false) (pending : ctx.tx.txPendingEvent ≠ .txTimeout)
    (clock : ctx.nowMs = UInt32.ofNat time) (went : ok = true → ∀ {log : List TimedObs},
      TimerInv time ackTimeoutMs log sent.tx sent.port → Timed time ackTimeoutMs log sent booked)
    (gave : ok = false → sent.tx.txPendingEvent ≠ .txTimeout → sent.port.txInflight = false →
      ∀ {log : List TimedObs}, LineTimer ackTimeoutMs log sent.port →
        Timed time ackTimeoutMs log sent failed) :
    Timed time ackTimeoutMs log before (if ok then booked else failed) := by
  obtain ⟨_, continued, kept, still, landed, agrees⟩ := submission.timer line lease pending clock
  refine Timed.trans trace (Timed.trans continued ?_)
  cases ok with
  | true => exact went rfl ⟨kept, agrees rfl⟩
  | false => exact gave rfl still (landed rfl) kept

theorem Sent.startTs (submission : Sent ctx sent true) (waits : sent.tx.txState = .waitingAck) :
    sent.tx.txStartTs = ctx.nowMs := by
  generalize went : true = ok at submission
  cases submission with
  | noSink => exact nomatch went
  | answered answer =>
    cases answer with
    | sent => rfl
    | started | busy => exact nomatch waits
    | failed => exact nomatch went

theorem Move.timer (move : Move label ctx after) (inv : Inv ctx)
    (clock : ctx.nowMs = UInt32.ofNat time)
    (timer : TimerInv time ctx.config.ackTimeoutMs log ctx.tx ctx.port) :
    Timed time ctx.config.ackTimeoutMs log ctx after := by
  cases move with
  | rx move => exact move.timer inv timer
  | publish pending =>
    have posted := timer.silent (untimed_posted timer.tx.pending ctx.tx.txHandle)
    exact Timed.noted
      ⟨posted.line, posted.tx.waiting, posted.tx.draining, nofun⟩ rfl
  | complete => exact Timed.noted ((timer.silent rfl).congr rfl) rfl
  | deliver => exact Timed.noted (timer.silent rfl) rfl
  | resubmitReliable sent ok pending claim queue lease drain kind submission =>
    -- the four submissions go through `timed`: what it leaves open is the answer of the sink
    refine submission.timed (show _ = [.resubmitted true] ++ ctx.trace from rfl)
      (timer.line.silent rfl) lease timer.tx.pending clock ?_ ?_
    · exact fun _ _ agreed => Timed.still agreed rfl
    · intro _ still landed log kept
      have emptied : LineTimer ctx.config.ackTimeoutMs log (unqueued sent).port :=
        ⟨kept.timely, kept.port.idle landed rfl (fun _ => rfl)⟩
      exact Timed.pushTx (Timed.still ⟨emptied, TxTimer.settled nofun still⟩ rfl) rfl nofun
  | resubmitUnreliable sent ok pending claim queue lease drain kind submission =>
    have marked := timer.silent (show (Obs.resubmitted false).untimed = true from rfl)
    obtain ⟨newer, trace, kept⟩ := submission.timer marked lease drain
    refine @Timed.trans ctx _ _ _ _ (ctx.note (.resubmitted false)) [.resubmitted false] rfl
      ⟨newer, ?_⟩
    cases ok with
    | true => exact ⟨trace, kept⟩
    | false =>
      refine ⟨trace, ⟨kept.line.timely, ?_⟩, kept.tx.waiting, fun state wait => ?_, kept.tx.pending⟩
      · exact kept.line.port.idle (submission.lease lease) rfl (fun _ => rfl)
      · exact { kept.tx.draining state wait with }
  | timeoutFail lease queue claim state left due open_ =>
    -- here and in the retry the deadline has passed, which is what `Timely` asks for
    unfold failTransaction
    rw [wlPushTxEvent_eq _ rfl, if_neg (by simp [eventDeferred, lease, open_])]
    refine Timed.noted ⟨⟨timer.expire state due clock _, ?_⟩, TxTimer.settled ?_ ?_⟩ rfl
    · exact timer.line.port
    · exact nofun
    · exact timer.tx.pending
  | timeoutRetry sent ok nowMs pending lease queue claim state left submission due same =>
    have expired : LineTimer ctx.config.ackTimeoutMs
        ((time, .timeoutRetry ctx.port.txDrainPending ctx.sink) :: log) ctx.port :=
      ⟨timer.expire state due clock _, timer.line.port⟩
    refine submission.timed
      (show _ = [.timeoutRetry ctx.port.txDrainPending ctx.sink] ++ ctx.trace from rfl)
      expired lease timer.tx.pending clock ?_ ?_
    · intro went log agreed
      subst went
      refine Timed.still ⟨agreed.line, fun waits wait => ?_, agreed.tx.draining, agreed.tx.pending⟩ rfl
      obtain ⟨ended, started⟩ := agreed.tx.waiting waits wait
      refine ⟨ended, started.attempt, started.past, ?_⟩
      exact (if_pos waits).trans ((same.trans (submission.startTs waits).symm).trans started.clock)
    · intro _ still _ log kept
      exact Timed.pushTx (Timed.still ⟨kept, TxTimer.settled nofun still⟩ rfl) rfl nofun
  | consumedControl ioResult inflight =>
    have lease := inv.port.no_data inflight
    have away := timer.line.port.landed lease
    refine Timed.noted (timer.returnedOther away (fun draining => ?_) ioResult rfl lease) rfl
    exact nomatch draining.control.symm.trans inflight
  | consumedUnreliable ioResult inflight kind =>
    -- an attempt in flight would own the lease, and its kind would be reliable
    have away : ∀ token, (attemptOf log).attempt ≠ .inFlight token := by
      intro token flying
      exact nomatch kind.symm.trans (timer.line.port.owned token flying).2
    refine Timed.noted (timer.returnedOther away (fun draining => ?_) ioResult rfl rfl) rfl
    exact nomatch draining.lease.symm.trans inflight
  | consumedCancelled ioResult inflight kind requested =>
    have state := (inv.port.cancelState.mp requested).1
    refine Timed.noted ⟨(timer.line.returned time inflight kind ioResult).1, TxTimer.settled ?_ ?_⟩ rfl
    · exact fun waits => nomatch state.symm.trans waits
    · exact timer.tx.pending
  | consumedSettled ioResult inflight kind requested settled =>
    refine Timed.noted ⟨(timer.line.returned time inflight kind ioResult).1, TxTimer.settled ?_ ?_⟩ rfl
    · intro waits
      rcases inv.port.leasedState inflight kind with state | state | state
      · exact settled state
      · exact nomatch state.symm.trans waits
      · exact nomatch state.symm.trans waits
    · exact timer.tx.pending
  | consumedOk inflight kind =>
    obtain ⟨line, attempt⟩ := timer.line.returned time inflight kind .ok
    exact Timed.noted ⟨line, timer.consumedOk inv inflight kind clock attempt⟩ rfl
  | consumedDeferred ioResult failed inflight kind sending left pending =>
    have line := (timer.line.returned time inflight kind ioResult).1
    refine Timed.noted ⟨⟨line.timely, line.port.idle rfl rfl nofun⟩,
      TxTimer.settled ?_ timer.tx.pending⟩ rfl
    exact fun waits => nomatch sending.symm.trans waits
  | consumedRetry sent ok ioResult failed inflight kind sending left pending submission =>
    refine submission.timed (show _ = [.consumed ctx.port.txToken (ioResult == .ok)] ++ ctx.trace from rfl)
      (timer.line.returned time inflight kind ioResult).1 rfl timer.tx.pending clock ?_ ?_
    · intro _ log agreed
      exact Timed.still ⟨agreed.line, agreed.tx.waiting, agreed.tx.draining, agreed.tx.pending⟩ rfl
    · intro _ still _ log kept
      exact Timed.pushTx (Timed.still ⟨kept, TxTimer.settled nofun still⟩ rfl) rfl nofun
  | consumedFail ioResult failed inflight kind =>
    have line := (timer.line.returned time inflight kind ioResult).1
    exact Timed.pushTx (Timed.noted ⟨line, TxTimer.settled nofun timer.tx.pending⟩ rfl) rfl nofun
  | drained ioResult pending other => exact Timed.noted (timer.drained other ioResult) rfl
  | drainedOk pending awaits =>
    have draining := timer.tx.draining awaits.state awaits.wait
    refine Timed.noted ⟨timer.line.drained _ _ rfl rfl rfl rfl,
      fun _ _ => ⟨time, ?_, Nat.le_refl _, clock⟩, nofun, timer.tx.pending⟩ rfl
    simp only [attemptOf, AttemptView.next, draining.attempt, if_true]
    rfl
  | drainedFail =>
    exact Timed.pushTx (Timed.noted ⟨timer.line.drained _ _ rfl rfl rfl rfl,
      TxTimer.settled nofun timer.tx.pending⟩ rfl) rfl nofun
  | openReliable sent ok messageId payload nowMs free idle placed fits named room submission same =>
    refine submission.timed (show _ = [.opened _ _] ++ ctx.trace from rfl)
      (timer.line.opened free.lease _ _) free.lease timer.tx.pending (same.trans clock) ?_ ?_
    · intro _ log agreed
      exact Timed.still ⟨agreed.line, agreed.tx.waiting, agreed.tx.draining, agreed.tx.pending⟩ rfl
    · exact fun _ still _ _ kept => Timed.noted ⟨kept.silent rfl, TxTimer.settled nofun still⟩ rfl
  | sendUnreliable sent ok messageId data unit free named size image submission =>
    exact submission.timer timer free.lease free.drain
  | spendSequence =>
    exact Timed.still ⟨timer.line, timer.tx.waiting, timer.tx.draining, timer.tx.pending⟩ rfl
  | claim | store | spend => exact Timed.still timer rfl
  | cancel =>
    exact Timed.noted ⟨timer.line.ended inv rfl, TxTimer.settled nofun timer.tx.pending⟩ rfl
  | take => exact Timed.noted ⟨timer.line.silent rfl, TxTimer.settled nofun nofun⟩ rfl
  | drainRequired required lease control drain =>
    exact Timed.noted (timer.drainRequired required drain) rfl

/-! ### Passes

All calls of a pass bring its time along, those of the callbacks and of interrupting producers
included. -/

/-- What holds between two calls of the pass at `time`, or between two passes after it. -/
structure InPass (time : Nat) (log : List TimedObs) (ctx reached : WlCtx) : Prop where
  inv : Inv reached
  clock : reached.nowMs = UInt32.ofNat time
  config : reached.config = ctx.config
  timed : Timed time ctx.config.ackTimeoutMs log ctx reached

namespace InPass

variable (held : InPass time log ctx reached)

include held

theorem move (move : Move label reached after) : InPass time log ctx after := by
  obtain ⟨_, trace, timer⟩ := held.timed
  refine ⟨move.inv held.inv, (congrArg (·.2) move.settings).trans held.clock,
    move.config.trans held.config, Timed.trans trace ?_⟩
  rw [← held.config] at timer ⊢
  exact move.timer held.inv held.clock timer

theorem step {op : Op} (inPass : op.inPass (UInt32.ofNat time)) :
    InPass time log ctx (step reached op) := by
  obtain ⟨clock, set, _, trail⟩ := step_clocked held.inv op
  have same : clock = reached.nowMs := by
    rcases set with kept | given
    · exact kept
    · rcases inPass with none | some
      · exact nomatch none.symm.trans given
      · rw [held.clock]
        exact Option.some.inj (given.symm.trans some)
  rw [same] at trail
  exact trail.induct (InPass time log ctx) held (fun move held => held.move move)

theorem run (ops : List Op) (inPass : ∀ op ∈ ops, op.inPass (UInt32.ofNat time)) :
    InPass time log ctx (run reached ops) := by
  induction ops generalizing reached with
  | nil => exact held
  | cons op ops ih =>
    apply ih (held.step (inPass op List.mem_cons_self))
    exact fun op member => inPass op (List.mem_cons_of_mem _ member)

end InPass

/-- `after` is reached by calls that bring the time of the pass along, or none. -/
def PassCalls (nowMs : UInt32) (ctx after : WlCtx) : Prop :=
  ∃ ops, (∀ op ∈ ops, op.inPass nowMs) ∧ after = run ctx ops

namespace PassCalls

variable {nowMs : UInt32} {middle : WlCtx}

theorem refl (nowMs : UInt32) (ctx : WlCtx) : PassCalls nowMs ctx ctx :=
  ⟨[], nofun, rfl⟩

theorem trans (first : PassCalls nowMs ctx middle) (second : PassCalls nowMs middle after) :
    PassCalls nowMs ctx after := by
  obtain ⟨before, early, rfl⟩ := first
  obtain ⟨behind, late, rfl⟩ := second
  refine ⟨before ++ behind, fun op member => ?_, (run_append ctx before behind).symm⟩
  rcases List.mem_append.mp member with old | new
  · exact early op old
  · exact late op new

theorem run {ops : List Op} (inPass : ∀ op ∈ ops, op.inPass nowMs) :
    PassCalls nowMs ctx (Wirelink.run ctx ops) :=
  ⟨ops, inPass, rfl⟩

theorem call {op : Op} (inPass : op.inPass nowMs) : PassCalls nowMs ctx (step ctx op) :=
  ⟨[op], fun other member => by rw [List.mem_singleton.mp member]; exact inPass, rfl⟩

end PassCalls

section pass

variable {nowMs : UInt32} {hooks : WlPumpHooks} {preempt : PumpSite → Nat → List Op}

theorem PassTimed.interrupt (timed : PassTimed nowMs hooks preempt) (site : PumpSite) (left : Nat)
    (ctx : WlCtx) : PassCalls nowMs ctx (run ctx (preempt site left)) :=
  PassCalls.run (fun op member => .inl (timed.preempt site left op member))

theorem pumpService_calls (timed : PassTimed nowMs hooks preempt) (ctx : WlCtx)
    (result : WlPumpResult) : PassCalls nowMs ctx (pumpService hooks ctx result).1 := by
  unfold pumpService
  split
  case h_1 => exact PassCalls.refl nowMs ctx
  case h_2 service present =>
    split
    · exact PassCalls.run (timed.service service present ctx)
    · exact PassCalls.refl nowMs ctx

theorem pumpDischarge_calls (ctx : WlCtx) (event : WlEvent) :
    PassCalls nowMs ctx (pumpDischarge ctx event) := by
  unfold pumpDischarge
  split
  · exact @PassCalls.call ctx nowMs (.release event.type event.lease) (.inl rfl)
  · exact @PassCalls.call ctx nowMs (.take event.handle) (.inl rfl)

variable (timed : PassTimed nowMs hooks preempt)

include timed

theorem pumpEvent_calls (left : Nat) (ctx : WlCtx) (event : WlEvent) :
    PassCalls nowMs ctx (pumpEvent hooks (preempt .settle left) ctx event) := by
  have settle : ∀ (seen : WlCtx) (disposition : WlPumpEventDisposition),
      PassCalls nowMs seen
        (if disposition = .unhandled then pumpDischarge (run seen (preempt .settle left)) event
        else seen) := by
    intro seen disposition
    split
    · exact (timed.interrupt .settle left seen).trans (pumpDischarge_calls _ event)
    · exact PassCalls.refl nowMs seen
  unfold pumpEvent
  split
  case isTrue =>
    split
    rename_i seen disposition shown
    split at shown
    case h_1 =>
      cases shown
      exact settle _ _
    case h_2 onEvent present =>
      cases shown
      exact (PassCalls.run (timed.onEvent onEvent present ctx event)).trans (settle _ _)
  case isFalse => exact PassCalls.refl nowMs ctx

/-- The loop of a pass, by induction on the iterations left. -/
theorem pumpLoop_calls (left : Nat) (ctx : WlCtx) (result : WlPumpResult) :
    PassCalls nowMs ctx (pumpLoop nowMs hooks preempt left ctx result).1 := by
  induction left generalizing ctx result with
  | zero => exact PassCalls.refl nowMs ctx
  | succ left ih =>
    have asked := (timed.interrupt .readiness left ctx).trans
      (@PassCalls.call _ nowMs (.readiness nowMs) (.inl rfl))
    rw [step] at asked
    unfold pumpLoop
    generalize wlLinkGetReadiness (run ctx (preempt .readiness left)) nowMs = answer at asked ⊢
    rcases answer with ⟨seen, _ | _⟩
    · exact asked
    dsimp only at asked ⊢
    split
    case isFalse => exact asked
    case isTrue =>
      have polled := asked.trans ((timed.interrupt .poll left seen).trans
        (@PassCalls.call _ nowMs (.poll nowMs) (.inr rfl)))
      rw [step] at polled
      generalize wlPoll (run seen (preempt .poll left)) nowMs = answer at polled ⊢
      rcases answer with ⟨turned, err | event⟩
      · cases err <;> exact polled
      · exact polled.trans ((pumpEvent_calls timed left turned event).trans (ih _ _))

theorem pumpApplication_calls (ctx : WlCtx) (result : WlPumpResult) :
    PassCalls nowMs ctx (pumpApplication hooks ctx result).1 := by
  unfold pumpApplication
  split
  case h_1 => exact PassCalls.refl nowMs ctx
  case h_2 applicationStep present =>
    split
    · exact PassCalls.run (timed.applicationStep applicationStep present ctx)
    · exact PassCalls.refl nowMs ctx

theorem wlPumpStep_calls {eventBudget : Nat}
    (accepted : (wlPumpStep ctx nowMs eventBudget hooks preempt).2.isOk = true) :
    PassCalls nowMs { ctx with nowMs := nowMs }
      (wlPumpStep ctx nowMs eventBudget hooks preempt).1 := by
  unfold wlPumpStep at accepted ⊢
  split at accepted
  · exact nomatch accepted
  split at accepted
  · exact nomatch accepted
  rw [if_neg ‹_›, if_neg ‹_›]
  exact (pumpService_calls timed _ _).trans
    ((pumpLoop_calls timed _ _ _).trans (pumpApplication_calls timed _ _))

end pass

/-! ### Runs -/

/-- What holds after a run driven by a pump. -/
structure PumpInv (time : Nat) (log : List TimedObs) (ctx : WlCtx) : Prop where
  inv : Inv ctx
  clock : ctx.nowMs = UInt32.ofNat time
  timer : TimerInv time ctx.config.ackTimeoutMs log ctx.tx ctx.port

theorem PumpInv.begin (held : PumpInv time log ctx) : InPass time log ctx ctx :=
  ⟨held.inv, held.clock, rfl, Timed.still held.timer rfl⟩

theorem InPass.stamp (held : InPass time log ctx reached) :
    PumpInv time (stamped time ctx reached ++ log) reached := by
  obtain ⟨newer, trace, timer⟩ := held.timed
  have fresh : stamped time ctx reached = newer.map (fun obs => (time, obs)) := by
    rw [stamped, trace, List.length_append, Nat.add_sub_cancel, List.take_left]
  rw [← held.config] at timer
  exact ⟨held.inv, held.clock, by rw [fresh]; exact timer⟩

theorem PumpInv.advance (held : PumpInv time log ctx) {now : Nat} (later : time ≤ now) :
    PumpInv now log { ctx with nowMs := UInt32.ofNat now } := by
  refine ⟨held.inv.clock _, rfl, held.timer.line, fun state wait => ?_, held.timer.tx.draining,
    held.timer.tx.pending⟩
  obtain ⟨ended, started⟩ := held.timer.tx.waiting state wait
  exact ⟨ended, started.attempt, Nat.le_trans started.past later, started.clock⟩

theorem pumpInv_init {config : WlConfig} {storage : WlStorage} {answers : List WlSinkResult}
    {start : WlCtx} (accepted : wlInit config storage answers = .ok start) : PumpInv 0 [] start := by
  have inv := inv_of_init accepted
  obtain ⟨_, _, _, _, rfl, _⟩ := wlInit_ok accepted
  refine ⟨inv, rfl, ⟨trivial, rfl, nofun, nofun⟩,
    TxTimer.settled nofun nofun⟩

/-- The invariant along every run, by induction on its passes and the calls between them. -/
theorem PumpRun.pumpInv (driven : PumpRun time log ctx) : PumpInv time log ctx := by
  induction driven with
  | init accepted => exact pumpInv_init accepted
  | pass _ now eventBudget hooks preempt later timed accepted ih =>
    obtain ⟨calls, inPass, reached⟩ := wlPumpStep_calls timed accepted
    rw [reached]
    exact ((ih.advance later).begin.run calls inPass).stamp
  | between _ op untimed ih => exact (ih.begin.step (.inl untimed)).stamp

/-- Under a pump whose clock does not go back, the ACK timer expires only after the latest attempt has
ended and the timeout has passed since the pass that observed its end. -/
theorem ack_timer_timely (driven : PumpRun time log ctx) : Timely ctx.config.ackTimeoutMs log :=
  driven.pumpInv.timer.line.timely

/-- Hooks of an application that sends one reliable message when it is asked to. -/
def sendingHooks (nowMs : UInt32) : WlPumpHooks :=
  { service := none
    adapterReadiness := none
    applicationStep := some (fun _ => ([.setSink true, .sendReliable 5 (.bytes [9]) nowMs], 1))
    applicationReadiness := some (fun _ => { runnable := true, blocked := false, nextDeadlineMs := none })
    onEvent := none }

/-- Hooks of an application that does nothing. -/
def silentHooks : WlPumpHooks :=
  { service := none, adapterReadiness := none, applicationStep := none, applicationReadiness := none,
    onEvent := none }

theorem sendingHooks_timed (nowMs : UInt32) : PassTimed nowMs (sendingHooks nowMs) (fun _ _ => []) where
  service := nofun
  onEvent := nofun
  applicationStep := by
    intro applicationStep present ctx op member
    cases present
    rcases List.mem_cons.mp member with same | rest
    · rw [same]
      exact .inl rfl
    · rw [List.mem_singleton.mp rest]
      exact .inr rfl
  preempt := nofun

theorem silentHooks_timed (nowMs : UInt32) : PassTimed nowMs silentHooks (fun _ _ => []) where
  service := nofun
  onEvent := nofun
  applicationStep := nofun
  preempt := nofun

/-- The 32-bit clock wraps between the send and the retry, ten milliseconds later. -/
theorem retry_after_wrap_timely :
    ∃ log ctx, PumpRun 4294967301 log ctx ∧ (4294967301, .timeoutRetry false true) ∈ log ∧
      Timely ctx.config.ackTimeoutMs log := by
  have start : PumpRun 0 [] (smallStart [.sent, .sent]) :=
    PumpRun.init (show wlInit smallConfig smallStorage [.sent, .sent] = _ from rfl)
  have sent := start.pass 4294967291 1 (sendingHooks (UInt32.ofNat 4294967291)) (fun _ _ => [])
    (by decide) (sendingHooks_timed _) (by decide +kernel)
  have retried := sent.pass 4294967301 4 silentHooks (fun _ _ => []) (by decide)
    (silentHooks_timed _) (by decide +kernel)
  exact ⟨_, _, retried, by decide +kernel, ack_timer_timely retried⟩

end Wirelink
