/-
Module: Wirelink.Proofs.Readiness
Purpose: The scheduling hint against the poll it announces. Each stage of wl_poll is matched with
  the condition of the hint that covers it; only the submission of a pending ACK under an open
  payload claim is not covered.
Trusted boundary: none
-/
import Wirelink.Proofs.Ack
import Wirelink.Spec.Schedule

namespace Wirelink

variable {ctx : WlCtx}

/-! ### A look at the ring

The hint searches the ring as the poll does, and both write the search cache. A search that failed
leaves a cache by which the next one fails as well. -/

theorem consumerFind_uncached (ring : RxRing) (value : UInt8) :
    (ring.consumerFind value).1.uncached = ring.uncached := by
  unfold RxRing.consumerFind
  split
  · rfl
  simp only
  split
  · rfl
  · split
    · rfl
    · rfl

theorem scan_readable (ring : RxRing) (value : UInt8) (fuel : Nat) :
    ring.scan value fuel ring.readable = none := by
  cases fuel with
  | zero => rfl
  | succ => rw [RxRing.scan, if_neg (Nat.lt_irrefl _)]

variable {ring : RxRing}

theorem consumerFind_scanned (present : ring.capacity ≠ 0) (valid : ring.findValid = true)
    (read : ring.findRead = ring.readCursor) (scanned : ring.findScanned = ring.readable)
    (missed : ring.findFound = false) :
    (ring.consumerFind 0).2 = .error .noData := by
  unfold RxRing.consumerFind
  simp [present, valid, read, scanned, missed, scan_readable]

theorem consumerFind_again {searched : RxRing} {err : WlErr}
    (failed : ring.consumerFind 0 = (searched, .error err)) :
    ∃ code, (searched.consumerFind 0).2 = .error code := by
  unfold RxRing.consumerFind at failed
  split at failed
  · rename_i absent
    obtain ⟨same, _⟩ := Prod.mk.inj failed
    subst same
    exact ⟨.notInitialized, by simp [RxRing.consumerFind, absent]⟩
  rename_i present
  simp only at failed
  split at failed
  · simp at failed
  generalize ring.scan 0 (ring.readable + 1) _ = found at failed
  cases found with
  | some => simp at failed
  | none =>
    obtain ⟨marked, _⟩ := Prod.mk.inj failed
    subst marked
    exact ⟨.noData, consumerFind_scanned present rfl rfl rfl rfl⟩

/-! ### Stages of a poll that find nothing to do

For each stage a condition under which it does nothing; a dormant context meets all of them. -/

/-- The receive side holds nothing that a poll could parse. -/
structure NoInput (ctx : WlCtx) : Prop where
  overflow : ctx.config.envelope = .cobsStream → ctx.rx.rxRing.overflowPending = false
  delimiter : ctx.config.envelope = .cobsStream → ∃ code, (ctx.rx.rxRing.consumerFind 0).2 = .error code
  units : ctx.config.envelope ≠ .cobsStream → ctx.rx.rxUnits.consumerHasData = false

/-- Only the search cache is different. -/
def Searched (ctx after : WlCtx) : Prop :=
  ∃ ring, ring.uncached = ctx.rx.rxRing.uncached ∧ after = setRing ctx ring

theorem Searched.refl (ctx : WlCtx) : Searched ctx ctx :=
  ⟨ctx.rx.rxRing, rfl, rfl⟩

theorem Searched.settledPart {after : WlCtx} (searched : Searched ctx after) :
    after.settledPart = ctx.settledPart := by
  obtain ⟨_, same, rfl⟩ := searched
  simp only [WlCtx.settledPart, setRing, same]

theorem takeOverflow_none (none : ring.overflowPending = false) :
    ring.takeOverflow = (ring, 0) := by
  unfold RxRing.takeOverflow
  split
  · rfl
  · rename_i present
    have zero : ring.overflowEvents = 0 := by
      simpa [RxRing.overflowPending, present] using none
    simp [← zero]

theorem wlLinkProcessRx_idle (idle : NoInput ctx) : Searched ctx (wlLinkProcessRx ctx) := by
  unfold wlLinkProcessRx
  split
  · rename_i packet
    unfold wlFrameProcessUnits
    split
    · exact Searched.refl ctx
    · rename_i initialized
      have empty : ctx.rx.rxUnits.consumerPeek = none := by
        have none := idle.units packet
        simp only [RxUnitQueue.consumerHasData, Bool.and_eq_false_iff, bne_eq_false_iff_eq] at none
        unfold RxUnitQueue.consumerPeek
        rw [if_pos]
        rcases none with absent | same
        · exact .inl (by simp [absent])
        · exact .inr same
      unfold processUnitsLoop
      split
      · exact Searched.refl ctx
      · rw [empty]
        exact Searched.refl ctx
  · rename_i stream
    rw [not_not] at stream
    have recovered : recoverOverflow ctx = ctx := by
      unfold recoverOverflow
      rw [takeOverflow_none (idle.overflow stream)]
      rfl
    unfold wlFrameProcessStream
    rw [recovered]
    obtain ⟨_, missed⟩ := idle.delimiter stream
    unfold processStreamLoop
    dsimp only
    split
    · exact Searched.refl ctx
    · have kept := consumerFind_uncached ctx.rx.rxRing 0
      generalize ctx.rx.rxRing.consumerFind 0 = search at missed kept
      obtain ⟨ring, _⟩ := search
      subst missed
      exact ⟨ring, kept, rfl⟩

/-- A context in which no stage of a poll at the given time has anything to do. -/
structure Dormant (ctx : WlCtx) (nowMs : UInt32) : Prop where
  slot : ctx.slot.hasEvent = false
  completions : ctx.port.txUnreliableCompletions = 0
  pending : ctx.tx.txPendingEvent = .none ∨
    ctx.port.txInflight = true ∧ ctx.port.inFlightReliable = true
  input : ctx.port.controlPending = false → ctx.slot.rxEventLeased = false → NoInput ctx
  control : ctx.port.controlPending = true → ctx.port.controlInflight = true ∨
    ctx.port.txInflight = true ∨ ctx.port.txDrainPending = true ∨ ctx.port.txWritable = false
  queued : ctx.port.controlPending = false → ctx.claim.txClaimActive = false →
    ctx.port.txQueued = true → ctx.port.txInflight = false → ctx.port.txDrainPending = false →
    ctx.port.txWritable = false
  timer : ctx.port.controlPending = false → ctx.port.txInflight = false →
    ctx.port.txQueued = false → ctx.claim.txClaimActive = false → ctx.tx.txState = .waitingAck →
    ctx.tx.txWaitState = .ack → ctx.config.ackTimeoutMs ≠ 0 →
    nowMs - ctx.tx.txStartTs < ctx.config.ackTimeoutMs

namespace Dormant

variable {nowMs : UInt32}

variable (dormant : Dormant ctx nowMs)

include dormant

theorem atClock (clock : UInt32) : Dormant { ctx with nowMs := clock } nowMs :=
  { dormant with
    input := fun free unleased =>
      let idle := dormant.input free unleased
      ⟨idle.overflow, idle.delimiter, idle.units⟩ }

theorem submitControl : wlSubmitControl ctx = (ctx, .ok) := by
  unfold wlSubmitControl
  rw [if_pos]
  cases pending : ctx.port.controlPending with
  | false => exact .inl (by simp)
  | true =>
    rcases dormant.control pending with inflight | lease | drain | blocked
    · exact .inr (.inl inflight)
    · exact .inr (.inr (.inl lease))
    · exact .inr (.inr (.inr (.inl drain)))
    · exact .inr (.inr (.inr (.inr (by simp [blocked]))))

theorem publishPending : pollPublishPending ctx = ctx := by
  unfold pollPublishPending
  rw [if_neg]
  rintro ⟨some, _, unleased⟩
  rcases dormant.pending with none | leased
  · exact some none
  · exact unleased leased

theorem receive : Searched ctx (pollReceive ctx) := by
  unfold pollReceive
  split
  · rename_i free
    exact wlLinkProcessRx_idle
      (dormant.input (eq_false_of_ne_true free.1) (eq_false_of_ne_true free.2.2))
  · exact Searched.refl ctx

theorem resubmit (ring : RxRing) : pollResubmit (setRing ctx ring) = setRing ctx ring := by
  unfold pollResubmit
  rw [if_neg]
  rintro ⟨_, free, unclaimed, queued, idle, drained, writable⟩
  have blocked := dormant.queued (eq_false_of_ne_true free) (eq_false_of_ne_true unclaimed) queued
    (eq_false_of_ne_true idle) (eq_false_of_ne_true drained)
  exact absurd (blocked.symm.trans writable) (by simp)

theorem timeout (ring : RxRing) : pollTimeout (setRing ctx ring) nowMs = setRing ctx ring := by
  unfold pollTimeout
  rw [if_neg]
  rintro ⟨_, free, idle, unqueued, unclaimed, state, wait, _, timed, due⟩
  have early := dormant.timer (eq_false_of_ne_true free) (eq_false_of_ne_true idle)
    (eq_false_of_ne_true unqueued) (eq_false_of_ne_true unclaimed) state wait timed
  exact absurd due (UInt32.not_le.mpr early)

theorem progress : Searched ctx (wlPollTransportProgress ctx nowMs) := by
  unfold wlPollTransportProgress
  rw [dormant.submitControl, dormant.publishPending]
  obtain ⟨ring, same, received⟩ := dormant.receive
  rw [received, dormant.resubmit, dormant.timeout]
  exact ⟨ring, same, rfl⟩

theorem quiet (initialized : ctx.initialized = true) : PollQuiet ctx nowMs := by
  have reached : ∃ ring, ring.uncached = ctx.rx.rxRing.uncached ∧
      (if pollHasWork { ctx with nowMs := nowMs } then
        wlPollTransportProgress { ctx with nowMs := nowMs } nowMs
      else { ctx with nowMs := nowMs }) = setRing { ctx with nowMs := nowMs } ring := by
    split
    · exact (dormant.atClock nowMs).progress
    · exact ⟨ctx.rx.rxRing, rfl, rfl⟩
  obtain ⟨ring, same, final⟩ := reached
  have completed : pollCompletion (setRing { ctx with nowMs := nowMs } ring) =
      setRing { ctx with nowMs := nowMs } ring := by
    unfold pollCompletion
    rw [if_neg]
    rintro ⟨_, some⟩
    exact some dormant.completions
  have polled : wlPoll ctx nowMs =
      (setRing { ctx with nowMs := nowMs } ring, .error .noData) := by
    unfold wlPoll
    rw [if_neg (by simp [initialized])]
    dsimp only
    rw [final, completed]
    unfold pollDeliver
    simp only [setRing, dormant.slot]
    simp
  unfold PollQuiet
  rw [polled]
  refine ⟨rfl, ?_⟩
  simp only [WlCtx.settledPart, setRing, same]

end Dormant

/-! ### What the hint has looked at

The hint tests the conditions of the stages, and looks at the receive side only if nothing else
makes the link runnable. -/

/-- A pending ACK or a queued DATA unit could go out. -/
def lineOpen (ctx : WlCtx) : Bool :=
  ctx.port.txWritable && !ctx.port.txInflight && !ctx.port.controlInflight &&
    !ctx.port.txDrainPending && !ctx.claim.txClaimActive

/-- The ACK timer is what the link waits for. -/
def ackTimed (ctx : WlCtx) : Bool :=
  !ctx.port.controlPending && !ctx.port.txInflight && !ctx.port.txQueued &&
    !ctx.claim.txClaimActive && ctx.tx.txState == .waitingAck && ctx.tx.txWaitState == .ack &&
    ctx.config.ackTimeoutMs != 0

theorem wlRxRunnable_searched (ctx : WlCtx) : Searched ctx (wlRxRunnable ctx).1 := by
  unfold wlRxRunnable
  split
  · exact Searched.refl ctx
  split
  · split
    · exact Searched.refl ctx
    · have kept := consumerFind_uncached ctx.rx.rxRing 0
      generalize ctx.rx.rxRing.consumerFind 0 = search at kept
      obtain ⟨ring, found⟩ := search
      cases found with
      | ok | error => exact ⟨ring, kept, rfl⟩
  · exact Searched.refl ctx

theorem wlRxRunnable_idle (unleased : ctx.slot.rxEventLeased = false)
    (idle : (wlRxRunnable ctx).2 = false) : NoInput (wlRxRunnable ctx).1 := by
  unfold wlRxRunnable at idle ⊢
  simp only [unleased, Bool.false_eq_true, if_false] at idle ⊢
  by_cases stream : ctx.config.envelope = .cobsStream
  · simp only [if_pos stream] at idle ⊢
    by_cases overflow : ctx.rx.rxRing.overflowPending = true
    · simp [overflow] at idle
    rw [if_neg overflow] at idle ⊢
    have kept := consumerFind_uncached ctx.rx.rxRing 0
    generalize search : ctx.rx.rxRing.consumerFind 0 = result at idle kept ⊢
    obtain ⟨ring, found⟩ := result
    cases found with
    | ok => simp at idle
    | error =>
      refine ⟨fun _ => ?_, fun _ => consumerFind_again search, fun packet => absurd stream packet⟩
      have same : ring.uncached.overflowPending = ctx.rx.rxRing.uncached.overflowPending :=
        congrArg RxRing.overflowPending kept
      exact same.trans (eq_false_of_ne_true overflow)
  · simp only [if_neg stream] at idle ⊢
    exact ⟨fun other => absurd other stream, fun other => absurd other stream, fun _ => idle⟩

theorem looked_searched {look : WlCtx × Bool}
    (view : (if (eventReady ctx || ctx.port.controlPending) = true then (ctx, false)
      else wlRxRunnable ctx) = look) :
    Searched ctx look.1 ∧
      (look.2 = false → eventReady look.1 = false → look.1.port.controlPending = false →
        look.1.slot.rxEventLeased = false → NoInput look.1) := by
  subst view
  split
  · rename_i busy
    refine ⟨Searched.refl ctx, fun _ calm free => ?_⟩
    simp only at calm free
    simp [calm, free] at busy
  · have searched := wlRxRunnable_searched ctx
    refine ⟨searched, fun idle _ _ unleased => wlRxRunnable_idle ?_ idle⟩
    obtain ⟨_, _, same⟩ := searched
    rw [same] at unleased
    exact unleased

/-- The hint in terms of the context it leaves behind. -/
structure Hinted (ctx : WlCtx) (nowMs : UInt32) (looked : WlCtx) (hint : WlReadiness) : Prop where
  searched : Searched ctx looked
  event : hint.runnable = false → eventReady looked = false
  input : hint.runnable = false → looked.port.controlPending = false →
    looked.slot.rxEventLeased = false → NoInput looked
  line : hint.runnable = false →
    ((looked.port.controlPending || looked.port.txQueued) && lineOpen looked) = false
  timer : ackTimed looked = true → looked.config.ackTimeoutMs ≤ nowMs - looked.tx.txStartTs →
    hint.runnable = true
  deadline : hint.nextDeadlineMs = if ackTimed looked then
      some (if nowMs - looked.tx.txStartTs ≥ looked.config.ackTimeoutMs then 0
        else looked.config.ackTimeoutMs - (nowMs - looked.tx.txStartTs))
    else none

theorem wlLinkGetReadiness_hinted {looked : WlCtx} {hint : WlReadiness} {nowMs : UInt32}
    (answer : wlLinkGetReadiness ctx nowMs = (looked, .ok hint)) : Hinted ctx nowMs looked hint := by
  unfold wlLinkGetReadiness at answer
  split at answer
  · simp at answer
  generalize view : (if (eventReady ctx || ctx.port.controlPending) = true then (ctx, false)
    else wlRxRunnable ctx) = look at answer
  obtain ⟨searched, input⟩ := looked_searched view
  obtain ⟨after, _⟩ := look
  obtain ⟨same, made⟩ := Prod.mk.inj answer
  subst same
  have shape := (Except.ok.inj made).symm
  subst shape
  refine ⟨searched, ?_, ?_, ?_, ?_, ?_⟩
  · intro idle
    simp only [Bool.or_eq_false_iff] at idle
    exact idle.1.1.1
  · intro idle
    simp only [Bool.or_eq_false_iff] at idle
    exact input idle.1.1.2 idle.1.1.1
  · intro idle
    simp only [Bool.or_eq_false_iff] at idle
    exact idle.1.2
  · intro timed due
    have both : (ackTimed after &&
        decide (nowMs - after.tx.txStartTs ≥ after.config.ackTimeoutMs)) = true := by
      simp [timed, due]
    simp only [Bool.or_eq_true]
    exact .inr both
  · simp only [decide_eq_true_eq]
    rfl

theorem Searched.inv {after : WlCtx} (searched : Searched ctx after) (inv : Inv ctx) : Inv after := by
  obtain ⟨_, _, rfl⟩ := searched
  exact { inv with }

section Hints

variable {nowMs : UInt32} {looked : WlCtx} {hint : WlReadiness}

/-- Without an ACK held back by a claim, a link that is not runnable is dormant. -/
theorem Hinted.dormant (hinted : Hinted ctx nowMs looked hint) (inv : Inv looked)
    (idle : hint.runnable = false) (free : ackHeldByClaim looked = false) :
    Dormant looked nowMs := by
  have calm := hinted.event idle
  simp only [eventReady, Bool.or_eq_false_iff, bne_eq_false_iff_eq, Bool.and_eq_false_iff,
    Bool.not_eq_false'] at calm
  have line := hinted.line idle
  refine ⟨calm.1.1, calm.1.2, ?_, hinted.input idle, ?_, ?_, ?_⟩
  · rcases calm.2 with none | leased
    · exact .inl none
    · exact .inr (by simpa using leased)
  · intro pending
    by_contra unblocked
    rw [not_or, not_or, not_or] at unblocked
    obtain ⟨inflight, lease, drain, writable⟩ := unblocked
    simp [pending, inflight, lease, drain, writable, lineOpen] at line
    simp [ackHeldByClaim, pending, inflight, lease, drain, writable, line] at free
  · intro unpending unclaimed queued lease drain
    have inflight := inv.port.no_control unpending
    simpa [unpending, unclaimed, queued, lease, drain, inflight, lineOpen] using line
  · intro unpending lease unqueued unclaimed state wait timed
    by_contra due
    have runs := hinted.timer
      (by simp [ackTimed, unpending, lease, unqueued, unclaimed, state, wait, timed])
      (UInt32.not_lt.mp due)
    exact absurd (idle.symm.trans runs) (by simp)

theorem Hinted.timed {deadline : UInt32} (hinted : Hinted ctx nowMs looked hint)
    (reported : hint.nextDeadlineMs = some deadline) :
    ackTimed looked = true ∧ ackHeldByClaim looked = false ∧
      deadline = if nowMs - looked.tx.txStartTs ≥ looked.config.ackTimeoutMs then 0
        else looked.config.ackTimeoutMs - (nowMs - looked.tx.txStartTs) := by
  have shape := hinted.deadline
  rw [reported] at shape
  by_cases timed : ackTimed looked = true
  · rw [if_pos timed] at shape
    refine ⟨timed, ?_, Option.some.inj shape⟩
    simp only [ackTimed, Bool.and_eq_true, Bool.not_eq_true'] at timed
    simp [ackHeldByClaim, timed.1.1.1.1.1.1]
  · rw [if_neg timed] at shape
    contradiction

theorem before_deadline {now start timeout delay : UInt32} (running : now - start < timeout)
    (early : delay < timeout - (now - start)) : now + delay - start < timeout := by
  rw [UInt32.lt_iff_toNat_lt] at running early ⊢
  rw [UInt32.toNat_sub, UInt32.toNat_sub] at early
  rw [UInt32.toNat_sub] at running
  rw [UInt32.toNat_sub, UInt32.toNat_add]
  omega

theorem at_deadline (now start timeout : UInt32) :
    now + (timeout - (now - start)) - start = timeout := by
  apply UInt32.toNat_inj.mp
  have size := timeout.toNat_lt
  simp only [UInt32.toNat_sub, UInt32.toNat_add]
  omega

end Hints

/-! ### The ACK under an open claim

The first stage of a poll submits a pending ACK under an open claim as well, but the hint takes the
claim for a reason to wait. -/

theorem wlSubmitControl_held (inv : Inv ctx) (sink : ctx.sink = true)
    (held : ackHeldByClaim ctx = true) :
    ctx.trace.length < (wlSubmitControl ctx).1.trace.length := by
  simp only [ackHeldByClaim, Bool.and_eq_true, Bool.not_eq_true'] at held
  obtain ⟨⟨⟨⟨⟨pending, _⟩, writable⟩, inflight⟩, lease⟩, drain⟩ := held
  unfold wlSubmitControl
  rw [if_neg (by simp [pending, inflight, lease, drain, writable]), if_neg (by simp [sink]),
    if_neg (by simp [inv.port.noCallback]), callSink_eq]
  cases ctx.answers.headD .failed <;> exact Nat.lt_succ_self _

theorem wlPoll_held (inv : Inv ctx) (sink : ctx.sink = true) (held : ackHeldByClaim ctx = true)
    (nowMs : UInt32) : ctx.trace.length < (wlPoll ctx nowMs).1.trace.length := by
  have clockInv := inv.clock nowMs
  have called : ctx.trace.length <
      (wlSubmitControl { ctx with nowMs := nowMs }).1.trace.length :=
    wlSubmitControl_held clockInv sink held
  have pending : ctx.port.controlPending = true := by
    simp only [ackHeldByClaim, Bool.and_eq_true] at held
    exact held.1.1.1.1.1
  have control := (wlSubmitControl_trail clockInv).toMove
  have submitted := control.inv clockInv
  -- the later stages only add to what was observed
  have published := (pollPublishPending_sends submitted).trail.moves
  have received := published.trans (pollReceive_moves (published.inv submitted)).toMove
  have resubmitted := received.trans (pollResubmit_sends (received.inv submitted)).trail.moves
  have timed := resubmitted.trans (pollTimeout_sends (resubmitted.inv submitted)
    (resubmitted.nowMs.trans control.moves.nowMs)).trail.moves
  have completed := timed.trans (pollCompletion_sends _).trail.moves
  have delivered := completed.trans (pollDeliver_trail _).moves
  have polled : (wlPoll ctx nowMs).1 =
      (pollDeliver (pollCompletion
        (wlPollTransportProgress { ctx with nowMs := nowMs } nowMs))).1 := by
    unfold wlPoll
    rw [if_neg (by simp [inv.initialized])]
    dsimp only
    rw [if_pos (by simp [pollHasWork, pending])]
  rw [polled]
  exact Nat.lt_of_lt_of_le called delivered.grows.length_le

/-- When the hint says that nothing is runnable, a poll finds nothing to do exactly if no ACK is held
back by an open payload claim. A reported deadline is exact: before it the poll finds nothing to do,
and at it the link is runnable. -/
theorem readiness_sound_iff (ctx looked : WlCtx) (nowMs : UInt32) (hint : WlReadiness)
    (reachable : Reachable ctx) (sink : ctx.sink = true)
    (answer : wlLinkGetReadiness ctx nowMs = (looked, .ok hint)) (idle : hint.runnable = false) :
    (PollQuiet looked nowMs ↔ ackHeldByClaim ctx = false) ∧
      looked.settledPart = ctx.settledPart ∧
      ∀ deadline, hint.nextDeadlineMs = some deadline →
        (∀ delay < deadline, PollQuiet looked (nowMs + delay)) ∧
        ∃ later hintThen, wlLinkGetReadiness looked (nowMs + deadline) = (later, .ok hintThen) ∧
          hintThen.runnable = true := by
  have hinted := wlLinkGetReadiness_hinted answer
  have inv := hinted.searched.inv reachable.inv
  have same : ackHeldByClaim looked = ackHeldByClaim ctx ∧ looked.sink = ctx.sink := by
    obtain ⟨_, _, rfl⟩ := hinted.searched
    exact ⟨rfl, rfl⟩
  refine ⟨⟨?_, ?_⟩, hinted.searched.settledPart, ?_⟩
  · intro quiet
    by_contra held
    have called := wlPoll_held inv (same.2.trans sink)
      (same.1.trans (by simpa using held)) nowMs
    have kept : (wlPoll looked nowMs).1.settledPart.trace = looked.settledPart.trace :=
      congrArg WlCtx.trace quiet.2
    change (wlPoll looked nowMs).1.trace = looked.trace at kept
    rw [kept] at called
    exact Nat.lt_irrefl _ called
  · intro free
    exact (hinted.dormant inv idle (same.1.trans free)).quiet inv.initialized
  · intro deadline reported
    obtain ⟨timed, free, value⟩ := hinted.timed reported
    have dormant := hinted.dormant inv idle free
    have running : nowMs - looked.tx.txStartTs < looked.config.ackTimeoutMs := by
      by_contra due
      have runs := hinted.timer timed (UInt32.not_lt.mp due)
      exact absurd (idle.symm.trans runs) (by simp)
    rw [if_neg (UInt32.not_le.mpr running)] at value
    subst value
    refine ⟨?_, ?_⟩
    · intro delay early
      have later : Dormant looked (nowMs + delay) :=
        { dormant with timer := fun _ _ _ _ _ _ _ => before_deadline running early }
      exact later.quiet inv.initialized
    · have answered : ∃ later hintThen,
          wlLinkGetReadiness looked
            (nowMs + (looked.config.ackTimeoutMs - (nowMs - looked.tx.txStartTs))) =
              (later, .ok hintThen) := by
        unfold wlLinkGetReadiness
        rw [if_neg (by simp [inv.initialized])]
        exact ⟨_, _, rfl⟩
      obtain ⟨later, hintThen, made⟩ := answered
      refine ⟨later, hintThen, made, ?_⟩
      have again := wlLinkGetReadiness_hinted made
      obtain ⟨_, _, rfl⟩ := again.searched
      apply again.timer timed
      simp only [setRing]
      rw [at_deadline]
      exact UInt32.le_refl _

/-- A link that waits for an ACK, asked three milliseconds after it was sent. -/
theorem readiness_small_run :
    wlLinkGetReadiness
        (run (smallStart [.sent]) [.setSink true, .sendReliable 5 (.bytes [1]) 0]) 3 =
      (run (smallStart [.sent]) [.setSink true, .sendReliable 5 (.bytes [1]) 0],
        .ok { runnable := false, blocked := true, nextDeadlineMs := some 7 }) ∧
      ∀ delay < (7 : UInt32),
        PollQuiet (run (smallStart [.sent]) [.setSink true, .sendReliable 5 (.bytes [1]) 0])
          (3 + delay) := by
  have answer : wlLinkGetReadiness
      (run (smallStart [.sent]) [.setSink true, .sendReliable 5 (.bytes [1]) 0]) 3 =
        (run (smallStart [.sent]) [.setSink true, .sendReliable 5 (.bytes [1]) 0],
          .ok { runnable := false, blocked := true, nextDeadlineMs := some 7 }) := by
    decide +kernel
  have sound := readiness_sound_iff _ _ _ _ (small_reachable _ _) (by decide +kernel) answer rfl
  exact ⟨answer, (sound.2.2 7 rfl).1⟩

/-- An ACK the sink answered with `BUSY` waits, the port is writable again and the application holds
a payload claim: the hint reports nothing to do, and the poll calls the sink. -/
theorem held_ack_not_runnable :
    ∃ ctx, Reachable ctx ∧ ctx.sink = true ∧
      wlLinkGetReadiness ctx 0 =
        (ctx, .ok { runnable := false, blocked := true, nextDeadlineMs := none }) ∧
      (wlPoll ctx 0).1.trace.length = ctx.trace.length + 1 ∧ ¬ PollQuiet ctx 0 := by
  refine ⟨_, small_reachable [.busy, .sent] [.setSink true, .payloadClaim 5 .unreliable,
    .feedUnit (.bytes [0xA5, 0, 0, 5, 0, 0, 0, 0, 0, 0, 0, 9, 0, 0, 0, 0, 1]), .poll 0,
    .release .reliableRx 1, .writable], ?_, ?_, ?_, ?_⟩
  all_goals decide +kernel

end Wirelink
