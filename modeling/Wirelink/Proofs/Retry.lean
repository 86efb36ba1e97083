/-
Module: Wirelink.Proofs.Retry
Purpose: The retry budget of a reliable transaction, over every run: how often it reaches the sink,
  what its counters say meanwhile, and that nothing of it reaches the sink once it has ended.
Trusted boundary: none
-/
import Wirelink.Proofs.Reach
import Wirelink.Spec.Transaction

namespace Wirelink

variable {ctx sent after : WlCtx} {config : WlConfig} {tx : TxTransaction} {port : TxPort}
  {trace : List Obs}

/-! ### The counters

Each submission of a transaction is its first one or was paid for with a retry. A queued unit is
paid for and not yet submitted. -/

/-- A unit of the transaction is queued. -/
def queuedUnit (port : TxPort) : Nat :=
  if port.txQueued && port.inFlightReliable then 1 else 0

/-- At no moment more submissions than the budget allows. -/
def WithinBudget (config : WlConfig) (trace : List Obs) : Prop :=
  Trace.Always (fun past => attempts past ≤ 1 + config.maxRetries.toNat) trace

/-- The retry counters, and the submissions they stand for. A queued unit has been counted as a
retry, but its submission is still to come. -/
structure RetryInv (config : WlConfig) (tx : TxTransaction) (port : TxPort) (trace : List Obs) :
    Prop where
  max : tx.txRetriesMax = config.maxRetries
  used : tx.txRetriesUsed.toNat ≤ config.maxRetries.toNat
  bound : WithinBudget config trace
  budget : tx.Live → tx.txRetriesLeft.toNat + tx.txRetriesUsed.toNat = config.maxRetries.toNat
  spent : tx.Live → attempts trace + queuedUnit port ≤ 1 + tx.txRetriesUsed.toNat

/-- The retries of a context. -/
abbrev RetriesKept (config : WlConfig) (ctx : WlCtx) : Prop :=
  RetryInv config ctx.tx ctx.port ctx.trace

variable {other : TxTransaction} {otherPort : TxPort} {obs : Obs} {ok : Bool}

theorem RetryInv.congr (retry : RetryInv config tx port trace)
    (max : other.txRetriesMax = tx.txRetriesMax) (used : other.txRetriesUsed = tx.txRetriesUsed)
    (live : other.Live → tx.Live ∧ other.txRetriesLeft = tx.txRetriesLeft ∧
      queuedUnit otherPort ≤ queuedUnit port) : RetryInv config other otherPort trace where
  max := max.trans retry.max
  used := by rw [used]; exact retry.used
  bound := retry.bound
  budget := by
    intro now
    obtain ⟨before, left, _⟩ := live now
    rw [used, left]
    exact retry.budget before
  spent := by
    intro now
    obtain ⟨before, _, queued⟩ := live now
    rw [used]
    exact Nat.le_trans (Nat.add_le_add_left queued _) (retry.spent before)

theorem attempts_silent (opens : obs.opens = false) (submits : obs.submitsReliable = false)
    (trace : List Obs) :
    attempts (obs :: trace) = attempts trace := by
  cases obs with
  | opened => simp [Obs.opens] at opens
  | sinkCall token kind =>
    cases kind with
    | reliable => simp [Obs.submitsReliable] at submits
    | unreliable | control => rfl
  | _ => rfl

namespace RetryInv

variable (retry : RetryInv config tx port trace)

include retry

theorem silent (opens : obs.opens = false) (submits : obs.submitsReliable = false) :
    RetryInv config tx port (obs :: trace) := by
  have same := attempts_silent opens submits trace
  refine { retry with bound := ⟨?_, retry.bound⟩, spent := ?_ }
  · exact Nat.le_trans (Nat.le_of_eq same) retry.bound.now
  · rw [same]
    exact retry.spent

theorem ended {later : List Obs} (max : other.txRetriesMax = tx.txRetriesMax)
    (used : other.txRetriesUsed = tx.txRetriesUsed) (settled : ¬ other.Live)
    (bound : WithinBudget config later) :
    RetryInv config other otherPort later where
  max := max.trans retry.max
  used := by rw [used]; exact retry.used
  bound := bound
  budget := fun live => absurd live settled
  spent := fun live => absurd live settled

theorem booked (live : tx.Live) (left : tx.txRetriesLeft ≠ 0) {later : List Obs}
    (max : other.txRetriesMax = tx.txRetriesMax)
    (fewer : other.txRetriesLeft = tx.txRetriesLeft - 1)
    (more : other.txRetriesUsed = tx.txRetriesUsed + 1) (bound : WithinBudget config later)
    (spent : attempts later + queuedUnit otherPort ≤ 1 + (tx.txRetriesUsed.toNat + 1)) :
    RetryInv config other otherPort later := by
  have budget := retry.budget live
  have positive : 1 ≤ tx.txRetriesLeft.toNat := by
    rcases Nat.eq_zero_or_pos tx.txRetriesLeft.toNat with zero | pos
    · exact absurd (UInt16.toNat_inj.mp zero) left
    · exact pos
  have small : config.maxRetries.toNat < 65536 := config.maxRetries.toNat_lt
  have usedNext : other.txRetriesUsed.toNat = tx.txRetriesUsed.toNat + 1 := by
    rw [more, UInt16.toNat_add]
    exact Nat.mod_eq_of_lt (by simp only [UInt16.toNat_one]; omega)
  have leftNext : other.txRetriesLeft.toNat = tx.txRetriesLeft.toNat - 1 := by
    have one : (1 : UInt16) ≤ tx.txRetriesLeft := UInt16.le_iff_toNat_le.mpr positive
    rw [fewer, UInt16.toNat_sub_of_le _ _ one]
    rfl
  refine ⟨max.trans retry.max, ?_, bound, fun _ => ?_, fun _ => ?_⟩
  · omega
  · omega
  · rw [usedNext]
    exact spent

theorem room (live : tx.Live) (left : tx.txRetriesLeft ≠ 0) :
    tx.txRetriesUsed.toNat + 1 ≤ config.maxRetries.toNat := by
  have budget := retry.budget live
  have positive : tx.txRetriesLeft.toNat ≠ 0 := fun zero => left (UInt16.toNat_inj.mp zero)
  omega

/-- What is submitted so far leaves room for one more submission under the next retry. -/
theorem before_retry (live : tx.Live) : attempts trace ≤ tx.txRetriesUsed.toNat + 1 := by
  have spent := retry.spent live
  omega

end RetryInv

/-! ### Moves

A retry is booked where a unit is submitted again or queued for it, and nowhere else. -/

theorem Sent.counters (submission : Sent ctx sent ok) :
    sent.tx.txRetriesMax = ctx.tx.txRetriesMax ∧ sent.tx.txRetriesLeft = ctx.tx.txRetriesLeft ∧
      sent.tx.txRetriesUsed = ctx.tx.txRetriesUsed := by
  cases submission with
  | noSink => exact ⟨rfl, rfl, rfl⟩
  | answered answer => cases answer <;> exact ⟨rfl, rfl, rfl⟩

/-- A reliable submission within an allowance of retries. -/
theorem Sent.attempts (submission : Sent ctx sent ok) {allowance : Nat}
    (room : attempts ctx.trace ≤ allowance) (small : allowance ≤ config.maxRetries.toNat)
    (bound : WithinBudget config ctx.trace) :
    WithinBudget config sent.trace ∧
      (ok = true → Wirelink.attempts sent.trace + queuedUnit sent.port ≤ 1 + allowance) := by
  cases submission with
  | noSink => exact ⟨bound, nofun⟩
  | @answered unit length answer =>
    cases answer with
    | busy =>
      -- A refused unit is queued and not counted.
      have same : Wirelink.attempts ctx.trace + 0 ≤ 1 + config.maxRetries.toNat := by omega
      refine ⟨⟨same, bound⟩, fun _ => ?_⟩
      change Wirelink.attempts ctx.trace + 0 + 1 ≤ 1 + allowance
      omega
    | sent | started | failed =>
      have counted : Wirelink.attempts ctx.trace + 1 ≤ 1 + config.maxRetries.toNat := by omega
      refine ⟨⟨counted, bound⟩, fun through => ?_⟩
      first
      | exact absurd through (by decide)
      | change Wirelink.attempts ctx.trace + 1 + 0 ≤ 1 + allowance
        omega

theorem RetryInv.pushTx {type : WlEventType} (retry : RetriesKept config ctx)
    (transmit : type.isRx = false) :
    RetriesKept config (wlPushTxEvent ctx type) := by
  rw [wlPushTxEvent_eq ctx transmit]
  cases eventDeferred ctx with
  | true => exact retry.congr rfl rfl (fun live => ⟨live, rfl, Nat.le_refl _⟩)
  | false => exact retry.silent rfl rfl

theorem SentPlain.retryInv (submission : SentPlain ctx sent ok)
    (retry : RetriesKept config ctx) :
    RetriesKept config sent := by
  cases submission with
  | noSink => exact retry
  | answered answer =>
    have called : RetryInv config ctx.tx ctx.port
        (.sinkCall (nextToken ctx.port.txToken) .unreliable
          (ctx.mem.txUnit.take ctx.mem.txUnreliableLen) answer :: ctx.trace) :=
      retry.silent rfl rfl
    cases answer with
    | sent | started | busy | failed =>
      refine called.congr rfl rfl (fun live => ⟨live, rfl, ?_⟩)
      simp [queuedUnit, plainAnswer, dataAnswer, sinkCalled, WlCtx.note]

theorem AckStep.retryInv {sessionId : UInt64} {sequence : UInt32}
    (ack : AckStep sessionId sequence ctx after)
    (retry : RetriesKept config ctx) :
    RetriesKept config after := by
  cases ack with
  | dropped => exact retry
  | placed =>
    exact (retry.silent rfl rfl).congr rfl rfl (fun live => ⟨live, rfl, Nat.le_refl _⟩)

theorem RetryInv.returned (retry : RetriesKept config ctx) (ioResult : WlErr) :
    RetryInv config ctx.tx (leaseReturned ctx ctx.port.txToken ioResult).port
      (leaseReturned ctx ctx.port.txToken ioResult).trace :=
  (retry.silent rfl rfl).congr rfl rfl
    (fun live => ⟨live, rfl, by simp [queuedUnit, leaseReturned]⟩)

theorem Move.retryInv {label : Option WireFrame} (move : Move label ctx after) (inv : Inv ctx)
    (retry : RetriesKept config ctx) :
    RetriesKept config after := by
  cases move with
  | rx move =>
    cases move with
    | quiet => exact retry.congr rfl rfl (fun live => ⟨live, rfl, Nat.le_refl _⟩)
    | control answer =>
      cases answer <;>
        exact (retry.silent rfl rfl).congr rfl rfl (fun live => ⟨live, rfl, Nat.le_refl _⟩)
    | receive => exact retry
    | accept view rx event lease free type fresh ack | duplicate view known ack =>
      exact ack.retryInv (retry.silent rfl rfl)
    | acked =>
      exact RetryInv.pushTx
        (retry.ended rfl rfl (not_live nofun nofun) ⟨retry.bound.now, retry.bound⟩) rfl
  | publish | complete | consumedControl | drained | drainedOk | drainRequired =>
    exact (retry.silent rfl rfl).congr rfl rfl (fun live => ⟨live, rfl, Nat.le_refl _⟩)
  | deliver => exact retry.silent rfl rfl
  | resubmitReliable sent ok pending claim queue lease drain kind submission =>
    -- The queued unit was counted when it was queued.
    have live : ctx.tx.Live := .inr (inv.port.queuedSending queue kind)
    have marked : RetryInv config ctx.tx ctx.port (.resubmitted true :: ctx.trace) :=
      retry.silent rfl rfl
    have spent := marked.spent live
    simp only [queuedUnit, queue, kind, Bool.and_self, if_true] at spent
    have room : attempts (ctx.note (.resubmitted true)).trace ≤ ctx.tx.txRetriesUsed.toNat := by
      change attempts (.resubmitted true :: ctx.trace) ≤ _
      omega
    obtain ⟨bound, room⟩ := submission.attempts room retry.used marked.bound
    obtain ⟨max, left, used⟩ := submission.counters
    cases ok with
    | true =>
      refine ⟨max.trans retry.max, ?_, bound, fun _ => ?_, fun _ => ?_⟩
      · simp only [if_true, used]
        exact retry.used
      · simp only [if_true, left, used]
        exact retry.budget live
      · simp only [if_true, used]
        exact room rfl
    | false => exact RetryInv.pushTx (retry.ended max used (not_live nofun nofun) bound) rfl
  | resubmitUnreliable sent ok pending claim queue lease drain kind submission =>
    have submitted := submission.retryInv (retry.silent rfl rfl)
    cases ok with
    | true => exact submitted
    | false =>
      exact submitted.congr rfl rfl (fun live => ⟨live, rfl, by simp [queuedUnit, unqueued]⟩)
  | timeoutFail =>
    exact RetryInv.pushTx (retry.ended rfl rfl (not_live nofun nofun) retry.bound) rfl
  | timeoutRetry sent ok nowMs pending lease queue claim state left submission =>
    have live : ctx.tx.Live := .inl state
    have marked : RetryInv config ctx.tx ctx.port
        (.timeoutRetry ctx.port.txDrainPending ctx.sink :: ctx.trace) := retry.silent rfl rfl
    obtain ⟨bound, room⟩ :=
      submission.attempts (marked.before_retry live) (retry.room live left) marked.bound
    obtain ⟨max, fewer, more⟩ := submission.counters
    cases ok with
    | true =>
      exact marked.booked live left max (congrArg (· - 1) fewer) (congrArg (· + 1) more) bound
        (room rfl)
    | false => exact RetryInv.pushTx (retry.ended max more (not_live nofun nofun) bound) rfl
  | consumedUnreliable ioResult | consumedCancelled ioResult =>
    exact (retry.returned ioResult).congr rfl rfl (fun live => ⟨live, rfl, Nat.le_refl _⟩)
  | consumedSettled ioResult => exact retry.returned ioResult
  | consumedOk inflight kind sending =>
    exact (retry.returned .ok).congr rfl rfl
      (fun _ => ⟨.inr sending, rfl, Nat.le_refl _⟩)
  | consumedDeferred ioResult failed inflight kind sending left =>
    have live : ctx.tx.Live := .inr sending
    have returned := retry.returned ioResult
    have before := returned.before_retry live
    refine returned.booked live left rfl rfl rfl returned.bound ?_
    change attempts (leaseReturned ctx ctx.port.txToken ioResult).trace + 1 ≤ _
    omega
  | consumedRetry sent ok ioResult failed inflight kind sending left pending submission =>
    have live : ctx.tx.Live := .inr sending
    have returned := retry.returned ioResult
    obtain ⟨bound, room⟩ :=
      submission.attempts (returned.before_retry live) (retry.room live left) returned.bound
    obtain ⟨max, fewer, more⟩ := submission.counters
    cases ok with
    | true =>
      exact returned.booked live left max (congrArg (· - 1) fewer) (congrArg (· + 1) more)
        bound (room rfl)
    | false => exact RetryInv.pushTx (retry.ended max more (not_live nofun nofun) bound) rfl
  | consumedFail ioResult =>
    exact RetryInv.pushTx
      (retry.ended rfl rfl (not_live nofun nofun) (retry.returned ioResult).bound) rfl
  | drainedFail =>
    exact RetryInv.pushTx
      (retry.ended rfl rfl (not_live nofun nofun) ⟨retry.bound.now, retry.bound⟩) rfl
  | openReliable sent ok messageId payload nowMs free idle placed fits named room submission =>
    -- The new transaction starts with the whole budget.
    have opened : WithinBudget config
        (openTransaction (Wirelink.spendSequence ctx) messageId ctx.tx.txSequence payload
          nowMs).trace := ⟨Nat.zero_le _, retry.bound⟩
    obtain ⟨bound, spent⟩ := submission.attempts (Nat.le_refl 0) (Nat.zero_le _) opened
    obtain ⟨max, left, used⟩ := submission.counters
    have none : sent.tx.txRetriesUsed.toNat = 0 := by rw [used]; rfl
    cases ok with
    | true =>
      refine ⟨max.trans retry.max, ?_, bound, fun _ => ?_, fun _ => ?_⟩
      · simp only [if_true, none, Nat.zero_le]
      · simp only [if_true, none, left, Nat.add_zero]
        exact congrArg UInt16.toNat retry.max
      · simp only [if_true, none]
        exact spent rfl
    | false =>
      refine ⟨max.trans retry.max, none.trans_le (Nat.zero_le _), ⟨bound.now, bound⟩,
        fun live => ?_, fun live => ?_⟩
      · exact absurd live (not_live nofun nofun)
      · exact absurd live (not_live nofun nofun)
  | sendUnreliable sent ok messageId data unit free named size image submission =>
    exact submission.retryInv retry
  | spendSequence => exact retry.congr rfl rfl (fun live => ⟨live, rfl, Nat.le_refl _⟩)
  | claim | store | spend => exact retry
  | cancel | take =>
    exact retry.ended rfl rfl (not_live nofun nofun) ⟨retry.bound.now, retry.bound⟩

/-! ### After the end

What reaches the sink after the end of a transaction is of one that was opened later. -/

/-- A transaction was opened since `start`, and reliable submissions since then are of such ones. -/
def Reopened (start trace : List Obs) : Prop :=
  ∃ newer, trace = newer ++ start ∧ OnlyReopened newer ∧ newer.any Obs.opens = true

/-- Since `start` only reopened transactions were submitted, and a live one was opened since. -/
def SettledSince (start : List Obs) (tx : TxTransaction) (trace : List Obs) : Prop :=
  ∃ newer, trace = newer ++ start ∧ OnlyReopened newer ∧
    (newer.any Obs.opens = true ∨ ¬ tx.Live)

/-- What a context has done since `start`. -/
abbrev SettledIn (start : List Obs) (ctx : WlCtx) : Prop :=
  SettledSince start ctx.tx ctx.trace

variable {start : List Obs}

theorem Reopened.settled (reopened : Reopened start trace) (tx : TxTransaction) :
    SettledSince start tx trace := by
  obtain ⟨newer, split, only, opens⟩ := reopened
  exact ⟨newer, split, only, .inl opens⟩

theorem Reopened.add (reopened : Reopened start trace) (obs : Obs) :
    Reopened start (obs :: trace) := by
  obtain ⟨newer, rfl, only, opens⟩ := reopened
  refine ⟨obs :: newer, rfl, ⟨?_, only⟩, by simp [opens]⟩
  cases obs with
  | sinkCall token kind => cases kind <;> simp [submissionReopened, opens]
  | _ => rfl

namespace SettledSince

variable (settled : SettledSince start tx trace)

include settled

theorem reopened (live : tx.Live) : Reopened start trace := by
  obtain ⟨newer, split, only, opens | dead⟩ := settled
  · exact ⟨newer, split, only, opens⟩
  · exact absurd live dead

theorem congr (live : other.Live → tx.Live) : SettledSince start other trace := by
  obtain ⟨newer, split, only, opens | dead⟩ := settled
  · exact ⟨newer, split, only, .inl opens⟩
  · exact ⟨newer, split, only, .inr (fun now => dead (live now))⟩

theorem silent (submits : obs.submitsReliable = false) : SettledSince start tx (obs :: trace) := by
  obtain ⟨newer, rfl, only, opens⟩ := settled
  refine ⟨obs :: newer, rfl, ⟨?_, only⟩, ?_⟩
  · cases obs with
    | sinkCall token kind =>
      cases kind with
      | reliable => simp [Obs.submitsReliable] at submits
      | unreliable | control => rfl
    | _ => rfl
  · rcases opens with opens | dead
    · exact .inl (by simp [opens])
    · exact .inr dead

theorem opened (handle : UInt32) (entry : TxEntry) :
    Reopened start (.opened handle entry :: trace) := by
  obtain ⟨newer, rfl, only, _⟩ := settled
  exact ⟨.opened handle entry :: newer, rfl, ⟨rfl, only⟩, rfl⟩

end SettledSince

theorem SettledSince.pushTx {type : WlEventType} (settled : SettledIn start ctx)
    (transmit : type.isRx = false) :
    SettledIn start (wlPushTxEvent ctx type) := by
  rw [wlPushTxEvent_eq ctx transmit]
  cases eventDeferred ctx with
  | true => exact settled.congr id
  | false => exact settled.silent rfl

theorem Sent.reopened (submission : Sent ctx sent ok) (reopened : Reopened start ctx.trace) :
    Reopened start sent.trace := by
  cases submission with
  | noSink => exact reopened
  | answered answer => cases answer <;> exact reopened.add _

theorem SentPlain.settledSince (submission : SentPlain ctx sent ok)
    (settled : SettledIn start ctx) : SettledIn start sent := by
  cases submission with
  | noSink => exact settled
  | answered answer =>
    cases answer with
    | sent | started | busy | failed => exact settled.silent rfl

theorem AckStep.settledSince {sessionId : UInt64} {sequence : UInt32}
    (ack : AckStep sessionId sequence ctx after)
    (settled : SettledIn start ctx) : SettledIn start after := by
  cases ack with
  | dropped => exact settled
  | placed => exact settled.silent rfl

theorem Move.settledSince {label : Option WireFrame} (move : Move label ctx after) (inv : Inv ctx)
    (settled : SettledIn start ctx) : SettledIn start after := by
  cases move with
  | rx move =>
    cases move with
    | quiet | receive => exact settled
    | control answer => cases answer <;> exact settled.silent rfl
    | accept view rx event lease free type fresh ack | duplicate view known ack =>
      exact ack.settledSince (settled.silent rfl)
    | acked live => exact SettledSince.pushTx (((settled.reopened live).add _).settled _) rfl
  | publish | consumedCancelled | consumedDeferred | drainedOk =>
    exact (settled.silent rfl).congr id
  | complete | deliver | consumedControl | consumedUnreliable | consumedSettled | drained
  | drainRequired => exact settled.silent rfl
  | resubmitReliable sent ok pending claim queue lease drain kind submission =>
    have live : ctx.tx.Live := .inr (inv.port.queuedSending queue kind)
    have submitted := submission.reopened ((settled.reopened live).add _)
    cases ok with
    | true => exact submitted.settled _
    | false => exact SettledSince.pushTx (submitted.settled _) rfl
  | resubmitUnreliable sent ok pending claim queue lease drain kind submission =>
    cases ok <;> exact submission.settledSince (settled.silent rfl)
  | timeoutFail lease queue claim state left =>
    exact SettledSince.pushTx ((settled.reopened (.inl state)).settled _) rfl
  | timeoutRetry sent ok nowMs pending lease queue claim state left submission =>
    have submitted := submission.reopened ((settled.reopened (.inl state)).add _)
    cases ok with
    | true => exact submitted.settled _
    | false => exact SettledSince.pushTx (submitted.settled _) rfl
  | consumedOk inflight kind sending =>
    exact (settled.silent rfl).congr (fun _ => .inr sending)
  | consumedRetry sent ok ioResult failed inflight kind sending left pending submission =>
    have submitted := submission.reopened ((settled.reopened (.inr sending)).add _)
    cases ok with
    | true => exact submitted.settled _
    | false => exact SettledSince.pushTx (submitted.settled _) rfl
  | consumedFail ioResult failed inflight kind sending left =>
    exact SettledSince.pushTx (((settled.reopened (.inr sending)).add _).settled _) rfl
  | drainedFail ioResult pending awaits =>
    exact SettledSince.pushTx (((settled.reopened (.inl awaits.state)).add _).settled _) rfl
  | openReliable sent ok messageId payload nowMs free idle placed fits named room submission =>
    have submitted := submission.reopened (settled.opened _ _)
    cases ok with
    | true => exact submitted.settled _
    | false => exact (submitted.add _).settled _
  | sendUnreliable sent ok messageId data unit free named size image submission =>
    exact submission.settledSince settled
  | spendSequence => exact settled.congr id
  | claim | store | spend => exact settled
  | cancel | take => exact (settled.silent rfl).congr fun live => absurd live (not_live nofun nofun)

/-! ### Runs -/

theorem Reachable.retry (reachable : Reachable ctx) :
    RetriesKept ctx.config ctx :=
  reachable.induct (fun reached => RetriesKept reached.config reached)
    (fun _ _ _ _ => ⟨rfl, Nat.zero_le _, Nat.zero_le _, nofun, nofun⟩) (fun _ retry => retry)
    (fun inv retry move => by
      rw [move.config]
      exact move.retryInv inv retry)

/-- Whatever is run after the end of a transaction, it is not submitted again. -/
theorem Inv.run_settled (inv : Inv ctx) (dead : ¬ ctx.tx.Live) (ops : List Op) :
    ∃ newer, (run ctx ops).trace = newer ++ ctx.trace ∧ OnlyReopened newer := by
  have since := run_induct ops inv (fun reached => SettledIn ctx.trace reached)
    ⟨[], rfl, rfl, .inr dead⟩ (fun _ settled => settled)
    (fun consistent settled move => move.settledSince consistent settled)
  obtain ⟨newer, split, only, _⟩ := since
  exact ⟨newer, split, only⟩

theorem not_live_of_terminal (ended : tx.txState.terminal = true) : ¬ tx.Live := by
  rintro (state | state) <;> simp [state, WlTxState.terminal] at ended

/-- The retry budget. In every run no transaction is submitted more than `1 + max_retries` times,
answers of `BUSY` aside; while it is live its two counters add up to `max_retries`; `wl_tx_take`
reports no more retries than that; and once it has ended, whatever is run next, every reliable unit
handed to the sink is of a transaction opened later. -/
theorem retry_bound (reachable : Reachable ctx) :
    (∀ past, past <:+ ctx.trace → attempts past ≤ 1 + ctx.config.maxRetries.toNat) ∧
      (ctx.tx.Live →
        ctx.tx.txRetriesLeft.toNat + ctx.tx.txRetriesUsed.toNat = ctx.config.maxRetries.toNat) ∧
      (∀ handle result, (wlTxTake ctx handle).2 = .ok result →
        result.retriesUsed.toNat ≤ ctx.config.maxRetries.toNat) ∧
      (ctx.tx.txState.terminal = true → ∀ ops, ∃ newer,
        (run ctx ops).trace = newer ++ ctx.trace ∧ OnlyReopened newer) := by
  have retry := reachable.retry
  refine ⟨Trace.always_iff_suffix.mp retry.bound, retry.budget, ?_, ?_⟩
  · intro handle result taken
    obtain ⟨_, _, rfl⟩ := wlTxTake_ok taken
    exact retry.used
  · intro ended ops
    exact reachable.inv.run_settled (not_live_of_terminal ended) ops

/-- A transaction that fails after its one retry: the bound is reached, and nothing more of it
follows. -/
theorem retry_bound_small_run :
    (∀ past, past <:+ (run (smallStart [.sent, .sent])
        [.setSink true, .sendReliable 5 (.bytes [1]) 0, .poll 20, .poll 40]).trace →
      attempts past ≤ 2) ∧
      attempts (run (smallStart [.sent, .sent])
        [.setSink true, .sendReliable 5 (.bytes [1]) 0, .poll 20, .poll 40]).trace = 2 ∧
      ∀ ops, ∃ newer,
        (run (run (smallStart [.sent, .sent])
          [.setSink true, .sendReliable 5 (.bytes [1]) 0, .poll 20, .poll 40]) ops).trace =
          newer ++ (run (smallStart [.sent, .sent])
            [.setSink true, .sendReliable 5 (.bytes [1]) 0, .poll 20, .poll 40]).trace ∧
          OnlyReopened newer := by
  obtain ⟨bound, _, _, last⟩ := retry_bound (small_reachable [.sent, .sent]
    [.setSink true, .sendReliable 5 (.bytes [1]) 0, .poll 20, .poll 40])
  refine ⟨fun past earlier => Nat.le_trans (bound past earlier) ?_, ?_, last ?_⟩
  all_goals decide +kernel

end Wirelink
