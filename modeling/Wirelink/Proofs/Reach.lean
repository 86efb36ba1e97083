/-
Module: Wirelink.Proofs.Reach
Purpose: Every operation is a sequence of moves, wl_init makes a consistent context, and so every
  reachable context is consistent. The rule for results about whole runs is stated here once.
Trusted boundary: none
-/
import Wirelink.Lib.Guard
import Wirelink.Proofs.Arrival

namespace Wirelink

variable {ctx : WlCtx}

/-! ### The owner's turn

A poll is a sequence of stages, each of which makes moves or does nothing. -/

theorem Inv.pendingTransmits (inv : Inv ctx) : ctx.tx.txPendingEvent.isRx = false := by
  rcases inv.port.pendingState with none | ended
  · rw [none]
    rfl
  · revert ended
    cases ctx.tx.txPendingEvent <;> simp [EndedBy, WlEventType.isRx]

theorem pollPublishPending_sends (inv : Inv ctx) : Sends ctx (pollPublishPending ctx) := by
  unfold pollPublishPending
  split
  · rename_i due
    obtain ⟨pending, free, returned⟩ := due
    simp only [wlPushEvent_tx inv.pendingTransmits (eq_false_of_ne_true free)]
    have posted := postTxEvent_txOnly inv.pendingTransmits (eq_false_of_ne_true free) ctx.tx.txHandle
    exact .move (Move.publish pending (eq_false_of_ne_true free) returned)
      (posted.trans (.of_eq rfl rfl))
  · exact .refl ctx

theorem pollReceive_moves (inv : Inv ctx) : Moves RxMove ctx (pollReceive ctx) := by
  unfold pollReceive
  split
  · exact wlLinkProcessRx_moves inv
  · exact (Trail.refl ctx).moves

theorem pollResubmit_sends (inv : Inv ctx) : Sends ctx (pollResubmit ctx) := by
  unfold pollResubmit
  split
  · rename_i due
    obtain ⟨_, pending, claim, queue, lease, drain, _⟩ := due
    rw [Bool.not_eq_true] at pending claim lease drain
    cases kind : ctx.port.inFlightReliable with
    | true =>
      have ready := (inv.ready (.inr (inv.port.queuedSending queue kind)) claim).note
        (.resubmitted true)
      obtain ⟨ok, submission, accepted⟩ := wlSendTxPayload_sent ready
      have move := Move.resubmitReliable _ ok pending claim queue lease drain kind submission
      have inbox : TxOnly ctx _ := submission.txOnly.behind rfl rfl
      simp only [if_true]
      split
      · rename_i sent answer
        rw [answer] at accepted move inbox
        rw [accepted.mp rfl] at move
        exact .move move inbox
      · rename_i sent code refused answer
        rw [answer] at accepted move inbox
        rw [rejected_of accepted refused] at move
        exact .move move (inbox.trans ((failTransaction_txOnly .io rfl).behind rfl rfl))
    | false =>
      have capacity : (ctx.note (.resubmitted false)).port.txUnreliableCompletions ≠
          uint32Max := inv.port.capacity (.inr queue) kind
      obtain ⟨ok, submission, accepted⟩ := wlSubmitData_sentPlain capacity
      have move := Move.resubmitUnreliable _ ok pending claim queue lease drain kind submission
      have inbox : TxOnly ctx _ := submission.txOnly.behind rfl rfl
      simp only [Bool.false_eq_true, if_false]
      split
      · rename_i sent answer
        rw [answer] at accepted move inbox
        rw [accepted.mp rfl] at move
        exact .move move inbox
      · rename_i sent code refused answer
        rw [answer] at accepted move inbox
        rw [rejected_of accepted refused] at move
        exact .move move (inbox.trans (.of_eq rfl rfl))
  · exact .refl ctx

theorem pollTimeout_sends (inv : Inv ctx) {nowMs : UInt32} (clock : ctx.nowMs = nowMs) :
    Sends ctx (pollTimeout ctx nowMs) := by
  subst clock
  unfold pollTimeout
  split
  · rename_i due
    obtain ⟨open_, pending, lease, queue, claim, state, wait, _, enabled, elapsed⟩ := due
    rw [Bool.not_eq_true] at open_ pending lease queue claim
    split
    · rename_i left
      exact .move (Move.timeoutFail lease queue claim state left ⟨wait, enabled, elapsed⟩ open_)
        (failTransaction_txOnly .timeout rfl)
    · rename_i left
      have ready := (inv.ready (.inl state) claim).note
        (.timeoutRetry ctx.port.txDrainPending ctx.sink)
      obtain ⟨ok, submission, accepted⟩ := wlSendTxPayload_sent ready
      have move := Move.timeoutRetry _ ok ctx.nowMs pending lease queue claim state left submission
        ⟨wait, enabled, elapsed⟩ rfl
      have inbox : TxOnly ctx _ := submission.txOnly.behind rfl rfl
      unfold timeoutRetry
      split
      · rename_i sent answer
        rw [answer] at accepted move inbox
        rw [accepted.mp rfl, retryBooked] at move
        dsimp only [bookRetry] at move ⊢
        split
        case isTrue waits =>
          rw [if_pos waits] at move
          exact .move move (inbox.trans (.of_eq rfl rfl))
        case isFalse waits =>
          rw [if_neg waits] at move
          exact .move move (inbox.trans (.of_eq rfl rfl))
      · rename_i sent code refused answer
        rw [answer] at accepted move inbox
        rw [rejected_of accepted refused] at move
        exact .move move (inbox.trans (failTransaction_txOnly .io rfl))
  · exact .refl ctx

theorem wlPollTransportProgress_moves (inv : Inv ctx) :
    Moves Move ctx (wlPollTransportProgress ctx ctx.nowMs) := by
  have submitted := wlSubmitControl_sends inv
  have published := (submitted.trans (pollPublishPending_sends (submitted.trail.inv inv))).trail
  have received := published.moves.trans (pollReceive_moves (published.inv inv)).toMove
  have resubmitted := received.trans (pollResubmit_sends (received.inv inv)).trail.moves
  exact resubmitted.trans (pollTimeout_sends (resubmitted.inv inv) resubmitted.nowMs).trail.moves

theorem pollCompletion_sends (ctx : WlCtx) : Sends ctx (pollCompletion ctx) := by
  unfold pollCompletion
  split
  · rename_i due
    have free : ctx.slot.hasEvent = false := eq_false_of_ne_true due.1
    have pushed : wlPushEvent ctx .txSuccess 0 none 0 0 = (postTxEvent ctx .txSuccess 0, .ok) :=
      wlPushEvent_tx rfl free 0
    simp only [pushed]
    exact .move (Move.complete free due.2) ((postTxEvent_txOnly rfl free 0).trans (.of_eq rfl rfl))
  · exact .refl ctx

theorem pollDeliver_trail (ctx : WlCtx) : Trail Move [] ctx (pollDeliver ctx).1 := by
  unfold pollDeliver
  split
  · rename_i taken
    exact Trail.single (Move.deliver taken)
  · exact Trail.refl ctx

theorem wlPoll_moves (inv : Inv ctx) (nowMs : UInt32) :
    Moves Move { ctx with nowMs := nowMs } (wlPoll ctx nowMs).1 := by
  unfold wlPoll
  rw [if_neg (not_not_intro inv.initialized)]
  simp only
  split
  · have progress := wlPollTransportProgress_moves (inv.clock nowMs)
    exact progress.trans ((pollCompletion_sends _).trail.trans (pollDeliver_trail _)).moves
  · exact ((pollCompletion_sends _).trail.trans (pollDeliver_trail _)).moves

/-! ### Producers

The producers write receive memories only. -/

theorem wlRxReserve_trail (ctx : WlCtx) : Trail RxMove [] ctx (wlRxReserve ctx).1 := by
  unfold wlRxReserve
  split
  · exact Trail.refl ctx
  · exact setRing_trail ctx _

theorem wlRxCommit_trail (ctx : WlCtx) (length : Nat) : Trail RxMove [] ctx (wlRxCommit ctx length).1 := by
  unfold wlRxCommit
  split
  · exact Trail.refl ctx
  · exact setRing_trail ctx _

/-- The copy loop of `wl_feed_bytes`, by induction on the chunks it may still copy. -/
theorem feedBytesLoop_trail (data : Bytes) (fuel : Nat) (ctx : WlCtx) (accepted : Nat) :
    Trail RxMove [] ctx (feedBytesLoop data fuel ctx accepted).1 := by
  induction fuel generalizing ctx accepted with
  | zero => exact Trail.refl ctx
  | succ fuel ih =>
    have reserved := wlRxReserve_trail ctx
    unfold feedBytesLoop
    split
    · split
      · rename_i middle err answer
        rw [answer] at reserved
        exact reserved
      · rename_i middle span answer
        rw [answer] at reserved
        split
        · exact reserved.trans (wlRxCommit_trail middle 0)
        · simp only
          generalize chunk : min (data.length - accepted) span.length = count
          have stored := reserved.trans (setRing_trail middle
            (middle.rx.rxRing.producerStore 0 (data.readAt accepted count)))
          have committed := stored.trans (wlRxCommit_trail _ count)
          split
          · rename_i next answer
            rw [answer] at committed
            exact committed.trans (ih next _)
          · rename_i next code refused answer
            rw [answer] at committed
            exact committed
    · exact Trail.refl ctx

theorem wlFeedBytes_trail (ctx : WlCtx) (buffer : Buffer) :
    Trail RxMove [] ctx (wlFeedBytes ctx buffer).1 := by
  unfold wlFeedBytes
  split
  · exact Trail.refl ctx
  split
  · exact Trail.refl ctx
  have copied := feedBytesLoop_trail buffer.data (buffer.data.length + 1) ctx 0
  split
  · rename_i middle accepted answer
    rw [answer] at copied
    split
    · exact copied.trans (setRing_trail middle _)
    · exact copied
  · exact copied

theorem wlFeedUnit_moves (inv : Inv ctx) (unit : Buffer) : Moves RxMove ctx (wlFeedUnit ctx unit).1 := by
  unfold wlFeedUnit
  split
  · exact (Trail.refl ctx).moves
  split
  · exact (Trail.refl ctx).moves
  split
  · exact (wlFeedBytes_trail ctx unit).moves
  · exact wlFrameReceiveUnit_moves inv unit.data

theorem wlRxUnitQueueInit_trail (ctx : WlCtx) (storage : Bytes) (unitSize slotCount : Nat) :
    Trail RxMove [] ctx (wlRxUnitQueueInit ctx storage unitSize slotCount).1 := by
  unfold wlRxUnitQueueInit
  split
  · exact Trail.refl ctx
  split
  · exact Trail.refl ctx
  split
  · exact Trail.refl ctx
  · exact setUnits_trail ctx _

theorem consumePending_trail (ctx : WlCtx) : Trail RxMove [] ctx (consumePending ctx) := by
  unfold consumePending
  split
  · exact Trail.refl ctx
  split
  · exact (consumeUnit_trail ctx).trans (setPendingConsume_trail _ 0)
  · exact (consumeRing_trail ctx _).trans (setPendingConsume_trail _ 0)

theorem wlEventRelease_trail (ctx : WlCtx) (type : WlEventType) (lease : UInt32) :
    Trail RxMove [] ctx (wlEventRelease ctx type lease) := by
  unfold wlEventRelease
  split
  · have unleased := Trail.single (RxMove.quiet ctx (ctx.resourceGeneration + 1) ctx.rx
      ctx.sink false ctx.slot.rxEventGeneration ctx.port.txWritable)
    exact (unleased.trans (consumePending_trail _)).trans (Trail.setRx _ _)
  · exact Trail.refl ctx

theorem wlLinkGetReadiness_trail (ctx : WlCtx) (nowMs : UInt32) :
    Trail RxMove [] ctx (wlLinkGetReadiness ctx nowMs).1 := by
  have looked : Trail RxMove [] ctx (wlRxRunnable ctx).1 := by
    unfold wlRxRunnable
    split
    · exact Trail.refl ctx
    split
    · split
      · exact Trail.refl ctx
      split
      · exact setRing_trail ctx _
      · exact setRing_trail ctx _
    · exact Trail.refl ctx
  unfold wlLinkGetReadiness
  split
  · exact Trail.refl ctx
  · simp only
    split
    · exact Trail.refl ctx
    · exact looked

/-! ### Every operation

An operation brings its time along, so that a run is a sequence of moves between settings of the
clock. What every move keeps, and does not depend on the clock, is kept by the run. -/

/-- The operations that only send. -/
def Op.isSending : Op → Bool
  | .sendReliable _ _ _ | .sendUnreliable _ _ | .payloadClaim _ _ | .claimStore _ _
  | .payloadCommit _ _ _ _ | .payloadAbort _ | .consumed _ _ | .drained _ _ | .writable | .setSink _
  | .setDrainRequired _ | .cancel _ | .take _ => true
  | _ => false

/-- A sending operation is a sequence of moves of the sending side, after its time has been noted. -/
theorem step_sends (inv : Inv ctx) {op : Op} (sending : op.isSending = true) :
    SendsAt ctx op.time (step ctx op) := by
  cases op with
  | sendReliable messageId payload nowMs => exact wlSendReliable_sends inv messageId payload nowMs
  | sendUnreliable messageId payload => exact (wlSendUnreliable_sends inv messageId payload).still
  | payloadClaim messageId delivery => exact (wlTxPayloadClaim_sends messageId delivery).still
  | claimStore offset data =>
    cases active : ctx.claim.txClaimActive with
    | true =>
      rw [step, ← claimWrite_eq]
      exact (Sends.aside (Move.store offset data active) rfl rfl).still
    | false =>
      have same : claimWrite ctx offset data = ctx := by simp [claimWrite, active]
      rw [step, same]
      exact (Sends.refl ctx).still
  | payloadCommit claim payloadLen nowMs wantsHandle =>
    exact wlTxPayloadCommit_sends inv claim payloadLen nowMs wantsHandle
  | payloadAbort claim => exact (wlTxPayloadAbort_sends claim).still
  | consumed token ioResult => exact (wlTxConsumed_sends inv token ioResult).still
  | drained token ioResult => exact (wlTxDrained_sends token ioResult).still
  | writable =>
    simp only [step, wlTxWritable]
    split
    · exact (Sends.refl ctx).still
    exact (Sends.aside (Move.rx (RxMove.quiet ctx (ctx.resourceGeneration + 1) ctx.rx ctx.sink
      ctx.slot.rxEventLeased ctx.slot.rxEventGeneration true)) rfl rfl).still
  | setSink sink =>
    simp only [step, wlSetSink]
    split
    · exact (Sends.refl ctx).still
    split
    · exact (Sends.refl ctx).still
    exact (Sends.aside (Move.rx (RxMove.quiet ctx ctx.resourceGeneration ctx.rx sink
      ctx.slot.rxEventLeased ctx.slot.rxEventGeneration ctx.port.txWritable)) rfl rfl).still
  | setDrainRequired required => exact (wlSetTxDrainRequired_sends required).still
  | cancel handle => exact (wlTxCancel_sends inv handle).still
  | take handle => exact (wlTxTake_sends handle).still
  | _ => exact nomatch sending

theorem Clocked.ofRx {nowMs : Option UInt32} {after : WlCtx} (trail : Trail RxMove [] ctx after) :
    Clocked ctx nowMs after :=
  .still trail.toMove.moves

theorem step_clocked (inv : Inv ctx) (op : Op) : Clocked ctx op.time (step ctx op) := by
  by_cases sending : op.isSending = true
  · exact (step_sends inv sending).clocked
  cases op with
  | poll nowMs => exact ⟨nowMs, .inr rfl, wlPoll_moves inv nowMs⟩
  | release type lease => exact .ofRx (wlEventRelease_trail ctx type lease)
  | feedUnit unit => exact Clocked.still (wlFeedUnit_moves inv unit).toMove
  | feedBytes data => exact .ofRx (wlFeedBytes_trail ctx data)
  | rxReserve => exact .ofRx (wlRxReserve_trail ctx)
  | ringStore | dmaStore => exact .ofRx (setRing_trail ctx _)
  | rxCommit length => exact .ofRx (wlRxCommit_trail ctx length)
  | dmaClaim | dmaPublish | dmaFinish | dmaAbort | noteOverflow =>
    simp only [step, wlRxDmaClaim, wlRxDmaPublish, wlRxDmaFinish, wlRxDmaAbort, wlRxNoteOverflow]
    split
    · exact .ofRx (.refl ctx)
    · exact .ofRx (setRing_trail ctx _)
  | recoverReset =>
    simp only [step, wlFeedRecoverReset]
    split
    · exact .ofRx (.refl ctx)
    split
    · exact .ofRx (.refl ctx)
    · exact .ofRx (consumeRing_trail ctx _)
  | unitQueueInit storage unitSize slotCount =>
    exact .ofRx (wlRxUnitQueueInit_trail ctx storage unitSize slotCount)
  | unitClaim =>
    simp only [step, wlRxUnitClaim]
    split
    · exact .ofRx (.refl ctx)
    split
    · exact .ofRx (.refl ctx)
    · exact .ofRx (setUnits_trail ctx _)
  | unitStore => exact .ofRx (setUnits_trail ctx _)
  | unitCommit | unitAbort =>
    simp only [step, wlRxUnitCommit, wlRxUnitAbort]
    split
    · exact .ofRx (.refl ctx)
    · exact .ofRx (setUnits_trail ctx _)
  | readiness nowMs => exact .ofRx (wlLinkGetReadiness_trail ctx nowMs)
  | _ => exact absurd rfl sending

theorem run_append (ctx : WlCtx) (first second : List Op) :
    run ctx (first ++ second) = run (run ctx first) second := by
  simp [run]

theorem run_inv (ops : List Op) (inv : Inv ctx) : Inv (run ctx ops) := by
  induction ops generalizing ctx with
  | nil => exact inv
  | cons op ops ih => exact ih ((step_clocked inv op).inv inv)

/-- What every move of a consistent context keeps, and does not depend on the clock, is kept by a
whole run, by induction on its operations. -/
theorem run_induct (ops : List Op) (inv : Inv ctx) (Holds : WlCtx → Prop) (start : Holds ctx)
    (clock : ∀ {before : WlCtx} (nowMs : UInt32), Holds before → Holds { before with nowMs := nowMs })
    (kept : ∀ {label : Option WireFrame} {before after : WlCtx}, Inv before → Holds before →
      Move label before after → Holds after) : Holds (run ctx ops) := by
  induction ops generalizing ctx with
  | nil => exact start
  | cons op ops ih =>
    have clocked := step_clocked inv op
    obtain ⟨nowMs, _, _, trail⟩ := clocked
    -- Consistency is carried along, since the moves of a run start from consistent contexts.
    have both := trail.induct (fun reached => Inv reached ∧ Holds reached)
      ⟨inv.clock nowMs, clock nowMs start⟩
      (fun move held => ⟨move.inv held.1, kept held.1 held.2 move⟩)
    exact ih both.1 both.2

/-! ### Initialization

The sizes that `wl_init` demands are the room of the largest frame in each envelope. -/

variable {config : WlConfig}

/-- The sizes `wl_config_requirements` computes, for a configuration it accepts. -/
theorem wlConfigRequirements_ok {requirements : WlStorageRequirements}
    (accepted : wlConfigRequirements config = .ok requirements) :
    config.maxPayloadLen ≤ 2048 ∧ config.sessionId ≠ 0 ∧ wlMaxUnitSize config ≠ 0 ∧
      (config.maxTransmissionUnit ≠ 0 → wlMaxUnitSize config ≤ config.maxTransmissionUnit) ∧
      requirements =
        { txPayloadSize := config.maxPayloadLen, txUnitSize := wlMaxUnitSize config
          controlUnitSize := wlFrameEncodeOverhead config.envelope config.integrity
          rxFifoSize := if config.envelope = .cobsStream then wlMaxUnitSize config else 0
          rxFallbackSize :=
            if config.envelope = .cobsStream then wlMaxUnitSize config - 1
            else wlMaxUnitSize config } := by
  simp only [wlConfigRequirements, ite_error_eq_ok, not_or, not_and, Nat.not_lt] at accepted
  obtain ⟨⟨-, small⟩, session, -, ⟨sized, -, transmission⟩, same⟩ := accepted
  exact ⟨small, session, sized, transmission, (Except.ok.inj same).symm⟩

theorem wlFrameRawSize_eq {payloadLen : Nat} (small : payloadLen ≤ 2048) (integrity : WlIntegrity) :
    wlFrameRawSize payloadLen integrity = 16 + payloadLen + wlProfileCrcSize integrity := by
  have limit : sizeMax = 18446744073709551615 := by decide
  have header : wlFrameReliableHeaderSize = 16 := rfl
  have crc : wlProfileCrcSize integrity ≤ 4 := by cases integrity <;> decide
  rw [wlFrameRawSize, if_neg (by omega), header]

theorem wlMaxUnitSize_eq (small : config.maxPayloadLen ≤ 2048) :
    wlMaxUnitSize config = envelopeRoom config.envelope
      (16 + config.maxPayloadLen + wlProfileCrcSize config.integrity) := by
  have crc : wlProfileCrcSize config.integrity ≤ 4 := by cases config.integrity <;> decide
  simp only [wlMaxUnitSize, wlFrameRawSize_eq small]
  rw [if_neg (by omega)]
  cases config.envelope with
  | cobsStream =>
    have encoded : wlCobsEncodedMaxSize
        (16 + config.maxPayloadLen + wlProfileCrcSize config.integrity) = _ :=
      wlCobsEncodedMaxSize_eq (by omega)
    simp only [encoded, envelopeRoom]
  | busLength16 | nativePacket => rfl

theorem wlFrameEncodeOverhead_eq (envelope : WlEnvelope) (integrity : WlIntegrity) :
    wlFrameEncodeOverhead envelope integrity =
      envelopeRoom envelope (16 + wlProfileCrcSize integrity) := by
  cases envelope <;> cases integrity <;> decide

/-- A context that `wl_init` returns is `initialCtx` over buffers of the required sizes. -/
theorem wlInit_ok {storage : WlStorage} {answers : List WlSinkResult} {start : WlCtx}
    (accepted : wlInit config storage answers = .ok start) :
    ∃ requirements ring, wlConfigRequirements config = .ok requirements ∧
      storageTooSmall storage requirements = false ∧
      start = initialCtx config storage ring answers ∧
      (requirements.rxFifoSize ≠ 0 → RxRing.init storage.rxFifo.bytes = .ok ring) ∧
      (requirements.rxFifoSize = 0 → ring = RxRing.empty) := by
  unfold wlInit at accepted
  split at accepted
  · exact nomatch accepted
  rename_i requirements valid
  simp only [ite_error_eq_ok, Bool.not_eq_true] at accepted
  obtain ⟨large, -, accepted⟩ := accepted
  split at accepted
  · rename_i fifo
    split at accepted
    · exact nomatch accepted
    · rename_i ring started
      exact ⟨requirements, ring, valid, large, (Except.ok.inj accepted).symm, fun _ => started,
        fun none => absurd none fifo⟩
  · rename_i none
    exact ⟨requirements, RxRing.empty, valid, large, (Except.ok.inj accepted).symm,
      fun some => absurd some none, fun _ => rfl⟩

theorem inv_of_init {storage : WlStorage} {answers : List WlSinkResult} {start : WlCtx}
    (accepted : wlInit config storage answers = .ok start) : Inv start := by
  obtain ⟨_, _, valid, large, rfl, _⟩ := wlInit_ok accepted
  obtain ⟨small, session, -, -, rfl⟩ := wlConfigRequirements_ok valid
  simp only [storageTooSmall, Bool.or_eq_false_iff, decide_eq_false_iff_not, Nat.not_lt] at large
  obtain ⟨⟨⟨⟨⟨_, payload⟩, unit⟩, control⟩, _⟩, _⟩ := large
  rw [wlMaxUnitSize_eq small] at unit
  rw [wlFrameEncodeOverhead_eq] at control
  refine ⟨rfl, rfl, session, ?_, ?_⟩
  · exact portInv_idle ⟨rfl, rfl, rfl⟩ rfl nofun nofun ⟨fun _ => rfl, fun _ => rfl⟩ nofun rfl
      (.inl rfl)
  · exact
      { maxPayload := small
        payloadSize := payload
        unitSize := unit
        controlSize := control
        retainedFits := Nat.zero_le _
        retainedAt := .inl ⟨rfl, rfl⟩
        imageKept := nofun
        claimNamed := nofun
        claimAt := nofun
        claimImage := nofun }

/-! ### Reachable contexts -/

/-- The rule for results about runs: what a fresh context has and every move of a consistent
context keeps holds in every reachable context. -/
theorem Reachable.induct (reachable : Reachable ctx) (Holds : WlCtx → Prop)
    (fresh : ∀ config storage ring answers, Holds (initialCtx config storage ring answers))
    (clock : ∀ {before : WlCtx} (nowMs : UInt32), Holds before → Holds { before with nowMs := nowMs })
    (kept : ∀ {label : Option WireFrame} {before after : WlCtx}, Inv before → Holds before →
      Move label before after → Holds after) : Holds ctx := by
  obtain ⟨config, storage, answers, _, ops, accepted, rfl⟩ := reachable
  have startInv := inv_of_init accepted
  obtain ⟨_, ring, _, _, rfl, _⟩ := wlInit_ok accepted
  exact run_induct ops startInv Holds (fresh config storage ring answers) clock kept

theorem Reachable.inv (reachable : Reachable ctx) : Inv ctx := by
  obtain ⟨_, _, _, _, ops, accepted, rfl⟩ := reachable
  have startInv := inv_of_init accepted
  exact run_inv ops startInv

theorem Reachable.step (reachable : Reachable ctx) (op : Op) : Reachable (step ctx op) := by
  obtain ⟨config, storage, answers, start, ops, accepted, rfl⟩ := reachable
  exact ⟨config, storage, answers, start, ops ++ [op], accepted, by simp [run]⟩

/-- A packet link with one payload byte. -/
def smallConfig : WlConfig :=
  { maxPayloadLen := 1, envelope := .nativePacket, integrity := .none, sessionId := 7,
    maxRetries := 1, ackTimeoutMs := 10, maxTransmissionUnit := 0 }

/-- Buffers of exactly the required sizes. -/
def smallStorage : WlStorage :=
  { txPayload := { address := 100, bytes := [0] }
    txUnit := { address := 200, bytes := List.replicate 17 0 }
    controlUnit := { address := 300, bytes := List.replicate 16 0 }
    rxFifo := { address := 0, bytes := [] }
    rxFallback := { address := 400, bytes := List.replicate 17 0 } }

/-- The context `wl_init` makes of them. -/
def smallStart (answers : List WlSinkResult) : WlCtx :=
  initialCtx smallConfig smallStorage RxRing.empty answers

theorem small_reachable (answers : List WlSinkResult) (ops : List Op) :
    Reachable (run (smallStart answers) ops) :=
  ⟨smallConfig, smallStorage, answers, smallStart answers, ops, rfl, rfl⟩

/-- A byte stream with one payload byte. -/
def streamConfig : WlConfig :=
  { smallConfig with envelope := .cobsStream }

/-- Buffers of exactly the required sizes. -/
def streamStorage : WlStorage :=
  { txPayload := { address := 100, bytes := [0] }
    txUnit := { address := 200, bytes := List.replicate 19 0 }
    controlUnit := { address := 300, bytes := List.replicate 18 0 }
    rxFifo := { address := 400, bytes := List.replicate 19 0 }
    rxFallback := { address := 500, bytes := List.replicate 18 0 } }

/-- The context `wl_init` makes of them. -/
def streamStart (answers : List WlSinkResult) : WlCtx :=
  initialCtx streamConfig streamStorage
    { RxRing.empty with memory := List.replicate 19 0, capacity := 19, dmaNextToken := 1 } answers

end Wirelink
