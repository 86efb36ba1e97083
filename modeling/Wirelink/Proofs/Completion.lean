/-
Module: Wirelink.Proofs.Completion
Purpose: Unreliable submissions that succeeded are conserved: each is an event that was returned, an
  event in the slot, or a unit of the completion counter. A send that is refused without an I/O error
  never reached the sink.
Trusted boundary: none
-/
import Wirelink.Proofs.Events
import Wirelink.Proofs.Line

namespace Wirelink

variable {ctx sent after : WlCtx} {trace : List Obs} {port other : TxPort}

/-! ### The conservation law

From the answer of the sink on, a success is an event that was posted or one unit of the counter. -/

/-- Every success was posted or is still counted. -/
def Conserved (port : TxPort) (trace : List Obs) : Prop :=
  unreliableSuccesses trace =
    (postedEvents trace).count completionEvent + port.txUnreliableCompletions.toNat

/-- Nothing is lost between the sink and the events of a context. -/
abbrev ConservedIn (ctx : WlCtx) : Prop :=
  Conserved ctx.port ctx.trace

/-- An observation that neither ends an unreliable submission nor reports one. -/
def Obs.incomplete : Obs → Bool
  | .sinkCall _ kind _ answer => !(kind == .unreliable && answer == .sent)
  | .consumed _ ok => !ok
  | .posted _ handle => handle != 0
  | _ => true

variable {obs : Obs} {ok : Bool} {code : WlErr}

theorem unreliableSuccesses_incomplete (incomplete : obs.incomplete = true) (trace : List Obs) :
    unreliableSuccesses (obs :: trace) = unreliableSuccesses trace := by
  cases obs with
  | sinkCall token kind bytes answer =>
    cases kind <;> cases answer <;> first | rfl | cases incomplete
  | consumed token ok =>
    cases ok with
    | false => rfl
    | true => cases incomplete
  | _ => rfl

theorem completionEvents_incomplete (incomplete : obs.incomplete = true) (trace : List Obs) :
    (postedEvents (obs :: trace)).count completionEvent =
      (postedEvents trace).count completionEvent := by
  cases obs with
  | posted type handle =>
    have named : handle ≠ 0 := by simpa [Obs.incomplete] using incomplete
    exact List.count_cons_of_ne (fun same => named (congrArg Prod.snd same))
  | _ => rfl

namespace Conserved

variable (conserved : Conserved port trace)

include conserved

theorem silent (incomplete : obs.incomplete = true) : Conserved port (obs :: trace) := by
  unfold Conserved at conserved ⊢
  rw [unreliableSuccesses_incomplete incomplete, completionEvents_incomplete incomplete]
  exact conserved

theorem congr (same : other.txUnreliableCompletions = port.txUnreliableCompletions) :
    Conserved other trace := by
  unfold Conserved at conserved ⊢
  rw [same]
  exact conserved

theorem move (same : other.txUnreliableCompletions = port.txUnreliableCompletions)
    (incomplete : obs.incomplete = true) : Conserved other (obs :: trace) :=
  (conserved.silent incomplete).congr same

theorem consumed {token : UInt32} (held : (lineOf trace).lease ≠ some (token, .unreliable)) :
    Conserved port (.consumed token ok :: trace) := by
  cases ok with
  | false => exact conserved.silent rfl
  | true =>
    unfold Conserved at conserved ⊢
    rw [unreliableSuccesses, if_neg held]
    exact conserved

theorem success (capacity : port.txUnreliableCompletions ≠ uint32Max)
    (counted : unreliableSuccesses (obs :: trace) = unreliableSuccesses trace + 1)
    (unposted : postedEvents (obs :: trace) = postedEvents trace)
    (same : other.txUnreliableCompletions = port.txUnreliableCompletions + 1) :
    Conserved other (obs :: trace) := by
  unfold Conserved at conserved ⊢
  have room : port.txUnreliableCompletions.toNat + 1 < 2 ^ 32 := by
    have bound := port.txUnreliableCompletions.toNat_lt
    have below : port.txUnreliableCompletions.toNat ≠ uint32Max.toNat :=
      fun full => capacity (UInt32.toNat_inj.mp full)
    have top : uint32Max.toNat = 2 ^ 32 - 1 := rfl
    omega
  rw [counted, unposted, same, UInt32.toNat_add, conserved]
  have one : (1 : UInt32).toNat = 1 := rfl
  rw [one, Nat.mod_eq_of_lt room, Nat.add_assoc]

theorem report (waiting : port.txUnreliableCompletions ≠ 0) :
    Conserved { port with txUnreliableCompletions := port.txUnreliableCompletions - 1 }
      (.posted .txSuccess 0 :: trace) := by
  unfold Conserved at conserved ⊢
  have positive : 1 ≤ port.txUnreliableCompletions.toNat :=
    Nat.one_le_iff_ne_zero.mpr (fun zero => waiting (UInt32.toNat_inj.mp zero))
  have left : (port.txUnreliableCompletions - 1).toNat =
      port.txUnreliableCompletions.toNat - 1 :=
    UInt32.toNat_sub_of_le _ _ (UInt32.le_iff_toNat_le.mpr positive)
  have posted : (postedEvents (.posted .txSuccess 0 :: trace)).count completionEvent =
      (postedEvents trace).count completionEvent + 1 := List.count_cons_self
  have unended : unreliableSuccesses (.posted .txSuccess 0 :: trace) =
      unreliableSuccesses trace := rfl
  rw [ left, unended]
  omega

end Conserved

/-! ### Moves

Only an answer of the sink, a consumption and a report touch the account. All other moves leave it
alone. -/

theorem Conserved.pushTx {type : WlEventType} (conserved : ConservedIn ctx)
    (transmit : type.isRx = false) (named : ctx.tx.txHandle ≠ 0) :
    ConservedIn (wlPushTxEvent ctx type) := by
  rw [wlPushTxEvent_eq ctx transmit]
  cases eventDeferred ctx with
  | true => exact conserved
  | false => exact conserved.silent (by simpa [Obs.incomplete] using named)

theorem Sent.conserved (submission : Sent ctx sent ok) (conserved : ConservedIn ctx) :
    ConservedIn sent := by
  cases submission with
  | noSink => exact conserved
  | answered answer =>
    cases answer with
    | sent | started | busy | failed =>
      exact conserved.move rfl rfl

theorem SentPlain.conserved (submission : SentPlain ctx sent ok)
    (conserved : ConservedIn ctx) : ConservedIn sent := by
  cases submission with
  | noSink => exact conserved
  | answered answer present capacity =>
    cases answer with
    | sent => exact conserved.success capacity rfl rfl rfl
    | started | busy | failed => exact conserved.move rfl rfl

theorem AckStep.conserved {sessionId : UInt64} {sequence : UInt32}
    (ack : AckStep sessionId sequence ctx after) (conserved : ConservedIn ctx) :
    ConservedIn after := by
  cases ack with
  | dropped => exact conserved
  | placed => exact conserved.move rfl rfl

theorem Conserved.returned (conserved : ConservedIn ctx)
    (line : lineOf ctx.trace = portLine ctx.port) (kind : ctx.port.inFlightReliable = true)
    (ioResult : WlErr) :
    ConservedIn (leaseReturned ctx ctx.port.txToken ioResult) := by
  have held : (lineOf ctx.trace).lease ≠ some (ctx.port.txToken, .unreliable) := by
    rw [line, portLine, kind]
    cases ctx.port.controlInflight <;> cases ctx.port.txInflight <;> simp [dataKind]
  exact (conserved.consumed held).congr rfl

theorem Move.conserved {label : Option WireFrame} (move : Move label ctx after) (inv : Inv ctx)
    (line : lineOf ctx.trace = portLine ctx.port) (conserved : ConservedIn ctx) :
    ConservedIn after := by
  cases move with
  | rx move =>
    cases move with
    | quiet => exact conserved.congr rfl
    | control answer => cases answer <;> exact conserved.move rfl rfl
    | receive => exact conserved
    | accept view rx event lease free type fresh ack | duplicate view known ack =>
      exact ack.conserved (conserved.silent rfl)
    | acked live =>
      exact Conserved.pushTx (conserved.move rfl rfl) rfl (inv.live_handle live)
  | publish pending =>
    -- a report under a nonzero handle is none of an unreliable send
    have ended := (inv.port.pendingState.resolve_left pending).settled.2.2
    have named : ctx.tx.txHandle ≠ 0 :=
      inv.port.handle_ne_zero (by rcases ended with state | state <;> simp [state])
    exact conserved.silent (by simpa [Obs.incomplete] using named)
  | complete free waiting => exact conserved.report waiting
  | deliver | take => exact conserved.silent rfl
  | resubmitReliable sent ok pending claim queue lease drain kind submission =>
    have named := inv.live_handle (.inr (inv.port.queuedSending queue kind))
    have submitted := submission.conserved (conserved.silent rfl)
    cases ok with
    | true => exact submitted
    | false =>
      have dropped : ConservedIn (unqueued sent) := submitted
      exact Conserved.pushTx dropped rfl (submission.transaction.1 ▸ named)
  | resubmitUnreliable sent ok pending claim queue lease drain kind submission =>
    have submitted := submission.conserved (conserved.silent rfl)
    cases ok with
    | true => exact submitted
    | false => exact submitted.congr rfl
  | timeoutFail lease queue claim state =>
    exact Conserved.pushTx conserved rfl (inv.live_handle (.inl state))
  | timeoutRetry sent ok nowMs pending lease queue claim state left submission =>
    have named := inv.live_handle (.inl state)
    have submitted := submission.conserved (conserved.silent rfl)
    cases ok with
    | true => exact submitted
    | false => exact Conserved.pushTx submitted rfl (submission.transaction.1 ▸ named)
  | consumedControl ioResult inflight =>
    have held : (lineOf ctx.trace).lease ≠ some (ctx.port.txToken, .unreliable) := by
      rw [line, portLine, inflight]
      simp
    exact (conserved.consumed held).congr rfl
  | consumedUnreliable ioResult inflight kind =>
    have capacity := inv.port.capacity (.inl inflight) kind
    have held : (lineOf ctx.trace).lease = some (ctx.port.txToken, .unreliable) := by
      rw [line, portLine, inv.port.oneLease inflight, inflight, kind]
      rfl
    -- a unit returned as sent is a success, and its completion is owed from here on
    by_cases ok : ioResult = .ok
    · subst ok
      exact conserved.success capacity (by simp [unreliableSuccesses, held]) rfl rfl
    · have unfinished : (Obs.consumed ctx.port.txToken (ioResult == .ok)).incomplete = true := by
        simpa [Obs.incomplete] using ok
      exact conserved.move (if_neg ok) unfinished
  | consumedCancelled ioResult _ kind | consumedSettled ioResult _ kind
  | consumedDeferred ioResult _ _ kind => exact (conserved.returned line kind ioResult).congr rfl
  | consumedOk inflight kind => exact conserved.returned line kind .ok
  | consumedRetry sent ok ioResult failed inflight kind sending left pending submission =>
    have named := inv.live_handle (.inr sending)
    have submitted := submission.conserved (conserved.returned line kind ioResult)
    cases ok with
    | true => exact submitted
    | false => exact Conserved.pushTx submitted rfl (submission.transaction.1 ▸ named)
  | consumedFail ioResult failed inflight kind sending left =>
    exact Conserved.pushTx (conserved.returned line kind ioResult) rfl (inv.live_handle (.inr sending))
  | drained | drainedOk | drainRequired => exact conserved.move rfl rfl
  | drainedFail ioResult pending awaits =>
    exact Conserved.pushTx (conserved.move rfl rfl) rfl (inv.live_handle (.inl awaits.state))
  | openReliable sent ok messageId payload nowMs free idle placed fits named room submission =>
    have opened : Conserved ctx.port
        (openTransaction (Wirelink.spendSequence ctx) messageId ctx.tx.txSequence payload
          nowMs).trace := conserved.silent rfl
    have submitted := submission.conserved opened
    cases ok with
    | true => exact submitted
    | false => exact submitted.silent rfl
  | sendUnreliable sent ok messageId data unit free named size image submission =>
    exact submission.conserved conserved
  | spendSequence | claim | store | spend => exact conserved
  | cancel => exact conserved.move rfl rfl

/-! ### Sends that do not reach the sink

An error other than an I/O error comes from a test in front of the call of the sink. -/

/-- An error other than `WL_ERR_IO` means that the sink was not called. -/
def RefusedUnseen (trace : List Obs) (answer : WlCtx × Except WlErr UInt32) : Prop :=
  ∀ err, answer.2 = .error err → err ≠ .io → sinkCalls answer.1.trace = sinkCalls trace

/-- An answer of the sink is reported as success or as an I/O error, once there is capacity. -/
theorem dataAnswer_code {reliable : Bool} {answer : WlSinkResult}
    (handled : dataAnswer ctx reliable answer = (sent, code))
    (capacity : reliable = false → ctx.port.txUnreliableCompletions ≠ uint32Max) :
    code = .ok ∨ code = .io := by
  cases answer with
  | started | busy =>
    cases handled
    exact .inl rfl
  | failed =>
    cases handled
    exact .inr rfl
  | sent =>
    cases reliable with
    | true =>
      cases handled
      exact .inl rfl
    | false =>
      simp only [dataAnswer, wlCompleteUnreliableTx, capacity rfl, Bool.false_eq_true,
        if_false] at handled
      cases handled
      exact .inl rfl

theorem wlSubmitData_refused {reliable : Bool} (answer : wlSubmitData ctx reliable = (sent, code))
    (capacity : reliable = false → ctx.port.txUnreliableCompletions ≠ uint32Max)
    (refused : code ≠ .ok) (other : code ≠ .io) : sent = ctx := by
  unfold wlSubmitData at answer
  split at answer
  · cases answer
    rfl
  · simp only [callSink_eq] at answer
    rcases dataAnswer_code answer capacity with ok | io
    · exact absurd ok refused
    · exact absurd io other

theorem encodeTxPayload_trace (ctx : WlCtx) : (encodeTxPayload ctx).1.trace = ctx.trace := by
  unfold encodeTxPayload
  split
  · split <;> rfl
  · rfl

theorem wlSendTxPayload_refused (answer : wlSendTxPayload ctx = (sent, code)) (refused : code ≠ .ok)
    (other : code ≠ .io) : sent.trace = ctx.trace := by
  have encoded := encodeTxPayload_trace ctx
  unfold wlSendTxPayload at answer
  split at answer
  · cases answer
    rfl
  split at answer
  · cases answer
    rfl
  split at answer
  · rename_i image made
    rw [made] at encoded
    rw [wlSubmitData_refused answer nofun refused other]
    exact encoded
  · rename_i image err failed made
    rw [made] at encoded
    cases answer
    exact encoded

theorem sendReliable_unseen (messageId : UInt16) (sequence : UInt32) (payload : SendPayload)
    (nowMs : UInt32) :
    RefusedUnseen ctx.trace (sendReliable ctx messageId sequence payload nowMs) := by
  intro err failed other
  unfold sendReliable at failed ⊢
  split at failed
  · cases failed
  · rename_i sent code refused answer
    cases failed
    have kept := wlSendTxPayload_refused answer refused other
    have opened : sinkCalls sent.trace = sinkCalls ctx.trace := by
      rw [kept]
      rfl
    exact opened

theorem sendUnreliable_unseen (messageId : UInt16) (payload : SendPayload)
    (capacity : ctx.port.txUnreliableCompletions ≠ uint32Max) :
    RefusedUnseen ctx.trace (sendUnreliable ctx messageId payload) := by
  intro err failed other
  obtain ⟨_, _, _, same⟩ := wlInvalidateTxImage_eq ctx
  simp only [sendUnreliable, same] at failed ⊢
  split at failed
  · rfl
  · split at failed
    · cases failed
    · rename_i sent code refused answer
      cases failed
      rw [wlSubmitData_refused answer (fun _ => capacity) refused other]

theorem wlSendFrameInternal_unseen (messageId : UInt16) (sequence : UInt32)
    (payload : SendPayload) (reliable : Bool) (nowMs : UInt32) :
    RefusedUnseen ctx.trace
      (wlSendFrameInternal ctx messageId sequence payload reliable nowMs) := by
  rcases wlSendFrameInternal_cases ctx messageId sequence payload reliable nowMs with
    ⟨err, refused⟩ | ⟨starts, sent⟩
  · rw [refused]
    exact fun _ _ _ => rfl
  · rw [sent]
    cases reliable with
    | true => exact sendReliable_unseen messageId sequence payload nowMs
    | false => exact sendUnreliable_unseen messageId payload (starts.capacity rfl)

theorem wlSendReliable_unseen (messageId : UInt16) (payload : Buffer) (nowMs : UInt32) :
    RefusedUnseen ctx.trace (wlSendReliable ctx messageId payload nowMs) := by
  unfold wlSendReliable
  split
  · exact fun _ _ _ => rfl
  split
  · exact fun _ _ _ => rfl
  split
  · exact fun _ _ _ => rfl
  exact wlSendFrameInternal_unseen messageId _ _ true nowMs

theorem wlSendUnreliable_unseen (messageId : UInt16) (payload : Buffer) :
    RefusedUnseen ctx.trace (wlSendUnreliable ctx messageId payload) := by
  unfold wlSendUnreliable
  split
  · exact fun _ _ _ => rfl
  split
  · exact fun _ _ _ => rfl
  exact wlSendFrameInternal_unseen messageId 0 _ false 0

theorem wlTxPayloadCommit_unseen (claim : WlTxPayloadClaim) (payloadLen : Nat) (nowMs : UInt32)
    (wantsHandle : Bool) :
    RefusedUnseen ctx.trace (wlTxPayloadCommit ctx claim payloadLen nowMs wantsHandle) := by
  have spent : (spendClaim ctx).trace = ctx.trace := rfl
  have numbered : (spendSequence (spendClaim ctx)).trace = ctx.trace := rfl
  unfold wlTxPayloadCommit
  split
  · exact fun _ _ _ => rfl
  split
  · exact fun _ _ _ => rfl
  simp only
  split
  · exact fun _ _ _ => rfl
  split
  · exact fun _ _ _ => rfl
  split
  · rw [← numbered]
    exact wlSendFrameInternal_unseen _ _ _ true nowMs
  · rw [← spent]
    exact wlSendFrameInternal_unseen _ 0 _ false nowMs

section

variable (full : ctx.port.txUnreliableCompletions = uint32Max)

include full

/-- With the completion counter full an unreliable packet is refused before anything is done. -/
theorem wlSendFrameInternal_full (messageId : UInt16) (payload : SendPayload) (nowMs : UInt32) :
    ∃ err, wlSendFrameInternal ctx messageId 0 payload false nowMs = (ctx, .error err) := by
  rcases wlSendFrameInternal_cases ctx messageId 0 payload false nowMs with refused | ⟨starts, -⟩
  · exact refused
  · exact absurd full (starts.capacity rfl)

theorem wlSendUnreliable_full (messageId : UInt16) (payload : Buffer) :
    sinkCalls (wlSendUnreliable ctx messageId payload).1.trace = sinkCalls ctx.trace := by
  unfold wlSendUnreliable
  split
  · rfl
  split
  · rfl
  obtain ⟨_, refused⟩ := wlSendFrameInternal_full full messageId (.copied payload) 0
  rw [refused]

theorem wlTxPayloadCommit_full (plain : ctx.claim.txClaimReliable = false)
    (claim : WlTxPayloadClaim) (payloadLen : Nat) (nowMs : UInt32) (wantsHandle : Bool) :
    sinkCalls (wlTxPayloadCommit ctx claim payloadLen nowMs wantsHandle).1.trace =
      sinkCalls ctx.trace := by
  unfold wlTxPayloadCommit
  split
  · rfl
  split
  · rfl
  simp only [plain, Bool.false_eq_true, false_and, or_false, if_false]
  split
  · rfl
  have spent : (spendClaim ctx).port.txUnreliableCompletions = uint32Max := full
  obtain ⟨_, refused⟩ := wlSendFrameInternal_full spent ctx.claim.txClaimMessageId
    (.direct { region := claim.region, offset := claim.offset, length := payloadLen }) nowMs
  rw [refused]
  rfl

end

/-! ### Runs -/

theorem Reachable.completions (reachable : Reachable ctx) : ConservedIn ctx := by
  have kept := reachable.induct
    (fun reached => LineInv reached.trace reached.port ∧ ConservedIn reached)
    (fun config storage ring answers => ⟨lineInv_initial config storage ring answers, rfl⟩)
    (fun _ kept => kept)
    (fun inv kept move =>
      ⟨move.lineInv inv kept.1, move.conserved inv kept.1.linked kept.2⟩)
  exact kept.2

theorem slotEvents_completion (slot : EventSlot) :
    (slotEvents slot).count completionEvent =
      if slot.hasEvent = true ∧ slot.event.type = .txSuccess ∧ slot.event.handle = 0 then 1
      else 0 := by
  unfold slotEvents
  cases slot.hasEvent with
  | false => simp
  | true =>
    by_cases success : slot.event.type = .txSuccess
    · by_cases zero : slot.event.handle = 0
      · simp [success, zero, WlEventType.isRx, completionEvent]
      · simp [success, zero, WlEventType.isRx, completionEvent]
    · cases slot.event.type.isRx with
      | true => simp [success]
      | false => simp [success, completionEvent]

/-- Unreliable completions of every run. The submissions that succeeded are the completion events
already returned, the ones still counted and the one in the slot; a send that returns an error other
than `WL_ERR_IO` did not call the sink; and with the counter full no unreliable send does. -/
theorem unreliable_completions_conserved (reachable : Reachable ctx) :
    unreliableSuccesses ctx.trace =
        (polledEvents ctx.trace).count completionEvent + ctx.port.txUnreliableCompletions.toNat +
          (if ctx.slot.hasEvent = true ∧ ctx.slot.event.type = .txSuccess ∧
              ctx.slot.event.handle = 0 then 1
            else 0) ∧
      (∀ messageId payload nowMs,
        RefusedUnseen ctx.trace (wlSendReliable ctx messageId payload nowMs)) ∧
      (∀ messageId payload, RefusedUnseen ctx.trace (wlSendUnreliable ctx messageId payload)) ∧
      (∀ claim payloadLen nowMs wantsHandle,
        RefusedUnseen ctx.trace (wlTxPayloadCommit ctx claim payloadLen nowMs wantsHandle)) ∧
      (ctx.port.txUnreliableCompletions = uint32Max →
        (∀ messageId payload,
          sinkCalls (wlSendUnreliable ctx messageId payload).1.trace = sinkCalls ctx.trace) ∧
        (ctx.claim.txClaimReliable = false → ∀ claim payloadLen nowMs wantsHandle,
          sinkCalls (wlTxPayloadCommit ctx claim payloadLen nowMs wantsHandle).1.trace =
            sinkCalls ctx.trace)) := by
  refine ⟨?_, wlSendReliable_unseen, wlSendUnreliable_unseen, wlTxPayloadCommit_unseen,
    fun full => ⟨wlSendUnreliable_full full, wlTxPayloadCommit_full full⟩⟩
  have conserved := reachable.completions
  rw [conserved, reachable.events.ledger.fifo, List.count_append, slotEvents_completion]
  omega

/-- One completion was returned, two are still counted, and a send without a message id is refused
before the sink is called. -/
theorem unreliable_completions_small_run :
    unreliableSuccesses (run (smallStart [.sent, .started, .sent]) [.setSink true,
        .sendUnreliable 6 (.bytes [2]), .poll 1, .sendUnreliable 6 (.bytes [3]), .consumed 3 .ok,
        .sendUnreliable 6 (.bytes [4])]).trace = 3 ∧
      RefusedUnseen (run (smallStart [.sent, .started, .sent]) [.setSink true,
          .sendUnreliable 6 (.bytes [2]), .poll 1, .sendUnreliable 6 (.bytes [3]), .consumed 3 .ok,
          .sendUnreliable 6 (.bytes [4])]).trace
        (wlSendUnreliable (run (smallStart [.sent, .started, .sent]) [.setSink true,
          .sendUnreliable 6 (.bytes [2]), .poll 1, .sendUnreliable 6 (.bytes [3]), .consumed 3 .ok,
          .sendUnreliable 6 (.bytes [4])]) 0 (.bytes [1])) :=
  ⟨(unreliable_completions_conserved (small_reachable _ _)).1.trans (by decide +kernel),
    (unreliable_completions_conserved (small_reachable _ _)).2.2.1 0 (.bytes [1])⟩

end Wirelink
