/-
Module: Wirelink.Proofs.Ack
Purpose: The receiving side in every run: an ACK is placed for every accepted or repeated unit
  exactly as long as the control slot is free, a placed ACK waits for the sink, and the unit
  accepted last is not published again.
Trusted boundary: none
-/
import Mathlib.Data.List.Chain
import Wirelink.Proofs.Reach
import Wirelink.Spec.Ack

namespace Wirelink

variable {ctx sent after : WlCtx} {config : WlConfig} {port other : TxPort} {mem otherMem : TxMemory}
  {dedup : RxDedup} {trace : List Obs}

/-! ### Observations

Most observations have nothing to do with the ACKs this side sends, and change no account of them.
-/

/-- Observations that have nothing to do with the ACKs this side sends. -/
def Obs.unacked : Obs → Bool
  | .sinkCall _ .control _ _ | .accepted _ _ _ _ _ _ | .repeated _ _ _ _ | .ackPlaced _ _ _ => false
  | _ => true

variable {obs : Obs}

section

variable (unacked : obs.unacked = true)

include unacked

theorem owesAck_unacked : obs.owesAck = none := by
  cases obs <;> first | rfl | cases unacked

theorem pendingAck_unacked (trace : List Obs) : pendingAck (obs :: trace) = pendingAck trace := by
  cases obs with
  | sinkCall token kind => cases kind <;> first | rfl | cases unacked
  | ackPlaced => cases unacked
  | _ => rfl

theorem publishedUnits_unacked (trace : List Obs) :
    publishedUnits (obs :: trace) = publishedUnits trace := by
  cases obs <;> first | rfl | cases unacked

theorem controlFaithful_unacked (trace : List Obs) :
    controlFaithful config (obs :: trace) = true := by
  cases obs with
  | sinkCall token kind => cases kind <;> first | rfl | cases unacked
  | _ => rfl

end

/-! ### Placed ACKs

The trace says of each accepted or repeated unit whether its ACK was placed in the same step. An
observation owes no ACK, or its ACK is placed, or it is dropped because the slot was taken. -/

theorem ackPaid_none (owed : owedAck trace = none) (obs : Obs) :
    ackPaid config (obs :: trace) = true := by
  simp only [ackPaid, owed]

theorem owedAck_paid (paid : ackPaid config (obs :: trace) = true)
    (other : ∀ sessionId sequence bytes, obs ≠ .ackPlaced sessionId sequence bytes) :
    owedAck trace = none := by
  cases owed : owedAck trace with
  | none => rfl
  | some =>
    simp only [ackPaid, owed, beq_iff_eq] at paid
    exact absurd paid (other _ _ _)

theorem acksPlaced_cons (none : obs.owesAck = none)
    (other : ∀ sessionId sequence bytes, obs ≠ .ackPlaced sessionId sequence bytes) :
    AcksPlaced config (obs :: trace) ↔ AcksPlaced config trace := by
  constructor
  · rintro ⟨_, paid, before⟩
    exact ⟨owedAck_paid paid other, before⟩
  · rintro ⟨owed, before⟩
    exact ⟨none, ackPaid_none owed obs, before⟩

theorem controlFree_cons (free : obs.owesAck ≠ none → obs.controlFree = true) :
    ControlFree (obs :: trace) ↔ ControlFree trace := by
  unfold ControlFree
  rw [List.forall_mem_cons]
  exact and_iff_right free

theorem not_acksPlaced_owed (owed : obs.owesAck ≠ none) :
    ¬ AcksPlaced config (obs :: trace) :=
  fun placed => owed placed.1

theorem not_controlFree_owed (owed : obs.owesAck ≠ none) (taken : obs.controlFree = false) :
    ¬ ControlFree (obs :: trace) := by
  intro free
  have this := free obs List.mem_cons_self owed
  exact absurd (taken.symm.trans this) (by decide)

theorem acksPlaced_paid {sessionId : UInt64} {sequence : UInt32} {bytes : Bytes}
    (owed : obs.owesAck = some (sessionId, sequence))
    (image : bytes = linkUnit config (.ack sessionId sequence))
    (other : ∀ sessionId sequence bytes, obs ≠ .ackPlaced sessionId sequence bytes) :
    AcksPlaced config (.ackPlaced sessionId sequence bytes :: obs :: trace) ↔
      AcksPlaced config trace := by
  constructor
  · rintro ⟨_, _, paid, before⟩
    exact ⟨owedAck_paid paid other, before⟩
  · rintro ⟨before, earlier⟩
    refine ⟨rfl, ?_, ackPaid_none before obs, earlier⟩
    simp only [ackPaid, owedAck, owed, image, beq_self_eq_true]

/-! ### The invariant

The control slot holds the ACK that was placed and has not left, and ACKs were placed exactly as
long as the slot was free. Only the receipt of a unit and the handover to the sink touch either. -/

/-- The ACKs of a run and the control slot. -/
structure AckInv (config : WlConfig) (port : TxPort) (mem : TxMemory) (trace : List Obs) :
    Prop where
  placed : AcksPlaced config trace ↔ ControlFree trace
  waiting : ∀ sessionId sequence, pendingAck trace = some (sessionId, sequence) →
    port.controlPending = true ∧ port.controlInflight = false ∧
      mem.controlUnit.take port.controlLen = linkUnit config (.ack sessionId sequence)
  shown : port.controlPending = true → port.controlInflight = false →
    ∃ ack, pendingAck trace = some ack
  handed : Trace.Always (fun moment => controlFaithful config moment = true) trace

/-- The control slot is as before. -/
structure SameControl (port other : TxPort) (mem otherMem : TxMemory) : Prop where
  pending : other.controlPending = port.controlPending
  inflight : other.controlInflight = port.controlInflight
  length : other.controlLen = port.controlLen
  unit : otherMem.controlUnit = mem.controlUnit

namespace AckInv

variable (acks : AckInv config port mem trace)

include acks

theorem congr (same : SameControl port other mem otherMem) :
    AckInv config other otherMem trace where
  placed := acks.placed
  waiting := by
    rw [same.pending, same.inflight, same.length, same.unit]
    exact acks.waiting
  shown := by
    rw [same.pending, same.inflight]
    exact acks.shown
  handed := acks.handed

theorem silent (unacked : obs.unacked = true) :
    AckInv config port mem (obs :: trace) where
  placed := by
    have none := owesAck_unacked unacked
    rw [acksPlaced_cons none, controlFree_cons (fun owed => absurd none owed)]
    · exact acks.placed
    · rintro sessionId sequence bytes rfl
      cases unacked
  waiting := by
    rw [pendingAck_unacked unacked]
    exact acks.waiting
  shown := by
    rw [pendingAck_unacked unacked]
    exact acks.shown
  handed := ⟨controlFaithful_unacked unacked trace, acks.handed⟩

theorem cleared (none : pendingAck trace = none) (clear : other.controlPending = false) :
    AckInv config other otherMem trace where
  placed := acks.placed
  waiting := by simp [none]
  shown := by simp [clear]
  handed := acks.handed

theorem control (token : UInt32) (answer : WlSinkResult) (pending : port.controlPending = true)
    (idle : port.controlInflight = false) :
    AckInv config
      { port with
        controlPending := answer != .sent && answer != .failed
        controlInflight := answer == .started }
      mem (.sinkCall token .control (mem.controlUnit.take port.controlLen) answer :: trace) := by
  obtain ⟨⟨sessionId, sequence⟩, shown⟩ := acks.shown pending idle
  obtain ⟨_, _, image⟩ := acks.waiting sessionId sequence shown
  refine ⟨?_, ?_, ?_, ?_, acks.handed⟩
  · refine (acksPlaced_cons rfl ?_).trans (acks.placed.trans (controlFree_cons ?_).symm)
    · exact fun _ _ _ => nofun
    · exact fun owed => absurd rfl owed
  · intro session number
    cases answer with
    | busy =>
      intro kept
      exact ⟨rfl, rfl, (acks.waiting session number kept).2.2⟩
    | sent | started | failed => simp [pendingAck]
  · cases answer with
    | busy => exact fun _ _ => ⟨_, shown⟩
    | sent | started | failed => simp
  · simp [controlFaithful, shown, image]

end AckInv

/-- The observation of a unit that calls for its ACK. -/
structure CallsForAck (obs : Obs) (sessionId : UInt64) (sequence : UInt32) (free sink : Bool) :
    Prop where
  owed : obs.owesAck = if sink then some (sessionId, sequence) else none
  free : obs.controlFree = free
  other : ∀ sessionId sequence bytes, obs ≠ .ackPlaced sessionId sequence bytes
  pending : ∀ trace, pendingAck (obs :: trace) = pendingAck trace
  faithful : ∀ config trace, controlFaithful config (obs :: trace) = true

theorem callsForAck_accepted (view : WlFrameView) (free sink : Bool) :
    CallsForAck (.accepted view.sessionId view.sequence view.messageId view.payload free sink)
      view.sessionId view.sequence free sink :=
  ⟨by cases sink <;> rfl, rfl, fun _ _ _ => nofun, fun _ => rfl, fun _ _ => rfl⟩

theorem callsForAck_repeated (view : WlFrameView) (free sink : Bool) :
    CallsForAck (.repeated view.sessionId view.sequence free sink) view.sessionId view.sequence
      free sink :=
  ⟨by cases sink <;> rfl, rfl, fun _ _ _ => nofun, fun _ => rfl, fun _ _ => rfl⟩

theorem AckStep.ackInv {sessionId : UInt64} {sequence : UInt32}
    (ack : AckStep sessionId sequence ctx after) (noted : ctx.trace = obs :: trace)
    (calls : CallsForAck obs sessionId sequence (!ctx.port.controlPending) ctx.sink)
    (lease : ctx.port.controlInflight = true → ctx.port.controlPending = true)
    (acks : AckInv ctx.config ctx.port ctx.mem trace) :
    AckInv ctx.config after.port after.mem after.trace := by
  cases ack with
  | dropped blocked =>
    rw [noted]
    refine ⟨?_, ?_, ?_, calls.faithful _ _, acks.handed⟩
    · cases sink : ctx.sink with
      | false =>
        have none : obs.owesAck = none := by rw [calls.owed, sink]; rfl
        rw [acksPlaced_cons none calls.other, controlFree_cons (fun owed => absurd none owed)]
        exact acks.placed
      | true =>
        -- The ACK is lost, and the slot was taken.
        have owed : obs.owesAck ≠ none := by rw [calls.owed, sink]; nofun
        have taken := blocked.resolve_left (by rw [sink]; decide)
        exact iff_of_false (not_acksPlaced_owed owed)
          (not_controlFree_owed owed (by rw [calls.free, taken]; rfl))
    · rw [calls.pending]
      exact acks.waiting
    · rw [calls.pending]
      exact acks.shown
  | placed present free size image =>
    have idle : ctx.port.controlInflight = false := by
      cases inflight : ctx.port.controlInflight with
      | false => rfl
      | true => exact absurd (free.symm.trans (lease inflight)) (by decide)
    have owed : obs.owesAck = some (sessionId, sequence) := by rw [calls.owed, present]; rfl
    simp only [WlCtx.note, noted]
    refine ⟨?_, ?_, fun _ _ => ⟨_, rfl⟩, rfl, calls.faithful _ _, acks.handed⟩
    · rw [acksPlaced_paid owed image calls.other, controlFree_cons (fun owed => absurd rfl owed),
        controlFree_cons (fun _ => by rw [calls.free, free]; rfl)]
      exact acks.placed
    · intro session number named
      cases named
      exact ⟨rfl, idle, image⟩

/-! ### Moves that have nothing to do with received units

The sending side leaves the control slot and the last accepted unit alone, except where the control
unit itself is consumed. -/

/-- The context moved on without touching the control slot or the last accepted unit. -/
structure Aside (ctx after : WlCtx) : Prop where
  added : ∃ newer, after.trace = newer ++ ctx.trace ∧ ∀ obs ∈ newer, obs.unacked = true
  control : SameControl ctx.port after.port ctx.mem after.mem
  dedup : after.dedup = ctx.dedup

namespace Aside

theorem quiet (trace : after.trace = ctx.trace)
    (control : SameControl ctx.port after.port ctx.mem after.mem)
    (dedup : after.dedup = ctx.dedup) : Aside ctx after :=
  ⟨⟨[], trace, nofun⟩, control, dedup⟩

theorem noted (trace : after.trace = obs :: ctx.trace) (unacked : obs.unacked = true)
    (control : SameControl ctx.port after.port ctx.mem after.mem) (dedup : after.dedup = ctx.dedup) :
    Aside ctx after :=
  ⟨⟨[obs], trace, fun _ only => List.mem_singleton.mp only ▸ unacked⟩, control, dedup⟩

theorem refl (ctx : WlCtx) : Aside ctx ctx :=
  quiet rfl ⟨rfl, rfl, rfl, rfl⟩ rfl

theorem trans {middle : WlCtx} (first : Aside ctx middle) (second : Aside middle after) :
    Aside ctx after := by
  obtain ⟨older, before, olderKept⟩ := first.added
  obtain ⟨newer, grown, newerKept⟩ := second.added
  refine ⟨⟨newer ++ older, by rw [grown, before, List.append_assoc], ?_⟩, ?_,
    second.dedup.trans first.dedup⟩
  · intro obs listed
    exact (List.mem_append.mp listed).elim (newerKept obs) (olderKept obs)
  · exact ⟨second.control.pending.trans first.control.pending,
      second.control.inflight.trans first.control.inflight,
      second.control.length.trans first.control.length,
      second.control.unit.trans first.control.unit⟩

theorem ackInv (aside : Aside ctx after) (acks : AckInv config ctx.port ctx.mem ctx.trace) :
    AckInv config after.port after.mem after.trace := by
  obtain ⟨newer, grown, unrelated⟩ := aside.added
  rw [grown]
  refine AckInv.congr ?_ aside.control
  clear grown
  induction newer with
  | nil => exact acks
  | cons obs newer ih =>
    exact (ih (fun older listed => unrelated older (List.mem_cons_of_mem obs listed))).silent
      (unrelated obs List.mem_cons_self)

theorem pushTx {middle : WlCtx} {type : WlEventType} (aside : Aside ctx middle)
    (transmit : type.isRx = false) : Aside ctx (wlPushTxEvent middle type) := by
  rw [wlPushTxEvent_eq middle transmit]
  cases eventDeferred middle with
  | true => exact { aside with }
  | false => exact aside.trans (noted rfl rfl ⟨rfl, rfl, rfl, rfl⟩ rfl)

end Aside

theorem Sent.aside {ok : Bool} (submission : Sent ctx sent ok) : Aside ctx sent := by
  cases submission with
  | noSink => exact Aside.refl ctx
  | answered answer =>
    cases answer <;> exact Aside.noted rfl rfl ⟨rfl, rfl, rfl, rfl⟩ rfl

theorem SentPlain.aside {ok : Bool} (submission : SentPlain ctx sent ok) : Aside ctx sent := by
  cases submission with
  | noSink => exact Aside.refl ctx
  | answered answer =>
    cases answer with
    | sent | started | busy | failed => exact Aside.noted rfl rfl ⟨rfl, rfl, rfl, rfl⟩ rfl

variable {label : Option WireFrame} {sessionId : UInt64} {sequence : UInt32}

theorem Move.aside (move : Move label ctx after) :
    RxMove label ctx after ∨ Aside ctx after ∨
      (∃ ioResult, ctx.port.controlInflight = true ∧
        after = { consumedHead ctx ctx.port.txToken ioResult with
          port :=
            { (consumedHead ctx ctx.port.txToken ioResult).port with
              controlInflight := false, controlPending := false } }) := by
  cases move with
  | rx move => exact .inl move
  | consumedControl ioResult inflight => exact .inr (.inr ⟨ioResult, inflight, rfl⟩)
  | publish | complete | deliver | consumedUnreliable | consumedCancelled | consumedSettled
  | consumedOk | consumedDeferred | drained | drainedOk | cancel | take | drainRequired =>
    exact .inr (.inl (Aside.noted rfl rfl ⟨rfl, rfl, rfl, rfl⟩ rfl))
  | resubmitReliable sent ok pending claim queue lease drain kind submission =>
    refine .inr (.inl ?_)
    have marked : Aside ctx (ctx.note (.resubmitted true)) :=
      Aside.noted rfl rfl ⟨rfl, rfl, rfl, rfl⟩ rfl
    have submitted := marked.trans submission.aside
    cases ok with
    | true => exact submitted
    | false => exact Aside.pushTx { submitted with control := { submitted.control with } } rfl
  | resubmitUnreliable sent ok pending claim queue lease drain kind submission =>
    refine .inr (.inl ?_)
    have marked : Aside ctx (ctx.note (.resubmitted false)) :=
      Aside.noted rfl rfl ⟨rfl, rfl, rfl, rfl⟩ rfl
    have submitted := marked.trans submission.aside
    cases ok with
    | true => exact submitted
    | false => exact { submitted with control := { submitted.control with } }
  | timeoutFail => exact .inr (.inl (Aside.pushTx { Aside.refl ctx with } rfl))
  | timeoutRetry sent ok nowMs pending lease queue claim state left submission =>
    refine .inr (.inl ?_)
    have marked : Aside ctx (ctx.note (.timeoutRetry ctx.port.txDrainPending ctx.sink)) :=
      Aside.noted rfl rfl ⟨rfl, rfl, rfl, rfl⟩ rfl
    have submitted := marked.trans submission.aside
    cases ok with
    | true => exact { submitted with }
    | false => exact Aside.pushTx { submitted with } rfl
  | consumedRetry sent ok ioResult failed inflight kind sending left pending submission =>
    refine .inr (.inl ?_)
    have returned : Aside ctx (leaseReturned ctx ctx.port.txToken ioResult) :=
      Aside.noted rfl rfl ⟨rfl, rfl, rfl, rfl⟩ rfl
    have submitted := returned.trans submission.aside
    cases ok with
    | true => exact { submitted with }
    | false => exact Aside.pushTx { submitted with } rfl
  | consumedFail | drainedFail =>
    exact .inr (.inl (Aside.pushTx (Aside.noted rfl rfl ⟨rfl, rfl, rfl, rfl⟩ rfl) rfl))
  | openReliable sent ok messageId payload nowMs free idle placed fits named room submission =>
    refine .inr (.inl ?_)
    have opened : Aside ctx
        (openTransaction (Wirelink.spendSequence ctx) messageId ctx.tx.txSequence payload nowMs) := by
      refine Aside.noted rfl rfl ⟨rfl, rfl, rfl, ?_⟩ rfl
      cases payload <;> rfl
    have submitted := opened.trans submission.aside
    cases ok with
    | true => exact { submitted with }
    | false => exact submitted.trans (Aside.noted rfl rfl ⟨rfl, rfl, rfl, rfl⟩ rfl)
  | sendUnreliable sent ok messageId data unit free named size image submission =>
    refine .inr (.inl (Aside.trans ?_ submission.aside))
    exact Aside.quiet rfl ⟨rfl, rfl, rfl, wlInvalidateTxImage_control ctx⟩ rfl
  | claim messageId delivery free named idle =>
    refine .inr (.inl (Aside.quiet rfl ⟨rfl, rfl, rfl, ?_⟩ rfl))
    cases delivery with
    | reliable => rfl
    | unreliable => exact wlInvalidateTxImage_control ctx
  | store offset data =>
    exact .inr (.inl (Aside.quiet rfl ⟨rfl, rfl, rfl, claimWrite_control ctx offset data⟩ rfl))
  | spendSequence | spend => exact .inr (.inl (Aside.quiet rfl ⟨rfl, rfl, rfl, rfl⟩ rfl))

theorem acknowledged_aside (ctx : WlCtx) :
    Aside ctx (wlPushTxEvent (acknowledged ctx) .txSuccess) :=
  Aside.pushTx (Aside.noted rfl rfl ⟨rfl, rfl, rfl, rfl⟩ rfl) rfl

theorem RxMove.ackInv (move : RxMove label ctx after) (inv : Inv ctx)
    (acks : AckInv ctx.config ctx.port ctx.mem ctx.trace) :
    AckInv ctx.config after.port after.mem after.trace := by
  cases move with
  | quiet => exact acks.congr ⟨rfl, rfl, rfl, rfl⟩
  | control answer pending idle =>
    have handed := acks.control (nextToken ctx.port.txToken) answer pending idle
    cases answer with
    | sent | failed => exact handed.congr ⟨rfl, idle, rfl, rfl⟩
    | started => exact handed.congr ⟨pending, rfl, rfl, rfl⟩
    | busy => exact handed.congr ⟨pending, idle, rfl, rfl⟩
  | receive => exact acks
  | accept view rx event lease free type fresh ack =>
    refine ack.ackInv rfl (callsForAck_accepted view _ _) inv.port.controlLease ?_
    exact acks
  | duplicate view known ack =>
    refine ack.ackInv rfl (callsForAck_repeated view _ _) inv.port.controlLease ?_
    exact acks
  | acked => exact (acknowledged_aside ctx).ackInv acks

/-! ### The trace grows

A run only adds to its trace, so that what was placed early is still on record at the end. -/

theorem AckStep.grows (ack : AckStep sessionId sequence ctx after) : ctx.trace <:+ after.trace := by
  cases ack with
  | dropped => exact List.suffix_refl _
  | placed => exact List.suffix_cons _ _

theorem Aside.grows (aside : Aside ctx after) : ctx.trace <:+ after.trace := by
  obtain ⟨newer, same, _⟩ := aside.added
  exact ⟨newer, same.symm⟩

theorem RxMove.grows (move : RxMove label ctx after) :
    ctx.trace <:+ after.trace := by
  cases move with
  | quiet | receive => exact List.suffix_refl _
  | control answer => cases answer <;> exact List.suffix_cons _ _
  | accept view rx event lease free type fresh ack | duplicate view known ack =>
    exact (List.suffix_cons _ _).trans ack.grows
  | acked => exact (acknowledged_aside ctx).grows

theorem Move.grows (move : Move label ctx after) :
    ctx.trace <:+ after.trace := by
  rcases move.aside with received | aside | ⟨_, _, rfl⟩
  · exact received.grows
  · exact aside.grows
  · exact List.suffix_cons _ _

theorem Moves.grows (moves : Moves Move ctx after) : ctx.trace <:+ after.trace := by
  obtain ⟨_, trail⟩ := moves
  exact trail.induct (fun reached => ctx.trace <:+ reached.trace) (List.suffix_refl _)
    (fun move older => older.trans move.grows)

/-! ### ACKs of a run -/

theorem Move.ackInv (move : Move label ctx after) (inv : Inv ctx)
    (acks : AckInv ctx.config ctx.port ctx.mem ctx.trace) :
    AckInv after.config after.port after.mem after.trace := by
  rw [move.config]
  rcases move.aside with received | aside | ⟨ioResult, inflight, rfl⟩
  · exact received.ackInv inv acks
  · exact aside.ackInv acks
  · -- The sink had taken the ACK before it was consumed.
    have none : pendingAck ctx.trace = none := by
      cases waiting : pendingAck ctx.trace with
      | none => rfl
      | some ack =>
        have idle := (acks.waiting ack.1 ack.2 waiting).2.1
        exact absurd (idle.symm.trans inflight) (by decide)
    have consumed : AckInv ctx.config ctx.port ctx.mem
        (.consumed ctx.port.txToken (ioResult == .ok) :: ctx.trace) := acks.silent rfl
    exact consumed.cleared none rfl

theorem Reachable.acks (reachable : Reachable ctx) :
    AckInv ctx.config ctx.port ctx.mem ctx.trace :=
  reachable.induct (fun reached => AckInv reached.config reached.port reached.mem reached.trace)
    (fun _ _ _ _ => ⟨iff_of_true ⟨rfl, rfl⟩ nofun, nofun, nofun, rfl⟩) (fun _ acks => acks)
    (fun inv acks move => move.ackInv inv acks)

/-- ACKs in every run. The ACK of every accepted or repeated unit is placed in the control slot in
the same step exactly if the slot was free each time. Whatever else happens, a placed ACK is in the
slot, with the session and the sequence it was placed for, until the sink answers it with something
other than `BUSY`; and only the pending ACK is handed to the sink as a control unit. -/
theorem acks_placed_iff_control_free (reachable : Reachable ctx) :
    (AcksPlaced ctx.config ctx.trace ↔ ControlFree ctx.trace) ∧
      (∀ sessionId sequence, pendingAck ctx.trace = some (sessionId, sequence) →
        ctx.port.controlPending = true ∧
          ctx.mem.controlUnit.take ctx.port.controlLen =
            linkUnit ctx.config (.ack sessionId sequence)) ∧
      (∀ past, past <:+ ctx.trace → controlFaithful ctx.config past = true) := by
  have acks := reachable.acks
  refine ⟨acks.placed, ?_, Trace.always_iff_suffix.mp acks.handed⟩
  intro sessionId sequence waiting
  obtain ⟨pending, _, image⟩ := acks.waiting sessionId sequence waiting
  exact ⟨pending, image⟩

/-- An ACK that is sent, and the ACK of a duplicate that waits behind a busy sink. -/
theorem acks_placed_small_run :
    AcksPlaced smallConfig (run (smallStart [.sent, .busy])
        [.setSink true, .feedUnit (.bytes [0xA5, 0, 0, 5, 0, 0, 0, 0, 0, 0, 0, 9, 0, 0, 0, 0, 1]),
          .poll 0, .release .reliableRx 1,
          .feedUnit (.bytes [0xA5, 0, 0, 5, 0, 0, 0, 0, 0, 0, 0, 9, 0, 0, 0, 0, 1])]).trace ∧
      (run (smallStart [.sent, .busy])
        [.setSink true, .feedUnit (.bytes [0xA5, 0, 0, 5, 0, 0, 0, 0, 0, 0, 0, 9, 0, 0, 0, 0, 1]),
          .poll 0, .release .reliableRx 1,
          .feedUnit (.bytes [0xA5, 0, 0, 5, 0, 0, 0, 0, 0, 0, 0, 9, 0, 0, 0, 0, 1])]).port.controlPending
        = true :=
  ⟨(acks_placed_iff_control_free (small_reachable _ _)).1.mpr (by decide +kernel),
    ((acks_placed_iff_control_free (small_reachable _ _)).2.1 9 0 (by decide +kernel)).1⟩

/-- Two units through a sink that is busy: the second one is published and recorded, but the slot
still holds the ACK of the first, and no ACK of the second is placed. -/
theorem ack_dropped_behind_busy_sink :
    ¬ AcksPlaced smallConfig (run (smallStart [.busy])
        [.setSink true, .feedUnit (.bytes [0xA5, 0, 0, 5, 0, 0, 0, 0, 0, 0, 0, 9, 0, 0, 0, 0, 1]),
          .poll 0, .release .reliableRx 1,
          .feedUnit (.bytes [0xA5, 0, 0, 5, 0, 0, 0, 0, 0, 0, 0, 9, 0, 0, 0, 1, 1])]).trace ∧
      publishedUnits (run (smallStart [.busy])
        [.setSink true, .feedUnit (.bytes [0xA5, 0, 0, 5, 0, 0, 0, 0, 0, 0, 0, 9, 0, 0, 0, 0, 1]),
          .poll 0, .release .reliableRx 1,
          .feedUnit (.bytes [0xA5, 0, 0, 5, 0, 0, 0, 0, 0, 0, 0, 9, 0, 0, 0, 1, 1])]).trace =
        [(9, 1), (9, 0)] ∧
      pendingAck (run (smallStart [.busy])
        [.setSink true, .feedUnit (.bytes [0xA5, 0, 0, 5, 0, 0, 0, 0, 0, 0, 0, 9, 0, 0, 0, 0, 1]),
          .poll 0, .release .reliableRx 1,
          .feedUnit (.bytes [0xA5, 0, 0, 5, 0, 0, 0, 0, 0, 0, 0, 9, 0, 0, 0, 1, 1])]).trace =
        some (9, 0) := by
  decide +kernel

/-! ### Publications

Duplicates are recognized by the last accepted unit alone. So the unit published last is not
published again, but an older one may be. -/

/-- The last accepted unit is the one published last, and no unit was published twice in a row. -/
structure DedupInv (dedup : RxDedup) (trace : List Obs) : Prop where
  last : (publishedUnits trace).head? =
    if dedup.rxHaveReliable then some (dedup.rxSessionId, dedup.rxSequence) else none
  apart : (publishedUnits trace).IsChain (· ≠ ·)

theorem DedupInv.congr (published : DedupInv dedup trace) {later : List Obs}
    (same : publishedUnits later = publishedUnits trace) : DedupInv dedup later := by
  refine ⟨?_, ?_⟩ <;> rw [same]
  · exact published.last
  · exact published.apart

theorem Aside.publishedUnits (aside : Aside ctx after) :
    publishedUnits after.trace = publishedUnits ctx.trace := by
  obtain ⟨newer, grown, unrelated⟩ := aside.added
  rw [grown]
  clear grown
  induction newer with
  | nil => rfl
  | cons obs newer ih =>
    rw [List.cons_append, publishedUnits_unacked (unrelated obs List.mem_cons_self)]
    exact ih (fun older listed => unrelated older (List.mem_cons_of_mem obs listed))

theorem AckStep.publishedUnits (ack : AckStep sessionId sequence ctx after) :
    publishedUnits after.trace = publishedUnits ctx.trace ∧ after.dedup = ctx.dedup := by
  cases ack <;> exact ⟨rfl, rfl⟩

theorem DedupInv.accept (published : DedupInv ctx.dedup ctx.trace)
    (fresh : isDuplicate ctx sessionId sequence = false) (messageId : UInt16) (payload : Bytes)
    (free sink : Bool) :
    DedupInv { rxHaveReliable := true, rxSessionId := sessionId, rxSequence := sequence }
      (.accepted sessionId sequence messageId payload free sink :: ctx.trace) := by
  refine ⟨rfl, List.isChain_cons.mpr ⟨?_, published.apart⟩⟩
  intro last named again
  rw [published.last] at named
  cases recorded : ctx.dedup.rxHaveReliable with
  | false => simp [recorded] at named
  | true =>
    simp only [recorded, if_true, Option.mem_some_iff] at named
    rw [← named] at again
    simp only [isDuplicate, recorded, Bool.true_and, Bool.and_eq_false_iff,
      beq_eq_false_iff_ne] at fresh
    rcases fresh with session | number
    · exact session (congrArg Prod.fst again).symm
    · exact number (congrArg Prod.snd again).symm

theorem RxMove.dedupInv (move : RxMove label ctx after) (published : DedupInv ctx.dedup ctx.trace) :
    DedupInv after.dedup after.trace := by
  cases move with
  | quiet | receive => exact published
  | control answer => cases answer <;> exact published.congr rfl
  | accept view rx event lease free type fresh ack =>
    obtain ⟨same, dedup⟩ := ack.publishedUnits
    rw [dedup]
    exact (published.accept fresh view.messageId view.payload _ _).congr same
  | duplicate view known ack =>
    obtain ⟨same, dedup⟩ := ack.publishedUnits
    rw [dedup]
    exact published.congr same
  | acked =>
    have aside := acknowledged_aside ctx
    rw [aside.dedup]
    exact published.congr aside.publishedUnits

theorem Move.dedupInv (move : Move label ctx after) (published : DedupInv ctx.dedup ctx.trace) :
    DedupInv after.dedup after.trace := by
  rcases move.aside with received | aside | ⟨_, _, rfl⟩
  · exact received.dedupInv published
  · rw [aside.dedup]
    exact published.congr aside.publishedUnits
  · exact published.congr rfl

theorem Reachable.published (reachable : Reachable ctx) : DedupInv ctx.dedup ctx.trace :=
  reachable.induct (fun reached => DedupInv reached.dedup reached.trace)
    (fun _ _ _ _ => ⟨rfl, List.isChain_nil⟩) (fun _ published => published)
    (fun _ published move => move.dedupInv published)

/-- Units of one session that are published in the order of their numbers, never the same twice in
a row, are all different. -/
theorem nodup_of_inOrder {units : List (UInt64 × UInt32)} (apart : units.IsChain (· ≠ ·))
    (inOrder : units.Pairwise (fun newer older => newer.1 = older.1 ∧ older.2 ≤ newer.2)) :
    units.Nodup := by
  induction units with
  | nil => exact List.nodup_nil
  | cons newest rest ih =>
    obtain ⟨newer, ordered⟩ := List.pairwise_cons.mp inOrder
    obtain ⟨different, chained⟩ := List.isChain_cons.mp apart
    refine List.nodup_cons.mpr ⟨?_, ih chained ordered⟩
    intro again
    cases rest with
    | nil => cases again
    | cons next =>
      have distinct := different next rfl
      obtain ⟨session, above⟩ := newer next List.mem_cons_self
      rcases List.mem_cons.mp again with same | deeper
      · exact distinct same
      · have below := ((List.pairwise_cons.mp ordered).1 newest deeper).2
        exact distinct (Prod.ext session (UInt32.le_antisymm below above))

/-- Publications in every run. No reliable unit is published twice in a row; the one published last
is on record, so that a further copy of it is recognized; and units of one session that are
published in the order of their sequence numbers are published once each. -/
theorem last_published_not_republished (reachable : Reachable ctx) :
    (publishedUnits ctx.trace).IsChain (· ≠ ·) ∧
      (∀ sessionId sequence, (publishedUnits ctx.trace).head? = some (sessionId, sequence) →
        isDuplicate ctx sessionId sequence = true) ∧
      ((publishedUnits ctx.trace).Pairwise
        (fun newer older => newer.1 = older.1 ∧ older.2 ≤ newer.2) →
        (publishedUnits ctx.trace).Nodup) := by
  have published := reachable.published
  refine ⟨published.apart, ?_, nodup_of_inOrder published.apart⟩
  intro sessionId sequence last
  rw [published.last] at last
  cases recorded : ctx.dedup.rxHaveReliable with
  | false => simp [recorded] at last
  | true =>
    simp only [recorded, if_true, Option.some.injEq] at last
    cases last
    simp [isDuplicate, recorded]

/-- After two units and a copy of the second one, each has been published once. -/
theorem last_published_small_run :
    (publishedUnits (run (smallStart [.sent, .sent, .sent])
      [.setSink true, .feedUnit (.bytes [0xA5, 0, 0, 5, 0, 0, 0, 0, 0, 0, 0, 9, 0, 0, 0, 0, 1]),
        .poll 0, .release .reliableRx 1,
        .feedUnit (.bytes [0xA5, 0, 0, 5, 0, 0, 0, 0, 0, 0, 0, 9, 0, 0, 0, 1, 1]), .poll 0,
        .release .reliableRx 2,
        .feedUnit (.bytes [0xA5, 0, 0, 5, 0, 0, 0, 0, 0, 0, 0, 9, 0, 0, 0, 1, 1]),
        .poll 0]).trace).Nodup :=
  (last_published_not_republished (small_reachable _ _)).2.2 (by decide +kernel)

/-- A late copy of the first of two units is published again. -/
theorem late_copy_republished :
    ¬ (publishedUnits (run (smallStart [.sent, .sent, .sent])
      [.setSink true, .feedUnit (.bytes [0xA5, 0, 0, 5, 0, 0, 0, 0, 0, 0, 0, 9, 0, 0, 0, 0, 1]),
        .poll 0, .release .reliableRx 1,
        .feedUnit (.bytes [0xA5, 0, 0, 5, 0, 0, 0, 0, 0, 0, 0, 9, 0, 0, 0, 1, 1]), .poll 0,
        .release .reliableRx 2,
        .feedUnit (.bytes [0xA5, 0, 0, 5, 0, 0, 0, 0, 0, 0, 0, 9, 0, 0, 0, 0, 1]),
        .poll 0]).trace).Nodup := by
  decide +kernel

end Wirelink
