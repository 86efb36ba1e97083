/-
Module: Wirelink.Proofs.Image
Purpose: Every attempt of a reliable transaction carries the frame that was accepted, whatever is
  sent, claimed, stored or aborted in between.
Trusted boundary: none
-/
import Wirelink.Proofs.Reach
import Wirelink.Spec.Transaction

namespace Wirelink

variable {ctx sent after : WlCtx} {config : WlConfig} {tx : TxTransaction} {mem : TxMemory}
  {trace : List Obs} {entry : TxEntry}

variable {obs : Obs} {ok : Bool} {payload : SendPayload} {messageId : UInt16}
  {nowMs handle : UInt32}

theorem openedLast_silent (opens : obs.opens = false) (trace : List Obs) :
    openedLast (obs :: trace) = openedLast trace := by
  cases obs with
  | opened => simp [Obs.opens] at opens
  | _ => rfl

theorem Faithful.silent (faithful : Faithful config trace) (submits : obs.submitsReliable = false) :
    Faithful config (obs :: trace) := by
  refine ⟨?_, faithful⟩
  cases obs with
  | sinkCall token kind =>
    cases kind with
    | reliable => simp [Obs.submitsReliable] at submits
    | unreliable | control => rfl
  | _ => rfl

/-! ### What a transaction retains

An attempt can be repeated as long as the context has the fields, the payload and, while there is
one, the cached image of what was accepted. -/

/-- The context still has what was accepted: the fields of the frame, the payload, and the cached
image while there is one. -/
structure Retains (config : WlConfig) (tx : TxTransaction) (mem : TxMemory) (entry : TxEntry) :
    Prop where
  messageId : tx.txLastMessageId = entry.messageId
  sequence : tx.txWaitingSeq = entry.sequence
  payload : mem.txPayload.bytes mem = entry.payload
  image : mem.txEncodedLen ≠ 0 →
    mem.txUnit.take mem.txEncodedLen = linkUnit config (entry.frame config)

/-- The transaction opened last is the one the context retains. -/
def Held (config : WlConfig) (tx : TxTransaction) (mem : TxMemory) (trace : List Obs) : Prop :=
  ∃ entry, openedLast trace = some (tx.txHandle, entry) ∧ Retains config tx mem entry

/-- The transaction opened last in a context is the one it retains. -/
abbrev HeldIn (config : WlConfig) (ctx : WlCtx) : Prop :=
  Held config ctx.tx ctx.mem ctx.trace

/-- Every submission so far was faithful, and a live transaction is still held. -/
structure ImageInv (config : WlConfig) (tx : TxTransaction) (mem : TxMemory)
    (trace : List Obs) : Prop where
  faithful : Faithful config trace
  held : tx.Live → Held config tx mem trace

/-- The submissions and the live transaction of a context. -/
abbrev ImageKept (config : WlConfig) (ctx : WlCtx) : Prop :=
  ImageInv config ctx.tx ctx.mem ctx.trace

namespace Held

variable (held : Held config tx mem trace)

include held

theorem congr {other : TxTransaction} (handle : other.txHandle = tx.txHandle)
    (messageId : other.txLastMessageId = tx.txLastMessageId)
    (sequence : other.txWaitingSeq = tx.txWaitingSeq) : Held config other mem trace := by
  obtain ⟨entry, opened, retains⟩ := held
  refine ⟨entry, ?_, { retains with messageId := ?_, sequence := ?_ }⟩
  · rw [handle]
    exact opened
  · exact messageId.trans retains.messageId
  · exact sequence.trans retains.sequence

theorem silent (opens : obs.opens = false) : Held config tx mem (obs :: trace) := by
  obtain ⟨entry, opened, retains⟩ := held
  exact ⟨entry, (openedLast_silent opens trace).trans opened, retains⟩

theorem saved {other : TxMemory} (payload : other.txPayload.bytes other = mem.txPayload.bytes mem)
    (dropped : other.txEncodedLen = 0) : Held config tx other trace := by
  obtain ⟨entry, opened, retains⟩ := held
  refine ⟨entry, opened, { retains with payload := payload.trans retains.payload, image := ?_ }⟩
  exact fun cached => absurd dropped cached

theorem untouched {other : TxMemory} (store : other.payloadStore = mem.payloadStore)
    (unit : other.txUnit = mem.txUnit) (span : other.txPayload = mem.txPayload)
    (length : other.txEncodedLen = mem.txEncodedLen) : Held config tx other trace := by
  obtain ⟨entry, opened, retains⟩ := held
  refine ⟨entry, opened, { retains with payload := ?_, image := ?_ }⟩
  · rw [← retains.payload]
    simp only [TxSpan.bytes, store, unit, span]
  · rw [unit, length]
    exact retains.image

end Held

theorem ImageInv.congr (image : ImageInv config tx mem trace) {other : TxTransaction}
    (kept : other.Live → tx.Live ∧ other.txHandle = tx.txHandle ∧
      other.txLastMessageId = tx.txLastMessageId ∧ other.txWaitingSeq = tx.txWaitingSeq) :
    ImageInv config other mem trace := by
  refine ⟨image.faithful, fun live => ?_⟩
  obtain ⟨before, handle, messageId, sequence⟩ := kept live
  exact (image.held before).congr handle messageId sequence

theorem ImageInv.silent (image : ImageInv config tx mem trace) (opens : obs.opens = false)
    (submits : obs.submitsReliable = false) :
    ImageInv config tx mem (obs :: trace) :=
  ⟨image.faithful.silent submits, fun live => (image.held live).silent opens⟩

theorem Faithful.ended (faithful : Faithful config trace) (dead : ¬ tx.Live) :
    ImageInv config tx mem trace :=
  ⟨faithful, fun live => absurd live dead⟩

/-! ### Submissions

A submission encodes what is retained, or takes the cached image of it. -/

theorem native_payload (native : config.envelope = .nativePacket) {unit : Bytes} {length : Nat}
    (image : unit.take length = linkUnit config (entry.frame config)) :
    unit.readAt 16 entry.payload.length = entry.payload := by
  have raw : linkUnit config (entry.frame config) =
      (entry.frame config).header ++
        (entry.payload ++ (entry.frame config).trailer config.integrity) := by
    simp [linkUnit, envelopeUnit, native, WireFrame.raw, TxEntry.frame, WireFrame.payload]
  have header : (entry.frame config).header.length = 16 := by
    simp [TxEntry.frame, WireFrame.header]
  have whole : unit = (entry.frame config).header ++ (entry.payload ++
      ((entry.frame config).trailer config.integrity ++ unit.drop length)) := by
    conv_lhs => rw [← List.take_append_drop length unit, image, raw]
    simp
  rw [whole, Bytes.readAt, ← header, List.drop_left, List.take_left]

/-- A submission of a held transaction is faithful, and the transaction stays held. -/
theorem Sent.image (submission : Sent ctx sent ok) (session : ctx.sessionId = ctx.config.sessionId)
    (place : RetainedAt ctx.config ctx.mem.txPayload)
    (full : (ctx.mem.txPayload.bytes ctx.mem).length = ctx.mem.txPayload.length)
    (faithful : Faithful ctx.config ctx.trace) (held : HeldIn ctx.config ctx) :
    Faithful ctx.config sent.trace ∧ HeldIn ctx.config sent := by
  cases submission with
  | noSink => exact ⟨faithful, held⟩
  | @answered unit length answer present imaged =>
    obtain ⟨entry, opened, retains⟩ := held
    have frame : reliableFrame ctx = entry.frame ctx.config := by
      simp only [reliableFrame, TxEntry.frame, retains.messageId, retains.sequence,
        retains.payload, session]
    have bytes : unit.take length = linkUnit ctx.config (entry.frame ctx.config) := by
      rcases imaged.image with ⟨cached, rfl, rfl⟩ | ⟨_, fresh, _⟩
      · exact retains.image cached
      · rw [fresh, frame]
    have payload : ctx.mem.txPayload.bytes { ctx.mem with txUnit := unit, txEncodedLen := length } =
        entry.payload := by
      rcases place with ⟨region, _⟩ | ⟨region, offset, native⟩
      · rw [← retains.payload]
        simp only [TxSpan.bytes, region]
      · have size : ctx.mem.txPayload.length = entry.payload.length := by
          rw [← full, retains.payload]
        simp only [TxSpan.bytes, region, offset, size]
        exact native_payload native bytes
    have called : Faithful ctx.config (.sinkCall (nextToken ctx.port.txToken) .reliable
        (unit.take length) answer :: ctx.trace) := by
      refine ⟨?_, faithful⟩
      simp [submissionFaithful, opened, bytes]
    have kept : Retains ctx.config ctx.tx
        { ctx.mem with txUnit := unit, txEncodedLen := length } entry :=
      { retains with payload := payload, image := fun _ => bytes }
    cases answer with
    | sent | started | busy | failed =>
      exact ⟨called, entry, opened,
        { kept with }⟩

theorem SentPlain.imageInv (submission : SentPlain ctx sent ok)
    (image : ImageKept config ctx) :
    ImageKept config sent := by
  cases submission with
  | noSink => exact image
  | answered answer =>
    have called : ImageInv config ctx.tx ctx.mem
        (.sinkCall (nextToken ctx.port.txToken) .unreliable
          (ctx.mem.txUnit.take ctx.mem.txUnreliableLen) answer :: ctx.trace) :=
      image.silent rfl rfl
    cases answer with
    | sent | started | busy | failed =>
      exact ⟨called.faithful, fun live => (called.held live).untouched rfl rfl rfl rfl⟩

theorem AckStep.imageInv {sessionId : UInt64} {sequence : UInt32}
    (ack : AckStep sessionId sequence ctx after)
    (image : ImageKept config ctx) :
    ImageKept config after := by
  cases ack with
  | dropped => exact image
  | placed =>
    exact ⟨image.faithful.silent rfl,
      fun live => ((image.held live).silent rfl).untouched rfl rfl rfl rfl⟩

/-! ### Moves

The unit is shared with unreliable traffic and with claims. Before they use it, the payload of a
live transaction is saved in its own memory. -/

theorem Inv.retained_full (inv : Inv ctx) :
    (ctx.mem.txPayload.bytes ctx.mem).length = ctx.mem.txPayload.length :=
  inv.mem.retainedAt.full inv.mem.retainedFits inv.mem.payloadSize inv.mem.unitSize

theorem Inv.held_saved (inv : Inv ctx) {store unit : Bytes} {span : TxSpan} {length : Nat}
    (dropped : ImageDropped ctx store span) (image : ImageKept config ctx) :
    ImageInv config ctx.tx
      { ctx.mem with
        payloadStore := store, txPayload := span, txEncodedLen := 0, txUnit := unit
        txUnreliableLen := length }
      ctx.trace := by
  refine ⟨image.faithful, fun live => (image.held live).saved ?_ rfl⟩
  have handle := inv.live_handle live
  have room : ctx.mem.txPayload.length ≤ ctx.mem.payloadStore.length :=
    Nat.le_trans inv.mem.retainedFits inv.mem.payloadSize
  have kept := dropped.kept handle room inv.retained_full
  simp only [TxSpan.bytes, dropped.region handle] at kept ⊢
  exact kept

theorem Inv.held_stored (inv : Inv ctx) (image : ImageKept config ctx)
    (offset : Nat) (data : Bytes) (active : ctx.claim.txClaimActive = true) :
    ImageKept config (claimWrite ctx offset data) := by
  obtain ⟨span, claimed, place⟩ := inv.mem.claimAt active
  unfold claimWrite
  rw [active, claimed]
  simp only
  split
  · cases region : span.region with
    | payload =>
      -- A span of `tx_payload` is only claimed while no transaction is retained.
      refine image.faithful.ended (fun live => ?_)
      exact inv.live_handle live (place.payload region).2
    | unit =>
      refine ⟨image.faithful, fun live => (image.held live).saved ?_ ?_⟩
      · have saved := (inv.mem.claimImage active (inv.live_handle live)).2
        simp only [TxSpan.bytes, saved]
      · exact (inv.mem.claimImage active (inv.live_handle live)).1
  · exact image

theorem Inv.held_opened (inv : Inv ctx) (messageId : UInt16) (nowMs : UInt32)
    (placed : PlacedReliable ctx.config payload) (fits : payload.length ≤ ctx.config.maxPayloadLen) :
    HeldIn config (openTransaction (spendSequence ctx) messageId ctx.tx.txSequence payload nowMs) := by
  refine ⟨_, rfl, rfl, rfl, ?_, ?_⟩
  · cases payload with
    | direct => rfl
    | copied buffer =>
      have size := Buffer.length_data placed
      have room : 0 + buffer.data.length ≤ ctx.mem.payloadStore.length := by
        rw [Nat.zero_add, size]
        exact Nat.le_trans fits inv.mem.payloadSize
      have read := Bytes.readAt_writeAt_self room
      rw [size] at read
      exact read
  · cases payload with
    | direct | copied => exact fun cached => absurd rfl cached

theorem ImageInv.pushTx {type : WlEventType} (image : ImageKept config ctx)
    (transmit : type.isRx = false) :
    ImageKept config (wlPushTxEvent ctx type) := by
  rw [wlPushTxEvent_eq ctx transmit]
  cases eventDeferred ctx with
  | true => exact image.congr (fun live => ⟨live, rfl, rfl, rfl⟩)
  | false => exact image.silent rfl rfl

theorem Move.imageInv {label : Option WireFrame} (move : Move label ctx after) (inv : Inv ctx)
    (image : ImageKept ctx.config ctx) :
    ImageKept ctx.config after := by
  cases move with
  | rx move =>
    cases move with
    | quiet | receive => exact image
    | control answer => cases answer <;> exact image.silent rfl rfl
    | accept view rx event lease free type fresh ack | duplicate view known ack =>
      exact ack.imageInv (image.silent rfl rfl)
    | acked =>
      exact ImageInv.pushTx ((image.faithful.silent rfl).ended (not_live nofun nofun)) rfl
  | publish | consumedDeferred | drainedOk =>
    exact (image.silent rfl rfl).congr (fun live => ⟨live, rfl, rfl, rfl⟩)
  | complete | deliver | consumedControl | consumedSettled | drained | drainRequired =>
    exact image.silent rfl rfl
  | resubmitReliable sent ok pending claim queue lease drain kind submission =>
    have live : ctx.tx.Live := .inr (inv.port.queuedSending queue kind)
    obtain ⟨faithful, held⟩ := submission.image inv.session inv.mem.retainedAt
      inv.retained_full (image.faithful.silent rfl) ((image.held live).silent rfl)
    cases ok with
    | true => exact ⟨faithful, fun _ => held⟩
    | false => exact ImageInv.pushTx (faithful.ended (not_live nofun nofun)) rfl
  | resubmitUnreliable sent ok pending claim queue lease drain kind submission =>
    have submitted := submission.imageInv (image.silent rfl rfl)
    cases ok with
    | true => exact submitted
    | false =>
      exact ⟨submitted.faithful,
        fun live => (submitted.held live).untouched rfl rfl rfl rfl⟩
  | timeoutFail => exact ImageInv.pushTx (image.faithful.ended (not_live nofun nofun)) rfl
  | timeoutRetry sent ok nowMs pending lease queue claim state left submission =>
    have marked : ImageInv ctx.config ctx.tx ctx.mem
        (.timeoutRetry ctx.port.txDrainPending ctx.sink :: ctx.trace) := image.silent rfl rfl
    obtain ⟨faithful, held⟩ := submission.image inv.session inv.mem.retainedAt
      inv.retained_full marked.faithful (marked.held (.inl state))
    cases ok with
    | true => exact ⟨faithful, fun _ => held.congr rfl rfl rfl⟩
    | false => exact ImageInv.pushTx (faithful.ended (not_live nofun nofun)) rfl
  | consumedUnreliable =>
    exact ⟨image.faithful.silent rfl,
      fun live => ((image.held live).silent rfl).untouched rfl rfl rfl rfl⟩
  | consumedCancelled ioResult inflight kind requested =>
    have cancelled := (inv.port.cancelState.mp requested).1
    exact (image.faithful.silent rfl).ended (not_live (by simp [cancelled]) (by simp [cancelled]))
  | consumedOk inflight kind sending =>
    exact (image.silent rfl rfl).congr (fun _ => ⟨.inr sending, rfl, rfl, rfl⟩)
  | consumedRetry sent ok ioResult failed inflight kind sending left pending submission =>
    have returned : ImageInv ctx.config ctx.tx ctx.mem
        (leaseReturned ctx ctx.port.txToken ioResult).trace := image.silent rfl rfl
    obtain ⟨faithful, held⟩ := submission.image inv.session inv.mem.retainedAt
      inv.retained_full returned.faithful (returned.held (.inr sending))
    cases ok with
    | true => exact ⟨faithful, fun _ => held.congr rfl rfl rfl⟩
    | false => exact ImageInv.pushTx (faithful.ended (not_live nofun nofun)) rfl
  | consumedFail | drainedFail =>
    exact ImageInv.pushTx ((image.faithful.silent rfl).ended (not_live nofun nofun)) rfl
  | openReliable sent ok messageId payload nowMs free idle placed fits named room submission =>
    obtain ⟨ready, _⟩ := inv.opened free idle placed fits
    obtain ⟨faithful, held⟩ := submission.image ready.session ready.retainedAt
      ready.retained_full (image.faithful.silent rfl)
      (inv.held_opened messageId nowMs placed fits)
    cases ok with
    | true => exact ⟨faithful, fun _ => held.congr rfl rfl rfl⟩
    | false => exact (faithful.silent rfl).ended (not_live nofun nofun)
  | sendUnreliable sent ok messageId data unit free named size encoded submission =>
    -- the unit is about to be reused, so a payload that was encoded in it is saved first
    obtain ⟨store, _, dropped, same⟩ := wlInvalidateTxImage_eq ctx
    rw [same] at submission
    exact submission.imageInv (inv.held_saved dropped image)
  | spendSequence => exact image.congr (fun live => ⟨live, rfl, rfl, rfl⟩)
  | claim messageId delivery =>
    cases delivery with
    | reliable => exact image
    | unreliable =>
      obtain ⟨store, _, dropped, same⟩ := wlInvalidateTxImage_eq ctx
      simp only [same]
      exact inv.held_saved dropped image
  | store offset data active =>
    rw [claimWrite_eq]
    exact inv.held_stored image offset data active
  | spend => exact image
  | cancel | take => exact (image.faithful.silent rfl).ended (not_live nofun nofun)

/-! ### Acceptance

An accepted send opens a transaction under the next sequence number; a committed claim is sent with
the bytes its span holds at that moment. -/

theorem Sent.openedLast (submission : Sent ctx sent ok) :
    openedLast sent.trace = openedLast ctx.trace ∧ sent.tx.txHandle = ctx.tx.txHandle := by
  cases submission with
  | noSink => exact ⟨rfl, rfl⟩
  | answered answer => cases answer <;> exact ⟨rfl, rfl⟩

theorem sendReliable_opened (inv : Inv ctx) (free : LineFree ctx) (idle : ctx.tx.txHandle = 0)
    (placed : PlacedReliable ctx.config payload) (fits : payload.length ≤ ctx.config.maxPayloadLen)
    (accepted : (sendReliable (spendSequence ctx) messageId ctx.tx.txSequence payload nowMs).2 =
      .ok handle) :
    openedLast
        (sendReliable (spendSequence ctx) messageId ctx.tx.txSequence payload nowMs).1.trace =
      some (handle,
        { sequence := ctx.tx.txSequence, messageId := messageId
          payload := payload.bytes ctx.mem }) := by
  obtain ⟨ready, _⟩ := inv.opened free idle placed fits
  obtain ⟨_, submission, _⟩ := wlSendTxPayload_sent ready
  obtain ⟨opened, named⟩ := submission.openedLast
  unfold sendReliable at accepted ⊢
  split at accepted
  · rename_i sent answer
    rw [answer] at opened named
    cases accepted
    rw [opened, named]
    rfl
  · cases accepted

theorem sendFrame_reliable_opened (inv : Inv ctx) (claim : ctx.claim.txClaimActive = false)
    (placed : payload.invalid = false → PlacedReliable ctx.config payload)
    (accepted : (wlSendFrameInternal (spendSequence ctx) messageId ctx.tx.txSequence payload true
      nowMs).2 = .ok handle) :
    openedLast
        (wlSendFrameInternal (spendSequence ctx) messageId ctx.tx.txSequence payload true
          nowMs).1.trace =
      some (handle,
        { sequence := ctx.tx.txSequence, messageId := messageId
          payload := payload.bytes ctx.mem }) := by
  rcases wlSendFrameInternal_cases (spendSequence ctx) messageId ctx.tx.txSequence payload true nowMs
    with ⟨_, refused⟩ | ⟨starts, sent⟩
  · rw [refused] at accepted
    cases accepted
  · have free : wlDataBusy ctx true = false := starts.free
    rw [sent] at accepted ⊢
    exact sendReliable_opened inv (lineFree_of_not_busy free claim) (handle_of_not_busy free)
      (placed starts.valid) starts.fits accepted

theorem wlSendReliable_opened (inv : Inv ctx) {payload : Buffer}
    (accepted : (wlSendReliable ctx messageId payload nowMs).2 = .ok handle) :
    openedLast (wlSendReliable ctx messageId payload nowMs).1.trace =
      some (handle,
        { sequence := ctx.tx.txSequence, messageId := messageId, payload := payload.data }) := by
  unfold wlSendReliable at accepted ⊢
  split at accepted
  · cases accepted
  rename_i initialized
  split at accepted
  · cases accepted
  rename_i room
  split at accepted
  · cases accepted
  rename_i claim
  rw [if_neg initialized, if_neg room, if_neg claim]
  exact sendFrame_reliable_opened inv (by simpa using claim) (fun valid => valid) accepted

theorem wlTxPayloadCommit_opened (inv : Inv ctx) {claim : WlTxPayloadClaim} {payloadLen : Nat}
    {wantsHandle : Bool} (reliable : ctx.claim.txClaimReliable = true)
    (accepted : (wlTxPayloadCommit ctx claim payloadLen nowMs wantsHandle).2 = .ok handle) :
    openedLast (wlTxPayloadCommit ctx claim payloadLen nowMs wantsHandle).1.trace =
      some (handle,
        { sequence := ctx.tx.txSequence, messageId := ctx.claim.txClaimMessageId
          payload :=
            TxSpan.bytes { region := claim.region, offset := claim.offset, length := payloadLen }
              ctx.mem }) := by
  unfold wlTxPayloadCommit at accepted ⊢
  split at accepted
  · cases accepted
  rename_i initialized
  split at accepted
  · cases accepted
  rename_i named
  obtain ⟨_, _, region, offset, place⟩ := txClaimMatches_span inv (not_not.mp named)
  have spent : Trail Move [] ctx (spendClaim ctx) := Trail.single Move.spend
  have spentInv : Inv (spendClaim ctx) := spent.inv inv
  simp only at accepted
  split at accepted
  · cases accepted
  rename_i allowed
  split at accepted
  · cases accepted
  rename_i room
  simp only
  rw [if_neg initialized, if_neg named, if_neg allowed, if_neg room, if_pos reliable]
  refine sendFrame_reliable_opened spentInv rfl (fun _ => ?_) accepted
  obtain ⟨_, retained⟩ := place.reliable reliable
  rw [ region, offset]
  exact retained

/-! ### Runs -/

theorem Reachable.image (reachable : Reachable ctx) :
    ImageKept ctx.config ctx :=
  reachable.induct (fun reached => ImageKept reached.config reached)
    (fun _ _ _ _ => ⟨rfl, nofun⟩) (fun _ image => image)
    (fun inv image move => by
      rw [move.config]
      exact move.imageInv inv image)

/-- Every attempt carries what was accepted. In every run, each unit handed to the sink as an attempt
of a reliable transaction is the encoding of the frame that transaction was opened with; and an
accepted send or commit opens one with the sequence number assigned there, the message id and the
payload bytes of that moment. -/
theorem attempts_faithful (reachable : Reachable ctx) :
    (∀ token bytes answer past, .sinkCall token .reliable bytes answer :: past <:+ ctx.trace →
      ∃ handle entry, openedLast past = some (handle, entry) ∧
        bytes = linkUnit ctx.config (.reliable entry.messageId ctx.config.sessionId
          entry.sequence entry.payload)) ∧
      (∀ messageId payload nowMs handle,
        (wlSendReliable ctx messageId payload nowMs).2 = .ok handle →
          openedLast (wlSendReliable ctx messageId payload nowMs).1.trace =
            some (handle,
              { sequence := ctx.tx.txSequence, messageId := messageId
                payload := payload.data })) ∧
      ∀ claim payloadLen nowMs wantsHandle handle, ctx.claim.txClaimReliable = true →
        (wlTxPayloadCommit ctx claim payloadLen nowMs wantsHandle).2 = .ok handle →
          openedLast (wlTxPayloadCommit ctx claim payloadLen nowMs wantsHandle).1.trace =
            some (handle,
              { sequence := ctx.tx.txSequence, messageId := ctx.claim.txClaimMessageId
                payload :=
                  TxSpan.bytes
                    { region := claim.region, offset := claim.offset, length := payloadLen }
                    ctx.mem }) := by
  have inv := reachable.inv
  refine ⟨?_, ?_, ?_⟩
  · intro token bytes answer past earlier
    have faithful := (reachable.image.faithful.earlier earlier).now
    simp only [submissionFaithful, beq_iff_eq, Option.map_eq_some_iff] at faithful
    obtain ⟨⟨handle, entry⟩, opened, same⟩ := faithful
    exact ⟨handle, entry, opened, same.symm⟩
  · intro messageId payload nowMs handle accepted
    exact wlSendReliable_opened inv accepted
  · intro claim payloadLen nowMs wantsHandle handle reliable accepted
    exact wlTxPayloadCommit_opened inv reliable accepted

/-- A retry after telemetry was written into the unit that held the first attempt. -/
theorem attempts_faithful_small_run :
    attempts (run (smallStart [.sent, .sent, .sent])
        [.setSink true, .sendReliable 5 (.bytes [1]) 0, .payloadClaim 6 .unreliable,
          .claimStore 0 [9], .payloadCommit { region := .unit, offset := 4, token := 1 } 1 5 true,
          .poll 20]).trace = 2 ∧
      ∀ token bytes answer past, .sinkCall token .reliable bytes answer :: past <:+
          (run (smallStart [.sent, .sent, .sent])
            [.setSink true, .sendReliable 5 (.bytes [1]) 0, .payloadClaim 6 .unreliable,
              .claimStore 0 [9],
              .payloadCommit { region := .unit, offset := 4, token := 1 } 1 5 true,
              .poll 20]).trace →
        ∃ handle entry, openedLast past = some (handle, entry) ∧
          bytes = linkUnit smallConfig
            (.reliable entry.messageId smallConfig.sessionId entry.sequence entry.payload) := by
  have reachable := small_reachable [.sent, .sent, .sent]
    [.setSink true, .sendReliable 5 (.bytes [1]) 0, .payloadClaim 6 .unreliable, .claimStore 0 [9],
      .payloadCommit { region := .unit, offset := 4, token := 1 } 1 5 true, .poll 20]
  have carried := (attempts_faithful reachable).1
  exact ⟨by decide +kernel, carried⟩

end Wirelink
