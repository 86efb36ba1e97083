/-
Module: Wirelink.Proofs.BulkReceiver
Purpose: The receiving side of one bulk transfer. Its record only grows, what its sink saw is the
  session the record describes, and every status it retains is truthful about the record. Each is
  read off the moves of the session.
Trusted boundary: none
-/
import Mathlib.Algebra.Group.Nat.Defs
import Wirelink.Spec.Bulk
import Wirelink.Proofs.BulkSession

namespace Wirelink

/-! ### The trace of the sink

What the sink accepted is read off its calls, the newest first. -/

theorem acceptedBegins_cons (call : BulkSinkCall) (calls : List BulkSinkCall) :
    acceptedBegins (call :: calls) = acceptedBegins calls ++ acceptedBegins [call] := by
  simp [acceptedBegins]

theorem acceptedWrites_cons (call : BulkSinkCall) (calls : List BulkSinkCall) :
    acceptedWrites (call :: calls) = acceptedWrites calls ++ acceptedWrites [call] := by
  simp [acceptedWrites]

theorem acceptedFinishes_cons (call : BulkSinkCall) (calls : List BulkSinkCall) :
    acceptedFinishes (call :: calls) = acceptedFinishes calls ++ acceptedFinishes [call] := by
  simp [acceptedFinishes]

variable {start finish : Nat} {before after : BulkSession}

theorem Consecutive.append {writes : List (UInt64 × Bytes)} {offset : UInt64} {data : Bytes}
    (before : Consecutive start writes finish) (next : offset.toNat = finish) :
    Consecutive start (writes ++ [(offset, data)]) (finish + data.length) := by
  induction writes generalizing start with
  | nil =>
    have here : start = finish := before
    exact ⟨next.trans here.symm, by rw [here]; rfl⟩
  | cons write writes ih => exact ⟨before.1, ih before.2⟩

theorem Consecutive.start_le {writes : List (UInt64 × Bytes)}
    (writes_ok : Consecutive start writes finish) : start ≤ finish := by
  induction writes generalizing start with
  | nil => exact Nat.le_of_eq writes_ok
  | cons write writes ih => exact Nat.le_trans (Nat.le_add_right _ _) (ih writes_ok.2)

theorem Stored.written {transfer : BulkTransfer} {calls : List BulkSinkCall} {transferId : UInt32}
    {offset : UInt64} {data : Bytes} (stored : Stored transfer calls start finish)
    (next : offset.toNat = finish) (own : data = transfer.object.readAt finish data.length) :
    Stored transfer (.written transferId offset data .ok :: calls) start (finish + data.length) := by
  have added : acceptedWrites (.written transferId offset data .ok :: calls) =
      acceptedWrites calls ++ [(offset, data)] := acceptedWrites_cons _ _
  have ordered := stored.consecutive.start_le
  constructor
  · rw [added]
    exact stored.consecutive.append next
  · have split : finish + data.length - start = (finish - start) + data.length := by omega
    have from_finish : start + (finish - start) = finish := by omega
    rw [added, split, Bytes.readAt_add, from_finish, ← own, List.flatMap_append, stored.content]
    simp

/-! ### Chunks

A chunk that passes the tests of the source is a span the sink may be asked to write. No sum in the
tests wraps. -/

section chunks

variable {receiver : WlBulkReceiver} {chunk : WlBulkChunk}

/-- What `chunk_shape_valid` accepts. -/
structure ChunkShape (receiver : WlBulkReceiver) (chunk : WlBulkChunk) (data : Bytes) : Prop where
  identified : chunk.transferId ≠ 0
  holds : chunk.data = .bytes data
  nonempty : data.length ≠ 0
  short : data.length ≤ receiver.acceptedChunkSize.toNat
  startAligned : chunk.offset.toNat % receiver.config.writeAlignment.toNat = 0
  endAligned : chunk.offset.toNat + data.length = receiver.descriptor.totalLength.toNat ∨
    data.length % receiver.config.writeAlignment.toNat = 0
  inside : chunk.offset.toNat + data.length ≤ receiver.descriptor.totalLength.toNat

theorem toNat_ofNat_short {length : Nat} (short : length < 2 ^ 32) :
    (UInt64.ofNat length).toNat = length := by
  rw [UInt64.toNat_ofNat']
  omega

theorem room_iff {offset : UInt64} {length : Nat} (short : length < 2 ^ 32) :
    offset ≤ 0xFFFFFFFFFFFFFFFF - UInt64.ofNat length ↔
      (offset + UInt64.ofNat length).toNat = offset.toNat + length := by
  have measured := toNat_ofNat_short short
  have top : (0xFFFFFFFFFFFFFFFF : UInt64).toNat = 2 ^ 64 - 1 := rfl
  have below : UInt64.ofNat length ≤ 0xFFFFFFFFFFFFFFFF := by
    rw [UInt64.le_iff_toNat_le, measured]
    omega
  rw [UInt64.le_iff_toNat_le, UInt64.toNat_sub_of_le _ _ below, UInt64.toNat_add, measured]
  omega

/-- The answer of `chunk_shape_valid` is the end of the chunk. -/
theorem chunkShapeValid_iff {finish : UInt64} :
    receiver.chunkShapeValid chunk = some finish ↔
      ∃ data, ChunkShape receiver chunk data ∧
        finish.toNat = chunk.offset.toNat + data.length := by
  cases holds : chunk.data with
  | null =>
    unfold WlBulkReceiver.chunkShapeValid
    rw [holds, if_pos (.inr (.inl rfl))]
    exact ⟨nofun, fun ⟨_, shape, _⟩ => nomatch holds.symm.trans shape.holds⟩
  | bytes data =>
    have size : chunk.data.length = data.length := by rw [holds]; rfl
    have present : chunk.data.isNull = false := by rw [holds]; rfl
    have bound := receiver.acceptedChunkSize.toNat_lt
    have total := receiver.descriptor.totalLength.toNat_lt
    unfold WlBulkReceiver.chunkShapeValid
    simp only [size, present, Option.ite_none_left_eq_some, not_or, not_and, not_not, ne_eq,
      Bool.false_eq_true, not_false_eq_true, true_and, Option.some.injEq, UInt64.not_lt,
      Nat.not_lt, gt_iff_lt, ← or_iff_not_imp_left, ← UInt64.toNat_inj]
    constructor
    · rintro ⟨⟨identified, nonempty, short⟩, room, ⟨inside, start⟩, last, ends⟩
      rw [room_iff (by omega)] at room
      rw [UInt64.toNat_mod, toNat_ofNat_short (by omega), room] at last
      rw [UInt64.le_iff_toNat_le, room] at inside
      exact ⟨data, ⟨identified, holds, nonempty, short, start, last, inside⟩, ends.symm.trans room⟩
    · rintro ⟨_, ⟨identified, same, nonempty, short, start, last, inside⟩, ends⟩
      obtain rfl := Buffer.bytes.inj (holds.symm.trans same)
      have measured := toNat_ofNat_short (show data.length < 2 ^ 32 by omega)
      have room : (chunk.offset + UInt64.ofNat data.length).toNat =
          chunk.offset.toNat + data.length := by
        rw [UInt64.toNat_add]
        omega
      rw [room_iff (by omega), UInt64.le_iff_toNat_le, UInt64.toNat_mod, UInt64.toNat_mod, measured,
        room]
      exact ⟨⟨identified, nonempty, short⟩, rfl, ⟨inside, start⟩, last, ends.symm⟩

theorem ChunkShape.allowed {data : Bytes} (shape : ChunkShape receiver chunk data)
    (negotiated :
      receiver.config.negotiated receiver.descriptor = some receiver.acceptedChunkSize) :
    SpanAllowed receiver.config receiver.descriptor chunk.offset.toNat chunk.data.data := by
  rw [shape.holds]
  exact ⟨fun empty => shape.nonempty (congrArg List.length empty),
    ⟨_, negotiated, shape.short⟩, shape.startAligned, shape.endAligned, shape.inside⟩

end chunks

/-! ### The record

Along a run of one transfer the record only grows: a truthful status stays truthful, and a sound
message stays sound. Each way in which a record changes is a lemma, and every move of the session is
one of them. -/

/-- What the sender may conclude from a status about the receiver as it is now. -/
structure Truthful (session : BulkSession) (status : WlBulkStatus) : Prop where
  offset : status.nextOffset ≤ session.nextOffset
  inOrder : ¬ (status.phase = .phaseEnd ∧ status.code = .outOfOrder)
  opened : status.phase = .phaseBegin → status.code = .ok ∨ status.code = .outOfOrder →
    session.state ≠ .idle
  ended : status.phase = .phaseEnd → status.code = .ok → session.state = .completed

/-- How a record may change along a run. -/
structure Grown (before after : BulkSession) : Prop where
  offset : before.nextOffset ≤ after.nextOffset
  opened : before.state ≠ .idle → after.state ≠ .idle
  completed : before.state = .completed → after.state = .completed

theorem Truthful.grown {status : WlBulkStatus} (truthful : Truthful before status)
    (grown : Grown before after) : Truthful after status where
  offset := UInt64.le_trans truthful.offset grown.offset
  inOrder := truthful.inOrder
  opened := fun begins code => grown.opened (truthful.opened begins code)
  ended := fun ends code => grown.completed (truthful.ended ends code)

theorem Grown.fromIdle (idle : before.state = .idle) (zero : before.nextOffset = 0) :
    Grown before after where
  offset := by
    rw [zero]
    exact UInt64.zero_le
  opened := fun opened => absurd idle opened
  completed := fun completed => nomatch idle.symm.trans completed

/-- A change of state that keeps the offset and does not come from a completed session. -/
theorem Grown.settled (offset : after.nextOffset = before.nextOffset) (state : after.state ≠ .idle)
    (running : before.state ≠ .completed) : Grown before after where
  offset := UInt64.le_of_eq offset.symm
  opened := fun _ => state
  completed := fun completed => absurd completed running

/-- The sink has seen exactly the session the record describes. -/
structure Session (transfer : BulkTransfer) (session : BulkSession) (resumeOffset : UInt64) :
    Prop where
  descriptor : session.descriptor = transfer.descriptor
  within : resumeOffset ≤ transfer.descriptor.totalLength
  begins : acceptedBegins session.calls = [(transfer.descriptor, resumeOffset)]
  stored : Stored transfer session.calls resumeOffset.toNat session.nextOffset.toNat
  finishes : acceptedFinishes session.calls =
    if session.state = .completed then [transfer.descriptor] else []
  total : session.state = .completed → session.nextOffset = transfer.descriptor.totalLength

/-- What holds of the receiver's record throughout a run with one transfer. -/
structure RecordInv (transfer : BulkTransfer) (session : BulkSession) : Prop where
  own : session.state ≠ .idle → session.descriptor.transferId = transfer.descriptor.transferId
  fresh : session.state = .idle → session.nextOffset = 0 ∧ acceptedBegins session.calls = [] ∧
    acceptedWrites session.calls = [] ∧ acceptedFinishes session.calls = []
  within : session.nextOffset ≤ transfer.descriptor.totalLength
  failed : session.state = .failed →
    session.terminalCode ≠ .ok ∧ session.terminalCode ≠ .outOfOrder
  session : session.state = .receiving ∨ session.state = .completed →
    ∃ resumeOffset, Session transfer session resumeOffset

/-- A message is one this transfer sends, and an End is only in flight when the receiver has
everything. -/
def Sound (transfer : BulkTransfer) (session : BulkSession) : BulkMessage → Prop
  | .beginning descriptor => descriptor = transfer.descriptor
  | .chunk piece => piece.transferId = transfer.descriptor.transferId ∧
      ∃ count, piece.data = .bytes (transfer.object.readAt piece.offset.toNat count)
  | .ending transferId totalLength objectCrc32c =>
    transferId = transfer.descriptor.transferId ∧
      totalLength = transfer.descriptor.totalLength ∧
      objectCrc32c = transfer.descriptor.objectCrc32c ∧ session.state ≠ .idle ∧
      session.nextOffset = transfer.descriptor.totalLength
  | .abort transferId _ => transferId = transfer.descriptor.transferId

theorem Grown.complete {transfer : BulkTransfer} (grown : Grown before after)
    (inv : RecordInv transfer after)
    (complete : before.state ≠ .idle ∧ before.nextOffset = transfer.descriptor.totalLength) :
    after.state ≠ .idle ∧ after.nextOffset = transfer.descriptor.totalLength := by
  have reached := grown.offset
  rw [complete.2] at reached
  exact ⟨grown.opened complete.1, UInt64.le_antisymm inv.within reached⟩

theorem Sound.grown {transfer : BulkTransfer} {message : BulkMessage}
    (sound : Sound transfer before message) (grown : Grown before after)
    (inv : RecordInv transfer after) : Sound transfer after message := by
  cases message with
  | beginning | chunk | abort => exact sound
  | ending =>
    obtain ⟨id, total, crc, complete⟩ := sound
    exact ⟨id, total, crc, grown.complete inv complete⟩

section moves

variable {transfer : BulkTransfer} {session : BulkSession} {receiver : WlBulkReceiver}
  {op : ReceiverOp}

theorem RecordInv.called (inv : RecordInv transfer session) {call : BulkSinkCall}
    (begins : acceptedBegins [call] = []) (writes : acceptedWrites [call] = [])
    (finishes : acceptedFinishes [call] = []) : RecordInv transfer (session.called call) := by
  have sameBegins : acceptedBegins (session.called call).calls = acceptedBegins session.calls := by
    rw [BulkSession.called, acceptedBegins_cons, begins, List.append_nil]
  have sameWrites : acceptedWrites (session.called call).calls = acceptedWrites session.calls := by
    rw [BulkSession.called, acceptedWrites_cons, writes, List.append_nil]
  have sameFinishes :
      acceptedFinishes (session.called call).calls = acceptedFinishes session.calls := by
    rw [BulkSession.called, acceptedFinishes_cons, finishes, List.append_nil]
  refine ⟨inv.own, fun idle => ?_, inv.within, inv.failed, fun open_ => ?_⟩
  · rw [sameBegins, sameWrites, sameFinishes]
    exact inv.fresh idle
  · obtain ⟨resumeOffset, seen⟩ := inv.session open_
    refine ⟨resumeOffset, seen.descriptor, seen.within, sameBegins.trans seen.begins, ⟨?_, ?_⟩,
      sameFinishes.trans seen.finishes, seen.total⟩
    · rw [sameWrites]
      exact seen.stored.consecutive
    · rw [sameWrites]
      exact seen.stored.content

/-- A session that has ended without success: nothing is said about the sink any more. -/
theorem RecordInv.ended (own : session.descriptor.transferId = transfer.descriptor.transferId)
    (within : session.nextOffset ≤ transfer.descriptor.totalLength)
    (state : session.state = .aborted ∨ session.state = .failed ∧
      session.terminalCode ≠ .ok ∧ session.terminalCode ≠ .outOfOrder) :
    RecordInv transfer session := by
  have notOpen : session.state ≠ .idle ∧ session.state ≠ .receiving ∧
      session.state ≠ .completed := by
    rcases state with aborted | ⟨failed, _⟩
    · simp [aborted]
    · simp [failed]
  refine ⟨fun _ => own, fun idle => absurd idle notOpen.1, within, fun failed => ?_, fun open_ => ?_⟩
  · rcases state with aborted | ⟨_, code⟩
    · exact nomatch aborted.symm.trans failed
    · exact code
  · rcases open_ with receiving | completed
    · exact absurd receiving notOpen.2.1
    · exact absurd completed notOpen.2.2

theorem RecordInv.opened (inv : RecordInv transfer session) (idle : session.state = .idle)
    {resumeOffset : UInt64} (within : resumeOffset ≤ transfer.descriptor.totalLength)
    (acceptedChunkSize : UInt32) :
    RecordInv transfer
      { session.called (.begun transfer.descriptor resumeOffset .ok) with
        descriptor := transfer.descriptor, nextOffset := resumeOffset,
        acceptedChunkSize := acceptedChunkSize, state := .receiving, sinkActive := true } := by
  obtain ⟨_, noBegins, noWrites, noFinishes⟩ := inv.fresh idle
  refine ⟨fun _ => rfl, nofun, within, nofun, fun _ =>
    ⟨resumeOffset, rfl, within, ?_, ⟨?_, ?_⟩, ?_, nofun⟩⟩
  all_goals dsimp only [BulkSession.called]
  · rw [acceptedBegins_cons, noBegins]
    rfl
  · rw [acceptedWrites_cons, noWrites]
    rfl
  · rw [acceptedWrites_cons, noWrites, Nat.sub_self]
    rfl
  · rw [acceptedFinishes_cons, noFinishes]
    rfl

theorem RecordInv.wrote (inv : RecordInv transfer session) (receiving : session.state = .receiving)
    {transferId : UInt32} {data : Bytes} {finish : UInt64}
    (ends : finish.toNat = session.nextOffset.toNat + data.length)
    (inside : finish ≤ session.descriptor.totalLength)
    (slice : data = transfer.object.readAt session.nextOffset.toNat data.length) :
    RecordInv transfer
      { session.called (.written transferId session.nextOffset data .ok) with
        nextOffset := finish } := by
  obtain ⟨resumeOffset, seen⟩ := inv.session (.inl receiving)
  have written := @Stored.written _ _ _ _ transferId _ _ seen.stored rfl slice
  rw [← ends] at written
  refine ⟨inv.own, (fun idle => nomatch receiving.symm.trans idle), seen.descriptor ▸ inside,
    inv.failed, fun _ => ⟨resumeOffset, seen.descriptor, seen.within, ?_, written, ?_,
      fun completed => nomatch receiving.symm.trans completed⟩⟩
  · exact (acceptedBegins_cons _ _).trans ((List.append_nil _).trans seen.begins)
  · exact (acceptedFinishes_cons _ _).trans ((List.append_nil _).trans seen.finishes)

theorem RecordInv.finished (inv : RecordInv transfer session)
    (receiving : session.state = .receiving)
    (complete : session.nextOffset = session.descriptor.totalLength) :
    RecordInv transfer
      { session.called (.finished session.descriptor .ok) with
        state := .completed, terminalCode := .ok, sinkActive := false } := by
  obtain ⟨resumeOffset, seen⟩ := inv.session (.inl receiving)
  have writes : acceptedWrites (session.called (.finished session.descriptor .ok)).calls =
      acceptedWrites session.calls := (acceptedWrites_cons _ _).trans (List.append_nil _)
  have none : acceptedFinishes session.calls = [] :=
    seen.finishes.trans (if_neg (by rw [receiving]; exact nofun))
  refine ⟨fun _ => congrArg _ seen.descriptor, nofun, inv.within, nofun, fun _ =>
    ⟨resumeOffset, seen.descriptor, seen.within, ?_, ⟨?_, ?_⟩, ?_, fun _ => ?_⟩⟩
  · exact (acceptedBegins_cons _ _).trans ((List.append_nil _).trans seen.begins)
  · exact writes.symm ▸ seen.stored.consecutive
  · exact writes.symm ▸ seen.stored.content
  · dsimp only [BulkSession.called]
    rw [acceptedFinishes_cons, none, seen.descriptor]
    rfl
  · exact complete.trans (congrArg WlBulkDescriptor.totalLength seen.descriptor)

/-- A call that only this transfer is behind. -/
def ReceiverOp.Of (transfer : BulkTransfer) : ReceiverOp → Prop
  | .onBegin descriptor .. => descriptor = transfer.descriptor
  | .onChunk chunk .. =>
    ∃ count, chunk.data = .bytes (transfer.object.readAt chunk.offset.toNat count)
  | .onAbort transferId .. => transferId = transfer.descriptor.transferId
  | .reset => False
  | _ => True

theorem RecordInv.admitted (inv : RecordInv transfer receiver.session)
    (admitted : receiver.admits transfer.descriptor) :
    receiver.session.state = .idle ∧ receiver.session.vacated = receiver.session := by
  have idle : receiver.session.state = .idle := by
    by_contra opened
    exact admitted.2.2.2 opened (inv.own opened).symm
  exact ⟨idle, if_neg (not_not.mpr idle)⟩

theorem sinkFailureCode_ne (result : WlBulkSinkResult) :
    sinkFailureCode result ≠ .ok ∧ sinkFailureCode result ≠ .outOfOrder := by
  cases result <;> exact ⟨nofun, nofun⟩

/-- Every move of one transfer keeps the invariant of the record, and the record only grows. -/
theorem SessionMove.grows (move : SessionMove receiver op after)
    (inv : RecordInv transfer receiver.session) (own : op.Of transfer) :
    RecordInv transfer after ∧ Grown receiver.session after := by
  have running : receiver.state = .receiving →
      receiver.session.state ≠ .idle ∧ receiver.session.state ≠ .completed := by
    intro receiving
    rw [show receiver.session.state = _ from receiving]
    decide
  cases move with
  | kept => exact ⟨inv, UInt64.le_refl _, id, id⟩
  | beginBusy nowMs resumeOffset admitted =>
    obtain rfl := own
    rw [(inv.admitted admitted).2]
    exact ⟨inv.called rfl rfl rfl, UInt64.le_refl _, id, id⟩
  | beginFailed nowMs admitted =>
    obtain rfl := own
    obtain ⟨idle, same⟩ := inv.admitted admitted
    rw [same]
    refine ⟨.ended rfl inv.within (.inr ⟨rfl, ?_⟩), .fromIdle idle (inv.fresh idle).1⟩
    dsimp only
    split
    · decide
    · exact sinkFailureCode_ne _
  | begun nowMs admitted negotiated resumable =>
    obtain rfl := own
    obtain ⟨idle, same⟩ := inv.admitted admitted
    rw [same]
    exact ⟨inv.opened idle resumable.1 _, .fromIdle idle (inv.fresh idle).1⟩
  | waited asked =>
    refine ⟨?_, UInt64.le_refl _, id, id⟩
    cases asked with
    | write | finish => exact inv.called rfl rfl rfl
  | broke asked =>
    obtain ⟨opened, going⟩ := running asked.receiving
    exact ⟨.ended (inv.own opened) inv.within (.inr ⟨rfl, sinkFailureCode_ne _⟩),
      .settled rfl (by simp) going⟩
  | wrote nowMs receiving next valid =>
    obtain ⟨_, holds⟩ := own
    obtain ⟨data, shape, ends⟩ := chunkShapeValid_iff.mp valid
    obtain rfl := Buffer.bytes.inj (holds.symm.trans shape.holds)
    have inside := shape.inside
    rw [← ends] at inside
    rw [next] at ends
    refine ⟨?_, ?_, id, id⟩
    · rw [shape.holds, next]
      refine inv.wrote receiving ends (UInt64.le_iff_toNat_le.mpr inside) ?_
      simp only [WlBulkReceiver.session, Buffer.data, Bytes.readAt, List.length_take]
      rw [List.take_eq_take_iff]
      omega
    · show receiver.nextOffset ≤ _
      rw [UInt64.le_iff_toNat_le, ends]
      exact Nat.le_add_right _ _
  | finished nowMs receiving complete =>
    exact ⟨inv.finished receiving complete, UInt64.le_refl _, fun _ => by simp, fun _ => rfl⟩
  | aborted reason nowMs open_ =>
    obtain ⟨_, offset, _⟩ := released_fields receiver.session reason
    refine ⟨.ended ?_ (offset ▸ inv.within) (.inl rfl), .settled offset (by simp) ?_⟩
    · exact (congrArg _ (released_fields receiver.session reason).1).trans own
    · rcases open_ with state | state <;>
        exact fun completed => absurd (state.symm.trans completed) (by decide)
  | tombstone reason nowMs ready nonzero past unknown =>
    have idle : receiver.session.state = .idle := by
      by_contra opened
      exact unknown opened (own.trans (inv.own opened).symm)
    exact ⟨.ended own UInt64.zero_le (.inl rfl), .fromIdle idle (inv.fresh idle).1⟩
  | timedOut nowMs receiving =>
    obtain ⟨opened, going⟩ := running receiving
    obtain ⟨descriptor, offset, _⟩ := released_fields receiver.session WlBulkErr.timeout.code
    refine ⟨.ended ?_ (offset ▸ inv.within) (.inr ⟨rfl, by simp⟩), .settled offset (by simp) going⟩
    exact (congrArg _ descriptor).trans (inv.own opened)
  | reset => exact own.elim

theorem EndReported.truthful {code : WlBulkStatusCode} (reported : EndReported session code)
    (inv : RecordInv transfer session) (opened : session.state ≠ .idle)
    (total : session.nextOffset = transfer.descriptor.totalLength) :
    code ≠ .outOfOrder ∧ (code = .ok → session.state = .completed) := by
  cases reported with
  | plain plain =>
    cases code with
    | ok | outOfOrder => exact nomatch plain
    | _ => exact ⟨nofun, nofun⟩
  | early state =>
    rcases state with idle | ⟨receiving, partly⟩
    · exact absurd idle opened
    · obtain ⟨_, seen⟩ := inv.session (.inl receiving)
      exact absurd (total.trans (congrArg _ seen.descriptor.symm)) partly
  | ended _ past =>
    unfold BulkSession.terminalStatusCode
    cases state : session.state with
    | idle => exact absurd state opened
    | receiving => exact absurd state past
    | completed => exact ⟨nofun, fun _ => rfl⟩
    | failed => exact ⟨(inv.failed state).2, fun ok => absurd ok (inv.failed state).1⟩
    | aborted => exact ⟨nofun, nofun⟩

/-- What holds of the receiver: its record, and a pending status tells the truth about it. -/
structure ReceiverInv (transfer : BulkTransfer) (receiver : WlBulkReceiver) : Prop where
  record : RecordInv transfer receiver.session
  pending : receiver.statusPending = true → Truthful receiver.session receiver.pendingStatus

/-- The receiver after an input: the invariant holds and the record has only grown. -/
structure Advance (transfer : BulkTransfer) (before after : WlBulkReceiver) : Prop where
  inv : ReceiverInv transfer after
  grown : Grown before.session after.session

theorem step_advance (inv : ReceiverInv transfer receiver) (own : op.Of transfer)
    (complete : op.phase = .phaseEnd → receiver.session.state ≠ .idle ∧
      receiver.session.nextOffset = transfer.descriptor.totalLength) :
    Advance transfer receiver (receiver.step op) := by
  have moves := step_moves receiver op
  obtain ⟨record, grown⟩ := moves.session.grows inv.record own
  refine ⟨⟨record, fun pending => ?_⟩, grown⟩
  rcases moves.status pending with ⟨held, status, session⟩ | ⟨reported, phase⟩
  · rw [status, session]
    exact inv.pending held
  · have answered := fun ends => (reported.ending ends).truthful record
      (grown.complete record (complete (phase.symm.trans ends))).1
      (grown.complete record (complete (phase.symm.trans ends))).2
    refine ⟨?_, fun early => (answered early.1).1 early.2, reported.opened, fun ends =>
      (answered ends).2⟩
    rcases reported.offset with zero | same
    · rw [zero]
      exact UInt64.zero_le
    · exact UInt64.le_of_eq same

end moves

/-- The call a message makes when it arrives. -/
def BulkMessage.op (message : BulkMessage) (nowMs : UInt32) (result : WlBulkSinkResult)
    (resumeOffset : UInt64) : ReceiverOp :=
  match message with
  | .beginning descriptor => .onBegin descriptor nowMs result resumeOffset
  | .chunk piece => .onChunk piece nowMs result
  | .ending transferId totalLength objectCrc32c =>
    .onEnd transferId totalLength objectCrc32c nowMs result
  | .abort transferId reason => .onAbort transferId reason nowMs

theorem deliver_eq_step (message : BulkMessage) (receiver : WlBulkReceiver) (nowMs : UInt32)
    (result : WlBulkSinkResult) (resumeOffset : UInt64) :
    message.deliver receiver nowMs result resumeOffset =
      receiver.step (message.op nowMs result resumeOffset) := by
  cases message <;> rfl

theorem deliver_advance {transfer : BulkTransfer} {receiver : WlBulkReceiver}
    (inv : ReceiverInv transfer receiver) {message : BulkMessage}
    (sound : Sound transfer receiver.session message) (nowMs : UInt32) (result : WlBulkSinkResult)
    (resumeOffset : UInt64) :
    Advance transfer receiver (message.deliver receiver nowMs result resumeOffset) := by
  rw [deliver_eq_step]
  cases message with
  | beginning | abort => exact step_advance inv sound nofun
  | chunk => exact step_advance inv sound.2 nofun
  | ending => exact step_advance inv trivial fun _ => sound.2.2.2

end Wirelink
