/-
Module: Wirelink.Proofs.RxLent
Purpose: Where the payload of an outstanding RX event lies: in the fallback buffer, in the front slot
  of the unit queue or at the front of the ring. The producers leave that place alone, and the
  release of the event gives it back.
Trusted boundary: none
-/
import Wirelink.Proofs.StreamTurn
import Wirelink.Proofs.UnitQueue
import Wirelink.Spec.RxLease

namespace Wirelink

/-! ### The invariant

The payload of an outstanding event is lent from one of three places, and what its release is going
to consume is on record. -/

/-- The unit queue of a context, with the number of units committed to it. -/
inductive UnitsInv (queue : RxUnitQueue) (count : Nat) : Prop where
  | absent (same : queue = RxUnitQueue.empty) (none : count = 0)
  | present (units : UnitRun) (same : units.queue = queue)
      (counted : units.committed.length = count) (inv : QueueInv units)

/-- The receive memories of a link. A search cache is of use only while no decoded unit lies in the
ring. -/
structure StoreInv (envelope : WlEnvelope) (store : RxStore) (count : Nat) : Prop where
  stream : envelope = .cobsStream → ∃ queued, RingInv store.rxRing.core queued ∧
    (store.rxPendingConsume = 0 → FindInv store.rxRing queued)
  packet : envelope ≠ .cobsStream → store.rxRing = RxRing.empty
  noUnits : envelope = .cobsStream → store.rxUnits = RxUnitQueue.empty
  units : UnitsInv store.rxUnits count

/-- A stretch of the first `pending` readable bytes of the ring, in one piece. -/
def RingLent (ring : RxRing) (pending offset length : Nat) : Prop :=
  0 < pending ∧ pending ≤ ring.readable ∧ offset + length ≤ ring.capacity ∧
    ∃ skip, offset = ring.readCursor % ring.capacity + skip ∧ skip + length ≤ pending

/-- A stretch of the front slot of a queue that is not empty. -/
def SlotLent (queue : RxUnitQueue) (offset length : Nat) : Prop :=
  queue.readCursor ≠ queue.writeCursor ∧ queue.slotOffset queue.readCursor ≤ offset ∧
    offset + length ≤ queue.slotOffset queue.readCursor + queue.unitSize

/-- Where the payload of an outstanding event lies, and what its release is going to consume. -/
def LentAt (store : RxStore) (ptr : RxPtr) (length : Nat) : Prop :=
  match ptr.source with
  | .none => False
  | .fallback => store.rxPendingConsume = 0
  | .unit => store.rxCandidateSource = .unit ∧ store.rxPendingConsume = 1 ∧
      SlotLent store.rxUnits ptr.offset length
  | .ring => store.rxCandidateSource = .ring ∧
      RingLent store.rxRing store.rxPendingConsume ptr.offset length

/-- The bytes a pointer shows. -/
def RxStore.bytesAt (store : RxStore) (ptr : RxPtr) (length : Nat) : Bytes :=
  match ptr.source with
  | .ring => store.rxRing.memory.readAt ptr.offset length
  | .fallback => store.rxFallback.readAt ptr.offset length
  | .unit => store.rxUnits.storage.readAt ptr.offset length
  | .none => []

/-- The event is outstanding: in the slot, or handed out under the lease. -/
structure Outstanding (slot : EventSlot) (store : RxStore) (held : HeldEvent) : Prop where
  kind : held.event.type.isRx = true
  lease : held.event.lease = slot.rxEventGeneration
  place : slot.hasEvent = true ∧ slot.event = held.event ∧ slot.rxEventLeased = false ∨
    slot.rxEventLeased = true ∧ (slot.hasEvent && slot.event.type.isRx) = false
  lent : ∃ ptr, held.event.payload = some ptr ∧ LentAt store ptr held.event.payloadLen ∧
    store.bytesAt ptr held.event.payloadLen = held.bytes

/-- Nothing received is outstanding. -/
structure NothingOut (slot : EventSlot) (store : RxStore) : Prop where
  free : (slot.hasEvent && slot.event.type.isRx) = false
  unleased : slot.rxEventLeased = false
  pending : store.rxPendingConsume = 0

/-- At most one received event is outstanding. -/
def OutInv (slot : EventSlot) (store : RxStore) : Option HeldEvent → Prop
  | none => NothingOut slot store
  | some held => Outstanding slot store held

/-- The receive memories and the event slot. -/
structure InboxInv (envelope : WlEnvelope) (slot : EventSlot) (store : RxStore) (count : Nat)
    (held : Option HeldEvent) : Prop where
  memories : StoreInv envelope store count
  out : OutInv slot store held

/-- The inbox of a context. -/
abbrev Inbox (ctx : WlCtx) (count : Nat) (held : Option HeldEvent) : Prop :=
  InboxInv ctx.config.envelope ctx.slot ctx.rx.store count held

/-- A call that posts a TX event at most and leaves everything outstanding as it is. -/
structure KeepsInbox (ctx after : WlCtx) (count : Nat) (held : Option HeldEvent) : Prop where
  inbox : InboxInv ctx.config.envelope after.slot after.rx.store count held
  slot : SlotStep ctx.slot after.slot

theorem KeepsInbox.same {ctx : WlCtx} {count : Nat} {held : Option HeldEvent}
    (inv : Inbox ctx count held) : KeepsInbox ctx ctx count held :=
  ⟨inv, .same ctx.slot⟩

/-! ### Steps that keep what is lent

Most steps touch neither the lent bytes nor the mark of what a release consumes. -/

/-- A step that keeps every lent stretch, its bytes and what its release is going to consume. -/
structure StoreStep (store after : RxStore) : Prop where
  pending : after.rxPendingConsume = store.rxPendingConsume
  lent : ∀ ptr length, LentAt store ptr length →
    LentAt after ptr length ∧ after.bytesAt ptr length = store.bytesAt ptr length

theorem StoreStep.refl (store : RxStore) : StoreStep store store :=
  ⟨rfl, fun _ _ lent => ⟨lent, rfl⟩⟩

section inbox

variable {envelope : WlEnvelope} {slot later : EventSlot} {store after : RxStore}
  {count : Nat} {held : Option HeldEvent}

theorem StoreInv.onRing (inv : StoreInv envelope store count) (stream : envelope = .cobsStream)
    {queued : Bytes} (queue : RingInv after.rxRing.core queued)
    (cache : after.rxPendingConsume = 0 → FindInv after.rxRing queued)
    (units : after.rxUnits = store.rxUnits) : StoreInv envelope after count :=
  ⟨fun _ => ⟨queued, queue, cache⟩, fun packet => absurd stream packet, units ▸ inv.noUnits,
    units ▸ inv.units⟩

theorem SlotStep.rx (step : SlotStep slot later) :
    (later.hasEvent && later.event.type.isRx) = (slot.hasEvent && slot.event.type.isRx) ∧
      later.rxEventLeased = slot.rxEventLeased ∧
      later.rxEventGeneration = slot.rxEventGeneration ∧
      (slot.hasEvent = true → later = slot) := by
  cases step with
  | same => exact ⟨rfl, rfl, rfl, fun _ => rfl⟩
  | posted event free transmit =>
    refine ⟨?_, rfl, rfl, fun taken => nomatch free.symm.trans taken⟩
    rw [free, transmit]
    rfl

theorem OutInv.step (out : OutInv slot store held) (slotStep : SlotStep slot later)
    (storeStep : StoreStep store after) : OutInv later after held := by
  obtain ⟨rx, leased, generation, kept⟩ := slotStep.rx
  cases held with
  | none =>
    exact ⟨rx.trans out.free, leased.trans out.unleased, storeStep.pending.trans out.pending⟩
  | some =>
    obtain ⟨ptr, payload, place, bytes⟩ := out.lent
    obtain ⟨stays, same⟩ := storeStep.lent ptr _ place
    refine ⟨out.kind, out.lease.trans generation.symm, ?_, ptr, payload, stays, same.trans bytes⟩
    rcases out.place with ⟨taken, event, unleased⟩ | ⟨lease, free⟩
    · rw [kept taken]
      exact .inl ⟨taken, event, unleased⟩
    · exact .inr ⟨leased.trans lease, rx.trans free⟩

theorem InboxInv.slotStep (inv : InboxInv envelope slot store count held)
    (step : SlotStep slot later) : InboxInv envelope later store count held :=
  ⟨inv.memories, inv.out.step step (.refl store)⟩

theorem InboxInv.txOnly {ctx ctx' : WlCtx}
    (inv : InboxInv envelope ctx.slot ctx.rx.store count held) (sending : TxOnly ctx ctx') :
    InboxInv envelope ctx'.slot ctx'.rx.store count held := by
  rw [sending.rx]
  exact inv.slotStep sending.slot

end inbox

theorem slotRxEvents_slotStep {ctx after : WlCtx} (step : SlotStep ctx.slot after.slot) :
    slotRxEvents after = slotRxEvents ctx := by
  obtain ⟨rx, -, -, kept⟩ := step.rx
  unfold slotRxEvents holdsRxEvent
  rw [rx]
  split
  case isTrue taken =>
    rw [Bool.and_eq_true] at taken
    rw [kept taken.1]
  case isFalse => rfl

/-! ### The byte producers

The producers append behind the queue of the ring, and lent bytes are at its front. -/

variable {ring : RxRing} {pending offset length : Nat}

theorem RingLent.bytes {queued : Bytes} {skip : Nat} (inv : RingInv ring.core queued)
    (inside : offset + length ≤ ring.capacity)
    (place : offset = ring.readCursor % ring.capacity + skip) (short : skip + length ≤ pending)
    (enough : pending ≤ queued.length) :
    ring.memory.readAt offset length = (queued.drop skip).take length := by
  rcases Nat.eq_zero_or_pos length with zero | positive
  · rw [zero, Bytes.readAt_zero, List.take_zero]
  · have there : (ring.readCursor + skip) % ring.capacity = offset := by
      rw [place, Nat.add_mod, Nat.mod_eq_of_lt (show skip < ring.capacity by omega),
        Nat.mod_eq_of_lt (by omega)]
    have stretch := inv.stretch (show skip + length ≤ queued.length by omega)
      (by rw [there]; exact inside)
    rw [there] at stretch
    exact stretch

theorem RingLent.fed {after : RxRing} {queued more : Bytes} {noted : Bool}
    (lent : RingLent ring pending offset length) (inv : RingInv ring.core queued)
    (fed : Fed queued more noted ring after) :
    RingLent after pending offset length ∧
      after.memory.readAt offset length = ring.memory.readAt offset length := by
  obtain ⟨positive, enough, inside, skip, place, short⟩ := lent
  rw [inv.readable_eq] at enough
  have waiting : queued ≠ [] := by
    rintro rfl
    rw [List.length_nil] at enough
    omega
  have read := fed.read waiting
  have capacity := fed.capacity
  have grown : pending ≤ (queued ++ more).length := by
    rw [List.length_append]
    omega
  rw [← read, ← capacity] at place
  refine ⟨⟨positive, ?_, ?_, skip, place, short⟩, ?_⟩
  · rw [fed.queue.readable_eq]
    exact grown
  · rw [capacity]
    exact inside
  · rw [RingLent.bytes fed.queue (by rw [capacity]; exact inside) place short grown]
    rw [read, capacity] at place
    rw [RingLent.bytes inv inside place short enough, List.drop_append_of_le_length (by omega),
      List.take_append_of_le_length (by rw [List.length_drop]; omega)]

theorem RingLent.ofCore {after : RxRing} (lent : RingLent ring pending offset length)
    (same : after.core = ring.core) :
    RingLent after pending offset length ∧
      after.memory.readAt offset length = ring.memory.readAt offset length := by
  have memory : after.memory = ring.memory := congrArg RingCore.memory same
  have capacity : after.capacity = ring.capacity := congrArg RingCore.capacity same
  have read : after.readCursor = ring.readCursor := congrArg RingCore.readCursor same
  have write : after.writeCursor = ring.writeCursor := congrArg RingCore.writeCursor same
  unfold RingLent RxRing.readable
  rw [memory, capacity, read, write]
  exact ⟨lent, rfl⟩

theorem StoreStep.ofRing {store : RxStore}
    (kept : ∀ offset length, RingLent store.rxRing store.rxPendingConsume offset length →
      RingLent ring store.rxPendingConsume offset length ∧
        ring.memory.readAt offset length = store.rxRing.memory.readAt offset length) :
    StoreStep store { store with rxRing := ring } := by
  refine ⟨rfl, fun ptr length lent => ?_⟩
  rcases ptr with ⟨source, offset⟩
  cases source with
  | none => exact lent.elim
  | fallback | unit => exact ⟨lent, rfl⟩
  | ring => exact ⟨⟨lent.1, (kept offset length lent.2).1⟩, (kept offset length lent.2).2⟩

theorem StoreStep.ofUnits {store : RxStore} {units : RxUnitQueue}
    (kept : ∀ offset length, SlotLent store.rxUnits offset length → SlotLent units offset length ∧
      units.storage.readAt offset length = store.rxUnits.storage.readAt offset length) :
    StoreStep store { store with rxUnits := units } := by
  refine ⟨rfl, fun ptr length lent => ?_⟩
  rcases ptr with ⟨source, offset⟩
  cases source with
  | none => exact lent.elim
  | fallback | ring => exact ⟨lent, rfl⟩
  | unit =>
    exact ⟨⟨lent.1, lent.2.1, (kept offset length lent.2.2).1⟩, (kept offset length lent.2.2).2⟩

section producers

variable {ctx : WlCtx} {count : Nat} {held : Option HeldEvent}

theorem step_fed_inbox (initialized : ctx.initialized = true)
    (stream : ctx.config.envelope = .cobsStream)
    (inv : Inbox ctx count held) {op : Op} (producer : op.isProducer = true) :
    KeepsInbox ctx (step ctx op) count held := by
  obtain ⟨_, queue, cache⟩ := inv.memories.stream stream
  obtain ⟨_, same, fed⟩ := step_fed initialized stream queue producer
  rw [same]
  refine ⟨⟨inv.memories.onRing stream fed.queue (fun zero => fed.cache (cache zero)) rfl, ?_⟩,
    .same ctx.slot⟩
  exact inv.out.step (.same ctx.slot)
    (.ofRing fun offset length lent => RingLent.fed lent queue fed)

theorem step_packet_producer (packet : ctx.config.envelope ≠ .cobsStream)
    (noRing : ctx.rx.rxRing = RxRing.empty) {op : Op} (producer : op.isProducer = true)
    (notUnit : ∀ unit, op ≠ .feedUnit unit) : step ctx op = ctx := by
  have refused : ∃ err, streamGuard ctx = some err := by
    unfold streamGuard
    split
    · exact ⟨_, rfl⟩
    · exact ⟨_, rfl⟩
  obtain ⟨_, refused⟩ := refused
  have same : setRing ctx RxRing.empty = ctx := by
    rw [← noRing]
    rfl
  cases op with
  | feedUnit unit => exact absurd rfl (notUnit unit)
  | feedBytes =>
    rw [step, wlFeedBytes, refused]
    split
    · rfl
    · rfl
  | rxReserve => rw [step, wlRxReserve, refused]
  | ringStore | dmaStore =>
    rw [step, noRing]
    exact same
  | rxCommit => rw [step, wlRxCommit, refused]
  | dmaClaim => rw [step, wlRxDmaClaim, refused]
  | dmaPublish => rw [step, wlRxDmaPublish, refused]
  | dmaFinish => rw [step, wlRxDmaFinish, refused]
  | dmaAbort => rw [step, wlRxDmaAbort, refused]
  | noteOverflow => rw [step, wlRxNoteOverflow, refused]
  | _ => cases producer

end producers

/-! ### The unit producer

The producer writes the slot behind the last unit, which is not the front slot of a queue that holds
something. -/

section queue

variable {units : UnitRun} {queue : RxUnitQueue} {count : Nat}

theorem QueueInv.slotKept (inv : QueueInv units)
    (turns : TurnsThrough units.queue.slotCount units.committed.length) {op : UnitOp}
    (producer : op ≠ .consume) (offset length : Nat) (lent : SlotLent units.queue offset length) :
    SlotLent (units.step op).queue offset length ∧
      (units.step op).queue.storage.readAt offset length =
        units.queue.storage.readAt offset length := by
  have after := inv.step turns op
  cases op with
  | consume => exact absurd rfl producer
  | claim maximumLength =>
    rw [UnitRun.step]
    rcases claim_cases units.queue maximumLength with ⟨same, _⟩ | ⟨_, _, _, _, _, granted⟩
    · rw [same]
      exact ⟨lent, rfl⟩
    · rw [granted]
      exact ⟨lent, rfl⟩
  | abort =>
    rw [UnitRun.step]
    unfold RxUnitQueue.abort
    split
    · exact ⟨lent, rfl⟩
    · exact ⟨lent, rfl⟩
  | store =>
    rw [UnitRun.step]
    unfold RxUnitQueue.claimStore
    split
    case isFalse => exact ⟨lent, rfl⟩
    case isTrue held =>
      obtain ⟨waits, above, below⟩ := lent
      refine ⟨⟨waits, above, below⟩, ?_⟩
      have apart := inv.apart turns held.1 (inv.waiting_iff.mp waits)
      have first : units.queue.readCursor + UInt32.ofNat 0 = units.queue.readCursor :=
        UInt32.add_zero _
      rw [first] at apart
      have disjoint := slots_disjoint units.queue.unitSize apart
      unfold RxUnitQueue.slotOffset at above below ⊢
      exact Bytes.readAt_writeAt_of_disjoint (by omega)
  | commit claim size =>
    obtain ⟨waits, above, below⟩ := lent
    have before := inv.waiting_iff.mp waits
    have grown : 0 < (units.step (.commit claim size)).waiting := by
      rw [UnitRun.waiting] at before ⊢
      have more := (units.step_shape (.commit claim size)).2.2
      have same : (units.step (.commit claim size)).consumed = units.consumed := by
        rw [UnitRun.step]
        split <;> rfl
      omega
    have differ := after.waiting_iff.mpr grown
    rw [UnitRun.step] at differ ⊢
    rcases commit_cases units.queue claim size with ⟨err, _, refused⟩ | ⟨_, _, _, accepted⟩
    · rw [refused]
      cases err <;> first | contradiction | exact ⟨⟨waits, above, below⟩, rfl⟩
    · rw [accepted] at differ ⊢
      exact ⟨⟨differ, above, below⟩, rfl⟩

end queue

/-- The calls and stores of the unit producer. -/
def Op.toUnitOp : Op → Option UnitOp
  | .unitClaim maximumLength => some (.claim maximumLength)
  | .unitStore offset data => some (.store offset data)
  | .unitCommit claim length => some (.commit claim length)
  | .unitAbort claim => some (.abort claim)
  | _ => none

section unitCalls

variable {ctx : WlCtx} {count : Nat} {held : Option HeldEvent}

variable {unitOp : UnitOp}

theorem step_unitOp (initialized : ctx.initialized = true) {op : Op}
    (producer : op.toUnitOp = some unitOp) {units : UnitRun} (same : units.queue = ctx.rx.rxUnits) :
    step ctx op = setUnits ctx (units.step unitOp).queue ∧ unitOp ≠ .consume ∧
      (units.step unitOp).committed.length =
        units.committed.length + if commitsUnit ctx op then 1 else 0 := by
  cases op with
  | unitClaim =>
    cases producer
    refine ⟨?_, by simp, rfl⟩
    rw [UnitRun.step, same, step]
    unfold wlRxUnitClaim
    split
    case isTrue zero =>
      rw [zero]
      rfl
    case isFalse => rfl
  | unitStore =>
    cases producer
    refine ⟨?_, by simp, rfl⟩
    rw [UnitRun.step, same, step]
  | unitAbort =>
    cases producer
    refine ⟨?_, by simp, rfl⟩
    rw [UnitRun.step, same, step, wlRxUnitAbort, if_neg (not_not.mpr initialized)]
  | unitCommit claim length =>
    cases producer
    have call : wlRxUnitCommit ctx claim length =
        (setUnits ctx (ctx.rx.rxUnits.commit claim length).1,
          (ctx.rx.rxUnits.commit claim length).2) := by
      rw [wlRxUnitCommit, if_neg (not_not.mpr initialized)]
    rw [step, commitsUnit, call, UnitRun.step, same]
    rcases commit_cases ctx.rx.rxUnits claim length with ⟨err, _, refused⟩ | ⟨_, _, _, accepted⟩
    · rw [refused]
      cases err <;> first | contradiction | exact ⟨rfl, by simp, rfl⟩
    · rw [accepted]
      exact ⟨rfl, by simp, List.length_append⟩
  | _ => cases producer

theorem step_noUnits {op : Op} (producer : op.toUnitOp = some unitOp)
    (noUnits : ctx.rx.rxUnits = RxUnitQueue.empty) :
    step ctx op = ctx ∧ commitsUnit ctx op = false := by
  have same : setUnits ctx RxUnitQueue.empty = ctx := by
    rw [← noUnits]
    rfl
  cases op with
  | unitClaim maximumLength =>
    refine ⟨?_, rfl⟩
    rw [step]
    unfold wlRxUnitClaim
    split
    · rfl
    case isFalse positive =>
      split
      · rfl
      · have refused : RxUnitQueue.empty.claim maximumLength =
            (RxUnitQueue.empty, .error .notInitialized) := by
          rw [RxUnitQueue.claim, if_neg positive, if_pos (by decide)]
        rw [noUnits, refused]
        exact same
  | unitStore =>
    refine ⟨?_, rfl⟩
    rw [step, noUnits]
    exact same
  | unitAbort =>
    refine ⟨?_, rfl⟩
    rw [step, wlRxUnitAbort, noUnits]
    split
    · rfl
    · exact same
  | unitCommit =>
    rw [step, commitsUnit, wlRxUnitCommit, noUnits]
    split
    · exact ⟨rfl, rfl⟩
    · exact ⟨same, rfl⟩
  | _ => cases producer

theorem unitStep_inbox (initialized : ctx.initialized = true) (inv : Inbox ctx count held)
    (short : count < 2 ^ 32) {op : Op} (producer : op.toUnitOp = some unitOp) :
    KeepsInbox ctx (step ctx op) (count + if commitsUnit ctx op then 1 else 0) held := by
  have queue : UnitsInv ctx.rx.rxUnits count := inv.memories.units
  cases queue with
  | absent noUnits =>
    obtain ⟨same, idle⟩ := step_noUnits producer noUnits
    rw [same, idle]
    exact .same inv
  | present units same counted queue =>
    obtain ⟨call, notConsume, grown⟩ := step_unitOp initialized producer same
    have turns : TurnsThrough units.queue.slotCount units.committed.length := .inr (by omega)
    rw [call]
    refine ⟨⟨⟨inv.memories.stream, inv.memories.packet, ?_, ?_⟩, ?_⟩, .same ctx.slot⟩
    · intro stream
      have empty : ctx.rx.rxUnits = RxUnitQueue.empty := inv.memories.noUnits stream
      have initialized := queue.initialized
      rw [same, empty] at initialized
      exact nomatch initialized
    · exact .present (units.step unitOp) rfl (by rw [grown, counted]) (queue.step turns unitOp)
    · refine inv.out.step (.same ctx.slot) (.ofUnits fun offset length lent => ?_)
      have place : SlotLent units.queue offset length := by
        rw [same]
        exact lent
      have kept := queue.slotKept turns notConsume offset length place
      rw [same] at kept
      exact kept

theorem wlRxUnitQueueInit_cases (storage : Bytes) (unitSize slotCount : Nat) :
    (∃ err, err ≠ .ok ∧ wlRxUnitQueueInit ctx storage unitSize slotCount = (ctx, err)) ∨
      ∃ units, RxUnitQueue.init ctx.config storage unitSize slotCount = .ok units ∧
        wlRxUnitQueueInit ctx storage unitSize slotCount = (setUnits ctx units, .ok) := by
  unfold wlRxUnitQueueInit
  have refused {err : WlErr}
      (failed : RxUnitQueue.init ctx.config storage unitSize slotCount = .error err) :
      err ≠ .ok := by
    rintro rfl
    unfold RxUnitQueue.init at failed
    split at failed
    · exact nomatch failed
    split at failed
    · exact nomatch failed
    split at failed
    · exact nomatch failed
    · exact nomatch failed
  generalize RxUnitQueue.init ctx.config storage unitSize slotCount = result at refused
  split
  · exact .inl ⟨.invalidArg, by decide, rfl⟩
  split
  · exact .inl ⟨.notInitialized, by decide, rfl⟩
  cases result with
  | error err => exact .inl ⟨err, refused rfl, rfl⟩
  | ok units => exact .inr ⟨units, rfl, rfl⟩

theorem queueInit_inbox (inv : Inbox ctx count held) {storage : Bytes} {unitSize slotCount : Nat}
    (first : rebuildsQueue ctx (.unitQueueInit storage unitSize slotCount) = false) :
    KeepsInbox ctx (wlRxUnitQueueInit ctx storage unitSize slotCount).1 count held := by
  rw [rebuildsQueue] at first
  rcases @wlRxUnitQueueInit_cases ctx storage unitSize slotCount with
    ⟨err, failed, refused⟩ | ⟨units, accepted, done⟩
  · rw [refused]
    exact .same inv
  rw [done] at first ⊢
  refine ⟨?_, .same ctx.slot⟩
  have queue : UnitsInv ctx.rx.rxUnits count := inv.memories.units
  cases queue with
  | present old same counted queue =>
    rw [← same, queue.initialized] at first
    exact nomatch first
  | absent noUnits none =>
    refine ⟨⟨inv.memories.stream, inv.memories.packet, ?_, ?_⟩, ?_⟩
    · intro stream
      simp only [RxUnitQueue.init, ite_error_eq_ok] at accepted
      exact absurd stream accepted.2.1
    · exact .present (.start units) rfl none.symm (queueInv_start accepted).1
    · refine inv.out.step (.same ctx.slot) (.ofUnits fun offset length lent => ?_)
      have empty : ctx.rx.store.rxUnits = RxUnitQueue.empty := noUnits
      rw [empty] at lent
      exact absurd rfl lent.1

end unitCalls

/-! ### Release

A release is accepted for the event that is handed out, under its lease, and gives back what the
event borrowed. -/

section release

variable {ctx : WlCtx} {count : Nat} {held : HeldEvent}

theorem UnitsInv.consumed {queue : RxUnitQueue} (inv : UnitsInv queue count)
    (short : count < 2 ^ 32) : UnitsInv queue.consumerConsume.1 count := by
  cases inv with
  | absent same none =>
    rw [same]
    exact .absent rfl none
  | present units same counted inv =>
    have after := inv.step (.inr (by omega)) .consume
    have result : (units.step .consume).queue = queue.consumerConsume.1 ∧
        (units.step .consume).committed = units.committed := by
      rw [UnitRun.step, ← same]
      split
      case h_1 accepted => exact ⟨by rw [accepted], rfl⟩
      case h_2 refused => exact ⟨by rw [refused], rfl⟩
    exact .present _ result.1 (by rw [result.2]; exact counted) after

theorem consumePending_store {envelope : WlEnvelope} {ptr : RxPtr} {length : Nat}
    (inv : StoreInv envelope ctx.rx.store count) (short : count < 2 ^ 32)
    (lent : LentAt ctx.rx.store ptr length) :
    StoreInv envelope (consumePending ctx).rx.store count ∧
      (consumePending ctx).rx.rxPendingConsume = 0 ∧ (consumePending ctx).slot = ctx.slot := by
  unfold consumePending
  rcases ptr with ⟨source, _⟩
  cases source with
  | none => exact lent.elim
  | fallback =>
    have nothing : ctx.rx.rxPendingConsume = 0 := lent
    rw [if_pos nothing]
    exact ⟨inv, nothing, rfl⟩
  | unit =>
    have source : ctx.rx.rxCandidateSource = .unit := lent.1
    have pending : ctx.rx.rxPendingConsume = 1 := lent.2.1
    rw [if_neg (by rw [pending]; decide), if_pos source]
    have packet : envelope ≠ .cobsStream := by
      intro stream
      have waits := lent.2.2.1
      rw [inv.noUnits stream] at waits
      exact waits rfl
    exact ⟨⟨fun stream => absurd stream packet, inv.packet, fun stream => absurd stream packet,
      inv.units.consumed short⟩, rfl, rfl⟩
  | ring =>
    have source : ctx.rx.rxCandidateSource = .ring := lent.1
    obtain ⟨positive, enough, -⟩ := lent.2
    have positive : 0 < ctx.rx.rxPendingConsume := positive
    rw [if_neg (Nat.ne_of_gt positive), if_neg (by rw [source]; decide)]
    refine ⟨⟨fun stream => ?_, fun packet => ?_, inv.noUnits, inv.units⟩, rfl, rfl⟩
    · obtain ⟨_, queue, -⟩ := inv.stream stream
      rw [queue.readable_eq] at enough
      exact ⟨_, consumerConsume_inv queue enough,
        fun _ => consumerConsume_findInv queue enough⟩
    · have noRing : ctx.rx.rxRing = RxRing.empty := inv.packet packet
      have nothing : ctx.rx.store.rxRing.readable = 0 := by
        show ctx.rx.rxRing.readable = 0
        rw [noRing]
        rfl
      omega

theorem release_inbox (inv : Inbox ctx count (some held)) (short : count < 2 ^ 32) (initialized : ctx.initialized = true) {type : WlEventType}
    (receive : type.isRx = true) (leased : ctx.slot.rxEventLeased = true) :
    InboxInv ctx.config.envelope (wlEventRelease ctx type ctx.slot.rxEventGeneration).slot
        (wlEventRelease ctx type ctx.slot.rxEventGeneration).rx.store count none := by
  have out : Outstanding ctx.slot ctx.rx.store held := inv.out
  obtain ⟨ptr, -, lent, -⟩ := out.lent
  have free : (ctx.slot.hasEvent && ctx.slot.event.type.isRx) = false := by
    rcases out.place with ⟨-, -, unleased⟩ | ⟨-, free⟩
    · exact nomatch unleased.symm.trans leased
    · exact free
  obtain ⟨memories, pending, slot⟩ := @consumePending_store
    { ctx with
      slot := { ctx.slot with rxEventLeased := false }
      resourceGeneration := ctx.resourceGeneration + 1 }
    count _ ptr _ inv.memories short lent
  rw [wlEventRelease, if_pos ⟨initialized, receive, leased, rfl⟩]
  refine ⟨{ memories with }, ?_⟩
  refine ⟨?_, ?_, pending⟩
  · rw [slot]
    exact free
  · rw [slot]

/-- Any other release changes nothing, and is not a release of the outstanding event either. -/
theorem release_ignored {type : WlEventType} {lease : UInt32}
    (ignored : ¬ (ctx.initialized ∧ type.isRx ∧ ctx.slot.rxEventLeased ∧
      lease = ctx.slot.rxEventGeneration)) (initialized : ctx.initialized = true)
    (out : Outstanding ctx.slot ctx.rx.store held) :
    wlEventRelease ctx type lease = ctx ∧ releases ctx held (.release type lease) = false := by
  refine ⟨if_neg ignored, ?_⟩
  rw [releases, slotRxEvents, holdsRxEvent]
  rcases out.place with ⟨taken, event, -⟩ | ⟨leased, _⟩
  · rw [taken, event, out.kind]
    simp
  · simp only [initialized, leased, true_and, not_and] at ignored
    cases receive : type.isRx with
    | false => simp
    | true =>
      have differ := ignored receive
      rw [← out.lease] at differ
      simp [Ne.symm differ]

end release

/-! ### The owner between turns

The ring is emptied only while nothing in it is lent, and the look for input touches the search
cache only. -/

section owner

variable {ctx : WlCtx} {count : Nat} {held : Option HeldEvent}

theorem recoverReset_inbox (inv : Inbox ctx count held)
    (delivered : ctx.config.envelope = .cobsStream → holdsRxEvent ctx = false) :
    KeepsInbox ctx (wlFeedRecoverReset ctx).1 count held := by
  unfold wlFeedRecoverReset
  split
  · exact .same inv
  case h_2 open_ =>
  split
  · exact .same inv
  case isFalse unleased =>
    have stream : ctx.config.envelope = .cobsStream := by
      unfold streamGuard at open_
      by_contra packet
      split at open_
      · exact nomatch open_
      · exact nomatch open_
    have unleased : ctx.slot.rxEventLeased = false := eq_false_of_ne_true unleased
    obtain ⟨queued, queue, -⟩ := inv.memories.stream stream
    have all : ctx.rx.rxRing.readable ≤ queued.length := Nat.le_of_eq queue.readable_eq
    refine ⟨⟨inv.memories.onRing stream (consumerConsume_inv queue all)
      (fun _ => consumerConsume_findInv queue all) rfl, ?_⟩, .same ctx.slot⟩
    cases held with
    | none => exact ⟨inv.out.free, inv.out.unleased, inv.out.pending⟩
    | some held =>
      have out : Outstanding ctx.slot ctx.rx.store held := inv.out
      have empty := delivered stream
      rcases out.place with ⟨taken, event, -⟩ | ⟨leased, -⟩
      · rw [holdsRxEvent, taken, event, out.kind] at empty
        exact nomatch empty
      · exact nomatch unleased.symm.trans leased

theorem readiness_inbox (inv : Inbox ctx count held) (nowMs : UInt32) :
    KeepsInbox ctx (wlLinkGetReadiness ctx nowMs).1 count held := by
  have looked : KeepsInbox ctx (wlRxRunnable ctx).1 count held := by
    unfold wlRxRunnable
    split
    · exact .same inv
    split
    case isFalse => exact .same inv
    case isTrue stream =>
      split
      · exact .same inv
      obtain ⟨_, queue, cache⟩ := inv.memories.stream stream
      have found : InboxInv ctx.config.envelope ctx.slot
          { ctx.rx.store with rxRing := (ctx.rx.rxRing.consumerFind 0).1 } count held :=
        ⟨inv.memories.onRing stream (consumerFind_inv queue 0)
          (fun zero => (consumerFind_eq queue (cache zero) 0).2) rfl, inv.out.step (.same ctx.slot)
          (.ofRing fun offset length lent => lent.ofCore (core_consumerFind _ 0))⟩
      split
      case h_1 ring _ same =>
        rw [same] at found
        exact ⟨found, .same ctx.slot⟩
      case h_2 ring _ same =>
        rw [same] at found
        exact ⟨found, .same ctx.slot⟩
  unfold wlLinkGetReadiness
  split
  · exact .same inv
  dsimp only
  split
  · exact .same inv
  · exact looked

end owner

/-! ### Spans of the producers -/

theorem RingLent.apart {queued : Bytes} (lent : RingLent ring pending offset length)
    (inv : RingInv ring.core queued) {size position : Nat} (span : FreeSpan ring.core size)
    (inside : offset ≤ position ∧ position < offset + length) :
    ¬ (ring.writeCursor % ring.capacity ≤ position ∧
      position < ring.writeCursor % ring.capacity + size) := by
  rintro ⟨above, _⟩
  obtain ⟨-, enough, _, _, place, _⟩ := lent
  have behind : ring.writeCursor % ring.capacity =
    (ring.readCursor + ring.core.used) % ring.capacity := inv.behind
  have room : ring.core.used + size ≤ ring.capacity := span.room
  rw [inv.readable_eq, inv.length_queued] at enough
  -- the same place, counted from the read cursor in both ways
  obtain ⟨ahead, isAhead⟩ := Nat.exists_eq_add_of_le above
  obtain ⟨index, isIndex⟩ := Nat.exists_eq_add_of_le
    (show ring.readCursor % ring.capacity ≤ position by omega)
  have lentPlace : (ring.readCursor + index) % ring.capacity = position := by
    rw [Nat.add_mod, Nat.mod_eq_of_lt (show index < ring.capacity by omega), ← isIndex,
      Nat.mod_eq_of_lt (by omega)]
  have freePlace : (ring.readCursor + ring.core.used + ahead) % ring.capacity = position := by
    rw [Nat.add_mod, ← behind, Nat.mod_eq_of_lt (show ahead < ring.capacity by omega), ← isAhead,
      Nat.mod_eq_of_lt (by omega)]
  refine mod_ne_of_sub_lt ?_ ?_ (lentPlace.trans freePlace.symm)
  · omega
  · omega

/-- No producer holds a byte of a lent stretch. -/
theorem lent_apart {ctx : WlCtx} {envelope : WlEnvelope} {count : Nat} {ptr : RxPtr}
    (inv : StoreInv envelope ctx.rx.store count) (short : count < 2 ^ 32)
    (lent : LentAt ctx.rx.store ptr length) {span : RxSpan} (held : span ∈ producerSpans ctx)
    (same : span.source = ptr.source) {position : Nat}
    (inside : ptr.offset ≤ position ∧ position < ptr.offset + length) :
    ¬ (span.offset ≤ position ∧ position < span.offset + span.length) := by
  -- a packet context has nothing in its ring, so a stretch lent there is one of a stream
  have ringSpan (onRing : ptr.source = .ring) :
      RingLent ctx.rx.rxRing ctx.rx.rxPendingConsume ptr.offset length ∧
        ∃ queued, RingInv ctx.rx.rxRing.core queued := by
    rcases ptr with ⟨_, offset⟩
    cases onRing
    refine ⟨lent.2, ?_⟩
    by_cases stream : envelope = .cobsStream
    · obtain ⟨queued, queue, -⟩ := inv.stream stream
      exact ⟨queued, queue⟩
    · obtain ⟨positive, enough, -⟩ := lent.2
      rw [inv.packet stream] at enough
      exact absurd enough (Nat.not_le_of_gt positive)
  unfold producerSpans at held
  simp only [List.mem_append] at held
  rcases held with (reserved | claimed) | unit
  · split at reserved
    case isFalse => exact nomatch reserved
    case isTrue active =>
      rw [List.mem_singleton] at reserved
      subst reserved
      obtain ⟨place, _, queue⟩ := ringSpan same.symm
      obtain ⟨cursor, free⟩ := queue.spans.reserved active
      have physical : cursorPhysical ctx.rx.rxRing.capacity ctx.rx.rxRing.reservationCursor =
          ctx.rx.rxRing.writeCursor % ctx.rx.rxRing.capacity := by
        rw [show ctx.rx.rxRing.reservationCursor = ctx.rx.rxRing.writeCursor from cursor]
        exact cursorPhysical_eq_mod queue.shape.write
      rw [physical]
      exact place.apart queue free inside
  · split at claimed
    case isFalse => exact nomatch claimed
    case isTrue active =>
      rw [List.mem_singleton] at claimed
      subst claimed
      obtain ⟨place, _, queue⟩ := ringSpan same.symm
      have claim := queue.spans.claimed active
      dsimp only
      rintro ⟨above, below⟩
      have unfinished : ctx.rx.rxRing.dmaClaim.published < ctx.rx.rxRing.dmaClaim.length := by omega
      rw [claim.physical unfinished] at above below
      exact place.apart queue (claim.free queue.shape.positive) inside ⟨above, below⟩
  · split at unit
    case isFalse => exact nomatch unit
    case isTrue active =>
      rw [List.mem_singleton] at unit
      subst unit
      rcases ptr with ⟨_, offset⟩
      cases same
      -- in the unit queue the reader's slot is not the one being filled
      obtain ⟨-, -, waits, above, below⟩ := lent
      have queue : UnitsInv ctx.rx.rxUnits count := inv.units
      cases queue with
      | absent noUnits =>
        rw [noUnits] at active
        exact nomatch active
      | present units same counted queue =>
        have waits : ctx.rx.rxUnits.readCursor ≠ ctx.rx.rxUnits.writeCursor := waits
        have above : ctx.rx.rxUnits.slotOffset ctx.rx.rxUnits.readCursor ≤ offset := above
        have below : offset + length ≤
          ctx.rx.rxUnits.slotOffset ctx.rx.rxUnits.readCursor + ctx.rx.rxUnits.unitSize := below
        rw [← same] at waits above below active
        have apart := queue.apart (.inr (by omega)) active (queue.waiting_iff.mp waits)
        have first : units.queue.readCursor + UInt32.ofNat 0 = units.queue.readCursor :=
          UInt32.add_zero _
        rw [first] at apart
        have disjoint := slots_disjoint units.queue.unitSize apart
        unfold RxUnitQueue.slotOffset at above below ⊢
        dsimp only at inside ⊢
        rw [← same]
        omega

end Wirelink
