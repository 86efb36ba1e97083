/-
Module: Wirelink.Proofs.RxLease
Purpose: Received payloads stay put. The receive loops publish an event only while nothing is
  outstanding, so over a whole run at most one event is, and its payload keeps its place and its
  bytes until it is released.
Trusted boundary: none
-/
import Wirelink.Proofs.RxLent
import Wirelink.Proofs.Reach
import Mathlib.Data.List.Nodup

namespace Wirelink

/-! ### What is outstanding

A step of the owner leaves what is outstanding alone, or publishes a first event under a new lease.
TX events may be posted before and after it. -/

/-- What a step of the owner does to what is outstanding: nothing, or a first event goes into the
slot under a new lease. -/
inductive InboxMove (envelope : WlEnvelope) (slot after : EventSlot) (store : RxStore) (count : Nat) :
    Option HeldEvent → Option HeldEvent → Prop where
  | kept {held : Option HeldEvent} (inv : InboxInv envelope after store count held)
      (step : SlotStep slot after) : InboxMove envelope slot after store count held held
  | pushed {held : HeldEvent} (inv : InboxInv envelope after store count (some held))
      (free : slot.hasEvent = false) (taken : after.hasEvent = true)
      (event : after.event = held.event)
      (generation : after.rxEventGeneration = bumpNonzero slot.rxEventGeneration) :
      InboxMove envelope slot after store count none (some held)

/-- The inbox moves from one context to the next. -/
def InboxMoves (envelope : WlEnvelope) (ctx after : WlCtx) (count : Nat) (held : Option HeldEvent) :
    Prop :=
  ∃ later, InboxMove envelope ctx.slot after.slot after.rx.store count held later

section moves

variable {envelope : WlEnvelope} {slot middle after : EventSlot} {store : RxStore} {count : Nat}
  {held later : Option HeldEvent}

theorem InboxMove.inv (move : InboxMove envelope slot after store count held later) :
    InboxInv envelope after store count later := by
  cases move with
  | kept inv | pushed inv => exact inv

theorem InboxMove.afterStep (move : InboxMove envelope middle after store count held later)
    (step : SlotStep slot middle) : InboxMove envelope slot after store count held later := by
  cases move with
  | kept inv second => exact .kept inv (step.trans second)
  | pushed inv free taken event generation =>
    obtain ⟨-, -, same, kept⟩ := step.rx
    refine .pushed inv ?_ taken event (by rw [generation, same])
    by_contra full
    rw [Bool.not_eq_false] at full
    rw [kept full, full] at free
    exact nomatch free

theorem InboxMove.thenStep (move : InboxMove envelope slot middle store count held later)
    (step : SlotStep middle after) : InboxMove envelope slot after store count held later := by
  cases move with
  | kept inv first => exact .kept (inv.slotStep step) (first.trans step)
  | pushed inv free taken event generation =>
    obtain ⟨-, -, -, kept⟩ := step.rx
    rw [kept taken]
    exact .pushed inv free taken event generation

end moves

/-! ### Units of packet links

The unit in front of the queue stays in its slot until the event that was parsed from it is
released. -/

section units

variable {ctx : WlCtx} {envelope : WlEnvelope} {count : Nat}

theorem UnitsInv.peek {queue : RxUnitQueue} (inv : UnitsInv queue count) (short : count < 2 ^ 32)
    {offset length : Nat} (front : queue.consumerPeek = some (offset, length)) :
    queue.readCursor ≠ queue.writeCursor ∧ offset = queue.slotOffset queue.readCursor ∧
      length ≤ queue.unitSize := by
  unfold RxUnitQueue.consumerPeek at front
  split at front
  · exact nomatch front
  case isFalse waits =>
    rw [not_or] at waits
    cases front
    refine ⟨waits.2, rfl, ?_⟩
    cases inv with
    | absent same =>
      rw [same]
      exact Nat.le_refl 0
    | present units same counted inv =>
      subst same
      have waiting := inv.waiting_iff.mp waits.2
      rw [UnitRun.waiting] at waiting
      obtain ⟨-, fits, size, -⟩ := inv.held units.consumed _ (Nat.le_refl _)
        (List.getElem?_eq_getElem (show units.consumed < units.committed.length by omega))
      rw [inv.read, RxUnitQueue.slot_ofNat (.inr (by omega)) inv.order,
        List.getD_eq_getElem?_getD, size]
      exact fits

theorem RxPushed.moves {view : WlFrameView} {base : RxPtr} {slot after : EventSlot}
    {store : RxStore} (pushed : RxPushed view base slot after)
    (memories : StoreInv envelope store count)
    (lent : LentAt store { base with offset := base.offset + view.payloadOffset }
      view.payload.length) : ∃ held, InboxMove envelope slot after store count none held := by
  refine ⟨some
    { event := after.event
      bytes := store.bytesAt { base with offset := base.offset + view.payloadOffset }
        view.payload.length }, .pushed ⟨memories, pushed.kind, pushed.lease,
      .inl ⟨pushed.taken, rfl, pushed.leased⟩, _, pushed.payload, ?_, ?_⟩ pushed.free pushed.taken
      rfl pushed.generation⟩
  · rw [pushed.length]
    exact lent
  · rw [pushed.length]

theorem holdsRxEvent_pushed {view : WlFrameView} {base : RxPtr} {slot : EventSlot} {after : WlCtx}
    (pushed : RxPushed view base slot after.slot) : holdsRxEvent after = true := by
  rw [holdsRxEvent, pushed.taken, pushed.kind]
  rfl

theorem holdsRxEvent_slotStep {slot : EventSlot} {after : WlCtx} (step : SlotStep slot after.slot)
    (free : (slot.hasEvent && slot.event.type.isRx) = false) : holdsRxEvent after = false :=
  step.rx.1.trans free

/-- The loop over the queue, by induction on the turns it may still take. -/
theorem processUnitsLoop_inbox (fuel : Nat) (short : count < 2 ^ 32) (ctx : WlCtx)
    (packet : envelope ≠ .cobsStream)
    (inv : InboxInv envelope ctx.slot ctx.rx.store count none) :
    InboxMoves envelope ctx (processUnitsLoop fuel ctx) count none := by
  induction fuel generalizing ctx with
  | zero => exact ⟨none, .kept inv (.same ctx.slot)⟩
  | succ fuel ih =>
    rw [processUnitsLoop]
    split
    · exact ⟨none, .kept inv (.same ctx.slot)⟩
    case isFalse open_ =>
    split
    · exact ⟨none, .kept inv (.same ctx.slot)⟩
    case h_2 offset length front =>
    split
    · exact ⟨none, .kept inv (.same ctx.slot)⟩
    dsimp only
    have nothing : NothingOut ctx.slot ctx.rx.store := inv.out
    have units : UnitsInv ctx.rx.rxUnits count := inv.memories.units
    obtain ⟨waits, _⟩ := units.peek short front
    obtain ⟨_, start, within, routed⟩ := @wlFeedUnitRaw_routed (setCandidate ctx .unit)
      { source := .unit, offset := offset } (ctx.rx.rxUnits.storage.readAt offset length)
    generalize (wlFeedUnitRaw (setCandidate ctx .unit)
      (ctx.rx.rxUnits.storage.readAt offset length) { source := .unit, offset := offset }).1 =
        after at routed
    have store : after.rx.store = { ctx.rx.store with rxCandidateSource := .unit } := routed.store
    rcases routed.slot with step | ⟨view, parsed, pushed⟩
    · -- nothing received in it: the unit is dropped
      rw [if_neg (by rw [holdsRxEvent_slotStep step nothing.free]; decide)]
      have dropped : InboxInv envelope (setCandidate (consumeUnit after) .none).slot
          (setCandidate (consumeUnit after) .none).rx.store count none := by
        have memory : (setCandidate (consumeUnit after) .none).rx.store =
            { ctx.rx.store with
              rxUnits := ctx.rx.rxUnits.consumerConsume.1, rxCandidateSource := .none } :=
          congrArg (fun store : RxStore =>
            { store with rxUnits := store.rxUnits.consumerConsume.1, rxCandidateSource := .none })
            store
        rw [memory]
        exact ⟨⟨fun stream => absurd stream packet, inv.memories.packet,
          fun stream => absurd stream packet, units.consumed short⟩,
          step.rx.1.trans nothing.free, step.rx.2.1.trans nothing.unleased, nothing.pending⟩
      have turn : SlotStep ctx.slot (setCandidate (consumeUnit after) .none).slot := step
      split
      · exact ⟨none, .kept dropped turn⟩
      · obtain ⟨held, move⟩ := ih _ dropped
        exact ⟨held, move.afterStep turn⟩
    · -- the event points into the slot, which stays until the release
      obtain ⟨inside, -⟩ := within view parsed
      rw [if_pos (holdsRxEvent_pushed pushed)]
      have memory : (setPendingConsume after 1).rx.store =
          { ctx.rx.store with rxCandidateSource := .unit, rxPendingConsume := 1 } :=
        congrArg (fun store : RxStore => { store with rxPendingConsume := 1 }) store
      unfold InboxMoves
      rw [memory]
      have lent : LentAt { ctx.rx.store with rxCandidateSource := .unit, rxPendingConsume := 1 }
          { source := .unit, offset := offset + start + view.payloadOffset }
          view.payload.length := by
        rw [Bytes.length_readAt] at inside
        refine ⟨rfl, rfl, waits, ?_, ?_⟩
        · show ctx.rx.rxUnits.slotOffset ctx.rx.rxUnits.readCursor ≤
            offset + start + view.payloadOffset
          omega
        · show offset + start + view.payloadOffset + view.payload.length ≤
            ctx.rx.rxUnits.slotOffset ctx.rx.rxUnits.readCursor + ctx.rx.rxUnits.unitSize
          omega
      exact pushed.moves ⟨fun stream => absurd stream packet, inv.memories.packet,
        fun stream => absurd stream packet, units⟩ lent

end units

/-! ### Byte streams

A segment is decoded over its own bytes or in the fallback buffer. The loop stops at the first event
it publishes, so that neither place is used again before the release. -/

section stream

variable {envelope : WlEnvelope} {slot later : EventSlot} {store after : RxStore} {count : Nat}

theorem InboxInv.idle (inv : InboxInv envelope slot store count none)
    (stream : envelope = .cobsStream) {queued : Bytes} (queue : RingInv after.rxRing.core queued)
    (cache : FindInv after.rxRing queued) (units : after.rxUnits = store.rxUnits)
    (pending : after.rxPendingConsume = 0) (step : SlotStep slot later) :
    InboxInv envelope later after count none := by
  have nothing : NothingOut slot store := inv.out
  exact ⟨inv.memories.onRing stream queue (fun _ => cache) units, step.rx.1.trans nothing.free,
    step.rx.2.1.trans nothing.unleased, pending⟩

theorem InboxInv.consumeFront (inv : InboxInv envelope slot store count none)
    (stream : envelope = .cobsStream) {queued : Bytes} (queue : RingInv after.rxRing.core queued)
    {length : Nat} (enough : length ≤ queued.length) (units : after.rxUnits = store.rxUnits)
    (pending : after.rxPendingConsume = 0) (step : SlotStep slot later) (source : WlRxSource) :
    InboxInv envelope later
      { after with
        rxRing := (after.rxRing.consumerConsume length).1, rxCandidateSource := source }
      count none :=
  inv.idle stream (consumerConsume_inv queue enough) (consumerConsume_findInv queue enough) units
    pending step

theorem SegmentPlaced.cases {rx rx' : RxState} {segment rest buffer : Bytes} {base : RxPtr}
    (placed : SegmentPlaced rx segment rest buffer rx' base)
    (inv : RingInv rx.rxRing.core (segment ++ 0 :: rest)) :
    rx'.rxUnits = rx.rxUnits ∧ rx'.rxPendingConsume = rx.rxPendingConsume ∧
      base.source = rx'.rxCandidateSource ∧
      ∃ front, RingInv rx'.rxRing.core (front ++ 0 :: rest) ∧
        (base.source = .ring ∧ front = buffer ∧
            base.offset = rx'.rxRing.readCursor % rx'.rxRing.capacity ∧
            base.offset + segment.length ≤ rx'.rxRing.capacity ∨
          base.source = .fallback ∧ front = segment) := by
  cases placed with
  | ring fits queue => exact ⟨rfl, rfl, rfl, buffer, queue, .inl ⟨rfl, rfl, rfl, fits⟩⟩
  | fallback => exact ⟨rfl, rfl, rfl, segment, inv, .inr ⟨rfl, rfl⟩⟩

/-- The event of a segment points into its decoded bytes, which stay until the release. -/
theorem segment_published {rx : RxState} {rest front segment : Bytes} {base : RxPtr}
    {next : WlCtx} {view : WlFrameView} (inv : InboxInv envelope slot store count none)
    (stream : envelope = .cobsStream) (queue : RingInv rx.rxRing.core (front ++ 0 :: rest))
    (size : front.length = segment.length) (units : rx.rxUnits = store.rxUnits)
    (source : base.source = rx.rxCandidateSource)
    (place : base.source = .ring ∧ base.offset = rx.rxRing.readCursor % rx.rxRing.capacity ∧
        base.offset + segment.length ≤ rx.rxRing.capacity ∨ base.source = .fallback)
    (inside : view.payloadOffset + view.payload.length ≤ segment.length)
    (memory : next.rx.store = rx.store) (pushed : RxPushed view base slot next.slot) :
    ∃ held, InboxMove envelope slot next.slot
      (if next.rx.rxCandidateSource = .ring then setPendingConsume next (segment.length + 1)
        else setPendingConsume (consumeRing next (segment.length + 1)) 0).rx.store count none held := by
  have candidate : next.rx.rxCandidateSource = rx.rxCandidateSource :=
    congrArg RxStore.rxCandidateSource memory
  have enough : segment.length + 1 ≤ (front ++ 0 :: rest).length := by
    rw [List.length_append, List.length_cons, size]
    omega
  rcases base with ⟨_, offset⟩
  rcases place with ⟨onRing, start, fits⟩ | onFallback
  · cases onRing
    rw [if_pos (candidate.trans source.symm)]
    have same : (setPendingConsume next (segment.length + 1)).rx.store =
        { rx.store with rxPendingConsume := segment.length + 1 } :=
      congrArg (fun store : RxStore => { store with rxPendingConsume := segment.length + 1 }) memory
    rw [same]
    have lent : LentAt { rx.store with rxPendingConsume := segment.length + 1 }
        { source := .ring, offset := offset + view.payloadOffset } view.payload.length := by
      refine ⟨source.symm, Nat.succ_pos _, ?_, ?_, view.payloadOffset, ?_, ?_⟩
      · show segment.length + 1 ≤ rx.rxRing.readable
        rw [queue.readable_eq]
        exact enough
      · show offset + view.payloadOffset + view.payload.length ≤ rx.rxRing.capacity
        dsimp only at fits
        omega
      · exact congrArg (· + view.payloadOffset) start
      · show view.payloadOffset + view.payload.length ≤ segment.length + 1
        omega
    exact pushed.moves (inv.memories.onRing stream queue (nofun) units) lent
  · cases onFallback
    rw [if_neg (by rw [candidate, ← source]; exact nofun)]
    have same : (setPendingConsume (consumeRing next (segment.length + 1)) 0).rx.store =
        { rx.store with
          rxRing := (rx.rxRing.consumerConsume (segment.length + 1)).1, rxPendingConsume := 0 } :=
      congrArg (fun store : RxStore =>
        { store with
          rxRing := (store.rxRing.consumerConsume (segment.length + 1)).1
          rxPendingConsume := 0 }) memory
    rw [same]
    exact pushed.moves (inv.memories.onRing stream (consumerConsume_inv queue enough)
      (fun _ => consumerConsume_findInv queue enough) units) rfl

/-- The loop over the ring, by induction on the turns it may still take. -/
theorem processStreamLoop_inbox (fuel : Nat) (ctx : WlCtx) (stream : envelope = .cobsStream)
    (inv : InboxInv envelope ctx.slot ctx.rx.store count none) :
    InboxMoves envelope ctx (processStreamLoop fuel ctx) count none := by
  induction fuel generalizing ctx with
  | zero => exact ⟨none, .kept inv (.same ctx.slot)⟩
  | succ fuel ih =>
    have nothing : NothingOut ctx.slot ctx.rx.store := inv.out
    obtain ⟨queued, queue, cache⟩ := inv.memories.stream stream
    obtain ⟨queue, cache, found⟩ := consumerFind_split queue (cache nothing.pending)
    rw [processStreamLoop]
    split
    · exact ⟨none, .kept inv (.same ctx.slot)⟩
    dsimp only
    have searched : InboxInv envelope ctx.slot
        { ctx.rx.store with rxRing := (ctx.rx.rxRing.consumerFind 0).1 } count none :=
      inv.idle stream queue cache rfl nothing.pending (.same ctx.slot)
    change RingInv (ctx.rx.rxRing.consumerFind 0).1.core queued at queue
    change (ctx.rx.rxRing.consumerFind 0).2 = _ ∧ _ ∨ ∃ segment rest, _ ∧ _ ∧
      (ctx.rx.rxRing.consumerFind 0).2 = _ at found
    generalize ctx.rx.rxRing.consumerFind 0 = search at queue cache found searched
    rcases search with ⟨ring, _⟩
    rcases found with ⟨none', -⟩ | ⟨segment, rest, split', -, isFound⟩
    · rw [none']
      exact ⟨none, .kept searched (.same ctx.slot)⟩
    subst split'
    rw [isFound]
    dsimp only
    split
    case isTrue empty =>
      -- an empty segment
      have skipped := searched.consumeFront stream queue (show 1 ≤ (segment ++ 0 :: rest).length by simp; omega) rfl
        nothing.pending (.same ctx.slot) ctx.rx.rxCandidateSource
      exact ih (consumeRing { ctx with rx := { ctx.rx with rxRing := ring } } 1) skipped
    case isFalse =>
      have enough (front : Bytes) (size : front.length = segment.length) :
          segment.length + 1 ≤ (front ++ 0 :: rest).length := by
        rw [List.length_append, List.length_cons, size]
        omega
      rcases @parseCandidate_placed { ctx with rx := { ctx.rx with rxRing := ring } } segment rest queue
        with ⟨givenUp, -⟩ | ⟨rx, base, parsed, placed⟩
      · rw [givenUp]
        have skipped := searched.consumeFront stream queue (enough segment rfl) rfl nothing.pending
          (.same ctx.slot) ctx.rx.rxCandidateSource
        exact ih (consumeRing (countOverflow { ctx with rx := { ctx.rx with rxRing := ring } })
          (segment.length + 1)) skipped
      · rw [parsed]
        have size := (wlLinkDecodeStream_within ctx.config segment).1
        have within := (wlLinkDecodeStream_within ctx.config segment).2
        obtain ⟨units, pending, source, front, queue, place⟩ := placed.cases queue
        have frontSize : front.length = segment.length := by
          rcases place with ⟨-, same, -, -⟩ | ⟨-, same⟩
          · rw [same]
            exact size
          · rw [same]
        have routed := @wlFeedParseStream_routed
          { ctx with rx := rx } base (wlLinkDecodeStream ctx.config segment).2
        dsimp only
        generalize (wlFeedParseStream { ctx with rx := rx }
          (wlLinkDecodeStream ctx.config segment).2 base).1 = next at routed
        have memory : next.rx.store = rx.store := routed.store
        rcases routed.slot with step | ⟨view, isView, pushed⟩
        · -- nothing received in it: the segment is dropped
          rw [if_neg (by rw [holdsRxEvent_slotStep step nothing.free]; decide)]
          have dropped : InboxInv envelope
              (setCandidate (consumeRing next (segment.length + 1)) .none).slot
              (setCandidate (consumeRing next (segment.length + 1)) .none).rx.store count none := by
            have same : (setCandidate (consumeRing next (segment.length + 1)) .none).rx.store =
                { rx.store with
                  rxRing := (rx.rxRing.consumerConsume (segment.length + 1)).1
                  rxCandidateSource := .none } :=
              congrArg (fun store : RxStore =>
                { store with
                  rxRing := (store.rxRing.consumerConsume (segment.length + 1)).1
                  rxCandidateSource := .none }) memory
            rw [same]
            exact @InboxInv.consumeFront _ _ _ _ rx.store _ searched stream _ queue _
              (enough front frontSize) units (pending.trans nothing.pending) step .none
          have turn : SlotStep ctx.slot
            (setCandidate (consumeRing next (segment.length + 1)) .none).slot := step
          split
          · exact ⟨none, .kept dropped turn⟩
          · obtain ⟨held, move⟩ := ih _ dropped
            exact ⟨held, move.afterStep turn⟩
        · -- the event points into the decoded segment
          obtain ⟨inside, -⟩ := within view isView
          rw [size] at inside
          rw [if_pos (holdsRxEvent_pushed pushed)]
          have published := segment_published searched stream queue frontSize units source
            (place.imp (fun onRing => ⟨onRing.1, onRing.2.2⟩) And.left) inside memory pushed
          split
          case isTrue onRing =>
            rw [if_pos onRing] at published
            exact published
          case isFalse elsewhere =>
            rw [if_neg elsewhere] at published
            exact published

theorem recoverOverflow_inbox {ctx : WlCtx} (stream : envelope = .cobsStream)
    (inv : InboxInv envelope ctx.slot ctx.rx.store count none) :
    InboxInv envelope (recoverOverflow ctx).slot (recoverOverflow ctx).rx.store count none ∧
      (recoverOverflow ctx).slot = ctx.slot := by
  have nothing : NothingOut ctx.slot ctx.rx.store := inv.out
  obtain ⟨queued, queue, cache⟩ := inv.memories.stream stream
  have taken : RingInv ctx.rx.rxRing.takeOverflow.1.core queued := takeOverflow_inv queue
  have cached : FindInv ctx.rx.rxRing.takeOverflow.1 queued := by
    unfold RxRing.takeOverflow
    split
    · exact cache nothing.pending
    · exact cache nothing.pending
  unfold recoverOverflow
  generalize ctx.rx.rxRing.takeOverflow = answer at taken cached
  rcases answer with ⟨ring, _⟩
  dsimp only at taken cached ⊢
  have searched : InboxInv envelope ctx.slot { ctx.rx.store with rxRing := ring } count none :=
    inv.idle stream taken cached rfl nothing.pending (.same ctx.slot)
  split
  · exact ⟨searched, rfl⟩
  · refine ⟨?_, rfl⟩
    exact searched.consumeFront stream taken (Nat.le_of_eq taken.readable_eq) rfl nothing.pending
      (.same ctx.slot) ctx.rx.rxCandidateSource

end stream

/-! ### The owner's turn

Input is parsed only while nothing is outstanding. At the end of the turn the event in the slot is
handed out, a received one under its lease. -/

section turn

variable {ctx : WlCtx} {count : Nat} {held : Option HeldEvent}

theorem wlLinkProcessRx_inbox (short : count < 2 ^ 32) (inv : Inbox ctx count none) :
    InboxMoves ctx.config.envelope ctx (wlLinkProcessRx ctx) count none := by
  unfold wlLinkProcessRx
  split
  case isTrue packet =>
    unfold wlFrameProcessUnits
    split
    · exact ⟨none, .kept inv (.same ctx.slot)⟩
    · exact processUnitsLoop_inbox _ short ctx packet inv
  case isFalse stream =>
    rw [not_not] at stream
    obtain ⟨recovered, same⟩ := recoverOverflow_inbox stream inv
    obtain ⟨later, move⟩ := processStreamLoop_inbox
      ((recoverOverflow ctx).rx.rxRing.readable + 1) (recoverOverflow ctx) stream recovered
    rw [same] at move
    exact ⟨later, move⟩

theorem pollReceive_inbox (short : count < 2 ^ 32) (inv : Inbox ctx count held) :
    InboxMoves ctx.config.envelope ctx (pollReceive ctx) count held := by
  unfold pollReceive
  split
  case isFalse => exact ⟨held, .kept inv (.same ctx.slot)⟩
  case isTrue free =>
    obtain ⟨-, empty, unleased⟩ := free
    cases held with
    | none => exact wlLinkProcessRx_inbox short inv
    | some held =>
      have out : Outstanding ctx.slot ctx.rx.store held := inv.out
      rcases out.place with ⟨taken, -, -⟩ | ⟨leased, -⟩
      · exact absurd taken empty
      · exact absurd leased unleased

theorem wlFrameReceiveUnit_inbox (packet : ctx.config.envelope ≠ .cobsStream)
    (inv : Inbox ctx count held) (unit : Bytes) :
    InboxMoves ctx.config.envelope ctx (wlFrameReceiveUnit ctx unit).1 count held := by
  unfold wlFrameReceiveUnit
  split
  · exact ⟨held, .kept inv (.same ctx.slot)⟩
  case isFalse open_ =>
  split
  · exact ⟨held, .kept inv (.same ctx.slot)⟩
  rw [Bool.or_eq_true, not_or] at open_
  cases held with
  | some held =>
    have out : Outstanding ctx.slot ctx.rx.store held := inv.out
    rcases out.place with ⟨taken, -, -⟩ | ⟨leased, -⟩
    · exact absurd taken open_.1
    · exact absurd leased open_.2
  | none =>
    have nothing : NothingOut ctx.slot ctx.rx.store := inv.out
    obtain ⟨_, _, _, routed⟩ := @wlFeedUnitRaw_routed
      { ctx with
        rx :=
          { ctx.rx with
            rxFallback := ctx.rx.rxFallback.writeAt 0 unit
            rxCandidateSource := .fallback } }
      { source := .fallback, offset := 0 } unit
    have memories : StoreInv ctx.config.envelope
        { ctx.rx.store with
          rxFallback := ctx.rx.rxFallback.writeAt 0 unit, rxCandidateSource := .fallback } count :=
      { inv.memories with stream := fun stream => absurd stream packet }
    unfold InboxMoves
    rw [routed.store]
    rcases routed.slot with step | ⟨_, _, pushed⟩
    · exact ⟨none, .kept ⟨memories, step.rx.1.trans nothing.free,
        step.rx.2.1.trans nothing.unleased, nothing.pending⟩ step⟩
    · exact pushed.moves memories nothing.pending

theorem pollStages_inbox (inv : Inv ctx) (short : count < 2 ^ 32) (inbox : Inbox ctx count held) :
    InboxMoves ctx.config.envelope ctx (wlPollTransportProgress ctx ctx.nowMs) count held := by
  have submitted := wlSubmitControl_sends inv
  have before := submitted.trans (pollPublishPending_sends (submitted.trail.inv inv))
  have config : (pollPublishPending (wlSubmitControl ctx).1).config = ctx.config :=
    before.trail.config
  have received := @pollReceive_inbox (pollPublishPending (wlSubmitControl ctx).1) count held short
    (by unfold Inbox; rw [config]; exact inbox.txOnly before.inbox)
  rw [config] at received
  obtain ⟨later, move⟩ := received
  have moves := before.trail.moves.trans (pollReceive_moves (before.trail.inv inv)).toMove
  have resubmitted := pollResubmit_sends (moves.inv inv)
  have again := moves.trans resubmitted.trail.moves
  have timed := (resubmitted.trans (pollTimeout_sends (again.inv inv) again.nowMs)).inbox
  refine ⟨later, ?_⟩
  unfold wlPollTransportProgress
  rw [timed.rx]
  exact (move.afterStep before.inbox.slot).thenStep timed.slot

theorem pollDeliver_inbox {envelope : WlEnvelope}
    (inv : InboxInv envelope ctx.slot ctx.rx.store count held) :
    InboxInv envelope (pollDeliver ctx).1.slot (pollDeliver ctx).1.rx.store count held ∧
      (pollDeliver ctx).1.slot.hasEvent = false ∧
      (pollDeliver ctx).1.slot.rxEventGeneration = ctx.slot.rxEventGeneration ∧
      (match (pollDeliver ctx).2 with
        | .ok event => if event.type.isRx then [event] else []
        | .error _ => []) = slotRxEvents ctx := by
  unfold pollDeliver slotRxEvents holdsRxEvent
  split
  case isFalse empty =>
    rw [Bool.not_eq_true] at empty
    refine ⟨inv, empty, rfl, ?_⟩
    rw [empty]
    rfl
  case isTrue taken =>
    refine ⟨⟨inv.memories, ?_⟩, rfl, rfl, ?_⟩
    · cases held with
      | none =>
        have nothing : NothingOut ctx.slot ctx.rx.store := inv.out
        have transmit := nothing.free
        rw [taken, Bool.true_and] at transmit
        refine ⟨rfl, ?_, nothing.pending⟩
        show (ctx.slot.event.type.isRx || ctx.slot.rxEventLeased) = false
        rw [transmit, nothing.unleased]
        rfl
      | some held =>
        have out : Outstanding ctx.slot ctx.rx.store held := inv.out
        refine { out with place := .inr ⟨?_, rfl⟩ }
        show (ctx.slot.event.type.isRx || ctx.slot.rxEventLeased) = true
        rcases out.place with ⟨-, event, -⟩ | ⟨leased, -⟩
        · rw [event, out.kind]
          rfl
        · rw [leased, Bool.or_true]
    · dsimp only
      rw [taken, Bool.true_and]

/-- A whole turn. Its RX event is the one that was in the slot, or the one pushed during the turn. -/
theorem wlPoll_inbox (inv : Inv ctx) (short : count < 2 ^ 32) (inbox : Inbox ctx count held)
    (nowMs : UInt32) :
    ∃ before later,
      InboxMove ctx.config.envelope ctx.slot before.slot before.rx.store count held later ∧
      InboxInv ctx.config.envelope (wlPoll ctx nowMs).1.slot (wlPoll ctx nowMs).1.rx.store count later ∧
      (wlPoll ctx nowMs).1.slot.hasEvent = false ∧
      (wlPoll ctx nowMs).1.slot.rxEventGeneration = before.slot.rxEventGeneration ∧
      returnedEvents ctx (.poll nowMs) = slotRxEvents before := by
  have clock := inv.clock nowMs
  have staged : InboxMoves ctx.config.envelope ctx
      (if pollHasWork { ctx with nowMs := nowMs } then
        wlPollTransportProgress { ctx with nowMs := nowMs } nowMs
        else { ctx with nowMs := nowMs }) count held := by
    split
    · exact @pollStages_inbox { ctx with nowMs := nowMs } count held clock short inbox
    · exact ⟨held, .kept inbox (.same ctx.slot)⟩
  rw [returnedEvents]
  unfold wlPoll
  rw [if_neg (not_not.mpr inv.initialized)]
  dsimp only
  generalize (if pollHasWork { ctx with nowMs := nowMs } = true then
    wlPollTransportProgress { ctx with nowMs := nowMs } nowMs
    else { ctx with nowMs := nowMs }) = worked at staged
  obtain ⟨later, move⟩ := staged
  have completed := (pollCompletion_sends worked).inbox
  have move := move.thenStep completed.slot
  rw [← completed.rx] at move
  obtain ⟨delivered, empty, generation, returned⟩ := pollDeliver_inbox move.inv
  exact ⟨pollCompletion worked, later, move, delivered, empty, generation, returned⟩

end turn

/-! ### One operation

An operation leaves what is outstanding alone, publishes a first event, or releases the one that is
out. -/

/-- What one operation does to what is outstanding: nothing, or a first event is published, or the
outstanding one is released. -/
inductive InboxStep (ctx : WlCtx) (op : Op) (count : Nat) :
    Option HeldEvent → Option HeldEvent → Prop where
  | kept {held : Option HeldEvent}
      (inv : InboxInv ctx.config.envelope (step ctx op).slot (step ctx op).rx.store count held)
      (nothing : publishedEvents ctx op = [])
      (generation : (step ctx op).slot.rxEventGeneration = ctx.slot.rxEventGeneration)
      (unreleased : ∀ event ∈ held, releases ctx event op = false) : InboxStep ctx op count held held
  | published {held : HeldEvent}
      (inv : InboxInv ctx.config.envelope (step ctx op).slot (step ctx op).rx.store count (some held))
      (fresh : publishedEvents ctx op = [held.event])
      (generation : (step ctx op).slot.rxEventGeneration =
        bumpNonzero ctx.slot.rxEventGeneration) : InboxStep ctx op count none (some held)
  | released {held : HeldEvent}
      (inv : InboxInv ctx.config.envelope (step ctx op).slot (step ctx op).rx.store count none)
      (nothing : publishedEvents ctx op = [])
      (generation : (step ctx op).slot.rxEventGeneration = ctx.slot.rxEventGeneration)
      (done : releases ctx held op = true) : InboxStep ctx op count (some held) none

section operations

variable {ctx : WlCtx} {count : Nat} {held : Option HeldEvent} {op : Op}

theorem slotRxEvents_free (free : ctx.slot.hasEvent = false) : slotRxEvents ctx = [] := by
  rw [slotRxEvents, holdsRxEvent, free]
  rfl

theorem InboxMove.fresh {envelope : WlEnvelope} {later : Option HeldEvent} {before : WlCtx}
    {store : RxStore} (move : InboxMove envelope ctx.slot before.slot store count held later) :
    later = held ∧ (slotRxEvents before).filter (· ∉ slotRxEvents ctx) = [] ∧
        before.slot.rxEventGeneration = ctx.slot.rxEventGeneration ∨
      held = none ∧ ∃ event, later = some event ∧
        (slotRxEvents before).filter (· ∉ slotRxEvents ctx) = [event.event] ∧
        before.slot.rxEventGeneration = bumpNonzero ctx.slot.rxEventGeneration := by
  cases move with
  | kept inv step =>
    refine .inl ⟨rfl, ?_, step.rx.2.2.1⟩
    rw [slotRxEvents_slotStep step]
    exact List.filter_eq_nil_iff.mpr fun event member => by simp [member]
  | pushed inv free taken event generation =>
    refine .inr ⟨rfl, _, rfl, ?_, generation⟩
    have out : Outstanding _ _ _ := inv.out
    have holds : slotRxEvents before = [before.slot.event] := by
      rw [slotRxEvents, holdsRxEvent, taken, event, out.kind]
      rfl
    rw [holds, slotRxEvents_free free, event]
    rfl

theorem KeepsInbox.inboxStep (kept : KeepsInbox ctx (step ctx op) count held)
    (notPoll : ∀ nowMs, op ≠ .poll nowMs)
    (unreleased : ∀ event ∈ held, releases ctx event op = false) :
    InboxStep ctx op count held held := by
  have returned : returnedEvents ctx op = [] := by
    cases op with
    | poll nowMs => exact absurd rfl (notPoll nowMs)
    | _ => rfl
  refine .kept kept.inbox ?_ kept.slot.rx.2.2.1 unreleased
  rw [publishedEvents, returned, List.nil_append, slotRxEvents_slotStep kept.slot]
  exact List.filter_eq_nil_iff.mpr fun event member => by simp [member]

theorem InboxMove.inboxStep {later : Option HeldEvent} {before : WlCtx}
    (move : InboxMove ctx.config.envelope ctx.slot before.slot before.rx.store count held later)
    (after : InboxInv ctx.config.envelope (step ctx op).slot (step ctx op).rx.store count later)
    (generation : (step ctx op).slot.rxEventGeneration = before.slot.rxEventGeneration)
    (published : publishedEvents ctx op = (slotRxEvents before).filter (· ∉ slotRxEvents ctx))
    (unreleased : ∀ event, releases ctx event op = false) :
    ∃ later, InboxStep ctx op count held later := by
  rcases move.fresh with ⟨rfl, nothing, same⟩ | ⟨rfl, event, rfl, fresh, bumped⟩
  · exact ⟨_, .kept after (published.trans nothing) (generation.trans same)
      fun event _ => unreleased event⟩
  · exact ⟨_, .published after (published.trans fresh) (generation.trans bumped)⟩

theorem poll_inboxStep (inv : Inv ctx) (short : count < 2 ^ 32) (inbox : Inbox ctx count held)
    (nowMs : UInt32) :
    (∃ later, InboxStep ctx (.poll nowMs) count held later) ∧
      holdsRxEvent (step ctx (.poll nowMs)) = false := by
  obtain ⟨_, _, move, after, empty, generation, returned⟩ :=
    wlPoll_inbox inv short inbox nowMs
  constructor
  · refine move.inboxStep after generation ?_ fun _ => rfl
    rw [publishedEvents, returned, step, slotRxEvents_free empty, List.append_nil]
  · rw [holdsRxEvent, step, empty]
    rfl

theorem consumePending_slot (ctx : WlCtx) : (consumePending ctx).slot = ctx.slot := by
  unfold consumePending
  split
  · rfl
  split
  · rfl
  · rfl

theorem release_inboxStep (inv : Inv ctx) (short : count < 2 ^ 32) (inbox : Inbox ctx count held)
    (type : WlEventType) (lease : UInt32) :
    (∃ later, InboxStep ctx (.release type lease) count held later) ∧
      (holdsRxEvent ctx = false → holdsRxEvent (step ctx (.release type lease)) = false) := by
  rw [step]
  by_cases accepted : ctx.initialized ∧ type.isRx ∧ ctx.slot.rxEventLeased ∧
      lease = ctx.slot.rxEventGeneration
  · obtain ⟨initialized, receive, leased, same⟩ := accepted
    subst same
    cases held with
    | none => cases inbox.out.unleased.symm.trans leased
    | some held =>
      have out : Outstanding ctx.slot ctx.rx.store held := inbox.out
      have after := release_inbox inbox short initialized receive leased
      have empty : holdsRxEvent (wlEventRelease ctx type ctx.slot.rxEventGeneration) = false :=
        after.out.free
      refine ⟨⟨none, .released after ?_ ?_ ?_⟩, fun _ => empty⟩
      · rw [publishedEvents, step]
        unfold slotRxEvents
        rw [empty]
        rfl
      · rw [step, wlEventRelease, if_pos ⟨initialized, receive, leased, rfl⟩]
        rw [consumePending_slot]
      · rcases out.place with ⟨-, -, unleased⟩ | ⟨-, free⟩
        · cases unleased.symm.trans leased
        · rw [releases, slotRxEvents, holdsRxEvent, free, receive, out.lease]
          simp
  · have ignored : wlEventRelease ctx type lease = ctx := if_neg accepted
    have same : step ctx (.release type lease) = ctx := ignored
    rw [ignored]
    refine ⟨⟨held, KeepsInbox.inboxStep ?_ (by simp) ?_⟩, id⟩
    · rw [same]
      exact .same inbox
    · intro event isHeld
      cases isHeld
      exact (release_ignored accepted inv.initialized inbox.out).2

theorem feedUnit_inboxStep (packet : ctx.config.envelope ≠ .cobsStream)
    (inbox : Inbox ctx count held) (unit : Buffer) :
    ∃ later, InboxStep ctx (.feedUnit unit) count held later := by
  have fed : InboxMoves ctx.config.envelope ctx (step ctx (.feedUnit unit)) count held := by
    rw [step, wlFeedUnit]
    split
    · exact ⟨held, .kept inbox (.same ctx.slot)⟩
    split
    · exact ⟨held, .kept inbox (.same ctx.slot)⟩
    exact wlFrameReceiveUnit_inbox packet inbox unit.data
  obtain ⟨_, move⟩ := fed
  exact move.inboxStep move.inv rfl rfl fun _ => rfl

theorem KeepsInbox.quiet (kept : KeepsInbox ctx (step ctx op) count held)
    (delivered : ctx.config.envelope = .cobsStream → holdsRxEvent ctx = false)
    (notPoll : ∀ nowMs, op ≠ .poll nowMs) (notRelease : ∀ type lease, op ≠ .release type lease) :
    (∃ later, InboxStep ctx op count held later) ∧
      (ctx.config.envelope = .cobsStream → holdsRxEvent (step ctx op) = false) := by
  refine ⟨⟨held, kept.inboxStep notPoll fun event _ => ?_⟩,
    fun stream => kept.slot.rx.1.trans (delivered stream)⟩
  cases op with
  | release type lease => exact absurd rfl (notRelease type lease)
  | _ => rfl

theorem producer_inboxStep (inv : Inv ctx) (inbox : Inbox ctx count held)
    (delivered : ctx.config.envelope = .cobsStream → holdsRxEvent ctx = false)
    (producer : op.isProducer = true) :
    (∃ later, InboxStep ctx op count held later) ∧
      (ctx.config.envelope = .cobsStream → holdsRxEvent (step ctx op) = false) := by
  have notPoll (nowMs : UInt32) : op ≠ .poll nowMs := by
    rintro rfl
    exact nomatch producer
  have notRelease (type : WlEventType) (lease : UInt32) : op ≠ .release type lease := by
    rintro rfl
    exact nomatch producer
  by_cases stream : ctx.config.envelope = .cobsStream
  · exact (step_fed_inbox inv.initialized stream inbox producer).quiet delivered notPoll notRelease
  · by_cases unit : ∃ unit, op = .feedUnit unit
    · obtain ⟨unit, rfl⟩ := unit
      exact ⟨feedUnit_inboxStep stream inbox unit, fun wrong => absurd wrong stream⟩
    · have same := step_packet_producer stream (inbox.memories.packet stream) producer
        (fun feed isFeed => unit ⟨feed, isFeed⟩)
      refine KeepsInbox.quiet ?_ delivered notPoll notRelease
      rw [same]
      exact .same inbox

theorem commitsUnit_eq_false (notUnit : op.toUnitOp = none) : commitsUnit ctx op = false := by
  cases op with
  | unitCommit => exact nomatch notUnit
  | _ => rfl

/-- One operation, from a context in which a stream link has delivered what it received. -/
theorem step_inbox (inv : Inv ctx) (short : count < 2 ^ 32) (inbox : Inbox ctx count held)
    (delivered : ctx.config.envelope = .cobsStream → holdsRxEvent ctx = false)
    (first : rebuildsQueue ctx op = false) :
    (∃ later, InboxStep ctx op (count + if commitsUnit ctx op then 1 else 0) held later) ∧
      (ctx.config.envelope = .cobsStream → holdsRxEvent (step ctx op) = false) := by
  cases unitOp : op.toUnitOp with
  | some =>
    refine (unitStep_inbox inv.initialized inbox short unitOp).quiet delivered ?_ ?_
    · rintro nowMs rfl
      exact nomatch unitOp
    · rintro type lease rfl
      exact nomatch unitOp
  | none =>
    rw [commitsUnit_eq_false unitOp]
    by_cases sending : op.isSending = true
    · have sends := (step_sends inv sending).txOnly
      refine KeepsInbox.quiet ⟨inbox.txOnly sends, sends.slot⟩ delivered ?_ ?_
      · rintro nowMs rfl
        exact nomatch sending
      · rintro type lease rfl
        exact nomatch sending
    by_cases producer : op.isProducer = true
    · exact producer_inboxStep inv inbox delivered producer
    cases op with
    | poll nowMs =>
      obtain ⟨step, empty⟩ := poll_inboxStep inv short inbox nowMs
      exact ⟨step, fun _ => empty⟩
    | release type lease =>
      obtain ⟨step, kept⟩ := release_inboxStep inv short inbox type lease
      exact ⟨step, fun stream => kept (delivered stream)⟩
    | recoverReset =>
      exact KeepsInbox.quiet (recoverReset_inbox inbox delivered) delivered nofun nofun
    | unitQueueInit =>
      exact KeepsInbox.quiet (queueInit_inbox inbox first) delivered nofun nofun
    | readiness nowMs =>
      exact KeepsInbox.quiet (readiness_inbox inbox nowMs) delivered nofun nofun
    | unitClaim | unitStore | unitCommit | unitAbort => exact nomatch unitOp
    | _ => first | exact absurd rfl sending | exact absurd rfl producer

end operations

/-! ### Runs

Leases are numbered in the order of publication, by which the release of an older event is
recognized. -/

/-- The invariant of a run. -/
structure RxLeaseInv (lease : LeaseRun) (held : Option HeldEvent) : Prop where
  inv : Inv lease.ctx
  inbox : Inbox lease.ctx lease.committed held
  delivered : lease.ctx.config.envelope = .cobsStream → holdsRxEvent lease.ctx = false
  outstanding : lease.outstanding = held.toList
  known : ∀ event ∈ held, event.event ∈ lease.published
  numbered : lease.published.length < 2 ^ 32 →
    lease.ctx.slot.rxEventGeneration.toNat = lease.published.length ∧
      (lease.published.map (·.lease)).Nodup ∧
      ∀ event ∈ lease.published, event.lease.toNat ≤ lease.published.length

section runs

variable {lease : LeaseRun} {held : Option HeldEvent}

theorem Outstanding.payload {ctx : WlCtx} {event : HeldEvent}
    (out : Outstanding ctx.slot ctx.rx.store event) : payloadBytes ctx event.event = event.bytes := by
  obtain ⟨_, payload, -, bytes⟩ := out.lent
  rw [payloadBytes, payload]
  exact bytes

theorem toNat_bumpNonzero {value : UInt32} (small : value.toNat + 1 < 2 ^ 32) :
    (bumpNonzero value).toNat = value.toNat + 1 := by
  have next : (value + 1).toNat = value.toNat + 1 := by
    exact Nat.mod_eq_of_lt small
  unfold bumpNonzero
  split
  case isTrue zero =>
    rw [zero] at next
    exact nomatch next
  case isFalse => exact next

theorem RxLeaseInv.numbered_same (inv : RxLeaseInv lease held) {generation : UInt32}
    (same : generation = lease.ctx.slot.rxEventGeneration)
    (few : lease.published.length < 2 ^ 32) :
    generation.toNat = lease.published.length ∧ (lease.published.map (·.lease)).Nodup ∧
      ∀ event ∈ lease.published, event.lease.toNat ≤ lease.published.length := by
  rw [same]
  exact inv.numbered few

theorem RxLeaseInv.numbered_cons (inv : RxLeaseInv lease held) {event : WlEvent} {generation : UInt32}
    (bumped : generation = bumpNonzero lease.ctx.slot.rxEventGeneration)
    (number : event.lease = generation) (few : (event :: lease.published).length < 2 ^ 32) :
    generation.toNat = (event :: lease.published).length ∧
      ((event :: lease.published).map (·.lease)).Nodup ∧
      ∀ other ∈ event :: lease.published, other.lease.toNat ≤ (event :: lease.published).length := by
  rw [List.length_cons] at few ⊢
  obtain ⟨counted, distinct, bounded⟩ := inv.numbered (by omega)
  have next : generation.toNat = lease.published.length + 1 := by
    rw [bumped, toNat_bumpNonzero (by omega), counted]
  refine ⟨next, ?_, ?_⟩
  · rw [List.map_cons, List.nodup_cons]
    refine ⟨?_, distinct⟩
    intro member
    obtain ⟨other, isOther, same⟩ := List.mem_map.mp member
    have bound := bounded other isOther
    rw [same, number, next] at bound
    omega
  · intro other member
    rcases List.mem_cons.mp member with rfl | older
    · rw [number, next]
    · exact Nat.le_succ_of_le (bounded other older)

theorem RxLeaseInv.step (inv : RxLeaseInv lease held) (op : Op)
    (short : (lease.step op).committed < 2 ^ 32) (first : (lease.step op).rebuilt = false) :
    ∃ later, RxLeaseInv (lease.step op) later := by
  have moves := step_clocked inv.inv op
  have few : lease.committed < 2 ^ 32 := by
    have grows : lease.committed ≤ (lease.step op).committed := Nat.le_add_right _ _
    omega
  have once : rebuildsQueue lease.ctx op = false := (Bool.or_eq_false_iff.mp first).2
  obtain ⟨⟨later, move⟩, delivered⟩ := step_inbox inv.inv few inv.inbox inv.delivered once
  have config : (Wirelink.step lease.ctx op).config = lease.ctx.config := moves.config
  have outstanding : (lease.step op).outstanding =
      (publishedEvents lease.ctx op).map
          (fun event => { event := event, bytes := payloadBytes (Wirelink.step lease.ctx op) event }) ++
        held.toList.filter (fun held => !releases lease.ctx held op) := by
    rw [← inv.outstanding]
    rfl
  have published : (lease.step op).published = publishedEvents lease.ctx op ++ lease.published := rfl
  have base := moves.inv inv.inv
  rw [← config] at delivered
  refine ⟨later, ?_⟩
  cases move with
  | kept after nothing generation unreleased =>
    rw [← config] at after
    rw [nothing] at outstanding published
    refine ⟨base, after, delivered, ?_, ?_, ?_⟩
    · rw [outstanding]
      cases held with
      | none => rfl
      | some held => simp [unreleased held rfl]
    · rw [published]
      exact inv.known
    · rw [published]
      exact inv.numbered_same generation
  | published after fresh generation =>
    rename_i event
    rw [← config] at after
    rw [fresh] at outstanding published
    have out : Outstanding (Wirelink.step lease.ctx op).slot
      (Wirelink.step lease.ctx op).rx.store event := after.out
    refine ⟨base, after, delivered, ?_, ?_, ?_⟩
    · rw [outstanding, List.map_singleton, out.payload]
      rfl
    · rintro _ ⟨⟩
      rw [published]
      exact List.mem_cons_self
    · rw [published]
      intro small
      exact inv.numbered_cons generation out.lease small
  | released after nothing generation done =>
    rw [← config] at after
    rw [nothing] at outstanding published
    refine ⟨base, after, delivered, ?_, nofun, ?_⟩
    · rw [outstanding]
      simp [done]
    · rw [published]
      exact inv.numbered_same generation

theorem start_rxLeaseInv {config : WlConfig} {storage : WlStorage} {answers : List WlSinkResult}
    {start : WlCtx} (accepted : wlInit config storage answers = .ok start) :
    RxLeaseInv (runLease start []) none := by
  have inv := inv_of_init accepted
  obtain ⟨_, _, valid, -, rfl, built, none⟩ := wlInit_ok accepted
  obtain ⟨-, -, sized, -, rfl⟩ := wlConfigRequirements_ok valid
  refine ⟨inv, ⟨⟨?_, ?_, fun _ => rfl, .absent rfl rfl⟩, rfl, rfl, rfl⟩, fun _ => rfl, rfl,
    nofun, fun _ => ⟨rfl, List.nodup_nil, nofun⟩⟩
  · intro stream
    have stream : config.envelope = .cobsStream := stream
    have made := built (by rw [if_pos stream]; exact sized)
    exact ⟨[], ringInv_init made, fun _ => findInv_init made⟩
  · intro packet
    exact none (if_neg packet)

/-- The invariant over a run, by induction on its operations. -/
theorem runLease_inv {start : WlCtx} (init : RxLeaseInv (runLease start []) none) (ops : List Op)
    (short : (runLease start ops).committed < 2 ^ 32) (once : (runLease start ops).rebuilt = false) :
    ∃ held, RxLeaseInv (runLease start ops) held := by
  induction ops using List.reverseRecOn with
  | nil => exact ⟨none, init⟩
  | append_singleton ops op ih =>
    have last : runLease start (ops ++ [op]) = (runLease start ops).step op := by
      rw [runLease, List.foldl_append]
      rfl
    rw [last] at short once ⊢
    have grows : (runLease start ops).committed ≤ ((runLease start ops).step op).committed :=
      Nat.le_add_right _ _
    obtain ⟨_, before⟩ := ih (by omega) (Bool.or_eq_false_iff.mp once).1
    exact before.step op short once

theorem RxLeaseInv.stable (inv : RxLeaseInv lease held) (short : lease.committed < 2 ^ 32) :
    LeaseStable lease := by
  have out (event : HeldEvent) (member : event ∈ lease.outstanding) :
      held = some event ∧ Outstanding lease.ctx.slot lease.ctx.rx.store event := by
    rw [inv.outstanding, Option.mem_toList] at member
    cases member
    exact ⟨rfl, inv.inbox.out⟩
  constructor
  case single =>
    rw [inv.outstanding]
    cases held with
    | none => exact Nat.zero_le 1
    | some => exact Nat.le_refl 1
  case value => exact fun event member => (out event member).2.payload
  case apart =>
    intro event member span isSpan position covers covered
    obtain ⟨_, payload, lent, -⟩ := (out event member).2.lent
    rw [WlEvent.span, payload] at covers
    exact lent_apart inv.inbox.memories short lent isSpan covers.1.symm covers.2 covered.2
  case others =>
    intro few event member distinct
    refine if_neg ?_
    rintro ⟨-, -, leased, same⟩
    obtain ⟨-, numbers, -⟩ := inv.numbered few
    cases held with
    | none => exact nomatch inv.inbox.out.unleased.symm.trans leased
    | some held =>
      have known := inv.known held rfl
      have lease : held.event.lease = lease.ctx.slot.rxEventGeneration := inv.inbox.out.lease
      refine distinct held ?_ ?_
      · rw [inv.outstanding]
        exact List.mem_singleton_self held
      · exact List.inj_on_of_nodup_map numbers known member (lease.trans same.symm)
  case transmits =>
    intro type generation transmit
    refine if_neg ?_
    rintro ⟨-, receive, -⟩
    rw [transmit] at receive
    exact nomatch receive

end runs

/-- Between the publication of an RX event and its release its payload keeps its bytes and is in no
span a producer holds, no second RX event is outstanding, and the release of any other event changes
nothing. -/
theorem rx_lease_stable (config : WlConfig) (storage : WlStorage) (answers : List WlSinkResult)
    (start : WlCtx) (accepted : wlInit config storage answers = .ok start) (ops : List Op)
    (short : (runLease start ops).committed < 2 ^ 32) (once : (runLease start ops).rebuilt = false) :
    LeaseStable (runLease start ops) := by
  obtain ⟨_, inv⟩ := runLease_inv (start_rxLeaseInv accepted) ops short once
  exact inv.stable short

/-- A frame is received and not released; the next one waits behind it in the ring. -/
theorem leased_frame_stable :
    (runLease (streamStart []) [.feedBytes (.bytes [2, 0xA4, 1, 3, 5, 9, 0]), .poll 0,
        .feedBytes (.bytes [2, 0xA4, 1, 3, 5, 8, 0]), .poll 1]).outstanding.map (·.bytes) = [[9]] ∧
      LeaseStable (runLease (streamStart []) [.feedBytes (.bytes [2, 0xA4, 1, 3, 5, 9, 0]), .poll 0,
        .feedBytes (.bytes [2, 0xA4, 1, 3, 5, 8, 0]), .poll 1]) :=
  ⟨by decide +kernel,
    rx_lease_stable streamConfig streamStorage [] (streamStart []) rfl _ (by decide +kernel)
      (by decide +kernel)⟩

end Wirelink
