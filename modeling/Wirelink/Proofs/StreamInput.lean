/-
Module: Wirelink.Proofs.StreamInput
Purpose: The producer calls of a stream link, on the context. Each of them changes nothing but the
  ring, appends to its queue the bytes it makes readable, and counts an overflow where it reports one.
Trusted boundary: none
-/
import Wirelink.Proofs.RingStream

namespace Wirelink

/-- The ring took in `more` behind what was queued; `noted` overflows were counted. -/
structure Fed (queued more : Bytes) (noted : Bool) (ring after : RxRing) : Prop where
  queue : RingInv after.core (queued ++ more)
  cache : FindInv ring queued → FindInv after (queued ++ more)
  read : queued ≠ [] → after.readCursor = ring.readCursor
  capacity : after.capacity = ring.capacity
  overflow : after.overflowEvents = ring.overflowEvents + if noted then 1 else 0

section ring

variable {ring after : RxRing} {queued more : Bytes}

theorem Produced.fed (produced : Produced queued more ring after) :
    Fed queued more false ring after := by
  refine ⟨produced.queue, produced.findInv, produced.read, produced.capacity, ?_⟩
  have aside := congrArg Prod.snd produced.aside
  exact aside.trans (UInt32.add_zero _).symm

theorem Produced.noted (produced : Produced queued more ring after) :
    Fed queued more true ring after.noteOverflow := by
  have positive : 0 < after.capacity := produced.queue.shape.positive
  have aside : after.overflowEvents = ring.overflowEvents := congrArg Prod.snd produced.aside
  have noted : after.noteOverflow = { after with overflowEvents := after.overflowEvents + 1 } := by
    unfold RxRing.noteOverflow
    rw [if_neg (Nat.ne_of_gt positive)]
  rw [noted]
  refine ⟨produced.queue, produced.findInv, produced.read, produced.capacity, ?_⟩
  rw [if_pos rfl, ← aside]

theorem dmaAbort_fed (inv : RingInv ring.core queued) :
    Fed queued [] (ring.dmaAbort.2 == .ok) ring ring.dmaAbort.1 := by
  have positive : 0 < ring.capacity := inv.shape.positive
  unfold RxRing.dmaAbort
  rw [if_neg (Nat.ne_of_gt positive)]
  split
  · exact (Produced.refl inv).fed
  · have ended : Produced queued [] ring { ring with dmaClaim := RxRing.noDmaClaim } :=
      .held inv.claimEnded rfl rfl
    exact ended.noted

/-- Reserve is refused, or grants the stretch up to the end of the memory. -/
theorem producerReserve_cases (ring : RxRing) :
    (∃ err, err ≠ .wouldBlock ∧ ring.producerReserve = (ring, .error err)) ∨
      ∃ length, ring.producerReserve =
        ({ ring with
            reservationCursor := ring.writeCursor
            reservationLength := length
            reservationActive := true },
          .ok { offset := cursorPhysical ring.capacity ring.writeCursor, length := length }) := by
  unfold RxRing.producerReserve
  split
  · exact .inl ⟨.notInitialized, by decide, rfl⟩
  split
  · exact .inl ⟨.invalidState, by decide, rfl⟩
  dsimp only
  split
  · exact .inl ⟨.invalidState, by decide, rfl⟩
  · exact .inr ⟨_, rfl⟩

/-- What lies in a reservation is committed as it was stored. -/
theorem stored_commit (inv : RingInv ring.core queued) (active : ring.reservationActive = true)
    {data : Bytes} (short : data.length ≤ ring.reservationLength) :
    ((ring.producerStore 0 data).producerCommit data.length).2 = .ok ∧
      Produced queued data ring ((ring.producerStore 0 data).producerCommit data.length).1 := by
  have written := producerStore_produced inv 0 data
  have queue : RingInv (ring.producerStore 0 data).core queued := by
    have moved := written.queue
    rwa [List.append_nil] at moved
  have stored : ring.producerStore 0 data =
      { ring with
        memory := ring.memory.writeAt
          (cursorPhysical ring.capacity ring.reservationCursor) data } := by
    unfold RxRing.producerStore
    rw [if_pos ⟨active, by omega⟩]
    rfl
  have positive : 0 < ring.capacity := inv.shape.positive
  have accepted : ((ring.producerStore 0 data).producerCommit data.length).2 = .ok := by
    rw [stored]
    unfold RxRing.producerCommit
    rw [if_neg (Nat.ne_of_gt positive), if_neg (not_not.mpr active), if_neg (Nat.not_lt.mpr short)]
  have bytes : (ring.producerStore 0 data).committedBytes data.length = data := by
    unfold RxRing.committedBytes
    rw [if_pos accepted, stored]
    refine Bytes.readAt_writeAt_self ?_
    obtain ⟨cursor, span⟩ := inv.spans.reserved active
    have place : ring.reservationCursor = ring.writeCursor := cursor
    have fits : ring.writeCursor % ring.capacity + ring.reservationLength ≤ ring.capacity :=
      span.fits
    have full : ring.memory.length = ring.capacity := inv.shape.full
    have bound : ring.writeCursor < ring.capacity * 2 := inv.shape.write
    rw [place, cursorPhysical_eq_mod bound]
    omega
  have committed := producerCommit_produced queue data.length
  rw [bytes] at committed
  have both := written.trans (by rw [List.append_nil]; exact committed)
  exact ⟨accepted, both⟩

end ring

/-! ### Calls on the context

The calls of the producers on a context are those on its ring. -/

section context

variable {ctx : WlCtx} {queued : Bytes}

theorem wlRxReserve_eq (open_ : streamGuard ctx = none) :
    wlRxReserve ctx = (setRing ctx ctx.rx.rxRing.producerReserve.1,
      ctx.rx.rxRing.producerReserve.2) := by
  unfold wlRxReserve
  rw [open_]

theorem wlRxCommit_eq (open_ : streamGuard ctx = none) (ring : RxRing) (length : Nat) :
    wlRxCommit (setRing ctx ring) length = (setRing ctx (ring.producerCommit length).1,
      (ring.producerCommit length).2) := by
  have same : streamGuard (setRing ctx ring) = none := open_
  unfold wlRxCommit
  rw [same]
  rfl

/-- The copy loop appends the bytes it accepts, and stops early only on a refused reservation or a
full ring. -/
theorem feedBytesLoop_produced (data : Bytes) (fuel : Nat) (open_ : streamGuard ctx = none)
    (inv : RingInv ctx.rx.rxRing.core queued) {accepted : Nat} (within : accepted ≤ data.length)
    (turns : data.length - accepted < fuel) :
    ∃ ring count code, feedBytesLoop data fuel ctx accepted = (setRing ctx ring, code, accepted + count) ∧
      code ≠ .wouldBlock ∧ accepted + count ≤ data.length ∧
        Produced queued (data.readAt accepted count) ctx.rx.rxRing ring := by
  induction fuel generalizing ctx queued accepted with
  | zero => exact absurd turns (Nat.not_lt_zero _)
  | succ fuel ih =>
    rw [feedBytesLoop]
    split
    case isTrue more =>
      rw [wlRxReserve_eq open_]
      rcases producerReserve_cases ctx.rx.rxRing with ⟨err, other, refused⟩ | ⟨length, granted⟩
      · rw [refused]
        refine ⟨ctx.rx.rxRing, 0, err, rfl, other, within, ?_⟩
        exact .refl inv
      · have reserved := producerReserve_produced inv
        rw [granted] at reserved ⊢
        dsimp only at reserved ⊢
        generalize taken : ({ ctx.rx.rxRing with
          reservationCursor := ctx.rx.rxRing.writeCursor
          reservationLength := length
          reservationActive := true } : RxRing) = holder at reserved
        have active : holder.reservationActive = true := by rw [← taken]
        have sized : holder.reservationLength = length := by rw [← taken]
        have queue : RingInv holder.core queued := by
          have moved := reserved.queue
          rwa [List.append_nil] at moved
        split
        case isTrue none =>
          -- a full ring: the empty reservation is given back
          have committed := producerCommit_produced queue 0
          have nothing : holder.committedBytes 0 = [] := by
            unfold RxRing.committedBytes
            rw [Bytes.readAt_zero, ite_self]
          rw [nothing] at committed
          refine ⟨(holder.producerCommit 0).1, 0, .ok, ?_, by decide, within, ?_⟩
          · rw [wlRxCommit_eq open_]
            rfl
          · rw [Bytes.readAt_zero]
            exact reserved.trans (by rw [List.append_nil]; exact committed)
        case isFalse some =>
          generalize size : min (data.length - accepted) length = chunk
          have sizeOf : (data.readAt accepted chunk).length = chunk :=
            Bytes.length_readAt_of_le (by omega)
          obtain ⟨taken, produced⟩ := stored_commit queue active
            (show (data.readAt accepted chunk).length ≤ holder.reservationLength by omega)
          rw [sizeOf] at taken produced
          have first := reserved.trans (by rw [List.append_nil]; exact produced)
          rw [show setRing (setRing ctx holder)
              ((setRing ctx holder).rx.rxRing.producerStore 0 (data.readAt accepted chunk)) =
                setRing ctx (holder.producerStore 0 (data.readAt accepted chunk)) from rfl,
            wlRxCommit_eq open_, taken]
          obtain ⟨last, count, code, rest, other, _, later⟩ :=
            @ih (setRing ctx ((holder.producerStore 0 (data.readAt accepted chunk)).producerCommit
              chunk).1) _ open_ first.queue (accepted + chunk) (by omega) (by omega)
          refine ⟨last, chunk + count, code, ?_, other, by omega, ?_⟩
          · dsimp only
            rw [rest, Nat.add_assoc]
            rfl
          · rw [Bytes.readAt_add]
            exact first.trans later
    case isFalse done =>
      refine ⟨ctx.rx.rxRing, 0, .ok, rfl, by decide, within, ?_⟩
      exact .refl inv

/-- `wl_feed_bytes` on a stream link appends what it accepts, and notes an overflow where it reports
`WL_ERR_WOULD_BLOCK`. -/
theorem wlFeedBytes_fed (open_ : streamGuard ctx = none) (inv : RingInv ctx.rx.rxRing.core queued)
    (buffer : Buffer) :
    ∃ ring, (wlFeedBytes ctx buffer).1 = setRing ctx ring ∧
      Fed queued (buffer.data.take (wlFeedBytes ctx buffer).2.2)
        ((wlFeedBytes ctx buffer).2.1 == .wouldBlock) ctx.rx.rxRing ring := by
  unfold wlFeedBytes
  split
  · refine ⟨ctx.rx.rxRing, rfl, ?_⟩
    exact (Produced.refl inv).fed
  rw [open_]
  dsimp only
  obtain ⟨ring, _, code, loop, other, bound, produced⟩ :=
    feedBytesLoop_produced buffer.data (buffer.data.length + 1) open_ inv (Nat.zero_le _) (by omega)
  rw [Nat.zero_add] at bound loop
  have plain : (code == WlErr.wouldBlock) = false := beq_eq_false_iff_ne.mpr other
  rw [loop]
  split
  case h_1 after accepted same =>
    cases same
    split
    · exact ⟨ring.noteOverflow, rfl, produced.noted⟩
    · exact ⟨ring, rfl, produced.fed⟩
  case h_2 =>
    refine ⟨ring, rfl, ?_⟩
    rw [plain]
    exact produced.fed

/-- Every producer call of a stream link works on the ring alone. -/
theorem step_fed (initialized : ctx.initialized = true) (stream : ctx.config.envelope = .cobsStream)
    (inv : RingInv ctx.rx.rxRing.core queued) {op : Op} (producer : op.isProducer = true) :
    ∃ ring, step ctx op = setRing ctx ring ∧
      Fed queued (streamInput ctx op) (notesOverflow ctx op) ctx.rx.rxRing ring := by
  have open_ : streamGuard ctx = none := by
    unfold streamGuard
    rw [if_neg (not_not.mpr initialized), if_neg (not_not.mpr stream)]
  cases op with
  | feedUnit unit =>
    have same : (wlFeedUnit ctx unit).1 = (wlFeedBytes ctx unit).1 := by
      unfold wlFeedUnit
      by_cases invalid : unit.invalid = true
      · rw [if_pos invalid]
        unfold wlFeedBytes
        rw [if_pos invalid]
      · rw [if_neg invalid, if_neg (not_not.mpr initialized), if_pos stream]
    rw [step, same]
    exact wlFeedBytes_fed open_ inv unit
  | feedBytes data => exact wlFeedBytes_fed open_ inv data
  | rxReserve =>
    refine ⟨_, ?_, (producerReserve_produced inv).fed⟩
    rw [step, wlRxReserve_eq open_]
  | ringStore offset data => exact ⟨_, rfl, (producerStore_produced inv offset data).fed⟩
  | rxCommit length =>
    refine ⟨_, ?_, (producerCommit_produced inv length).fed⟩
    exact congrArg Prod.fst (wlRxCommit_eq open_ ctx.rx.rxRing length)
  | dmaClaim maximumLength =>
    refine ⟨_, ?_, (dmaClaimOp_produced inv maximumLength).fed⟩
    rw [step, wlRxDmaClaim, open_]
  | dmaStore offset data => exact ⟨_, rfl, (dmaStore_produced inv offset data).fed⟩
  | dmaPublish token offset length =>
    refine ⟨_, ?_, (dmaPublish_produced inv token offset length).fed⟩
    rw [step, wlRxDmaPublish, open_]
  | dmaFinish token =>
    refine ⟨_, ?_, (dmaFinish_produced inv token).fed⟩
    rw [step, wlRxDmaFinish, open_]
  | dmaAbort =>
    have abort : wlRxDmaAbort ctx = (setRing ctx ctx.rx.rxRing.dmaAbort.1,
        ctx.rx.rxRing.dmaAbort.2) := by
      rw [wlRxDmaAbort, open_]
    rw [step, notesOverflow, abort]
    exact ⟨_, rfl, dmaAbort_fed inv⟩
  | noteOverflow =>
    refine ⟨_, ?_, (Produced.refl inv).noted⟩
    rw [step, wlRxNoteOverflow, open_]
  | _ => exact nomatch producer

end context

end Wirelink
