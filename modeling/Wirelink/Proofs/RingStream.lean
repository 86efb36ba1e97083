/-
Module: Wirelink.Proofs.RingStream
Purpose: The receive ring call by call, as a queue of bytes. A call of the producer appends to the
  queue and leaves the search cache alone; a call of the consumer drops from its front.
Trusted boundary: none
-/
import Wirelink.Proofs.RingCalls
import Wirelink.Spec.Stream

namespace Wirelink

/-! ### The producer

A call of the producer appends to the queue, and moves the read cursor only while the queue is
empty. -/

/-- The search cache and the overflow count, which no producer call but a noted overflow touches. -/
def RxRing.aside (ring : RxRing) : (Nat × Nat × Nat × Bool × Bool) × UInt32 :=
  ((ring.findRead, ring.findScanned, ring.findOffset, ring.findValid, ring.findFound),
    ring.overflowEvents)

/-- A call of the producer appended `more` to the queued bytes. The read cursor can only move while
the queue is empty. -/
structure Produced (queued more : Bytes) (ring after : RxRing) : Prop where
  queue : RingInv after.core (queued ++ more)
  read : queued ≠ [] → after.readCursor = ring.readCursor
  capacity : after.capacity = ring.capacity
  aside : after.aside = ring.aside

section producer

variable {ring middle after : RxRing} {queued more : Bytes}

theorem Produced.refl (inv : RingInv ring.core queued) : Produced queued [] ring ring := by
  refine ⟨?_, fun _ => rfl, rfl, rfl⟩
  rw [List.append_nil]
  exact inv

theorem Produced.trans {later : Bytes} (first : Produced queued more ring middle)
    (second : Produced (queued ++ more) later middle after) :
    Produced queued (more ++ later) ring after := by
  refine ⟨?_, ?_, second.capacity.trans first.capacity, second.aside.trans first.aside⟩
  · rw [← List.append_assoc]
    exact second.queue
  · intro waiting
    have still : queued ++ more ≠ [] := fun none => waiting (List.append_eq_nil_iff.mp none).1
    exact (second.read still).trans (first.read waiting)

theorem Produced.held (queue : RingInv after.core queued)
    (read : after.readSide = ring.readSide) (aside : after.aside = ring.aside) :
    Produced queued [] ring after := by
  refine ⟨?_, fun _ => congrArg Prod.snd read, congrArg Prod.fst read, aside⟩
  rw [List.append_nil]
  exact queue

theorem producerReserve_produced (inv : RingInv ring.core queued) :
    Produced queued [] ring ring.producerReserve.1 := by
  unfold RxRing.producerReserve
  split
  · exact .refl inv
  split
  · exact .refl inv
  case isFalse free =>
    simp only [Bool.or_eq_true, not_or, Bool.not_eq_true] at free
    have reserved := inv.reserveWith free.2
    unfold RxRing.reserveWith at reserved
    dsimp only at reserved ⊢
    split
    · exact .refl inv
    case isFalse room =>
      rw [if_neg room] at reserved
      exact .held reserved rfl rfl

theorem producerStore_produced (inv : RingInv ring.core queued) (offset : Nat) (data : Bytes) :
    Produced queued [] ring (ring.producerStore offset data) := by
  refine .held (inv.producerStore offset data) (readSide_producerStore ring offset data) ?_
  unfold RxRing.producerStore
  split
  · rfl
  · rfl

theorem dmaStore_produced (inv : RingInv ring.core queued) (offset : Nat) (data : Bytes) :
    Produced queued [] ring (ring.dmaStore offset data) := by
  refine .held (inv.dmaStore offset data) (readSide_dmaStore ring offset data) ?_
  unfold RxRing.dmaStore
  split
  · rfl
  · rfl

theorem producerCommit_produced (inv : RingInv ring.core queued) (length : Nat) :
    Produced queued (ring.committedBytes length) ring (ring.producerCommit length).1 := by
  unfold RxRing.committedBytes
  rcases producerCommit_cases ring length with ⟨_, refused, same⟩ | ⟨active, short, moved⟩
  · rw [same, if_neg refused]
    exact .refl inv
  · rw [moved, if_pos rfl]
    exact ⟨inv.committed active short, fun _ => rfl, rfl, rfl⟩

theorem dmaPublish_produced (inv : RingInv ring.core queued) (token : UInt32)
    (offset length : Nat) :
    Produced queued (ring.publishedBytes token offset length) ring
      (ring.dmaPublish token offset length).1 := by
  unfold RxRing.publishedBytes
  rcases dmaPublish_cases ring token offset length with
    ⟨err, refused, same⟩ | ⟨active, next, short, moved⟩
  · rw [same, if_neg refused]
    exact .refl inv
  · rw [moved, if_pos rfl, next]
    exact ⟨inv.published active short, fun _ => rfl, rfl, rfl⟩

/-- An empty ring in front of the end of its memory starts again at a physical zero. -/
theorem normalized_produced (inv : RingInv ring.core queued) (maximumLength : Nat)
    (noReservation : ring.reservationActive = false) (noClaim : ring.dmaClaim.active = false) :
    Produced queued [] ring (ring.normalized maximumLength) := by
  unfold RxRing.normalized
  split
  case isTrue empty =>
    have used : ring.core.used = 0 := by
      show cursorDistance (ring.capacity * 2) ring.readCursor ring.writeCursor = 0
      rw [empty.1, cursorDistance_self]
    have nothing : queued = [] := List.length_eq_zero_iff.mp (inv.length_queued.trans used)
    have bound : (if ring.writeCursor < ring.capacity then ring.capacity else 0) ≤
        ring.capacity := by
      split
      · exact Nat.le_refl _
      · exact Nat.zero_le _
    rw [nothing]
    exact ⟨RingInv.restart inv.shape bound noReservation noClaim, fun waiting => absurd rfl waiting,
      rfl, rfl⟩
  case isFalse => exact .refl inv

theorem normalized_spans (maximumLength : Nat) :
    (ring.normalized maximumLength).reservationActive = ring.reservationActive ∧
      (ring.normalized maximumLength).dmaClaim = ring.dmaClaim := by
  unfold RxRing.normalized
  split
  · exact ⟨rfl, rfl⟩
  · exact ⟨rfl, rfl⟩

theorem claimWith_aside (maximumLength write read : Nat) :
    (ring.claimWith maximumLength write read).aside = ring.aside := by
  unfold RxRing.claimWith
  dsimp only
  split
  · rfl
  · generalize (if contiguousLength ring.capacity write _ > maximumLength then maximumLength
      else _) = length
    split
    · rfl
    · rfl

theorem dmaClaimOp_produced (inv : RingInv ring.core queued) (maximumLength : Nat) :
    Produced queued [] ring (ring.dmaClaimOp maximumLength).1 := by
  by_cases asked : maximumLength = 0
  · unfold RxRing.dmaClaimOp
    rw [if_pos asked]
    exact .refl inv
  by_cases sized : ring.capacity = 0
  · unfold RxRing.dmaClaimOp
    rw [if_neg asked, if_pos sized]
    exact .refl inv
  by_cases held : (ring.reservationActive || ring.dmaClaim.active) = true
  · unfold RxRing.dmaClaimOp
    rw [if_neg asked, if_neg sized, if_pos held]
    exact .refl inv
  rw [dmaClaimOp_eq_claimWith ring asked sized held]
  simp only [Bool.or_eq_true, not_or, Bool.not_eq_true] at held
  have normal := normalized_produced inv maximumLength held.1 held.2
  have queue : RingInv (ring.normalized maximumLength).core queued := by
    have moved := normal.queue
    rwa [List.append_nil] at moved
  have free : (ring.normalized maximumLength).reservationActive = false :=
    (normalized_spans maximumLength).1.trans held.1
  obtain ⟨capacity, read⟩ := claimWith_cursors (ring.normalized maximumLength) maximumLength
    (ring.normalized maximumLength).writeCursor (ring.normalized maximumLength).readCursor
  have claimed : Produced queued [] (ring.normalized maximumLength)
      ((ring.normalized maximumLength).claimWith maximumLength
        (ring.normalized maximumLength).writeCursor (ring.normalized maximumLength).readCursor) :=
    .held (queue.claimWith maximumLength free) (Prod.ext capacity read) (claimWith_aside _ _ _)
  have both := normal.trans (by rw [List.append_nil]; exact claimed)
  exact both

theorem dmaFinish_produced (inv : RingInv ring.core queued) (token : UInt32) :
    Produced queued [] ring (ring.dmaFinish token).1 := by
  unfold RxRing.dmaFinish
  split
  · exact .refl inv
  split
  · exact .refl inv
  split
  · exact .refl inv
  · exact .held inv.claimEnded rfl rfl

end producer

/-! ### The consumer

The search cache claims where the first zero is among the bytes it has seen. It is emptied when
bytes are consumed, and stays right when bytes are appended. -/

section consumer

variable {ring : RxRing} {queued : Bytes}

variable {length offset : Nat}

theorem consumerConsume_eq (inv : RingInv ring.core queued) :
    ring.consumerConsume length =
      if length ≤ queued.length then
        ({ ring with
            findValid := false
            readCursor := cursorAdvance (ring.capacity * 2) ring.readCursor length }, .ok)
      else (ring, .noData) := by
  have positive : 0 < ring.capacity := inv.shape.positive
  unfold RxRing.consumerConsume
  rw [inv.readable_eq, if_neg (Nat.ne_of_gt positive)]
  split
  case isTrue long => rw [if_neg (by omega)]
  case isFalse short => rw [if_pos (by omega)]

theorem consumerConsume_inv (inv : RingInv ring.core queued) (enough : length ≤ queued.length) :
    RingInv (ring.consumerConsume length).1.core (queued.drop length) := by
  rw [consumerConsume_eq inv, if_pos enough]
  exact inv.consumed enough

theorem takeOverflow_inv (inv : RingInv ring.core queued) :
    RingInv ring.takeOverflow.1.core queued := by
  unfold RxRing.takeOverflow
  split
  · exact inv
  · exact inv

/-- A stretch of the queue that does not pass the end of the memory, read where it lies. -/
theorem RingInv.stretch (inv : RingInv ring.core queued) (inside : offset + length ≤ queued.length)
    (fits : (ring.readCursor + offset) % ring.capacity + length ≤ ring.capacity) :
    ring.memory.readAt ((ring.readCursor + offset) % ring.capacity) length =
      (queued.drop offset).take length := by
  have full : ring.memory.length = ring.capacity := inv.shape.full
  have queue : queued = window ring.memory ring.capacity ring.readCursor ring.core.used := inv.queue
  rw [inv.length_queued] at inside
  rw [queue, window_shift _ _ _ (by omega), window_take _ _ _ (by omega),
    window_eq_take_drop full fits]
  rfl

theorem RingInv.physical (inv : RingInv ring.core queued) (inside : offset ≤ queued.length) :
    cursorAdvance (ring.capacity * 2) ring.readCursor offset < ring.capacity * 2 ∧
      cursorPhysical ring.capacity (cursorAdvance (ring.capacity * 2) ring.readCursor offset) =
        (ring.readCursor + offset) % ring.capacity := by
  have within : ring.core.used ≤ ring.capacity := inv.within
  have bound : ring.readCursor < ring.capacity * 2 := inv.shape.read
  rw [inv.length_queued] at inside
  have advanced := cursorAdvance_lt bound (inside.trans within)
  exact ⟨advanced, (cursorPhysical_eq_mod advanced).trans (cursorAdvance_mod bound offset)⟩

theorem RingInv.scan_eq (inv : RingInv ring.core queued) (value : UInt8) (fuel : Nat)
    (inside : offset ≤ queued.length) (turns : queued.length - offset < fuel) :
    ring.scan value fuel offset =
      ((queued.drop offset).findIdx? (· == value)).map (offset + ·) := by
  have positive : 0 < ring.capacity := inv.shape.positive
  induction fuel generalizing offset with
  | zero => exact absurd turns (Nat.not_lt_zero _)
  | succ fuel ih =>
    rw [RxRing.scan, inv.readable_eq]
    split
    case isTrue more =>
      dsimp only
      obtain ⟨bound, place⟩ := inv.physical inside
      generalize cursor : cursorAdvance (ring.capacity * 2) ring.readCursor offset = there
        at bound place
      have short := contiguousLength_le ring.capacity there (queued.length - offset)
      have piece := physical_add_contiguousLength ring.capacity there (queued.length - offset)
        bound
      have some : 0 < contiguousLength ring.capacity there (queued.length - offset) := by
        have inRange : cursorPhysical ring.capacity there < ring.capacity := by
          rw [place]
          exact Nat.mod_lt _ positive
        unfold contiguousLength
        dsimp only
        split
        · omega
        · omega
      generalize contiguousLength ring.capacity there (queued.length - offset) = length at *
      have chunk := inv.stretch (show offset + length ≤ queued.length by omega)
        (by rw [← place]; exact piece)
      rw [place, chunk]
      have split : (queued.drop offset).findIdx? (· == value) =
          (((queued.drop offset).take length).findIdx? (· == value)).or
            (((queued.drop (offset + length)).findIdx? (· == value)).map (· + length)) := by
        have sized : ((queued.drop offset).take length).length = length := by
          rw [List.length_take, List.length_drop]
          omega
        conv_lhs => rw [← List.take_append_drop length (queued.drop offset)]
        rw [List.findIdx?_append, sized, List.drop_drop]
      rw [split]
      cases ((queued.drop offset).take length).findIdx? (· == value) with
      | some => rfl
      | none =>
        dsimp only
        rw [ih (by omega) (by omega), Option.none_or, Option.map_map]
        congr 1
        funext index
        rw [Function.comp_apply]
        omega
    case isFalse done =>
      have past : queued.drop offset = [] := List.drop_eq_nil_of_le (Nat.le_of_not_lt done)
      rw [past]
      rfl

/-- What the search cache may claim: the first zero of the bytes it has seen. -/
def FindInv (ring : RxRing) (queued : Bytes) : Prop :=
  ring.findValid = true →
    (ring.findScanned = 0 ∨ ring.findRead = ring.readCursor ∧ ring.findScanned ≤ queued.length) ∧
      (queued.take ring.findScanned).findIdx? (· == 0) =
        if ring.findFound then some ring.findOffset else none

theorem findInv_init {memory : Bytes} (built : RxRing.init memory = .ok ring) :
    FindInv ring queued := by
  unfold RxRing.init at built
  split at built
  · exact nomatch built
  · cases built
    exact nofun

theorem consumerConsume_findInv {rest : Bytes} (inv : RingInv ring.core queued)
    (enough : length ≤ queued.length) : FindInv (ring.consumerConsume length).1 rest := by
  rw [consumerConsume_eq inv, if_pos enough]
  exact nofun

theorem Produced.findInv {more : Bytes} {after : RxRing}
    (produced : Produced queued more ring after) (cache : FindInv ring queued) :
    FindInv after (queued ++ more) := by
  have aside := produced.aside
  unfold RxRing.aside at aside
  simp only [Prod.mk.injEq] at aside
  obtain ⟨⟨read, scanned, offset, valid, found⟩, -⟩ := aside
  intro holds
  rw [valid] at holds
  obtain ⟨place, seen⟩ := cache holds
  rw [read, scanned, offset, found]
  have short : ring.findScanned ≤ queued.length := by
    rcases place with zero | ⟨-, short⟩
    · rw [zero]
      exact Nat.zero_le _
    · exact short
  refine ⟨?_, ?_⟩
  · rcases place with zero | ⟨current, -⟩
    · exact .inl zero
    · by_cases empty : queued = []
      · rw [empty] at short
        exact .inl (Nat.le_zero.mp short)
      · rw [produced.read empty]
        refine .inr ⟨current, ?_⟩
        rw [List.length_append]
        omega
  · rw [List.take_append_of_le_length short]
    exact seen

theorem consumerFind_inv (inv : RingInv ring.core queued) (value : UInt8) :
    RingInv (ring.consumerFind value).1.core queued := by
  rw [core_consumerFind]
  exact inv

theorem consumerFind_eq (inv : RingInv ring.core queued) (cache : FindInv ring queued)
    (value : UInt8) :
    (ring.consumerFind value).2 =
        (match queued.findIdx? (· == value) with
        | some offset => .ok offset
        | none => .error .noData) ∧
      FindInv (ring.consumerFind value).1 queued := by
  have positive : 0 < ring.capacity := inv.shape.positive
  -- what is known of the part of the queue the cache has seen
  have known (offset : Nat) (inside : offset ≤ queued.length)
      (clean : (queued.take offset).findIdx? (· == value) = none) :
      ring.scan value (ring.readable + 1) offset = queued.findIdx? (· == value) := by
    rw [inv.scan_eq value _ inside (by rw [inv.readable_eq]; omega)]
    conv_rhs => rw [← List.take_append_drop offset queued]
    rw [List.findIdx?_append, clean, Option.none_or, List.length_take, Nat.min_eq_left inside]
    congr 1
    funext index
    exact Nat.add_comm _ _
  have whole : queued.take ring.readable = queued := by
    rw [inv.readable_eq, List.take_length]
  unfold RxRing.consumerFind
  rw [if_neg (Nat.ne_of_gt positive)]
  dsimp only
  split
  case isTrue hit =>
    simp only [Bool.and_eq_true, decide_eq_true_eq, beq_iff_eq] at hit
    obtain ⟨⟨⟨⟨rfl, valid⟩, -⟩, short⟩, found⟩ := hit
    obtain ⟨-, seen⟩ := cache valid
    rw [found, if_pos rfl] at seen
    have first : queued.findIdx? (· == 0) = some ring.findOffset := by
      conv_lhs => rw [← List.take_append_drop ring.findScanned queued]
      rw [List.findIdx?_append, seen]
      rfl
    rw [first]
    exact ⟨rfl, cache⟩
  case isFalse miss =>
    have scanned : ring.scan value (ring.readable + 1)
        (if (value == 0 && ring.findValid && ring.findRead == ring.readCursor &&
          decide (ring.findScanned ≤ ring.readable)) = true then ring.findScanned else 0) =
          queued.findIdx? (· == value) := by
      split
      case isTrue cached =>
        rw [cached, Bool.true_and, Bool.not_eq_true] at miss
        simp only [Bool.and_eq_true, decide_eq_true_eq, beq_iff_eq] at cached
        obtain ⟨⟨⟨rfl, valid⟩, -⟩, short⟩ := cached
        obtain ⟨-, seen⟩ := cache valid
        rw [miss] at seen
        rw [inv.readable_eq] at short
        exact known _ short seen
      case isFalse => exact known 0 (Nat.zero_le _) rfl
    rw [scanned]
    refine ⟨rfl, ?_⟩
    split
    case isFalse => exact cache
    case isTrue zero =>
      subst zero
      intro _
      refine ⟨.inr ⟨rfl, Nat.le_of_eq inv.readable_eq⟩, ?_⟩
      rw [whole]
      cases queued.findIdx? (· == 0) with
      | none | some => rfl

theorem RingInv.overwritten (inv : RingInv ring.core queued) {buffer : Bytes}
    (short : buffer.length ≤ queued.length)
    (fits : ring.readCursor % ring.capacity + buffer.length ≤ ring.capacity) :
    RingInv
      ({ ring with
        memory := ring.memory.writeAt (ring.readCursor % ring.capacity) buffer } : RxRing).core
      (buffer ++ queued.drop buffer.length) := by
  have full : ring.memory.length = ring.capacity := inv.shape.full
  have within : ring.core.used ≤ ring.capacity := inv.within
  have queue : queued = window ring.memory ring.capacity ring.readCursor ring.core.used := inv.queue
  have length : queued.length = ring.core.used := inv.length_queued
  have resized : (ring.memory.writeAt (ring.readCursor % ring.capacity) buffer).length =
      ring.capacity := by
    rw [Bytes.length_writeAt, full]
  refine ⟨{ inv.shape with full := resized }, inv.within, ?_,
    inv.spans.withMemory _⟩
  show buffer ++ queued.drop buffer.length = window
    (ring.memory.writeAt (ring.readCursor % ring.capacity) buffer) ring.capacity ring.readCursor
    ring.core.used
  rw [length] at short
  obtain ⟨_, split⟩ := Nat.exists_eq_add_of_le short
  rw [queue, split, window_shift _ _ _ (Nat.le_add_right _ _), window_add,
    Nat.add_sub_cancel_left]
  congr 1
  · rw [window_eq_take_drop resized fits]
    exact (Bytes.readAt_writeAt_self (by omega)).symm
  · -- the bytes behind the front lie at other places
    apply window_eq_of_agree
    intro index inside
    rw [List.getD_eq_getElem?_getD, List.getD_eq_getElem?_getD, Bytes.getElem?_writeAt, if_neg]
    rintro ⟨above, _, -⟩
    obtain ⟨step, place⟩ := Nat.exists_eq_add_of_le above
    have same : (ring.readCursor + step) % ring.capacity =
        (ring.readCursor + buffer.length + index) % ring.capacity := by
      rw [place, Nat.add_mod, Nat.mod_eq_of_lt (show step < ring.capacity by omega),
        Nat.mod_eq_of_lt (by omega)]
    exact mod_ne_of_sub_lt (by omega) (by omega) same

theorem consumerPeek_eq (inv : RingInv ring.core queued) (waiting : queued ≠ []) :
    ∃ length, ring.consumerPeek =
        some { offset := ring.readCursor % ring.capacity, length := length } ∧
      length ≤ queued.length ∧ ring.readCursor % ring.capacity + length ≤ ring.capacity := by
  have positive : 0 < ring.capacity := inv.shape.positive
  have bound : ring.readCursor < ring.capacity * 2 := inv.shape.read
  have some : ring.readable ≠ 0 := by
    rw [inv.readable_eq]
    exact fun none => waiting (List.length_eq_zero_iff.mp none)
  refine ⟨contiguousLength ring.capacity ring.readCursor ring.readable, ?_, ?_, ?_⟩
  · unfold RxRing.consumerPeek
    rw [if_neg (not_or.mpr ⟨Nat.ne_of_gt positive, some⟩), cursorPhysical_eq_mod bound]
  · rw [← inv.readable_eq]
    exact contiguousLength_le _ _ _
  · rw [← cursorPhysical_eq_mod bound]
    exact physical_add_contiguousLength _ _ _ bound

theorem consumerCopy_eq (inv : RingInv ring.core queued) (short : offset + length ≤ queued.length) :
    ring.consumerCopy offset length = .ok ((queued.drop offset).take length) := by
  have positive : 0 < ring.capacity := inv.shape.positive
  have within : ring.core.used ≤ ring.capacity := inv.within
  have sized := inv.length_queued
  obtain ⟨bound, place⟩ := inv.physical (show offset ≤ queued.length by omega)
  unfold RxRing.consumerCopy
  rw [if_neg (Nat.ne_of_gt positive), if_neg (by rw [inv.readable_eq]; omega)]
  dsimp only
  generalize cursorAdvance (ring.capacity * 2) ring.readCursor offset = there at bound place ⊢
  have least := contiguousLength_le ring.capacity there length
  have piece := physical_add_contiguousLength ring.capacity there length bound
  have rest : length - contiguousLength ring.capacity there length ≠ 0 →
      cursorPhysical ring.capacity there + contiguousLength ring.capacity there length =
        ring.capacity := by
    intro more
    exact contiguousLength_of_lt bound (by omega)
  rw [place] at piece rest ⊢
  generalize contiguousLength ring.capacity there length = first at *
  rw [inv.stretch (by omega) piece]
  by_cases wraps : length - first = 0
  · rw [wraps, Bytes.readAt_zero, List.append_nil, show first = length by omega]
  · have start : (ring.readCursor + (offset + first)) % ring.capacity = 0 := by
      rw [← Nat.add_assoc, ← Nat.mod_add_mod, rest wraps, Nat.mod_self]
    have tail := inv.stretch (show offset + first + (length - first) ≤ queued.length by omega)
      (by rw [start]; omega)
    have parts : length = first + (length - first) := by omega
    rw [← start, tail]
    conv_rhs => rw [parts, List.take_add, List.drop_drop]

end consumer

end Wirelink
