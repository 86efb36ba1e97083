/-
Module: Wirelink.Proofs.RingQueue
Purpose: The receive ring as a queue of bytes. The invariant names the queued bytes and says that
  they are the window between the cursors, and that a reservation or a DMA claim lies in the free
  space behind the write cursor. Each operation of the ring keeps it and does to the queue what its
  name says.
Trusted boundary: none
-/
import Wirelink.Proofs.RingCursor
import Wirelink.Spec.RingAccess

namespace Wirelink

/-! ### The invariant

The queue is the window of the memory between the two cursors, read around the end of the memory. -/

/-- The part of a ring the queue lives in: everything but the overflow count, the search cache and
the token counter. -/
structure RingCore where
  memory : Bytes
  capacity : Nat
  readCursor : Nat
  writeCursor : Nat
  reservationCursor : Nat
  reservationLength : Nat
  reservationActive : Bool
  dmaClaim : RxDmaClaim

/-- The core of a ring. -/
def RxRing.core (ring : RxRing) : RingCore :=
  { memory := ring.memory, capacity := ring.capacity, readCursor := ring.readCursor,
    writeCursor := ring.writeCursor, reservationCursor := ring.reservationCursor,
    reservationLength := ring.reservationLength, reservationActive := ring.reservationActive,
    dmaClaim := ring.dmaClaim }

/-- The distance between the cursors. -/
def RingCore.used (core : RingCore) : Nat :=
  cursorDistance (core.capacity * 2) core.readCursor core.writeCursor

/-- A ring with memory, and cursors in range. -/
structure RingShape (core : RingCore) : Prop where
  positive : 0 < core.capacity
  full : core.memory.length = core.capacity
  read : core.readCursor < core.capacity * 2
  write : core.writeCursor < core.capacity * 2

/-- A span of `length` bytes at the write cursor is free and in one piece. -/
structure FreeSpan (core : RingCore) (length : Nat) : Prop where
  room : core.used + length ≤ core.capacity
  fits : core.writeCursor % core.capacity + length ≤ core.capacity

/-- A DMA claim starts `published` bytes before the write cursor, and its rest is free. -/
structure ClaimSpan (core : RingCore) (claim : RxDmaClaim) : Prop where
  cursor : claim.cursor < core.capacity * 2
  fits : claim.cursor % core.capacity + claim.length ≤ core.capacity
  published : claim.published ≤ claim.length
  write : core.writeCursor = cursorAdvance (core.capacity * 2) claim.cursor claim.published
  room : core.used + (claim.length - claim.published) ≤ core.capacity

/-- What the producer holds lies in the free space. -/
structure SpanInv (core : RingCore) : Prop where
  reserved : core.reservationActive = true →
    core.reservationCursor = core.writeCursor ∧ FreeSpan core core.reservationLength
  claimed : core.dmaClaim.active = true → ClaimSpan core core.dmaClaim
  alone : core.reservationActive = true → core.dmaClaim.active = false

theorem SpanInv.withMemory {core : RingCore} (spans : SpanInv core) (memory : Bytes) :
    SpanInv { core with memory := memory } := by
  refine ⟨?_, ?_, spans.alone⟩
  · intro active
    obtain ⟨cursor, span⟩ := spans.reserved active
    exact ⟨cursor, span.room, span.fits⟩
  · intro active
    obtain ⟨cursor, fits, published, write, room⟩ := spans.claimed active
    exact ⟨cursor, fits, published, write, room⟩

/-- The ring holds exactly the bytes `queued`. -/
structure RingInv (core : RingCore) (queued : Bytes) : Prop where
  shape : RingShape core
  within : core.used ≤ core.capacity
  queue : queued = window core.memory core.capacity core.readCursor core.used
  spans : SpanInv core

theorem window_writeAt_behind {memory : Bytes} {capacity start count place offset : Nat}
    {data : Bytes} (behind : place % capacity = (start + count) % capacity)
    (room : count + (offset + data.length) ≤ capacity)
    (fits : place % capacity + (offset + data.length) ≤ capacity) :
    window (memory.writeAt (place % capacity + offset) data) capacity start count =
      window memory capacity start count := by
  apply window_eq_of_agree
  intro index inside
  rw [List.getD_eq_getElem?_getD, List.getD_eq_getElem?_getD, Bytes.getElem?_writeAt]
  rw [if_neg]
  rintro ⟨above, _, -⟩
  -- a place of the written span is `count + step` places behind the start of the window
  obtain ⟨step, isStep⟩ := Nat.exists_eq_add_of_le above
  have placed : (start + count + (offset + step)) % capacity = (start + index) % capacity := by
    rw [Nat.add_mod, ← behind, Nat.add_mod_mod, Nat.mod_eq_of_lt (by omega), isStep, Nat.add_assoc]
  refine mod_ne_of_sub_lt ?_ ?_ placed.symm <;> omega

section operations

variable {ring : RxRing} {queued : Bytes}

variable {core : RingCore} {length : Nat}

theorem RingInv.length_queued (inv : RingInv core queued) :
    queued.length = core.used := by
  rw [inv.queue, length_window]

theorem RingInv.readable_eq (inv : RingInv ring.core queued) : ring.readable = queued.length := by
  rw [inv.length_queued]
  exact if_pos inv.within

theorem RingInv.content (inv : RingInv ring.core queued) : ring.content = queued := by
  rw [RxRing.content, inv.readable_eq, inv.length_queued]
  exact inv.queue.symm

theorem RingInv.behind (inv : RingInv core queued) :
    core.writeCursor % core.capacity = (core.readCursor + core.used) % core.capacity :=
  write_mod inv.shape.read

/-! ### The producer

A reservation and the rest of a claim are free spans behind the write cursor. A store into one
leaves the window alone; a commit or a publication moves the cursor over it. -/

theorem RingInv.freeSpan (inv : RingInv core queued)
    (short : length ≤ contiguousLength core.capacity core.writeCursor
      (core.capacity - core.used)) : FreeSpan core length := by
  have available := contiguousLength_le core.capacity core.writeCursor (core.capacity - core.used)
  have piece := physical_add_contiguousLength core.capacity core.writeCursor
    (core.capacity - core.used) inv.shape.write
  have within := inv.within
  rw [cursorPhysical_eq_mod inv.shape.write] at piece
  constructor
  · omega
  · omega

theorem RingInv.reserveWith (inv : RingInv ring.core queued)
    (free : ring.dmaClaim.active = false) :
    RingInv (ring.reserveWith ring.writeCursor ring.readCursor).core queued := by
  unfold RxRing.reserveWith
  dsimp only
  split
  · exact inv
  · refine ⟨{ inv.shape with }, inv.within,
      inv.queue, ?_, ?_, ?_⟩
    · intro _
      have span := inv.freeSpan (Nat.le_refl _)
      exact ⟨rfl, span.room, span.fits⟩
    · intro active
      exact nomatch free.symm.trans active
    · intro _
      exact free

theorem RingInv.store (inv : RingInv core queued) {offset : Nat} {data : Bytes}
    (span : FreeSpan core length) (inside : offset + data.length ≤ length) :
    queued = window (core.memory.writeAt (core.writeCursor % core.capacity + offset) data)
      core.capacity core.readCursor core.used := by
  have room := span.room
  have fits := span.fits
  rw [window_writeAt_behind inv.behind (by omega) (by omega)]
  exact inv.queue

theorem RingInv.stored (inv : RingInv ring.core queued) {offset : Nat} {data : Bytes}
    (span : FreeSpan ring.core length) (inside : offset + data.length ≤ length) :
    RingInv
      ({ ring with
        memory := ring.memory.writeAt (ring.writeCursor % ring.capacity + offset) data } :
        RxRing).core queued := by
  have kept := inv.store span inside
  obtain ⟨shape, within, -, spans⟩ := inv
  refine ⟨{ shape with full := ?_ }, within, kept, spans.withMemory _⟩
  exact (Bytes.length_writeAt _ _ _).trans shape.full

theorem RingInv.producerStore (inv : RingInv ring.core queued) (offset : Nat) (data : Bytes) :
    RingInv (ring.producerStore offset data).core queued := by
  unfold RxRing.producerStore
  split
  case isTrue held =>
    obtain ⟨same, span⟩ := inv.spans.reserved held.1
    have place : cursorPhysical ring.capacity ring.reservationCursor =
        ring.writeCursor % ring.capacity := by
      rw [show ring.reservationCursor = ring.writeCursor from same]
      exact cursorPhysical_eq_mod inv.shape.write
    rw [place]
    exact inv.stored span held.2
  case isFalse => exact inv

theorem ClaimSpan.place {claim : RxDmaClaim} (span : ClaimSpan core claim)
    (unfinished : claim.published < claim.length) :
    core.writeCursor % core.capacity = claim.cursor % core.capacity + claim.published := by
  have fits := span.fits
  rw [span.write, cursorAdvance_mod span.cursor, Nat.add_mod, Nat.add_mod_mod]
  exact Nat.mod_eq_of_lt (by omega)

theorem ClaimSpan.physical (span : ClaimSpan ring.core ring.dmaClaim)
    (unfinished : ring.dmaClaim.published < ring.dmaClaim.length) :
    cursorPhysical ring.capacity ring.dmaClaim.cursor + ring.dmaClaim.published =
      ring.writeCursor % ring.capacity :=
  (congrArg (· + _) (cursorPhysical_eq_mod span.cursor)).trans (span.place unfinished).symm

theorem ClaimSpan.free {claim : RxDmaClaim} (span : ClaimSpan core claim)
    (positive : 0 < core.capacity) : FreeSpan core (claim.length - claim.published) := by
  have fits := span.fits
  refine ⟨span.room, ?_⟩
  by_cases unfinished : claim.published < claim.length
  · rw [span.place unfinished]
    omega
  · have bound := Nat.mod_lt core.writeCursor positive
    omega

theorem RingInv.dmaStore (inv : RingInv ring.core queued) (offset : Nat) (data : Bytes) :
    RingInv (ring.dmaStore offset data).core queued := by
  unfold RxRing.dmaStore
  split
  case isTrue held =>
    obtain ⟨active, _, inside⟩ := held
    have span := inv.spans.claimed active
    cases data with
    | nil => exact inv
    | cons value rest =>
      have unfinished : ring.dmaClaim.published < ring.dmaClaim.length := by
        simp only [List.length_cons] at inside
        omega
      have place : cursorPhysical ring.capacity ring.dmaClaim.cursor + offset =
          ring.writeCursor % ring.capacity + (offset - ring.dmaClaim.published) := by
        have physical := span.physical unfinished
        omega
      rw [place]
      refine inv.stored (span.free inv.shape.positive) ?_
      show offset - ring.dmaClaim.published + (value :: rest).length ≤
        ring.dmaClaim.length - ring.dmaClaim.published
      omega
  case isFalse => exact inv

theorem RingInv.advance (inv : RingInv core queued) (span : FreeSpan core length) :
    cursorAdvance (core.capacity * 2) core.writeCursor length < core.capacity * 2 ∧
      cursorDistance (core.capacity * 2) core.readCursor
        (cursorAdvance (core.capacity * 2) core.writeCursor length) = core.used + length ∧
      queued ++ core.memory.readAt (core.writeCursor % core.capacity) length =
        window core.memory core.capacity core.readCursor (core.used + length) := by
  have room := span.room
  refine ⟨cursorAdvance_lt inv.shape.write (by omega), ?_, ?_⟩
  · exact cursorDistance_advance inv.shape.read inv.shape.write span.room
  · rw [window_add, ← inv.queue, window_congr inv.behind.symm,
      window_eq_take_drop inv.shape.full span.fits]
    rfl

theorem producerCommit_cases (ring : RxRing) (length : Nat) :
    (∃ err, err ≠ .ok ∧ ring.producerCommit length = (ring, err)) ∨
      ring.reservationActive = true ∧ length ≤ ring.reservationLength ∧
        ring.producerCommit length =
          ({ ring with
              writeCursor := cursorAdvance (ring.capacity * 2) ring.reservationCursor length
              reservationCursor := 0, reservationLength := 0, reservationActive := false },
            .ok) := by
  unfold RxRing.producerCommit
  split
  · exact .inl ⟨.notInitialized, by decide, rfl⟩
  split
  · exact .inl ⟨.invalidState, by decide, rfl⟩
  case isFalse active =>
    split
    · exact .inl ⟨.invalidArg, by decide, rfl⟩
    case isFalse short => exact .inr ⟨not_not.mp active, Nat.le_of_not_lt short, rfl⟩

theorem RingInv.committed (inv : RingInv ring.core queued)
    (active : ring.reservationActive = true) {length : Nat}
    (short : length ≤ ring.reservationLength) :
    RingInv
      ({ ring with
        writeCursor := cursorAdvance (ring.capacity * 2) ring.reservationCursor length
        reservationCursor := 0, reservationLength := 0, reservationActive := false } : RxRing).core
      (queued ++ ring.memory.readAt (cursorPhysical ring.capacity ring.reservationCursor)
        length) := by
  obtain ⟨same, whole⟩ := inv.spans.reserved active
  have same' : ring.reservationCursor = ring.writeCursor := same
  have span : FreeSpan ring.core length := by
    have room := whole.room
    have fits := whole.fits
    have shorter : length ≤ ring.core.reservationLength := short
    exact ⟨by omega, by omega⟩
  obtain ⟨bound, distance, content⟩ := inv.advance span
  have room := span.room
  have physical : cursorPhysical ring.capacity ring.writeCursor =
      ring.writeCursor % ring.capacity := cursorPhysical_eq_mod inv.shape.write
  rw [same', physical]
  refine ⟨{ inv.shape with write := bound }, ?_, ?_, ?_, ?_, ?_⟩
  · exact distance.trans_le room
  · exact content.trans (congrArg _ distance.symm)
  · exact nofun
  · intro claimed
    exact nomatch (inv.spans.alone active).symm.trans claimed
  · exact nofun

theorem RingInv.claimWith (inv : RingInv ring.core queued) (maximumLength : Nat)
    (free : ring.reservationActive = false) :
    RingInv (ring.claimWith maximumLength ring.writeCursor ring.readCursor).core queued := by
  unfold RxRing.claimWith
  dsimp only
  split
  · exact inv
  · generalize bounded : (if contiguousLength ring.capacity ring.writeCursor
        (ring.capacity - cursorDistance (ring.capacity * 2) ring.readCursor ring.writeCursor) >
          maximumLength then maximumLength else _) = length
    have span : FreeSpan ring.core length := by
      apply inv.freeSpan
      show length ≤ contiguousLength ring.capacity ring.writeCursor
        (ring.capacity - cursorDistance (ring.capacity * 2) ring.readCursor ring.writeCursor)
      rw [← bounded]
      split <;> omega
    split
    · exact inv
    · refine ⟨{ inv.shape with }, inv.within,
        inv.queue, ?_, ?_, ?_⟩
      · intro active
        exact nomatch free.symm.trans active
      · intro _
        exact ⟨inv.shape.write, span.fits, Nat.zero_le _,
          (cursorAdvance_zero inv.shape.write).symm, span.room⟩
      · intro active
        exact nomatch free.symm.trans active

theorem dmaPublish_cases (ring : RxRing) (token : UInt32) (offset length : Nat) :
    (∃ err, err ≠ .ok ∧ ring.dmaPublish token offset length = (ring, err)) ∨
      ring.dmaClaim.active = true ∧ offset = ring.dmaClaim.published ∧
        length ≤ ring.dmaClaim.length - ring.dmaClaim.published ∧
        ring.dmaPublish token offset length =
          ({ ring with
              dmaClaim := { ring.dmaClaim with published := ring.dmaClaim.published + length }
              writeCursor := cursorAdvance (ring.capacity * 2) ring.dmaClaim.cursor
                (ring.dmaClaim.published + length) },
            .ok) := by
  unfold RxRing.dmaPublish
  split
  · exact .inl ⟨.invalidArg, by decide, rfl⟩
  split
  · exact .inl ⟨.notInitialized, by decide, rfl⟩
  split
  · exact .inl ⟨.invalidState, by decide, rfl⟩
  case isFalse allowed =>
    simp only [not_or, not_not] at allowed
    obtain ⟨⟨active, -⟩, next, short⟩ := allowed
    subst next
    exact .inr ⟨active, rfl, Nat.le_of_not_lt short, rfl⟩

theorem RingInv.published (inv : RingInv ring.core queued) (active : ring.dmaClaim.active = true)
    (short : length ≤ ring.dmaClaim.length - ring.dmaClaim.published) :
    RingInv
      ({ ring with
        dmaClaim := { ring.dmaClaim with published := ring.dmaClaim.published + length }
        writeCursor := cursorAdvance (ring.capacity * 2) ring.dmaClaim.cursor
          (ring.dmaClaim.published + length) } : RxRing).core
      (queued ++ ring.memory.readAt
        (cursorPhysical ring.capacity ring.dmaClaim.cursor + ring.dmaClaim.published)
        length) := by
  have claim := inv.spans.claimed active
  have published : ring.dmaClaim.published ≤ ring.dmaClaim.length := claim.published
  have fits : ring.dmaClaim.cursor % ring.capacity + ring.dmaClaim.length ≤ ring.capacity :=
    claim.fits
  have room : ring.core.used + (ring.dmaClaim.length - ring.dmaClaim.published) ≤ ring.capacity :=
    claim.room
  have span : FreeSpan ring.core length := by
    have free : ring.writeCursor % ring.capacity +
        (ring.dmaClaim.length - ring.dmaClaim.published) ≤ ring.capacity :=
      (claim.free inv.shape.positive).fits
    constructor
    · show ring.core.used + length ≤ ring.capacity
      omega
    · show ring.writeCursor % ring.capacity + length ≤ ring.capacity
      omega
  obtain ⟨bound, distance, content⟩ := inv.advance span
  have cursor : cursorAdvance (ring.capacity * 2) ring.dmaClaim.cursor
      (ring.dmaClaim.published + length) =
        cursorAdvance (ring.capacity * 2) ring.writeCursor length := by
    rw [show ring.writeCursor = _ from claim.write]
    refine (cursorAdvance_add claim.cursor ?_).symm
    show ring.dmaClaim.published + length ≤ ring.capacity
    omega
  -- the next byte to publish is the one at the write cursor, unless the claim is used up
  have bytes : ring.memory.readAt
      (cursorPhysical ring.capacity ring.dmaClaim.cursor + ring.dmaClaim.published) length =
        ring.memory.readAt (ring.writeCursor % ring.capacity) length := by
    cases length with
    | zero => simp
    | succ =>
      have unfinished : ring.dmaClaim.published < ring.dmaClaim.length := by omega
      rw [claim.physical unfinished]
  rw [bytes, cursor]
  refine ⟨{ inv.shape with write := bound }, ?_, ?_, ?_, ?_, ?_⟩
  · exact distance.trans_le span.room
  · exact content.trans (congrArg _ distance.symm)
  · intro reserved
    exact nomatch (inv.spans.alone reserved).symm.trans active
  · intro _
    refine ⟨claim.cursor, claim.fits, ?_, cursor.symm, ?_⟩
    · show ring.dmaClaim.published + length ≤ ring.dmaClaim.length
      omega
    · have moved : cursorDistance (ring.capacity * 2) ring.readCursor
          (cursorAdvance (ring.capacity * 2) ring.writeCursor length) =
            ring.core.used + length := distance
      show cursorDistance (ring.capacity * 2) ring.readCursor
          (cursorAdvance (ring.capacity * 2) ring.writeCursor length) +
            (ring.dmaClaim.length - (ring.dmaClaim.published + length)) ≤ ring.capacity
      omega
  · exact inv.spans.alone

theorem RingInv.claimEnded (inv : RingInv ring.core queued) :
    RingInv ({ ring with dmaClaim := RxRing.noDmaClaim } : RxRing).core queued := by
  refine ⟨{ inv.shape with }, inv.within,
    inv.queue, ?_, ?_, ?_⟩
  · intro active
    obtain ⟨cursor, span⟩ := inv.spans.reserved active
    exact ⟨cursor, span.room, span.fits⟩
  · exact nofun
  · exact fun _ => rfl

/-! ### The consumer -/

theorem RingInv.consumed (inv : RingInv ring.core queued) (enough : length ≤ queued.length) :
    RingInv
      ({ ring with readCursor := cursorAdvance (ring.capacity * 2) ring.readCursor length } :
        RxRing).core (queued.drop length) := by
  rw [inv.length_queued] at enough
  have within := inv.within
  have bound := cursorAdvance_lt inv.shape.read (enough.trans within)
  have distance : cursorDistance (ring.capacity * 2)
      (cursorAdvance (ring.capacity * 2) ring.readCursor length) ring.writeCursor =
        ring.core.used - length :=
    cursorDistance_advance_read inv.shape.read inv.shape.write enough within
  have less (extra : Nat) (room : ring.core.used + extra ≤ ring.capacity) :
      cursorDistance (ring.capacity * 2)
        (cursorAdvance (ring.capacity * 2) ring.readCursor length) ring.writeCursor + extra ≤
          ring.capacity := by
    omega
  refine ⟨{ inv.shape with read := bound }, less 0 within, ?_, ?_, ?_,
    inv.spans.alone⟩
  · rw [inv.queue, window_shift _ _ _ enough, ← distance]
    exact window_congr (cursorAdvance_mod inv.shape.read length).symm _
  · intro active
    obtain ⟨cursor, span⟩ := inv.spans.reserved active
    exact ⟨cursor, less _ span.room, span.fits⟩
  · intro active
    obtain ⟨cursor, fits, published, write, room⟩ := inv.spans.claimed active
    exact ⟨cursor, fits, published, write, less _ room⟩

/-- An empty ring without spans may start anywhere. -/
theorem RingInv.restart (shape : RingShape ring.core) {reset : Nat}
    (bound : reset ≤ ring.capacity) (noReservation : ring.reservationActive = false)
    (noClaim : ring.dmaClaim.active = false) :
    RingInv ({ ring with readCursor := reset, writeCursor := reset } : RxRing).core [] := by
  have positive : 0 < ring.capacity := shape.positive
  have inRange : reset < ring.capacity * 2 := by omega
  have empty : cursorDistance (ring.capacity * 2) reset reset = 0 := cursorDistance_self _ _
  refine ⟨⟨positive, shape.full, inRange, inRange⟩, ?_, ?_, ?_, ?_, ?_⟩
  · exact empty.trans_le (Nat.zero_le _)
  · show [] = window _ _ _ (cursorDistance (ring.capacity * 2) reset reset)
    rw [empty, window_zero]
  · intro active
    exact nomatch noReservation.symm.trans active
  · intro active
    exact nomatch noClaim.symm.trans active
  · intro active
    exact nomatch noReservation.symm.trans active

theorem ringInv_init {memory : Bytes} (built : RxRing.init memory = .ok ring) :
    RingInv ring.core [] := by
  unfold RxRing.init at built
  split at built
  · exact nomatch built
  case isFalse sized =>
    cases built
    have positive : 0 < memory.length := by omega
    have shape : RingShape ({ RxRing.empty with
        memory := memory, capacity := memory.length, dmaNextToken := 1 } : RxRing).core :=
      ⟨positive, rfl, Nat.mul_pos positive Nat.two_pos, Nat.mul_pos positive Nat.two_pos⟩
    exact RingInv.restart shape (Nat.zero_le _) rfl rfl

end operations

end Wirelink
