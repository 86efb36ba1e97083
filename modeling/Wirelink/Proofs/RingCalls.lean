/-
Module: Wirelink.Proofs.RingCalls
Purpose: The calls of the receive ring cut into accesses. What the end of a call leaves alone, and
  that the accesses of one call, run without the other side in between, are the call.
Trusted boundary: none
-/
import Wirelink.Proofs.RingQueue

namespace Wirelink

/-! ### What a call leaves alone -/

theorem claimWith_cursors (ring : RxRing) (maximumLength write read : Nat) :
    (ring.claimWith maximumLength write read).capacity = ring.capacity ∧
      (ring.claimWith maximumLength write read).readCursor = ring.readCursor := by
  unfold RxRing.claimWith
  dsimp only
  split
  · exact ⟨rfl, rfl⟩
  · generalize (if contiguousLength ring.capacity write _ > maximumLength then maximumLength
      else _) = length
    split
    · exact ⟨rfl, rfl⟩
    · exact ⟨rfl, rfl⟩

theorem reserveWith_cursors (ring : RxRing) (write read : Nat) :
    (ring.reserveWith write read).capacity = ring.capacity ∧
      (ring.reserveWith write read).readCursor = ring.readCursor := by
  unfold RxRing.reserveWith
  dsimp only
  split
  · exact ⟨rfl, rfl⟩
  · exact ⟨rfl, rfl⟩

theorem claimWith_readable (ring : RxRing) (maximumLength write read : Nat) :
    (ring.claimWith maximumLength write read).readable = ring.readable := by
  unfold RxRing.claimWith
  dsimp only
  split
  · rfl
  · generalize (if contiguousLength ring.capacity write _ > maximumLength then maximumLength
      else _) = length
    split
    · rfl
    · rfl

/-- The part of the ring a consumer call has loaded from. -/
def RxRing.readSide (ring : RxRing) : Nat × Nat :=
  (ring.capacity, ring.readCursor)

section

variable (ring : RxRing)

include ring

theorem readSide_producerStore (offset : Nat) (data : Bytes) :
    (ring.producerStore offset data).readSide = ring.readSide := by
  unfold RxRing.producerStore
  split
  · rfl
  · rfl

theorem readSide_dmaStore (offset : Nat) (data : Bytes) :
    (ring.dmaStore offset data).readSide = ring.readSide := by
  unfold RxRing.dmaStore
  split
  · rfl
  · rfl

theorem readSide_dmaFinish (token : UInt32) :
    (ring.dmaFinish token).1.readSide = ring.readSide := by
  unfold RxRing.dmaFinish
  split
  · rfl
  split
  · rfl
  split
  · rfl
  · rfl

theorem readSide_noteOverflow : ring.noteOverflow.readSide = ring.readSide := by
  unfold RxRing.noteOverflow
  split
  · rfl
  · rfl

theorem readSide_dmaAbort : ring.dmaAbort.1.readSide = ring.readSide := by
  unfold RxRing.dmaAbort
  split
  · rfl
  split
  · rfl
  · exact readSide_noteOverflow _

theorem core_consumerFind (value : UInt8) : (ring.consumerFind value).1.core = ring.core := by
  unfold RxRing.consumerFind
  dsimp only
  split
  · rfl
  split
  · rfl
  · dsimp only
    split
    · rfl
    · rfl

theorem core_findWith (value : UInt8) (write read : Nat) :
    (ring.findWith value write read).core = ring.core := by
  have found := core_consumerFind
    ({ ring with readCursor := read, writeCursor := write } : RxRing) value
  exact congrArg (fun core : RingCore => { core with
    readCursor := ring.readCursor, writeCursor := ring.writeCursor }) found

end

/-! ### Calls without interleaving

The two levels of the ring agree: the accesses of a call that starts from an idle side and is not
interrupted leave the ring that the call as a whole leaves. -/

section alone

variable {shared : SharedRing}

theorem producerNext_idle (idle : shared.producer = .idle) : shared.producerNext = shared := by
  rw [SharedRing.producerNext, idle]

theorem consumerNext_idle (idle : shared.consumer = .idle) : shared.consumerNext = shared := by
  rw [SharedRing.consumerNext, idle]

theorem producerFree_iff (idle : shared.producer = .idle) :
    shared.producerFree = true ↔ shared.ring.capacity ≠ 0 ∧
      (shared.ring.reservationActive || shared.ring.dmaClaim.active) ≠ true := by
  simp [SharedRing.producerFree, idle, and_assoc]

theorem reserve_alone (idle : shared.producer = .idle) :
    (runShared shared [.reserve, .producerNext]).ring = shared.ring.producerReserve.1 := by
  show (shared.step .reserve).producerNext.ring = _
  rw [SharedRing.step]
  unfold RxRing.producerReserve
  split
  case isTrue free =>
    obtain ⟨sized, none⟩ := (producerFree_iff idle).mp free
    show shared.ring.reserveWith shared.ring.writeCursor shared.ring.readCursor = _
    unfold RxRing.reserveWith
    dsimp only
    split
    · rfl
    · rfl
  case isFalse busy =>
    rw [producerNext_idle idle]
    rw [producerFree_iff idle] at busy
    split
    · rfl
    case isFalse sized =>
      rw [if_pos (not_not.mp fun none => busy ⟨sized, none⟩)]

theorem dmaClaimOp_eq_claimWith (ring : RxRing) {maximumLength : Nat} (asked : maximumLength ≠ 0)
    (sized : ring.capacity ≠ 0)
    (none : (ring.reservationActive || ring.dmaClaim.active) ≠ true) :
    (ring.dmaClaimOp maximumLength).1 = (ring.normalized maximumLength).claimWith maximumLength
      (ring.normalized maximumLength).writeCursor (ring.normalized maximumLength).readCursor := by
  unfold RxRing.dmaClaimOp RxRing.claimWith
  rw [if_neg asked, if_neg sized, if_neg none]
  dsimp only
  split
  · rfl
  · generalize (if contiguousLength (ring.normalized maximumLength).capacity _ _ > maximumLength
      then maximumLength else _) = length
    split
    · rfl
    · rfl

theorem claim_alone (idle : shared.producer = .idle) (maximumLength : Nat) :
    (runShared shared [.claim maximumLength, .producerNext, .producerNext, .producerNext]).ring =
      (shared.ring.dmaClaimOp maximumLength).1 := by
  show (shared.step (.claim maximumLength)).producerNext.producerNext.producerNext.ring = _
  rw [SharedRing.step]
  split
  case isTrue free =>
    obtain ⟨asked, free⟩ := free
    obtain ⟨sized, none⟩ := (producerFree_iff idle).mp free
    rw [dmaClaimOp_eq_claimWith _ asked sized none]
    unfold RxRing.normalized
    rw [SharedRing.producerNext.eq_def
      { shared with producer := .claiming maximumLength shared.ring.writeCursor }]
    dsimp only
    split
    · rfl
    · rfl
  case isFalse busy =>
    rw [producerNext_idle idle, producerNext_idle idle, producerNext_idle idle]
    rw [producerFree_iff idle] at busy
    unfold RxRing.dmaClaimOp
    split
    · rfl
    case isFalse asked =>
    split
    · rfl
    case isFalse sized =>
      rw [if_pos (not_not.mp fun none => busy ⟨asked, sized, none⟩)]

theorem find_alone (idle : shared.consumer = .idle) (value : UInt8) :
    (runShared shared [.call (.find value), .consumerNext]).ring =
      (shared.ring.consumerFind value).1 := by
  show (shared.step (.call (.find value))).consumerNext.ring = _
  rw [SharedRing.step]
  split
  case isTrue =>
    have kept := core_consumerFind shared.ring value
    show shared.ring.findWith value shared.ring.writeCursor shared.ring.readCursor = _
    unfold RxRing.findWith
    have read : (shared.ring.consumerFind value).1.readCursor = shared.ring.readCursor :=
      congrArg RingCore.readCursor kept
    have write : (shared.ring.consumerFind value).1.writeCursor = shared.ring.writeCursor :=
      congrArg RingCore.writeCursor kept
    nth_rewrite 2 [← read]
    nth_rewrite 2 [← write]
    rfl
  case isFalse absent =>
    rw [consumerNext_idle idle]
    unfold RxRing.consumerFind
    rw [if_pos (not_not.mp fun sized => absent ⟨idle, sized⟩)]

theorem consume_alone (idle : shared.consumer = .idle) (length : Nat) :
    (runShared shared [.call (.consume length), .consumerNext, .consumerNext]).ring =
      (shared.ring.consumerConsume length).1 := by
  show (shared.step (.call (.consume length))).consumerNext.consumerNext.ring = _
  rw [SharedRing.step]
  unfold RxRing.consumerConsume
  split
  case isTrue called =>
    rw [if_neg called.2]
    rw [SharedRing.consumerNext.eq_def
      { shared with consumer := .loaded (.consume length) shared.ring.writeCursor }]
    unfold SharedRing.snapshotTaken
    dsimp only
    split
    case isTrue short =>
      rw [if_pos (show length > shared.ring.readable from short)]
      rfl
    case isFalse enough =>
      rw [if_neg (show ¬ length > shared.ring.readable from enough)]
      rfl
  case isFalse absent =>
    rw [consumerNext_idle idle, consumerNext_idle idle]
    rw [if_pos (not_not.mp fun sized => absent ⟨idle, sized⟩)]

end alone

end Wirelink
