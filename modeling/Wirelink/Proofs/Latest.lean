/-
Module: Wirelink.Proofs.Latest
Purpose: The latest-value mailbox under every interleaving of its writer and its reader. Each access
  permutes the three slots among the back, the middle and the front, so that what is published and what
  is borrowed lies where the writer does not store.
Trusted boundary: none
-/
import Wirelink.Proofs.SpscSlots
import Wirelink.Spec.Latest

namespace Wirelink

theorem slot_word : ∀ index ∈ ([0, 1, 2] : List UInt32), index &&& wlLatestIndexMask = index ∧
    index &&& wlLatestDirty = 0 ∧ (index ||| wlLatestDirty) &&& wlLatestIndexMask = index ∧
    (index ||| wlLatestDirty) &&& wlLatestDirty ≠ 0 := by
  rw [List.forall_mem_cons, List.forall_mem_cons, List.forall_mem_singleton]
  decide

theorem first_slots : List.Perm [0, 1 &&& wlLatestIndexMask, 2] [0, 1, 2] ∧
    (1 &&& wlLatestDirty != 0) = false := by
  decide

theorem toNat_counterIncrement {counter : UInt32} (room : counter.toNat + 1 < 2 ^ 32) :
    (spscCounterIncrement counter).toNat = counter.toNat + 1 := by
  unfold spscCounterIncrement
  rw [if_neg]
  · exact Nat.mod_eq_of_lt room
  · rintro rfl
    exact absurd room (by decide)

theorem counterIncrement_ne_zero (counter : UInt32) : spscCounterIncrement counter ≠ 0 := by
  unfold spscCounterIncrement
  split
  · rename_i full
    rw [full]
    decide
  · rename_i short
    intro zero
    have sum : (counter + 1).toNat = (counter.toNat + 1) % 2 ^ 32 := UInt32.toNat_add _ _
    have small := counter.toNat_lt
    rw [zero] at sum
    exact short (UInt32.toNat_inj.mp (show counter.toNat = 2 ^ 32 - 1 by
      change 0 = _ at sum
      omega))

/-! ### The invariant

The middle word names a slot and says whether it is unread. A publication exchanges it for the slot
of the writer, an acquisition for that of the reader, so the three slots stay different. -/

/-- What holds between two accesses. -/
structure LatestInv (initial : UInt32) (mailbox : WlLatest) (acquiring : Bool)
    (published : List Bytes) (delivered : List (Nat × LatestView)) : Prop where
  stride : mailbox.valueSize.toNat ≤ mailbox.slotStride.toNat
  slots : List.Perm [mailbox.readerFront, mailbox.middleSlot, mailbox.writerBack] [0, 1, 2]
  generation : mailbox.generation = initial + UInt32.ofNat published.length
  unread : mailbox.pending = true →
    published.getLast? = some (latestValue mailbox mailbox.middleSlot) ∧
      mailbox.slotGeneration mailbox.middleSlot = mailbox.generation ∧
      ∀ entry ∈ delivered, entry.1 < published.length
  acquires : acquiring = true → mailbox.pending = true
  borrowed : mailbox.readBorrowed = true → ∃ count view, delivered.getLast? = some (count, view) ∧
    view.value = wlLatestSlot mailbox mailbox.readerFront ∧ view.valueSize = mailbox.valueSize ∧
    (published.take count).getLast? = some (latestValue mailbox mailbox.readerFront)
  entries : ∀ entry ∈ delivered, entry.1 ≤ published.length ∧
    entry.2.generation = initial + UInt32.ofNat entry.1
  increasing : (delivered.map Prod.fst).Pairwise (· < ·)
  counted : mailbox.counters.resets = 0 → published.length < 2 ^ 32 →
    mailbox.counters.publishes.toNat = published.length ∧
      published.length = mailbox.counters.reads.toNat + mailbox.counters.coalesced.toNat +
        mailbox.pending.toNat

section steps

variable {initial : UInt32} {mailbox : WlLatest} {acquiring : Bool} {published : List Bytes}
  {delivered : List (Nat × LatestView)}

namespace LatestInv

variable (inv : LatestInv initial mailbox acquiring published delivered)

include inv

theorem distinct :
    mailbox.readerFront ≠ mailbox.writerBack ∧ mailbox.middleSlot ≠ mailbox.writerBack := by
  have distinct := inv.slots.nodup_iff.mpr (by decide)
  simp only [List.nodup_cons, List.mem_cons, List.not_mem_nil, or_false, not_or] at distinct
  exact ⟨distinct.1.2, distinct.2.1⟩

theorem exclusive (offset : Nat) (data : Bytes) {index : UInt32}
    (apart : index ≠ mailbox.writerBack) :
    latestValue (mailbox.store offset data) index = latestValue mailbox index := by
  unfold WlLatest.store
  split
  · rename_i inside
    exact Bytes.readAt_writeAt_slot (fun same => apart (UInt32.toNat_inj.mp same))
      (inside.2.trans inv.stride) inv.stride
  · rfl

theorem store (offset : Nat) (data : Bytes) :
    LatestInv initial (mailbox.store offset data) acquiring published delivered := by
  have middle := inv.exclusive offset data inv.distinct.2
  have front := inv.exclusive offset data inv.distinct.1
  unfold WlLatest.store at middle front ⊢
  split
  · rename_i inside
    rw [if_pos inside] at middle front
    refine { inv with unread := fun some => ?_, borrowed := fun some => ?_ }
    · obtain ⟨last, rest⟩ := inv.unread some
      exact ⟨last.trans (congrArg Option.some middle.symm), rest⟩
    · obtain ⟨count, view, last, value, size, held⟩ := inv.borrowed some
      exact ⟨count, view, last, value, size, held.trans (congrArg Option.some front.symm)⟩
  · exact inv

theorem claim :
    LatestInv initial (wlLatestWriteClaim mailbox).1 acquiring published delivered := by
  unfold wlLatestWriteClaim
  split
  · exact { inv with }
  · exact { inv with }

theorem abort (claim : Option SpscSpan) :
    LatestInv initial (wlLatestWriteAbort mailbox claim).1 acquiring published delivered := by
  unfold wlLatestWriteAbort
  split
  · exact { inv with }
  · exact { inv with }

theorem release (view : Option LatestView) :
    LatestInv initial (wlLatestReadRelease mailbox view).1 acquiring published delivered := by
  unfold wlLatestReadRelease
  split
  · exact { inv with }
  · exact { inv with borrowed := nofun }

end LatestInv

theorem LatestInv.load (inv : LatestInv initial mailbox false published delivered) :
    LatestInv initial (wlLatestAcquireLoad mailbox).1 ((wlLatestAcquireLoad mailbox).2 == .ok)
      published delivered := by
  unfold wlLatestAcquireLoad
  split
  · exact { inv with acquires := nofun }
  split
  · exact { inv with acquires := nofun }
  · rename_i some
    exact { inv with acquires := fun _ => bne_iff_ne.mpr some }

/-- The value of the writer goes to the middle, and the writer gets the slot that was there. -/
theorem LatestInv.publish (inv : LatestInv initial mailbox acquiring published delivered)
    {claim : Option SpscSpan} (live : wlLatestClaimMatches mailbox claim = true) :
    LatestInv initial (wlLatestWritePublish mailbox claim).1 acquiring
      (published ++ [latestValue mailbox mailbox.writerBack]) delivered := by
  obtain ⟨-, -, index, dirty⟩ := slot_word mailbox.writerBack
    (inv.slots.mem_iff.mp (List.mem_of_getLast? rfl))
  have more : (published ++ [latestValue mailbox mailbox.writerBack]).length = published.length + 1 :=
    List.length_append
  have next : mailbox.generation + 1 = initial + UInt32.ofNat (published.length + 1) := by
    rw [inv.generation, UInt32.ofNat_add, UInt32.add_assoc]
    rfl
  have marked : ((mailbox.writerBack ||| wlLatestDirty) &&& wlLatestDirty != 0) = true :=
    bne_iff_ne.mpr dirty
  unfold wlLatestWritePublish
  rw [if_neg (not_not_intro live)]
  refine ⟨inv.stride, ?_, ?_, fun _ => ⟨?_, ?_, fun entry member => ?_⟩, fun _ => marked,
    fun some => ?_, fun entry member => ?_, inv.increasing, fun fresh few => ?_⟩
  · dsimp only [WlLatest.middleSlot]
    rw [index]
    exact (List.Perm.cons _ (List.Perm.swap ..)).trans inv.slots
  · rw [more]
    exact next
  · dsimp only [WlLatest.middleSlot]
    rw [index, List.getLast?_concat]
    rfl
  · dsimp only [WlLatest.middleSlot]
    rw [index, Function.update_self]
  · rw [more]
    exact Nat.lt_succ_of_le (inv.entries entry member).1
  · obtain ⟨count, view, last, value, size, held⟩ := inv.borrowed some
    refine ⟨count, view, last, value, size, ?_⟩
    rw [List.take_append_of_le_length (inv.entries _ (List.mem_of_getLast? last)).1]
    exact held
  · rw [more]
    exact ⟨Nat.le_succ_of_le (inv.entries entry member).1, (inv.entries entry member).2⟩
  · rw [more] at few ⊢
    obtain ⟨total, sum⟩ := inv.counted fresh (by omega)
    refine ⟨(toNat_counterIncrement (by omega)).trans (by rw [total]), ?_⟩
    dsimp only [WlLatest.pending]
    rw [marked, Bool.toNat_true]
    by_cases unread : mailbox.middle &&& wlLatestDirty = 0
    · have none : mailbox.pending = false := bne_eq_false_iff_eq.mpr unread
      rw [none] at sum
      rw [if_neg (not_not_intro unread), sum]
      rfl
    · have some : mailbox.pending = true := bne_iff_ne.mpr unread
      rw [some, Bool.toNat_true] at sum
      rw [if_pos unread, toNat_counterIncrement (by omega)]
      omega

/-- The reader takes the unread value, and leaves the slot it has finished with. -/
theorem LatestInv.exchange (inv : LatestInv initial mailbox true published delivered) :
    LatestInv initial (wlLatestAcquireExchange mailbox).1 false published
      (delivered ++ [(published.length, (wlLatestAcquireExchange mailbox).2)]) := by
  obtain ⟨last, named, newer⟩ := inv.unread (inv.acquires rfl)
  obtain ⟨index, clean, -⟩ := slot_word mailbox.readerFront
    (inv.slots.mem_iff.mp List.mem_cons_self)
  have read : (mailbox.readerFront &&& wlLatestDirty != 0) = false := bne_eq_false_iff_eq.mpr clean
  refine ⟨inv.stride, ?_, inv.generation, fun some => absurd (read.symm.trans some) nofun, nofun,
    fun _ => ⟨_, _, List.getLast?_concat, rfl, rfl, ?_⟩, ?_, ?_, fun fresh few => ?_⟩
  · show List.Perm [mailbox.middleSlot, mailbox.readerFront &&& wlLatestIndexMask, _] _
    rw [index]
    exact (List.Perm.swap ..).trans inv.slots
  · rw [List.take_length]
    exact last
  · refine List.forall_mem_append.mpr ⟨inv.entries, List.forall_mem_singleton.mpr ⟨Nat.le_refl _, ?_⟩⟩
    exact named.trans inv.generation
  · rw [List.map_append, List.pairwise_append]
    refine ⟨inv.increasing, List.pairwise_singleton _ _, fun earlier member count single => ?_⟩
    obtain ⟨entry, before, rfl⟩ := List.mem_map.mp member
    rw [List.mem_singleton.mp single]
    exact newer entry before
  · obtain ⟨total, sum⟩ := inv.counted fresh few
    rw [inv.acquires rfl, Bool.toNat_true] at sum
    refine ⟨total, ?_⟩
    dsimp only [WlLatest.pending, wlLatestAcquireExchange]
    rw [read, Bool.toNat_false, toNat_counterIncrement (by omega)]
    omega

theorem LatestInv.reset (inv : LatestInv initial mailbox false published delivered) :
    LatestInv initial (wlLatestReset mailbox).1 false published delivered := by
  unfold wlLatestReset
  split
  · exact { inv with }
  · rename_i idle
    exact { inv with
      slots := first_slots.1, acquires := nofun
      unread := fun some => absurd (first_slots.2.symm.trans some) nofun
      borrowed := fun some => absurd (.inr some) idle
      counted := fun none => absurd none (counterIncrement_ne_zero _) }

end steps

/-- The invariant of a session. -/
def LatestSession.Inv (initial : UInt32) (session : LatestSession) : Prop :=
  LatestInv initial session.mailbox session.acquiring session.published session.delivered

variable {initial : UInt32} {session : LatestSession}

theorem LatestSession.Inv.step (inv : session.Inv initial) (op : LatestOp) :
    (session.step op).Inv initial := by
  rcases session with ⟨mailbox, acquiring, _⟩
  cases op with
  | claim => exact inv.claim
  | store offset data => exact inv.store offset data
  | publish claim =>
    simp only [LatestSession.step]
    by_cases live : wlLatestClaimMatches mailbox claim = true
    · have answer : wlLatestWritePublish mailbox claim =
          ((wlLatestWritePublish mailbox claim).1, .ok) := by
        unfold wlLatestWritePublish
        rw [if_neg (not_not_intro live)]
      rw [answer]
      exact inv.publish live
    · have refused : wlLatestWritePublish mailbox claim = (wlLatestError mailbox, .invalidState) :=
        if_pos live
      rw [refused]
      exact { inv with }
  | abort claim => exact inv.abort claim
  | acquireLoad =>
    cases acquiring with
    | true => exact inv
    | false => exact inv.load
  | acquireExchange =>
    cases acquiring with
    | true => exact inv.exchange
    | false => exact inv
  | release view =>
    cases acquiring with
    | true => exact inv
    | false => exact inv.release view
  | reset =>
    cases acquiring with
    | true => exact inv
    | false => exact inv.reset

theorem LatestSession.Inv.run (inv : session.Inv initial) (ops : List LatestOp) :
    (runLatest session ops).Inv initial := by
  induction ops generalizing session with
  | nil => exact inv
  | cons op rest ih => exact ih (inv.step op)

theorem latestInv_start {mailboxAddress : UInt64} {config : LatestConfig} {storage : SpscStorage}
    {lockFree : Bool} {mailbox : WlLatest}
    (started : wlLatestInit mailboxAddress config storage lockFree = .ok mailbox) :
    (LatestSession.start mailbox).Inv config.initialGeneration := by
  unfold wlLatestInit at started
  split at started
  · cases started
  rename_i requirements required
  split at started
  · rename_i accepted
    split at started
    · cases started
      exact ⟨(storage_room required accepted).1, first_slots.1, (UInt32.add_zero _).symm,
        fun some => absurd (first_slots.2.symm.trans some) nofun, nofun, nofun, nofun,
        List.Pairwise.nil, fun _ _ => ⟨rfl, congrArg (0 + 0 + Bool.toNat ·) first_slots.2.symm⟩⟩
    · cases started
  · cases started

/-- The latest-value mailbox is correct after every interleaving of accesses of one writer and one
reader. -/
theorem latest_mailbox_correct {mailboxAddress : UInt64} {config : LatestConfig}
    {storage : SpscStorage} {lockFree : Bool} {mailbox : WlLatest}
    (started : wlLatestInit mailboxAddress config storage lockFree = .ok mailbox)
    (ops : List LatestOp) :
    LatestCorrect config.initialGeneration (runLatest (.start mailbox) ops) := by
  have inv := (latestInv_start started).run ops
  refine ⟨inv.slots, fun offset data index => inv.exclusive offset data, fun some => ?_,
    inv.increasing, fun count view member => (inv.entries _ member).2, fun fresh few => ?_⟩
  · obtain ⟨count, view, last, value, size, held⟩ := inv.borrowed some
    refine ⟨count, view, last, ?_⟩
    rw [value, size]
    exact held
  · obtain ⟨total, sum⟩ := inv.counted fresh few
    exact ⟨total, total.trans sum⟩

/-- Three slots of one byte. -/
def smallLatest : WlLatest :=
  { storage := [0, 0, 0], valueSize := 1, slotStride := 1, writerBack := 2, writeToken := 0
    writeClaimed := false, readerFront := 0, readToken := 0, readBorrowed := false
    slotGeneration := fun _ => 0, middle := 1, generation := 41
    counters :=
      { publishes := 0, reads := 0, coalesced := 0, emptyReads := 0, resets := 0, errors := 0 } }

theorem small_latest_correct :
    wlLatestInit 4096 { values := { valueSize := 1, valueAlignment := 1 }, initialGeneration := 41 }
        { address := 0, data := [0, 0, 0] } true = .ok smallLatest ∧
      LatestCorrect 41 (runLatest (.start smallLatest) [.claim, .store 0 [7], .publish
        (some { value := 2, valueSize := 1, token := 1, privateSlot := 2 }), .acquireLoad,
        .acquireExchange]) :=
  have started : wlLatestInit 4096
      { values := { valueSize := 1, valueAlignment := 1 }, initialGeneration := 41 }
      { address := 0, data := [0, 0, 0] } true = .ok smallLatest := rfl
  ⟨started, latest_mailbox_correct started _⟩

end Wirelink
