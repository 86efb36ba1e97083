/-
Module: Wirelink.Proofs.UnitQueue
Purpose: The slot queue refines a bounded first-in first-out queue as long as its wrapping cursors
  name the slots in turn. They do for every run exactly when the number of slots divides 2 ^ 32.
Trusted boundary: none
-/
import Mathlib.Data.List.Induction
import Mathlib.Data.Nat.ModEq
import Mathlib.Tactic.Common
import Wirelink.Proofs.Reach
import Wirelink.Spec.UnitQueue

namespace Wirelink

/-! ### Cursors and slots

A cursor counts modulo 2 ^ 32, and names the slot of its residue modulo the number of slots. -/

/-- The first `count` cursor values name the slots in turn. -/
def TurnsThrough (slotCount count : Nat) : Prop :=
  slotCount ∣ 2 ^ 32 ∨ count < 2 ^ 32

theorem RxUnitQueue.slot_ofNat {queue : RxUnitQueue} {count index : Nat}
    (turns : TurnsThrough queue.slotCount count) (within : index ≤ count) :
    queue.slot (UInt32.ofNat index) = index % queue.slotCount := by
  rw [slot, UInt32.toNat_ofNat']
  rcases turns with divides | small
  · exact Nat.mod_mod_of_dvd index divides
  · have short : index < 2 ^ 32 := by omega
    rw [Nat.mod_eq_of_lt short]

theorem slot_ne_of_lt {slotCount first second : Nat} (later : first < second)
    (near : second < first + slotCount) : first % slotCount ≠ second % slotCount := by
  intro same
  have divides : slotCount ∣ second - first :=
    (Nat.modEq_iff_dvd' (Nat.le_of_lt later)).mp same
  have reach := Nat.le_of_dvd (by omega) divides
  omega

theorem slots_disjoint {first second : Nat} (unitSize : Nat) (differ : first ≠ second) :
    first * unitSize + unitSize ≤ second * unitSize ∨
      second * unitSize + unitSize ≤ first * unitSize := by
  rcases Nat.lt_or_gt_of_ne differ with below | above
  · left
    rw [← Nat.succ_mul]
    exact Nat.mul_le_mul_right unitSize below
  · right
    rw [← Nat.succ_mul]
    exact Nat.mul_le_mul_right unitSize above

/-! ### The invariant

As long as the cursors name the slots in turn, every unit that waits lies in its slot, and the
producer writes another one. -/

/-- The cursors count the committed and the consumed units, and every unit that waits lies in its
slot. -/
structure QueueInv (units : UnitRun) : Prop where
  initialized : units.queue.initialized = true
  slots : 2 ≤ units.queue.slotCount ∧ units.queue.slotCount ≤ 8
  lengths : units.queue.lengths.length = 8
  storage : units.queue.slotCount * units.queue.unitSize ≤ units.queue.storage.length
  write : units.queue.writeCursor = UInt32.ofNat units.committed.length
  read : units.queue.readCursor = UInt32.ofNat units.consumed
  order : units.consumed ≤ units.committed.length
  room : units.committed.length ≤ units.consumed + units.queue.slotCount
  claim : units.queue.claimActive = true →
    units.queue.claimCursor = units.queue.writeCursor ∧
      units.committed.length < units.consumed + units.queue.slotCount
  held : ∀ index unit, units.consumed ≤ index → units.committed[index]? = some unit →
    0 < unit.length ∧ unit.length ≤ units.queue.unitSize ∧
      units.queue.lengths[index % units.queue.slotCount]? = some unit.length ∧
      units.queue.storage.readAt (index % units.queue.slotCount * units.queue.unitSize)
        unit.length = unit

section Steps

variable {units : UnitRun}

theorem QueueInv.outstanding_eq (inv : QueueInv units) :
    units.queue.outstanding = units.waiting := by
  have order := inv.order
  have room := inv.room
  have slots := inv.slots
  rw [RxUnitQueue.outstanding, inv.write, inv.read, UInt32.toNat_sub, UInt32.toNat_ofNat',
    UInt32.toNat_ofNat', UnitRun.waiting]
  omega

theorem QueueInv.waiting_iff (inv : QueueInv units) :
    units.queue.readCursor ≠ units.queue.writeCursor ↔ 0 < units.waiting := by
  constructor
  · intro differ
    apply Nat.pos_of_ne_zero
    intro none
    have order := inv.order
    rw [UnitRun.waiting] at none
    apply differ
    rw [inv.read, inv.write, Nat.le_antisymm order (by omega)]
  · intro positive same
    have counted := inv.outstanding_eq
    rw [RxUnitQueue.outstanding] at counted
    rw [same, UInt32.sub_self] at counted
    exact absurd counted.symm (Nat.ne_of_gt positive)

theorem QueueInv.slot_lt (inv : QueueInv units) (index : Nat) :
    index % units.queue.slotCount < units.queue.slotCount :=
  Nat.mod_lt _ (by have := inv.slots; omega)

theorem QueueInv.slot_inside (inv : QueueInv units) (index : Nat) :
    index % units.queue.slotCount * units.queue.unitSize + units.queue.unitSize ≤
      units.queue.storage.length := by
  have bound := Nat.mul_le_mul_right units.queue.unitSize (inv.slot_lt index)
  rw [Nat.succ_mul] at bound
  exact Nat.le_trans bound inv.storage

theorem claim_cases (queue : RxUnitQueue) (maximumLength : Nat) :
    ((queue.claim maximumLength).1 = queue ∧ ∃ err, (queue.claim maximumLength).2 = .error err) ∨
      ∃ token,
        0 < maximumLength ∧ maximumLength ≤ queue.unitSize ∧ queue.claimActive = false ∧
        queue.outstanding < queue.slotCount ∧
        queue.claim maximumLength =
          ({ queue with claimToken := token, claimCursor := queue.writeCursor, claimActive := true },
            .ok
              { offset := queue.slotOffset queue.writeCursor, length := maximumLength
                token := token }) := by
  unfold RxUnitQueue.claim
  split
  · exact .inl ⟨rfl, _, rfl⟩
  split
  · exact .inl ⟨rfl, _, rfl⟩
  split
  · exact .inl ⟨rfl, _, rfl⟩
  split
  · exact .inl ⟨rfl, _, rfl⟩
  split
  · exact .inl ⟨rfl, _, rfl⟩
  rename_i positive initialized free short room
  exact .inr ⟨_, Nat.pos_of_ne_zero positive, Nat.not_lt.mp short, eq_false_of_ne_true free,
    Nat.not_le.mp room, rfl⟩

theorem QueueInv.claimed (inv : QueueInv units) (maximumLength : Nat) :
    QueueInv (units.step (.claim maximumLength)) := by
  rcases claim_cases units.queue maximumLength with ⟨same, _⟩ | ⟨_, _, _, _, room, granted⟩
  · rw [UnitRun.step, same]
    exact inv
  · have order := inv.order
    have free : units.committed.length < units.consumed + units.queue.slotCount := by
      rw [inv.outstanding_eq, UnitRun.waiting] at room
      omega
    rw [UnitRun.step, granted]
    exact { inv with claim := fun _ => ⟨rfl, free⟩ }

theorem QueueInv.stored (inv : QueueInv units)
    (turns : TurnsThrough units.queue.slotCount units.committed.length) (offset : Nat)
    (data : Bytes) : QueueInv (units.step (.store offset data)) := by
  rw [UnitRun.step]
  unfold RxUnitQueue.claimStore
  split
  · rename_i active
    obtain ⟨cursor, _⟩ := inv.claim active.1
    have place : units.queue.slotOffset units.queue.claimCursor =
        units.committed.length % units.queue.slotCount * units.queue.unitSize := by
      rw [RxUnitQueue.slotOffset, cursor, inv.write, RxUnitQueue.slot_ofNat turns (Nat.le_refl _)]
    refine { inv with storage := ?_, held := ?_ }
    · simp only [Bytes.length_writeAt]
      exact inv.storage
    · intro index unit waits here
      obtain ⟨positive, short, length, bytes⟩ := inv.held index unit waits here
      refine ⟨positive, short, length, ?_⟩
      have inside : index < units.committed.length := (List.getElem?_eq_some_iff.mp here).1
      have late : units.consumed ≤ index := waits
      have differ : index % units.queue.slotCount ≠
          units.committed.length % units.queue.slotCount := slot_ne_of_lt inside (by omega)
      have disjoint := slots_disjoint units.queue.unitSize differ
      simp only
      rw [place, Bytes.readAt_writeAt_of_disjoint (by omega)]
      exact bytes
  · exact inv

theorem QueueInv.aborted (inv : QueueInv units) (claim : RxUnitClaim) :
    QueueInv (units.step (.abort claim)) := by
  rw [UnitRun.step]
  unfold RxUnitQueue.abort
  split
  · exact inv
  · exact { inv with claim := by simp }

theorem commit_cases (queue : RxUnitQueue) (claim : RxUnitClaim) (length : Nat) :
    (∃ err, err ≠ .ok ∧ queue.commit claim length = (queue, err)) ∨
      queue.claimActive = true ∧ 0 < length ∧ length ≤ queue.unitSize ∧
        queue.commit claim length =
          ({ queue with
              lengths := queue.lengths.set (queue.slot queue.claimCursor) length
              claimActive := false
              writeCursor := queue.claimCursor + 1 }, .ok) := by
  unfold RxUnitQueue.commit
  split
  · exact .inl ⟨_, by simp, rfl⟩
  rename_i matching
  split
  · exact .inl ⟨_, by simp, rfl⟩
  rename_i short
  rw [not_or, not_or] at short
  simp only [RxUnitQueue.claimMatches, Bool.and_eq_true, not_not] at matching
  exact .inr ⟨matching.1.1.2, Nat.pos_of_ne_zero short.1, Nat.not_lt.mp short.2.2, rfl⟩

theorem QueueInv.committed (inv : QueueInv units) (claim : RxUnitClaim) (length : Nat)
    (turns : TurnsThrough units.queue.slotCount units.committed.length) :
    QueueInv (units.step (.commit claim length)) := by
  rw [UnitRun.step]
  rcases commit_cases units.queue claim length with
    ⟨err, failed, refused⟩ | ⟨active, positive, short, accepted⟩
  · rw [refused]
    cases err <;> first | contradiction | exact inv
  · rw [accepted]
    obtain ⟨cursor, _⟩ := inv.claim active
    have order := inv.order
    have slot : units.queue.slot units.queue.claimCursor =
        units.committed.length % units.queue.slotCount := by
      rw [cursor, inv.write, RxUnitQueue.slot_ofNat turns (Nat.le_refl _)]
    have inside := inv.slot_inside units.committed.length
    have inTable : units.committed.length % units.queue.slotCount < units.queue.lengths.length := by
      have bound := inv.slot_lt units.committed.length
      have slots := inv.slots
      rw [inv.lengths]
      omega
    have size : (units.queue.storage.readAt
        (units.committed.length % units.queue.slotCount * units.queue.unitSize) length).length =
          length :=
      Bytes.length_readAt_of_le (by omega)
    refine
      { inv with
        lengths := by simp only [List.length_set]; exact inv.lengths
        write := ?_, order := ?_, room := ?_, claim := by simp, held := ?_ }
    · simp only [List.length_append, List.length_singleton]
      rw [cursor, inv.write, UInt32.ofNat_add]
      rfl
    · simp only [List.length_append, List.length_singleton]
      omega
    · simp only [List.length_append, List.length_singleton]
      omega
    · intro index unit waits here
      have late : units.consumed ≤ index := waits
      simp only [RxUnitQueue.slotOffset, slot] at here ⊢
      rcases Nat.lt_or_ge index units.committed.length with older | newest
      · rw [List.getElem?_append_left older] at here
        obtain ⟨some, fits, length, bytes⟩ := inv.held index unit waits here
        refine ⟨some, fits, ?_, bytes⟩
        rw [List.getElem?_set_ne (slot_ne_of_lt older (by omega)).symm]
        exact length
      · rw [List.getElem?_append_right newest] at here
        have last : index = units.committed.length := by
          have bound := (List.getElem?_eq_some_iff.mp here).1
          simp only [List.length_singleton] at bound
          omega
        subst last
        simp only [Nat.sub_self, List.getElem?_cons_zero, Option.some.injEq] at here
        subst here
        rw [size]
        exact ⟨positive, short, List.getElem?_set_self inTable, rfl⟩

theorem consume_cases (queue : RxUnitQueue) :
    (∃ err, err ≠ .ok ∧ queue.consumerConsume = (queue, err)) ∨
      queue.readCursor ≠ queue.writeCursor ∧
        queue.consumerConsume =
          ({ queue with
              lengths := queue.lengths.set (queue.slot queue.readCursor) 0
              readCursor := queue.readCursor + 1 }, .ok) := by
  unfold RxUnitQueue.consumerConsume
  split
  · exact .inl ⟨_, by simp, rfl⟩
  split
  · exact .inl ⟨_, by simp, rfl⟩
  · rename_i some
    exact .inr ⟨some, rfl⟩

theorem QueueInv.consumed (inv : QueueInv units)
    (turns : TurnsThrough units.queue.slotCount units.committed.length) :
    QueueInv (units.step .consume) := by
  rw [UnitRun.step]
  rcases consume_cases units.queue with ⟨err, _, refused⟩ | ⟨waits, accepted⟩
  · rw [refused]
    cases err <;> first | contradiction | exact inv
  · rw [accepted]
    have order := inv.order
    have room := inv.room
    have some : units.consumed < units.committed.length :=
      Nat.lt_of_sub_pos (inv.waiting_iff.mp waits)
    refine
      { inv with
        lengths := by simp only [List.length_set]; exact inv.lengths
        read := ?_, order := some, room := ?_, claim := ?_, held := ?_ }
    · simp only
      rw [inv.read, UInt32.ofNat_add]
      rfl
    · simp only
      omega
    · intro active
      obtain ⟨cursor, _⟩ := inv.claim active
      exact ⟨cursor, by simp only; omega⟩
    · intro index unit later here
      simp only at later here ⊢
      obtain ⟨some, fits, length, bytes⟩ := inv.held index unit (by omega) here
      have bound := (List.getElem?_eq_some_iff.mp here).1
      refine ⟨some, fits, ?_, bytes⟩
      rw [inv.read, RxUnitQueue.slot_ofNat turns order,
        List.getElem?_set_ne (slot_ne_of_lt (by omega) (by omega))]
      exact length

/-! ### Runs -/

theorem UnitRun.step_shape (units : UnitRun) (op : UnitOp) :
    (units.step op).queue.slotCount = units.queue.slotCount ∧
      (units.step op).queue.unitSize = units.queue.unitSize ∧
      units.committed.length ≤ (units.step op).committed.length := by
  cases op with
  | claim maximumLength =>
    rw [UnitRun.step]
    rcases claim_cases units.queue maximumLength with ⟨same, _⟩ | ⟨_, _, _, _, _, granted⟩
    · rw [same]
      exact ⟨rfl, rfl, Nat.le_refl _⟩
    · rw [granted]
      exact ⟨rfl, rfl, Nat.le_refl _⟩
  | store =>
    rw [UnitRun.step]
    unfold RxUnitQueue.claimStore
    split
    · exact ⟨rfl, rfl, Nat.le_refl _⟩
    · exact ⟨rfl, rfl, Nat.le_refl _⟩
  | abort =>
    rw [UnitRun.step]
    unfold RxUnitQueue.abort
    split
    · exact ⟨rfl, rfl, Nat.le_refl _⟩
    · exact ⟨rfl, rfl, Nat.le_refl _⟩
  | commit claim length =>
    rw [UnitRun.step]
    rcases commit_cases units.queue claim length with ⟨err, _, refused⟩ | ⟨_, _, _, accepted⟩
    · rw [refused]
      cases err <;> first | contradiction | exact ⟨rfl, rfl, Nat.le_refl _⟩
    · rw [accepted]
      exact ⟨rfl, rfl, by simp⟩
  | consume =>
    rw [UnitRun.step]
    rcases consume_cases units.queue with ⟨err, _, refused⟩ | ⟨_, accepted⟩
    · rw [refused]
      cases err <;> first | contradiction | exact ⟨rfl, rfl, Nat.le_refl _⟩
    · rw [accepted]
      exact ⟨rfl, rfl, Nat.le_refl _⟩

theorem QueueInv.step (inv : QueueInv units)
    (turns : TurnsThrough units.queue.slotCount units.committed.length) (op : UnitOp) :
    QueueInv (units.step op) := by
  cases op with
  | claim maximumLength => exact inv.claimed maximumLength
  | store offset data => exact inv.stored turns offset data
  | abort claim => exact inv.aborted claim
  | commit claim length => exact inv.committed claim length turns
  | consume => exact inv.consumed turns

theorem TurnsThrough.earlier {slotCount count before : Nat} (turns : TurnsThrough slotCount count)
    (less : before ≤ count) : TurnsThrough slotCount before :=
  turns.imp_right (Nat.lt_of_le_of_lt less)

/-- The invariant over a run, by induction on its calls. -/
theorem runUnits_inv (ops : List UnitOp) (inv : QueueInv units)
    (turns : TurnsThrough units.queue.slotCount (runUnits units ops).committed.length) :
    QueueInv (runUnits units ops) ∧
      (runUnits units ops).queue.slotCount = units.queue.slotCount ∧
      units.committed.length ≤ (runUnits units ops).committed.length := by
  induction ops using List.reverseRecOn with
  | nil => exact ⟨inv, rfl, Nat.le_refl _⟩
  | append_singleton ops op ih =>
    have last : runUnits units (ops ++ [op]) = (runUnits units ops).step op := by
      rw [runUnits, List.foldl_append]
      rfl
    rw [last] at turns ⊢
    obtain ⟨slotCount, _, grows⟩ := UnitRun.step_shape (runUnits units ops) op
    obtain ⟨before, same, older⟩ := ih (turns.earlier grows)
    refine ⟨before.step ?_ op, slotCount.trans same, Nat.le_trans older grows⟩
    rw [same]
    exact turns.earlier grows

theorem queueInv_start {config : WlConfig} {storage : Bytes} {unitSize slotCount : Nat}
    {queue : RxUnitQueue} (accepted : RxUnitQueue.init config storage unitSize slotCount = .ok queue) :
    QueueInv (UnitRun.start queue) ∧ queue.slotCount = slotCount ∧ 0 < queue.unitSize ∧
      queue.claimActive = false := by
  unfold RxUnitQueue.init at accepted
  split at accepted
  · simp at accepted
  rename_i valid
  split at accepted
  · simp at accepted
  split at accepted
  · simp at accepted
  rw [← Except.ok.inj accepted]
  simp only [not_or, Nat.not_lt] at valid
  obtain ⟨positive, atLeast, atMost, _, fits⟩ := valid
  refine ⟨?_, rfl, Nat.pos_of_ne_zero positive, rfl⟩
  exact
    { initialized := rfl
      slots := ⟨atLeast, atMost⟩
      lengths := by simp [UnitRun.start, RxUnitQueue.empty]
      storage := by simp only [UnitRun.start]; rw [Nat.mul_comm]; exact fits
      write := rfl
      read := rfl
      order := Nat.le_refl _
      room := by simp [UnitRun.start]
      claim := by simp [UnitRun.start, RxUnitQueue.empty]
      held := by simp [UnitRun.start] }

/-! ### The queue as a first-in first-out queue -/

namespace QueueInv

variable (inv : QueueInv units)

include inv

theorem front (turns : TurnsThrough units.queue.slotCount units.committed.length) :
    units.queue.consumerView = units.committed[units.consumed]? := by
  unfold RxUnitQueue.consumerView RxUnitQueue.consumerPeek
  by_cases empty : units.queue.readCursor = units.queue.writeCursor
  · have none := mt inv.waiting_iff.mpr (not_not.mpr empty)
    rw [UnitRun.waiting, Nat.sub_pos_iff_lt, Nat.not_lt] at none
    rw [if_pos (.inr empty), Option.map_none, List.getElem?_eq_none none]
  · have below : units.consumed < units.committed.length :=
      Nat.lt_of_sub_pos (inv.waiting_iff.mp empty)
    have here := List.getElem?_eq_getElem below
    obtain ⟨_, _, length, bytes⟩ := inv.held _ _ (Nat.le_refl _) here
    have slot : units.queue.slot units.queue.readCursor =
        units.consumed % units.queue.slotCount := by
      rw [inv.read, RxUnitQueue.slot_ofNat turns inv.order]
    rw [if_neg (by simp [inv.initialized, empty]), Option.map_some, here]
    simp only [RxUnitQueue.slotOffset, slot, List.getD_eq_getElem?_getD, length, Option.getD_some]
    rw [bytes]

theorem granted (maximumLength : Nat) :
    (∃ claim, (units.queue.claim maximumLength).2 = .ok claim) ↔
      0 < maximumLength ∧ maximumLength ≤ units.queue.unitSize ∧
        units.queue.claimActive = false ∧ units.waiting < units.queue.slotCount := by
  rw [← inv.outstanding_eq]
  constructor
  · rintro ⟨claim, granted⟩
    rcases claim_cases units.queue maximumLength with
      ⟨_, err, refused⟩ | ⟨token, positive, short, free, room, _⟩
    · rw [refused] at granted
      contradiction
    · exact ⟨positive, short, free, room⟩
  · rintro ⟨_, _, free, _⟩
    unfold RxUnitQueue.claim
    rw [if_neg (by omega), if_neg (by simp [inv.initialized]), if_neg (by simp [free]),
      if_neg (by omega), if_neg (by omega)]
    exact ⟨_, rfl⟩

theorem apart (turns : TurnsThrough units.queue.slotCount units.committed.length)
    (active : units.queue.claimActive = true) {index : Nat} (waits : index < units.waiting) :
    units.queue.slot (units.queue.readCursor + UInt32.ofNat index) ≠
      units.queue.slot units.queue.claimCursor := by
  obtain ⟨cursor, _⟩ := inv.claim active
  rw [UnitRun.waiting] at waits
  rw [cursor, inv.write, inv.read, ← UInt32.ofNat_add, RxUnitQueue.slot_ofNat turns (by omega),
    RxUnitQueue.slot_ofNat turns (Nat.le_refl _)]
  exact slot_ne_of_lt (by omega) (by omega)

theorem fifo (turns : TurnsThrough units.queue.slotCount units.committed.length) :
    QueueFifo units :=
  ⟨inv.front turns, inv.granted, fun active _ waits => inv.apart turns active waits⟩

end QueueInv

end Steps

/-! ### Wrapping cursors

The converse: if the number of slots does not divide 2 ^ 32, a run that wraps the cursor leads to a
claim on the slot of a unit that still waits. -/

/-- A run that ends between two claims after the given numbers of commits and consumes. -/
structure Reaches (start : UnitRun) (committed consumed : Nat) (ops : List UnitOp) : Prop where
  inv : QueueInv (runUnits start ops)
  slotCount : (runUnits start ops).queue.slotCount = start.queue.slotCount
  unitSize : (runUnits start ops).queue.unitSize = start.queue.unitSize
  idle : (runUnits start ops).queue.claimActive = false
  commits : (runUnits start ops).committed.length = committed
  consumes : (runUnits start ops).consumed = consumed

section Reach

variable {start : UnitRun} {committed consumed : Nat} {ops : List UnitOp}

theorem runUnits_append (units : UnitRun) (ops more : List UnitOp) :
    runUnits units (ops ++ more) = runUnits (runUnits units ops) more := by
  rw [runUnits, List.foldl_append]
  rfl

namespace Reaches

variable (reaches : Reaches start committed consumed ops)

include reaches

theorem claim (positive : 0 < start.queue.unitSize)
    (free : committed - consumed < start.queue.slotCount) :
    ∃ token,
      (runUnits start ops).queue.claim 1 =
        ({ (runUnits start ops).queue with
            claimToken := token
            claimCursor := (runUnits start ops).queue.writeCursor
            claimActive := true },
          .ok
            { offset := (runUnits start ops).queue.slotOffset (runUnits start ops).queue.writeCursor
              length := 1, token := token }) := by
  have granted := (reaches.inv.granted 1).mpr
    ⟨Nat.one_pos, by rw [reaches.unitSize]; exact positive, reaches.idle, by
      rw [UnitRun.waiting, reaches.commits, reaches.consumes, reaches.slotCount]; exact free⟩
  obtain ⟨_, answer⟩ := granted
  rcases claim_cases (runUnits start ops).queue 1 with ⟨_, _, refused⟩ | ⟨token, _, _, _, _, made⟩
  · rw [refused] at answer
    contradiction
  · exact ⟨token, made⟩

theorem commit (positive : 0 < start.queue.unitSize)
    (free : committed - consumed < start.queue.slotCount) (short : committed < 2 ^ 32) :
    ∃ more, Reaches start (committed + 1) consumed more := by
  obtain ⟨token, made⟩ := reaches.claim positive free
  generalize before : runUnits start ops = units at made
  have inv : QueueInv units := before ▸ reaches.inv
  have unitSize : units.queue.unitSize = start.queue.unitSize := before ▸ reaches.unitSize
  let claim : RxUnitClaim :=
    { offset := units.queue.slotOffset units.queue.writeCursor, length := 1, token := token }
  have claimed : units.step (.claim 1) =
      { units with
        queue :=
          { units.queue with
            claimToken := token, claimCursor := units.queue.writeCursor, claimActive := true } } := by
    rw [UnitRun.step, made]
  have final : ∃ queue unit, queue.slotCount = units.queue.slotCount ∧
      queue.unitSize = units.queue.unitSize ∧ queue.claimActive = false ∧
      (units.step (.claim 1)).step (.commit claim 1) =
        { units with queue := queue, committed := units.committed ++ [unit] } := by
    rw [claimed, UnitRun.step]
    unfold RxUnitQueue.commit
    rw [if_neg (by
      simp [RxUnitQueue.claimMatches, inv.initialized, claim, RxUnitQueue.slotOffset,
        RxUnitQueue.slot]), if_neg (by simp only [claim]; omega)]
    refine ⟨_, _, ?_, ?_, ?_, rfl⟩
    · rfl
    · rfl
    · rfl
  obtain ⟨queue, _, slotCount, size, idle, after⟩ := final
  have both : runUnits start (ops ++ [.claim 1, .commit claim 1]) =
      (units.step (.claim 1)).step (.commit claim 1) := by
    rw [runUnits_append, before]
    rfl
  have turns : TurnsThrough (units.step (.claim 1)).queue.slotCount
      (units.step (.claim 1)).committed.length := by
    right
    rw [claimed]
    rw [← before, reaches.commits]
    exact short
  refine ⟨ops ++ [.claim 1, .commit claim 1], ?_, ?_, ?_, ?_, ?_, ?_⟩
  · rw [both]
    exact (inv.claimed 1).committed claim 1 turns
  all_goals rw [both, after]
  · simp only
    rw [slotCount, ← before, reaches.slotCount]
  · simp only
    rw [size, unitSize]
  · exact idle
  · simp only [List.length_append, List.length_singleton]
    rw [← before, reaches.commits]
  · simp only
    rw [← before, reaches.consumes]

theorem consume (waits : consumed < committed) (short : committed ≤ 2 ^ 32 - 1) :
    Reaches start committed (consumed + 1) (ops ++ [.consume]) := by
  generalize before : runUnits start ops = units
  have inv : QueueInv units := before ▸ reaches.inv
  have last : runUnits start (ops ++ [.consume]) = units.step .consume := by
    rw [runUnits_append, before]
    rfl
  have commits : units.committed.length = committed := before ▸ reaches.commits
  have consumes : units.consumed = consumed := before ▸ reaches.consumes
  have differ : units.queue.readCursor ≠ units.queue.writeCursor := by
    rw [inv.waiting_iff, UnitRun.waiting, commits, consumes]
    exact Nat.sub_pos_of_lt waits
  have accepted : units.queue.consumerConsume =
      ({ units.queue with
          lengths := units.queue.lengths.set (units.queue.slot units.queue.readCursor) 0
          readCursor := units.queue.readCursor + 1 }, .ok) := by
    unfold RxUnitQueue.consumerConsume
    rw [if_neg (by simp [inv.initialized]), if_neg differ]
  refine ⟨?_, ?_, ?_, ?_, ?_, ?_⟩
  · rw [last]
    exact inv.consumed (.inr (by omega))
  all_goals rw [last, UnitRun.step, accepted]
  · exact before ▸ reaches.slotCount
  · exact before ▸ reaches.unitSize
  · exact before ▸ reaches.idle
  · exact commits
  · simp only
    rw [consumes]

end Reaches

theorem reaches_empty (positive : 0 < start.queue.unitSize) (slots : 0 < start.queue.slotCount)
    (fresh : Reaches start 0 0 []) (count : Nat) (short : count < 2 ^ 32) :
    ∃ ops, Reaches start count count ops := by
  induction count with
  | zero => exact ⟨[], fresh⟩
  | succ count ih =>
    obtain ⟨_, reaches⟩ := ih (by omega)
    obtain ⟨_, committed⟩ := reaches.commit positive (by omega) (by omega)
    exact ⟨_, committed.consume (by omega) (by omega)⟩

theorem reaches_waiting (positive : 0 < start.queue.unitSize)
    (empty : Reaches start consumed consumed ops) (waiting : Nat)
    (room : waiting ≤ start.queue.slotCount) (short : consumed + waiting ≤ 2 ^ 32) :
    ∃ ops, Reaches start (consumed + waiting) consumed ops := by
  induction waiting with
  | zero => exact ⟨ops, empty⟩
  | succ waiting ih =>
    obtain ⟨_, reaches⟩ := ih (by omega) (by omega)
    exact reaches.commit positive (by omega) (by omega)

end Reach

/-- When the number of slots does not divide 2 ^ 32, the cursor that has just wrapped names the slot
of a unit that still waits. -/
theorem wrapped_claim_overlaps {start : UnitRun} (positive : 0 < start.queue.unitSize)
    (fresh : Reaches start 0 0 []) (uneven : ¬ start.queue.slotCount ∣ 2 ^ 32) :
    ∃ ops, (runUnits start ops).queue.claimActive = true ∧ 0 < (runUnits start ops).waiting ∧
      (runUnits start ops).queue.slot (runUnits start ops).queue.readCursor =
        (runUnits start ops).queue.slot (runUnits start ops).queue.claimCursor := by
  have slots : 2 ≤ start.queue.slotCount ∧ start.queue.slotCount ≤ 8 := fresh.inv.slots
  have someLeft : 0 < 2 ^ 32 % start.queue.slotCount :=
    Nat.pos_of_ne_zero fun none => uneven (Nat.dvd_of_mod_eq_zero none)
  have less := Nat.mod_lt (2 ^ 32) (show start.queue.slotCount > 0 by omega)
  have whole := Nat.mod_add_div (2 ^ 32) start.queue.slotCount
  generalize 2 ^ 32 % start.queue.slotCount = left at someLeft less whole
  -- the last `left` cursors before the wrap name the slots from zero on, and so do those after it
  obtain ⟨_, emptied⟩ := reaches_empty positive (by omega) fresh (2 ^ 32 - left) (by omega)
  obtain ⟨ops, reaches⟩ := reaches_waiting positive emptied left (by omega) (by omega)
  have total : 2 ^ 32 - left + left = 2 ^ 32 := by omega
  rw [total] at reaches
  obtain ⟨token, made⟩ := reaches.claim positive (by omega)
  have last : runUnits start (ops ++ [.claim 1]) =
      { runUnits start ops with
        queue :=
          { (runUnits start ops).queue with
            claimToken := token
            claimCursor := (runUnits start ops).queue.writeCursor
            claimActive := true } } := by
    rw [runUnits_append]
    change (runUnits start ops).step (.claim 1) = _
    rw [UnitRun.step, made]
  have oldest : (2 ^ 32 - left) % start.queue.slotCount = 0 := by
    have rest : 2 ^ 32 - left = start.queue.slotCount * (2 ^ 32 / start.queue.slotCount) := by omega
    rw [rest, Nat.mul_mod_right]
  refine ⟨ops ++ [.claim 1], ?_⟩
  rw [last]
  refine ⟨rfl, ?_, ?_⟩
  · rw [UnitRun.waiting, reaches.commits, reaches.consumes]
    omega
  · simp only [RxUnitQueue.slot]
    rw [reaches.inv.read, reaches.inv.write, reaches.commits, reaches.consumes, reaches.slotCount,
      UInt32.toNat_ofNat', UInt32.toNat_ofNat',
      Nat.mod_eq_of_lt (show 2 ^ 32 - left < 2 ^ 32 by omega), oldest, Nat.mod_self, Nat.zero_mod]

/-- The queue is a bounded first-in first-out queue in every run with fewer than 2 ^ 32 units, and in
runs of any length exactly when its number of slots divides 2 ^ 32. -/
theorem unit_queue_fifo_iff (config : WlConfig) (storage : Bytes) (unitSize slotCount : Nat)
    (queue : RxUnitQueue) (accepted : RxUnitQueue.init config storage unitSize slotCount = .ok queue) :
    (∀ ops, (runUnits (.start queue) ops).committed.length < 2 ^ 32 →
      QueueFifo (runUnits (.start queue) ops)) ∧
    ((∀ ops, QueueFifo (runUnits (.start queue) ops)) ↔ slotCount ∣ 2 ^ 32) := by
  obtain ⟨inv, count, positive, idle⟩ := queueInv_start accepted
  have fifo : ∀ ops, TurnsThrough queue.slotCount (runUnits (.start queue) ops).committed.length →
      QueueFifo (runUnits (.start queue) ops) := by
    intro ops turns
    obtain ⟨final, same, _⟩ := runUnits_inv ops inv turns
    exact final.fifo (by rw [same]; exact turns)
  refine ⟨fun ops short => fifo ops (.inr short), ?_, ?_⟩
  · intro always
    by_contra uneven
    have fresh : Reaches (.start queue) 0 0 [] := ⟨inv, rfl, rfl, idle, rfl, rfl⟩
    obtain ⟨ops, active, waits, same⟩ := wrapped_claim_overlaps positive fresh (by
      change ¬ queue.slotCount ∣ 2 ^ 32
      rw [count]
      exact uneven)
    have apart := (always ops).apart active 0 waits
    have first : (runUnits (.start queue) ops).queue.readCursor + UInt32.ofNat 0 =
        (runUnits (.start queue) ops).queue.readCursor := UInt32.add_zero _
    rw [first] at apart
    exact apart same
  · intro divides ops
    exact fifo ops (.inl (by rw [count]; exact divides))

/-- A queue of the small link with the given number of slots. -/
def smallQueue (slotCount : Nat) : RxUnitQueue :=
  { RxUnitQueue.empty with
    storage := List.replicate (17 * slotCount) 0, unitSize := 17, slotCount := slotCount
    initialized := true }

theorem four_slots_fifo :
    RxUnitQueue.init smallConfig (List.replicate (17 * 4) 0) 17 4 = .ok (smallQueue 4) ∧
      ∀ ops, QueueFifo (runUnits (.start (smallQueue 4)) ops) := by
  have accepted : RxUnitQueue.init smallConfig (List.replicate (17 * 4) 0) 17 4 =
      .ok (smallQueue 4) := by decide +kernel
  exact ⟨accepted, (unit_queue_fifo_iff _ _ _ _ _ accepted).2.mpr (by decide)⟩

/-- With three slots a run of 2 ^ 32 units leads to a claim on the slot of a unit that was committed
and not consumed. -/
theorem three_slots_overlap :
    RxUnitQueue.init smallConfig (List.replicate (17 * 3) 0) 17 3 = .ok (smallQueue 3) ∧
      ∃ ops, (runUnits (.start (smallQueue 3)) ops).queue.claimActive = true ∧
        0 < (runUnits (.start (smallQueue 3)) ops).waiting ∧
        (runUnits (.start (smallQueue 3)) ops).queue.slot
            (runUnits (.start (smallQueue 3)) ops).queue.readCursor =
          (runUnits (.start (smallQueue 3)) ops).queue.slot
            (runUnits (.start (smallQueue 3)) ops).queue.claimCursor := by
  have accepted : RxUnitQueue.init smallConfig (List.replicate (17 * 3) 0) 17 3 =
      .ok (smallQueue 3) := by decide +kernel
  obtain ⟨inv, _, positive, idle⟩ := queueInv_start accepted
  exact ⟨accepted,
    wrapped_claim_overlaps positive ⟨inv, rfl, rfl, idle, rfl, rfl⟩ (by decide +kernel)⟩

end Wirelink
