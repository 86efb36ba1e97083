/-
Module: Wirelink.Proofs.RingCursor
Purpose: Arithmetic of the ring cursors, which run over two buffer lengths. Distances grow with the
  write cursor and shrink with the read cursor, and the physical place of a cursor is the cursor
  modulo the capacity.
Trusted boundary: none
-/
import Wirelink.Core.RxRing
import Wirelink.Lib.Window

namespace Wirelink

section cursors

variable {capacity read write : Nat}

theorem cursorPhysical_eq_mod (bound : read < capacity * 2) :
    cursorPhysical capacity read = read % capacity := by
  unfold cursorPhysical
  split
  case isTrue inside => exact (Nat.mod_eq_of_lt inside).symm
  case isFalse outside =>
    rw [Nat.mod_eq_sub_mod (Nat.le_of_not_lt outside), Nat.mod_eq_of_lt]
    omega

variable {length : Nat}

theorem cursorAdvance_lt (bound : read < capacity * 2) (short : length ≤ capacity) :
    cursorAdvance (capacity * 2) read length < capacity * 2 := by
  unfold cursorAdvance
  split <;> omega

theorem cursorAdvance_mod (bound : read < capacity * 2) (length : Nat) :
    cursorAdvance (capacity * 2) read length % capacity = (read + length) % capacity := by
  unfold cursorAdvance
  split
  case isTrue wraps =>
    have turn : read + length = (length - (capacity * 2 - read)) + capacity * 2 := by omega
    rw [turn, Nat.add_mul_mod_self_left]
  case isFalse => rfl

@[simp] theorem cursorAdvance_zero (bound : read < capacity * 2) :
    cursorAdvance (capacity * 2) read 0 = read := by
  unfold cursorAdvance
  split <;> omega

theorem cursorAdvance_add (bound : read < capacity * 2) {first second : Nat}
    (short : first + second ≤ capacity) :
    cursorAdvance (capacity * 2) (cursorAdvance (capacity * 2) read first) second =
      cursorAdvance (capacity * 2) read (first + second) := by
  unfold cursorAdvance
  split <;> split <;> split <;> omega

@[simp] theorem cursorDistance_self (period cursor : Nat) :
    cursorDistance period cursor cursor = 0 := by
  unfold cursorDistance
  split <;> omega

variable (readBound : read < capacity * 2)

include readBound

theorem cursorDistance_eq_zero (empty : cursorDistance (capacity * 2) read write = 0) :
    read = write := by
  unfold cursorDistance at empty
  split at empty <;> omega

theorem cursorDistance_advance (writeBound : write < capacity * 2)
    (room : cursorDistance (capacity * 2) read write + length ≤ capacity) :
    cursorDistance (capacity * 2) read (cursorAdvance (capacity * 2) write length) =
      cursorDistance (capacity * 2) read write + length := by
  revert room
  unfold cursorDistance cursorAdvance
  split <;> split <;> split <;> omega

theorem cursorDistance_advance_read (writeBound : write < capacity * 2)
    (enough : length ≤ cursorDistance (capacity * 2) read write)
    (within : cursorDistance (capacity * 2) read write ≤ capacity) :
    cursorDistance (capacity * 2) (cursorAdvance (capacity * 2) read length) write =
      cursorDistance (capacity * 2) read write - length := by
  revert enough within
  unfold cursorDistance cursorAdvance
  split <;> split <;> split <;> omega

/-- The write cursor stands as far behind the read cursor as the distance says. -/
theorem write_mod :
    write % capacity = (read + cursorDistance (capacity * 2) read write) % capacity := by
  unfold cursorDistance
  split
  case isTrue ahead => rw [Nat.add_sub_cancel' ahead]
  case isFalse behind =>
    have turn : read + (capacity * 2 - read + write) = write + capacity * 2 := by omega
    rw [turn, Nat.add_mul_mod_self_left]

end cursors

theorem contiguousLength_eq (capacity cursor available : Nat) :
    contiguousLength capacity cursor available =
      min available (capacity - cursorPhysical capacity cursor) := by
  unfold contiguousLength
  dsimp only
  split <;> omega

theorem physical_add_contiguousLength (capacity cursor available : Nat)
    (bound : cursor < capacity * 2) :
    cursorPhysical capacity cursor + contiguousLength capacity cursor available ≤ capacity := by
  rw [contiguousLength_eq]
  unfold cursorPhysical
  split <;> omega

/-- A span that is shorter than what is available ends at the end of the memory. -/
theorem contiguousLength_of_lt {capacity cursor available : Nat} (bound : cursor < capacity * 2)
    (short : contiguousLength capacity cursor available < available) :
    cursorPhysical capacity cursor + contiguousLength capacity cursor available = capacity := by
  revert short
  rw [contiguousLength_eq]
  unfold cursorPhysical
  split <;> omega

theorem contiguousLength_le (capacity cursor available : Nat) :
    contiguousLength capacity cursor available ≤ available := by
  rw [contiguousLength_eq]
  exact Nat.min_le_left _ _

end Wirelink
