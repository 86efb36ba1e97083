/-
Module: Wirelink.Lib.Token
Purpose: Counters that skip zero when they wrap, as they are used for tokens and generations. A counter
  of a given size takes every value but zero in turn, so that two of its values agree only if they are
  a whole round apart.
Trusted boundary: none
-/
import Mathlib.Data.Nat.ModEq
import Mathlib.Logic.Function.Iterate
import Mathlib.Tactic.Common

namespace Wirelink.Token

/-- The value after `value` of a counter below `size` that skips zero. -/
def next (size value : Nat) : Nat :=
  if value + 1 = size then 1 else value + 1

/-- The values a counter gives out after its start. -/
def nth (size start index : Nat) : Nat :=
  (next size)^[index + 1] start

variable {size value start : Nat}

theorem next_pos : 0 < next size value := by
  unfold next
  split
  · exact Nat.one_pos
  · exact Nat.succ_pos value

theorem next_lt (room : 1 < size) (below : value < size) : next size value < size := by
  unfold next
  split
  · exact room
  · rename_i inside
    exact Nat.lt_of_le_of_ne below inside

theorem nth_succ (index : Nat) : nth size start (index + 1) = next size (nth size start index) :=
  Function.iterate_succ_apply' _ _ _

theorem nth_pos (index : Nat) : 0 < nth size start index := by
  cases index with
  | zero => exact next_pos
  | succ =>
    rw [nth_succ]
    exact next_pos

theorem nth_lt (room : 1 < size) (below : start < size) (index : Nat) :
    nth size start index < size := by
  induction index with
  | zero => exact next_lt room below
  | succ index ih =>
    rw [nth_succ]
    exact next_lt room ih

/-- From any of its values a counter goes round the nonzero values. -/
theorem nth_add (room : 1 < size) (below : start < size) (index count : Nat) :
    nth size start (index + count) =
      (nth size start index - 1 + count) % (size - 1) + 1 := by
  induction count with
  | zero =>
    have positive := @nth_pos size start index
    have bound := nth_lt room below index
    rw [Nat.add_zero, Nat.add_zero, Nat.mod_eq_of_lt (by omega)]
    omega
  | succ count ih =>
    rw [← Nat.add_assoc, nth_succ, ih, ← Nat.add_assoc]
    generalize nth size start index - 1 + count = place
    have small : place % (size - 1) < size - 1 := Nat.mod_lt _ (by omega)
    rw [Nat.add_mod place 1]
    unfold next
    by_cases last : place % (size - 1) + 1 + 1 = size
    · rw [if_pos last]
      have whole : place % (size - 1) + 1 = size - 1 := by omega
      by_cases one : size - 1 = 1
      · rw [one, Nat.mod_one]
      · rw [Nat.mod_eq_of_lt (a := 1) (by omega), whole, Nat.mod_self]
    · rw [if_neg last]
      have inside : place % (size - 1) + 1 < size - 1 := by omega
      rw [Nat.mod_eq_of_lt (a := 1) (by omega), Nat.mod_eq_of_lt inside]

/-- Two values of a counter that agree are a whole round apart. -/
theorem round_le_of_nth_eq (room : 1 < size) (below : start < size) {first second : Nat}
    (order : first < second) (same : nth size start first = nth size start second) :
    size - 1 ≤ second - first := by
  obtain ⟨count, rfl⟩ := Nat.exists_eq_add_of_le (Nat.le_of_lt order)
  have positive := @nth_pos size start first
  have bound := nth_lt room below first
  rw [nth_add room below first count] at same
  generalize nth size start first = value at positive bound same
  have equal : (value - 1 + count) % (size - 1) = (value - 1 + 0) % (size - 1) := by
    rw [Nat.add_zero, Nat.mod_eq_of_lt (a := value - 1) (by omega)]
    omega
  have divides : count % (size - 1) = 0 := Nat.ModEq.add_left_cancel' (value - 1) equal
  have apart : 0 < count := by omega
  rw [Nat.add_sub_cancel_left]
  exact Nat.le_of_dvd apart (Nat.dvd_of_mod_eq_zero divides)

/-- The distance of two wrapped counters that are less than a round apart. -/
theorem toNat_ofNat_sub {first second : Nat} (order : first ≤ second)
    (near : second - first < 2 ^ 32) :
    (UInt32.ofNat second - UInt32.ofNat first).toNat = second - first := by
  rw [UInt32.toNat_sub, UInt32.toNat_ofNat', UInt32.toNat_ofNat']
  omega

end Wirelink.Token
