/-
Module: Wirelink.Lib.Window
Purpose: A circular window over a store: the elements met by walking `count` places from `start`,
  where places are numbered without end and taken modulo the capacity. How windows split, shift and
  shrink, when two stores show the same window, and when a window is one stretch of the store.
Trusted boundary: none
-/
import Mathlib.Data.List.GetD
import Mathlib.Data.Nat.ModEq
import Mathlib.Tactic.Common

namespace Wirelink

variable {α : Type*} [Inhabited α]

/-- The `count` elements of the store at the places `start`, `start + 1`, ... modulo `capacity`. -/
def window (store : List α) (capacity start count : Nat) : List α :=
  (List.range count).map fun index => store.getD ((start + index) % capacity) default

@[simp] theorem window_zero (store : List α) (capacity start : Nat) :
    window store capacity start 0 = [] := rfl

@[simp] theorem length_window (store : List α) (capacity start count : Nat) :
    (window store capacity start count).length = count := by
  simp [window]

/-- A window splits at any place. -/
theorem window_add (store : List α) (capacity start first second : Nat) :
    window store capacity start (first + second) =
      window store capacity start first ++ window store capacity (start + first) second := by
  unfold window
  rw [List.range_add, List.map_append, List.map_map]
  congr 1
  apply List.map_congr_left
  intro index _
  rw [Function.comp_apply, Nat.add_assoc]

variable {capacity count : Nat}

/-- Only the start modulo the capacity matters. -/
theorem window_congr {store : List α} {left right : Nat} (same : left % capacity = right % capacity)
    (count : Nat) :
    window store capacity left count = window store capacity right count := by
  apply List.map_congr_left
  intro index _
  rw [Nat.add_mod left, same, ← Nat.add_mod]

/-- What is left of a window after its first elements. -/
theorem window_shift (store : List α) (capacity start : Nat) {taken : Nat} (inside : taken ≤ count) :
    (window store capacity start count).drop taken =
      window store capacity (start + taken) (count - taken) := by
  obtain ⟨_, rfl⟩ := Nat.exists_eq_add_of_le inside
  rw [window_add, Nat.add_sub_cancel_left]
  exact List.drop_left' (length_window _ _ _ _)

/-- A shorter window from the same place is the beginning of a longer one. -/
theorem window_take (store : List α) (capacity start : Nat) {taken : Nat} (inside : taken ≤ count) :
    (window store capacity start count).take taken = window store capacity start taken := by
  obtain ⟨_, rfl⟩ := Nat.exists_eq_add_of_le inside
  rw [window_add]
  exact List.take_left' (length_window _ _ _ _)

/-- Two stores that agree on the places of a window show the same window. -/
theorem window_eq_of_agree {left right : List α} {start : Nat} (agree : ∀ index < count,
      left.getD ((start + index) % capacity) default =
        right.getD ((start + index) % capacity) default) :
    window left capacity start count = window right capacity start count := by
  apply List.map_congr_left
  intro index bound
  exact agree index (List.mem_range.mp bound)

/-- A window that does not pass the end is one stretch of the store. -/
theorem window_eq_take_drop {store : List α} {start : Nat} (full : store.length = capacity)
    (fits : start % capacity + count ≤ capacity) :
    window store capacity start count = (store.drop (start % capacity)).take count := by
  apply List.ext_getElem
  · simp only [length_window, List.length_take, List.length_drop, full]
    omega
  · intro index bound _
    rw [length_window] at bound
    have place : (start + index) % capacity = start % capacity + index := by
      rw [Nat.add_mod, Nat.add_mod_mod, Nat.mod_eq_of_lt (by omega)]
    simp only [window, List.getElem_map, List.getElem_range, place, List.getElem_take,
      List.getElem_drop]
    exact List.getD_eq_getElem _ _ (by omega)

/-- Places less than a full turn apart are different. -/
theorem mod_ne_of_sub_lt {left right : Nat} (ordered : left < right)
    (close : right - left < capacity) : left % capacity ≠ right % capacity := by
  intro same
  have divides : capacity ∣ right - left := (Nat.modEq_iff_dvd' ordered.le).mp same
  exact absurd (Nat.le_of_dvd (by omega) divides) (by omega)

end Wirelink
