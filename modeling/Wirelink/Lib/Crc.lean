/-
Module: Wirelink.Lib.Crc
Purpose: Cyclic redundancy checks as shift registers that bits enter one by one, most significant bit
  of the register first. The register is linear, and it forgets nothing: sequences of bits that differ
  and are no longer than the register leave different states.
Trusted boundary: none
-/
import Mathlib.Data.List.GetD
import Mathlib.Logic.Function.Iterate
import Wirelink.Lib.Bytes

namespace Wirelink.Crc

variable {width : Nat} (poly : BitVec width)

/-- The register after a zero bit. -/
def next (state : BitVec width) : BitVec width :=
  if state.msb then (state <<< 1) ^^^ poly else state <<< 1

/-- A bit at the top of the register. -/
def enter (bit : Bool) : BitVec width :=
  if bit then BitVec.intMin width else 0

/-- The register after a bit. -/
def step (state : BitVec width) (bit : Bool) : BitVec width :=
  next poly (state ^^^ enter bit)

/-- The register after a sequence of bits. -/
def run (state : BitVec width) (bits : List Bool) : BitVec width :=
  bits.foldl (step poly) state

theorem next_xor (left right : BitVec width) :
    next poly (left ^^^ right) = next poly left ^^^ next poly right := by
  have twice (a b : BitVec width) : a ^^^ b = a ^^^ poly ^^^ (b ^^^ poly) := by
    rw [BitVec.xor_assoc, BitVec.xor_comm b, ← BitVec.xor_assoc poly, BitVec.xor_self,
      BitVec.zero_xor]
  unfold next
  rw [BitVec.msb_xor, BitVec.shiftLeft_xor_distrib]
  cases left.msb <;> cases right.msb
  · rfl
  · exact BitVec.xor_assoc ..
  · exact (BitVec.xor_assoc ..).trans ((congrArg _ (BitVec.xor_comm ..)).trans (BitVec.xor_assoc ..).symm)
  · exact twice _ _

/-- Bits in a register, the first one at the top. -/
def window : List Bool → BitVec width
  | [] => 0
  | bit :: bits => enter bit ^^^ (window bits >>> 1)

theorem getMsbD_enter (bit : Bool) (index : Nat) :
    (enter bit : BitVec width).getMsbD index = (decide (0 < width) && decide (index = 0) && bit) := by
  cases bit
  · simp [enter]
  · simp [enter, BitVec.getMsbD_intMin]

theorem getMsbD_window (bits : List Bool) (index : Nat) :
    (window bits : BitVec width).getMsbD index =
      (decide (index < width) && bits.getD index false) := by
  induction bits generalizing index with
  | nil => simp [window]
  | cons bit bits ih =>
    rw [window, BitVec.getMsbD_xor, getMsbD_enter, BitVec.getMsbD_ushiftRight, ih]
    cases index with
    | zero => simp
    | succ =>
      simp
      grind

/-- Bits below the top move up through the register unchanged. -/
theorem next_shifted {state : BitVec width} (low : state.getLsbD 0 = false) :
    next poly (state >>> 1) = state := by
  have top : (state >>> 1).msb = false := by simp [BitVec.msb_ushiftRight]
  rw [next, top, if_neg Bool.false_ne_true]
  apply BitVec.eq_of_getLsbD_eq
  intro index bound
  cases index with
  | zero => simp [low]
  | succ => simp [bound, Nat.add_comm]

/-- A sequence no longer than the register acts as if all its bits had entered at once. -/
theorem run_eq {bits : List Bool} (fits : bits.length ≤ width) (state : BitVec width) :
    run poly state bits = (next poly)^[bits.length] (state ^^^ window bits) := by
  induction bits generalizing state with
  | nil => simp [run, window]
  | cons bit bits ih =>
    have low : (window bits : BitVec width).getLsbD 0 = false := by
      have past : bits.length ≤ width - 1 - 0 := Nat.le_sub_one_of_lt fits
      rw [BitVec.getLsbD_eq_getMsbD, getMsbD_window, List.getD_eq_default _ _ past]
      simp
    have later := ih (Nat.le_of_succ_le fits) (step poly state bit)
    rw [List.length_cons, Function.iterate_succ_apply, window, ← BitVec.xor_assoc, next_xor,
      next_shifted poly low]
    exact later

section injective

variable (odd : poly.getLsbD 0 = true)

include odd

theorem next_injective : Function.Injective (next poly) := by
  have kernel {state : BitVec width} (zero : next poly state = 0) : state = 0 := by
    unfold next at zero
    split at zero
    · have bit := congrArg (BitVec.getLsbD · 0) zero
      simp [odd] at bit
    case isFalse top =>
      rw [BitVec.msb_eq_getLsbD_last] at top
      apply BitVec.eq_of_getElem_eq
      intro index bound
      by_cases last : index = width - 1
      · subst last
        rw [BitVec.getLsbD_eq_getElem bound] at top
        simpa using top
      · have bit := congrArg (BitVec.getLsbD · (index + 1)) zero
        have inside : index + 1 < width := by omega
        simpa [inside] using bit
  intro left right same
  have zero := next_xor poly left right
  rw [same, BitVec.xor_self] at zero
  exact BitVec.xor_eq_zero_iff.mp (kernel zero)

theorem run_injective (bits : List Bool) : Function.Injective (run poly · bits) := by
  induction bits with
  | nil => exact fun _ _ same => same
  | cons bit bits ih =>
    intro left right same
    have entered := next_injective poly odd (ih same)
    simpa using entered

/-- Two sequences that differ, no longer than the register, leave different states. -/
theorem run_ne {left right : List Bool} (length : left.length = right.length)
    (fits : left.length ≤ width) (differ : left ≠ right) (state : BitVec width) :
    run poly state left ≠ run poly state right := by
  intro same
  rw [run_eq poly fits, run_eq poly (length ▸ fits), length] at same
  have windows := (next_injective poly odd).iterate _ same
  apply differ
  apply List.ext_getElem length
  intro index first second
  have bit := congrArg (BitVec.getMsbD · index) windows
  have inside : index < width := Nat.lt_of_lt_of_le first fits
  simpa [getMsbD_window, inside, first, second] using bit

/-- Sequences that differ only inside a stretch no longer than the register leave different states. -/
theorem run_burst {left right : List Bool} (length : left.length = right.length)
    (fits : left.length ≤ width) (differ : left ≠ right) (state : BitVec width)
    (before after : List Bool) :
    run poly state (before ++ left ++ after) ≠ run poly state (before ++ right ++ after) := by
  have split (bits : List Bool) : run poly state (before ++ bits ++ after) =
      run poly (run poly (run poly state before) bits) after := by
    rw [run, List.foldl_append, List.foldl_append]
    rfl
  rw [split, split]
  exact fun same => run_ne poly odd length fits differ _ (run_injective poly odd after same)

end injective

/-! ### A byte at a time -/

/-- The bits of a word, most significant bit first. -/
def bits {size : Nat} (word : BitVec size) : List Bool :=
  List.ofFn fun index : Fin size => word.getMsbD index

@[simp] theorem length_bits {size : Nat} (word : BitVec size) : (bits word).length = size :=
  List.length_ofFn

theorem getMsbD_window_bits {size : Nat} (word : BitVec size) (index : Nat) :
    (window (bits word) : BitVec width).getMsbD index =
      (decide (index < width) && word.getMsbD index) := by
  rw [getMsbD_window, bits]
  by_cases inside : index < size
  · simp [inside]
  · simp [inside, BitVec.getMsbD_of_ge word index (Nat.not_lt.mp inside)]

theorem iterate_next_xor (count : Nat) (left right : BitVec width) :
    (next poly)^[count] (left ^^^ right) = (next poly)^[count] left ^^^ (next poly)^[count] right := by
  induction count generalizing left right with
  | zero => rfl
  | succ count ih => rw [Function.iterate_succ_apply, next_xor, ih]; rfl

/-- A register with nothing at the top only shifts. -/
theorem iterate_next_shift (count : Nat) {state : BitVec width}
    (clear : ∀ index, index < count → state.getMsbD index = false) :
    (next poly)^[count] state = state <<< count := by
  induction count generalizing state with
  | zero => simp
  | succ count ih =>
    have top : state.msb = false := clear 0 (Nat.succ_pos count)
    rw [Function.iterate_succ_apply, next, top, if_neg Bool.false_ne_true, ih, Nat.add_comm,
      BitVec.shiftLeft_add]
    intro index bound
    simp [clear (index + 1) (Nat.succ_lt_succ bound)]

/-- The byte at the top of a register. -/
def topByte (state : BitVec width) : BitVec 8 :=
  (state >>> (width - 8)).setWidth 8

theorem getMsbD_topByte (wide : 8 ≤ width) (state : BitVec width) (index : Nat) :
    (topByte state).getMsbD index = (decide (index < 8) && state.getMsbD index) := by
  by_cases inside : index < 8
  · have place : width - 8 + (7 - index) = width - 1 - index := by omega
    have within : index < width := by omega
    simp [topByte, BitVec.getMsbD_eq_getLsbD, inside, within, place]
    omega
  · simp [inside, BitVec.getMsbD_of_ge _ _ (Nat.not_lt.mp inside)]

/-- A byte enters by way of the register that the byte at the top of the state leaves. -/
theorem run_byte (wide : 8 ≤ width) (state : BitVec width) (value : BitVec 8) :
    run poly state (bits value) =
      run poly (.ofNat width 0) (bits (topByte state ^^^ value)) ^^^ (state <<< 8) := by
  -- what the byte does not meet at the top of the state stays away from the top for eight bits
  have rest : (next poly)^[8] (state ^^^ window (bits (topByte state))) = state <<< 8 := by
    rw [iterate_next_shift]
    · apply BitVec.eq_of_getMsbD_eq
      intro index bound
      simp [getMsbD_window_bits]
    · intro index bound
      have inside : index < width := Nat.lt_of_lt_of_le bound wide
      simp [getMsbD_window_bits, getMsbD_topByte wide, bound, inside]
  have split : state ^^^ window (bits value) =
      window (bits (topByte state ^^^ value)) ^^^ (state ^^^ window (bits (topByte state))) := by
    apply BitVec.eq_of_getMsbD_eq
    intro index bound
    simp only [BitVec.getMsbD_xor, getMsbD_window_bits]
    cases state.getMsbD index <;> cases (topByte state).getMsbD index <;>
      cases value.getMsbD index <;> simp
  rw [run_eq poly (by simpa using wide), run_eq poly (by simpa using wide), length_bits, length_bits,
    split, iterate_next_xor, rest, BitVec.zero_xor]

/-- The bits of a sequence of bytes, each with its most significant bit first. -/
def byteBits (data : Bytes) : List Bool :=
  data.flatMap fun value => bits value.toBitVec

/-- The bits of a sequence of bytes, each with its least significant bit first. -/
def mirroredBits (data : Bytes) : List Bool :=
  data.flatMap fun value => bits value.toBitVec.reverse

/-- A word leaves nothing in the register exactly when it meets itself there. -/
theorem run_word_eq_zero_iff (odd : poly.getLsbD 0 = true) (state word : BitVec width) :
    run poly state (bits word) = .ofNat width 0 ↔ word = state := by
  have whole : window (bits word) = word := by
    apply BitVec.eq_of_getMsbD_eq
    intro index bound
    simp [getMsbD_window_bits, bound]
  have clear : (next poly)^[width] (.ofNat width 0) = .ofNat width 0 := by
    rw [iterate_next_shift poly _ (fun _ _ => BitVec.getMsbD_zero), BitVec.zero_shiftLeft]
  have injective := (next_injective poly odd).iterate width
  rw [run_eq poly (Nat.le_of_eq (length_bits word)), length_bits, whole]
  constructor
  · intro zero
    exact (BitVec.xor_eq_zero_iff.mp (injective (zero.trans clear.symm))).symm
  · rintro rfl
    rw [BitVec.xor_self, clear]

end Wirelink.Crc
