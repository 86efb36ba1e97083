/-
Module: Wirelink.Lib.Bytes
Purpose: Byte buffers of a fixed size. A store is modelled by the list of its bytes; a read takes
  a span of it and a write replaces a span without changing the size. Writes past the end are
  ignored, so the size of a buffer never depends on what is written into it. Also the big-endian
  spelling of 16, 32 and 64 bit words.
Trusted boundary: none
-/
import Mathlib.Tactic.Common
import Mathlib.Data.List.Basic

namespace Wirelink

/-- The contents of a byte store. -/
abbrev Bytes := List UInt8

namespace Bytes

/-- The `count` bytes that start at `address`, fewer when the store ends earlier. -/
def readAt (store : Bytes) (address count : Nat) : Bytes :=
  (store.drop address).take count

/-- Write `data` at `address`, byte by byte. -/
def writeAt (store : Bytes) (address : Nat) : Bytes → Bytes
  | [] => store
  | value :: data => writeAt (store.set address value) (address + 1) data

@[simp] theorem writeAt_nil (store : Bytes) (address : Nat) : writeAt store address [] = store := rfl

@[simp] theorem length_writeAt (store : Bytes) (address : Nat) (data : Bytes) :
    (writeAt store address data).length = store.length := by
  induction data generalizing store address with
  | nil => rfl
  | cons value data ih => simp [writeAt, ih]

theorem length_readAt (store : Bytes) (address count : Nat) :
    (readAt store address count).length = min count (store.length - address) := by
  simp [readAt]

variable {store data : Bytes} {address count other : Nat}

/-- A span that lies inside the store is read in full. -/
theorem length_readAt_of_le (fits : address + count ≤ store.length) :
    (readAt store address count).length = count := by
  rw [length_readAt]
  omega

/-- What one position holds after a write. -/
theorem getElem?_writeAt (store : Bytes) (address : Nat) (data : Bytes) (index : Nat) :
    (writeAt store address data)[index]? =
      if address ≤ index ∧ index < address + data.length ∧ index < store.length then
        data[index - address]?
      else store[index]? := by
  induction data generalizing store address with
  | nil => simp [writeAt]; omega
  | cons value data ih =>
    rw [writeAt, ih, List.length_set, List.getElem?_set]
    by_cases here : index = address
    · subst here
      rw [if_neg (by omega), if_pos rfl]
      by_cases inside : index < store.length
      · rw [if_pos inside, if_pos (by simp only [List.length_cons]; omega)]
        simp
      · rw [if_neg inside, if_neg (by omega), List.getElem?_eq_none (by omega)]
    · by_cases later : address + 1 ≤ index
      · have shift : index - address = (index - (address + 1)) + 1 := by omega
        simp only [shift, List.getElem?_cons_succ, List.length_cons]
        have same : (address + 1 ≤ index ∧ index < address + 1 + data.length ∧
            index < store.length) ↔
            (address ≤ index ∧ index < address + (data.length + 1) ∧ index < store.length) := by
          omega
        simp only [same, if_neg (show ¬ address = index by omega)]
      · rw [if_neg (by omega), if_neg (show ¬ address = index by omega), if_neg (by omega)]

/-- A write in range splices the data into the store. -/
theorem writeAt_eq (fits : address + data.length ≤ store.length) :
    writeAt store address data =
      store.take address ++ (data ++ store.drop (address + data.length)) := by
  apply List.ext_getElem?
  intro index
  have headLength : (store.take address).length = address := by
    rw [List.length_take]
    omega
  rw [getElem?_writeAt]
  by_cases before : index < address
  · rw [if_neg (by omega), List.getElem?_append_left (by omega), List.getElem?_take, if_pos before]
  · rw [List.getElem?_append_right (by omega), headLength]
    by_cases within : index < address + data.length
    · rw [if_pos (by omega), List.getElem?_append_left (by omega)]
    · rw [if_neg (by omega), List.getElem?_append_right (by omega), List.getElem?_drop]
      congr 1
      omega

/-- The span just written reads back. -/
theorem readAt_writeAt_self (fits : address + data.length ≤ store.length) :
    readAt (writeAt store address data) address data.length = data := by
  have headLength : (store.take address).length = address := by
    rw [List.length_take]
    omega
  rw [readAt, writeAt_eq fits, List.drop_append_of_le_length (by omega)]
  rw [List.drop_of_length_le (by omega), List.nil_append, List.take_left']
  rfl

/-- A span disjoint from the written one reads as before. -/
theorem readAt_writeAt_of_disjoint (apart : other + count ≤ address ∨ address + data.length ≤ other) :
    readAt (writeAt store address data) other count = readAt store other count := by
  apply List.ext_getElem?
  intro index
  simp only [readAt, List.getElem?_take, List.getElem?_drop, getElem?_writeAt]
  split
  · rw [if_neg (by omega)]
  · rfl

/-- Two different slots of one size do not overlap. -/
theorem slots_apart {stride slot first second : Nat} (apart : slot ≠ other)
    (within : first ≤ stride) (short : second ≤ stride) :
    slot * stride + first ≤ other * stride ∨ other * stride + second ≤ slot * stride := by
  rcases Nat.lt_or_gt_of_ne apart with before | behind
  · have room := Nat.mul_le_mul_right stride before
    rw [Nat.succ_mul] at room
    omega
  · have room := Nat.mul_le_mul_right stride behind
    rw [Nat.succ_mul] at room
    omega

/-- A write into one slot leaves the other slots alone. -/
theorem readAt_writeAt_slot {stride slot offset : Nat} (apart : other ≠ slot)
    (within : offset + data.length ≤ stride) (short : count ≤ stride) :
    readAt (writeAt store (slot * stride + offset) data) (other * stride) count =
      readAt store (other * stride) count := by
  have spaced := slots_apart apart short within
  exact readAt_writeAt_of_disjoint (by omega)

/-- A span read in two parts. -/
theorem readAt_add (store : Bytes) (address first second : Nat) :
    readAt store address (first + second) =
      readAt store address first ++ readAt store (address + first) second := by
  rw [readAt, readAt, readAt, List.take_add, List.drop_drop]

@[simp] theorem readAt_zero (store : Bytes) (address : Nat) : readAt store address 0 = [] := by
  simp [readAt]

/-- One byte stored outside a span leaves the span alone. -/
theorem readAt_set_of_ne {index : Nat} {value : UInt8}
    (apart : index < address ∨ address + count ≤ index) :
    readAt (store.set index value) address count = readAt store address count := by
  have outside : address + count ≤ index ∨ index + [value].length ≤ address := by
    simp only [List.length_cons, List.length_nil]
    omega
  exact readAt_writeAt_of_disjoint outside

/-- Two writes in a row, the second right behind the first. -/
theorem writeAt_append (store : Bytes) (address : Nat) (left right : Bytes) :
    writeAt store address (left ++ right) =
      writeAt (writeAt store address left) (address + left.length) right := by
  induction left generalizing store address with
  | nil => simp
  | cons value left ih =>
    rw [List.cons_append, writeAt, writeAt, ih, List.length_cons]
    congr 1
    omega

section twice

variable {left right : Bytes} {first second : Nat}

/-- Writes to spans apart from each other can change places. -/
theorem writeAt_comm (apart : first + left.length ≤ second ∨ second + right.length ≤ first) :
    writeAt (writeAt store first left) second right =
      writeAt (writeAt store second right) first left := by
  apply List.ext_getElem?
  intro index
  simp only [getElem?_writeAt, length_writeAt]
  split
  · rw [if_neg (by omega)]
  · rfl

/-- A write is lost below a later one that covers its span. -/
theorem writeAt_covered (starts : second ≤ first)
    (ends : first + left.length ≤ second + right.length) :
    writeAt (writeAt store first left) second right = writeAt store second right := by
  apply List.ext_getElem?
  intro index
  simp only [getElem?_writeAt, length_writeAt]
  split
  · rfl
  · rw [if_neg (by omega)]

end twice

/-- Store one more byte behind a written span. -/
theorem writeAt_concat (store : Bytes) (address : Nat) (data : Bytes) (value : UInt8) :
    writeAt store address (data ++ [value]) =
      (writeAt store address data).set (address + data.length) value :=
  writeAt_append store address data [value]

/-- The byte behind a written span counts as written with its own value. -/
theorem writeAt_hole (store : Bytes) (address : Nat) (data : Bytes) :
    ∃ hole, writeAt store address (data ++ [hole]) = writeAt store address data := by
  by_cases inside : address + data.length < (writeAt store address data).length
  · exact ⟨_, (writeAt_concat ..).trans (List.set_getElem_self inside)⟩
  · exact ⟨0, (writeAt_concat ..).trans (List.set_eq_of_length_le (Nat.not_lt.mp inside))⟩

/-- Replace one byte of a written span. -/
theorem set_writeAt (store : Bytes) (address : Nat) (left right : Bytes) (old new : UInt8) :
    (writeAt store address (left ++ old :: right)).set (address + left.length) new =
      writeAt store address (left ++ new :: right) := by
  rw [writeAt_append, writeAt_append]
  generalize writeAt store address left = start
  generalize address + left.length = place
  have swapped : writeAt (writeAt (start.set place old) (place + 1) right) place [new] =
      writeAt (writeAt (start.set place old) place [new]) (place + 1) right :=
    writeAt_comm (.inr (Nat.le_refl _))
  have replaced : writeAt (writeAt start place [old]) place [new] = writeAt start place [new] :=
    writeAt_covered (Nat.le_refl _) (Nat.le_refl _)
  exact swapped.trans (congrArg (writeAt · (place + 1) right) replaced)

/-! ### Big-endian words -/

/-- A 16 bit word, most significant byte first. -/
def be16 (value : UInt16) : Bytes :=
  [(value >>> 8).toUInt8, value.toUInt8]

/-- A 32 bit word, most significant byte first. -/
def be32 (value : UInt32) : Bytes :=
  [(value >>> 24).toUInt8, (value >>> 16).toUInt8, (value >>> 8).toUInt8, value.toUInt8]

/-- A 64 bit word, most significant byte first. -/
def be64 (value : UInt64) : Bytes :=
  [(value >>> 56).toUInt8, (value >>> 48).toUInt8, (value >>> 40).toUInt8, (value >>> 32).toUInt8,
    (value >>> 24).toUInt8, (value >>> 16).toUInt8, (value >>> 8).toUInt8, value.toUInt8]

@[simp] theorem length_be16 (value : UInt16) : (be16 value).length = 2 := rfl

@[simp] theorem length_be32 (value : UInt32) : (be32 value).length = 4 := rfl

@[simp] theorem length_be64 (value : UInt64) : (be64 value).length = 8 := rfl

/-- The 16 bit word spelled at the start of `data`. -/
def readBe16 (data : Bytes) : UInt16 :=
  ((data.getD 0 0).toUInt16 <<< 8) ||| (data.getD 1 0).toUInt16

/-- The 32 bit word spelled at the start of `data`. -/
def readBe32 (data : Bytes) : UInt32 :=
  ((data.getD 0 0).toUInt32 <<< 24) ||| ((data.getD 1 0).toUInt32 <<< 16) |||
    ((data.getD 2 0).toUInt32 <<< 8) ||| (data.getD 3 0).toUInt32

/-- The 64 bit word spelled at the start of `data`. -/
def readBe64 (data : Bytes) : UInt64 :=
  ((data.getD 0 0).toUInt64 <<< 56) ||| ((data.getD 1 0).toUInt64 <<< 48) |||
    ((data.getD 2 0).toUInt64 <<< 40) ||| ((data.getD 3 0).toUInt64 <<< 32) |||
    ((data.getD 4 0).toUInt64 <<< 24) ||| ((data.getD 5 0).toUInt64 <<< 16) |||
    ((data.getD 6 0).toUInt64 <<< 8) ||| (data.getD 7 0).toUInt64

/-! ### Words and their bytes -/

theorem readBe16_be16 (value : UInt16) (rest : Bytes) : readBe16 (be16 value ++ rest) = value := by
  apply UInt16.toBitVec_inj.mp
  apply BitVec.eq_of_getLsbD_eq
  intro index bound
  simp [readBe16, be16, bound, -UInt16.toUInt16_toUInt8]
  grind

theorem readBe32_be32 (value : UInt32) (rest : Bytes) : readBe32 (be32 value ++ rest) = value := by
  apply UInt32.toBitVec_inj.mp
  apply BitVec.eq_of_getLsbD_eq
  intro index bound
  simp [readBe32, be32, bound, -UInt32.toUInt32_toUInt8]
  grind

theorem readBe64_be64 (value : UInt64) (rest : Bytes) : readBe64 (be64 value ++ rest) = value := by
  apply UInt64.toBitVec_inj.mp
  apply BitVec.eq_of_getLsbD_eq
  intro index bound
  simp [readBe64, be64, bound, -UInt64.toUInt64_toUInt8]
  grind

theorem be16_readBe16 {data : Bytes} (long : 2 ≤ data.length) :
    be16 (readBe16 data) = data.take 2 := by
  match data, long with
  | _ :: _ :: rest, _ =>
    simp only [be16, readBe16, List.getD_cons_zero, List.getD_cons_succ, List.take_succ_cons,
      List.take_zero, List.cons.injEq, and_true]
    refine ⟨?_, ?_⟩ <;>
    · apply UInt8.toBitVec_inj.mp
      apply BitVec.eq_of_getLsbD_eq
      intro index bound
      simp [bound]
      try grind

theorem be32_readBe32 {data : Bytes} (long : 4 ≤ data.length) :
    be32 (readBe32 data) = data.take 4 := by
  match data, long with
  | _ :: _ :: _ :: _ :: rest, _ =>
    simp only [be32, readBe32, List.getD_cons_zero, List.getD_cons_succ, List.take_succ_cons,
      List.take_zero, List.cons.injEq, and_true]
    refine ⟨?_, ?_, ?_, ?_⟩ <;>
    · apply UInt8.toBitVec_inj.mp
      apply BitVec.eq_of_getLsbD_eq
      intro index bound
      simp [bound]
      try grind

theorem be64_readBe64 {data : Bytes} (long : 8 ≤ data.length) :
    be64 (readBe64 data) = data.take 8 := by
  match data, long with
  | _ :: _ :: _ :: _ :: _ :: _ :: _ :: _ :: rest, _ =>
    simp only [be64, readBe64, List.getD_cons_zero, List.getD_cons_succ, List.take_succ_cons,
      List.take_zero, List.cons.injEq, and_true]
    refine ⟨?_, ?_, ?_, ?_, ?_, ?_, ?_, ?_⟩ <;>
    · apply UInt8.toBitVec_inj.mp
      apply BitVec.eq_of_getLsbD_eq
      intro index bound
      simp [bound]
      try grind

end Bytes

end Wirelink
