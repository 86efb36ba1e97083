/-
Module: Wirelink.Proofs.Crc
Purpose: The table-driven checksums of the source are shift registers: a table step is eight bits, in
  CRC-32C with register and bytes mirrored. Running the 16-bit checksum over a frame and its trailer
  leaves zero exactly when the trailer spells the checksum, so that the fused stream decoder, which
  tests the residue, accepts what the parser accepts.
Trusted boundary: none
-/
import Wirelink.Lib.Crc
import Wirelink.Core.Frame

namespace Wirelink

/-! ### Table steps

A table entry is the register after eight bits, which is checked entry by entry; the rest of a step
is linear. -/

/-- The generator of CRC-16/CCITT-FALSE. -/
def crc16Poly : BitVec 16 := 0x1021

theorem wlCrc16Table_eq : ∀ index : Fin 256,
    (wlCrc16Table.getD index 0).toBitVec =
      Crc.run crc16Poly 0#16 (Crc.bits (BitVec.ofNat 8 index)) := by
  decide +kernel

theorem wlCrc16Byte_eq (state : UInt16) (value : UInt8) :
    (wlCrc16Byte state value).toBitVec =
      Crc.run crc16Poly state.toBitVec (Crc.bits value.toBitVec) := by
  have entry := wlCrc16Table_eq ⟨((state >>> 8).toUInt8 ^^^ value).toNat, UInt8.toNat_lt _⟩
  have index : BitVec.ofNat 8 ((state >>> 8).toUInt8 ^^^ value).toNat =
      Crc.topByte state.toBitVec ^^^ value.toBitVec := by
    rw [← UInt8.toNat_toBitVec, BitVec.ofNat_toNat]
    rfl
  rw [Crc.run_byte _ (by decide), ← index, ← entry, BitVec.xor_comm]
  rfl

theorem wlCrc16Update_eq (state : UInt16) (data : Bytes) :
    (wlCrc16Update state data).toBitVec =
      Crc.run crc16Poly state.toBitVec (Crc.byteBits data) := by
  induction data generalizing state with
  | nil => rfl
  | cons value data ih =>
    refine (ih (wlCrc16Byte state value)).trans ?_
    rw [wlCrc16Byte_eq]
    exact List.foldl_append.symm

/-- The generator of CRC-32C. -/
def crc32cPoly : BitVec 32 := 0x1EDC6F41

theorem wlCrc32Table_eq : ∀ index : Fin 256,
    (wlCrc32Table.getD index 0).toBitVec.reverse =
      Crc.run crc32cPoly 0#32 (Crc.bits (BitVec.ofNat 8 index).reverse) := by
  decide +kernel

theorem wlCrc32cByte_eq (state : UInt32) (value : UInt8) :
    (wlCrc32cByte state value).toBitVec.reverse =
      Crc.run crc32cPoly state.toBitVec.reverse (Crc.bits value.toBitVec.reverse) := by
  have entry := wlCrc32Table_eq ⟨((state ^^^ value.toUInt32).toUInt8).toNat, UInt8.toNat_lt _⟩
  have index : (BitVec.ofNat 8 ((state ^^^ value.toUInt32).toUInt8).toNat).reverse =
      Crc.topByte state.toBitVec.reverse ^^^ value.toBitVec.reverse := by
    rw [← UInt8.toNat_toBitVec, BitVec.ofNat_toNat]
    apply BitVec.eq_of_getMsbD_eq
    intro index bound
    have inside : index < 32 := by omega
    simp [BitVec.getMsbD_reverse, Crc.getMsbD_topByte, bound, inside]
  have shifted : (state >>> 8).toBitVec.reverse = state.toBitVec.reverse <<< 8 := by
    apply BitVec.eq_of_getMsbD_eq
    intro index bound
    simp [BitVec.getMsbD_reverse]
    rw [Nat.add_comm]
  have linear (left right : BitVec 32) : (left ^^^ right).reverse = left.reverse ^^^ right.reverse := by
    apply BitVec.eq_of_getMsbD_eq
    intro index bound
    simp [BitVec.getMsbD_reverse]
  rw [Crc.run_byte _ (by decide), ← index, ← entry, ← shifted, ← linear]
  rfl

theorem wlCrc32cUpdate_eq (state : UInt32) (data : Bytes) :
    (wlCrc32cUpdate state data).toBitVec.reverse =
      Crc.run crc32cPoly state.toBitVec.reverse (Crc.mirroredBits data) := by
  induction data generalizing state with
  | nil => rfl
  | cons value data ih =>
    refine (ih (wlCrc32cByte state value)).trans ?_
    rw [wlCrc32cByte_eq]
    exact List.foldl_append.symm

/-! ### The trailer -/

theorem byteBits_be16 (word : UInt16) : Crc.byteBits (Bytes.be16 word) = Crc.bits word.toBitVec := by
  simp [Crc.byteBits, Bytes.be16, Crc.bits, List.ofFn_succ]

/-- A trailer leaves no residue exactly when it spells the checksum. -/
theorem wlCrc16Update_residue (data : Bytes) {trailer : Bytes} (length : trailer.length = 2) :
    wlCrc16Update 0xFFFF (data ++ trailer) = 0 ↔ Bytes.readBe16 trailer = wlCrc16CcittFalse data := by
  have spelled := Bytes.be16_readBe16 (Nat.le_of_eq length.symm)
  rw [List.take_of_length_le (Nat.le_of_eq length)] at spelled
  have register := Crc.run_word_eq_zero_iff crc16Poly (by decide)
    (wlCrc16CcittFalse data).toBitVec (Bytes.readBe16 trailer).toBitVec
  rw [← byteBits_be16, spelled, ← wlCrc16Update_eq] at register
  rw [wlCrc16Update, List.foldl_append, ← UInt16.toBitVec_inj, ← UInt16.toBitVec_inj]
  exact register

/-- Both checksums are what their definitions say bit by bit, however the bytes are split into updates,
and of all trailers of two bytes only the 16-bit checksum itself leaves no residue. -/
theorem checksums_bit_serial (chunks : List Bytes) :
    wlCrc16CcittFalse chunks.flatten = chunks.foldl wlCrc16Update 0xFFFF ∧
      (wlCrc16CcittFalse chunks.flatten).toBitVec =
        Crc.run crc16Poly 0xFFFF (Crc.byteBits chunks.flatten) ∧
      wlCrc32c chunks.flatten = chunks.foldl wlCrc32cUpdate 0xFFFFFFFF ^^^ 0xFFFFFFFF ∧
      (wlCrc32c chunks.flatten).toBitVec =
        (Crc.run crc32cPoly 0xFFFFFFFF (Crc.mirroredBits chunks.flatten)).reverse ^^^ 0xFFFFFFFF ∧
      ∀ high low, wlCrc16CcittFalse (chunks.flatten ++ [high, low]) = 0 ↔
        [high, low] = Bytes.be16 (wlCrc16CcittFalse chunks.flatten) := by
  refine ⟨List.foldl_flatten, wlCrc16Update_eq 0xFFFF _, congrArg (· ^^^ _) List.foldl_flatten, ?_,
    fun high low => (wlCrc16Update_residue _ rfl).trans ?_⟩
  · have register := congrArg BitVec.reverse (wlCrc32cUpdate_eq 0xFFFFFFFF chunks.flatten)
    have ones : (0xFFFFFFFF : UInt32).toBitVec.reverse = 0xFFFFFFFF := by decide +kernel
    rw [BitVec.reverse_reverse_eq, ones] at register
    exact (UInt32.toBitVec_xor ..).trans (congrArg (· ^^^ _) register)
  · generalize wlCrc16CcittFalse chunks.flatten = checksum
    constructor
    · rintro rfl
      exact (@Bytes.be16_readBe16 [high, low] (Nat.le_refl 2)).symm
    · intro spelled
      rw [spelled]
      exact Bytes.readBe16_be16 checksum []

/-- The published check value of CRC-16/CCITT-FALSE over the digits one to nine. -/
example : wlCrc16CcittFalse [0x31, 0x32, 0x33, 0x34, 0x35, 0x36, 0x37, 0x38, 0x39] = 0x29B1 := by
  decide +kernel

/-- The published check value of CRC-32C over the same digits. -/
example : wlCrc32c [0x31, 0x32, 0x33, 0x34, 0x35, 0x36, 0x37, 0x38, 0x39] = 0xE3069283 := by
  decide +kernel

/-- The residue of the fused decoder and the trailer test of the parser agree. -/
theorem frameIntegrityOk_residue {bytes : Bytes} (long : 2 ≤ bytes.length) :
    frameIntegrityOk bytes (bytes.length - 2) .crc16 (some (wlCrc16Update 0xFFFF bytes)) =
      frameIntegrityOk bytes (bytes.length - 2) .crc16 none := by
  have residue := @wlCrc16Update_residue (bytes.take (bytes.length - 2))
    (bytes.drop (bytes.length - 2)) (by rw [List.length_drop]; omega)
  rw [List.take_append_drop] at residue
  unfold frameIntegrityOk
  dsimp only
  rw [Bool.eq_iff_iff, beq_iff_eq, beq_iff_eq, residue]

/-- The parser gives the same answer with the residue as with the trailer. -/
theorem frameParse_residue (bytes : Bytes) :
    frameParse bytes .crc16 2 (some (wlCrc16Update 0xFFFF bytes)) = wlFrameDecode bytes .crc16 := by
  unfold wlFrameDecode frameParse wlProfileCrcSize
  dsimp only
  by_cases short : bytes.length < wlFrameBaseHeaderSize + 2
  · rw [if_pos short, if_pos short]
  · rw [frameIntegrityOk_residue (by omega)]

end Wirelink
