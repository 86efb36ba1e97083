/-
Module: Wirelink.Proofs.SpscSlots
Purpose: Value slots and tokens: the storage an init accepts holds its slots, and a span that was handed
  out earlier has another token than the last one.
Trusted boundary: none
-/
import Wirelink.Core.SpscSlots
import Wirelink.Lib.Token

namespace Wirelink

/-- The part of a word that a mask keeps and the rest of it add up. -/
theorem and_add_and_not (value mask : UInt64) : (value &&& mask) + (value &&& ~~~ mask) = value := by
  apply UInt64.toBitVec_inj.mp
  have apart : (value.toBitVec &&& mask.toBitVec) &&& (value.toBitVec &&& ~~~ mask.toBitVec) = 0 := by
    ext index
    simp only [BitVec.getElem_and, BitVec.getElem_not]
    cases mask.toBitVec[index] <;> simp
  show (value.toBitVec &&& mask.toBitVec) + (value.toBitVec &&& ~~~ mask.toBitVec) = value.toBitVec
  rw [BitVec.add_eq_or_of_and_eq_zero _ _ apart]
  ext index
  simp only [BitVec.getElem_or, BitVec.getElem_and, BitVec.getElem_not]
  cases mask.toBitVec[index] <;> simp

theorem valueSize_le_stride {config : SpscConfig}
    (fits : ¬ config.valueSize > 0xffffffffffffffff - (config.valueAlignment - 1)) :
    config.valueSize.toNat ≤ (spscStride config).toNat := by
  have sum := and_add_and_not (config.valueSize + (config.valueAlignment - 1))
    (config.valueAlignment - 1)
  have masked : (config.valueSize + (config.valueAlignment - 1) &&& config.valueAlignment - 1).toNat ≤
      (config.valueAlignment - 1).toNat := by
    exact Nat.and_le_right
  unfold spscStride
  generalize config.valueAlignment - 1 = mask at *
  have total := congrArg UInt64.toNat sum
  rw [UInt64.toNat_add, UInt64.toNat_add] at total
  have below := mask.toNat_lt
  have room : config.valueSize.toNat + mask.toNat < 2 ^ 64 := by
    rw [gt_iff_lt, UInt64.not_lt, UInt64.le_iff_toNat_le, UInt64.toNat_sub] at fits
    have most : (0xffffffffffffffff : UInt64).toNat = 2 ^ 64 - 1 := rfl
    omega
  omega

/-- The storage an init accepts holds the slots. -/
theorem storage_room {config : SpscConfig} {slotCount : UInt32} {requirements : SpscRequirements}
    {storage : SpscStorage} {contextAddress contextSize : UInt64}
    (required : spscRequirements config slotCount = .ok requirements)
    (accepted : spscStorageTest config requirements storage contextAddress contextSize = .ok) :
    config.valueSize.toNat ≤ requirements.slotStride.toNat ∧
      slotCount.toNat * requirements.slotStride.toNat ≤ storage.data.length := by
  unfold spscRequirements at required
  split at required
  · cases required
  split at required
  · cases required
  rename_i legal
  rw [not_or] at legal
  dsimp only at required
  split at required
  · cases required
  rename_i product
  cases required
  refine ⟨valueSize_le_stride legal.2, ?_⟩
  have size : storage.data.length ≥ (spscStride config * slotCount.toUInt64).toNat := by
    unfold spscStorageTest at accepted
    split at accepted
    · cases accepted
    · rename_i large
      exact Nat.not_lt.mp large
  rw [gt_iff_lt, UInt64.not_lt, UInt64.le_iff_toNat_le, UInt64.toNat_div] at product
  have exact_ : (spscStride config * slotCount.toUInt64).toNat =
      (spscStride config).toNat * slotCount.toNat := by
    rw [UInt64.toNat_mul, UInt32.toNat_toUInt64]
    have most := Nat.mul_le_of_le_div _ _ _ product
    have value : (0xffffffffffffffff : UInt64).toNat = 2 ^ 64 - 1 := rfl
    rw [UInt32.toNat_toUInt64, value] at most
    exact Nat.mod_eq_of_lt (by omega)
  rw [exact_] at size
  rw [Nat.mul_comm]
  exact size

theorem toNat_spscNextToken (token : UInt32) :
    (spscNextToken token).toNat = Token.next (2 ^ 32) token.toNat := by
  have small := token.toNat_lt
  have sum : (token + 1).toNat = (token.toNat + 1) % 2 ^ 32 := UInt32.toNat_add _ _
  unfold spscNextToken Token.next
  by_cases wraps : token.toNat + 1 = 2 ^ 32
  · rw [if_pos (UInt32.toNat_inj.mp (by rw [sum, wraps]; rfl)), if_pos wraps]
    rfl
  · rw [Nat.mod_eq_of_lt (by omega)] at sum
    rw [if_neg, if_neg wraps, sum]
    intro zero
    rw [zero] at sum
    exact absurd sum nofun

/-- The tokens of the spans handed out so far. -/
structure Issued (token : UInt32) (spans : List SpscSpan) : Prop where
  last : token.toNat = (Token.next (2 ^ 32))^[spans.length] 0
  each : ∀ place span, spans[place]? = some span → span.token.toNat = Token.nth (2 ^ 32) 0 place

theorem Issued.next {token : UInt32} {spans : List SpscSpan} (issued : Issued token spans)
    {span : SpscSpan} (fresh : span.token = spscNextToken token) :
    Issued (spscNextToken token) (spans ++ [span]) := by
  have value : (spscNextToken token).toNat = Token.nth (2 ^ 32) 0 spans.length := by
    rw [toNat_spscNextToken, issued.last]
    exact (Function.iterate_succ_apply' _ _ _).symm
  refine ⟨by rw [List.length_append]; exact value, fun place other found => ?_⟩
  rcases Nat.lt_trichotomy place spans.length with old | rfl | outside
  · exact issued.each place other ((List.getElem?_append_left old).symm.trans found)
  · rw [List.getElem?_concat_length] at found
    rw [← Option.some.inj found, fresh, value]
  · rw [List.getElem?_eq_none (by rw [List.length_append]; exact outside)] at found
    exact nomatch found

/-- A span that is not the last one has another token, unless the tokens have gone round. -/
theorem Issued.stale {token : UInt32} {spans : List SpscSpan} (issued : Issued token spans)
    {place : Nat} {span : SpscSpan} (found : spans[place]? = some span)
    (recent : spans.length ≤ place + (2 ^ 32 - 1)) (earlier : place + 1 ≠ spans.length) :
    span.token ≠ token := by
  intro same
  have inside := (List.getElem?_eq_some_iff.mp found).1
  obtain ⟨last, count⟩ : ∃ last, spans.length = last + 1 := ⟨spans.length - 1, by omega⟩
  have value := issued.each place span found
  rw [same, issued.last, count] at value
  have round := Token.round_le_of_nth_eq (by decide) (by decide) (by omega) value.symm
  omega

end Wirelink
