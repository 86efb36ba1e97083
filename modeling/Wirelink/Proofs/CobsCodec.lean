/-
Module: Wirelink.Proofs.CobsCodec
Purpose: The COBS coder and decoder of the source are inverse to each other on every byte string, in
  place or not, and the fused stream decoder agrees with the decoder followed by the parser.
Trusted boundary: none
-/
import Wirelink.Proofs.CobsBounds
import Wirelink.Proofs.Crc
import Wirelink.Proofs.LinkEncode
import Wirelink.Spec.Codec

namespace Wirelink

/-! ### The coder

The coder counts first and stores afterwards, so it stores the whole code word or nothing. -/

theorem cobsCountByte_eq (state : CobsCountState) (value : UInt8) :
    cobsCountByte state value =
      if value ≠ 0 ∧ (cobsCountSpan state [value]).encodedLen = sizeMax then .error .invalidArg
      else .ok (cobsCountSpan state [value]) := by
  unfold cobsCountByte
  split
  case isTrue zero => simp [cobsCountSpan, zero]
  case isFalse nonzero => simp [cobsCountSpan, nonzero]

theorem le_cobsCountSpan (state : CobsCountState) (data : Bytes) :
    state.encodedLen ≤ (cobsCountSpan state data).encodedLen := by
  induction data generalizing state with
  | nil => exact Nat.le_refl _
  | cons value data ih =>
    refine Nat.le_trans ?_ (ih (cobsCountSpan state [value]))
    simp only [cobsCountSpan, List.foldl_cons, List.foldl_nil]
    generalize (if value = 0 then 1 else state.code + 1) = code
    split <;> simp

/-- The coder counts like the link encoder, except for words as long as the address space. -/
theorem foldlM_cobsCountByte (data : Bytes) (state : CobsCountState) :
    data.foldlM cobsCountByte state = .ok (cobsCountSpan state data) ∨
      data.foldlM cobsCountByte state = .error .invalidArg ∧
        sizeMax ≤ (cobsCountSpan state data).encodedLen := by
  induction data generalizing state with
  | nil => exact .inl rfl
  | cons value data ih =>
    have first := le_cobsCountSpan (cobsCountSpan state [value]) data
    rw [List.foldlM_cons, cobsCountByte_eq]
    split
    case isTrue full => exact .inr ⟨rfl, full.2 ▸ first⟩
    case isFalse => exact ih _

theorem wlCobsEncode_eq {input : Bytes} {outputCapacity : Nat}
    (memory : input.length + outputCapacity ≤ sizeMax) (store : Bytes) (output : Nat) :
    if (Cobs.encode input).length ≤ outputCapacity then
      wlCobsEncode input store output outputCapacity =
        (store.writeAt output (Cobs.encode input), .ok (Cobs.encode input).length)
    else ∃ err, wlCobsEncode input store output outputCapacity = (store, .error err) := by
  have counted : (cobsCountSpan { encodedLen := 1, code := 1 } input).encodedLen =
      (Cobs.encode input).length := by
    rw [Cobs.length_encode]
    exact cobsCountSpan_encodedLen input 1 0
  have span := @cobsEncodeSpan_eq store output [] input _ (readable_apart List.take_length)
  obtain ⟨_, size, word⟩ := encoder_finish store output input
  rw [wlCobsEncode, wlCobsCountEncodedLen]
  rcases foldlM_cobsCountByte input { encodedLen := 1, code := 1 } with counts | ⟨fails, long⟩
  · rw [counts]
    simp only [Except.map, counted]
    split
    case isTrue fits =>
      rw [if_neg (Nat.not_lt.mpr fits)]
      split
      case isTrue empty =>
        rw [List.eq_nil_of_length_eq_zero empty]
        rfl
      case isFalse =>
        rw [List.foldl_nil] at span
        rw [span]
        exact Prod.ext word (congrArg Except.ok size)
    case isFalse small => exact ⟨_, if_pos (Nat.not_le.mp small)⟩
  · rw [fails, if_neg]
    · exact ⟨_, rfl⟩
    · intro fits
      have empty : input = [] := List.eq_nil_of_length_eq_zero (by omega)
      rw [ empty] at long
      exact absurd long (by decide)

/-! ### The decoder

With room for the decoded bytes it does not matter which of them the size pass has counted. -/

section decode

variable {store : Bytes} {input inputLen output outputCapacity : Nat}

theorem wlCobsDecode_none (inside : input + inputLen ≤ store.length)
    (fails : Cobs.decode (store.readAt input inputLen) = none) :
    wlCobsDecode store input inputLen output outputCapacity = (store, .error .cobsDecode) := by
  rw [wlCobsDecode]
  split
  · rfl
  rcases @cobsRequired_cases store input inputLen 0 0 inputLen (Nat.sub_le _ _) (Nat.zero_le _) inside
    with ⟨-, refused⟩ | ⟨_, _, decodes, -⟩
  · rw [refused]
  · exact nomatch fails.symm.trans decodes

theorem wlCobsDecode_some {data : Bytes} (inside : input + inputLen ≤ store.length)
    (real : inputLen ≠ 0) (clear : output ≤ input ∨ input + inputLen ≤ output)
    (decodes : Cobs.decode (store.readAt input inputLen) = some data)
    (fits : data.length ≤ outputCapacity) :
    wlCobsDecode store input inputLen output outputCapacity =
      (store.writeAt output data, .ok data.length) := by
  have copied := @cobsCopy_eq store input inputLen 0 output 0 inputLen data (Nat.sub_le _ _)
    (Nat.zero_le _) inside clear decodes
  rw [wlCobsDecode, if_neg real]
  rcases @cobsRequired_cases store input inputLen 0 0 inputLen (Nat.sub_le _ _) (Nat.zero_le _) inside
    with ⟨fails, -⟩ | ⟨_, _, again, passes, _, -⟩
  · exact nomatch fails.symm.trans decodes
  · obtain rfl := Option.some.inj (again.symm.trans decodes)
    rw [Nat.zero_add] at passes copied
    rw [passes]
    dsimp only
    rw [if_neg (by omega), copied]
    rfl

/-- A word has room for what it decodes to, and is not longer than that can need. -/
theorem length_decodes {data : Bytes} (inside : input + inputLen ≤ store.length)
    (real : inputLen ≠ 0) (decodes : Cobs.decode (store.readAt input inputLen) = some data) :
    data.length < inputLen ∧ inputLen ≤ data.length + data.length / 254 + 1 := by
  have word : (store.readAt input inputLen).length = inputLen := Bytes.length_readAt_of_le inside
  obtain ⟨_, _⟩ := Cobs.length_decode decodes fun empty => by
    rw [empty] at word
    exact real word.symm
  omega

end decode

/-- The only word that stands for no bytes. -/
theorem decode_empty {word : Bytes} (decodes : Cobs.decode word = some []) (real : word ≠ []) :
    word = [1] := by
  obtain ⟨_, size, bound⟩ := Cobs.length_decode decodes real
  rw [List.length_nil] at size bound
  obtain ⟨code, rfl⟩ := List.length_eq_one_iff.mp (show word.length = 1 by omega)
  rw [Cobs.decode] at decodes
  split at decodes
  · cases decodes
  case isFalse legal =>
    rw [not_or, List.length_nil] at legal
    have positive : code.toNat ≠ 0 := fun zero => legal.1 (UInt8.toNat_inj.mp zero)
    have value : code.toNat = (1 : UInt8).toNat := by
      show code.toNat = 1
      omega
    rw [UInt8.toNat_inj.mp value]

/-! ### The codec -/

theorem le_wlCobsEncodedMaxSize {length inputLen : Nat} (machine : length ≤ sizeMax)
    (bound : length ≤ inputLen + inputLen / 254 + 1) : length ≤ wlCobsEncodedMaxSize inputLen := by
  unfold wlCobsEncodedMaxSize
  split
  · omega
  · split
    · exact machine
    · exact bound

theorem encode_inside {store : Bytes} {address : Nat} {input : Bytes}
    (holds : store.readAt address (Cobs.encode input).length = Cobs.encode input) :
    address + (Cobs.encode input).length ≤ store.length ∧ (Cobs.encode input).length ≠ 0 := by
  have size := congrArg List.length holds
  have grown := Cobs.length_encode input
  rw [Bytes.length_readAt] at size
  omega

theorem encode_codesAs {input : Bytes} {outputCapacity : Nat}
    (memory : input.length + outputCapacity ≤ sizeMax) :
    CodesAs input (Cobs.encode input) outputCapacity where
  clean := Cobs.zero_not_mem_encode input
  bounded fits := le_wlCobsEncodedMaxSize (by omega) (Cobs.length_encode_le input)
  stored store output fits := by
    have encoded := wlCobsEncode_eq memory store output
    rwa [if_pos fits] at encoded
  refused store output small := by
    have encoded := wlCobsEncode_eq memory store output
    rwa [if_neg (Nat.not_le.mpr small)] at encoded
  decoded store address output capacity holds apart fits := by
    obtain ⟨inside, real⟩ := encode_inside holds
    have decodes := holds.symm ▸ Cobs.decode_encode input
    exact wlCobsDecode_some inside real (by omega) decodes fits
  decodedInPlace store address holds := by
    obtain ⟨inside, real⟩ := encode_inside holds
    have decodes := holds.symm ▸ Cobs.decode_encode input
    exact wlCobsDecode_some inside real (.inl (Nat.le_refl _)) decodes
      (Nat.le_of_lt (length_decodes inside real decodes).1)

theorem decodesAlike {store : Bytes} {address length output : Nat}
    (inside : address + length ≤ store.length) (room : output + length ≤ store.length)
    (machine : length ≤ sizeMax) (apart : address + length ≤ output ∨ output + length ≤ address) :
    DecodesAlike store address length output := by
  rcases Nat.eq_zero_or_pos length with rfl | positive
  · exact ⟨rfl, nofun, nofun⟩
  have real := Nat.ne_of_gt positive
  cases decodes : Cobs.decode (store.readAt address length) with
  | none =>
    have refused (output : Nat) :
        wlCobsDecode store address length output length = (store, .error .cobsDecode) :=
      wlCobsDecode_none inside decodes
    exact ⟨by rw [wlCobsDecodeInPlace, refused, refused], by rw [wlCobsDecodeInPlace, refused]; nofun,
      by rw [wlCobsDecodeInPlace, refused]; nofun⟩
  | some data =>
    obtain ⟨short, bound⟩ := length_decodes inside real decodes
    have written (output : Nat) (clear : output ≤ address ∨ address + length ≤ output) :
        wlCobsDecode store address length output length =
          (store.writeAt output data, .ok data.length) :=
      wlCobsDecode_some inside real clear decodes (Nat.le_of_lt short)
    have inPlace := written address (.inl (Nat.le_refl _))
    have elsewhere := written output (by omega)
    rw [← wlCobsDecodeInPlace] at inPlace
    constructor
    · rw [inPlace, elsewhere]
    · rw [inPlace, elsewhere]
      rintro _ ⟨⟩
      rw [Bytes.readAt_writeAt_self (by omega), Bytes.readAt_writeAt_self (by omega)]
    · rw [inPlace]
      rintro _ ⟨⟩
      exact le_wlCobsEncodedMaxSize machine bound

/-- The coder and the decoders are inverse to each other, in place or not. -/
theorem cobs_codec_exact :
    (∀ input, ∃ word, ∀ outputCapacity, input.length + outputCapacity ≤ sizeMax →
      CodesAs input word outputCapacity) ∧
    ∀ store address length output, address + length ≤ store.length →
      output + length ≤ store.length → length ≤ sizeMax →
      address + length ≤ output ∨ output + length ≤ address →
      DecodesAlike store address length output :=
  ⟨fun input => ⟨Cobs.encode input, fun _ memory => encode_codesAs memory⟩,
    fun _ _ _ _ inside room machine apart => decodesAlike inside room machine apart⟩

/-- Two bytes need three: room for two is refused, three is enough. A word is decoded both ways. -/
theorem cobs_codec_small :
    (∃ word, CodesAs [1, 0] word 2 ∧ CodesAs [1, 0] word 3 ∧ CodesAs [1, 0] word 4) ∧
      DecodesAlike [2, 9, 1, 0, 0, 0] 0 3 3 := by
  obtain ⟨word, codes⟩ := cobs_codec_exact.1 [1, 0]
  exact ⟨⟨word, codes 2 (by decide), codes 3 (by decide), codes 4 (by decide)⟩,
    cobs_codec_exact.2 _ 0 3 3 (by decide) (by decide) (by decide) (.inl (by decide))⟩

/-! ### The fused decoder -/

theorem stream_decoders {encoded : Bytes} (real : encoded ≠ []) :
    (Cobs.decode encoded = none ∧ (wlFrameDecodeCobsCrc16 encoded).2 = .error .cobsDecode ∧
        decodeThenParse encoded = (encoded, .error .cobsDecode) ∧
        wlFrameDecodeCobsGeneric .crc16 encoded = (encoded, .error .cobsDecode)) ∨
      ∃ data, Cobs.decode encoded = some data ∧
        wlFrameDecodeCobsCrc16 encoded = (encoded.writeAt 0 data,
          if data = [] then .error .invalidArg else wlFrameDecode data .crc16) ∧
        decodeThenParse encoded = (encoded.writeAt 0 data, wlFrameDecode data .crc16) ∧
        wlFrameDecodeCobsGeneric .crc16 encoded = wlFrameDecodeCobsCrc16 encoded := by
  have length : encoded.length ≠ 0 := fun empty => real (List.eq_nil_of_length_eq_zero empty)
  have inside : 0 + encoded.length ≤ encoded.length := Nat.le_of_eq (Nat.zero_add _)
  have word : encoded.readAt 0 encoded.length = encoded := List.take_length
  rw [wlFrameDecodeCobsCrc16, decodeThenParse, wlFrameDecodeCobsGeneric, wlCobsDecodeInPlace,
    if_neg length]
  rcases @cobsCrc16Decode_cases encoded encoded.length 0 0 0xFFFF encoded.length (Nat.le_refl _)
      (Nat.zero_le _) (Nat.le_refl _) (Nat.le_refl _) with
    ⟨fails, buffer, refused⟩ | ⟨data, decodes, decoded⟩
  · rw [Nat.sub_zero] at fails
    rw [refused, wlCobsDecode_none inside fails]
    rw [word] at fails
    exact .inl ⟨fails, rfl, rfl, rfl⟩
  · rw [Nat.sub_zero] at decodes
    have short := (length_decodes inside length decodes).1
    have stored : (encoded.writeAt 0 data).take data.length = data :=
      @Bytes.readAt_writeAt_self encoded data 0 (by omega)
    rw [decoded, wlCobsDecode_some inside length (.inl (Nat.le_refl _)) decodes (Nat.le_of_lt short)]
    dsimp only
    rw [Nat.zero_add, stored, frameParse_residue]
    rw [word] at decodes
    refine .inr ⟨data, decodes, ?_, rfl, ?_⟩ <;> cases data <;> rfl

/-- The fused decoder returns what decoding in place and then parsing returns, except for the word of no
bytes, and what the decoder for the other integrity kinds would return for every word. -/
theorem fused_decode_agrees (encoded : Bytes) :
    (if encoded = [1] then (wlFrameDecodeCobsCrc16 encoded).2 = .error .invalidArg ∧
        (decodeThenParse encoded).2 = .error .badFrame
      else (wlFrameDecodeCobsCrc16 encoded).2 = (decodeThenParse encoded).2) ∧
    (∀ view, (wlFrameDecodeCobsCrc16 encoded).2 = .ok view →
      (wlFrameDecodeCobsCrc16 encoded).1 = (decodeThenParse encoded).1) ∧
    (wlFrameDecodeCobsCrc16 encoded).2 = (wlFrameDecodeCobsGeneric .crc16 encoded).2 ∧
    ∀ high low, wlCrc16Update 0xFFFF (encoded ++ [high, low]) = 0 ↔
      Bytes.readBe16 [high, low] = wlCrc16CcittFalse encoded := by
  rw [← and_assoc, ← and_assoc]
  refine ⟨?_, fun high low => wlCrc16Update_residue encoded rfl⟩
  by_cases empty : encoded = []
  · rw [empty]
    exact ⟨⟨rfl, nofun⟩, rfl⟩
  rcases stream_decoders empty with ⟨fails, fused, reference, generic⟩ |
      ⟨_, decodes, fused, reference, generic⟩
  · rw [fused, reference, generic, if_neg]
    · exact ⟨⟨rfl, nofun⟩, rfl⟩
    · rintro rfl
      exact absurd fails (by simp [Cobs.decode])
  · rw [generic, reference, fused]
    refine ⟨⟨?_, fun _ _ => rfl⟩, rfl⟩
    split
    case isTrue one =>
      have nothing : Cobs.decode [1] = some [] := by simp [Cobs.decode]
      obtain rfl := Option.some.inj (nothing.symm.trans (one ▸ decodes))
      exact ⟨rfl, rfl⟩
    case isFalse other =>
      rw [if_neg]
      rintro rfl
      exact other (decode_empty decodes empty)

/-- The word of no bytes. -/
theorem fused_decode_empty_differs :
    (wlFrameDecodeCobsCrc16 [1]).2 ≠ (decodeThenParse [1]).2 := by
  decide

end Wirelink
