/-
Module: Wirelink.Proofs.LinkEncode
Purpose: Every frame encoder of the source stores exactly the physical unit of its frame in the output,
  if there is room for it, and otherwise nothing, for each envelope and integrity kind and wherever
  the payload lies: in memory of its own, beside the output or inside it.
Trusted boundary: none
-/
import Wirelink.Spec.Wire
import Wirelink.Proofs.CobsEncode

namespace Wirelink

/-! ### The size pass

The pass runs over header, payload and trailer and counts what the encoder is going to store. -/

theorem cobsCountSpan_append (state : CobsCountState) (left right : Bytes) :
    cobsCountSpan (cobsCountSpan state left) right = cobsCountSpan state (left ++ right) := by
  simp [cobsCountSpan]

theorem cobsCountSpan_encodedLen (data : Bytes) (encodedLen run : Nat) :
    (cobsCountSpan { encodedLen := encodedLen, code := run + 1 } data).encodedLen =
      encodedLen + data.length + Cobs.fullRuns run data := by
  induction data generalizing encodedLen run with
  | nil => simp [cobsCountSpan, Cobs.fullRuns]
  | cons value data ih =>
    have step : cobsCountSpan { encodedLen := encodedLen, code := run + 1 } (value :: data) =
        cobsCountSpan
          (if (if value = 0 then 1 else run + 1 + 1) = 0xFF then
            { encodedLen := encodedLen + 2, code := 1 }
          else
            { encodedLen := encodedLen + 1, code := if value = 0 then 1 else run + 1 + 1 })
          data := rfl
    have fresh := fun encodedLen => ih encodedLen 0
    rw [step, Cobs.fullRuns, List.length_cons]
    by_cases zero : value = 0
    · simp only [if_pos zero]
      rw [if_neg (by decide), fresh]
      omega
    · simp only [if_neg zero]
      split
      · rw [fresh]
        omega
      · rw [ih]
        omega

theorem frameCobsEncodedSize_eq (header payload integrity : Bytes) :
    frameCobsEncodedSize header payload integrity =
      (Cobs.encode (header ++ payload ++ integrity)).length := by
  rw [frameCobsEncodedSize, cobsCountSpan_append, cobsCountSpan_append, ← List.append_assoc,
    cobsCountSpan_encodedLen, Cobs.length_encode]

/-! ### The stream encoder

Header, payload and trailer go through one encoder. A payload inside the output is read in time if
it lies off the code word or is staged behind its growth. -/

variable {store header values integrity : Bytes} {ref : PayloadRef} {out outCap : Nat}

theorem frameCobsEncode_eq (readable : Readable store out header values ref) :
    frameCobsEncode store out header ref values.length integrity =
      (store.writeAt out (Cobs.encode (header ++ values ++ integrity)),
        (Cobs.encode (header ++ values ++ integrity)).length) := by
  have head := @cobsEncodeSpan_eq store out [] header _ (readable_apart (List.take_length))
  have tail := @cobsEncodeSpan_eq store out (header ++ values) integrity _
    (readable_apart (List.take_length))
  obtain ⟨_, size, word⟩ := encoder_finish store out (header ++ values ++ integrity)
  rw [List.foldl_nil, List.nil_append] at head
  rw [frameCobsEncode, head, cobsEncodeSpan_eq readable, tail]
  exact Prod.ext word size

theorem length_encode_until (header values integrity : Bytes) {index : Nat}
    (inside : index < values.length) :
    (Cobs.encode (header ++ values.take index)).length ≤
      1 + Cobs.fullRuns 0 (header ++ values ++ integrity) + header.length + index := by
  have runs := Cobs.fullRuns_append_le 0 (header ++ values.take index)
    (values.drop index ++ integrity)
  rw [List.append_assoc, ← List.append_assoc (values.take index), List.take_append_drop,
    ← List.append_assoc] at runs
  rw [Cobs.length_encode, List.length_append, List.length_take_of_le (Nat.le_of_lt inside)]
  omega

/-- A payload that does not overlap the room of the code word is found where it lies. -/
theorem readable_of_clear {room : Nat} (holds : ref.bytes store values.length = values)
    (fits : (Cobs.encode (header ++ values ++ integrity)).length ≤ room)
    (clear : spansOverlap ref values.length out room = false) :
    Readable store out header values ref := by
  cases ref with
  | apart => exact readable_apart holds
  | shared =>
    refine readable_shared holds fun index inside => ?_
    have reached := length_encode_until header values integrity inside
    rw [Cobs.length_encode, List.length_append, List.length_append] at fits
    rw [spansOverlap, if_neg (by omega)] at clear
    split at clear
    · have before := of_decide_eq_false clear
      omega
    · have behind := of_decide_eq_false clear
      omega

/-- A payload staged at its offset in the raw frame, behind the growth of the code word, is read before
it is overwritten. -/
theorem readable_staged {source : Nat} (fits : source + values.length ≤ store.length)
    (lead : source = out + (1 + Cobs.fullRuns 0 (header ++ values ++ integrity)) + header.length) :
    Readable (store.writeAt source values) out header values (.shared source) := by
  refine readable_shared (Bytes.readAt_writeAt_self fits) fun index inside => .inr ?_
  have reached := length_encode_until header values integrity inside
  omega

theorem wlCobsEncodedMaxSize_eq {inputLen : Nat} (small : inputLen ≤ 0xFFFF) :
    wlCobsEncodedMaxSize inputLen = inputLen + inputLen / 254 + 1 := by
  have limit : sizeMax = 18446744073709551615 := by decide
  rw [wlCobsEncodedMaxSize]
  split
  · omega
  · rw [if_neg (by omega)]

/-! ### The bounded writer

The writer knows the size of the unit first, and stores nothing if there is no room for it. -/

/-- What an encoder does with the unit it makes. -/
def unitInto (unit store : Bytes) (out outCap : Nat) : Bytes × Except WlErr Nat :=
  if outCap < unit.length then (store, .error .bufTooSmall)
  else (store.writeAt out unit, .ok unit.length)

variable {packet : WlWirePacket} {kind : WlIntegrity}

@[simp] theorem length_frameWriteIntegrity (kind : WlIntegrity) (header payload : Bytes) :
    (frameWriteIntegrity kind header payload).length = wlProfileCrcSize kind := by
  cases kind <;> rfl

/-- The payload of a packet, and what its raw frame is. -/
structure Carries (packet : WlWirePacket) (kind : WlIntegrity) (store header values raw : Bytes) :
    Prop where
  holds : packet.payload.bytes store packet.payloadLen = values
  length : packet.payloadLen = values.length
  frame : raw = header ++ values ++ frameWriteIntegrity kind header values
  small : raw.length ≤ 0xFFFF

/-- The bounded writer for streams. An aliased payload moves to its offset in the raw frame first. -/
theorem wlFrameEncodeBounded_cobs {raw : Bytes} (carries : Carries packet kind store header values raw)
    (inside : out + outCap ≤ store.length) :
    wlFrameEncodeBounded packet .cobsStream kind header raw.length store out outCap =
      unitInto (Cobs.encode raw ++ [0]) store out outCap := by
  have bound := Cobs.length_encode_le raw
  have room := wlCobsEncodedMaxSize_eq carries.small
  have long : (Cobs.encode raw ++ [0]).length = (Cobs.encode raw).length + 1 := List.length_append
  have grown := Cobs.length_encode raw
  have parts := congrArg List.length carries.frame
  rw [List.length_append, List.length_append] at parts
  rw [unitInto, long, wlFrameEncodeBounded]
  rw [carries.holds, frameCobsEncodedSize_eq, ← carries.frame, carries.length]
  generalize overlapped : spansOverlap packet.payload values.length out
    (wlCobsEncodedMaxSize raw.length) = overlap
  by_cases tight : outCap < (Cobs.encode raw).length + 1
  · rw [if_pos tight, if_pos]
    split
    · exact tight
    case isFalse wide =>
      omega
  rw [if_neg tight, if_neg]
  swap
  · split
    · exact tight
    case isFalse wide => exact (not_or.mp wide).1
  cases overlap with
  | true =>
    simp only [or_true, if_true]
    generalize place : out + ((Cobs.encode raw).length - raw.length) + header.length = source
    have staged : Readable (store.writeAt source values) out header values (.shared source) :=
      readable_staged (by omega) (by rw [← carries.frame]; omega)
    rw [frameCobsEncode_eq staged, ← carries.frame]
    rw [← Bytes.writeAt_concat, Bytes.writeAt_covered (by omega) (by omega)]
  | false =>
    have readable : Readable store out header values packet.payload :=
      readable_of_clear (carries.length ▸ carries.holds) (by rw [← carries.frame]; omega) overlapped
    simp only [Bool.false_eq_true, if_false]
    rw [frameCobsEncode_eq readable, ← carries.frame]
    rw [← Bytes.writeAt_concat]

theorem frameWriteRaw_eq {raw : Bytes} (carries : Carries packet kind store header values raw) :
    frameWriteRaw store out header packet (frameWriteIntegrity kind header values) =
      store.writeAt out raw := by
  rw [frameWriteRaw, carries.holds, carries.length, Bytes.writeAt_comm (.inr (Nat.le_refl _)),
    carries.frame, Bytes.writeAt_append, Bytes.writeAt_append, List.length_append, Nat.add_assoc]

theorem wlFrameEncodeBounded_eq {raw : Bytes} (carries : Carries packet kind store header values raw)
    (envelope : WlEnvelope) (inside : out + outCap ≤ store.length) :
    wlFrameEncodeBounded packet envelope kind header raw.length store out outCap =
      unitInto (envelopeUnit envelope raw) store out outCap := by
  cases envelope with
  | cobsStream => exact wlFrameEncodeBounded_cobs carries inside
  | busLength16 =>
    have long : (Bytes.be16 (UInt16.ofNat raw.length) ++ raw).length = raw.length + 2 := by
      rw [List.length_append, Bytes.length_be16, Nat.add_comm]
    rw [unitInto, envelopeUnit, wlFrameEncodeBounded]
    rw [carries.holds, if_neg (Nat.not_lt.mpr carries.small), frameWriteRaw_eq carries,
      Bytes.writeAt_append, Bytes.writeAt_comm (.inl (Nat.le_refl _))]
    rfl
  | nativePacket =>
    rw [unitInto, envelopeUnit, wlFrameEncodeBounded, carries.holds, frameWriteRaw_eq carries]

/-! ### The link encoder -/

theorem length_frameWriteHeader (packet : WlWirePacket) :
    (frameWriteHeader packet (linkHeaderLen packet)).length = linkHeaderLen packet := by
  unfold frameWriteHeader linkHeaderLen
  split <;> simp [wlFrameReliableHeaderSize, wlFrameBaseHeaderSize]

theorem Carries.rawLen {raw : Bytes}
    (carries : Carries packet kind store (frameWriteHeader packet (linkHeaderLen packet)) values raw) :
    linkHeaderLen packet + packet.payloadLen + wlProfileCrcSize kind = raw.length := by
  rw [carries.frame, List.length_append, List.length_append, length_frameWriteHeader,
    length_frameWriteIntegrity, carries.length]

/-- The fused stream writer, with its detour for a tight or aliased output. -/
theorem wlFrameEncodeCobsCrc16_eq {raw : Bytes} (inside : out + outCap ≤ store.length)
    (carries : Carries packet .crc16 store (frameWriteHeader packet (linkHeaderLen packet)) values raw) :
    wlFrameEncodeCobsCrc16 packet store out outCap =
      unitInto (envelopeUnit .cobsStream raw) store out outCap := by
  have bound := Cobs.length_encode_le raw
  have rawLen : linkHeaderLen packet + packet.payloadLen + 2 = raw.length := carries.rawLen
  have headerLen := length_frameWriteHeader packet
  unfold wlFrameEncodeCobsCrc16
  simp only [rawLen]
  split
  · exact wlFrameEncodeBounded_eq carries .cobsStream inside
  case isFalse wide =>
  obtain ⟨_, clear⟩ := not_or.mp wide
  generalize frameWriteHeader packet (linkHeaderLen packet) = header at carries headerLen ⊢
  have head := @cobsCrc16EncodeSpan_eq store out [] header _ (readable_apart List.take_length) 0xFFFF
  have apart := eq_false_of_ne_true clear
  rw [carries.length] at apart
  have readable : Readable store out header values packet.payload :=
    readable_of_clear (carries.length ▸ carries.holds) (by rw [← carries.frame]; omega) apart
  rw [List.foldl_nil, List.nil_append, headerLen] at head
  rw [head]
  rw [carries.length, cobsCrc16EncodeSpan_eq readable]
  -- the trailer is encoded byte by byte
  have last (start : CobsEncodeState) :
      cobsEncodeByte (cobsEncodeByte ((header ++ values).foldl cobsEncodeByte start)
        (wlCrc16Update (wlCrc16Update 0xFFFF header) values >>> 8).toUInt8)
        (wlCrc16Update (wlCrc16Update 0xFFFF header) values).toUInt8 =
        raw.foldl cobsEncodeByte start := by
    simp only [carries.frame, List.foldl_append]
    rfl
  have long : (Cobs.encode raw ++ [0]).length = (Cobs.encode raw).length + 1 := List.length_append
  obtain ⟨origin, size, word⟩ := encoder_finish store out raw
  rw [last, envelopeUnit, unitInto, long, if_neg (by omega), Bytes.writeAt_concat, ← word, ← size]
  exact congrArg (fun base => (List.set _ (base + _) _, _)) origin

theorem wlLinkEncode_eq {config : WlConfig} {raw : Bytes} (inside : out + outCap ≤ store.length)
    (carries : Carries packet config.integrity store
      (frameWriteHeader packet (linkHeaderLen packet)) values raw) :
    wlLinkEncode config packet store out outCap =
      unitInto (envelopeUnit config.envelope raw) store out outCap := by
  rw [wlLinkEncode]
  split
  · rw [wlFrameEncodeGeneric, carries.rawLen]
    exact wlFrameEncodeBounded_eq carries _ inside
  case isFalse fused =>
    rw [not_or, not_not, not_not] at fused
    rw [fused.2] at carries
    rw [fused.1]
    exact wlFrameEncodeCobsCrc16_eq inside carries

theorem length_envelopeUnit_le (envelope : WlEnvelope) (raw : Bytes) :
    (envelopeUnit envelope raw).length ≤ envelopeRoom envelope raw.length := by
  have bound := Cobs.length_encode_le raw
  cases envelope with
  | cobsStream =>
    rw [envelopeUnit, List.length_append]
    exact Nat.succ_le_succ bound
  | busLength16 => exact Nat.le_of_eq (List.length_append.trans (Nat.add_comm 2 _))
  | nativePacket => exact Nat.le_refl _

/-- An output of the size a configuration asks for gets the unit at its start. -/
theorem wlLinkEncode_unit {config : WlConfig} {frame : WireFrame}
    (header : frameWriteHeader packet (linkHeaderLen packet) = frame.header)
    (length : packet.payloadLen = frame.payload.length)
    (holds : packet.payload.bytes store frame.payload.length = frame.payload)
    (small : (frame.raw config.integrity).length ≤ 0xFFFF)
    (room : envelopeRoom config.envelope (frame.raw config.integrity).length ≤ store.length) :
    ∃ written : Bytes,
      wlLinkEncode config packet store 0 store.length =
        (written, .ok (linkUnit config frame).length) ∧
      written.length = store.length ∧
      written.take (linkUnit config frame).length = linkUnit config frame := by
  have fits : (linkUnit config frame).length ≤ store.length :=
    Nat.le_trans (length_envelopeUnit_le _ _) room
  refine ⟨store.writeAt 0 (linkUnit config frame), ?_, Bytes.length_writeAt .., ?_⟩
  · rw [wlLinkEncode_eq (Nat.le_of_eq (Nat.zero_add _))
      ⟨length ▸ holds, length, by rw [header]; rfl, small⟩, ← linkUnit, unitInto,
      if_neg (Nat.not_lt.mpr fits)]
  · have stored : Bytes.readAt (store.writeAt 0 (linkUnit config frame)) 0
        (linkUnit config frame).length = linkUnit config frame :=
      Bytes.readAt_writeAt_self (by omega)
    exact stored

end Wirelink
