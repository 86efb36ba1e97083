/-
Module: Wirelink.Proofs.FrameCodec
Purpose: The frame encoder and the parser are inverse to each other for every envelope and integrity
  kind, wherever the payload lies, and no burst as long as the checksum passes the parser.
Trusted boundary: none
-/
import Wirelink.Lib.Guard
import Wirelink.Proofs.CobsCodec

namespace Wirelink

/-! ### The parser on the bytes of a frame

What the parser accepts is of one of three kinds, and its fields are read where the header has them.
So it is the raw frame of the view that is returned. -/

/-- A trailer passes the test of the parser exactly when it is the one the encoder writes. -/
theorem frameIntegrityOk_iff {integrity : WlIntegrity} {header payload trailer : Bytes}
    (length : trailer.length = wlProfileCrcSize integrity) :
    frameIntegrityOk (header ++ payload ++ trailer) (header ++ payload).length integrity none = true ↔
      trailer = frameWriteIntegrity integrity header payload := by
  unfold frameIntegrityOk frameWriteIntegrity
  rw [List.drop_left, List.take_left]
  have whole : trailer.take (wlProfileCrcSize integrity) = trailer :=
    List.take_of_length_le (Nat.le_of_eq length)
  have long := Nat.le_of_eq length.symm
  cases integrity with
  | none => exact ⟨fun _ => List.length_eq_zero_iff.mp length, fun _ => rfl⟩
  | crc16 =>
    have update : wlCrc16Update (wlCrc16Update 0xFFFF header) payload =
        wlCrc16CcittFalse (header ++ payload) := List.foldl_append.symm
    rw [update, beq_iff_eq]
    constructor
    · intro same
      rw [← same, Bytes.be16_readBe16 long]
      exact whole.symm
    · rintro rfl
      rw [← List.append_nil (Bytes.be16 _), Bytes.readBe16_be16]
  | crc32c =>
    have update : wlCrc32cUpdate (wlCrc32cUpdate 0xFFFFFFFF header) payload ^^^ 0xFFFFFFFF =
        wlCrc32c (header ++ payload) := congrArg (· ^^^ 0xFFFFFFFF) List.foldl_append.symm
    rw [update, beq_iff_eq]
    constructor
    · intro same
      rw [← same, Bytes.be32_readBe32 long]
      exact whole.symm
    · rintro rfl
      rw [← List.append_nil (Bytes.be32 _), Bytes.readBe32_be32]

theorem frameKind_first : ∀ first : UInt8, first &&& 0xF0 = 0xA0 → (first &&& 0x0C) >>> 2 = 1 →
    ∀ row, frameKind first = some row →
      first = 0xA4 ∧ row = (.data, 0, wlFrameBaseHeaderSize) ∨
      first = 0xA5 ∧ row = (.data, wlPacketFlagReliable, wlFrameReliableHeaderSize) ∨
      first = 0xA6 ∧ row = (.ack, 0, wlFrameReliableHeaderSize) := by
  intro first marker version row kind
  have only : ∀ index : Fin 256, UInt8.ofNat index &&& 0xF0 = 0xA0 →
      (UInt8.ofNat index &&& 0x0C) >>> 2 = 1 →
      UInt8.ofNat index = 0xA4 ∨ UInt8.ofNat index = 0xA5 ∨ UInt8.ofNat index = 0xA6 ∨
        frameKind (UInt8.ofNat index) = none := by decide +kernel
  have cases := only ⟨first.toNat, first.toNat_lt⟩
  rw [UInt8.ofNat_toNat] at cases
  rcases cases marker version with rfl | rfl | rfl | unknown
  · exact .inl ⟨rfl, (Option.some.inj kind).symm⟩
  · exact .inr (.inl ⟨rfl, (Option.some.inj kind).symm⟩)
  · exact .inr (.inr ⟨rfl, (Option.some.inj kind).symm⟩)
  · rw [unknown] at kind
    cases kind

variable {bytes : Bytes}

theorem take_base (long : 4 ≤ bytes.length) :
    bytes.take 4 = [bytes.getD 0 0, bytes.getD 1 0] ++ Bytes.be16 (Bytes.readBe16 (bytes.drop 2)) := by
  rw [Bytes.be16_readBe16 (by rw [List.length_drop]; omega)]
  match bytes, long with
  | _ :: _ :: _ :: _ :: _, _ => rfl

theorem take_reliable (long : 16 ≤ bytes.length) :
    bytes.take 16 = bytes.take 4 ++
      (Bytes.be64 (Bytes.readBe64 (bytes.drop 4)) ++ Bytes.be32 (Bytes.readBe32 (bytes.drop 12))) := by
  have rest := List.take_add (l := bytes.drop 4) (i := 8) (j := 4)
  rw [List.drop_drop] at rest
  rw [Bytes.be64_readBe64 (by rw [List.length_drop]; omega),
    Bytes.be32_readBe32 (by rw [List.length_drop]; omega), ← rest]
  exact List.take_add (i := 4) (j := 12)

theorem frame_of_split {frame : WireFrame} {integrity : WlIntegrity} {headerLen payloadLen : Nat}
    (long : headerLen + payloadLen + wlProfileCrcSize integrity = bytes.length)
    (header : bytes.take headerLen = frame.header)
    (payload : bytes.readAt headerLen payloadLen = frame.payload)
    (passes : frameIntegrityOk bytes (headerLen + payloadLen) integrity none = true) :
    bytes = frame.raw integrity := by
  have body : frame.header ++ frame.payload = bytes.take (headerLen + payloadLen) := by
    rw [← header, ← payload, Bytes.readAt, ← List.take_add]
  have covered : (frame.header ++ frame.payload).length = headerLen + payloadLen := by
    rw [body]
    exact List.length_take_of_le (by omega)
  have split : bytes = frame.header ++ frame.payload ++ bytes.drop (headerLen + payloadLen) := by
    rw [body, List.take_append_drop]
  have rest : (bytes.drop (headerLen + payloadLen)).length = wlProfileCrcSize integrity := by
    rw [List.length_drop]
    omega
  generalize bytes.drop (headerLen + payloadLen) = tail at split rest
  rw [split, ← covered] at passes
  rw [split, WireFrame.raw, WireFrame.trailer, (frameIntegrityOk_iff rest).mp passes]

theorem wlFrameDecode_exact {view : WlFrameView} {integrity : WlIntegrity}
    (decoded : wlFrameDecode bytes integrity = .ok view) :
    ∃ frame : WireFrame, frame.Valid ∧ bytes = frame.raw integrity ∧ view = frame.view := by
  unfold wlFrameDecode frameParse at decoded
  simp only [ite_error_eq_ok, not_not, Nat.not_lt] at decoded
  obtain ⟨long, marker, version, decoded⟩ := decoded
  split at decoded
  · cases decoded
  case h_2 type flags headerLen kind =>
  simp only [ite_error_eq_ok, not_not] at decoded
  obtain ⟨whole, _, reserved, data, control, passes, decoded⟩ := decoded
  cases decoded
  have payloadLen : headerLen + (bytes.length - headerLen - wlProfileCrcSize integrity) =
      bytes.length - wlProfileCrcSize integrity := by omega
  have raw {frame : WireFrame} (header : bytes.take headerLen = frame.header)
      (payload : bytes.readAt headerLen (bytes.length - headerLen - wlProfileCrcSize integrity) =
        frame.payload) : bytes = frame.raw integrity :=
    frame_of_split (by omega) header payload (payloadLen ▸ passes)
  have base := @take_base bytes (by unfold wlFrameBaseHeaderSize at long; omega)
  rw [reserved] at base
  have size : (bytes.readAt headerLen (bytes.length - headerLen - wlProfileCrcSize integrity)).length ≤
      wlFrameMaxPayload := by
    rw [Bytes.length_readAt]
    omega
  rcases frameKind_first _ marker version _ kind with ⟨first, row⟩ | ⟨first, row⟩ | ⟨first, row⟩
  · cases row
    rw [first] at base
    refine ⟨.unreliable (Bytes.readBe16 (bytes.drop 2)) (bytes.readAt 4 _), ?_, raw base rfl, rfl⟩
    exact ⟨(not_or.mp (not_and.mp data rfl)).1, size⟩
  · cases row
    have long := @take_reliable bytes (by unfold wlFrameReliableHeaderSize at whole; omega)
    rw [base, first] at long
    obtain ⟨named, opened⟩ := not_or.mp (not_and.mp data rfl)
    refine ⟨.reliable (Bytes.readBe16 (bytes.drop 2)) (Bytes.readBe64 (bytes.drop 4))
      (Bytes.readBe32 (bytes.drop 12)) (bytes.readAt 16 _), ?_, raw long rfl, rfl⟩
    exact ⟨named, fun zero => opened ⟨by decide, zero⟩, size⟩
  · cases row
    have long := @take_reliable bytes (by unfold wlFrameReliableHeaderSize at whole; omega)
    obtain ⟨unnamed, bare, opened⟩ : Bytes.readBe16 (bytes.drop 2) = 0 ∧
        bytes.length - wlFrameReliableHeaderSize - wlProfileCrcSize integrity = 0 ∧
        Bytes.readBe64 (bytes.drop 4) ≠ 0 := by simpa using control
    rw [base, first, unnamed] at long
    have empty : bytes.readAt wlFrameReliableHeaderSize
        (bytes.length - wlFrameReliableHeaderSize - wlProfileCrcSize integrity) = [] := by
      rw [bare, Bytes.readAt_zero]
    refine ⟨.ack (Bytes.readBe64 (bytes.drop 4)) (Bytes.readBe32 (bytes.drop 12)), opened,
      raw long empty, ?_⟩
    rw [unnamed, empty]
    rfl

theorem WireFrame.starts (frame : WireFrame) (integrity : WlIntegrity) :
    (frame.raw integrity).getD 0 0 &&& 0xF0 = 0xA0 ∧
    ((frame.raw integrity).getD 0 0 &&& 0x0C) >>> 2 = 1 ∧
    frameKind ((frame.raw integrity).getD 0 0) =
      some (frame.view.type, frame.view.flags, frame.header.length) ∧
    (frame.raw integrity).getD 1 0 = 0 := by
  cases frame with
  | unreliable =>
    exact (by decide : (0xA4 : UInt8) &&& 0xF0 = 0xA0 ∧ ((0xA4 : UInt8) &&& 0x0C) >>> 2 = 1 ∧
      frameKind 0xA4 = some (.data, 0, 4) ∧ (0 : UInt8) = 0)
  | reliable =>
    exact (by decide : (0xA5 : UInt8) &&& 0xF0 = 0xA0 ∧ ((0xA5 : UInt8) &&& 0x0C) >>> 2 = 1 ∧
      frameKind 0xA5 = some (.data, 1, 16) ∧ (0 : UInt8) = 0)
  | ack =>
    exact (by decide : (0xA6 : UInt8) &&& 0xF0 = 0xA0 ∧ ((0xA6 : UInt8) &&& 0x0C) >>> 2 = 1 ∧
      frameKind 0xA6 = some (.ack, 0, 16) ∧ (0 : UInt8) = 0)

theorem WireFrame.fields (frame : WireFrame) (integrity : WlIntegrity) :
    Bytes.readBe16 ((frame.raw integrity).drop 2) = frame.view.messageId ∧
      (frame.header.length = 16 →
        Bytes.readBe64 ((frame.raw integrity).drop 4) = frame.view.sessionId ∧
          Bytes.readBe32 ((frame.raw integrity).drop 12) = frame.view.sequence) := by
  cases frame with
  | unreliable => exact ⟨Bytes.readBe16_be16 _ _, nofun⟩
  | reliable | ack =>
    exact ⟨Bytes.readBe16_be16 _ _, fun _ => ⟨Bytes.readBe64_be64 _ _, Bytes.readBe32_be32 _ _⟩⟩

theorem WireFrame.Valid.short {frame : WireFrame} (valid : frame.Valid) :
    frame.payload.length ≤ wlFrameMaxPayload := by
  cases frame with
  | unreliable => exact valid.2
  | reliable => exact valid.2.2
  | ack => exact Nat.zero_le _

theorem wlFrameDecode_raw {frame : WireFrame} (valid : frame.Valid) (integrity : WlIntegrity) :
    wlFrameDecode (frame.raw integrity) integrity = .ok frame.view := by
  have size := frame.length_raw integrity
  have covered : (frame.raw integrity).length - wlProfileCrcSize integrity =
      (frame.header ++ frame.payload).length := by
    rw [size, List.length_append, Nat.add_sub_cancel]
  have passes : frameIntegrityOk (frame.raw integrity)
      ((frame.raw integrity).length - wlProfileCrcSize integrity) integrity none = true := by
    rw [covered]
    exact (frameIntegrityOk_iff (frame.length_trailer integrity)).mpr rfl
  have payloadLen : (frame.raw integrity).length - frame.header.length - wlProfileCrcSize integrity =
      frame.payload.length := by omega
  have body : (frame.raw integrity).readAt frame.header.length frame.payload.length =
      frame.payload := by
    rw [Bytes.readAt, WireFrame.raw, List.append_assoc, List.drop_left, List.take_left]
  have long : wlFrameBaseHeaderSize ≤ frame.header.length := frame.length_header_le.1
  have short := valid.short
  obtain ⟨marker, version, kind, reserved⟩ := frame.starts integrity
  unfold wlFrameDecode frameParse
  simp only [kind, payloadLen, body, passes, ite_error_eq_ok, not_not, Nat.not_lt, true_and]
  refine ⟨by omega, marker, version, by omega, short, reserved, ?_⟩
  obtain ⟨id, rest⟩ := frame.fields integrity
  cases frame with
  | unreliable messageId payload =>
    simp [WireFrame.view, WireFrame.header, WireFrame.payload, wlFrameReliableHeaderSize,
      wlFrameBaseHeaderSize, id, valid.1]
  | reliable messageId sessionId sequence payload =>
    obtain ⟨session, number⟩ := rest rfl
    simp [WireFrame.view, WireFrame.header, WireFrame.payload, wlFrameReliableHeaderSize, id, session,
      number, valid.1, valid.2.1]
  | ack =>
    obtain ⟨session, number⟩ := rest rfl
    simp [WireFrame.view, WireFrame.header, WireFrame.payload, wlFrameReliableHeaderSize, id, session,
      number]
    exact valid

/-! ### The encoder on an accepted packet

Every encoder stores the unit of the packet's frame; the parser then finds that frame again. -/

theorem flags_known : ∀ flags : UInt8, flags &&& ~~~ wlPacketFlagReliable = 0 →
    flags = 0 ∨ flags = wlPacketFlagReliable := by
  intro flags
  have only : ∀ index : Fin 256, UInt8.ofNat index &&& ~~~ wlPacketFlagReliable = 0 →
      UInt8.ofNat index = 0 ∨ UInt8.ofNat index = wlPacketFlagReliable := by decide +kernel
  have known := only ⟨flags.toNat, flags.toNat_lt⟩
  rw [UInt8.ofNat_toNat] at known
  exact known

variable {packet : WlWirePacket} {out outCap : Nat} {store : Bytes}

/-- What `wl_frame_encode` accepts is a valid frame, and its header is the one written. -/
structure Framed (packet : WlWirePacket) (store : Bytes) : Prop where
  valid : (packet.frame store).Valid
  header : frameWriteHeader packet (linkHeaderLen packet) = (packet.frame store).header
  payload : (packet.frame store).payload = packet.values store
  shows : Shows (packet.frame store).view packet store

theorem Accepted.framed (accepted : Accepted packet store out outCap) : Framed packet store := by
  obtain ⟨⟨_, wellFormed⟩, present, -⟩ := accepted
  obtain ⟨type, flags, _⟩ := packet
  simp only [frameHeaderSize, ite_error_eq_ok, not_and, not_or, not_not] at wellFormed
  obtain ⟨data, ack, known, short, -⟩ := wellFormed
  have short := Nat.le_trans (Nat.le_of_eq present) (Nat.not_lt.mp short)
  cases type with
  | data =>
    obtain ⟨named, flag, session⟩ := data rfl
    rcases flags_known flags flag with rfl | rfl
    · refine ⟨⟨named, short⟩, ?_, rfl, ⟨rfl, rfl, rfl, rfl, rfl⟩⟩
      simp [frameWriteHeader, linkHeaderLen, framePacketKind, WlWirePacket.frame, WireFrame.header,
        wlFrameReliableHeaderSize, wlFrameBaseHeaderSize]
    · have marked : (0xA4 : UInt8) ||| 1 = 0xA5 := by decide
      refine ⟨⟨named, session (by decide), short⟩, ?_, rfl, ⟨rfl, rfl, rfl, rfl, rfl⟩⟩
      simp [frameWriteHeader, linkHeaderLen, framePacketKind, WlWirePacket.frame, WireFrame.header,
        wlPacketFlagReliable, marked]
  | ack =>
    obtain ⟨rfl, rfl, rfl, session⟩ := ack rfl
    have bare := List.length_eq_zero_iff.mp present
    have marked : (0xA4 : UInt8) ||| 2 = 0xA6 := by decide
    refine ⟨session, ?_, bare.symm, ⟨rfl, rfl, rfl, bare.symm, rfl⟩⟩
    simp [frameWriteHeader, linkHeaderLen, framePacketKind, WlWirePacket.frame, WireFrame.header,
      marked]
  | nack | privateUse => exact absurd (known (by decide)) (by decide)

theorem Accepted.carries (accepted : Accepted packet store out outCap) (integrity : WlIntegrity) :
    Carries packet integrity store (frameWriteHeader packet (linkHeaderLen packet))
      (packet.values store) ((packet.frame store).raw integrity) := by
  obtain ⟨valid, header, payload, -⟩ := accepted.framed
  refine ⟨rfl, accepted.present.symm, ?_, ?_⟩
  · rw [header, WireFrame.raw, WireFrame.trailer, payload]
  · have head := (packet.frame store).length_header_le.2
    have short := valid.short
    have crc : wlProfileCrcSize integrity ≤ 4 := by cases integrity <;> decide
    rw [WireFrame.length_raw]
    unfold wlFrameMaxPayload at short
    omega

/-- An accepted packet gives the physical unit of its frame, for every envelope and integrity. -/
theorem wlFrameEncode_eq (accepted : Accepted packet store out outCap) (integrity : WlIntegrity)
    (envelope : WlEnvelope) :
    wlFrameEncode packet integrity envelope store out outCap =
      unitInto (envelopeUnit envelope ((packet.frame store).raw integrity)) store out outCap := by
  obtain ⟨_, wellFormed⟩ := accepted.wellFormed
  have carries := accepted.carries integrity
  rw [wlFrameEncode, wellFormed]
  dsimp only
  split
  case isTrue fused =>
    obtain ⟨rfl, rfl⟩ := fused
    exact wlFrameEncodeCobsCrc16_eq accepted.inside carries
  · rw [wlFrameEncodeGeneric, carries.rawLen]
    exact wlFrameEncodeBounded_eq carries envelope accepted.inside

theorem stripEnvelope_unit (envelope : WlEnvelope) (raw : Bytes) :
    stripEnvelope envelope (envelopeUnit envelope raw) = .ok raw := by
  cases envelope with
  | cobsStream =>
    have long : (Cobs.encode raw ++ [0]).length - 1 = (Cobs.encode raw).length := by
      rw [List.length_append, List.length_singleton, Nat.add_sub_cancel]
    have word : Bytes.readAt (Cobs.encode raw ++ [0]) 0 (Cobs.encode raw).length = Cobs.encode raw :=
      List.take_left
    have grown := Cobs.length_encode raw
    have decodes := Cobs.decode_encode raw
    obtain ⟨inside, real⟩ := encode_inside word
    rw [← word] at decodes
    rw [stripEnvelope, envelopeUnit, wlCobsDecodeInPlace, long,
      wlCobsDecode_some inside real (.inl (Nat.le_refl 0)) decodes (by omega)]
    have stored : Bytes.readAt (Bytes.writeAt (Cobs.encode raw ++ [0]) 0 raw) 0 raw.length = raw :=
      Bytes.readAt_writeAt_self (by omega)
    exact congrArg Except.ok stored
  | busLength16 | nativePacket => rfl

theorem WireFrame.Valid.sent {frame : WireFrame} (valid : frame.Valid) (store : Bytes) :
    (∃ headerLen, frameHeaderSize frame.view.packet = .ok headerLen) ∧
      (frame.view.packet.values store).length = frame.view.packet.payloadLen ∧
      frame.view.packet.frame store = frame := by
  cases frame with
  | unreliable =>
    obtain ⟨named, short⟩ := valid
    refine ⟨⟨4, ?_⟩, ?_, ?_⟩ <;>
      simp [frameHeaderSize, view, WlFrameView.packet, named, short, wlFramePacketHeaderSize,
        wlFrameBaseHeaderSize, WlWirePacket.values, PayloadRef.bytes, WlWirePacket.frame]
  | reliable =>
    obtain ⟨named, opened, short⟩ := valid
    refine ⟨⟨16, ?_⟩, ?_, ?_⟩ <;>
      simp [frameHeaderSize, view, WlFrameView.packet, named, short, opened, wlFramePacketHeaderSize,
        wlPacketFlagReliable, wlFrameReliableHeaderSize, WlWirePacket.values, PayloadRef.bytes,
        WlWirePacket.frame]
  | ack sessionId =>
    have opened : sessionId ≠ 0 := valid
    refine ⟨⟨16, ?_⟩, ?_, ?_⟩ <;>
      simp [frameHeaderSize, view, WlFrameView.packet, opened, wlFramePacketHeaderSize,
        wlFrameReliableHeaderSize, WlWirePacket.values, PayloadRef.bytes, WlWirePacket.frame]

theorem unitInto_ok {unit written : Bytes} {length : Nat}
    (stored : unitInto unit store out outCap = (written, .ok length)) :
    unit.length ≤ outCap ∧ written = store.writeAt out unit ∧ length = unit.length := by
  unfold unitInto at stored
  split at stored
  · cases stored
  case isFalse fits =>
    cases stored
    exact ⟨Nat.not_lt.mp fits, rfl, rfl⟩

theorem unitInto_error {unit written : Bytes} {err : WlErr}
    (refused : unitInto unit store out outCap = (written, .error err)) :
    err = .bufTooSmall ∧ written = store := by
  unfold unitInto at refused
  split at refused
  · cases refused
    exact ⟨rfl, rfl⟩
  · cases refused

/-- Encoder and parser are inverse to each other: what was encoded parses to the packet, and what the
parser accepts is the encoding of what it returns. -/
theorem frame_codec_exact :
    (∀ packet store out outCap, Accepted packet store out outCap →
      ∀ integrity envelope written length,
        wlFrameEncode packet integrity envelope store out outCap = (written, .ok length) →
        ∃ raw view, stripEnvelope envelope (written.readAt out length) = .ok raw ∧
          wlFrameDecode raw integrity = .ok view ∧ Shows view packet store) ∧
    (∀ bytes integrity view, wlFrameDecode bytes integrity = .ok view →
      ∀ store out outCap, out + outCap ≤ store.length → bytes.length ≤ outCap →
        Accepted view.packet store out outCap ∧
        wlFrameEncode view.packet integrity .nativePacket store out outCap =
          (store.writeAt out bytes, .ok bytes.length)) := by
  constructor
  · intro packet store out outCap accepted integrity envelope written length encoded
    rw [wlFrameEncode_eq accepted] at encoded
    obtain ⟨fits, rfl, rfl⟩ := unitInto_ok encoded
    have inside := accepted.inside
    refine ⟨_, _, ?_, wlFrameDecode_raw accepted.framed.valid integrity, accepted.framed.shows⟩
    rw [Bytes.readAt_writeAt_self (by omega), stripEnvelope_unit]
  · intro bytes integrity view decoded store out outCap inside fits
    obtain ⟨frame, valid, rfl, rfl⟩ := wlFrameDecode_exact decoded
    obtain ⟨wellFormed, present, same⟩ := valid.sent store
    have accepted : Accepted frame.view.packet store out outCap := ⟨wellFormed, present, inside⟩
    refine ⟨accepted, ?_⟩
    rw [wlFrameEncode_eq accepted, same, envelopeUnit, unitInto, if_neg (Nat.not_lt.mpr fits)]

/-- One byte, unreliable. -/
def smallPacket : WlWirePacket :=
  { type := .data, flags := 0, messageId := 1, sessionId := 0, sequence := 0
    payload := .shared 1, payloadLen := 1 }

theorem smallPacket_accepted : Accepted smallPacket [9, 7, 0, 0, 0, 0, 0, 0, 0, 0] 0 10 :=
  ⟨⟨4, by decide⟩, by decide, by decide⟩

theorem frame_codec_small :
    (∃ raw view, stripEnvelope .cobsStream [2, 0xA4, 1, 5, 1, 7, 0xF1, 0xB8, 0] = .ok raw ∧
      wlFrameDecode raw .crc16 = .ok view ∧
        Shows view smallPacket [9, 7, 0, 0, 0, 0, 0, 0, 0, 0]) ∧
    wlFrameEncode (WireFrame.unreliable 1 [7]).view.packet .crc16 .nativePacket
      (List.replicate 7 0) 0 7 = ([0xA4, 0, 0, 1, 7, 0xF1, 0xB8], .ok 7) :=
  ⟨frame_codec_exact.1 smallPacket _ 0 10 smallPacket_accepted .crc16 .cobsStream
      [2, 0xA4, 1, 5, 1, 7, 0xF1, 0xB8, 0, 0] 9 (by decide +kernel),
    (frame_codec_exact.2 [0xA4, 0, 0, 1, 7, 0xF1, 0xB8] .crc16 (WireFrame.unreliable 1 [7]).view
      (by decide +kernel) (List.replicate 7 0) 0 7 (by decide) (by decide)).2⟩

/-- The fused encoder of streams does what the bounded writer does. It succeeds exactly when the code
word and its delimiter fit, and writes only there. -/
theorem fused_encode_agrees (accepted : Accepted packet store out outCap) :
    let word := Cobs.encode ((packet.frame store).raw .crc16)
    wlFrameEncodeCobsCrc16 packet store out outCap =
      wlFrameEncodeBounded packet .cobsStream .crc16 (frameWriteHeader packet (linkHeaderLen packet))
        (linkHeaderLen packet + packet.payloadLen + 2) store out outCap ∧
    ((∃ length, (wlFrameEncodeCobsCrc16 packet store out outCap).2 = .ok length) ↔
      word.length + 1 ≤ outCap) ∧
    (∀ written length, wlFrameEncodeCobsCrc16 packet store out outCap = (written, .ok length) →
      length = word.length + 1 ∧ ∀ index, index < out ∨ out + length ≤ index →
        written[index]? = store[index]?) ∧
    ∀ written err, wlFrameEncodeCobsCrc16 packet store out outCap = (written, .error err) →
      err = .bufTooSmall ∧ written = store := by
  have carries := accepted.carries .crc16
  have rawLen : linkHeaderLen packet + packet.payloadLen + 2 = _ := carries.rawLen
  have long (word : Bytes) : (word ++ [0]).length = word.length + 1 := List.length_append
  rw [rawLen, wlFrameEncodeBounded_eq carries _ accepted.inside,
    wlFrameEncodeCobsCrc16_eq accepted.inside carries, envelopeUnit]
  refine ⟨rfl, ?_, ?_, fun written err refused => unitInto_error refused⟩
  · rw [unitInto, long]
    split
    case isTrue small => exact ⟨fun stored => absurd stored.choose_spec (by simp), fun fits => by omega⟩
    case isFalse fits => exact ⟨fun _ => Nat.not_lt.mp fits, fun _ => ⟨_, rfl⟩⟩
  · intro written length encoded
    obtain ⟨_, rfl, rfl⟩ := unitInto_ok encoded
    refine ⟨long _, fun index outside => ?_⟩
    rw [Bytes.getElem?_writeAt, if_neg (by omega)]

theorem fused_encode_small :
    (∃ length, (wlFrameEncodeCobsCrc16 smallPacket [9, 7, 0, 0, 0, 0, 0, 0, 0, 0] 0 10).2 = .ok length) ↔
      (Cobs.encode ((smallPacket.frame [9, 7, 0, 0, 0, 0, 0, 0, 0, 0]).raw .crc16)).length + 1 ≤ 10 :=
  (fused_encode_agrees smallPacket_accepted).2.1

/-- A payload that lies anywhere in the memory of the output is encoded like a copy of it. -/
theorem aliased_encode_safe (packet : WlWirePacket) {address : Nat}
    (present : address + packet.payloadLen ≤ store.length) (inside : out + outCap ≤ store.length)
    (integrity : WlIntegrity) (envelope : WlEnvelope) :
    wlFrameEncode { packet with payload := .shared address } integrity envelope store out outCap =
      wlFrameEncode { packet with payload := .apart (store.readAt address packet.payloadLen) }
        integrity envelope store out outCap := by
  have whole := Bytes.length_readAt_of_le present
  cases wellFormed : frameHeaderSize packet with
  | error err =>
    have refused (payload : PayloadRef) :
        frameHeaderSize { packet with payload := payload } = .error err := wellFormed
    rw [wlFrameEncode, wlFrameEncode, refused, refused]
  | ok headerLen =>
    have accepted (payload : PayloadRef)
        (values : payload.bytes store packet.payloadLen = store.readAt address packet.payloadLen) :
        Accepted { packet with payload := payload } store out outCap :=
      ⟨⟨headerLen, wellFormed⟩, (congrArg List.length values).trans whole, inside⟩
    have copied : (PayloadRef.apart (store.readAt address packet.payloadLen)).bytes store
        packet.payloadLen = store.readAt address packet.payloadLen :=
      List.take_of_length_le (Nat.le_of_eq whole)
    rw [wlFrameEncode_eq (accepted _ rfl), wlFrameEncode_eq (accepted _ copied), WlWirePacket.frame,
      WlWirePacket.frame, WlWirePacket.values, WlWirePacket.values, copied]
    rfl

theorem aliased_encode_small :
    wlFrameEncode { smallPacket with payload := .shared 1 } .crc16 .cobsStream
        [9, 7, 0, 0, 0, 0, 0, 0, 0, 0] 0 10 =
      wlFrameEncode { smallPacket with payload := .apart [7] } .crc16 .cobsStream
        [9, 7, 0, 0, 0, 0, 0, 0, 0, 0] 0 10 :=
  @aliased_encode_safe 0 10 [9, 7, 0, 0, 0, 0, 0, 0, 0, 0] smallPacket 1 (by decide) (by decide) .crc16
    .cobsStream

/-! ### Damaged frames

The checksums are linear, and a burst that is not longer than the register leaves a residue. -/

theorem wlCrc16Update_raw (frame : WireFrame) : wlCrc16Update 0xFFFF (frame.raw .crc16) = 0 := by
  have read := Bytes.readBe16_be16 (wlCrc16Update (wlCrc16Update 0xFFFF frame.header) frame.payload) []
  refine (wlCrc16Update_residue (frame.header ++ frame.payload) (frame.length_trailer .crc16)).mpr ?_
  exact read.trans List.foldl_append.symm

theorem wlFrameDecode_crc32c {covered trailer : Bytes} (length : trailer.length = 4)
    {view : WlFrameView} (decoded : wlFrameDecode (covered ++ trailer) .crc32c = .ok view) :
    trailer = Bytes.be32 (wlCrc32c covered) := by
  obtain ⟨frame, -, split, -⟩ := wlFrameDecode_exact decoded
  obtain ⟨rfl, rfl⟩ := List.append_inj' split (length.trans (frame.length_trailer .crc32c).symm)
  rw [wlCrc32c, wlCrc32cUpdate, List.foldl_append]
  rfl

/-- No burst as long as the checksum passes the parser. -/
theorem burst_detected (accepted : Accepted packet store out outCap) :
    (∀ written length, wlFrameEncode packet .crc16 .nativePacket store out outCap = (written, .ok length) →
      ∀ received,
        Burst 16 (Crc.byteBits (written.readAt out length)) (Crc.byteBits received) →
        ∀ view, wlFrameDecode received .crc16 ≠ .ok view) ∧
    ∀ written length, wlFrameEncode packet .crc32c .nativePacket store out outCap = (written, .ok length) →
      ∀ covered trailer, written.readAt out length = covered ++ trailer → trailer.length = 4 →
        (∀ received, Burst 32 (Crc.mirroredBits covered) (Crc.mirroredBits received) →
          ∀ view, wlFrameDecode (received ++ trailer) .crc32c ≠ .ok view) ∧
        ∀ received, received.length = 4 → received ≠ trailer →
          ∀ view, wlFrameDecode (covered ++ received) .crc32c ≠ .ok view := by
  have sent {integrity : WlIntegrity} {written : Bytes} {length : Nat}
      (encoded : wlFrameEncode packet integrity .nativePacket store out outCap = (written, .ok length)) :
      written.readAt out length = (packet.frame store).raw integrity := by
    rw [wlFrameEncode_eq accepted] at encoded
    obtain ⟨fits, rfl, rfl⟩ := unitInto_ok encoded
    have inside := accepted.inside
    exact Bytes.readAt_writeAt_self (by omega)
  constructor
  · intro written length encoded received burst view decoded
    rw [sent encoded] at burst
    obtain ⟨_, -, rfl, -⟩ := wlFrameDecode_exact decoded
    obtain ⟨before, _, _, after, original, damaged, size, fits, differ⟩ := burst
    apply Crc.run_burst crc16Poly (by decide) size fits differ (0xFFFF : UInt16).toBitVec before after
    rw [← original, ← damaged, ← wlCrc16Update_eq, ← wlCrc16Update_eq, wlCrc16Update_raw,
      wlCrc16Update_raw]
  · intro written length encoded covered trailer split size
    have decoded := wlFrameDecode_raw accepted.framed.valid .crc32c
    rw [← sent encoded, split] at decoded
    have spelled := wlFrameDecode_crc32c size decoded
    constructor
    · intro received burst view decoded
      have word := congrArg (fun data => Bytes.readBe32 (data ++ []))
        (spelled.symm.trans (wlFrameDecode_crc32c size decoded))
      simp only [Bytes.readBe32_be32, wlCrc32c, UInt32.xor_left_inj] at word
      obtain ⟨before, _, _, after, original, damaged, even, fits, differ⟩ := burst
      apply Crc.run_burst crc32cPoly (by decide) even fits differ
        (0xFFFFFFFF : UInt32).toBitVec.reverse before after
      rw [← original, ← damaged, ← wlCrc32cUpdate_eq, ← wlCrc32cUpdate_eq, word]
    · intro received size differ view decoded
      exact differ ((wlFrameDecode_crc32c size decoded).trans spelled.symm)

theorem burst_detected_small :
    wlFrameDecode [0xA4, 0, 0, 1, 6, 0xF1, 0xB8] .crc16 ≠ .ok (WireFrame.unreliable 1 [6]).view :=
  (burst_detected smallPacket_accepted).1 [0xA4, 0, 0, 1, 7, 0xF1, 0xB8, 0, 0, 0] 7 (by decide) _
    ⟨Crc.byteBits [0xA4, 0, 0, 1], Crc.byteBits [7], Crc.byteBits [6], Crc.byteBits [0xF1, 0xB8],
      by decide +kernel, by decide +kernel, by decide +kernel, by decide +kernel, by decide +kernel⟩ _

end Wirelink
