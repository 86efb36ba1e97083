/-
Module: Wirelink.Core.Frame
Purpose: The frame codec used by an initialized link: header and integrity trailer, the three
  envelopes on the way out, and the parser with its error precedence on the way in. The general
  build is modelled (every envelope and integrity kind available).
Trusted boundary: the translation of src/frame.c, src/frame_internal.h,
  src/frame_cobs_crc16.c, src/link_profile.h and src/link_frame.h
-/
import Wirelink.Core.Cobs

namespace Wirelink

/-- `wl_profile_crc_size`. -/
def wlProfileCrcSize : WlIntegrity → Nat
  | .crc16 => 2
  | .crc32c => 4
  | .none => 0

/-- `wl_frame_packet_header_size`. -/
def wlFramePacketHeaderSize (type : WlPacketType) (flags : UInt8) : Nat :=
  if type = .ack ∧ flags = 0 then wlFrameReliableHeaderSize
  else if type ≠ .data ∨ flags &&& ~~~ wlPacketFlagReliable ≠ 0 then 0
  else if flags &&& wlPacketFlagReliable ≠ 0 then wlFrameReliableHeaderSize
  else wlFrameBaseHeaderSize

/-- `wl_frame_raw_size`. -/
def wlFrameRawSize (payloadLen : Nat) (integrity : WlIntegrity) : Nat :=
  if payloadLen > sizeMax - wlFrameReliableHeaderSize - wlProfileCrcSize integrity then 0
  else wlFrameReliableHeaderSize + payloadLen + wlProfileCrcSize integrity

/-- `wl_frame_encode_overhead`. -/
def wlFrameEncodeOverhead (envelope : WlEnvelope) (integrity : WlIntegrity) : Nat :=
  let rawSize := wlFrameRawSize 0 integrity
  if rawSize = 0 then 0
  else
    match envelope with
    | .cobsStream => wlCobsEncodedMaxSize rawSize + 1
    | .busLength16 => rawSize + 2
    | .nativePacket => rawSize

/-! ### Encoding -/

/-- `frame_packet_kind`. -/
def framePacketKind (packet : WlWirePacket) : UInt8 :=
  if packet.type = .ack then 2
  else if packet.flags &&& wlPacketFlagReliable ≠ 0 then 1
  else 0

/-- Header length chosen by both link encoders. -/
def linkHeaderLen (packet : WlWirePacket) : Nat :=
  if packet.type = .ack ∨ packet.flags ≠ 0 then wlFrameReliableHeaderSize
  else wlFrameBaseHeaderSize

/-- `frame_write_header` (`WL_FRAME_PREFIX` is `0xA4`). -/
def frameWriteHeader (packet : WlWirePacket) (headerLen : Nat) : Bytes :=
  [0xA4 ||| framePacketKind packet, 0] ++ Bytes.be16 packet.messageId ++
    (if headerLen = wlFrameReliableHeaderSize then
      Bytes.be64 packet.sessionId ++ Bytes.be32 packet.sequence
    else [])

/-- `frame_write_integrity` over the header and the payload bytes. -/
def frameWriteIntegrity (integrity : WlIntegrity) (header payload : Bytes) : Bytes :=
  match integrity with
  | .crc16 => Bytes.be16 (wlCrc16Update (wlCrc16Update 0xFFFF header) payload)
  | .crc32c =>
    Bytes.be32 (wlCrc32cUpdate (wlCrc32cUpdate 0xFFFFFFFF header) payload ^^^ 0xFFFFFFFF)
  | .none => []

/-- `frame_cobs_encoded_size`. -/
def frameCobsEncodedSize (header payload integrity : Bytes) : Nat :=
  (cobsCountSpan (cobsCountSpan (cobsCountSpan { encodedLen := 1, code := 1 } header) payload)
    integrity).encodedLen

/-- `frame_cobs_encode`: header, payload and trailer through one encoder, then the last code. -/
def frameCobsEncode (store : Bytes) (out : Nat) (header : Bytes) (payload : PayloadRef)
    (payloadLen : Nat) (integrity : Bytes) : Bytes × Nat :=
  let state := cobsEncodeSpan (CobsEncodeState.start store out) (.apart header) header.length
  let state := cobsEncodeSpan state payload payloadLen
  let state := cobsEncodeSpan state (.apart integrity) integrity.length
  let state := state.put state.codeIndex state.code
  (state.store, state.writeIndex)

/-- `frame_write_raw`: the payload is moved first, then header and trailer are copied around it. -/
def frameWriteRaw (store : Bytes) (out : Nat) (header : Bytes) (packet : WlWirePacket)
    (integrity : Bytes) : Bytes :=
  let store := store.writeAt (out + header.length) (packet.payload.bytes store packet.payloadLen)
  let store := store.writeAt out header
  store.writeAt (out + header.length + packet.payloadLen) integrity

/-- `wl_frame_encode_bounded`; returns the store and the result with `*out_len`. -/
def wlFrameEncodeBounded (packet : WlWirePacket) (envelope : WlEnvelope) (kind : WlIntegrity)
    (header : Bytes) (rawLen : Nat) (store : Bytes) (out outCap : Nat) :
    Bytes × Except WlErr Nat :=
  let payloadBytes := packet.payload.bytes store packet.payloadLen
  let integrity := frameWriteIntegrity kind header payloadBytes
  match envelope with
  | .cobsStream =>
    let maxLen := wlCobsEncodedMaxSize rawLen
    let overlap := spansOverlap packet.payload packet.payloadLen out maxLen
    -- tight buffers and aliases need the exact size; the normal path encodes in one pass
    let cobsLen := if outCap < maxLen + 1 ∨ overlap then
        frameCobsEncodedSize header payloadBytes integrity
      else maxLen
    if outCap < cobsLen + 1 then (store, .error .bufTooSmall)
    else
      let staged := out + (cobsLen - rawLen) + header.length
      let store := if overlap then store.writeAt staged payloadBytes else store
      let payload := if overlap then PayloadRef.shared staged else packet.payload
      let (store, cobsLen) := frameCobsEncode store out header payload packet.payloadLen integrity
      (store.set (out + cobsLen) 0, .ok (cobsLen + 1))
  | .busLength16 =>
    if rawLen > 0xFFFF then (store, .error .frameTooLong)
    else if outCap < rawLen + 2 then (store, .error .bufTooSmall)
    else
      let store := frameWriteRaw store (out + 2) header packet integrity
      (store.writeAt out (Bytes.be16 (UInt16.ofNat rawLen)), .ok (rawLen + 2))
  | .nativePacket =>
    if outCap < rawLen then (store, .error .bufTooSmall)
    else (frameWriteRaw store out header packet integrity, .ok rawLen)

/-- `wl_frame_encode_generic`. -/
def wlFrameEncodeGeneric (envelope : WlEnvelope) (integrity : WlIntegrity)
    (packet : WlWirePacket) (store : Bytes) (out outCap : Nat) : Bytes × Except WlErr Nat :=
  let headerLen := linkHeaderLen packet
  let rawLen := headerLen + packet.payloadLen + wlProfileCrcSize integrity
  wlFrameEncodeBounded packet envelope integrity (frameWriteHeader packet headerLen) rawLen
    store out outCap

/-- `wl_frame_encode_cobs_crc16`: one fused pass, or the bounded writer for tight or aliased
output. -/
def wlFrameEncodeCobsCrc16 (packet : WlWirePacket) (store : Bytes) (out outCap : Nat) :
    Bytes × Except WlErr Nat :=
  let headerLen := linkHeaderLen packet
  let rawLen := headerLen + packet.payloadLen + 2
  let worst := rawLen + rawLen / 254 + 2
  let header := frameWriteHeader packet headerLen
  if outCap < worst ∨ spansOverlap packet.payload packet.payloadLen out (worst - 1) then
    wlFrameEncodeBounded packet .cobsStream .crc16 header rawLen store out outCap
  else
    let (state, crc) := cobsCrc16EncodeSpan (CobsEncodeState.start store out) (.apart header)
      headerLen 0xFFFF
    let (state, crc) := cobsCrc16EncodeSpan state packet.payload packet.payloadLen crc
    let state := cobsEncodeByte state (crc >>> 8).toUInt8
    let state := cobsEncodeByte state crc.toUInt8
    let state := state.put state.codeIndex state.code
    let state := state.put state.writeIndex 0
    (state.store, .ok (state.writeIndex + 1))

/-- `frame_header_size`: what `wl_frame_encode` accepts. -/
def frameHeaderSize (packet : WlWirePacket) : Except WlErr Nat :=
  if packet.type = .data ∧ (packet.messageId = 0 ∨ packet.flags &&& ~~~ wlPacketFlagReliable ≠ 0 ∨
      packet.flags &&& wlPacketFlagReliable ≠ 0 ∧ packet.sessionId = 0) then .error .invalidArg
  else if packet.type = .ack ∧ (packet.messageId ≠ 0 ∨ packet.payloadLen ≠ 0 ∨ packet.flags ≠ 0 ∨
      packet.sessionId = 0) then .error .invalidArg
  else if packet.type ≠ .data ∧ packet.type ≠ .ack then .error .badFrame
  else if packet.payloadLen > wlFrameMaxPayload then .error .payloadTooLong
  else .ok (wlFramePacketHeaderSize packet.type packet.flags)

/-- `wl_frame_encode` in the general build; `integrity` is the selector of the packet. -/
def wlFrameEncode (packet : WlWirePacket) (integrity : WlIntegrity) (envelope : WlEnvelope)
    (store : Bytes) (out outCap : Nat) : Bytes × Except WlErr Nat :=
  match frameHeaderSize packet with
  | .error err => (store, .error err)
  | .ok _ =>
    if envelope = .cobsStream ∧ integrity = .crc16 then
      wlFrameEncodeCobsCrc16 packet store out outCap
    else wlFrameEncodeGeneric envelope integrity packet store out outCap

/-- `wl_link_encode`. -/
def wlLinkEncode (config : WlConfig) (packet : WlWirePacket) (store : Bytes) (out outCap : Nat) :
    Bytes × Except WlErr Nat :=
  if config.envelope ≠ .cobsStream ∨ config.integrity ≠ .crc16 then
    wlFrameEncodeGeneric config.envelope config.integrity packet store out outCap
  else wlFrameEncodeCobsCrc16 packet store out outCap

/-! ### Decoding -/

/-- Packet type, flags and header length selected by the kind bits, `none` for kind three. -/
def frameKind (first : UInt8) : Option (WlPacketType × UInt8 × Nat) :=
  match (first &&& 0x03).toNat with
  | 0 => some (.data, 0, wlFrameBaseHeaderSize)
  | 1 => some (.data, wlPacketFlagReliable, wlFrameReliableHeaderSize)
  | 2 => some (.ack, 0, wlFrameReliableHeaderSize)
  | _ => none

/-- The integrity test at the end of `frame_parse`. `cobsCrc` is the running residue of the fused
stream decoder, absent for raw units. -/
def frameIntegrityOk (bytes : Bytes) (covered : Nat) (integrity : WlIntegrity)
    (cobsCrc : Option UInt16) : Bool :=
  match integrity with
  | .crc16 =>
    match cobsCrc with
    | some residue => residue == 0
    | none => Bytes.readBe16 (bytes.drop covered) == wlCrc16CcittFalse (bytes.take covered)
  | .crc32c => Bytes.readBe32 (bytes.drop covered) == wlCrc32c (bytes.take covered)
  | .none => true

/-- `frame_parse`. -/
def frameParse (bytes : Bytes) (integrity : WlIntegrity) (crcLen : Nat)
    (cobsCrc : Option UInt16) : Except WlErr WlFrameView :=
  let first := bytes.getD 0 0
  if bytes.length < wlFrameBaseHeaderSize + crcLen then .error .badFrame
  else if first &&& 0xF0 ≠ 0xA0 then .error .badFrame
  else if (first &&& 0x0C) >>> 2 ≠ 1 then .error .protocolVersion
  else
    match frameKind first with
    | none => .error .notSupported
    | some (type, flags, headerLen) =>
      if bytes.length < headerLen + crcLen then .error .badFrame
      else
        let payloadLen := bytes.length - headerLen - crcLen
        if payloadLen > wlFrameMaxPayload then .error .frameTooLong
        else
          let messageId := Bytes.readBe16 (bytes.drop 2)
          let reliable := headerLen == wlFrameReliableHeaderSize
          let sessionId := if reliable then Bytes.readBe64 (bytes.drop 4) else 0
          let sequence := if reliable then Bytes.readBe32 (bytes.drop 12) else 0
          if bytes.getD 1 0 ≠ 0 then .error .badFrame
          else if type = .data ∧ (messageId = 0 ∨ flags ≠ 0 ∧ sessionId = 0) then
            .error .badFrame
          else if type ≠ .data ∧ (messageId ≠ 0 ∨ payloadLen ≠ 0 ∨ sessionId = 0) then
            .error .badFrame
          else if ¬ frameIntegrityOk bytes (bytes.length - crcLen) integrity cobsCrc then
            .error .crc
          else
            .ok
              { type := type
                flags := flags
                messageId := messageId
                sessionId := sessionId
                sequence := sequence
                payloadOffset := headerLen
                payload := bytes.readAt headerLen payloadLen }

/-- `wl_frame_decode` in the general build. -/
def wlFrameDecode (bytes : Bytes) (integrity : WlIntegrity) : Except WlErr WlFrameView :=
  frameParse bytes integrity (wlProfileCrcSize integrity) none

/-- The decoding loop of `wl_frame_decode_cobs_crc16` on a buffer of its own; the checksum runs
over the decoded bytes as they are written. -/
def cobsCrc16Decode (encodedLen : Nat) :
    Nat → Bytes → Nat → Nat → UInt16 → Bytes × Except WlErr (Nat × UInt16)
  | 0, encoded, _, write, crc => (encoded, .ok (write, crc))
  | fuel + 1, encoded, read, write, crc =>
    if read < encodedLen then
      let code := encoded.getD read 0
      let read := read + 1
      let count := code.toNat - 1
      if code = 0 ∨ count > encodedLen - read then (encoded, .error .cobsDecode)
      else
        let encoded := copyForward encoded write read count
        let crc := wlCrc16Update crc (encoded.readAt write count)
        let read := read + count
        let write := write + count
        if code ≠ 0xFF ∧ read < encodedLen then
          cobsCrc16Decode encodedLen fuel (encoded.set write 0) read (write + 1)
            (wlCrc16Byte crc 0)
        else cobsCrc16Decode encodedLen fuel encoded read write crc
    else (encoded, .ok (write, crc))

/-- `wl_frame_decode_cobs_crc16`; the buffer is returned as decoding left it. -/
def wlFrameDecodeCobsCrc16 (encoded : Bytes) : Bytes × Except WlErr WlFrameView :=
  if encoded.length = 0 then (encoded, .error .cobsDecode)
  else
    match cobsCrc16Decode encoded.length encoded.length encoded 0 0 0xFFFF with
    | (buffer, .error err) => (buffer, .error err)
    | (buffer, .ok (write, crc)) =>
      if write = 0 then (buffer, .error .invalidArg)
      else (buffer, frameParse (buffer.take write) .crc16 2 (some crc))

/-- `wl_frame_decode_cobs_generic`. -/
def wlFrameDecodeCobsGeneric (integrity : WlIntegrity) (encoded : Bytes) :
    Bytes × Except WlErr WlFrameView :=
  match wlCobsDecodeInPlace encoded 0 encoded.length with
  | (buffer, .error err) => (buffer, .error err)
  | (buffer, .ok decodedLen) =>
    if decodedLen = 0 then (buffer, .error .invalidArg)
    else (buffer, wlFrameDecode (buffer.take decodedLen) integrity)

/-- `wl_link_decode_stream`. -/
def wlLinkDecodeStream (config : WlConfig) (encoded : Bytes) : Bytes × Except WlErr WlFrameView :=
  if config.integrity ≠ .crc16 then wlFrameDecodeCobsGeneric config.integrity encoded
  else wlFrameDecodeCobsCrc16 encoded

end Wirelink
