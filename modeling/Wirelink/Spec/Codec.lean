/-
Module: Wirelink.Spec.Codec
Purpose: What the codecs of the source promise: the COBS coder and decoder on every byte string, the
  frame encoders and the parser on every packet and every byte string.
Trusted boundary: the statement of the contracts
-/
import Wirelink.Spec.Wire

namespace Wirelink

/-! ### COBS -/

/-- `word` is what the coder makes of `input` when there is room for it, and both decoders return the
input from it. -/
structure CodesAs (input word : Bytes) (outputCapacity : Nat) : Prop where
  clean : (0 : UInt8) ∉ word
  bounded : word.length ≤ outputCapacity → word.length ≤ wlCobsEncodedMaxSize input.length
  stored : ∀ store output, word.length ≤ outputCapacity →
    wlCobsEncode input store output outputCapacity = (store.writeAt output word, .ok word.length)
  refused : ∀ store output, outputCapacity < word.length →
    ∃ err, wlCobsEncode input store output outputCapacity = (store, .error err)
  decoded : ∀ store address output capacity, store.readAt address word.length = word →
    address + word.length ≤ output ∨ output + capacity ≤ address → input.length ≤ capacity →
    wlCobsDecode store address word.length output capacity =
      (store.writeAt output input, .ok input.length)
  decodedInPlace : ∀ store address, store.readAt address word.length = word →
    wlCobsDecodeInPlace store address word.length = (store.writeAt address input, .ok input.length)

/-- Decoding in place does what decoding to a buffer of its own does, and a word is not longer than its
bytes can need. -/
structure DecodesAlike (store : Bytes) (address length output : Nat) : Prop where
  result : (wlCobsDecodeInPlace store address length).2 =
    (wlCobsDecode store address length output length).2
  bytes : ∀ decodedLen, (wlCobsDecodeInPlace store address length).2 = .ok decodedLen →
    (wlCobsDecodeInPlace store address length).1.readAt address decodedLen =
      (wlCobsDecode store address length output length).1.readAt output decodedLen
  bounded : ∀ decodedLen, (wlCobsDecodeInPlace store address length).2 = .ok decodedLen →
    length ≤ wlCobsEncodedMaxSize decodedLen

/-- `wl_cobs_decode_in_place` followed by `wl_frame_decode` with CRC16. -/
def decodeThenParse (encoded : Bytes) : Bytes × Except WlErr WlFrameView :=
  match wlCobsDecodeInPlace encoded 0 encoded.length with
  | (buffer, .error err) => (buffer, .error err)
  | (buffer, .ok decodedLen) => (buffer, wlFrameDecode (buffer.take decodedLen) .crc16)

/-! ### Frames -/

/-- Frames of protocol v1 that both sides accept. -/
def WireFrame.Valid : WireFrame → Prop
  | .unreliable messageId payload => messageId ≠ 0 ∧ payload.length ≤ wlFrameMaxPayload
  | .reliable messageId sessionId _ payload =>
    messageId ≠ 0 ∧ sessionId ≠ 0 ∧ payload.length ≤ wlFrameMaxPayload
  | .ack sessionId _ => sessionId ≠ 0

/-- What the parser returns for a frame. -/
def WireFrame.view : WireFrame → WlFrameView
  | .unreliable messageId payload =>
    { type := .data, flags := 0, messageId := messageId, sessionId := 0, sequence := 0
      payloadOffset := wlFrameBaseHeaderSize, payload := payload }
  | .reliable messageId sessionId sequence payload =>
    { type := .data, flags := wlPacketFlagReliable, messageId := messageId, sessionId := sessionId
      sequence := sequence, payloadOffset := wlFrameReliableHeaderSize, payload := payload }
  | .ack sessionId sequence =>
    { type := .ack, flags := 0, messageId := 0, sessionId := sessionId, sequence := sequence
      payloadOffset := wlFrameReliableHeaderSize, payload := [] }

/-- The payload bytes a packet points at. -/
def WlWirePacket.values (packet : WlWirePacket) (store : Bytes) : Bytes :=
  packet.payload.bytes store packet.payloadLen

/-- What a packet puts on the wire. -/
def WlWirePacket.frame (packet : WlWirePacket) (store : Bytes) : WireFrame :=
  if packet.type = .ack then .ack packet.sessionId packet.sequence
  else if packet.flags = 0 then .unreliable packet.messageId (packet.values store)
  else .reliable packet.messageId packet.sessionId packet.sequence (packet.values store)

/-- A packet `wl_frame_encode` accepts: its payload and the output lie in memory. -/
structure Accepted (packet : WlWirePacket) (store : Bytes) (out outCap : Nat) : Prop where
  wellFormed : ∃ headerLen, frameHeaderSize packet = .ok headerLen
  present : (packet.values store).length = packet.payloadLen
  inside : out + outCap ≤ store.length

/-- The packet a view is encoded as. -/
def WlFrameView.packet (view : WlFrameView) : WlWirePacket :=
  { type := view.type, flags := view.flags, messageId := view.messageId, sessionId := view.sessionId
    sequence := view.sequence, payload := .apart view.payload, payloadLen := view.payload.length }

/-- Take the envelope off a unit: decode all but the final zero, drop the length, or nothing. -/
def stripEnvelope (envelope : WlEnvelope) (unit : Bytes) : Except WlErr Bytes :=
  match envelope with
  | .cobsStream =>
    match wlCobsDecodeInPlace unit 0 (unit.length - 1) with
    | (_, .error err) => .error err
    | (buffer, .ok length) => .ok (buffer.take length)
  | .busLength16 => .ok (unit.drop 2)
  | .nativePacket => .ok unit

/-- A view repeats the packet; session and sequence are zero for unreliable data. -/
structure Shows (view : WlFrameView) (packet : WlWirePacket) (store : Bytes) : Prop where
  type : view.type = packet.type
  flags : view.flags = packet.flags
  messageId : view.messageId = packet.messageId
  payload : view.payload = packet.values store
  session : (view.sessionId, view.sequence) =
    if packet.type = .data ∧ packet.flags = 0 then (0, 0) else (packet.sessionId, packet.sequence)

/-- Some bits are flipped, all of them inside a stretch of `window` bits. -/
def Burst (window : Nat) (sent received : List Bool) : Prop :=
  ∃ before left right after, sent = before ++ left ++ after ∧ received = before ++ right ++ after ∧
    left.length = right.length ∧ left.length ≤ window ∧ left ≠ right

end Wirelink
