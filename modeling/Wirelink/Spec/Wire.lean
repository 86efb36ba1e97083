/-
Module: Wirelink.Spec.Wire
Purpose: What a physical unit is, as a function of what it carries: the three frame kinds, their
  header, payload and integrity trailer, and the envelope around them. The encoder and the parsers
  of the source are compared with these definitions.
Trusted boundary: none
-/
import Wirelink.Core.Frame
import Wirelink.Lib.Cobs

namespace Wirelink

/-- What one frame of protocol v1 carries. -/
inductive WireFrame where
  | unreliable (messageId : UInt16) (payload : Bytes)
  | reliable (messageId : UInt16) (sessionId : UInt64) (sequence : UInt32) (payload : Bytes)
  | ack (sessionId : UInt64) (sequence : UInt32)
deriving Repr, Inhabited, DecidableEq

namespace WireFrame

/-- The header on the wire. -/
def header : WireFrame → Bytes
  | .unreliable messageId _ => [0xA4, 0] ++ Bytes.be16 messageId
  | .reliable messageId sessionId sequence _ =>
    [0xA5, 0] ++ Bytes.be16 messageId ++ (Bytes.be64 sessionId ++ Bytes.be32 sequence)
  | .ack sessionId sequence =>
    [0xA6, 0] ++ Bytes.be16 0 ++ (Bytes.be64 sessionId ++ Bytes.be32 sequence)

/-- The payload on the wire. -/
def payload : WireFrame → Bytes
  | .unreliable _ payload => payload
  | .reliable _ _ _ payload => payload
  | .ack _ _ => []

/-- The integrity trailer over header and payload. -/
def trailer (frame : WireFrame) (integrity : WlIntegrity) : Bytes :=
  frameWriteIntegrity integrity frame.header frame.payload

/-- The raw frame. -/
def raw (frame : WireFrame) (integrity : WlIntegrity) : Bytes :=
  frame.header ++ frame.payload ++ frame.trailer integrity

theorem length_header_le (frame : WireFrame) :
    4 ≤ frame.header.length ∧ frame.header.length ≤ 16 := by
  cases frame <;> simp [header]

@[simp] theorem length_trailer (frame : WireFrame) (integrity : WlIntegrity) :
    (frame.trailer integrity).length = wlProfileCrcSize integrity := by
  cases integrity <;> simp [trailer, frameWriteIntegrity, wlProfileCrcSize]

theorem length_raw (frame : WireFrame) (integrity : WlIntegrity) :
    (frame.raw integrity).length =
      frame.header.length + frame.payload.length + wlProfileCrcSize integrity := by
  simp [raw, Nat.add_assoc]

end WireFrame

/-- The physical unit of a frame in each envelope. -/
def envelopeUnit (envelope : WlEnvelope) (raw : Bytes) : Bytes :=
  match envelope with
  | .cobsStream => Cobs.encode raw ++ [0]
  | .busLength16 => Bytes.be16 (UInt16.ofNat raw.length) ++ raw
  | .nativePacket => raw

/-- The physical unit of a frame under a link configuration. -/
def linkUnit (config : WlConfig) (frame : WireFrame) : Bytes :=
  envelopeUnit config.envelope (frame.raw config.integrity)

/-- Room a raw frame of the given length can need in each envelope. -/
def envelopeRoom (envelope : WlEnvelope) (rawLen : Nat) : Nat :=
  match envelope with
  | .cobsStream => rawLen + rawLen / 254 + 2
  | .busLength16 => rawLen + 2
  | .nativePacket => rawLen

/-- A unit is never empty. -/
theorem length_linkUnit_pos (config : WlConfig) (frame : WireFrame) :
    0 < (linkUnit config frame).length := by
  have head := frame.length_header_le
  have size := frame.length_raw config.integrity
  unfold linkUnit envelopeUnit
  cases config.envelope with
  | cobsStream => simp
  | busLength16 =>
    simp only [List.length_append, Bytes.length_be16]
    omega
  | nativePacket =>
    dsimp only
    omega

end Wirelink
