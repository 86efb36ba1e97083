/-
Module: Wirelink.Core.Types
Purpose: The public vocabulary of the link: result codes, selectors, configuration, events, and
  the packet and frame descriptors that cross the codec. Enumerations of the C headers are
  inductive types; the fixed-width integers keep their width.
Trusted boundary: the translation of include/wirelink/{types,profile,link,port,frame}.h
-/
import Wirelink.Lib.Bytes

namespace Wirelink

/-- Result codes (`wl_err_t`). -/
inductive WlErr where
  | ok
  | invalidArg
  | notInitialized
  | notSupported
  | bufTooSmall
  | noSpace
  | noData
  | badFrame
  | cobsDecode
  | crc
  | frameTooLong
  | busy
  | timeout
  | txFailed
  | invalidState
  | wouldBlock
  | queueFull
  | notFound
  | payloadTooLong
  | io
  | cancelled
  | protocolVersion
  | reentrant
  | idExhausted
deriving Repr, Inhabited, DecidableEq

/-- Transport envelope selector (`wl_envelope_type_t`). -/
inductive WlEnvelope where
  | cobsStream
  | nativePacket
  | busLength16
deriving Repr, Inhabited, DecidableEq

/-- Integrity trailer selector (`wl_integrity_t`). -/
inductive WlIntegrity where
  | none
  | crc16
  | crc32c
deriving Repr, Inhabited, DecidableEq

/-- Sender state of the one reliable transaction (`wl_tx_state_t`). -/
inductive WlTxState where
  | idle
  | sending
  | waitingAck
  | success
  | failed
  | cancelled
deriving Repr, Inhabited, DecidableEq

/-- What a transaction in `waitingAck` waits for (`wl_tx_wait_reason_t`). -/
inductive WlTxWait where
  | none
  | ack
  | drain
deriving Repr, Inhabited, DecidableEq

/-- Event types delivered by `wl_poll` (`wl_event_type_t`). -/
inductive WlEventType where
  | none
  | unreliableRx
  | reliableRx
  | txSuccess
  | txTimeout
  | txFailed
deriving Repr, Inhabited, DecidableEq

/-- The test both `wl_push_event` and `wl_poll` make before they touch the RX lease. -/
def WlEventType.isRx : WlEventType → Bool
  | .unreliableRx | .reliableRx => true
  | _ => false

/-- Delivery class of a payload claim (`wl_delivery_t`). -/
inductive WlDelivery where
  | unreliable
  | reliable
deriving Repr, Inhabited, DecidableEq

/-- The four answers of a sink (`wl_sink_result_t`). -/
inductive WlSinkResult where
  | sent
  | started
  | busy
  | failed
deriving Repr, Inhabited, DecidableEq

/-- Where the bytes of the current receive candidate live (`WL_RX_SOURCE_*`). -/
inductive WlRxSource where
  | none
  | ring
  | fallback
  | unit
deriving Repr, Inhabited, DecidableEq

/-- Link configuration (`wl_config_t`). -/
structure WlConfig where
  maxPayloadLen : Nat
  envelope : WlEnvelope
  integrity : WlIntegrity
  sessionId : UInt64
  maxRetries : UInt16
  ackTimeoutMs : UInt32
  maxTransmissionUnit : Nat
deriving Repr, Inhabited, DecidableEq

/-- A caller-owned memory region: its address (zero is `NULL`) and its contents. -/
structure Region where
  address : Nat
  bytes : Bytes
deriving Repr, Inhabited, DecidableEq

/-- Storage handed to `wl_init` (`wl_storage_t`). -/
structure WlStorage where
  txPayload : Region
  txUnit : Region
  controlUnit : Region
  rxFifo : Region
  rxFallback : Region
deriving Repr, Inhabited, DecidableEq

/-- Sizes computed by `wl_config_requirements` (`wl_storage_requirements_t`). -/
structure WlStorageRequirements where
  txPayloadSize : Nat
  txUnitSize : Nat
  controlUnitSize : Nat
  rxFifoSize : Nat
  rxFallbackSize : Nat
deriving Repr, Inhabited, DecidableEq

/-- Receive diagnostics (`wl_rx_counters_t`). -/
structure WlRxCounters where
  malformed : UInt32
  badIntegrity : UInt32
  overflow : UInt32
  duplicate : UInt32
  unsupported : UInt32
deriving Repr, Inhabited, DecidableEq

/-- A pointer into one of the receive memories. -/
structure RxPtr where
  source : WlRxSource
  offset : Nat
deriving Repr, Inhabited, DecidableEq

/-- An application event (`wl_event_t`). -/
structure WlEvent where
  type : WlEventType
  messageId : UInt16
  payload : Option RxPtr
  payloadLen : Nat
  handle : UInt32
  lease : UInt32
  peerSessionId : UInt64
deriving Repr, Inhabited, DecidableEq

/-- Result returned by `wl_tx_take` (`wl_tx_result_t`). -/
structure WlTxResult where
  state : WlTxState
  result : WlErr
  retriesUsed : UInt16
deriving Repr, Inhabited, DecidableEq

/-- Packet types of protocol v1 (`wl_packet_type_t`). -/
inductive WlPacketType where
  | data
  | ack
  | nack
  | privateUse
deriving Repr, Inhabited, DecidableEq

/-- Where the payload of an outgoing packet is read from, relative to the memory the encoder
writes to: memory of its own, or an address of that same memory. -/
inductive PayloadRef where
  | apart (bytes : Bytes)
  | shared (address : Nat)
deriving Repr, Inhabited, DecidableEq

/-- A packet handed to the encoder (`wl_wire_packet_t`; its `integrity` field is not read by the
link's own encoding path, which takes the selector from the configuration). -/
structure WlWirePacket where
  type : WlPacketType
  flags : UInt8
  messageId : UInt16
  sessionId : UInt64
  sequence : UInt32
  payload : PayloadRef
  payloadLen : Nat
deriving Repr, Inhabited, DecidableEq

/-- A validated frame (`wl_frame_view_t`). The payload span is kept as its offset in the parsed
bytes together with the bytes it covers. -/
structure WlFrameView where
  type : WlPacketType
  flags : UInt8
  messageId : UInt16
  sessionId : UInt64
  sequence : UInt32
  payloadOffset : Nat
  payload : Bytes
deriving Repr, Inhabited, DecidableEq

/-- `WL_PACKET_FLAG_RELIABLE`. -/
def wlPacketFlagReliable : UInt8 := 0x01

/-- `WL_FRAME_BASE_HEADER_SIZE`. -/
def wlFrameBaseHeaderSize : Nat := 4

/-- `WL_FRAME_RELIABLE_HEADER_SIZE`, which is also `WL_FRAME_HEADER_SIZE`. -/
def wlFrameReliableHeaderSize : Nat := 16

/-- `WL_FRAME_MAX_PAYLOAD`, which is also `WL_PACKET_MAX_PAYLOAD`. -/
def wlFrameMaxPayload : Nat := 2048

/-- `UINT32_MAX`. -/
def uint32Max : UInt32 := 0xFFFFFFFF

end Wirelink
