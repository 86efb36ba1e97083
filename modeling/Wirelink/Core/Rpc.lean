/-
Module: Wirelink.Core.Rpc
Purpose: What the client and the server half of the RPC runtime share: result codes, intervals on the
  wrapping clock, the terminal events of the link, and the identity of a request.
Trusted boundary: the translation of include/wirelink/rpc.h and the shared helpers of src/rpc.c
-/
import Wirelink.Core.Context

namespace Wirelink

/-- Result codes of the RPC runtime (`wl_rpc_err_t`). -/
inductive WlRpcErr where
  | ok
  | invalidArg
  | notInitialized
  | noSlot
  | operationConflict
  | notFound
  | invalidState
  | responseMismatch
  | responseTooLarge
  | cacheFull
  | malformedMetadata
  | sessionMismatch
  | idExhausted
deriving Repr, Inhabited, DecidableEq

/-- `WL_RPC_MAX_INTERVAL`. -/
def wlRpcMaxInterval : UInt32 := 0x80000000

/-- `interval_valid`. -/
def intervalValid (intervalMs : UInt32) : Bool :=
  decide (intervalMs < wlRpcMaxInterval)

/-- `elapsed`; an interval of zero never elapses. -/
def elapsed (nowMs startedAt intervalMs : UInt32) : Bool :=
  intervalMs != 0 && decide (nowMs - startedAt ≥ intervalMs)

/-- `deadline_remaining`. -/
def deadlineRemaining (nowMs startedAt intervalMs : UInt32) : UInt32 :=
  if nowMs - startedAt ≥ intervalMs then 0 else intervalMs - (nowMs - startedAt)

/-- `WL_RPC_NO_DEADLINE_MS`. -/
def wlRpcNoDeadlineMs : UInt32 := uint32Max

/-- The fields of a `wl_event_t` the RPC runtime reads. -/
structure TxEvent where
  type : WlEventType
  handle : UInt32
  ioResult : Int32
deriving Repr, Inhabited, DecidableEq

/-- The event ends a reliable transaction. -/
def TxEvent.isTerminal (event : TxEvent) : Bool :=
  event.type == .txSuccess || event.type == .txTimeout || event.type == .txFailed

/-- `wl_rpc_request_identity_t`. -/
structure WlRpcRequestIdentity where
  operationId : UInt32
  requestMessageId : UInt16
  responseMessageId : UInt16
  requestFingerprint : UInt64
  peerSessionId : UInt64
deriving Repr, Inhabited, DecidableEq

/-- `identity_valid`. -/
def identityValid (identity : WlRpcRequestIdentity) : Bool :=
  identity.operationId != 0 && identity.requestMessageId != 0 && identity.responseMessageId != 0

/-- `identity_equal`. -/
def identityEqual (left right : WlRpcRequestIdentity) : Bool :=
  left.operationId == right.operationId && left.requestMessageId == right.requestMessageId &&
    left.responseMessageId == right.responseMessageId &&
    left.requestFingerprint == right.requestFingerprint &&
    left.peerSessionId == right.peerSessionId

/-- `identity_key_equal`. -/
def identityKeyEqual (left right : WlRpcRequestIdentity) : Bool :=
  left.operationId == right.operationId && left.peerSessionId == right.peerSessionId

/-- The zeroed identity. -/
def noIdentity : WlRpcRequestIdentity :=
  { operationId := 0, requestMessageId := 0, responseMessageId := 0, requestFingerprint := 0,
    peerSessionId := 0 }

end Wirelink
