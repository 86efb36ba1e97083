/-
Module: Wirelink.Spec.RpcServer
Purpose: An RPC server under any sequence of calls of its owner: when a history entry is kept, which
  calls may remove one, which call completes a request, which request slots and response slots belong
  together, when a token still stands for a pending request, and what belongs to a session.
Trusted boundary: the choice of operations; all behaviour is in the modules below
-/
import Wirelink.Core.RpcServer

namespace Wirelink

/-! ### Runs -/

/-- One call of a server. Calls that only read have no operation; `fill` is the application writing
into the buffer it has prepared for a pending request. -/
inductive ServerOp where
  | begin (identity : WlRpcRequestIdentity) (nowMs : UInt32)
  | beginCorrelate (identity : WlRpcRequestIdentity) (nowMs : UInt32)
  | fill (request : WlRpcServerRequest) (offset : Nat) (bytes : Bytes)
  | commit (buffer : WlRpcServerResponseBuffer) (applicationStatus : Int32) (responseLength : Nat)
      (nowMs : UInt32)
  | complete (request : WlRpcServerRequest) (applicationStatus : Int32) (payload : Buffer)
      (nowMs : UInt32)
  | reject (request : WlRpcServerRequest) (applicationStatus : Int32) (payload : Buffer)
      (nowMs : UInt32)
  | acquire
  | defer (response : WlRpcServerResponse)
  | submitted (response : WlRpcServerResponse) (txHandle : UInt32)
  | sent (response : WlRpcServerResponse)
  | setObserver (observed : Bool)
  | txEvent (event : TxEvent)
  | discard (peerSessionId : UInt64)
  | observe (peer peerSessionId : UInt64)
  | abandon (request : WlRpcServerRequest)
  | expiredAcquire (nowMs : UInt32)
  | poll (nowMs : UInt32)
deriving Repr, DecidableEq

/-- The application writes into a buffer it may still use. -/
def fillResponse (server : WlRpcServer) (request : WlRpcServerRequest) (offset : Nat)
    (bytes : Bytes) : WlRpcServer :=
  match wlRpcServerResponsePrepare server request with
  | .error _ => server
  | .ok buffer =>
    match buffer.data with
    | none => server
    | some data =>
      if offset + bytes.length ≤ buffer.capacity then
        server.write { data with offset := data.offset + offset } bytes
      else server

namespace WlRpcServer

/-- The server after one call. -/
def step (server : WlRpcServer) : ServerOp → WlRpcServer
  | .begin identity nowMs => (wlRpcServerBegin server identity nowMs).1
  | .beginCorrelate identity nowMs => (wlRpcServerBeginCorrelate server identity nowMs).1
  | .fill request offset bytes => fillResponse server request offset bytes
  | .commit buffer applicationStatus responseLength nowMs =>
    (wlRpcServerResponseCommit server buffer applicationStatus responseLength nowMs).1
  | .complete request applicationStatus payload nowMs =>
    (wlRpcServerComplete server request applicationStatus payload nowMs).1
  | .reject request applicationStatus payload nowMs =>
    (wlRpcServerReject server request applicationStatus payload nowMs).1
  | .acquire => (wlRpcServerResponseAcquire server).1
  | .defer response => (wlRpcServerResponseDefer server response).1
  | .submitted response txHandle => (wlRpcServerResponseSubmitted server response txHandle).1
  | .sent response => (wlRpcServerResponseSent server response).1
  | .setObserver observed => wlRpcServerSetResponseObserver server observed
  | .txEvent event => (wlRpcServerOnTxEvent server event).1
  | .discard peerSessionId => (wlRpcServerDiscardSession server peerSessionId).1
  | .observe peer peerSessionId => (wlRpcPeerObserve server peer peerSessionId).1
  | .abandon request => (wlRpcServerAbandon server request).1
  | .expiredAcquire nowMs => (wlRpcServerExpiredAcquire server nowMs).1
  | .poll nowMs => (wlRpcServerPoll server nowMs).1

/-- The first bytes a response slot points to. -/
def slotBytes (server : WlRpcServer) (index length : Nat) : Bytes :=
  match (server.responseSlots index).data with
  | some data => server.read data length
  | none => []

/-- The bytes of a response view. -/
def responseBytes (server : WlRpcServer) (response : WlRpcServerResponse) : Bytes :=
  match response.responseData with
  | some data => server.read data response.responseLength
  | none => []

end WlRpcServer

/-- The server after a sequence of calls. -/
def runServer (server : WlRpcServer) (ops : List ServerOp) : WlRpcServer :=
  ops.foldl WlRpcServer.step server

/-- A server that some sequence of calls leads to from an accepted configuration. -/
def ServerReachable (server : WlRpcServer) : Prop :=
  ∃ config correlate start ops,
    wlRpcServerInitWithCorrelate config correlate = .ok start ∧ runServer start ops = server

/-! ### History entries -/

/-- A slot holds a history entry. -/
def HoldsEntry (server : WlRpcServer) (index : Nat) : Prop :=
  index < server.cacheSlotCount ∧ (server.responseSlots index).active = .history

/-- A slot still holds the entry it held: the same request, and not one that is reserved anew. -/
structure EntryKept (before after : RpcResponseSlot) : Prop where
  history : after.active = .history
  identity : after.identity = before.identity
  generation : after.generation = before.generation
  reserved : after.deliveryState = .reserved → before.deliveryState = .reserved

/-- A slot holds the oldest delivered entry of a full cache. Generations wrap, so that they are
compared from a base all of them are near to. -/
def OldestDelivered (server : WlRpcServer) (index : Nat) : Prop :=
  (server.responseSlots index).deliveryState = .delivered ∧
    (∀ other, other < server.cacheSlotCount → (server.responseSlots other).active = .history) ∧
    ∀ base : UInt64,
      (∀ other, other < server.cacheSlotCount →
        (server.responseSlots other).deliveryState = .delivered →
          (server.responseSlots other).generation - base < 0x8000000000000000) →
      ∀ other, other < server.cacheSlotCount →
        (server.responseSlots other).deliveryState = .delivered →
          (server.responseSlots index).generation - base ≤
            (server.responseSlots other).generation - base

/-- The causes for which a call may remove the history entry of a slot. -/
inductive RemovalCause (server : WlRpcServer) (index : Nat) : ServerOp → Prop where
  | abandoned {request : WlRpcServerRequest}
      (reserved : (server.responseSlots index).deliveryState = .reserved)
      (identity : request.identity = (server.responseSlots index).identity)
      (generation : request.generation = (server.responseSlots index).generation) :
      RemovalCause server index (.abandon request)
  | discarded {peerSessionId : UInt64}
      (session : (server.responseSlots index).identity.peerSessionId = peerSessionId) :
      RemovalCause server index (.discard peerSessionId)
  | sessionChanged {peer peerSessionId : UInt64}
      (session : (server.responseSlots index).identity.peerSessionId = peer) :
      RemovalCause server index (.observe peer peerSessionId)
  | expiredPoll {nowMs : UInt32}
      (delivered : (server.responseSlots index).deliveryState = .delivered)
      (expires : elapsed nowMs (server.responseSlots index).completedAt server.cacheTtlMs = true) :
      RemovalCause server index (.poll nowMs)
  | expiredBegin {identity : WlRpcRequestIdentity} {nowMs : UInt32}
      (delivered : (server.responseSlots index).deliveryState = .delivered)
      (expires : elapsed nowMs (server.responseSlots index).completedAt server.cacheTtlMs = true) :
      RemovalCause server index (.begin identity nowMs)
  | evicted {identity : WlRpcRequestIdentity} {nowMs : UInt32}
      (policy : server.cachePolicy = .evictOldest) (oldest : OldestDelivered server index) :
      RemovalCause server index (.begin identity nowMs)

/-- A call removes the history entry of a slot, for one of these causes. -/
structure RemovedBy (server : WlRpcServer) (index : Nat) (op : ServerOp) : Prop where
  held : HoldsEntry server index
  gone : ¬ EntryKept (server.responseSlots index) ((server.step op).responseSlots index)
  cause : RemovalCause server index op

/-- A call completes the request whose response is reserved in a slot, with this status and these
response bytes. -/
def Completes (server : WlRpcServer) (index : Nat) (status : Int32) (bytes : Bytes) :
    ServerOp → Prop
  | .complete request applicationStatus payload nowMs =>
    (∃ pending, serverResolvePending server request = .ok (pending, index)) ∧
      (∃ response,
        (wlRpcServerComplete server request applicationStatus payload nowMs).2 = .ok response) ∧
      applicationStatus = status ∧ payload.data = bytes
  | .reject request applicationStatus payload nowMs =>
    (∃ pending, serverResolvePending server request = .ok (pending, index)) ∧
      (∃ response,
        (wlRpcServerReject server request applicationStatus payload nowMs).2 = .ok response) ∧
      applicationStatus = status ∧ payload.data = bytes
  | .commit buffer applicationStatus responseLength nowMs =>
    (∃ pending, serverResolvePending server buffer.request = .ok (pending, index)) ∧
      (∃ response,
        (wlRpcServerResponseCommit server buffer applicationStatus responseLength nowMs).2 =
          .ok response) ∧
      applicationStatus = status ∧ server.slotBytes index responseLength = bytes
  | _ => False

/-- In a run some call completes the request of a slot, and every call that does so does it with this
status and these bytes. -/
def CompletedWith (server : WlRpcServer) (ops : List ServerOp) (index : Nat) (status : Int32)
    (bytes : Bytes) : Prop :=
  (∃ (count : Nat) (inside : count < ops.length),
    Completes (runServer server (ops.take count)) index status bytes ops[count]) ∧
  ∀ (count : Nat) (inside : count < ops.length) (other : Int32) (others : Bytes),
    Completes (runServer server (ops.take count)) index other others ops[count] →
      other = status ∧ others = bytes

/-- The answer to a request whose key has an entry in a slot, after a run since that entry was
admitted. A request with a zero message id is no request: it is refused as such. -/
def AnsweredFromEntry (admitted : WlRpcServer) (ops : List ServerOp) (index : Nat)
    (identity later : WlRpcRequestIdentity) (nowMs : UInt32) : Prop :=
  let (next, answer) := wlRpcServerBegin (runServer admitted ops) later nowMs
  if later = identity then
    answer = .ok .pendingDuplicate ∨
      ∃ response, answer = .ok (.replay response) ∧
        CompletedWith admitted ops index response.applicationStatus (next.responseBytes response)
  else if identityValid later then answer = .ok .conflict
  else answer = .error .invalidArg

/-! ### Reservations -/

/-- A pending slot and the response slot that is reserved for it. -/
structure Reserves (server : WlRpcServer) (pending response : Nat) : Prop where
  active : (server.pendingSlots pending).active = true
  points : (server.pendingSlots pending).response = some response
  used : (server.responseSlots response).active ≠ .free
  reserved : (server.responseSlots response).deliveryState = .reserved
  generation : (server.responseSlots response).generation = (server.pendingSlots pending).generation
  identity : (server.responseSlots response).identity = (server.pendingSlots pending).identity

/-- Two areas of the response storages do not overlap. -/
def RpcData.Apart (left : RpcData) (leftLength : Nat) (right : RpcData) (rightLength : Nat) : Prop :=
  left.pool = right.pool →
    left.offset + leftLength ≤ right.offset ∨ right.offset + rightLength ≤ left.offset

/-- Pending requests and reserved responses correspond, and the bytes of different slots lie apart. -/
structure Corresponds (server : WlRpcServer) : Prop where
  pending : ∀ pending, (server.pendingSlots pending).active = true →
    pending < server.pendingSlotCount ∧ ∃! response, Reserves server pending response
  reserved : ∀ response, (server.responseSlots response).active ≠ .free →
    (server.responseSlots response).deliveryState = .reserved →
      response < server.responseCount ∧ ∃! pending, Reserves server pending response
  apart : ∀ first second, first ≠ second → (server.responseSlots first).active ≠ .free →
    (server.responseSlots second).active ≠ .free →
      ∃ one two, (server.responseSlots first).data = some one ∧
        (server.responseSlots second).data = some two ∧
        one.Apart (server.responseSlots first).capacity two (server.responseSlots second).capacity

/-- A token stands for a pending request. -/
def TokenLive (server : WlRpcServer) (request : WlRpcServerRequest) : Prop :=
  ∃ pending, pending < server.pendingSlotCount ∧ (server.pendingSlots pending).active = true ∧
    requestEqual request (server.pendingSlots pending) = true

/-- The errors a completion may give: none of them is about space for a response. -/
def completionErrors : List WlRpcErr :=
  [.notFound, .responseTooLarge, .responseMismatch, .invalidArg]

/-- A completion fails for its own arguments only, and goes through for a live token if the payload
fits. -/
structure Completable (server : WlRpcServer) : Prop where
  complete : ∀ request status payload nowMs err,
    (wlRpcServerComplete server request status payload nowMs).2 = .error err →
      err ∈ completionErrors
  reject : ∀ request status payload nowMs err,
    (wlRpcServerReject server request status payload nowMs).2 = .error err →
      err ∈ completionErrors
  commit : ∀ buffer status length nowMs err,
    (wlRpcServerResponseCommit server buffer status length nowMs).2 = .error err →
      err ∈ completionErrors
  live : ∀ request, TokenLive server request →
    ∃ buffer, wlRpcServerResponsePrepare server request = .ok buffer ∧
      (∀ status payload nowMs, ¬ payload.invalid → payload.length ≤ buffer.capacity →
        ∃ response,
          (wlRpcServerComplete server request status payload nowMs).2 = .ok response) ∧
      ∀ status length nowMs, length ≤ buffer.capacity →
        ∃ response,
          (wlRpcServerResponseCommit server buffer status length nowMs).2 = .ok response

/-- A correlate slot in use is on its way to be free: its request is pending, or its response has not
left yet, and it is free once that has happened or its session is discarded. -/
structure Returns (server : WlRpcServer) (index : Nat) : Prop where
  reserved : (server.responseSlots index).deliveryState = .reserved →
    ∃ pending, Reserves server pending index
  undelivered : (server.responseSlots index).deliveryState ≠ .delivered
  sent : (server.responseSlots index).deliveryState = .acquired →
    wlRpcServerResponseSent server (responseFromCache (server.responseSlots index)) =
      (server.setResponse index .zero, .ok)
  txEvent : (server.responseSlots index).deliveryState = .inFlight →
    ∀ event : TxEvent, event.isTerminal = true →
      event.handle = (server.responseSlots index).txHandle →
        (wlRpcServerOnTxEvent server event).1 = server.setResponse index .zero ∧
          (wlRpcServerOnTxEvent server event).2.1 = .ok
  discarded : (server.responseSlots index).identity.peerSessionId ≠ 0 →
    (wlRpcServerDiscardSession server
      (server.responseSlots index).identity.peerSessionId).1.responseSlots index = .zero

/-- The token a call issues. -/
def ServerOp.issues (server : WlRpcServer) : ServerOp → Option WlRpcServerRequest
  | .begin identity nowMs =>
    match (wlRpcServerBegin server identity nowMs).2 with
    | .ok (.new request) => some request
    | _ => none
  | .beginCorrelate identity nowMs =>
    match (wlRpcServerBeginCorrelate server identity nowMs).2 with
    | .ok request => some request
    | .error _ => none
  | _ => none

/-- A call admits a request. -/
def ServerOp.admits (server : WlRpcServer) (op : ServerOp) : Bool :=
  (op.issues server).isSome

/-- The number of requests a run admits. -/
def admissions : WlRpcServer → List ServerOp → Nat
  | _, [] => 0
  | server, op :: ops => (if op.admits server then 1 else 0) + admissions (server.step op) ops

/-- Every use of a token is refused, and nothing changes. -/
structure RejectsToken (server : WlRpcServer) (request : WlRpcServerRequest) : Prop where
  prepare : ∃ err, wlRpcServerResponsePrepare server request = .error err
  complete : ∀ status payload nowMs, ∃ err,
    wlRpcServerComplete server request status payload nowMs = (server, .error err)
  reject : ∀ status payload nowMs, ∃ err,
    wlRpcServerReject server request status payload nowMs = (server, .error err)
  commit : ∀ buffer status length nowMs, buffer.request = request → ∃ err,
    wlRpcServerResponseCommit server buffer status length nowMs = (server, .error err)
  abandon : ∃ err, err ≠ .ok ∧ wlRpcServerAbandon server request = (server, err)

/-! ### Sessions -/

namespace WlRpcServer

/-- A pending slot holds a request of the session. -/
def pendingOf (server : WlRpcServer) (peerSessionId : UInt64) (index : Nat) : Bool :=
  (server.pendingSlots index).active &&
    (server.pendingSlots index).identity.peerSessionId == peerSessionId

/-- A response slot is in use for the session. -/
def responseOf (server : WlRpcServer) (peerSessionId : UInt64) (index : Nat) : Bool :=
  (server.responseSlots index).active != .free &&
    (server.responseSlots index).identity.peerSessionId == peerSessionId

/-- The handle of a response of the session that is under way. -/
def flightOf (server : WlRpcServer) (peerSessionId : UInt64) (index : Nat) : Option UInt32 :=
  if server.responseOf peerSessionId index ∧
      (server.responseSlots index).deliveryState = .inFlight then
    some (server.responseSlots index).txHandle
  else none

end WlRpcServer

/-- What discarding a session leaves, and what it reports. -/
structure Discards (server : WlRpcServer) (peerSessionId : UInt64) (after : WlRpcServer)
    (result : WlRpcServerDiscardResult) : Prop where
  pendings : ∀ index, after.pendingSlots index =
    if server.pendingOf peerSessionId index then .zero else server.pendingSlots index
  responses : ∀ index, after.responseSlots index =
    if server.responseOf peerSessionId index then .zero else server.responseSlots index
  others : after =
    { server with pendingSlots := after.pendingSlots, responseSlots := after.responseSlots }
  requestCount : result.pendingDiscarded =
    (List.range server.pendingSlotCount).countP (server.pendingOf peerSessionId)
  reservedCount : result.pendingDiscarded =
    (List.range server.responseCount).countP fun index =>
      server.responseOf peerSessionId index &&
        (server.responseSlots index).deliveryState == .reserved
  responseCount : result.responsesDiscarded =
    (List.range server.responseCount).countP fun index =>
      server.responseOf peerSessionId index &&
        (server.responseSlots index).deliveryState != .reserved
  cancelled : result.cancelled =
    (List.range server.responseCount).filterMap (server.flightOf peerSessionId)
  cancelCount : result.txCancelRequested = result.cancelled.length

/-- The identity a call asks to admit. -/
def ServerOp.request : ServerOp → Option WlRpcRequestIdentity
  | .begin identity _ => some identity
  | .beginCorrelate identity _ => some identity
  | _ => none

/-- Every token, buffer and response view of a session is refused, and nothing changes. -/
structure RejectsSession (server : WlRpcServer) (peerSessionId : UInt64) : Prop where
  tokens : ∀ request, request.identity.peerSessionId = peerSessionId → RejectsToken server request
  defer : ∀ view, view.identity.peerSessionId = peerSessionId →
    wlRpcServerResponseDefer server view = (server, .notFound)
  sent : ∀ view, view.identity.peerSessionId = peerSessionId →
    wlRpcServerResponseSent server view = (server, .notFound)
  submitted : ∀ view, view.identity.peerSessionId = peerSessionId → ∀ txHandle,
    ∃ err, err ≠ .ok ∧ wlRpcServerResponseSubmitted server view txHandle = (server, err)

/-! ### A small server -/

/-- One pending slot and one history slot of four bytes. -/
def smallServerConfig : WlRpcServerConfig :=
  { pendingSlotCount := 1, cacheSlotCount := 1, responseStorage := [0, 0, 0, 0]
    responseCapacityPerSlot := 4, pendingTimeoutMs := 0, cacheTtlMs := 10
    cachePolicy := .rejectNew }

/-- One correlate slot of two bytes. -/
def smallPool : WlRpcServerResponsePool :=
  { slotCount := 1, storage := [0, 0], capacityPerSlot := 2 }

/-- The server that is configured so, with the generation it issues next. -/
def smallServer (next : UInt64) : WlRpcServer :=
  { pendingSlots := fun _ => .zero, responseSlots := fun _ => .zero
    responseStorage := [0, 0, 0, 0], correlateStorage := [0, 0], observed := false
    nextGeneration := next, pendingTimeoutMs := 0, cacheTtlMs := 10, pendingSlotCount := 1
    cacheSlotCount := 1, responseCapacity := 4, correlateSlotCount := 1, correlateCapacity := 2
    cachePolicy := .rejectNew }

/-- A request of some session. -/
def smallIdentity : WlRpcRequestIdentity :=
  { operationId := 5, requestMessageId := 1, responseMessageId := 2, requestFingerprint := 9
    peerSessionId := 7 }

theorem smallServer_reachable : ServerReachable (smallServer 1) :=
  ⟨smallServerConfig, some smallPool, smallServer 1, [], rfl, rfl⟩

end Wirelink
