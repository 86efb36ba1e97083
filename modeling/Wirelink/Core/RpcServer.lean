/-
Module: Wirelink.Core.RpcServer
Purpose: The server half of the RPC runtime: pending requests, the history of responses that are
  replayed, and the responses of correlate requests. The slot arrays are functions from indices, of
  which the code visits those below a count; the correlate slots follow the cache slots, as
  server_cache numbers them. A response's data pointer is the pool it points into and the offset
  there. A value of WlRpcServer is what a successful init has built, so the tests for null and
  uninitialized objects have no counterpart.
Trusted boundary: the translation of the server half of src/rpc.c
-/
import Mathlib.Logic.Function.Basic
import Wirelink.Core.Rpc
import Wirelink.Lib.Slots

namespace Wirelink

/-! ### Slots -/

/-- `wl_rpc_cache_policy_t`. -/
inductive WlRpcCachePolicy where
  | rejectNew
  | evictOldest
deriving Repr, Inhabited, DecidableEq

/-- The values of `active` in a response slot. -/
inductive ResponseUse where
  | free
  | correlate
  | history
deriving Repr, Inhabited, DecidableEq

/-- `delivery_state`. -/
inductive DeliveryState where
  | reserved
  | delivered
  | ready
  | acquired
  | inFlight
deriving Repr, Inhabited, DecidableEq

/-- The two storages for response bytes. -/
inductive RpcPool where
  | cache
  | correlate
deriving Repr, Inhabited, DecidableEq

/-- A pointer into one of them. -/
structure RpcData where
  pool : RpcPool
  offset : Nat
deriving Repr, Inhabited, DecidableEq

/-- `wl_rpc_server_pending_impl_t`; `response` is the index of the slot it points to. -/
structure RpcPending where
  identity : WlRpcRequestIdentity
  generation : UInt64
  response : Option Nat
  startedAt : UInt32
  active : Bool
  expiryReported : Bool
deriving Repr, Inhabited, DecidableEq

/-- A pending slot after `memset`. -/
def RpcPending.zero : RpcPending :=
  { identity := noIdentity, generation := 0, response := none, startedAt := 0, active := false,
    expiryReported := false }

/-- `wl_rpc_server_cache_impl_t`. -/
structure RpcResponseSlot where
  identity : WlRpcRequestIdentity
  responseLength : Nat
  generation : UInt64
  data : Option RpcData
  txHandle : UInt32
  completedAt : UInt32
  applicationStatus : Int32
  capacity : Nat
  active : ResponseUse
  deliveryState : DeliveryState
deriving Repr, Inhabited, DecidableEq

/-- A response slot after `memset`. -/
def RpcResponseSlot.zero : RpcResponseSlot :=
  { identity := noIdentity, responseLength := 0, generation := 0, data := none, txHandle := 0
    completedAt := 0, applicationStatus := 0, capacity := 0, active := .free
    deliveryState := .reserved }

/-- `wl_rpc_server_request_t`. -/
structure WlRpcServerRequest where
  identity : WlRpcRequestIdentity
  generation : UInt64
deriving Repr, Inhabited, DecidableEq

/-- `wl_rpc_server_response_t`. -/
structure WlRpcServerResponse where
  identity : WlRpcRequestIdentity
  applicationStatus : Int32
  responseData : Option RpcData
  responseLength : Nat
  generation : UInt64
deriving Repr, Inhabited, DecidableEq

/-- `wl_rpc_server_response_buffer_t`. -/
structure WlRpcServerResponseBuffer where
  request : WlRpcServerRequest
  data : Option RpcData
  capacity : Nat
deriving Repr, Inhabited, DecidableEq

/-- `wl_rpc_server_impl_t`. -/
structure WlRpcServer where
  pendingSlots : Nat → RpcPending
  responseSlots : Nat → RpcResponseSlot
  responseStorage : Bytes
  correlateStorage : Bytes
  observed : Bool
  nextGeneration : UInt64
  pendingTimeoutMs : UInt32
  cacheTtlMs : UInt32
  pendingSlotCount : Nat
  cacheSlotCount : Nat
  responseCapacity : Nat
  correlateSlotCount : Nat
  correlateCapacity : Nat
  cachePolicy : WlRpcCachePolicy

/-! ### Setup -/

/-- `wl_rpc_server_config_t`; the storage comes with its bytes. -/
structure WlRpcServerConfig where
  pendingSlotCount : UInt16
  cacheSlotCount : UInt16
  responseStorage : Bytes
  responseCapacityPerSlot : UInt16
  pendingTimeoutMs : UInt32
  cacheTtlMs : UInt32
  cachePolicy : WlRpcCachePolicy

/-- `wl_rpc_server_response_pool_t`. -/
structure WlRpcServerResponsePool where
  slotCount : UInt16
  storage : Bytes
  capacityPerSlot : UInt16

/-- The tests of `wl_rpc_server_init_with_correlate` on the group of cache fields. -/
def cacheGroupInvalid (config : WlRpcServerConfig) (correlate : Option WlRpcServerResponsePool) :
    Bool :=
  if config.cacheSlotCount ≠ 0 then config.responseCapacityPerSlot == 0
  else
    correlate.isNone || decide (config.responseStorage.length ≠ 0) ||
      config.responseCapacityPerSlot != 0 || config.cacheTtlMs != 0 ||
      config.cachePolicy != .rejectNew

/-- Its tests on the correlate pool. -/
def correlatePoolInvalid (config : WlRpcServerConfig) (correlate : WlRpcServerResponsePool) : Bool :=
  correlate.slotCount == 0 || correlate.capacityPerSlot == 0 ||
    decide (correlate.slotCount.toNat > 65535 - config.cacheSlotCount.toNat) ||
    decide (correlate.storage.length <
      correlate.slotCount.toNat * correlate.capacityPerSlot.toNat)

/-- `wl_rpc_server_init_with_correlate`. -/
def wlRpcServerInitWithCorrelate (config : WlRpcServerConfig)
    (correlate : Option WlRpcServerResponsePool) : Except WlRpcErr WlRpcServer :=
  if config.pendingSlotCount = 0 ∨ ¬ intervalValid config.pendingTimeoutMs ∨
      ¬ intervalValid config.cacheTtlMs then .error .invalidArg
  else if cacheGroupInvalid config correlate then .error .invalidArg
  else if correlate.any (correlatePoolInvalid config) then .error .invalidArg
  else if config.responseStorage.length <
      config.cacheSlotCount.toNat * config.responseCapacityPerSlot.toNat then .error .invalidArg
  else
    .ok
      { pendingSlots := fun _ => .zero, responseSlots := fun _ => .zero
        responseStorage := config.responseStorage
        correlateStorage := (correlate.map WlRpcServerResponsePool.storage).getD []
        observed := false, nextGeneration := 1, pendingTimeoutMs := config.pendingTimeoutMs
        cacheTtlMs := config.cacheTtlMs, pendingSlotCount := config.pendingSlotCount.toNat
        cacheSlotCount := config.cacheSlotCount.toNat
        responseCapacity := config.responseCapacityPerSlot.toNat
        correlateSlotCount := (correlate.map fun pool => pool.slotCount.toNat).getD 0
        correlateCapacity := (correlate.map fun pool => pool.capacityPerSlot.toNat).getD 0
        cachePolicy := config.cachePolicy }

/-- `wl_rpc_server_init`. -/
def wlRpcServerInit (config : WlRpcServerConfig) : Except WlRpcErr WlRpcServer :=
  wlRpcServerInitWithCorrelate config none

namespace WlRpcServer

/-- `server_response_count`. -/
def responseCount (server : WlRpcServer) : Nat :=
  server.cacheSlotCount + server.correlateSlotCount

/-- `server_response_data`. -/
def responseData (server : WlRpcServer) (index : Nat) : RpcData :=
  if index < server.cacheSlotCount then
    { pool := .cache, offset := index * server.responseCapacity }
  else
    { pool := .correlate, offset := (index - server.cacheSlotCount) * server.correlateCapacity }

/-- Replace a pending slot. -/
def setPending (server : WlRpcServer) (index : Nat) (slot : RpcPending) : WlRpcServer :=
  { server with pendingSlots := Function.update server.pendingSlots index slot }

/-- Replace a response slot. -/
def setResponse (server : WlRpcServer) (index : Nat) (slot : RpcResponseSlot) : WlRpcServer :=
  { server with responseSlots := Function.update server.responseSlots index slot }

/-- The bytes a pointer leads to. -/
def read (server : WlRpcServer) (data : RpcData) (length : Nat) : Bytes :=
  match data.pool with
  | .cache => server.responseStorage.readAt data.offset length
  | .correlate => server.correlateStorage.readAt data.offset length

/-- Write bytes where a pointer leads to. -/
def write (server : WlRpcServer) (data : RpcData) (bytes : Bytes) : WlRpcServer :=
  match data.pool with
  | .cache => { server with responseStorage := server.responseStorage.writeAt data.offset bytes }
  | .correlate =>
    { server with correlateStorage := server.correlateStorage.writeAt data.offset bytes }

end WlRpcServer

/-- `request_valid`. -/
def requestValid (request : WlRpcServerRequest) : Bool :=
  request.generation != 0 && identityValid request.identity

/-- `request_equal`. -/
def requestEqual (request : WlRpcServerRequest) (pending : RpcPending) : Bool :=
  request.generation == pending.generation && identityEqual request.identity pending.identity

/-- `server_next_generation`: the generation and the next one to try. -/
def serverNextGeneration (next : UInt64) : UInt64 × UInt64 :=
  if next = 0 then (next + 1, next + 2) else (next, next + 1)

/-- `generation_older`. -/
def generationOlder (left right : UInt64) : Bool :=
  left != right && decide (right - left < 0x8000000000000000)

/-- `response_from_cache`. -/
def responseFromCache (slot : RpcResponseSlot) : WlRpcServerResponse :=
  { identity := slot.identity, applicationStatus := slot.applicationStatus
    responseData := slot.data, responseLength := slot.responseLength
    generation := slot.generation }

/-- The test of `server_cache_expire`. -/
def cacheExpires (slot : RpcResponseSlot) (nowMs ttlMs : UInt32) : Bool :=
  slot.active != .free && slot.deliveryState == .delivered && elapsed nowMs slot.completedAt ttlMs

/-- `server_cache_expire`. -/
def serverCacheExpire (slot : RpcResponseSlot) (nowMs ttlMs : UInt32) : RpcResponseSlot :=
  if cacheExpires slot nowMs ttlMs then .zero else slot

namespace WlRpcServer

/-- The first slots go through `server_cache_expire`. -/
def expireBelow (server : WlRpcServer) (bound : Nat) (nowMs : UInt32) : WlRpcServer :=
  { server with
    responseSlots := fun index =>
      if index < bound then
        serverCacheExpire (server.responseSlots index) nowMs server.cacheTtlMs
      else server.responseSlots index }

/-- The scans for the oldest of some slots, in `wl_rpc_server_begin`,
`wl_rpc_server_response_peek` and `wl_rpc_server_response_acquire`. -/
def oldestSlot (server : WlRpcServer) (count : Nat) (candidate : RpcResponseSlot → Bool) :
    Option Nat :=
  Slots.scanBest (fun index => candidate (server.responseSlots index))
    (fun index oldest =>
      generationOlder (server.responseSlots index).generation
        (server.responseSlots oldest).generation) count

/-! ### Admission -/

/-- The test of the first loop of `wl_rpc_server_begin`: a pending request with this key whose
response is history. -/
def pendingHit (server : WlRpcServer) (identity : WlRpcRequestIdentity) (index : Nat) : Bool :=
  let pending := server.pendingSlots index
  pending.active &&
    (pending.response.any fun response =>
      (server.responseSlots response).active == .history) &&
    identityKeyEqual pending.identity identity

/-- The first pending slot that is free. -/
def freePending (server : WlRpcServer) : Option Nat :=
  (List.range server.pendingSlotCount).find? fun index => !(server.pendingSlots index).active

/-- The test of its second loop, after the slot went through expiry. -/
def cacheHit (server : WlRpcServer) (identity : WlRpcRequestIdentity) (nowMs : UInt32)
    (index : Nat) : Bool :=
  let slot := serverCacheExpire (server.responseSlots index) nowMs server.cacheTtlMs
  slot.active != .free && identityKeyEqual slot.identity identity

/-- The cache slot a new request gets: a free one, or the oldest delivered one if that may be
evicted. -/
def cacheTarget (server : WlRpcServer) : Option Nat :=
  match (List.range server.cacheSlotCount).find? fun index =>
      (server.responseSlots index).active == .free with
  | some index => some index
  | none =>
    if server.cachePolicy = .evictOldest then
      server.oldestSlot server.cacheSlotCount fun slot => slot.deliveryState == .delivered
    else none

/-- A request is admitted to a pending slot and a response slot. -/
def reserveFor (server : WlRpcServer) (identity : WlRpcRequestIdentity) (nowMs : UInt32)
    (pending target : Nat) (capacity : Nat) (use : ResponseUse) : WlRpcServer :=
  let generation := (serverNextGeneration server.nextGeneration).1
  { (server.setResponse target
      { RpcResponseSlot.zero with
        identity := identity, generation := generation, data := some (server.responseData target)
        capacity := capacity, active := use, deliveryState := .reserved }).setPending pending
      { RpcPending.zero with
        identity := identity, generation := generation, startedAt := nowMs
        response := some target, active := true } with
    nextGeneration := (serverNextGeneration server.nextGeneration).2 }

/-- The token of the request that is admitted next. -/
def nextRequest (server : WlRpcServer) (identity : WlRpcRequestIdentity) : WlRpcServerRequest :=
  { identity := identity, generation := (serverNextGeneration server.nextGeneration).1 }

end WlRpcServer

/-- `wl_rpc_server_disposition_t` with what comes with it. -/
inductive RpcDisposition where
  | new (request : WlRpcServerRequest)
  | pendingDuplicate
  | replay (response : WlRpcServerResponse)
  | conflict
deriving Repr, Inhabited, DecidableEq

/-- The end of `wl_rpc_server_begin`, for a key that was not found. -/
def beginAdmission (server : WlRpcServer) (identity : WlRpcRequestIdentity) (nowMs : UInt32) :
    WlRpcServer × Except WlRpcErr RpcDisposition :=
  match server.freePending with
  | none => (server, .error .noSlot)
  | some pending =>
    match server.cacheTarget with
    | none => (server, .error .cacheFull)
    | some target =>
      (server.reserveFor identity nowMs pending target server.responseCapacity .history,
        .ok (.new (server.nextRequest identity)))

/-- What `wl_rpc_server_begin` does with a cache slot that has the key. -/
def beginCached (server : WlRpcServer) (identity : WlRpcRequestIdentity) (index : Nat) :
    WlRpcServer × Except WlRpcErr RpcDisposition :=
  let slot := server.responseSlots index
  if identityEqual slot.identity identity then
    let slot := if slot.deliveryState = .delivered then { slot with deliveryState := .ready }
      else slot
    (server.setResponse index slot, .ok (.replay (responseFromCache slot)))
  else (server, .ok .conflict)

/-- `wl_rpc_server_begin`. -/
def wlRpcServerBegin (server : WlRpcServer) (identity : WlRpcRequestIdentity) (nowMs : UInt32) :
    WlRpcServer × Except WlRpcErr RpcDisposition :=
  if ¬ identityValid identity then (server, .error .invalidArg)
  else
    match (List.range server.pendingSlotCount).find? (server.pendingHit identity) with
    | some index =>
      if identityEqual (server.pendingSlots index).identity identity then
        (server, .ok .pendingDuplicate)
      else (server, .ok .conflict)
    | none =>
      match (List.range server.cacheSlotCount).find? (server.cacheHit identity nowMs) with
      | some index => beginCached (server.expireBelow (index + 1) nowMs) identity index
      | none => beginAdmission (server.expireBelow server.cacheSlotCount nowMs) identity nowMs

/-- `wl_rpc_server_begin_correlate`. -/
def wlRpcServerBeginCorrelate (server : WlRpcServer) (identity : WlRpcRequestIdentity)
    (nowMs : UInt32) : WlRpcServer × Except WlRpcErr WlRpcServerRequest :=
  if ¬ identityValid identity ∨ identity.requestFingerprint ≠ 0 then (server, .error .invalidArg)
  else
    match server.freePending with
    | none => (server, .error .noSlot)
    | some pending =>
      match (List.range' server.cacheSlotCount server.correlateSlotCount).find? fun index =>
          (server.responseSlots index).active == .free with
      | none => (server, .error .cacheFull)
      | some target =>
        (server.reserveFor identity nowMs pending target server.correlateCapacity .correlate,
          .ok (server.nextRequest identity))

/-! ### Completion -/

/-- `server_resolve_pending`: the pending slot of a token and its response slot. -/
def serverResolvePending (server : WlRpcServer) (request : WlRpcServerRequest) :
    Except WlRpcErr (Nat × Nat) :=
  match (List.range server.pendingSlotCount).find? fun index =>
      (server.pendingSlots index).active && requestEqual request (server.pendingSlots index) with
  | none => .error .notFound
  | some pending =>
    match (server.pendingSlots pending).response with
    | none => .error .invalidState
    | some response =>
      let slot := server.responseSlots response
      if slot.active = .free ∨ slot.deliveryState ≠ .reserved ∨
          slot.generation ≠ request.generation ∨
          ¬ identityEqual slot.identity request.identity then .error .invalidState
      else .ok (pending, response)

/-- `server_commit_reserved`. -/
def serverCommitReserved (server : WlRpcServer) (pending response : Nat) (applicationStatus : Int32)
    (responseLength : Nat) (nowMs : UInt32) : WlRpcServer × WlRpcServerResponse :=
  let slot := { server.responseSlots response with
    responseLength := responseLength, completedAt := nowMs
    applicationStatus := applicationStatus, deliveryState := .ready }
  ((server.setResponse response slot).setPending pending .zero, responseFromCache slot)

/-- `wl_rpc_server_response_prepare`. -/
def wlRpcServerResponsePrepare (server : WlRpcServer) (request : WlRpcServerRequest) :
    Except WlRpcErr WlRpcServerResponseBuffer :=
  if ¬ requestValid request then .error .invalidArg
  else
    match serverResolvePending server request with
    | .error err => .error err
    | .ok (_, response) =>
      .ok
        { request := request, data := (server.responseSlots response).data
          capacity := (server.responseSlots response).capacity }

/-- `wl_rpc_server_response_commit`. -/
def wlRpcServerResponseCommit (server : WlRpcServer) (buffer : WlRpcServerResponseBuffer)
    (applicationStatus : Int32) (responseLength : Nat) (nowMs : UInt32) :
    WlRpcServer × Except WlRpcErr WlRpcServerResponse :=
  if ¬ requestValid buffer.request then (server, .error .invalidArg)
  else
    match serverResolvePending server buffer.request with
    | .error err => (server, .error err)
    | .ok (pending, response) =>
      let slot := server.responseSlots response
      if responseLength > slot.capacity then (server, .error .responseTooLarge)
      else if buffer.data ≠ slot.data ∨ buffer.capacity ≠ slot.capacity then
        (server, .error .responseMismatch)
      else
        let committed :=
          serverCommitReserved server pending response applicationStatus responseLength nowMs
        (committed.1, .ok committed.2)

/-- `memmove` to where a response slot points. -/
def storeResponse (server : WlRpcServer) (response : Nat) (bytes : Bytes) : WlRpcServer :=
  match (server.responseSlots response).data with
  | some data => server.write data bytes
  | none => server

/-- `wl_rpc_server_complete`. -/
def wlRpcServerComplete (server : WlRpcServer) (request : WlRpcServerRequest)
    (applicationStatus : Int32) (payload : Buffer) (nowMs : UInt32) :
    WlRpcServer × Except WlRpcErr WlRpcServerResponse :=
  if ¬ requestValid request ∨ payload.invalid then (server, .error .invalidArg)
  else
    match serverResolvePending server request with
    | .error err => (server, .error err)
    | .ok (pending, response) =>
      if payload.length > (server.responseSlots response).capacity then
        (server, .error .responseTooLarge)
      else
        let committed := serverCommitReserved (storeResponse server response payload.data) pending
          response applicationStatus payload.length nowMs
        (committed.1, .ok committed.2)

/-- `wl_rpc_server_reject`. -/
def wlRpcServerReject (server : WlRpcServer) (request : WlRpcServerRequest)
    (applicationStatus : Int32) (payload : Buffer) (nowMs : UInt32) :
    WlRpcServer × Except WlRpcErr WlRpcServerResponse :=
  if applicationStatus = 0 then (server, .error .invalidArg)
  else wlRpcServerComplete server request applicationStatus payload nowMs

/-! ### Delivery -/

/-- `server_response_find`. -/
def serverResponseFind (server : WlRpcServer) (response : WlRpcServerResponse) : Option Nat :=
  if ¬ identityValid response.identity then none
  else
    (List.range server.responseCount).find? fun index =>
      let slot := server.responseSlots index
      slot.active != .free && slot.generation == response.generation &&
        identityEqual slot.identity response.identity && response.responseData == slot.data &&
        response.responseLength == slot.responseLength

/-- The test for a response that waits to be sent. -/
def responseReady (slot : RpcResponseSlot) : Bool :=
  slot.active != .free && slot.deliveryState == .ready

/-- `wl_rpc_server_response_peek`. -/
def wlRpcServerResponsePeek (server : WlRpcServer) : Except WlRpcErr UInt16 :=
  match server.oldestSlot server.responseCount responseReady with
  | none => .error .notFound
  | some index => .ok (server.responseSlots index).identity.responseMessageId

/-- `wl_rpc_server_response_acquire`. -/
def wlRpcServerResponseAcquire (server : WlRpcServer) :
    WlRpcServer × Except WlRpcErr WlRpcServerResponse :=
  match server.oldestSlot server.responseCount responseReady with
  | none => (server, .error .notFound)
  | some index =>
    let slot := { server.responseSlots index with deliveryState := .acquired }
    (server.setResponse index slot, .ok (responseFromCache slot))

/-- The tests `wl_rpc_server_response_defer`, `_submitted` and `_sent` share: the slot of a view
that is acquired. -/
def acquiredSlot (server : WlRpcServer) (response : WlRpcServerResponse) : Except WlRpcErr Nat :=
  match serverResponseFind server response with
  | none => .error .notFound
  | some index =>
    if (server.responseSlots index).deliveryState ≠ .acquired then .error .invalidState
    else .ok index

/-- `wl_rpc_server_response_defer`. -/
def wlRpcServerResponseDefer (server : WlRpcServer) (response : WlRpcServerResponse) :
    WlRpcServer × WlRpcErr :=
  match acquiredSlot server response with
  | .error err => (server, err)
  | .ok index =>
    (server.setResponse index { server.responseSlots index with deliveryState := .ready }, .ok)

/-- Another response of the server is under way with this handle. -/
def handleInFlight (server : WlRpcServer) (index : Nat) (txHandle : UInt32) : Bool :=
  (List.range server.responseCount).any fun other =>
    other != index && (server.responseSlots other).active != .free &&
      (server.responseSlots other).deliveryState == .inFlight &&
      (server.responseSlots other).txHandle == txHandle

/-- `wl_rpc_server_response_submitted`. -/
def wlRpcServerResponseSubmitted (server : WlRpcServer) (response : WlRpcServerResponse)
    (txHandle : UInt32) : WlRpcServer × WlRpcErr :=
  if txHandle = 0 then (server, .invalidArg)
  else
    match acquiredSlot server response with
    | .error err => (server, err)
    | .ok index =>
      if handleInFlight server index txHandle then (server, .operationConflict)
      else
        (server.setResponse index { server.responseSlots index with
          txHandle := txHandle, deliveryState := .inFlight }, .ok)

/-- A response that has left: history keeps it, a correlate slot becomes free. -/
def settled (slot : RpcResponseSlot) : RpcResponseSlot :=
  if slot.active = .history then { slot with deliveryState := .delivered } else .zero

/-- `wl_rpc_server_response_sent`. -/
def wlRpcServerResponseSent (server : WlRpcServer) (response : WlRpcServerResponse) :
    WlRpcServer × WlRpcErr :=
  match acquiredSlot server response with
  | .error err => (server, err)
  | .ok index => (server.setResponse index (settled (server.responseSlots index)), .ok)

/-- `wl_rpc_server_set_response_observer`. -/
def wlRpcServerSetResponseObserver (server : WlRpcServer) (observed : Bool) : WlRpcServer :=
  { server with observed := observed }

/-- What the response observer is told. -/
structure RpcObservation where
  identity : WlRpcRequestIdentity
  applicationStatus : Int32
  event : TxEvent
deriving Repr, Inhabited, DecidableEq

/-- `wl_rpc_server_on_tx_event`; the last component is the call of the response observer. -/
def wlRpcServerOnTxEvent (server : WlRpcServer) (event : TxEvent) :
    WlRpcServer × WlRpcErr × Option RpcObservation :=
  if ¬ event.isTerminal then (server, .invalidArg, none)
  else if event.handle = 0 then (server, .notFound, none)
  else
    match (List.range server.responseCount).find? fun index =>
        (server.responseSlots index).active != .free &&
          (server.responseSlots index).deliveryState == .inFlight &&
          (server.responseSlots index).txHandle == event.handle with
    | none => (server, .notFound, none)
    | some index =>
      let slot := server.responseSlots index
      (server.setResponse index (settled { slot with txHandle := 0 }), .ok,
        if server.observed then
          some { identity := slot.identity, applicationStatus := slot.applicationStatus
                 event := event }
        else none)

/-! ### Removal -/

/-- `wl_rpc_server_discard_result_t`, with the handles the cancel callback is called for. -/
structure WlRpcServerDiscardResult where
  pendingDiscarded : Nat
  responsesDiscarded : Nat
  txCancelRequested : Nat
  cancelled : List UInt32
deriving Repr, Inhabited, DecidableEq

/-- The response slot a pending slot holds becomes free, if it is still the reserved one. -/
def releaseReserved (server : WlRpcServer) (pending : RpcPending) : WlRpcServer :=
  match pending.response with
  | none => server
  | some response =>
    let slot := server.responseSlots response
    if slot.active ≠ .free ∧ slot.deliveryState = .reserved ∧
        slot.generation = pending.generation then server.setResponse response .zero
    else server

/-- The first loop of `wl_rpc_server_discard_session`. -/
def discardPending (peerSessionId : UInt64) (state : WlRpcServer × Nat) (index : Nat) :
    WlRpcServer × Nat :=
  let (server, discarded) := state
  let pending := server.pendingSlots index
  if ¬ pending.active ∨ pending.identity.peerSessionId ≠ peerSessionId then state
  else ((releaseReserved server pending).setPending index .zero, discarded + 1)

/-- Its second loop. -/
def discardResponse (peerSessionId : UInt64) (state : WlRpcServer × WlRpcServerDiscardResult)
    (index : Nat) : WlRpcServer × WlRpcServerDiscardResult :=
  let (server, result) := state
  let slot := server.responseSlots index
  if slot.active = .free ∨ slot.identity.peerSessionId ≠ peerSessionId then state
  else
    let handle := if slot.deliveryState = .inFlight then slot.txHandle else 0
    (server.setResponse index .zero,
      { result with
        responsesDiscarded := result.responsesDiscarded + 1
        txCancelRequested := result.txCancelRequested + (if handle ≠ 0 then 1 else 0)
        cancelled := result.cancelled ++ (if handle ≠ 0 then [handle] else []) })

/-- `wl_rpc_server_discard_session`. -/
def wlRpcServerDiscardSession (server : WlRpcServer) (peerSessionId : UInt64) :
    WlRpcServer × Except WlRpcErr WlRpcServerDiscardResult :=
  if peerSessionId = 0 then (server, .error .invalidArg)
  else
    let (server, discarded) :=
      (List.range server.pendingSlotCount).foldl (discardPending peerSessionId) (server, 0)
    let (server, result) :=
      (List.range server.responseCount).foldl (discardResponse peerSessionId)
        (server, { pendingDiscarded := discarded, responsesDiscarded := 0, txCancelRequested := 0
                   cancelled := [] })
    (server, .ok result)

/-- `wl_rpc_peer_observation_t`. -/
structure WlRpcPeerObservation where
  previousSessionId : UInt64
  currentSessionId : UInt64
  discarded : WlRpcServerDiscardResult
  changed : Bool
deriving Repr, Inhabited, DecidableEq

/-- The zeroed discard result. -/
def noDiscard : WlRpcServerDiscardResult :=
  { pendingDiscarded := 0, responsesDiscarded := 0, txCancelRequested := 0, cancelled := [] }

/-- `wl_rpc_peer_observe`; the peer is its session id. -/
def wlRpcPeerObserve (server : WlRpcServer) (peer peerSessionId : UInt64) :
    WlRpcServer × UInt64 × Except WlRpcErr WlRpcPeerObservation :=
  if peerSessionId = 0 then (server, peer, .error .invalidArg)
  else if peer = peerSessionId then
    (server, peer,
      .ok { previousSessionId := peer, currentSessionId := peerSessionId, discarded := noDiscard
            changed := false })
  else if peer ≠ 0 then
    match wlRpcServerDiscardSession server peer with
    | (server, .error err) => (server, peer, .error err)
    | (server, .ok discarded) =>
      (server, peerSessionId,
        .ok { previousSessionId := peer, currentSessionId := peerSessionId
              discarded := discarded, changed := true })
  else
    (server, peerSessionId,
      .ok { previousSessionId := peer, currentSessionId := peerSessionId, discarded := noDiscard
            changed := true })

/-- `wl_rpc_server_abandon`. -/
def wlRpcServerAbandon (server : WlRpcServer) (request : WlRpcServerRequest) :
    WlRpcServer × WlRpcErr :=
  if ¬ requestValid request then (server, .invalidArg)
  else
    match (List.range server.pendingSlotCount).find? fun index =>
        (server.pendingSlots index).active && requestEqual request (server.pendingSlots index) with
    | none => (server, .notFound)
    | some index =>
      ((releaseReserved server (server.pendingSlots index)).setPending index .zero, .ok)

/-- `wl_rpc_server_expired_acquire`. -/
def wlRpcServerExpiredAcquire (server : WlRpcServer) (nowMs : UInt32) :
    WlRpcServer × Except WlRpcErr WlRpcServerRequest :=
  if server.pendingTimeoutMs = 0 then (server, .error .notFound)
  else
    match (List.range server.pendingSlotCount).find? fun index =>
        (server.pendingSlots index).active && !(server.pendingSlots index).expiryReported &&
          elapsed nowMs (server.pendingSlots index).startedAt server.pendingTimeoutMs with
    | none => (server, .error .notFound)
    | some index =>
      let pending := server.pendingSlots index
      (server.setPending index { pending with expiryReported := true },
        .ok { identity := pending.identity, generation := pending.generation })

/-- `wl_rpc_server_poll`, with the number of entries that expired. -/
def wlRpcServerPoll (server : WlRpcServer) (nowMs : UInt32) : WlRpcServer × Nat :=
  (server.expireBelow server.cacheSlotCount nowMs,
    (List.range server.cacheSlotCount).countP fun index =>
      cacheExpires (server.responseSlots index) nowMs server.cacheTtlMs)

/-! ### Deadline hints -/

/-- `server_pending_deadline`. -/
def serverPendingDeadline (server : WlRpcServer) (nowMs : UInt32) : UInt32 :=
  if server.pendingTimeoutMs = 0 then wlRpcNoDeadlineMs
  else
    (List.range server.pendingSlotCount).foldl (fun nearest index =>
      let pending := server.pendingSlots index
      if ¬ pending.active ∨ pending.expiryReported then nearest
      else
        let remaining := deadlineRemaining nowMs pending.startedAt server.pendingTimeoutMs
        if remaining < nearest then remaining else nearest) wlRpcNoDeadlineMs

/-- `wl_rpc_server_get_deadline_hint`. -/
def wlRpcServerGetDeadlineHint (server : WlRpcServer) (nowMs : UInt32) : UInt32 :=
  let nearest := (List.range server.cacheSlotCount).foldl (fun nearest index =>
    let slot := server.responseSlots index
    if server.cacheTtlMs ≠ 0 ∧ slot.active ≠ .free ∧ slot.deliveryState = .delivered then
      let remaining := deadlineRemaining nowMs slot.completedAt server.cacheTtlMs
      if remaining < nearest then remaining else nearest
    else nearest) wlRpcNoDeadlineMs
  let pending := serverPendingDeadline server nowMs
  if pending < nearest then pending else nearest

/-- `wl_rpc_server_get_pending_deadline_hint`. -/
def wlRpcServerGetPendingDeadlineHint (server : WlRpcServer) (nowMs : UInt32) : UInt32 :=
  serverPendingDeadline server nowMs

end Wirelink
