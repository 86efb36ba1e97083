/-
Module: Wirelink.Core.RpcClient
Purpose: The client half of the RPC runtime: a table of operations, found by operation id, by handle
  or by the handle of their link transaction, each with its deadline. The slot array is a function
  from indices, of which the code visits those below a count. A value of WlRpcClient is what a
  successful init has built, so the tests for null and uninitialized objects have no counterpart.
Trusted boundary: the translation of the client half of src/rpc.c
-/
import Mathlib.Logic.Function.Basic
import Wirelink.Core.Rpc

namespace Wirelink

/-! ### Slots -/

/-- `wl_rpc_client_state_t`. -/
inductive WlRpcClientState where
  | free
  | queued
  | linkPending
  | waitResponse
  | completed
  | linkFailed
  | timedOut
  | cancelled
  | applicationError
deriving Repr, Inhabited, DecidableEq

/-- `client_terminal`. -/
def clientTerminal : WlRpcClientState → Bool
  | .completed | .linkFailed | .timedOut | .cancelled | .applicationError => true
  | _ => false

/-- The states in which an operation has a deadline to meet. -/
def clientWaiting : WlRpcClientState → Bool
  | .queued | .linkPending | .waitResponse => true
  | _ => false

/-- `wl_rpc_client_slot_impl_t`. -/
structure RpcClientSlot where
  generation : UInt64
  operationId : UInt32
  startedAt : UInt32
  timeoutMs : UInt32
  txHandle : UInt32
  linkResult : Int32
  applicationStatus : Int32
  runtimeError : WlRpcErr
  state : WlRpcClientState
  requestMessageId : UInt16
  responseMessageId : UInt16
  linkDeliveryConfirmed : Bool
deriving Repr, Inhabited, DecidableEq

/-- A client slot after `memset`. -/
def RpcClientSlot.zero : RpcClientSlot :=
  { generation := 0, operationId := 0, startedAt := 0, timeoutMs := 0, txHandle := 0
    linkResult := 0, applicationStatus := 0, runtimeError := .ok, state := .free
    requestMessageId := 0, responseMessageId := 0, linkDeliveryConfirmed := false }

/-- `wl_rpc_client_impl_t`, with the address a handle names its owner by. -/
structure WlRpcClient where
  address : Nat
  slots : Nat → RpcClientSlot
  nextGeneration : UInt64
  nextOperationId : UInt32
  slotCount : UInt16
  allocatedCount : UInt16

/-- `wl_rpc_client_handle_impl_t`; a response authority has the same contents. -/
structure WlRpcClientHandle where
  owner : Nat
  generation : UInt64
  index : Nat
deriving Repr, Inhabited, DecidableEq

/-- `wl_rpc_client_result_t`. -/
structure WlRpcClientResult where
  operationId : UInt32
  requestMessageId : UInt16
  responseMessageId : UInt16
  state : WlRpcClientState
  txHandle : UInt32
  linkResult : Int32
  applicationStatus : Int32
  runtimeError : WlRpcErr
  linkDeliveryConfirmed : Bool
  resultIndex : Nat
  responseValid : Bool
deriving Repr, Inhabited, DecidableEq

/-- `WL_ERR_TIMEOUT` and `WL_ERR_TX_FAILED` as link results. -/
def linkResultTimeout : Int32 := -31

@[inherit_doc linkResultTimeout]
def linkResultTxFailed : Int32 := -32

/-- `wl_rpc_client_init` at an address. -/
def wlRpcClientInit (address : Nat) (slotCount : UInt16) (nextOperationId : UInt32) :
    Except WlRpcErr WlRpcClient :=
  if slotCount = 0 then .error .invalidArg
  else
    .ok
      { address := address, slots := fun _ => .zero, nextGeneration := 1
        nextOperationId := if nextOperationId = 0 then 1 else nextOperationId
        slotCount := slotCount, allocatedCount := 0 }

namespace WlRpcClient

/-- Replace a slot. -/
def setSlot (client : WlRpcClient) (index : Nat) (slot : RpcClientSlot) : WlRpcClient :=
  { client with slots := Function.update client.slots index slot }

/-- A slot becomes free. -/
def freeSlot (client : WlRpcClient) (index : Nat) : WlRpcClient :=
  { client.setSlot index .zero with allocatedCount := client.allocatedCount - 1 }

end WlRpcClient

/-- `client_find`. -/
def clientFind (client : WlRpcClient) (operationId : UInt32) : Option Nat :=
  (List.range client.slotCount.toNat).find? fun index =>
    (client.slots index).state != .free && (client.slots index).operationId == operationId

/-- `client_find_free`. -/
def clientFindFree (client : WlRpcClient) : Option Nat :=
  (List.range client.slotCount.toNat).find? fun index => (client.slots index).state == .free

/-! ### Admission -/

/-- `wl_rpc_client_begin_with_id`. -/
def wlRpcClientBeginWithId (client : WlRpcClient) (operationId : UInt32)
    (requestMessageId responseMessageId : UInt16) (timeoutMs nowMs : UInt32) :
    WlRpcClient × WlRpcErr :=
  if operationId = 0 ∨ requestMessageId = 0 ∨ responseMessageId = 0 ∨ ¬ intervalValid timeoutMs then
    (client, .invalidArg)
  else if client.nextGeneration = 0 then (client, .noSlot)
  else if (clientFind client operationId).isSome then (client, .operationConflict)
  else
    match clientFindFree client with
    | none => (client, .noSlot)
    | some index =>
      ({ client.setSlot index
          { RpcClientSlot.zero with
            generation := client.nextGeneration, operationId := operationId
            requestMessageId := requestMessageId, responseMessageId := responseMessageId
            startedAt := nowMs, timeoutMs := timeoutMs, state := .queued } with
          nextGeneration := client.nextGeneration + 1
          allocatedCount := client.allocatedCount + 1 }, .ok)

/-- The loop of `wl_rpc_client_begin` that looks for an operation id, with the attempts left. -/
def beginCandidate (client : WlRpcClient) : Nat → UInt32 → Except WlRpcErr UInt32
  | 0, _ => .error .noSlot
  | attempts + 1, candidate =>
    if candidate = 0 then .error .idExhausted
    else if (clientFind client candidate).isNone then .ok candidate
    else beginCandidate client attempts (candidate + 1)

/-- `wl_rpc_client_begin`. -/
def wlRpcClientBegin (client : WlRpcClient) (requestMessageId responseMessageId : UInt16)
    (timeoutMs nowMs : UInt32) : WlRpcClient × Except WlRpcErr UInt32 :=
  match beginCandidate client (client.slotCount.toNat + 1) client.nextOperationId with
  | .error err => (client, .error err)
  | .ok candidate =>
    match wlRpcClientBeginWithId client candidate requestMessageId responseMessageId timeoutMs
        nowMs with
    | (client, .ok) => ({ client with nextOperationId := candidate + 1 }, .ok candidate)
    | (client, err) => (client, .error err)

/-! ### Progress -/

/-- The lookups by operation id that the calls below begin with. -/
def operationSlot (client : WlRpcClient) (operationId : UInt32) : Except WlRpcErr Nat :=
  if operationId = 0 then .error .invalidArg
  else
    match clientFind client operationId with
    | none => .error .notFound
    | some index => .ok index

/-- `wl_rpc_client_bind_tx`. -/
def wlRpcClientBindTx (client : WlRpcClient) (operationId txHandle : UInt32) :
    WlRpcClient × WlRpcErr :=
  if operationId = 0 ∨ txHandle = 0 then (client, .invalidArg)
  else
    match clientFind client operationId with
    | none => (client, .notFound)
    | some index =>
      if (client.slots index).state ≠ .queued then (client, .invalidState)
      else if (List.range client.slotCount.toNat).any fun other =>
          other != index && (client.slots other).state == .linkPending &&
            (client.slots other).txHandle == txHandle then (client, .operationConflict)
      else
        (client.setSlot index
          { client.slots index with txHandle := txHandle, state := .linkPending }, .ok)

/-- `wl_rpc_client_tx_completed`. -/
def wlRpcClientTxCompleted (client : WlRpcClient) (operationId : UInt32) :
    WlRpcClient × WlRpcErr :=
  match operationSlot client operationId with
  | .error err => (client, err)
  | .ok index =>
    if (client.slots index).state ≠ .queued then (client, .invalidState)
    else
      (client.setSlot index
        { client.slots index with linkDeliveryConfirmed := false, state := .waitResponse }, .ok)

/-- `wl_rpc_client_link_failed`. -/
def wlRpcClientLinkFailed (client : WlRpcClient) (operationId : UInt32) (linkResult : Int32) :
    WlRpcClient × WlRpcErr :=
  if operationId = 0 ∨ linkResult = 0 then (client, .invalidArg)
  else
    match clientFind client operationId with
    | none => (client, .notFound)
    | some index =>
      if (client.slots index).state ≠ .queued ∧ (client.slots index).state ≠ .linkPending then
        (client, .invalidState)
      else
        (client.setSlot index
          { client.slots index with linkResult := linkResult, state := .linkFailed }, .ok)

/-- What a terminal event of its transaction makes of an operation. -/
def linkSettled (slot : RpcClientSlot) (event : TxEvent) : RpcClientSlot :=
  if event.type = .txSuccess then
    { slot with
      linkResult := event.ioResult, linkDeliveryConfirmed := true, state := .waitResponse }
  else
    { slot with
      linkResult :=
        if event.ioResult = 0 then
          if event.type = .txTimeout then linkResultTimeout else linkResultTxFailed
        else event.ioResult
      state := .linkFailed }

/-- `wl_rpc_client_on_tx_event`. -/
def wlRpcClientOnTxEvent (client : WlRpcClient) (event : TxEvent) : WlRpcClient × WlRpcErr :=
  if event.handle = 0 ∨ ¬ event.isTerminal then (client, .invalidArg)
  else
    match (List.range client.slotCount.toNat).find? fun index =>
        (client.slots index).state == .linkPending &&
          (client.slots index).txHandle == event.handle with
    | none => (client, .notFound)
    | some index => (client.setSlot index (linkSettled (client.slots index) event), .ok)

/-- The test of `wl_rpc_client_poll`. -/
def deadlinePassed (slot : RpcClientSlot) (nowMs : UInt32) : Bool :=
  clientWaiting slot.state && elapsed nowMs slot.startedAt slot.timeoutMs

/-- `wl_rpc_client_poll`, with the number of operations that timed out. -/
def wlRpcClientPoll (client : WlRpcClient) (nowMs : UInt32) : WlRpcClient × Nat :=
  if client.allocatedCount = 0 then (client, 0)
  else
    ({ client with
        slots := fun index =>
          if index < client.slotCount.toNat ∧ deadlinePassed (client.slots index) nowMs then
            { client.slots index with state := .timedOut }
          else client.slots index },
      (List.range client.slotCount.toNat).countP fun index =>
        deadlinePassed (client.slots index) nowMs)

/-- `wl_rpc_client_get_deadline_hint`. -/
def wlRpcClientGetDeadlineHint (client : WlRpcClient) (nowMs : UInt32) : UInt32 :=
  if client.allocatedCount = 0 then wlRpcNoDeadlineMs
  else
    (List.range client.slotCount.toNat).foldl (fun nearest index =>
      let slot := client.slots index
      if slot.timeoutMs = 0 ∨ ¬ clientWaiting slot.state then nearest
      else
        let remaining := deadlineRemaining nowMs slot.startedAt slot.timeoutMs
        if remaining < nearest then remaining else nearest) wlRpcNoDeadlineMs

/-- What cancelling makes of a slot, for `wl_rpc_client_cancel` and `wl_rpc_client_cancel_handle`. -/
def cancelSlot (client : WlRpcClient) (index : Nat) : WlRpcClient × WlRpcErr :=
  if clientTerminal (client.slots index).state then (client, .invalidState)
  else (client.setSlot index { client.slots index with state := .cancelled }, .ok)

/-- What releasing makes of a slot, for `wl_rpc_client_release` and `wl_rpc_client_release_handle`. -/
def releaseSlot (client : WlRpcClient) (index : Nat) : WlRpcClient × WlRpcErr :=
  if ¬ clientTerminal (client.slots index).state then (client, .invalidState)
  else (client.freeSlot index, .ok)

/-- `wl_rpc_client_cancel`. -/
def wlRpcClientCancel (client : WlRpcClient) (operationId : UInt32) : WlRpcClient × WlRpcErr :=
  match operationSlot client operationId with
  | .error err => (client, err)
  | .ok index => cancelSlot client index

/-- `wl_rpc_client_release`. -/
def wlRpcClientRelease (client : WlRpcClient) (operationId : UInt32) : WlRpcClient × WlRpcErr :=
  match operationSlot client operationId with
  | .error err => (client, err)
  | .ok index => releaseSlot client index

/-! ### Results and handles -/

/-- `client_result`. -/
def clientResult (slot : RpcClientSlot) (index : Nat) : WlRpcClientResult :=
  { operationId := slot.operationId, requestMessageId := slot.requestMessageId
    responseMessageId := slot.responseMessageId, state := slot.state, txHandle := slot.txHandle
    linkResult := slot.linkResult, applicationStatus := slot.applicationStatus
    runtimeError := slot.runtimeError, linkDeliveryConfirmed := slot.linkDeliveryConfirmed
    resultIndex := index, responseValid := slot.state == .completed }

/-- `wl_rpc_client_get`. -/
def wlRpcClientGet (client : WlRpcClient) (operationId : UInt32) :
    Except WlRpcErr WlRpcClientResult :=
  match operationSlot client operationId with
  | .error err => .error err
  | .ok index => .ok (clientResult (client.slots index) index)

/-- The handle of a slot. -/
def WlRpcClient.handleOf (client : WlRpcClient) (index : Nat) : WlRpcClientHandle :=
  { owner := client.address, generation := (client.slots index).generation, index := index }

/-- `wl_rpc_client_get_handle`. -/
def wlRpcClientGetHandle (client : WlRpcClient) (operationId : UInt32) :
    Except WlRpcErr WlRpcClientHandle :=
  match operationSlot client operationId with
  | .error err => .error err
  | .ok index => .ok (client.handleOf index)

/-- `client_handle_index`. -/
def clientHandleIndex (client : WlRpcClient) (handle : WlRpcClientHandle) : Except WlRpcErr Nat :=
  if handle.owner ≠ client.address ∨ handle.generation = 0 ∨
      handle.index ≥ client.slotCount.toNat then .error .invalidArg
  else if (client.slots handle.index).state = .free ∨
      (client.slots handle.index).generation ≠ handle.generation then .error .notFound
  else .ok handle.index

/-- The test for an operation that may get its response. -/
def awaitsResponse : WlRpcClientState → Bool
  | .linkPending | .waitResponse => true
  | _ => false

/-- `wl_rpc_client_response_prepare`; it gives the authority and the index of the result. -/
def wlRpcClientResponsePrepare (client : WlRpcClient) (requestMessageId responseMessageId : UInt16)
    (operationId nowMs : UInt32) : WlRpcClient × Except WlRpcErr (WlRpcClientHandle × Nat) :=
  if requestMessageId = 0 ∨ responseMessageId = 0 then (client, .error .invalidArg)
  else
    match operationSlot client operationId with
    | .error err => (client, .error err)
    | .ok index =>
      let slot := client.slots index
      if slot.requestMessageId ≠ requestMessageId ∨ slot.responseMessageId ≠ responseMessageId then
        (client, .error .responseMismatch)
      else if ¬ awaitsResponse slot.state then (client, .error .invalidState)
      else if elapsed nowMs slot.startedAt slot.timeoutMs then
        (client.setSlot index { slot with state := .timedOut }, .error .invalidState)
      else (client, .ok (client.handleOf index, index))

/-- `wl_rpc_client_response_commit`. -/
def wlRpcClientResponseCommit (client : WlRpcClient) (authority : WlRpcClientHandle)
    (applicationStatus : Int32) (nowMs : UInt32) : WlRpcClient × WlRpcErr :=
  match clientHandleIndex client authority with
  | .error err => (client, err)
  | .ok index =>
    let slot := client.slots index
    if ¬ awaitsResponse slot.state then (client, .invalidState)
    else if elapsed nowMs slot.startedAt slot.timeoutMs then
      (client.setSlot index { slot with state := .timedOut }, .invalidState)
    else
      (client.setSlot index
        { slot with
          applicationStatus := applicationStatus
          state := if applicationStatus = 0 then .completed else .applicationError }, .ok)

/-- `wl_rpc_client_state_by_handle`. -/
def wlRpcClientStateByHandle (client : WlRpcClient) (handle : WlRpcClientHandle) :
    Except WlRpcErr WlRpcClientState :=
  match clientHandleIndex client handle with
  | .error err => .error err
  | .ok index => .ok (client.slots index).state

/-- `wl_rpc_client_get_by_handle`. -/
def wlRpcClientGetByHandle (client : WlRpcClient) (handle : WlRpcClientHandle) :
    Except WlRpcErr WlRpcClientResult :=
  match clientHandleIndex client handle with
  | .error err => .error err
  | .ok index => .ok (clientResult (client.slots index) index)

/-- `wl_rpc_client_cancel_handle`. -/
def wlRpcClientCancelHandle (client : WlRpcClient) (handle : WlRpcClientHandle) :
    WlRpcClient × WlRpcErr :=
  match clientHandleIndex client handle with
  | .error err => (client, err)
  | .ok index => cancelSlot client index

/-- `wl_rpc_client_release_handle`. -/
def wlRpcClientReleaseHandle (client : WlRpcClient) (handle : WlRpcClientHandle) :
    WlRpcClient × WlRpcErr :=
  match clientHandleIndex client handle with
  | .error err => (client, err)
  | .ok index => releaseSlot client index

end Wirelink
