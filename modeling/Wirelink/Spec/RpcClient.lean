/-
Module: Wirelink.Spec.RpcClient
Purpose: An RPC client under any sequence of calls of its owner: which calls change it, when an
  operation is retained, which call releases it or gives it its response, and what a handle may be
  used for. An authority is opaque to the owner, so a response is committed with one that an earlier
  prepare of the same run has granted.
Trusted boundary: the choice of operations; all behaviour is in the modules below
-/
import Wirelink.Core.RpcClient

namespace Wirelink

/-! ### Runs -/

/-- One call of a client. Calls that only read have no operation; `responseCommit` names the authority
by its place among those granted so far. -/
inductive ClientOp where
  | beginWithId (operationId : UInt32) (requestMessageId responseMessageId : UInt16)
      (timeoutMs nowMs : UInt32)
  | begin (requestMessageId responseMessageId : UInt16) (timeoutMs nowMs : UInt32)
  | bindTx (operationId txHandle : UInt32)
  | txCompleted (operationId : UInt32)
  | linkFailed (operationId : UInt32) (linkResult : Int32)
  | onTxEvent (event : TxEvent)
  | poll (nowMs : UInt32)
  | cancel (operationId : UInt32)
  | release (operationId : UInt32)
  | responsePrepare (requestMessageId responseMessageId : UInt16) (operationId nowMs : UInt32)
  | responseCommit (grant : Nat) (applicationStatus : Int32) (nowMs : UInt32)
  | cancelHandle (handle : WlRpcClientHandle)
  | releaseHandle (handle : WlRpcClientHandle)
deriving Repr, DecidableEq

/-- An authority with the response that it was granted for. -/
structure ResponseGrant where
  authority : WlRpcClientHandle
  requestMessageId : UInt16
  responseMessageId : UInt16
  operationId : UInt32
  nowMs : UInt32
deriving Repr, DecidableEq

/-- A client and the authorities its owner holds. -/
structure ClientSession where
  client : WlRpcClient
  grants : List ResponseGrant

namespace ClientSession

/-- The owner keeps the authority a prepare has granted. -/
def prepare (session : ClientSession) (requestMessageId responseMessageId : UInt16)
    (operationId nowMs : UInt32) : ClientSession :=
  match wlRpcClientResponsePrepare session.client requestMessageId responseMessageId operationId
      nowMs with
  | (client, .error _) => { session with client := client }
  | (client, .ok (authority, _)) =>
    { client := client
      grants := session.grants ++
        [{ authority := authority, requestMessageId := requestMessageId
           responseMessageId := responseMessageId, operationId := operationId, nowMs := nowMs }] }

/-- The owner commits a response with an authority it holds. -/
def commit (session : ClientSession) (grant : Nat) (applicationStatus : Int32) (nowMs : UInt32) :
    ClientSession :=
  match session.grants[grant]? with
  | none => session
  | some granted =>
    { session with
      client :=
        (wlRpcClientResponseCommit session.client granted.authority applicationStatus nowMs).1 }

/-- The session after one call. -/
def step (session : ClientSession) : ClientOp → ClientSession
  | .beginWithId operationId requestMessageId responseMessageId timeoutMs nowMs =>
    { session with
      client := (wlRpcClientBeginWithId session.client operationId requestMessageId
        responseMessageId timeoutMs nowMs).1 }
  | .begin requestMessageId responseMessageId timeoutMs nowMs =>
    { session with
      client := (wlRpcClientBegin session.client requestMessageId responseMessageId timeoutMs
        nowMs).1 }
  | .bindTx operationId txHandle =>
    { session with client := (wlRpcClientBindTx session.client operationId txHandle).1 }
  | .txCompleted operationId =>
    { session with client := (wlRpcClientTxCompleted session.client operationId).1 }
  | .linkFailed operationId linkResult =>
    { session with client := (wlRpcClientLinkFailed session.client operationId linkResult).1 }
  | .onTxEvent event => { session with client := (wlRpcClientOnTxEvent session.client event).1 }
  | .poll nowMs => { session with client := (wlRpcClientPoll session.client nowMs).1 }
  | .cancel operationId =>
    { session with client := (wlRpcClientCancel session.client operationId).1 }
  | .release operationId =>
    { session with client := (wlRpcClientRelease session.client operationId).1 }
  | .responsePrepare requestMessageId responseMessageId operationId nowMs =>
    session.prepare requestMessageId responseMessageId operationId nowMs
  | .responseCommit grant applicationStatus nowMs => session.commit grant applicationStatus nowMs
  | .cancelHandle handle =>
    { session with client := (wlRpcClientCancelHandle session.client handle).1 }
  | .releaseHandle handle =>
    { session with client := (wlRpcClientReleaseHandle session.client handle).1 }

/-- The operation id a call returns to its owner, if it is a `wl_rpc_client_begin` that succeeds. -/
def begunId (session : ClientSession) : ClientOp → Option UInt32
  | .begin requestMessageId responseMessageId timeoutMs nowMs =>
    (wlRpcClientBegin session.client requestMessageId responseMessageId timeoutMs nowMs).2.toOption
  | _ => none

end ClientSession

/-- The session after a sequence of calls. -/
def runClient (session : ClientSession) (ops : List ClientOp) : ClientSession :=
  ops.foldl ClientSession.step session

/-- The operation ids that `wl_rpc_client_begin` returns in the course of a run, in order. -/
def begunIds (session : ClientSession) : List ClientOp → List UInt32
  | [] => []
  | op :: ops => (session.begunId op).toList ++ begunIds (session.step op) ops

/-! ### Operations -/

/-- No two retained operations have the same id. -/
def DistinctOperations (client : WlRpcClient) : Prop :=
  ∀ first second, first < client.slotCount.toNat → second < client.slotCount.toNat →
    (client.slots first).state ≠ .free → (client.slots second).state ≠ .free →
    (client.slots first).operationId = (client.slots second).operationId → first = second

/-- The number of slots in use. -/
def retainedCount (client : WlRpcClient) : Nat :=
  (List.range client.slotCount.toNat).countP fun index => (client.slots index).state != .free

/-- A call releases the operation of a slot. -/
inductive ReleasesSlot (client : WlRpcClient) (index : Nat) : ClientOp → Prop where
  | byId {operationId : UInt32} (found : operationSlot client operationId = .ok index)
      (released : (wlRpcClientRelease client operationId).2 = .ok) :
      ReleasesSlot client index (.release operationId)
  | byHandle {handle : WlRpcClientHandle} (found : clientHandleIndex client handle = .ok index)
      (released : (wlRpcClientReleaseHandle client handle).2 = .ok) :
      ReleasesSlot client index (.releaseHandle handle)

/-- No call of a run releases the operation of a slot. -/
def NeverReleased (session : ClientSession) (ops : List ClientOp) (index : Nat) : Prop :=
  ∀ (count : Nat) (inside : count < ops.length),
    ¬ ReleasesSlot (runClient session (ops.take count)).client index ops[count]

/-- A slot keeps its operation in the course of a run. A slot gets another operation only after it
has been free, and no call both frees and fills a slot. -/
def RetainsOperation (session : ClientSession) (ops : List ClientOp) (index : Nat) : Prop :=
  ∀ count, ((runClient session (ops.take count)).client.slots index).state ≠ .free

/-- The states an operation enters with its response. -/
def WlRpcClientState.answered : WlRpcClientState → Bool
  | .completed | .applicationError => true
  | _ => false

/-- A time before the deadline of an operation. Times wrap; an operation without a timeout has no
deadline. -/
def BeforeDeadline (slot : RpcClientSlot) (nowMs : UInt32) : Prop :=
  slot.timeoutMs = 0 ∨ nowMs - slot.startedAt < slot.timeoutMs

/-- A call commits a response to the operation of a slot: the owner holds an authority that was
granted for this operation and its message ids, before its deadline, and commits it before its
deadline. -/
inductive AnsweredBy (session : ClientSession) (index : Nat) : ClientOp → Prop where
  | commit {grant : Nat} {granted : ResponseGrant} {applicationStatus : Int32} {nowMs : UInt32}
      (held : session.grants[grant]? = some granted)
      (place : clientHandleIndex session.client granted.authority = .ok index)
      (operation : granted.operationId = (session.client.slots index).operationId)
      (request : granted.requestMessageId = (session.client.slots index).requestMessageId)
      (response : granted.responseMessageId = (session.client.slots index).responseMessageId)
      (prepared : BeforeDeadline (session.client.slots index) granted.nowMs)
      (committed : BeforeDeadline (session.client.slots index) nowMs) :
      AnsweredBy session index (.responseCommit grant applicationStatus nowMs)

/-! ### Handles -/

/-- The owner can obtain a handle, or a response authority, for the operation of a slot. -/
inductive Obtained (client : WlRpcClient) (index : Nat) (handle : WlRpcClientHandle) : Prop where
  | byId {operationId : UInt32} (found : operationSlot client operationId = .ok index)
      (obtained : wlRpcClientGetHandle client operationId = .ok handle)
  | byResponse {requestMessageId responseMessageId : UInt16} {operationId nowMs : UInt32}
      (granted : (wlRpcClientResponsePrepare client requestMessageId responseMessageId operationId
        nowMs).2 = .ok (handle, index))

/-- A handle reads and changes nothing but the operation of one slot. -/
structure ConfinedTo (client : WlRpcClient) (handle : WlRpcClientHandle) (index : Nat) : Prop where
  state : wlRpcClientStateByHandle client handle = .ok (client.slots index).state
  result : wlRpcClientGetByHandle client handle = .ok (clientResult (client.slots index) index)
  cancel : ∀ other, other ≠ index →
    (wlRpcClientCancelHandle client handle).1.slots other = client.slots other
  release : ∀ other, other ≠ index →
    (wlRpcClientReleaseHandle client handle).1.slots other = client.slots other
  commit : ∀ applicationStatus nowMs other, other ≠ index →
    (wlRpcClientResponseCommit client handle applicationStatus nowMs).1.slots other =
      client.slots other

/-- Every call with a handle is refused and changes nothing. -/
structure RefusesHandle (client : WlRpcClient) (handle : WlRpcClientHandle) (err : WlRpcErr) :
    Prop where
  failed : err ≠ .ok
  state : wlRpcClientStateByHandle client handle = .error err
  result : wlRpcClientGetByHandle client handle = .error err
  cancel : wlRpcClientCancelHandle client handle = (client, err)
  release : wlRpcClientReleaseHandle client handle = (client, err)
  commit : ∀ applicationStatus nowMs,
    wlRpcClientResponseCommit client handle applicationStatus nowMs = (client, err)

/-! ### A small client -/

/-- A client with one slot. -/
def smallClient : WlRpcClient :=
  { address := 0, slots := fun _ => .zero, nextGeneration := 1, nextOperationId := 1
    slotCount := 1, allocatedCount := 0 }

/-- An operation is begun, sent and answered. -/
def smallCalls : List ClientOp :=
  [.begin 1 2 10 5, .txCompleted 1, .responsePrepare 1 2 1 6, .responseCommit 0 0 7]

/-- It is released, and its slot is used again. -/
def smallReuse : List ClientOp :=
  [.release 1, .begin 1 2 10 8]

end Wirelink
