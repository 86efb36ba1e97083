/-
Module: Wirelink.Proofs.RpcClient
Purpose: What one call makes of an RPC client: operations go on, one is begun in a free slot, or a
  terminal one is released. Every call of the client is one of these moves, and each move keeps the
  invariant that ties the slot table to the counters of the client.
Trusted boundary: none
-/
import Wirelink.Lib.Slots
import Wirelink.Spec.RpcClient

namespace Wirelink

/-! ### Moves

A call lets operations go on, begins one in a free slot, or releases one that is terminal. -/

/-- An operation that is still waiting goes on: what identifies it stays, and it gets its response
only from a commit in time with the authority of its slot. -/
structure Progress (answer : Option (WlRpcClientHandle × UInt32)) (index : Nat)
    (before after : RpcClientSlot) : Prop where
  waiting : clientWaiting before.state = true
  used : after.state ≠ .free
  generation : after.generation = before.generation
  operationId : after.operationId = before.operationId
  startedAt : after.startedAt = before.startedAt
  timeoutMs : after.timeoutMs = before.timeoutMs
  requestMessageId : after.requestMessageId = before.requestMessageId
  responseMessageId : after.responseMessageId = before.responseMessageId
  answered : after.state.answered = true → ∃ authority nowMs,
    answer = some (authority, nowMs) ∧ authority.index = index ∧
      authority.generation = before.generation ∧
      elapsed nowMs before.startedAt before.timeoutMs = false

/-- The slot of an operation that has just been begun. -/
def begunSlot (client : WlRpcClient) (operationId : UInt32)
    (requestMessageId responseMessageId : UInt16) (timeoutMs nowMs : UInt32) : RpcClientSlot :=
  { RpcClientSlot.zero with
    generation := client.nextGeneration, operationId := operationId
    requestMessageId := requestMessageId, responseMessageId := responseMessageId
    startedAt := nowMs, timeoutMs := timeoutMs, state := .queued }

/-- The ids that begins may still choose are not below this bound; when the counter has come to zero
again, there is none. -/
def idBound (client : WlRpcClient) : Nat :=
  if client.nextOperationId = 0 then 2 ^ 32 else client.nextOperationId.toNat

/-- What a call can make of a client. The call may commit a response with an authority, and may
release the slots of `frees`. -/
inductive ClientMove (answer : Option (WlRpcClientHandle × UInt32)) (frees : Nat → Prop)
    (client : WlRpcClient) : WlRpcClient → Prop where
  | progressed {slots : Nat → RpcClientSlot}
      (each : ∀ index, slots index = client.slots index ∨
        Progress answer index (client.slots index) (slots index)) :
      ClientMove answer frees client { client with slots := slots }
  | begun {index : Nat} {operationId : UInt32} {requestMessageId responseMessageId : UInt16}
      {timeoutMs nowMs nextOperationId : UInt32} (identified : operationId ≠ 0)
      (generations : client.nextGeneration ≠ 0)
      (fresh : ∀ other, other < client.slotCount.toNat → (client.slots other).state ≠ .free →
        (client.slots other).operationId ≠ operationId)
      (inside : index < client.slotCount.toNat) (free : (client.slots index).state = .free)
      (advanced : nextOperationId = client.nextOperationId ∨
        nextOperationId = operationId + 1 ∧ idBound client ≤ operationId.toNat) :
      ClientMove answer frees client
        { client.setSlot index
            (begunSlot client operationId requestMessageId responseMessageId timeoutMs nowMs) with
          nextGeneration := client.nextGeneration + 1
          allocatedCount := client.allocatedCount + 1
          nextOperationId := nextOperationId }
  | released {index : Nat} (inside : index < client.slotCount.toNat)
      (terminal : clientTerminal (client.slots index).state = true) (freed : frees index) :
      ClientMove answer frees client (client.freeSlot index)

section moves

variable {client after : WlRpcClient} {answer : Option (WlRpcClientHandle × UInt32)}
  {frees : Nat → Prop} {index : Nat}

theorem ClientMove.kept : ClientMove answer frees client client :=
  .progressed fun _ => .inl rfl

variable {slot : RpcClientSlot} {operationId timeoutMs nowMs : UInt32} {handle : WlRpcClientHandle}
  {requestMessageId responseMessageId : UInt16}

theorem ClientMove.moved (progress : Progress answer index (client.slots index) slot) :
    ClientMove answer frees client (client.setSlot index slot) := by
  refine .progressed fun other => ?_
  by_cases same : other = index
  · subst same
    rw [Function.update_self]
    exact .inr progress
  · exact .inl (Function.update_of_ne same _ _)

theorem Progress.onward {before after : RpcClientSlot}
    (waiting : clientWaiting before.state = true) (used : after.state ≠ .free)
    (open' : after.state.answered = false)
    (same : after = { before with
      txHandle := after.txHandle, linkResult := after.linkResult, state := after.state
      linkDeliveryConfirmed := after.linkDeliveryConfirmed }) :
    Progress answer index before after where
  waiting := waiting
  used := used
  generation := by rw [same]
  operationId := by rw [same]
  startedAt := by rw [same]
  timeoutMs := by rw [same]
  requestMessageId := by rw [same]
  responseMessageId := by rw [same]
  answered given := nomatch open'.symm.trans given

theorem clientWaiting_iff {state : WlRpcClientState} :
    clientWaiting state = true ↔ clientTerminal state = false ∧ state ≠ .free := by
  cases state <;> decide

theorem clientWaiting_of_awaitsResponse {state : WlRpcClientState}
    (awaits : awaitsResponse state = true) : clientWaiting state = true := by
  revert awaits
  cases state <;> decide

/-! ### Lookups -/

theorem clientFind_some (found : clientFind client operationId = some index) :
    index < client.slotCount.toNat ∧ (client.slots index).state ≠ .free ∧
      (client.slots index).operationId = operationId := by
  obtain ⟨holds, member, -⟩ := List.find?_range_eq_some.mp found
  rw [Bool.and_eq_true, bne_iff_ne, beq_iff_eq] at holds
  exact ⟨List.mem_range.mp member, holds⟩

theorem clientFind_none (missing : clientFind client operationId = none) {other : Nat}
    (inside : other < client.slotCount.toNat) (used : (client.slots other).state ≠ .free) :
    (client.slots other).operationId ≠ operationId := by
  intro same
  have fails := List.find?_eq_none.mp missing other (List.mem_range.mpr inside)
  rw [Bool.and_eq_true, bne_iff_ne, beq_iff_eq] at fails
  exact fails ⟨used, same⟩

theorem clientFindFree_some (found : clientFindFree client = some index) :
    index < client.slotCount.toNat ∧ (client.slots index).state = .free := by
  obtain ⟨holds, member, -⟩ := List.find?_range_eq_some.mp found
  exact ⟨List.mem_range.mp member, beq_iff_eq.mp holds⟩

theorem operationSlot_ok (found : operationSlot client operationId = .ok index) :
    index < client.slotCount.toNat ∧ (client.slots index).state ≠ .free ∧
      (client.slots index).operationId = operationId := by
  unfold operationSlot at found
  split at found
  · exact nomatch found
  · split at found
    · exact nomatch found
    · rename_i hit
      cases found
      exact clientFind_some hit

theorem clientHandleIndex_ok (found : clientHandleIndex client handle = .ok index) :
    handle.index = index ∧ index < client.slotCount.toNat ∧
      (client.slots index).state ≠ .free ∧
      (client.slots index).generation = handle.generation := by
  unfold clientHandleIndex at found
  split at found
  · exact nomatch found
  · rename_i valid
    split at found
    · exact nomatch found
    · rename_i live
      cases found
      simp only [not_or, Decidable.not_not, ge_iff_le, Nat.not_le] at valid live
      exact ⟨rfl, valid.2.2, live⟩

theorem clientHandleIndex_eq (owner : handle.owner = client.address) (place : handle.index = index)
    (inside : index < client.slotCount.toNat) (real : handle.generation ≠ 0)
    (used : (client.slots index).state ≠ .free)
    (same : (client.slots index).generation = handle.generation) :
    clientHandleIndex client handle = .ok index := by
  subst place
  unfold clientHandleIndex
  rw [if_neg, if_neg]
  · exact fun stale => stale.elim used (· same)
  · rintro (other | null | outside)
    · exact other owner
    · exact real null
    · exact Nat.not_le.mpr inside outside

/-! ### Calls

Each call is one of the moves. The counters of generations and of ids only go up; once one has come
to zero, it gives out nothing more. -/

theorem beginWithId_cases {err : WlRpcErr}
    (called : wlRpcClientBeginWithId client operationId requestMessageId responseMessageId timeoutMs
      nowMs = (after, err)) :
    (after = client ∧ err ≠ .ok) ∨
      err = .ok ∧ operationId ≠ 0 ∧ client.nextGeneration ≠ 0 ∧
        clientFind client operationId = none ∧ ∃ index, clientFindFree client = some index ∧
        after = { client.setSlot index (begunSlot client operationId requestMessageId
            responseMessageId timeoutMs nowMs) with
          nextGeneration := client.nextGeneration + 1
          allocatedCount := client.allocatedCount + 1 } := by
  unfold wlRpcClientBeginWithId at called
  split at called
  · cases called
    exact .inl ⟨rfl, nofun⟩
  · rename_i valid
    split at called
    · cases called
      exact .inl ⟨rfl, nofun⟩
    · rename_i generations
      split at called
      · cases called
        exact .inl ⟨rfl, nofun⟩
      · rename_i unknown
        split at called
        · cases called
          exact .inl ⟨rfl, nofun⟩
        · rename_i target room
          cases called
          rw [Bool.not_eq_true, Option.isSome_eq_false_iff, Option.isNone_iff_eq_none] at unknown
          exact .inr ⟨rfl, fun null => valid (.inl null), generations, unknown, target, room, rfl⟩

theorem beginWithId_move :
    ClientMove answer frees client
      (wlRpcClientBeginWithId client operationId requestMessageId responseMessageId timeoutMs
        nowMs).1 := by
  rcases beginWithId_cases (Prod.eta _).symm with
    ⟨same, -⟩ | ⟨-, identified, generations, unknown, target, room, begun⟩
  · rw [same]
    exact .kept
  · rw [begun]
    exact .begun identified generations (fun _ inside used => clientFind_none unknown inside used)
      (clientFindFree_some room).1 (clientFindFree_some room).2 (.inl rfl)

/-- A counter wraps to zero or goes up by one. -/
theorem uint32_succ_cases (value : UInt32) :
    value + 1 = 0 ∧ value.toNat + 1 = 2 ^ 32 ∨
      value + 1 ≠ 0 ∧ (value + 1).toNat = value.toNat + 1 := by
  have small := value.toNat_lt
  have sum : (value + 1).toNat = (value.toNat + 1) % 2 ^ 32 := UInt32.toNat_add _ _
  rw [ne_eq, ← UInt32.toNat_inj, sum, show (0 : UInt32).toNat = 0 from rfl]
  omega

@[inherit_doc uint32_succ_cases]
theorem uint64_succ_cases (value : UInt64) :
    value + 1 = 0 ∧ value.toNat + 1 = 2 ^ 64 ∨
      value + 1 ≠ 0 ∧ (value + 1).toNat = value.toNat + 1 := by
  have small := value.toNat_lt
  have sum : (value + 1).toNat = (value.toNat + 1) % 2 ^ 64 := UInt64.toNat_add _ _
  rw [ne_eq, ← UInt64.toNat_inj, sum, show (0 : UInt64).toNat = 0 from rfl]
  omega

theorem idBound_succ (next : after.nextOperationId = operationId + 1) :
    idBound after = operationId.toNat + 1 := by
  unfold idBound
  rw [next]
  rcases uint32_succ_cases operationId with ⟨zero, wraps⟩ | ⟨real, sum⟩
  · rw [if_pos zero, wraps]
  · rw [if_neg real, sum]

theorem beginCandidate_le {attempts : Nat} {start candidate : UInt32}
    (chosen : beginCandidate client attempts start = .ok candidate) :
    start ≠ 0 ∧ start.toNat ≤ candidate.toNat := by
  induction attempts generalizing start with
  | zero => exact nomatch chosen
  | succ attempts ih =>
    unfold beginCandidate at chosen
    split at chosen
    · exact nomatch chosen
    · rename_i real
      refine ⟨real, ?_⟩
      split at chosen
      · cases chosen
        exact Nat.le_refl _
      · obtain ⟨unwrapped, _⟩ := ih chosen
        rcases uint32_succ_cases start with ⟨zero, -⟩ | ⟨-, _⟩
        · exact absurd zero unwrapped
        · omega

theorem begin_cases {result : Except WlRpcErr UInt32}
    (called : wlRpcClientBegin client requestMessageId responseMessageId timeoutMs nowMs =
      (after, result)) :
    (after = client ∧ ∃ err, result = .error err) ∨
      ∃ candidate, result = .ok candidate ∧
        beginCandidate client (client.slotCount.toNat + 1) client.nextOperationId = .ok candidate ∧
        ∃ begun, wlRpcClientBeginWithId client candidate requestMessageId responseMessageId timeoutMs
            nowMs = (begun, .ok) ∧
          after = { begun with nextOperationId := candidate + 1 } := by
  unfold wlRpcClientBegin at called
  split at called
  · cases called
    exact .inl ⟨rfl, _, rfl⟩
  · rename_i candidate chosen
    split at called
    · rename_i begun accepted
      cases called
      exact .inr ⟨candidate, rfl, chosen, begun, accepted, rfl⟩
    · rename_i begun err refusal refused
      cases called
      rcases beginWithId_cases refused with ⟨same, -⟩ | ⟨accepted, -⟩
      · exact .inl ⟨same, _, rfl⟩
      · exact absurd accepted (refusal)

theorem clientBegin_move :
    ClientMove answer frees client
      (wlRpcClientBegin client requestMessageId responseMessageId timeoutMs nowMs).1 := by
  rcases begin_cases (Prod.eta _).symm with
    ⟨same, -⟩ | ⟨candidate, -, chosen, begun, accepted, ended⟩
  · rw [same]
    exact .kept
  · rw [ended]
    rcases beginWithId_cases accepted with
      ⟨-, failed⟩ | ⟨-, identified, generations, unknown, target, room, rfl⟩
    · exact absurd rfl failed
    · obtain ⟨real, above⟩ := beginCandidate_le chosen
      exact .begun identified generations (fun _ inside used => clientFind_none unknown inside used)
        (clientFindFree_some room).1 (clientFindFree_some room).2
        (.inr ⟨rfl, Nat.le_trans (Nat.le_of_eq (if_neg real)) above⟩)

theorem bindTx_move {txHandle : UInt32} :
    ClientMove answer frees client (wlRpcClientBindTx client operationId txHandle).1 := by
  unfold wlRpcClientBindTx
  split
  · exact .kept
  · split
    · exact .kept
    · rename_i index found
      split
      · exact .kept
      · rename_i queued
        rw [ne_eq, Decidable.not_not] at queued
        split
        · exact .kept
        · exact .moved (.onward (by rw [queued]; rfl) nofun rfl rfl)

theorem txCompleted_move :
    ClientMove answer frees client (wlRpcClientTxCompleted client operationId).1 := by
  unfold wlRpcClientTxCompleted
  split
  · exact .kept
  · rename_i index found
    split
    · exact .kept
    · rename_i queued
      rw [ne_eq, Decidable.not_not] at queued
      exact .moved (.onward (by rw [queued]; rfl) nofun rfl rfl)

theorem linkFailed_move {linkResult : Int32} :
    ClientMove answer frees client (wlRpcClientLinkFailed client operationId linkResult).1 := by
  unfold wlRpcClientLinkFailed
  split
  · exact .kept
  · split
    · exact .kept
    · rename_i index found
      split
      · exact .kept
      · rename_i open'
        refine .moved (.onward ?_ nofun rfl rfl)
        rw [not_and_or, ne_eq, ne_eq, Decidable.not_not, Decidable.not_not] at open'
        rcases open' with queued | pending
        · rw [queued]
          rfl
        · rw [pending]
          rfl

theorem linkSettled_progress {event : TxEvent} (pending : slot.state = .linkPending) :
    Progress answer index slot (linkSettled slot event) := by
  unfold linkSettled
  have waiting : clientWaiting slot.state = true := by
    rw [pending]
    rfl
  split
  · exact .onward waiting nofun rfl rfl
  · exact .onward waiting nofun rfl rfl

theorem onTxEvent_move {event : TxEvent} :
    ClientMove answer frees client (wlRpcClientOnTxEvent client event).1 := by
  unfold wlRpcClientOnTxEvent
  split
  · exact .kept
  · split
    · exact .kept
    · rename_i index found
      have holds := (List.find?_range_eq_some.mp found).1
      rw [Bool.and_eq_true, beq_iff_eq] at holds
      exact .moved (linkSettled_progress holds.1)

theorem Progress.timedOut (waiting : clientWaiting slot.state = true) :
    Progress answer index slot { slot with state := .timedOut } :=
  .onward waiting nofun rfl rfl

theorem clientPoll_move :
    ClientMove answer frees client (wlRpcClientPoll client nowMs).1 := by
  unfold wlRpcClientPoll
  split
  · exact .kept
  · refine .progressed fun index => ?_
    split
    · rename_i late
      exact .inr (.timedOut (Bool.and_eq_true_iff.mp late.2).1)
    · exact .inl rfl

theorem cancelSlot_move (used : (client.slots index).state ≠ .free) :
    ClientMove answer frees client (cancelSlot client index).1 := by
  unfold cancelSlot
  split
  · exact .kept
  · rename_i terminal
    exact .moved (.onward (clientWaiting_iff.mpr ⟨Bool.not_eq_true _ ▸ terminal, used⟩) nofun rfl rfl)

theorem releaseSlot_move (inside : index < client.slotCount.toNat)
    (freed : (releaseSlot client index).2 = .ok → frees index) :
    ClientMove answer frees client (releaseSlot client index).1 := by
  by_cases terminal : clientTerminal (client.slots index).state = true
  · have eq : releaseSlot client index = (client.freeSlot index, .ok) := if_neg (not_not.mpr terminal)
    rw [eq]
    exact .released inside terminal (freed (congrArg Prod.snd eq))
  · have eq : releaseSlot client index = (client, .invalidState) := if_pos terminal
    rw [eq]
    exact .kept

theorem cancel_move :
    ClientMove answer frees client (wlRpcClientCancel client operationId).1 := by
  unfold wlRpcClientCancel
  split
  · exact .kept
  · rename_i index found
    exact cancelSlot_move (operationSlot_ok found).2.1

theorem cancelHandle_move :
    ClientMove answer frees client (wlRpcClientCancelHandle client handle).1 := by
  unfold wlRpcClientCancelHandle
  split
  · exact .kept
  · rename_i index found
    exact cancelSlot_move (clientHandleIndex_ok found).2.2.1

theorem release_move :
    ClientMove answer (ReleasesSlot client · (.release operationId)) client
      (wlRpcClientRelease client operationId).1 := by
  cases found : operationSlot client operationId with
  | error err =>
    have eq : wlRpcClientRelease client operationId = (client, err) := by
      unfold wlRpcClientRelease
      rw [found]
    rw [eq]
    exact .kept
  | ok index =>
    have eq : wlRpcClientRelease client operationId = releaseSlot client index := by
      unfold wlRpcClientRelease
      rw [found]
    rw [eq]
    exact releaseSlot_move (operationSlot_ok found).1 fun released =>
      .byId found (eq ▸ released)

theorem releaseHandle_move :
    ClientMove answer (ReleasesSlot client · (.releaseHandle handle)) client
      (wlRpcClientReleaseHandle client handle).1 := by
  cases found : clientHandleIndex client handle with
  | error err =>
    have eq : wlRpcClientReleaseHandle client handle = (client, err) := by
      unfold wlRpcClientReleaseHandle
      rw [found]
    rw [eq]
    exact .kept
  | ok index =>
    have eq : wlRpcClientReleaseHandle client handle = releaseSlot client index := by
      unfold wlRpcClientReleaseHandle
      rw [found]
    rw [eq]
    exact releaseSlot_move (clientHandleIndex_ok found).2.1 fun released =>
      .byHandle found (eq ▸ released)

/-- A prepare grants the authority of an operation that waits for just this response, or grants none. -/
theorem responsePrepare_cases {requestMessageId responseMessageId : UInt16}
    {operationId nowMs : UInt32} {result : Except WlRpcErr (WlRpcClientHandle × Nat)}
    (called : wlRpcClientResponsePrepare client requestMessageId responseMessageId operationId
      nowMs = (after, result)) :
    (ClientMove answer frees client after ∧ ∃ err, result = .error err) ∨
      after = client ∧ ∃ index, result = .ok (client.handleOf index, index) ∧
        operationSlot client operationId = .ok index ∧
        (client.slots index).requestMessageId = requestMessageId ∧
        (client.slots index).responseMessageId = responseMessageId ∧
        elapsed nowMs (client.slots index).startedAt (client.slots index).timeoutMs = false := by
  unfold wlRpcClientResponsePrepare at called
  split at called
  · cases called
    exact .inl ⟨.kept, _, rfl⟩
  · split at called
    · cases called
      exact .inl ⟨.kept, _, rfl⟩
    · rename_i index found
      dsimp only at called
      split at called
      · cases called
        exact .inl ⟨.kept, _, rfl⟩
      · rename_i matching
        split at called
        · cases called
          exact .inl ⟨.kept, _, rfl⟩
        · rename_i awaits
          rw [Decidable.not_not] at awaits
          split at called
          · cases called
            exact .inl ⟨.moved (.timedOut (clientWaiting_of_awaitsResponse awaits)), _, rfl⟩
          · rename_i early
            cases called
            rw [not_or, ne_eq, ne_eq, Decidable.not_not, Decidable.not_not] at matching
            exact .inr ⟨rfl, index, rfl, found, matching.1, matching.2,
              Bool.not_eq_true _ ▸ early⟩

theorem responsePrepare_move :
    ClientMove answer frees client
      (wlRpcClientResponsePrepare client requestMessageId responseMessageId operationId nowMs).1 := by
  rcases @responsePrepare_cases client _ answer frees _ _ _ _ _ (Prod.eta _).symm with
    ⟨move, -⟩ | ⟨same, -⟩
  · exact move
  · rw [same]
    exact .kept

theorem responseCommit_move {authority : WlRpcClientHandle} {applicationStatus : Int32} :
    ClientMove (some (authority, nowMs)) frees client
      (wlRpcClientResponseCommit client authority applicationStatus nowMs).1 := by
  unfold wlRpcClientResponseCommit
  split
  · exact .kept
  · rename_i index found
    dsimp only
    split
    · exact .kept
    · rename_i awaits
      rw [Decidable.not_not] at awaits
      have waiting := clientWaiting_of_awaitsResponse awaits
      split
      · exact .moved (.timedOut waiting)
      · rename_i early
        refine .moved ⟨waiting, ?_, rfl, rfl, rfl, rfl, rfl, rfl, fun _ => ?_⟩
        · dsimp only
          split <;> exact nofun
        · obtain ⟨place, -, -, generation⟩ := clientHandleIndex_ok found
          exact ⟨authority, nowMs, rfl, place, generation.symm, Bool.not_eq_true _ ▸ early⟩

/-! ### The invariant

A slot in use has an id and a generation of its own, both given out before. -/

/-- The generations given out so far are below this bound; when the counter has come to zero again,
all of them have been. -/
def generationBound (client : WlRpcClient) : Nat :=
  if client.nextGeneration = 0 then 2 ^ 64 else client.nextGeneration.toNat

/-- What holds in every state of a client. -/
structure ClientInv (client : WlRpcClient) : Prop where
  indexed : ∀ index, (client.slots index).state ≠ .free → index < client.slotCount.toNat
  distinct : DistinctOperations client
  issued : ∀ index, (client.slots index).state ≠ .free → (client.slots index).generation ≠ 0 ∧
    (client.slots index).generation.toNat < generationBound client
  counted : client.allocatedCount.toNat = retainedCount client

theorem generationBound_pos : 0 < generationBound client := by
  unfold generationBound
  split
  · exact Nat.two_pow_pos 64
  · rename_i real
    exact Nat.pos_of_ne_zero fun zero => real (UInt64.toNat_inj.mp zero)

theorem generationBound_succ (real : client.nextGeneration ≠ 0)
    (next : after.nextGeneration = client.nextGeneration + 1) :
    generationBound client + 1 = generationBound after := by
  have now : generationBound client = client.nextGeneration.toNat := if_neg real
  rw [now]
  unfold generationBound
  rw [next]
  rcases uint64_succ_cases client.nextGeneration with ⟨zero, wraps⟩ | ⟨later, sum⟩
  · rw [if_pos zero, wraps]
  · rw [if_neg later, sum]

/-- What a move makes of one slot. -/
inductive SlotMove (answer : Option (WlRpcClientHandle × UInt32)) (frees : Nat → Prop)
    (client after : WlRpcClient) (index : Nat) : Prop where
  | kept (same : after.slots index = client.slots index)
  | progressed (progress : Progress answer index (client.slots index) (after.slots index))
  | begun (inside : index < client.slotCount.toNat) (free : (client.slots index).state = .free)
      (generation : (after.slots index).generation.toNat = generationBound client)
      (bound : generationBound client + 1 = generationBound after)
      (queued : (after.slots index).state = .queued)
      (fresh : ∀ other, other < client.slotCount.toNat → other ≠ index →
        (after.slots other).state ≠ .free →
        (after.slots other).operationId ≠ (after.slots index).operationId)
  | released (inside : index < client.slotCount.toNat) (zero : after.slots index = .zero)
      (terminal : clientTerminal (client.slots index).state = true) (freed : frees index)

namespace ClientMove

variable (move : ClientMove answer frees client after)

include move

theorem address : after.address = client.address := by
  cases move <;> rfl

theorem slotCount : after.slotCount = client.slotCount := by
  cases move <;> rfl

theorem slotMove (index : Nat) : SlotMove answer frees client after index := by
  cases move with
  | progressed each =>
    rcases each index with same | progress
    · exact .kept same
    · exact .progressed progress
  | @begun target operationId requestMessageId responseMessageId timeoutMs nowMs _ _ generations fresh
      inside free =>
    by_cases same : index = target
    · subst same
      generalize begun : begunSlot client operationId requestMessageId responseMessageId timeoutMs
        nowMs = slot
      have place := Function.update_self index slot client.slots
      refine .begun inside free ?_ (generationBound_succ generations rfl) ?_ ?_
      · show (Function.update client.slots index slot index).generation.toNat = _
        rw [place, ← begun]
        exact (if_neg generations).symm
      · show (Function.update client.slots index slot index).state = .queued
        rw [place, ← begun]
        rfl
      · intro other otherInside apart
        have elsewhere := Function.update_of_ne apart slot client.slots
        show (Function.update client.slots index slot other).state ≠ _ →
          (Function.update client.slots index slot other).operationId ≠
            (Function.update client.slots index slot index).operationId
        rw [place, elsewhere, ← begun]
        exact fresh other otherInside
    · exact .kept (Function.update_of_ne same _ _)
  | @released target inside terminal freed =>
    by_cases same : index = target
    · subst same
      exact .released inside (Function.update_self _ _ _) terminal freed
    · exact .kept (Function.update_of_ne same _ _)

/-- The operation of a slot in use stays in it, or the slot becomes free by a release. -/
theorem slot_of_used (used : (client.slots index).state ≠ .free) :
    after.slots index = client.slots index ∨
      Progress answer index (client.slots index) (after.slots index) ∨
      after.slots index = .zero ∧ clientTerminal (client.slots index).state = true ∧
        frees index := by
  cases move.slotMove index with
  | kept same => exact .inl same
  | progressed progress => exact .inr (.inl progress)
  | begun _ free => exact absurd free used
  | released _ zero terminal freed => exact .inr (.inr ⟨zero, terminal, freed⟩)

/-- A slot that comes into use holds a queued operation of a generation that none had before. -/
theorem slot_of_free (free : (client.slots index).state = .free)
    (used : (after.slots index).state ≠ .free) :
    (after.slots index).generation.toNat = generationBound client ∧
      generationBound client + 1 = generationBound after ∧
      (after.slots index).state = .queued := by
  cases move.slotMove index with
  | kept same => exact absurd ((congrArg RpcClientSlot.state same).trans free) used
  | progressed progress => exact absurd free (clientWaiting_iff.mp progress.waiting).2
  | begun _ _ generation bound queued => exact ⟨generation, bound, queued⟩
  | released _ zero => exact absurd (congrArg RpcClientSlot.state zero) used

theorem generationBound_le : generationBound client ≤ generationBound after := by
  cases move with
  | progressed | released => exact Nat.le_refl _
  | begun _ generations =>
    exact Nat.le_trans (Nat.le_succ _) (Nat.le_of_eq (generationBound_succ generations rfl))

theorem idBound_le : idBound client ≤ idBound after := by
  cases move with
  | progressed | released => exact Nat.le_refl _
  | @begun _ operationId _ _ _ _ _ _ _ _ _ _ advanced =>
    rcases advanced with rfl | ⟨rfl, above⟩
    · exact Nat.le_refl _
    · exact Nat.le_trans (Nat.le_succ_of_le above) (Nat.le_of_eq (idBound_succ rfl).symm)

/-! #### Each part of the invariant -/

theorem indexed (inv : ClientInv client) (used : (after.slots index).state ≠ .free) :
    index < client.slotCount.toNat := by
  cases move.slotMove index with
  | kept same => exact inv.indexed index (same ▸ used)
  | progressed progress => exact inv.indexed index (clientWaiting_iff.mp progress.waiting).2
  | begun inside | released inside => exact inside

/-- An operation in use had its id before, or has just been begun with an id that no other has. -/
theorem operationId_cases (used : (after.slots index).state ≠ .free) :
    (client.slots index).state ≠ .free ∧
        (after.slots index).operationId = (client.slots index).operationId ∨
      ∀ other, other < client.slotCount.toNat → other ≠ index → (after.slots other).state ≠ .free →
        (after.slots other).operationId ≠ (after.slots index).operationId := by
  cases move.slotMove index with
  | kept same => exact .inl ⟨same ▸ used, congrArg _ same⟩
  | progressed progress =>
    exact .inl ⟨(clientWaiting_iff.mp progress.waiting).2, progress.operationId⟩
  | begun _ _ _ _ _ fresh => exact .inr fresh
  | released _ zero => exact absurd (congrArg RpcClientSlot.state zero) used

theorem distinct (inv : ClientInv client) : DistinctOperations after := by
  intro first second firstInside secondInside firstUsed secondUsed same
  rw [move.slotCount] at firstInside secondInside
  rcases move.operationId_cases firstUsed with ⟨firstOld, firstId⟩ | fresh
  · rcases move.operationId_cases secondUsed with ⟨secondOld, secondId⟩ | fresh
    · exact inv.distinct first second firstInside secondInside firstOld secondOld
        (firstId.symm.trans (same.trans secondId))
    · by_contra apart
      exact fresh first firstInside apart firstUsed same
  · by_contra apart
    exact fresh second secondInside (Ne.symm apart) secondUsed same.symm

theorem issued (inv : ClientInv client) (used : (after.slots index).state ≠ .free) :
    (after.slots index).generation ≠ 0 ∧
      (after.slots index).generation.toNat < generationBound after := by
  have grows := move.generationBound_le
  by_cases free : (client.slots index).state = .free
  · obtain ⟨fresh, bound, -⟩ := move.slot_of_free free used
    have positive := @generationBound_pos client
    refine ⟨fun zero => ?_, ?_⟩
    · rw [zero] at fresh
      exact absurd fresh.symm (Nat.ne_of_gt positive)
    · rw [fresh]
      exact Nat.lt_of_lt_of_eq (Nat.lt_succ_self _) bound
  · obtain ⟨real, below⟩ := inv.issued index free
    rcases move.slot_of_used free with same | progress | ⟨zero, -, -⟩
    · rw [same]
      exact ⟨real, Nat.lt_of_lt_of_le below grows⟩
    · rw [progress.generation]
      exact ⟨real, Nat.lt_of_lt_of_le below grows⟩
    · exact absurd (congrArg RpcClientSlot.state zero) used

end ClientMove

theorem retainedCount_le : retainedCount client ≤ client.slotCount.toNat := by
  exact Nat.le_trans (List.countP_le_length) (Nat.le_of_eq List.length_range)

theorem retainedCount_add (inside : index < client.slotCount.toNat)
    (free : (client.slots index).state = .free) (used : slot.state ≠ .free) :
    retainedCount (client.setSlot index slot) = retainedCount client + 1 := by
  refine Slots.countP_range_succ_of_added inside ?_ ?_ fun other apart => ?_
  · rw [free]
    rfl
  · show (Function.update client.slots index slot index).state != .free
    rw [Function.update_self, bne_iff_ne]
    exact used
  · show ((Function.update client.slots index slot other).state != .free) = _
    rw [Function.update_of_ne apart]

theorem retainedCount_free (inside : index < client.slotCount.toNat)
    (used : (client.slots index).state ≠ .free) :
    retainedCount client = retainedCount (client.freeSlot index) + 1 := by
  refine Slots.countP_range_succ_of_added inside ?_ (bne_iff_ne.mpr used) fun other apart => ?_
  · show ((Function.update client.slots index .zero index).state != .free) = false
    rw [Function.update_self]
    rfl
  · show _ = ((Function.update client.slots index .zero other).state != .free)
    rw [Function.update_of_ne apart]

theorem ClientMove.counted (move : ClientMove answer frees client after) (inv : ClientInv client) :
    after.allocatedCount.toNat = retainedCount after := by
  have counted := inv.counted
  cases move with
  | @progressed slots each =>
    refine counted.trans (List.countP_congr fun index _ => ?_)
    rcases each index with same | progress
    · exact iff_of_eq (congrArg (fun slot => (slot.state != .free) = true) same.symm)
    · rw [bne_iff_ne, bne_iff_ne]
      exact ⟨fun _ => progress.used, fun _ => (clientWaiting_iff.mp progress.waiting).2⟩
  | @begun target operationId requestMessageId responseMessageId timeoutMs nowMs _ _ _ _ inside
      free =>
      have more : retainedCount (client.setSlot target (begunSlot client operationId
          requestMessageId responseMessageId timeoutMs nowMs)) = retainedCount client + 1 :=
        retainedCount_add inside free nofun
      have room := @retainedCount_le (client.setSlot target (begunSlot client operationId
        requestMessageId responseMessageId timeoutMs nowMs))
      have small : client.slotCount.toNat < 2 ^ 16 := client.slotCount.toNat_lt
      change _ ≤ client.slotCount.toNat at room
      have sum : (client.allocatedCount + 1).toNat = (client.allocatedCount.toNat + 1) % 2 ^ 16 :=
        UInt16.toNat_add _ _
      refine Eq.trans ?_ more.symm
      show (client.allocatedCount + 1).toNat = _
      omega
  | @released target inside terminal _ =>
    have used : (client.slots target).state ≠ .free := by
      intro free
      rw [free] at terminal
      exact nomatch terminal
    have less := retainedCount_free inside used
    have positive : (1 : UInt16) ≤ client.allocatedCount := by
      rw [UInt16.le_iff_toNat_le, counted, less]
      exact Nat.succ_le_succ (Nat.zero_le _)
    show (client.allocatedCount - 1).toNat = _
    rw [UInt16.toNat_sub_of_le _ _ positive, counted, less]
    rfl

theorem ClientMove.inv (move : ClientMove answer frees client after) (inv : ClientInv client) :
    ClientInv after where
  indexed _ used := move.slotCount ▸ move.indexed inv used
  distinct := move.distinct inv
  issued _ used := move.issued inv used
  counted := move.counted inv

theorem clientInv_init {address : Nat} {slotCount : UInt16} {nextOperationId : UInt32}
    (initial : wlRpcClientInit address slotCount nextOperationId = .ok client) :
    ClientInv client := by
  unfold wlRpcClientInit at initial
  split at initial
  · exact nomatch initial
  · cases initial
    refine ⟨fun _ used => absurd rfl used, fun _ _ _ _ used => absurd rfl used,
      fun _ used => absurd rfl used, ?_⟩
    exact (List.countP_eq_zero.mpr fun _ _ => Bool.false_ne_true).symm

/-! ### Admission

The search tries one id more than there are slots, so it ends without one only if the counter comes
to zero first. -/

/-- A slot of the client holds an operation of this id. -/
def WlRpcClient.Retains (client : WlRpcClient) (operationId : UInt32) : Prop :=
  ∃ index, index < client.slotCount.toNat ∧ (client.slots index).state ≠ .free ∧
    (client.slots index).operationId = operationId

theorem retains_iff : client.Retains operationId ↔ clientFind client operationId ≠ none := by
  constructor
  · rintro ⟨index, inside, used, same⟩ missing
    exact clientFind_none missing inside used same
  · intro found
    obtain ⟨index, hit⟩ := Option.ne_none_iff_exists'.mp found
    exact ⟨index, clientFind_some hit⟩

theorem exists_unretained {start : Nat} (room : start + client.slotCount.toNat < 2 ^ 32) :
    ∃ operationId : UInt32, start ≤ operationId.toNat ∧
      operationId.toNat < start + (client.slotCount.toNat + 1) ∧ ¬ client.Retains operationId := by
  by_contra all
  push Not at all
  have slot (count : Nat) : ∃ index, count ≤ client.slotCount.toNat →
      index < client.slotCount.toNat ∧ (client.slots index).operationId.toNat = start + count := by
    by_cases inside : count ≤ client.slotCount.toNat
    · have place : (UInt32.ofNat (start + count)).toNat = start + count :=
        UInt32.toNat_ofNat_of_lt' (show start + count < 2 ^ 32 by omega)
      obtain ⟨index, bound, -, same⟩ := all (UInt32.ofNat (start + count)) (by omega) (by omega)
      exact ⟨index, fun _ => ⟨bound, by rw [same, place]⟩⟩
    · exact ⟨0, fun within => absurd within inside⟩
  choose index holds using slot
  obtain ⟨first, one, second, two, _, same⟩ :=
    @Finset.exists_ne_map_eq_of_card_lt_of_maps_to _ _ (Finset.range (client.slotCount.toNat + 1))
      (Finset.range client.slotCount.toNat) (by simp) index fun count inside =>
        Finset.mem_range.mpr (holds count (Nat.le_of_lt_succ (Finset.mem_range.mp inside))).1
  have left := (holds first (Nat.le_of_lt_succ (Finset.mem_range.mp one))).2
  have right := (holds second (Nat.le_of_lt_succ (Finset.mem_range.mp two))).2
  rw [same] at left
  omega

/-- What the search for an id has seen when it ends, by induction on the attempts left. -/
theorem beginCandidate_cases (attempts : Nat) (start : UInt32) :
    (∃ candidate, beginCandidate client attempts start = .ok candidate ∧
        clientFind client candidate = none) ∨
      (beginCandidate client attempts start = .error .idExhausted ∧ ∀ operationId : UInt32,
        start ≠ 0 → start.toNat ≤ operationId.toNat → client.Retains operationId) ∨
      beginCandidate client attempts start = .error .noSlot ∧
        (attempts ≠ 0 → start ≠ 0 ∧ start.toNat + attempts ≤ 2 ^ 32) ∧ ∀ operationId : UInt32,
        start.toNat ≤ operationId.toNat → operationId.toNat < start.toNat + attempts →
          client.Retains operationId := by
  induction attempts generalizing start with
  | zero => exact .inr (.inr ⟨rfl, fun some => absurd rfl some, fun _ above below => by omega⟩)
  | succ attempts ih =>
    unfold beginCandidate
    by_cases ended : start = 0
    · rw [if_pos ended]
      exact .inr (.inl ⟨rfl, fun _ real => absurd ended real⟩)
    rw [if_neg ended]
    by_cases missing : clientFind client start = none
    · rw [missing]
      exact .inl ⟨start, rfl, missing⟩
    have held : client.Retains start := retains_iff.mpr missing
    rw [if_neg (by rwa [Option.isNone_iff_eq_none])]
    -- an id from here on is this one or one from the next on
    have next {operationId : UInt32} (above : start.toNat ≤ operationId.toNat) :
        operationId = start ∨ start + 1 ≠ 0 ∧ (start + 1).toNat = start.toNat + 1 ∧
          (start + 1).toNat ≤ operationId.toNat := by
      have bound := operationId.toNat_lt
      by_cases same : operationId = start
      · exact .inl same
      have apart : operationId.toNat ≠ start.toNat := fun equal => same (UInt32.toNat_inj.mp equal)
      rcases uint32_succ_cases start with ⟨-, _⟩ | ⟨real, sum⟩
      · omega
      · exact .inr ⟨real, sum, by omega⟩
    rcases ih (start + 1) with chosen | ⟨exhausted, rest⟩ | ⟨full, room, rest⟩
    · exact .inl chosen
    · refine .inr (.inl ⟨exhausted, fun operationId _ above => ?_⟩)
      rcases next above with rfl | ⟨real, -, later⟩
      · exact held
      · exact rest operationId real later
    · refine .inr (.inr ⟨full, fun _ => ⟨ended, ?_⟩, fun operationId above below => ?_⟩)
      · by_cases last : attempts = 0
        · have small := start.toNat_lt
          omega
        · obtain ⟨real, _⟩ := room last
          rcases uint32_succ_cases start with ⟨zero, -⟩ | ⟨-, _⟩
          · exact absurd zero real
          · omega
      rcases next above with rfl | ⟨-, _, later⟩
      · exact held
      · exact rest operationId later (by omega)

/-- A begin with valid arguments fails only for want of a slot, a generation or an id, and then changes
nothing. -/
theorem client_admission_complete (client : WlRpcClient) (requestMessageId responseMessageId : UInt16)
    (timeoutMs nowMs : UInt32) (request : requestMessageId ≠ 0) (response : responseMessageId ≠ 0)
    (interval : intervalValid timeoutMs = true) :
    let result := wlRpcClientBegin client requestMessageId responseMessageId timeoutMs nowMs
    ((∃ index, index < client.slotCount.toNat ∧ (client.slots index).state = .free) →
        client.nextGeneration ≠ 0 →
        (∃ operationId : UInt32, idBound client ≤ operationId.toNat ∧
          operationId.toNat ≤ idBound client + client.slotCount.toNat ∧
          ¬ client.Retains operationId) →
        ∃ operationId, result.2 = .ok operationId) ∧
      (result.2 = .error .noSlot → client.nextGeneration = 0 ∨
        ∀ index, index < client.slotCount.toNat → (client.slots index).state ≠ .free) ∧
      (result.2 = .error .idExhausted →
        ∀ operationId : UInt32, idBound client ≤ operationId.toNat → client.Retains operationId) ∧
      ∀ err, result.2 = .error err → result.1 = client := by
  intro result
  have found : result = wlRpcClientBegin client requestMessageId responseMessageId timeoutMs nowMs :=
    rfl
  unfold wlRpcClientBegin at found
  rcases @beginCandidate_cases client (client.slotCount.toNat + 1) client.nextOperationId with
    ⟨candidate, chosen, missing⟩ | ⟨exhausted, all⟩ | ⟨full, room, all⟩
  · obtain ⟨real, above⟩ := beginCandidate_le chosen
    have nonzero : candidate ≠ 0 := by
      rintro rfl
      exact real (UInt32.toNat_inj.mp (Nat.le_zero.mp above))
    rw [chosen] at found
    dsimp only at found
    unfold wlRpcClientBeginWithId at found
    rw [if_neg (by simp [nonzero, request, response, interval]), missing] at found
    by_cases spent : client.nextGeneration = 0
    · rw [if_pos spent] at found
      rw [found]
      exact ⟨fun _ some => absurd spent some, fun _ => .inl spent, nofun, fun _ _ => rfl⟩
    rw [if_neg spent, if_neg (by decide)] at found
    cases free : clientFindFree client with
    | none =>
      have occupied (index : Nat) (inside : index < client.slotCount.toNat) :
          (client.slots index).state ≠ .free := by
        have fails := List.find?_eq_none.mp free index (List.mem_range.mpr inside)
        rwa [beq_iff_eq] at fails
      rw [free] at found
      rw [found]
      refine ⟨?_, fun _ => .inr occupied, nofun, fun _ _ => rfl⟩
      rintro ⟨index, inside, vacant⟩
      exact absurd vacant (occupied index inside)
    | some =>
      rw [free] at found
      rw [found]
      exact ⟨fun _ _ _ => ⟨candidate, rfl⟩, nofun, nofun, nofun⟩
  · rw [exhausted] at found
    have retained (operationId : UInt32) (above : idBound client ≤ operationId.toNat) :
        client.Retains operationId := by
      unfold idBound at above
      split at above
      · exact absurd operationId.toNat_lt (Nat.not_lt.mpr above)
      · rename_i real
        exact all operationId real above
    rw [found]
    refine ⟨?_, nofun, fun _ => retained, fun _ _ => rfl⟩
    rintro - - ⟨operationId, above, -, unretained⟩
    exact absurd (retained operationId above) unretained
  · -- no client has so many slots
    obtain ⟨operationId, above, below, unretained⟩ :=
      @exists_unretained client client.nextOperationId.toNat (by omega)
    exact absurd (all operationId above below) unretained

/-- A client of three slots, with operations of its next two ids. -/
def aheadClient : WlRpcClient :=
  let client := WlRpcClient.mk 0 (fun _ => .zero) 1 1 3 0
  (wlRpcClientBeginWithId (wlRpcClientBeginWithId client 1 1 2 10 0).1 2 1 2 10 0).1

theorem ahead_client_admits :
    aheadClient.nextOperationId = 1 ∧ aheadClient.Retains 1 ∧ aheadClient.Retains 2 ∧
      ∃ operationId, (wlRpcClientBegin aheadClient 1 2 10 0).2 = .ok operationId := by
  refine ⟨rfl, ⟨0, by decide, by decide, rfl⟩, ⟨1, by decide, by decide, rfl⟩, ?_⟩
  refine (client_admission_complete aheadClient 1 2 10 0 (by decide) (by decide) (by decide)).1
    ⟨2, by decide, rfl⟩ (by decide) ⟨3, by decide, by decide, ?_⟩
  rw [retains_iff]
  decide

end moves

end Wirelink
