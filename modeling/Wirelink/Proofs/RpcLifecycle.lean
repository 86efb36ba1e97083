/-
Module: Wirelink.Proofs.RpcLifecycle
Purpose: The life of an operation of an RPC client, over any sequence of calls: its id is its own, a
  terminal result stays until it is released, a response reaches it only in time and with an authority
  granted for it, and a handle never acts on another operation.
Trusted boundary: none
-/
import Wirelink.Proofs.RpcClient

namespace Wirelink

/-- The authority a call commits a response with, and the time of the call. -/
def ClientSession.answer (session : ClientSession) : ClientOp → Option (WlRpcClientHandle × UInt32)
  | .responseCommit grant _ nowMs =>
    (session.grants[grant]?).map fun granted => (granted.authority, nowMs)
  | _ => none

section session

variable {session : ClientSession} {op : ClientOp} {index : Nat}

theorem prepare_client {requestMessageId responseMessageId : UInt16} {operationId nowMs : UInt32} :
    (session.prepare requestMessageId responseMessageId operationId nowMs).client =
      (wlRpcClientResponsePrepare session.client requestMessageId responseMessageId operationId
        nowMs).1 := by
  unfold ClientSession.prepare
  split <;> rename_i called <;> exact (congrArg Prod.fst called).symm

theorem step_clientMove : ClientMove (session.answer op) (ReleasesSlot session.client · op)
    session.client (session.step op).client := by
  cases op with
  | beginWithId => exact beginWithId_move
  | begin => exact clientBegin_move
  | bindTx => exact bindTx_move
  | txCompleted => exact txCompleted_move
  | linkFailed => exact linkFailed_move
  | onTxEvent => exact onTxEvent_move
  | poll => exact clientPoll_move
  | cancel => exact cancel_move
  | release => exact release_move
  | responsePrepare requestMessageId responseMessageId operationId nowMs =>
    have client := @prepare_client session requestMessageId responseMessageId operationId nowMs
    show ClientMove _ _ _ (session.prepare _ _ _ _).client
    rw [client]
    exact responsePrepare_move
  | responseCommit grant =>
    show ClientMove ((session.grants[grant]?).map _) _ _ (session.commit _ _ _).client
    unfold ClientSession.commit
    cases session.grants[grant]? with
    | none => exact .kept
    | some => exact responseCommit_move
  | cancelHandle => exact cancelHandle_move
  | releaseHandle => exact releaseHandle_move

/-! ### Granted authorities

A session remembers the authorities it was granted. One of them stands for its operation as long as
that is retained. -/

theorem elapsed_eq_false_iff {slot : RpcClientSlot} {nowMs : UInt32} :
    elapsed nowMs slot.startedAt slot.timeoutMs = false ↔ BeforeDeadline slot nowMs := by
  unfold elapsed BeforeDeadline
  rw [Bool.and_eq_false_iff, bne_eq_false_iff_eq, decide_eq_false_iff_not, ge_iff_le,
    UInt32.not_le]

/-- An authority was granted for a response to the operation whose generation it has, as long as
that operation is retained. -/
structure GrantSound (client : WlRpcClient) (granted : ResponseGrant) : Prop where
  issued : granted.authority.generation.toNat < generationBound client
  operation : ∀ index, granted.authority.index = index → (client.slots index).state ≠ .free →
    (client.slots index).generation = granted.authority.generation →
    granted.operationId = (client.slots index).operationId ∧
      granted.requestMessageId = (client.slots index).requestMessageId ∧
      granted.responseMessageId = (client.slots index).responseMessageId ∧
      BeforeDeadline (client.slots index) granted.nowMs

variable {client : WlRpcClient} {granted : ResponseGrant} {operationId : UInt32}
  {ops : List ClientOp} {handle : WlRpcClientHandle}

theorem GrantSound.move {after : WlRpcClient} {answer : Option (WlRpcClientHandle × UInt32)}
    {frees : Nat → Prop} (sound : GrantSound client granted)
    (move : ClientMove answer frees client after) :
    GrantSound after granted where
  issued := Nat.lt_of_lt_of_le sound.issued move.generationBound_le
  operation index place used generation := by
    by_cases free : (client.slots index).state = .free
    · have fresh := (move.slot_of_free free used).1
      rw [generation] at fresh
      exact absurd fresh (Nat.ne_of_lt sound.issued)
    · rcases move.slot_of_used free with same | progress | ⟨zero, -, -⟩
      · rw [same] at generation ⊢
        exact sound.operation index place free generation
      · obtain ⟨operation, request, response, early⟩ :=
          sound.operation index place free (progress.generation.symm.trans generation)
        refine ⟨operation.trans progress.operationId.symm,
          request.trans progress.requestMessageId.symm,
          response.trans progress.responseMessageId.symm, ?_⟩
        unfold BeforeDeadline at early ⊢
        rw [progress.timeoutMs, progress.startedAt]
        exact early
      · exact absurd (congrArg RpcClientSlot.state zero) used

theorem prepare_grants (inv : ClientInv session.client)
    {requestMessageId responseMessageId : UInt16} {nowMs : UInt32} (member : granted ∈
      (session.prepare requestMessageId responseMessageId operationId nowMs).grants) :
    granted ∈ session.grants ∨
      GrantSound (session.prepare requestMessageId responseMessageId operationId nowMs).client
        granted := by
  unfold ClientSession.prepare at member ⊢
  split at member
  · exact .inl member
  · rename_i client authority place called
    rw [List.mem_append, List.mem_singleton] at member
    rcases member with old | rfl
    · exact .inl old
    · rcases @responsePrepare_cases session.client client none (fun _ => False) _ _ _ _ _ called with
        ⟨-, err, failed⟩ | ⟨same, index, result, found, request, response, early⟩
      · exact nomatch failed
      · rw [same]
        obtain ⟨rfl, rfl⟩ := Prod.mk.inj (Except.ok.inj result)
        obtain ⟨-, used, operation⟩ := operationSlot_ok found
        refine .inr ⟨(inv.issued _ used).2, ?_⟩
        rintro _ rfl - -
        exact ⟨operation.symm, request.symm, response.symm, elapsed_eq_false_iff.mp early⟩

/-- What holds in every state of a session. -/
structure SessionInv (session : ClientSession) : Prop where
  client : ClientInv session.client
  grants : ∀ granted, granted ∈ session.grants → GrantSound session.client granted

theorem step_grants (inv : ClientInv session.client) (member : granted ∈ (session.step op).grants) :
    granted ∈ session.grants ∨ GrantSound (session.step op).client granted := by
  cases op with
  | responsePrepare => exact prepare_grants inv member
  | responseCommit grant applicationStatus nowMs =>
    change granted ∈ (session.commit grant applicationStatus nowMs).grants at member
    unfold ClientSession.commit at member
    split at member <;> exact .inl member
  | _ => exact .inl member

theorem SessionInv.step (inv : SessionInv session) : SessionInv (session.step op) where
  client := step_clientMove.inv inv.client
  grants granted member := by
    rcases step_grants inv.client member with old | sound
    · exact (inv.grants granted old).move step_clientMove
    · exact sound

theorem SessionInv.run (inv : SessionInv session) (ops : List ClientOp) :
    SessionInv (runClient session ops) := by
  induction ops generalizing session with
  | nil => exact inv
  | cons op ops ih => exact ih inv.step

/-! ### Ids

The ids that begins may still choose only get fewer, so that each is returned once. -/

/-- A begin that succeeds returns an id that no earlier begin returned, and none may return again. -/
theorem begunId_bounds (begun : session.begunId op = some operationId) :
    idBound session.client ≤ operationId.toNat ∧
      operationId.toNat < idBound (session.step op).client := by
  cases op with
  | begin requestMessageId responseMessageId timeoutMs nowMs =>
    change (wlRpcClientBegin session.client requestMessageId responseMessageId timeoutMs
      nowMs).2.toOption = some operationId at begun
    show _ ∧ _ < idBound (wlRpcClientBegin session.client requestMessageId responseMessageId
      timeoutMs nowMs).1
    rcases begin_cases (Prod.eta (wlRpcClientBegin session.client requestMessageId
        responseMessageId timeoutMs nowMs)).symm with
      ⟨-, err, failed⟩ | ⟨candidate, result, chosen, _, -, ended⟩
    · rw [failed] at begun
      exact nomatch begun
    · rw [result] at begun
      obtain rfl := Option.some.inj begun
      obtain ⟨real, above⟩ := beginCandidate_le chosen
      refine ⟨Nat.le_trans (Nat.le_of_eq (if_neg real)) above, ?_⟩
      rw [ended, idBound_succ rfl]
      exact Nat.lt_succ_self _
  | _ => exact nomatch begun

theorem idBound_le_begunIds (member : operationId ∈ begunIds session ops) :
    idBound session.client ≤ operationId.toNat := by
  induction ops generalizing session with
  | nil => exact nomatch member
  | cons op ops ih =>
    rcases List.mem_append.mp member with now | later
    · exact (begunId_bounds (Option.mem_toList.mp now)).1
    · exact Nat.le_trans step_clientMove.idBound_le (ih later)

theorem begunIds_pairwise (ops : List ClientOp) :
    (begunIds session ops).Pairwise (· < ·) := by
  induction ops generalizing session with
  | nil => exact List.Pairwise.nil
  | cons op ops ih =>
    refine List.pairwise_append.mpr ⟨?_, ih, fun first now second later => ?_⟩
    · cases session.begunId op with
      | none => exact List.Pairwise.nil
      | some => exact List.pairwise_singleton _ _
    · exact UInt32.lt_iff_toNat_lt.mpr (Nat.lt_of_lt_of_le
        (begunId_bounds (Option.mem_toList.mp now)).2 (idBound_le_begunIds later))

/-! ### Terminal operations and responses

A terminal operation stays as it is until it is released. One that waits gets its response from a
commit in time and from nothing else. -/

theorem slot_of_terminal
    (terminal : clientTerminal (session.client.slots index).state = true)
    (held : ¬ ReleasesSlot session.client index op) :
    (session.step op).client.slots index = session.client.slots index := by
  have used : (session.client.slots index).state ≠ .free := by
    intro free
    rw [free] at terminal
    exact nomatch terminal
  rcases (@step_clientMove session op).slot_of_used used with same | progress | ⟨-, -, freed⟩
  · exact same
  · exact nomatch terminal.symm.trans (clientWaiting_iff.mp progress.waiting).1
  · exact absurd freed held

theorem run_slot_of_terminal (terminal : clientTerminal (session.client.slots index).state = true)
    (held : NeverReleased session ops index) :
    (runClient session ops).client.slots index = session.client.slots index := by
  induction ops generalizing session with
  | nil => rfl
  | cons op ops ih =>
    have now : (session.step op).client.slots index = session.client.slots index :=
      slot_of_terminal terminal (held 0 (Nat.zero_lt_succ _))
    have later := @ih (session.step op) (by rw [now]; exact terminal) fun count inside =>
      held (count + 1) (Nat.succ_lt_succ inside)
    exact later.trans now

theorem answeredBy_of_answered (inv : SessionInv session)
    (before : (session.client.slots index).state.answered = false)
    (answered : ((session.step op).client.slots index).state.answered = true) :
    AnsweredBy session index op := by
  have moved : (session.step op).client.slots index ≠ session.client.slots index := by
    intro same
    rw [same] at answered
    exact nomatch before.symm.trans answered
  have used : (session.client.slots index).state ≠ .free := by
    intro free
    have filled : ((session.step op).client.slots index).state ≠ .free := by
      intro empty
      rw [empty] at answered
      exact nomatch answered
    rw [((@step_clientMove session op).slot_of_free free filled).2.2] at answered
    exact nomatch answered
  rcases (@step_clientMove session op).slot_of_used used with same | progress | ⟨zero, -, -⟩
  · exact absurd same moved
  · obtain ⟨authority, nowMs, answer, place, generation, early⟩ := progress.answered answered
    cases op with
    | responseCommit grant applicationStatus =>
      obtain ⟨granted, held, eq⟩ := Option.map_eq_some_iff.mp answer
      cases eq
      obtain ⟨operation, request, response, prepared⟩ :=
        (inv.grants granted (List.mem_of_getElem? held)).operation index place used generation.symm
      refine .commit held ?_ operation request response prepared (elapsed_eq_false_iff.mp early)
      cases found : clientHandleIndex session.client granted.authority with
      | error err =>
        have refused : wlRpcClientResponseCommit session.client granted.authority
            applicationStatus nowMs = (session.client, err) := by
          unfold wlRpcClientResponseCommit
          rw [found]
        have step : session.commit grant applicationStatus nowMs = session := by
          unfold ClientSession.commit
          rw [held]
          exact congrArg (fun called => { session with client := called.1 }) refused
        exact absurd (congrArg (·.client.slots index) step) moved
      | ok => rw [← (clientHandleIndex_ok found).1, place]
    | _ => exact nomatch answer
  · rw [zero] at answered
    exact nomatch answered

/-! ### Handles

A handle names its operation by the generation, which is given out once. It acts on that operation
as long as it is retained, and on nothing afterwards. -/

theorem retainsOperation_cons :
    RetainsOperation session (op :: ops) index ↔
      (session.client.slots index).state ≠ .free ∧
        RetainsOperation (session.step op) ops index := by
  constructor
  · intro retained
    exact ⟨retained 0, fun count => retained (count + 1)⟩
  · rintro ⟨now, later⟩ count
    cases count with
    | zero => exact now
    | succ count => exact later count

theorem generation_of_retained (retained : RetainsOperation session ops index) :
    ((runClient session ops).client.slots index).generation =
        (session.client.slots index).generation ∧
      ((runClient session ops).client.slots index).state ≠ .free := by
  induction ops generalizing session with
  | nil => exact ⟨rfl, retained 0⟩
  | cons op ops ih =>
    obtain ⟨now, later⟩ := retainsOperation_cons.mp retained
    obtain ⟨same, used⟩ := ih later
    refine ⟨same.trans ?_, used⟩
    rcases (@step_clientMove session op).slot_of_used now with kept | progress | ⟨zero, -, -⟩
    · rw [kept]
    · exact progress.generation
    · exact absurd (congrArg RpcClientSlot.state zero) (later 0)

/-- A generation that a slot does not have, and that has been given out, never comes back to it. -/
theorem generation_stale {generation : UInt64} {ops : List ClientOp}
    (issued : generation.toNat < generationBound session.client)
    (stale : (session.client.slots index).state ≠ .free →
      (session.client.slots index).generation ≠ generation)
    (used : ((runClient session ops).client.slots index).state ≠ .free) :
    ((runClient session ops).client.slots index).generation ≠ generation := by
  induction ops generalizing session with
  | nil => exact stale used
  | cons op ops ih =>
    have move := @step_clientMove session op
    refine ih (Nat.lt_of_lt_of_le issued move.generationBound_le) (fun filled => ?_) used
    by_cases free : (session.client.slots index).state = .free
    · rintro rfl
      exact absurd (move.slot_of_free free filled).1 (Nat.ne_of_lt issued)
    · rcases move.slot_of_used free with kept | progress | ⟨zero, -, -⟩
      · rw [kept]
        exact stale free
      · rw [progress.generation]
        exact stale free
      · exact absurd (congrArg RpcClientSlot.state zero) filled

theorem generation_of_released (inv : ClientInv session.client)
    (before : (session.client.slots index).state ≠ .free)
    (gone : ¬ RetainsOperation session ops index)
    (used : ((runClient session ops).client.slots index).state ≠ .free) :
    ((runClient session ops).client.slots index).generation ≠
      (session.client.slots index).generation := by
  induction ops generalizing session with
  | nil =>
    refine absurd (fun count => ?_) gone
    rw [List.take_nil]
    exact before
  | cons op ops ih =>
    have move := @step_clientMove session op
    have lost : ¬ RetainsOperation (session.step op) ops index := fun later =>
      gone (retainsOperation_cons.mpr ⟨before, later⟩)
    rcases move.slot_of_used before with kept | progress | ⟨zero, -, -⟩
    · rw [← kept]
      exact ih (move.inv inv) (by rw [kept]; exact before) lost used
    · rw [← progress.generation]
      exact ih (move.inv inv) progress.used lost used
    · refine @generation_stale (session.step op) index _ ops ?_ (fun filled => ?_) used
      · exact Nat.lt_of_lt_of_le (inv.issued index before).2 move.generationBound_le
      · exact absurd (congrArg RpcClientSlot.state zero) filled

theorem run_address (ops : List ClientOp) :
    (runClient session ops).client.address = session.client.address := by
  induction ops generalizing session with
  | nil => rfl
  | cons op ops ih => exact ih.trans step_clientMove.address

theorem run_slotCount (ops : List ClientOp) :
    (runClient session ops).client.slotCount = session.client.slotCount := by
  induction ops generalizing session with
  | nil => rfl
  | cons op ops ih => exact ih.trans step_clientMove.slotCount

theorem Obtained.eq_handleOf (obtained : Obtained client index handle) :
    handle = client.handleOf index ∧ (client.slots index).state ≠ .free := by
  cases obtained with
  | byId found given =>
    unfold wlRpcClientGetHandle at given
    rw [found] at given
    cases given
    exact ⟨rfl, (operationSlot_ok found).2.1⟩
  | byResponse granted =>
    rcases @responsePrepare_cases client _ none (fun _ => False) _ _ _ _ _ (Prod.eta _).symm with
      ⟨-, err, failed⟩ | ⟨-, place, result, found, -⟩
    · exact nomatch granted.symm.trans failed
    · cases granted.symm.trans result
      exact ⟨rfl, (operationSlot_ok found).2.1⟩

theorem confinedTo_of_index (found : clientHandleIndex client handle = .ok index) :
    ConfinedTo client handle index where
  state := by
    unfold wlRpcClientStateByHandle
    rw [found]
  result := by
    unfold wlRpcClientGetByHandle
    rw [found]
  cancel other apart := by
    unfold wlRpcClientCancelHandle cancelSlot
    rw [found]
    dsimp only
    split
    · rfl
    · exact Function.update_of_ne apart _ _
  release other apart := by
    unfold wlRpcClientReleaseHandle releaseSlot
    rw [found]
    dsimp only
    split
    · rfl
    · exact Function.update_of_ne apart _ _
  commit applicationStatus nowMs other apart := by
    unfold wlRpcClientResponseCommit
    rw [found]
    dsimp only
    split
    · rfl
    · split <;> exact Function.update_of_ne apart _ _

theorem refusesHandle_of_index {err : WlRpcErr} (failed : err ≠ .ok)
    (found : clientHandleIndex client handle = .error err) :
    RefusesHandle client handle err where
  failed := failed
  state := by
    unfold wlRpcClientStateByHandle
    rw [found]
  result := by
    unfold wlRpcClientGetByHandle
    rw [found]
  cancel := by
    unfold wlRpcClientCancelHandle
    rw [found]
  release := by
    unfold wlRpcClientReleaseHandle
    rw [found]
  commit applicationStatus nowMs := by
    unfold wlRpcClientResponseCommit
    rw [found]

theorem handle_of_operation (inv : ClientInv session.client)
    (obtained : Obtained session.client index handle) (ops : List ClientOp) :
    (RetainsOperation session ops index →
        ConfinedTo (runClient session ops).client handle index) ∧
      (¬ RetainsOperation session ops index →
        RefusesHandle (runClient session ops).client handle .notFound) := by
  obtain ⟨rfl, before⟩ := obtained.eq_handleOf
  have inside : index < (runClient session ops).client.slotCount.toNat := by
    rw [run_slotCount]
    exact inv.indexed index before
  have owner : session.client.address = (runClient session ops).client.address :=
    (run_address ops).symm
  have real := (inv.issued index before).1
  constructor
  · intro retained
    obtain ⟨same, used⟩ := generation_of_retained retained
    exact confinedTo_of_index (clientHandleIndex_eq owner rfl inside real used same)
  · intro gone
    refine refusesHandle_of_index nofun ?_
    unfold clientHandleIndex
    rw [if_neg, if_pos]
    · by_cases free : ((runClient session ops).client.slots index).state = .free
      · exact .inl free
      · exact .inr (generation_of_released inv before gone free)
    · rintro (other | null | outside)
      · exact other owner
      · exact real null
      · exact Nat.not_le.mpr inside outside

end session

/-- The life of the operations of a client, over any sequence of calls after its initialization. -/
theorem client_lifecycle {address : Nat} {slotCount : UInt16} {nextOperationId : UInt32}
    {client : WlRpcClient}
    (initial : wlRpcClientInit address slotCount nextOperationId = .ok client)
    (ops : List ClientOp) :
    DistinctOperations (runClient ⟨client, []⟩ ops).client ∧
      (runClient ⟨client, []⟩ ops).client.allocatedCount.toNat =
        retainedCount (runClient ⟨client, []⟩ ops).client ∧
      (begunIds ⟨client, []⟩ ops).Pairwise (· < ·) ∧
      (∀ index more,
        clientTerminal ((runClient ⟨client, []⟩ ops).client.slots index).state = true →
        NeverReleased (runClient ⟨client, []⟩ ops) more index →
        (runClient (runClient ⟨client, []⟩ ops) more).client.slots index =
          (runClient ⟨client, []⟩ ops).client.slots index) ∧
      (∀ index op,
        ((runClient ⟨client, []⟩ ops).client.slots index).state.answered = false →
        (((runClient ⟨client, []⟩ ops).step op).client.slots index).state.answered = true →
        AnsweredBy (runClient ⟨client, []⟩ ops) index op) ∧
      ∀ index handle more, Obtained (runClient ⟨client, []⟩ ops).client index handle →
        (RetainsOperation (runClient ⟨client, []⟩ ops) more index →
          ConfinedTo (runClient (runClient ⟨client, []⟩ ops) more).client handle index) ∧
        (¬ RetainsOperation (runClient ⟨client, []⟩ ops) more index →
          RefusesHandle (runClient (runClient ⟨client, []⟩ ops) more).client handle .notFound) := by
  have start : SessionInv ⟨client, []⟩ :=
    ⟨clientInv_init initial, (nofun)⟩
  have inv := start.run ops
  refine ⟨inv.client.distinct, inv.client.counted, begunIds_pairwise ops, ?_, ?_, ?_⟩
  · intro index more terminal held
    exact run_slot_of_terminal terminal held
  · intro index op before answered
    exact answeredBy_of_answered inv before answered
  · intro index handle more obtained
    exact handle_of_operation inv.client obtained more

/-- A response completes the operation of the only slot; its handle is refused once the slot has been
released and holds the next operation. -/
theorem small_client_lifecycle :
    ((runClient ⟨smallClient, []⟩ smallCalls).client.slots 0).state = .completed ∧
      ((runClient (runClient ⟨smallClient, []⟩ smallCalls) smallReuse).client.slots 0).state =
        .queued ∧
      RefusesHandle (runClient (runClient ⟨smallClient, []⟩ smallCalls) smallReuse).client
        { owner := 0, generation := 1, index := 0 } .notFound := by
  refine ⟨by decide +kernel, by decide +kernel, ?_⟩
  have obtained : Obtained (runClient ⟨smallClient, []⟩ smallCalls).client 0
      { owner := 0, generation := 1, index := 0 } :=
    @Obtained.byId _ _ _ 1 (by decide +kernel) (by decide +kernel)
  have initial : wlRpcClientInit 0 1 0 = .ok smallClient := rfl
  refine ((client_lifecycle initial smallCalls).2.2.2.2.2 0 _ smallReuse obtained).2 ?_
  intro retained
  exact retained 1 (by decide +kernel)

end Wirelink
