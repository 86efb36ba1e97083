/-
Module: Wirelink.Proofs.RpcSession
Purpose: Sessions of an RPC server are isolated: discarding one, directly or because its peer shows a
  new session, removes what belongs to it and nothing else, and nothing of it is accepted until a
  request of that session is begun again.
Trusted boundary: none
-/
import Wirelink.Proofs.RpcMoves

namespace Wirelink

/-! ### Where identities come from

A slot gets its identity from an admission and keeps it until it is free. -/

section identities

variable {server after : WlRpcServer} {op : ServerOp} {index : Nat}

theorem admit_identity {identity : WlRpcRequestIdentity} {nowMs : UInt32}
    {pending target capacity : Nat} {use : ResponseUse} :
    ((server.reserveFor identity nowMs pending target capacity use).responseSlots index =
        server.responseSlots index ∨
      ((server.reserveFor identity nowMs pending target capacity use).responseSlots index).identity =
        identity) ∧
    ((server.reserveFor identity nowMs pending target capacity use).pendingSlots index =
        server.pendingSlots index ∨
      ((server.reserveFor identity nowMs pending target capacity use).pendingSlots index).identity =
        identity) := by
  constructor
  · by_cases same : index = target
    · subst same
      exact .inr (by rw [admit_response_self])
    · exact .inl (admit_response_of_ne same)
  · by_cases same : index = pending
    · subst same
      exact .inr (by rw [admit_pending_self])
    · exact .inl (admit_pending_of_ne same)

/-- A response slot in use had its identity before, or it is the identity the call asks to admit. -/
theorem ServerMove.response_identity (move : ServerMove server op after)
    (used : (after.responseSlots index).active ≠ .free) :
    ((server.responseSlots index).active ≠ .free ∧
        (server.responseSlots index).identity = (after.responseSlots index).identity) ∨
      op.request = some (after.responseSlots index).identity := by
  cases move with
  | kept | observed | reported => exact .inl ⟨used, rfl⟩
  | cleared =>
    have kept := kept_of_cleared_used used
    rw [cleared_response kept] at used ⊢
    exact .inl ⟨used, rfl⟩
  | @replayed identity nowMs target inside hit =>
    rw [responseSlots_setResponse] at used ⊢
    by_cases same : index = target
    · subst same
      rw [if_pos rfl] at used ⊢
      refine .inl ⟨(cacheHit_iff.mp hit).2.1, ?_⟩
      split <;> rfl
    · rw [if_neg same] at used ⊢
      have before := expireBelow_used used
      exact .inl ⟨before ▸ used, congrArg RpcResponseSlot.identity before.symm⟩
  | admitted =>
    rcases admit_identity.1 with same | new
    · rw [same] at used ⊢
      have before := expireBelow_used used
      exact .inl ⟨before ▸ used, congrArg RpcResponseSlot.identity before.symm⟩
    · exact .inr (congrArg some new.symm)
  | correlated =>
    rcases admit_identity.1 with same | new
    · rw [same] at used ⊢
      exact .inl ⟨used, rfl⟩
    · exact .inr (congrArg some new.symm)
  | filled =>
    rw [(write_tables _).2.1] at used ⊢
    exact .inl ⟨used, rfl⟩
  | @committed _ pending response length status bytes nowMs reserves =>
    rw [committed_response] at used ⊢
    by_cases same : index = response
    · subst same
      rw [if_pos rfl]
      exact .inl ⟨reserves.used, rfl⟩
    · rw [if_neg same] at used ⊢
      exact .inl ⟨used, rfl⟩
  | @redelivered _ target state txHandle isUsed =>
    rw [responseSlots_setResponse] at used ⊢
    by_cases same : index = target
    · subst same
      rw [if_pos rfl]
      exact .inl ⟨isUsed, rfl⟩
    · rw [if_neg same] at used ⊢
      exact .inl ⟨used, rfl⟩

end identities

/-! ### A session that is gone

A session without slots has no live token and no view that is found, until one of its requests is
begun. -/

/-- No slot of a server belongs to the session. -/
def SessionAbsent (server : WlRpcServer) (peerSessionId : UInt64) : Prop :=
  ∀ index, server.responseOf peerSessionId index = false

section absent

variable {server : WlRpcServer} {peerSessionId : UInt64}

namespace SessionAbsent

variable (absent : SessionAbsent server peerSessionId)

include absent

theorem pending (inv : ServerInv server) (index : Nat) :
    server.pendingOf peerSessionId index = false := by
  rw [Bool.eq_false_iff]
  intro mine
  obtain ⟨-, response, reserves⟩ := inv.owner index (pendingOf_iff.mp mine).1
  rw [reserves.session, absent response] at mine
  exact Bool.false_ne_true mine

theorem step (inv : ServerInv server) {op : ServerOp}
    (other : ∀ identity, op.request = some identity → identity.peerSessionId ≠ peerSessionId) :
    SessionAbsent (server.step op) peerSessionId := by
  intro index
  rw [Bool.eq_false_iff]
  intro mine
  obtain ⟨used, session⟩ := responseOf_iff.mp mine
  rcases (step_move inv op).response_identity used with ⟨before, same⟩ | asked
  · have still := responseOf_iff.mpr ⟨before, (congrArg _ same).trans session⟩
    rw [absent index] at still
    exact Bool.false_ne_true still
  · exact other _ asked session

theorem run (inv : ServerInv server)
    {ops : List ServerOp}
    (others : ∀ op ∈ ops, ∀ identity, op.request = some identity →
      identity.peerSessionId ≠ peerSessionId) :
    SessionAbsent (runServer server ops) peerSessionId := by
  induction ops generalizing server with
  | nil => exact absent
  | cons op ops ih =>
    exact ih (absent.step inv (others op List.mem_cons_self)) (inv.step op)
      fun later member => others later (List.mem_cons_of_mem op member)

theorem not_live (inv : ServerInv server) {request : WlRpcServerRequest}
    (session : request.identity.peerSessionId = peerSessionId) : ¬ TokenLive server request := by
  rintro ⟨pending, -, active, same⟩
  have mine := pendingOf_iff.mpr
    ⟨active, (congrArg _ (requestEqual_iff.mp same).2.symm).trans session⟩
  rw [absent.pending inv pending] at mine
  exact Bool.false_ne_true mine

theorem not_found {view : WlRpcServerResponse}
    (session : view.identity.peerSessionId = peerSessionId) :
    acquiredSlot server view = .error .notFound := by
  cases found : serverResponseFind server view with
  | none => rw [acquiredSlot, found]
  | some index =>
    unfold serverResponseFind at found
    split at found
    · exact nomatch found
    have test := List.find?_some found
    simp only [Bool.and_eq_true, bne_iff_ne, identityEqual_iff] at test
    have mine := responseOf_iff.mpr ⟨test.1.1.1.1, (congrArg _ test.1.1.2).trans session⟩
    rw [absent index] at mine
    exact absurd mine Bool.false_ne_true

end SessionAbsent

end absent

/-! ### Tokens that are not live

Every call that takes a token resolves it first. -/

section dead

variable {server : WlRpcServer} {request : WlRpcServerRequest}

section

variable (inv : ServerInv server)

include inv

section

variable (dead : ¬ TokenLive server request)

include dead

theorem resolve_of_not_live : serverResolvePending server request = .error .notFound := by
  rcases @resolve_eq server request inv with ⟨_, _, found⟩ | ⟨missing, -⟩
  · exact absurd (tokenLive_of_resolved found inv) dead
  · exact missing

theorem prepare_of_not_live : ∃ err, wlRpcServerResponsePrepare server request = .error err := by
  unfold wlRpcServerResponsePrepare
  split
  · exact ⟨_, rfl⟩
  · rw [resolve_of_not_live inv dead]
    exact ⟨_, rfl⟩

theorem complete_of_not_live (status : Int32) (payload : Buffer) (nowMs : UInt32) :
    ∃ err, wlRpcServerComplete server request status payload nowMs = (server, .error err) := by
  unfold wlRpcServerComplete
  split
  · exact ⟨_, rfl⟩
  · rw [resolve_of_not_live inv dead]
    exact ⟨_, rfl⟩

theorem reject_of_not_live (status : Int32) (payload : Buffer) (nowMs : UInt32) :
    ∃ err, wlRpcServerReject server request status payload nowMs = (server, .error err) := by
  unfold wlRpcServerReject
  split
  · exact ⟨_, rfl⟩
  · exact complete_of_not_live inv dead status payload nowMs

end

theorem commit_of_not_live {buffer : WlRpcServerResponseBuffer}
    (dead : ¬ TokenLive server buffer.request) (status : Int32) (length : Nat) (nowMs : UInt32) :
    ∃ err, wlRpcServerResponseCommit server buffer status length nowMs = (server, .error err) := by
  unfold wlRpcServerResponseCommit
  split
  · exact ⟨_, rfl⟩
  · rw [resolve_of_not_live inv dead]
    exact ⟨_, rfl⟩

end

theorem abandon_of_not_live (dead : ¬ TokenLive server request) :
    ∃ err, err ≠ .ok ∧ wlRpcServerAbandon server request = (server, err) := by
  unfold wlRpcServerAbandon
  split
  · exact ⟨.invalidArg, nofun, rfl⟩
  split
  · exact ⟨.notFound, nofun, rfl⟩
  · rename_i index found
    have test := List.find?_some found
    rw [Bool.and_eq_true] at test
    exact absurd ⟨index, List.mem_range.mp (List.mem_of_find?_eq_some found), test.1, test.2⟩ dead

theorem rejects_of_not_live (inv : ServerInv server) (dead : ¬ TokenLive server request) :
    RejectsToken server request where
  prepare := prepare_of_not_live inv dead
  complete := complete_of_not_live inv dead
  reject := reject_of_not_live inv dead
  commit := by
    rintro buffer status length nowMs rfl
    exact commit_of_not_live inv dead status length nowMs
  abandon := abandon_of_not_live dead

end dead

theorem SessionAbsent.rejects {server : WlRpcServer} {peerSessionId : UInt64}
    (absent : SessionAbsent server peerSessionId) (inv : ServerInv server) :
    RejectsSession server peerSessionId where
  tokens request session := rejects_of_not_live inv (absent.not_live inv session)
  defer view session := by rw [wlRpcServerResponseDefer, absent.not_found session]
  sent view session := by rw [wlRpcServerResponseSent, absent.not_found session]
  submitted view session txHandle := by
    unfold wlRpcServerResponseSubmitted
    split
    · exact ⟨.invalidArg, nofun, rfl⟩
    · rw [absent.not_found session]
      exact ⟨.notFound, nofun, rfl⟩

/-! ### Discarding -/

section discard

variable {server : WlRpcServer} {peerSessionId : UInt64}

/-- As many requests of a session are pending as responses are reserved for it. -/
theorem pending_count_eq_reserved (inv : ServerInv server) :
    (List.range server.pendingSlotCount).countP (server.pendingOf peerSessionId) =
      (List.range server.responseCount).countP fun index =>
        server.responseOf peerSessionId index &&
          (server.responseSlots index).deliveryState == .reserved := by
  refine Slots.countP_range_eq_of_matching (fun index _ mine => ?_) (fun other _ mine => ?_)
    (fun index first second one two => one.response_eq two)
    (fun first second other one two => inv.once first second other one two)
  · obtain ⟨-, response, reserves⟩ := inv.owner index (pendingOf_iff.mp mine).1
    refine ⟨response, (inv.sound response reserves.used).within, ?_, reserves⟩
    rw [← reserves.session, mine, reserves.reserved]
    rfl
  · rw [Bool.and_eq_true, beq_iff_eq] at mine
    obtain ⟨pending, reserves⟩ := inv.owned other (responseOf_iff.mp mine.1).1 mine.2
    exact ⟨pending, (inv.owner pending reserves.active).1, reserves.session.trans mine.1, reserves⟩

theorem discards_session (inv : ServerInv server) (nonzero : peerSessionId ≠ 0) :
    ∃ after result, wlRpcServerDiscardSession server peerSessionId = (after, .ok result) ∧
      Discards server peerSessionId after result ∧ SessionAbsent after peerSessionId := by
  refine ⟨_, _, discardSession_eq inv nonzero, ?_, fun index => ?_⟩
  · exact {
      pendings := fun _ => rfl
      responses := fun _ => rfl
      others := rfl
      requestCount := rfl
      reservedCount := pending_count_eq_reserved inv
      responseCount := rfl
      cancelled := rfl
      cancelCount := rfl }
  · rw [responseOf_cleared, Bool.not_and_self]

/-- Discarding a session removes its requests and responses and leaves everything else as it is, also
when a new session of the peer is the reason. Until a request of that session is begun again, all
that stood for it is refused. -/
theorem discard_session_isolated (reachable : ServerReachable server) :
    (peerSessionId = 0 →
      wlRpcServerDiscardSession server peerSessionId = (server, .error .invalidArg)) ∧
    (peerSessionId ≠ 0 →
      ∃ after result,
        wlRpcServerDiscardSession server peerSessionId = (after, .ok result) ∧
        Discards server peerSessionId after result ∧
        (∀ next, next ≠ 0 → next ≠ peerSessionId →
          wlRpcPeerObserve server peerSessionId next =
            (after, next,
              .ok { previousSessionId := peerSessionId, currentSessionId := next
                    discarded := result, changed := true })) ∧
        ∀ ops : List ServerOp,
          (∀ op ∈ ops, ∀ identity, op.request = some identity →
            identity.peerSessionId ≠ peerSessionId) →
          RejectsSession (runServer after ops) peerSessionId) := by
  have inv := reachable.inv
  refine ⟨fun zero => if_pos zero, fun nonzero => ?_⟩
  obtain ⟨after, result, outcome, discards, absent⟩ := discards_session inv nonzero
  refine ⟨after, result, outcome, discards, fun next started changed => ?_, fun ops others => ?_⟩
  · rw [wlRpcPeerObserve, if_neg started, if_neg (Ne.symm changed), if_pos nonzero, outcome]
  · have kept : ServerInv after := by
      have stepped := inv.step (.discard peerSessionId)
      rw [WlRpcServer.step, outcome] at stepped
      exact stepped
    exact (absent.run kept others).rejects (kept.run ops)

end discard

/-- A small server with one pending request meets the hypothesis: the request goes with its
session. -/
theorem small_discard_isolated :
    ∃ after result,
      wlRpcServerDiscardSession ((smallServer 1).step (.begin smallIdentity 0)) 7 =
        (after, .ok result) ∧
      result.pendingDiscarded = 1 ∧ RejectsSession after 7 := by
  have reachable : ServerReachable ((smallServer 1).step (.begin smallIdentity 0)) :=
    ⟨smallServerConfig, some smallPool, smallServer 1, [.begin smallIdentity 0], rfl, rfl⟩
  obtain ⟨after, result, outcome, discards, -, rejects⟩ :=
    (discard_session_isolated reachable).2 (by decide : (7 : UInt64) ≠ 0)
  exact ⟨after, result, outcome, discards.requestCount.trans (by decide +kernel),
    rejects [] nofun⟩

end Wirelink
