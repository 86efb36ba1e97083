/-
Module: Wirelink.Proofs.RpcDiscard
Purpose: What wl_rpc_server_discard_session does to the tables of a server: its two loops together
  zero exactly the slots of the session, count each request once, and cancel exactly the handles of
  the session's responses that are under way.
Trusted boundary: none
-/
import Wirelink.Proofs.RpcServer

namespace Wirelink

section loops

variable {server : WlRpcServer} {peerSessionId : UInt64} {pending response bound : Nat}

/-! ### Cleared tables

The loops zero slots one at a time. Seen from outside, the tables are the old ones with a set of
slots cleared that grows with every turn. -/

theorem pendingOf_iff :
    server.pendingOf peerSessionId pending = true ↔
      (server.pendingSlots pending).active = true ∧
        (server.pendingSlots pending).identity.peerSessionId = peerSessionId := by
  simp [WlRpcServer.pendingOf]

theorem responseOf_iff :
    server.responseOf peerSessionId response = true ↔
      (server.responseSlots response).active ≠ .free ∧
        (server.responseSlots response).identity.peerSessionId = peerSessionId := by
  simp [WlRpcServer.responseOf]

theorem Reserves.session (reserves : Reserves server pending response) :
    server.pendingOf peerSessionId pending = server.responseOf peerSessionId response := by
  rw [Bool.eq_iff_iff, pendingOf_iff, responseOf_iff, reserves.identity]
  exact ⟨fun here => ⟨reserves.used, here.2⟩, fun here => ⟨reserves.active, here.2⟩⟩

theorem cleared_setResponse (pendings responses : Nat → Bool) (index : Nat) :
    (server.cleared pendings responses).setResponse index .zero =
      server.cleared pendings fun other => responses other || other == index := by
  have table : Function.update
      (fun other => if responses other then RpcResponseSlot.zero else server.responseSlots other)
        index .zero =
      fun other => if (responses other || other == index) then RpcResponseSlot.zero
        else server.responseSlots other := by
    funext other
    rw [Function.update_apply]
    by_cases here : other = index
    · rw [if_pos here, if_pos (by rw [beq_iff_eq.mpr here, Bool.or_true])]
    · rw [if_neg here, beq_eq_false_iff_ne.mpr here, Bool.or_false]
  exact congrArg (fun slots => { server.cleared pendings responses with responseSlots := slots })
    table

theorem setResponse_zero (index : Nat) :
    server.setResponse index .zero =
      server.cleared (fun _ => false) (fun other => other == index) :=
  cleared_setResponse (fun _ => false) (fun _ => false) index

theorem cleared_setPending (pendings responses : Nat → Bool) (index : Nat) :
    (server.cleared pendings responses).setPending index .zero =
      server.cleared (fun other => pendings other || other == index) responses := by
  have table : Function.update
      (fun other => if pendings other then RpcPending.zero else server.pendingSlots other)
        index .zero =
      fun other => if (pendings other || other == index) then RpcPending.zero
        else server.pendingSlots other := by
    funext other
    rw [Function.update_apply]
    by_cases here : other = index
    · rw [if_pos here, if_pos (by rw [beq_iff_eq.mpr here, Bool.or_true])]
    · rw [if_neg here, beq_eq_false_iff_ne.mpr here, Bool.or_false]
  exact congrArg (fun slots => { server.cleared pendings responses with pendingSlots := slots })
    table

theorem cleared_cleared (pendings responses more others : Nat → Bool) :
    (server.cleared pendings responses).cleared more others =
      server.cleared (fun index => pendings index || more index)
        (fun index => responses index || others index) := by
  have pendingTable : (fun index => if more index then RpcPending.zero else
      (server.cleared pendings responses).pendingSlots index) =
      fun index => if (pendings index || more index) then RpcPending.zero
        else server.pendingSlots index := by
    funext index
    cases gone : pendings index with
    | false => rw [cleared_pending gone, Bool.false_or]
    | true => rw [cleared_pending_zero gone, Bool.true_or, ite_self, if_pos rfl]
  have responseTable : (fun index => if others index then RpcResponseSlot.zero else
      (server.cleared pendings responses).responseSlots index) =
      fun index => if (responses index || others index) then RpcResponseSlot.zero
        else server.responseSlots index := by
    funext index
    cases gone : responses index with
    | false => rw [cleared_response gone, Bool.false_or]
    | true => rw [cleared_response_zero gone, Bool.true_or, ite_self, if_pos rfl]
  show { server with pendingSlots := _, responseSlots := _ } = _
  rw [pendingTable, responseTable]
  rfl

theorem releaseReserved_eq (reserves : Reserves server pending response) :
    releaseReserved server (server.pendingSlots pending) = server.setResponse response .zero := by
  unfold releaseReserved
  rw [reserves.points]
  exact if_pos ⟨reserves.used, reserves.reserved, reserves.generation⟩

/-! ### The loop over pending slots

A pending request of the session goes together with the response reserved for it. -/

/-- The pending slots the first loop has zeroed when it comes to a bound. -/
def discardedPending (server : WlRpcServer) (peerSessionId : UInt64) (bound index : Nat) : Bool :=
  decide (index < bound) && server.pendingOf peerSessionId index

/-- The response slots it has zeroed. -/
def discardedReserved (server : WlRpcServer) (peerSessionId : UInt64) (bound index : Nat) : Bool :=
  (List.range bound).any fun pending =>
    server.pendingOf peerSessionId pending &&
      (server.pendingSlots pending).response == some index

theorem discardedReserved_iff :
    discardedReserved server peerSessionId bound response = true ↔
      ∃ pending, pending < bound ∧ server.pendingOf peerSessionId pending = true ∧
        (server.pendingSlots pending).response = some response := by
  simp [discardedReserved]

theorem discardedPending_succ (index : Nat) :
    discardedPending server peerSessionId (bound + 1) index =
      (discardedPending server peerSessionId bound index ||
        (index == bound && server.pendingOf peerSessionId bound)) := by
  unfold discardedPending
  by_cases here : index = bound
  · subst here
    simp
  · have same : (index < bound + 1) = (index < bound) := propext (by omega)
    simp [same, here]

theorem discardedReserved_succ (index : Nat) :
    discardedReserved server peerSessionId (bound + 1) index =
      (discardedReserved server peerSessionId bound index ||
        (server.pendingOf peerSessionId bound &&
          (server.pendingSlots bound).response == some index)) := by
  unfold discardedReserved
  rw [List.range_succ, List.any_append, List.any_cons, List.any_nil, Bool.or_false]

theorem discardPending_turn (inv : ServerInv server) (count : Nat) :
    discardPending peerSessionId
        (server.cleared (discardedPending server peerSessionId bound)
          (discardedReserved server peerSessionId bound), count) bound =
      (server.cleared (discardedPending server peerSessionId (bound + 1))
          (discardedReserved server peerSessionId (bound + 1)),
        count + if server.pendingOf peerSessionId bound then 1 else 0) := by
  have untouched : discardedPending server peerSessionId bound bound = false := by
    simp [discardedPending]
  have here : (server.cleared (discardedPending server peerSessionId bound)
      (discardedReserved server peerSessionId bound)).pendingSlots bound =
        server.pendingSlots bound := cleared_pending untouched
  have pendings := funext (@discardedPending_succ server peerSessionId bound)
  have responses := funext (@discardedReserved_succ server peerSessionId bound)
  unfold discardPending
  dsimp only
  rw [here, pendings, responses]
  cases mine : server.pendingOf peerSessionId bound with
  | false =>
    have other : ¬ (server.pendingSlots bound).active = true ∨
        (server.pendingSlots bound).identity.peerSessionId ≠ peerSessionId := by
      by_contra both
      rw [not_or, not_not, not_not, ← pendingOf_iff, mine] at both
      exact Bool.false_ne_true both
    rw [if_pos other]
    simp only [Bool.and_false, Bool.false_and, Bool.or_false, Bool.false_eq_true, if_false,
      Nat.add_zero]
  | true =>
    obtain ⟨active, session⟩ := pendingOf_iff.mp mine
    obtain ⟨-, target, reserves⟩ := inv.owner bound active
    -- the response slot was not released by an earlier turn: it has one owner
    have kept : discardedReserved server peerSessionId bound target = false := by
      rw [Bool.eq_false_iff]
      intro released
      obtain ⟨earlier, before, own, points⟩ := discardedReserved_iff.mp released
      obtain ⟨-, response, holds⟩ := inv.owner earlier (pendingOf_iff.mp own).1
      obtain rfl : response = target := Option.some.inj (holds.points.symm.trans points)
      exact Nat.ne_of_lt before (inv.once earlier bound response holds reserves)
    have still : Reserves (server.cleared (discardedPending server peerSessionId bound)
        (discardedReserved server peerSessionId bound)) bound target :=
      reserves.of_eq here (cleared_response kept)
    rw [if_neg (not_or.mpr ⟨not_not.mpr active, not_not.mpr session⟩), ← here,
      releaseReserved_eq still, cleared_setResponse, cleared_setPending, if_pos rfl]
    have points : ∀ index, (index == target) =
        ((server.pendingSlots bound).response == some index) := by
      intro index
      rw [reserves.points, Bool.eq_iff_iff, beq_iff_eq, beq_iff_eq, Option.some.injEq, eq_comm]
    simp only [points, here, Bool.and_true, Bool.true_and]

theorem discardPending_loop (inv : ServerInv server) (count : Nat) :
    (List.range count).foldl (discardPending peerSessionId) (server, 0) =
      (server.cleared (discardedPending server peerSessionId count)
          (discardedReserved server peerSessionId count),
        (List.range count).countP (server.pendingOf peerSessionId)) := by
  refine @Slots.foldl_range_invariant _ (discardPending peerSessionId)
    (fun bound state => state =
      (server.cleared (discardedPending server peerSessionId bound)
          (discardedReserved server peerSessionId bound),
        (List.range bound).countP (server.pendingOf peerSessionId))) (server, 0) count ?_ ?_
  · have pendings : discardedPending server peerSessionId 0 = fun _ => false := by
      funext index
      simp [discardedPending]
    rfl
  · rintro bound state - rfl
    rw [discardPending_turn inv, List.range_succ, List.countP_append, List.countP_singleton]

/-! ### The loop over responses

What is left of the session was committed. A response under way has its handle cancelled. -/

/-- One turn of the second loop on a table that its earlier turns have changed below the bound. -/
theorem discardResponse_turn (result : WlRpcServerDiscardResult)
    (handles : ∀ index, (server.responseSlots index).active ≠ .free →
      (server.responseSlots index).deliveryState = .inFlight →
        (server.responseSlots index).txHandle ≠ 0) :
    discardResponse peerSessionId
        (server.cleared (fun _ => false)
          (fun index => decide (index < bound) && server.responseOf peerSessionId index), result)
        bound =
      (server.cleared (fun _ => false)
          (fun index => decide (index < bound + 1) && server.responseOf peerSessionId index),
        { result with
          responsesDiscarded :=
            result.responsesDiscarded + if server.responseOf peerSessionId bound then 1 else 0
          txCancelRequested :=
            result.txCancelRequested + (server.flightOf peerSessionId bound).toList.length
          cancelled := result.cancelled ++ (server.flightOf peerSessionId bound).toList }) := by
  have here : (server.cleared (fun _ => false)
      (fun index => decide (index < bound) && server.responseOf peerSessionId index)).responseSlots
        bound = server.responseSlots bound := cleared_response (by simp)
  -- one more slot of the sweep: what is cleared so far, and this slot if it is the peer's
  have table : (fun index => decide (index < bound + 1) && server.responseOf peerSessionId index) =
      fun index => (decide (index < bound) && server.responseOf peerSessionId index) ||
        (index == bound && server.responseOf peerSessionId bound) := by
    funext index
    by_cases same : index = bound
    · subst same
      simp
    · have iff : (index < bound + 1) = (index < bound) := propext (by omega)
      simp [iff, same]
  unfold discardResponse
  dsimp only
  rw [here, table]
  cases mine : server.responseOf peerSessionId bound with
  | false =>
    have other : (server.responseSlots bound).active = .free ∨
        (server.responseSlots bound).identity.peerSessionId ≠ peerSessionId := by
      by_contra both
      rw [not_or, not_not, ← ne_eq, ← responseOf_iff, mine] at both
      exact Bool.false_ne_true both
    have idle : server.flightOf peerSessionId bound = none :=
      if_neg (by rw [mine]; exact fun both => Bool.false_ne_true both.1)
    rw [if_pos other, idle]
    simp only [Bool.and_false, Bool.or_false, Bool.false_eq_true, if_false, Nat.add_zero,
      Option.toList_none, List.length_nil, List.append_nil]
  | true =>
    obtain ⟨used, session⟩ := responseOf_iff.mp mine
    rw [if_neg (not_or.mpr ⟨used, not_not.mpr session⟩), cleared_setResponse, if_pos rfl]
    simp only [Bool.and_true]
    by_cases flying : (server.responseSlots bound).deliveryState = .inFlight
    · have flight : server.flightOf peerSessionId bound =
          some (server.responseSlots bound).txHandle := if_pos ⟨mine, flying⟩
      rw [flight, if_pos flying, if_pos (handles bound used flying),
        if_pos (handles bound used flying), Option.toList_some, List.length_singleton]
    · have idle : server.flightOf peerSessionId bound = none :=
        if_neg fun both => flying both.2
      rw [idle, if_neg flying, if_neg (not_not.mpr rfl), if_neg (not_not.mpr rfl),
        Option.toList_none, List.length_nil]

theorem discardResponse_loop (discarded count : Nat)
    (handles : ∀ index, (server.responseSlots index).active ≠ .free →
      (server.responseSlots index).deliveryState = .inFlight →
        (server.responseSlots index).txHandle ≠ 0) :
    (List.range count).foldl (discardResponse peerSessionId)
        (server, { noDiscard with pendingDiscarded := discarded }) =
      (server.cleared (fun _ => false)
          (fun index => decide (index < count) && server.responseOf peerSessionId index),
        { pendingDiscarded := discarded
          responsesDiscarded := (List.range count).countP (server.responseOf peerSessionId)
          txCancelRequested :=
            ((List.range count).filterMap (server.flightOf peerSessionId)).length
          cancelled := (List.range count).filterMap (server.flightOf peerSessionId) }) := by
  refine @Slots.foldl_range_invariant _ (discardResponse peerSessionId)
    (fun bound state => state =
      (server.cleared (fun _ => false)
          (fun index => decide (index < bound) && server.responseOf peerSessionId index),
        { pendingDiscarded := discarded
          responsesDiscarded := (List.range bound).countP (server.responseOf peerSessionId)
          txCancelRequested :=
            ((List.range bound).filterMap (server.flightOf peerSessionId)).length
          cancelled := (List.range bound).filterMap (server.flightOf peerSessionId) }))
    (server, { noDiscard with pendingDiscarded := discarded }) count ?_ ?_
  · have none : (fun index => decide (index < 0) && server.responseOf peerSessionId index) =
        fun _ => false := by
      funext index
      simp
    rw [none]
    rfl
  · rintro bound state - rfl
    have tail : [bound].filterMap (server.flightOf peerSessionId) =
        (server.flightOf peerSessionId bound).toList := by
      cases flight : server.flightOf peerSessionId bound with
      | none => rw [List.filterMap_cons_none flight]; rfl
      | some => rw [List.filterMap_cons_some flight]; rfl
    rw [discardResponse_turn _ handles, List.range_succ, List.countP_append, List.countP_singleton,
      List.filterMap_append, tail, List.length_append]

/-! ### Both loops -/

theorem discardedPending_all (inv : ServerInv server) :
    discardedPending server peerSessionId server.pendingSlotCount =
      server.pendingOf peerSessionId := by
  funext index
  unfold discardedPending
  cases mine : server.pendingOf peerSessionId index with
  | false => rw [Bool.and_false]
  | true =>
    have inside := (inv.owner index (pendingOf_iff.mp mine).1).1
    rw [decide_eq_true inside, Bool.and_true]

theorem discardedReserved_all (inv : ServerInv server) (index : Nat) :
    discardedReserved server peerSessionId server.pendingSlotCount index =
      (server.responseOf peerSessionId index &&
        (server.responseSlots index).deliveryState == .reserved) := by
  rw [Bool.eq_iff_iff, discardedReserved_iff, Bool.and_eq_true, beq_iff_eq]
  constructor
  · rintro ⟨pending, -, mine, points⟩
    obtain ⟨-, response, reserves⟩ := inv.owner pending (pendingOf_iff.mp mine).1
    obtain rfl : response = index := Option.some.inj (reserves.points.symm.trans points)
    exact ⟨reserves.session.symm.trans mine, reserves.reserved⟩
  · rintro ⟨mine, reserved⟩
    obtain ⟨pending, reserves⟩ := inv.owned index (responseOf_iff.mp mine).1 reserved
    exact ⟨pending, (inv.owner pending reserves.active).1, reserves.session.trans mine,
      reserves.points⟩

theorem responseOf_cleared (pendings responses : Nat → Bool) (index : Nat) :
    (server.cleared pendings responses).responseOf peerSessionId index =
      (!responses index && server.responseOf peerSessionId index) := by
  cases gone : responses index with
  | false =>
    unfold WlRpcServer.responseOf
    rw [cleared_response gone, Bool.not_false, Bool.true_and]
  | true =>
    unfold WlRpcServer.responseOf
    rw [cleared_response_zero gone]
    rfl

theorem flightOf_cleared {pendings responses : Nat → Bool} {index : Nat}
    (reserved : responses index = true →
      (server.responseSlots index).deliveryState = .reserved) :
    (server.cleared pendings responses).flightOf peerSessionId index =
      server.flightOf peerSessionId index := by
  unfold WlRpcServer.flightOf
  rw [responseOf_cleared]
  cases gone : responses index with
  | false => rw [cleared_response gone, Bool.not_false, Bool.true_and]
  | true =>
    rw [if_neg, if_neg]
    · intro both
      exact nomatch both.2.symm.trans (reserved gone)
    · intro both
      exact Bool.false_ne_true both.1

/-- The server between the two loops. -/
def requestsDiscarded (server : WlRpcServer) (peerSessionId : UInt64) : WlRpcServer :=
  server.cleared (server.pendingOf peerSessionId) fun index =>
    server.responseOf peerSessionId index &&
      (server.responseSlots index).deliveryState == .reserved

theorem responseOf_requestsDiscarded :
    (requestsDiscarded server peerSessionId).responseOf peerSessionId = fun index =>
      server.responseOf peerSessionId index &&
        (server.responseSlots index).deliveryState != .reserved := by
  funext index
  rw [requestsDiscarded, responseOf_cleared]
  cases server.responseOf peerSessionId index with
  | false => rw [Bool.and_false, Bool.false_and]
  | true => rw [Bool.true_and, Bool.and_true, Bool.true_and, bne]

theorem flightOf_requestsDiscarded :
    (requestsDiscarded server peerSessionId).flightOf peerSessionId =
      server.flightOf peerSessionId := by
  funext index
  exact flightOf_cleared fun gone => beq_iff_eq.mp (Bool.and_eq_true_iff.mp gone).2

theorem handle_requestsDiscarded (inv : ServerInv server) (index : Nat)
    (used : ((requestsDiscarded server peerSessionId).responseSlots index).active ≠ .free)
    (flying : ((requestsDiscarded server peerSessionId).responseSlots index).deliveryState =
      .inFlight) :
    ((requestsDiscarded server peerSessionId).responseSlots index).txHandle ≠ 0 := by
  unfold requestsDiscarded at used flying ⊢
  have kept := kept_of_cleared_used used
  rw [cleared_response kept] at used flying ⊢
  exact (inv.sound index used).handle flying

theorem requestsDiscarded_cleared (inv : ServerInv server) :
    (requestsDiscarded server peerSessionId).cleared (fun _ => false) (fun index =>
        decide (index < server.responseCount) &&
          (requestsDiscarded server peerSessionId).responseOf peerSessionId index) =
      server.cleared (server.pendingOf peerSessionId) (server.responseOf peerSessionId) := by
  have pendings : (fun index => server.pendingOf peerSessionId index || false) =
      server.pendingOf peerSessionId := funext fun _ => Bool.or_false _
  rw [responseOf_requestsDiscarded, requestsDiscarded, cleared_cleared, pendings]
  congr 1
  funext index
  dsimp only
  cases mine : server.responseOf peerSessionId index with
  | false => rw [Bool.false_and, Bool.false_and, Bool.and_false, Bool.or_false]
  | true =>
    have inside : index < server.responseCount :=
      (inv.sound index (responseOf_iff.mp mine).1).within
    rw [Bool.true_and, Bool.true_and, decide_eq_true inside, Bool.true_and, bne,
      Bool.or_not_self]

/-- Discarding a session zeroes its slots. A request that is still pending counts as such, a response
that is not reserved any more as a response. -/
theorem discardSession_eq (inv : ServerInv server) (nonzero : peerSessionId ≠ 0) :
    wlRpcServerDiscardSession server peerSessionId =
      (server.cleared (server.pendingOf peerSessionId) (server.responseOf peerSessionId),
        .ok
          { pendingDiscarded :=
              (List.range server.pendingSlotCount).countP (server.pendingOf peerSessionId)
            responsesDiscarded :=
              (List.range server.responseCount).countP fun index =>
                server.responseOf peerSessionId index &&
                  (server.responseSlots index).deliveryState != .reserved
            txCancelRequested :=
              ((List.range server.responseCount).filterMap (server.flightOf peerSessionId)).length
            cancelled :=
              (List.range server.responseCount).filterMap (server.flightOf peerSessionId) }) := by
  have loops : wlRpcServerDiscardSession server peerSessionId =
      (let first := (List.range server.pendingSlotCount).foldl (discardPending peerSessionId)
        (server, 0)
      let second := (List.range first.1.responseCount).foldl (discardResponse peerSessionId)
        (first.1, { noDiscard with pendingDiscarded := first.2 })
      (second.1, .ok second.2)) := if_neg nonzero
  have between : server.cleared (discardedPending server peerSessionId server.pendingSlotCount)
      (discardedReserved server peerSessionId server.pendingSlotCount) =
        requestsDiscarded server peerSessionId := by
    rw [discardedPending_all inv, funext (discardedReserved_all inv)]
    rfl
  have count : (requestsDiscarded server peerSessionId).responseCount = server.responseCount := rfl
  rw [loops, discardPending_loop inv, between]
  dsimp only
  rw [discardResponse_loop _ _ (handle_requestsDiscarded inv), count,
    requestsDiscarded_cleared inv, responseOf_requestsDiscarded, flightOf_requestsDiscarded]

end loops

end Wirelink
