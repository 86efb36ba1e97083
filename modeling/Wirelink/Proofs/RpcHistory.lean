/-
Module: Wirelink.Proofs.RpcHistory
Purpose: The history of an RPC server. One step either removes an entry for one of the listed causes
  or keeps it with its status and bytes; so a request is executed at most once as long as its entry is
  kept, and every replay gives what its completion committed.
Trusted boundary: none
-/
import Wirelink.Proofs.RpcMoves

namespace Wirelink

/-! ### One step of an entry

The bytes of an entry lie in an area of its own, which only its completion writes. So a move removes
an entry, or leaves its status and its bytes. -/

/-- What a step that keeps an entry does to it: a completed entry keeps its status and bytes, a
reserved one stays reserved or is completed. -/
structure EntryStep (server : WlRpcServer) (op : ServerOp) (after : WlRpcServer) (index : Nat) :
    Prop where
  kept : EntryKept (server.responseSlots index) (after.responseSlots index)
  content : (server.responseSlots index).deliveryState ≠ .reserved →
    (after.responseSlots index).applicationStatus =
        (server.responseSlots index).applicationStatus ∧
      (after.responseSlots index).responseLength = (server.responseSlots index).responseLength ∧
      after.slotBytes index (server.responseSlots index).responseLength =
        server.slotBytes index (server.responseSlots index).responseLength
  progress : (server.responseSlots index).deliveryState = .reserved →
    (after.responseSlots index).deliveryState = .reserved ∨
      Completes server index (after.responseSlots index).applicationStatus
        (after.slotBytes index (after.responseSlots index).responseLength) op

section entries

variable {server after : WlRpcServer} {op : ServerOp} {index : Nat}

theorem EntryStep.same (held : (server.responseSlots index).active = .history)
    (slot : after.responseSlots index = server.responseSlots index)
    (bytes : (server.responseSlots index).deliveryState ≠ .reserved →
      after.slotBytes index (server.responseSlots index).responseLength =
        server.slotBytes index (server.responseSlots index).responseLength) :
    EntryStep server op after index where
  kept := by
    rw [slot]
    exact ⟨held, rfl, rfl, id⟩
  content moved := ⟨congrArg _ slot, congrArg _ slot, bytes moved⟩
  progress reserved := .inl ((congrArg _ slot).trans reserved)

theorem slotBytes_congr {length : Nat}
    (data : (after.responseSlots index).data = (server.responseSlots index).data)
    (cache : after.responseStorage = server.responseStorage)
    (correlate : after.correlateStorage = server.correlateStorage) :
    after.slotBytes index length = server.slotBytes index length := by
  unfold WlRpcServer.slotBytes WlRpcServer.read
  rw [data, cache, correlate]

theorem EntryStep.unchanged (held : (server.responseSlots index).active = .history)
    (slot : after.responseSlots index = server.responseSlots index)
    (cache : after.responseStorage = server.responseStorage)
    (correlate : after.correlateStorage = server.correlateStorage) :
    EntryStep server op after index :=
  .same held slot fun _ => slotBytes_congr (congrArg _ slot) cache correlate

theorem EntryStep.redelivered {state : DeliveryState} {txHandle : UInt32}
    (held : (server.responseSlots index).active = .history)
    (moved : (server.responseSlots index).deliveryState ≠ .reserved) (onward : state ≠ .reserved)
    (slot : after.responseSlots index =
      { server.responseSlots index with txHandle := txHandle, deliveryState := state })
    (cache : after.responseStorage = server.responseStorage)
    (correlate : after.correlateStorage = server.correlateStorage) :
    EntryStep server op after index where
  kept := by
    rw [slot]
    exact ⟨held, rfl, rfl, fun reserved => absurd reserved onward⟩
  content _ := by
    rw [slotBytes_congr (by rw [slot]) cache correlate, slot]
    exact ⟨rfl, rfl, rfl⟩
  progress reserved := absurd reserved moved

theorem slotBytes_write (inv : ServerInv server) {response offset length : Nat} {bytes : Bytes}
    (used : (server.responseSlots index).active ≠ .free) (apart : response ≠ index)
    (fits : offset + bytes.length ≤ server.layout.capacity response)
    (inside : length ≤ server.layout.capacity index) :
    (server.write { server.layout.data response with
        offset := (server.layout.data response).offset + offset } bytes).slotBytes index length =
      server.slotBytes index length := by
  have areas := server.layout.data_apart apart
  unfold WlRpcServer.slotBytes
  rw [congrFun (write_tables _).2.1 index, (inv.sound index used).data]
  refine read_write_of_apart fun pools => ?_
  dsimp only at pools ⊢
  rcases areas pools with before | behind
  · exact .inl (by omega)
  · exact .inr (by omega)

theorem slotBytes_store (inv : ServerInv server) {response length : Nat} {bytes : Bytes}
    (used : (server.responseSlots index).active ≠ .free)
    (target : (server.responseSlots response).active ≠ .free) (apart : response ≠ index)
    (fits : bytes.length ≤ server.layout.capacity response)
    (inside : length ≤ server.layout.capacity index) :
    (storeResponse server response bytes).slotBytes index length =
      server.slotBytes index length := by
  rw [storeResponse_eq (inv.sound response target).data]
  exact @slotBytes_write server index inv response 0 length bytes used apart
    (by rw [Nat.zero_add]; exact fits) inside

theorem not_kept_of_zero {before : RpcResponseSlot} : ¬ EntryKept before .zero :=
  fun kept => nomatch kept.history

theorem not_kept_of_reserved {before slot : RpcResponseSlot}
    (delivered : before.deliveryState = .delivered) (reserved : slot.deliveryState = .reserved) :
    ¬ EntryKept before slot :=
  fun kept => nomatch delivered.symm.trans (kept.reserved reserved)

theorem entry_expired {nowMs : UInt32} {bound : Nat} :
    ((server.responseSlots index).deliveryState = .delivered ∧
        elapsed nowMs (server.responseSlots index).completedAt server.cacheTtlMs = true ∧
        (server.expireBelow bound nowMs).responseSlots index = .zero) ∨
      (server.expireBelow bound nowMs).responseSlots index = server.responseSlots index := by
  rw [expireBelow_eq]
  cases expires : decide (index < bound) &&
      cacheExpires (server.responseSlots index) nowMs server.cacheTtlMs with
  | false => exact .inr (cleared_response expires)
  | true =>
    obtain ⟨-, delivered, time⟩ := cacheExpires_iff.mp (Bool.and_eq_true_iff.mp expires).2
    exact .inl ⟨delivered, time, cleared_response_zero expires⟩

theorem ServerMove.entry (move : ServerMove server op after) (inv : ServerInv server)
    (held : (server.responseSlots index).active = .history) :
    (¬ EntryKept (server.responseSlots index) (after.responseSlots index) ∧
        RemovalCause server index op) ∨
      EntryStep server op after index := by
  have used : (server.responseSlots index).active ≠ .free := by
    rw [held]
    exact nofun
  have short : (server.responseSlots index).responseLength ≤ server.layout.capacity index :=
    (inv.sound index used).capacity ▸ (inv.sound index used).length
  cases move with
  | kept | observed | reported => exact .inr (.unchanged held rfl rfl rfl)
  | @cleared _ pendings responses _ cause =>
    cases gone : responses index with
    | true =>
      rw [cleared_response_zero gone]
      exact .inl ⟨not_kept_of_zero, cause index gone held⟩
    | false => exact .inr (.unchanged held (cleared_response gone) rfl rfl)
  | @replayed identity nowMs target inside hit moved =>
    by_cases same : index = target
    · subst same
      refine .inr ?_
      by_cases delivered : (server.responseSlots index).deliveryState = .delivered
      · refine @EntryStep.redelivered server _ _ index .ready
          (server.responseSlots index).txHandle held moved nofun ?_ rfl rfl
        rw [if_pos delivered, responseSlots_setResponse, if_pos rfl]
      · refine .unchanged held ?_ rfl rfl
        rw [if_neg delivered, responseSlots_setResponse, if_pos rfl]
    · rcases @entry_expired server index nowMs (target + 1) with
        ⟨delivered, time, zero⟩ | stays
      · rw [responseSlots_setResponse, if_neg same, zero]
        exact .inl ⟨not_kept_of_zero, .expiredBegin delivered time⟩
      · refine .inr (.unchanged held ?_ rfl rfl)
        rw [responseSlots_setResponse, if_neg same]
        exact stays
  | @admitted identity nowMs pending target _ _ _ _ inside room =>
    -- the sweep of the call comes first; the target was free after it or is the oldest of history
    by_cases same : index = target
    · subst same
      refine .inl ?_
      rw [admit_response_self]
      rcases @entry_expired server index nowMs server.cacheSlotCount with
        ⟨delivered, time, -⟩ | stays
      · exact ⟨not_kept_of_reserved delivered rfl, .expiredBegin delivered time⟩
      · rcases room with free | ⟨policy, oldest⟩
        · exact absurd (held.symm.trans ((congrArg _ stays).symm.trans free)) nofun
        · exact ⟨not_kept_of_reserved oldest.1 rfl, .evicted policy oldest⟩
    · have elsewhere := @admit_response_of_ne (server.expiredAll nowMs) identity nowMs pending
        target server.responseCapacity index .history same
      rcases @entry_expired server index nowMs server.cacheSlotCount with
        ⟨delivered, time, zero⟩ | stays
      · rw [elsewhere, WlRpcServer.expiredAll, zero]
        exact .inl ⟨not_kept_of_zero, .expiredBegin delivered time⟩
      · exact .inr (.unchanged held (elsewhere.trans stays) rfl rfl)
  | @correlated identity nowMs pending target _ _ _ _ _ _ free =>
    have apart : index ≠ target := by
      rintro rfl
      exact used free
    exact .inr (.unchanged held (admit_response_of_ne apart) rfl rfl)
  | @filled _ pending response offset bytes reserves fits =>
    refine .inr (.same held (congrFun (write_tables _).2.1 index) fun moved => ?_)
    have apart : response ≠ index := by
      rintro rfl
      exact moved reserves.reserved
    exact slotBytes_write inv used apart fits short
  | @committed _ pending response length status bytes nowMs reserves fits stored completes =>
    -- the entry's own commit completes its bytes; another one writes outside of them
    by_cases same : index = response
    · subst same
      have slot := @committed_response server index length bytes pending index status nowMs
      rw [if_pos rfl] at slot
      have tables := (@storeResponse_tables server index bytes).2.1
      refine .inr ⟨?_, fun moved => absurd reserves.reserved moved, fun _ => .inr ?_⟩
      · rw [slot]
        exact ⟨held, rfl, rfl, nofun⟩
      · have sameBytes : (serverCommitReserved (storeResponse server index bytes) pending index
            status length nowMs).1.slotBytes index length =
              (storeResponse server index bytes).slotBytes index length :=
          slotBytes_congr (by rw [slot, tables]) rfl rfl
        rw [slot]
        rw [sameBytes]
        exact completes
    · have slot := @committed_response server index length bytes pending response status nowMs
      rw [if_neg same] at slot
      refine .inr (.same held slot fun _ => ?_)
      have sameBytes : (serverCommitReserved (storeResponse server response bytes) pending
          response status length nowMs).1.slotBytes index
            (server.responseSlots index).responseLength =
          (storeResponse server response bytes).slotBytes index
            (server.responseSlots index).responseLength := by
        refine slotBytes_congr ?_ rfl rfl
        rw [slot, congrFun storeResponse_tables.2.1 index]
      rw [sameBytes]
      exact slotBytes_store inv used reserves.used (Ne.symm same) stored short
  | @redelivered _ target state txHandle _ moved onward =>
    by_cases same : index = target
    · subst same
      refine .inr (@EntryStep.redelivered server _ _ index state txHandle held moved onward ?_ rfl rfl)
      rw [responseSlots_setResponse, if_pos rfl]
    · refine .inr (.unchanged held ?_ rfl rfl)
      rw [responseSlots_setResponse, if_neg same]

end entries

/-! ### Completions

A call completes one request at most, and only a reserved one. -/

section completions

variable {server : WlRpcServer} {op : ServerOp} {index : Nat} {status other : Int32}
  {bytes others : Bytes}

theorem Completes.reserved (completes : Completes server index status bytes op) :
    (server.responseSlots index).deliveryState = .reserved := by
  cases op with
  | complete | reject | commit =>
    obtain ⟨⟨_, found⟩, -⟩ := completes
    exact (resolved found).1.reserved
  | _ => exact completes.elim

theorem Completes.functional (one : Completes server index status bytes op)
    (two : Completes server index other others op) : other = status ∧ others = bytes := by
  cases op with
  | complete | reject | commit =>
    exact ⟨two.2.2.1.symm.trans one.2.2.1, two.2.2.2.symm.trans one.2.2.2⟩
  | _ => exact one.elim

theorem Completes.ready (completes : Completes server index status bytes op) :
    ((server.step op).responseSlots index).deliveryState = .ready := by
  have committed : ∀ {stored : Bytes} {pending length : Nat} {nowMs : UInt32} {applied : Int32},
      ((serverCommitReserved (storeResponse server index stored) pending index applied length
        nowMs).1.responseSlots index).deliveryState = .ready := by
    intro stored pending length nowMs applied
    rw [committed_response, if_pos rfl]
  have completed : ∀ {request : WlRpcServerRequest} {applied : Int32} {payload : Buffer}
      {nowMs : UInt32} {pending : Nat} {response : WlRpcServerResponse},
      serverResolvePending server request = .ok (pending, index) →
      (wlRpcServerComplete server request applied payload nowMs).2 = .ok response →
      ((wlRpcServerComplete server request applied payload nowMs).1.responseSlots
        index).deliveryState = .ready := by
    intro request applied payload nowMs pending response found done
    rcases serverComplete_cases server request applied payload nowMs with
      ⟨err, -, outcome⟩ | ⟨owner, target, _, resolves, -, outcome⟩
    · exact nomatch (congrArg Prod.snd outcome).symm.trans done
    · obtain ⟨rfl, rfl⟩ := Prod.mk.inj (Except.ok.inj (resolves.symm.trans found))
      rw [outcome]
      exact committed
  cases op with
  | complete =>
    obtain ⟨⟨pending, found⟩, ⟨response, done⟩, -⟩ := completes
    exact completed found done
  | reject request applicationStatus payload nowMs =>
    obtain ⟨⟨_, found⟩, ⟨_, done⟩, -⟩ := completes
    show ((wlRpcServerReject server request applicationStatus payload nowMs).1.responseSlots
      index).deliveryState = .ready
    unfold wlRpcServerReject at done ⊢
    split at done
    · exact nomatch done
    · rename_i nonzero
      rw [if_neg nonzero]
      exact completed found done
  | commit buffer applicationStatus responseLength nowMs =>
    obtain ⟨⟨_, found⟩, ⟨_, done⟩, -⟩ := completes
    rcases serverCommit_cases server buffer applicationStatus responseLength nowMs with
      ⟨err, -, outcome⟩ | ⟨owner, target, _, resolves, -, outcome⟩
    · exact nomatch (congrArg Prod.snd outcome).symm.trans done
    · obtain ⟨rfl, rfl⟩ := Prod.mk.inj (Except.ok.inj (resolves.symm.trans found))
      show ((wlRpcServerResponseCommit server buffer applicationStatus responseLength
        nowMs).1.responseSlots target).deliveryState = .ready
      rw [outcome]
      have moved := @committed [] owner responseLength nowMs applicationStatus
      rw [storeResponse_nil] at moved
      exact moved
  | _ => exact completes.elim

end completions

/-! ### Runs

Along a run an entry is reserved, then completed once, and unchanged from then on, until some call
removes it. -/

/-- How the entry of a slot stands after a run in which it was kept. -/
structure EntryRun (admitted : WlRpcServer) (index : Nat) (identity : WlRpcRequestIdentity)
    (ops : List ServerOp) : Prop where
  held : ((runServer admitted ops).responseSlots index).active = .history
  identity : ((runServer admitted ops).responseSlots index).identity = identity
  reserved : ((runServer admitted ops).responseSlots index).deliveryState = .reserved →
    ∀ (count : Nat) (inside : count < ops.length) (status : Int32) (bytes : Bytes),
      ¬ Completes (runServer admitted (ops.take count)) index status bytes ops[count]
  completed : ((runServer admitted ops).responseSlots index).deliveryState ≠ .reserved →
    CompletedWith admitted ops index
      ((runServer admitted ops).responseSlots index).applicationStatus
      ((runServer admitted ops).slotBytes index
        ((runServer admitted ops).responseSlots index).responseLength)

section runs

variable {admitted : WlRpcServer} {index : Nat} {identity : WlRpcRequestIdentity}
  {ops : List ServerOp} {op : ServerOp}

theorem runServer_append (server : WlRpcServer) (first second : List ServerOp) :
    runServer server (first ++ second) = runServer (runServer server first) second :=
  List.foldl_append

theorem forall_append_singleton {Holds : WlRpcServer → ServerOp → Prop}
    (before : ∀ (count : Nat) (inside : count < ops.length),
      Holds (runServer admitted (ops.take count)) ops[count])
    (last : Holds (runServer admitted ops) op) (count : Nat)
    (inside : count < (ops ++ [op]).length) :
    Holds (runServer admitted ((ops ++ [op]).take count)) (ops ++ [op])[count] := by
  rw [List.length_append, List.length_singleton] at inside
  rcases Nat.lt_succ_iff_lt_or_eq.mp inside with earlier | rfl
  · rw [List.take_append_of_le_length (Nat.le_of_lt earlier), List.getElem_append_left earlier]
    exact before count earlier
  · rw [List.take_left, List.getElem_concat_length rfl]
    exact last

theorem exists_append_left {Holds : WlRpcServer → ServerOp → Prop}
    (before : ∃ (count : Nat) (inside : count < ops.length),
      Holds (runServer admitted (ops.take count)) ops[count]) :
    ∃ (count : Nat) (inside : count < (ops ++ [op]).length),
      Holds (runServer admitted ((ops ++ [op]).take count)) (ops ++ [op])[count] := by
  obtain ⟨count, inside, holds⟩ := before
  refine ⟨count, by rw [List.length_append]; omega, ?_⟩
  rw [List.take_append_of_le_length (Nat.le_of_lt inside), List.getElem_append_left inside]
  exact holds

theorem exists_append_last {Holds : WlRpcServer → ServerOp → Prop}
    (last : Holds (runServer admitted ops) op) :
    ∃ (count : Nat) (inside : count < (ops ++ [op]).length),
      Holds (runServer admitted ((ops ++ [op]).take count)) (ops ++ [op])[count] := by
  refine ⟨ops.length, by rw [List.length_append]; exact Nat.lt_succ_self _, ?_⟩
  rw [List.take_left, List.getElem_concat_length rfl]
  exact last

theorem EntryRun.step (run : EntryRun admitted index identity ops)
    (step : EntryStep (runServer admitted ops) op ((runServer admitted ops).step op) index) :
    EntryRun admitted index identity (ops ++ [op]) := by
  have next : runServer admitted (ops ++ [op]) = (runServer admitted ops).step op :=
    runServer_append admitted ops [op]
  refine ⟨?_, ?_, fun stillReserved => ?_, fun moved => ?_⟩
  · rw [next]
    exact step.kept.history
  · rw [next]
    exact step.kept.identity.trans run.identity
  · rw [next] at stillReserved
    have before := run.reserved (step.kept.reserved stillReserved)
    refine @forall_append_singleton admitted ops op
      (fun server call => ∀ status bytes, ¬ Completes server index status bytes call) before ?_
    intro status bytes completes
    exact nomatch completes.ready.symm.trans stillReserved
  · rw [next] at moved ⊢
    by_cases reserved : ((runServer admitted ops).responseSlots index).deliveryState = .reserved
    · -- this call has completed the request
      have before := run.reserved reserved
      have completes := (step.progress reserved).resolve_left moved
      refine ⟨@exists_append_last admitted ops op
        (fun server call => Completes server index _ _ call) completes, ?_⟩
      refine @forall_append_singleton admitted ops op
        (fun server call => ∀ other others, Completes server index other others call →
          other = _ ∧ others = _)
        (fun count inside other others earlier => absurd earlier (before count inside other others))
        fun other others last => completes.functional last
    · obtain ⟨status, length, bytes⟩ := step.content reserved
      rw [status, length, bytes]
      obtain ⟨some, all⟩ := run.completed reserved
      refine ⟨@exists_append_left admitted ops op
        (fun server call => Completes server index _ _ call) some, ?_⟩
      exact @forall_append_singleton admitted ops op
        (fun server call => ∀ other others, Completes server index other others call →
          other = _ ∧ others = _) all
        fun other others last => absurd last.reserved reserved

/-- Along any run an entry is kept, or some call removes it for one of the causes. -/
theorem entry_run (inv : ServerInv admitted)
    (held : (admitted.responseSlots index).active = .history)
    (sameIdentity : (admitted.responseSlots index).identity = identity)
    (reserved : (admitted.responseSlots index).deliveryState = .reserved) (ops : List ServerOp) :
    (∃ (count : Nat) (inside : count < ops.length),
        RemovedBy (runServer admitted (ops.take count)) index ops[count]) ∨
      EntryRun admitted index identity ops := by
  induction ops using List.reverseRecOn with
  | nil =>
    exact .inr ⟨held, sameIdentity, (nofun),
      fun moved => absurd reserved moved⟩
  | append_singleton ops op ih =>
    rcases ih with removed | run
    · exact .inl (@exists_append_left admitted ops op (fun server call =>
        RemovedBy server index call) removed)
    have current := inv.run ops
    rcases (step_move current op).entry current run.held with ⟨gone, cause⟩ | step
    · exact .inl (@exists_append_last admitted ops op
        (fun server call => RemovedBy server index call)
        ⟨⟨current.history_inside run.held, run.held⟩, gone, cause⟩)
    · exact .inr (run.step step)

end runs

/-! ### Answers

A begin looks for its key among the pending requests and then in the cache. As long as the entry of
the key is kept, both looks lead to it. -/

section answers

variable {server : WlRpcServer} {index : Nat} {later : WlRpcRequestIdentity} {nowMs : UInt32}

section

variable (inv : ServerInv server)

include inv

variable (held : (server.responseSlots index).active = .history)

include held

theorem pendingHit_owner (key : identityKeyEqual (server.responseSlots index).identity later = true)
    {pending : Nat} (hit : server.pendingHit later pending = true) :
    Reserves server pending index := by
  obtain ⟨response, reserves, history, same⟩ := (pendingHit_iff inv).mp hit
  have one := inv.keys response index history held
    (identityKeyEqual_trans same (identityKeyEqual_comm key))
  rw [← one]
  exact reserves

/-- A request whose key is pending is a duplicate of it, or in conflict with it. -/
theorem begin_of_reserved (reserved : (server.responseSlots index).deliveryState = .reserved)
    (key : identityKeyEqual (server.responseSlots index).identity later = true)
    (valid : identityValid later = true) :
    wlRpcServerBegin server later nowMs =
      (server, .ok (if identityEqual (server.responseSlots index).identity later then
        .pendingDuplicate else .conflict)) := by
  have used : (server.responseSlots index).active ≠ .free := by rw [held]; exact nofun
  obtain ⟨pending, reserves⟩ := inv.owned index used reserved
  have found := Slots.find?_range_eq_some_of_unique (inv.owner pending reserves.active).1
    ((pendingHit_iff inv).mpr ⟨index, reserves, held, key⟩) fun other _ hit =>
      inv.once other pending index (pendingHit_owner inv held key hit) reserves
  rw [begin_pending valid found, reserves.identity]

theorem no_pendingHit (moved : (server.responseSlots index).deliveryState ≠ .reserved)
    (key : identityKeyEqual (server.responseSlots index).identity later = true) :
    (List.range server.pendingSlotCount).find? (server.pendingHit later) = none :=
  List.find?_eq_none.mpr fun _ _ hit => moved (pendingHit_owner inv held key hit).reserved

theorem cacheHit_entry (key : identityKeyEqual (server.responseSlots index).identity later = true)
    {other : Nat} (inside : other < server.cacheSlotCount)
    (hit : server.cacheHit later nowMs other = true) : other = index := by
  obtain ⟨-, used, same⟩ := cacheHit_iff.mp hit
  exact inv.keys other index ((inv.history_iff used).mpr inside) held
    (identityKeyEqual_trans same (identityKeyEqual_comm key))

theorem begin_of_completed (moved : (server.responseSlots index).deliveryState ≠ .reserved)
    (key : identityKeyEqual (server.responseSlots index).identity later = true)
    (valid : identityValid later = true)
    (stays : cacheExpires (server.responseSlots index) nowMs server.cacheTtlMs = false) :
    wlRpcServerBegin server later nowMs =
      beginCached (server.expireBelow (index + 1) nowMs) later index := by
  have used : (server.responseSlots index).active ≠ .free := by rw [held]; exact nofun
  refine begin_cached valid (no_pendingHit inv held moved key) ?_
  exact Slots.find?_range_eq_some_of_unique (inv.history_inside held)
    (cacheHit_iff.mpr ⟨stays, used, key⟩) fun other inside hit =>
      cacheHit_entry inv held key inside hit

theorem begin_removes_expired
    (key : identityKeyEqual (server.responseSlots index).identity later = true)
    (valid : identityValid later = true)
    (expires : cacheExpires (server.responseSlots index) nowMs server.cacheTtlMs = true) :
    RemovedBy server index (.begin later nowMs) := by
  obtain ⟨-, delivered, time⟩ := cacheExpires_iff.mp expires
  have moved : (server.responseSlots index).deliveryState ≠ .reserved := by
    rw [delivered]
    exact nofun
  have inside := inv.history_inside held
  have missed : (List.range server.cacheSlotCount).find? (server.cacheHit later nowMs) = none := by
    refine List.find?_eq_none.mpr fun other member hit => ?_
    have same := cacheHit_entry inv held key (List.mem_range.mp member) hit
    rw [same] at hit
    exact absurd (expires.symm.trans (cacheHit_iff.mp hit).1) Bool.true_eq_false.mp
  have zero : (server.expiredAll nowMs).responseSlots index = .zero := by
    rw [WlRpcServer.expiredAll, expireBelow_eq]
    exact cleared_response_zero (by rw [decide_eq_true inside, expires]; rfl)
  refine ⟨⟨inside, held⟩, ?_, .expiredBegin delivered time⟩
  show ¬ EntryKept _ ((wlRpcServerBegin server later nowMs).1.responseSlots index)
  rw [begin_admission valid (no_pendingHit inv held moved key) missed]
  unfold beginAdmission
  split
  · rw [zero]
    exact not_kept_of_zero
  split
  · rw [zero]
    exact not_kept_of_zero
  · rename_i target _
    by_cases same : index = target
    · subst same
      rw [admit_response_self]
      exact not_kept_of_reserved delivered rfl
    · rw [admit_response_of_ne same, zero]
      exact not_kept_of_zero

end

theorem beginCached_answer {bound : Nat} {identity : WlRpcRequestIdentity}
    (same : (server.responseSlots index).identity = identity)
    (stays : cacheExpires (server.responseSlots index) nowMs server.cacheTtlMs = false) :
    (later = identity →
      ∃ response,
        (beginCached (server.expireBelow bound nowMs) later index).2 = .ok (.replay response) ∧
        response.applicationStatus = (server.responseSlots index).applicationStatus ∧
        (beginCached (server.expireBelow bound nowMs) later index).1.responseBytes response =
          server.slotBytes index (server.responseSlots index).responseLength) ∧
    (later ≠ identity →
      (beginCached (server.expireBelow bound nowMs) later index).2 = .ok .conflict) := by
  unfold beginCached
  rw [expireBelow_response stays]
  constructor
  · intro again
    rw [if_pos (identityEqual_iff.mpr (same.trans again.symm))]
    refine ⟨_, rfl, ?_, ?_⟩
    · split <;> rfl
    · split <;> rfl
  · intro different
    rw [if_neg fun equal => different ((identityEqual_iff.mp equal).symm.trans same)]

end answers

theorem begin_new {server : WlRpcServer} (inv : ServerInv server)
    {identity : WlRpcRequestIdentity} {nowMs : UInt32} {request : WlRpcServerRequest}
    (new : (wlRpcServerBegin server identity nowMs).2 = .ok (.new request)) :
    identityValid identity = true ∧ request = server.nextRequest identity ∧
      ∃ pending target, pending < server.pendingSlotCount ∧ target < server.cacheSlotCount ∧
        (wlRpcServerBegin server identity nowMs).1 =
          (server.expiredAll nowMs).reserveFor identity nowMs pending target server.responseCapacity
            .history := by
  cases valid : identityValid identity with
  | false =>
    rw [wlRpcServerBegin, if_pos (by rw [valid]; exact Bool.false_ne_true)] at new
    cases new
  | true =>
    cases pendingFound :
        (List.range server.pendingSlotCount).find? (server.pendingHit identity) with
    | some =>
      rw [begin_pending valid pendingFound] at new
      split at new <;> cases new
    | none =>
      cases cacheFound :
          (List.range server.cacheSlotCount).find? (server.cacheHit identity nowMs) with
      | some =>
        rw [begin_cached valid pendingFound cacheFound, beginCached] at new
        split at new <;> cases new
      | none =>
        rw [begin_admission valid pendingFound cacheFound] at new ⊢
        unfold beginAdmission at new ⊢
        cases free : (server.expiredAll nowMs).freePending with
        | none =>
          rw [free] at new
          cases new
        | some pending =>
          rw [free] at new
          cases room : (server.expiredAll nowMs).cacheTarget with
          | none =>
            rw [room] at new
            cases new
          | some target =>
            rw [room] at new
            have token := RpcDisposition.new.inj (Except.ok.inj new)
            exact ⟨rfl, token.symm, pending, target,
              List.mem_range.mp (List.mem_of_find?_eq_some free),
              (cacheTarget_room inv room).1, rfl⟩

theorem EntryRun.answered {admitted : WlRpcServer} {index : Nat}
    {identity later : WlRpcRequestIdentity} {ops : List ServerOp} {nowMs : UInt32}
    (run : EntryRun admitted index identity ops) (inv : ServerInv (runServer admitted ops))
    (key : identityKeyEqual identity later = true) :
    RemovedBy (runServer admitted ops) index (.begin later nowMs) ∨
      AnsweredFromEntry admitted ops index identity later nowMs := by
  have used : ((runServer admitted ops).responseSlots index).active ≠ .free := by
    rw [run.held]
    exact nofun
  have valid : identityValid identity = true := run.identity ▸ (inv.sound index used).valid
  rw [← run.identity] at key
  unfold AnsweredFromEntry
  cases validLater : identityValid later with
  | false =>
    have different : later ≠ identity := by
      rintro rfl
      exact Bool.false_ne_true (validLater.symm.trans valid)
    refine .inr ?_
    rw [wlRpcServerBegin, if_pos (by rw [validLater]; exact Bool.false_ne_true)]
    dsimp only
    rw [if_neg different, if_neg Bool.false_ne_true]
  | true =>
    by_cases reserved :
        ((runServer admitted ops).responseSlots index).deliveryState = .reserved
    · refine .inr ?_
      rw [begin_of_reserved inv run.held reserved key validLater, run.identity]
      dsimp only
      by_cases same : later = identity
      · rw [if_pos same, if_pos (identityEqual_iff.mpr same.symm)]
        exact .inl rfl
      · rw [if_neg same, if_pos rfl,
          if_neg fun equal => same (identityEqual_iff.mp equal).symm]
    · cases expires : cacheExpires ((runServer admitted ops).responseSlots index) nowMs
          (runServer admitted ops).cacheTtlMs with
      | true => exact .inl (begin_removes_expired inv run.held key validLater expires)
      | false =>
        refine .inr ?_
        obtain ⟨again, differs⟩ := @beginCached_answer (runServer admitted ops) index later nowMs
          (index + 1) identity run.identity expires
        rw [begin_of_completed inv run.held reserved key validLater expires]
        dsimp only
        by_cases same : later = identity
        · obtain ⟨response, replayed, status, bytes⟩ := again same
          rw [if_pos same]
          refine .inr ⟨response, replayed, ?_⟩
          rw [status, bytes]
          exact run.completed reserved
        · rw [if_neg same, if_pos rfl]
          exact differs same

/-- After a request was admitted, a begin with its key is answered from its entry: as a duplicate, as
a replay of what its completion committed, or as a conflict. Otherwise some call since then, or this
begin, has removed the entry, and only for one of the causes. No two entries share a key. -/
theorem request_executes_once {server : WlRpcServer} (reachable : ServerReachable server) :
    (∀ first second, HoldsEntry server first → HoldsEntry server second →
      identityKeyEqual (server.responseSlots first).identity
        (server.responseSlots second).identity = true → first = second) ∧
    ∀ identity startMs request,
      (wlRpcServerBegin server identity startMs).2 = .ok (.new request) →
      ∃ index, HoldsEntry (wlRpcServerBegin server identity startMs).1 index ∧
        ((wlRpcServerBegin server identity startMs).1.responseSlots index).identity = identity ∧
        ((wlRpcServerBegin server identity startMs).1.responseSlots index).generation =
          request.generation ∧
        ∀ ops later nowMs, identityKeyEqual identity later = true →
          (∃ (count : Nat) (inside : count < ops.length),
            RemovedBy (runServer (wlRpcServerBegin server identity startMs).1 (ops.take count))
              index ops[count]) ∨
          RemovedBy (runServer (wlRpcServerBegin server identity startMs).1 ops) index
            (.begin later nowMs) ∨
          AnsweredFromEntry (wlRpcServerBegin server identity startMs).1 ops index identity later
            nowMs := by
  have inv := reachable.inv
  refine ⟨fun first second one two => inv.keys first second one.2 two.2, ?_⟩
  intro identity startMs request new
  have next : ServerInv (wlRpcServerBegin server identity startMs).1 :=
    inv.step (.begin identity startMs)
  obtain ⟨-, token, _, target, -, _, outcome⟩ := begin_new inv new
  have slot : (wlRpcServerBegin server identity startMs).1.responseSlots target = _ :=
    (congrArg (fun after => after.responseSlots target) outcome).trans admit_response_self
  have held : ((wlRpcServerBegin server identity startMs).1.responseSlots target).active =
      .history := congrArg RpcResponseSlot.active slot
  refine ⟨target, ⟨next.history_inside held, held⟩, congrArg RpcResponseSlot.identity slot, ?_, ?_⟩
  · rw [token]
    exact congrArg RpcResponseSlot.generation slot
  · intro ops later nowMs key
    rcases entry_run next held (congrArg RpcResponseSlot.identity slot)
      (congrArg RpcResponseSlot.deliveryState slot) ops with removed | run
    · exact .inl removed
    · exact .inr (run.answered (next.run ops) key)

/-- A small server meets the hypotheses: it admits a request, and answers the same request later. -/
theorem small_request_executes_once :
    (wlRpcServerBegin (smallServer 1) smallIdentity 0).2 =
        .ok (.new { identity := smallIdentity, generation := 1 }) ∧
      ∃ index, HoldsEntry (wlRpcServerBegin (smallServer 1) smallIdentity 0).1 index ∧
        (RemovedBy (wlRpcServerBegin (smallServer 1) smallIdentity 0).1 index
            (.begin smallIdentity 3) ∨
          AnsweredFromEntry (wlRpcServerBegin (smallServer 1) smallIdentity 0).1 [] index
            smallIdentity smallIdentity 3) := by
  have new : (wlRpcServerBegin (smallServer 1) smallIdentity 0).2 =
      .ok (.new { identity := smallIdentity, generation := 1 }) := rfl
  obtain ⟨index, held, -, -, answers⟩ :=
    (request_executes_once smallServer_reachable).2 smallIdentity 0 _ new
  refine ⟨new, index, held, ?_⟩
  rcases answers [] smallIdentity 3 rfl with ⟨_, none, _⟩ | answer
  · exact nomatch none
  · exact answer

end Wirelink
