/-
Module: Wirelink.Proofs.RpcToken
Purpose: The reservations of an RPC server: pending requests and reserved responses correspond, a
  live request can always be completed, correlate slots come back, and a token that was once dead
  stays dead as long as the generations have not gone round.
Trusted boundary: none
-/
import Wirelink.Proofs.RpcHistory
import Wirelink.Proofs.RpcSession

namespace Wirelink

/-! ### Where live tokens come from

Only an admission makes a token live, and that token has the generation it has drawn. -/

section live

variable {server after : WlRpcServer} {op : ServerOp} {request : WlRpcServerRequest}

theorem live_of_pendings (live : TokenLive after request)
    (count : after.pendingSlotCount = server.pendingSlotCount)
    (from_before : ∀ index, (after.pendingSlots index).active = true →
      SameRequest (server.pendingSlots index) (after.pendingSlots index)) :
    TokenLive server request := by
  obtain ⟨pending, inside, active, same⟩ := live
  have before := from_before pending active
  rw [requestEqual_iff] at same
  exact ⟨pending, count ▸ inside, before.active.symm.trans active, requestEqual_iff.mpr
    ⟨same.1.trans before.generation, same.2.trans before.identity⟩⟩

theorem SameRequest.of_eq {before later : RpcPending} (same : later = before) :
    SameRequest before later := by
  rw [same]
  exact ⟨rfl, rfl, rfl, rfl⟩

theorem live_of_admit {identity : WlRpcRequestIdentity} {nowMs : UInt32}
    {pending target capacity : Nat} {use : ResponseUse}
    (live : TokenLive (server.reserveFor identity nowMs pending target capacity use) request) :
    TokenLive server request ∨
      request.generation = (serverNextGeneration server.nextGeneration).1 := by
  obtain ⟨index, inside, active, same⟩ := live
  by_cases here : index = pending
  · subst here
    rw [admit_pending_self, requestEqual_iff] at same
    exact .inr same.1
  · rw [admit_pending_of_ne here] at active same
    exact .inl ⟨index, inside, active, same⟩

/-- A token that is live after a move was live before, or the move admits a request and gives it the
token's generation. -/
theorem ServerMove.live (move : ServerMove server op after) (live : TokenLive after request) :
    TokenLive server request ∨
      op.admits server = true ∧
        request.generation = (serverNextGeneration server.nextGeneration).1 := by
  cases move with
  | kept | observed | replayed | redelivered => exact .inl live
  | cleared =>
    refine .inl (live_of_pendings live rfl fun index active => ?_)
    exact .of_eq (cleared_pending (kept_of_cleared_active active))
  | admitted admits | correlated admits =>
    rcases live_of_admit live with before | issued
    · exact .inl before
    · exact .inr ⟨admits, issued⟩
  | filled =>
    refine .inl (live_of_pendings live (write_room _).pendingSlotCount fun index _ => ?_)
    exact .of_eq (congrFun (write_tables _).1 index)
  | @committed _ pending response length status bytes nowMs =>
    refine .inl (live_of_pendings live
      (@storeResponse_room server response bytes).pendingSlotCount fun index active => .of_eq ?_)
    have table : (serverCommitReserved (storeResponse server response bytes) pending response
        status length nowMs).1.pendingSlots index = _ :=
      pendingSlots_setPending _ pending index _
    rw [table] at active ⊢
    split at active
    · exact nomatch active
    · rename_i other
      rw [if_neg other]
      exact congrFun storeResponse_tables.1 index
  | reported => exact .inl (live_of_pendings live rfl fun _ _ => reported_request)

theorem ServerMove.nextGeneration (move : ServerMove server op after) :
    after.nextGeneration = server.nextGeneration ∨
      op.admits server = true ∧
        after.nextGeneration = (serverNextGeneration server.nextGeneration).2 := by
  cases move with
  | kept | observed | cleared | replayed | redelivered | reported => exact .inl rfl
  | admitted admits | correlated admits => exact .inr ⟨admits, rfl⟩
  | filled => exact .inl (write_tables _).2.2
  | committed => exact .inl storeResponse_tables.2.2

end live

/-! ### Generations go round

The counter leaves zero out, so that it comes round after 2 ^ 64 - 1 draws. -/

/-- The number of generations: zero is left out. -/
def generationPeriod : Nat := 2 ^ 64 - 1

/-- The place of the generation that is issued next. -/
def generationIndex (next : UInt64) : Nat :=
  (serverNextGeneration next).1.toNat - 1

theorem serverNextGeneration_toNat (next : UInt64) :
    (serverNextGeneration next).1.toNat = generationIndex next + 1 := by
  have nonzero := serverNextGeneration_ne_zero next
  have positive : (serverNextGeneration next).1.toNat ≠ 0 := fun zero =>
    nonzero (UInt64.toNat_inj.mp zero)
  unfold generationIndex
  omega

theorem generationIndex_next (next : UInt64) :
    generationIndex (serverNextGeneration next).2 =
      (generationIndex next + 1) % generationPeriod := by
  have bound := next.toNat_lt
  unfold generationIndex generationPeriod serverNextGeneration
  by_cases zero : next = 0
  · subst zero
    decide
  · rw [if_neg zero]
    dsimp only
    have positive : next.toNat ≠ 0 := fun isZero => zero (UInt64.toNat_inj.mp isZero)
    by_cases last : next + 1 = 0
    · rw [last, if_pos rfl]
      have value := congrArg UInt64.toNat last
      rw [UInt64.toNat_add] at value
      have top : next.toNat = 2 ^ 64 - 1 := by
        simp only [UInt64.reduceToNat] at value
        omega
      rw [top]
      decide
    · rw [if_neg last]
      have small : next.toNat + 1 < 2 ^ 64 := by
        by_contra large
        apply last
        apply UInt64.toNat_inj.mp
        rw [UInt64.toNat_add]
        have top : next.toNat = 2 ^ 64 - 1 := by omega
        rw [top]
        decide
      have sum : (next + 1).toNat = next.toNat + 1 := by
        exact Nat.mod_eq_of_lt small
      rw [sum,
        Nat.sub_add_cancel (Nat.one_le_iff_ne_zero.mpr positive)]
      omega

/-! ### Dead tokens

To come back to life, a dead token needs a whole round of admissions. -/

section dead

variable {server : WlRpcServer} {request : WlRpcServerRequest} {place passed : Nat}

theorem admissions_append (server : WlRpcServer) (first second : List ServerOp) :
    admissions server (first ++ second) =
      admissions server first + admissions (runServer server first) second := by
  induction first generalizing server with
  | nil => rw [ admissions, Nat.zero_add]; rfl
  | cons op first ih =>
    rw [List.cons_append, admissions, admissions, ih, Nat.add_assoc]
    rfl

/-- Where the generations are after a run, counted from some place: no further than requests were
admitted. -/
theorem place_run (inv : ServerInv server)
    (start : generationIndex server.nextGeneration = (place + passed) % generationPeriod)
    (ops : List ServerOp) :
    ∃ more, more ≤ admissions server ops ∧
      generationIndex (runServer server ops).nextGeneration =
        (place + passed + more) % generationPeriod := by
  induction ops generalizing server passed with
  | nil => exact ⟨0, Nat.le_refl 0, start⟩
  | cons op ops ih =>
    rcases (step_move inv op).nextGeneration with same | ⟨admits, drawn⟩
    · obtain ⟨more, few, index⟩ := ih (inv.step op) (same ▸ start)
      exact ⟨more, Nat.le_trans few (Nat.le_add_left _ _), index⟩
    · have next : generationIndex (server.step op).nextGeneration =
          (place + (passed + 1)) % generationPeriod := by
        rw [drawn, generationIndex_next, start, Nat.mod_add_mod, Nat.add_assoc]
      obtain ⟨more, few, index⟩ := ih (inv.step op) next
      refine ⟨more + 1, ?_, ?_⟩
      · rw [admissions, if_pos admits, Nat.add_comm]
        exact Nat.add_le_add_left few 1
      · rw [show runServer server (op :: ops) = runServer (server.step op) ops from rfl, index]
        congr 1
        omega

theorem dead_run (inv : ServerInv server) (dead : ¬ TokenLive server request)
    (token : request.generation.toNat = place + 1)
    (start : generationIndex server.nextGeneration = (place + 1 + passed) % generationPeriod)
    (ops : List ServerOp) (few : passed + admissions server ops < generationPeriod) :
    ¬ TokenLive (runServer server ops) request := by
  induction ops generalizing server passed with
  | nil => exact dead
  | cons op ops ih =>
    rw [admissions] at few
    have deadNext : ¬ TokenLive (server.step op) request := by
      intro live
      rcases (step_move inv op).live live with before | ⟨admits, issued⟩
      · exact dead before
      · -- the same generation again: a whole period has passed
        rw [if_pos admits] at few
        have index := congrArg UInt64.toNat issued
        rw [ serverNextGeneration_toNat] at index
        have wrapped := Nat.mod_add_div (place + 1 + passed) generationPeriod
        have whole : generationPeriod * ((place + 1 + passed) / generationPeriod) =
            passed + 1 := by omega
        have once : 1 ≤ (place + 1 + passed) / generationPeriod := by
          by_contra none
          have zero : (place + 1 + passed) / generationPeriod = 0 :=
            Nat.lt_one_iff.mp (Nat.not_le.mp none)
          rw [zero] at whole
          omega
        have large := Nat.mul_le_mul_left generationPeriod once
        omega
    rcases (step_move inv op).nextGeneration with same | ⟨admits, drawn⟩
    · exact ih (inv.step op) deadNext (same ▸ start) (by omega)
    · rw [if_pos admits] at few
      have next : generationIndex (server.step op).nextGeneration =
          (place + 1 + (passed + 1)) % generationPeriod := by
        rw [drawn, generationIndex_next, start, Nat.mod_add_mod, Nat.add_assoc]
      exact ih (inv.step op) deadNext next (by omega)

end dead

/-! ### Tokens that are issued -/

section issued

variable {server : WlRpcServer} {op : ServerOp} {request : WlRpcServerRequest}

variable {identity : WlRpcRequestIdentity} {nowMs : UInt32}

theorem begin_of_issues (issued : (ServerOp.begin identity nowMs).issues server = some request) :
    (wlRpcServerBegin server identity nowMs).2 = .ok (.new request) := by
  dsimp only [ServerOp.issues] at issued
  cases outcome : (wlRpcServerBegin server identity nowMs).2 with
  | error =>
    rw [outcome] at issued
    exact nomatch issued
  | ok disposition =>
    rw [outcome] at issued
    cases disposition with
    | new => rw [Option.some.inj issued]
    | pendingDuplicate | replay | conflict => exact nomatch issued

theorem correlate_of_issues
    (issued : (ServerOp.beginCorrelate identity nowMs).issues server = some request) :
    (wlRpcServerBeginCorrelate server identity nowMs).2 = .ok request := by
  dsimp only [ServerOp.issues] at issued
  cases outcome : (wlRpcServerBeginCorrelate server identity nowMs).2 with
  | error =>
    rw [outcome] at issued
    exact nomatch issued
  | ok =>
    rw [outcome] at issued
    rw [Option.some.inj issued]

theorem correlate_new
    (new : (wlRpcServerBeginCorrelate server identity nowMs).2 = .ok request) :
    request = server.nextRequest identity ∧
      ∃ pending target,
        (wlRpcServerBeginCorrelate server identity nowMs).1 =
          server.reserveFor identity nowMs pending target server.correlateCapacity .correlate := by
  unfold wlRpcServerBeginCorrelate at new ⊢
  split at new
  · exact nomatch new
  rename_i accepted
  rw [if_neg accepted]
  cases free : server.freePending with
  | none =>
    rw [free] at new
    exact nomatch new
  | some pending =>
    rw [free] at new
    cases found : (List.range' server.cacheSlotCount server.correlateSlotCount).find?
        fun index => (server.responseSlots index).active == .free with
    | none =>
      rw [found] at new
      exact nomatch new
    | some target =>
      rw [found] at new
      exact ⟨(Except.ok.inj new).symm, pending, target, rfl⟩

theorem issues_generation (inv : ServerInv server) (issued : op.issues server = some request) :
    request.generation = (serverNextGeneration server.nextGeneration).1 ∧
      (server.step op).nextGeneration = (serverNextGeneration server.nextGeneration).2 := by
  cases op with
  | begin =>
    obtain ⟨-, token, _, _, -, -, outcome⟩ := begin_new inv (begin_of_issues issued)
    exact ⟨by rw [token]; rfl, congrArg WlRpcServer.nextGeneration outcome⟩
  | beginCorrelate =>
    obtain ⟨token, _, _, outcome⟩ := correlate_new (correlate_of_issues issued)
    exact ⟨by rw [token]; rfl, congrArg WlRpcServer.nextGeneration outcome⟩
  | _ => exact nomatch issued

/-- A token that was dead once is refused as long as fewer requests than there are generations were
admitted since it was issued. -/
theorem dead_token_rejected (inv : ServerInv server) (issued : op.issues server = some request)
    (first second : List ServerOp)
    (few : admissions (server.step op) (first ++ second) < generationPeriod)
    (dead : ¬ TokenLive (runServer (server.step op) first) request) :
    RejectsToken (runServer (server.step op) (first ++ second)) request := by
  obtain ⟨generation, next⟩ := issues_generation inv issued
  have token : request.generation.toNat = generationIndex server.nextGeneration + 1 := by
    rw [generation]
    exact serverNextGeneration_toNat server.nextGeneration
  have start : generationIndex (server.step op).nextGeneration =
      (generationIndex server.nextGeneration + 1 + 0) % generationPeriod := by
    rw [next, generationIndex_next]
  obtain ⟨_, _, place⟩ := place_run (inv.step op) start first
  have current := (inv.step op).run first
  rw [admissions_append] at few
  rw [runServer_append]
  refine rejects_of_not_live (current.run second) ?_
  exact dead_run current dead token place second (by omega)

end issued

/-! ### Completions of live requests

A live request has its response reserved, so that a completion is refused only for its arguments or
its size. -/

section completable

variable {server : WlRpcServer} {request : WlRpcServerRequest} {status : Int32} {payload : Buffer}
  {nowMs : UInt32} {err : WlRpcErr}

variable (inv : ServerInv server)

include inv

theorem resolve_error (failed : serverResolvePending server request = .error err) :
    err = .notFound := by
  rcases @resolve_eq server request inv with ⟨_, _, found⟩ | ⟨missing, -⟩
  · exact nomatch found.symm.trans failed
  · exact (Except.error.inj (missing.symm.trans failed)).symm

theorem RefusedAs.completionErrors (refused : RefusedAs server request err) :
    err ∈ completionErrors := by
  rcases refused with rfl | rfl | rfl | missing
  · decide
  · decide
  · decide
  · rw [resolve_error inv missing]
    decide

theorem complete_errors
    (failed : (wlRpcServerComplete server request status payload nowMs).2 = .error err) :
    err ∈ completionErrors := by
  rcases serverComplete_cases server request status payload nowMs with
    ⟨_, refused, outcome⟩ | ⟨_, _, _, -, -, outcome⟩
  · rw [outcome] at failed
    exact Except.error.inj failed ▸ refused.completionErrors inv
  · exact nomatch (congrArg Prod.snd outcome).symm.trans failed

theorem reject_errors
    (failed : (wlRpcServerReject server request status payload nowMs).2 = .error err) :
    err ∈ completionErrors := by
  unfold wlRpcServerReject at failed
  split at failed
  · rw [← Except.error.inj failed]
    decide
  · exact complete_errors inv failed

theorem commit_errors {buffer : WlRpcServerResponseBuffer} {length : Nat}
    (failed : (wlRpcServerResponseCommit server buffer status length nowMs).2 = .error err) :
    err ∈ completionErrors := by
  rcases serverCommit_cases server buffer status length nowMs with
    ⟨_, refused, outcome⟩ | ⟨_, _, _, -, -, outcome⟩
  · rw [outcome] at failed
    exact Except.error.inj failed ▸ refused.completionErrors inv
  · exact nomatch (congrArg Prod.snd outcome).symm.trans failed

theorem requestValid_of_resolved {pending response : Nat}
    (found : serverResolvePending server request = .ok (pending, response)) :
    requestValid request = true := by
  obtain ⟨reserves, generation, identity⟩ := resolved found
  have sound := inv.sound response reserves.used
  rw [requestValid, Bool.and_eq_true, bne_iff_ne, generation, identity, ← reserves.generation,
    ← reserves.identity]
  exact ⟨sound.generation, sound.valid⟩

theorem completable : Completable server where
  complete _ _ _ _ _ failed := complete_errors inv failed
  reject _ _ _ _ _ failed := reject_errors inv failed
  commit _ _ _ _ _ failed := commit_errors inv failed
  live request live := by
    rcases @resolve_eq server request inv with ⟨_, _, found⟩ | ⟨-, dead⟩
    · have valid := requestValid_of_resolved inv found
      refine ⟨_, by rw [wlRpcServerResponsePrepare, if_neg (not_not.mpr valid), found], ?_, ?_⟩
      · intro status payload nowMs accepted fits
        rw [wlRpcServerComplete, if_neg (not_or.mpr ⟨not_not.mpr valid, accepted⟩), found]
        dsimp only
        rw [if_neg (Nat.not_lt.mpr fits)]
        exact ⟨_, rfl⟩
      · intro status length nowMs fits
        rw [wlRpcServerResponseCommit, if_neg (not_not.mpr valid), found]
        dsimp only
        rw [if_neg (Nat.not_lt.mpr fits), if_neg (not_or.mpr ⟨not_not.mpr rfl, not_not.mpr rfl⟩)]
        exact ⟨_, rfl⟩
    · exact absurd live dead

end completable

/-! ### Correlate slots

A correlate slot in use waits for its request or for its response to leave, and each way out frees
it. -/

section correlate

variable {server : WlRpcServer} {index : Nat}

variable (inv : ServerInv server)

include inv

theorem ServerInv.data_injective {other : Nat} (used : (server.responseSlots index).active ≠ .free)
    (otherUsed : (server.responseSlots other).active ≠ .free)
    (same : (server.responseSlots other).data = (server.responseSlots index).data) :
    other = index := by
  by_contra apart
  have sound := inv.sound index used
  have otherSound := inv.sound other otherUsed
  rw [sound.data, otherSound.data] at same
  have areas := server.layout.data_apart apart
  rw [Option.some.inj same] at areas
  have room := inv.roomy index sound.within
  have otherRoom := inv.roomy other otherSound.within
  rcases areas rfl with before | behind
  · omega
  · omega

theorem responseFind_self (used : (server.responseSlots index).active ≠ .free) :
    serverResponseFind server (responseFromCache (server.responseSlots index)) = some index := by
  have sound := inv.sound index used
  have valid : identityValid (responseFromCache (server.responseSlots index)).identity = true :=
    sound.valid
  rw [serverResponseFind, if_neg (not_not.mpr valid)]
  refine Slots.find?_range_eq_some_of_unique sound.within ?_ fun other _ passes => ?_
  · simp [responseFromCache, used]
  · simp only [Bool.and_eq_true, bne_iff_ne, beq_iff_eq] at passes
    exact inv.data_injective used passes.1.1.1.1 passes.1.2.symm

theorem correlate_returns (correlate : (server.responseSlots index).active = .correlate) :
    Returns server index := by
  have used : (server.responseSlots index).active ≠ .free := by rw [correlate]; exact nofun
  have sound := inv.sound index used
  have settles : ∀ txHandle,
      settled { server.responseSlots index with txHandle := txHandle } = .zero := by
    intro txHandle
    rw [settled, if_neg]
    rw [correlate]
    exact nofun
  refine ⟨inv.owned index used, fun delivered => ?_, fun acquired => ?_,
    fun flying event terminal handle => ?_, fun session => ?_⟩
  · have history := (inv.history_iff used).mpr (sound.delivered delivered)
    exact nomatch correlate.symm.trans history
  · have slot : acquiredSlot server (responseFromCache (server.responseSlots index)) =
        .ok index := by
      rw [acquiredSlot, responseFind_self inv used]
      exact if_neg (not_not.mpr acquired)
    rw [wlRpcServerResponseSent, slot]
    exact congrArg (fun slot => (server.setResponse index slot, WlRpcErr.ok)) (settles _)
  · have nonzero : event.handle ≠ 0 := by
      rw [handle]
      exact sound.handle flying
    have found := @Slots.find?_range_eq_some_of_unique
      (fun other => (server.responseSlots other).active != .free &&
        (server.responseSlots other).deliveryState == .inFlight &&
        (server.responseSlots other).txHandle == event.handle) server.responseCount index
      sound.within (by simp [used, flying, handle]) fun other _ passes => by
        simp only [Bool.and_eq_true, bne_iff_ne, beq_iff_eq] at passes
        exact inv.handles other index event.handle ⟨passes.1.1, passes.1.2, passes.2⟩
          ⟨used, flying, handle.symm⟩
    rw [wlRpcServerOnTxEvent, if_neg (not_not.mpr terminal), if_neg nonzero, found]
    exact ⟨congrArg (server.setResponse index) (settles 0), rfl⟩
  · rw [discardSession_eq inv session]
    exact cleared_response_zero (responseOf_iff.mpr ⟨used, rfl⟩)

theorem corresponds : Corresponds server where
  pending pending active := by
    obtain ⟨inside, response, reserves⟩ := inv.owner pending active
    exact ⟨inside, response, reserves, fun other holds => holds.response_eq reserves⟩
  reserved response used reserved := by
    obtain ⟨pending, reserves⟩ := inv.owned response used reserved
    exact ⟨(inv.sound response used).within, pending, reserves,
      fun other holds => inv.once other pending response holds reserves⟩
  apart first second different one two := by
    have firstSound := inv.sound first one
    have secondSound := inv.sound second two
    refine ⟨_, _, firstSound.data, secondSound.data, ?_⟩
    rw [firstSound.capacity, secondSound.capacity]
    exact server.layout.data_apart different

end correlate

/-! ### A small server -/

section small

variable (next : UInt64)

theorem small_expiredAll : (smallServer next).expiredAll 0 = smallServer next := by
  have table : (fun index => if index < 1 then serverCacheExpire RpcResponseSlot.zero 0 10
      else RpcResponseSlot.zero) = fun _ => .zero := by
    funext index
    split <;> rfl
  exact congrArg (fun slots => { smallServer next with responseSlots := slots }) table

theorem small_begin :
    wlRpcServerBegin (smallServer next) smallIdentity 0 =
      ((smallServer next).reserveFor smallIdentity 0 0 0 4 .history,
        .ok (.new ((smallServer next).nextRequest smallIdentity))) := by
  rw [begin_admission rfl rfl rfl, small_expiredAll]
  rfl

theorem small_abandon :
    wlRpcServerAbandon ((smallServer next).reserveFor smallIdentity 0 0 0 4 .history)
        ((smallServer next).nextRequest smallIdentity) =
      (smallServer (serverNextGeneration next).2, .ok) := by
  have reserves : Reserves ((smallServer next).reserveFor smallIdentity 0 0 0 4 .history) 0 0 :=
    admit_reserves_self nofun
  have valid : requestValid ((smallServer next).nextRequest smallIdentity) = true := by
    show ((serverNextGeneration next).1 != 0 && identityValid smallIdentity) = true
    rw [bne_iff_ne.mpr (serverNextGeneration_ne_zero next)]
    rfl
  have found := @Slots.find?_range_eq_some_of_unique (fun index =>
      (((smallServer next).reserveFor smallIdentity 0 0 0 4 .history).pendingSlots index).active &&
        requestEqual ((smallServer next).nextRequest smallIdentity)
          (((smallServer next).reserveFor smallIdentity 0 0 0 4 .history).pendingSlots index)) 1 0
    Nat.zero_lt_one
    (by rw [ Bool.and_eq_true, requestEqual_iff]; exact ⟨rfl, rfl, rfl⟩)
    fun other inside _ => Nat.lt_one_iff.mp inside
  have responses : Function.update (Function.update (fun _ => RpcResponseSlot.zero) 0
      { RpcResponseSlot.zero with
        identity := smallIdentity, generation := (serverNextGeneration next).1
        data := some ((smallServer next).responseData 0), capacity := 4, active := .history
        deliveryState := .reserved }) 0 RpcResponseSlot.zero = fun _ => .zero := by
    rw [Function.update_idem]
    exact Function.update_eq_self 0 _
  have pendings : Function.update (Function.update (fun _ => RpcPending.zero) 0
      { RpcPending.zero with
        identity := smallIdentity, generation := (serverNextGeneration next).1, startedAt := 0
        response := some 0, active := true }) 0 RpcPending.zero = fun _ => .zero := by
    rw [Function.update_idem]
    exact Function.update_eq_self 0 _
  rw [wlRpcServerAbandon, if_neg (not_not.mpr valid)]
  rw [show ((smallServer next).reserveFor smallIdentity 0 0 0 4 .history).pendingSlotCount = 1 from rfl,
    found]
  dsimp only
  rw [releaseReserved_eq reserves]
  exact congrArg₂ (fun pendings responses =>
    ({ smallServer (serverNextGeneration next).2 with
        pendingSlots := pendings, responseSlots := responses }, WlRpcErr.ok)) pendings responses

end small

theorem small_abandoned :
    ((smallServer 1).step (.begin smallIdentity 0)).step
      (.abandon { identity := smallIdentity, generation := 1 }) = smallServer 2 := by
  show (wlRpcServerAbandon (wlRpcServerBegin (smallServer 1) smallIdentity 0).1 _).1 = _
  rw [small_begin]
  exact congrArg Prod.fst (small_abandon 1)

/-- In every reachable state requests and reservations correspond, live requests can be completed, and
correlate slots come back. A token that was completed, abandoned or discarded is refused from then
on, as long as fewer requests than there are generations were admitted since it was issued. -/
theorem reservation_discipline {server : WlRpcServer} (reachable : ServerReachable server) :
    Corresponds server ∧ Completable server ∧
      (∀ index, (server.responseSlots index).active = .correlate → Returns server index) ∧
      ∀ op request, op.issues server = some request →
        ∀ first second, admissions (server.step op) (first ++ second) < 2 ^ 64 - 1 →
          ¬ TokenLive (runServer (server.step op) first) request →
            RejectsToken (runServer (server.step op) (first ++ second)) request := by
  have inv := reachable.inv
  refine ⟨corresponds inv, completable inv, fun index correlate => correlate_returns inv correlate,
    fun op request issued first second few dead => ?_⟩
  exact dead_token_rejected inv issued first second few dead

/-- A small server meets the hypotheses: after its one request was abandoned the token is refused. -/
theorem small_reservation_discipline :
    (ServerOp.begin smallIdentity 0).issues (smallServer 1) =
        some { identity := smallIdentity, generation := 1 } ∧
      RejectsToken
        (runServer ((smallServer 1).step (.begin smallIdentity 0))
          [.abandon { identity := smallIdentity, generation := 1 }])
        { identity := smallIdentity, generation := 1 } := by
  have issued : (ServerOp.begin smallIdentity 0).issues (smallServer 1) =
      some { identity := smallIdentity, generation := 1 } := by decide +kernel
  refine ⟨issued, (reservation_discipline smallServer_reachable).2.2.2 _ _ issued
    [.abandon { identity := smallIdentity, generation := 1 }] [] (by decide +kernel) ?_⟩
  rintro ⟨_, -, active, -⟩
  rw [show runServer ((smallServer 1).step (.begin smallIdentity 0)) [.abandon _] = _ from
    small_abandoned] at active
  exact nomatch active

/-! ### A token after the generations have gone round

One slot is enough: a request is begun and abandoned until the first token is issued again. -/

/-- Requests that are begun and abandoned, with generations from some number on. -/
def turns : Nat → Nat → List ServerOp
  | _, 0 => []
  | first, count + 1 =>
    .begin smallIdentity 0 ::
      .abandon { identity := smallIdentity, generation := UInt64.ofNat first } ::
        turns (first + 1) count

theorem small_turns (first count : Nat) (started : 0 < first) (bound : first + count ≤ 2 ^ 64) :
    runServer (smallServer (UInt64.ofNat first)) (turns first count) =
      smallServer (UInt64.ofNat (first + count)) := by
  induction count generalizing first with
  | zero => rfl
  | succ count ih =>
    have nonzero : UInt64.ofNat first ≠ 0 := by
      intro zero
      have value := congrArg UInt64.toNat zero
      rw [UInt64.toNat_ofNat_of_lt' (by rw [UInt64.size]; omega)] at value
      exact absurd value (Nat.ne_of_gt started)
    have drawn : serverNextGeneration (UInt64.ofNat first) =
        (UInt64.ofNat first, UInt64.ofNat (first + 1)) := by
      rw [serverNextGeneration, if_neg nonzero, UInt64.ofNat_add]
      rfl
    have token : (smallServer (UInt64.ofNat first)).nextRequest smallIdentity =
        { identity := smallIdentity, generation := UInt64.ofNat first } :=
      congrArg (fun pair : UInt64 × UInt64 => WlRpcServerRequest.mk smallIdentity pair.1) drawn
    have turn : ((smallServer (UInt64.ofNat first)).step (.begin smallIdentity 0)).step
        (.abandon { identity := smallIdentity, generation := UInt64.ofNat first }) =
          smallServer (UInt64.ofNat (first + 1)) := by
      show (wlRpcServerAbandon (wlRpcServerBegin _ smallIdentity 0).1 _).1 = _
      rw [small_begin, ← token, small_abandon, drawn]
    show runServer (((smallServer (UInt64.ofNat first)).step (.begin smallIdentity 0)).step
      (.abandon { identity := smallIdentity, generation := UInt64.ofNat first }))
        (turns (first + 1) count) = _
    rw [turn, ih (first + 1) (Nat.succ_pos first) (by omega), Nat.add_assoc, Nat.add_comm 1 count]

theorem small_worn : ∃ ops, runServer (smallServer 2) ops = smallServer 0 := by
  obtain ⟨count, size⟩ : ∃ count, 2 + count = 2 ^ 64 := ⟨2 ^ 64 - 2, rfl⟩
  have all := small_turns 2 count Nat.two_pos (Nat.le_of_eq size)
  rw [size] at all
  exact ⟨turns 2 count, all⟩

/-- Once all generations were used the token of an abandoned request is issued again, and whoever
still has it completes the later request. -/
theorem abandoned_token_completes_later_request :
    ServerReachable (smallServer 1) ∧
      ∃ (request : WlRpcServerRequest) (ops : List ServerOp),
        (ServerOp.begin smallIdentity 0).issues (smallServer 1) = some request ∧
        ¬ TokenLive (runServer ((smallServer 1).step (.begin smallIdentity 0)) [.abandon request])
          request ∧
        (ServerOp.begin smallIdentity 0).issues
          (runServer ((smallServer 1).step (.begin smallIdentity 0)) (.abandon request :: ops)) =
            some request ∧
        ∃ response,
          (wlRpcServerComplete
            ((runServer ((smallServer 1).step (.begin smallIdentity 0))
              (.abandon request :: ops)).step (.begin smallIdentity 0))
            request 0 (.bytes []) 0).2 = .ok response := by
  obtain ⟨ops, gone⟩ := small_worn
  have worn : runServer ((smallServer 1).step (.begin smallIdentity 0))
      (.abandon { identity := smallIdentity, generation := 1 } :: ops) = smallServer 0 := by
    show runServer (((smallServer 1).step (.begin smallIdentity 0)).step
      (.abandon { identity := smallIdentity, generation := 1 })) ops = _
    rw [small_abandoned]
    exact gone
  refine ⟨smallServer_reachable, { identity := smallIdentity, generation := 1 }, ops,
    by decide +kernel, ?_, ?_, ?_⟩
  · rintro ⟨_, -, active, -⟩
    rw [show runServer ((smallServer 1).step (.begin smallIdentity 0)) [.abandon _] = _ from
      small_abandoned] at active
    exact nomatch active
  · rw [worn]
    decide +kernel
  · rw [worn]
    exact ⟨{ identity := smallIdentity, applicationStatus := 0
             responseData := some { pool := .cache, offset := 0 }, responseLength := 0
             generation := 1 }, by decide +kernel⟩

end Wirelink
