/-
Module: Wirelink.Proofs.RpcMoves
Purpose: What one call of an RPC server can do. Every call makes one of a few moves, each given with
  what holds when it is made; the invariant follows for every call and every run.
Trusted boundary: none
-/
import Wirelink.Proofs.RpcDiscard

namespace Wirelink

/-! ### The moves

Each move is given with what holds when it is made; the invariant does not depend on which call
makes it. -/

/-- The server after the expiry pass over the whole cache. -/
def WlRpcServer.expiredAll (server : WlRpcServer) (nowMs : UInt32) : WlRpcServer :=
  server.expireBelow server.cacheSlotCount nowMs

/-- What one call can do to a server. -/
inductive ServerMove (server : WlRpcServer) : ServerOp → WlRpcServer → Prop where
  | kept {op : ServerOp} : ServerMove server op server
  | observed {op : ServerOp} {observed : Bool} :
      ServerMove server op { server with observed := observed }
  | cleared {op : ServerOp} {pendings responses : Nat → Bool}
      (together : ∀ pending response, Reserves server pending response →
        pendings pending = responses response)
      (cause : ∀ index, responses index = true → (server.responseSlots index).active = .history →
        RemovalCause server index op) :
      ServerMove server op (server.cleared pendings responses)
  | replayed {identity : WlRpcRequestIdentity} {nowMs : UInt32} {index : Nat}
      (inside : index < server.cacheSlotCount)
      (hit : server.cacheHit identity nowMs index = true)
      (moved : (server.responseSlots index).deliveryState ≠ .reserved) :
      ServerMove server (.begin identity nowMs)
        ((server.expireBelow (index + 1) nowMs).setResponse index
          (if (server.responseSlots index).deliveryState = .delivered then
            { server.responseSlots index with deliveryState := .ready }
          else server.responseSlots index))
  | admitted {identity : WlRpcRequestIdentity} {nowMs : UInt32} {pending target : Nat}
      (admits : (ServerOp.begin identity nowMs).admits server = true)
      (valid : identityValid identity = true) (pendingInside : pending < server.pendingSlotCount)
      (pendingFree : (server.pendingSlots pending).active = false)
      (inside : target < server.cacheSlotCount)
      (room : ((server.expiredAll nowMs).responseSlots target).active = .free ∨
        server.cachePolicy = .evictOldest ∧ OldestDelivered server target)
      (fresh : ∀ other, ((server.expiredAll nowMs).responseSlots other).active = .history →
        identityKeyEqual ((server.expiredAll nowMs).responseSlots other).identity identity =
          false) :
      ServerMove server (.begin identity nowMs)
        ((server.expiredAll nowMs).reserveFor identity nowMs pending target server.responseCapacity
          .history)
  | correlated {identity : WlRpcRequestIdentity} {nowMs : UInt32} {pending target : Nat}
      (admits : (ServerOp.beginCorrelate identity nowMs).admits server = true)
      (valid : identityValid identity = true) (pendingInside : pending < server.pendingSlotCount)
      (pendingFree : (server.pendingSlots pending).active = false)
      (bank : server.cacheSlotCount ≤ target) (inside : target < server.responseCount)
      (free : (server.responseSlots target).active = .free) :
      ServerMove server (.beginCorrelate identity nowMs)
        (server.reserveFor identity nowMs pending target server.correlateCapacity .correlate)
  | filled {op : ServerOp} {pending response offset : Nat} {bytes : Bytes}
      (reserves : Reserves server pending response)
      (fits : offset + bytes.length ≤ server.layout.capacity response) :
      ServerMove server op
        (server.write
          { server.layout.data response with
            offset := (server.layout.data response).offset + offset } bytes)
  | committed {op : ServerOp} {pending response length : Nat} {status : Int32} {bytes : Bytes}
      {nowMs : UInt32} (reserves : Reserves server pending response)
      (fits : length ≤ server.layout.capacity response)
      (stored : bytes.length ≤ server.layout.capacity response)
      (completes : Completes server response status
        ((storeResponse server response bytes).slotBytes response length) op) :
      ServerMove server op
        (serverCommitReserved (storeResponse server response bytes) pending response status length
          nowMs).1
  | redelivered {op : ServerOp} {index : Nat} {state : DeliveryState} {txHandle : UInt32}
      (used : (server.responseSlots index).active ≠ .free)
      (moved : (server.responseSlots index).deliveryState ≠ .reserved)
      (onward : state ≠ .reserved)
      (delivered : state = .delivered → (server.responseSlots index).active = .history)
      (handle : state = .inFlight → txHandle ≠ 0 ∧
        ∀ other, InFlight (server.responseSlots other) txHandle → other = index) :
      ServerMove server op
        (server.setResponse index
          { server.responseSlots index with txHandle := txHandle, deliveryState := state })
  | reported {op : ServerOp} {index : Nat} :
      ServerMove server op
        (server.setPending index { server.pendingSlots index with expiryReported := true })

/-! ### Storage

The number of a slot decides where its bytes are, so that what is written for one slot is never read
for another. -/

section storage

variable {server : WlRpcServer} {index other offset length : Nat} {bytes : Bytes}

theorem ServerInv.data_fits (inv : ServerInv server)
    (used : (server.responseSlots index).active ≠ .free) :
    (server.layout.data index).offset + server.layout.capacity index ≤
      match (server.layout.data index).pool with
      | .cache => server.responseStorage.length
      | .correlate => server.correlateStorage.length := by
  have within := (inv.sound index used).within
  unfold RpcLayout.data RpcLayout.capacity
  by_cases bank : index < server.layout.cacheSlotCount
  · rw [if_pos bank, if_pos bank]
    refine Nat.le_trans ?_ inv.cacheRoom
    rw [← Nat.succ_mul]
    exact Nat.mul_le_mul_right _ bank
  · rw [if_neg bank, if_neg bank]
    refine Nat.le_trans ?_ inv.correlateRoom
    rw [← Nat.succ_mul]
    refine Nat.mul_le_mul_right _ ?_
    show index - server.cacheSlotCount < server.correlateSlotCount
    have above : server.cacheSlotCount ≤ index := Nat.not_lt.mp bank
    have below : index < server.cacheSlotCount + server.correlateSlotCount := within
    omega

theorem RpcLayout.data_apart (layout : RpcLayout) (apart : index ≠ other) :
    (layout.data index).Apart (layout.capacity index) (layout.data other)
      (layout.capacity other) := by
  have spaced : ∀ {first second : Nat} (capacity : Nat), first < second →
      first * capacity + capacity ≤ second * capacity := by
    intro first second capacity before
    rw [← Nat.succ_mul]
    exact Nat.mul_le_mul_right capacity before
  intro pools
  unfold RpcLayout.data RpcLayout.capacity at *
  by_cases bank : index < layout.cacheSlotCount
  · by_cases otherBank : other < layout.cacheSlotCount
    · simp only [if_pos bank, if_pos otherBank]
      rcases Nat.lt_or_gt_of_ne apart with before | after
      · exact .inl (spaced _ before)
      · exact .inr (spaced _ after)
    · simp only [if_pos bank, if_neg otherBank] at pools
      exact nomatch pools
  · by_cases otherBank : other < layout.cacheSlotCount
    · simp only [if_neg bank, if_pos otherBank] at pools
      exact nomatch pools
    · simp only [if_neg bank, if_neg otherBank]
      rcases Nat.lt_or_gt_of_ne apart with before | after
      · exact .inl (spaced _ (by omega))
      · exact .inr (spaced _ (by omega))

theorem write_room (data : RpcData) : SameRoom server (server.write data bytes) := by
  unfold WlRpcServer.write
  split
  · exact ⟨rfl, Bytes.length_writeAt .., rfl⟩
  · exact ⟨rfl, rfl, Bytes.length_writeAt ..⟩

theorem write_tables (data : RpcData) :
    (server.write data bytes).pendingSlots = server.pendingSlots ∧
      (server.write data bytes).responseSlots = server.responseSlots ∧
      (server.write data bytes).nextGeneration = server.nextGeneration := by
  unfold WlRpcServer.write
  split <;> exact ⟨rfl, rfl, rfl⟩

theorem read_write_self {data : RpcData}
    (fits : data.offset + bytes.length ≤
      match data.pool with
      | .cache => server.responseStorage.length
      | .correlate => server.correlateStorage.length) :
    (server.write data bytes).read data bytes.length = bytes := by
  obtain ⟨pool, _⟩ := data
  cases pool with
  | cache | correlate => exact Bytes.readAt_writeAt_self fits

theorem read_write_of_apart {target source : RpcData}
    (apart : target.Apart bytes.length source length) :
    (server.write target bytes).read source length = server.read source length := by
  obtain ⟨targetPool, _⟩ := target
  obtain ⟨sourcePool, _⟩ := source
  cases targetPool with
  | cache =>
    cases sourcePool with
    | cache => exact Bytes.readAt_writeAt_of_disjoint (apart rfl).symm
    | correlate => rfl
  | correlate =>
    cases sourcePool with
    | cache => rfl
    | correlate => exact Bytes.readAt_writeAt_of_disjoint (apart rfl).symm

theorem storeResponse_eq (data : (server.responseSlots index).data = some (server.layout.data index)) :
    storeResponse server index bytes = server.write (server.layout.data index) bytes := by
  rw [storeResponse, data]

@[simp] theorem storeResponse_nil : storeResponse server index [] = server := by
  unfold storeResponse
  split
  · unfold WlRpcServer.write
    split <;> simp only [Bytes.writeAt_nil]
  · rfl

theorem storeResponse_room : SameRoom server (storeResponse server index bytes) := by
  unfold storeResponse
  split
  · exact write_room _
  · exact .refl server

theorem storeResponse_tables :
    (storeResponse server index bytes).pendingSlots = server.pendingSlots ∧
      (storeResponse server index bytes).responseSlots = server.responseSlots ∧
      (storeResponse server index bytes).nextGeneration = server.nextGeneration := by
  unfold storeResponse
  split
  · exact write_tables _
  · exact ⟨rfl, rfl, rfl⟩

theorem committed_response {pending response : Nat} {status : Int32} {nowMs : UInt32} :
    (serverCommitReserved (storeResponse server response bytes) pending response status length
        nowMs).1.responseSlots index =
      if index = response then
        { server.responseSlots response with
          responseLength := length, completedAt := nowMs, applicationStatus := status
          deliveryState := .ready }
      else server.responseSlots index := by
  have tables := (@storeResponse_tables server response bytes).2.1
  show ((storeResponse server response bytes).setResponse response _).responseSlots index = _
  rw [responseSlots_setResponse, tables]

end storage

/-! ### Expiry

On its way through the cache a begin frees the entries that are delivered and out of time. Nothing
reserved is among them. -/

section expiry

variable {server : WlRpcServer} {identity : WlRpcRequestIdentity} {nowMs : UInt32}
  {bound index : Nat}

theorem expireBelow_eq :
    server.expireBelow bound nowMs =
      server.cleared (fun _ => false) fun index =>
        decide (index < bound) &&
          cacheExpires (server.responseSlots index) nowMs server.cacheTtlMs := by
  have table : (fun index => if index < bound then
        serverCacheExpire (server.responseSlots index) nowMs server.cacheTtlMs
      else server.responseSlots index) = fun index =>
        if (decide (index < bound) &&
          cacheExpires (server.responseSlots index) nowMs server.cacheTtlMs) = true then
          RpcResponseSlot.zero else server.responseSlots index := by
    funext index
    unfold serverCacheExpire
    by_cases inside : index < bound
    · rw [if_pos inside, decide_eq_true inside, Bool.true_and]
    · rw [if_neg inside, decide_eq_false inside, Bool.false_and]
      exact (if_neg Bool.false_ne_true).symm
  exact congrArg (fun slots => { server with responseSlots := slots }) table

theorem cacheExpires_iff :
    cacheExpires (server.responseSlots index) nowMs server.cacheTtlMs = true ↔
      (server.responseSlots index).active ≠ .free ∧
        (server.responseSlots index).deliveryState = .delivered ∧
        elapsed nowMs (server.responseSlots index).completedAt server.cacheTtlMs = true := by
  simp [cacheExpires, and_assoc]

theorem expireBelow_response
    (stays : cacheExpires (server.responseSlots index) nowMs server.cacheTtlMs = false) :
    (server.expireBelow bound nowMs).responseSlots index = server.responseSlots index := by
  rw [expireBelow_eq]
  exact cleared_response (by rw [stays, Bool.and_false])

theorem expireBelow_used
    (used : ((server.expireBelow bound nowMs).responseSlots index).active ≠ .free) :
    (server.expireBelow bound nowMs).responseSlots index = server.responseSlots index := by
  rw [expireBelow_eq] at used ⊢
  exact cleared_response (kept_of_cleared_used used)

theorem expireBelow_stays (inside : index < bound)
    (used : ((server.expireBelow bound nowMs).responseSlots index).active ≠ .free) :
    cacheExpires (server.responseSlots index) nowMs server.cacheTtlMs = false := by
  rw [expireBelow_eq] at used
  have kept := kept_of_cleared_used used
  rw [decide_eq_true inside, Bool.true_and] at kept
  exact kept

theorem cacheHit_iff :
    server.cacheHit identity nowMs index = true ↔
      cacheExpires (server.responseSlots index) nowMs server.cacheTtlMs = false ∧
        (server.responseSlots index).active ≠ .free ∧
        identityKeyEqual (server.responseSlots index).identity identity = true := by
  unfold WlRpcServer.cacheHit serverCacheExpire
  cases cacheExpires (server.responseSlots index) nowMs server.cacheTtlMs with
  | false => simp
  | true => simp [RpcResponseSlot.zero]

theorem expire_together {pending response : Nat} (reserves : Reserves server pending response) :
    false = (decide (response < bound) &&
      cacheExpires (server.responseSlots response) nowMs server.cacheTtlMs) := by
  have stays : cacheExpires (server.responseSlots response) nowMs server.cacheTtlMs = false := by
    rw [Bool.eq_false_iff]
    intro expires
    exact nomatch (cacheExpires_iff.mp expires).2.1.symm.trans reserves.reserved
  rw [stays, Bool.and_false]

theorem ServerInv.expireBelow (inv : ServerInv server) :
    ServerInv (server.expireBelow bound nowMs) := by
  rw [expireBelow_eq]
  exact inv.cleared fun pending response reserves => expire_together reserves

end expiry

/-! ### The invariant is kept -/

section moves

variable {server after : WlRpcServer} {op : ServerOp}

theorem ServerInv.redelivered (inv : ServerInv server) {index : Nat} {state : DeliveryState}
    {txHandle : UInt32} (used : (server.responseSlots index).active ≠ .free)
    (moved : (server.responseSlots index).deliveryState ≠ .reserved) (onward : state ≠ .reserved)
    (delivered : state = .delivered → (server.responseSlots index).active = .history)
    (handle : state = .inFlight → txHandle ≠ 0 ∧
      ∀ other, InFlight (server.responseSlots other) txHandle → other = index) :
    ServerInv (server.setResponse index
      { server.responseSlots index with txHandle := txHandle, deliveryState := state }) := by
  have sound := inv.sound index used
  refine @ServerInv.answered server _ (fun _ => false) index _ inv ⟨⟨rfl, rfl, rfl⟩,
    fun _ => (if_neg Bool.false_ne_true).symm,
    fun other => responseSlots_setResponse server index other _, rfl, rfl, ?_, onward,
    fun flying => (handle flying).2, ?_⟩
  · refine { sound with delivered := fun isDelivered => ?_, handle := fun flying => (handle flying).1 }
    have use := sound.use.symm.trans (delivered isDelivered)
    by_contra outside
    rw [RpcLayout.use, if_neg outside] at use
    cases use
  · intro pending response reserves
    constructor
    · intro gone
      exact absurd gone Bool.false_ne_true
    · rintro rfl
      exact absurd reserves.reserved moved

theorem ServerInv.committed (inv : ServerInv server) {pending response length : Nat}
    {status : Int32} {nowMs : UInt32} (reserves : Reserves server pending response)
    (fits : length ≤ server.layout.capacity response) :
    ServerInv (serverCommitReserved server pending response status length nowMs).1 := by
  have sound := inv.sound response reserves.used
  refine @ServerInv.answered server _ (fun other => other == pending) response
    { server.responseSlots response with
      responseLength := length, completedAt := nowMs, applicationStatus := status
      deliveryState := .ready } inv ⟨⟨rfl, rfl, rfl⟩, ?_,
    fun other => responseSlots_setResponse server response other _, rfl, rfl, ?_, nofun, nofun, ?_⟩
  · intro other
    simp only [beq_iff_eq]
    exact pendingSlots_setPending _ pending other _
  · exact { sound with length := sound.capacity ▸ fits, delivered := nofun, handle := nofun }
  · intro other target holds
    rw [beq_iff_eq]
    constructor
    · rintro rfl
      exact holds.response_eq reserves
    · rintro rfl
      exact inv.once other pending target holds reserves

theorem ServerInv.stored (inv : ServerInv server) {index : Nat} {bytes : Bytes} :
    ServerInv (storeResponse server index bytes) :=
  inv.of_tables storeResponse_room storeResponse_tables.1 storeResponse_tables.2.1

theorem ServerMove.inv (move : ServerMove server op after) (inv : ServerInv server) :
    ServerInv after := by
  cases move with
  | kept => exact inv
  | observed => exact inv.of_tables ⟨rfl, rfl, rfl⟩ rfl rfl
  | cleared together => exact inv.cleared together
  | @replayed identity nowMs index inside hit moved =>
    obtain ⟨stays, used, -⟩ := cacheHit_iff.mp hit
    have expired := @ServerInv.expireBelow server nowMs (index + 1) inv
    have here := @expireBelow_response server nowMs (index + 1) index stays
    rw [← here] at moved used ⊢
    split
    · exact expired.redelivered used moved nofun nofun nofun
    · rename_i undelivered
      refine expired.redelivered used moved moved
        (fun delivered => absurd delivered undelivered) fun flying => ?_
      exact ⟨(expired.sound index used).handle flying, fun other same =>
        expired.handles other index _ same ⟨used, flying, rfl⟩⟩
  | @admitted identity nowMs pending target _ valid pendingInside pendingFree inside room fresh =>
    have expired := @ServerInv.expireBelow server nowMs server.cacheSlotCount inv
    have bank : target < (server.expiredAll nowMs).layout.cacheSlotCount := inside
    refine expired.admitted ⟨valid, pendingInside, ?_, ?_, ?_, ?_, ?_, ?_⟩
    · exact pendingFree
    · exact Nat.lt_of_lt_of_le inside (Nat.le_add_right _ _)
    · exact (if_pos bank).symm
    · exact (if_pos bank).symm
    · rcases room with free | ⟨-, oldest⟩
      · exact .inl free
      · by_cases free : ((server.expiredAll nowMs).responseSlots target).active = .free
        · exact .inl free
        · have stays := congrArg RpcResponseSlot.deliveryState (expireBelow_used free)
          exact .inr fun reserved => nomatch (stays.trans oldest.1).symm.trans reserved
    · intro _ other held same
      exact absurd (same.symm.trans (fresh other held)) Bool.true_eq_false.mp
  | correlated _ valid pendingInside pendingFree bank inside free =>
    have above : ¬ _ < server.layout.cacheSlotCount := Nat.not_lt.mpr bank
    exact inv.admitted ⟨valid, pendingInside, pendingFree, inside, (if_neg above).symm,
      (if_neg above).symm, .inl free, nofun⟩
  | filled =>
    exact inv.of_tables (write_room _) (write_tables _).1 (write_tables _).2.1
  | @committed _ pending response length status bytes nowMs reserves fits =>
    have tables := @storeResponse_tables server response bytes
    have stored : ServerInv (storeResponse server response bytes) := inv.stored
    refine stored.committed (reserves.of_eq (congrFun tables.1 _) (congrFun tables.2.1 _)) ?_
    rw [storeResponse_room.layout]
    exact fits
  | redelivered used moved onward delivered handle =>
    exact inv.redelivered used moved onward delivered handle
  | reported => exact inv.reported

end moves

/-! ### The calls make moves

Each call is followed through its tests to the move it ends in. -/

section calls

variable {server : WlRpcServer}

/-! #### Admission

A request that is neither pending nor cached gets a pending slot and a response slot: a free one, or
that of the oldest entry that may be evicted. -/

theorem generationOlder_iff {left right base : UInt64} (near : left - base < 0x8000000000000000)
    (close : right - base < 0x8000000000000000) :
    generationOlder left right = true ↔ left - base < right - base := by
  have leftBound := left.toNat_lt
  have rightBound := right.toNat_lt
  simp only [generationOlder, Bool.and_eq_true, bne_iff_ne, ne_eq, ← UInt64.toNat_inj,
    decide_eq_true_eq, UInt64.lt_iff_toNat_lt, UInt64.toNat_sub, UInt64.reduceToNat] at *
  omega

theorem oldestDelivered_of_scan {target : Nat}
    (found : server.oldestSlot server.cacheSlotCount (fun slot => slot.deliveryState == .delivered) =
      some target)
    (full : ∀ other, other < server.cacheSlotCount →
      (server.responseSlots other).active = .history) :
    OldestDelivered server target := by
  have candidate := (Slots.candidate_of_scanBest found).2
  refine ⟨beq_iff_eq.mp candidate, full, fun base near other inside delivered => ?_⟩
  have compare : ∀ first second, first < server.cacheSlotCount →
      second < server.cacheSlotCount →
      ((server.responseSlots first).deliveryState == .delivered) = true →
      ((server.responseSlots second).deliveryState == .delivered) = true →
      (generationOlder (server.responseSlots first).generation
          (server.responseSlots second).generation = true ↔
        (server.responseSlots first).generation - base <
          (server.responseSlots second).generation - base) :=
    fun first second one two firstDelivered secondDelivered =>
      generationOlder_iff (near first one (beq_iff_eq.mp firstDelivered))
        (near second two (beq_iff_eq.mp secondDelivered))
  have scanned := @Slots.scanBest_scanned
    (fun index => (server.responseSlots index).deliveryState == .delivered)
    (fun index oldest => generationOlder (server.responseSlots index).generation
      (server.responseSlots oldest).generation)
    (fun first second => (server.responseSlots first).generation - base ≤
      (server.responseSlots second).generation - base) server.cacheSlotCount
    (fun _ => UInt64.le_refl _) (fun _ _ _ => UInt64.le_trans)
    (fun first second one two firstDelivered secondDelivered older =>
      UInt64.le_of_lt ((compare first second one two firstDelivered secondDelivered).mp older))
    (fun first second one two firstDelivered secondDelivered newer => by
      rw [Bool.eq_false_iff, ne_eq, compare first second one two firstDelivered secondDelivered,
        UInt64.not_lt] at newer
      exact newer)
  rw [show Slots.scanBest _ _ _ = some target from found] at scanned
  exact scanned.2.2 other inside (beq_iff_eq.mpr delivered)

variable {identity : WlRpcRequestIdentity} {nowMs : UInt32}

variable {index length : Nat} {buffer : WlRpcServerResponseBuffer}

theorem begin_pending (valid : identityValid identity = true)
    (found : (List.range server.pendingSlotCount).find? (server.pendingHit identity) = some index) :
    wlRpcServerBegin server identity nowMs =
      (server, .ok (if identityEqual (server.pendingSlots index).identity identity then
        .pendingDuplicate else .conflict)) := by
  rw [wlRpcServerBegin, if_neg (not_not.mpr valid), found]
  dsimp only
  split <;> rfl

theorem begin_cached (valid : identityValid identity = true)
    (none : (List.range server.pendingSlotCount).find? (server.pendingHit identity) = none)
    (found : (List.range server.cacheSlotCount).find? (server.cacheHit identity nowMs) =
      some index) :
    wlRpcServerBegin server identity nowMs =
      beginCached (server.expireBelow (index + 1) nowMs) identity index := by
  rw [wlRpcServerBegin, if_neg (not_not.mpr valid), none]
  rw [found]

theorem begin_admission (valid : identityValid identity = true)
    (none : (List.range server.pendingSlotCount).find? (server.pendingHit identity) = none)
    (missed : (List.range server.cacheSlotCount).find? (server.cacheHit identity nowMs) =
      .none) :
    wlRpcServerBegin server identity nowMs =
      beginAdmission (server.expiredAll nowMs) identity nowMs := by
  rw [wlRpcServerBegin, if_neg (not_not.mpr valid), none]
  rw [missed]
  rfl

theorem pendingHit_iff (inv : ServerInv server) {pending : Nat} :
    server.pendingHit identity pending = true ↔
      ∃ response, Reserves server pending response ∧
        (server.responseSlots response).active = .history ∧
        identityKeyEqual (server.responseSlots response).identity identity = true := by
  unfold WlRpcServer.pendingHit
  rw [Bool.and_eq_true, Bool.and_eq_true]
  constructor
  · rintro ⟨⟨active, history⟩, key⟩
    obtain ⟨-, response, reserves⟩ := inv.owner pending active
    rw [reserves.points, Option.any_some, beq_iff_eq] at history
    exact ⟨response, reserves, history, reserves.identity ▸ key⟩
  · rintro ⟨_, reserves, history, key⟩
    refine ⟨⟨reserves.active, ?_⟩, reserves.identity ▸ key⟩
    rw [reserves.points, Option.any_some, beq_iff_eq]
    exact history

theorem use_history_iff {layout : RpcLayout} :
    layout.use index = .history ↔ index < layout.cacheSlotCount := by
  unfold RpcLayout.use
  constructor
  · intro use
    by_contra outside
    rw [if_neg outside] at use
    exact nomatch use
  · intro inside
    rw [if_pos inside]

theorem ServerInv.history_iff (inv : ServerInv server)
    (used : (server.responseSlots index).active ≠ .free) :
    (server.responseSlots index).active = .history ↔ index < server.cacheSlotCount := by
  rw [(inv.sound index used).use]
  exact use_history_iff

theorem ServerInv.history_inside (inv : ServerInv server)
    (history : (server.responseSlots index).active = .history) : index < server.cacheSlotCount :=
  (inv.history_iff (by rw [history]; exact nofun)).mp history

theorem expired_move {op : ServerOp} {bound : Nat}
    (cause : ∀ index, (server.responseSlots index).deliveryState = .delivered →
      elapsed nowMs (server.responseSlots index).completedAt server.cacheTtlMs = true →
      RemovalCause server index op) :
    ServerMove server op (server.expireBelow bound nowMs) := by
  rw [expireBelow_eq]
  refine .cleared (fun pending response reserves => expire_together reserves) fun index gone _ => ?_
  obtain ⟨-, delivered, expires⟩ := cacheExpires_iff.mp (Bool.and_eq_true_iff.mp gone).2
  exact cause index delivered expires

theorem begin_expires : ServerMove server (.begin identity nowMs) (server.expiredAll nowMs) :=
  expired_move fun _ => .expiredBegin

theorem freePending_free {pending : Nat} (free : server.freePending = some pending) :
    pending < server.pendingSlotCount ∧ (server.pendingSlots pending).active = false := by
  have unused := List.find?_some free
  rw [Bool.not_eq_true'] at unused
  exact ⟨List.mem_range.mp (List.mem_of_find?_eq_some free), unused⟩

/-- The slot a new request gets is free, or holds the oldest entry that may be evicted. -/
theorem cacheTarget_room (inv : ServerInv server) {target : Nat}
    (found : (server.expiredAll nowMs).cacheTarget = some target) :
    target < server.cacheSlotCount ∧
      (((server.expiredAll nowMs).responseSlots target).active = .free ∨
        server.cachePolicy = .evictOldest ∧ OldestDelivered server target) := by
  unfold WlRpcServer.cacheTarget at found
  cases free : (List.range (server.expiredAll nowMs).cacheSlotCount).find? fun index =>
      ((server.expiredAll nowMs).responseSlots index).active == .free with
  | some =>
    rw [free] at found
    obtain rfl := Option.some.inj found
    have isFree := List.find?_some free
    exact ⟨List.mem_range.mp (List.mem_of_find?_eq_some free), .inl (beq_iff_eq.mp isFree)⟩
  | none =>
    rw [free] at found
    dsimp only at found
    split at found
    · rename_i policy
      -- a full cache: the expiry pass has freed nothing
      have used : ∀ index, index < server.cacheSlotCount →
          ((server.expiredAll nowMs).responseSlots index).active ≠ .free := by
        intro index inside isFree
        have missed := List.find?_eq_none.mp free index (List.mem_range.mpr inside)
        exact missed (beq_iff_eq.mpr isFree)
      have same : ∀ index, index < server.cacheSlotCount →
          (server.expiredAll nowMs).responseSlots index = server.responseSlots index :=
        fun index inside => expireBelow_used (used index inside)
      have expired := @ServerInv.expireBelow server nowMs server.cacheSlotCount inv
      have oldest := oldestDelivered_of_scan found fun other inside =>
        (expired.history_iff (used other inside)).mpr inside
      have inside : target < server.cacheSlotCount := (Slots.candidate_of_scanBest found).1
      obtain ⟨delivered, full, first⟩ := oldest
      refine ⟨inside, .inr ⟨policy, same target inside ▸ delivered, fun other within => ?_, ?_⟩⟩
      · exact same other within ▸ full other within
      · intro base near other within otherDelivered
        have order := first base (fun each bound isDelivered => by
          rw [same each bound] at isDelivered ⊢
          exact near each bound isDelivered) other within (by
            rw [same other within]
            exact otherDelivered)
        rw [same target inside, same other within] at order
        exact order
    · exact nomatch found

theorem beginCached_move (inv : ServerInv server)
    (missed : (List.range server.pendingSlotCount).find? (server.pendingHit identity) = none)
    (inside : index < server.cacheSlotCount) (hit : server.cacheHit identity nowMs index = true) :
    ServerMove server (.begin identity nowMs)
      (beginCached (server.expireBelow (index + 1) nowMs) identity index).1 := by
  obtain ⟨stays, used, key⟩ := cacheHit_iff.mp hit
  unfold beginCached
  dsimp only
  rw [expireBelow_response stays]
  split
  · refine .replayed inside hit fun reserved => ?_
    -- a reserved entry would have been met among the pending requests
    obtain ⟨pending, reserves⟩ := inv.owned index used reserved
    have met := List.find?_eq_none.mp missed pending
      (List.mem_range.mpr (inv.owner pending reserves.active).1)
    exact met ((pendingHit_iff inv).mpr ⟨index, reserves, (inv.history_iff used).mpr inside, key⟩)
  · exact expired_move fun _ => .expiredBegin

theorem beginAdmission_move (inv : ServerInv server) (valid : identityValid identity = true)
    (missed : (List.range server.cacheSlotCount).find? (server.cacheHit identity nowMs) = none)
    (admission : wlRpcServerBegin server identity nowMs =
      beginAdmission (server.expiredAll nowMs) identity nowMs) :
    ServerMove server (.begin identity nowMs)
      (beginAdmission (server.expiredAll nowMs) identity nowMs).1 := by
  unfold beginAdmission at admission ⊢
  cases free : (server.expiredAll nowMs).freePending with
  | none => exact begin_expires
  | some =>
    rw [free] at admission
    cases target : (server.expiredAll nowMs).cacheTarget with
    | none => exact begin_expires
    | some =>
      rw [target] at admission
      obtain ⟨pendingInside, unused⟩ := freePending_free free
      obtain ⟨inside, room⟩ := cacheTarget_room inv target
      refine .admitted ?_ valid pendingInside unused inside room fun other held => ?_
      · rw [ServerOp.admits, ServerOp.issues, admission]
        rfl
      · rw [Bool.eq_false_iff]
        intro key
        have used : ((server.expiredAll nowMs).responseSlots other).active ≠ .free := by
          rw [held]
          exact nofun
        have same := expireBelow_used used
        have cached : other < server.cacheSlotCount := inv.history_inside (same ▸ held)
        exact List.find?_eq_none.mp missed other (List.mem_range.mpr cached)
          (cacheHit_iff.mpr ⟨expireBelow_stays cached used, same ▸ used, same ▸ key⟩)

theorem begin_move (inv : ServerInv server) :
    ServerMove server (.begin identity nowMs) (wlRpcServerBegin server identity nowMs).1 := by
  cases valid : identityValid identity with
  | false =>
    rw [wlRpcServerBegin, if_pos (by rw [valid]; exact Bool.false_ne_true)]
    exact .kept
  | true =>
    cases pendingFound :
        (List.range server.pendingSlotCount).find? (server.pendingHit identity) with
    | some =>
      rw [begin_pending valid pendingFound]
      exact .kept
    | none =>
      cases cacheFound :
          (List.range server.cacheSlotCount).find? (server.cacheHit identity nowMs) with
      | some =>
        rw [begin_cached valid pendingFound cacheFound]
        exact beginCached_move inv pendingFound
          (List.mem_range.mp (List.mem_of_find?_eq_some cacheFound))
          (List.find?_some cacheFound)
      | none =>
        have admission := @begin_admission server identity nowMs valid pendingFound cacheFound
        rw [admission]
        exact beginAdmission_move inv valid cacheFound admission

theorem beginCorrelate_move :
    ServerMove server (.beginCorrelate identity nowMs)
      (wlRpcServerBeginCorrelate server identity nowMs).1 := by
  by_cases refused : ¬ identityValid identity = true ∨ identity.requestFingerprint ≠ 0
  · rw [wlRpcServerBeginCorrelate, if_pos refused]
    exact .kept
  have outcome : wlRpcServerBeginCorrelate server identity nowMs = _ := if_neg refused
  have valid : identityValid identity = true := by
    rw [not_or, not_not] at refused
    exact refused.1
  rw [outcome]
  cases free : server.freePending with
  | none => exact .kept
  | some =>
    cases found : (List.range' server.cacheSlotCount server.correlateSlotCount).find?
        fun index => (server.responseSlots index).active == .free with
    | none => exact .kept
    | some =>
      rw [free] at outcome
      rw [found] at outcome
      obtain ⟨pendingInside, unused⟩ := freePending_free free
      have isFree := List.find?_some found
      obtain ⟨bank, inside⟩ := List.mem_range'_1.mp (List.mem_of_find?_eq_some found)
      refine .correlated ?_ valid pendingInside unused bank inside (beq_iff_eq.mp isFree)
      rw [ServerOp.admits, ServerOp.issues, outcome]
      rfl

/-! #### Completion

A completion and a commit share their tests, so that what a refusal can be is said once. -/

variable {request : WlRpcServerRequest} {applicationStatus : Int32} {payload : Buffer}

theorem fill_move (inv : ServerInv server) {offset : Nat} {bytes : Bytes} :
    ServerMove server (.fill request offset bytes) (fillResponse server request offset bytes) := by
  unfold fillResponse wlRpcServerResponsePrepare
  by_cases valid : requestValid request = true
  · rw [if_neg (not_not.mpr valid)]
    cases found : serverResolvePending server request with
    | error => exact .kept
    | ok target =>
      obtain ⟨_, response⟩ := target
      obtain ⟨reserves, -, -⟩ := resolved found
      have sound := inv.sound response reserves.used
      dsimp only
      rw [sound.data]
      dsimp only
      split
      · rename_i fits
        exact .filled reserves (sound.capacity ▸ fits)
      · exact .kept
  · rw [if_pos valid]
    exact .kept

/-- A completion is refused for its arguments or its token. -/
def RefusedAs (server : WlRpcServer) (request : WlRpcServerRequest) (err : WlRpcErr) : Prop :=
  err = .invalidArg ∨ err = .responseTooLarge ∨ err = .responseMismatch ∨
    serverResolvePending server request = .error err

theorem serverCommit_cases (server : WlRpcServer) (buffer : WlRpcServerResponseBuffer)
    (applicationStatus : Int32) (length : Nat) (nowMs : UInt32) :
    (∃ err, RefusedAs server buffer.request err ∧
      wlRpcServerResponseCommit server buffer applicationStatus length nowMs =
        (server, .error err)) ∨
      ∃ pending index response, serverResolvePending server buffer.request = .ok (pending, index) ∧
        length ≤ (server.responseSlots index).capacity ∧
        wlRpcServerResponseCommit server buffer applicationStatus length nowMs =
          ((serverCommitReserved server pending index applicationStatus length nowMs).1,
            .ok response) := by
  unfold wlRpcServerResponseCommit
  split
  · exact .inl ⟨_, .inl rfl, rfl⟩
  cases found : serverResolvePending server buffer.request with
  | error err => exact .inl ⟨err, .inr (.inr (.inr found)), rfl⟩
  | ok target =>
    dsimp only
    split
    · exact .inl ⟨_, .inr (.inl rfl), rfl⟩
    rename_i small
    split
    · exact .inl ⟨_, .inr (.inr (.inl rfl)), rfl⟩
    · exact .inr ⟨target.1, target.2, _, rfl, Nat.not_lt.mp small, rfl⟩

theorem commit_move (inv : ServerInv server) :
    ServerMove server (.commit buffer applicationStatus length nowMs)
      (wlRpcServerResponseCommit server buffer applicationStatus length nowMs).1 := by
  rcases serverCommit_cases server buffer applicationStatus length nowMs with
    ⟨err, -, outcome⟩ | ⟨pending, index, response, found, fits, outcome⟩
  · rw [outcome]
    exact .kept
  · obtain ⟨reserves, -, -⟩ := resolved found
    have sound := inv.sound index reserves.used
    have move := @ServerMove.committed server (.commit buffer applicationStatus length nowMs)
      pending index length applicationStatus [] nowMs reserves (sound.capacity ▸ fits)
      (Nat.zero_le _)
    rw [storeResponse_nil] at move
    have committed := move ⟨⟨pending, found⟩, ⟨response, congrArg Prod.snd outcome⟩, rfl, rfl⟩
    rw [outcome]
    exact committed

theorem Buffer.length_data_of_valid {buffer : Buffer} (valid : ¬ buffer.invalid = true) :
    buffer.data.length = buffer.length := by
  cases buffer with
  | null length =>
    have zero : length = 0 := by simpa [Buffer.invalid] using valid
    rw [zero]
    rfl
  | bytes => rfl

theorem slotBytes_stored (inv : ServerInv server) {response : Nat} {bytes : Bytes}
    (used : (server.responseSlots response).active ≠ .free)
    (fits : bytes.length ≤ server.layout.capacity response) :
    (storeResponse server response bytes).slotBytes response bytes.length = bytes := by
  have sound := inv.sound response used
  rw [WlRpcServer.slotBytes, congrFun storeResponse_tables.2.1 response, sound.data,
    storeResponse_eq sound.data]
  exact read_write_self (Nat.le_trans (Nat.add_le_add_left fits _) (inv.data_fits used))

theorem serverComplete_cases (server : WlRpcServer) (request : WlRpcServerRequest)
    (applicationStatus : Int32) (payload : Buffer) (nowMs : UInt32) :
    (∃ err, RefusedAs server request err ∧
      wlRpcServerComplete server request applicationStatus payload nowMs = (server, .error err)) ∨
      ∃ pending index response, serverResolvePending server request = .ok (pending, index) ∧
        payload.data.length ≤ (server.responseSlots index).capacity ∧
        wlRpcServerComplete server request applicationStatus payload nowMs =
          ((serverCommitReserved (storeResponse server index payload.data) pending index
            applicationStatus payload.data.length nowMs).1, .ok response) := by
  unfold wlRpcServerComplete
  split
  · exact .inl ⟨_, .inl rfl, rfl⟩
  rename_i valid
  rw [← Buffer.length_data_of_valid (not_or.mp valid).2]
  cases found : serverResolvePending server request with
  | error err => exact .inl ⟨err, .inr (.inr (.inr found)), rfl⟩
  | ok target =>
    dsimp only
    split
    · exact .inl ⟨_, .inr (.inl rfl), rfl⟩
    · rename_i small
      exact .inr ⟨target.1, target.2, _, rfl, Nat.not_lt.mp small, rfl⟩

theorem completed_move (inv : ServerInv server) {op : ServerOp}
    (completes : ∀ pending index response, serverResolvePending server request = .ok (pending, index) →
      (wlRpcServerComplete server request applicationStatus payload nowMs).2 = .ok response →
      Completes server index applicationStatus payload.data op) :
    ServerMove server op
      (wlRpcServerComplete server request applicationStatus payload nowMs).1 := by
  rcases serverComplete_cases server request applicationStatus payload nowMs with
    ⟨err, -, outcome⟩ | ⟨pending, index, response, found, small, outcome⟩
  · rw [outcome]
    exact .kept
  · obtain ⟨reserves, -, -⟩ := resolved found
    have fits : payload.data.length ≤ server.layout.capacity index :=
      (inv.sound index reserves.used).capacity ▸ small
    have done := completes pending index response found (congrArg Prod.snd outcome)
    rw [outcome]
    refine .committed reserves fits fits ?_
    rw [slotBytes_stored inv reserves.used fits]
    exact done

theorem complete_move (inv : ServerInv server) :
    ServerMove server (.complete request applicationStatus payload nowMs)
      (wlRpcServerComplete server request applicationStatus payload nowMs).1 :=
  completed_move inv fun pending _ response found done =>
    ⟨⟨pending, found⟩, ⟨response, done⟩, rfl, rfl⟩

theorem reject_move (inv : ServerInv server) :
    ServerMove server (.reject request applicationStatus payload nowMs)
      (wlRpcServerReject server request applicationStatus payload nowMs).1 := by
  by_cases zero : applicationStatus = 0
  · rw [wlRpcServerReject, if_pos zero]
    exact .kept
  have same : wlRpcServerReject server request applicationStatus payload nowMs =
      wlRpcServerComplete server request applicationStatus payload nowMs := if_neg zero
  rw [same]
  exact completed_move inv fun pending _ response found done =>
    ⟨⟨pending, found⟩, ⟨response, same ▸ done⟩, rfl, rfl⟩

/-! #### Delivery

A response that has left is delivered if it is history, and its slot is free if it is correlate. -/

theorem acquire_move :
    ServerMove server .acquire (wlRpcServerResponseAcquire server).1 := by
  unfold wlRpcServerResponseAcquire
  cases found : server.oldestSlot server.responseCount responseReady with
  | none => exact .kept
  | some =>
    have ready := (Slots.candidate_of_scanBest found).2
    rw [responseReady, Bool.and_eq_true, bne_iff_ne, beq_iff_eq] at ready
    exact .redelivered ready.1 (by rw [ready.2]; exact nofun) nofun nofun nofun

theorem acquiredSlot_ok {response : WlRpcServerResponse}
    (found : acquiredSlot server response = .ok index) :
    (server.responseSlots index).active ≠ .free ∧
      (server.responseSlots index).deliveryState ≠ .reserved := by
  unfold acquiredSlot at found
  cases view : serverResponseFind server response with
  | none =>
    rw [view] at found
    exact nomatch found
  | some =>
    rw [view] at found
    dsimp only at found
    split at found
    · exact nomatch found
    rename_i acquired
    obtain rfl := Except.ok.inj found
    refine ⟨?_, fun reserved => nomatch (not_not.mp acquired).symm.trans reserved⟩
    unfold serverResponseFind at view
    split at view
    · exact nomatch view
    have test := List.find?_some view
    simp only [Bool.and_eq_true, bne_iff_ne] at test
    exact test.1.1.1.1

variable {response : WlRpcServerResponse}

theorem defer_move :
    ServerMove server (.defer response) (wlRpcServerResponseDefer server response).1 := by
  unfold wlRpcServerResponseDefer
  cases found : acquiredSlot server response with
  | error => exact .kept
  | ok =>
    obtain ⟨used, moved⟩ := acquiredSlot_ok found
    exact .redelivered used moved nofun nofun nofun

theorem submitted_move (inv : ServerInv server) {txHandle : UInt32} :
    ServerMove server (.submitted response txHandle)
      (wlRpcServerResponseSubmitted server response txHandle).1 := by
  unfold wlRpcServerResponseSubmitted
  by_cases zero : txHandle = 0
  · rw [if_pos zero]
    exact .kept
  rw [if_neg zero]
  cases found : acquiredSlot server response with
  | error => exact .kept
  | ok index =>
    obtain ⟨used, moved⟩ := acquiredSlot_ok found
    dsimp only
    cases taken : handleInFlight server index txHandle with
    | true => exact .kept
    | false =>
      refine .redelivered used moved nofun nofun fun _ => ⟨zero, fun other flying => ?_⟩
      by_contra apart
      have inside : other < server.responseCount := (inv.sound other flying.1).within
      have free := List.any_eq_false.mp taken other (List.mem_range.mpr inside)
      apply free
      rw [bne_iff_ne.mpr apart, bne_iff_ne.mpr flying.1, beq_iff_eq.mpr flying.2.1,
        beq_iff_eq.mpr flying.2.2]
      rfl

theorem settled_move {op : ServerOp} {txHandle : UInt32}
    (used : (server.responseSlots index).active ≠ .free)
    (moved : (server.responseSlots index).deliveryState ≠ .reserved) :
    ServerMove server op (server.setResponse index
      (settled { server.responseSlots index with txHandle := txHandle })) := by
  unfold settled
  by_cases history : (server.responseSlots index).active = .history
  · rw [if_pos history]
    exact .redelivered used moved nofun (fun _ => history) nofun
  · rw [if_neg history]
    rw [setResponse_zero]
    refine .cleared (fun pending target reserves => ?_) fun other gone held => ?_
    · rw [eq_comm, beq_eq_false_iff_ne]
      rintro rfl
      exact moved reserves.reserved
    · rw [beq_iff_eq.mp gone] at held
      exact absurd held history

theorem sent_move :
    ServerMove server (.sent response) (wlRpcServerResponseSent server response).1 := by
  unfold wlRpcServerResponseSent
  cases found : acquiredSlot server response with
  | error => exact .kept
  | ok =>
    obtain ⟨used, moved⟩ := acquiredSlot_ok found
    exact settled_move used moved

theorem txEvent_move {event : TxEvent} :
    ServerMove server (.txEvent event) (wlRpcServerOnTxEvent server event).1 := by
  unfold wlRpcServerOnTxEvent
  split
  · exact .kept
  split
  · exact .kept
  split
  · exact .kept
  · rename_i index found
    have test := List.find?_some found
    rw [Bool.and_eq_true, Bool.and_eq_true, bne_iff_ne, beq_iff_eq] at test
    exact settled_move test.1.1 (by rw [test.1.2]; exact nofun)

/-! #### Removal -/

theorem discard_move (inv : ServerInv server) {peerSessionId : UInt64} {op : ServerOp}
    (cause : ∀ index, (server.responseSlots index).identity.peerSessionId = peerSessionId →
      RemovalCause server index op) :
    ServerMove server op (wlRpcServerDiscardSession server peerSessionId).1 := by
  by_cases zero : peerSessionId = 0
  · rw [wlRpcServerDiscardSession, if_pos zero]
    exact .kept
  rw [discardSession_eq inv zero]
  exact .cleared (fun pending response reserves => reserves.session)
    fun index gone _ => cause index (responseOf_iff.mp gone).2

theorem observe_move (inv : ServerInv server) {peer peerSessionId : UInt64} :
    ServerMove server (.observe peer peerSessionId)
      (wlRpcPeerObserve server peer peerSessionId).1 := by
  unfold wlRpcPeerObserve
  split
  · exact .kept
  split
  · exact .kept
  split
  · have move := @discard_move server inv peer (.observe peer peerSessionId)
      fun index session => .sessionChanged session
    split
    · rename_i outcome
      rw [outcome] at move
      exact move
    · rename_i outcome
      rw [outcome] at move
      exact move
  · exact .kept

theorem abandon_move (inv : ServerInv server) :
    ServerMove server (.abandon request) (wlRpcServerAbandon server request).1 := by
  unfold wlRpcServerAbandon
  split
  · exact .kept
  split
  · exact .kept
  · rename_i index found
    have test := List.find?_some found
    rw [Bool.and_eq_true, requestEqual_iff] at test
    obtain ⟨active, generation, identity⟩ := test
    obtain ⟨-, target, reserves⟩ := inv.owner index active
    rw [releaseReserved_eq reserves, setResponse_zero, cleared_setPending]
    refine .cleared (fun pending response holds => ?_) fun other gone _ => ?_
    · rw [Bool.false_or, Bool.eq_iff_iff, beq_iff_eq, beq_iff_eq]
      constructor
      · rintro rfl
        exact holds.response_eq reserves
      · rintro rfl
        exact inv.once pending index response holds reserves
    · obtain rfl : other = target := beq_iff_eq.mp gone
      exact .abandoned reserves.reserved (identity.trans reserves.identity.symm)
        (generation.trans reserves.generation.symm)

theorem expiredAcquire_move :
    ServerMove server (.expiredAcquire nowMs) (wlRpcServerExpiredAcquire server nowMs).1 := by
  unfold wlRpcServerExpiredAcquire
  split
  · exact .kept
  split
  · exact .kept
  · exact .reported

theorem poll_move : ServerMove server (.poll nowMs) (wlRpcServerPoll server nowMs).1 :=
  expired_move fun _ => .expiredPoll

end calls

/-! ### Runs -/

variable {server : WlRpcServer}

theorem step_move (inv : ServerInv server) (op : ServerOp) :
    ServerMove server op (server.step op) := by
  cases op with
  | begin => exact begin_move inv
  | beginCorrelate => exact beginCorrelate_move
  | fill => exact fill_move inv
  | commit => exact commit_move inv
  | complete => exact complete_move inv
  | reject => exact reject_move inv
  | acquire => exact acquire_move
  | defer => exact defer_move
  | submitted => exact submitted_move inv
  | sent => exact sent_move
  | setObserver observed => exact .observed
  | txEvent => exact txEvent_move
  | discard => exact discard_move inv fun index session => .discarded session
  | observe => exact observe_move inv
  | abandon => exact abandon_move inv
  | expiredAcquire => exact expiredAcquire_move
  | poll => exact poll_move

theorem ServerInv.step (inv : ServerInv server) (op : ServerOp) :
    ServerInv (server.step op) :=
  (step_move inv op).inv inv

theorem ServerInv.run (inv : ServerInv server) (ops : List ServerOp) :
    ServerInv (runServer server ops) := by
  induction ops generalizing server with
  | nil => exact inv
  | cons op ops ih => exact ih (inv.step op)

theorem ServerReachable.inv (reachable : ServerReachable server) :
    ServerInv server := by
  obtain ⟨_, _, _, ops, accepted, rfl⟩ := reachable
  exact (ServerInv.initial accepted).run ops

/-! ### The end of a delivery

A handle is under way for one response at most, so that a terminal event finds that one or none. -/

/-- In every reachable server a terminal event ends the delivery of the one response in flight with
its handle, tells the observer about it and changes nothing else. The same event again finds no
response. -/
theorem tx_event_settles_once {index : Nat} {event : TxEvent}
    (reachable : ServerReachable server) (terminal : event.isTerminal = true)
    (flying : InFlight (server.responseSlots index) event.handle) :
    let slot := server.responseSlots index
    let after := server.setResponse index (settled { slot with txHandle := 0 })
    wlRpcServerOnTxEvent server event =
        (after, .ok,
          if server.observed then some ⟨slot.identity, slot.applicationStatus, event⟩ else none) ∧
      wlRpcServerOnTxEvent after event = (after, .notFound, none) := by
  intro slot after
  have inv := reachable.inv
  have sound := inv.sound index flying.1
  have handle : event.handle ≠ 0 := flying.2.2 ▸ sound.handle flying.2.1
  constructor
  · rw [wlRpcServerOnTxEvent, if_neg (not_not.mpr terminal), if_neg handle]
    split
    case h_1 absent =>
      have missed := List.find?_eq_none.mp absent index (List.mem_range.mpr sound.within)
      simp [flying.1, flying.2.1, flying.2.2] at missed
    case h_2 other found =>
      have test := List.find?_some found
      rw [Bool.and_eq_true, Bool.and_eq_true, bne_iff_ne, beq_iff_eq, beq_iff_eq] at test
      rw [inv.handles other index event.handle ⟨test.1.1, test.1.2, test.2⟩ flying]
  · rw [wlRpcServerOnTxEvent, if_neg (not_not.mpr terminal), if_neg handle,
      List.find?_eq_none.mpr]
    intro other _ test
    rw [Bool.and_eq_true, Bool.and_eq_true, bne_iff_ne, beq_iff_eq, beq_iff_eq,
      responseSlots_setResponse] at test
    by_cases same : other = index
    · rw [if_pos same] at test
      unfold settled at test
      split at test
      · exact nomatch test.1.2
      · exact test.1.1 rfl
    · rw [if_neg same] at test
      exact same (inv.handles other index event.handle ⟨test.1.1, test.1.2, test.2⟩ flying)

/-- A run of a small server that leaves its only response in flight. -/
def flyingOps : List ServerOp :=
  [.begin smallIdentity 0, .complete ⟨smallIdentity, 1⟩ 0 (.bytes [1]) 0, .acquire,
    .submitted ⟨smallIdentity, 0, some ⟨.cache, 0⟩, 1, 1⟩ 3]

theorem flying_response_settles_once :
    (wlRpcServerOnTxEvent (runServer (smallServer 1) flyingOps) ⟨.txSuccess, 3, 0⟩).2.1 = .ok := by
  rw [(@tx_event_settles_once (runServer (smallServer 1) flyingOps) 0 ⟨.txSuccess, 3, 0⟩
    ⟨smallServerConfig, some smallPool, smallServer 1, flyingOps, rfl, rfl⟩ rfl
    ⟨by decide +kernel, by decide +kernel, by decide +kernel⟩).1]

end Wirelink
