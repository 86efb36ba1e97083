/-
Module: Wirelink.Proofs.RpcServer
Purpose: The invariant of the RPC server's slot tables: active slots are what their bank says,
  pending slots and reserved responses correspond, keys and handles are not shared. It is stated once
  what the few kinds of table updates keep of it.
Trusted boundary: none
-/
import Wirelink.Spec.RpcServer

namespace Wirelink

/-! ### Identities

Two identities are equal, or share the key by which duplicates are recognized. -/

section identities

variable {left right : WlRpcRequestIdentity} {request : WlRpcServerRequest} {pending : RpcPending}

@[simp] theorem identityEqual_iff : identityEqual left right = true ↔ left = right := by
  obtain ⟨_, _⟩ := left
  obtain ⟨_, _⟩ := right
  simp [identityEqual, and_assoc]

@[simp] theorem identityKeyEqual_iff :
    identityKeyEqual left right = true ↔
      left.operationId = right.operationId ∧ left.peerSessionId = right.peerSessionId := by
  simp [identityKeyEqual]

@[simp] theorem requestEqual_iff :
    requestEqual request pending = true ↔
      request.generation = pending.generation ∧ request.identity = pending.identity := by
  simp [requestEqual]

theorem identityKeyEqual_comm (same : identityKeyEqual left right = true) :
    identityKeyEqual right left = true := by
  rw [identityKeyEqual_iff] at same ⊢
  exact ⟨same.1.symm, same.2.symm⟩

theorem identityKeyEqual_trans {third : WlRpcRequestIdentity}
    (first : identityKeyEqual left right = true) (second : identityKeyEqual right third = true) :
    identityKeyEqual left third = true := by
  rw [identityKeyEqual_iff] at first second ⊢
  exact ⟨first.1.trans second.1, first.2.trans second.2⟩

end identities

/-! ### Tables

A slot in use is what its bank says, and a pending slot and its reserved response belong together.
The tables are functions of a slot number, so that an update is a case distinction. -/

/-- The sizes a server is configured with. -/
structure RpcLayout where
  pendingSlotCount : Nat
  cacheSlotCount : Nat
  responseCapacity : Nat
  correlateSlotCount : Nat
  correlateCapacity : Nat

namespace RpcLayout

/-- Where a response slot's bytes are. -/
def data (layout : RpcLayout) (index : Nat) : RpcData :=
  if index < layout.cacheSlotCount then
    { pool := .cache, offset := index * layout.responseCapacity }
  else
    { pool := .correlate, offset := (index - layout.cacheSlotCount) * layout.correlateCapacity }

/-- How many bytes a response slot has. -/
def capacity (layout : RpcLayout) (index : Nat) : Nat :=
  if index < layout.cacheSlotCount then layout.responseCapacity else layout.correlateCapacity

/-- What a response slot is for. -/
def use (layout : RpcLayout) (index : Nat) : ResponseUse :=
  if index < layout.cacheSlotCount then .history else .correlate

end RpcLayout

/-- The sizes of a server. -/
def WlRpcServer.layout (server : WlRpcServer) : RpcLayout :=
  { pendingSlotCount := server.pendingSlotCount, cacheSlotCount := server.cacheSlotCount
    responseCapacity := server.responseCapacity, correlateSlotCount := server.correlateSlotCount
    correlateCapacity := server.correlateCapacity }

/-- What a response slot in use is like. -/
structure SlotSound (layout : RpcLayout) (index : Nat) (slot : RpcResponseSlot) : Prop where
  within : index < layout.cacheSlotCount + layout.correlateSlotCount
  valid : identityValid slot.identity = true
  generation : slot.generation ≠ 0
  data : slot.data = some (layout.data index)
  capacity : slot.capacity = layout.capacity index
  length : slot.responseLength ≤ slot.capacity
  use : slot.active = layout.use index
  delivered : slot.deliveryState = .delivered → index < layout.cacheSlotCount
  handle : slot.deliveryState = .inFlight → slot.txHandle ≠ 0

/-- A response slot is under way with this handle. -/
def InFlight (slot : RpcResponseSlot) (txHandle : UInt32) : Prop :=
  slot.active ≠ .free ∧ slot.deliveryState = .inFlight ∧ slot.txHandle = txHandle

/-- The invariant of a server. -/
structure ServerInv (server : WlRpcServer) : Prop where
  sound : ∀ index, (server.responseSlots index).active ≠ .free →
    SlotSound server.layout index (server.responseSlots index)
  owner : ∀ pending, (server.pendingSlots pending).active = true →
    pending < server.pendingSlotCount ∧ ∃ response, Reserves server pending response
  owned : ∀ response, (server.responseSlots response).active ≠ .free →
    (server.responseSlots response).deliveryState = .reserved →
      ∃ pending, Reserves server pending response
  once : ∀ first second response, Reserves server first response →
    Reserves server second response → first = second
  keys : ∀ first second, (server.responseSlots first).active = .history →
    (server.responseSlots second).active = .history →
      identityKeyEqual (server.responseSlots first).identity
        (server.responseSlots second).identity = true → first = second
  handles : ∀ first second txHandle, InFlight (server.responseSlots first) txHandle →
    InFlight (server.responseSlots second) txHandle → first = second
  cacheRoom : server.cacheSlotCount * server.responseCapacity ≤ server.responseStorage.length
  correlateRoom :
    server.correlateSlotCount * server.correlateCapacity ≤ server.correlateStorage.length
  roomy : ∀ index, index < server.layout.cacheSlotCount + server.layout.correlateSlotCount →
    0 < server.layout.capacity index

theorem responseSlots_setResponse (server : WlRpcServer) (index other : Nat)
    (slot : RpcResponseSlot) :
    (server.setResponse index slot).responseSlots other =
      if other = index then slot else server.responseSlots other :=
  Function.update_apply ..

theorem pendingSlots_setPending (server : WlRpcServer) (index other : Nat) (slot : RpcPending) :
    (server.setPending index slot).pendingSlots other =
      if other = index then slot else server.pendingSlots other :=
  Function.update_apply ..

theorem Reserves.response_eq {server : WlRpcServer} {pending first second : Nat}
    (one : Reserves server pending first) (two : Reserves server pending second) :
    first = second :=
  Option.some.inj (one.points.symm.trans two.points)

theorem Reserves.of_eq {server after : WlRpcServer} {pending response : Nat}
    (reserves : Reserves server pending response)
    (samePending : after.pendingSlots pending = server.pendingSlots pending)
    (sameResponse : after.responseSlots response = server.responseSlots response) :
    Reserves after pending response where
  active := by rw [samePending]; exact reserves.active
  points := by rw [samePending]; exact reserves.points
  used := by rw [sameResponse]; exact reserves.used
  reserved := by rw [sameResponse]; exact reserves.reserved
  generation := by rw [samePending, sameResponse]; exact reserves.generation
  identity := by rw [samePending, sameResponse]; exact reserves.identity

/-! ### Slots that become free

Any number of slots may become free, if a reserved response goes together with its pending slot. -/

/-- Some pending slots and some response slots are zeroed. -/
def WlRpcServer.cleared (server : WlRpcServer) (pendings responses : Nat → Bool) : WlRpcServer :=
  { server with
    pendingSlots := fun index => if pendings index then .zero else server.pendingSlots index
    responseSlots := fun index => if responses index then .zero else server.responseSlots index }

section cleared

variable {server : WlRpcServer} {pendings responses : Nat → Bool} {index pending response : Nat}

theorem cleared_response (kept : responses index = false) :
    (server.cleared pendings responses).responseSlots index = server.responseSlots index :=
  if_neg (by rw [kept]; exact Bool.false_ne_true)

theorem cleared_pending (kept : pendings index = false) :
    (server.cleared pendings responses).pendingSlots index = server.pendingSlots index :=
  if_neg (by rw [kept]; exact Bool.false_ne_true)

theorem cleared_response_zero (gone : responses index = true) :
    (server.cleared pendings responses).responseSlots index = .zero :=
  if_pos gone

theorem cleared_pending_zero (gone : pendings index = true) :
    (server.cleared pendings responses).pendingSlots index = .zero :=
  if_pos gone

theorem kept_of_cleared_used
    (used : ((server.cleared pendings responses).responseSlots index).active ≠ .free) :
    responses index = false := by
  cases gone : responses index with
  | false => rfl
  | true => rw [cleared_response_zero gone] at used; exact absurd rfl used

theorem kept_of_cleared_active
    (active : ((server.cleared pendings responses).pendingSlots index).active = true) :
    pendings index = false := by
  cases gone : pendings index with
  | false => rfl
  | true => rw [cleared_pending_zero gone] at active; exact absurd active Bool.false_ne_true

theorem Reserves.of_cleared
    (reserves : Reserves (server.cleared pendings responses) pending response) :
    Reserves server pending response :=
  reserves.of_eq (cleared_pending (kept_of_cleared_active reserves.active)).symm
    (cleared_response (kept_of_cleared_used reserves.used)).symm

theorem ServerInv.cleared (inv : ServerInv server)
    (together : ∀ pending response, Reserves server pending response →
      pendings pending = responses response) :
    ServerInv (server.cleared pendings responses) where
  sound index used := by
    have kept := kept_of_cleared_used used
    rw [cleared_response kept] at used ⊢
    exact inv.sound index used
  owner pending active := by
    have kept := kept_of_cleared_active active
    rw [cleared_pending kept] at active
    obtain ⟨inside, response, reserves⟩ := inv.owner pending active
    have keptResponse := (together pending response reserves).symm.trans kept
    exact ⟨inside, response, reserves.of_eq (cleared_pending kept) (cleared_response keptResponse)⟩
  owned response used reserved := by
    have kept := kept_of_cleared_used used
    rw [cleared_response kept] at used reserved
    obtain ⟨pending, reserves⟩ := inv.owned response used reserved
    have keptPending := (together pending response reserves).trans kept
    exact ⟨pending, reserves.of_eq (cleared_pending keptPending) (cleared_response kept)⟩
  once first second response one two := inv.once first second response one.of_cleared two.of_cleared
  keys first second one two same := by
    have keptFirst := kept_of_cleared_used (by rw [one]; exact nofun)
    have keptSecond := kept_of_cleared_used (by rw [two]; exact nofun)
    rw [cleared_response keptFirst] at one same
    rw [cleared_response keptSecond] at two same
    exact inv.keys first second one two same
  handles first second txHandle one two := by
    have keptFirst := kept_of_cleared_used one.1
    have keptSecond := kept_of_cleared_used two.1
    rw [cleared_response keptFirst] at one
    rw [cleared_response keptSecond] at two
    exact inv.handles first second txHandle one two
  cacheRoom := inv.cacheRoom
  correlateRoom := inv.correlateRoom
  roomy := inv.roomy

end cleared

/-! ### Responses that move on

A response that is committed, handed out or delivered changes one slot of each table at most. -/

/-- The same configuration, with storages of the same size. -/
structure SameRoom (server after : WlRpcServer) : Prop where
  layout : after.layout = server.layout
  cache : after.responseStorage.length = server.responseStorage.length
  correlate : after.correlateStorage.length = server.correlateStorage.length

theorem SameRoom.refl (server : WlRpcServer) : SameRoom server server :=
  ⟨rfl, rfl, rfl⟩

section room

variable {server after : WlRpcServer}

namespace SameRoom

variable (room : SameRoom server after)

include room

theorem pendingSlotCount : after.pendingSlotCount = server.pendingSlotCount :=
  congrArg RpcLayout.pendingSlotCount room.layout

theorem cacheSlotCount : after.cacheSlotCount = server.cacheSlotCount :=
  congrArg RpcLayout.cacheSlotCount room.layout

theorem cacheRoom
    (fits : server.cacheSlotCount * server.responseCapacity ≤ server.responseStorage.length) :
    after.cacheSlotCount * after.responseCapacity ≤ after.responseStorage.length := by
  have capacity : after.responseCapacity = server.responseCapacity :=
    congrArg RpcLayout.responseCapacity room.layout
  rw [room.cacheSlotCount, capacity, room.cache]
  exact fits

theorem correlateRoom
    (fits : server.correlateSlotCount * server.correlateCapacity ≤
      server.correlateStorage.length) :
    after.correlateSlotCount * after.correlateCapacity ≤ after.correlateStorage.length := by
  have count : after.correlateSlotCount = server.correlateSlotCount :=
    congrArg RpcLayout.correlateSlotCount room.layout
  have capacity : after.correlateCapacity = server.correlateCapacity :=
    congrArg RpcLayout.correlateCapacity room.layout
  rw [count, capacity, room.correlate]
  exact fits

end SameRoom

end room

/-- A response slot takes another state of its delivery, and its pending slot, if it had one, becomes
free. -/
structure SlotAnswers (server after : WlRpcServer) (gone : Nat → Bool) (index : Nat)
    (slot : RpcResponseSlot) : Prop where
  room : SameRoom server after
  pendings : ∀ pending, after.pendingSlots pending =
    if gone pending then .zero else server.pendingSlots pending
  responses : ∀ other, after.responseSlots other =
    if other = index then slot else server.responseSlots other
  active : slot.active = (server.responseSlots index).active
  identity : slot.identity = (server.responseSlots index).identity
  sound : SlotSound server.layout index slot
  moved : slot.deliveryState ≠ .reserved
  fresh : slot.deliveryState = .inFlight →
    ∀ other, InFlight (server.responseSlots other) slot.txHandle → other = index
  together : ∀ pending response, Reserves server pending response →
    (gone pending = true ↔ response = index)

section answered

variable {server after : WlRpcServer} {gone : Nat → Bool} {index : Nat} {slot : RpcResponseSlot}

namespace SlotAnswers

variable (answers : SlotAnswers server after gone index slot) {pending response other : Nat}
  {txHandle : UInt32}

include answers

theorem here : after.responseSlots index = slot :=
  (answers.responses index).trans (if_pos rfl)

theorem there (apart : other ≠ index) : after.responseSlots other = server.responseSlots other :=
  (answers.responses other).trans (if_neg apart)

theorem stays (active : (after.pendingSlots pending).active = true) : ¬ gone pending = true := by
  intro cleared
  have zeroed := (answers.pendings pending).trans (if_pos cleared)
  exact Bool.false_ne_true ((congrArg RpcPending.active zeroed).symm.trans active)

theorem apart (reserved : (after.responseSlots response).deliveryState = .reserved) :
    response ≠ index := by
  rintro rfl
  exact answers.moved (answers.here ▸ reserved)

/-- What is reserved afterwards was reserved before. -/
theorem back (reserves : Reserves after pending response) : Reserves server pending response :=
  reserves.of_eq ((answers.pendings pending).trans (if_neg (answers.stays reserves.active))).symm
    (answers.there (answers.apart reserves.reserved)).symm

/-- The other reservations are kept. -/
theorem onward (reserves : Reserves server pending response) (apart : response ≠ index) :
    Reserves after pending response :=
  reserves.of_eq
    ((answers.pendings pending).trans
      (if_neg fun gone => apart ((answers.together pending response reserves).mp gone)))
    (answers.there apart)

theorem history (held : (after.responseSlots other).active = .history) :
    (server.responseSlots other).active = .history ∧
      (after.responseSlots other).identity = (server.responseSlots other).identity := by
  by_cases same : other = index
  · subst same
    rw [answers.here] at held ⊢
    exact ⟨answers.active.symm.trans held, answers.identity⟩
  · rw [answers.there same] at held ⊢
    exact ⟨held, rfl⟩

theorem flight (flying : InFlight (after.responseSlots other) txHandle) :
    InFlight (server.responseSlots other) txHandle ∨
      (other = index ∧ slot.deliveryState = .inFlight ∧ slot.txHandle = txHandle) := by
  by_cases same : other = index
  · subst same
    rw [answers.here] at flying
    exact .inr ⟨rfl, flying.2⟩
  · rw [answers.there same] at flying
    exact .inl flying

end SlotAnswers

theorem ServerInv.answered (inv : ServerInv server)
    (answers : SlotAnswers server after gone index slot) : ServerInv after where
  sound other inUse := by
    rw [answers.room.layout]
    by_cases same : other = index
    · subst same
      rw [answers.here]
      exact answers.sound
    · rw [answers.there same] at inUse ⊢
      exact inv.sound other inUse
  owner pending activeAfter := by
    have kept := answers.stays activeAfter
    rw [answers.pendings pending, if_neg kept] at activeAfter
    obtain ⟨inside, response, reserves⟩ := inv.owner pending activeAfter
    have apart : response ≠ index := fun same =>
      kept ((answers.together pending response reserves).mpr same)
    exact ⟨answers.room.pendingSlotCount ▸ inside, response, answers.onward reserves apart⟩
  owned response inUse reserved := by
    have apart := answers.apart reserved
    rw [answers.there apart] at inUse reserved
    obtain ⟨pending, reserves⟩ := inv.owned response inUse reserved
    exact ⟨pending, answers.onward reserves apart⟩
  once first second response one two :=
    inv.once first second response (answers.back one) (answers.back two)
  keys first second one two same := by
    obtain ⟨heldFirst, identityFirst⟩ := answers.history one
    obtain ⟨heldSecond, identitySecond⟩ := answers.history two
    rw [identityFirst, identitySecond] at same
    exact inv.keys first second heldFirst heldSecond same
  handles first second txHandle one two := by
    -- the new handle is met nowhere else
    rcases answers.flight one with oldFirst | ⟨rfl, flying, rfl⟩
    · rcases answers.flight two with oldSecond | ⟨rfl, flying, rfl⟩
      · exact inv.handles first second txHandle oldFirst oldSecond
      · exact answers.fresh flying first oldFirst
    · rcases answers.flight two with oldSecond | ⟨rfl, -, -⟩
      · exact (answers.fresh flying second oldSecond).symm
      · rfl
  cacheRoom := answers.room.cacheRoom inv.cacheRoom
  correlateRoom := answers.room.correlateRoom inv.correlateRoom
  roomy := by rw [answers.room.layout]; exact inv.roomy

end answered

/-! ### Requests that are admitted

An admission ties a free pending slot to a response slot in which nothing is reserved. -/

section admitted

variable {server : WlRpcServer} {identity : WlRpcRequestIdentity} {nowMs : UInt32}
  {pending target capacity index : Nat} {use : ResponseUse}

theorem admit_response_self :
    (server.reserveFor identity nowMs pending target capacity use).responseSlots target =
      { RpcResponseSlot.zero with
        identity := identity, generation := (serverNextGeneration server.nextGeneration).1
        data := some (server.responseData target), capacity := capacity, active := use
        deliveryState := .reserved } :=
  Function.update_self ..

theorem admit_response_of_ne (apart : index ≠ target) :
    (server.reserveFor identity nowMs pending target capacity use).responseSlots index =
      server.responseSlots index :=
  Function.update_of_ne apart ..

theorem admit_pending_self :
    (server.reserveFor identity nowMs pending target capacity use).pendingSlots pending =
      { RpcPending.zero with
        identity := identity, generation := (serverNextGeneration server.nextGeneration).1
        startedAt := nowMs, response := some target, active := true } :=
  Function.update_self ..

theorem admit_pending_of_ne (apart : index ≠ pending) :
    (server.reserveFor identity nowMs pending target capacity use).pendingSlots index =
      server.pendingSlots index :=
  Function.update_of_ne apart ..

theorem serverNextGeneration_ne_zero (next : UInt64) : (serverNextGeneration next).1 ≠ 0 := by
  unfold serverNextGeneration
  by_cases wrapped : next = 0
  · rw [if_pos wrapped, wrapped]
    decide
  · rw [if_neg wrapped]
    exact wrapped

theorem admit_reserves_self (used : use ≠ .free) :
    Reserves (server.reserveFor identity nowMs pending target capacity use) pending target where
  active := by rw [admit_pending_self]
  points := by rw [admit_pending_self]
  used := by rw [admit_response_self]; exact used
  reserved := by rw [admit_response_self]
  generation := by rw [admit_response_self, admit_pending_self]
  identity := by rw [admit_response_self, admit_pending_self]

theorem admit_reserves {first second : Nat}
    (reserves : Reserves (server.reserveFor identity nowMs pending target capacity use) first second) :
    (first = pending ∧ second = target) ∨
      (first ≠ pending ∧ (second ≠ target → Reserves server first second)) := by
  by_cases same : first = pending
  · subst same
    have points := reserves.points
    rw [admit_pending_self] at points
    exact .inl ⟨rfl, (Option.some.inj points).symm⟩
  · exact .inr ⟨same, fun apart =>
      reserves.of_eq (admit_pending_of_ne same).symm (admit_response_of_ne apart).symm⟩

/-- A request may be admitted to a pending slot that is free and to a response slot that is not
reserved, if no other history entry has its key. -/
structure Admits (server : WlRpcServer) (identity : WlRpcRequestIdentity)
    (pending target capacity : Nat) (use : ResponseUse) : Prop where
  valid : identityValid identity = true
  pendingInside : pending < server.pendingSlotCount
  pendingFree : (server.pendingSlots pending).active = false
  inside : target < server.responseCount
  bank : use = server.layout.use target
  room : capacity = server.layout.capacity target
  unreserved : (server.responseSlots target).active = .free ∨
    (server.responseSlots target).deliveryState ≠ .reserved
  fresh : use = .history → ∀ other, (server.responseSlots other).active = .history →
    identityKeyEqual (server.responseSlots other).identity identity = true → other = target

namespace Admits

variable (admits : Admits server identity pending target capacity use) {first second : Nat}

include admits

theorem used : use ≠ .free := by
  rw [admits.bank, RpcLayout.use]
  split <;> exact nofun

theorem unowned : ¬ Reserves server first target := by
  intro reserves
  rcases admits.unreserved with free | moved
  · exact reserves.used free
  · exact moved reserves.reserved

/-- The reservations of other requests are kept. -/
theorem onward (reserves : Reserves server first second) :
    Reserves (server.reserveFor identity nowMs pending target capacity use) first second := by
  refine reserves.of_eq (admit_pending_of_ne ?_) (admit_response_of_ne ?_)
  · rintro rfl
    exact Bool.false_ne_true (admits.pendingFree.symm.trans reserves.active)
  · rintro rfl
    exact admits.unowned reserves

/-- A pending slot that points to the target is the new one. -/
theorem newOwner (inv : ServerInv server)
    (reserves : Reserves (server.reserveFor identity nowMs pending target capacity use) first
      target) : first = pending := by
  by_contra apart
  have active := reserves.active
  have points := reserves.points
  rw [admit_pending_of_ne apart] at active points
  obtain ⟨-, response, old⟩ := inv.owner first active
  obtain rfl : response = target := Option.some.inj (old.points.symm.trans points)
  exact admits.unowned old

theorem once (inv : ServerInv server) {response : Nat}
    (one : Reserves (server.reserveFor identity nowMs pending target capacity use) first response)
    (two : Reserves (server.reserveFor identity nowMs pending target capacity use) second response) :
    first = second := by
  by_cases same : response = target
  · subst same
    exact (admits.newOwner inv one).trans (admits.newOwner inv two).symm
  rcases admit_reserves one with ⟨-, hit⟩ | ⟨-, oldOne⟩
  · exact absurd hit same
  rcases admit_reserves two with ⟨-, hit⟩ | ⟨-, oldTwo⟩
  · exact absurd hit same
  · exact inv.once first second response (oldOne same) (oldTwo same)

theorem keys (inv : ServerInv server) {after : WlRpcServer}
    (reserved : server.reserveFor identity nowMs pending target capacity use = after)
    (one : (after.responseSlots first).active = .history)
    (two : (after.responseSlots second).active = .history)
    (key : identityKeyEqual (after.responseSlots first).identity
      (after.responseSlots second).identity = true) : first = second := by
  subst reserved
  by_cases sameFirst : first = target
  · by_cases sameSecond : second = target
    · rw [sameFirst, sameSecond]
    · rw [sameFirst, admit_response_self] at one key
      rw [admit_response_of_ne sameSecond] at two key
      exact absurd (admits.fresh one second two (identityKeyEqual_comm key)) sameSecond
  · rw [admit_response_of_ne sameFirst] at one key
    by_cases sameSecond : second = target
    · rw [sameSecond, admit_response_self] at two key
      exact absurd (admits.fresh two first one key) sameFirst
    · rw [admit_response_of_ne sameSecond] at two key
      exact inv.keys first second one two key

end Admits

theorem admit_flight {txHandle : UInt32}
    (flying : InFlight
      ((server.reserveFor identity nowMs pending target capacity use).responseSlots index) txHandle) :
    InFlight (server.responseSlots index) txHandle := by
  have apart : index ≠ target := by
    rintro rfl
    rw [admit_response_self] at flying
    exact nomatch flying.2.1
  rw [admit_response_of_ne apart] at flying
  exact flying

theorem ServerInv.admitted (inv : ServerInv server)
    (admits : Admits server identity pending target capacity use) :
    ServerInv (server.reserveFor identity nowMs pending target capacity use) where
  sound index inUse := by
    by_cases same : index = target
    · subst same
      rw [admit_response_self]
      exact {
        within := admits.inside, valid := admits.valid
        generation := serverNextGeneration_ne_zero server.nextGeneration
        data := rfl, capacity := admits.room, length := Nat.zero_le _, use := admits.bank
        delivered := nofun, handle := nofun }
    · rw [admit_response_of_ne same] at inUse ⊢
      exact inv.sound index inUse
  owner index active := by
    by_cases same : index = pending
    · subst same
      exact ⟨admits.pendingInside, target, admit_reserves_self admits.used⟩
    · rw [admit_pending_of_ne same] at active
      obtain ⟨within, response, reserves⟩ := inv.owner index active
      exact ⟨within, response, admits.onward reserves⟩
  owned response inUse reserved := by
    by_cases same : response = target
    · subst same
      exact ⟨pending, admit_reserves_self admits.used⟩
    · rw [admit_response_of_ne same] at inUse reserved
      obtain ⟨owner, reserves⟩ := inv.owned response inUse reserved
      exact ⟨owner, admits.onward reserves⟩
  once _ _ _ one two := admits.once inv one two
  keys _ _ one two key := admits.keys inv rfl one two key
  handles first second txHandle one two :=
    inv.handles first second txHandle (admit_flight one) (admit_flight two)
  cacheRoom := inv.cacheRoom
  correlateRoom := inv.correlateRoom
  roomy := inv.roomy

end admitted

/-! ### Updates beside the tables -/

/-- The tables decide the invariant: other fields may change if the storages keep their size. -/
theorem ServerInv.of_tables {server after : WlRpcServer} (inv : ServerInv server)
    (room : SameRoom server after) (pendings : after.pendingSlots = server.pendingSlots)
    (responses : after.responseSlots = server.responseSlots) : ServerInv after := by
  have back : ∀ pending response, Reserves after pending response →
      Reserves server pending response := fun pending response reserves =>
    reserves.of_eq (congrFun pendings pending).symm (congrFun responses response).symm
  have onward : ∀ pending response, Reserves server pending response →
      Reserves after pending response := fun pending response reserves =>
    reserves.of_eq (congrFun pendings pending) (congrFun responses response)
  exact {
    sound := by rw [responses, room.layout]; exact inv.sound
    owner := by
      rw [pendings, room.pendingSlotCount]
      intro pending active
      obtain ⟨inside, response, reserves⟩ := inv.owner pending active
      exact ⟨inside, response, onward pending response reserves⟩
    owned := by
      rw [responses]
      intro response used reserved
      obtain ⟨pending, reserves⟩ := inv.owned response used reserved
      exact ⟨pending, onward pending response reserves⟩
    once := fun first second response one two =>
      inv.once first second response (back first response one) (back second response two)
    keys := by rw [responses]; exact inv.keys
    handles := by rw [responses]; exact inv.handles
    cacheRoom := room.cacheRoom inv.cacheRoom
    correlateRoom := room.correlateRoom inv.correlateRoom
    roomy := by rw [room.layout]; exact inv.roomy }

/-- The request of a pending slot, apart from how its time is kept. -/
structure SameRequest (before after : RpcPending) : Prop where
  active : after.active = before.active
  response : after.response = before.response
  generation : after.generation = before.generation
  identity : after.identity = before.identity

section reported

variable {server : WlRpcServer} {index pending response : Nat}

theorem reported_request :
    SameRequest (server.pendingSlots pending)
      ((server.setPending index
        { server.pendingSlots index with expiryReported := true }).pendingSlots pending) := by
  rw [pendingSlots_setPending]
  by_cases here : pending = index
  · rw [if_pos here, here]
    exact ⟨rfl, rfl, rfl, rfl⟩
  · rw [if_neg here]
    exact ⟨rfl, rfl, rfl, rfl⟩

theorem reported_reserves :
    Reserves (server.setPending index
        { server.pendingSlots index with expiryReported := true }) pending response ↔
      Reserves server pending response := by
  obtain ⟨active, points, generation, identity⟩ :=
    @reported_request server index pending
  constructor
  · intro reserves
    exact ⟨active.symm.trans reserves.active, points.symm.trans reserves.points, reserves.used,
      reserves.reserved, reserves.generation.trans generation, reserves.identity.trans identity⟩
  · intro reserves
    exact ⟨active.trans reserves.active, points.trans reserves.points, reserves.used,
      reserves.reserved, reserves.generation.trans generation.symm,
      reserves.identity.trans identity.symm⟩

theorem ServerInv.reported (inv : ServerInv server) :
    ServerInv (server.setPending index
      { server.pendingSlots index with expiryReported := true }) where
  sound := inv.sound
  owner pending active := by
    obtain ⟨inside, response, reserves⟩ :=
      inv.owner pending (reported_request.active.symm.trans active)
    exact ⟨inside, response, reported_reserves.mpr reserves⟩
  owned response used reserved := by
    obtain ⟨pending, reserves⟩ := inv.owned response used reserved
    exact ⟨pending, reported_reserves.mpr reserves⟩
  once first second response one two :=
    inv.once first second response (reported_reserves.mp one) (reported_reserves.mp two)
  keys := inv.keys
  handles := inv.handles
  cacheRoom := inv.cacheRoom
  correlateRoom := inv.correlateRoom
  roomy := inv.roomy

end reported

theorem uint16_toNat_pos {value : UInt16} (nonzero : value ≠ 0) : 0 < value.toNat :=
  Nat.pos_of_ne_zero fun zero => nonzero (UInt16.toNat_inj.mp zero)

variable {config : WlRpcServerConfig}

theorem cacheGroup_roomy {correlate : Option WlRpcServerResponsePool}
    (group : ¬ cacheGroupInvalid config correlate = true) (some : 0 < config.cacheSlotCount.toNat) :
    0 < config.responseCapacityPerSlot.toNat := by
  have cached : config.cacheSlotCount ≠ 0 := by
    intro zero
    rw [zero] at some
    exact Nat.lt_irrefl 0 some
  rw [cacheGroupInvalid, if_pos cached, beq_iff_eq] at group
  exact uint16_toNat_pos group

theorem correlatePool_roomy {area : WlRpcServerResponsePool}
    (pool : ¬ (some area).any (correlatePoolInvalid config) = true) :
    0 < area.capacityPerSlot.toNat := by
  simp only [Option.any_some, correlatePoolInvalid, Bool.or_eq_true, not_or, beq_iff_eq] at pool
  exact uint16_toNat_pos pool.1.1.2

theorem ServerInv.initial {correlate : Option WlRpcServerResponsePool} {server : WlRpcServer}
    (accepted : wlRpcServerInitWithCorrelate config correlate = .ok server) :
    ServerInv server := by
  unfold wlRpcServerInitWithCorrelate at accepted
  split at accepted
  · exact nomatch accepted
  split at accepted
  · exact nomatch accepted
  rename_i group
  split at accepted
  · exact nomatch accepted
  rename_i pool
  split at accepted
  · exact nomatch accepted
  rename_i size
  obtain rfl := Except.ok.inj accepted
  exact {
    sound := fun _ used => absurd rfl used
    owner := nofun
    owned := fun _ used _ => absurd rfl used
    once := fun _ _ _ one _ => nomatch one.active
    keys := nofun
    handles := fun _ _ _ one _ => absurd rfl one.1
    cacheRoom := Nat.not_lt.mp size
    correlateRoom := by
      cases correlate with
      | none => exact Nat.le_refl 0
      | some =>
        simp only [Option.any_some, correlatePoolInvalid, Bool.or_eq_true, not_or,
          decide_eq_true_eq, Nat.not_lt] at pool
        exact pool.2
    roomy := by
      intro index inside
      unfold RpcLayout.capacity
      split
      · rename_i cached
        exact cacheGroup_roomy group (Nat.zero_lt_of_lt cached)
      · rename_i outside
        cases correlate with
        | none => exact absurd inside outside
        | some => exact correlatePool_roomy pool }

/-! ### Tokens

A token resolves exactly if it is live: its request is pending, and a response is reserved for it.
-/

section tokens

variable {server : WlRpcServer} {request : WlRpcServerRequest} {pending response : Nat}

theorem resolved (found : serverResolvePending server request = .ok (pending, response)) :
    Reserves server pending response ∧ request.generation = (server.pendingSlots pending).generation ∧
      request.identity = (server.pendingSlots pending).identity := by
  unfold serverResolvePending at found
  split at found
  · exact nomatch found
  rename_i index hit
  split at found
  · exact nomatch found
  rename_i target points
  dsimp only at found
  split at found
  · exact nomatch found
  rename_i checks
  obtain ⟨rfl, rfl⟩ := Prod.mk.inj (Except.ok.inj found)
  have test := List.find?_some hit
  rw [Bool.and_eq_true, requestEqual_iff] at test
  obtain ⟨active, generation, identity⟩ := test
  rw [not_or, not_or, not_or] at checks
  obtain ⟨used, reserved, sameGeneration, sameIdentity⟩ := checks
  rw [not_not] at reserved sameGeneration sameIdentity
  rw [identityEqual_iff] at sameIdentity
  exact ⟨⟨active, points, used, reserved, sameGeneration.trans generation,
    sameIdentity.trans identity⟩, generation, identity⟩

theorem resolve_eq (inv : ServerInv server) :
    (∃ pending response, serverResolvePending server request = .ok (pending, response)) ∨
      serverResolvePending server request = .error .notFound ∧ ¬ TokenLive server request := by
  cases found : (List.range server.pendingSlotCount).find? fun index =>
      (server.pendingSlots index).active && requestEqual request (server.pendingSlots index) with
  | none =>
    refine .inr ⟨by rw [serverResolvePending, found], ?_⟩
    rintro ⟨index, inside, active, same⟩
    have missed := List.find?_eq_none.mp found index (List.mem_range.mpr inside)
    rw [active, same] at missed
    exact missed rfl
  | some index =>
    have test := List.find?_some found
    rw [Bool.and_eq_true, requestEqual_iff] at test
    obtain ⟨active, generation, identity⟩ := test
    obtain ⟨-, target, reserves⟩ := inv.owner index active
    refine .inl ⟨index, target, ?_⟩
    rw [serverResolvePending, found]
    simp only [reserves.points]
    rw [if_neg]
    rw [not_or, not_or, not_or, not_not, not_not, not_not, identityEqual_iff]
    exact ⟨reserves.used, reserves.reserved, reserves.generation.trans generation.symm,
      reserves.identity.trans identity.symm⟩

theorem tokenLive_of_resolved
    (found : serverResolvePending server request = .ok (pending, response)) (inv : ServerInv server) :
    TokenLive server request := by
  obtain ⟨reserves, generation, identity⟩ := resolved found
  exact ⟨pending, (inv.owner pending reserves.active).1, reserves.active,
    requestEqual_iff.mpr ⟨generation, identity⟩⟩

end tokens

end Wirelink
