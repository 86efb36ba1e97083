/-
Module: Wirelink.Core.Outbox
Purpose: The outbox that keeps the latest value of each message id until it is sent. The slot array is
  a function from indices, of which the code visits those below a count. A value of WlOutbox is what
  a successful init has built, so the tests for null and uninitialized objects have no counterpart.
Trusted boundary: the translation of src/outbox.c
-/
import Mathlib.Logic.Function.Basic
import Wirelink.Core.Context

namespace Wirelink

/-- `wl_outbox_slot_impl_t`. -/
structure OutboxSlot where
  generation : UInt64
  payloadLength : Nat
  messageId : UInt16
  valid : Bool
deriving Repr, Inhabited, DecidableEq

/-- A slot after `memset`. -/
def OutboxSlot.zero : OutboxSlot :=
  { generation := 0, payloadLength := 0, messageId := 0, valid := false }

/-- The counters of `wl_outbox_impl_t`. -/
structure OutboxCounters where
  submitted : UInt64
  coalesced : UInt64
  queueFull : UInt64
  acquired : UInt64
  accepted : UInt64
  deferred : UInt64
  rejected : UInt64
  superseded : UInt64
  resets : UInt64
deriving Repr, Inhabited, DecidableEq

/-- The counters of a new outbox. -/
def OutboxCounters.zero : OutboxCounters :=
  { submitted := 0, coalesced := 0, queueFull := 0, acquired := 0, accepted := 0, deferred := 0
    rejected := 0, superseded := 0, resets := 0 }

/-- `wl_outbox_impl_t`. -/
structure WlOutbox where
  slots : Nat → OutboxSlot
  payloadStorage : Bytes
  nextGeneration : UInt64
  counters : OutboxCounters
  activeToken : UInt64
  slotCount : UInt16
  payloadCapacity : UInt16
  cursor : UInt16
  depth : UInt16
  activeIndex : UInt16
  active : Bool

/-- `wl_outbox_item_t`. -/
structure WlOutboxItem where
  token : UInt64
  slotIndex : UInt16
  messageId : UInt16
  payloadLength : Nat
deriving Repr, Inhabited, DecidableEq

/-- `wl_outbox_completion_t`; a value outside the enumeration is refused. -/
inductive WlOutboxCompletion where
  | accepted
  | deferred
  | rejected
  | unknown
deriving Repr, Inhabited, DecidableEq

/-- `wl_outbox_init` with its storage. -/
def wlOutboxInit (slotCount payloadCapacity : UInt16) (payloadStorage : Bytes)
    (initialGeneration : UInt64) : Except WlErr WlOutbox :=
  if slotCount = 0 ∨ payloadCapacity = 0 ∨
      payloadStorage.length < slotCount.toNat * payloadCapacity.toNat then .error .invalidArg
  else
    .ok
      { slots := fun _ => .zero, payloadStorage := payloadStorage
        nextGeneration := initialGeneration, counters := .zero, activeToken := 0
        slotCount := slotCount, payloadCapacity := payloadCapacity, cursor := 0, depth := 0
        activeIndex := 0, active := false }

namespace WlOutbox

/-- `payload_at`, as an offset of the storage. -/
def payloadAt (outbox : WlOutbox) (index : Nat) : Nat :=
  index * outbox.payloadCapacity.toNat

/-- Replace a slot. -/
def setSlot (outbox : WlOutbox) (index : Nat) (slot : OutboxSlot) : WlOutbox :=
  { outbox with slots := Function.update outbox.slots index slot }

/-- The payload a slot holds. -/
def payload (outbox : WlOutbox) (index : Nat) : Bytes :=
  outbox.payloadStorage.readAt (outbox.payloadAt index) (outbox.slots index).payloadLength

end WlOutbox

/-- The search of `wl_outbox_submit_latest` for a slot with the message id. -/
def outboxFind (outbox : WlOutbox) (messageId : UInt16) : Option Nat :=
  (List.range outbox.slotCount.toNat).find? fun index =>
    (outbox.slots index).valid && (outbox.slots index).messageId == messageId

/-- Its search for a free slot. -/
def outboxFindFree (outbox : WlOutbox) : Option Nat :=
  (List.range outbox.slotCount.toNat).find? fun index => !(outbox.slots index).valid

/-- The generation of the next value; zero is skipped. -/
def outboxNextGeneration (generation : UInt64) : UInt64 :=
  if generation + 1 = 0 then generation + 1 + 1 else generation + 1

/-- The value goes into a slot; `replaced` tells whether it takes the place of an older one. -/
def outboxStore (outbox : WlOutbox) (index : Nat) (messageId : UInt16) (payload : Bytes)
    (replaced : Bool) : WlOutbox :=
  { outbox.setSlot index
      { generation := outboxNextGeneration outbox.nextGeneration, payloadLength := payload.length
        messageId := messageId, valid := true } with
    nextGeneration := outboxNextGeneration outbox.nextGeneration
    payloadStorage := outbox.payloadStorage.writeAt (outbox.payloadAt index) payload
    depth := if replaced then outbox.depth else outbox.depth + 1
    counters :=
      { outbox.counters with
        submitted := outbox.counters.submitted + 1
        coalesced := if replaced then outbox.counters.coalesced + 1 else outbox.counters.coalesced } }

/-- `wl_outbox_submit_latest`; it tells whether an older value was replaced. -/
def wlOutboxSubmitLatest (outbox : WlOutbox) (messageId : UInt16) (payload : Buffer) :
    WlOutbox × Except WlErr Bool :=
  if messageId = 0 ∨ payload.length > outbox.payloadCapacity.toNat ∨ payload.invalid then
    (outbox, .error .invalidArg)
  else
    match outboxFind outbox messageId with
    | some index => (outboxStore outbox index messageId payload.data true, .ok true)
    | none =>
      match outboxFindFree outbox with
      | some index => (outboxStore outbox index messageId payload.data false, .ok false)
      | none =>
        ({ outbox with
            counters :=
              { outbox.counters with queueFull := outbox.counters.queueFull + 1 } },
          .error .queueFull)

/-- The slot `wl_outbox_acquire_copy` comes to first. -/
def outboxPending (outbox : WlOutbox) : Option Nat :=
  ((List.range outbox.slotCount.toNat).map fun offset =>
    (outbox.cursor.toNat + offset) % outbox.slotCount.toNat).find? fun index =>
      (outbox.slots index).valid

/-- `wl_outbox_acquire_copy`, with the bytes it copies out. -/
def wlOutboxAcquireCopy (outbox : WlOutbox) (payloadCapacity : Nat) :
    WlOutbox × Except WlErr (WlOutboxItem × Bytes) :=
  if outbox.active then (outbox, .error .busy)
  else
    match outboxPending outbox with
    | none => (outbox, .error .noData)
    | some index =>
      let slot := outbox.slots index
      if slot.payloadLength > payloadCapacity then (outbox, .error .noSpace)
      else
        ({ outbox with
            active := true, activeIndex := UInt16.ofNat index, activeToken := slot.generation
            counters := { outbox.counters with acquired := outbox.counters.acquired + 1 } },
          .ok ({ token := slot.generation, slotIndex := UInt16.ofNat index
                 messageId := slot.messageId, payloadLength := slot.payloadLength },
            outbox.payload index))

/-- The end of an acquisition: its value goes, unless a newer one has replaced it. -/
def outboxFinish (outbox : WlOutbox) (item : WlOutboxItem) (accepted : Bool) : WlOutbox :=
  let slot := outbox.slots item.slotIndex.toNat
  let outbox :=
    if slot.valid ∧ slot.generation = item.token then
      { outbox.setSlot item.slotIndex.toNat .zero with depth := outbox.depth - 1 }
    else
      { outbox with
        counters := { outbox.counters with superseded := outbox.counters.superseded + 1 } }
  { outbox with
    cursor := UInt16.ofNat ((item.slotIndex.toNat + 1) % outbox.slotCount.toNat)
    counters :=
      if accepted then { outbox.counters with accepted := outbox.counters.accepted + 1 }
      else { outbox.counters with rejected := outbox.counters.rejected + 1 } }

/-- `wl_outbox_complete`. -/
def wlOutboxComplete (outbox : WlOutbox) (item : WlOutboxItem) (completion : WlOutboxCompletion) :
    WlOutbox × WlErr :=
  if item.slotIndex.toNat ≥ outbox.slotCount.toNat ∨ completion = .unknown then
    (outbox, .invalidArg)
  else if ¬ outbox.active ∨ outbox.activeIndex ≠ item.slotIndex ∨
      outbox.activeToken ≠ item.token then (outbox, .invalidState)
  else
    let outbox := { outbox with active := false, activeToken := 0 }
    match completion with
    | .deferred =>
      ({ outbox with
          counters := { outbox.counters with deferred := outbox.counters.deferred + 1 } }, .ok)
    | .accepted => (outboxFinish outbox item true, .ok)
    | _ => (outboxFinish outbox item false, .ok)

/-- `wl_outbox_reset`, with the number of values it discards. -/
def wlOutboxReset (outbox : WlOutbox) : WlOutbox × Except WlErr UInt16 :=
  if outbox.active then (outbox, .error .busy)
  else
    ({ outbox with
        slots := fun index =>
          if index < outbox.slotCount.toNat then .zero else outbox.slots index
        depth := 0, cursor := 0
        counters := { outbox.counters with resets := outbox.counters.resets + 1 } },
      .ok outbox.depth)

end Wirelink
