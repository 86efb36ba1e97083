/-
Module: Wirelink.Spec.Outbox
Purpose: An outbox under any sequence of calls, beside the values that were submitted to it: which of
  them a slot holds, which one the active acquisition has copied, and for which causes a value may
  leave the outbox.
Trusted boundary: the choice of operations; all behaviour is in the modules below
-/
import Mathlib.Algebra.Group.Nat.Defs
import Wirelink.Core.Outbox

namespace Wirelink

/-- One call of an outbox. -/
inductive OutboxOp where
  | submitLatest (messageId : UInt16) (payload : Buffer)
  | acquireCopy (payloadCapacity : Nat)
  | complete (item : WlOutboxItem) (completion : WlOutboxCompletion)
  | reset
deriving Repr, DecidableEq

/-- A value that was submitted for a message id. -/
structure OutboxValue where
  messageId : UInt16
  payload : Bytes
deriving Repr, DecidableEq

/-- An outbox with the values it has accepted, in order. Values are named by their place in that order:
`held` tells which one a slot has got last, `acquired` which one the active acquisition has copied. -/
structure OutboxSession where
  outbox : WlOutbox
  values : List OutboxValue
  held : Nat → Nat
  acquired : Option Nat

/-- The slot an accepted value goes to. -/
def submitSlot (outbox : WlOutbox) (messageId : UInt16) : Option Nat :=
  (outboxFind outbox messageId).or (outboxFindFree outbox)

namespace OutboxSession

/-- A session that begins. -/
def start (outbox : WlOutbox) : OutboxSession :=
  { outbox := outbox, values := [], held := fun _ => 0, acquired := none }

/-- A value is submitted. -/
def submit (session : OutboxSession) (messageId : UInt16) (payload : Buffer) : OutboxSession :=
  match wlOutboxSubmitLatest session.outbox messageId payload,
      submitSlot session.outbox messageId with
  | (outbox, .ok _), some index =>
    { session with
      outbox := outbox
      values := session.values ++ [{ messageId := messageId, payload := payload.data }]
      held := Function.update session.held index session.values.length }
  | (outbox, _), _ => { session with outbox := outbox }

/-- A value is copied out. -/
def acquire (session : OutboxSession) (payloadCapacity : Nat) : OutboxSession :=
  match wlOutboxAcquireCopy session.outbox payloadCapacity with
  | (outbox, .ok (item, _)) =>
    { session with outbox := outbox, acquired := some (session.held item.slotIndex.toNat) }
  | (outbox, .error _) => { session with outbox := outbox }

/-- The session after one call. -/
def step (session : OutboxSession) : OutboxOp → OutboxSession
  | .submitLatest messageId payload => session.submit messageId payload
  | .acquireCopy payloadCapacity => session.acquire payloadCapacity
  | .complete item completion =>
    { session with outbox := (wlOutboxComplete session.outbox item completion).1 }
  | .reset => { session with outbox := (wlOutboxReset session.outbox).1 }

end OutboxSession

/-- The session after a sequence of calls. -/
def runOutbox (session : OutboxSession) (ops : List OutboxOp) : OutboxSession :=
  ops.foldl OutboxSession.step session

/-- At most one valid slot for each message id. -/
def UniqueLanes (outbox : WlOutbox) : Prop :=
  ∀ first second, first < outbox.slotCount.toNat → second < outbox.slotCount.toNat →
    (outbox.slots first).valid = true → (outbox.slots second).valid = true →
    (outbox.slots first).messageId = (outbox.slots second).messageId → first = second

/-- The number of valid slots. -/
def validCount (outbox : WlOutbox) : Nat :=
  (List.range outbox.slotCount.toNat).countP fun index => (outbox.slots index).valid

/-- A value is the newest one of its message id. -/
def NewestOf (values : List OutboxValue) (value : OutboxValue) : Prop :=
  ∃ before after, values = before ++ value :: after ∧
    ∀ other, other ∈ after → other.messageId ≠ value.messageId

/-- What is copied out is the newest value submitted for its message id. -/
def CopiesNewest (session : OutboxSession) : Prop :=
  ∀ payloadCapacity item payload,
    (wlOutboxAcquireCopy session.outbox payloadCapacity).2 = .ok (item, payload) →
    NewestOf session.values { messageId := item.messageId, payload := payload }

/-- A value is refused because it is illegal, or because its message id is new and every slot is
valid. -/
def RefusesOnlyWhenFull (outbox : WlOutbox) : Prop :=
  ∀ messageId payload error, (wlOutboxSubmitLatest outbox messageId payload).2 = .error error →
    (messageId = 0 ∨ payload.length > outbox.payloadCapacity.toNat ∨ payload.invalid = true) ∨
    ∀ index, index < outbox.slotCount.toNat → (outbox.slots index).valid = true ∧
      (outbox.slots index).messageId ≠ messageId

/-- Fewer values have been accepted after the one the active acquisition has copied than there are
generations. -/
def AcquisitionFresh (session : OutboxSession) : Prop :=
  ∀ place, session.outbox.active = true → session.acquired = some place →
    session.values.length ≤ place + (2 ^ 64 - 1)

/-- A slot still holds the value it held. -/
structure ValueKept (before after : OutboxSession) (index : Nat) : Prop where
  valid : (after.outbox.slots index).valid = true
  held : after.held index = before.held index
  messageId : (after.outbox.slots index).messageId = (before.outbox.slots index).messageId
  payload : after.outbox.payload index = before.outbox.payload index

/-- The causes for which a call may remove the value of a slot. -/
inductive ValueRemovedBy (session : OutboxSession) (index : Nat) : OutboxOp → Prop where
  | completed {item : WlOutboxItem} {completion : WlOutboxCompletion}
      (done : (wlOutboxComplete session.outbox item completion).2 = .ok)
      (final : completion ≠ .deferred)
      (exact : session.acquired = some (session.held index)) :
      ValueRemovedBy session index (.complete item completion)
  | replaced {messageId : UInt16} {payload : Buffer}
      (accepted : (wlOutboxSubmitLatest session.outbox messageId payload).2 = .ok true)
      (lane : (session.outbox.slots index).messageId = messageId) :
      ValueRemovedBy session index (.submitLatest messageId payload)
  | reset {discarded : UInt16} (done : (wlOutboxReset session.outbox).2 = .ok discarded) :
      ValueRemovedBy session index .reset

end Wirelink
