/-
Module: Wirelink.Proofs.Outbox
Purpose: What every call of an outbox keeps: a slot that is valid holds the last value accepted for its
  message id, under the generation that value was given.
Trusted boundary: none
-/
import Wirelink.Lib.Slots
import Wirelink.Lib.Token
import Wirelink.Spec.Outbox

namespace Wirelink

/-! ### Generations

The generation of a value is its place in the order of submissions, counted with zero left out. -/

/-- The generation of the value at a place of the order of submissions. -/
def valueToken (initial : UInt64) (place : Nat) : Nat :=
  Token.nth (2 ^ 64) initial.toNat place

theorem toNat_outboxNextGeneration (generation : UInt64) :
    (outboxNextGeneration generation).toNat = Token.next (2 ^ 64) generation.toNat := by
  have small := generation.toNat_lt
  have sum : (generation + 1).toNat = (generation.toNat + 1) % 2 ^ 64 := UInt64.toNat_add _ _
  unfold outboxNextGeneration Token.next
  by_cases wraps : generation.toNat + 1 = 2 ^ 64
  · have zero : generation + 1 = 0 := by
      apply UInt64.toNat_inj.mp
      rw [sum, wraps, Nat.mod_self]
      rfl
    rw [if_pos zero, if_pos wraps, zero]
    rfl
  · rw [Nat.mod_eq_of_lt (by omega)] at sum
    rw [if_neg, if_neg wraps, sum]
    intro zero
    rw [zero] at sum
    exact absurd sum nofun

/-! ### The invariant

A valid slot holds the newest value of its message id. The lookups of the source are characterized
behind the invariant. -/

/-- What a valid slot holds: the newest value of its message id, under the generation of that value. -/
structure SlotHolds (initial : UInt64) (values : List OutboxValue) (slot : OutboxSlot)
    (payload : Bytes) (place : Nat) : Prop where
  value : values[place]? = some { messageId := slot.messageId, payload := payload }
  newest : ∀ later other, place < later → values[later]? = some other →
    other.messageId ≠ slot.messageId
  generation : slot.generation.toNat = valueToken initial place

/-- What holds in every state of a session. -/
structure OutboxInv (initial : UInt64) (session : OutboxSession) : Prop where
  positive : 0 < session.outbox.slotCount.toNat
  fits : session.outbox.slotCount.toNat * session.outbox.payloadCapacity.toNat ≤
    session.outbox.payloadStorage.length
  inside : ∀ index, (session.outbox.slots index).valid = true →
    index < session.outbox.slotCount.toNat ∧
      (session.outbox.slots index).payloadLength ≤ session.outbox.payloadCapacity.toNat
  holds : ∀ index, (session.outbox.slots index).valid = true →
    SlotHolds initial session.values (session.outbox.slots index) (session.outbox.payload index)
      (session.held index)
  lanes : UniqueLanes session.outbox
  counted : session.outbox.depth.toNat = validCount session.outbox
  next : session.outbox.nextGeneration.toNat =
    (Token.next (2 ^ 64))^[session.values.length] initial.toNat
  active : session.outbox.active = true → ∃ place, session.acquired = some place ∧
    session.outbox.activeToken.toNat = valueToken initial place ∧
    (session.outbox.slots session.outbox.activeIndex.toNat).valid = true ∧
    place ≤ session.held session.outbox.activeIndex.toNat

section holds

variable {initial : UInt64} {values : List OutboxValue} {slot : OutboxSlot} {payload : Bytes}
  {place : Nat}

theorem SlotHolds.place_lt (holds : SlotHolds initial values slot payload place) :
    place < values.length :=
  (List.getElem?_eq_some_iff.mp holds.value).1

theorem SlotHolds.append (holds : SlotHolds initial values slot payload place) {value : OutboxValue}
    (apart : slot.messageId ≠ value.messageId) :
    SlotHolds initial (values ++ [value]) slot payload place := by
  refine ⟨(List.getElem?_append_left holds.place_lt).trans holds.value, ?_, holds.generation⟩
  intro later other above found
  rcases Nat.lt_trichotomy later values.length with old | rfl | outside
  · exact holds.newest later other above ((List.getElem?_append_left old).symm.trans found)
  · rw [List.getElem?_concat_length] at found
    exact Option.some.inj found ▸ apart.symm
  · rw [List.getElem?_eq_none (by rw [List.length_append]; exact outside)] at found
    exact nomatch found

theorem SlotHolds.last (generation : slot.generation.toNat = valueToken initial values.length) :
    SlotHolds initial (values ++ [{ messageId := slot.messageId, payload := payload }]) slot payload
      values.length := by
  refine ⟨List.getElem?_concat_length, fun later other above found => ?_, generation⟩
  rw [List.getElem?_eq_none (by rw [List.length_append]; exact above)] at found
  exact nomatch found

end holds

section searches

variable {outbox : WlOutbox} {messageId : UInt16} {index : Nat}

theorem outboxFind_some (found : outboxFind outbox messageId = some index) :
    index < outbox.slotCount.toNat ∧ (outbox.slots index).valid = true ∧
      (outbox.slots index).messageId = messageId := by
  obtain ⟨holds, member, -⟩ := List.find?_range_eq_some.mp found
  rw [Bool.and_eq_true, beq_iff_eq] at holds
  exact ⟨List.mem_range.mp member, holds⟩

theorem outboxFind_none (missing : outboxFind outbox messageId = none)
    (inside : index < outbox.slotCount.toNat) (valid : (outbox.slots index).valid = true) :
    (outbox.slots index).messageId ≠ messageId := by
  intro same
  have fails := List.find?_eq_none.mp missing index (List.mem_range.mpr inside)
  rw [Bool.and_eq_true, beq_iff_eq] at fails
  exact fails ⟨valid, same⟩

theorem outboxFindFree_some (found : outboxFindFree outbox = some index) :
    index < outbox.slotCount.toNat ∧ (outbox.slots index).valid = false := by
  obtain ⟨holds, member, -⟩ := List.find?_range_eq_some.mp found
  rw [Bool.not_eq_true'] at holds
  exact ⟨List.mem_range.mp member, holds⟩

theorem outboxFindFree_none (missing : outboxFindFree outbox = none)
    (inside : index < outbox.slotCount.toNat) : (outbox.slots index).valid = true := by
  have fails := List.find?_eq_none.mp missing index (List.mem_range.mpr inside)
  rw [Bool.not_eq_true', Bool.not_eq_false] at fails
  exact fails

theorem outboxPending_some (positive : 0 < outbox.slotCount.toNat)
    (found : outboxPending outbox = some index) :
    index < outbox.slotCount.toNat ∧ (outbox.slots index).valid = true := by
  have valid := List.find?_some found
  obtain ⟨_, -, place⟩ := List.mem_map.mp (List.mem_of_find?_eq_some found)
  exact ⟨place ▸ Nat.mod_lt _ positive, valid⟩

end searches

/-! ### Submission

A value goes to the slot of its message id, or to a free one if the id has none. No other slot is
written. -/

/-- The slot a value goes to: the one of its message id, or a free one if the id has none. -/
structure Takes (outbox : WlOutbox) (messageId : UInt16) (index : Nat) (replaced : Bool) : Prop where
  inside : index < outbox.slotCount.toNat
  occupied : (outbox.slots index).valid = replaced
  lane : replaced = true → (outbox.slots index).messageId = messageId
  alone : ∀ other, other < outbox.slotCount.toNat → other ≠ index →
    (outbox.slots other).valid = true → (outbox.slots other).messageId ≠ messageId

/-- A submission is refused, the outbox being full or the value illegal, or it takes its slot. -/
theorem submit_cases {outbox after : WlOutbox} {messageId : UInt16} {payload : Buffer}
    {result : Except WlErr Bool} (lanes : UniqueLanes outbox)
    (called : wlOutboxSubmitLatest outbox messageId payload = (after, result)) :
    (after = outbox ∧ result = .error .invalidArg ∧
        (messageId = 0 ∨ payload.length > outbox.payloadCapacity.toNat ∨ payload.invalid = true)) ∨
      (result = .error .queueFull ∧
        (∀ index, index < outbox.slotCount.toNat → (outbox.slots index).valid = true ∧
          (outbox.slots index).messageId ≠ messageId) ∧
        ∃ counters, after = { outbox with counters := counters }) ∨
      ∃ index replaced, result = .ok replaced ∧ submitSlot outbox messageId = some index ∧
        Takes outbox messageId index replaced ∧
        payload.data.length ≤ outbox.payloadCapacity.toNat ∧
        after = outboxStore outbox index messageId payload.data replaced := by
  unfold wlOutboxSubmitLatest at called
  split at called
  · rename_i illegal
    cases called
    exact .inl ⟨rfl, rfl, illegal⟩
  · rename_i legal
    have short : payload.data.length ≤ outbox.payloadCapacity.toNat := by
      cases payload with
      | null => exact Nat.zero_le _
      | bytes =>
        rw [not_or, not_or, gt_iff_lt, Nat.not_lt] at legal
        exact legal.2.1
    cases found : outboxFind outbox messageId with
    | some index =>
      rw [found] at called
      cases called
      obtain ⟨inside, valid, lane⟩ := outboxFind_some found
      refine .inr (.inr ⟨index, true, rfl, ?_, ⟨inside, valid, fun _ => lane, ?_⟩, short, rfl⟩)
      · rw [submitSlot, found]
        rfl
      · intro other otherInside apart otherValid same
        exact apart (lanes other index otherInside inside otherValid valid (same.trans lane.symm))
    | none =>
      rw [found] at called
      cases room : outboxFindFree outbox with
      | some index =>
        rw [room] at called
        cases called
        obtain ⟨inside, free⟩ := outboxFindFree_some room
        refine .inr (.inr ⟨index, false, rfl, ?_, ⟨inside, free, nofun, ?_⟩, short, rfl⟩)
        · rw [submitSlot, found, room]
          rfl
        · intro other otherInside _ otherValid
          exact outboxFind_none found otherInside otherValid
      | none =>
        rw [room] at called
        cases called
        refine .inr (.inl ⟨rfl, fun index inside => ?_, _, rfl⟩)
        have valid := outboxFindFree_none room inside
        exact ⟨valid, outboxFind_none found inside valid⟩

section store

variable {outbox : WlOutbox} {messageId : UInt16} {payload : Bytes} {index other : Nat}
  {replaced : Bool}

theorem slots_store_self : (outboxStore outbox index messageId payload replaced).slots index =
    { generation := outboxNextGeneration outbox.nextGeneration, payloadLength := payload.length
      messageId := messageId, valid := true } :=
  Function.update_self _ _ _

theorem slots_store_of_ne (apart : other ≠ index) :
    (outboxStore outbox index messageId payload replaced).slots other = outbox.slots other :=
  Function.update_of_ne apart _ _

theorem payload_store_of_ne (apart : other ≠ index)
    (short : (outbox.slots other).payloadLength ≤ outbox.payloadCapacity.toNat)
    (small : payload.length ≤ outbox.payloadCapacity.toNat) :
    (outboxStore outbox index messageId payload replaced).payload other = outbox.payload other := by
  unfold WlOutbox.payload
  rw [slots_store_of_ne apart]
  exact Bytes.readAt_writeAt_of_disjoint (Bytes.slots_apart apart short small)

theorem payload_store_self (inside : index < outbox.slotCount.toNat)
    (fits : outbox.slotCount.toNat * outbox.payloadCapacity.toNat ≤ outbox.payloadStorage.length)
    (small : payload.length ≤ outbox.payloadCapacity.toNat) :
    (outboxStore outbox index messageId payload replaced).payload index = payload := by
  unfold WlOutbox.payload
  rw [slots_store_self]
  refine Bytes.readAt_writeAt_self ?_
  have room := Nat.mul_le_mul_right outbox.payloadCapacity.toNat inside
  rw [Nat.succ_mul] at room
  show index * outbox.payloadCapacity.toNat + payload.length ≤ _
  omega

end store

/-! ### What a submission keeps -/

section submission

variable {initial : UInt64} {session : OutboxSession} {messageId : UInt16} {payload : Bytes}
  {index : Nat} {replaced : Bool}

/-- The session after a value has gone to its slot. -/
def OutboxSession.stored (session : OutboxSession) (index : Nat) (messageId : UInt16)
    (payload : Bytes) (replaced : Bool) : OutboxSession :=
  { session with
    outbox := outboxStore session.outbox index messageId payload replaced
    values := session.values ++ [{ messageId := messageId, payload := payload }]
    held := Function.update session.held index session.values.length }

theorem validCount_store (takes : Takes session.outbox messageId index replaced) :
    validCount (outboxStore session.outbox index messageId payload replaced) =
      validCount session.outbox + if replaced then 0 else 1 := by
  cases replaced with
  | true =>
    refine List.countP_congr fun other _ => ?_
    by_cases same : other = index
    · subst same
      rw [slots_store_self, takes.occupied]
    · rw [slots_store_of_ne same]
  | false =>
    refine Slots.countP_range_succ_of_added takes.inside takes.occupied ?_ fun other apart => ?_
    · rw [slots_store_self]
    · rw [slots_store_of_ne apart]

theorem validCount_le (outbox : WlOutbox) : validCount outbox ≤ outbox.slotCount.toNat :=
  Nat.le_trans List.countP_le_length (Nat.le_of_eq List.length_range)

theorem depth_store (inv : OutboxInv initial session)
    (takes : Takes session.outbox messageId index replaced) :
    (outboxStore session.outbox index messageId payload replaced).depth.toNat =
      validCount (outboxStore session.outbox index messageId payload replaced) := by
  have count := @validCount_store session messageId payload index replaced takes
  have room : _ ≤ session.outbox.slotCount.toNat :=
    validCount_le (outboxStore session.outbox index messageId payload replaced)
  have small : session.outbox.slotCount.toNat < 2 ^ 16 := session.outbox.slotCount.toNat_lt
  rw [count] at room ⊢
  cases replaced with
  | true => exact inv.counted
  | false =>
    have sum : (session.outbox.depth + 1).toNat = (session.outbox.depth.toNat + 1) % 2 ^ 16 :=
      UInt16.toNat_add _ _
    show (session.outbox.depth + 1).toNat = validCount session.outbox + 1
    rw [sum, inv.counted, Nat.mod_eq_of_lt]
    exact Nat.lt_of_le_of_lt room small

theorem lanes_store (takes : Takes session.outbox messageId index replaced)
    (lanes : UniqueLanes session.outbox) :
    UniqueLanes (outboxStore session.outbox index messageId payload replaced) := by
  intro first second firstInside secondInside firstValid secondValid lane
  by_cases one : first = index
  · by_cases two : second = index
    · rw [one, two]
    · rw [slots_store_of_ne two] at secondValid lane
      rw [one, slots_store_self] at lane
      exact absurd lane.symm (takes.alone second secondInside two secondValid)
  · rw [slots_store_of_ne one] at firstValid lane
    by_cases two : second = index
    · rw [two, slots_store_self] at lane
      exact absurd lane (takes.alone first firstInside one firstValid)
    · rw [slots_store_of_ne two] at secondValid lane
      exact lanes first second firstInside secondInside firstValid secondValid lane

theorem OutboxInv.stored (inv : OutboxInv initial session)
    (takes : Takes session.outbox messageId index replaced)
    (small : payload.length ≤ session.outbox.payloadCapacity.toNat) :
    OutboxInv initial (session.stored index messageId payload replaced) := by
  have next : (outboxNextGeneration session.outbox.nextGeneration).toNat =
      valueToken initial session.values.length := by
    rw [toNat_outboxNextGeneration, inv.next]
    exact (Function.iterate_succ_apply' _ _ _).symm
  unfold OutboxSession.stored
  refine ⟨inv.positive, ?_, fun other valid => ?_, fun other valid => ?_,
    lanes_store takes inv.lanes, depth_store inv takes, ?_, fun running => ?_⟩
  · exact inv.fits.trans (Nat.le_of_eq (Bytes.length_writeAt ..).symm)
  · by_cases same : other = index
    · subst same
      exact ⟨takes.inside, by rw [slots_store_self]; exact small⟩
    · rw [slots_store_of_ne same] at valid ⊢
      exact inv.inside other valid
  · dsimp only
    by_cases same : other = index
    · subst same
      rw [payload_store_self takes.inside inv.fits small, slots_store_self, Function.update_self]
      exact @SlotHolds.last initial session.values { messageId := messageId, .. } payload next
    · rw [slots_store_of_ne same] at valid ⊢
      obtain ⟨inside, short⟩ := inv.inside other valid
      rw [payload_store_of_ne same short small, Function.update_of_ne same]
      exact (inv.holds other valid).append (takes.alone other inside same valid)
  · rw [List.length_append]
    exact next
  · obtain ⟨place, acquired, token, valid, order⟩ := inv.active running
    refine ⟨place, acquired, token, ?_⟩
    change ((outboxStore session.outbox index messageId payload replaced).slots
        session.outbox.activeIndex.toNat).valid = true ∧
      place ≤ Function.update session.held index session.values.length
        session.outbox.activeIndex.toNat
    by_cases same : session.outbox.activeIndex.toNat = index
    · refine ⟨by rw [same, slots_store_self], ?_⟩
      rw [← same, Function.update_self]
      exact Nat.le_of_lt (Nat.lt_of_le_of_lt order (inv.holds _ valid).place_lt)
    · rw [slots_store_of_ne same, Function.update_of_ne same]
      exact ⟨valid, order⟩

end submission

/-! ### What the other calls keep

The other calls only empty slots. The invariant is kept for all of them at once, by which slots they
empty. -/

section clearing

variable {initial : UInt64} {session : OutboxSession} {after : WlOutbox} {gone : Nat → Bool}

/-- A call that empties some slots and changes no other. -/
structure Clears (outbox after : WlOutbox) (gone : Nat → Bool) : Prop where
  slots : ∀ index, after.slots index = if gone index then .zero else outbox.slots index
  payloadStorage : after.payloadStorage = outbox.payloadStorage
  nextGeneration : after.nextGeneration = outbox.nextGeneration
  slotCount : after.slotCount = outbox.slotCount
  payloadCapacity : after.payloadCapacity = outbox.payloadCapacity

variable {index : Nat}

theorem Clears.of_valid (clears : Clears session.outbox after gone)
    (valid : (after.slots index).valid = true) :
    gone index = false ∧ after.slots index = session.outbox.slots index := by
  rw [clears.slots index] at valid ⊢
  cases emptied : gone index with
  | true =>
    rw [emptied] at valid
    exact nomatch valid
  | false => exact ⟨rfl, rfl⟩

theorem Clears.payload (clears : Clears session.outbox after gone)
    (same : after.slots index = session.outbox.slots index) :
    after.payload index = session.outbox.payload index := by
  unfold WlOutbox.payload WlOutbox.payloadAt
  rw [same, clears.payloadStorage, clears.payloadCapacity]

theorem OutboxInv.cleared (inv : OutboxInv initial session) {acquired : Option Nat}
    (clears : Clears session.outbox after gone) (counted : after.depth.toNat = validCount after)
    (active : after.active = true → ∃ place, acquired = some place ∧
      after.activeToken.toNat = valueToken initial place ∧
      (after.slots after.activeIndex.toNat).valid = true ∧
      place ≤ session.held after.activeIndex.toNat) :
    OutboxInv initial { session with outbox := after, acquired := acquired } := by
  refine ⟨?_, ?_, fun index valid => ?_, fun index valid => ?_, ?_, counted, ?_, active⟩
  · rw [clears.slotCount]
    exact inv.positive
  · rw [clears.slotCount, clears.payloadCapacity, clears.payloadStorage]
    exact inv.fits
  · obtain ⟨-, same⟩ := clears.of_valid valid
    rw [same, clears.slotCount, clears.payloadCapacity]
    exact inv.inside index (same ▸ valid)
  · obtain ⟨-, same⟩ := clears.of_valid valid
    rw [clears.payload same, same]
    exact inv.holds index (same ▸ valid)
  · intro first second firstInside secondInside firstValid secondValid lane
    obtain ⟨-, one⟩ := clears.of_valid firstValid
    obtain ⟨-, two⟩ := clears.of_valid secondValid
    rw [clears.slotCount] at firstInside secondInside
    rw [one, two] at lane
    exact inv.lanes first second firstInside secondInside (one ▸ firstValid) (two ▸ secondValid) lane
  · rw [clears.nextGeneration]
    exact inv.next

theorem Clears.validCount_eq_succ (clears : Clears session.outbox after gone)
    (inside : index < session.outbox.slotCount.toNat)
    (valid : (session.outbox.slots index).valid = true)
    (only : ∀ other, gone other = true ↔ other = index) :
    validCount session.outbox = validCount after + 1 := by
  unfold validCount
  rw [clears.slotCount]
  refine Slots.countP_range_succ_of_added inside ?_ valid fun other apart => ?_
  · rw [clears.slots, if_pos ((only index).mpr rfl)]
    rfl
  · rw [clears.slots, if_neg fun emptied => apart ((only other).mp emptied)]

end clearing

theorem Clears.counted_of_none {outbox after : WlOutbox} (clears : Clears outbox after fun _ => false)
    (depth : after.depth = outbox.depth) (counted : outbox.depth.toNat = validCount outbox) :
    after.depth.toNat = validCount after := by
  have slots : after.slots = outbox.slots := funext clears.slots
  unfold validCount at counted ⊢
  rw [depth, slots, clears.slotCount]
  exact counted

section calls

variable {initial : UInt64} {session : OutboxSession}

theorem OutboxInv.counters (inv : OutboxInv initial session) (counters : OutboxCounters) :
    OutboxInv initial { session with outbox := { session.outbox with counters := counters } } := by
  have clears : Clears session.outbox { session.outbox with counters := counters } fun _ => false :=
    ⟨fun _ => rfl, rfl, rfl, rfl, rfl⟩
  exact inv.cleared clears (clears.counted_of_none rfl inv.counted) inv.active

theorem OutboxInv.submit (inv : OutboxInv initial session) (messageId : UInt16) (payload : Buffer) :
    OutboxInv initial (session.submit messageId payload) := by
  unfold OutboxSession.submit
  generalize called : wlOutboxSubmitLatest session.outbox messageId payload = outcome
  obtain ⟨_, _⟩ := outcome
  rcases submit_cases inv.lanes called with ⟨rfl, rfl, -⟩ | ⟨rfl, -, counters, rfl⟩ |
      ⟨_, _, rfl, place, takes, small, rfl⟩
  · exact inv
  · exact inv.counters counters
  · rw [place]
    exact inv.stored takes small

variable {outbox after : WlOutbox} {item : WlOutboxItem}

theorem acquire_cases {payloadCapacity : Nat} {result : Except WlErr (WlOutboxItem × Bytes)}
    (positive : 0 < outbox.slotCount.toNat)
    (called : wlOutboxAcquireCopy outbox payloadCapacity = (after, result)) :
    (after = outbox ∧ ∃ error, result = .error error) ∨
      ∃ index counters, index < outbox.slotCount.toNat ∧ (outbox.slots index).valid = true ∧
        result = .ok ({ token := (outbox.slots index).generation, slotIndex := UInt16.ofNat index
                        messageId := (outbox.slots index).messageId
                        payloadLength := (outbox.slots index).payloadLength },
          outbox.payload index) ∧
        after = { outbox with
                  active := true, activeIndex := UInt16.ofNat index
                  activeToken := (outbox.slots index).generation, counters := counters } := by
  unfold wlOutboxAcquireCopy at called
  split at called
  · cases called
    exact .inl ⟨rfl, _, rfl⟩
  · cases found : outboxPending outbox with
    | none =>
      rw [found] at called
      cases called
      exact .inl ⟨rfl, _, rfl⟩
    | some index =>
      rw [found] at called
      obtain ⟨inside, valid⟩ := outboxPending_some positive found
      dsimp only at called
      split at called
      · cases called
        exact .inl ⟨rfl, _, rfl⟩
      · cases called
        exact .inr ⟨index, _, inside, valid, rfl, rfl⟩

theorem toNat_ofNat_of_inside {index : Nat} (inside : index < outbox.slotCount.toNat) :
    (UInt16.ofNat index).toNat = index := by
  exact Nat.mod_eq_of_lt (Nat.lt_trans inside outbox.slotCount.toNat_lt)

theorem OutboxInv.acquire (inv : OutboxInv initial session) (payloadCapacity : Nat) :
    OutboxInv initial (session.acquire payloadCapacity) := by
  unfold OutboxSession.acquire
  generalize called : wlOutboxAcquireCopy session.outbox payloadCapacity = outcome
  obtain ⟨_, _⟩ := outcome
  rcases acquire_cases inv.positive called with ⟨rfl, _, rfl⟩ |
      ⟨index, counters, inside, valid, rfl, rfl⟩
  · exact inv
  · have clears : Clears session.outbox
        { session.outbox with
          active := true, activeIndex := UInt16.ofNat index
          activeToken := (session.outbox.slots index).generation, counters := counters }
        fun _ => false := ⟨fun _ => rfl, rfl, rfl, rfl, rfl⟩
    refine inv.cleared clears (clears.counted_of_none rfl inv.counted) fun _ => ?_
    rw [toNat_ofNat_of_inside inside]
    exact ⟨_, rfl, (inv.holds index valid).generation, valid, Nat.le_refl _⟩

/-- What the end of an acquisition removes: the value its item names, if the slot still has it. -/
def finishes (outbox : WlOutbox) (item : WlOutboxItem) (index : Nat) : Bool :=
  decide (index = item.slotIndex.toNat) && (outbox.slots index).valid &&
    (outbox.slots index).generation == item.token

theorem finishes_iff {index : Nat} :
    finishes outbox item index = true ↔ index = item.slotIndex.toNat ∧
      (outbox.slots index).valid = true ∧ (outbox.slots index).generation = item.token := by
  unfold finishes
  rw [Bool.and_eq_true, Bool.and_eq_true, decide_eq_true_eq, beq_iff_eq, and_assoc]

theorem outboxFinish_clears (outbox : WlOutbox) (item : WlOutboxItem) (accepted : Bool) :
    Clears outbox (outboxFinish outbox item accepted) (finishes outbox item) ∧
      (outboxFinish outbox item accepted).active = outbox.active ∧
      (outboxFinish outbox item accepted).depth =
        if finishes outbox item item.slotIndex.toNat then outbox.depth - 1 else outbox.depth := by
  unfold outboxFinish
  dsimp only
  by_cases present : (outbox.slots item.slotIndex.toNat).valid = true ∧
      (outbox.slots item.slotIndex.toNat).generation = item.token
  · have goes := finishes_iff.mpr ⟨rfl, present⟩
    rw [if_pos present, if_pos goes]
    refine ⟨⟨fun index => ?_, rfl, rfl, rfl, rfl⟩, rfl, rfl⟩
    by_cases same : index = item.slotIndex.toNat
    · rw [same, if_pos goes]
      exact Function.update_self _ _ _
    · rw [if_neg fun emptied => same (finishes_iff.mp emptied).1]
      exact Function.update_of_ne same _ _
  · have stays : ∀ index, ¬ finishes outbox item index = true := by
      intro index emptied
      obtain ⟨rfl, held⟩ := finishes_iff.mp emptied
      exact present held
    rw [if_neg present, if_neg (stays _)]
    refine ⟨⟨fun index => ?_, rfl, rfl, rfl, rfl⟩, rfl, rfl⟩
    rw [if_neg (stays index)]

theorem complete_cases {completion : WlOutboxCompletion} {error : WlErr}
    (called : wlOutboxComplete outbox item completion = (after, error)) :
    (after = outbox ∧ error ≠ .ok) ∨
      error = .ok ∧ outbox.active = true ∧ outbox.activeIndex = item.slotIndex ∧
        outbox.activeToken = item.token ∧ item.slotIndex.toNat < outbox.slotCount.toNat ∧
        after.active = false ∧
        ((completion = .deferred ∧ Clears outbox after (fun _ => false) ∧
            after.depth = outbox.depth) ∨
          (completion ≠ .deferred ∧ Clears outbox after (finishes outbox item) ∧
            after.depth =
              if finishes outbox item item.slotIndex.toNat then outbox.depth - 1
              else outbox.depth)) := by
  have finished := outboxFinish_clears { outbox with active := false, activeToken := 0 } item
  unfold wlOutboxComplete at called
  split at called
  · cases called
    exact .inl ⟨rfl, nofun⟩
  · rename_i legal
    split at called
    · cases called
      exact .inl ⟨rfl, nofun⟩
    · rename_i matching
      rw [not_or, not_or, not_not, not_not, not_not] at matching
      rw [not_or, ge_iff_le, Nat.not_le] at legal
      obtain ⟨running, place, token⟩ := matching
      refine .inr ?_
      cases completion with
      | deferred =>
        cases called
        exact ⟨rfl, running, place, token, legal.1, rfl,
          .inl ⟨rfl, ⟨fun _ => rfl, rfl, rfl, rfl, rfl⟩, rfl⟩⟩
      | accepted =>
        cases called
        obtain ⟨⟨slots, storage, next, count, capacity⟩, idle, depth⟩ := finished true
        exact ⟨rfl, running, place, token, legal.1, idle,
          .inr ⟨nofun, ⟨slots, storage, next, count, capacity⟩, depth⟩⟩
      | rejected =>
        cases called
        obtain ⟨⟨slots, storage, next, count, capacity⟩, idle, depth⟩ := finished false
        exact ⟨rfl, running, place, token, legal.1, idle,
          .inr ⟨nofun, ⟨slots, storage, next, count, capacity⟩, depth⟩⟩
      | unknown => exact absurd rfl legal.2

theorem OutboxInv.counted_of_finishes (inv : OutboxInv initial session)
    (inside : item.slotIndex.toNat < session.outbox.slotCount.toNat)
    (clears : Clears session.outbox after (finishes session.outbox item)) (depth : after.depth =
      if finishes session.outbox item item.slotIndex.toNat then session.outbox.depth - 1
      else session.outbox.depth) :
    after.depth.toNat = validCount after := by
  by_cases goes : finishes session.outbox item item.slotIndex.toNat = true
  · obtain ⟨-, present⟩ := finishes_iff.mp goes
    have only : ∀ other, finishes session.outbox item other = true ↔
        other = item.slotIndex.toNat := by
      intro other
      constructor
      · intro emptied
        exact (finishes_iff.mp emptied).1
      · rintro rfl
        exact goes
    have count := clears.validCount_eq_succ inside present.1 only
    have counted := inv.counted
    rw [count] at counted
    have one : (1 : UInt16) ≤ session.outbox.depth := by
      show 1 ≤ session.outbox.depth.toNat
      omega
    rw [depth, if_pos goes, UInt16.toNat_sub_of_le _ _ one, counted]
    rfl
  · have none : finishes session.outbox item = fun _ => false := by
      funext other
      by_contra emptied
      rw [Bool.not_eq_false] at emptied
      exact goes ((finishes_iff.mp emptied).1 ▸ emptied)
    rw [if_neg goes] at depth
    rw [none] at clears
    exact clears.counted_of_none depth inv.counted

theorem OutboxInv.complete (inv : OutboxInv initial session) (item : WlOutboxItem)
    (completion : WlOutboxCompletion) :
    OutboxInv initial
      { session with outbox := (wlOutboxComplete session.outbox item completion).1 } := by
  generalize called : wlOutboxComplete session.outbox item completion = outcome
  obtain ⟨after, _⟩ := outcome
  rcases complete_cases called with ⟨rfl, -⟩ | ⟨-, -, -, -, inside, idle, ends⟩
  · exact inv
  · have inactive : ∀ {P : Prop}, after.active = true → P := fun active =>
      nomatch idle.symm.trans active
    rcases ends with ⟨-, clears, depth⟩ | ⟨-, clears, depth⟩
    · exact inv.cleared clears (clears.counted_of_none depth inv.counted) inactive
    · exact inv.cleared clears (inv.counted_of_finishes inside clears depth) inactive

theorem reset_cases {result : Except WlErr UInt16} (called : wlOutboxReset outbox = (after, result)) :
    (after = outbox ∧ result = .error .busy) ∨
      (∃ discarded, result = .ok discarded) ∧ after.active = false ∧ after.depth = 0 ∧
        Clears outbox after fun index => decide (index < outbox.slotCount.toNat) := by
  unfold wlOutboxReset at called
  split at called
  · cases called
    exact .inl ⟨rfl, rfl⟩
  · rename_i idle
    cases called
    rw [Bool.not_eq_true] at idle
    refine .inr ⟨⟨_, rfl⟩, idle, rfl, ⟨fun index => ?_, rfl, rfl, rfl, rfl⟩⟩
    simp only [decide_eq_true_eq]

namespace OutboxInv

variable (inv : OutboxInv initial session)

include inv

theorem reset : OutboxInv initial { session with outbox := (wlOutboxReset session.outbox).1 } := by
  generalize called : wlOutboxReset session.outbox = outcome
  obtain ⟨after, _⟩ := outcome
  rcases reset_cases called with ⟨rfl, -⟩ | ⟨-, idle, depth, clears⟩
  · exact inv
  · refine inv.cleared clears ?_ fun active => nomatch idle.symm.trans active
    have none : validCount after = 0 := by
      refine List.countP_eq_zero.mpr fun index member => ?_
      rw [clears.slotCount, List.mem_range] at member
      rw [clears.slots index, if_pos (decide_eq_true member)]
      exact Bool.false_ne_true
    rw [depth, none]
    rfl

theorem step (op : OutboxOp) : OutboxInv initial (session.step op) := by
  cases op with
  | submitLatest messageId payload => exact inv.submit messageId payload
  | acquireCopy payloadCapacity => exact inv.acquire payloadCapacity
  | complete item completion => exact inv.complete item completion
  | reset => exact inv.reset

theorem run (ops : List OutboxOp) : OutboxInv initial (runOutbox session ops) := by
  induction ops generalizing session with
  | nil => exact inv
  | cons op rest ih => exact ih (inv.step op)

end OutboxInv

end calls

theorem outboxInv_start {slotCount payloadCapacity : UInt16} {payloadStorage : Bytes}
    {initialGeneration : UInt64} {outbox : WlOutbox}
    (started : wlOutboxInit slotCount payloadCapacity payloadStorage initialGeneration = .ok outbox) :
    OutboxInv initialGeneration (OutboxSession.start outbox) := by
  unfold wlOutboxInit at started
  split at started
  · cases started
  · rename_i legal
    cases started
    rw [not_or, not_or, Nat.not_lt] at legal
    obtain ⟨some, -, fits⟩ := legal
    refine ⟨?_, fits, nofun, nofun, nofun, ?_, rfl, nofun⟩
    · exact Nat.pos_of_ne_zero fun zero => some (UInt16.toNat_inj.mp zero)
    · exact (List.countP_eq_zero.mpr fun _ _ => Bool.false_ne_true).symm

end Wirelink
