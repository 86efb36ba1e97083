/-
Module: Wirelink.Proofs.OutboxLatest
Purpose: The outbox keeps the newest value of each message id. A value leaves only by its own completion,
  by a newer one, or by a reset, as long as fewer than a round of generations follow the acquired one;
  a run in which they have loses a value.
Trusted boundary: none
-/
import Wirelink.Proofs.Outbox

namespace Wirelink

/-! ### What leaves the outbox

Call by call: a submission replaces a value of its own id, an acquisition removes nothing, a
completion removes what was acquired, and a reset everything. -/

section removal

variable {initial : UInt64} {session : OutboxSession} {index : Nat}

/-- An element of a list with nothing of its lane after it is the newest one of its lane. -/
theorem newestOf_of_getElem? {values : List OutboxValue} {place : Nat} {value : OutboxValue}
    (found : values[place]? = some value)
    (newest : ∀ later other, place < later → values[later]? = some other →
      other.messageId ≠ value.messageId) :
    NewestOf values value := by
  obtain ⟨_, rfl⟩ := List.getElem?_eq_some_iff.mp found
  refine ⟨values.take place, values.drop (place + 1), ?_, fun other member => ?_⟩
  · rw [List.cons_getElem_drop_succ, List.take_append_drop]
  · obtain ⟨offset, within, rfl⟩ := List.mem_iff_getElem.mp member
    refine newest (place + 1 + offset) _ (by omega) ?_
    rw [← List.getElem?_drop]
    exact List.getElem?_eq_getElem within

theorem OutboxInv.copiesNewest (inv : OutboxInv initial session) : CopiesNewest session := by
  intro payloadCapacity item payload copied
  rcases acquire_cases inv.positive (Prod.eta _).symm with ⟨-, _, refused⟩ |
      ⟨index, _, -, valid, result, -⟩
  · exact nomatch copied.symm.trans refused
  · obtain ⟨rfl, rfl⟩ := Prod.mk.inj (Except.ok.inj (copied.symm.trans result))
    have holds := inv.holds index valid
    exact newestOf_of_getElem? holds.value holds.newest

theorem OutboxInv.refusesOnlyWhenFull (inv : OutboxInv initial session) :
    RefusesOnlyWhenFull session.outbox := by
  intro messageId payload error refused
  rcases submit_cases inv.lanes (Prod.eta _).symm with ⟨-, -, illegal⟩ | ⟨-, full, -⟩ |
      ⟨_, _, accepted, -⟩
  · exact .inl illegal
  · exact .inr full
  · exact nomatch refused.symm.trans accepted

theorem Clears.kept {after : WlOutbox} {gone : Nat → Bool} {acquired : Option Nat}
    (clears : Clears session.outbox after gone)
    (valid : (session.outbox.slots index).valid = true) (stays : gone index = false) :
    ValueKept session { session with outbox := after, acquired := acquired } index := by
  have same : after.slots index = session.outbox.slots index := by
    rw [clears.slots, stays]
    rfl
  refine ⟨?_, rfl, ?_, clears.payload same⟩
  · show (after.slots index).valid = true
    rw [same]
    exact valid
  · show (after.slots index).messageId = (session.outbox.slots index).messageId
    rw [same]

theorem ValueKept.self (valid : (session.outbox.slots index).valid = true) :
    ValueKept session session index :=
  ⟨valid, rfl, rfl, rfl⟩

namespace OutboxInv

variable (inv : OutboxInv initial session)

include inv

theorem kept_of_submit (valid : (session.outbox.slots index).valid = true) (messageId : UInt16)
    (payload : Buffer) :
    ValueKept session (session.submit messageId payload) index ∨
      ValueRemovedBy session index (.submitLatest messageId payload) := by
  unfold OutboxSession.submit
  generalize called : wlOutboxSubmitLatest session.outbox messageId payload = outcome
  obtain ⟨_, _⟩ := outcome
  rcases submit_cases inv.lanes called with ⟨rfl, rfl, -⟩ | ⟨rfl, -, _, rfl⟩ |
      ⟨taken, replaced, rfl, place, takes, small, rfl⟩
  · exact .inl (.self valid)
  · exact .inl ⟨valid, rfl, rfl, rfl⟩
  · rw [place]
    by_cases same : index = taken
    · subst same
      have occupied : replaced = true := takes.occupied.symm.trans valid
      subst occupied
      exact .inr (.replaced (congrArg Prod.snd called) (takes.lane rfl))
    · refine .inl ⟨?_, Function.update_of_ne same _ _, ?_, ?_⟩
      · show ((outboxStore session.outbox taken messageId payload.data replaced).slots
          index).valid = true
        rw [slots_store_of_ne same]
        exact valid
      · show ((outboxStore session.outbox taken messageId payload.data replaced).slots
          index).messageId = _
        rw [slots_store_of_ne same]
      · exact payload_store_of_ne same (inv.inside index valid).2 small

theorem kept_of_acquire
    (valid : (session.outbox.slots index).valid = true) (payloadCapacity : Nat) :
    ValueKept session (session.acquire payloadCapacity) index := by
  unfold OutboxSession.acquire
  generalize called : wlOutboxAcquireCopy session.outbox payloadCapacity = outcome
  obtain ⟨_, _⟩ := outcome
  rcases acquire_cases inv.positive called with ⟨rfl, _, rfl⟩ |
      ⟨_, _, -, -, rfl, rfl⟩
  · exact .self valid
  · exact ⟨valid, rfl, rfl, rfl⟩

/-- A slot that has the token of the active acquisition holds the value that was acquired, as long as
the generations handed out after that value's own have not gone round. -/
theorem acquired_of_token
    (fresh : AcquisitionFresh session) (running : session.outbox.active = true)
    (valid : (session.outbox.slots session.outbox.activeIndex.toNat).valid = true)
    (token : (session.outbox.slots session.outbox.activeIndex.toNat).generation =
      session.outbox.activeToken) :
    session.acquired = some (session.held session.outbox.activeIndex.toNat) := by
  obtain ⟨place, acquired, acquiredToken, -, order⟩ := inv.active running
  have holds := inv.holds _ valid
  have inside := holds.place_lt
  have since := fresh place running acquired
  have generation := holds.generation
  rw [token, acquiredToken] at generation
  rcases Nat.lt_or_eq_of_le order with older | same
  · have round := Token.round_le_of_nth_eq (by decide) initial.toNat_lt older generation
    omega
  · rw [acquired, same]

theorem kept_of_complete (fresh : AcquisitionFresh session)
    (valid : (session.outbox.slots index).valid = true) (item : WlOutboxItem)
    (completion : WlOutboxCompletion) :
    ValueKept session (session.step (.complete item completion)) index ∨
      ValueRemovedBy session index (.complete item completion) := by
  show ValueKept session
    { session with outbox := (wlOutboxComplete session.outbox item completion).1 } index ∨ _
  generalize called : wlOutboxComplete session.outbox item completion = outcome
  obtain ⟨_, _⟩ := outcome
  rcases complete_cases called with ⟨rfl, -⟩ | ⟨rfl, running, place, token, -, -, ends⟩
  · exact .inl (.self valid)
  · rcases ends with ⟨-, clears, -⟩ | ⟨final, clears, -⟩
    · exact .inl (clears.kept valid rfl)
    · cases goes : finishes session.outbox item index with
      | false => exact .inl (clears.kept valid goes)
      | true =>
        obtain ⟨rfl, -, generation⟩ := finishes_iff.mp goes
        rw [← place] at valid generation
        have exactly := inv.acquired_of_token fresh running valid (generation.trans token.symm)
        rw [place] at exactly
        exact .inr (.completed (congrArg Prod.snd called) final exactly)

end OutboxInv

theorem kept_of_reset (valid : (session.outbox.slots index).valid = true) :
    ValueKept session (session.step .reset) index ∨ ValueRemovedBy session index .reset := by
  show ValueKept session { session with outbox := (wlOutboxReset session.outbox).1 } index ∨ _
  generalize called : wlOutboxReset session.outbox = outcome
  obtain ⟨_, _⟩ := outcome
  rcases reset_cases called with ⟨rfl, -⟩ | ⟨⟨_, rfl⟩, -, -, -⟩
  · exact .inl (.self valid)
  · exact .inr (.reset (congrArg Prod.snd called))

theorem OutboxInv.kept_or_removed (inv : OutboxInv initial session) (fresh : AcquisitionFresh session)
    (valid : (session.outbox.slots index).valid = true) (op : OutboxOp) :
    ValueKept session (session.step op) index ∨ ValueRemovedBy session index op := by
  cases op with
  | submitLatest messageId payload => exact inv.kept_of_submit valid messageId payload
  | acquireCopy payloadCapacity => exact .inl (inv.kept_of_acquire valid payloadCapacity)
  | complete item completion => exact inv.kept_of_complete fresh valid item completion
  | reset => exact kept_of_reset valid

end removal

/-- An outbox keeps the newest value of each message id. In every state it has at most one valid slot
for an id, it counts its valid slots, what it copies out is the newest value of its id, and it refuses a
legal value only if all slots are valid. A call takes a value away only by the completion of an
acquisition of that very value, by a newer one of its id, or by a reset; for the completion, fewer
values than there are generations must have been accepted after the acquired one. -/
theorem outbox_latest_wins {slotCount payloadCapacity : UInt16} {payloadStorage : Bytes}
    {initialGeneration : UInt64} {outbox : WlOutbox}
    (started : wlOutboxInit slotCount payloadCapacity payloadStorage initialGeneration = .ok outbox)
    (ops : List OutboxOp) :
    UniqueLanes (runOutbox (.start outbox) ops).outbox ∧
      (runOutbox (.start outbox) ops).outbox.depth.toNat =
        validCount (runOutbox (.start outbox) ops).outbox ∧
      CopiesNewest (runOutbox (.start outbox) ops) ∧
      RefusesOnlyWhenFull (runOutbox (.start outbox) ops).outbox ∧
      ∀ op index, ((runOutbox (.start outbox) ops).outbox.slots index).valid = true →
        AcquisitionFresh (runOutbox (.start outbox) ops) →
        ValueKept (runOutbox (.start outbox) ops) ((runOutbox (.start outbox) ops).step op) index ∨
          ValueRemovedBy (runOutbox (.start outbox) ops) index op := by
  have inv := (outboxInv_start started).run ops
  refine ⟨inv.lanes, inv.counted, inv.copiesNewest, inv.refusesOnlyWhenFull, ?_⟩
  intro op index valid fresh
  exact inv.kept_or_removed fresh valid op

/-- An outbox of one slot with one byte. -/
def smallOutbox : WlOutbox :=
  { slots := fun _ => .zero, payloadStorage := [0], nextGeneration := 0, counters := .zero
    activeToken := 0, slotCount := 1, payloadCapacity := 1, cursor := 0, depth := 0, activeIndex := 0
    active := false }

/-- A value is submitted and acquired. -/
def smallAcquire : List OutboxOp :=
  [.submitLatest 5 (.bytes [1]), .acquireCopy 1]

/-- The first value is completed. -/
def smallComplete : OutboxOp :=
  .complete { token := 1, slotIndex := 0, messageId := 5, payloadLength := 1 } .accepted

theorem small_outbox_latest_wins :
    wlOutboxInit 1 1 [0] 0 = .ok smallOutbox ∧
      (ValueKept (runOutbox (.start smallOutbox) smallAcquire)
          ((runOutbox (.start smallOutbox) smallAcquire).step smallComplete) 0 ∨
        ValueRemovedBy (runOutbox (.start smallOutbox) smallAcquire) 0 smallComplete) :=
  ⟨rfl, (outbox_latest_wins (show wlOutboxInit 1 1 [0] 0 = .ok smallOutbox from rfl)
      smallAcquire).2.2.2.2 smallComplete 0 rfl
    fun _ _ acquired => Option.some.inj acquired ▸ by decide⟩

/-! ### A round of generations

While the first value is being sent, newer ones of its id take its slot until one of them comes by
its generation. -/

/-- The first value of the small outbox is being sent, and as many newer ones have been accepted as the
count tells. -/
structure Worn (session : OutboxSession) (count : Nat) : Prop where
  slotCount : session.outbox.slotCount = 1
  payloadCapacity : session.outbox.payloadCapacity = 1
  valid : (session.outbox.slots 0).valid = true
  messageId : (session.outbox.slots 0).messageId = 5
  values : session.values.length = count + 1
  held : session.held 0 = count
  active : session.outbox.active = true
  activeIndex : session.outbox.activeIndex = 0
  activeToken : session.outbox.activeToken = 1
  acquired : session.acquired = some 0

variable {session : OutboxSession} {count : Nat}

namespace Worn

variable (worn : Worn session count)

include worn

theorem submit : Worn (session.step (.submitLatest 5 (.bytes [2]))) (count + 1) := by
  have found : outboxFind session.outbox 5 = some 0 := by
    unfold outboxFind
    rw [worn.slotCount]
    show [0].find? _ = _
    rw [List.find?_cons_of_pos]
    rw [worn.valid, worn.messageId]
    rfl
  have place : submitSlot session.outbox 5 = some 0 := by
    rw [submitSlot, found]
    rfl
  have called : wlOutboxSubmitLatest session.outbox 5 (.bytes [2]) =
      (outboxStore session.outbox 0 5 [2] true, .ok true) := by
    unfold wlOutboxSubmitLatest
    rw [worn.payloadCapacity, if_neg (by decide), found]
    rfl
  show Worn (session.submit 5 (.bytes [2])) (count + 1)
  unfold OutboxSession.submit
  rw [called, place]
  refine ⟨worn.slotCount, worn.payloadCapacity, rfl, rfl, ?_, ?_, worn.active, worn.activeIndex,
    worn.activeToken, worn.acquired⟩
  · show (session.values ++ [_]).length = count + 1 + 1
    rw [List.length_append, worn.values]
    rfl
  · show Function.update session.held 0 session.values.length 0 = count + 1
    rw [Function.update_self, worn.values]

theorem submits (more : Nat) :
    Worn (runOutbox session (List.replicate more (.submitLatest 5 (.bytes [2])))) (count + more) := by
  induction more generalizing session count with
  | zero => exact worn
  | succ more ih =>
    rw [List.replicate_succ, Nat.add_succ, ← Nat.succ_add]
    exact ih worn.submit

theorem generation (inv : OutboxInv 0 session) (round : count = 2 ^ 64 - 1) :
    (session.outbox.slots 0).generation = 1 := by
  have generation := (inv.holds 0 worn.valid).generation
  unfold valueToken at generation
  rw [worn.held, ← Nat.zero_add count, Token.nth_add (by decide) (by decide) 0 count, round,
    Nat.add_mod_right] at generation
  exact UInt64.toNat_inj.mp generation

theorem complete (generation : (session.outbox.slots 0).generation = 1) :
    ((session.step smallComplete).outbox.slots 0).valid = false := by
  have matching : ¬ (¬ session.outbox.active = true ∨ session.outbox.activeIndex ≠ 0 ∨
      session.outbox.activeToken ≠ 1) := by
    rw [worn.active, worn.activeIndex, worn.activeToken]
    decide
  have emptied : finishes session.outbox
      { token := 1, slotIndex := 0, messageId := 5, payloadLength := 1 } 0 = true :=
    finishes_iff.mpr ⟨rfl, worn.valid, generation⟩
  rcases complete_cases (Prod.eta (wlOutboxComplete session.outbox
      { token := 1, slotIndex := 0, messageId := 5, payloadLength := 1 } .accepted)).symm with
    ⟨-, refused⟩ | ⟨-, -, -, -, -, -, ⟨deferred, -⟩ | ⟨-, clears, -⟩⟩
  · refine absurd ?_ refused
    unfold wlOutboxComplete
    rw [worn.slotCount, if_neg (by decide), if_neg matching]
  · exact nomatch deferred
  · have slot := clears.slots 0
    rw [emptied] at slot
    exact congrArg OutboxSlot.valid slot

end Worn

/-- The completion of an old value discards a newer one that has come by its generation. -/
theorem older_completion_discards_newer :
    ∃ outbox ops op index, wlOutboxInit 1 1 [0] 0 = .ok outbox ∧
      ((runOutbox (.start outbox) ops).outbox.slots index).valid = true ∧
      ¬ ValueKept (runOutbox (.start outbox) ops) ((runOutbox (.start outbox) ops).step op) index ∧
      ¬ ValueRemovedBy (runOutbox (.start outbox) ops) index op := by
  obtain ⟨count, round⟩ : ∃ count, count = 2 ^ 64 - 1 := ⟨_, rfl⟩
  have acquired : Worn (runOutbox (.start smallOutbox) smallAcquire) 0 :=
    ⟨rfl, rfl, rfl, rfl, rfl, rfl, rfl, rfl, rfl, rfl⟩
  have worn := acquired.submits count
  rw [Nat.zero_add] at worn
  have started : wlOutboxInit 1 1 [0] 0 = .ok smallOutbox := rfl
  have inv := ((outboxInv_start started).run smallAcquire).run
    (List.replicate count (.submitLatest 5 (.bytes [2])))
  refine ⟨smallOutbox, smallAcquire ++ List.replicate count (.submitLatest 5 (.bytes [2])),
    smallComplete, 0, rfl, ?_⟩
  rw [show runOutbox (.start smallOutbox)
    (smallAcquire ++ List.replicate count (.submitLatest 5 (.bytes [2]))) =
      runOutbox (runOutbox (.start smallOutbox) smallAcquire)
        (List.replicate count (.submitLatest 5 (.bytes [2]))) from List.foldl_append ..]
  have generation := worn.generation inv round
  refine ⟨worn.valid, fun kept => ?_, fun removed => ?_⟩
  · exact nomatch (worn.complete generation).symm.trans kept.valid
  · cases removed with
    | completed done final exactly =>
      rw [worn.acquired, worn.held] at exactly
      exact absurd (Option.some.inj exactly) (by omega)

end Wirelink
