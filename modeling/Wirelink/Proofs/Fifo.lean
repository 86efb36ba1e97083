/-
Module: Wirelink.Proofs.Fifo
Purpose: The typed queue refines a bounded queue under every interleaving of the accesses of its writer
  and its reader. The invariant speaks of the values published and released so far; the cursors are
  their numbers modulo the word size, the slot indices their numbers modulo the capacity.
Trusted boundary: none
-/
import Wirelink.Lib.Window
import Wirelink.Proofs.SpscSlots
import Wirelink.Spec.Fifo

namespace Wirelink

/-! ### The invariant

The cursors are numbers of values modulo the word size, so that their distance is the number of
values in the queue. The writer stores into the slot behind the last of them. -/

/-- The span of a slot. -/
def fifoSpan (fifo : WlFifo) (index token : UInt32) : SpscSpan :=
  { value := wlFifoSlot fifo index, valueSize := fifo.valueSize, token := token, privateSlot := index }

/-- What holds between two accesses, by the values that have gone through the queue. -/
structure FifoInv (fifo : WlFifo) (writer : FifoWriter) (published released : List Bytes)
    (claims views : List SpscSpan) : Prop where
  positive : 0 < fifo.capacity.toNat
  small : fifo.capacity.toNat < 2 ^ 31
  stride : fifo.valueSize.toNat ≤ fifo.slotStride.toNat
  order : released <+: published
  bounded : published.length ≤ released.length + fifo.capacity.toNat
  writeCursor : fifo.writeCursor = UInt32.ofNat published.length
  publishedCursor : fifo.publishedCursor = UInt32.ofNat published.length
  readCursor : fifo.readCursor = UInt32.ofNat released.length
  consumedCursor : fifo.consumedCursor = UInt32.ofNat released.length
  writeIndex : fifo.writeIndex.toNat = published.length % fifo.capacity.toNat
  readIndex : fifo.readIndex.toNat = released.length % fifo.capacity.toNat
  held : ∀ place, released.length ≤ place → place < published.length →
    published[place]? = some (fifoValue fifo (place % fifo.capacity.toNat))
  claimed : fifo.writeClaimed = true → published.length < released.length + fifo.capacity.toNat ∧
    claims.getLast? = some (fifoSpan fifo fifo.writeIndex fifo.writeToken)
  borrowed : fifo.readBorrowed = true → released.length < published.length ∧
    views.getLast? = some (fifoSpan fifo fifo.readIndex fifo.readToken)
  publishing : ∀ nextCursor depth, writer = .publishing nextCursor depth →
    fifo.writeClaimed = true ∧ nextCursor = UInt32.ofNat (published.length + 1) ∧
      depth ≤ fifo.capacity
  highWatermark : fifo.counters.highWatermark ≤ fifo.capacity
  claimTokens : Issued fifo.writeToken claims
  viewTokens : Issued fifo.readToken views

section steps

variable {fifo : WlFifo} {writer : FifoWriter} {published released : List Bytes}
  {claims views : List SpscSpan}

namespace FifoInv

variable (inv : FifoInv fifo writer published released claims views)

include inv

theorem released_le : released.length ≤ published.length :=
  inv.order.length_le

theorem distance {count : Nat} (order : published.length ≤ count)
    (few : count ≤ published.length + 1) :
    (UInt32.ofNat count - UInt32.ofNat released.length).toNat = count - released.length := by
  have released_le := inv.released_le
  have bounded := inv.bounded
  have small := inv.small
  exact Token.toNat_ofNat_sub (by omega) (by omega)

theorem toNat_nextIndex {index : UInt32} {count : Nat}
    (place : index.toNat = count % fifo.capacity.toNat) :
    (wlFifoNextIndex index fifo.capacity).toNat = (count + 1) % fifo.capacity.toNat := by
  have inside := Nat.mod_lt count inv.positive
  have small := inv.small
  have sum : (index + 1).toNat = index.toNat + 1 := by
    rw [UInt32.toNat_add, UInt32.toNat_one]
    exact Nat.mod_eq_of_lt (by omega)
  unfold wlFifoNextIndex
  rw [← Nat.mod_add_mod, ← place]
  by_cases last : index + 1 = fifo.capacity
  · rw [if_pos last, ← last, sum, Nat.mod_self]
    rfl
  · have short : index.toNat + 1 ≠ fifo.capacity.toNat := fun same =>
      last (UInt32.toNat_inj.mp (sum.trans same))
    rw [if_neg last, sum, Nat.mod_eq_of_lt (by omega)]

theorem counted {counters : FifoCounters}
    (same : counters.highWatermark = fifo.counters.highWatermark) :
    FifoInv { fifo with counters := counters } writer published released claims views :=
  { inv with highWatermark := same ▸ inv.highWatermark }

end FifoInv

namespace FifoInv

variable (inv : FifoInv fifo .idle published released claims views)

include inv

theorem claim :
    FifoInv (wlFifoWriteClaim fifo).1 .idle published released
      (claims ++ (wlFifoWriteClaim fifo).2.toOption.toList) views := by
  unfold wlFifoWriteClaim
  split
  · rw [show Except.toOption _ = none from rfl, Option.toList_none, List.append_nil]
    exact inv.counted rfl
  split
  · rw [show Except.toOption _ = none from rfl, Option.toList_none, List.append_nil]
    exact inv.counted rfl
  · rename_i room
    rw [ge_iff_le, UInt32.le_iff_toNat_le, inv.writeCursor, inv.consumedCursor,
      inv.distance (Nat.le_refl _) (Nat.le_succ _)] at room
    have free : published.length < released.length + fifo.capacity.toNat := by omega
    refine { inv with claimed := fun _ => ⟨free, ?_⟩, publishing := nofun, claimTokens := ?_ }
    · exact List.getLast?_concat
    · exact inv.claimTokens.next rfl

theorem store (offset : Nat) (data : Bytes) :
    FifoInv (fifo.store offset data) .idle published released claims views := by
  unfold WlFifo.store
  split
  · rename_i inside
    refine { inv with held := fun place above below => ?_, publishing := nofun }
    have free := (inv.claimed inside.1).1
    have apart : place % fifo.capacity.toNat ≠ fifo.writeIndex.toNat := by
      rw [inv.writeIndex]
      exact mod_ne_of_sub_lt below (by omega)
    rw [inv.held place above below]
    exact congrArg some
      (Bytes.readAt_writeAt_slot apart (inside.2.trans inv.stride) inv.stride).symm
  · exact inv

theorem load {claim : Option SpscSpan} (live : wlFifoClaimMatches fifo claim = true) :
    FifoInv fifo (.publishing (fifo.writeCursor + 1) (fifo.writeCursor + 1 - fifo.consumedCursor))
      published released claims views := by
  have claimed : fifo.writeClaimed = true := by
    cases claim with
    | none => exact nomatch live
    | some =>
      simp only [wlFifoClaimMatches, Bool.and_eq_true] at live
      exact live.1.1.1.1.1
  have next : fifo.writeCursor + 1 = UInt32.ofNat (published.length + 1) := by
    rw [inv.writeCursor, UInt32.ofNat_add]
    rfl
  refine { inv with publishing := ?_ }
  rintro _ _ ⟨⟩
  refine ⟨claimed, next, ?_⟩
  rw [next, inv.consumedCursor, UInt32.le_iff_toNat_le, inv.distance (Nat.le_succ _) (Nat.le_refl _)]
  have free := (inv.claimed claimed).1
  omega

end FifoInv

theorem FifoInv.publish {nextCursor depth : UInt32}
    (inv : FifoInv fifo (.publishing nextCursor depth) published released claims views) :
    FifoInv (wlFifoPublishStore fifo nextCursor depth) .idle
      (published ++ [fifoValue fifo fifo.writeIndex.toNat]) released claims views := by
  obtain ⟨claimed, next, deep⟩ := inv.publishing nextCursor depth rfl
  have free := (inv.claimed claimed).1
  have order := inv.released_le
  have length : (published ++ [fifoValue fifo fifo.writeIndex.toNat]).length =
    published.length + 1 := List.length_append
  refine { inv with
    order := inv.order.trans (List.prefix_append ..), bounded := ?_, writeCursor := ?_
    publishedCursor := ?_, writeIndex := ?_, held := fun place above below => ?_, claimed := nofun
    borrowed := fun some => ⟨?_, (inv.borrowed some).2⟩, publishing := nofun, highWatermark := ?_ }
  · rw [length]
    exact free
  · rw [length]
    exact next
  · rw [length]
    exact next
  · rw [length]
    exact inv.toNat_nextIndex inv.writeIndex
  · rw [length] at below
    rcases Nat.lt_or_eq_of_le (Nat.le_of_lt_succ below) with old | rfl
    · rw [List.getElem?_append_left old]
      exact inv.held place above old
    · rw [List.getElem?_concat_length, inv.writeIndex]
      rfl
  · rw [length]
    omega
  · show wlFifoCounterMax _ _ ≤ _
    unfold wlFifoCounterMax
    split
    · exact deep
    · exact inv.highWatermark

theorem FifoInv.abort (inv : FifoInv fifo .idle published released claims views)
    (claim : Option SpscSpan) :
    FifoInv (wlFifoWriteAbort fifo claim).1 .idle published released claims views := by
  unfold wlFifoWriteAbort
  split
  · exact inv.counted rfl
  · exact { inv with claimed := nofun, publishing := nofun }

theorem FifoInv.acquire (inv : FifoInv fifo writer published released claims views) :
    FifoInv (wlFifoReadAcquire fifo).1 writer published released claims
      (views ++ (wlFifoReadAcquire fifo).2.toOption.toList) := by
  unfold wlFifoReadAcquire
  split
  · rw [show Except.toOption _ = none from rfl, Option.toList_none, List.append_nil]
    exact inv.counted rfl
  split
  · rw [show Except.toOption _ = none from rfl, Option.toList_none, List.append_nil]
    exact inv.counted rfl
  · rename_i some_
    have order := inv.released_le
    have apart : released.length ≠ published.length := by
      intro same
      rw [inv.readCursor, inv.publishedCursor, same] at some_
      exact some_ rfl
    refine { inv with borrowed := fun _ => ⟨by omega, ?_⟩, viewTokens := ?_ }
    · exact List.getLast?_concat
    · exact inv.viewTokens.next rfl

theorem FifoInv.release (inv : FifoInv fifo writer published released claims views)
    (view : Option SpscSpan) :
    FifoInv (wlFifoReadRelease fifo view).1 writer published
      (released ++ (if (wlFifoReadRelease fifo view).2 = .ok then
        some (fifoValue fifo fifo.readIndex.toNat) else none).toList) claims views := by
  unfold wlFifoReadRelease
  split
  · rw [if_neg (show WlErr.invalidState ≠ .ok from nofun), Option.toList_none, List.append_nil]
    exact inv.counted rfl
  · rename_i live
    have borrowed : fifo.readBorrowed = true := by
      cases view with
      | none => exact absurd nofun live
      | some =>
        simp only [wlFifoViewMatches, not_not, Bool.and_eq_true] at live
        exact live.1.1.1.1.1
    have some_ := (inv.borrowed borrowed).1
    have head := inv.held released.length (Nat.le_refl _) some_
    have length : (released ++ [fifoValue fifo fifo.readIndex.toNat]).length =
      released.length + 1 := List.length_append
    have next : fifo.readCursor + 1 = UInt32.ofNat (released.length + 1) := by
      rw [inv.readCursor, UInt32.ofNat_add]
      rfl
    rw [if_pos rfl, Option.toList_some]
    refine { inv with
      order := ?_, bounded := ?_, readCursor := ?_, consumedCursor := ?_, readIndex := ?_
      held := fun place above below => ?_, claimed := fun some => ⟨?_, (inv.claimed some).2⟩
      borrowed := nofun }
    · rw [inv.readIndex]
      obtain ⟨rest, rfl⟩ := inv.order
      rw [List.getElem?_append_right (Nat.le_refl _), Nat.sub_self] at head
      cases rest with
      | nil => exact nomatch head
      | cons value rest =>
        rw [← Option.some.inj head]
        exact ⟨rest, List.append_assoc ..⟩
    · rw [length]
      have bounded := inv.bounded
      exact bounded.trans (Nat.add_le_add_right (Nat.le_succ _) _)
    · rw [length]
      exact next
    · rw [length]
      exact next
    · rw [length]
      exact inv.toNat_nextIndex inv.readIndex
    · rw [length] at above
      exact inv.held place (Nat.le_of_succ_le above) below
    · rw [length]
      exact (inv.claimed some).1.trans_le (Nat.add_le_add_right (Nat.le_succ _) _)

end steps

/-! ### Runs

Each access of the writer or the reader is one step, whatever the other side is doing. -/

/-- The invariant of a session. -/
def FifoSession.Inv (session : FifoSession) : Prop :=
  FifoInv session.shared.fifo session.shared.writer session.published session.released
    session.claims session.views

theorem FifoSession.Inv.step {session : FifoSession} (inv : session.Inv) (op : FifoOp) :
    (session.step op).Inv := by
  obtain ⟨⟨fifo, writer⟩, _, _, claims, views⟩ := session
  unfold FifoSession.Inv FifoSession.step SharedFifo.step
  cases writer with
  | idle =>
    cases op <;> simp only [SharedFifo.claims, SharedFifo.publishes, SharedFifo.releases,
      SharedFifo.views, Option.toList_none, List.append_nil, if_true]
    case claim => exact inv.claim
    case store offset data => exact inv.store offset data
    case publish claim =>
      unfold wlFifoPublishLoad
      by_cases live : wlFifoClaimMatches fifo claim = true
      · rw [if_neg (not_not.mpr live)]
        exact inv.load live
      · rw [if_pos live]
        exact inv.counted rfl
    case publishStore => exact inv
    case abort claim => exact inv.abort claim
    case acquire => exact inv.acquire
    case release view => exact inv.release view
  | publishing =>
    -- the writer is in the middle of a publish and does nothing else
    cases op <;> simp only [SharedFifo.claims, SharedFifo.publishes, SharedFifo.releases,
      SharedFifo.views, Option.toList_none, List.append_nil, reduceCtorEq, if_false]
    case publishStore => exact inv.publish
    case acquire => exact inv.acquire
    case release view => exact inv.release view
    all_goals exact inv

theorem FifoSession.Inv.run {session : FifoSession} (inv : session.Inv) (ops : List FifoOp) :
    (runFifo session ops).Inv := by
  induction ops generalizing session with
  | nil => exact inv
  | cons op rest ih => exact ih (inv.step op)

theorem fifoInv_start {fifoAddress : UInt64} {config : FifoConfig} {storage : SpscStorage}
    {lockFree : Bool} {fifo : WlFifo}
    (started : wlFifoInit fifoAddress config storage lockFree = .ok fifo) :
    (FifoSession.start fifo).Inv := by
  unfold wlFifoInit at started
  split at started
  · cases started
  rename_i requirements required
  unfold wlFifoRequirements at required
  split at required
  · cases required
  rename_i legal
  rw [not_or, ge_iff_le, UInt32.le_iff_toNat_le, Nat.not_le] at legal
  split at started
  · rename_i accepted
    split at started
    · cases started
      have positive : 0 < config.capacity.toNat :=
        Nat.pos_of_ne_zero fun zero => legal.1 (UInt32.toNat_inj.mp zero)
      exact ⟨positive, legal.2, (storage_room required accepted).1, List.nil_prefix, Nat.zero_le _,
        rfl, rfl, rfl, rfl, (Nat.zero_mod _).symm, (Nat.zero_mod _).symm, nofun, nofun, nofun, nofun,
        UInt32.zero_le, ⟨rfl, nofun⟩, ⟨rfl, nofun⟩⟩
    · cases started
  · cases started

/-! ### The queue -/

section queue

variable {session : FifoSession}

namespace FifoSession.Inv

variable (inv : session.Inv)

include inv

theorem length_content :
    session.content.length = session.published.length - session.released.length := by
  unfold FifoSession.content fifoContent
  rw [List.length_map, List.length_range, inv.publishedCursor, inv.consumedCursor]
  exact inv.distance (Nat.le_refl _) (Nat.le_succ _)

/-- What is in the slots from the read index on is what has been published and not released. -/
theorem values : session.published = session.released ++ session.content := by
  obtain ⟨_, split⟩ := inv.order
  have length := inv.length_content
  rw [← split, List.append_cancel_left_eq]
  rw [← split, List.length_append] at length
  refine List.ext_getElem (by omega) fun place inside within => ?_
  have held := inv.held (session.released.length + place) (Nat.le_add_right _ _)
    (by rw [← split, List.length_append]; omega)
  rw [← split, List.getElem?_append_right (Nat.le_add_right _ _), Nat.add_sub_cancel_left,
    List.getElem?_eq_getElem inside] at held
  simp only [Option.some.inj held, FifoSession.content, fifoContent, fifoPlace, List.getElem_map,
    List.getElem_range, inv.readIndex, Nat.mod_add_mod]

theorem refines : FifoRefines session := by
  have length := inv.length_content
  refine ⟨inv.values, by have := inv.bounded; omega, fun full => ?_, ?_, ?_, inv.highWatermark⟩
  · unfold wlFifoWriteClaim at full
    split at full
    · cases full
    split at full
    · rename_i many
      rw [ge_iff_le, UInt32.le_iff_toNat_le, inv.writeCursor, inv.consumedCursor,
        inv.distance (Nat.le_refl _) (Nat.le_succ _)] at many
      have bounded := inv.bounded
      omega
    · cases full
  · intro claimed claim last place inside
    obtain ⟨_, live⟩ := inv.claimed claimed
    obtain rfl := Option.some.inj (last.symm.trans live)
    refine Bytes.slots_apart ?_ inv.stride inv.stride
    unfold fifoPlace
    rw [inv.writeIndex, inv.readIndex, Nat.mod_add_mod]
    exact (mod_ne_of_sub_lt (by omega) (by omega)).symm
  · intro borrowed view last
    obtain ⟨some_, live⟩ := inv.borrowed borrowed
    obtain rfl := Option.some.inj (last.symm.trans live)
    have head := inv.held session.released.length (Nat.le_refl _) some_
    have values := inv.values
    rw [values, List.getElem?_append_right (Nat.le_refl _), Nat.sub_self, ← List.head?_eq_getElem?,
      ← inv.readIndex] at head
    exact head

/-- Claims, stores and aborts have no part in the sequence of values. -/
theorem leavesNoTrace {op : FifoOp} (part : session.shared.publishes op = none)
    (other : session.shared.releases op = none) : LeavesNoTrace session op := by
  have published : (session.step op).published = session.published := by
    show session.published ++ (session.shared.publishes op).toList = _
    rw [part, Option.toList_none, List.append_nil]
  have released : (session.step op).released = session.released := by
    show session.released ++ (session.shared.releases op).toList = _
    rw [other, Option.toList_none, List.append_nil]
  have values := (inv.step op).values
  rw [published, released, inv.values] at values
  exact ⟨published, released, (List.append_cancel_left values).symm⟩

theorem refusesStaleClaim : RefusesStaleClaim session := by
  intro place claim found recent last
  have stale : wlFifoClaimMatches session.shared.fifo (some claim) = false := by
    by_cases newest : place + 1 = session.claims.length
    · simp [wlFifoClaimMatches, last newest]
    · simp [wlFifoClaimMatches, inv.claimTokens.stale found recent newest]
  simp [wlFifoWritePublish, wlFifoPublishLoad, wlFifoWriteAbort, stale]

theorem refusesStaleView : RefusesStaleView session := by
  intro place view found recent last
  have stale : wlFifoViewMatches session.shared.fifo (some view) = false := by
    by_cases newest : place + 1 = session.views.length
    · simp [wlFifoViewMatches, last newest]
    · simp [wlFifoViewMatches, inv.viewTokens.stale found recent newest]
  simp [wlFifoReadRelease, stale]

end FifoSession.Inv

end queue

/-- The typed queue refines a bounded queue: after every interleaving of accesses of one writer and one
reader, what has been published is what has been released followed by what the slots hold, at most the
capacity; a claim is refused as full only then, its slot is none of those in the queue, claims, stores
and aborts leave no trace, stale claims and views are refused, and the high watermark stays within the
capacity. -/
theorem fifo_refines_queue {fifoAddress : UInt64} {config : FifoConfig} {storage : SpscStorage}
    {lockFree : Bool} {fifo : WlFifo}
    (started : wlFifoInit fifoAddress config storage lockFree = .ok fifo) (ops : List FifoOp)
    {session : FifoSession} (reached : runFifo (.start fifo) ops = session) :
    session.released <+: session.published ∧ FifoRefines session ∧
      (∀ claim, LeavesNoTrace session (.abort claim)) ∧ LeavesNoTrace session .claim ∧
      (∀ offset data, LeavesNoTrace session (.store offset data)) ∧
      RefusesStaleClaim session ∧ RefusesStaleView session := by
  subst reached
  have inv := (fifoInv_start started).run ops
  exact ⟨inv.order, inv.refines, fun _ => inv.leavesNoTrace rfl rfl, inv.leavesNoTrace rfl rfl,
    fun _ _ => inv.leavesNoTrace rfl rfl, inv.refusesStaleClaim, inv.refusesStaleView⟩

/-- Two slots of one byte. -/
def smallFifo : WlFifo :=
  { storage := [0, 0], valueSize := 1, slotStride := 1, capacity := 2, writeCursor := 0
    writeIndex := 0, writeToken := 0, writeClaimed := false, readCursor := 0, readIndex := 0
    readToken := 0, readBorrowed := false, publishedCursor := 0, consumedCursor := 0
    counters :=
      { highWatermark := 0, publishes := 0, consumes := 0, fullRejections := 0, emptyReads := 0
        aborts := 0, errors := 0 } }

/-- Two values are published, and the first one is read. -/
def smallFifoRun : List FifoOp :=
  [.claim, .store 0 [7], .publish (span 0 1), .publishStore, .claim, .store 0 [8],
    .publish (span 1 2), .publishStore, .acquire, .release (span 0 1)]
where
  /-- A slot under a token. -/
  span (slot : Nat) (token : UInt32) : Option SpscSpan :=
    some { value := slot, valueSize := 1, token := token, privateSlot := UInt32.ofNat slot }

theorem small_fifo_refines_queue :
    wlFifoInit 4096 { values := { valueSize := 1, valueAlignment := 1 }, capacity := 2 }
        { address := 0, data := [0, 0] } true = .ok smallFifo ∧
      FifoRefines (runFifo (.start smallFifo) smallFifoRun) ∧
      (runFifo (.start smallFifo) smallFifoRun).published = [[7], [8]] ∧
      (runFifo (.start smallFifo) smallFifoRun).released = [[7]] :=
  have started : wlFifoInit 4096
      { values := { valueSize := 1, valueAlignment := 1 }, capacity := 2 }
      { address := 0, data := [0, 0] } true = .ok smallFifo := by decide +kernel
  ⟨started, (fifo_refines_queue started _ rfl).2.1, by decide +kernel, by decide +kernel⟩

end Wirelink
