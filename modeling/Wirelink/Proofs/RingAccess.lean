/-
Module: Wirelink.Proofs.RingAccess
Purpose: The receive ring under every interleaving of single accesses. The queue invariant holds
  between calls and inside them, but for one window: a consumer that found the ring empty and
  consumes nothing stores its read cursor back, and if a DMA claim has normalized the ring in
  between, bytes that nobody committed become readable.
Trusted boundary: none
-/
import Wirelink.Proofs.RingCalls
import Wirelink.Lib.Run

namespace Wirelink

/-! ### Two epochs

Cursors run over two lengths of the memory, so that every place has a cursor in each epoch. A
normalization moves both cursors to the zero of the other epoch, out of reach of a cursor of the old
one. -/

/-- `reset` is the physical zero of the epoch `cursor` is not in, and `cursor` is at no physical
zero. -/
structure Opposed (capacity cursor reset : Nat) : Prop where
  bound : cursor < capacity * 2
  inside : cursor ≠ 0 ∧ cursor ≠ capacity
  reset : reset = if cursor < capacity then capacity else 0

section epochs

variable {capacity cursor reset write : Nat}

namespace Opposed

variable (opposed : Opposed capacity cursor reset)

include opposed

theorem reset_le : reset ≤ capacity := by
  rw [opposed.reset]
  split <;> omega

theorem far : capacity < cursorDistance (capacity * 2) reset cursor := by
  obtain ⟨_, _, rfl⟩ := opposed
  unfold cursorDistance
  split <;> split <;> omega

theorem snapshot_eq_zero : RxRing.snapshot capacity reset cursor = 0 := by
  exact if_neg (Nat.not_le.mpr opposed.far)

theorem not_opposed {other : Nat} : ¬ Opposed capacity reset other := by
  intro again
  obtain ⟨-, -, rfl⟩ := opposed
  have zero := again.inside
  split at zero <;> omega

/-- Read from the old cursor, the bytes behind the reset one have the wrong number. -/
theorem snapshot_ne (bound : write < capacity * 2)
    (within : cursorDistance (capacity * 2) reset write ≤ capacity) :
    RxRing.snapshot capacity cursor write ≠ cursorDistance (capacity * 2) reset write := by
  obtain ⟨_, _, rfl⟩ := opposed
  unfold RxRing.snapshot cursorDistance
  dsimp only
  split <;> split <;> split <;> split <;> omega

end Opposed

/-- A claim normalizes only where the end of the memory is in its way. -/
theorem opposed_of_short {maximumLength : Nat} (bound : cursor < capacity * 2)
    (short : contiguousLength capacity cursor capacity < maximumLength)
    (fits : maximumLength ≤ capacity) :
    Opposed capacity cursor (if cursor < capacity then capacity else 0) := by
  refine ⟨bound, ?_, rfl⟩
  revert short
  unfold contiguousLength cursorPhysical
  dsimp only
  split <;> split <;> omega

end epochs

/-! ### The invariant

Inside a call the ring need not be a queue. The invariant says what the cursors are by where the
producer stands, and what the consumer's loads are still good for. -/

/-- The producer holds neither a reservation nor a claim. -/
def HoldsNothing (core : RingCore) : Prop :=
  core.reservationActive = false ∧ core.dmaClaim.active = false

/-- The cursors and the queue, by where the producer stands. -/
def CursorInv (core : RingCore) (pending : Bytes) (overwrote : Bool) : ProducerPc → Prop
  | .idle => RingInv core pending
  | .reserving write => RingInv core pending ∧ HoldsNothing core ∧ write = core.writeCursor
  | .claiming _ write => RingInv core pending ∧ HoldsNothing core ∧ write = core.writeCursor
  | .normalizing _ reset =>
    RingInv core pending ∧ HoldsNothing core ∧ core.readCursor = core.writeCursor ∧
      Opposed core.capacity core.writeCursor reset
  | .readStored _ reset =>
    -- one cursor is already reset, unless a consumer has put the old one back
    RingShape core ∧ HoldsNothing core ∧ pending = [] ∧
      Opposed core.capacity core.writeCursor reset ∧
      core.readCursor = if overwrote then core.writeCursor else reset

/-- What the consumer has loaded is still of use. -/
def ConsumerInv (core : RingCore) (pending : Bytes) (producer : ProducerPc) : ConsumerPc → Prop
  | .idle => True
  | .calling _ => True
  | .loaded _ write =>
    Opposed core.capacity write core.readCursor ∨
      cursorDistance (core.capacity * 2) core.readCursor write ≤ pending.length
  | .storing read length =>
    read = core.readCursor ∧ length ≤ pending.length ∨
      length = 0 ∧ Opposed core.capacity read core.readCursor ∧
        ∀ maximumLength reset, producer = .readStored maximumLength reset →
          read = core.writeCursor

/-- What the consumer saw last is a beginning of the queue. -/
def ViewInv (core : RingCore) (pending : Bytes) (view : Option RingView) : Prop :=
  ∀ seen, view = some seen →
    seen.count = 0 ∨ seen.read = core.readCursor ∧ seen.count ≤ pending.length

/-- The invariant of the shared ring. -/
structure SharedInv (shared : SharedRing) : Prop where
  cursors : CursorInv shared.ring.core shared.pending shared.overwrote shared.producer
  consumer : ConsumerInv shared.ring.core shared.pending shared.producer shared.consumer
  view : ViewInv shared.ring.core shared.pending shared.view
  undone : shared.overwrote = true →
    ∃ maximumLength reset, shared.producer = .readStored maximumLength reset

section invariant

variable {shared : SharedRing}

variable {core : RingCore} {pending : Bytes} {producer : ProducerPc} {after : SharedRing}

theorem CursorInv.shape {overwrote : Bool} (inv : CursorInv core pending overwrote producer) :
    RingShape core := by
  cases producer with
  | idle => exact RingInv.shape inv
  | reserving | claiming | normalizing => exact inv.1.shape
  | readStored => exact inv.1

theorem CursorInv.ringInv {overwrote : Bool} (inv : CursorInv core pending overwrote producer)
    (settled : ∀ maximumLength reset, producer ≠ .readStored maximumLength reset) :
    RingInv core pending := by
  cases producer with
  | idle => exact inv
  | reserving | claiming | normalizing => exact inv.1
  | readStored maximumLength reset => exact absurd rfl (settled maximumLength reset)

namespace SharedInv

variable (inv : SharedInv shared)

include inv

theorem content : shared.ring.content = shared.pending := by
  have cursors := inv.cursors
  cases producer : shared.producer with
  | readStored =>
    rw [producer] at cursors
    obtain ⟨_, -, empty, opposed, read⟩ := cursors
    have nothing : shared.ring.readable = 0 := by
      change RxRing.snapshot shared.ring.core.capacity shared.ring.core.readCursor
        shared.ring.core.writeCursor = 0
      rw [read]
      split
      · simp [RxRing.snapshot]
      · exact opposed.snapshot_eq_zero
    rw [RxRing.content, nothing, empty, window_zero]
  | _ => exact (cursors.ringInv (by simp [producer])).content

theorem safe : RingSafe shared := by
  have content := inv.content
  refine ⟨content, ?_, ?_⟩
  · intro view held
    rcases inv.view view held with none | ⟨read, count⟩
    · rw [none, window_zero]
      exact List.nil_prefix
    · rw [RxRing.content] at content
      have enough : view.count ≤ shared.ring.readable := by
        rw [← content, length_window] at count
        exact count
      rw [show view.read = shared.ring.readCursor from read, ← content,
        ← window_take _ _ _ enough]
      exact List.take_prefix _ _
  · intro producer _
    have cursors := inv.cursors
    rw [producer] at cursors
    exact RingInv.within cursors

/-! ### Steps of the producer

Only a normalization moves the read cursor. Every other step appends to the queue or leaves it
alone. -/

theorem not_overwrote
    (settled : ∀ maximumLength reset, shared.producer ≠ .readStored maximumLength reset) :
    shared.overwrote = false := by
  apply eq_false_of_ne_true
  intro overwrote
  obtain ⟨maximumLength, reset, stored⟩ := inv.undone overwrote
  exact settled maximumLength reset stored

/-- A step of the producer that leaves the read cursor alone and ends outside the window of a
normalization. -/
theorem producerMoved (cursors : CursorInv after.ring.core after.pending false after.producer)
    (settled : ∀ maximumLength reset, after.producer ≠ .readStored maximumLength reset)
    (overwrote : after.overwrote = false) (capacity : after.ring.capacity = shared.ring.capacity)
    (read : after.ring.readCursor = shared.ring.readCursor)
    (consumer : after.consumer = shared.consumer) (view : after.view = shared.view)
    (grown : shared.pending.length ≤ after.pending.length) : SharedInv after := by
  have sameCapacity : after.ring.core.capacity = shared.ring.core.capacity := capacity
  have sameRead : after.ring.core.readCursor = shared.ring.core.readCursor := read
  refine ⟨?_, ?_, ?_, ?_⟩
  · rw [overwrote]
    exact cursors
  · have loaded := inv.consumer
    rw [consumer]
    cases state : shared.consumer with
    | idle | calling => trivial
    | loaded =>
      rw [state] at loaded
      rw [ConsumerInv, sameCapacity, sameRead]
      exact loaded.imp id fun behind => behind.trans grown
    | storing =>
      rw [state] at loaded
      rw [ConsumerInv, sameCapacity, sameRead]
      rcases loaded with ⟨current, enough⟩ | ⟨nothing, opposed, -⟩
      · exact .inl ⟨current, enough.trans grown⟩
      · exact .inr ⟨nothing, opposed, fun maximumLength reset stored =>
          absurd stored (settled maximumLength reset)⟩
  · intro seen held
    rw [sameRead]
    rw [view] at held
    exact (inv.view seen held).imp id fun current => ⟨current.1, current.2.trans grown⟩
  · intro undone
    exact nomatch overwrote.symm.trans undone

theorem idleMoved (idle : shared.producer = .idle) (queue : RingInv after.ring.core after.pending)
    (producer : after.producer = shared.producer) (overwrote : after.overwrote = shared.overwrote)
    (capacity : after.ring.capacity = shared.ring.capacity)
    (read : after.ring.readCursor = shared.ring.readCursor)
    (consumer : after.consumer = shared.consumer) (view : after.view = shared.view)
    (grown : shared.pending.length ≤ after.pending.length) : SharedInv after := by
  have settled (maximumLength reset : Nat) :
      shared.producer ≠ .readStored maximumLength reset := by
    rw [idle]
    exact nofun
  refine inv.producerMoved ?_ ?_ (overwrote.trans (inv.not_overwrote settled)) capacity read
    consumer view grown
  · rw [producer, idle]
    exact queue
  · rw [producer]
    exact settled

end SharedInv

theorem core_dmaFinish (inv : RingInv shared.ring.core shared.pending) (token : UInt32) :
    RingInv (shared.ring.dmaFinish token).1.core shared.pending := by
  unfold RxRing.dmaFinish
  split
  · exact inv
  split
  · exact inv
  split
  · exact inv
  · exact inv.claimEnded

theorem core_dmaAbort (inv : RingInv shared.ring.core shared.pending) :
    RingInv shared.ring.dmaAbort.1.core shared.pending := by
  unfold RxRing.dmaAbort
  split
  · exact inv
  split
  · exact inv
  · unfold RxRing.noteOverflow
    split
    · exact inv.claimEnded
    · exact inv.claimEnded

section

variable (inv : SharedInv shared)

include inv

theorem SharedInv.queue (idle : shared.producer = .idle) :
    RingInv shared.ring.core shared.pending := by
  have cursors := inv.cursors
  rw [idle] at cursors
  exact cursors

theorem commit_sharedInv (idle : shared.producer = .idle) (length : Nat) :
    SharedInv (shared.commit length) := by
  unfold SharedRing.commit
  rcases producerCommit_cases shared.ring length with ⟨err, refused, same⟩ | ⟨active, short, moved⟩
  · rw [same]
    cases err <;> first | exact absurd rfl refused | exact inv
  · rw [moved]
    refine inv.idleMoved idle ((inv.queue idle).committed active short) rfl rfl rfl rfl rfl rfl ?_
    rw [List.length_append]
    exact Nat.le_add_right _ _

theorem publish_sharedInv (idle : shared.producer = .idle) (token : UInt32) (offset length : Nat) :
    SharedInv (shared.publish token offset length) := by
  unfold SharedRing.publish
  rcases dmaPublish_cases shared.ring token offset length with
    ⟨err, refused, same⟩ | ⟨active, next, short, moved⟩
  · rw [same]
    cases err <;> first | exact absurd rfl refused | exact inv
  · rw [moved, next]
    refine inv.idleMoved idle ((inv.queue idle).published active short) rfl rfl rfl rfl rfl rfl ?_
    rw [List.length_append]
    exact Nat.le_add_right _ _

/-- The first store of a normalization: what the consumer has loaded from the empty ring is now
behind the other epoch. -/
theorem normalizing_sharedInv {maximumLength reset : Nat}
    (state : shared.producer = .normalizing maximumLength reset) :
    SharedInv { shared with
      ring := { shared.ring with readCursor := reset }
      producer := .readStored maximumLength reset } := by
  have cursors := inv.cursors
  rw [state] at cursors
  obtain ⟨queue, nothing, empty, opposed⟩ := cursors
  have settled (maximumLength reset : Nat) :
      shared.producer ≠ .readStored maximumLength reset := by
    rw [state]
    exact nofun
  have drained : shared.pending = [] := by
    have used : shared.ring.core.used = 0 := by
      rw [RingCore.used, empty, cursorDistance_self]
    exact List.length_eq_zero_iff.mp (queue.length_queued.trans used)
  have old : Opposed shared.ring.core.capacity shared.ring.core.readCursor reset := by
    rw [empty]
    exact opposed
  have overwrote : shared.overwrote = false := inv.not_overwrote settled
  have resetBound : reset < shared.ring.core.capacity * 2 := by
    have small := opposed.reset_le
    have positive := queue.shape.positive
    omega
  refine ⟨?_, ?_, ?_, ?_⟩
  · refine ⟨{ queue.shape with read := resetBound }, nothing,
      drained, opposed, ?_⟩
    rw [overwrote]
    rfl
  · have loaded := inv.consumer
    cases consumer : shared.consumer with
    | idle | calling => trivial
    | loaded =>
      rw [consumer] at loaded
      refine .inl ?_
      rcases loaded with early | current
      · exact absurd old early.not_opposed
      · rw [drained, List.length_nil, Nat.le_zero] at current
        rw [← cursorDistance_eq_zero queue.shape.read current]
        exact old
    | storing =>
      rw [consumer] at loaded
      refine .inr ?_
      rcases loaded with ⟨current, enough⟩ | ⟨-, early, -⟩
      · rw [drained, List.length_nil, Nat.le_zero] at enough
        rw [current]
        exact ⟨enough, old, fun _ _ _ => empty⟩
      · exact absurd old early.not_opposed
  · intro seen held
    rcases inv.view seen held with none | ⟨-, count⟩
    · exact .inl none
    · rw [drained] at count
      exact .inl (Nat.le_zero.mp count)
  · intro undone
    exact nomatch overwrote.symm.trans undone

theorem producerNext_sharedInv (kept : ¬ ReadCursorUndone shared.producerNext) :
    SharedInv shared.producerNext := by
  have cursors := inv.cursors
  unfold SharedRing.producerNext at kept ⊢
  dsimp only at kept ⊢
  split at kept
  case h_1 => exact inv
  case h_2 write state =>
    rw [state] at cursors
    obtain ⟨queue, nothing, current⟩ := cursors
    obtain ⟨capacity, read⟩ := reserveWith_cursors shared.ring write shared.ring.readCursor
    have overwrote : shared.overwrote = false := inv.not_overwrote (by simp [state])
    have reserved := queue.reserveWith nothing.2
    rw [show shared.ring.writeCursor = write from current.symm] at reserved
    exact inv.producerMoved reserved (by simp) overwrote capacity read rfl rfl (Nat.le_refl _)
  case h_3 maximumLength write state =>
    rw [state] at cursors
    obtain ⟨queue, nothing, current⟩ := cursors
    have overwrote : shared.overwrote = false := inv.not_overwrote (by simp [state])
    split
    case isTrue empty =>
      obtain ⟨same, fits, short⟩ := empty
      have bound : write < shared.ring.capacity * 2 := by
        rw [current]
        exact queue.shape.write
      have opposed := opposed_of_short bound short fits
      refine inv.producerMoved ⟨queue, nothing, ?_, ?_⟩ (by simp) overwrote rfl rfl rfl rfl
        (Nat.le_refl _)
      · exact same.symm.trans current
      · rw [← current]
        exact opposed
    case isFalse =>
      obtain ⟨capacity, read⟩ :=
        claimWith_cursors shared.ring maximumLength write shared.ring.readCursor
      have claimed := queue.claimWith maximumLength nothing.1
      rw [show shared.ring.writeCursor = write from current.symm] at claimed
      exact inv.producerMoved claimed (by simp) overwrote capacity read rfl rfl (Nat.le_refl _)
  case h_4 maximumLength reset state => exact normalizing_sharedInv inv state
  case h_5 maximumLength reset state =>
    rw [state] at cursors
    obtain ⟨shape, nothing, empty, opposed, read⟩ := cursors
    have overwrote : shared.overwrote = false := by
      apply eq_false_of_ne_true
      intro undone
      exact kept ⟨undone, fun _ _ => nofun⟩
    rw [overwrote] at read
    have current : shared.ring.readCursor = reset := read
    have restarted : RingInv ({ shared.ring with writeCursor := reset } : RxRing).core [] := by
      have moved := RingInv.restart shape opposed.reset_le nothing.1 nothing.2
      rw [← current] at moved
      rw [← current]
      exact moved
    have claimed := restarted.claimWith maximumLength nothing.1
    rw [show ({ shared.ring with writeCursor := reset } : RxRing).readCursor = reset from current]
      at claimed
    obtain ⟨capacity, same⟩ := claimWith_cursors
      ({ shared.ring with writeCursor := reset } : RxRing) maximumLength reset reset
    refine inv.producerMoved ?_ (by simp) overwrote capacity same rfl rfl (Nat.le_refl _)
    rw [empty]
    exact claimed

/-! ### Steps of the consumer

The consumer works with a write cursor it has loaded earlier, which never shows more than there is.
-/

theorem SharedInv.consumerMoved (core : after.ring.core = shared.ring.core)
    (producer : after.producer = shared.producer) (pending : after.pending = shared.pending)
    (overwrote : after.overwrote = shared.overwrote)
    (consumer : ConsumerInv shared.ring.core shared.pending shared.producer after.consumer)
    (view : ViewInv shared.ring.core shared.pending after.view) : SharedInv after := by
  refine ⟨?_, ?_, ?_, ?_⟩
  · rw [core, producer, pending, overwrote]
    exact inv.cursors
  · rw [core, producer, pending]
    exact consumer
  · rw [core, pending]
    exact view
  · rw [overwrote, producer]
    exact inv.undone

theorem SharedInv.loaded (call : ConsumerCall) :
    ConsumerInv shared.ring.core shared.pending shared.producer
      (.loaded call shared.ring.writeCursor) := by
  have cursors := inv.cursors
  cases producer : shared.producer with
  | readStored =>
    rw [producer] at cursors
    obtain ⟨-, -, _, opposed, read⟩ := cursors
    rw [ConsumerInv, read]
    split
    · refine .inr ?_
      rw [show shared.ring.core.writeCursor = shared.ring.writeCursor from rfl,
        cursorDistance_self]
      exact Nat.zero_le _
    · exact .inl opposed
  | _ =>
    have queue := cursors.ringInv (by simp [producer])
    exact .inr (Nat.le_of_eq queue.length_queued.symm)

end

theorem snapshot_le {call : ConsumerCall} {write : Nat}
    (loaded : ConsumerInv core pending producer (.loaded call write)) :
    RxRing.snapshot core.capacity core.readCursor write ≤ pending.length := by
  rcases loaded with opposed | behind
  · rw [opposed.snapshot_eq_zero]
    exact Nat.zero_le _
  · unfold RxRing.snapshot
    dsimp only
    split
    · exact behind
    · exact Nat.zero_le _

theorem snapshotTaken_sharedInv (inv : SharedInv shared) {call : ConsumerCall} {write : Nat}
    (state : shared.consumer = .loaded call write) :
    SharedInv (shared.snapshotTaken call write) := by
  have loaded := inv.consumer
  rw [state] at loaded
  have bounded := snapshot_le loaded
  have view : ViewInv shared.ring.core shared.pending
      (some { read := shared.ring.readCursor, count :=
        RxRing.snapshot shared.ring.capacity shared.ring.readCursor write }) := by
    intro seen held
    cases held
    exact .inr ⟨rfl, bounded⟩
  cases call with
  | find => exact inv.consumerMoved (core_findWith _ _ _ _) rfl rfl rfl trivial view
  | peek | copy | drain => exact inv.consumerMoved rfl rfl rfl rfl trivial view
  | consume =>
    unfold SharedRing.snapshotTaken
    dsimp only
    split
    · exact inv.consumerMoved rfl rfl rfl rfl trivial view
    case isFalse enough =>
      refine inv.consumerMoved rfl rfl rfl rfl (.inl ⟨rfl, ?_⟩) view
      exact (Nat.le_of_not_lt enough).trans bounded

/-- A store of the read cursor the consumer loaded, while that cursor is still the current one. -/
theorem CursorInv.consumed (inv : CursorInv shared.ring.core shared.pending shared.overwrote
    shared.producer) {length : Nat} (enough : length ≤ shared.pending.length) :
    CursorInv
      ({ shared.ring with
        readCursor := cursorAdvance (shared.ring.capacity * 2) shared.ring.readCursor length } :
        RxRing).core (shared.pending.drop length) shared.overwrote shared.producer := by
  -- on an empty ring nothing is consumed, and the store changes nothing
  have still (empty : shared.pending = []) :
      cursorAdvance (shared.ring.capacity * 2) shared.ring.readCursor length =
        shared.ring.readCursor ∧ shared.pending.drop length = shared.pending := by
    rw [empty, List.length_nil, Nat.le_zero] at enough
    rw [enough]
    exact ⟨cursorAdvance_zero inv.shape.read, List.drop_zero⟩
  cases state : shared.producer with
  | idle =>
    rw [state] at inv
    exact RingInv.consumed inv enough
  | reserving | claiming =>
    rw [state] at inv
    exact ⟨inv.1.consumed enough, inv.2⟩
  | normalizing =>
    rw [state] at inv
    obtain ⟨queue, nothing, same, opposed⟩ := inv
    have used : shared.ring.core.used = 0 := by rw [RingCore.used, same, cursorDistance_self]
    have empty := List.length_eq_zero_iff.mp (queue.length_queued.trans used)
    rw [(still empty).1, (still empty).2]
    exact ⟨queue, nothing, same, opposed⟩
  | readStored =>
    rw [state] at inv
    rw [(still inv.2.2.1).1, (still inv.2.2.1).2]
    exact inv

theorem storing_sharedInv (inv : SharedInv shared) {read length : Nat}
    (state : shared.consumer = .storing read length)
    (kept : ¬ ReadCursorUndone shared.consumerNext) : SharedInv shared.consumerNext := by
  have held := inv.consumer
  rw [state] at held
  unfold SharedRing.consumerNext at kept ⊢
  rw [state] at kept ⊢
  dsimp only at kept ⊢
  rcases held with ⟨current, enough⟩ | ⟨nothing, opposed, window⟩
  · have same : (shared.overwrote || read != shared.ring.readCursor) = shared.overwrote := by
      rw [show read = shared.ring.readCursor from current, bne_self_eq_false, Bool.or_false]
    rw [same, show read = shared.ring.readCursor from current]
    exact ⟨inv.cursors.consumed enough, trivial, nofun, inv.undone⟩
  · -- the read cursor was replaced: only the window of a normalization can still bear this
    have differs : (shared.overwrote || read != shared.ring.readCursor) = true := by
      have apart : read ≠ shared.ring.readCursor := by
        intro equal
        have far := opposed.far
        rw [equal, show shared.ring.core.readCursor = shared.ring.readCursor from rfl,
          cursorDistance_self] at far
        exact Nat.not_lt_zero _ far
      rw [bne_iff_ne.mpr apart, Bool.or_true]
    rw [differs] at kept ⊢
    have inside : ∃ maximumLength reset, shared.producer = .readStored maximumLength reset := by
      by_contra outside
      exact kept ⟨rfl, fun maximumLength reset stored => outside ⟨maximumLength, reset, stored⟩⟩
    obtain ⟨maximumLength, reset, stored⟩ := inside
    have back := window maximumLength reset stored
    have cursors := inv.cursors
    rw [stored] at cursors
    obtain ⟨shape, holds, empty, reach, -⟩ := cursors
    have unmoved : cursorAdvance (shared.ring.capacity * 2) read length =
        shared.ring.writeCursor := by
      rw [nothing]
      exact (cursorAdvance_zero opposed.bound).trans back
    rw [unmoved, nothing, List.drop_zero]
    refine ⟨?_, trivial, nofun, fun _ => ⟨maximumLength, reset, stored⟩⟩
    rw [stored]
    exact ⟨⟨shape.positive, shape.full, shape.write, shape.write⟩, holds, empty, reach, rfl⟩

theorem consumerNext_sharedInv (inv : SharedInv shared)
    (kept : ¬ ReadCursorUndone shared.consumerNext) : SharedInv shared.consumerNext := by
  cases state : shared.consumer with
  | idle =>
    rw [SharedRing.consumerNext, state]
    exact inv
  | calling call =>
    rw [SharedRing.consumerNext, state]
    exact inv.consumerMoved rfl rfl rfl rfl (inv.loaded call) inv.view
  | loaded =>
    rw [SharedRing.consumerNext, state]
    exact snapshotTaken_sharedInv inv state
  | storing => exact storing_sharedInv inv state kept

/-! ### Every access -/

theorem SharedInv.holdsNothing (free : shared.producerFree = true) :
    shared.producer = .idle ∧ HoldsNothing shared.ring.core := by
  simp only [SharedRing.producerFree, Bool.and_eq_true, beq_iff_eq, Bool.not_eq_true'] at free
  exact ⟨free.1.1.1, free.1.2, free.2⟩

theorem SharedInv.called (inv : SharedInv shared) (free : shared.producerFree = true)
    (calls : producer = .reserving shared.ring.writeCursor ∨
      ∃ maximumLength, producer = .claiming maximumLength shared.ring.writeCursor) :
    SharedInv { shared with producer := producer } := by
  obtain ⟨idle, nothing⟩ := SharedInv.holdsNothing free
  have overwrote := inv.not_overwrote (by simp [idle])
  have queue := inv.queue idle
  rcases calls with rfl | ⟨_, rfl⟩
  · exact inv.producerMoved ⟨queue, nothing, rfl⟩ (by simp) overwrote rfl rfl rfl rfl (Nat.le_refl _)
  · exact inv.producerMoved ⟨queue, nothing, rfl⟩ (by simp) overwrote rfl rfl rfl rfl (Nat.le_refl _)

/-- An operation of the producer between calls that works on the ring alone and neither commits nor
moves the read cursor. -/
theorem SharedInv.withRing (inv : SharedInv shared) (idle : shared.producer = .idle) {ring : RxRing}
    (queue : RingInv ring.core shared.pending) (same : ring.readSide = shared.ring.readSide) :
    SharedInv (shared.withRing ring) :=
  inv.idleMoved idle queue rfl rfl (congrArg Prod.fst same) (congrArg Prod.snd same) rfl rfl
    (Nat.le_refl _)

theorem step_sharedInv (inv : SharedInv shared) (op : RingOp)
    (kept : ¬ ReadCursorUndone (shared.step op)) : SharedInv (shared.step op) := by
  -- an operation that is not allowed now leaves the ring; only the accesses of a call need `kept`
  cases op with
  | reserve =>
    rw [SharedRing.step]
    split
    case isTrue free => exact inv.called free (.inl rfl)
    case isFalse => exact inv
  | claim maximumLength =>
    rw [SharedRing.step]
    split
    case isTrue free => exact inv.called free.2 (.inr ⟨maximumLength, rfl⟩)
    case isFalse => exact inv
  | store offset data =>
    rw [SharedRing.step]
    split
    case isTrue idle =>
      exact inv.withRing idle ((inv.queue idle).producerStore offset data)
        (readSide_producerStore _ offset data)
    case isFalse => exact inv
  | commit length =>
    rw [SharedRing.step]
    split
    case isTrue idle => exact commit_sharedInv inv idle length
    case isFalse => exact inv
  | dmaStore offset data =>
    rw [SharedRing.step]
    split
    case isTrue idle =>
      exact inv.withRing idle ((inv.queue idle).dmaStore offset data)
        (readSide_dmaStore _ offset data)
    case isFalse => exact inv
  | publish token offset length =>
    rw [SharedRing.step]
    split
    case isTrue idle => exact publish_sharedInv inv idle token offset length
    case isFalse => exact inv
  | finish token =>
    rw [SharedRing.step]
    split
    case isTrue idle =>
      exact inv.withRing idle (core_dmaFinish (inv.queue idle) token) (readSide_dmaFinish _ token)
    case isFalse => exact inv
  | abort =>
    rw [SharedRing.step]
    split
    case isTrue idle =>
      exact inv.withRing idle (core_dmaAbort (inv.queue idle)) (readSide_dmaAbort _)
    case isFalse => exact inv
  | noteOverflow =>
    rw [SharedRing.step]
    split
    case isTrue idle =>
      refine inv.withRing idle ?_ (readSide_noteOverflow _)
      unfold RxRing.noteOverflow
      split
      · exact inv.queue idle
      · exact inv.queue idle
    case isFalse => exact inv
  | producerNext => exact producerNext_sharedInv inv kept
  | call call =>
    rw [SharedRing.step]
    split
    case isTrue => exact inv.consumerMoved rfl rfl rfl rfl (inv.loaded call) inv.view
    case isFalse => exact inv
  | takeOverflow =>
    rw [SharedRing.step]
    split
    case isTrue =>
      have core : shared.ring.takeOverflow.1.core = shared.ring.core := by
        unfold RxRing.takeOverflow
        split
        · rfl
        · rfl
      refine inv.consumerMoved core rfl rfl rfl ?_ inv.view
      split
      · trivial
      · trivial
    case isFalse => exact inv
  | consumerNext => exact consumerNext_sharedInv inv kept

/-! ### The broken window

Where the consumer stores a read cursor that a normalization has replaced, the number of readable
bytes is wrong at once. No other access breaks the invariant. -/

theorem not_ringSafe_of_readable_ne (wrong : shared.ring.readable ≠ shared.pending.length) :
    ¬ RingSafe shared := by
  intro safe
  have length := congrArg List.length safe.content
  rw [RxRing.content, length_window] at length
  exact wrong length

/-- The claim stores its write cursor after the consumer has put the old read cursor back. -/
theorem producerNext_undone (inv : SharedInv shared)
    (undone : ReadCursorUndone shared.producerNext) : ¬ RingSafe shared.producerNext := by
  have overwrote : shared.overwrote = true := by
    have after := undone.1
    unfold SharedRing.producerNext at after
    dsimp only at after
    split at after
    · exact after
    · exact after
    · split at after
      · exact after
      · exact after
    · exact after
    · exact after
  obtain ⟨_, reset, state⟩ := inv.undone overwrote
  have cursors := inv.cursors
  rw [state] at cursors
  obtain ⟨shape, -, empty, opposed, read⟩ := cursors
  rw [overwrote] at read
  have resetBound : reset < shared.ring.capacity * 2 := by
    have small : reset ≤ shared.ring.capacity := opposed.reset_le
    have positive : 0 < shared.ring.capacity := shape.positive
    omega
  have wrong := opposed.snapshot_ne resetBound (by rw [cursorDistance_self]; exact Nat.zero_le _)
  rw [cursorDistance_self,
    ← show shared.ring.core.readCursor = shared.ring.core.writeCursor from read] at wrong
  apply not_ringSafe_of_readable_ne
  rw [SharedRing.producerNext, state]
  rw [claimWith_readable, empty]
  exact wrong

/-- The consumer stores a read cursor that a whole normalization has replaced. -/
theorem consumerNext_undone (inv : SharedInv shared)
    (undone : ReadCursorUndone shared.consumerNext) : ¬ RingSafe shared.consumerNext := by
  have settled : ∀ maximumLength reset, shared.producer ≠ .readStored maximumLength reset := by
    intro maximumLength reset
    have after := undone.2 maximumLength reset
    unfold SharedRing.consumerNext SharedRing.snapshotTaken at after
    dsimp only at after
    split at after
    · exact after
    · exact after
    · split at after
      · exact after
      · exact after
      · exact after
      · split at after
        · exact after
        · exact after
      · exact after
    · exact after
  have overwrote := inv.not_overwrote settled
  have queue := inv.cursors.ringInv settled
  have after := undone.1
  have held := inv.consumer
  cases state : shared.consumer with
  | idle | calling =>
    rw [SharedRing.consumerNext, state] at after
    cases overwrote.symm.trans after
  | loaded call write =>
    have same : (shared.snapshotTaken call write).overwrote = shared.overwrote := by
      unfold SharedRing.snapshotTaken
      cases call with
      | consume =>
        dsimp only
        split
        · rfl
        · rfl
      | _ => rfl
    rw [SharedRing.consumerNext, state] at after
    cases (same.trans overwrote).symm.trans after
  | storing read =>
    rw [state] at held
    rw [SharedRing.consumerNext, state] at after
    rcases held with ⟨current, -⟩ | ⟨nothing, opposed, -⟩
    · rw [show read = shared.ring.readCursor from current] at after
      simp [overwrote] at after
    · apply not_ringSafe_of_readable_ne
      rw [SharedRing.consumerNext, state, nothing]
      dsimp only
      rw [List.drop_zero, queue.length_queued]
      have unmoved : cursorAdvance (shared.ring.capacity * 2) read 0 = read :=
        cursorAdvance_zero opposed.bound
      rw [unmoved]
      exact opposed.snapshot_ne queue.shape.write queue.within

theorem step_bystander (op : RingOp) (other : op ≠ .producerNext ∧ op ≠ .consumerNext) :
    (shared.step op).overwrote = shared.overwrote ∧
      (shared.producer ≠ .idle → (shared.step op).producer = shared.producer) := by
  cases op with
  | producerNext => exact absurd rfl other.1
  | consumerNext => exact absurd rfl other.2
  | reserve =>
    rw [SharedRing.step]
    split
    case isTrue free => exact ⟨rfl, fun busy => absurd (SharedInv.holdsNothing free).1 busy⟩
    case isFalse => exact ⟨rfl, fun _ => rfl⟩
  | claim =>
    rw [SharedRing.step]
    split
    case isTrue free => exact ⟨rfl, fun busy => absurd (SharedInv.holdsNothing free.2).1 busy⟩
    case isFalse => exact ⟨rfl, fun _ => rfl⟩
  | commit =>
    rw [SharedRing.step]
    split
    case isTrue idle =>
      refine ⟨?_, fun busy => absurd idle busy⟩
      unfold SharedRing.commit
      split
      · rfl
      · rfl
    case isFalse => exact ⟨rfl, fun _ => rfl⟩
  | publish =>
    rw [SharedRing.step]
    split
    case isTrue idle =>
      refine ⟨?_, fun busy => absurd idle busy⟩
      unfold SharedRing.publish
      split
      · rfl
      · rfl
    case isFalse => exact ⟨rfl, fun _ => rfl⟩
  | _ =>
    rw [SharedRing.step]
    split
    · exact ⟨rfl, fun _ => rfl⟩
    · exact ⟨rfl, fun _ => rfl⟩

theorem step_undone (inv : SharedInv shared) (op : RingOp)
    (undone : ReadCursorUndone (shared.step op)) : ¬ RingSafe (shared.step op) := by
  by_cases other : op ≠ .producerNext ∧ op ≠ .consumerNext
  · have bystander := @step_bystander shared op other
    obtain ⟨overwrote, producer⟩ := bystander
    obtain ⟨maximumLength, reset, stored⟩ := inv.undone (overwrote.symm.trans undone.1)
    have busy : shared.producer ≠ .idle := by
      rw [stored]
      exact nofun
    exact absurd ((producer busy).trans stored) (undone.2 maximumLength reset)
  · rcases not_and_or.mp other with next | next
    · obtain rfl := not_not.mp next
      exact producerNext_undone inv undone
    · obtain rfl := not_not.mp next
      exact consumerNext_undone inv undone

theorem SharedInv.not_undone (inv : SharedInv shared) : ¬ ReadCursorUndone shared := by
  rintro ⟨overwrote, settled⟩
  obtain ⟨maximumLength, reset, stored⟩ := inv.undone overwrote
  exact settled maximumLength reset stored

end invariant

theorem sharedStart_inv {memory : Bytes} {ring : RxRing} (built : RxRing.init memory = .ok ring) :
    SharedInv (sharedStart ring) := by
  have queue := ringInv_init built
  unfold RxRing.init at built
  split at built
  · exact nomatch built
  · cases built
    exact ⟨queue, trivial, nofun, nofun⟩

/-- At every access of every interleaving the consumer can read exactly the committed and unconsumed
bytes, if and only if no store of the consumer puts back a read cursor that a DMA claim has
replaced. -/
theorem ring_accesses_safe_iff (memory : Bytes) (ring : RxRing)
    (built : RxRing.init memory = .ok ring) (ops : List RingOp) :
    (∀ count, RingSafe (runShared (sharedStart ring) (ops.take count))) ↔
      ∀ count, ¬ ReadCursorUndone (runShared (sharedStart ring) (ops.take count)) := by
  apply forall_take_safe_iff
  · intro shared inv
    exact SharedInv.safe inv
  · intro shared inv
    exact inv.not_undone
  · intro shared op inv kept
    exact step_sharedInv inv op kept
  · intro shared op inv undone
    exact step_undone inv op undone
  · exact sharedStart_inv built

/-- A ring of four bytes. -/
def fourRing : RxRing :=
  { RxRing.empty with memory := [0, 0, 0, 0], capacity := 4, dmaNextToken := 1 }

/-- Three bytes go in and out. -/
def drained : List RingOp :=
  [.reserve, .producerNext, .store 0 [1, 2, 3], .commit 3,
    .call (.consume 3), .consumerNext, .consumerNext]

/-- A claim of the whole memory finds the ring empty in front of the end of the memory. -/
def wholeClaim : List RingOp :=
  [.claim 4, .producerNext, .producerNext, .producerNext]

/-- The claim normalizes the ring between two calls of the consumer, and its bytes arrive. -/
def claimBetweenCalls : List RingOp :=
  drained ++ wholeClaim ++ [.dmaStore 0 [7, 8, 9, 10], .publish 1 0 4, .call .peek, .consumerNext]

theorem claim_between_calls_safe :
    RxRing.init [0, 0, 0, 0] = .ok fourRing ∧
      (∀ count, RingSafe (runShared (sharedStart fourRing) (claimBetweenCalls.take count))) ∧
      (runShared (sharedStart fourRing) claimBetweenCalls).ring.content = [7, 8, 9, 10] := by
  refine ⟨rfl, (ring_accesses_safe_iff [0, 0, 0, 0] fourRing rfl claimBetweenCalls).mpr ?_,
    by decide⟩
  intro count
  have each : ∀ turn < 16,
      (runShared (sharedStart fourRing) (claimBetweenCalls.take turn)).overwrote = false := by
    decide
  rw [List.take_eq_take_min]
  have kept := each (min count claimBetweenCalls.length)
    (Nat.lt_succ_of_le (Nat.min_le_right _ _))
  exact fun undone => nomatch kept.symm.trans undone.1

/-- The consumer handles an overflow, finds nothing readable and is about to consume nothing; the
claim normalizes the ring, and the consumer stores its old read cursor. -/
def claimInsideConsume : List RingOp :=
  drained ++ [.noteOverflow, .takeOverflow] ++ List.replicate 4 .consumerNext ++ wholeClaim ++
    [.consumerNext]

/-- A byte that nobody has committed is readable. -/
theorem claim_inside_consume_unsafe :
    ¬ (∀ (memory : Bytes) (ring : RxRing) (ops : List RingOp), RxRing.init memory = .ok ring →
      ∀ count, RingSafe (runShared (sharedStart ring) (ops.take count))) ∧
      (runShared (sharedStart fourRing) claimInsideConsume).pending = [] ∧
      (runShared (sharedStart fourRing) claimInsideConsume).ring.content.length = 1 := by
  refine ⟨?_, by decide, by decide⟩
  intro safe
  have last := (safe [0, 0, 0, 0] fourRing claimInsideConsume rfl 18).content
  exact absurd last (by decide)

end Wirelink
