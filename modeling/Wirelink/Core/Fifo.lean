/-
Module: Wirelink.Core.Fifo
Purpose: The typed queue of one writer and one reader, at the granularity of its cursor accesses. A call
  makes one access of a cursor of the other side and private work around it, but for publish, which
  loads the consumed cursor and later stores the published one; it is cut between the two.
Trusted boundary: the translation of src/fifo.c
-/
import Wirelink.Core.SpscSlots

namespace Wirelink

/-- `wl_fifo_config_t`. -/
structure FifoConfig where
  values : SpscConfig
  capacity : UInt32
deriving Repr, DecidableEq

/-- The counters of `wl_fifo_impl_t`. -/
structure FifoCounters where
  highWatermark : UInt32
  publishes : UInt32
  consumes : UInt32
  fullRejections : UInt32
  emptyReads : UInt32
  aborts : UInt32
  errors : UInt32
deriving Repr, DecidableEq

/-- `wl_fifo_impl_t` with its storage. -/
structure WlFifo where
  storage : Bytes
  valueSize : UInt64
  slotStride : UInt64
  capacity : UInt32
  writeCursor : UInt32
  writeIndex : UInt32
  writeToken : UInt32
  writeClaimed : Bool
  readCursor : UInt32
  readIndex : UInt32
  readToken : UInt32
  readBorrowed : Bool
  publishedCursor : UInt32
  consumedCursor : UInt32
  counters : FifoCounters
deriving Repr, DecidableEq

/-- `wl_fifo_slot`, as an offset of the storage. -/
def wlFifoSlot (fifo : WlFifo) (index : UInt32) : Nat :=
  index.toNat * fifo.slotStride.toNat

/-- `wl_fifo_next_token`. -/
def wlFifoNextToken (token : UInt32) : UInt32 :=
  spscNextToken token

/-- `wl_fifo_next_index`. -/
def wlFifoNextIndex (index capacity : UInt32) : UInt32 :=
  if index + 1 = capacity then 0 else index + 1

/-- `wl_fifo_counter_increment`. -/
def wlFifoCounterIncrement (counter : UInt32) : UInt32 :=
  spscCounterIncrement counter

/-- `wl_fifo_counter_max`. -/
def wlFifoCounterMax (counter value : UInt32) : UInt32 :=
  if counter < value then value else counter

/-- `wl_fifo_error`: the error is counted. -/
def wlFifoError (fifo : WlFifo) : WlFifo :=
  { fifo with
    counters := { fifo.counters with errors := wlFifoCounterIncrement fifo.counters.errors } }

/-- `wl_fifo_claim_matches`. -/
def wlFifoClaimMatches (fifo : WlFifo) (claim : Option SpscSpan) : Bool :=
  match claim with
  | none => false
  | some claim =>
    fifo.writeClaimed && claim.token != 0 && claim.token == fifo.writeToken &&
      claim.privateSlot == fifo.writeIndex && claim.value == wlFifoSlot fifo fifo.writeIndex &&
      claim.valueSize == fifo.valueSize

/-- `wl_fifo_view_matches`. -/
def wlFifoViewMatches (fifo : WlFifo) (view : Option SpscSpan) : Bool :=
  match view with
  | none => false
  | some view =>
    fifo.readBorrowed && view.token != 0 && view.token == fifo.readToken &&
      view.privateSlot == fifo.readIndex && view.value == wlFifoSlot fifo fifo.readIndex &&
      view.valueSize == fifo.valueSize

/-- `wl_fifo_requirements`. -/
def wlFifoRequirements (config : FifoConfig) : Except WlErr SpscRequirements :=
  if config.capacity = 0 ∨ config.capacity ≥ 0x80000000 then .error .invalidArg
  else spscRequirements config.values config.capacity

/-- `wl_fifo_init` at an address, with atomics that are lock free or not. -/
def wlFifoInit (fifoAddress : UInt64) (config : FifoConfig) (storage : SpscStorage)
    (lockFree : Bool) : Except WlErr WlFifo :=
  match wlFifoRequirements config with
  | .error error => .error error
  | .ok requirements =>
    match spscStorageTest config.values requirements storage fifoAddress 128 with
    | .ok =>
      if lockFree then
        .ok
          { storage := storage.data, valueSize := config.values.valueSize
            slotStride := requirements.slotStride, capacity := config.capacity
            writeCursor := 0, writeIndex := 0, writeToken := 0, writeClaimed := false
            readCursor := 0, readIndex := 0, readToken := 0, readBorrowed := false
            publishedCursor := 0, consumedCursor := 0
            counters :=
              { highWatermark := 0, publishes := 0, consumes := 0, fullRejections := 0
                emptyReads := 0, aborts := 0, errors := 0 } }
      else .error .notSupported
    | error => .error error

/-- `wl_fifo_write_claim`. -/
def wlFifoWriteClaim (fifo : WlFifo) : WlFifo × Except WlErr SpscSpan :=
  if fifo.writeClaimed then (wlFifoError fifo, .error .busy)
  else if fifo.writeCursor - fifo.consumedCursor ≥ fifo.capacity then
    ({ fifo with
        counters :=
          { fifo.counters with
            fullRejections := wlFifoCounterIncrement fifo.counters.fullRejections } },
      .error .queueFull)
  else
    let token := wlFifoNextToken fifo.writeToken
    ({ fifo with writeToken := token, writeClaimed := true },
      .ok { value := wlFifoSlot fifo fifo.writeIndex, valueSize := fifo.valueSize, token := token
            privateSlot := fifo.writeIndex })

/-- `wl_fifo_write_publish` up to the load of the consumed cursor, with the next cursor and the
depth. -/
def wlFifoPublishLoad (fifo : WlFifo) (claim : Option SpscSpan) :
    WlFifo × Except WlErr (UInt32 × UInt32) :=
  if ¬ wlFifoClaimMatches fifo claim then (wlFifoError fifo, .error .invalidState)
  else
    let nextCursor := fifo.writeCursor + 1
    (fifo, .ok (nextCursor, nextCursor - fifo.consumedCursor))

/-- `wl_fifo_write_publish` from there on. -/
def wlFifoPublishStore (fifo : WlFifo) (nextCursor depth : UInt32) : WlFifo :=
  { fifo with
    writeCursor := nextCursor
    writeIndex := wlFifoNextIndex fifo.writeIndex fifo.capacity
    writeClaimed := false
    publishedCursor := nextCursor
    counters :=
      { fifo.counters with
        highWatermark := wlFifoCounterMax fifo.counters.highWatermark depth
        publishes := wlFifoCounterIncrement fifo.counters.publishes } }

/-- `wl_fifo_write_publish` without an access of the reader in between. -/
def wlFifoWritePublish (fifo : WlFifo) (claim : Option SpscSpan) : WlFifo × WlErr :=
  match wlFifoPublishLoad fifo claim with
  | (fifo, .ok (nextCursor, depth)) => (wlFifoPublishStore fifo nextCursor depth, .ok)
  | (fifo, .error error) => (fifo, error)

/-- `wl_fifo_write_abort`. -/
def wlFifoWriteAbort (fifo : WlFifo) (claim : Option SpscSpan) : WlFifo × WlErr :=
  if ¬ wlFifoClaimMatches fifo claim then (wlFifoError fifo, .invalidState)
  else
    ({ fifo with
        writeClaimed := false
        counters := { fifo.counters with aborts := wlFifoCounterIncrement fifo.counters.aborts } },
      .ok)

/-- `wl_fifo_read_acquire`. -/
def wlFifoReadAcquire (fifo : WlFifo) : WlFifo × Except WlErr SpscSpan :=
  if fifo.readBorrowed then (wlFifoError fifo, .error .busy)
  else if fifo.readCursor = fifo.publishedCursor then
    ({ fifo with
        counters :=
          { fifo.counters with emptyReads := wlFifoCounterIncrement fifo.counters.emptyReads } },
      .error .noData)
  else
    let token := wlFifoNextToken fifo.readToken
    ({ fifo with readToken := token, readBorrowed := true },
      .ok { value := wlFifoSlot fifo fifo.readIndex, valueSize := fifo.valueSize, token := token
            privateSlot := fifo.readIndex })

/-- `wl_fifo_read_release`. -/
def wlFifoReadRelease (fifo : WlFifo) (view : Option SpscSpan) : WlFifo × WlErr :=
  if ¬ wlFifoViewMatches fifo view then (wlFifoError fifo, .invalidState)
  else
    ({ fifo with
        readCursor := fifo.readCursor + 1
        readIndex := wlFifoNextIndex fifo.readIndex fifo.capacity
        readBorrowed := false
        consumedCursor := fifo.readCursor + 1
        counters := { fifo.counters with consumes := wlFifoCounterIncrement fifo.counters.consumes } },
      .ok)

/-- Where the writer stands between two of its accesses. -/
inductive FifoWriter where
  /-- Between calls. -/
  | idle
  /-- `wl_fifo_write_publish` has loaded the consumed cursor. -/
  | publishing (nextCursor depth : UInt32)
deriving Repr, DecidableEq

/-- One access of the writer or of the reader, or a store of the writer into the slot it has
claimed. -/
inductive FifoOp where
  | claim
  | store (offset : Nat) (data : Bytes)
  | publish (claim : Option SpscSpan)
  | publishStore
  | abort (claim : Option SpscSpan)
  | acquire
  | release (view : Option SpscSpan)
deriving Repr, DecidableEq

/-- The queue with its writer. -/
structure SharedFifo where
  fifo : WlFifo
  writer : FifoWriter
deriving Repr, DecidableEq

/-- The writer stores into the value it has claimed. -/
def WlFifo.store (fifo : WlFifo) (offset : Nat) (data : Bytes) : WlFifo :=
  if fifo.writeClaimed ∧ offset + data.length ≤ fifo.valueSize.toNat then
    { fifo with
      storage := fifo.storage.writeAt (wlFifoSlot fifo fifo.writeIndex + offset) data }
  else fifo

/-- The queue after one access. A writer in the middle of a call can only go on with it. -/
def SharedFifo.step (shared : SharedFifo) : FifoOp → SharedFifo
  | .claim =>
    if shared.writer = .idle then { shared with fifo := (wlFifoWriteClaim shared.fifo).1 }
    else shared
  | .store offset data =>
    if shared.writer = .idle then { shared with fifo := shared.fifo.store offset data }
    else shared
  | .publish claim =>
    if shared.writer = .idle then
      match wlFifoPublishLoad shared.fifo claim with
      | (fifo, .ok (nextCursor, depth)) =>
        { fifo := fifo, writer := .publishing nextCursor depth }
      | (fifo, .error _) => { shared with fifo := fifo }
    else shared
  | .publishStore =>
    match shared.writer with
    | .idle => shared
    | .publishing nextCursor depth =>
      { fifo := wlFifoPublishStore shared.fifo nextCursor depth, writer := .idle }
  | .abort claim =>
    if shared.writer = .idle then { shared with fifo := (wlFifoWriteAbort shared.fifo claim).1 }
    else shared
  | .acquire => { shared with fifo := (wlFifoReadAcquire shared.fifo).1 }
  | .release view => { shared with fifo := (wlFifoReadRelease shared.fifo view).1 }

end Wirelink
