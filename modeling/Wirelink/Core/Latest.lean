/-
Module: Wirelink.Core.Latest
Purpose: The mailbox that keeps the latest value for one reader, at the granularity of its accesses of
  the middle slot. A call of the writer makes one such access or none, with private work around it; an
  acquisition loads the middle and later exchanges it, and is cut between the two. A counter is changed
  by one side only and is counted with the access it belongs to.
Trusted boundary: the translation of src/latest.c
-/
import Mathlib.Logic.Function.Basic
import Wirelink.Core.SpscSlots

namespace Wirelink

/-- `wl_latest_config_t`. -/
structure LatestConfig where
  values : SpscConfig
  initialGeneration : UInt32
deriving Repr, DecidableEq

/-- The counters of `wl_latest_impl_t`. -/
structure LatestCounters where
  publishes : UInt32
  reads : UInt32
  coalesced : UInt32
  emptyReads : UInt32
  resets : UInt32
  errors : UInt32
deriving Repr, DecidableEq

/-- `wl_latest_impl_t` with its storage. -/
structure WlLatest where
  storage : Bytes
  valueSize : UInt64
  slotStride : UInt64
  writerBack : UInt32
  writeToken : UInt32
  writeClaimed : Bool
  readerFront : UInt32
  readToken : UInt32
  readBorrowed : Bool
  slotGeneration : UInt32 → UInt32
  middle : UInt32
  generation : UInt32
  counters : LatestCounters

/-- `wl_latest_view_t`. -/
structure LatestView extends SpscSpan where
  generation : UInt32
deriving Repr, DecidableEq

/-- `WL_LATEST_DIRTY`. -/
def wlLatestDirty : UInt32 := 0x80000000

/-- `WL_LATEST_INDEX_MASK`. -/
def wlLatestIndexMask : UInt32 := 3

/-- `wl_latest_slot`, as an offset of the storage. -/
def wlLatestSlot (mailbox : WlLatest) (index : UInt32) : Nat :=
  index.toNat * mailbox.slotStride.toNat

/-- `wl_latest_error`: the error is counted. -/
def wlLatestError (mailbox : WlLatest) : WlLatest :=
  { mailbox with
    counters := { mailbox.counters with errors := spscCounterIncrement mailbox.counters.errors } }

/-- `wl_latest_claim_matches`. -/
def wlLatestClaimMatches (mailbox : WlLatest) (claim : Option SpscSpan) : Bool :=
  match claim with
  | none => false
  | some claim =>
    mailbox.writeClaimed && claim.token != 0 && claim.token == mailbox.writeToken &&
      claim.privateSlot == mailbox.writerBack &&
      claim.value == wlLatestSlot mailbox mailbox.writerBack && claim.valueSize == mailbox.valueSize

/-- `wl_latest_view_matches`. -/
def wlLatestViewMatches (mailbox : WlLatest) (view : Option LatestView) : Bool :=
  match view with
  | none => false
  | some view =>
    mailbox.readBorrowed && view.token != 0 && view.token == mailbox.readToken &&
      view.privateSlot == mailbox.readerFront &&
      view.value == wlLatestSlot mailbox mailbox.readerFront &&
      view.valueSize == mailbox.valueSize &&
      view.generation == mailbox.slotGeneration mailbox.readerFront

/-- `wl_latest_init` at an address, with atomics that are lock free or not. -/
def wlLatestInit (mailboxAddress : UInt64) (config : LatestConfig) (storage : SpscStorage)
    (lockFree : Bool) : Except WlErr WlLatest :=
  match spscRequirements config.values 3 with
  | .error error => .error error
  | .ok requirements =>
    match spscStorageTest config.values requirements storage mailboxAddress 128 with
    | .ok =>
      if lockFree then
        .ok
          { storage := storage.data, valueSize := config.values.valueSize
            slotStride := requirements.slotStride, writerBack := 2, writeToken := 0
            writeClaimed := false, readerFront := 0, readToken := 0, readBorrowed := false
            slotGeneration := fun _ => 0, middle := 1, generation := config.initialGeneration
            counters :=
              { publishes := 0, reads := 0, coalesced := 0, emptyReads := 0, resets := 0
                errors := 0 } }
      else .error .notSupported
    | error => .error error

/-- `wl_latest_write_claim`. -/
def wlLatestWriteClaim (mailbox : WlLatest) : WlLatest × Except WlErr SpscSpan :=
  if mailbox.writeClaimed then (wlLatestError mailbox, .error .busy)
  else
    let token := spscNextToken mailbox.writeToken
    ({ mailbox with writeToken := token, writeClaimed := true },
      .ok { value := wlLatestSlot mailbox mailbox.writerBack, valueSize := mailbox.valueSize
            token := token, privateSlot := mailbox.writerBack })

/-- The writer stores into the value it has claimed. -/
def WlLatest.store (mailbox : WlLatest) (offset : Nat) (data : Bytes) : WlLatest :=
  if mailbox.writeClaimed ∧ offset + data.length ≤ mailbox.valueSize.toNat then
    { mailbox with
      storage := mailbox.storage.writeAt (wlLatestSlot mailbox mailbox.writerBack + offset) data }
  else mailbox

/-- `wl_latest_write_publish`. -/
def wlLatestWritePublish (mailbox : WlLatest) (claim : Option SpscSpan) : WlLatest × WlErr :=
  if ¬ wlLatestClaimMatches mailbox claim then (wlLatestError mailbox, .invalidState)
  else
    let generation := mailbox.generation + 1
    let oldMiddle := mailbox.middle
    ({ mailbox with
        generation := generation
        slotGeneration := Function.update mailbox.slotGeneration mailbox.writerBack generation
        middle := mailbox.writerBack ||| wlLatestDirty
        writerBack := oldMiddle &&& wlLatestIndexMask
        writeClaimed := false
        counters :=
          { mailbox.counters with
            publishes := spscCounterIncrement mailbox.counters.publishes
            coalesced :=
              if oldMiddle &&& wlLatestDirty ≠ 0 then spscCounterIncrement mailbox.counters.coalesced
              else mailbox.counters.coalesced } },
      .ok)

/-- `wl_latest_write_abort`. -/
def wlLatestWriteAbort (mailbox : WlLatest) (claim : Option SpscSpan) : WlLatest × WlErr :=
  if ¬ wlLatestClaimMatches mailbox claim then (wlLatestError mailbox, .invalidState)
  else ({ mailbox with writeClaimed := false }, .ok)

/-- `wl_latest_read_acquire` up to its load of the middle. -/
def wlLatestAcquireLoad (mailbox : WlLatest) : WlLatest × WlErr :=
  if mailbox.readBorrowed then (wlLatestError mailbox, .busy)
  else if mailbox.middle &&& wlLatestDirty = 0 then
    ({ mailbox with
        counters :=
          { mailbox.counters with emptyReads := spscCounterIncrement mailbox.counters.emptyReads } },
      .noData)
  else (mailbox, .ok)

/-- `wl_latest_read_acquire` from its exchange of the middle on. -/
def wlLatestAcquireExchange (mailbox : WlLatest) : WlLatest × LatestView :=
  let front := mailbox.middle &&& wlLatestIndexMask
  let token := spscNextToken mailbox.readToken
  ({ mailbox with
      middle := mailbox.readerFront, readerFront := front, readToken := token, readBorrowed := true
      counters := { mailbox.counters with reads := spscCounterIncrement mailbox.counters.reads } },
    { value := wlLatestSlot mailbox front, valueSize := mailbox.valueSize, token := token
      privateSlot := front, generation := mailbox.slotGeneration front })

/-- `wl_latest_read_release`. -/
def wlLatestReadRelease (mailbox : WlLatest) (view : Option LatestView) : WlLatest × WlErr :=
  if ¬ wlLatestViewMatches mailbox view then (wlLatestError mailbox, .invalidState)
  else ({ mailbox with readBorrowed := false }, .ok)

/-- `wl_latest_reset`. -/
def wlLatestReset (mailbox : WlLatest) : WlLatest × WlErr :=
  if mailbox.writeClaimed ∨ mailbox.readBorrowed then (wlLatestError mailbox, .busy)
  else
    ({ mailbox with
        readerFront := 0, writerBack := 2, middle := 1
        counters := { mailbox.counters with resets := spscCounterIncrement mailbox.counters.resets } },
      .ok)

end Wirelink
