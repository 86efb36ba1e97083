/-
Module: Wirelink.Spec.Latest
Purpose: The latest-value mailbox beside the values published through it. The session records every
  published value, and every view handed out with the number of values published by then.
Trusted boundary: the choice of what is recorded; all behaviour is in the modules below
-/
import Mathlib.Algebra.Group.Nat.Defs
import Wirelink.Core.Latest

namespace Wirelink

/-- One access of the writer or of the reader, or a store of the writer into the slot it has
claimed. -/
inductive LatestOp where
  | claim
  | store (offset : Nat) (data : Bytes)
  | publish (claim : Option SpscSpan)
  | abort (claim : Option SpscSpan)
  | acquireLoad
  | acquireExchange
  | release (view : Option LatestView)
  | reset
deriving Repr, DecidableEq

/-- The value in a slot. -/
def latestValue (mailbox : WlLatest) (index : UInt32) : Bytes :=
  mailbox.storage.readAt (wlLatestSlot mailbox index) mailbox.valueSize.toNat

/-- The slot in the middle. -/
def WlLatest.middleSlot (mailbox : WlLatest) : UInt32 :=
  mailbox.middle &&& wlLatestIndexMask

/-- The middle holds a value that has not been read. -/
def WlLatest.pending (mailbox : WlLatest) : Bool :=
  mailbox.middle &&& wlLatestDirty != 0

/-- The mailbox, whether the reader is between its load and its exchange, and what has gone through. -/
structure LatestSession where
  mailbox : WlLatest
  acquiring : Bool
  published : List Bytes
  delivered : List (Nat × LatestView)

namespace LatestSession

/-- A session that begins. -/
def start (mailbox : WlLatest) : LatestSession :=
  { mailbox := mailbox, acquiring := false, published := [], delivered := [] }

/-- The session after one access. A reader in the middle of a call can only go on with it, and a reset
is not called beside it. -/
def step (session : LatestSession) : LatestOp → LatestSession
  | .claim => { session with mailbox := (wlLatestWriteClaim session.mailbox).1 }
  | .store offset data => { session with mailbox := session.mailbox.store offset data }
  | .publish claim =>
    match wlLatestWritePublish session.mailbox claim with
    | (mailbox, .ok) =>
      { session with
        mailbox := mailbox
        published :=
          session.published ++ [latestValue session.mailbox session.mailbox.writerBack] }
    | (mailbox, _) => { session with mailbox := mailbox }
  | .abort claim => { session with mailbox := (wlLatestWriteAbort session.mailbox claim).1 }
  | .acquireLoad =>
    if session.acquiring then session
    else
      { session with
        mailbox := (wlLatestAcquireLoad session.mailbox).1
        acquiring := (wlLatestAcquireLoad session.mailbox).2 == .ok }
  | .acquireExchange =>
    if session.acquiring then
      { session with
        mailbox := (wlLatestAcquireExchange session.mailbox).1
        acquiring := false
        delivered := session.delivered ++
          [(session.published.length, (wlLatestAcquireExchange session.mailbox).2)] }
    else session
  | .release view =>
    if session.acquiring then session
    else { session with mailbox := (wlLatestReadRelease session.mailbox view).1 }
  | .reset =>
    if session.acquiring then session
    else { session with mailbox := (wlLatestReset session.mailbox).1 }

end LatestSession

/-- The session after a sequence of accesses. -/
def runLatest (session : LatestSession) (ops : List LatestOp) : LatestSession :=
  ops.foldl LatestSession.step session

/-- What the mailbox promises: three slots with one owner each, of which a store of the writer reaches
its own; a borrowed value is the last one published when it was taken; every delivery has more values
before it than the one before, and the generation of its value; and no value goes uncounted. -/
structure LatestCorrect (initialGeneration : UInt32) (session : LatestSession) : Prop where
  slots : List.Perm
    [session.mailbox.readerFront, session.mailbox.middleSlot, session.mailbox.writerBack] [0, 1, 2]
  exclusive : ∀ offset data index, index ≠ session.mailbox.writerBack →
    latestValue (session.mailbox.store offset data) index = latestValue session.mailbox index
  borrowed : session.mailbox.readBorrowed = true → ∃ count view,
    session.delivered.getLast? = some (count, view) ∧
      (session.published.take count).getLast? =
        some (session.mailbox.storage.readAt view.value view.valueSize.toNat)
  increasing : (session.delivered.map Prod.fst).Pairwise (· < ·)
  generations : ∀ count view, (count, view) ∈ session.delivered →
    view.generation = initialGeneration + UInt32.ofNat count
  counted : session.mailbox.counters.resets = 0 → session.published.length < 2 ^ 32 →
    session.mailbox.counters.publishes.toNat = session.published.length ∧
      session.mailbox.counters.publishes.toNat = session.mailbox.counters.reads.toNat +
        session.mailbox.counters.coalesced.toNat + session.mailbox.pending.toNat

end Wirelink
