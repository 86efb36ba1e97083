/-
Module: Wirelink.Spec.RingAccess
Purpose: What the two sides of the receive ring may rely on at every access: the readable bytes are
  the committed and unconsumed ones in order, and so is what the consumer's last snapshot showed.
Trusted boundary: none
-/
import Wirelink.Core.RxRingAccess
import Wirelink.Lib.Window

namespace Wirelink

/-- The readable bytes of a ring, oldest first. -/
def RxRing.content (ring : RxRing) : Bytes :=
  window ring.memory ring.capacity ring.readCursor ring.readable

/-- The consumer can read exactly the committed and unconsumed bytes, its last snapshot shows a
beginning of them, and between calls the cursors are at most the capacity apart. -/
structure RingSafe (shared : SharedRing) : Prop where
  content : shared.ring.content = shared.pending
  view : ∀ view, shared.view = some view →
    window shared.ring.memory shared.ring.capacity view.read view.count <+: shared.pending
  distance : shared.producer = .idle → shared.consumer = .idle →
    cursorDistance (shared.ring.capacity * 2) shared.ring.readCursor shared.ring.writeCursor ≤
      shared.ring.capacity

/-- A consumer store put back a read cursor that the normalization of a DMA claim had replaced, and
the claim has stored its write cursor. -/
def ReadCursorUndone (shared : SharedRing) : Prop :=
  shared.overwrote = true ∧ ∀ maximumLength reset, shared.producer ≠ .readStored maximumLength reset

end Wirelink
