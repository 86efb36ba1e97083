/-
Module: Wirelink.Spec.Schedule
Purpose: What the scheduling hint promises about wl_poll: a call that finds nothing to do, and the
  one situation in which the hint and the poll disagree.
Trusted boundary: none
-/
import Wirelink.Core.Transport

namespace Wirelink

/-- The ring without its delimiter-search cache. -/
def RxRing.uncached (ring : RxRing) : RxRing :=
  { ring with
    findRead := 0, findScanned := 0, findOffset := 0, findValid := false, findFound := false }

/-- Everything of a context but the clock, the tag of the receive candidate and the
delimiter-search cache. -/
def WlCtx.settledPart (ctx : WlCtx) : WlCtx :=
  { ctx with
    nowMs := 0
    rx := { ctx.rx with rxCandidateSource := .none, rxRing := ctx.rx.rxRing.uncached } }

/-- A poll that finds nothing to do. The trace is part of what stays, so the sink is not called. -/
def PollQuiet (ctx : WlCtx) (nowMs : UInt32) : Prop :=
  (wlPoll ctx nowMs).2 = .error .noData ∧ (wlPoll ctx nowMs).1.settledPart = ctx.settledPart

instance (ctx : WlCtx) (nowMs : UInt32) : Decidable (PollQuiet ctx nowMs) :=
  inferInstanceAs (Decidable (_ ∧ _))

/-- An ACK could be submitted on a free line, but a payload claim is open. -/
def ackHeldByClaim (ctx : WlCtx) : Bool :=
  ctx.port.controlPending && ctx.claim.txClaimActive && ctx.port.txWritable &&
    !ctx.port.controlInflight && !ctx.port.txInflight && !ctx.port.txDrainPending

end Wirelink
