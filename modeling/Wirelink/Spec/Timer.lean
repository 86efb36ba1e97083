/-
Module: Wirelink.Spec.Timer
Purpose: The ACK timer as an observer with a clock sees it. The observations of a run carry the time of
  the pass that made them; from them alone follows where the latest attempt to send the reliable unit
  stands, and when the timer may expire.
Trusted boundary: the statement of the timer promise
-/
import Wirelink.Core.Pump
import Wirelink.Lib.Trace

namespace Wirelink

/-- The latest attempt to put the reliable unit on the line. -/
inductive Attempt where
  /-- There is none, or it failed. -/
  | none
  /-- The sink was busy. -/
  | queued
  /-- The sink started to transmit the unit. -/
  | inFlight (token : UInt32)
  /-- The unit was consumed and its drain has not been reported. -/
  | draining (token : UInt32)
  /-- The attempt ended in the pass at `time`. -/
  | ended (time : Nat)
deriving Repr, Inhabited, DecidableEq

/-- The attempt and whether drains are reported. -/
structure AttemptView where
  attempt : Attempt
  drainRequired : Bool
deriving Repr, Inhabited, DecidableEq

namespace AttemptView

/-- Nothing was submitted and drains are not reported. -/
def start : AttemptView :=
  { attempt := .none, drainRequired := false }

/-- How the sink's answer to a reliable unit begins or ends the attempt. -/
def answered (time : Nat) (token : UInt32) : WlSinkResult → Attempt
  | .sent => .ended time
  | .started => .inFlight token
  | .busy => .queued
  | .failed => .none

/-- One observation at `time`. An accepted report concerns the attempt only if it carries its
token. -/
def next (view : AttemptView) (time : Nat) : Obs → AttemptView
  | .opened _ _ => { view with attempt := .none }
  | .sinkCall token .reliable _ answer => { view with attempt := answered time token answer }
  | .consumed token ok =>
    if view.attempt = .inFlight token then
      { view with
        attempt :=
          if ok then if view.drainRequired then .draining token else .ended time else .none }
    else view
  | .drained token ok =>
    if view.attempt = .draining token then
      { view with attempt := if ok then .ended time else .none }
    else view
  | .drainRequired required => { view with drainRequired := required }
  | _ => view

end AttemptView

/-- An observation with the time of the pass it belongs to. -/
abbrev TimedObs :=
  Nat × Obs

/-- The attempt after a log whose newest entry comes first. -/
def attemptOf : List TimedObs → AttemptView
  | [] => AttemptView.start
  | entry :: past => (attemptOf past).next entry.1 entry.2

/-- The timer of the transaction expired: a retry was submitted or the transaction timed out. -/
def Obs.expiry : Obs → Bool
  | .timeoutRetry _ _ => true
  | .posted .txTimeout _ => true
  | _ => false

/-- If the timer has just expired, the latest attempt has ended and the timeout has passed since. -/
def TimelyAt (ackTimeoutMs : UInt32) : List TimedObs → Prop
  | [] => True
  | entry :: past =>
    entry.2.expiry = true →
      ∃ ended, (attemptOf past).attempt = .ended ended ∧ ended + ackTimeoutMs.toNat ≤ entry.1

/-- The timer expires in time at every moment of a log. -/
def Timely (ackTimeoutMs : UInt32) (log : List TimedObs) : Prop :=
  Trace.Always (TimelyAt ackTimeoutMs) log

/-- What a context observed since an earlier moment, with the time of that stretch. -/
def stamped (time : Nat) (before after : WlCtx) : List TimedObs :=
  (after.trace.take (after.trace.length - before.trace.length)).map (fun obs => (time, obs))

/-- An operation brings the time of the pass along, or none. -/
def Op.inPass (op : Op) (nowMs : UInt32) : Prop :=
  op.time = none ∨ op.time = some nowMs

/-- The calls made in a pass use the time of the pass, and a producer uses none. -/
structure PassTimed (nowMs : UInt32) (hooks : WlPumpHooks) (preempt : PumpSite → Nat → List Op) :
    Prop where
  service : ∀ service ∈ hooks.service, ∀ ctx, ∀ op ∈ (service ctx).1, op.inPass nowMs
  onEvent : ∀ onEvent ∈ hooks.onEvent, ∀ ctx event, ∀ op ∈ (onEvent ctx event).1, op.inPass nowMs
  applicationStep : ∀ applicationStep ∈ hooks.applicationStep, ∀ ctx,
    ∀ op ∈ (applicationStep ctx).1, op.inPass nowMs
  preempt : ∀ site left, ∀ op ∈ preempt site left, op.time = none

/-- The runs a pump drives, with the time of the latest pass and the log. The clock is a natural
number that does not go back; the context sees its lower 32 bits. Between two passes come calls that
bring no time along; what they observe belongs to the pass before them. -/
inductive PumpRun : Nat → List TimedObs → WlCtx → Prop where
  | init {config : WlConfig} {storage : WlStorage} {answers : List WlSinkResult} {start : WlCtx}
      (accepted : wlInit config storage answers = .ok start) : PumpRun 0 [] start
  | pass {time : Nat} {log : List TimedObs} {ctx : WlCtx} (reached : PumpRun time log ctx)
      (now eventBudget : Nat) (hooks : WlPumpHooks) (preempt : PumpSite → Nat → List Op)
      (later : time ≤ now) (timed : PassTimed (UInt32.ofNat now) hooks preempt)
      (accepted :
        (wlPumpStep ctx (UInt32.ofNat now) eventBudget hooks preempt).2.isOk = true) :
      PumpRun now
        (stamped now ctx (wlPumpStep ctx (UInt32.ofNat now) eventBudget hooks preempt).1 ++ log)
        (wlPumpStep ctx (UInt32.ofNat now) eventBudget hooks preempt).1
  | between {time : Nat} {log : List TimedObs} {ctx : WlCtx} (reached : PumpRun time log ctx)
      (op : Op) (untimed : op.time = none) :
      PumpRun time (stamped time ctx (step ctx op) ++ log) (step ctx op)

end Wirelink
