/-
Module: Wirelink.Spec.Line
Purpose: The physical transmit line as an adapter sees it, computed from the observations alone:
  which unit it still holds, which unit it still has to drain, and whether drains are reported.
Trusted boundary: none
-/
import Wirelink.Core.Context
import Wirelink.Lib.Trace

namespace Wirelink

/-- What the adapter still owes the context. -/
structure LineState where
  lease : Option (UInt32 × UnitKind)
  drain : Option UInt32
  required : Bool
deriving Repr, Inhabited, DecidableEq

namespace LineState

/-- Nothing was submitted and drains are not reported. -/
def start : LineState :=
  { lease := none, drain := none, required := false }

/-- One observation at the line. -/
def next (line : LineState) : Obs → LineState
  | .sinkCall token kind _ .started => { line with lease := some (token, kind) }
  | .consumed token ok =>
    { line with
      lease := none
      drain := if ok && line.required then some token else line.drain }
  | .drained _ _ => { line with drain := none }
  | .drainRequired required => { line with required := required }
  | _ => line

/-- Neither a lease nor a drain is outstanding. -/
def Idle (line : LineState) : Prop :=
  line.lease = none ∧ line.drain = none

/-- At most one obligation is outstanding. -/
def Exclusive (line : LineState) : Prop :=
  line.lease = none ∨ line.drain = none

instance (line : LineState) : Decidable line.Idle :=
  inferInstanceAs (Decidable (_ ∧ _))

instance (line : LineState) : Decidable line.Exclusive :=
  inferInstanceAs (Decidable (_ ∨ _))

end LineState

/-- The line after a trace. -/
def lineOf : List Obs → LineState
  | [] => LineState.start
  | obs :: past => (lineOf past).next obs

/-- If a unit has just been handed to the sink, the line was idle before. -/
def calledWhenIdle : List Obs → Bool
  | .sinkCall _ _ _ _ :: past => decide (lineOf past).Idle
  | _ => true

/-- The sink is called on an idle line only, and at most one obligation is outstanding. -/
def SerializedAt (trace : List Obs) : Prop :=
  calledWhenIdle trace = true ∧ (lineOf trace).Exclusive

instance (trace : List Obs) : Decidable (SerializedAt trace) :=
  inferInstanceAs (Decidable (_ ∧ _))

/-- Physical serialization at every moment of a trace. -/
def Serialized (trace : List Obs) : Prop :=
  Trace.Always SerializedAt trace

instance (trace : List Obs) : Decidable (Serialized trace) :=
  inferInstanceAs (Decidable (Trace.Always SerializedAt trace))

/-- The ACK-timeout branch submitted a retry while a drain was still owed. -/
def RetriedUnderDrain (trace : List Obs) : Prop :=
  .timeoutRetry true true ∈ trace

instance (trace : List Obs) : Decidable (RetriedUnderDrain trace) :=
  inferInstanceAs (Decidable (_ ∈ _))

/-- The unit the sink keeps after `STARTED`, until its token is consumed. -/
def leasedBytes : List Obs → Option (UInt32 × UnitKind × Bytes)
  | [] => none
  | .sinkCall token kind bytes .started :: _ => some (token, kind, bytes)
  | .consumed token _ :: past => (leasedBytes past).filter (fun held => held.1 != token)
  | _ :: past => leasedBytes past

/-- The DATA unit the sink refused with `BUSY`, until it is submitted again. A reliable one is
dropped by its ACK or its cancel. -/
def queuedBytes : List Obs → Option (UnitKind × Bytes)
  | [] => none
  | .sinkCall _ .reliable bytes .busy :: _ => some (.reliable, bytes)
  | .sinkCall _ .unreliable bytes .busy :: _ => some (.unreliable, bytes)
  | .resubmitted _ :: _ => none
  | .acked _ :: past => (queuedBytes past).filter (fun held => held.1 != .reliable)
  | .cancelled _ :: past => (queuedBytes past).filter (fun held => held.1 != .reliable)
  | _ :: past => queuedBytes past

/-- The sink keeps an unreliable unit, or refused one that still waits. -/
def unreliableHeld (trace : List Obs) : Bool :=
  (leasedBytes trace).any (fun lent => lent.2.1 == .unreliable) ||
    (queuedBytes trace).any (fun refused => refused.1 == .unreliable)

/-- The memory a unit is handed out from. -/
def unitMemory (mem : TxMemory) : UnitKind → Bytes
  | .control => mem.controlUnit
  | _ => mem.txUnit

end Wirelink
