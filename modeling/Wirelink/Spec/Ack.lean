/-
Module: Wirelink.Spec.Ack
Purpose: What the receiving side of a link owes its peer, read off the observations: which units
  call for an ACK, whether it was placed at once, which ACK waits in the control slot, and which
  units were published.
Trusted boundary: none
-/
import Wirelink.Core.Context
import Wirelink.Lib.Trace
import Wirelink.Spec.Wire

namespace Wirelink

/-- The ACK a fresh or repeated reliable DATA unit calls for, if there is a sink to send it with. -/
def Obs.owesAck : Obs → Option (UInt64 × UInt32)
  | .accepted sessionId sequence _ _ _ true => some (sessionId, sequence)
  | .repeated sessionId sequence _ true => some (sessionId, sequence)
  | _ => none

/-- The control slot was free when the unit was routed. -/
def Obs.controlFree : Obs → Bool
  | .accepted _ _ _ _ free _ => free
  | .repeated _ _ free _ => free
  | _ => true

/-- The ACK that is called for and not yet placed. -/
def owedAck : List Obs → Option (UInt64 × UInt32)
  | [] => none
  | obs :: _ => obs.owesAck

/-- An ACK that is called for is placed next, with exactly the session and the sequence of the
unit. -/
def ackPaid (config : WlConfig) : List Obs → Bool
  | [] => true
  | obs :: past =>
    match owedAck past with
    | none => true
    | some (sessionId, sequence) =>
      obs == .ackPlaced sessionId sequence (linkUnit config (.ack sessionId sequence))

/-- Every ACK that is called for is placed in the control slot in the same step. -/
def AcksPlaced (config : WlConfig) (trace : List Obs) : Prop :=
  owedAck trace = none ∧ Trace.Always (fun moment => ackPaid config moment = true) trace

instance (config : WlConfig) (trace : List Obs) : Decidable (AcksPlaced config trace) :=
  inferInstanceAs (Decidable (_ ∧ _))

/-- No ACK was called for while an earlier one was still in the control slot. -/
def ControlFree (trace : List Obs) : Prop :=
  ∀ obs ∈ trace, obs.owesAck ≠ none → obs.controlFree = true

instance (trace : List Obs) : Decidable (ControlFree trace) :=
  inferInstanceAs (Decidable (∀ obs ∈ trace, obs.owesAck ≠ none → obs.controlFree = true))

/-- The ACK in the control slot that the sink has neither taken nor rejected. -/
def pendingAck : List Obs → Option (UInt64 × UInt32)
  | [] => none
  | .ackPlaced sessionId sequence _ :: _ => some (sessionId, sequence)
  | .sinkCall _ .control _ answer :: past => if answer = .busy then pendingAck past else none
  | _ :: past => pendingAck past

/-- A control unit that is handed to the sink is the pending ACK. -/
def controlFaithful (config : WlConfig) : List Obs → Bool
  | .sinkCall _ .control bytes _ :: past =>
    (pendingAck past).map (fun ack => linkUnit config (.ack ack.1 ack.2)) == some bytes
  | _ => true

/-- The reliable units that were published, newest first. -/
def publishedUnits : List Obs → List (UInt64 × UInt32)
  | [] => []
  | .accepted sessionId sequence _ _ _ _ :: past => (sessionId, sequence) :: publishedUnits past
  | _ :: past => publishedUnits past

end Wirelink
