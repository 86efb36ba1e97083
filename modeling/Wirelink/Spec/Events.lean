/-
Module: Wirelink.Spec.Events
Purpose: The TX events of a run, as they can be read off the observations: what was put into the
  event slot, what the application got, and what the transaction opened last was reported with.
Trusted boundary: none
-/
import Wirelink.Spec.Line
import Wirelink.Spec.Transaction

namespace Wirelink

/-- The TX events that were put into the event slot, newest first. -/
def postedEvents : List Obs → List (WlEventType × UInt32)
  | [] => []
  | .posted type handle :: past => (type, handle) :: postedEvents past
  | _ :: past => postedEvents past

/-- The TX events that `wl_poll` returned, newest first. -/
def polledEvents : List Obs → List (WlEventType × UInt32)
  | [] => []
  | .polled type handle :: past =>
    if type.isRx then polledEvents past else (type, handle) :: polledEvents past
  | _ :: past => polledEvents past

/-- The TX event that waits in the slot. -/
def slotEvents (slot : EventSlot) : List (WlEventType × UInt32) :=
  if slot.hasEvent && !slot.event.type.isRx then [(slot.event.type, slot.event.handle)] else []

/-- The events of the transaction opened last. Handle zero is an unreliable completion. -/
def terminalEvents : List Obs → List (WlEventType × UInt32)
  | [] => []
  | .opened _ _ :: _ => []
  | .posted type handle :: past =>
    if handle = 0 then terminalEvents past else (type, handle) :: terminalEvents past
  | _ :: past => terminalEvents past

/-- The transaction opened last was cancelled. -/
def cancelledSince : List Obs → Bool
  | [] => false
  | .opened _ _ :: _ => false
  | .cancelled _ :: _ => true
  | _ :: past => cancelledSince past

/-- The sink keeps a unit of a reliable transaction. -/
def reliableLeased (trace : List Obs) : Bool :=
  (lineOf trace).lease.any (fun held => held.2 == .reliable)

/-- At most one event for the transaction opened last, under its handle; none if it was cancelled;
and none while the sink keeps its unit. -/
structure AccountedAt (trace : List Obs) : Prop where
  one : (terminalEvents trace).length ≤ 1
  own : ∀ event ∈ terminalEvents trace, (openedLast trace).map Prod.fst = some event.2
  uncancelled : cancelledSince trace = true → terminalEvents trace = []
  returned : terminalEvents trace ≠ [] → reliableLeased trace = false

/-- Terminal events are accounted for at every moment. -/
def Accounted (trace : List Obs) : Prop :=
  Trace.Always AccountedAt trace

/-- The unreliable submissions that ended locally with success: answered `SENT`, or answered
`STARTED` and then consumed with `WL_OK`. -/
def unreliableSuccesses : List Obs → Nat
  | [] => 0
  | .sinkCall _ .unreliable _ .sent :: past => unreliableSuccesses past + 1
  | .consumed token true :: past =>
    if (lineOf past).lease = some (token, .unreliable) then unreliableSuccesses past + 1
    else unreliableSuccesses past
  | _ :: past => unreliableSuccesses past

/-- The event of an unreliable completion. -/
def completionEvent : WlEventType × UInt32 :=
  (.txSuccess, 0)

/-- How often the sink was called. -/
def sinkCalls : List Obs → Nat
  | [] => 0
  | .sinkCall _ _ _ _ :: past => sinkCalls past + 1
  | _ :: past => sinkCalls past

end Wirelink
