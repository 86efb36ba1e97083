/-
Module: Wirelink.Core.Pump
Purpose: The bounded owner pass wl_pump_step: the adapter is serviced, the link is polled while it is
  runnable and its events are handed to the application, and the application gets its step. The
  callbacks of the owner are functions that say which calls on the context they make.
Trusted boundary: the translation of src/pump.c and include/wirelink/pump.h
-/
import Wirelink.Core.Run

namespace Wirelink

/-- What the application did with an event (`wl_pump_event_disposition_t`). -/
inductive WlPumpEventDisposition where
  | unhandled
  | consumed
  | leased
deriving Repr, Inhabited, DecidableEq

/-- `wl_pump_hooks_t` as the pump reads it; `NULL` hooks are hooks that are all absent. A callback
answers with the calls it makes on the context and with its return value. Its user data is in the
function: two calls of one pass never see the same context, since the trace grows between them. -/
structure WlPumpHooks where
  service : Option (WlCtx → List Op × WlErr)
  adapterReadiness : Option (WlCtx → WlReadiness)
  applicationStep : Option (WlCtx → List Op × UInt8)
  applicationReadiness : Option (WlCtx → WlReadiness)
  onEvent : Option (WlCtx → WlEvent → List Op × WlPumpEventDisposition)

/-- `wl_pump_result_t`. -/
structure WlPumpResult where
  events : Nat
  rxEvents : Nat
  polls : Nat
  services : Nat
  pollErrors : UInt32
  serviceErrors : UInt32
  serviceResult : WlErr
  pollResult : WlErr
  didWork : Bool
deriving Repr, Inhabited, DecidableEq

/-- The places of a pass between two calls on the context. A producer can interrupt the owner there. -/
inductive PumpSite where
  | readiness
  | poll
  | settle
deriving Repr, Inhabited, DecidableEq

/-- `service_result_expected`. -/
def serviceResultExpected (result : WlErr) : Bool :=
  result == .ok || result == .noData || result == .wouldBlock

/-- `is_terminal_tx_event`. -/
def isTerminalTxEvent (event : WlEvent) : Bool :=
  event.type == .txSuccess || event.type == .txTimeout || event.type == .txFailed

/-- The result after the `memset` and the two assignments behind it. -/
def WlPumpResult.start : WlPumpResult :=
  { events := 0, rxEvents := 0, polls := 0, services := 0, pollErrors := 0, serviceErrors := 0,
    serviceResult := .noData, pollResult := .noData, didWork := false }

/-- The argument test of `wl_pump_step`: a callback that does work needs its readiness. -/
def pumpArguments (eventBudget : Nat) (hooks : WlPumpHooks) : Bool :=
  eventBudget != 0 && !(hooks.service.isSome && hooks.adapterReadiness.isNone) &&
    !(hooks.applicationStep.isSome && hooks.applicationReadiness.isNone)

/-- A readiness callback that is there and reports work. -/
def reportsRunnable (readiness : Option (WlCtx → WlReadiness)) (ctx : WlCtx) : Bool :=
  readiness.any (fun report => (report ctx).runnable)

/-- The adapter is serviced when it has work. -/
def pumpService (hooks : WlPumpHooks) (ctx : WlCtx) (result : WlPumpResult) : WlCtx × WlPumpResult :=
  match hooks.service with
  | none => (ctx, result)
  | some service =>
    if reportsRunnable hooks.adapterReadiness ctx then
      let (calls, answer) := service ctx
      (run ctx calls,
        { result with
          services := result.services + 1
          serviceResult := answer
          didWork := result.didWork || answer == .ok
          serviceErrors := if serviceResultExpected answer then result.serviceErrors else 1 })
    else (ctx, result)

/-- The owner's default action on an event nobody took. -/
def pumpDischarge (ctx : WlCtx) (event : WlEvent) : WlCtx :=
  if event.type.isRx then wlEventRelease ctx event.type event.lease
  else (wlTxTake ctx event.handle).1

/-- The application sees an event that owns something; what it leaves unhandled is discharged. -/
def pumpEvent (hooks : WlPumpHooks) (interrupt : List Op) (ctx : WlCtx) (event : WlEvent) : WlCtx :=
  if event.type.isRx || isTerminalTxEvent event && event.handle != 0 then
    let (ctx, disposition) : WlCtx × WlPumpEventDisposition :=
      match hooks.onEvent with
      | none => (ctx, .unhandled)
      | some onEvent =>
        let (calls, disposition) := onEvent ctx event
        (run ctx calls, disposition)
    if disposition = .unhandled then pumpDischarge (run ctx interrupt) event else ctx
  else ctx

/-- The loop of `wl_pump_step`, with the number of iterations left. `preempt` gives the producer-side
calls that interrupt an iteration. -/
def pumpLoop (nowMs : UInt32) (hooks : WlPumpHooks) (preempt : PumpSite → Nat → List Op) :
    Nat → WlCtx → WlPumpResult → WlCtx × WlPumpResult
  | 0, ctx, result => (ctx, result)
  | left + 1, ctx, result =>
    match wlLinkGetReadiness (run ctx (preempt .readiness left)) nowMs with
    | (ctx, .error _) => (ctx, result)
    | (ctx, .ok readiness) =>
      if readiness.runnable then
        let result := { result with polls := result.polls + 1 }
        match wlPoll (run ctx (preempt .poll left)) nowMs with
        | (ctx, .error .noData) => (ctx, { result with pollResult := .noData, didWork := true })
        | (ctx, .error err) => (ctx, { result with pollResult := err, pollErrors := 1 })
        | (ctx, .ok event) =>
          pumpLoop nowMs hooks preempt left
            (pumpEvent hooks (preempt .settle left) ctx event)
            { result with
              pollResult := .ok
              events := result.events + 1
              rxEvents := if event.type.isRx then result.rxEvents + 1 else result.rxEvents
              didWork := true }
      else (ctx, result)

/-- The application gets its step when it has work. -/
def pumpApplication (hooks : WlPumpHooks) (ctx : WlCtx) (result : WlPumpResult) :
    WlCtx × WlPumpResult :=
  match hooks.applicationStep with
  | none => (ctx, result)
  | some applicationStep =>
    if reportsRunnable hooks.applicationReadiness ctx then
      let (calls, worked) := applicationStep ctx
      (run ctx calls, { result with didWork := result.didWork || worked != 0 })
    else (ctx, result)

/-- `wl_pump_step`. The pass sets the clock first, since the service can observe the end of an
asynchronous transmission. -/
def wlPumpStep (ctx : WlCtx) (nowMs : UInt32) (eventBudget : Nat) (hooks : WlPumpHooks)
    (preempt : PumpSite → Nat → List Op) : WlCtx × Except WlErr WlPumpResult :=
  if ¬ pumpArguments eventBudget hooks then (ctx, .error .invalidArg)
  else if ¬ ctx.initialized then (ctx, .error .notInitialized)
  else
    let (ctx, result) := pumpService hooks { ctx with nowMs := nowMs } WlPumpResult.start
    let (ctx, result) := pumpLoop nowMs hooks preempt eventBudget ctx result
    let (ctx, result) := pumpApplication hooks ctx result
    (ctx, .ok result)

end Wirelink
