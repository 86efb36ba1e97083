/-
Module: Wirelink.Spec.BulkSender
Purpose: The calls on a bulk sender in any order, with a count of how often the action prepared last
  was submitted, and the machine behind them: an action is prepared, submitted and retried.
Trusted boundary: the choice of operations; all behaviour is in the modules below
-/
import Wirelink.Core.BulkSender

namespace Wirelink

/-- A call on a bulk sender. -/
inductive SenderOp where
  | start (descriptor : WlBulkDescriptor)
  | reset
  | requestAbort (reason : Int32)
  | acquire
  | defer (action : WlBulkSenderAction)
  | submitted (action : WlBulkSenderAction) (nowMs : UInt32)
  | status (status : WlBulkStatus) (nowMs : UInt32)
  | poll (nowMs : UInt32)
deriving Repr, DecidableEq

/-- A sender, and how often the action it prepared last was submitted. -/
structure SenderRun where
  sender : WlBulkSender
  submissions : Nat
deriving Repr, DecidableEq

namespace SenderRun

/-- A call that counts when it is answered with `WL_BULK_OK`. -/
def answered (run : SenderRun) (counted : Nat) : WlBulkSender × WlBulkErr → SenderRun
  | (sender, .ok) => ⟨sender, counted⟩
  | (sender, _) => ⟨sender, run.submissions⟩

/-- A status; the sender is ready after it only if it has prepared its next action. -/
def noted (run : SenderRun) (answer : WlBulkSender × WlBulkErr) : SenderRun :=
  run.answered (if answer.1.state = .ready then 0 else run.submissions) answer

/-- One call. -/
def step (run : SenderRun) : SenderOp → SenderRun
  | .start descriptor => run.answered 0 (wlBulkSenderStart run.sender descriptor)
  | .reset => { run with sender := (wlBulkSenderReset run.sender).1 }
  | .requestAbort reason => run.answered 0 (wlBulkSenderRequestAbort run.sender reason)
  | .acquire => { run with sender := (wlBulkSenderActionAcquire run.sender).1 }
  | .defer action => { run with sender := (wlBulkSenderActionDefer run.sender action).1 }
  | .submitted action nowMs =>
    run.answered (run.submissions + 1) (wlBulkSenderActionSubmitted run.sender action nowMs)
  | .status status nowMs => run.noted (wlBulkSenderOnStatus run.sender status nowMs)
  | .poll nowMs => { run with sender := wlBulkSenderPoll run.sender nowMs }

end SenderRun

/-- What the machine keeps of a sender. -/
structure SenderControl where
  state : WlBulkSenderState
  retryCount : UInt16
  maxRetries : UInt16
  retryWait : Bool
  submissions : Nat

def SenderRun.control (run : SenderRun) : SenderControl :=
  { state := run.sender.state, retryCount := run.sender.retryCount
    maxRetries := run.sender.maxRetries, retryWait := run.sender.retryWait
    submissions := run.submissions }

/-- The moves of the machine. -/
inductive SenderMove (old : SenderControl) : SenderControl → Prop where
  | kept : SenderMove old old
  | prepared :
      SenderMove old { old with
        state := .ready, retryCount := 0, retryWait := false, submissions := 0 }
  | submitted (ready : old.state = .ready) :
      SenderMove old { old with
        state := .waitStatus, retryWait := false, submissions := old.submissions + 1 }
  | waiting (left : old.retryCount < old.maxRetries) : SenderMove old { old with retryWait := true }
  | retried (waits : old.state = .waitStatus)
      (left : old.retryWait = true ∨ old.retryCount < old.maxRetries) :
      SenderMove old { old with
        state := .ready, retryCount := old.retryCount + 1, retryWait := false }
  | ended {state : WlBulkSenderState} {count : UInt16} {wait : Bool}
      (inactive : (state == .ready || state == .waitStatus) = false) :
      SenderMove old { old with state := state, retryCount := count, retryWait := wait }

end Wirelink
