/-
Module: Wirelink.Proofs.BulkSender
Purpose: Every call on a bulk sender is a move of its machine, so that an action is submitted at
  most once more than it may be retried, and exactly so often if no status comes.
Trusted boundary: none
-/
import Wirelink.Proofs.BulkTransfer
import Wirelink.Spec.BulkSender

namespace Wirelink

variable {run : SenderRun}

/-! ### Every call is a move

The machine keeps the state of the sender, its retries, and the submissions of the action at hand.
Every path through a call is one of its moves. -/

variable {report : WlBulkStatus}

theorem protocolFailure_move (run : SenderRun) :
    SenderMove run.control (run.noted run.sender.protocolFailure).control :=
  .ended rfl

theorem onOutOfOrder_move (run : SenderRun) :
    SenderMove run.control (run.noted (onOutOfOrder run.sender report)).control := by
  unfold onOutOfOrder
  split
  · exact protocolFailure_move run
  · exact .prepared

theorem onOkStatus_move (run : SenderRun) :
    SenderMove run.control (run.noted (onOkStatus run.sender report)).control := by
  unfold onOkStatus
  split
  · split
    · exact protocolFailure_move run
    · exact .prepared
  · split
    · exact protocolFailure_move run
    · exact .prepared
  · split
    · exact protocolFailure_move run
    · exact .ended rfl
  · exact .ended rfl
  · exact protocolFailure_move run

theorem onStatus_move (run : SenderRun) (nowMs : UInt32) :
    SenderMove run.control (run.noted (wlBulkSenderOnStatus run.sender report nowMs)).control := by
  unfold wlBulkSenderOnStatus
  split
  · exact .kept
  split
  · exact .kept
  split
  · exact .kept
  case isFalse waits =>
  split
  · unfold onTerminalStatus
    split
    · exact protocolFailure_move _
    split
    · exact .ended rfl
    · exact .ended rfl
  split
  · exact .kept
  split
  · exact protocolFailure_move _
  unfold onCurrentStatus
  split
  · split
    · exact protocolFailure_move _
    unfold WlBulkSender.waitForRetry
    split
    · exact .ended rfl
    case isFalse left =>
      -- the sender goes on waiting, so nothing was prepared
      have unready : run.sender.state ≠ .ready := by
        intro ready
        exact waits (.inl (by rw [ready]; decide))
      show SenderMove run.control { run.control with
        retryWait := true
        submissions := if run.sender.state = .ready then 0 else run.submissions }
      rw [if_neg unready]
      exact .waiting (UInt16.not_le.mp left)
  · exact onOutOfOrder_move ⟨statusReceived run.sender report, run.submissions⟩
  · exact onOkStatus_move ⟨statusReceived run.sender report, run.submissions⟩
  · exact .ended rfl
  · exact .ended rfl

theorem senderPoll_move (run : SenderRun) (nowMs : UInt32) :
    SenderMove run.control (run.step (.poll nowMs)).control := by
  rw [SenderRun.step, wlBulkSenderPoll]
  split
  · exact .kept
  case isFalse due =>
    have waits : run.sender.state = .waitStatus := by
      by_contra state
      exact due (.inl state)
    split
    case isTrue wait => exact .retried waits (.inl wait)
    case isFalse =>
      dsimp only
      unfold WlBulkSender.waitForRetry
      split
      · exact .ended rfl
      case isFalse left =>
        rw [if_neg (show ¬ _ from by rw [waits]; decide)]
        exact .retried waits (.inr (UInt16.not_le.mp left))

/-- The machine simulates every call on a sender. -/
theorem step_senderMove (run : SenderRun) (op : SenderOp) :
    SenderMove run.control (run.step op).control := by
  cases op with
  | start descriptor =>
    rw [SenderRun.step, wlBulkSenderStart]
    split
    · exact .kept
    split
    · exact .kept
    · exact .prepared
  | reset =>
    rw [SenderRun.step, wlBulkSenderReset]
    split
    · exact .kept
    · exact .ended rfl
  | requestAbort reason =>
    rw [SenderRun.step, wlBulkSenderRequestAbort]
    split
    · exact .kept
    split
    · exact .kept
    · exact .prepared
  | acquire =>
    rw [SenderRun.step, wlBulkSenderActionAcquire]
    split
    · exact .kept
    split
    · exact .kept
    · exact .kept
  | defer action =>
    rw [SenderRun.step, wlBulkSenderActionDefer]
    split
    · exact .kept
    · exact .kept
  | submitted action nowMs =>
    rw [SenderRun.step, wlBulkSenderActionSubmitted]
    unfold actionRefusal
    by_cases lost : run.sender.state ≠ .ready ∨ ¬ run.sender.actionAcquired ∨
        action.token ≠ run.sender.acquiredToken
    · rw [if_pos lost]
      exact .kept
    by_cases other : ¬ run.sender.actionMatches action
    · rw [if_neg lost, if_pos other]
      exact .kept
    · rw [if_neg lost, if_neg other]
      exact .submitted (not_not.mp fun state => lost (.inl state))
  | status report nowMs => exact onStatus_move run nowMs
  | poll nowMs => exact senderPoll_move run nowMs

/-! ### The effort for one action

Each submission of an action but the first one follows a retry, and the source bounds the retries.
-/

/-- What holds of a sender with so many retries: a ready action was submitted once for each retry so
far, one whose status is due once more. -/
structure Effort (limit : Nat) (control : SenderControl) : Prop where
  retries : control.maxRetries.toNat = limit
  bound : control.submissions ≤ limit + 1
  ready : control.state = .ready →
    control.submissions = control.retryCount.toNat ∧ control.retryCount.toNat ≤ limit
  waits : control.state = .waitStatus → control.submissions = control.retryCount.toNat + 1 ∧
    control.retryCount.toNat ≤ limit ∧ (control.retryWait = true → control.retryCount.toNat < limit)

theorem SenderMove.effort {limit : Nat} {old new : SenderControl} (move : SenderMove old new)
    (inv : Effort limit old) : Effort limit new := by
  cases move with
  | kept => exact inv
  | prepared => exact ⟨inv.retries, Nat.zero_le _, fun _ => ⟨rfl, Nat.zero_le _⟩, nofun⟩
  | submitted ready =>
    obtain ⟨count, within⟩ := inv.ready ready
    have grown := Nat.succ_le_succ (count ▸ within)
    exact ⟨inv.retries, grown, nofun, fun _ => ⟨congrArg (· + 1) count, within, nofun⟩⟩
  | waiting left =>
    refine { inv with waits := fun state => ?_ }
    obtain ⟨count, within, _⟩ := inv.waits state
    exact ⟨count, within, fun _ => inv.retries ▸ UInt16.lt_iff_toNat_lt.mp left⟩
  | retried waits left =>
    obtain ⟨count, _, backoff⟩ := inv.waits waits
    have room : old.retryCount.toNat < limit := by
      rcases left with wait | left
      · exact backoff wait
      · exact inv.retries ▸ UInt16.lt_iff_toNat_lt.mp left
    have next : (old.retryCount + 1).toNat = old.retryCount.toNat + 1 := by
      have most := old.maxRetries.toNat_lt
      rw [inv.retries] at most
      rw [UInt16.toNat_add]
      exact Nat.mod_eq_of_lt (Nat.lt_of_le_of_lt room most)
    exact ⟨inv.retries, inv.bound, fun _ => ⟨count.trans next.symm, next ▸ room⟩, nofun⟩
  | ended inactive =>
    refine ⟨inv.retries, inv.bound, fun ready => ?_, fun waits => ?_⟩
    · cases ready
      exact nomatch inactive
    · cases waits
      exact nomatch inactive

theorem run_effort {limit : Nat} (ops : List SenderOp) (inv : Effort limit run.control) :
    Effort limit (ops.foldl SenderRun.step run).control := by
  induction ops generalizing run with
  | nil => exact inv
  | cons op ops ih => exact ih ((step_senderMove run op).effort inv)

/-! ### A peer that never answers

The bound is reached: as long as no status comes, each round hands out the prepared action, submits
it and lets its status be overdue, which spends one retry. -/

/-- The sender is in this state for an action that nobody has taken, after so many retries. -/
structure Turn (limit retries : UInt16) (state : WlBulkSenderState) (sender : WlBulkSender) :
    Prop where
  state : sender.state = state
  free : sender.actionAcquired = false
  prompt : sender.retryWait = false
  count : sender.retryCount = retries
  limit : sender.maxRetries = limit

variable {limit retries : UInt16}

theorem Turn.starts {descriptor : WlBulkDescriptor} (idle : run.sender.state = .idle)
    (bounded : run.sender.maxRetries = limit) (named : descriptor.transferId ≠ 0)
    (sized : descriptor.requestedChunkSize ≠ 0) :
    Turn limit 0 .ready (run.step (.start descriptor)).sender ∧
      (run.step (.start descriptor)).submissions = 0 := by
  have started : wlBulkSenderStart run.sender descriptor = _ :=
    (if_neg (not_or.mpr ⟨named, sized⟩)).trans (if_neg (not_not.mpr idle))
  rw [SenderRun.step, started]
  exact ⟨⟨rfl, rfl, rfl, rfl, bounded⟩, rfl⟩

/-- An action that was just acquired is accepted back. -/
theorem acquired_unrefused {sender : WlBulkSender} (ready : sender.state = .ready)
    (free : sender.actionAcquired = false) :
    ∃ token action, (wlBulkSenderActionAcquire sender).1 =
        { sender with nextToken := token, acquiredToken := token, actionAcquired := true } ∧
      actionRefusal (wlBulkSenderActionAcquire sender).1 action = none := by
  have acquired : wlBulkSenderActionAcquire sender = _ :=
    (if_neg (not_not.mpr ready)).trans (if_neg (ne_true_of_eq_false free))
  rw [acquired]
  refine ⟨_, { phase := sender.phase, descriptor := sender.descriptor, offset := sender.nextOffset
               length := sender.actionLength, abortReason := sender.abortReason
               token := bulkNextToken sender.nextToken }, rfl, ?_⟩
  simp [actionRefusal, WlBulkSender.actionMatches, ready]

theorem Turn.submits (turn : Turn limit retries .ready run.sender) :
    ∃ action, Turn limit retries .waitStatus
        ((run.step .acquire).step (.submitted action 0)).sender ∧
      ((run.step .acquire).step (.submitted action 0)).submissions = run.submissions + 1 := by
  obtain ⟨ready, free, _, count, bounded⟩ := turn
  obtain ⟨token, action, acquired, unrefused⟩ := acquired_unrefused ready free
  refine ⟨action, ?_⟩
  simp only [SenderRun.step, wlBulkSenderActionSubmitted, unrefused]
  rw [acquired]
  exact ⟨⟨rfl, rfl, rfl, count, bounded⟩, rfl⟩

theorem Turn.retried (turn : Turn limit retries .waitStatus run.sender) (left : retries < limit) :
    ∃ nowMs, Turn limit (retries + 1) .ready (run.step (.poll nowMs)).sender := by
  obtain ⟨waits, free, prompt, rfl, rfl⟩ := turn
  refine ⟨run.sender.waitIntervalMs + run.sender.waitStartedAt, ?_⟩
  have polled : wlBulkSenderPoll run.sender
      (run.sender.waitIntervalMs + run.sender.waitStartedAt) = retryAction { run.sender with
        waitStartedAt := run.sender.waitIntervalMs + run.sender.waitStartedAt, waitIntervalMs := 0
        retryWait := true } := by
    unfold wlBulkSenderPoll
    rw [if_neg (by simp [waits]), if_neg (ne_true_of_eq_false prompt), WlBulkSender.waitForRetry,
      if_neg (UInt16.not_le.mpr left)]
    exact if_neg (by simp [waits])
  rw [SenderRun.step, polled]
  exact ⟨rfl, free, rfl, rfl, rfl⟩

/-- By induction on the retries that are left. -/
theorem Turn.silence (left : Nat) (turn : Turn limit retries .ready run.sender)
    (rest : retries.toNat + left = limit.toNat) :
    ∃ ops : List SenderOp, (∀ report nowMs, .status report nowMs ∉ ops) ∧
      (ops.foldl SenderRun.step run).submissions = run.submissions + left + 1 := by
  obtain ⟨action, waits, submissions⟩ := turn.submits
  induction left generalizing run retries action with
  | zero => exact ⟨[.acquire, .submitted action 0], by simp, submissions⟩
  | succ left ih =>
    obtain ⟨nowMs, ready⟩ := waits.retried (UInt16.lt_iff_toNat_lt.mpr (by omega))
    have next : (retries + 1).toNat = retries.toNat + 1 := by
      have most := limit.toNat_lt
      rw [UInt16.toNat_add]
      exact Nat.mod_eq_of_lt (show retries.toNat + 1 < 2 ^ 16 by omega)
    obtain ⟨again, waiting, counted⟩ := ready.submits
    obtain ⟨ops, silent, total⟩ := ih ready (by omega) again waiting counted
    refine ⟨.acquire :: .submitted action 0 :: .poll nowMs :: ops, by simpa using silent, ?_⟩
    refine total.trans ?_
    show ((run.step .acquire).step (.submitted action 0)).submissions + left + 1 = _
    omega

/-- However statuses, polls and aborts come, an action is submitted at most once more than it may be
retried; and if no status comes, the first action of every transfer is submitted so often. -/
theorem submissions_bounded {config : WlBulkSenderConfig} {sender : WlBulkSender}
    (accepted : wlBulkSenderInit config = .ok sender) :
    (∀ ops : List SenderOp,
      (ops.foldl SenderRun.step ⟨sender, 0⟩).submissions ≤ config.maxRetries.toNat + 1) ∧
      ∀ descriptor : WlBulkDescriptor, descriptor.transferId ≠ 0 →
        descriptor.requestedChunkSize ≠ 0 →
        ∃ ops : List SenderOp, (∀ report nowMs, .status report nowMs ∉ ops) ∧
          ((SenderOp.start descriptor :: ops).foldl SenderRun.step ⟨sender, 0⟩).submissions =
            config.maxRetries.toNat + 1 := by
  obtain ⟨idle, bounded⟩ : sender.state = .idle ∧ sender.maxRetries = config.maxRetries := by
    unfold wlBulkSenderInit at accepted
    split at accepted
    · exact nomatch accepted
    · rw [← Except.ok.inj accepted]
      exact ⟨rfl, rfl⟩
  refine ⟨fun ops => ?_, fun descriptor named sized => ?_⟩
  · refine (@run_effort ⟨sender, 0⟩ _ ops
      ⟨congrArg UInt16.toNat bounded, Nat.zero_le _, ?_, ?_⟩).bound
    · exact fun ready => nomatch idle.symm.trans ready
    · exact fun waits => nomatch idle.symm.trans waits
  · obtain ⟨turn, none⟩ := @Turn.starts ⟨sender, 0⟩ _ descriptor idle bounded named sized
    obtain ⟨ops, silent, total⟩ := turn.silence config.maxRetries.toNat (Nat.zero_add _)
    rw [none, Nat.zero_add] at total
    exact ⟨ops, silent, total⟩

theorem silent_peer_bounded :
    (∃ ops : List SenderOp, (∀ report nowMs, .status report nowMs ∉ ops) ∧
      ((SenderOp.start smallTransfer.descriptor :: ops).foldl SenderRun.step
        ⟨smallBulkSender, 0⟩).submissions = 4) ∧
      ([.start smallTransfer.descriptor, .requestAbort 3, .acquire].foldl SenderRun.step
        ⟨smallBulkSender, 0⟩).submissions ≤ 4 :=
  have bounded := @submissions_bounded smallSenderConfig smallBulkSender rfl
  ⟨bounded.2 _ (by decide) (by decide), bounded.1 _⟩

end Wirelink
