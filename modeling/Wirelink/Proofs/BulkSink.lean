/-
Module: Wirelink.Proofs.BulkSink
Purpose: What the sink of a bulk receiver sees, over every run: one session after the other, each
  opened once, written consecutively, and closed once. The point the current session has reached is
  read off the receiver's own record.
Trusted boundary: none
-/
import Wirelink.Proofs.BulkRecord

namespace Wirelink

/-! ### Traces

A call of the sink carries the current session on or closes it. -/

section traces

variable {config : WlBulkReceiverConfig} {point next : SinkPoint} {calls : List BulkSinkCall}

theorem SinkTrace.extended {call : BulkSinkCall} (trace : SinkTrace config point calls)
    (extends_ : ∀ current, SinkSession config point current →
      SinkSession config next (current ++ [call])) : SinkTrace config next (calls ++ [call]) := by
  obtain ⟨closed, current, rfl, past, session⟩ := trace
  exact ⟨closed, current ++ [call], List.append_assoc _ _ _, past, extends_ current session⟩

theorem SinkTrace.closes {call : BulkSinkCall} (trace : SinkTrace config point calls)
    (closing : ∀ current, SinkSession config point current →
      SinkClosed config (current ++ [call])) : SinkTrace config .waiting (calls ++ [call]) := by
  obtain ⟨closed, current, rfl, past, session⟩ := trace
  refine ⟨closed ++ [current ++ [call]], [], ?_, fun each member => ?_, .fresh⟩
  · simp
  · rcases List.mem_append.mp member with old | new
    · exact past each old
    · rw [List.mem_singleton.mp new]
      exact closing current session

end traces

/-! ### The record tells where the session stands

The receiver does not remember the calls of its sink. But the state and the offset of its record
tell how far the current session has come. -/

/-- The trace of the sink and the point of its current session, as the record has it. -/
structure SinkAgrees (config : WlBulkReceiverConfig) (session : BulkSession) (point : SinkPoint) :
    Prop where
  trace : SinkTrace config point session.calls.reverse
  inactive : session.sinkActive = false → point = .waiting
  active : session.sinkActive = true → session.state = .receiving ∨
    session.state = .failed ∧ point = .failed session.descriptor
  receiving : session.state = .receiving → session.sinkActive = true ∧
    point = .writing session.descriptor session.nextOffset.toNat ∧
    config.negotiated session.descriptor = some session.acceptedChunkSize

section moves

variable {config : WlBulkReceiverConfig} {session : BulkSession} {point : SinkPoint}

namespace SinkAgrees

variable (agrees : SinkAgrees config session point)

include agrees

theorem opened (active : session.sinkActive = true) :
    point.descriptor = some session.descriptor := by
  rcases agrees.active active with receiving | ⟨_, failed⟩
  · rw [(agrees.receiving receiving).2.1]
    rfl
  · rw [failed]
    rfl

theorem released (reason : Int32) :
    SinkTrace config .waiting (session.released reason).calls.reverse ∧
      (session.released reason).sinkActive = false := by
  unfold BulkSession.released
  split
  case isTrue active =>
    refine ⟨?_, rfl⟩
    show SinkTrace config .waiting
      (.aborted session.descriptor.transferId reason :: session.calls).reverse
    rw [List.reverse_cons]
    exact agrees.trace.closes fun current open_ => .aborted open_ (agrees.opened active) reason
  case isFalse inactive =>
    have none := eq_false_of_ne_true inactive
    exact ⟨agrees.inactive none ▸ agrees.trace, none⟩

theorem vacated :
    SinkTrace config .waiting session.vacated.calls.reverse ∧
      session.vacated.sinkActive = false := by
  unfold BulkSession.vacated
  split
  · exact agrees.released _
  case isFalse idle =>
    have inactive : session.sinkActive = false := by
      refine eq_false_of_ne_true fun active => ?_
      have state := not_not.mp idle
      rcases agrees.active active with receiving | ⟨failed, _⟩
      · exact nomatch receiving.symm.trans state
      · exact nomatch failed.symm.trans state
    exact ⟨agrees.inactive inactive ▸ agrees.trace, inactive⟩

end SinkAgrees

theorem SinkAgrees.closed (trace : SinkTrace config .waiting session.calls.reverse)
    (inactive : session.sinkActive = false) (state : session.state ≠ .receiving) :
    SinkAgrees config session .waiting where
  trace := trace
  inactive := fun _ => rfl
  active := fun active => nomatch inactive.symm.trans active
  receiving := fun receiving => absurd receiving state

theorem SinkAgrees.broken
    (trace : SinkTrace config (.failed session.descriptor) session.calls.reverse)
    (active : session.sinkActive = true) (state : session.state = .failed) :
    SinkAgrees config session (.failed session.descriptor) where
  trace := trace
  inactive := fun inactive => nomatch active.symm.trans inactive
  active := fun _ => .inr ⟨state, rfl⟩
  receiving := fun receiving => nomatch state.symm.trans receiving

theorem SinkAgrees.running
    (trace : SinkTrace config (.writing session.descriptor session.nextOffset.toNat)
      session.calls.reverse)
    (active : session.sinkActive = true) (state : session.state = .receiving)
    (negotiated : config.negotiated session.descriptor = some session.acceptedChunkSize) :
    SinkAgrees config session (.writing session.descriptor session.nextOffset.toNat) where
  trace := trace
  inactive := fun inactive => nomatch active.symm.trans inactive
  active := fun _ => .inl state
  receiving := fun _ => ⟨active, rfl, negotiated⟩

end moves

variable {receiver : WlBulkReceiver}

theorem SinkAgrees.carried {point next : SinkPoint} {call : BulkSinkCall}
    (agrees : SinkAgrees receiver.config receiver.session point)
    (extends_ : ∀ current, SinkSession receiver.config point current →
      SinkSession receiver.config next (current ++ [call])) :
    SinkTrace receiver.config next (receiver.session.called call).calls.reverse := by
  rw [BulkSession.called, List.reverse_cons]
  exact agrees.trace.extended extends_

theorem SinkAgrees.allowed {point : SinkPoint} {chunk : WlBulkChunk} {finish : UInt64}
    (agrees : SinkAgrees receiver.config receiver.session point)
    (receiving : receiver.state = .receiving) (next : chunk.offset = receiver.nextOffset)
    (valid : receiver.chunkShapeValid chunk = some finish) :
    SpanAllowed receiver.config receiver.descriptor receiver.nextOffset.toNat chunk.data.data ∧
      finish.toNat = receiver.nextOffset.toNat + chunk.data.data.length := by
  obtain ⟨_, shape, ends⟩ := chunkShapeValid_iff.mp valid
  have allowed := shape.allowed (agrees.receiving receiving).2.2
  rw [shape.holds, next] at *
  exact ⟨allowed, ends⟩

/-- Every move keeps the trace a sequence of sessions and the record in step with it. -/
theorem SessionMove.agrees {op : ReceiverOp} {after : BulkSession} {point : SinkPoint}
    (move : SessionMove receiver op after)
    (agrees : SinkAgrees receiver.config receiver.session point) :
    ∃ next, SinkAgrees receiver.config after next := by
  cases move with
  | kept => exact ⟨point, agrees⟩
  | @beginBusy descriptor nowMs resumeOffset admitted =>
    obtain ⟨trace, inactive⟩ := agrees.vacated
    refine ⟨.waiting, .closed ?_ inactive ?_⟩
    · show SinkTrace _ _ (.begun descriptor resumeOffset .busy ::
        receiver.session.vacated.calls).reverse
      rw [List.reverse_cons]
      exact trace.extended fun _ session => session.beginBusy descriptor resumeOffset
    · show receiver.session.vacated.state ≠ .receiving
      rw [(vacated_fields receiver.session).2.2.2]
      exact admitted.2.2.1
  | @beginFailed descriptor nowMs result resumeOffset acceptedChunkSize admitted negotiated notBusy
      refused =>
      refine ⟨.failed descriptor, .broken ?_ rfl rfl⟩
      show SinkTrace _ _ (.begun descriptor resumeOffset result ::
        receiver.session.vacated.calls).reverse
      rw [List.reverse_cons]
      exact agrees.vacated.1.extended fun _ session => session.beginFailed notBusy refused
  | @begun descriptor nowMs resumeOffset acceptedChunkSize admitted negotiated resumable =>
    refine ⟨.writing descriptor resumeOffset.toNat, .running ?_ rfl rfl negotiated⟩
    show SinkTrace _ _ (.begun descriptor resumeOffset .ok ::
      receiver.session.vacated.calls).reverse
    rw [List.reverse_cons]
    exact agrees.vacated.1.extended fun _ session => session.begun resumable
  | waited asked =>
    -- a sink that is busy is called again later, from the same point of its session
    obtain ⟨active, here, negotiated⟩ := agrees.receiving asked.receiving
    refine ⟨_, .running ?_ active asked.receiving negotiated⟩
    refine agrees.carried fun current session => ?_
    rw [here] at session
    cases asked with
    | write nowMs result receiving next valid =>
      exact session.writeBusy (agrees.allowed receiving next valid).1
    | finish nowMs result receiving complete =>
      dsimp only [BulkSession.called]
      rw [show receiver.session.nextOffset = _ from complete] at session ⊢
      exact session.finishBusy
  | broke asked notBusy notOk =>
    obtain ⟨active, here, negotiated⟩ := agrees.receiving asked.receiving
    refine ⟨.failed receiver.descriptor, .broken ?_ active rfl⟩
    refine agrees.carried fun current session => ?_
    rw [here] at session
    cases asked with
    | write nowMs result receiving next valid =>
      exact session.writeFailed (agrees.allowed receiving next valid).1 ⟨notOk, notBusy⟩
    | finish nowMs result receiving complete =>
      rw [show receiver.session.nextOffset = _ from complete] at session
      exact session.finishFailed ⟨notOk, notBusy⟩
  | @wrote chunk nowMs finish receiving next valid =>
    obtain ⟨active, here, negotiated⟩ := agrees.receiving receiving
    obtain ⟨allowed, ends⟩ := agrees.allowed receiving next valid
    refine ⟨.writing receiver.descriptor finish.toNat, .running ?_ active receiving negotiated⟩
    refine agrees.carried fun current session => ?_
    rw [here] at session
    rw [ends]
    exact session.wrote allowed
  | finished nowMs receiving complete =>
    obtain ⟨_, here, _⟩ := agrees.receiving receiving
    have trace := agrees.trace
    rw [here, show receiver.session.nextOffset = _ from complete] at trace
    refine ⟨.waiting, .closed ?_ rfl nofun⟩
    show SinkTrace _ _ (.finished receiver.descriptor .ok :: receiver.session.calls).reverse
    rw [List.reverse_cons]
    exact trace.closes fun _ session => .finished session
  | aborted reason nowMs running =>
    obtain ⟨trace, inactive⟩ := agrees.released reason
    exact ⟨.waiting, .closed trace inactive nofun⟩
  | tombstone reason nowMs ready nonzero past unknown =>
    obtain ⟨trace, inactive⟩ := agrees.released WlBulkErr.invalidState.code
    exact ⟨.waiting, .closed trace inactive nofun⟩
  | timedOut nowMs receiving =>
    obtain ⟨trace, inactive⟩ := agrees.released WlBulkErr.timeout.code
    exact ⟨.waiting, .closed trace inactive nofun⟩
  | reset unread =>
    obtain ⟨trace, inactive⟩ := agrees.released WlBulkErr.invalidState.code
    exact ⟨.waiting, .closed trace inactive nofun⟩

theorem runReceiver_agrees {point : SinkPoint}
    (agrees : SinkAgrees receiver.config receiver.session point) (ops : List ReceiverOp) :
    ∃ last, SinkAgrees receiver.config (runReceiver receiver ops).session last := by
  induction ops generalizing receiver point with
  | nil => exact ⟨point, agrees⟩
  | cons op ops ih =>
    have moves := step_moves receiver op
    obtain ⟨_, stepped⟩ := moves.session.agrees agrees
    rw [← moves.config] at stepped ⊢
    exact ih stepped

/-- Whatever a receiver is given, and whatever its sink answers, the sink sees one session after the
other: begins answered `BUSY`, one that is not, consecutive writes of allowed spans, finish once
everything is written, and one successful finish or one abort with the id of the session before the
next begin. -/
theorem sink_sees_sessions (config : WlBulkReceiverConfig) (receiver : WlBulkReceiver)
    (built : wlBulkReceiverInit config = .ok receiver) (ops : List ReceiverOp) :
    ∃ point, SinkTrace config point (runReceiver receiver ops).calls.reverse := by
  obtain ⟨own, _⟩ := wlBulkReceiverInit_valid built
  obtain ⟨record, _⟩ := wlBulkReceiverInit_ok built
  have noCalls : receiver.session.calls = [] := congrArg BulkSession.calls record
  have idle : receiver.session.state = .idle := congrArg BulkSession.state record
  have inactive : receiver.session.sinkActive = false := congrArg BulkSession.sinkActive record
  have start : SinkAgrees receiver.config receiver.session .waiting := by
    refine .closed ?_ inactive (idle ▸ nofun)
    rw [noCalls]
    exact ⟨[], [], rfl, (nofun), .fresh⟩
  obtain ⟨last, agrees⟩ := runReceiver_agrees start ops
  rw [own] at agrees
  exact ⟨last, agrees.trace⟩

/-- The receiver of the small transfer up to a write that finds the sink busy. -/
theorem busy_write_seen :
    ∃ point, SinkTrace smallReceiverConfig point
      (runReceiver smallBulkReceiver
        [.onBegin smallTransfer.descriptor 0 .ok 0, .statusAcquire,
          .statusRelease
            { status :=
                { transferId := 7, phase := .phaseBegin, code := .ok, nextOffset := 0,
                  acceptedChunkSize := 2 }
              token := 1 },
          .onChunk { transferId := 7, offset := 0, data := .bytes [10, 20] } 1
            .busy]).calls.reverse :=
  sink_sees_sessions smallReceiverConfig smallBulkReceiver rfl _

end Wirelink
