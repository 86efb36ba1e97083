/-
Module: Wirelink.Proofs.Submit
Purpose: The functions that hand a unit to the sink, as moves or parts of moves: the encoders never
  refuse what a consistent context gives them, so what reaches the sink is the unit of the retained
  transaction, of the unreliable packet or of the ACK.
Trusted boundary: none
-/
import Wirelink.Proofs.Preservation
import Wirelink.Proofs.LinkEncode

namespace Wirelink

variable {ctx : WlCtx}

/-! ### Guards -/

/-- What `wl_send_frame_internal` has tested when it begins a send. -/
structure SendStarts (ctx : WlCtx) (messageId : UInt16) (payload : SendPayload) (reliable : Bool) :
    Prop where
  valid : payload.invalid = false
  fits : payload.length ≤ ctx.config.maxPayloadLen
  free : wlDataBusy ctx reliable = false
  outside : ctx.port.inCallback = false
  capacity : reliable = false → ctx.port.txUnreliableCompletions ≠ uint32Max
  named : messageId ≠ 0

/-- `wl_send_frame_internal` turns a packet away, or begins to send it. -/
theorem wlSendFrameInternal_cases (ctx : WlCtx) (messageId : UInt16) (sequence : UInt32)
    (payload : SendPayload) (reliable : Bool) (nowMs : UInt32) :
    (∃ err, wlSendFrameInternal ctx messageId sequence payload reliable nowMs = (ctx, .error err)) ∨
      SendStarts ctx messageId payload reliable ∧
        wlSendFrameInternal ctx messageId sequence payload reliable nowMs =
          if reliable then sendReliable ctx messageId sequence payload nowMs
          else sendUnreliable ctx messageId payload := by
  unfold wlSendFrameInternal
  split
  · exact .inl ⟨_, rfl⟩
  split
  · exact .inl ⟨_, rfl⟩
  split
  · exact .inl ⟨_, rfl⟩
  split
  · exact .inl ⟨_, rfl⟩
  split
  · exact .inl ⟨_, rfl⟩
  split
  · exact .inl ⟨_, rfl⟩
  split
  · exact .inl ⟨_, rfl⟩
  split
  · exact .inl ⟨_, rfl⟩
  rename_i valid _ _ fits free outside capacity named
  refine .inr ⟨⟨eq_false_of_ne_true valid, Nat.le_of_not_lt fits, eq_false_of_ne_true free,
    eq_false_of_ne_true outside, fun plain full => capacity ⟨?_, full⟩, named⟩, rfl⟩
  rw [plain]
  exact Bool.false_ne_true

/-! ### What is encoded

The encoders get a payload that lies in its place and an output of the configured size, so they
never refuse. -/

variable {config : WlConfig}

theorem RetainedAt.full {span : TxSpan} {mem : TxMemory} (place : RetainedAt config span)
    (fits : span.length ≤ config.maxPayloadLen)
    (payloadSize : config.maxPayloadLen ≤ mem.payloadStore.length)
    (unitSize : envelopeRoom config.envelope
      (16 + config.maxPayloadLen + wlProfileCrcSize config.integrity) ≤ mem.txUnit.length) :
    (span.bytes mem).length = span.length := by
  rcases place with ⟨region, offset⟩ | ⟨region, offset, native⟩
  · simp only [TxSpan.bytes, region, offset]
    exact Bytes.length_readAt_of_le (by omega)
  · simp only [TxSpan.bytes, region, offset]
    rw [native, envelopeRoom] at unitSize
    exact Bytes.length_readAt_of_le (by omega)

theorem RetainedAt.placed {span : TxSpan} {mem : TxMemory} (place : RetainedAt config span)
    (full : (span.bytes mem).length = span.length) :
    (span.ref mem).bytes mem.txUnit (span.bytes mem).length = span.bytes mem := by
  rw [full]
  rcases place with ⟨region, _⟩ | ⟨region, _⟩
  · simp only [TxSpan.bytes, region] at full
    simp only [TxSpan.ref, TxSpan.bytes, region, PayloadRef.bytes]
    exact List.take_of_length_le (Nat.le_of_eq full)
  · simp only [TxSpan.ref, TxSpan.bytes, region, PayloadRef.bytes]

theorem frameWriteHeader_eq {packet : WlWirePacket} {kind : UInt8}
    (packetKind : framePacketKind packet = kind)
    (long : linkHeaderLen packet = wlFrameReliableHeaderSize) :
    frameWriteHeader packet (linkHeaderLen packet) =
      [0xA4 ||| kind, 0] ++ Bytes.be16 packet.messageId ++
        (Bytes.be64 packet.sessionId ++ Bytes.be32 packet.sequence) := by
  rw [frameWriteHeader, packetKind, if_pos long]

theorem reliablePacket_header (ctx : WlCtx) :
    frameWriteHeader (reliablePacket ctx) (linkHeaderLen (reliablePacket ctx)) =
      (reliableFrame ctx).header := by
  have kind : framePacketKind (reliablePacket ctx) = 1 := by
    simp [framePacketKind, reliablePacket, wlPacketFlagReliable]
  exact frameWriteHeader_eq kind (by simp [linkHeaderLen, reliablePacket, wlPacketFlagReliable])

theorem ackPacket_header (sessionId : UInt64) (sequence : UInt32) :
    frameWriteHeader (ackPacket sessionId sequence) (linkHeaderLen (ackPacket sessionId sequence)) =
      (WireFrame.ack sessionId sequence).header := by
  have kind : framePacketKind (ackPacket sessionId sequence) = 2 := by
    simp [framePacketKind, ackPacket]
  exact frameWriteHeader_eq kind (by simp [linkHeaderLen, ackPacket])

theorem envelopeRoom_mono (envelope : WlEnvelope) {small large : Nat} (le : small ≤ large) :
    envelopeRoom envelope small ≤ envelopeRoom envelope large := by
  cases envelope with
  | cobsStream =>
    simp only [envelopeRoom]
    omega
  | busLength16 => exact Nat.add_le_add_right le 2
  | nativePacket => exact le

theorem raw_fits (frame : WireFrame) (maxPayload : config.maxPayloadLen ≤ 2048)
    (fits : frame.payload.length ≤ config.maxPayloadLen) :
    (frame.raw config.integrity).length ≤
        16 + config.maxPayloadLen + wlProfileCrcSize config.integrity ∧
      (frame.raw config.integrity).length ≤ 0xFFFF := by
  have header := frame.length_header_le
  have crc : wlProfileCrcSize config.integrity ≤ 4 := by
    cases config.integrity <;> decide
  rw [frame.length_raw]
  omega

/-! ### Submissions

The sink gets the unit of the retained transaction, of an unreliable packet, or of an ACK. -/

theorem Ready.retained_full (ready : Ready ctx) :
    (ctx.mem.txPayload.bytes ctx.mem).length = ctx.mem.txPayload.length :=
  ready.retainedAt.full ready.retainedFits ready.payloadSize ready.unitSize

theorem encodeTxPayload_imaged (ready : Ready ctx) :
    ∃ unit length, Imaged ctx unit length ∧
      encodeTxPayload ctx = (withImage ctx unit length, .ok) := by
  by_cases cached : ctx.mem.txEncodedLen = 0
  · have full := ready.retained_full
    have fits : (reliableFrame ctx).payload.length ≤ ctx.config.maxPayloadLen := by
      simp only [reliableFrame, WireFrame.payload, full]
      exact ready.retainedFits
    obtain ⟨bounded, small⟩ := raw_fits _ ready.maxPayload fits
    obtain ⟨unit, encoded, size, image⟩ :=
      wlLinkEncode_unit (reliablePacket_header ctx) full.symm (ready.retainedAt.placed full) small
        (Nat.le_trans (envelopeRoom_mono _ bounded) ready.unitSize)
    refine ⟨unit, _, ⟨size, ?_, .inr ⟨cached, image, rfl⟩⟩, ?_⟩
    · exact Nat.ne_of_gt (length_linkUnit_pos _ _)
    · simp only [encodeTxPayload, if_pos cached, encoded, withImage]
  · exact ⟨ctx.mem.txUnit, ctx.mem.txEncodedLen, ⟨rfl, cached, .inl ⟨cached, rfl, rfl⟩⟩,
      by simp only [encodeTxPayload, if_neg cached, withImage]⟩

theorem wlSendTxPayload_sent (ready : Ready ctx) :
    ∃ ok, Sent ctx (wlSendTxPayload ctx).1 ok ∧ ((wlSendTxPayload ctx).2 = .ok ↔ ok = true) := by
  cases sink : ctx.sink with
  | false =>
    have refused : wlSendTxPayload ctx = (ctx, .notInitialized) := by
      simp [wlSendTxPayload, sink]
    rw [refused]
    exact ⟨false, Sent.noSink sink, by simp⟩
  | true =>
    obtain ⟨unit, length, imaged, encoded⟩ := encodeTxPayload_imaged ready
    have called : wlSendTxPayload ctx =
        dataAnswer
          (sinkCalled (withImage ctx unit length) .reliable (unit.take length)
            (ctx.answers.headD .failed)) true (ctx.answers.headD .failed) := by
      simp only [wlSendTxPayload, ready.initialized, sink, ready.noCallback, encoded,
        wlSubmitData, callSink_eq, dataKind, dataLen, withImage]
      rfl
    rw [called]
    refine ⟨_, Sent.answered (ctx.answers.headD .failed) sink imaged, ?_⟩
    cases ctx.answers.headD .failed <;> simp [dataAnswer]

theorem wlSubmitData_sentPlain (capacity : ctx.port.txUnreliableCompletions ≠ uint32Max) :
    ∃ ok, SentPlain ctx (wlSubmitData ctx false).1 ok ∧
      ((wlSubmitData ctx false).2 = .ok ↔ ok = true) := by
  cases sink : ctx.sink with
  | false =>
    have refused : wlSubmitData ctx false = (ctx, .notInitialized) := by
      simp [wlSubmitData, sink]
    rw [refused]
    exact ⟨false, SentPlain.noSink sink, by simp⟩
  | true =>
    have called : wlSubmitData ctx false =
        dataAnswer
          (sinkCalled ctx .unreliable (ctx.mem.txUnit.take ctx.mem.txUnreliableLen)
            (ctx.answers.headD .failed)) false (ctx.answers.headD .failed) := by
      simp only [wlSubmitData, sink, callSink_eq, dataKind, dataLen]
      rfl
    have room : (sinkCalled ctx .unreliable (ctx.mem.txUnit.take ctx.mem.txUnreliableLen)
        (ctx.answers.headD .failed)).port.txUnreliableCompletions ≠ uint32Max := capacity
    rw [called, dataAnswer_plain room]
    refine ⟨_, SentPlain.answered _ sink capacity, ?_⟩
    cases ctx.answers.headD .failed <;>
      simp [dataAnswer, wlCompleteUnreliableTx, sinkCalled, WlCtx.note, capacity]

theorem wlSubmitControl_trail (inv : Inv ctx) : Trail RxMove [] ctx (wlSubmitControl ctx).1 := by
  unfold wlSubmitControl
  split
  · exact Trail.refl ctx
  · rename_i ready
    simp only [not_or, Bool.not_eq_true, Bool.not_eq_false] at ready
    obtain ⟨pending, idle, lease, drain, _⟩ := ready
    cases sink : ctx.sink with
    | false => simpa using Trail.refl ctx
    | true =>
      simp only [inv.port.noCallback, callSink_eq]
      exact Trail.single (RxMove.control _ pending idle lease drain sink)

theorem placeAck_ackStep (inv : Inv ctx) (sessionId : UInt64) (sequence : UInt32) :
    AckStep sessionId sequence ctx (placeAck ctx sessionId sequence).1 := by
  unfold placeAck
  split
  · rename_i refused
    exact AckStep.dropped (.inl (by simpa [inv.initialized] using refused))
  · rename_i present
    rw [if_neg (by simp [inv.port.noCallback])]
    split
    · rename_i taken
      exact AckStep.dropped (.inr taken)
    · rename_i free
      obtain ⟨_, small⟩ := raw_fits (.ack sessionId sequence) inv.mem.maxPayload (Nat.zero_le _)
      have room : envelopeRoom ctx.config.envelope
          ((WireFrame.ack sessionId sequence).raw ctx.config.integrity).length ≤
            ctx.mem.controlUnit.length := by
        rw [WireFrame.length_raw]
        exact inv.mem.controlSize
      obtain ⟨_, encoded, size, image⟩ :=
        wlLinkEncode_unit (ackPacket_header sessionId sequence) rfl rfl small room
      rw [encoded]
      exact AckStep.placed (by simpa [inv.initialized] using present) (by simpa using free) size image

end Wirelink
