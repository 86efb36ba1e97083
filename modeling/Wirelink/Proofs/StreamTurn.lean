/-
Module: Wirelink.Proofs.StreamTurn
Purpose: One turn of the stream receiver on the queue of the ring. The search splits the queue at the
  first delimiter; the segment before it is decoded where it lies or in the fallback buffer, and the
  bytes behind the delimiter are not touched.
Trusted boundary: none
-/
import Wirelink.Proofs.StreamInput
import Wirelink.Proofs.RxRoute

namespace Wirelink

theorem findIdx?_zero_cases (queued : Bytes) :
    (queued.findIdx? (· == 0) = none ∧ (0 : UInt8) ∉ queued) ∨
      ∃ segment rest, queued = segment ++ 0 :: rest ∧ (0 : UInt8) ∉ segment ∧
        queued.findIdx? (· == 0) = some segment.length := by
  induction queued with
  | nil => exact .inl ⟨rfl, List.not_mem_nil⟩
  | cons byte queued ih =>
    rw [List.findIdx?_cons]
    by_cases zero : byte = 0
    · rw [zero]
      exact .inr ⟨[], queued, rfl, List.not_mem_nil, rfl⟩
    rw [if_neg (fun same => zero (eq_of_beq same))]
    rcases ih with ⟨none, absent⟩ | ⟨segment, rest, split, clean, found⟩
    · rw [none]
      exact .inl ⟨rfl, fun member => (List.mem_cons.mp member).elim (fun same => zero same.symm)
        absent⟩
    · rw [found, split]
      refine .inr ⟨byte :: segment, rest, rfl, ?_, rfl⟩
      exact fun member => (List.mem_cons.mp member).elim (fun same => zero same.symm) clean

section turn

variable {ring : RxRing} {queued : Bytes}

/-- The search of a turn: nothing to do, or the first segment of the queue. -/
theorem consumerFind_split (inv : RingInv ring.core queued) (cache : FindInv ring queued) :
    RingInv (ring.consumerFind 0).1.core queued ∧ FindInv (ring.consumerFind 0).1 queued ∧
      ((ring.consumerFind 0).2 = .error .noData ∧ (0 : UInt8) ∉ queued ∨
        ∃ segment rest, queued = segment ++ 0 :: rest ∧ (0 : UInt8) ∉ segment ∧
          (ring.consumerFind 0).2 = .ok segment.length) := by
  obtain ⟨answer, after⟩ := consumerFind_eq inv cache 0
  refine ⟨consumerFind_inv inv 0, after, ?_⟩
  rcases findIdx?_zero_cases queued with ⟨none, absent⟩ | ⟨segment, rest, split, clean, found⟩
  · rw [none] at answer
    exact .inl ⟨answer, absent⟩
  · rw [found] at answer
    exact .inr ⟨segment, rest, split, clean, answer⟩

/-- Where the segment in front of the queue was decoded: in the ring, over its own bytes, or in the
fallback buffer. -/
inductive SegmentPlaced (before : RxState) (segment rest buffer : Bytes) : RxState → RxPtr → Prop where
  | ring (fits : before.rxRing.readCursor % before.rxRing.capacity + segment.length ≤
        before.rxRing.capacity)
      (queue : RingInv
        ({ before.rxRing with
          memory := before.rxRing.memory.writeAt
            (before.rxRing.readCursor % before.rxRing.capacity) buffer } : RxRing).core
        (buffer ++ 0 :: rest)) :
      SegmentPlaced before segment rest buffer
        { before with
          rxRing :=
            { before.rxRing with
              memory := before.rxRing.memory.writeAt
                (before.rxRing.readCursor % before.rxRing.capacity) buffer }
          rxCandidateSource := .ring }
        { source := .ring, offset := before.rxRing.readCursor % before.rxRing.capacity }
  | fallback (fits : segment.length ≤ before.rxFallback.length) :
      SegmentPlaced before segment rest buffer
        { before with
          rxFallback := before.rxFallback.writeAt 0 buffer
          rxCandidateSource := .fallback }
        { source := .fallback, offset := 0 }

/-- The candidate of a turn is the segment in front of the queue, parsed as a whole; it is given up
only when it wraps and is longer than the fallback buffer. -/
theorem parseCandidate_placed {ctx : WlCtx} {segment rest : Bytes}
    (inv : RingInv ctx.rx.rxRing.core (segment ++ 0 :: rest)) :
    (parseCandidate ctx segment.length = none ∧ ctx.rx.rxFallback.length < segment.length) ∨
      ∃ rx base, parseCandidate ctx segment.length =
          some (wlFeedParseStream { ctx with rx := rx } (wlLinkDecodeStream ctx.config segment).2
            base).1 ∧
        SegmentPlaced ctx.rx segment rest (wlLinkDecodeStream ctx.config segment).1 rx base := by
  have size := (wlLinkDecodeStream_within ctx.config segment).1
  obtain ⟨length, peek, _⟩ := consumerPeek_eq inv (by simp)
  have front : (segment ++ 0 :: rest).take segment.length = segment := List.take_left
  unfold parseCandidate
  rw [peek]
  dsimp only [Option.getD_some]
  split
  case isTrue inPlace =>
    refine .inr ?_
    have stretch := inv.stretch (show 0 + segment.length ≤ (segment ++ 0 :: rest).length by simp)
      (by rw [Nat.add_zero]; omega)
    rw [Nat.add_zero, List.drop_zero, front] at stretch
    have behind : (wlLinkDecodeStream ctx.config segment).1.length ≤
        (segment ++ 0 :: rest).length := by
      rw [size]
      simp
    have queue := inv.overwritten behind (by rw [size]; omega)
    rw [size, List.drop_left] at queue
    refine ⟨_, _, ?_, .ring (by omega) queue⟩
    unfold decodeInRing
    rw [stretch]
    rfl
  case isFalse wraps =>
    split
    case isTrue long => exact .inl ⟨rfl, long⟩
    case isFalse room =>
      rw [consumerCopy_eq inv (by simp), List.drop_zero, front]
      refine .inr ⟨_, _, ?_, .fallback (Nat.le_of_not_lt room)⟩
      rfl

end turn

end Wirelink
