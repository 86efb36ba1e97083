/-
Module: Wirelink.Proofs.CobsEncode
Purpose: The encoder loop of the source writes the COBS code word of its input, wherever the output
  lies in the store. Between two bytes the output is the finished runs, a hole for the next code byte,
  and the bytes waiting for it. Nothing else has changed, so that an input inside the store is read
  rightly as long as it lies off the code word of what was read before.
Trusted boundary: none
-/
import Mathlib.Data.List.GetD
import Mathlib.Data.List.Induction
import Wirelink.Core.Cobs
import Wirelink.Lib.Cobs

namespace Wirelink

/-! ### The encoder between two bytes

The state of the encoder is the finished runs, a hole for the next code byte, and the run that waits
for it. -/

section loop

variable (store : Bytes) (base : Nat)

/-- The encoder when `emitted` is finished and `run` waits for its code byte. -/
def encoderAt (emitted run : Bytes) (hole : UInt8) : CobsEncodeState :=
  { store := store.writeAt base (emitted ++ hole :: run)
    base := base
    writeIndex := emitted.length + 1 + run.length
    codeIndex := emitted.length
    code := UInt8.ofNat (run.length + 1) }

/-- The code byte of the waiting run is stored, and the encoder waits for the next run. -/
theorem encoderAt_close (emitted run : Bytes) (hole code : UInt8) :
    ∃ next, { (encoderAt store base emitted run hole).put emitted.length code with
        code := 1
        codeIndex := emitted.length + 1 + run.length
        writeIndex := emitted.length + 1 + run.length + 1 } =
      encoderAt store base (emitted ++ code :: run) [] next := by
  obtain ⟨next, same⟩ := Bytes.writeAt_hole store base (emitted ++ code :: run)
  have size : (emitted ++ code :: run).length = emitted.length + 1 + run.length := by
    rw [List.length_append, List.length_cons, Nat.add_assoc, Nat.add_comm 1]
  refine ⟨next, ?_⟩
  rw [encoderAt, encoderAt, same, size, CobsEncodeState.put, Bytes.set_writeAt]
  rfl

/-- One encoded byte. The bytes to come have the same code word before and after. -/
theorem encoderAt_byte {emitted run : Bytes} {hole : UInt8} (short : run.length < 254)
    (value : UInt8) :
    ∃ emitted' run' hole', run'.length < 254 ∧
      cobsEncodeByte (encoderAt store base emitted run hole) value =
        encoderAt store base emitted' run' hole' ∧
      ∀ data, emitted ++ Cobs.encodeFrom run (value :: data) =
        emitted' ++ Cobs.encodeFrom run' data := by
  by_cases zero : value = 0
  · obtain ⟨next, closed⟩ := encoderAt_close store base emitted run hole (UInt8.ofNat (run.length + 1))
    refine ⟨emitted ++ UInt8.ofNat (run.length + 1) :: run, [], next, by decide, ?_, fun data => ?_⟩
    · rw [cobsEncodeByte, if_pos zero, ← closed]
      rfl
    · rw [Cobs.encodeFrom, if_pos zero, List.append_assoc, List.cons_append]
  · -- a nonzero byte joins the waiting run, and may complete it
    have longer : (run ++ [value]).length = run.length + 1 := List.length_append
    have stored : (encoderAt store base emitted run hole).put (emitted.length + 1 + run.length) value =
        { encoderAt store base emitted (run ++ [value]) hole with
          writeIndex := emitted.length + 1 + run.length, code := UInt8.ofNat (run.length + 1) } := by
      rw [encoderAt, encoderAt, CobsEncodeState.put, ← List.cons_append, ← List.append_assoc,
        Bytes.writeAt_concat, List.length_append, List.length_cons, Nat.add_assoc emitted.length,
        Nat.add_comm 1]
    have full : UInt8.ofNat (run.length + 1) + 1 = 0xFF ↔ run.length + 2 = 0xFF := by
      rw [← UInt8.toNat_inj, UInt8.toNat_add]
      simp
      omega
    have reads : cobsEncodeByte (encoderAt store base emitted run hole) value =
        if UInt8.ofNat (run.length + 1) + 1 = 0xFF then
          { (encoderAt store base emitted (run ++ [value]) hole).put emitted.length
              (UInt8.ofNat (run.length + 1) + 1) with
            code := 1
            codeIndex := emitted.length + 1 + run.length + 1
            writeIndex := emitted.length + 1 + run.length + 1 + 1 }
        else
          { encoderAt store base emitted (run ++ [value]) hole with
            code := UInt8.ofNat (run.length + 1) + 1
            writeIndex := emitted.length + 1 + run.length + 1 } := by
      rw [cobsEncodeByte, if_neg zero]
      exact congrArg (fun state : CobsEncodeState => if state.code + 1 = 0xFF then
        { state.put state.codeIndex (state.code + 1) with
          code := 1, codeIndex := state.writeIndex + 1, writeIndex := state.writeIndex + 1 + 1 }
        else { state with code := state.code + 1, writeIndex := state.writeIndex + 1 }) stored
    rw [reads]
    split
    case isTrue last =>
      obtain ⟨next, closed⟩ := encoderAt_close store base emitted (run ++ [value]) hole 0xFF
      rw [longer] at closed
      refine ⟨emitted ++ 0xFF :: (run ++ [value]), [], next, by decide, ?_, fun data => ?_⟩
      · rw [last, ← closed]
        rfl
      · simp [Cobs.encodeFrom, zero, full.mp last]
    case isFalse more =>
      have room : ¬ run.length + 2 = 0xFF := fun same => more (full.mpr same)
      refine ⟨emitted, run ++ [value], hole, by rw [longer]; omega, ?_, fun data => ?_⟩
      · rw [encoderAt, longer, UInt8.ofNat_add]
        rfl
      · rw [Cobs.encodeFrom, if_neg zero, if_neg room]

theorem encoder_fold (data : Bytes) :
    ∃ emitted run hole, run.length < 254 ∧
      data.foldl cobsEncodeByte (.start store base) = encoderAt store base emitted run hole ∧
      ∀ rest, Cobs.encode (data ++ rest) = emitted ++ Cobs.encodeFrom run rest := by
  induction data using List.reverseRecOn with
  | nil =>
    obtain ⟨hole, same⟩ := Bytes.writeAt_hole store base []
    refine ⟨[], [], hole, by decide, ?_, fun _ => rfl⟩
    rw [encoderAt, same]
    rfl
  | append_singleton data value ih =>
    obtain ⟨_, _, _, short, state, word⟩ := ih
    obtain ⟨emitted', run', hole', short', step, same⟩ := encoderAt_byte store base short value
    refine ⟨emitted', run', hole', short', ?_, fun rest => ?_⟩
    · rw [List.foldl_append, state]
      exact step
    · rw [List.append_assoc, word]
      exact same rest

theorem encoder_finish (data : Bytes) :
    let last := data.foldl cobsEncodeByte (.start store base)
    last.base = base ∧ last.writeIndex = (Cobs.encode data).length ∧
      (last.put last.codeIndex last.code).store = store.writeAt base (Cobs.encode data) := by
  obtain ⟨emitted, run, _, _, state, word⟩ := encoder_fold store base data
  have whole : Cobs.encode data = emitted ++ UInt8.ofNat (run.length + 1) :: run := by
    rw [← List.append_nil data, word, Cobs.encodeFrom]
  rw [state, whole]
  refine ⟨rfl, ?_, Bytes.set_writeAt ..⟩
  rw [encoderAt, List.length_append, List.length_cons, Nat.add_assoc, Nat.add_comm 1]

/-- Off the code word of what it has read, the encoder leaves the store alone. -/
theorem encoder_untouched (data : Bytes) {index : Nat}
    (off : index < base ∨ base + (Cobs.encode data).length ≤ index) :
    (data.foldl cobsEncodeByte (.start store base)).store[index]? = store[index]? := by
  obtain ⟨_, _, _, _, state, word⟩ := encoder_fold store base data
  have size := congrArg List.length (word [])
  rw [List.append_nil, Cobs.encodeFrom, List.length_append, List.length_cons] at size
  rw [state, encoderAt, Bytes.getElem?_writeAt, if_neg]
  rw [List.length_append, List.length_cons]
  omega

/-! ### Spans

A span may lie in the store that is written. Each of its bytes is read before the code word of what
precedes it gets there. -/

/-- The encoder finds `values` behind what it has read, each byte when its turn comes. -/
def Readable (done values : Bytes) (data : PayloadRef) : Prop :=
  ∀ index (inside : index < values.length),
    data.read ((done ++ values.take index).foldl cobsEncodeByte (.start store base)).store index =
      values[index]

end loop

variable {store : Bytes} {base : Nat} {done values : Bytes} {data : PayloadRef}

theorem PayloadRef.read_eq (ref : PayloadRef) (holds : ref.bytes store values.length = values)
    {index : Nat} (inside : index < values.length) : ref.read store index = values[index] := by
  have found : (ref.bytes store values.length)[index]? = some values[index] := by
    rw [holds, List.getElem?_eq_getElem inside]
  cases ref with
  | apart bytes =>
    rw [PayloadRef.bytes, List.getElem?_take_of_lt inside] at found
    rw [PayloadRef.read, List.getD_eq_getElem?_getD, found]
    rfl
  | shared =>
    rw [PayloadRef.bytes, Bytes.readAt, List.getElem?_take_of_lt inside, List.getElem?_drop] at found
    rw [PayloadRef.read, List.getD_eq_getElem?_getD, found]
    rfl

theorem readable_apart {bytes : Bytes} (holds : bytes.take values.length = values) :
    Readable store base done values (.apart bytes) :=
  fun _ inside => @PayloadRef.read_eq store values (.apart bytes) holds _ inside

theorem readable_shared {address : Nat} (holds : store.readAt address values.length = values)
    (off : ∀ index, index < values.length → address + index < base ∨
      base + (Cobs.encode (done ++ values.take index)).length ≤ address + index) :
    Readable store base done values (.shared address) := by
  intro index inside
  have found : store.getD (address + index) 0 = values[index] :=
    PayloadRef.read_eq (.shared address) holds inside
  rw [PayloadRef.read, List.getD_eq_getElem?_getD, encoder_untouched store base _ (off index inside),
    ← List.getD_eq_getElem?_getD, found]

/-- The fused loop over a span encodes its bytes and takes their checksum. -/
theorem cobsCrc16EncodeSpan_eq (readable : Readable store base done values data) (crc : UInt16) :
    cobsCrc16EncodeSpan (done.foldl cobsEncodeByte (.start store base)) data values.length crc =
      ((done ++ values).foldl cobsEncodeByte (.start store base), wlCrc16Update crc values) := by
  suffices upTo : ∀ count, count ≤ values.length →
      cobsCrc16EncodeSpan (done.foldl cobsEncodeByte (.start store base)) data count crc =
        ((done ++ values.take count).foldl cobsEncodeByte (.start store base),
          wlCrc16Update crc (values.take count)) by
    have whole := upTo values.length (Nat.le_refl _)
    rwa [List.take_length] at whole
  intro count
  induction count with
  | zero =>
    intro _
    rw [List.take_zero, List.append_nil]
    rfl
  | succ count ih =>
    intro fits
    have step : cobsCrc16EncodeSpan (done.foldl cobsEncodeByte (.start store base)) data (count + 1)
        crc = (fun current => (cobsEncodeByte current.1 (data.read current.1.store count),
          wlCrc16Byte current.2 (data.read current.1.store count)))
        (cobsCrc16EncodeSpan (done.foldl cobsEncodeByte (.start store base)) data count crc) := by
      rw [cobsCrc16EncodeSpan, List.range_succ, List.foldl_append]
      rfl
    rw [step, ih (Nat.le_of_succ_le fits)]
    dsimp only
    rw [readable count fits, List.take_succ_eq_append_getElem fits]
    simp only [wlCrc16Update, List.foldl_append, List.foldl_cons, List.foldl_nil]

theorem cobsEncodeSpan_eq (readable : Readable store base done values data) :
    cobsEncodeSpan (done.foldl cobsEncodeByte (.start store base)) data values.length =
      (done ++ values).foldl cobsEncodeByte (.start store base) := by
  have plain : cobsEncodeSpan (done.foldl cobsEncodeByte (.start store base)) data values.length =
      (cobsCrc16EncodeSpan (done.foldl cobsEncodeByte (.start store base)) data values.length 0).1 := by
    rw [cobsEncodeSpan, cobsCrc16EncodeSpan, ← List.foldl_hom Prod.fst]
    intro _ _
    rfl
  rw [plain, cobsCrc16EncodeSpan_eq readable]

end Wirelink
