/-
Module: Wirelink.Core.Cobs
Purpose: The byte loops of the COBS coder and decoder as the source runs them, over one store.
  Input and output are addresses of that store, so that the aliased uses of the link (a payload
  staged inside the output, a frame decoded in place) are the same code as the plain ones.
Trusted boundary: the translation of src/cobs.c, src/frame_internal.h (cobs_encode_byte,
  spans_overlap), src/frame.c (cobs_count_span, cobs_encode_span) and src/frame_cobs_crc16.c
-/
import Mathlib.Algebra.Group.Nat.Defs
import Wirelink.Core.Crc

namespace Wirelink

/-- `SIZE_MAX` of the host builds. -/
def sizeMax : Nat := 2 ^ 64 - 1

/-- `wl_cobs_encoded_max_size`. -/
def wlCobsEncodedMaxSize (inputLen : Nat) : Nat :=
  if inputLen = 0 then 1
  else if inputLen > sizeMax - inputLen / 254 - 1 then sizeMax
  else inputLen + inputLen / 254 + 1

/-- The payload byte `data[i]`, read from the store as it is at that moment. -/
def PayloadRef.read (ref : PayloadRef) (store : Bytes) (index : Nat) : UInt8 :=
  match ref with
  | .apart bytes => bytes.getD index 0
  | .shared address => store.getD (address + index) 0

/-- The first `count` payload bytes, read at one moment. -/
def PayloadRef.bytes (ref : PayloadRef) (store : Bytes) (count : Nat) : Bytes :=
  match ref with
  | .apart data => data.take count
  | .shared address => store.readAt address count

/-- `spans_overlap`. Memory of its own never overlaps the output. -/
def spansOverlap (left : PayloadRef) (leftLen right rightLen : Nat) : Bool :=
  match left with
  | .apart _ => false
  | .shared address =>
    if leftLen = 0 ∨ rightLen = 0 then false
    else if address ≤ right then decide (right - address < leftLen)
    else decide (address - right < rightLen)

/-- `wl_cobs_encode_state_t`; `base` is the address of `out` in the store. -/
structure CobsEncodeState where
  store : Bytes
  base : Nat
  writeIndex : Nat
  codeIndex : Nat
  code : UInt8
deriving Repr, Inhabited, DecidableEq

/-- The state every COBS encoding of the link starts from. -/
def CobsEncodeState.start (store : Bytes) (base : Nat) : CobsEncodeState :=
  { store := store, base := base, writeIndex := 1, codeIndex := 0, code := 1 }

/-- `out[index] = value`. -/
def CobsEncodeState.put (state : CobsEncodeState) (index : Nat) (value : UInt8) :
    CobsEncodeState :=
  { state with store := state.store.set (state.base + index) value }

/-- `cobs_encode_byte`. -/
def cobsEncodeByte (state : CobsEncodeState) (value : UInt8) : CobsEncodeState :=
  if value = 0 then
    { state.put state.codeIndex state.code with
      code := 1
      codeIndex := state.writeIndex
      writeIndex := state.writeIndex + 1 }
  else
    let state := state.put state.writeIndex value
    let writeIndex := state.writeIndex + 1
    let code := state.code + 1
    if code = 0xFF then
      { state.put state.codeIndex code with
        code := 1
        codeIndex := writeIndex
        writeIndex := writeIndex + 1 }
    else
      { state with code := code, writeIndex := writeIndex }

/-- `cobs_encode_span`: every byte is read just before it is encoded. -/
def cobsEncodeSpan (state : CobsEncodeState) (data : PayloadRef) (length : Nat) :
    CobsEncodeState :=
  (List.range length).foldl (fun state index => cobsEncodeByte state (data.read state.store index))
    state

/-- `cobs_crc16_encode_span`, the same loop fused with the checksum. -/
def cobsCrc16EncodeSpan (state : CobsEncodeState) (data : PayloadRef) (length : Nat)
    (crc : UInt16) : CobsEncodeState × UInt16 :=
  (List.range length).foldl
    (fun current index =>
      let value := data.read current.1.store index
      (cobsEncodeByte current.1 value, wlCrc16Byte current.2 value))
    (state, crc)

/-- `wl_cobs_count_state_t`. -/
structure CobsCountState where
  encodedLen : Nat
  code : Nat
deriving Repr, Inhabited, DecidableEq

/-- `cobs_count_span`: one output byte for each input byte, one more for a full run. -/
def cobsCountSpan (state : CobsCountState) (data : Bytes) : CobsCountState :=
  data.foldl
    (fun state value =>
      let code := if value = 0 then 1 else state.code + 1
      if code = 0xFF then { encodedLen := state.encodedLen + 2, code := 1 }
      else { encodedLen := state.encodedLen + 1, code := code })
    state

/-- One byte of `wl_cobs_count_encoded_len`. -/
def cobsCountByte (state : CobsCountState) (value : UInt8) : Except WlErr CobsCountState :=
  if value = 0 then .ok { encodedLen := state.encodedLen + 1, code := 1 }
  else
    let state : CobsCountState :=
      if state.code + 1 = 0xFF then { encodedLen := state.encodedLen + 2, code := 1 }
      else { encodedLen := state.encodedLen + 1, code := state.code + 1 }
    if state.encodedLen = sizeMax then .error .invalidArg else .ok state

/-- `wl_cobs_count_encoded_len`. -/
def wlCobsCountEncodedLen (input : Bytes) : Except WlErr Nat :=
  (input.foldlM cobsCountByte { encodedLen := 1, code := 1 }).map CobsCountState.encodedLen

/-- `wl_cobs_encode` from memory of its own; its loop has the body of `cobs_encode_byte`. -/
def wlCobsEncode (input store : Bytes) (output outputCapacity : Nat) : Bytes × Except WlErr Nat :=
  match wlCobsCountEncodedLen input with
  | .error err => (store, .error err)
  | .ok required =>
    if outputCapacity < required then (store, .error .bufTooSmall)
    else if input.length = 0 then (store.set output 1, .ok 1)
    else
      let state := cobsEncodeSpan (CobsEncodeState.start store output) (.apart input) input.length
      let state := state.put state.codeIndex state.code
      (state.store, .ok state.writeIndex)

/-! ### Decoding -/

/-- Size pass of `wl_cobs_decode`. The fuel is the input length: every turn reads a code byte. -/
def cobsRequired (store : Bytes) (input inputLen : Nat) :
    Nat → Nat → Nat → Except WlErr Nat
  | 0, _, required => .ok required
  | fuel + 1, inPos, required =>
    if inPos < inputLen then
      let code := (store.getD (input + inPos) 0).toNat
      let inPos := inPos + 1
      if code = 0 then .error .cobsDecode
      else if inPos + code - 1 > inputLen then .error .cobsDecode
      else
        let required := required + (code - 1)
        let inPos := inPos + (code - 1)
        let required := if inPos + (code - 1) < inputLen ∧ code ≠ 0xFF then required + 1
          else required
        cobsRequired store input inputLen fuel inPos required
    else .ok required

/-- `count` single-byte copies in ascending order, as the decoders make them. -/
def copyForward (store : Bytes) (target source : Nat) : Nat → Bytes
  | 0 => store
  | count + 1 =>
    copyForward (store.set target (store.getD source 0)) (target + 1) (source + 1) count

/-- Copy pass of `wl_cobs_decode`; returns the store and `*output_len`. -/
def cobsCopy (input inputLen output : Nat) : Nat → Bytes → Nat → Nat → Bytes × Nat
  | 0, store, _, outputLen => (store, outputLen)
  | fuel + 1, store, inPos, outputLen =>
    if inPos < inputLen then
      let code := (store.getD (input + inPos) 0).toNat
      let inPos := inPos + 1
      let store := copyForward store (output + outputLen) (input + inPos) (code - 1)
      let inPos := inPos + (code - 1)
      let outputLen := outputLen + (code - 1)
      if inPos < inputLen ∧ code ≠ 0xFF then
        cobsCopy input inputLen output fuel (store.set (output + outputLen) 0) inPos
          (outputLen + 1)
      else cobsCopy input inputLen output fuel store inPos outputLen
    else (store, outputLen)

/-- `wl_cobs_decode` with input and output inside one store. -/
def wlCobsDecode (store : Bytes) (input inputLen output outputCapacity : Nat) :
    Bytes × Except WlErr Nat :=
  if inputLen = 0 then (store, .error .cobsDecode)
  else
    match cobsRequired store input inputLen inputLen 0 0 with
    | .error err => (store, .error err)
    | .ok required =>
      if required > outputCapacity then (store, .error .bufTooSmall)
      else
        let (store, outputLen) := cobsCopy input inputLen output inputLen store 0 0
        (store, .ok outputLen)

/-- `wl_cobs_decode` with its tests for null pointers. -/
def wlCobsDecodeChecked (store : Bytes) (input : Option Nat) (inputLen : Nat) (output : Option Nat)
    (outputCapacity : Nat) : Bytes × Except WlErr Nat :=
  if input = none ∧ inputLen > 0 then (store, .error .invalidArg)
  else if inputLen = 0 then (store, .error .cobsDecode)
  else
    match cobsRequired store (input.getD 0) inputLen inputLen 0 0 with
    | .error err => (store, .error err)
    | .ok required =>
      if required > outputCapacity then (store, .error .bufTooSmall)
      else if output = none ∧ required > 0 then (store, .error .invalidArg)
      else
        let (store, outputLen) :=
          cobsCopy (input.getD 0) inputLen (output.getD 0) inputLen store 0 0
        (store, .ok outputLen)

/-- `wl_cobs_decode_in_place`. -/
def wlCobsDecodeInPlace (store : Bytes) (buffer inputLen : Nat) : Bytes × Except WlErr Nat :=
  wlCobsDecode store buffer inputLen buffer inputLen

end Wirelink
