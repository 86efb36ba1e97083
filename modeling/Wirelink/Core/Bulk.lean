/-
Module: Wirelink.Core.Bulk
Purpose: The vocabulary of bulk transfers: result codes, phases, status codes, the descriptor of an
  object, the messages and statuses the two sides exchange, and the answers of a receiver's sink.
Trusted boundary: the translation of include/wirelink/bulk.h
-/
import Wirelink.Core.Context

namespace Wirelink

/-- Result codes of the bulk runtime (`wl_bulk_err_t`). -/
inductive WlBulkErr where
  | ok
  | invalidArg
  | notInitialized
  | busy
  | invalidState
  | notFound
  | protocol
  | timeout
deriving Repr, Inhabited, DecidableEq

/-- The value of a result code, which the receiver also hands to `sink.abort` as a reason. -/
def WlBulkErr.code : WlBulkErr → Int32
  | .ok => 0
  | .invalidArg => -2000
  | .notInitialized => -2001
  | .busy => -2002
  | .invalidState => -2003
  | .notFound => -2004
  | .protocol => -2005
  | .timeout => -2006

/-- Phases of a transfer (`wl_bulk_phase_t`). -/
inductive WlBulkPhase where
  | phaseNone
  | phaseBegin
  | phaseChunk
  | phaseEnd
  | phaseAbort
deriving Repr, Inhabited, DecidableEq

/-- The value of a phase, by which `status_is_stale` orders them. -/
def WlBulkPhase.value : WlBulkPhase → Nat
  | .phaseNone => 0
  | .phaseBegin => 1
  | .phaseChunk => 2
  | .phaseEnd => 3
  | .phaseAbort => 4

/-- Codes of a status message (`wl_bulk_status_code_t`); `unknown` is any other value a peer may
send. -/
inductive WlBulkStatusCode where
  | ok
  | busy
  | outOfOrder
  | conflict
  | invalid
  | writeFailed
  | integrityFailed
  | aborted
  | timedOut
  | unknown
deriving Repr, Inhabited, DecidableEq

/-- `wl_bulk_descriptor_t`. -/
structure WlBulkDescriptor where
  transferId : UInt32
  totalLength : UInt64
  requestedChunkSize : UInt32
  objectCrc32c : UInt32
deriving Repr, Inhabited, DecidableEq

/-- The zeroed descriptor. -/
def noDescriptor : WlBulkDescriptor :=
  { transferId := 0, totalLength := 0, requestedChunkSize := 0, objectCrc32c := 0 }

/-- The test `data == NULL`. -/
def Buffer.isNull : Buffer → Bool
  | .null _ => true
  | .bytes _ => false

/-- `wl_bulk_chunk_t`. -/
structure WlBulkChunk where
  transferId : UInt32
  offset : UInt64
  data : Buffer
deriving Repr, Inhabited, DecidableEq

/-- `wl_bulk_status_t`. -/
structure WlBulkStatus where
  transferId : UInt32
  phase : WlBulkPhase
  code : WlBulkStatusCode
  nextOffset : UInt64
  acceptedChunkSize : UInt32
deriving Repr, Inhabited, DecidableEq

/-- The zeroed status. -/
def noStatus : WlBulkStatus :=
  { transferId := 0, phase := .phaseNone, code := .ok, nextOffset := 0, acceptedChunkSize := 0 }

/-- Answers of a bulk sink (`wl_bulk_sink_result_t`); `other` is any value outside the
enumeration. -/
inductive WlBulkSinkResult where
  | ok
  | busy
  | writeFailed
  | integrityFailed
  | invalid
  | other
deriving Repr, Inhabited, DecidableEq

/-- One call of a receiver's sink with its answer. -/
inductive BulkSinkCall where
  | begun (descriptor : WlBulkDescriptor) (resumeOffset : UInt64) (answer : WlBulkSinkResult)
  | written (transferId : UInt32) (offset : UInt64) (data : Bytes) (answer : WlBulkSinkResult)
  | finished (descriptor : WlBulkDescriptor) (answer : WlBulkSinkResult)
  | aborted (transferId : UInt32) (reason : Int32)
deriving Repr, Inhabited, DecidableEq

/-- Statistics saturate (`increment` and `counter_increment`). -/
def counterIncrement (counter : UInt32) : UInt32 :=
  if counter ≠ uint32Max then counter + 1 else counter

/-- `counter_add`. -/
def counterAdd (counter increment : UInt32) : UInt32 :=
  if uint32Max - counter < increment then uint32Max else counter + increment

/-- `WL_BULK_MAX_INTERVAL`. -/
def wlBulkMaxInterval : UInt32 := 0x80000000

end Wirelink
