/-
Module: Wirelink.Core.SpscSlots
Purpose: What the typed queue and the latest-value mailbox have in common: value slots in storage of
  the caller, tokens, and counters that saturate. Both sources have their own copies of these
  functions. `size_t` and addresses have 64 bits; the tests for null objects have no counterpart.
Trusted boundary: the translation of the helpers of src/fifo.c and src/latest.c
-/
import Wirelink.Core.Types
import Wirelink.Lib.Bytes

namespace Wirelink

/-- The size and the alignment of the values. -/
structure SpscConfig where
  valueSize : UInt64
  valueAlignment : UInt64
deriving Repr, DecidableEq

/-- `wl_fifo_requirements_t` and `wl_latest_requirements_t`. -/
structure SpscRequirements where
  storageSize : UInt64
  slotStride : UInt64
  slotCount : UInt32
deriving Repr, DecidableEq

/-- Storage of the caller, with its address. -/
structure SpscStorage where
  address : UInt64
  data : Bytes
deriving Repr, DecidableEq

/-- The size of a value rounded up to its alignment. -/
def spscStride (config : SpscConfig) : UInt64 :=
  (config.valueSize + (config.valueAlignment - 1)) &&& ~~~ (config.valueAlignment - 1)

/-- The size arithmetic of `wl_fifo_requirements` and `wl_latest_requirements`. -/
def spscRequirements (config : SpscConfig) (slotCount : UInt32) : Except WlErr SpscRequirements :=
  if config.valueSize = 0 ∨ config.valueAlignment = 0 then .error .invalidArg
  else if config.valueAlignment &&& (config.valueAlignment - 1) ≠ 0 ∨
      config.valueSize > 0xffffffffffffffff - (config.valueAlignment - 1) then .error .invalidArg
  else
    let stride := spscStride config
    if stride > 0xffffffffffffffff / slotCount.toUInt64 then .error .invalidArg
    else
      .ok { storageSize := stride * slotCount.toUInt64, slotStride := stride, slotCount := slotCount }

/-- The tests of an init for its storage: large enough, aligned, and not over the context. -/
def spscStorageTest (config : SpscConfig) (requirements : SpscRequirements) (storage : SpscStorage)
    (contextAddress contextSize : UInt64) : WlErr :=
  if storage.data.length < requirements.storageSize.toNat then .bufTooSmall
  else if storage.address &&& (config.valueAlignment - 1) ≠ 0 then .invalidArg
  else if
      (storage.address ≤ contextAddress ∧
        contextAddress - storage.address < requirements.storageSize) ∨
      (contextAddress < storage.address ∧ storage.address - contextAddress < contextSize) then
    .invalidArg
  else .ok

/-- The next token; zero is skipped. -/
def spscNextToken (token : UInt32) : UInt32 :=
  if token + 1 = 0 then 1 else token + 1

/-- A counter goes up until it is full. -/
def spscCounterIncrement (counter : UInt32) : UInt32 :=
  if counter = 0xffffffff then counter else counter + 1

/-- A claim or a view: a span of the storage with a token. -/
structure SpscSpan where
  /-- The pointer, as an offset of the storage. -/
  value : Nat
  valueSize : UInt64
  token : UInt32
  privateSlot : UInt32
deriving Repr, DecidableEq

end Wirelink
