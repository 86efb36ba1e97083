/-
Module: Wirelink.Spec.CobsDecode
Purpose: What a caller of the COBS decoder relies on: it stays inside the output, reports a buffer that
  is really too small, and stores nothing when it fails. The size pass looks for the zero of a run as
  many bytes too far as the run counts, so that some zeros of a word are not counted.
Trusted boundary: the statement of the contract
-/
import Wirelink.Core.Cobs
import Wirelink.Lib.Cobs

namespace Wirelink

/-- The zeros of a code word that the size pass does not count: those of a run that is neither full nor
last, and that counts at least as many bytes as are left of the word behind it. -/
def uncounted : Bytes → Nat
  | [] => 0
  | code :: rest =>
    if code = 0 ∨ rest.length < code.toNat - 1 then 0
    else
      uncounted (rest.drop (code.toNat - 1)) +
        if code ≠ 0xFF ∧ 0 < rest.length - (code.toNat - 1) ∧
            rest.length - (code.toNat - 1) ≤ code.toNat - 1 then 1
        else 0
termination_by word => word.length
decreasing_by simp only [List.length_drop, List.length_cons]; omega

/-- The code word a decoder is given. -/
def codeWord (store : Bytes) (input : Option Nat) (inputLen : Nat) : Bytes :=
  match input with
  | none => []
  | some address => store.readAt address inputLen

/-- An address lies in the output. -/
def InOutput (output : Option Nat) (outputCapacity address : Nat) : Prop :=
  ∃ start, output = some start ∧ start ≤ address ∧ address < start + outputCapacity

/-- The contract of a call of the decoder. Every byte it stores advances the length it returns. -/
structure DecodeContained (store : Bytes) (word : Bytes) (output : Option Nat)
    (outputCapacity : Nat) (after : Bytes) (result : Except WlErr Nat) : Prop where
  length : ∀ outputLen, result = .ok outputLen → outputLen ≤ outputCapacity
  outside : ∀ address, ¬ InOutput output outputCapacity address → after[address]? = store[address]?
  tooSmall : result = .error .bufTooSmall →
    ∃ data, Cobs.decode word = some data ∧ outputCapacity < data.length
  failed : ∀ err, result = .error err → after = store

end Wirelink
