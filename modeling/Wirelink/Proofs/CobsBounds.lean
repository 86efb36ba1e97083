/-
Module: Wirelink.Proofs.CobsBounds
Purpose: The two passes of the COBS decoder side by side. The size pass rejects the words that do not
  decode, and counts the bytes of the others except their uncounted zeros; so the decoder stays inside
  its output exactly when those zeros do not hide that the output is too small.
Trusted boundary: none
-/
import Wirelink.Proofs.CobsDecode
import Wirelink.Spec.CobsDecode

namespace Wirelink

/-! ### The size pass

When the pass asks whether anything follows a run, it adds the length of the run a second time. So
it misses the zero of a run that is at least as long as what is left behind it. -/

section passes

variable {store : Bytes} {input inputLen inPos required : Nat}

theorem uncounted_turn (inside : input + inputLen ≤ store.length) (more : inPos < inputLen)
    {code : UInt8} (here : store.getD (input + inPos) 0 = code) {count : Nat}
    (counts : code.toNat - 1 = count) (legal : ¬ (code = 0 ∨ inputLen - (inPos + 1) < count)) :
    uncounted (store.readAt (input + inPos) (inputLen - inPos)) =
      uncounted (store.readAt (input + (inPos + 1 + count)) (inputLen - (inPos + 1 + count))) +
        if code.toNat ≠ 0xFF ∧ 0 < inputLen - (inPos + 1) - count ∧
            inputLen - (inPos + 1) - count ≤ count then 1
        else 0 := by
  have full : code = 0xFF ↔ code.toNat = 0xFF := UInt8.toNat_inj.symm
  rw [readAt_unread inside more, here, uncounted, counts, length_unread inside more, if_neg legal,
    drop_unread]
  simp only [ne_eq, full]

theorem length_runGap (code : UInt8) (left : Nat) :
    (runGap code left).length = if 0 < left ∧ code.toNat ≠ 0xFF then 1 else 0 := by
  rw [runGap_eq]
  split <;> rfl

/-- The size pass refuses a word that does not decode. Of another it counts the bytes, apart from the
uncounted zeros; there are no more of those than bytes that are counted. -/
theorem cobsRequired_cases (fuel : Nat) (turns : inputLen - inPos ≤ fuel) (within : inPos ≤ inputLen)
    (inside : input + inputLen ≤ store.length) :
    (Cobs.decode (store.readAt (input + inPos) (inputLen - inPos)) = none ∧
        cobsRequired store input inputLen fuel inPos required = .error .cobsDecode) ∨
      ∃ data counted, Cobs.decode (store.readAt (input + inPos) (inputLen - inPos)) = some data ∧
        cobsRequired store input inputLen fuel inPos required = .ok (required + counted) ∧
        counted + uncounted (store.readAt (input + inPos) (inputLen - inPos)) = data.length ∧
        uncounted (store.readAt (input + inPos) (inputLen - inPos)) ≤ counted := by
  have nothing : uncounted (store.readAt (input + inputLen) (inputLen - inputLen)) = 0 := by
    rw [Nat.sub_self, Bytes.readAt_zero, uncounted]
  induction fuel generalizing inPos required with
  | zero =>
    obtain rfl : inPos = inputLen := by omega
    rw [nothing]
    exact .inr ⟨[], 0, decode_finished, rfl, rfl, Nat.le_refl 0⟩
  | succ fuel ih =>
    rcases Nat.lt_or_eq_of_le within with more | rfl
    · generalize here : store.getD (input + inPos) 0 = code
      generalize counts : code.toNat - 1 = count
      have turn := uncounted_turn inside more here counts
      rw [decode_turn inside more here counts, cobsRequired, if_pos more]
      dsimp only
      rw [here, counts]
      by_cases zero : code = 0
      · have none : code.toNat = 0 := congrArg UInt8.toNat zero
        rw [if_pos (.inl zero), if_pos none]
        exact .inl ⟨rfl, rfl⟩
      have positive : code.toNat ≠ 0 := fun none => zero (UInt8.toNat_inj.mp none)
      rw [if_neg positive]
      by_cases long : inputLen - (inPos + 1) < count
      · rw [if_pos (.inr long), if_pos (by omega)]
        exact .inl ⟨rfl, rfl⟩
      have legal : ¬ (code = 0 ∨ inputLen - (inPos + 1) < count) := not_or.mpr ⟨zero, long⟩
      rw [if_neg legal, if_neg (by omega), turn legal]
      rcases @ih (inPos + 1 + count) (if inPos + 1 + count + count < inputLen ∧ code.toNat ≠ 0xFF
          then required + count + 1 else required + count) (by omega) (by omega) with
        ⟨fails, refused⟩ | ⟨tail, counted, decoded, passes, sum, bound⟩
      · rw [fails, refused]
        exact .inl ⟨rfl, rfl⟩
      · have size : (store.readAt (input + (inPos + 1)) count).length = count :=
          Bytes.length_readAt_of_le (by omega)
        rw [decoded, passes]
        refine .inr ⟨_, counted + count +
          if inPos + 1 + count + count < inputLen ∧ code.toNat ≠ 0xFF then 1 else 0, rfl, ?_, ?_, ?_⟩
        · congr 1
          split <;> omega
        · rw [List.length_append, List.length_append, length_runGap]
          split <;> split <;> split <;> omega
        · split <;> split <;> omega
    · rw [nothing, cobsRequired, if_neg (Nat.lt_irrefl _)]
      exact .inr ⟨[], 0, decode_finished, rfl, rfl, Nat.le_refl 0⟩

end passes

/-! ### Both passes

The ways in which a call can end. Only one that stores more than was counted can break the contract.
-/

section decoder

variable {store : Bytes} {word data : Bytes} {output : Option Nat} {outputCapacity : Nat}

/-- A call that fails for another reason than a small buffer, and leaves the store alone. -/
theorem contained_of_error {err : WlErr} (other : err ≠ .bufTooSmall) :
    DecodeContained store word output outputCapacity store (.error err) where
  length _ result := nomatch result
  outside _ _ := rfl
  tooSmall result := absurd (Except.error.inj result) other
  failed _ _ := rfl

theorem contained_of_tooSmall (decodes : Cobs.decode word = some data)
    (small : outputCapacity < data.length) :
    DecodeContained store word output outputCapacity store (.error .bufTooSmall) where
  length _ result := nomatch result
  outside _ _ := rfl
  tooSmall _ := ⟨data, decodes, small⟩
  failed _ _ := rfl

theorem contained_write_iff {start : Nat} :
    DecodeContained store word (some start) outputCapacity (store.writeAt start data)
        (.ok data.length) ↔ data.length ≤ outputCapacity := by
  constructor
  · intro contained
    exact contained.length data.length rfl
  · intro fits
    refine ⟨?_, ?_, nofun, nofun⟩
    · intro outputLen result
      exact Except.ok.inj result ▸ fits
    · intro address outside
      rw [Bytes.getElem?_writeAt, if_neg]
      rintro ⟨above, below, -⟩
      exact outside ⟨start, rfl, above, Nat.lt_of_lt_of_le below (Nat.add_le_add_left fits start)⟩

theorem contained_of_empty : DecodeContained store word output outputCapacity store (.ok 0) where
  length _ result := Except.ok.inj result ▸ Nat.zero_le _
  outside _ _ := rfl
  tooSmall result := nomatch result
  failed _ result := nomatch result

/-- The zeros that the size pass does not count do not hide that the output is too small. -/
def CountsEnough (word : Bytes) (output : Option Nat) (outputCapacity : Nat) : Prop :=
  ∀ data, output ≠ none → Cobs.decode word = some data →
    data.length ≤ outputCapacity ∨ outputCapacity < data.length - uncounted word

theorem countsEnough_nil : CountsEnough [] output outputCapacity := by
  intro data _ decodes
  rw [Cobs.decode_nil] at decodes
  cases decodes
  exact .inl (Nat.zero_le _)

theorem contained_store_iff {counted : Nat} (decodes : Cobs.decode word = some data)
    (sum : counted + uncounted word = data.length) (bound : uncounted word ≤ counted)
    {answer : Bytes × Except WlErr Nat}
    (ends : answer = if counted > outputCapacity then (store, .error .bufTooSmall)
      else if output = none ∧ counted > 0 then (store, .error .invalidArg)
      else (store.writeAt (output.getD 0) data, .ok data.length)) :
    DecodeContained store word output outputCapacity answer.1 answer.2 ↔
      CountsEnough word output outputCapacity := by
  have only {other : Bytes} (found : Cobs.decode word = some other) : other = data :=
    Option.some.inj (found.symm.trans decodes)
  subst ends
  split
  case isTrue large =>
    refine iff_of_true (contained_of_tooSmall decodes (by omega)) fun other _ found => ?_
    rw [only found]
    exact .inr (Nat.lt_sub_of_add_lt (sum ▸ Nat.add_lt_add_right large _))
  case isFalse small =>
  cases output with
  | none =>
    refine iff_of_true ?_ fun _ real => absurd rfl real
    split
    · exact contained_of_error nofun
    case isFalse nothing =>
      have empty : data = [] := by
        refine List.eq_nil_of_length_eq_zero ?_
        rw [not_and, gt_iff_lt] at nothing
        have none := nothing rfl
        omega
      rw [empty]
      exact contained_of_empty
  | some =>
    refine contained_write_iff.trans ⟨fun fits other _ found => ?_, fun safe => ?_⟩
    · rw [only found]
      exact .inl fits
    · rcases safe data nofun decodes with fits | hidden
      · exact fits
      · omega

end decoder

/-- The decoder keeps its contract exactly when the zeros that its size pass does not count do not
hide that the output is too small. The output must not begin inside the input. -/
theorem decode_contained_iff {store : Bytes} {input output : Option Nat}
    {inputLen outputCapacity : Nat}
    (inside : ∀ address, input = some address → address + inputLen ≤ store.length)
    (apart : ∀ address start, input = some address → output = some start →
      start ≤ address ∨ address + inputLen ≤ start) :
    DecodeContained store (codeWord store input inputLen) output outputCapacity
        (wlCobsDecodeChecked store input inputLen output outputCapacity).1
        (wlCobsDecodeChecked store input inputLen output outputCapacity).2 ↔
      ∀ data, output ≠ none → Cobs.decode (codeWord store input inputLen) = some data →
        data.length ≤ outputCapacity ∨
          outputCapacity < data.length - uncounted (codeWord store input inputLen) := by
  show _ ↔ CountsEnough (codeWord store input inputLen) output outputCapacity
  unfold wlCobsDecodeChecked
  split
  case isTrue null =>
    refine iff_of_true (contained_of_error nofun) ?_
    rw [null.1]
    exact countsEnough_nil
  case isFalse real =>
  split
  case isTrue empty =>
    refine iff_of_true (contained_of_error nofun) ?_
    have nothing : codeWord store input inputLen = [] := by
      rw [empty]
      cases input with
      | none => rfl
      | some => exact Bytes.readAt_zero _ _
    rw [nothing]
    exact countsEnough_nil
  case isFalse positive =>
  cases input with
  | none => exact absurd ⟨rfl, Nat.pos_of_ne_zero positive⟩ real
  | some address =>
    have clear : output.getD 0 ≤ address ∨ address + inputLen ≤ output.getD 0 := by
      cases output with
      | none => exact .inl (Nat.zero_le _)
      | some start => exact apart address start rfl rfl
    rw [Option.getD_some]
    show DecodeContained _ (store.readAt address inputLen) _ _ _ _ ↔
      CountsEnough (store.readAt address inputLen) _ _
    rcases @cobsRequired_cases store address inputLen 0 0 inputLen (Nat.sub_le _ _)
        (Nat.zero_le _) (inside address rfl) with
      ⟨fails, refused⟩ | ⟨data, counted, decodes, passes, sum, bound⟩
    · rw [refused]
      refine iff_of_true (contained_of_error nofun) fun data _ decodes => ?_
      exact nomatch fails.symm.trans decodes
    · have copied : cobsCopy address inputLen (output.getD 0) inputLen store 0 0 =
          (store.writeAt (output.getD 0 + 0) data, 0 + data.length) :=
        cobsCopy_eq inputLen (Nat.sub_le _ _) (Nat.zero_le _) (inside address rfl) clear decodes
      rw [Nat.zero_add] at passes copied
      rw [passes, copied]
      exact contained_store_iff decodes sum bound rfl

/-- A run of two bytes before the last run: the decoder takes an output of two bytes and stores three. -/
theorem decode_stores_past_output :
    wlCobsDecodeChecked [3, 1, 1, 1, 0xAA, 0xAA, 0xAA] (some 0) 4 (some 4) 2 =
      ([3, 1, 1, 1, 1, 1, 0], .ok 3) := by
  decide +kernel

/-- With room for the decoded bytes the same word is decoded inside its output. -/
theorem small_decode_contained :
    DecodeContained [3, 1, 1, 1, 0xAA, 0xAA, 0xAA] [3, 1, 1, 1] (some 4) 3
      [3, 1, 1, 1, 1, 1, 0] (.ok 3) := by
  have decodes : Cobs.decode [3, 1, 1, 1] = some [1, 1, 0] := by
    simp [Cobs.decode]
  have contained := (@decode_contained_iff [3, 1, 1, 1, 0xAA, 0xAA, 0xAA] (some 0) (some 4) 4 3
    (fun address place => by cases place; decide)
    (fun address start place target => by cases place; cases target; decide)).mpr
    (fun data _ found => .inl (by
      obtain rfl := Option.some.inj (decodes.symm.trans found)
      decide))
  exact contained

end Wirelink
