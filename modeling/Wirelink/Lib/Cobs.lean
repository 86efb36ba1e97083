/-
Module: Wirelink.Lib.Cobs
Purpose: Consistent overhead byte stuffing as functions on byte lists. A code word is a sequence of
  runs, each a code byte followed by the nonzero bytes it counts; a run that is not full stands for
  a zero after it unless it is the last one.
Trusted boundary: none
-/
import Wirelink.Lib.Bytes

namespace Wirelink.Cobs

/-! ### Encoding -/

/-- Code word of `data` when the bytes of `run` are waiting for their code byte. -/
def encodeFrom (run : Bytes) : Bytes → Bytes
  | [] => UInt8.ofNat (run.length + 1) :: run
  | value :: data =>
    if value = 0 then UInt8.ofNat (run.length + 1) :: (run ++ encodeFrom [] data)
    else if run.length + 2 = 0xFF then 0xFF :: (run ++ value :: encodeFrom [] data)
    else encodeFrom (run ++ [value]) data

/-- Code word of `data`. -/
def encode (data : Bytes) : Bytes :=
  encodeFrom [] data

/-- Number of full runs completed by `data` when `length` nonzero bytes are waiting. -/
def fullRuns (length : Nat) : Bytes → Nat
  | [] => 0
  | value :: data =>
    if value = 0 then fullRuns 0 data
    else if length + 2 = 0xFF then fullRuns 0 data + 1
    else fullRuns (length + 1) data

/-- One code byte to start with, one byte for each input byte, one more for each full run. -/
theorem length_encodeFrom (run data : Bytes) :
    (encodeFrom run data).length =
      run.length + 1 + data.length + fullRuns run.length data := by
  induction data generalizing run with
  | nil => simp [encodeFrom, fullRuns]
  | cons value data ih =>
    unfold encodeFrom fullRuns
    split
    · simp only [List.length_cons, List.length_append, ih, List.length_nil]
      omega
    · split
      · simp only [List.length_cons, List.length_append, ih, List.length_nil]
        omega
      · rw [ih]
        simp only [List.length_append, List.length_cons, List.length_nil, Nat.zero_add]
        omega

theorem length_encode (data : Bytes) :
    (encode data).length = 1 + data.length + fullRuns 0 data := by
  rw [encode, length_encodeFrom, List.length_nil, Nat.zero_add]

/-- Full runs of a prefix are full runs of the whole. -/
theorem fullRuns_append_le (length : Nat) (left right : Bytes) :
    fullRuns length left ≤ fullRuns length (left ++ right) := by
  induction left generalizing length with
  | nil => simp [fullRuns]
  | cons value left ih =>
    rw [List.cons_append]
    unfold fullRuns
    split
    · exact ih 0
    · split
      · exact Nat.succ_le_succ (ih 0)
      · exact ih (length + 1)

theorem fullRuns_le (length : Nat) (data : Bytes) :
    254 * fullRuns length data ≤ length + data.length := by
  induction data generalizing length with
  | nil => simp [fullRuns]
  | cons value data ih =>
    unfold fullRuns
    split
    · have rest := ih 0
      simp only [List.length_cons]
      omega
    · split
      · have rest := ih 0
        simp only [List.length_cons]
        omega
      · have rest := ih (length + 1)
        simp only [List.length_cons]
        omega

/-- The worst case grows by one byte in 254, and by the first code byte. -/
theorem length_encode_le (data : Bytes) :
    (encode data).length ≤ data.length + data.length / 254 + 1 := by
  have runs := fullRuns_le 0 data
  rw [length_encode]
  omega

/-! ### Decoding -/

/-- Read a code word run by run; `none` when a code byte is zero or counts past the end. -/
def decode : Bytes → Option Bytes
  | [] => some []
  | code :: rest =>
    if code = 0 ∨ rest.length < code.toNat - 1 then none
    else
      (decode (rest.drop (code.toNat - 1))).map fun data =>
        rest.take (code.toNat - 1) ++
          if rest.drop (code.toNat - 1) = [] ∨ code = 0xFF then data else 0 :: data
termination_by word => word.length
decreasing_by simp only [List.length_drop, List.length_cons]; omega

@[simp] theorem decode_nil : decode [] = some [] := by
  simp [decode]

theorem encodeFrom_ne_nil (run data : Bytes) : encodeFrom run data ≠ [] := by
  intro empty
  have size := length_encodeFrom run data
  rw [empty, List.length_nil] at size
  omega

theorem toNat_code {length : Nat} (short : length < 254) :
    (UInt8.ofNat (length + 1)).toNat = length + 1 := by
  rw [UInt8.toNat_ofNat']
  omega

theorem code_ne_zero {length : Nat} (short : length < 254) : 0 ≠ UInt8.ofNat (length + 1) := by
  intro zero
  have value := congrArg UInt8.toNat zero
  rw [toNat_code short] at value
  exact nomatch value

/-- A run in front of the rest of a code word. -/
theorem decode_run {code : UInt8} {run : Bytes} (counts : code.toNat = run.length + 1)
    (rest : Bytes) :
    decode (code :: (run ++ rest)) =
      (decode rest).map fun data => run ++ if rest = [] ∨ code = 0xFF then data else 0 :: data := by
  have nonzero : code ≠ 0 := by
    rintro rfl
    exact nomatch counts
  have size : code.toNat - 1 = run.length := by omega
  rw [decode, size, List.drop_left, List.take_left, if_neg]
  simp [nonzero]

/-- Decoding a code word returns the waiting bytes and then the data; no byte of it is zero. -/
theorem decode_encodeFrom {run : Bytes} (short : run.length < 254) (clean : (0 : UInt8) ∉ run)
    (data : Bytes) :
    decode (encodeFrom run data) = some (run ++ data) ∧ (0 : UInt8) ∉ encodeFrom run data := by
  fun_induction encodeFrom run data with
  | case1 run =>
    have single := decode_run (toNat_code short) []
    rw [List.append_nil] at single
    rw [single, decode_nil, List.mem_cons, not_or]
    exact ⟨by simp, code_ne_zero short, clean⟩
  | case2 run data ih =>
    obtain ⟨decoded, rest⟩ := ih (by decide) (by simp)
    have notFull : UInt8.ofNat (run.length + 1) ≠ 0xFF := by
      intro full
      have value := congrArg UInt8.toNat full
      exact absurd value (by simp; omega)
    rw [decode_run (toNat_code short), decoded, List.mem_cons, List.mem_append, not_or, not_or]
    refine ⟨?_, code_ne_zero short, clean, rest⟩
    rw [Option.map_some, if_neg (not_or.mpr ⟨encodeFrom_ne_nil _ _, notFull⟩)]
    rfl
  | case3 run value data nonzero full ih =>
    obtain ⟨decoded, rest⟩ := ih (by decide) (by simp)
    have counts : (0xFF : UInt8).toNat = (run ++ [value]).length + 1 := by
      rw [List.length_append]
      exact full.symm
    have split := decode_run counts (encodeFrom [] data)
    rw [List.append_assoc] at split
    simp only [List.mem_cons, List.mem_append, not_or]
    exact ⟨split.trans (by rw [decoded]; simp), by decide, clean, Ne.symm nonzero, rest⟩
  | case4 run value data nonzero more ih =>
    have longer : (run ++ [value]).length = run.length + 1 := List.length_append
    have whole := ih (by omega) (by simp [clean, Ne.symm nonzero])
    rwa [List.append_assoc] at whole

theorem decode_encode (data : Bytes) : decode (encode data) = some data :=
  (decode_encodeFrom (by decide) (by simp) data).1

theorem zero_not_mem_encode (data : Bytes) : (0 : UInt8) ∉ encode data :=
  (decode_encodeFrom (by decide) (by simp) data).2

/-- A word has one byte more than its data, and one for each full run before the last. -/
theorem length_decode {word data : Bytes} (decodes : decode word = some data) (real : word ≠ []) :
    ∃ full, word.length = data.length + full + 1 ∧ 254 * full ≤ data.length := by
  fun_induction decode word generalizing data with
  | case1 => exact absurd rfl real
  | case2 code rest illegal => exact nomatch decodes
  | case3 code rest legal ih =>
    rw [not_or, Nat.not_lt] at legal
    obtain ⟨_, decoded, rfl⟩ := Option.map_eq_some_iff.mp decodes
    have taken : (rest.take (code.toNat - 1)).length = code.toNat - 1 := List.length_take_of_le legal.2
    have left : (rest.drop (code.toNat - 1)).length = rest.length - (code.toNat - 1) :=
      List.length_drop
    rw [List.length_cons, List.length_append, taken]
    by_cases last : rest.drop (code.toNat - 1) = []
    · rw [last, decode_nil] at decoded
      obtain rfl := Option.some.inj decoded
      rw [last, List.length_nil] at left
      refine ⟨0, ?_, Nat.zero_le _⟩
      rw [if_pos (.inl last), List.length_nil]
      omega
    · obtain ⟨full, _⟩ := ih decoded last
      by_cases whole : code = 0xFF
      · have counts : code.toNat = 255 := congrArg UInt8.toNat whole
        rw [if_pos (.inr whole)]
        exact ⟨full + 1, by omega, by omega⟩
      · rw [if_neg (not_or.mpr ⟨last, whole⟩), List.length_cons]
        exact ⟨full, by omega, by omega⟩

end Wirelink.Cobs
