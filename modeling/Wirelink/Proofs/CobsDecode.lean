/-
Module: Wirelink.Proofs.CobsDecode
Purpose: The decoding loops write exactly the decoded bytes. Both loops run over one store and may
  decode in place: what they write never reaches the code bytes they have not read yet.
Trusted boundary: none
-/
import Mathlib.Data.List.GetD
import Wirelink.Core.Frame
import Wirelink.Lib.Cobs

namespace Wirelink

variable {store : Bytes} {input inputLen inPos : Nat}

/-! ### The copy pass

A code word is read run by run: a code byte, the bytes it counts, and the zero it stands for. Each
loop makes one turn for a run. -/

/-- The unread part of a code word: the code byte at `inPos`, and the bytes after it. -/
theorem readAt_unread (inside : input + inputLen ≤ store.length) (more : inPos < inputLen) :
    store.readAt (input + inPos) (inputLen - inPos) = store.getD (input + inPos) 0 ::
      store.readAt (input + (inPos + 1)) (inputLen - (inPos + 1)) := by
  have left : inputLen - inPos = inputLen - (inPos + 1) + 1 := by omega
  rw [left, Bytes.readAt, List.drop_eq_getElem_cons (by omega), List.take_succ_cons, Bytes.readAt,
    List.getD_eq_getElem _ _ (by omega), Nat.add_assoc]

variable {count : Nat}

/-- Single-byte copies in ascending order move a span that is not overwritten before it is read. -/
theorem copyForward_eq {target source : Nat} (clear : target ≤ source ∨ source + count ≤ target)
    (inside : source + count ≤ store.length) :
    copyForward store target source count = store.writeAt target (store.readAt source count) := by
  induction count generalizing store target source with
  | zero => simp [copyForward]
  | succ count ih =>
    have first : store.readAt source (count + 1) =
        store.getD source 0 :: store.readAt (source + 1) count :=
      @readAt_unread store source (count + 1) 0 inside (Nat.succ_pos count)
    have later : Bytes.readAt (store.set target (store.getD source 0)) (source + 1) count =
        store.readAt (source + 1) count :=
      Bytes.readAt_set_of_ne (by omega)
    rw [copyForward, ih (by omega) (by rw [List.length_set]; omega), later, first, Bytes.writeAt]

/-- The zero a run stands for, absent after a full run and after the last one. -/
def runGap (code : UInt8) (left : Nat) : Bytes :=
  if left = 0 ∨ code = 0xFF then [] else [0]

theorem drop_unread :
    (store.readAt (input + (inPos + 1)) (inputLen - (inPos + 1))).drop count =
      store.readAt (input + (inPos + 1 + count)) (inputLen - (inPos + 1 + count)) := by
  rw [Bytes.readAt, Bytes.readAt, List.drop_take, List.drop_drop, Nat.sub_sub, Nat.add_assoc input]

theorem length_unread (inside : input + inputLen ≤ store.length) (more : inPos < inputLen) :
    (store.readAt (input + (inPos + 1)) (inputLen - (inPos + 1))).length = inputLen - (inPos + 1) :=
  Bytes.length_readAt_of_le (by omega)

/-- One run of a code word that lies in a store: the bytes it counts, its zero, and the rest. -/
theorem decode_turn (inside : input + inputLen ≤ store.length) (more : inPos < inputLen)
    {code : UInt8} (here : store.getD (input + inPos) 0 = code) (counts : code.toNat - 1 = count) :
    Cobs.decode (store.readAt (input + inPos) (inputLen - inPos)) =
      if code = 0 ∨ inputLen - (inPos + 1) < count then none
      else
        (Cobs.decode (store.readAt (input + (inPos + 1 + count))
          (inputLen - (inPos + 1 + count)))).map fun tail =>
            store.readAt (input + (inPos + 1)) count ++
              runGap code (inputLen - (inPos + 1 + count)) ++ tail := by
  rw [readAt_unread inside more, Cobs.decode, length_unread inside more, here, counts]
  split
  · rfl
  case isFalse legal =>
    rw [not_or, Nat.not_lt] at legal
    have taken : (store.readAt (input + (inPos + 1)) (inputLen - (inPos + 1))).take count =
        store.readAt (input + (inPos + 1)) count := by
      rw [Bytes.readAt, Bytes.readAt, List.take_take, Nat.min_eq_left legal.2]
    have last : store.readAt (input + (inPos + 1 + count)) (inputLen - (inPos + 1 + count)) = [] ↔
        inputLen - (inPos + 1 + count) = 0 := by
      rw [← List.length_eq_zero_iff, Bytes.length_readAt_of_le (by omega)]
    rw [drop_unread]
    congr 1
    funext tail
    rw [List.append_assoc]
    congr 1
    unfold runGap
    simp only [last]
    split
    · rfl
    · rfl

theorem runGap_eq (code : UInt8) (left : Nat) :
    runGap code left = if 0 < left ∧ code.toNat ≠ 0xFF then [0] else [] := by
  have full : code = 0xFF ↔ code.toNat = 0xFF := by
    rw [← UInt8.toNat_inj]
    rfl
  unfold runGap
  by_cases none : left = 0
  · rw [if_pos (.inl none), if_neg (by omega)]
  · by_cases last : code.toNat = 0xFF
    · rw [if_pos (.inr (full.mpr last)), if_neg (fun both => both.2 last)]
    · rw [if_neg (fun either => either.elim none (fun same => last (full.mp same))),
        if_pos ⟨by omega, last⟩]

theorem length_runGap_le (code : UInt8) (left : Nat) : (runGap code left).length ≤ 1 := by
  unfold runGap
  split
  · exact Nat.zero_le 1
  · exact Nat.le_refl 1

variable {output outputLen fuel : Nat}

/-- One turn of the copy pass writes the bytes of the run and its zero. -/
theorem cobsCopy_turn {code : UInt8} (more : inPos < inputLen)
    (here : store.getD (input + inPos) 0 = code) (counts : code.toNat - 1 = count)
    (counted : inPos + 1 + count ≤ inputLen) (inside : input + inputLen ≤ store.length)
    (clear : output + outputLen ≤ input + inPos ∨ input + inputLen ≤ output) :
    cobsCopy input inputLen output (fuel + 1) store inPos outputLen =
      cobsCopy input inputLen output fuel
        (store.writeAt (output + outputLen)
          (store.readAt (input + (inPos + 1)) count ++ runGap code (inputLen - (inPos + 1 + count))))
        (inPos + 1 + count)
        (outputLen + (store.readAt (input + (inPos + 1)) count ++
          runGap code (inputLen - (inPos + 1 + count))).length) := by
  have size : (store.readAt (input + (inPos + 1)) count).length = count :=
    Bytes.length_readAt_of_le (by omega)
  have copied : copyForward store (output + outputLen) (input + (inPos + 1)) count =
      store.writeAt (output + outputLen) (store.readAt (input + (inPos + 1)) count) :=
    copyForward_eq (by omega) (by omega)
  rw [cobsCopy, if_pos more]
  dsimp only
  rw [here, counts, copied, runGap_eq]
  split
  case isTrue gap =>
    rw [if_pos ⟨by omega, gap.2⟩, Bytes.writeAt_append, List.length_append, size]
    simp only [List.length_cons, List.length_nil, Nat.zero_add, ← Nat.add_assoc]
    rfl
  case isFalse full =>
    rw [if_neg (fun both => full ⟨by omega, both.2⟩), List.append_nil, size]

theorem decode_finished : Cobs.decode (store.readAt (input + inputLen) (inputLen - inputLen)) =
    some [] := by
  rw [Nat.sub_self, Bytes.readAt_zero, Cobs.decode_nil]

/-- The copy pass writes the decoded bytes and nothing else. -/
theorem cobsCopy_eq (fuel : Nat) {data : Bytes} (turns : inputLen - inPos ≤ fuel)
    (within : inPos ≤ inputLen) (inside : input + inputLen ≤ store.length)
    (clear : output + outputLen ≤ input + inPos ∨ input + inputLen ≤ output)
    (decodes : Cobs.decode (store.readAt (input + inPos) (inputLen - inPos)) = some data) :
    cobsCopy input inputLen output fuel store inPos outputLen =
      (store.writeAt (output + outputLen) data, outputLen + data.length) := by
  induction fuel generalizing store data inPos outputLen with
  | zero =>
    obtain rfl : inPos = inputLen := by omega
    obtain rfl := Option.some.inj (decode_finished.symm.trans decodes)
    rfl
  | succ fuel ih =>
    rcases Nat.lt_or_eq_of_le within with more | rfl
    · generalize here : store.getD (input + inPos) 0 = code
      generalize counts : code.toNat - 1 = count
      rw [decode_turn inside more here counts] at decodes
      split at decodes
      · exact nomatch decodes
      case isFalse legal =>
      obtain ⟨_, decoded, assembled⟩ := Option.map_eq_some_iff.mp decodes
      rw [cobsCopy_turn more here counts (by omega) inside clear]
      have size : (store.readAt (input + (inPos + 1)) count).length = count :=
        Bytes.length_readAt_of_le (by omega)
      have gap := length_runGap_le code (inputLen - (inPos + 1 + count))
      generalize written : store.readAt (input + (inPos + 1)) count ++
        runGap code (inputLen - (inPos + 1 + count)) = chunk at assembled ⊢
      have short : chunk.length ≤ count + 1 := by
        rw [← written, List.length_append]
        omega
      -- what is written never reaches the code bytes that are still to be read
      have unread : Bytes.readAt (store.writeAt (output + outputLen) chunk)
          (input + (inPos + 1 + count)) (inputLen - (inPos + 1 + count)) =
          store.readAt (input + (inPos + 1 + count)) (inputLen - (inPos + 1 + count)) :=
        Bytes.readAt_writeAt_of_disjoint (by omega)
      rw [ih (by omega) (by omega) (by rw [Bytes.length_writeAt]; exact inside) (by omega)
        (by rw [unread]; exact decoded)]
      rw [← assembled, Bytes.writeAt_append, Nat.add_assoc output, List.length_append,
        Nat.add_assoc outputLen]
    · obtain rfl := Option.some.inj (decode_finished.symm.trans decodes)
      rw [cobsCopy, if_neg (Nat.lt_irrefl _)]
      rfl

/-! ### The fused loop

The same turns, which also take the checksum of what they write. -/

variable {encoded : Bytes} {encodedLen read write : Nat} {crc : UInt16}

theorem cobsCrc16Decode_turn {code : UInt8} {count fuel : Nat} (more : read < encodedLen)
    (here : encoded.getD read 0 = code) (counts : code.toNat - 1 = count)
    (inside : encodedLen ≤ encoded.length) (clear : write ≤ read) :
    cobsCrc16Decode encodedLen (fuel + 1) encoded read write crc =
      if code = 0 ∨ encodedLen - (read + 1) < count then (encoded, .error .cobsDecode)
      else
        cobsCrc16Decode encodedLen fuel
          (encoded.writeAt write
            (encoded.readAt (read + 1) count ++ runGap code (encodedLen - (read + 1 + count))))
          (read + 1 + count)
          (write + (encoded.readAt (read + 1) count ++
            runGap code (encodedLen - (read + 1 + count))).length)
          (wlCrc16Update crc (encoded.readAt (read + 1) count ++
            runGap code (encodedLen - (read + 1 + count)))) := by
  rw [cobsCrc16Decode, if_pos more]
  dsimp only
  rw [here, counts]
  split
  · rfl
  case isFalse legal =>
  have size : (encoded.readAt (read + 1) count).length = count :=
    Bytes.length_readAt_of_le (by omega)
  have copied : copyForward encoded write (read + 1) count =
      encoded.writeAt write (encoded.readAt (read + 1) count) :=
    copyForward_eq (by omega) (by omega)
  have stored := @Bytes.readAt_writeAt_self encoded (encoded.readAt (read + 1) count) write
    (by omega)
  rw [size] at stored
  rw [copied, stored, runGap]
  split
  case isTrue gap =>
    rw [if_neg (by rintro (none | full); exacts [by omega, gap.1 full]), Bytes.writeAt_append,
      List.length_append, size, wlCrc16Update, wlCrc16Update, List.foldl_append]
    rfl
  case isFalse none =>
    rw [if_pos (by by_contra other; rw [not_or] at other; exact none ⟨other.2, by omega⟩),
      List.append_nil, size]

/-- The fused loop refuses what does not decode; otherwise it decodes in place and takes the checksum of
the decoded bytes. -/
theorem cobsCrc16Decode_cases (fuel : Nat) (turns : encodedLen - read ≤ fuel)
    (within : read ≤ encodedLen) (inside : encodedLen ≤ encoded.length) (clear : write ≤ read) :
    (Cobs.decode (encoded.readAt read (encodedLen - read)) = none ∧
        ∃ buffer, cobsCrc16Decode encodedLen fuel encoded read write crc =
          (buffer, .error .cobsDecode)) ∨
      ∃ data, Cobs.decode (encoded.readAt read (encodedLen - read)) = some data ∧
        cobsCrc16Decode encodedLen fuel encoded read write crc =
          (encoded.writeAt write data, .ok (write + data.length, wlCrc16Update crc data)) := by
  induction fuel generalizing encoded read write crc with
  | zero =>
    obtain rfl : read = encodedLen := by omega
    exact .inr ⟨[], by simp, rfl⟩
  | succ fuel ih =>
    rcases Nat.lt_or_eq_of_le within with more | rfl
    · generalize here : encoded.getD read 0 = code
      generalize counts : code.toNat - 1 = count
      have turn := @decode_turn encoded 0 encodedLen read count (by omega) more code
        (by rw [Nat.zero_add, here]) counts
      simp only [Nat.zero_add] at turn
      rw [turn, cobsCrc16Decode_turn more here counts inside clear]
      split
      · exact .inl ⟨rfl, _, rfl⟩
      case isFalse legal =>
      have size : (encoded.readAt (read + 1) count).length = count :=
        Bytes.length_readAt_of_le (by omega)
      have gap := length_runGap_le code (encodedLen - (read + 1 + count))
      generalize written : encoded.readAt (read + 1) count ++
        runGap code (encodedLen - (read + 1 + count)) = chunk
      have short : chunk.length ≤ count + 1 := by
        rw [← written, List.length_append]
        omega
      -- what is written never reaches the code bytes that are still to be read
      have unread : Bytes.readAt (encoded.writeAt write chunk) (read + 1 + count)
          (encodedLen - (read + 1 + count)) =
          encoded.readAt (read + 1 + count) (encodedLen - (read + 1 + count)) :=
        Bytes.readAt_writeAt_of_disjoint (by omega)
      rcases @ih (encoded.writeAt write chunk) (read + 1 + count) (write + chunk.length)
          (wlCrc16Update crc chunk) (by omega) (by omega) (by rwa [Bytes.length_writeAt]) (by omega)
        with ⟨fails, refused⟩ | ⟨tail, decoded, decodes⟩
      · rw [unread] at fails
        rw [fails]
        exact .inl ⟨rfl, refused⟩
      · rw [unread] at decoded
        rw [decoded, decodes, ← Bytes.writeAt_append]
        refine .inr ⟨chunk ++ tail, rfl, ?_⟩
        rw [List.length_append, Nat.add_assoc, wlCrc16Update, wlCrc16Update, wlCrc16Update,
          List.foldl_append]
    · refine .inr ⟨[], by simp, ?_⟩
      rw [cobsCrc16Decode, if_neg (Nat.lt_irrefl _)]
      rfl

end Wirelink
