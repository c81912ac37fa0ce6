import ZCloud.Crc16
import ZCloud.MsgOption

open Memory Lfsr

namespace ZCloud

/-- The bit at place `q` of a message, counted in the order in which the loop of
`crc_cal_by_bit` takes them. -/
def bitAt (message : List UInt8) (q : Nat) : Bool := (message.getD (q / 8) 0).toNat.testBit (7 - q % 8)

/-- The payload with the bits of the error pattern turned over. -/
def corrupt (payload error : List UInt8) : List UInt8 := List.zipWith (· ^^^ ·) payload error

theorem length_byteBits (b : UInt8) : (byteBits b).length = 8 := rfl

theorem length_messageBits (message : List UInt8) : (messageBits message).length = 8 * message.length := by
  induction message with
  | nil => rfl
  | cons b message ih =>
    rw [messageBits_cons, List.length_append, ih, length_byteBits, List.length_cons]
    omega

theorem getElem?_messageBits {message : List UInt8} {q : Nat} (hq : q < 8 * message.length) :
    (messageBits message)[q]? = some (bitAt message q) := by
  induction message generalizing q with
  | nil => simp at hq
  | cons b message ih =>
    rw [messageBits_cons]
    rw [List.length_cons] at hq
    by_cases hlt : q < 8
    · rw [List.getElem?_append_left (by rw [length_byteBits]; exact hlt), bitAt, Nat.div_eq_of_lt hlt, Nat.mod_eq_of_lt hlt]
      simp [byteBits, lowBits, hlt]
    · obtain ⟨r, rfl⟩ : ∃ r, q = r + 8 := ⟨q - 8, by omega⟩
      rw [List.getElem?_append_right (by rw [length_byteBits]; omega), length_byteBits, Nat.add_sub_cancel, ih (by omega),
        bitAt, bitAt, Nat.add_div_right _ (by decide), Nat.add_mod_right]
      rfl

theorem true_mem_byteBits {b : UInt8} (hb : b ≠ 0) : true ∈ byteBits b := by
  obtain ⟨i, hi⟩ : ∃ i, b.toNat.testBit i = true := by
    by_contra hnone
    refine hb (UInt8.toNat.inj (Nat.zero_of_testBit_eq_false fun i => ?_))
    cases hi : b.toNat.testBit i with
    | false => rfl
    | true => exact absurd ⟨i, hi⟩ hnone
  have hlt : i < 8 := by
    by_contra hge
    have hbound : b.toNat < 2 ^ i := Nat.lt_of_lt_of_le b.toNat_lt (Nat.pow_le_pow_right (by decide) (Nat.not_lt.mp hge))
    rw [Nat.testBit_lt_two_pow hbound] at hi
    cases hi
  refine List.mem_map.mpr ⟨7 - i, List.mem_range.mpr (by omega), ?_⟩
  rwa [show 8 - 1 - (7 - i) = i by omega]

theorem byteBits_xor (a b : UInt8) : byteBits (a ^^^ b) = List.zipWith xor (byteBits a) (byteBits b) := by
  refine List.ext_getElem? fun i => ?_
  by_cases hi : i < 8
  · simp [byteBits, lowBits, hi]
  · simp [byteBits, lowBits, hi]

theorem messageBits_corrupt {payload error : List UInt8} (hlen : error.length = payload.length) :
    messageBits (corrupt payload error) = List.zipWith xor (messageBits payload) (messageBits error) := by
  induction payload generalizing error with
  | nil =>
    obtain rfl := List.length_eq_zero_iff.mp hlen
    rfl
  | cons a payload ih =>
    obtain ⟨b, error, rfl⟩ := List.exists_cons_of_length_eq_add_one hlen
    have hrest := ih (Nat.succ.inj hlen)
    rw [corrupt, List.zipWith_cons_cons, messageBits_cons, byteBits_xor, ← corrupt, hrest, messageBits_cons,
      messageBits_cons, List.zipWith_append (by rfl)]

/-- The checksum of a corrupted payload is off by that of the error pattern. -/
theorem crc16_ccitt_corrupt {payload error : List UInt8} (hlen : error.length = payload.length) :
    crc16_ccitt (corrupt payload error) = crc16_ccitt payload ^^^ crc16_ccitt error := by
  have hbits : (messageBits payload).length = (messageBits error).length := by
    rw [length_messageBits, length_messageBits, hlen]
  have hcrc (message : List UInt8) : crc16_ccitt message = ((messageBits message).foldl (feed ccitt) 0#16).toNat :=
    (crc16_ccitt_eq message).trans (crc_cal_by_bit_eq message)
  rw [hcrc, hcrc, hcrc, ← BitVec.toNat_xor, ← foldl_feed_xor ccitt hbits, messageBits_corrupt hlen, BitVec.xor_self]

/-- An error pattern that is not zero and whose bits lie within 16 places of
each other does not leave the checksum as it is. -/
theorem crc16_ccitt_ne_zero {error : List UInt8} {p : Nat} (hne : ∃ b ∈ error, b ≠ 0)
    (hspan : ∀ q, bitAt error q = true → p ≤ q ∧ q < p + 16) : crc16_ccitt error ≠ 0 := by
  have hburst : Burst 16 (messageBits error) p := by
    constructor
    · obtain ⟨b, hb, hnz⟩ := hne
      exact List.mem_flatMap.mpr ⟨b, hb, true_mem_byteBits hnz⟩
    · intro q hq
      have hlt := (List.getElem?_eq_some_iff.mp hq).1
      rw [length_messageBits] at hlt
      rw [getElem?_messageBits hlt] at hq
      exact hspan q (Option.some.inj hq)
  intro hzero
  rw [crc16_ccitt_eq, crc_cal_by_bit_eq] at hzero
  exact foldl_feed_ne_zero ccitt (by decide) hburst (BitVec.eq_of_toNat_eq hzero)

/-- However long a payload is, an error whose bits lie within 16 places of each
other changes its checksum, and the check of what came with the payload fails. -/
theorem PCT_CheckCrc_burst {payload error : List UInt8} {p : Nat} (hlen : error.length = payload.length)
    (hne : ∃ b ∈ error, b ≠ 0) (hspan : ∀ q, bitAt error q = true → p ≤ q ∧ q < p + 16) :
    crc16_ccitt (corrupt payload error) ≠ crc16_ccitt payload ∧
      PCT_CheckCrc [(crcBytes (crc16_ccitt payload)).1, (crcBytes (crc16_ccitt payload)).2] (corrupt payload error)
        payload.length = .ok ZC_RET_ERROR := by
  have hdiff : crc16_ccitt (corrupt payload error) ≠ crc16_ccitt payload := by
    rw [crc16_ccitt_corrupt hlen]
    intro heq
    have hcancel : crc16_ccitt payload ^^^ (crc16_ccitt payload ^^^ crc16_ccitt error) =
        crc16_ccitt payload ^^^ crc16_ccitt payload := congrArg _ heq
    rw [← Nat.xor_assoc, Nat.xor_self, Nat.zero_xor] at hcancel
    exact crc16_ccitt_ne_zero hne hspan hcancel
  have hload : load (corrupt payload error) 0 payload.length = .ok (corrupt payload error) := by
    have hsame : (corrupt payload error).length = payload.length := by
      rw [corrupt, List.length_zipWith, hlen, Nat.min_self]
    rw [load_of_le (by omega), List.drop_zero, ← hsame, List.take_length]
  refine ⟨hdiff, ?_⟩
  rw [PCT_CheckCrc, hload, ok_bind]
  change Except.ok (if crc16_ccitt (corrupt payload error) =
    (crcBytes (crc16_ccitt payload)).1.toNat * 256 + (crcBytes (crc16_ccitt payload)).2.toNat then ZC_RET_OK else ZC_RET_ERROR) = _
  rw [crcBytes_toNat (crc16_ccitt_lt _), if_neg hdiff]

/-- Sixteen bits turned over across the bytes of a short payload. -/
theorem PCT_CheckCrc_burst_short :
    crc16_ccitt (corrupt [1, 2, 3] [0x0f, 0xff, 0xf0]) ≠ crc16_ccitt [1, 2, 3] := by
  have hspan : ∀ q, bitAt [0x0f, 0xff, 0xf0] q = true → 4 ≤ q ∧ q < 4 + 16 := by
    intro q hq
    by_cases hlt : q < 24
    · have hall : ∀ q < 24, bitAt [0x0f, 0xff, 0xf0] q = true → 4 ≤ q ∧ q < 4 + 16 := by decide
      exact hall q hlt hq
    · rw [bitAt, List.getD_eq_getElem?_getD, List.getElem?_eq_none (by simp; omega)] at hq
      simp at hq
  exact (@PCT_CheckCrc_burst [1, 2, 3] [0x0f, 0xff, 0xf0] _ rfl ⟨0x0f, by decide, by decide⟩ hspan).1

end ZCloud
