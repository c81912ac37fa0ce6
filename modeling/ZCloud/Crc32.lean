import ZCloud.Common
import ZCloud.Lib.Lfsr

open Lfsr

namespace ZCloud

/-- The word whose bit `place i` is set when `bit i` is, as a loop over `i` sets
them. -/
def setBits (place : Nat → Nat) (bit : Nat → Bool) : BitVec 32 :=
  (List.range 32).foldl (fun val i => if bit i then val ||| 1#32 <<< place i else val) 0#32

/-- The bits that `_cal_crc32` finds from those of a byte and of the register. -/
def crc_out (in_data_buf crc_buf : Nat → Bool) : List Bool :=
  [ in_data_buf 1 ^^ in_data_buf 7 ^^ crc_buf 30 ^^ crc_buf 24,
    in_data_buf 0 ^^ in_data_buf 1 ^^ in_data_buf 6 ^^ in_data_buf 7 ^^ crc_buf 31 ^^ crc_buf 30 ^^ crc_buf 25 ^^
      crc_buf 24,
    in_data_buf 0 ^^ in_data_buf 1 ^^ in_data_buf 5 ^^ in_data_buf 6 ^^ in_data_buf 7 ^^ crc_buf 31 ^^
      crc_buf 30 ^^ crc_buf 26 ^^ crc_buf 25 ^^ crc_buf 24,
    in_data_buf 0 ^^ in_data_buf 4 ^^ in_data_buf 5 ^^ in_data_buf 6 ^^ crc_buf 31 ^^ crc_buf 27 ^^ crc_buf 26 ^^
      crc_buf 25,
    in_data_buf 1 ^^ in_data_buf 3 ^^ in_data_buf 4 ^^ in_data_buf 5 ^^ in_data_buf 7 ^^ crc_buf 30 ^^
      crc_buf 28 ^^ crc_buf 27 ^^ crc_buf 26 ^^ crc_buf 24,
    in_data_buf 0 ^^ in_data_buf 1 ^^ in_data_buf 2 ^^ in_data_buf 3 ^^ in_data_buf 4 ^^ in_data_buf 6 ^^
      in_data_buf 7 ^^ crc_buf 31 ^^ crc_buf 30 ^^ crc_buf 29 ^^ crc_buf 28 ^^ crc_buf 27 ^^ crc_buf 25 ^^
      crc_buf 24,
    in_data_buf 0 ^^ in_data_buf 1 ^^ in_data_buf 2 ^^ in_data_buf 3 ^^ in_data_buf 5 ^^ in_data_buf 6 ^^
      crc_buf 31 ^^ crc_buf 30 ^^ crc_buf 29 ^^ crc_buf 28 ^^ crc_buf 26 ^^ crc_buf 25,
    in_data_buf 0 ^^ in_data_buf 2 ^^ in_data_buf 4 ^^ in_data_buf 5 ^^ in_data_buf 7 ^^ crc_buf 31 ^^
      crc_buf 29 ^^ crc_buf 27 ^^ crc_buf 26 ^^ crc_buf 24,
    in_data_buf 3 ^^ in_data_buf 4 ^^ in_data_buf 6 ^^ in_data_buf 7 ^^ crc_buf 28 ^^ crc_buf 27 ^^ crc_buf 25 ^^
      crc_buf 24 ^^ crc_buf 0,
    in_data_buf 2 ^^ in_data_buf 3 ^^ in_data_buf 5 ^^ in_data_buf 6 ^^ crc_buf 29 ^^ crc_buf 28 ^^ crc_buf 26 ^^
      crc_buf 25 ^^ crc_buf 1,
    in_data_buf 2 ^^ in_data_buf 4 ^^ in_data_buf 5 ^^ in_data_buf 7 ^^ crc_buf 29 ^^ crc_buf 27 ^^ crc_buf 26 ^^
      crc_buf 24 ^^ crc_buf 2,
    in_data_buf 3 ^^ in_data_buf 4 ^^ in_data_buf 6 ^^ in_data_buf 7 ^^ crc_buf 28 ^^ crc_buf 27 ^^ crc_buf 25 ^^
      crc_buf 24 ^^ crc_buf 3,
    in_data_buf 1 ^^ in_data_buf 2 ^^ in_data_buf 3 ^^ in_data_buf 5 ^^ in_data_buf 6 ^^ in_data_buf 7 ^^
      crc_buf 30 ^^ crc_buf 29 ^^ crc_buf 28 ^^ crc_buf 26 ^^ crc_buf 25 ^^ crc_buf 24 ^^ crc_buf 4,
    in_data_buf 0 ^^ in_data_buf 1 ^^ in_data_buf 2 ^^ in_data_buf 4 ^^ in_data_buf 5 ^^ in_data_buf 6 ^^
      crc_buf 31 ^^ crc_buf 30 ^^ crc_buf 29 ^^ crc_buf 27 ^^ crc_buf 26 ^^ crc_buf 25 ^^ crc_buf 5,
    in_data_buf 0 ^^ in_data_buf 1 ^^ in_data_buf 3 ^^ in_data_buf 4 ^^ in_data_buf 5 ^^ crc_buf 31 ^^
      crc_buf 30 ^^ crc_buf 28 ^^ crc_buf 27 ^^ crc_buf 26 ^^ crc_buf 6,
    in_data_buf 0 ^^ in_data_buf 2 ^^ in_data_buf 3 ^^ in_data_buf 4 ^^ crc_buf 31 ^^ crc_buf 29 ^^ crc_buf 28 ^^
      crc_buf 27 ^^ crc_buf 7,
    in_data_buf 2 ^^ in_data_buf 3 ^^ in_data_buf 7 ^^ crc_buf 29 ^^ crc_buf 28 ^^ crc_buf 24 ^^ crc_buf 8,
    in_data_buf 1 ^^ in_data_buf 2 ^^ in_data_buf 6 ^^ crc_buf 30 ^^ crc_buf 29 ^^ crc_buf 25 ^^ crc_buf 9,
    in_data_buf 0 ^^ in_data_buf 1 ^^ in_data_buf 5 ^^ crc_buf 31 ^^ crc_buf 30 ^^ crc_buf 26 ^^ crc_buf 10,
    in_data_buf 0 ^^ in_data_buf 4 ^^ crc_buf 31 ^^ crc_buf 27 ^^ crc_buf 11,
    in_data_buf 3 ^^ crc_buf 28 ^^ crc_buf 12,
    in_data_buf 2 ^^ crc_buf 29 ^^ crc_buf 13,
    in_data_buf 7 ^^ crc_buf 24 ^^ crc_buf 14,
    in_data_buf 1 ^^ in_data_buf 6 ^^ in_data_buf 7 ^^ crc_buf 30 ^^ crc_buf 25 ^^ crc_buf 24 ^^ crc_buf 15,
    in_data_buf 0 ^^ in_data_buf 5 ^^ in_data_buf 6 ^^ crc_buf 31 ^^ crc_buf 26 ^^ crc_buf 25 ^^ crc_buf 16,
    in_data_buf 4 ^^ in_data_buf 5 ^^ crc_buf 27 ^^ crc_buf 26 ^^ crc_buf 17,
    in_data_buf 1 ^^ in_data_buf 3 ^^ in_data_buf 4 ^^ in_data_buf 7 ^^ crc_buf 30 ^^ crc_buf 28 ^^ crc_buf 27 ^^
      crc_buf 24 ^^ crc_buf 18,
    in_data_buf 0 ^^ in_data_buf 2 ^^ in_data_buf 3 ^^ in_data_buf 6 ^^ crc_buf 31 ^^ crc_buf 29 ^^ crc_buf 28 ^^
      crc_buf 25 ^^ crc_buf 19,
    in_data_buf 1 ^^ in_data_buf 2 ^^ in_data_buf 5 ^^ crc_buf 30 ^^ crc_buf 29 ^^ crc_buf 26 ^^ crc_buf 20,
    in_data_buf 0 ^^ in_data_buf 1 ^^ in_data_buf 4 ^^ crc_buf 31 ^^ crc_buf 30 ^^ crc_buf 27 ^^ crc_buf 21,
    in_data_buf 0 ^^ in_data_buf 3 ^^ crc_buf 31 ^^ crc_buf 28 ^^ crc_buf 22,
    in_data_buf 2 ^^ crc_buf 23 ^^ crc_buf 29 ]

def cal_crc32 (crc_result : BitVec 32) (data_8 : UInt8) : BitVec 32 :=
  let crc_out := crc_out data_8.toBitVec.getLsbD crc_result.getLsbD
  setBits id fun i => crc_out.getD i false

def get_crc32 (data : List UInt8) : BitVec 32 :=
  let crc_result := data.foldl cal_crc32 0xffffffff
  let val := setBits (31 - ·) crc_result.getLsbD
  ~~~val

/-- The polynomial of CRC-32. -/
def crc32Poly : BitVec 32 := 0x04C11DB7

/-- CRC-32, bit by bit: the register is reflected, starts with ones and is
complemented at the end. -/
def crc32 (data : List UInt8) : BitVec 32 :=
  ~~~data.foldl (fun c b => (shiftReflected crc32Poly)^[8] (c ^^^ b.toBitVec.setWidth 32)) 0xffffffff

/-- The digits `123456789`. -/
example : crc32 [0x31, 0x32, 0x33, 0x34, 0x35, 0x36, 0x37, 0x38, 0x39] = 0xcbf43926 := by decide +kernel

theorem getLsbD_foldl_setBit (place : Nat → Nat) (bit : Nat → Bool) (n : Nat) {j : Nat} (hj : j < 32) :
    ((List.range n).foldl (fun val i => if bit i then val ||| 1#32 <<< place i else val) 0#32).getLsbD j =
      (List.range n).any fun i => decide (place i = j) && bit i := by
  induction n with
  | zero => simp
  | succ n ih =>
    have hone : (1#32 <<< place n).getLsbD j = decide (place n = j) := by
      rw [BitVec.getLsbD_shiftLeft, BitVec.getLsbD_one]
      by_cases hlt : j < place n
      · simp [hlt, show ¬ place n = j by omega]
      · simp [hlt, hj]
        omega
    rw [List.range_succ, List.foldl_append, List.any_append, List.foldl_cons, List.foldl_nil, ← ih]
    cases hbit : bit n with
    | true => simp [hone, hbit]
    | false => simp [hbit]

/-- Two places do not meet, so each bit comes through. -/
theorem getLsbD_setBits {place : Nat → Nat} (bit : Nat → Bool) {i : Nat} (hi : i < 32) (hplace : place i < 32)
    (hinj : ∀ k < 32, place k = place i → k = i) : (setBits place bit).getLsbD (place i) = bit i := by
  rw [setBits, getLsbD_foldl_setBit place bit 32 hplace, Bool.eq_iff_iff, List.any_eq_true]
  constructor
  · rintro ⟨k, hk, hbit⟩
    simp only [Bool.and_eq_true, decide_eq_true_eq] at hbit
    rw [← hinj k (List.mem_range.mp hk) hbit.1]
    exact hbit.2
  · intro hbit
    exact ⟨i, List.mem_range.mpr hi, by simp [hbit]⟩

theorem getLsbD_cal_crc32 (c : BitVec 32) (b : UInt8) {i : Nat} (hi : i < 32) :
    (cal_crc32 c b).getLsbD i = (crc_out b.toBitVec.getLsbD c.getLsbD).getD i false :=
  @getLsbD_setBits id _ _ hi hi fun _ _ h => h

theorem crc_out_xor (x x' y y' : Nat → Bool) :
    crc_out (fun i => x i ^^ x' i) (fun i => y i ^^ y' i) = List.zipWith xor (crc_out x y) (crc_out x' y') := by
  simp only [crc_out, List.zipWith_cons_cons, List.zipWith_nil_left, List.cons.injEq, and_true]
  have hcomm : Std.Commutative xor := ⟨Bool.xor_comm⟩
  and_intros <;> ac_rfl

/-- The step keeps sums, in the register and in the byte. -/
theorem cal_crc32_xor (c c' : BitVec 32) (b b' : UInt8) :
    cal_crc32 (c ^^^ c') (b ^^^ b') = cal_crc32 c b ^^^ cal_crc32 c' b' := by
  have hlen (x y : Nat → Bool) : (crc_out x y).length = 32 := rfl
  refine BitVec.eq_of_getLsbD_eq fun i hi => ?_
  have hbits : crc_out (b ^^^ b').toBitVec.getLsbD (c ^^^ c').getLsbD =
      List.zipWith xor (crc_out b.toBitVec.getLsbD c.getLsbD) (crc_out b'.toBitVec.getLsbD c'.getLsbD) := by
    rw [← crc_out_xor]
    congr 1
    · exact funext fun i => by rw [UInt8.toBitVec_xor, BitVec.getLsbD_xor]
    · exact funext fun i => BitVec.getLsbD_xor
  rw [BitVec.getLsbD_xor, getLsbD_cal_crc32 _ _ hi, getLsbD_cal_crc32 _ _ hi, getLsbD_cal_crc32 _ _ hi, hbits]
  simp [List.getD_eq_getElem?_getD, hlen, hi]

/-- The bits of a byte, the lowest first. -/
def dataBits (b : UInt8) : List Bool := (List.range 8).map b.toBitVec.getLsbD

theorem length_dataBits (b : UInt8) : (dataBits b).length = 8 := rfl

theorem dataBits_xor (b b' : UInt8) : dataBits (b ^^^ b') = List.zipWith xor (dataBits b) (dataBits b') := by
  refine List.ext_getElem? fun i => ?_
  by_cases hi : i < 8
  · simp [dataBits, hi]
  · simp [dataBits, hi]

theorem foldl_dataBits_xor (c c' : BitVec 32) (b b' : UInt8) :
    (dataBits (b ^^^ b')).foldl (feed crc32Poly) (c ^^^ c') =
      (dataBits b).foldl (feed crc32Poly) c ^^^ (dataBits b').foldl (feed crc32Poly) c' := by
  rw [dataBits_xor]
  exact foldl_feed_xor crc32Poly (a := dataBits b) (b := dataBits b') rfl c c'

private theorem cal_crc32_register : ∀ i < 32, cal_crc32 (BitVec.twoPow 32 i) 0 =
    (dataBits 0).foldl (feed crc32Poly) (BitVec.twoPow 32 i) := by
  decide +kernel

private theorem cal_crc32_data : ∀ i < 8, cal_crc32 0#32 (UInt8.ofBitVec (BitVec.twoPow 8 i)) =
    (dataBits (UInt8.ofBitVec (BitVec.twoPow 8 i))).foldl (feed crc32Poly) 0#32 := by
  decide +kernel

/-- The equations are eight steps of the division. -/
theorem cal_crc32_eq (c : BitVec 32) (b : UInt8) : cal_crc32 c b = (dataBits b).foldl (feed crc32Poly) c := by
  have hzero : (0 : UInt8) ^^^ 0 = 0 := rfl
  have hregister : cal_crc32 c 0 = (dataBits 0).foldl (feed crc32Poly) c := by
    refine linear_ext (f := fun c => cal_crc32 c 0) (g := fun c => (dataBits 0).foldl (feed crc32Poly) c)
      (fun a b => ?_) (fun a b => ?_) cal_crc32_register c
    · rw [← cal_crc32_xor, hzero]
    · rw [← foldl_dataBits_xor, hzero]
  have hdata : cal_crc32 0#32 b = (dataBits b).foldl (feed crc32Poly) 0#32 := by
    refine linear_ext (f := fun x => cal_crc32 0#32 (UInt8.ofBitVec x))
      (g := fun x => (dataBits (UInt8.ofBitVec x)).foldl (feed crc32Poly) 0#32) (fun x y => ?_) (fun x y => ?_)
      cal_crc32_data b.toBitVec
    · exact cal_crc32_xor 0#32 0#32 (UInt8.ofBitVec x) (UInt8.ofBitVec y)
    · exact foldl_dataBits_xor 0#32 0#32 (UInt8.ofBitVec x) (UInt8.ofBitVec y)
  have hsum : cal_crc32 (c ^^^ 0#32) (0 ^^^ b) = (dataBits (0 ^^^ b)).foldl (feed crc32Poly) (c ^^^ 0#32) := by
    rw [cal_crc32_xor, foldl_dataBits_xor, hregister, hdata]
  rwa [BitVec.xor_zero, UInt8.zero_xor] at hsum

/-- One byte takes the reflected register where the bit-by-bit definition takes
it. -/
theorem reverse_cal_crc32 (c : BitVec 32) (b : UInt8) :
    (cal_crc32 c b).reverse = (shiftReflected crc32Poly)^[8] (c.reverse ^^^ b.toBitVec.setWidth 32) := by
  have htop : (top (dataBits b) : BitVec 32).reverse = b.toBitVec.setWidth 32 := by
    refine BitVec.eq_of_getLsbD_eq fun i hi => ?_
    rw [BitVec.getLsbD_reverse, getMsbD_top hi, BitVec.getLsbD_setWidth, List.getD_eq_getElem?_getD]
    by_cases hlt : i < 8
    · simp [dataBits, hlt, hi]
    · simp [dataBits, hlt, BitVec.getLsbD_of_ge b.toBitVec i (Nat.not_lt.mp hlt)]
  rw [cal_crc32_eq, reverse_foldl_feed crc32Poly (by rw [length_dataBits]; decide), htop]
  rfl

/-- `get_crc32` is CRC-32. -/
theorem get_crc32_eq_crc32 (data : List UInt8) : get_crc32 data = crc32 data := by
  have hreverse (c : BitVec 32) : setBits (31 - ·) c.getLsbD = c.reverse := by
    refine BitVec.eq_of_getLsbD_eq fun i hi => ?_
    have hbit := @getLsbD_setBits (fun i => 31 - i) c.getLsbD (31 - i) (by omega) (by omega) (by intro k hk hkeq; omega)
    rw [show 31 - (31 - i) = i by omega] at hbit
    rw [hbit, BitVec.getLsbD_reverse, BitVec.getMsbD_eq_getLsbD]
    simp [hi]
  have hrun (c : BitVec 32) : (data.foldl cal_crc32 c).reverse =
      data.foldl (fun c b => (shiftReflected crc32Poly)^[8] (c ^^^ b.toBitVec.setWidth 32)) c.reverse := by
    induction data generalizing c with
    | nil => rfl
    | cons b data ih => rw [List.foldl_cons, ih, reverse_cal_crc32, List.foldl_cons]
  have hones : (0xffffffff : BitVec 32).reverse = 0xffffffff := by decide +kernel
  rw [get_crc32, crc32, hreverse, hrun, hones]

end ZCloud
