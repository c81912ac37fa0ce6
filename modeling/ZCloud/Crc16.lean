import ZCloud.Crc
import ZCloud.Lib.Lfsr
import Mathlib.Data.Nat.Bitwise

open Lfsr

namespace ZCloud

def crc_ta_8 : List Nat :=
  [ 0x0000, 0x1021, 0x2042, 0x3063, 0x4084, 0x50a5, 0x60c6, 0x70e7,
    0x8108, 0x9129, 0xa14a, 0xb16b, 0xc18c, 0xd1ad, 0xe1ce, 0xf1ef,
    0x1231, 0x0210, 0x3273, 0x2252, 0x52b5, 0x4294, 0x72f7, 0x62d6,
    0x9339, 0x8318, 0xb37b, 0xa35a, 0xd3bd, 0xc39c, 0xf3ff, 0xe3de,
    0x2462, 0x3443, 0x0420, 0x1401, 0x64e6, 0x74c7, 0x44a4, 0x5485,
    0xa56a, 0xb54b, 0x8528, 0x9509, 0xe5ee, 0xf5cf, 0xc5ac, 0xd58d,
    0x3653, 0x2672, 0x1611, 0x0630, 0x76d7, 0x66f6, 0x5695, 0x46b4,
    0xb75b, 0xa77a, 0x9719, 0x8738, 0xf7df, 0xe7fe, 0xd79d, 0xc7bc,
    0x48c4, 0x58e5, 0x6886, 0x78a7, 0x0840, 0x1861, 0x2802, 0x3823,
    0xc9cc, 0xd9ed, 0xe98e, 0xf9af, 0x8948, 0x9969, 0xa90a, 0xb92b,
    0x5af5, 0x4ad4, 0x7ab7, 0x6a96, 0x1a71, 0x0a50, 0x3a33, 0x2a12,
    0xdbfd, 0xcbdc, 0xfbbf, 0xeb9e, 0x9b79, 0x8b58, 0xbb3b, 0xab1a,
    0x6ca6, 0x7c87, 0x4ce4, 0x5cc5, 0x2c22, 0x3c03, 0x0c60, 0x1c41,
    0xedae, 0xfd8f, 0xcdec, 0xddcd, 0xad2a, 0xbd0b, 0x8d68, 0x9d49,
    0x7e97, 0x6eb6, 0x5ed5, 0x4ef4, 0x3e13, 0x2e32, 0x1e51, 0x0e70,
    0xff9f, 0xefbe, 0xdfdd, 0xcffc, 0xbf1b, 0xaf3a, 0x9f59, 0x8f78,
    0x9188, 0x81a9, 0xb1ca, 0xa1eb, 0xd10c, 0xc12d, 0xf14e, 0xe16f,
    0x1080, 0x00a1, 0x30c2, 0x20e3, 0x5004, 0x4025, 0x7046, 0x6067,
    0x83b9, 0x9398, 0xa3fb, 0xb3da, 0xc33d, 0xd31c, 0xe37f, 0xf35e,
    0x02b1, 0x1290, 0x22f3, 0x32d2, 0x4235, 0x5214, 0x6277, 0x7256,
    0xb5ea, 0xa5cb, 0x95a8, 0x8589, 0xf56e, 0xe54f, 0xd52c, 0xc50d,
    0x34e2, 0x24c3, 0x14a0, 0x0481, 0x7466, 0x6447, 0x5424, 0x4405,
    0xa7db, 0xb7fa, 0x8799, 0x97b8, 0xe75f, 0xf77e, 0xc71d, 0xd73c,
    0x26d3, 0x36f2, 0x0691, 0x16b0, 0x6657, 0x7676, 0x4615, 0x5634,
    0xd94c, 0xc96d, 0xf90e, 0xe92f, 0x99c8, 0x89e9, 0xb98a, 0xa9ab,
    0x5844, 0x4865, 0x7806, 0x6827, 0x18c0, 0x08e1, 0x3882, 0x28a3,
    0xcb7d, 0xdb5c, 0xeb3f, 0xfb1e, 0x8bf9, 0x9bd8, 0xabbb, 0xbb9a,
    0x4a75, 0x5a54, 0x6a37, 0x7a16, 0x0af1, 0x1ad0, 0x2ab3, 0x3a92,
    0xfd2e, 0xed0f, 0xdd6c, 0xcd4d, 0xbdaa, 0xad8b, 0x9de8, 0x8dc9,
    0x7c26, 0x6c07, 0x5c64, 0x4c45, 0x3ca2, 0x2c83, 0x1ce0, 0x0cc1,
    0xef1f, 0xff3e, 0xcf5d, 0xdf7c, 0xaf9b, 0xbfba, 0x8fd9, 0x9ff8,
    0x6e17, 0x7e36, 0x4e55, 0x5e74, 0x2e93, 0x3eb2, 0x0ed1, 0x1ef0 ]

def crc_ta_4 : List Nat :=
  [ 0x0000, 0x1021, 0x2042, 0x3063, 0x4084, 0x50a5, 0x60c6, 0x70e7,
    0x8108, 0x9129, 0xa14a, 0xb16b, 0xc18c, 0xd1ad, 0xe1ce, 0xf1ef ]

def crc_cal_by_byte (ptr : List UInt8) : Nat :=
  ptr.foldl (fun crc b =>
    let high := crc / 256
    let crc := u16 (crc * 256)
    u16 (crc ^^^ crc_ta_8.getD (high ^^^ b.toNat) 0)) 0

def crc_cal_by_halfbyte (ptr : List UInt8) : Nat :=
  ptr.foldl (fun crc b =>
    let high := crc / 4096 % 256
    let crc := u16 (crc * 16)
    let crc := u16 (crc ^^^ crc_ta_4.getD (high ^^^ (b.toNat / 16)) 0)
    let high := crc / 4096 % 256
    let crc := u16 (crc * 16)
    u16 (crc ^^^ crc_ta_4.getD (high ^^^ (b.toNat &&& 0x0f)) 0)) 0

/-- `CRC_CCITT` as a polynomial. -/
def ccitt : BitVec 16 := 0x1021

/-- The bits of a byte in the order in which the loop goes through them. -/
def byteBits (b : UInt8) : List Bool := lowBits 8 b.toNat

def messageBits (ptr : List UInt8) : List Bool := ptr.flatMap byteBits

theorem messageBits_cons (b : UInt8) (ptr : List UInt8) : messageBits (b :: ptr) = byteBits b ++ messageBits ptr :=
  List.flatMap_cons

/-- A round of the loop divides by the polynomial. -/
theorem crcRound_eq (b : UInt8) (x : BitVec 16) (i : Nat) :
    crcRound b x.toNat (2 ^ i) = (feed ccitt x (b.toNat.testBit i)).toNat := by
  have hx : x.toNat < 65536 := x.isLt
  have hdouble : u32 (x.toNat * 2) = 2 * x.toNat := by
    rw [u32_of_lt (by omega), Nat.mul_comm]
  have htest (n j : Nat) : n &&& 2 ^ j ≠ 0 ↔ n.testBit j = true := by
    rw [Nat.and_two_pow]
    cases n.testBit j with
    | true => simp
    | false => simp
  have hreduce : (if 2 * x.toNat &&& 0x10000 ≠ 0 then 2 * x.toNat ^^^ 0x11021 else 2 * x.toNat) =
      (shift ccitt x).toNat := by
    have hbit : (2 * x.toNat).testBit 16 = x.msb := by
      rw [Nat.testBit_eq_decide_div_mod_eq, BitVec.msb_eq_decide]
      exact decide_eq_decide.mpr (by omega)
    have hcond : 2 * x.toNat &&& 0x10000 ≠ 0 ↔ x.msb = true := by
      rw [← hbit]
      exact htest _ 16
    unfold shift
    cases hmsb : x.msb with
    | false =>
      have hlt : 2 * x.toNat < 65536 := BitVec.msb_eq_false_iff_two_mul_lt.mp hmsb
      rw [if_neg (by rw [hcond, hmsb]; decide), if_neg (by decide), BitVec.toNat_shiftLeft, Nat.shiftLeft_eq]
      omega
    | true =>
      have hge : 65536 ≤ 2 * x.toNat := BitVec.msb_eq_true_iff_two_mul_ge.mp hmsb
      -- the bit that is carried out is the one that `0x11021` has beyond `CRC_CCITT`
      have hdiv : (2 * x.toNat ^^^ 0x11021) / 2 ^ 16 = 0 := by
        rw [Nat.xor_div_two_pow, show 2 * x.toNat / 2 ^ 16 = 1 by omega]
        rfl
      have hmod : (2 * x.toNat ^^^ 0x11021) % 2 ^ 16 = 2 * x.toNat % 2 ^ 16 ^^^ 0x1021 := Nat.xor_mod_two_pow
      rw [if_pos (by rw [hcond, hmsb]), if_pos rfl, BitVec.toNat_xor, BitVec.toNat_shiftLeft, Nat.shiftLeft_eq,
        Nat.pow_one, Nat.mul_comm x.toNat]
      change _ = 2 * x.toNat % 2 ^ 16 ^^^ 0x1021
      rw [← hmod]
      omega
  unfold crcRound feed
  dsimp only
  rw [hdouble, hreduce]
  cases hbit : b.toNat.testBit i with
  | true =>
    rw [if_pos ((htest _ _).mpr hbit), if_pos rfl]
    rfl
  | false => rw [if_neg (by rw [htest, hbit]; decide), if_neg (by decide)]

theorem foldl_crcRound (b : UInt8) (x : BitVec 16) :
    [0x80, 0x40, 0x20, 0x10, 0x08, 0x04, 0x02, 0x01].foldl (crcRound b) x.toNat =
      ((byteBits b).foldl (feed ccitt) x).toNat := by
  have hrounds (l : List Nat) (x : BitVec 16) : (l.map (2 ^ ·)).foldl (crcRound b) x.toNat =
      ((l.map (b.toNat.testBit ·)).foldl (feed ccitt) x).toNat := by
    induction l generalizing x with
    | nil => rfl
    | cons i l ih => rw [List.map_cons, List.foldl_cons, crcRound_eq, ih, List.map_cons, List.foldl_cons]
  exact hrounds [7, 6, 5, 4, 3, 2, 1, 0] x

/-- What goes through the bytes and does to the register what their bits do,
ends with the remainder of the message. -/
theorem foldl_eq_remainder {f : Nat → UInt8 → Nat}
    (hf : ∀ b (x : BitVec 16), f x.toNat b = ((byteBits b).foldl (feed ccitt) x).toNat) (ptr : List UInt8) :
    ptr.foldl f 0 = ((messageBits ptr).foldl (feed ccitt) 0#16).toNat := by
  have hrun (x : BitVec 16) : ptr.foldl f x.toNat = ((messageBits ptr).foldl (feed ccitt) x).toNat := by
    induction ptr generalizing x with
    | nil => rfl
    | cons b ptr ih => rw [List.foldl_cons, hf, ih, messageBits_cons, List.foldl_append]
  exact hrun 0#16

theorem crc_cal_by_bit_eq (ptr : List UInt8) :
    crc_cal_by_bit ptr = ((messageBits ptr).foldl (feed ccitt) 0#16).toNat :=
  foldl_eq_remainder foldl_crcRound ptr

/-- A table of what the polynomial adds for each value of `n` bits does the work
of `n` rounds. -/
theorem table_step {n v : Nat} {entry : Nat → Nat} (hn : n ≤ 16) (hv : v < 2 ^ n)
    (hentry : ∀ i < 2 ^ n, entry i = ((shift ccitt)^[n] (BitVec.ofNat 16 i <<< (16 - n))).toNat) (x : BitVec 16) :
    u16 (u16 (x.toNat * 2 ^ n) ^^^ entry (x.toNat / 2 ^ (16 - n) ^^^ v)) =
      ((lowBits n v).foldl (feed ccitt) x).toNat := by
  have hhigh : x.toNat / 2 ^ (16 - n) < 2 ^ n := by
    rw [Nat.div_lt_iff_lt_mul (Nat.two_pow_pos _), ← Nat.pow_add, Nat.add_sub_cancel' hn]
    exact x.isLt
  have hindex : x >>> (16 - n) ^^^ BitVec.ofNat 16 v = BitVec.ofNat 16 (x.toNat / 2 ^ (16 - n) ^^^ v) := by
    rw [BitVec.ofNat_xor]
    congr 1
    refine BitVec.eq_of_toNat_eq ?_
    rw [BitVec.toNat_ushiftRight, Nat.shiftRight_eq_div_pow, BitVec.toNat_ofNat]
    exact (Nat.mod_eq_of_lt (Nat.lt_of_le_of_lt (Nat.div_le_self ..) x.isLt)).symm
  have hmove : u16 (x.toNat * 2 ^ n) = (x <<< n).toNat := by
    rw [BitVec.toNat_shiftLeft, Nat.shiftLeft_eq]
    rfl
  rw [foldl_feed_lowBits ccitt hn, hindex, hentry _ (Nat.xor_lt_two_pow hhigh hv), hmove, ← BitVec.toNat_xor,
    BitVec.xor_comm]
  exact u16_of_lt (BitVec.isLt _)

private theorem getD_map_range {n i : Nat} (f : Nat → Nat) (hi : i < n) : ((List.range n).map f).getD i 0 = f i := by
  simp [hi]

private theorem crc_ta_8_eq_map :
    crc_ta_8 = (List.range 256).map fun i => ((shift ccitt)^[8] (BitVec.ofNat 16 i <<< 8)).toNat := by
  decide +kernel

private theorem crc_ta_4_eq_map :
    crc_ta_4 = (List.range 16).map fun i => ((shift ccitt)^[4] (BitVec.ofNat 16 i <<< 12)).toNat := by
  decide +kernel

private theorem crc_ta_8_eq : ∀ i < 256, crc_ta_8.getD i 0 = ((shift ccitt)^[8] (BitVec.ofNat 16 i <<< 8)).toNat := by
  intro i hi
  rw [crc_ta_8_eq_map]
  exact getD_map_range _ hi

private theorem crc_ta_4_eq : ∀ i < 16, crc_ta_4.getD i 0 = ((shift ccitt)^[4] (BitVec.ofNat 16 i <<< 12)).toNat := by
  intro i hi
  rw [crc_ta_4_eq_map]
  exact getD_map_range _ hi

theorem lowBits_halves (v : Nat) : lowBits 8 v = lowBits 4 (v / 16) ++ lowBits 4 (v &&& 0x0f) := by
  have hhigh (i : Nat) : (v / 16).testBit i = v.testBit (i + 4) := Nat.testBit_div_two_pow (n := 4) v i
  have hlow : v &&& 0x0f = v % 2 ^ 4 := Nat.and_two_pow_sub_one_eq_mod v 4
  simp only [lowBits, List.range_succ, List.range_zero, hlow, Nat.testBit_mod_two_pow, hhigh]
  simp

theorem crc_cal_by_byte_eq (ptr : List UInt8) :
    crc_cal_by_byte ptr = ((messageBits ptr).foldl (feed ccitt) 0#16).toNat :=
  foldl_eq_remainder (fun b x => table_step (n := 8) (by decide) b.toNat_lt crc_ta_8_eq x) ptr

theorem crc_cal_by_halfbyte_eq (ptr : List UInt8) :
    crc_cal_by_halfbyte ptr = ((messageBits ptr).foldl (feed ccitt) 0#16).toNat := by
  refine foldl_eq_remainder (fun b x => ?_) ptr
  have hstep {v : Nat} (hv : v < 16) (x : BitVec 16) :
      u16 (u16 (x.toNat * 16) ^^^ crc_ta_4.getD (x.toNat / 4096 % 256 ^^^ v) 0) =
        ((lowBits 4 v).foldl (feed ccitt) x).toNat := by
    have hx := x.isLt
    rw [Nat.mod_eq_of_lt (by omega)]
    exact table_step (n := 4) (by decide) hv crc_ta_4_eq x
  have hlow : b.toNat &&& 0x0f < 16 := Nat.lt_of_le_of_lt Nat.and_le_right (by decide)
  have hb := b.toNat_lt
  dsimp only
  rw [hstep (by omega), hstep hlow, byteBits, lowBits_halves, List.foldl_append]

theorem crc_cal_by_bit_lt (ptr : List UInt8) : crc_cal_by_bit ptr < 65536 := by
  rw [crc_cal_by_bit_eq]
  exact BitVec.isLt _

theorem crc16_ccitt_eq (ptr : List UInt8) : crc16_ccitt ptr = crc_cal_by_bit ptr := u16_of_lt (crc_cal_by_bit_lt ptr)

/-- The bit-serial division and the two table-driven ones give the same
checksum. -/
theorem crc_cal_agree (ptr : List UInt8) :
    crc_cal_by_byte ptr = crc_cal_by_bit ptr ∧ crc_cal_by_halfbyte ptr = crc_cal_by_bit ptr ∧
      crc16_ccitt ptr = crc_cal_by_bit ptr ∧ crc_cal_by_bit ptr < 65536 := by
  refine ⟨?_, ?_, crc16_ccitt_eq ptr, crc_cal_by_bit_lt ptr⟩
  · rw [crc_cal_by_byte_eq, crc_cal_by_bit_eq]
  · rw [crc_cal_by_halfbyte_eq, crc_cal_by_bit_eq]

end ZCloud
