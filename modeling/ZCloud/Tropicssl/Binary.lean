import ZCloud.Tropicssl.Mpi

open Memory Limbs

namespace ZCloud

def TROPICSSL_ERR_MPI_BUFFER_TOO_SMALL : Int := -0x0008

/-- The number of limbs that take `i` bytes. -/
def CHARS_TO_LIMBS (i : Nat) : Nat := (i + ciL - 1) / ciL

/-- The number that the bytes of a buffer stand for, the most significant one
first. -/
def bufNumber (buf : List UInt8) : Nat := Nat.ofDigits 256 (buf.reverse.map UInt8.toNat)

theorem byte_lt_of_mem {bs : List UInt8} {d : Nat} (h : d ∈ bs.map UInt8.toNat) : d < 256 := by
  obtain ⟨b, -, rfl⟩ := List.mem_map.mp h
  exact b.toNat_lt

theorem bufNumber_lt (buf : List UInt8) : bufNumber buf < 256 ^ buf.length := by
  have hlt := Nat.ofDigits_lt_base_pow_length (by decide) fun d (h : d ∈ buf.reverse.map UInt8.toNat) => byte_lt_of_mem h
  rwa [List.length_map, List.length_reverse] at hlt

theorem bufNumber_inj {buf buf' : List UInt8} (hlen : buf.length = buf'.length) (h : bufNumber buf = bufNumber buf') : buf = buf' := by
  have hdigits := Nat.ofDigits_inj_of_len_eq (by decide) (by simpa using hlen) (fun _ => byte_lt_of_mem) (fun _ => byte_lt_of_mem) h
  exact List.reverse_inj.mp ((List.map_inj_right fun _ _ => UInt8.toNat_inj.mp).mp hdigits)

/-- The bytes in front of the first one that is not zero. -/
def leadingZeros (buf : List UInt8) : Nat := (buf.takeWhile (· = 0)).length

theorem leadingZeros_zero (buf : List UInt8) : leadingZeros (0 :: buf) = leadingZeros buf + 1 := by
  simp [leadingZeros]

theorem leadingZeros_of_ne {b : UInt8} (h : b ≠ 0) (buf : List UInt8) : leadingZeros (b :: buf) = 0 := by
  simp [leadingZeros, h]

theorem bufNumber_cons (b : UInt8) (buf : List UInt8) : bufNumber (b :: buf) = bufNumber buf + 256 ^ buf.length * b.toNat := by
  rw [bufNumber, List.reverse_cons, List.map_append, Nat.ofDigits_append, List.length_map, List.length_reverse, bufNumber]
  simp

theorem bufNumber_drop_leadingZeros (buf : List UInt8) : bufNumber (buf.drop (leadingZeros buf)) = bufNumber buf := by
  induction buf with
  | nil => rfl
  | cons b buf ih =>
    by_cases hb : b = 0
    · rw [hb, leadingZeros_zero, List.drop_succ_cons, ih, bufNumber_cons]
      simp
    · rw [leadingZeros_of_ne hb, List.drop_zero]

/-- The bytes behind the leading zeros are no more than the number takes. -/
theorem length_sub_leadingZeros_le {buf : List UInt8} {k : Nat} (h : bufNumber buf < 256 ^ k) :
    buf.length - leadingZeros buf ≤ k := by
  induction buf with
  | nil => exact Nat.zero_le k
  | cons b buf ih =>
    rw [bufNumber_cons] at h
    by_cases hb : b = 0
    · have hle := ih (Nat.lt_of_le_of_lt (Nat.le_add_right _ _) h)
      rw [hb, leadingZeros_zero, List.length_cons]
      omega
    · have hpos : 1 ≤ b.toNat := Nat.one_le_iff_ne_zero.mpr fun hzero => hb (UInt8.toNat_inj.mp hzero)
      have hlt : 256 ^ buf.length < 256 ^ k :=
        calc 256 ^ buf.length = 256 ^ buf.length * 1 := (Nat.mul_one _).symm
          _ ≤ 256 ^ buf.length * b.toNat := Nat.mul_le_mul_left _ hpos
          _ ≤ bufNumber buf + 256 ^ buf.length * b.toNat := Nat.le_add_left _ _
          _ < 256 ^ k := h
      rw [leadingZeros_of_ne hb, List.length_cons]
      exact (Nat.pow_lt_pow_iff_right (by decide)).mp hlt

/-- The byte `j` of the limbs, on top of what is in its place. -/
def orByte (p : List UInt32) (j : Nat) (b : UInt8) : List UInt32 :=
  p.set (j / ciL) (p.getD (j / ciL) 0 ||| (b.toUInt32 <<< UInt32.ofNat ((j % ciL) <<< 3)))

/-- The loop that reads the bytes, the last one first. -/
def readBytes (p : List UInt32) : (bytes : List UInt8) → (j : Nat) → List UInt32
  | [], _ => p
  | b :: bytes, j => readBytes (orByte p j b) bytes (j + 1)

theorem length_readBytes (p : List UInt32) (bytes : List UInt8) (j : Nat) : (readBytes p bytes j).length = p.length := by
  induction bytes generalizing p j with
  | nil => rfl
  | cons b bytes ih => rw [readBytes, ih, orByte, List.length_set]

def mpi_read_binary (X : mpi) (buf : List UInt8) : Except MpiError mpi := do
  let n := leadingZeros buf
  let X ← mpi_grow X (CHARS_TO_LIMBS (buf.length - n))
  let X := mpi_lset X 0
  return X.setLimbs (readBytes X.p (buf.drop n).reverse 0) (length_readBytes X.p _ 0)

def mpi_size (X : mpi) : Except MpiError Nat := do
  return ((← mpi_msb X) + 7) >>> 3

/-- The byte `j` of the limbs. -/
def byteAt (p : List UInt32) (j : Nat) : UInt8 := (p.getD (j / ciL) 0 >>> UInt32.ofNat ((j % ciL) <<< 3)).toUInt8

/-- The loop that writes `n` bytes from the byte `j` on, from the end of the buffer
to its front. -/
def writeBytes (p : List UInt32) (buf : List UInt8) : (n j : Nat) → List UInt8
  | 0, _ => buf
  | n + 1, j => writeBytes p (buf.set (buf.length - 1 - j) (byteAt p j)) n (j + 1)

def mpi_write_binary (X : mpi) (buflen : Nat) : Except MpiError (List UInt8) := do
  let n ← mpi_size X
  if buflen < n then throw (.status TROPICSSL_ERR_MPI_BUFFER_TOO_SMALL)
  return writeBytes X.p (List.replicate buflen 0) n 0

section

variable {p : List UInt32} {j : Nat}

theorem toNat_place (j : Nat) : (UInt32.ofNat ((j % ciL) <<< 3)).toNat % 32 = 8 * (j % 4) := by
  have hlt : j % 4 < 4 := Nat.mod_lt _ (by decide)
  rw [ciL, Nat.shiftLeft_eq, UInt32.toNat_ofNat']
  omega

theorem pow_place (j : Nat) : 256 ^ j = 4294967296 ^ (j / 4) * 2 ^ (8 * (j % 4)) := by
  have hlimb : (4294967296 : Nat) = 256 ^ 4 := by norm_num
  have hbyte : (256 : Nat) = 2 ^ 8 := by norm_num
  rw [hlimb, ← Nat.pow_mul, Nat.pow_mul 2, ← hbyte, ← Nat.pow_add, Nat.div_add_mod]

/-- A byte that nothing stands above is added in its place. -/
theorem val_orByte (b : UInt8) (hp : Limbs.val p < 256 ^ j) (hj : j / 4 < p.length) :
    Limbs.val (orByte p j b) = Limbs.val p + 256 ^ j * b.toNat := by
  have hk : j % 4 < 4 := Nat.mod_lt _ (by decide)
  have hb := b.toNat_lt
  have hlimb := toNat_getD p (j / 4)
  have hlow : (p.getD (j / 4) 0).toNat < 2 ^ (8 * (j % 4)) := by
    rw [hlimb]
    refine Nat.lt_of_le_of_lt (Nat.mod_le _ _) (Nat.div_lt_of_lt_mul ?_)
    rwa [← pow_place]
  have hshift : (b.toUInt32 <<< UInt32.ofNat ((j % ciL) <<< 3)).toNat = b.toNat <<< (8 * (j % 4)) := by
    rw [UInt32.toNat_shiftLeft, toNat_place, UInt8.toNat_toUInt32, Nat.mod_eq_of_lt]
    rw [Nat.shiftLeft_eq]
    calc b.toNat * 2 ^ (8 * (j % 4)) < 2 ^ 8 * 2 ^ (8 * (j % 4)) := Nat.mul_lt_mul_of_pos_right hb (Nat.two_pow_pos _)
      _ = 2 ^ (8 + 8 * (j % 4)) := (Nat.pow_add 2 8 _).symm
      _ ≤ 2 ^ 32 := Nat.pow_le_pow_right (by decide) (by omega)
  have hset := ofDigits_set_add (b := 4294967296) (l := p.map UInt32.toNat)
    ((p.getD (j / 4) 0).toNat ||| b.toNat <<< (8 * (j % 4))) (by simpa using hj)
  rw [getD_map_toNat, Nat.or_comm, ← Nat.shiftLeft_add_eq_or_of_lt hlow, Nat.shiftLeft_eq, Nat.mul_add] at hset
  have hplace : 256 ^ j * b.toNat = 4294967296 ^ (j / 4) * (b.toNat * 2 ^ (8 * (j % 4))) := by
    rw [pow_place]
    ring
  rw [Limbs.val, orByte, List.map_set, UInt32.toNat_or, hshift, Nat.or_comm, ciL, ← Nat.shiftLeft_add_eq_or_of_lt hlow,
    Nat.shiftLeft_eq, hplace, Limbs.val]
  omega

theorem val_readBytes {bytes : List UInt8} (hp : Limbs.val p < 256 ^ j) (hroom : j + bytes.length ≤ 4 * p.length) :
    Limbs.val (readBytes p bytes j) = Limbs.val p + 256 ^ j * Nat.ofDigits 256 (bytes.map UInt8.toNat) := by
  induction bytes generalizing p j with
  | nil => simp [readBytes]
  | cons b bytes ih =>
    have hb := b.toNat_lt
    rw [List.length_cons] at hroom
    have hval := val_orByte b hp (by omega)
    have hlt : Limbs.val (orByte p j b) < 256 ^ (j + 1) :=
      calc Limbs.val (orByte p j b) = Limbs.val p + 256 ^ j * b.toNat := hval
        _ < 256 ^ j * 256 := add_mul_lt hp hb
        _ = 256 ^ (j + 1) := rfl
    have hlen : (orByte p j b).length = p.length := List.length_set
    rw [readBytes, ih hlt (by omega), hval, List.map_cons, Nat.ofDigits_cons, Nat.pow_succ]
    ring

theorem toNat_byteAt (p : List UInt32) (j : Nat) : (byteAt p j).toNat = Limbs.val p / 256 ^ j % 256 := by
  have hk : j % 4 < 4 := Nat.mod_lt _ (by decide)
  have hsplit : (4294967296 : Nat) = 2 ^ (8 * (j % 4)) * (256 * 2 ^ (24 - 8 * (j % 4))) := by
    have hbyte : (256 : Nat) = 2 ^ 8 := by norm_num
    rw [hbyte, ← Nat.pow_add, ← Nat.pow_add, show 8 * (j % 4) + (8 + (24 - 8 * (j % 4))) = 32 by omega]
  have hinside (v : Nat) : v % 4294967296 / 2 ^ (8 * (j % 4)) % 256 = v / 2 ^ (8 * (j % 4)) % 256 := by
    rw [hsplit, Nat.mod_mul_right_div_self, Nat.mod_mul_right_mod]
  rw [byteAt, UInt32.toNat_toUInt8, UInt32.toNat_shiftRight, toNat_place, Nat.shiftRight_eq_div_pow, ciL, toNat_getD, pow_place,
    ← Nat.div_div_eq_div_mul]
  exact hinside _

variable {buf : List UInt8} {n : Nat}

theorem reverse_set_back (b : UInt8) (hj : j < buf.length) :
    (buf.set (buf.length - 1 - j) b).reverse = buf.reverse.set j b := by
  refine List.ext_getElem (by simp) fun i hi hi' => ?_
  have hlt : i < buf.length := by simpa using hi'
  simp only [List.getElem_reverse, List.length_set, List.getElem_set]
  split
  · rw [if_pos (by omega)]
  · rw [if_neg (by omega)]

/-- A byte that is written in front of the others. -/
theorem bufNumber_set_back (b : UInt8) (hbuf : bufNumber buf < 256 ^ j) (hj : j < buf.length) :
    bufNumber (buf.set (buf.length - 1 - j) b) = bufNumber buf + 256 ^ j * b.toNat := by
  have hzero : (buf.reverse.map UInt8.toNat).getD j 0 = 0 := by
    rw [getD_of_ofDigits (b := 256) (fun _ => byte_lt_of_mem), ← bufNumber, Nat.div_eq_of_lt hbuf]
  have hset := ofDigits_set_add (b := 256) (l := buf.reverse.map UInt8.toNat) b.toNat (by simpa using hj)
  rw [hzero, Nat.mul_zero, Nat.add_zero] at hset
  rw [bufNumber, reverse_set_back b hj, List.map_set, hset, bufNumber]

theorem length_writeBytes (p : List UInt32) (buf : List UInt8) (n j : Nat) : (writeBytes p buf n j).length = buf.length := by
  induction n generalizing buf j with
  | zero => rfl
  | succ n ih => rw [writeBytes, ih, List.length_set]

theorem bufNumber_writeBytes (hbuf : bufNumber buf = Limbs.val p % 256 ^ j) (hroom : j + n ≤ buf.length) :
    bufNumber (writeBytes p buf n j) = Limbs.val p % 256 ^ (j + n) := by
  induction n generalizing buf j with
  | zero => exact hbuf
  | succ n ih =>
    have hlt : bufNumber buf < 256 ^ j := by
      rw [hbuf]
      exact Nat.mod_lt _ (Nat.pow_pos (by decide))
    have hstep : bufNumber (buf.set (buf.length - 1 - j) (byteAt p j)) = Limbs.val p % 256 ^ (j + 1) := by
      rw [bufNumber_set_back _ hlt (by omega), toNat_byteAt, hbuf, Nat.mod_pow_succ]
    have hlen : j + 1 + n ≤ (buf.set (buf.length - 1 - j) (byteAt p j)).length := by
      rw [List.length_set]
      omega
    rw [writeBytes, ih hstep hlen, Nat.add_right_comm]
    rfl

theorem lt_pow_iff_bytes (x k : Nat) : x < 256 ^ k ↔ (x.size + 7) >>> 3 ≤ k := by
  have hbyte : (256 : Nat) = 2 ^ 8 := by norm_num
  rw [hbyte, ← Nat.pow_mul, ← Nat.size_le, Nat.shiftRight_eq_div_pow]
  omega

theorem mpi_size_eq {X : mpi} (h : X.n ≠ 0) : mpi_size X = .ok ((X.abs.size + 7) >>> 3) := by
  rw [mpi_size, mpi_msb_eq h]
  rfl

theorem bufNumber_zeros (n : Nat) : bufNumber (List.replicate n 0) = 0 := by
  rw [bufNumber, List.reverse_replicate, List.map_replicate]
  exact Nat.ofDigits_replicate_zero

theorem mpi_write_binary_ok {X : mpi} (h : X.n ≠ 0) (hlt : X.abs < 256 ^ n) :
    ∃ out, mpi_write_binary X n = .ok out ∧ out.length = n ∧ bufNumber out = X.abs := by
  have hle := (lt_pow_iff_bytes X.abs n).mp hlt
  have hnumber : bufNumber (writeBytes X.p (List.replicate n 0) ((X.abs.size + 7) >>> 3) 0) =
      X.abs % 256 ^ (0 + (X.abs.size + 7) >>> 3) :=
    bufNumber_writeBytes (by rw [bufNumber_zeros, Nat.pow_zero, Nat.mod_one]) (by simpa using hle)
  have hall : X.abs % 256 ^ (0 + (X.abs.size + 7) >>> 3) = X.abs := by
    rw [Nat.zero_add]
    exact Nat.mod_eq_of_lt ((lt_pow_iff_bytes _ _).mpr (Nat.le_refl _))
  refine ⟨_, ?_, ?_, hnumber.trans hall⟩
  · rw [mpi_write_binary, mpi_size_eq h, mpi_ok_bind, if_neg (Nat.not_lt.mpr hle)]
    rfl
  · rw [length_writeBytes, List.length_replicate]

theorem mpi_write_binary_short {X : mpi} (h : X.n ≠ 0) (hge : 256 ^ n ≤ X.abs) :
    mpi_write_binary X n = .error (.status TROPICSSL_ERR_MPI_BUFFER_TOO_SMALL) := by
  have hlt : n < (X.abs.size + 7) >>> 3 := Nat.lt_of_not_le fun hle => Nat.not_lt.mpr hge ((lt_pow_iff_bytes _ _).mpr hle)
  rw [mpi_write_binary, mpi_size_eq h, mpi_ok_bind, if_pos hlt]
  rfl

/-- A number of 80 bytes behind its leading zeros has room in the limbs. -/
theorem mpi_read_binary_ok (X : mpi) (h : buf.length - leadingZeros buf ≤ 80) :
    ∃ Y, mpi_read_binary X buf = .ok Y ∧ Y.n ≠ 0 ∧ Y.s = 1 ∧ Y.abs = bufNumber buf := by
  have hlimbs : CHARS_TO_LIMBS (buf.length - leadingZeros buf) ≤ MAX_BIGNUM_DIGITS := by
    rw [CHARS_TO_LIMBS, ciL, MAX_BIGNUM_DIGITS]
    omega
  obtain ⟨G, hgrow, -, hG⟩ := mpi_grow_ok (X := X) hlimbs
  have hn := mpi_lset_n G 0
  have hzero : Limbs.val (mpi_lset G 0).p = 0 := mpi_lset_abs G (z := 0) (by decide)
  have hroom : 0 + (buf.drop (leadingZeros buf)).reverse.length ≤ 4 * (mpi_lset G 0).p.length := by
    rw [n_of_grown hG, mpi.n] at hn
    rw [hn, List.length_reverse, List.length_drop, CHARS_TO_LIMBS, ciL]
    omega
  have hread := val_readBytes (p := (mpi_lset G 0).p) (j := 0) (by rw [hzero]; decide) hroom
  rw [hzero, Nat.zero_add, Nat.pow_zero, Nat.one_mul] at hread
  have hok : mpi_read_binary X buf = .ok ((mpi_lset G 0).setLimbs (readBytes (mpi_lset G 0).p (buf.drop (leadingZeros buf)).reverse 0)
      (length_readBytes _ _ 0)) := by
    dsimp only [mpi_read_binary]
    rw [hgrow, mpi_ok_bind]
    rfl
  have hlen : (readBytes (mpi_lset G 0).p (buf.drop (leadingZeros buf)).reverse 0).length = (mpi_lset G 0).n :=
    length_readBytes _ _ 0
  exact ⟨_, hok, ne_of_eq_of_ne hlen (by omega), rfl, hread.trans (bufNumber_drop_leadingZeros buf)⟩

/-- What is read is written as it was. -/
theorem mpi_read_then_write (X : mpi) (h : buf.length - leadingZeros buf ≤ 80) :
    ∃ Y, mpi_read_binary X buf = .ok Y ∧ Y.val = bufNumber buf ∧ mpi_write_binary Y buf.length = .ok buf := by
  obtain ⟨Y, hY, hn, hs, habs⟩ := mpi_read_binary_ok X h
  have hlt := bufNumber_lt buf
  rw [← habs] at hlt
  obtain ⟨out, hout, hlen, hnumber⟩ := mpi_write_binary_ok hn hlt
  have hsame : out = buf := bufNumber_inj hlen (hnumber.trans habs)
  refine ⟨Y, hY, ?_, hout.trans (congrArg Except.ok hsame)⟩
  rw [mpi.val, hs, habs, Int.one_mul]

theorem mpi_read_then_write_short : ∃ Y, mpi_read_binary mpi_init [0, 1, 2, 3, 4, 5] = .ok Y ∧
    Y.val = bufNumber [0, 1, 2, 3, 4, 5] ∧ mpi_write_binary Y 6 = .ok [0, 1, 2, 3, 4, 5] :=
  mpi_read_then_write mpi_init (by decide)

/-- What is written is read as it was, up to its sign; what the buffer is too
short for is refused. -/
theorem mpi_write_then_read {X : mpi} (h : X.n ≠ 0) (n : Nat) :
    if X.abs < 256 ^ n then ∃ out, mpi_write_binary X n = .ok out ∧ out.length = n ∧
      ∀ T, ∃ Y, mpi_read_binary T out = .ok Y ∧ Y.s = 1 ∧ Y.abs = X.abs
    else mpi_write_binary X n = .error (.status TROPICSSL_ERR_MPI_BUFFER_TOO_SMALL) := by
  split
  · rename_i hlt
    obtain ⟨out, hout, hlen, hnumber⟩ := mpi_write_binary_ok h hlt
    have hmax : X.abs < 256 ^ 80 :=
      calc X.abs < 4294967296 ^ X.n := val_lt X.p
        _ ≤ 4294967296 ^ 20 := Nat.pow_le_pow_right (by decide) X.n_le
        _ = 256 ^ 80 := by norm_num
    have hsig : out.length - leadingZeros out ≤ 80 := length_sub_leadingZeros_le (by rwa [hnumber])
    refine ⟨out, hout, hlen, fun T => ?_⟩
    obtain ⟨Y, hY, -, hs, habs⟩ := mpi_read_binary_ok T hsig
    exact ⟨Y, hY, hs, habs.trans hnumber⟩
  · rename_i hge
    exact mpi_write_binary_short h (Nat.le_of_not_lt hge)

theorem mpi_write_then_read_short :
    if mpi.abs ⟨-1, [5, 1], by decide⟩ < 256 ^ 5 then ∃ out, mpi_write_binary ⟨-1, [5, 1], by decide⟩ 5 = .ok out ∧ out.length = 5 ∧
      ∀ T, ∃ Y, mpi_read_binary T out = .ok Y ∧ Y.s = 1 ∧ Y.abs = mpi.abs ⟨-1, [5, 1], by decide⟩
    else mpi_write_binary ⟨-1, [5, 1], by decide⟩ 5 = .error (.status TROPICSSL_ERR_MPI_BUFFER_TOO_SMALL) :=
  mpi_write_then_read (by decide) 5

end

end ZCloud
