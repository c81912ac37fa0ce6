import ZCloud.SecEngine.AesSchedule

open BigEndian Rijndael

namespace ZCloud

/-! ## Blocks -/

theorem byte_shift (b : UInt8) {i j : Nat} {n : UInt32} (hn : UInt32.ofNat ((3 - i) * 8) = n) (hi : i < 4) (hj : j < 4) :
    byte (b.toUInt32 <<< n) j = if i = j then b else 0 := by
  have h := byte_or 0 b hi hj
  have hzero : byte 0 j = 0 := by simp [byte]
  rwa [UInt32.zero_or, hzero, UInt8.zero_or, hn] at h

theorem GETU32_eq (pt : List UInt8) (k : Nat) :
    GETU32 pt k = ofBytes (pt.getD k 0) (pt.getD (k + 1) 0) (pt.getD (k + 2) 0) (pt.getD (k + 3) 0) := by
  have hfirst (b : UInt8) {j : Nat} := @byte_shift b 0 j 24 (by decide) (by omega)
  have hsecond (b : UInt8) {j : Nat} := @byte_shift b 1 j 16 (by decide) (by omega)
  have hthird (b : UInt8) {j : Nat} := @byte_shift b 2 j 8 (by decide) (by omega)
  have hfourth (b : UInt8) {j : Nat} (hj : j < 4) : byte b.toUInt32 j = if 3 = j then b else 0 := by
    have h := @byte_shift b 3 j 0 (by decide) (by omega) hj
    rwa [UInt32.shiftLeft_zero] at h
  simp [eq_ofBytes_iff, GETU32, byte_xor, hfirst, hsecond, hthird, hfourth]

theorem getBlock_putBlock (s : State) : getBlock (putBlock s) = s := by
  simp [getBlock, GETU32_eq, putBlock, PUTU32, bytes]

@[simp]
theorem length_putBlock (s : State) : (putBlock s).length = 16 := rfl

theorem putBlock_getBlock {block : List UInt8} (h : block.length = 16) : putBlock (getBlock block) = block := by
  have hbytes : block = (List.range 16).map fun k => block.getD k 0 := by
    refine List.ext_getElem (by simp [h]) fun k hk _ => ?_
    simp [hk]
  calc
    _ = (List.range 16).map fun k => block.getD k 0 := by
      simp [getBlock, GETU32_eq, putBlock, PUTU32, bytes, List.range_succ]
    _ = block := hbytes.symm

/-! ## The code computes the cipher of the standard -/

variable {key : AES_KEY} {ukey : List UInt32}

theorem AES_KEY.Scheduled.words_eq (h : key.Scheduled ukey) {i : Nat} (hi : i ≤ key.rounds) :
    key.words (4 * i) = roundKey (schedule box ukey) i := by
  rw [AES_KEY.words, roundKey, h.rk _ (by omega), h.rk _ (by omega), h.rk _ (by omega), h.rk _ (by omega)]

/-- What both directions do with the round keys. -/
theorem fullRounds_half (round : State → State → State) (heven : ∃ r, key.rounds = 2 * (r + 1)) (s : State) :
    fullRounds round key (key.rounds / 2) 0 s =
      (((List.range' 1 (key.rounds - 1)).map fun i => key.words (4 * i)).foldl round s, 4 * key.rounds) := by
  obtain ⟨r, hr⟩ := heven
  have hhalf : key.rounds / 2 = r + 1 := by omega
  have hinner : key.rounds - 1 = 2 * r + 1 := by omega
  have hlast : 4 * key.rounds = 0 + 8 * (r + 1) := by omega
  rw [hhalf, fullRounds_eq, hinner, hlast]
  simp only [Nat.zero_add]

theorem AES_encrypt_eq (h : key.Scheduled ukey) (input : List UInt8) :
    AES_encrypt input key = putBlock (encrypt box ukey (getBlock input)) := by
  have hadd : State.add = (spn box).add := rfl
  have hround : encryptRound = (spn box).round := funext fun s => funext fun k => encryptRound_eq s k
  have hinner : (List.range' 1 (key.rounds - 1)).map (fun i => key.words (4 * i)) =
      innerKeys (schedule box ukey) key.rounds := by
    refine List.map_congr_left fun i hi => h.words_eq ?_
    have hi := List.mem_range'_1.mp hi
    omega
  have hfirst : key.words 0 = roundKey (schedule box ukey) 0 := h.words_eq (Nat.zero_le _)
  simp only [AES_encrypt]
  rw [fullRounds_half _ h.even, hinner, hfirst, encryptLast_eq, h.words_eq (Nat.le_refl _), hround, h.rounds, encrypt, Spn.encrypt,
    hadd]

/-- The same for decryption, with the key that `AES_set_decrypt_key` makes of
that for encryption. -/
theorem AES_decrypt_eq {ek dk : AES_KEY} (h : ek.Scheduled ukey) (hrounds : dk.rounds = ek.rounds)
    (hwords : ∀ m ≤ ek.rounds, dk.words (4 * m) =
      if 1 ≤ m ∧ m < ek.rounds then (ek.words (4 * (ek.rounds - m))).map mixColumnInv else ek.words (4 * (ek.rounds - m)))
    (input : List UInt8) : AES_decrypt input dk = putBlock (decrypt box ukey (getBlock input)) := by
  have hadd : State.add = (spn box).add := rfl
  have hround : decryptRound = (spn box).invRound := funext fun s => funext fun k => decryptRound_eq s k
  obtain ⟨r, hr⟩ := h.even
  have hinner : (List.range' 1 (ek.rounds - 1)).map (fun i => dk.words (4 * i)) =
      (innerKeys (schedule box ukey) ek.rounds).reverse.map (State.map mixColumnInv) := by
    refine List.ext_getElem (by simp [innerKeys]) fun k hk hk' => ?_
    have hlt : k < ek.rounds - 1 := by simpa using hk
    have hback : 1 + (ek.rounds - 1 - 1 - k) = ek.rounds - (1 + k) := by omega
    simp [innerKeys, hwords (1 + k) (by omega), hback, h.words_eq (Nat.sub_le _ _), show 1 + k < ek.rounds by omega]
  have hfirst : dk.words 0 = roundKey (schedule box ukey) ek.rounds := by
    have hword := hwords 0 (Nat.zero_le _)
    rwa [if_neg (by omega), Nat.sub_zero, h.words_eq (Nat.le_refl _)] at hword
  have hlast : dk.words (4 * ek.rounds) = roundKey (schedule box ukey) 0 := by
    rw [hwords _ (Nat.le_refl _), if_neg (by omega), Nat.sub_self]
    exact h.words_eq (Nat.zero_le _)
  simp only [AES_decrypt]
  rw [fullRounds_half _ ⟨r, by omega⟩, hrounds, hinner, hfirst, decryptLast_eq, hlast, hround, h.rounds, decrypt, Spn.decrypt, hadd]
  rfl

/-- `AES_encrypt` computes the cipher of the standard for the key that
`AES_set_encrypt_key` was given. -/
theorem AES_encrypt_standard (userKey : List UInt8) {bits : Nat} (hbits : aesBits bits) (key : AES_KEY) :
    ∃ ek, AES_set_encrypt_key (some userKey) bits (some key) = .ok ek ∧
      ∀ input, AES_encrypt input ek = putBlock (encrypt box (keyWords userKey (bits / 32)) (getBlock input)) := by
  obtain ⟨ek, hek, hscheduled⟩ := AES_set_encrypt_key_spec userKey hbits key
  exact ⟨ek, hek, AES_encrypt_eq hscheduled⟩

theorem AES_encrypt_standard_128 :
    ∃ ek, AES_set_encrypt_key (some (List.replicate 16 1)) 128 (some ⟨Vector.replicate 60 0, 0⟩) = .ok ek ∧
      ∀ input, AES_encrypt input ek = putBlock (encrypt box (keyWords (List.replicate 16 1) (128 / 32)) (getBlock input)) :=
  AES_encrypt_standard _ (Or.inl rfl) _

/-- The example that the standard gives. -/
example : encrypt box [0x2b7e1516, 0x28aed2a6, 0xabf71588, 0x09cf4f3c] ⟨0x3243f6a8, 0x885a308d, 0x313198a2, 0xe0370734⟩ =
    ⟨0x3925841d, 0x02dc09fb, 0xdc118597, 0x196a0b32⟩ := by decide +kernel

theorem AES_schedules_inverse (userKey : List UInt8) {bits : Nat} (hbits : aesBits bits) (key key' : AES_KEY) :
    ∃ ek dk, AES_set_encrypt_key (some userKey) bits (some key) = .ok ek ∧
      AES_set_decrypt_key (some userKey) bits (some key') = .ok dk ∧
      ∀ block, block.length = 16 → AES_decrypt (AES_encrypt block ek) dk = block := by
  obtain ⟨ek, hek, hscheduled⟩ := AES_set_encrypt_key_spec userKey hbits key
  obtain ⟨ek', hek', hscheduled'⟩ := AES_set_encrypt_key_spec userKey hbits key'
  obtain ⟨dk, hdk, hrounds, hwords⟩ := AES_set_decrypt_key_eq hek' hscheduled'.room
  refine ⟨ek, dk, hek, hdk, fun block hblock => ?_⟩
  rw [AES_encrypt_eq hscheduled, AES_decrypt_eq hscheduled' hrounds hwords, getBlock_putBlock, decrypt_encrypt,
    putBlock_getBlock hblock]

/-- The keys that the code makes of a key are those of a cipher and its inverse. -/
theorem AES_decrypt_AES_encrypt (userKey : List UInt8) {bits : Nat} (hbits : aesBits bits) (key key' : AES_KEY) :
    ∃ ek dk, AES_set_encrypt_key (some userKey) bits (some key) = .ok ek ∧
      AES_set_decrypt_key (some userKey) bits (some key') = .ok dk ∧
      ∀ block, block.length = 16 → AES_decrypt (AES_encrypt block ek) dk = block :=
  AES_schedules_inverse userKey hbits key key'

theorem AES_decrypt_AES_encrypt_256 :
    ∃ ek dk, AES_set_encrypt_key (some (List.replicate 32 1)) 256 (some ⟨Vector.replicate 60 0, 0⟩) = .ok ek ∧
      AES_set_decrypt_key (some (List.replicate 32 1)) 256 (some ⟨Vector.replicate 60 9, 7⟩) = .ok dk ∧
      ∀ block, block.length = 16 → AES_decrypt (AES_encrypt block ek) dk = block :=
  AES_decrypt_AES_encrypt _ (Or.inr (Or.inr rfl)) _ _

end ZCloud
