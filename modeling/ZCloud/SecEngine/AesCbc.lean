import ZCloud.SecEngine.AesBlock
import ZCloud.SecEngine.CbcCore
import ZCloud.SecEngine.Aes

open Memory

namespace ZCloud

/-- What `struKey` is after a key schedule was asked for, whose status is not
looked at. -/
def scheduleOr (struKey : AES_KEY) : Except Int AES_KEY → AES_KEY
  | .ok key => key
  | .error _ => struKey

/-- `AES_CBC_Encrypt` in memory: the memory it leaves and `*CipherTextLength`.
`struKey` is what the stack holds before. -/
def AES_CBC_EncryptAt (struKey : AES_KEY) (m : Ram) (PlainText PlainTextLength : Nat) (Key : List UInt8) (KeyLength : Nat)
    (IV : List UInt8) (CipherText : Nat) : Ram × Nat :=
  let struKey := scheduleOr struKey (AES_set_encrypt_key (some Key) (KeyLength * 8) (some struKey))
  let (ram, _, outlength) := AES_cbc_core (AES_encrypt · struKey) (AES_decrypt · struKey) m PlainText CipherText
    PlainTextLength IV true
  (ram, outlength)

/-- `AES_CBC_Decrypt` in memory: the memory it leaves, the block at `IV` and
`*PlainTextLength`. -/
def AES_CBC_DecryptAt (struKey : AES_KEY) (m : Ram) (CipherText CipherTextLength : Nat) (Key : List UInt8) (KeyLength : Nat)
    (IV : List UInt8) (PlainText : Nat) : Ram × List UInt8 × Nat :=
  let struKey := scheduleOr struKey (AES_set_decrypt_key (some Key) (KeyLength * 8) (some struKey))
  AES_cbc_core (AES_encrypt · struKey) (AES_decrypt · struKey) m CipherText PlainText CipherTextLength IV false

theorem length_AES_encrypt (block : List UInt8) (key : AES_KEY) : (AES_encrypt block key).length = AES_BLOCK_SIZE := rfl

theorem length_AES_decrypt (block : List UInt8) (key : AES_KEY) : (AES_decrypt block key).length = AES_BLOCK_SIZE := rfl

section

variable {E D : List UInt8 → List UInt8} {m : Ram} {input output back length : Nat} {ivec : List UInt8}

theorem length_pad_eq (text : List UInt8) : (Cbc.pad AES_BLOCK_SIZE text).length = paddedLen text.length := length_pad text

/-- The last byte of a padded text in memory. -/
theorem last_of_bytes_pad {text : List UInt8} {p : Nat} (h : m.bytes p (paddedLen text.length) = Cbc.pad AES_BLOCK_SIZE text) :
    (m (p + (paddedLen text.length - 1))).toNat = Cbc.padding AES_BLOCK_SIZE text.length := by
  have hpos : 0 < paddedLen text.length := Nat.mul_pos (by decide) (Nat.succ_pos _)
  have hlast : (m.bytes p (paddedLen text.length)).getLastD 0 = m (p + (paddedLen text.length - 1)) := by
    rw [List.getLastD_eq_getLast?, List.getLast?_eq_getElem?, Ram.length_bytes, Ram.bytes, List.getElem?_map,
      List.getElem?_range (Nat.sub_lt hpos Nat.one_pos)]
    rfl
  rw [← hlast, h]
  exact getLastD_pad text 0

/-- What `AES_cbc_core` encrypts, it decrypts to the text and its length. -/
theorem AES_cbc_core_round_trip (hE : ∀ b, (E b).length = AES_BLOCK_SIZE) (hD : ∀ b, (D b).length = AES_BLOCK_SIZE)
    (hinv : ∀ b : List UInt8, b.length = AES_BLOCK_SIZE → D (E b) = b) (hivec : ivec.length = AES_BLOCK_SIZE)
    {E' D' : List UInt8 → List UInt8} (hlen : paddedLen length < 4294967296)
    (hplace : input = output ∨ input + length ≤ output ∨ output + paddedLen length ≤ input)
    (hback : output = back ∨ output + paddedLen length ≤ back ∨ back + paddedLen length ≤ output) :
    let cipher := AES_cbc_core E D' m input output length ivec true
    let plain := AES_cbc_core E' D cipher.1 output back cipher.2.2 ivec false
    cipher.2.2 = paddedLen length ∧ plain.2.2 = length ∧ plain.1.bytes back length = m.bytes input length := by
  obtain ⟨hcipher, houtlength⟩ := @AES_cbc_core_encrypt E D' m input output ivec hE length hivec hplace
  generalize AES_cbc_core E D' m input output length ivec true = enc at hcipher houtlength ⊢
  obtain ⟨cipher, iv, outlength⟩ := enc
  dsimp only at hcipher houtlength ⊢
  rw [u32_of_lt hlen] at houtlength
  subst houtlength
  obtain ⟨hplain, houtlength'⟩ := @AES_cbc_core_decrypt E' D cipher output back ivec hD (length / AES_BLOCK_SIZE + 1) hivec
    (Nat.succ_pos _) hback
  have hblocks : AES_BLOCK_SIZE * (length / AES_BLOCK_SIZE + 1) = paddedLen length := rfl
  rw [hblocks] at hplain houtlength'
  generalize AES_cbc_core E' D cipher output back (paddedLen length) ivec false = dec at hplain houtlength' ⊢
  obtain ⟨plain, iv', outlength'⟩ := dec
  dsimp only at hplain houtlength' ⊢
  have hpad := length_pad_eq (m.bytes input length)
  rw [Ram.length_bytes] at hpad
  -- the whole blocks are the text with its padding
  have hpadded : plain.bytes back (paddedLen length) = Cbc.pad AES_BLOCK_SIZE (m.bytes input length) := by
    rw [hplain, hcipher, Cbc.decrypt_encrypt hE hinv hivec (Nat.le_of_eq hpad.symm), hblocks,
      List.take_of_length_le (Nat.le_of_eq hpad)]
  have hlast := @last_of_bytes_pad plain (m.bytes input length) back (by rwa [Ram.length_bytes])
  rw [Ram.length_bytes] at hlast
  have hsum := add_padding length
  have htext : plain.bytes back length = m.bytes input length := by
    rw [← hsum, Ram.bytes_add, Cbc.pad] at hpadded
    exact (List.append_inj hpadded (by simp)).1
  refine ⟨rfl, ?_, htext⟩
  rw [houtlength', hlast, ← hsum]
  unfold u32Sub u32
  omega

end

/-- What is encrypted in memory, anywhere or in place, is decrypted to the text
and its length, anywhere or in place. -/
theorem AES_CBC_DecryptAt_encryptAt {Key IV : List UInt8} {KeyLength : Nat} (hkey : aesBits (KeyLength * 8))
    (hiv : IV.length = AES_BLOCK_SIZE) (struKey struKey' : AES_KEY) {m : Ram} {input output back length : Nat}
    (hlen : paddedLen length < 4294967296)
    (hplace : input = output ∨ input + length ≤ output ∨ output + paddedLen length ≤ input)
    (hback : output = back ∨ output + paddedLen length ≤ back ∨ back + paddedLen length ≤ output) :
    let cipher := AES_CBC_EncryptAt struKey m input length Key KeyLength IV output
    let plain := AES_CBC_DecryptAt struKey' cipher.1 output cipher.2 Key KeyLength IV back
    cipher.2 = paddedLen length ∧ plain.2.2 = length ∧ plain.1.bytes back length = m.bytes input length := by
  obtain ⟨ek, dk, hek, hdk, hinv⟩ := AES_schedules_inverse Key hkey struKey struKey'
  have hround := @AES_cbc_core_round_trip (AES_encrypt · ek) (AES_decrypt · dk) m input output back length IV
    (fun b => length_AES_encrypt b ek) (fun b => length_AES_decrypt b dk) hinv hiv (AES_encrypt · dk) (AES_decrypt · ek)
    hlen hplace hback
  simp only [AES_CBC_EncryptAt, AES_CBC_DecryptAt, hek, hdk, scheduleOr]
  exact hround

theorem AES_CBC_DecryptAt_encryptAt_inPlace :
    let cipher := AES_CBC_EncryptAt ⟨Vector.replicate 60 0, 0⟩ (fun _ => 7) 0 20 (List.replicate 16 1) 16
      (List.replicate 16 2) 0
    let plain := AES_CBC_DecryptAt ⟨Vector.replicate 60 3, 0⟩ cipher.1 0 cipher.2 (List.replicate 16 1) 16
      (List.replicate 16 2) 0
    cipher.2 = paddedLen 20 ∧ plain.2.2 = 20 ∧ plain.1.bytes 0 20 = Ram.bytes (fun _ => 7) 0 20 :=
  AES_CBC_DecryptAt_encryptAt (Or.inl rfl) rfl _ _ (by decide) (Or.inl rfl) (Or.inl rfl)

/-! ## The cipher of the device -/

def ZC_HS_SESSION_KEY_BITS : Nat := 128

/-- A crypto library whose block functions are those of `aes_core.c`, under the
keys of 16 bytes that the device uses. -/
def Cipher.withAes (c : Cipher) (struKey : AES_KEY) : Cipher where
  AES_encrypt key block :=
    ZCloud.AES_encrypt block (scheduleOr struKey (AES_set_encrypt_key (some key) ZC_HS_SESSION_KEY_BITS (some struKey)))
  AES_decrypt key block :=
    ZCloud.AES_decrypt block (scheduleOr struKey (AES_set_decrypt_key (some key) ZC_HS_SESSION_KEY_BITS (some struKey)))
  rsa_public := c.rsa_public
  rsa_private := c.rsa_private
  length_encrypt _ _ := rfl
  length_decrypt _ _ := rfl
  length_public := c.length_public
  length_private := c.length_private

/-- What the theorems about sealed messages assume of a crypto library. -/
theorem Cipher.withAes_aesInverse (c : Cipher) (struKey : AES_KEY) : (c.withAes struKey).AesInverse := by
  intro key block hblock
  obtain ⟨ek, dk, hek, hdk, hinv⟩ := AES_schedules_inverse key (Or.inl rfl : aesBits ZC_HS_SESSION_KEY_BITS) struKey struKey
  simp only [Cipher.withAes, hek, hdk, scheduleOr]
  exact hinv block hblock

end ZCloud
