import ZCloud.SecEngine.SecEngine

open Memory Program

namespace ZCloud

/-- Decryption of a block undoes its encryption. -/
def Cipher.AesInverse (c : Cipher) : Prop :=
  ∀ key block, block.length = ZC_SEC_AES_BLOCK_SIZE → c.AES_decrypt key (c.AES_encrypt key block) = block

variable {c : Cipher} {text key iv : List UInt8}

theorem length_AES_CBC_Encrypt (c : Cipher) (text key iv : List UInt8) :
    (AES_CBC_Encrypt c text key iv).length = ZC_SEC_AES_BLOCK_SIZE * (text.length / ZC_SEC_AES_BLOCK_SIZE + 1) :=
  Cbc.length_encrypt (c.length_encrypt key) _ _ _

theorem length_pad (text : List UInt8) :
    (Cbc.pad ZC_SEC_AES_BLOCK_SIZE text).length = ZC_SEC_AES_BLOCK_SIZE * (text.length / ZC_SEC_AES_BLOCK_SIZE + 1) := by
  have hsize : ZC_SEC_AES_BLOCK_SIZE = 16 := rfl
  rw [Cbc.pad, List.length_append, List.length_replicate, Cbc.padding, hsize]
  omega

theorem getLastD_pad (text : List UInt8) (before : UInt8) :
    ((Cbc.pad ZC_SEC_AES_BLOCK_SIZE text).getLastD before).toNat = Cbc.padding ZC_SEC_AES_BLOCK_SIZE text.length := by
  have hpad := Cbc.padLen_pad (by decide) (by decide : ZC_SEC_AES_BLOCK_SIZE < 256) text
  have hlen := length_pad text
  rw [← hpad, Cbc.padLen, List.getLastD_eq_getLast?]
  cases hlast : (Cbc.pad ZC_SEC_AES_BLOCK_SIZE text).getLast? with
  | none =>
    rw [List.getLast?_eq_none_iff.mp hlast, Nat.mul_succ] at hlen
    cases hlen
  | some b => rfl

/-- Decrypting what has been encrypted gives the text with its padding, and the
length of the text. -/
theorem AES_CBC_Decrypt_encrypt (hinv : c.AesInverse) (hiv : iv.length = ZC_SEC_AES_BLOCK_SIZE)
    (htext : text.length < 65536) (rest : List UInt8) (before : UInt8) :
    AES_CBC_Decrypt c (AES_CBC_Encrypt c text key iv ++ rest) (AES_CBC_Encrypt c text key iv).length key iv before =
      .ok (Cbc.pad ZC_SEC_AES_BLOCK_SIZE text, text.length) := by
  have hsize : ZC_SEC_AES_BLOCK_SIZE = 16 := rfl
  have hlen := length_AES_CBC_Encrypt c text key iv
  have hpad := length_pad text
  have hdiv : (AES_CBC_Encrypt c text key iv).length / ZC_SEC_AES_BLOCK_SIZE = text.length / ZC_SEC_AES_BLOCK_SIZE + 1 := by
    rw [hlen, Nat.mul_div_cancel_left _ (by decide)]
  have hmod : (AES_CBC_Encrypt c text key iv).length % ZC_SEC_AES_BLOCK_SIZE = 0 := by rw [hlen, Nat.mul_mod_right]
  have hE : ∀ block, (c.AES_encrypt key block).length = ZC_SEC_AES_BLOCK_SIZE := c.length_encrypt key
  have hplain : Cbc.decrypt ZC_SEC_AES_BLOCK_SIZE (c.AES_decrypt key) (text.length / ZC_SEC_AES_BLOCK_SIZE + 1) iv
      (AES_CBC_Encrypt c text key iv) = Cbc.pad ZC_SEC_AES_BLOCK_SIZE text := by
    rw [AES_CBC_Encrypt, Cbc.decrypt_encrypt hE (hinv key) hiv (Nat.le_of_eq hpad.symm),
      List.take_of_length_le (Nat.le_of_eq hpad)]
  have hsub : u32Sub (AES_CBC_Encrypt c text key iv).length (Cbc.padding ZC_SEC_AES_BLOCK_SIZE text.length) = text.length := by
    rw [hlen, Cbc.padding, hsize]
    unfold u32Sub u32
    omega
  rw [AES_CBC_Decrypt, hdiv, hmod, load_append_zero hlen, ok_bind]
  dsimp only
  rw [hplain, if_pos rfl]
  change Except.ok (_, u32Sub _ _) = _
  rw [getLastD_pad, hsub]

end ZCloud
