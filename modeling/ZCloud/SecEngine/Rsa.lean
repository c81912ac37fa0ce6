import ZCloud.HfAdpter.System
import ZCloud.SecEngine.SecEngine

open Memory Program

namespace ZCloud

/-- `block` decrypts to `text`, whatever follows it and whatever longer text there
is room for. -/
structure Seals (c : Cipher) (key text block : List UInt8) : Prop where
  length_text : text.length ≤ ZC_SEC_RSA_TEXT_LEN
  length_block : block.length = ZC_SEC_RSA_LEN
  decrypt : ∀ rest n, text.length ≤ n → rsa_pkcs1_decrypt c key (block ++ rest) n = .ok (some text)

/-- The keys match: a text that fits into a block is encrypted under `key`, and
decrypted again under `key'`. -/
def RsaInverse (env : Env) (key key' : List UInt8) : Prop :=
  ∀ (text : List UInt8) (d : Device), text.length ≤ ZC_SEC_RSA_TEXT_LEN →
    ∃ block d', (rsa_pkcs1_encrypt env key text).run d = .ok ((true, block), d') ∧ Seals env.toCipher key' text block

/-- How many blocks a text of length `len` is encrypted to. -/
def rsaBlocks (len : Nat) : Nat :=
  if len ≤ ZC_SEC_RSA_TEXT_LEN then 1 else (len + (ZC_SEC_RSA_TEXT_LEN - 1)) / ZC_SEC_RSA_TEXT_LEN

/-- Texts, each with its block. -/
structure Pieces (c : Cipher) (key : List UInt8) (pieces : List (List UInt8 × List UInt8)) (text cipher : List UInt8) :
    Prop where
  seals : ∀ piece ∈ pieces, Seals c key piece.1 piece.2
  text_eq : (pieces.map (·.1)).flatten = text
  cipher_eq : (pieces.map (·.2)).flatten = cipher

section

variable {env : Env} {key key' text : List UInt8} {off n : Nat}

theorem rsaEncryptBlock_seals (hinv : RsaInverse env key key') {len : Nat} {s : RsaEncrypt n} (d : Device)
    (hlen : len ≤ ZC_SEC_RSA_TEXT_LEN) (hread : s.u16ReadLen + len ≤ text.length)
    (hfits : off + s.u16CiperLen + ZC_SEC_RSA_LEN ≤ n) :
    ∃ block out d', (rsaEncryptBlock env key text off len s).run d = .ok ({ s with s32Ret := true, out := out }, d') ∧
      Seals env.toCipher key' ((text.drop s.u16ReadLen).take len) block ∧
      out.bytes.take (off + s.u16CiperLen + ZC_SEC_RSA_LEN) = s.out.bytes.take (off + s.u16CiperLen) ++ block := by
  have hinput : ((text.drop s.u16ReadLen).take len).length = len := by
    rw [List.length_take, List.length_drop]
    omega
  obtain ⟨block, d', hrun, hseals⟩ := hinv ((text.drop s.u16ReadLen).take len) d (by omega)
  have hblock := hseals.length_block
  obtain ⟨out, hstore, hbytes⟩ := @Mem.store_spec _ s.out (off + s.u16CiperLen) block (by omega)
  refine ⟨block, out, d', ?_, hseals, ?_⟩
  · rw [rsaEncryptBlock, load_of_le hread, run_bind, run_lift_ok, ok_bind, run_bind, hrun, ok_bind]
    dsimp only
    rw [hstore, run_bind, run_lift_ok, ok_bind]
    rfl
  · have htake : (s.out.bytes.take (off + s.u16CiperLen)).length = off + s.u16CiperLen := by
      rw [List.length_take, s.out.length_bytes]
      omega
    rw [hbytes, patch, List.take_left' (by rw [List.length_append, htake, hblock])]

/-- The loop takes `count` texts, each to a block. -/
theorem rsaEncryptLoop_pieces (hinv : RsaInverse env key key') {count : Nat} {s : RsaEncrypt n} (d : Device)
    (hret : s.s32Ret = true) (hread : s.u16ReadLen + ZC_SEC_RSA_TEXT_LEN * count ≤ text.length)
    (hfits : off + s.u16CiperLen + ZC_SEC_RSA_LEN * count ≤ n) (hciper : s.u16CiperLen + ZC_SEC_RSA_LEN * count < 65536) :
    ∃ s' d' pieces cipher, (rsaEncryptLoop env key text off count s).run d = .ok (s', d') ∧ s'.s32Ret = true ∧
      s'.u16ReadLen = s.u16ReadLen + ZC_SEC_RSA_TEXT_LEN * count ∧
      s'.u16CiperLen = s.u16CiperLen + ZC_SEC_RSA_LEN * count ∧ pieces.length = count ∧
      Pieces env.toCipher key' pieces ((text.drop s.u16ReadLen).take (ZC_SEC_RSA_TEXT_LEN * count)) cipher ∧
      s'.out.bytes.take (off + s'.u16CiperLen) = s.out.bytes.take (off + s.u16CiperLen) ++ cipher := by
  have hrsa : ZC_SEC_RSA_LEN = 32 := rfl
  have htext : ZC_SEC_RSA_TEXT_LEN = 21 := rfl
  induction count generalizing s d with
  | zero =>
    exact ⟨s, d, [], [], rfl, hret, rfl, rfl, rfl, ⟨by simp, by simp, rfl⟩, by simp⟩
  | succ count ih =>
    have hmul := Nat.mul_add_one ZC_SEC_RSA_TEXT_LEN count
    have hmul' := Nat.mul_add_one ZC_SEC_RSA_LEN count
    obtain ⟨block, out, d₁, hblock, hseals, hout⟩ :=
      @rsaEncryptBlock_seals env key key' text off n hinv ZC_SEC_RSA_TEXT_LEN s d (Nat.le_refl _) (by omega) (by omega)
    have hu16 : u16 (s.u16CiperLen + ZC_SEC_RSA_LEN) = s.u16CiperLen + ZC_SEC_RSA_LEN := u16_of_lt (by omega)
    obtain ⟨s', d', pieces, cipher, hloop, hret', hread', hciper', hlen, hpieces, hout'⟩ :=
      @ih ⟨true, s.u16ReadLen + ZC_SEC_RSA_TEXT_LEN, s.u16CiperLen + ZC_SEC_RSA_LEN, out⟩ d₁ rfl (by dsimp only; omega)
        (by dsimp only; omega) (by dsimp only; omega)
    dsimp only at hread' hciper' hpieces hout'
    refine ⟨s', d', ((text.drop s.u16ReadLen).take ZC_SEC_RSA_TEXT_LEN, block) :: pieces, block ++ cipher, ?_, hret',
      by omega, by omega, by rw [List.length_cons, hlen], ⟨?_, ?_, ?_⟩, ?_⟩
    · rw [rsaEncryptLoop, run_bind, hblock, ok_bind]
      dsimp only
      rw [if_pos rfl, hu16]
      exact hloop
    · intro piece hpiece
      rcases List.mem_cons.mp hpiece with rfl | hpiece
      · exact hseals
      · exact hpieces.seals piece hpiece
    · rw [List.map_cons, List.flatten_cons, hpieces.text_eq, hmul, Nat.add_comm (ZC_SEC_RSA_TEXT_LEN * count), List.take_add,
        List.drop_drop]
    · rw [List.map_cons, List.flatten_cons, hpieces.cipher_eq]
    · rw [hout', ← Nat.add_assoc, hout, List.append_assoc]

/-- A text is encrypted to `rsaBlocks` blocks, which stand behind each other at
offset `off`. -/
theorem SEC_EncryptTextByRsa_pieces {d : Device}
    (hinv : RsaInverse env d.g_struZcConfigDb.struCloudInfo.u8CloudKey.bytes key') {len : Nat} (out : Mem n)
    (htext : len ≤ text.length) (hfits : off + ZC_SEC_RSA_LEN * rsaBlocks len ≤ n)
    (hciper : ZC_SEC_RSA_LEN * rsaBlocks len < 65536) :
    ∃ out' d' pieces cipher, (SEC_EncryptTextByRsa env text len off out).run d =
        .ok ((ZC_RET_OK, ZC_SEC_RSA_LEN * rsaBlocks len, out'), d') ∧
      pieces.length = rsaBlocks len ∧ Pieces env.toCipher key' pieces (text.take len) cipher ∧
      out'.bytes.take (off + ZC_SEC_RSA_LEN * rsaBlocks len) = out.bytes.take off ++ cipher := by
  have hrsa : ZC_SEC_RSA_LEN = 32 := rfl
  have hsize : ZC_SEC_RSA_TEXT_LEN = 21 := rfl
  rw [SEC_EncryptTextByRsa, run_get_bind]
  dsimp only
  by_cases hlong : len + 11 > ZC_SEC_RSA_LEN
  · have hdiv := Nat.div_add_mod len 21
    have hblocks : len / 21 ≤ rsaBlocks len := by
      rw [rsaBlocks, hsize, if_neg (by omega)]
      omega
    have hle := Nat.mul_le_mul_left ZC_SEC_RSA_LEN hblocks
    obtain ⟨s₁, d₁, pieces, cipher, hloop, hret, hread, hlen, hcount, hpieces, hout⟩ :=
      @rsaEncryptLoop_pieces env _ key' text off n hinv (len / ZC_SEC_RSA_TEXT_LEN) ⟨true, 0, 0, out⟩ d rfl
        (by rw [hsize]; dsimp only; omega) (by rw [hsize]; dsimp only; omega) (by rw [hsize]; dsimp only; omega)
    rw [hsize] at hread hlen hcount hpieces
    dsimp only at hread hlen hpieces hout
    rw [Nat.zero_add] at hread hlen
    rw [List.drop_zero] at hpieces
    rw [if_pos hlong, run_bind, hloop, ok_bind]
    dsimp only
    split
    · rename_i hrest
      have hblocks : rsaBlocks len = len / 21 + 1 := by
        rw [rsaBlocks, hsize, if_neg (by omega)]
        omega
      have htotal : s₁.u16CiperLen + ZC_SEC_RSA_LEN = ZC_SEC_RSA_LEN * (len / 21 + 1) := by
        rw [Nat.mul_add_one, hlen]
      rw [hblocks] at hfits hciper ⊢
      obtain ⟨block, out', d₂, hblock, hseals, hout'⟩ := @rsaEncryptBlock_seals env _ key' text off n hinv (len - s₁.u16ReadLen)
        s₁ d₁ (by omega) (by omega) (by omega)
      refine ⟨out', d₂, pieces ++ [((text.drop s₁.u16ReadLen).take (len - s₁.u16ReadLen), block)], cipher ++ block, ?_,
        by rw [List.length_append, hcount]; rfl, ⟨?_, ?_, ?_⟩, ?_⟩
      · rw [run_bind, hblock, ok_bind]
        dsimp only
        rw [htotal, u16_of_lt hciper]
        rfl
      · intro piece hpiece
        rcases List.mem_append.mp hpiece with hpiece | hpiece
        · exact hpieces.seals piece hpiece
        · obtain rfl := List.mem_singleton.mp hpiece
          exact hseals
      · rw [List.map_append, List.flatten_append, hpieces.text_eq, ← hread]
        have hjoin := List.take_add (l := text) (i := s₁.u16ReadLen) (j := len - s₁.u16ReadLen)
        rw [Nat.add_sub_cancel' (by omega)] at hjoin
        simpa using hjoin.symm
      · rw [List.map_append, List.flatten_append, hpieces.cipher_eq]
        simp
      · rw [← htotal, ← Nat.add_assoc, hout', hout, Nat.add_zero, List.append_assoc]
    · rename_i hrest
      have hwhole : 21 * (len / 21) = len := by omega
      have hblocks : rsaBlocks len = len / 21 := by
        rw [rsaBlocks, hsize, if_neg (by omega)]
        omega
      rw [hwhole] at hpieces
      refine ⟨s₁.out, d₁, pieces, cipher, ?_, by rw [hcount, hblocks], hpieces, ?_⟩
      · rw [pure_bind, if_pos hret, hlen, hblocks]
        rfl
      · rw [hblocks, ← hlen, hout, Nat.add_zero]
  · have hblocks : rsaBlocks len = 1 := by
      rw [rsaBlocks, if_pos (by omega)]
    rw [hblocks] at hfits ⊢
    obtain ⟨block, out', d₁, hblock, hseals, hout⟩ := @rsaEncryptBlock_seals env _ key' text off n hinv len ⟨true, 0, 0, out⟩ d
      (by omega) (by dsimp only; omega) (by dsimp only; omega)
    dsimp only at hseals hout
    rw [if_neg hlong, run_bind, hblock, ok_bind]
    refine ⟨out', d₁, [(text.take len, block)], block, rfl, rfl, ⟨?_, by simp, by simp⟩, hout⟩
    intro piece hpiece
    obtain rfl := List.mem_singleton.mp hpiece
    exact hseals

end

section

variable {c : Cipher} {key text block rest view : List UInt8} {u16Len n : Nat}

theorem rsaDecryptBlock_seals (h : Seals c key text block) {s : RsaDecrypt n} (hview : view.drop s.u16ReadLen = block ++ rest)
    (hlen : text.length ≤ u16Len) (hfits : s.u16PlainLen + text.length ≤ n) :
    ∃ build, rsaDecryptBlock c key view u16Len s =
        .ok { s with s32Ret := true, s32len := text.length, build := build } ∧
      build.bytes.take (s.u16PlainLen + text.length) = s.build.bytes.take s.u16PlainLen ++ text := by
  obtain ⟨build, hstore, hbytes⟩ := s.build.store_spec hfits
  have htake : (s.build.bytes.take s.u16PlainLen).length = s.u16PlainLen := by
    rw [List.length_take, s.build.length_bytes]
    omega
  refine ⟨build, ?_, ?_⟩
  · rw [rsaDecryptBlock, hview, h.decrypt rest u16Len hlen, ok_bind]
    dsimp only
    rw [hstore]
    rfl
  · rw [hbytes, patch, List.take_left' (by rw [List.length_append, htake])]

/-- The loop takes the blocks one after the other, and appends their texts. -/
theorem rsaDecryptLoop_pieces {pieces : List (List UInt8 × List UInt8)} (hseals : ∀ piece ∈ pieces, Seals c key piece.1 piece.2)
    {s : RsaDecrypt n} (hview : view.drop s.u16ReadLen = (pieces.map (·.2)).flatten ++ rest)
    (hlen : ZC_SEC_RSA_TEXT_LEN ≤ u16Len) (hfits : s.u16PlainLen + (pieces.map (·.1)).flatten.length ≤ n)
    (hsmall : s.u16PlainLen + (pieces.map (·.1)).flatten.length < 65536) :
    ∃ s', rsaDecryptLoop c key view u16Len pieces.length s = .ok s' ∧
      (s.s32Ret = true ∨ pieces ≠ [] → s'.s32Ret = true) ∧ s'.u16ReadLen = s.u16ReadLen + ZC_SEC_RSA_LEN * pieces.length ∧
      s'.u16PlainLen = s.u16PlainLen + (pieces.map (·.1)).flatten.length ∧
      s'.build.bytes.take s'.u16PlainLen = s.build.bytes.take s.u16PlainLen ++ (pieces.map (·.1)).flatten := by
  induction pieces generalizing s with
  | nil => exact ⟨s, rfl, fun h => h.resolve_right (by simp), rfl, rfl, by simp⟩
  | cons piece pieces ih =>
    have hpiece := hseals piece (List.mem_cons_self ..)
    have hmul := Nat.mul_add_one ZC_SEC_RSA_LEN pieces.length
    rw [List.map_cons, List.flatten_cons, List.length_append] at hfits hsmall
    rw [List.map_cons, List.flatten_cons, List.append_assoc] at hview
    obtain ⟨build, hblock, hbuild⟩ := @rsaDecryptBlock_seals _ _ _ _ _ _ u16Len _ hpiece s hview (Nat.le_trans hpiece.length_text hlen) (by omega)
    have hu16 : u16 (s.u16PlainLen + piece.1.length) = s.u16PlainLen + piece.1.length := u16_of_lt (by omega)
    have hnext : view.drop (s.u16ReadLen + ZC_SEC_RSA_LEN) = (pieces.map (·.2)).flatten ++ rest := by
      rw [← List.drop_drop, hview, List.drop_left' hpiece.length_block]
    obtain ⟨s', hloop, hret, hread, hplain, hbuild'⟩ :=
      @ih (fun piece h => hseals piece (List.mem_cons_of_mem _ h))
        ⟨true, s.u16ReadLen + ZC_SEC_RSA_LEN, piece.1.length, s.u16PlainLen + piece.1.length, build⟩ hnext
        (by dsimp only; omega) (by dsimp only; omega)
    dsimp only at hret hread hplain hbuild'
    refine ⟨s', ?_, fun _ => hret (Or.inl rfl), ?_, ?_, ?_⟩
    · rw [List.length_cons, rsaDecryptLoop, hblock, ok_bind]
      dsimp only
      rw [if_pos rfl, hu16]
      exact hloop
    · rw [List.length_cons]
      omega
    · rw [List.map_cons, List.flatten_cons, List.length_append]
      omega
    · rw [List.map_cons, List.flatten_cons, hbuild', hbuild, List.append_assoc]

theorem SEC_DecryptTextByRsa_pieces {pieces : List (List UInt8 × List UInt8)} {cipher : List UInt8}
    (h : Pieces c key pieces text cipher) (hne : pieces ≠ []) (s : RsaDecrypt n) (hfits : text.length ≤ n)
    (hsmall : text.length < 65536) (rest : List UInt8) :
    ∃ s', SEC_DecryptTextByRsa c key (cipher ++ rest) (ZC_SEC_RSA_LEN * pieces.length) s = .ok (ZC_RET_OK, s') ∧
      s'.u16PlainLen = text.length ∧ s'.build.bytes.take text.length = text := by
  have hrsa : ZC_SEC_RSA_LEN = 32 := rfl
  have hsize : ZC_SEC_RSA_TEXT_LEN = 21 := rfl
  have hpos : 0 < pieces.length := List.length_pos_iff.mpr hne
  obtain ⟨hseals, rfl, rfl⟩ := h
  rw [SEC_DecryptTextByRsa]
  by_cases hlong : ZC_SEC_RSA_LEN * pieces.length > ZC_SEC_RSA_LEN
  · have hcount : ZC_SEC_RSA_LEN * pieces.length / ZC_SEC_RSA_LEN = pieces.length := Nat.mul_div_cancel_left _ (by decide)
    obtain ⟨s', hloop, hret, hread, hplain, hbuild⟩ :=
      @rsaDecryptLoop_pieces c key rest ((pieces.map (·.2)).flatten ++ rest) (ZC_SEC_RSA_LEN * pieces.length) n pieces hseals
        { s with u16PlainLen := 0, u16ReadLen := 0 } rfl (by omega) (by dsimp only; omega) (by dsimp only; omega)
    dsimp only at hread hplain hbuild
    rw [Nat.zero_add] at hread hplain
    rw [if_pos hlong, hcount, hloop, ok_bind, if_neg (by omega), pure_bind]
    dsimp only
    rw [if_pos (hret (Or.inr hne))]
    refine ⟨s', rfl, hplain, ?_⟩
    rw [← hplain, hbuild, List.take_zero, List.nil_append]
  · have hone : pieces.length = 1 := by
      rw [hrsa] at hlong
      omega
    obtain ⟨piece, rfl⟩ := List.length_eq_one_iff.mp hone
    have hpiece := hseals piece (List.mem_singleton_self _)
    have htext : (([piece] : List (List UInt8 × List UInt8)).map (·.1)).flatten = piece.1 := by simp
    rw [htext] at hfits hsmall ⊢
    obtain ⟨build, hblock, hbuild⟩ := @rsaDecryptBlock_seals _ _ _ _ rest (piece.2 ++ rest)
      (ZC_SEC_RSA_LEN * 1) _ hpiece { s with u16PlainLen := 0, u16ReadLen := 0 } rfl
      (Nat.le_trans hpiece.length_text (by decide)) (by dsimp only; omega)
    dsimp only at hbuild
    rw [Nat.zero_add, List.take_zero, List.nil_append] at hbuild
    have hcipher : (([piece] : List (List UInt8 × List UInt8)).map (·.2)).flatten = piece.2 := by simp
    rw [if_neg hlong, hone, hcipher, hblock, ok_bind]
    exact ⟨_, rfl, u16_of_lt hsmall, hbuild⟩

end

/-- What `SEC_EncryptTextByRsa` makes of a text, `SEC_DecryptTextByRsa` makes the
text of again, as long as the length of the cipher fits into 16 bits. -/
theorem SEC_DecryptTextByRsa_encrypt {env : Env} {key' text : List UInt8} {d : Device}
    (hinv : RsaInverse env d.g_struZcConfigDb.struCloudInfo.u8CloudKey.bytes key')
    (hlen : ZC_SEC_RSA_LEN * rsaBlocks text.length < 65536) {m n off : Nat} (out : Mem m)
    (hout : off + ZC_SEC_RSA_LEN * rsaBlocks text.length ≤ m) (s : RsaDecrypt n) (hbuild : text.length ≤ n)
    (behind rest : List UInt8) :
    ∃ out' d', (SEC_EncryptTextByRsa env (text ++ behind) text.length off out).run d =
        .ok ((ZC_RET_OK, ZC_SEC_RSA_LEN * rsaBlocks text.length, out'), d') ∧
      ∃ s', SEC_DecryptTextByRsa env.toCipher key'
          ((out'.bytes.drop off).take (ZC_SEC_RSA_LEN * rsaBlocks text.length) ++ rest)
          (ZC_SEC_RSA_LEN * rsaBlocks text.length) s = .ok (ZC_RET_OK, s') ∧
        s'.u16PlainLen = text.length ∧ s'.build.bytes.take text.length = text := by
  have hrsa : ZC_SEC_RSA_LEN = 32 := rfl
  have hsize : ZC_SEC_RSA_TEXT_LEN = 21 := rfl
  obtain ⟨out', d', pieces, cipher, hrun, hcount, hpieces, hbytes⟩ :=
    @SEC_EncryptTextByRsa_pieces _ _ (text ++ behind) _ _ _ hinv _ out (by rw [List.length_append]; omega) hout hlen
  rw [List.take_left] at hpieces
  have hsmall : text.length < 65536 := by
    rw [rsaBlocks] at hlen
    split at hlen
    · omega
    · rw [hrsa, hsize] at hlen
      omega
  have hne : pieces ≠ [] := by
    rintro rfl
    rw [rsaBlocks] at hcount
    split at hcount
    · cases hcount
    · rw [hsize] at hcount
      simp only [List.length_nil] at hcount
      omega
  have hcipher : (out'.bytes.drop off).take (ZC_SEC_RSA_LEN * rsaBlocks text.length) = cipher := by
    have hoff : (out.bytes.take off).length = off := by
      rw [List.length_take, out.length_bytes]
      omega
    rw [List.take_drop, hbytes, List.drop_left' hoff]
  obtain ⟨s', hdecrypt, hplain, htext⟩ := SEC_DecryptTextByRsa_pieces hpieces hne s hbuild hsmall rest
  refine ⟨out', d', hrun, ?_⟩
  rw [hcipher, ← hcount]
  exact ⟨s', hdecrypt, hplain, htext⟩

section

variable {env : Env} {key key' : List UInt8}

theorem drawPadding_nonzero (len : Nat) (d : Device) :
    ∃ bytes d', (drawPadding env len).run d = .ok (bytes, d') ∧ bytes.length = len ∧ ∀ b ∈ bytes, b ≠ 0 := by
  induction len generalizing d with
  | zero => exact ⟨[], d, rfl, rfl, by simp⟩
  | succ len ih =>
    obtain ⟨bytes, d', hrun, hlen, hne⟩ := ih d.tick
    refine ⟨(env.padding d.clock).val :: bytes, d', ?_, by rw [List.length_cons, hlen], ?_⟩
    · rw [drawPadding, draw, run_bind]
      simp only [run_bind, run_get, run_set, ok_bind, run_pure, hrun]
    · intro b hb
      rcases List.mem_cons.mp hb with rfl | hb
      · exact (env.padding d.clock).property
      · exact hne b hb

theorem afterZero_append {padding : List UInt8} (h : ∀ b ∈ padding, b ≠ 0) (text : List UInt8) :
    afterZero (padding ++ 0 :: text) = some text := by
  induction padding with
  | nil => rfl
  | cons b padding ih =>
    rw [List.cons_append, afterZero, if_neg (h b (List.mem_cons_self ..))]
    exact ih fun b hb => h b (List.mem_cons_of_mem _ hb)

/-- Where the private operation undoes the public one on a whole block, the keys
match. -/
theorem rsaInverse_of_raw (h : ∀ block : List UInt8, block.length = ZC_SEC_RSA_LEN →
    ∃ out, env.rsa_public key block = some out ∧ env.rsa_private key' out = some block) : RsaInverse env key key' := by
  intro text d htext
  have hrsa : ZC_SEC_RSA_LEN = 32 := rfl
  have hsize : ZC_SEC_RSA_TEXT_LEN = 21 := rfl
  obtain ⟨padding, d', hpadding, hlen, hne⟩ := @drawPadding_nonzero env (ZC_SEC_RSA_LEN - 3 - text.length) d
  have hblock : ([0, 2] ++ padding ++ [0] ++ text).length = ZC_SEC_RSA_LEN := by
    simp only [List.length_append, List.length_cons, List.length_nil, hlen]
    omega
  obtain ⟨out, hpublic, hprivate⟩ := h _ hblock
  have hout : out.length = ZC_SEC_RSA_LEN := env.length_public _ _ _ hpublic
  refine ⟨out, d', ?_, htext, hout, ?_⟩
  · rw [rsa_pkcs1_encrypt, if_neg (by omega), run_bind, hpadding, ok_bind]
    dsimp only
    rw [hpublic]
    rfl
  · intro rest n hn
    rw [rsa_pkcs1_decrypt, load_append_zero hout, ok_bind, hprivate]
    have hunpad : rsaUnpad ([0, 2] ++ padding ++ [0] ++ text) = some text := by
      rw [List.append_assoc, List.append_assoc]
      exact afterZero_append hne text
    change Except.ok ((rsaUnpad ([0, 2] ++ padding ++ [0] ++ text)).bind fun text => if text.length > n then none else some text) = _
    rw [hunpad, Option.bind_some, if_neg (Nat.not_lt.mpr hn)]

end

/-- A text of 25 bytes, which takes two blocks. -/
theorem SEC_DecryptTextByRsa_encrypt_short : ∃ (d d' : Device) (out : Mem 64) (s : RsaDecrypt 25),
    (SEC_EncryptTextByRsa soundEnv (List.replicate 25 7) 25 0 (Mem.fill 64 0)).run d = .ok ((ZC_RET_OK, 64, out), d') ∧
      SEC_DecryptTextByRsa soundEnv.toCipher [] (out.bytes.take 64) 64 ⟨false, 0, 0, 0, Mem.fill 25 0⟩ =
        .ok (ZC_RET_OK, s) ∧ s.build.bytes.take 25 = List.replicate 25 7 := by
  obtain ⟨d, -⟩ : ∃ d, Device.boot soundEnv blankFwup = some d := Option.isSome_iff_exists.mp (by decide +kernel)
  have hinv : RsaInverse soundEnv d.g_struZcConfigDb.struCloudInfo.u8CloudKey.bytes [] := by
    refine rsaInverse_of_raw fun block hblock => ⟨block, ?_, ?_⟩
    all_goals
      have hlen : block.length = 32 := hblock
      change some (fillBlock 32 block) = some block
      rw [fillBlock, List.take_left' hlen]
  obtain ⟨out, d', hrun, s, hdecrypt, -, htext⟩ := @SEC_DecryptTextByRsa_encrypt _ _ (List.replicate 25 7) _ hinv (by decide)
    _ _ 0 (Mem.fill 64 0) (by decide) (⟨false, 0, 0, 0, Mem.fill 25 0⟩ : RsaDecrypt 25) (by decide) [] []
  rw [List.append_nil] at hrun hdecrypt
  exact ⟨d, d', out, s, hrun, hdecrypt, htext⟩

end ZCloud
