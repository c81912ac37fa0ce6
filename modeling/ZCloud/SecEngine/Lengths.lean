import ZCloud.HfAdpter.System
import ZCloud.ProtocolController.Sending

open Memory Program

namespace ZCloud

/-- The frame of a text of `u16Len` bytes that passes the check of its size:
whatever the device holds, the text is encrypted without a write outside the send
buffer, the cipher is no longer than the text with the padding expected for it,
and no sum of these lengths leaves 16 bits. -/
def FrameFits (u32SecSwitch : Nat) (u8SecType : UInt8) (u16Len : Nat) : Prop :=
  let u16PaddingLen := SEC_PaddingCheck u32SecSwitch u8SecType u16Len
  u16 (u16Len + sizeof_ZC_SecHead + u16PaddingLen) ≤ MSG_BUFFER_MAXLEN →
    u16Len + sizeof_ZC_SecHead + u16PaddingLen < 65536 ∧
      ∀ (env : Env) (d : Device) (text : List UInt8) (out : Mem MSG_BUFFER_MAXLEN),
        d.g_struZcConfigDb.struSwitchInfo.u32SecSwitch = u32SecSwitch → u16Len ≤ text.length →
        ∃ ret n out' d', (SEC_Encrypt env u8SecType text u16Len sizeof_ZC_SecHead out).run d = .ok ((ret, n, out'), d') ∧
          (ret = ZC_RET_OK → sizeof_ZC_SecHead + n ≤ MSG_BUFFER_MAXLEN ∧ n ≤ u16Len + u16PaddingLen)

/-- The lengths whose frame is as long as expected. In RSA 21 bytes of text take a
block of 32, of which the padding knows nothing; in the other two a length next to
65536 passes the check as a short one. -/
def Padded (flag : UInt8) (u16Len : Nat) : Prop :=
  if flag = ZC_SEC_ALG_RSA then 1 ≤ u16Len ∧ u16Len ≤ 21 ∨ 33 ≤ u16Len ∧ u16Len ≤ 42 ∨ 577 ≤ u16Len ∧ u16Len ≤ 65504
  else if flag = ZC_SEC_ALG_AES then u16Len < 65520
  else u16Len < 65532

instance (flag : UInt8) (u16Len : Nat) : Decidable (Padded flag u16Len) := by
  unfold Padded
  infer_instance

section

variable {env : Env} (hpublic : ∀ key block, (env.rsa_public key block).isSome)

include hpublic

theorem rsaEncryptBlock_ok {key text : List UInt8} {off len : Nat} {s s' : RsaEncrypt MSG_BUFFER_MAXLEN} {d d' : Device}
    (hlen : len ≤ ZC_SEC_RSA_TEXT_LEN) (h : (rsaEncryptBlock env key text off len s).run d = .ok (s', d')) :
    s'.s32Ret = true := by
  have hrsa : ZC_SEC_RSA_LEN = 32 := rfl
  have htext : ZC_SEC_RSA_TEXT_LEN = 21 := rfl
  obtain ⟨input, _, hload, h⟩ := run_bind_eq_ok.mp h
  obtain ⟨⟨ret, bytes⟩, _, hencrypt, h⟩ := run_bind_eq_ok.mp h
  obtain ⟨m, _, -, h⟩ := run_bind_eq_ok.mp h
  obtain ⟨rfl, -⟩ := run_pure_eq_ok.mp h
  have hinput := length_of_load (run_lift_eq_ok.mp hload).1
  rw [rsa_pkcs1_encrypt, if_neg (by omega)] at hencrypt
  obtain ⟨padding, _, -, hencrypt⟩ := run_bind_eq_ok.mp hencrypt
  dsimp only at hencrypt
  split at hencrypt
  · rename_i hnone
    have hsome := hpublic key ([0, 2] ++ padding ++ [0] ++ input)
    rw [hnone] at hsome
    cases hsome
  · obtain ⟨heq, -⟩ := run_pure_eq_ok.mp hencrypt
    cases heq
    rfl

theorem rsaEncryptLoop_ok {key text : List UInt8} {off : Nat} {count : Nat} {s s' : RsaEncrypt MSG_BUFFER_MAXLEN} {d d' : Device}
    (hs : s.s32Ret = true) (h : (rsaEncryptLoop env key text off count s).run d = .ok (s', d')) :
    s'.s32Ret = true ∧ s'.u16ReadLen = s.u16ReadLen + ZC_SEC_RSA_TEXT_LEN * count := by
  induction count generalizing s d with
  | zero =>
    obtain ⟨rfl, -⟩ := run_pure_eq_ok.mp h
    exact ⟨hs, rfl⟩
  | succ count ih =>
    obtain ⟨s₁, _, hblock, h⟩ := run_bind_eq_ok.mp h
    have hret := rsaEncryptBlock_ok hpublic (Nat.le_refl _) hblock
    obtain ⟨hread, -, -⟩ := rsaEncryptBlock_fits env hblock
    rw [if_pos hret] at h
    obtain ⟨hok, hread'⟩ := ih (s := { s₁ with
      u16ReadLen := s₁.u16ReadLen + ZC_SEC_RSA_TEXT_LEN, u16CiperLen := u16 (s₁.u16CiperLen + ZC_SEC_RSA_LEN) }) hret h
    refine ⟨hok, ?_⟩
    rw [hread', Nat.mul_succ]
    dsimp only
    omega

/-- Where no block fails, a text that is encrypted without a fault is encrypted. -/
theorem SEC_EncryptTextByRsa_ok {text : List UInt8} {len off n : Nat} {ret : ZC_RET} {out m : Mem MSG_BUFFER_MAXLEN}
    {d d' : Device} (h : (SEC_EncryptTextByRsa env text len off out).run d = .ok ((ret, n, m), d')) :
    ret = ZC_RET_OK := by
  have hrsa : ZC_SEC_RSA_LEN = 32 := rfl
  have htext : ZC_SEC_RSA_TEXT_LEN = 21 := rfl
  have hok : ∀ {b : Bool}, b = true → (if b = true then ZC_RET_OK else ZC_RET_ERROR) = ZC_RET_OK := fun h => if_pos h
  rw [SEC_EncryptTextByRsa, run_get_bind] at h
  dsimp only at h
  split at h
  · obtain ⟨s₁, _, hloop, h⟩ := run_bind_eq_ok.mp h
    obtain ⟨hret, hread⟩ := rsaEncryptLoop_ok hpublic (s := ⟨true, 0, 0, out⟩) rfl hloop
    rw [htext] at hread
    dsimp only at hread
    split at h
    · obtain ⟨s₂, _, hblock, h⟩ := run_bind_eq_ok.mp h
      obtain ⟨_, _, hs, h⟩ := run_bind_eq_ok.mp h
      obtain ⟨rfl, -⟩ := run_pure_eq_ok.mp hs
      obtain ⟨heq, -⟩ := run_pure_eq_ok.mp h
      rw [(Prod.mk.inj heq).1, hok (rsaEncryptBlock_ok hpublic (by omega) hblock)]
    · obtain ⟨_, _, hs, h⟩ := run_bind_eq_ok.mp h
      obtain ⟨rfl, -⟩ := run_pure_eq_ok.mp hs
      obtain ⟨heq, -⟩ := run_pure_eq_ok.mp h
      rw [(Prod.mk.inj heq).1, hok hret]
  · obtain ⟨s₂, _, hblock, h⟩ := run_bind_eq_ok.mp h
    obtain ⟨_, _, hs, h⟩ := run_bind_eq_ok.mp h
    obtain ⟨rfl, -⟩ := run_pure_eq_ok.mp hs
    obtain ⟨heq, -⟩ := run_pure_eq_ok.mp h
    rw [(Prod.mk.inj heq).1, hok (rsaEncryptBlock_ok hpublic (by omega) hblock)]

end

theorem cipherLen_le {u32SecSwitch u16Len : Nat} {u8SecType : UInt8}
    (hflag : u8SecFlag u32SecSwitch u8SecType ≠ ZC_SEC_ALG_RSA) :
    cipherLen (u8SecFlag u32SecSwitch u8SecType) u16Len ≤ u16Len + SEC_PaddingCheck u32SecSwitch u8SecType u16Len := by
  have haes : ZC_SEC_AES_BLOCK_SIZE = 16 := rfl
  rw [SEC_PaddingCheck]
  dsimp only
  generalize u8SecFlag u32SecSwitch u8SecType = flag at hflag ⊢
  rw [cipherLen]
  split
  · omega
  · rw [haes]
    split
    · split
      · omega
      · omega
    · exact Nat.zero_le _

/-- Which lengths are padded: those that are refused, and those that the padding
describes. -/
theorem padded_iff {u32SecSwitch u16Len : Nat} {u8SecType : UInt8} (hlen : u16Len < 65536) :
    Padded (u8SecFlag u32SecSwitch u8SecType) u16Len ↔
      (u16 (u16Len + sizeof_ZC_SecHead + SEC_PaddingCheck u32SecSwitch u8SecType u16Len) ≤ MSG_BUFFER_MAXLEN →
        u16Len + sizeof_ZC_SecHead + SEC_PaddingCheck u32SecSwitch u8SecType u16Len < 65536 ∧
          (u8SecFlag u32SecSwitch u8SecType = ZC_SEC_ALG_RSA →
            cipherLen ZC_SEC_ALG_RSA u16Len ≤ u16Len + SEC_PaddingCheck u32SecSwitch u8SecType u16Len)) := by
  have hhead : sizeof_ZC_SecHead = 4 := rfl
  have hmax : MSG_BUFFER_MAXLEN = 600 := rfl
  have haes : ZC_SEC_AES_BLOCK_SIZE = 16 := rfl
  have hrsa : ZC_SEC_RSA_LEN = 32 := rfl
  have htext : ZC_SEC_RSA_TEXT_LEN = 21 := rfl
  rw [SEC_PaddingCheck, hhead, hmax, haes, hrsa, u16]
  dsimp only
  generalize u8SecFlag u32SecSwitch u8SecType = flag
  by_cases hflag : flag = ZC_SEC_ALG_RSA
  · have hcbc : ¬ flag = ZC_SEC_ALG_AES := by
      rw [hflag]
      decide
    have hcipher : cipherLen ZC_SEC_ALG_RSA u16Len = 32 * max 1 ((u16Len + 20) / 21) := rfl
    rw [Padded, if_pos hflag, if_neg hcbc, if_pos hflag, hcipher]
    split
    · simp only [hflag, true_imp_iff]
      omega
    · simp only [hflag, true_imp_iff]
      omega
  · by_cases hcbc : flag = ZC_SEC_ALG_AES
    · rw [Padded, if_neg hflag, if_pos hcbc, if_pos hcbc]
      simp only [hflag, false_imp_iff, and_true]
      split
      · omega
      · omega
    · rw [Padded, if_neg hflag, if_neg hcbc, if_neg hcbc, if_neg hflag]
      simp only [hflag, false_imp_iff, and_true]
      omega

/-- A device with the switch set, where no block fails, shows how long the cipher is. -/
theorem cipherLen_le_of_runs {u32SecSwitch u16Len padding : Nat} {u8SecType : UInt8}
    (hrsa : u8SecFlag u32SecSwitch u8SecType = ZC_SEC_ALG_RSA)
    (h : ∀ (env : Env) (d : Device) (text : List UInt8) (out : Mem MSG_BUFFER_MAXLEN),
      d.g_struZcConfigDb.struSwitchInfo.u32SecSwitch = u32SecSwitch → u16Len ≤ text.length →
      ∃ ret n out' d', (SEC_Encrypt env u8SecType text u16Len sizeof_ZC_SecHead out).run d = .ok ((ret, n, out'), d') ∧
        (ret = ZC_RET_OK → sizeof_ZC_SecHead + n ≤ MSG_BUFFER_MAXLEN ∧ n ≤ u16Len + padding)) :
    cipherLen ZC_SEC_ALG_RSA u16Len ≤ u16Len + padding := by
  let blank := Device.zero blankFwup
  let d : Device := { blank with g_struZcConfigDb := { blank.g_struZcConfigDb with
    struSwitchInfo := { blank.g_struZcConfigDb.struSwitchInfo with u32SecSwitch := u32SecSwitch } } }
  obtain ⟨ret, n, out', d', hrun, hfits⟩ := h soundEnv d (List.replicate u16Len 0) (Mem.fill _ 0) rfl
    (by rw [List.length_replicate])
  obtain rfl : ret = ZC_RET_OK := by
    have hnone : ¬ ZC_SEC_ALG_RSA = ZC_SEC_ALG_NONE := by decide
    rw [SEC_Encrypt, run_get_bind] at hrun
    change ((if u8SecFlag u32SecSwitch u8SecType = ZC_SEC_ALG_NONE then _ else _) : Prog Device _).run d = _ at hrun
    rw [hrsa, if_neg hnone, if_pos rfl] at hrun
    exact SEC_EncryptTextByRsa_ok (fun _ _ => rfl) hrun
  obtain ⟨-, hn⟩ := SEC_Encrypt_fits soundEnv (by decide) hrun
  have hflag : u8SecFlag d.g_struZcConfigDb.struSwitchInfo.u32SecSwitch u8SecType = ZC_SEC_ALG_RSA := hrsa
  rw [← hflag, ← hn]
  exact (hfits rfl).2

/-- Exactly the frames of padded lengths fit. -/
theorem frameFits_iff {u32SecSwitch u16Len : Nat} {u8SecType : UInt8} (hlen : u16Len < 65536) :
    FrameFits u32SecSwitch u8SecType u16Len ↔ Padded (u8SecFlag u32SecSwitch u8SecType) u16Len := by
  have hmax : MSG_BUFFER_MAXLEN = 600 := rfl
  have hhead : sizeof_ZC_SecHead = 4 := rfl
  rw [padded_iff hlen]
  constructor
  · intro h hcheck
    obtain ⟨hsum, hruns⟩ := h hcheck
    exact ⟨hsum, fun hrsa => cipherLen_le_of_runs hrsa hruns⟩
  · intro h hcheck
    obtain ⟨hsum, hrsa⟩ := h hcheck
    refine ⟨hsum, fun env d text out hswitch htext => ?_⟩
    have hcipher : cipherLen (u8SecFlag u32SecSwitch u8SecType) u16Len ≤
        u16Len + SEC_PaddingCheck u32SecSwitch u8SecType u16Len := by
      by_cases hflag : u8SecFlag u32SecSwitch u8SecType = ZC_SEC_ALG_RSA
      · rw [hflag]
        exact hrsa hflag
      · exact cipherLen_le hflag
    rw [u16_of_lt hsum] at hcheck
    have hroom : d.EncryptFits u8SecType u16Len sizeof_ZC_SecHead := by
      rw [Device.EncryptFits, hswitch]
      exact fun _ => by omega
    obtain ⟨⟨ret, n, out'⟩, d', hrun⟩ := SEC_Encrypt_returns env out d htext (by decide) hroom
    refine ⟨ret, n, out', d', hrun, ?_⟩
    rintro rfl
    obtain ⟨hfits, hn⟩ := SEC_Encrypt_fits env (by decide) hrun
    rw [hswitch] at hn
    exact ⟨hfits, by omega⟩

theorem frameFits_next_to_limit : FrameFits 1 ZC_SEC_ALG_AES 65519 ∧ FrameFits 1 ZC_SEC_ALG_RSA 42 :=
  ⟨(frameFits_iff (by decide)).mpr (by decide), (frameFits_iff (by decide)).mpr (by decide)⟩

/-- The first message of the handshake, 64 bytes in RSA, makes four blocks, where
96 bytes are expected. -/
theorem handshake_longer_than_padded :
    ¬ ∀ u32SecSwitch u8SecType u16Len, u8SecType ∈ [ZC_SEC_ALG_NONE, ZC_SEC_ALG_AES, ZC_SEC_ALG_RSA] → u16Len < 65536 →
      FrameFits u32SecSwitch u8SecType u16Len := by
  intro h
  obtain ⟨-, hruns⟩ := h 1 ZC_SEC_ALG_RSA 64 (by decide) (by decide) (by decide)
  have hle := cipherLen_le_of_runs (by decide) hruns
  revert hle
  decide

end ZCloud
