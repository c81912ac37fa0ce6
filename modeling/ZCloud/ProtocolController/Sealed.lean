import ZCloud.ProtocolController.Sending

open Memory Program

namespace ZCloud

/-- What of the globals decides how a frame is encrypted and decrypted. -/
structure Secrets where
  u32SecSwitch : Nat
  u8keyRecv : PCT_KEY
  u8SessionKey : Mem ZC_HS_SESSION_KEY_LEN
  IvSend : Mem ZC_HS_SESSION_KEY_LEN
  IvRecv : Mem ZC_HS_SESSION_KEY_LEN

def Device.secrets (d : Device) : Secrets where
  u32SecSwitch := d.g_struZcConfigDb.struSwitchInfo.u32SecSwitch
  u8keyRecv := d.g_struProtocolController.u8keyRecv
  u8SessionKey := d.g_struProtocolController.u8SessionKey
  IvSend := d.g_struProtocolController.IvSend
  IvRecv := d.g_struProtocolController.IvRecv

namespace Secrets

variable (c : Cipher) (s : Secrets) (u8SecType : UInt8)

/-- No RSA is asked for, and a message that is to be encrypted finds its key. -/
def CanSeal : Prop :=
  u8SecFlag s.u32SecSwitch u8SecType = ZC_SEC_ALG_NONE ∨
    u8SecFlag s.u32SecSwitch u8SecType = ZC_SEC_ALG_AES ∧ s.u8keyRecv = PCT_KEY_RECVED

/-- What the frame of such a message holds behind its head. -/
def sealed (plain : List UInt8) : List UInt8 :=
  if u8SecFlag s.u32SecSwitch u8SecType = ZC_SEC_ALG_AES then
    AES_CBC_Encrypt c plain s.u8SessionKey.bytes s.IvSend.bytes
  else plain

/-- The frame of such a message. -/
def frame (plain : List UInt8) (u8Resver : UInt8) : List UInt8 :=
  ZC_SecHead.toBytes ⟨ZC_HTONS (s.sealed c u8SecType plain).length, u8SecType, u8Resver⟩ ++ s.sealed c u8SecType plain

variable {c s u8SecType}

/-- The padding that is expected is the one that is made. -/
theorem length_sealed (h : s.CanSeal u8SecType) (plain : List UInt8) :
    (s.sealed c u8SecType plain).length = plain.length + SEC_PaddingCheck s.u32SecSwitch u8SecType plain.length := by
  have hsize : ZC_SEC_AES_BLOCK_SIZE = 16 := rfl
  rw [sealed, SEC_PaddingCheck]
  dsimp only
  obtain hnone | ⟨haes, -⟩ := h
  · rw [hnone]
    exact (Nat.add_zero _).symm
  · rw [haes, if_pos rfl, if_pos rfl, length_AES_CBC_Encrypt, hsize]
    split <;> omega

theorem length_frame (plain : List UInt8) (u8Resver : UInt8) :
    (s.frame c u8SecType plain u8Resver).length = (s.sealed c u8SecType plain).length + sizeof_ZC_SecHead := by
  rw [frame, List.length_append, ZC_SecHead.length_toBytes, Nat.add_comm]
  rfl

/-- A frame declares its own length. -/
theorem secTotal_frame {plain : List UInt8} {u8Resver : UInt8} (h : (s.sealed c u8SecType plain).length < 65536) :
    secTotal (s.frame c u8SecType plain u8Resver) = (s.frame c u8SecType plain u8Resver).length := by
  have hhead : (s.frame c u8SecType plain u8Resver).take 2 = bytesU16 (ZC_HTONS (s.sealed c u8SecType plain).length) := rfl
  rw [secTotal, hhead, number_bytesU16 (ZC_HTONS_lt _), ZC_HTONS_ZC_HTONS h, length_frame]

end Secrets

section

variable {env : Env} {u8SecType : UInt8} {d d' : Device} {text : List UInt8} {len : Nat}

theorem run_SEC_AesEncrypt (hkey : d.secrets.u8keyRecv = PCT_KEY_RECVED) (plain : List UInt8) :
    (SEC_AesEncrypt env plain).run d =
      .ok ((ZC_RET_OK, AES_CBC_Encrypt env.toCipher plain d.secrets.u8SessionKey.bytes d.secrets.IvSend.bytes), d) := by
  have hrecved : ¬ d.g_struProtocolController.u8keyRecv ≠ PCT_KEY_RECVED := fun h => h hkey
  simp only [SEC_AesEncrypt, getController, run_bind, run_get, ok_bind, run_pure, if_neg hrecved]
  rfl

/-- The text is sealed behind the place of the head. -/
theorem run_SEC_Encrypt_sealed {out m : Mem MSG_BUFFER_MAXLEN} {off : Nat} (hseal : d.secrets.CanSeal u8SecType)
    (htext : len ≤ text.length) (hlen : (d.secrets.sealed env.toCipher u8SecType (text.take len)).length < 65536)
    (hm : out.store off (d.secrets.sealed env.toCipher u8SecType (text.take len)) = .ok m) :
    (SEC_Encrypt env u8SecType text len off out).run d =
      .ok ((ZC_RET_OK, (d.secrets.sealed env.toCipher u8SecType (text.take len)).length, m), d) := by
  have hload : load text 0 len = .ok (text.take len) := by
    rw [load_of_le (by omega), List.drop_zero]
  have hswitch : d.g_struZcConfigDb.struSwitchInfo.u32SecSwitch = d.secrets.u32SecSwitch := rfl
  rw [SEC_Encrypt, run_get_bind, hswitch]
  dsimp only
  obtain hnone | ⟨haes, hkey⟩ := hseal
  · have hplain : d.secrets.sealed env.toCipher u8SecType (text.take len) = text.take len := by
      apply if_neg
      rw [hnone]
      decide
    rw [hplain] at hm ⊢
    have hcopy : out.memcpy off text len = .ok m := by
      rw [Mem.memcpy, hload]
      exact hm
    rw [if_pos hnone, hcopy, List.length_take, Nat.min_eq_left htext]
    rfl
  · have hcipher : d.secrets.sealed env.toCipher u8SecType (text.take len) =
        AES_CBC_Encrypt env.toCipher (text.take len) d.secrets.u8SessionKey.bytes d.secrets.IvSend.bytes := if_pos haes
    rw [hcipher] at hm hlen ⊢
    rw [haes, if_neg (by decide), if_neg (by decide), if_pos rfl, hload]
    simp only [run_bind, run_lift_ok, ok_bind, run_SEC_AesEncrypt hkey, hm, run_pure, u16_of_lt hlen]

theorem run_pushFrame {i : Fin MSG_BUFFER_SEND_MAX_NUM} {m m' : Mem MSG_BUFFER_MAXLEN} {plain : List UInt8}
    (hm : m.store 0 (ZC_SecHead.toBytes ⟨ZC_HTONS len, u8SecType, env.stack d.clock⟩) = .ok m') :
    ∃ d', (pushFrame env i u8SecType len m plain).run d = .ok ((), d') ∧
      d'.g_struSendBuffer i = ⟨len + sizeof_ZC_SecHead, MSG_BUFFER_FULL, m'⟩ := by
  simp only [pushFrame, draw, run_bind, run_get, run_set, ok_bind, run_pure, hm, run_lift_ok, run_modify]
  split
  · exact ⟨_, rfl, if_pos rfl⟩
  · exact ⟨_, rfl, if_pos rfl⟩

/-- The sealed message is queued in the buffer that is found. -/
theorem run_PCT_SendMsgToCloud_sealed {i : Fin MSG_BUFFER_SEND_MAX_NUM} (hi : idleSendBuffer d = some i)
    (hseal : d.secrets.CanSeal u8SecType) (htext : len ≤ text.length)
    (hfits : len + sizeof_ZC_SecHead + SEC_PaddingCheck d.secrets.u32SecSwitch u8SecType len ≤ MSG_BUFFER_MAXLEN) :
    ∃ d', (PCT_SendMsgToCloud env u8SecType len text).run d = .ok (ZC_RET_OK, d') ∧ Queued (text.take len) i d d' ∧
      (d'.g_struSendBuffer i).frame = d.secrets.frame env.toCipher u8SecType (text.take len) (env.stack d.clock) := by
  have hmax : MSG_BUFFER_MAXLEN = 600 := rfl
  have hhead : sizeof_ZC_SecHead = 4 := rfl
  have hlen : (d.secrets.sealed env.toCipher u8SecType (text.take len)).length =
      len + SEC_PaddingCheck d.secrets.u32SecSwitch u8SecType len := by
    rw [Secrets.length_sealed hseal, List.length_take, Nat.min_eq_left htext]
  have hroom : ¬ u16 (len + sizeof_ZC_SecHead +
      SEC_PaddingCheck (d.log (.toCloud (text.take len))).g_struZcConfigDb.struSwitchInfo.u32SecSwitch u8SecType len) >
        MSG_BUFFER_MAXLEN := by
    change ¬ u16 (len + sizeof_ZC_SecHead + SEC_PaddingCheck d.secrets.u32SecSwitch u8SecType len) > _
    rw [u16_of_lt (by omega)]
    omega
  obtain ⟨m, hm, -⟩ := (d.g_struSendBuffer i).u8MsgBuffer.store_spec
    (show sizeof_ZC_SecHead + (d.secrets.sealed env.toCipher u8SecType (text.take len)).length ≤ MSG_BUFFER_MAXLEN by omega)
  have hencrypt := @run_SEC_Encrypt_sealed env u8SecType (d.log (.toCloud (text.take len))) text len _ _ _ hseal htext
    (show (d.secrets.sealed env.toCipher u8SecType (text.take len)).length < 65536 by omega) hm
  generalize htop : ZC_SecHead.toBytes
    ⟨ZC_HTONS (d.secrets.sealed env.toCipher u8SecType (text.take len)).length, u8SecType, env.stack d.clock⟩ = top
  have htopLen : top.length = sizeof_ZC_SecHead := by
    rw [← htop]
    rfl
  obtain ⟨m', hm', -⟩ := m.store_spec (show 0 + top.length ≤ MSG_BUFFER_MAXLEN by omega)
  have hframe : m'.bytes.take ((d.secrets.sealed env.toCipher u8SecType (text.take len)).length + sizeof_ZC_SecHead) =
      top ++ d.secrets.sealed env.toCipher u8SecType (text.take len) := by
    have hload := @Mem.load_before _ _ _ _ top _ 0 (by rw [Nat.zero_add, htopLen]; exact hm) hm'
    obtain ⟨-, heq⟩ := load_eq_ok_iff.mp hload
    rw [List.drop_zero, List.length_append, htopLen, Nat.add_comm] at heq
    exact heq.symm
  obtain ⟨d', hpush, hbuffer⟩ := @run_pushFrame env u8SecType (d.log (.toCloud (text.take len))) _ i m m' (text.take len)
    (show m.store 0 (ZC_SecHead.toBytes ⟨_, _, env.stack d.clock⟩) = _ by rw [htop]; exact hm')
  have hrun : (PCT_SendMsgToCloud env u8SecType len text).run d = .ok (ZC_RET_OK, d') := by
    have hi' : idleSendBuffer (d.log (.toCloud (text.take len))) = some i := hi
    have hold : (d.log (.toCloud (text.take len))).g_struSendBuffer i = d.g_struSendBuffer i := rfl
    have hsecrets : (d.log (.toCloud (text.take len))).secrets = d.secrets := rfl
    rw [hsecrets] at hencrypt
    simp only [PCT_SendMsgToCloud, logEvent, run_bind, run_modify, run_get, ok_bind]
    rw [if_neg hroom, hi']
    simp only [run_bind, hold, hencrypt, ok_bind, reduceCtorEq, if_false, hpush, run_pure]
  refine ⟨d', hrun, ?_, ?_⟩
  · obtain ⟨hret, -⟩ | ⟨-, j, hqueued⟩ := PCT_SendMsgToCloud_cases hrun
    · cases hret
    · -- the buffer that was filled is the one that was found
      by_cases hij : i = j
      · rw [hij]
        exact hqueued
      · have hsame := hqueued.buffer_eq i hij
        rw [hbuffer] at hsame
        have hidle := idle_of_idleSendBuffer hi
        rw [← hsame] at hidle
        cases hidle
  · rw [MSG_Buffer.frame, hbuffer, hframe, ← htop]
    rfl

/-- What was encrypted in AES had its key. -/
theorem recved_of_SEC_Encrypt {out m : Mem MSG_BUFFER_MAXLEN} {off n : Nat}
    (haes : u8SecFlag d.secrets.u32SecSwitch u8SecType = ZC_SEC_ALG_AES)
    (h : (SEC_Encrypt env u8SecType text len off out).run d = .ok ((ZC_RET_OK, n, m), d')) :
    d.secrets.u8keyRecv = PCT_KEY_RECVED := by
  have hswitch : d.g_struZcConfigDb.struSwitchInfo.u32SecSwitch = d.secrets.u32SecSwitch := rfl
  rw [SEC_Encrypt, run_get_bind, hswitch] at h
  dsimp only at h
  rw [haes, if_neg (by decide), if_neg (by decide), if_pos rfl] at h
  obtain ⟨input, _, hload, h⟩ := run_bind_eq_ok.mp h
  obtain ⟨-, hsame⟩ := run_lift_eq_ok.mp hload
  rw [hsame] at h
  obtain ⟨⟨ret, cipher⟩, _, hcipher, h⟩ := run_bind_eq_ok.mp h
  obtain ⟨m', _, -, h⟩ := run_bind_eq_ok.mp h
  obtain ⟨heq, -⟩ := run_pure_eq_ok.mp h
  cases heq
  obtain ⟨c, _, hget, hcipher⟩ := run_bind_eq_ok.mp hcipher
  obtain ⟨rfl, -⟩ : c = d.g_struProtocolController ∧ _ := run_pure_eq_ok.mp hget
  by_contra hunrecved
  rw [if_pos (show d.g_struProtocolController.u8keyRecv ≠ PCT_KEY_RECVED from hunrecved)] at hcipher
  obtain ⟨hret, -⟩ := run_pure_eq_ok.mp hcipher
  cases hret

/-- A message that was sent found an idle buffer, and its key. -/
theorem canSeal_of_sent (htype : u8SecType = ZC_SEC_ALG_NONE ∨ u8SecType = ZC_SEC_ALG_AES)
    (h : (PCT_SendMsgToCloud env u8SecType len text).run d = .ok (ZC_RET_OK, d')) :
    (∃ i, idleSendBuffer d = some i) ∧ d.secrets.CanSeal u8SecType := by
  obtain ⟨_, d₁, hlog, h⟩ := run_bind_eq_ok.mp h
  have hd₁ := run_modify_eq_ok.mp hlog
  rw [run_get_bind] at h
  have hidle : idleSendBuffer d₁ = idleSendBuffer d := by
    rw [hd₁]
    rfl
  have hsecrets : d₁.secrets = d.secrets := by
    rw [hd₁]
    rfl
  dsimp only at h
  split at h
  · obtain ⟨hret, -⟩ := run_pure_eq_ok.mp h
    cases hret
  rw [hidle] at h
  cases hfound : idleSendBuffer d with
  | none =>
    rw [hfound] at h
    obtain ⟨hret, -⟩ := run_pure_eq_ok.mp h
    cases hret
  | some i =>
    rw [hfound] at h
    refine ⟨⟨i, rfl⟩, ?_⟩
    obtain ⟨⟨ret, n, m⟩, _, hencrypt, h⟩ := run_bind_eq_ok.mp h
    have hret : ret = ZC_RET_OK := by
      cases ret with
      | ZC_RET_OK => rfl
      | ZC_RET_ERROR =>
        rw [if_pos rfl] at h
        obtain ⟨_, _, -, h⟩ := run_bind_eq_ok.mp h
        exact (run_pure_eq_ok.mp h).1.symm
    rw [hret] at hencrypt
    have hkey := fun haes => recved_of_SEC_Encrypt haes hencrypt
    rw [hsecrets] at hkey
    obtain rfl | rfl := htype
    · refine .inl ?_
      rw [u8SecFlag]
      split
      · rfl
      · split <;> rfl
    · obtain hnone | haes := u8SecFlag_aes d.secrets.u32SecSwitch
      · exact .inl hnone
      · exact .inr ⟨haes, hkey haes⟩

end

end ZCloud
