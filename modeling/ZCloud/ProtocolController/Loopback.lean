import ZCloud.HfAdpter.System
import ZCloud.MessageQueue.Cuts
import ZCloud.ProtocolController.Aside
import ZCloud.ProtocolController.Sealed
import ZCloud.ProtocolController.SendQueue
import Mathlib.Logic.Function.Basic

open Memory Program

namespace ZCloud

/-- What a party does with the frames that it sends and receives. -/
inductive Transfer where
  | send (u8SecType : UInt8) (u16TotalMsg : Nat) (pu8PlainData : List UInt8)
  | sendData
  | recvCloud (pu8Data : List UInt8)
  | take

def Device.transfer (env : Env) : Transfer → Prog Device Unit
  | .send u8SecType u16TotalMsg pu8PlainData => do
    let _ ← PCT_SendMsgToCloud env u8SecType u16TotalMsg pu8PlainData
  | .sendData => MSG_SendDataToCloud
  | .recvCloud pu8Data => MSG_RecvDataFromCloud env pu8Data
  | .take => do
    match ← popMessage env with
    | none => return
    | some (addr, _) => releaseBuffer addr

section

variable {ι : Type} [DecidableEq ι]

/-- One of several parties does something. -/
def transferring (env : ι → Env) (input : ι × Transfer) : Prog (ι → Device) Unit :=
  zoom (fun parties => parties input.1) (fun parties d => Function.update parties input.1 d)
    (Device.transfer (env input.1) input.2)

end

/-- Delivered in any cut, a frame fills a buffer that was idle, and what `p` decrypts
it to is `plain`. -/
def Device.Reads (env : Env) (p : Device) (frame plain : List UInt8) : Prop :=
  ∀ (b : MSG_Buffer) (chunks : List (List UInt8)), b.u8Status = MSG_BUFFER_IDLE → chunks.flatten = frame →
    ∃ b', MSG_Buffer.feed chunks b = .ok (ZC_RET_OK, b') ∧ b'.u8Status = MSG_BUFFER_FULL ∧ b'.u32Len = frame.length ∧
      b'.u8MsgBuffer.bytes.take frame.length = frame ∧
      ∀ (beyond : List UInt8) (u16PlainLen : Nat), ∃ p',
        (SEC_Decrypt env (b'.u8MsgBuffer.bytes ++ beyond) u16PlainLen).run p = .ok ((ZC_RET_OK, plain.length), p') ∧
          p'.g_u8MsgBuildBuffer.bytes.take plain.length = plain

section

variable {env : Env} {d : Device} {plain : List UInt8} {u8SecType u8Resver : UInt8}

theorem run_SEC_AesDecrypt_encrypt (hinv : env.toCipher.AesInverse) (hkey : d.secrets.u8keyRecv = PCT_KEY_RECVED)
    (hfits : (AES_CBC_Encrypt env.toCipher plain d.secrets.u8SessionKey.bytes d.secrets.IvRecv.bytes).length ≤
      MSG_BULID_BUFFER_MAXLEN) (rest : List UInt8) (u16PlainLen : Nat) :
    ∃ d', (SEC_AesDecrypt env
        (AES_CBC_Encrypt env.toCipher plain d.secrets.u8SessionKey.bytes d.secrets.IvRecv.bytes ++ rest)
        (AES_CBC_Encrypt env.toCipher plain d.secrets.u8SessionKey.bytes d.secrets.IvRecv.bytes).length u16PlainLen).run d =
          .ok ((ZC_RET_OK, plain.length), d') ∧
      d'.g_u8MsgBuildBuffer.bytes.take plain.length = plain := by
  have hbuild : MSG_BULID_BUFFER_MAXLEN = 600 := rfl
  have hsize : ZC_SEC_AES_BLOCK_SIZE = 16 := rfl
  have hrecved : ¬ d.g_struProtocolController.u8keyRecv ≠ PCT_KEY_RECVED := fun h => h hkey
  rw [length_AES_CBC_Encrypt, ← length_pad, Cbc.pad, List.length_append] at hfits
  have hdecrypt : AES_CBC_Decrypt env.toCipher
      (AES_CBC_Encrypt env.toCipher plain d.secrets.u8SessionKey.bytes d.secrets.IvRecv.bytes ++ rest)
      (AES_CBC_Encrypt env.toCipher plain d.secrets.u8SessionKey.bytes d.secrets.IvRecv.bytes).length
      d.g_struProtocolController.u8SessionKey.bytes d.g_struProtocolController.IvRecv.bytes (env.stack d.clock) = _ :=
    AES_CBC_Decrypt_encrypt hinv (Mem.length_bytes _) (by omega) rest _
  obtain ⟨m, hm, hbytes⟩ := d.tick.g_u8MsgBuildBuffer.store_spec
    (show 0 + (Cbc.pad ZC_SEC_AES_BLOCK_SIZE plain).length ≤ MSG_BULID_BUFFER_MAXLEN by
      rw [Cbc.pad, List.length_append]
      omega)
  simp only [SEC_AesDecrypt, getController, draw, run_bind, run_get, run_set, run_pure, ok_bind, if_neg hrecved, hdecrypt,
    run_lift_ok, run_storeBuild hm, u16_of_lt (show plain.length < 65536 by omega)]
  refine ⟨_, rfl, ?_⟩
  change m.bytes.take plain.length = plain
  rw [hbytes, Cbc.pad, patch, List.take_zero, List.nil_append, List.append_assoc, List.take_left]

/-- A frame is decrypted to what it was made of. -/
theorem run_SEC_Decrypt_frame (hinv : env.toCipher.AesInverse) (hseal : d.secrets.CanSeal u8SecType)
    (hiv : d.secrets.IvSend = d.secrets.IvRecv)
    (hfits : (d.secrets.frame env.toCipher u8SecType plain u8Resver).length ≤ MSG_BUFFER_MAXLEN) (rest : List UInt8)
    (u16PlainLen : Nat) :
    ∃ d', (SEC_Decrypt env (d.secrets.frame env.toCipher u8SecType plain u8Resver ++ rest) u16PlainLen).run d =
        .ok ((ZC_RET_OK, plain.length), d') ∧
      d'.g_u8MsgBuildBuffer.bytes.take plain.length = plain := by
  have hmax : MSG_BUFFER_MAXLEN = 600 := rfl
  have hbuild : MSG_BULID_BUFFER_MAXLEN = 600 := rfl
  have hhead : sizeof_ZC_SecHead = 4 := rfl
  have hsealed := @Secrets.length_sealed env.toCipher _ _ hseal plain
  rw [Secrets.length_frame] at hfits
  have hdrop : (d.secrets.frame env.toCipher u8SecType plain u8Resver ++ rest).drop sizeof_ZC_SecHead =
      d.secrets.sealed env.toCipher u8SecType plain ++ rest := rfl
  have htotal : loadU16 (d.secrets.frame env.toCipher u8SecType plain u8Resver ++ rest) 0 =
      .ok (ZC_HTONS (d.secrets.sealed env.toCipher u8SecType plain).length) :=
    loadU16_append_zero (ZC_HTONS_lt _)
  have htype : loadU8 (d.secrets.frame env.toCipher u8SecType plain u8Resver ++ rest) 2 = .ok u8SecType :=
    loadU8_append _ (loadU8_append _ rfl)
  have hback : ZC_HTONS (ZC_HTONS (d.secrets.sealed env.toCipher u8SecType plain).length) =
      (d.secrets.sealed env.toCipher u8SecType plain).length := ZC_HTONS_ZC_HTONS (by omega)
  have hswitch : d.g_struZcConfigDb.struSwitchInfo.u32SecSwitch = d.secrets.u32SecSwitch := rfl
  rw [SEC_Decrypt, htotal, htype, hdrop]
  simp only [run_bind, run_lift_ok, ok_bind, run_get, hswitch, hback]
  obtain hnone | ⟨haes, hkey⟩ := hseal
  · have hplain : d.secrets.sealed env.toCipher u8SecType plain = plain := by
      apply if_neg
      rw [hnone]
      decide
    rw [hplain] at hfits ⊢
    obtain ⟨m, hm, hbytes⟩ := d.g_u8MsgBuildBuffer.store_spec (show 0 + plain.length ≤ MSG_BULID_BUFFER_MAXLEN by omega)
    rw [if_pos hnone, load_append_zero rfl]
    simp only [run_bind, run_lift_ok, ok_bind, run_storeBuild hm, run_pure]
    refine ⟨_, rfl, ?_⟩
    change m.bytes.take plain.length = plain
    rw [hbytes, take_patch_zero]
  · have hcipher : d.secrets.sealed env.toCipher u8SecType plain =
        AES_CBC_Encrypt env.toCipher plain d.secrets.u8SessionKey.bytes d.secrets.IvRecv.bytes := by
      rw [← hiv]
      exact if_pos haes
    rw [hcipher] at hfits
    rw [hcipher, haes, if_neg (by decide), if_neg (by decide), if_pos rfl]
    exact run_SEC_AesDecrypt_encrypt hinv hkey (by omega) rest u16PlainLen

/-- However a frame is cut, it is collected. -/
theorem feed_frame {b : MSG_Buffer} {frame : List UInt8} {chunks : List (List UInt8)} (hidle : b.u8Status = MSG_BUFFER_IDLE)
    (hcut : chunks.flatten = frame) (hhead : sizeof_ZC_SecHead ≤ frame.length) (htotal : secTotal frame = frame.length)
    (hfits : frame.length ≤ MSG_BUFFER_MAXLEN) :
    ∃ b', MSG_Buffer.feed chunks b = .ok (ZC_RET_OK, b') ∧ b'.u8Status = MSG_BUFFER_FULL ∧ b'.u32Len = frame.length ∧
      b'.u8MsgBuffer.bytes.take frame.length = frame := by
  have hne : chunks ≠ [] := by
    rintro rfl
    rw [← hcut] at hhead
    exact absurd hhead (by decide)
  have hchunks : ∀ c ∈ chunks, c.length ≤ CHUNK_MAXLEN := by
    intro c hc
    have hle := (List.sublist_flatten_of_mem hc).length_le
    rw [hcut] at hle
    exact Nat.le_trans hle (Nat.le_trans hfits (by decide))
  obtain ⟨⟨ret, b'⟩, hrun, hresult⟩ := MSG_Buffer.feed_idle hidle hchunks hne
  have hframe : secFormat.IsFrame frame := ⟨hhead, decide_eq_true (by rw [htotal]; exact hfits), htotal.symm⟩
  have hwhole := secFormat.absorb_finish (p := []) (c := frame) hframe (List.append_nil frame).symm
  rw [hcut, hwhole] at hresult
  obtain ⟨rfl, hfull⟩ := hresult
  exact ⟨b', hrun, hfull.status_eq, hfull.len_eq, hfull.take_eq⟩

section

variable (env)

theorem secrets_of_unsent {d d' : Device} (h : d'.unsent = d.unsent) : d'.secrets = d.secrets := by
  have := congrArg Device.secrets h
  exact this

theorem PCT_SendMsgToCloud_secrets (u8SecType : UInt8) (len : Nat) (data : List UInt8) :
    Keeps Device.secrets (PCT_SendMsgToCloud env u8SecType len data) :=
  moves_mono (PCT_SendMsgToCloud_aside env u8SecType len data) fun h => secrets_of_unsent h.view_eq

theorem storeBuild_secrets (off : Nat) (data : List UInt8) : Keeps Device.secrets (storeBuild off data) :=
  moves_mono (storeBuild_aside (P := fun _ => True) off data) fun h => secrets_of_unsent h.view_eq

theorem drawBytes_secrets (stack : Nat → UInt8) (len : Nat) : Keeps Device.secrets (drawBytes stack len) :=
  moves_mono (drawBytes_ticks stack len) fun h => secrets_of_unsent h.unsent_eq

theorem draw_secrets {α : Type} (answer : Nat → α) : Keeps Device.secrets (draw answer) :=
  moves_mono (draw_ticks answer) fun h => secrets_of_unsent h.unsent_eq

theorem secrets_setBuffer (d : Device) (addr : BufferAddr) (b : MSG_Buffer) : (d.setBuffer addr b).secrets = d.secrets := by
  cases addr <;> rfl

theorem MSG_SendDataToCloud_secrets : Keeps Device.secrets MSG_SendDataToCloud := by
  refine moves_get_bind fun d r d' h => ?_
  generalize MSG_PopMsg d.g_struSendQueue = pop at h
  obtain ⟨addr, queue⟩ := pop
  obtain ⟨_, d₁, hset, h⟩ := run_bind_eq_ok.mp h
  have hd₁ : d₁.secrets = d.secrets := by
    rw [run_modify_eq_ok.mp hset]
    rfl
  cases addr with
  | none => rw [(run_pure_eq_ok.mp h).2, hd₁]
  | some addr =>
    obtain ⟨frame, _, hload, h⟩ := run_bind_eq_ok.mp h
    obtain ⟨_, d₂, hlog, h⟩ := run_bind_eq_ok.mp h
    obtain ⟨_, d₃, hsend, h⟩ := run_bind_eq_ok.mp h
    rw [run_modify_eq_ok.mp h, secrets_setBuffer, run_modify_eq_ok.mp hsend, run_modify_eq_ok.mp hlog,
      (run_lift_eq_ok.mp hload).2, ← hd₁]
    rfl

theorem SEC_AesDecrypt_secrets (text : List UInt8) (len u16PlainLen : Nat) :
    Keeps Device.secrets (SEC_AesDecrypt env text len u16PlainLen) :=
  moves_bind (moves_bind moves_get fun _ => moves_pure _) fun _ => moves_ite (moves_pure _) <|
    moves_bind (draw_secrets _) fun _ => moves_bind (moves_lift _) fun _ =>
      moves_bind (storeBuild_secrets _ _) fun _ => moves_pure _

theorem SEC_Decrypt_secrets (view : List UInt8) (u16PlainLen : Nat) :
    Keeps Device.secrets (SEC_Decrypt env view u16PlainLen) := by
  refine moves_bind (moves_lift _) fun _ => moves_bind (moves_lift _) fun _ => moves_bind moves_get fun _ => ?_
  refine moves_ite ?_ (moves_ite ?_ (moves_ite (SEC_AesDecrypt_secrets env _ _ _) (moves_pure _)))
  · exact moves_bind (moves_lift _) fun _ => moves_bind (storeBuild_secrets _ _) fun _ => moves_pure _
  · exact moves_bind (drawBytes_secrets _ _) fun _ => moves_bind moves_get fun _ => moves_bind (moves_lift _) fun _ =>
      moves_bind (moves_modify fun _ => rfl) fun _ => moves_pure _

theorem MSG_RecvDataFromCloud_secrets (pu8Data : List UInt8) :
    Keeps Device.secrets (MSG_RecvDataFromCloud env pu8Data) := by
  refine moves_bind (drawBytes_secrets _ _) fun _ => moves_bind (draw_secrets _) fun _ => ?_
  refine moves_get_bind fun d r d' h => ?_
  obtain ⟨⟨ret, buffer⟩, _, hrecv, h⟩ := run_bind_eq_ok.mp h
  rw [(run_lift_eq_ok.mp hrecv).2] at h
  obtain ⟨_, d₁, hset, h⟩ := run_bind_eq_ok.mp h
  have hd₁ : d₁.secrets = d.secrets := by
    rw [run_set_eq_ok.mp hset]
    rfl
  dsimp only at h
  split at h
  · obtain ⟨⟨ret, len⟩, d₂, hdecrypt, h⟩ := run_bind_eq_ok.mp h
    have hd₂ := SEC_Decrypt_secrets env _ _ hdecrypt
    rw [run_get_bind] at h
    obtain ⟨m, _, hcopy, h⟩ := run_bind_eq_ok.mp h
    rw [(run_lift_eq_ok.mp hcopy).2] at h
    obtain ⟨_, d₃, hlog, h⟩ := run_bind_eq_ok.mp h
    obtain ⟨_, d₄, hstore, h⟩ := run_bind_eq_ok.mp h
    have hd₄ : d₄.secrets = d.secrets := by
      rw [← hd₁, ← hd₂, run_modify_eq_ok.mp hstore, run_modify_eq_ok.mp hlog]
      rfl
    split at h
    · obtain ⟨_, d₅, hqueue, h⟩ := run_bind_eq_ok.mp h
      have hd₅ : d₅.secrets = d.secrets := by
        rw [← hd₄, run_modify_eq_ok.mp hqueue]
        rfl
      split at h
      · rw [run_modify_eq_ok.mp h, ← hd₅]
        rfl
      · rw [(run_pure_eq_ok.mp h).2, hd₅]
    · rw [(run_pure_eq_ok.mp h).2, hd₄]
  · rw [(run_pure_eq_ok.mp h).2, hd₁]

theorem popMessage_secrets : Keeps Device.secrets (popMessage env) := by
  refine moves_get_bind fun d r d' h => ?_
  generalize MSG_PopMsg d.g_struRecvQueue = pop at h
  obtain ⟨addr, queue⟩ := pop
  obtain ⟨_, d₁, hset, h⟩ := run_bind_eq_ok.mp h
  rw [run_modify_eq_ok.mp hset] at h
  cases addr with
  | none => rw [(run_pure_eq_ok.mp h).2]; rfl
  | some addr =>
    obtain ⟨beyond, d₂, hdraw, h⟩ := run_bind_eq_ok.mp h
    obtain ⟨_, d₃, hlog, h⟩ := run_bind_eq_ok.mp h
    rw [(run_pure_eq_ok.mp h).2, run_modify_eq_ok.mp hlog, (run_draw_eq_ok.mp hdraw).2]
    rfl

/-- Nothing that is sent or received moves the key, or an initialization vector. -/
theorem Device.transfer_secrets (input : Transfer) : Keeps Device.secrets (Device.transfer env input) := by
  cases input with
  | send u8SecType u16TotalMsg pu8PlainData =>
    exact moves_bind (PCT_SendMsgToCloud_secrets env _ _ _) fun _ => moves_pure _
  | sendData => exact MSG_SendDataToCloud_secrets
  | recvCloud pu8Data => exact MSG_RecvDataFromCloud_secrets env pu8Data
  | take =>
    refine moves_bind (popMessage_secrets env) fun message => ?_
    cases message with
    | none => exact moves_pure _
    | some message => exact moves_modify fun d => secrets_setBuffer d _ _

end

/-- Who shares the secrets of the sender reads the frame. -/
theorem Device.reads_frame (hinv : env.toCipher.AesInverse) (hseal : d.secrets.CanSeal u8SecType)
    (hiv : d.secrets.IvSend = d.secrets.IvRecv)
    (hfits : (d.secrets.frame env.toCipher u8SecType plain u8Resver).length ≤ MSG_BUFFER_MAXLEN) :
    d.Reads env (d.secrets.frame env.toCipher u8SecType plain u8Resver) plain := by
  have hmax : MSG_BUFFER_MAXLEN = 600 := rfl
  have hhead : sizeof_ZC_SecHead ≤ (d.secrets.frame env.toCipher u8SecType plain u8Resver).length := by
    rw [Secrets.length_frame]
    exact Nat.le_add_left ..
  have htotal : secTotal (d.secrets.frame env.toCipher u8SecType plain u8Resver) = _ :=
    Secrets.secTotal_frame (by rw [Secrets.length_frame] at hfits; omega)
  intro b chunks hidle hcut
  obtain ⟨b', hrun, hfull, hlen, htake⟩ := feed_frame hidle hcut hhead htotal hfits
  refine ⟨b', hrun, hfull, hlen, htake, fun beyond u16PlainLen => ?_⟩
  rw [← List.take_append_drop (d.secrets.frame env.toCipher u8SecType plain u8Resver).length b'.u8MsgBuffer.bytes, htake,
    List.append_assoc]
  exact run_SEC_Decrypt_frame hinv hseal hiv hfits _ u16PlainLen

end

section

variable {ι : Type} [DecidableEq ι] {env : ι → Env} {parties parties' : ι → Device} {s : Secrets}

/-- However much is sent and received, every party keeps the secrets. -/
theorem Runs.secrets_eq (h : Runs (transferring env) (fun _ _ => True) parties parties') (hstart : ∀ i, (parties i).secrets = s) :
    ∀ i, (parties' i).secrets = s := by
  refine h.invariant (I := fun t => ∀ i, (t i).secrets = s) hstart fun t u input ht _ hstep i => ?_
  obtain ⟨d, hrun, rfl⟩ := run_zoom_eq_ok.mp hstep
  by_cases hi : i = input.1
  · rw [hi, Function.update_self, Device.transfer_secrets (env input.1) input.2 hrun]
    exact ht input.1
  · rw [Function.update_of_ne hi]
    exact ht i

variable {c : Cipher} {i : ι} {u8SecType : UInt8} {u16TotalMsg : Nat} {pu8PlainData : List UInt8} {d : Device}

/-- Whatever has been sent and received before, and whatever is between, a message
that is sent is read by every party. -/
theorem PCT_SendMsgToCloud_loopback (hcipher : ∀ i, (env i).toCipher = c) (hinv : c.AesInverse) (hiv : s.IvSend = s.IvRecv)
    (hstart : ∀ i, (parties i).secrets = s) (hruns : Runs (transferring env) (fun _ _ => True) parties parties')
    (htype : u8SecType = ZC_SEC_ALG_NONE ∨ u8SecType = ZC_SEC_ALG_AES) (hplain : u16TotalMsg ≤ pu8PlainData.length)
    (hfits : u16TotalMsg + sizeof_ZC_SecHead + SEC_PaddingCheck s.u32SecSwitch u8SecType u16TotalMsg ≤ MSG_BUFFER_MAXLEN)
    (hsend : (PCT_SendMsgToCloud (env i) u8SecType u16TotalMsg pu8PlainData).run (parties' i) = .ok (ZC_RET_OK, d)) :
    d.secrets = s ∧ ∃ k, Queued (pu8PlainData.take u16TotalMsg) k (parties' i) d ∧
      ∀ later, Runs (transferring env) (fun _ _ => True) (Function.update parties' i d) later → ∀ j,
        (later j).secrets = s ∧
        (later j).Reads (env j) (d.g_struSendBuffer k).frame (pu8PlainData.take u16TotalMsg) := by
  have hsecrets := Runs.secrets_eq hruns hstart
  have hd : d.secrets = s := (PCT_SendMsgToCloud_secrets (env i) _ _ _ hsend).trans (hsecrets i)
  obtain ⟨⟨k, hk⟩, hseal⟩ := canSeal_of_sent htype hsend
  rw [← hsecrets i] at hfits
  obtain ⟨d', hrun, hqueued, hframe⟩ := @run_PCT_SendMsgToCloud_sealed (env i) _ _ _ _ _ hk hseal hplain hfits
  obtain rfl : d' = d := congrArg Prod.snd (Except.ok.inj (hrun.symm.trans hsend))
  refine ⟨hd, k, hqueued, fun later hlater j => ?_⟩
  have hj : (later j).secrets = s := by
    refine Runs.secrets_eq hlater (fun i' => ?_) j
    by_cases hi : i' = i
    · rw [hi, Function.update_self]
      exact hd
    · rw [Function.update_of_ne hi]
      exact hsecrets i'
  refine ⟨hj, ?_⟩
  rw [hsecrets i] at hseal hframe hfits
  rw [hframe, hcipher i, ← hcipher j, ← hj]
  refine Device.reads_frame (by rw [hcipher j]; exact hinv) (by rw [hj]; exact hseal) (by rw [hj]; exact hiv) ?_
  rw [hj, Secrets.length_frame, Secrets.length_sealed hseal, List.length_take, Nat.min_eq_left hplain]
  omega

end

/-- A device that is connected to the cloud and encrypts every message. -/
def keyedDevice : Device :=
  secureDevice.withController { secureDevice.g_struProtocolController with
    u8MainState := PCT_STATE_CONNECT_CLOUD
    u8keyRecv := PCT_KEY_RECVED
    u8SendMoudleTimer := none }

/-- Three bytes that a device sends to itself. -/
theorem PCT_SendMsgToCloud_loopback_short : ∃ d k,
    (PCT_SendMsgToCloud soundEnv ZC_SEC_ALG_AES 3 [1, 2, 3]).run keyedDevice = .ok (ZC_RET_OK, d) ∧
      d.Reads soundEnv (d.g_struSendBuffer k).frame [1, 2, 3] := by
  have hview : ((PCT_SendMsgToCloud soundEnv ZC_SEC_ALG_AES 3 [1, 2, 3]).run keyedDevice).toOption.map Prod.fst =
      some ZC_RET_OK := by decide +kernel
  cases hsend : (PCT_SendMsgToCloud soundEnv ZC_SEC_ALG_AES 3 [1, 2, 3]).run keyedDevice with
  | error e =>
    rw [hsend] at hview
    cases hview
  | ok r =>
    obtain ⟨ret, d⟩ := r
    rw [hsend] at hview
    obtain rfl : ret = ZC_RET_OK := Option.some.inj hview
    obtain ⟨-, k, -, hlater⟩ := @PCT_SendMsgToCloud_loopback Unit _ (fun _ => soundEnv) (fun _ => keyedDevice)
      (fun _ => keyedDevice) keyedDevice.secrets _ () _ _ _ d (fun _ => rfl) soundEnv_inverse rfl (fun _ => rfl) .refl
      (.inr rfl) (by decide) (by decide) hsend
    have hreads := (hlater _ .refl ()).2
    rw [Function.update_self] at hreads
    exact ⟨d, k, rfl, hreads⟩

end ZCloud
