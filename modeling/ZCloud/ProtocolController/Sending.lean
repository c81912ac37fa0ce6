import ZCloud.ProtocolController.Send
import ZCloud.SecEngine.Aes
import Mathlib.Data.Fintype.Card

open Memory Program

namespace ZCloud

/-- Nothing has happened but that answers were got from the outside. -/
def Ticks (d d' : Device) : Prop := ∃ clock, d' = { d with clock := clock }

instance : Frame Ticks where
  refl d := ⟨d.clock, rfl⟩
  trans := by
    rintro _ _ _ ⟨_, rfl⟩ ⟨clock, rfl⟩
    exact ⟨clock, rfl⟩

theorem draw_ticks {α : Type} (answer : Nat → α) : Moves Ticks (draw answer) := by
  intro d a d' h
  obtain ⟨-, rfl⟩ := run_draw_eq_ok.mp h
  exact ⟨d.clock + 1, rfl⟩

theorem drawBytes_ticks (stack : Nat → UInt8) (len : Nat) : Moves Ticks (drawBytes stack len) := by
  induction len with
  | zero => exact moves_pure _
  | succ len ih => exact moves_bind (draw_ticks _) fun _ => moves_bind ih fun _ => moves_pure _

theorem drawPadding_ticks (env : Env) (len : Nat) : Moves Ticks (drawPadding env len) := by
  induction len with
  | zero => exact moves_pure _
  | succ len ih => exact moves_bind (draw_ticks _) fun _ => moves_bind ih fun _ => moves_pure _

theorem getController_ticks : Moves Ticks getController := moves_bind moves_get fun _ => moves_pure _

section

variable (env : Env)

theorem rsa_pkcs1_encrypt_ticks (key input : List UInt8) : Moves Ticks (rsa_pkcs1_encrypt env key input) := by
  refine moves_ite (moves_pure _) (moves_bind (drawPadding_ticks env _) fun _ => ?_)
  intro d a d' h
  dsimp only at h
  split at h
  · exact moves_pure _ h
  · exact moves_pure _ h

theorem rsaEncryptBlock_ticks (key text : List UInt8) (off len : Nat) (s : RsaEncrypt MSG_BUFFER_MAXLEN) :
    Moves Ticks (rsaEncryptBlock env key text off len s) :=
  moves_bind (moves_lift _) fun _ => moves_bind (rsa_pkcs1_encrypt_ticks env key _) fun _ =>
    moves_bind (moves_lift _) fun _ => moves_pure _

theorem rsaEncryptLoop_ticks (key text : List UInt8) (off count : Nat) (s : RsaEncrypt MSG_BUFFER_MAXLEN) :
    Moves Ticks (rsaEncryptLoop env key text off count s) := by
  induction count generalizing s with
  | zero => exact moves_pure _
  | succ count ih =>
    exact moves_bind (rsaEncryptBlock_ticks env key text _ _ s) fun s => moves_ite (ih _) (moves_pure _)

theorem SEC_EncryptTextByRsa_ticks (text : List UInt8) (len off : Nat) (out : Mem MSG_BUFFER_MAXLEN) :
    Moves Ticks (SEC_EncryptTextByRsa env text len off out) := by
  refine moves_bind moves_get fun _ => moves_ite ?_ ?_
  · refine moves_bind (rsaEncryptLoop_ticks env _ text off _ _) fun s => moves_ite ?_ ?_
    · exact moves_bind (rsaEncryptBlock_ticks env _ text _ _ s) fun _ =>
        moves_bind (moves_pure _) fun _ => moves_pure _
    · exact moves_bind (moves_pure _) fun _ => moves_pure _
  · exact moves_bind (rsaEncryptBlock_ticks env _ text _ _ _) fun _ =>
      moves_bind (moves_pure _) fun _ => moves_pure _

theorem SEC_AesEncrypt_ticks (text : List UInt8) : Moves Ticks (SEC_AesEncrypt env text) :=
  moves_bind getController_ticks fun _ => moves_ite (moves_pure _) (moves_pure _)

theorem SEC_Encrypt_ticks (u8SecType : UInt8) (text : List UInt8) (len off : Nat)
    (out : Mem MSG_BUFFER_MAXLEN) : Moves Ticks (SEC_Encrypt env u8SecType text len off out) := by
  refine moves_bind moves_get fun _ => moves_ite ?_ (moves_ite ?_ (moves_ite ?_ (moves_pure _)))
  · exact moves_bind (moves_lift _) fun _ => moves_pure _
  · exact SEC_EncryptTextByRsa_ticks env text len off out
  · exact moves_bind (moves_lift _) fun _ => moves_bind (SEC_AesEncrypt_ticks env _) fun _ =>
      moves_bind (moves_lift _) fun _ => moves_pure _

/-- A text that could be encrypted is short enough for a block. -/
theorem rsa_pkcs1_encrypt_block {key input bytes : List UInt8} {d d' : Device}
    (h : (rsa_pkcs1_encrypt env key input).run d = .ok ((true, bytes), d')) :
    input.length ≤ ZC_SEC_RSA_TEXT_LEN ∧ bytes.length = ZC_SEC_RSA_LEN := by
  have hrsa : ZC_SEC_RSA_LEN = 32 := rfl
  have htext : ZC_SEC_RSA_TEXT_LEN = 21 := rfl
  rw [rsa_pkcs1_encrypt] at h
  split at h
  · obtain ⟨heq, -⟩ := run_pure_eq_ok.mp h
    cases heq
  · obtain ⟨padding, _, -, h⟩ := run_bind_eq_ok.mp h
    dsimp only at h
    split at h
    · obtain ⟨heq, -⟩ := run_pure_eq_ok.mp h
      cases heq
    · rename_i out hpublic
      obtain ⟨heq, -⟩ := run_pure_eq_ok.mp h
      cases heq
      exact ⟨by omega, env.length_public _ _ _ hpublic⟩

/-- What a block leaves: when it could be encrypted, the block fits the buffer. -/
theorem rsaEncryptBlock_fits {key text : List UInt8} {off len : Nat} {s s' : RsaEncrypt MSG_BUFFER_MAXLEN} {d d' : Device}
    (h : (rsaEncryptBlock env key text off len s).run d = .ok (s', d')) :
    s'.u16ReadLen = s.u16ReadLen ∧ s'.u16CiperLen = s.u16CiperLen ∧
      (s'.s32Ret = true → len ≤ ZC_SEC_RSA_TEXT_LEN ∧ off + s.u16CiperLen + ZC_SEC_RSA_LEN ≤ MSG_BUFFER_MAXLEN) := by
  obtain ⟨input, _, hload, h⟩ := run_bind_eq_ok.mp h
  obtain ⟨⟨ret, bytes⟩, _, hencrypt, h⟩ := run_bind_eq_ok.mp h
  obtain ⟨m, _, hstore, h⟩ := run_bind_eq_ok.mp h
  obtain ⟨rfl, -⟩ := run_pure_eq_ok.mp h
  refine ⟨rfl, rfl, fun hret => ?_⟩
  obtain rfl : ret = true := hret
  obtain ⟨hfits, -⟩ := Mem.store_eq_ok_iff.mp (run_lift_eq_ok.mp hstore).1
  have hinput := length_of_load (run_lift_eq_ok.mp hload).1
  obtain ⟨hshort, hbytes⟩ := rsa_pkcs1_encrypt_block env hencrypt
  exact ⟨by omega, by omega⟩

/-- The counters after the loop, which has encrypted `k` texts that fit. -/
theorem rsaEncryptLoop_fits {key text : List UInt8} {off : Nat} {count : Nat} {s s' : RsaEncrypt MSG_BUFFER_MAXLEN} {d d' : Device}
    (hs : off + s.u16CiperLen ≤ MSG_BUFFER_MAXLEN)
    (h : (rsaEncryptLoop env key text off count s).run d = .ok (s', d')) :
    off + s'.u16CiperLen ≤ MSG_BUFFER_MAXLEN ∧
      ∃ k ≤ count, s'.u16ReadLen = s.u16ReadLen + ZC_SEC_RSA_TEXT_LEN * k ∧
        s'.u16CiperLen = s.u16CiperLen + ZC_SEC_RSA_LEN * k := by
  have hmax : MSG_BUFFER_MAXLEN = 600 := rfl
  induction count generalizing s d with
  | zero =>
    obtain ⟨rfl, -⟩ := run_pure_eq_ok.mp h
    exact ⟨hs, 0, Nat.zero_le _, rfl, rfl⟩
  | succ count ih =>
    obtain ⟨s₁, _, hblock, h⟩ := run_bind_eq_ok.mp h
    obtain ⟨hread, hlen, hfits⟩ := rsaEncryptBlock_fits env hblock
    split at h
    · rename_i hret
      obtain ⟨-, hfits⟩ := hfits hret
      have hnext : u16 (s₁.u16CiperLen + ZC_SEC_RSA_LEN) = s.u16CiperLen + ZC_SEC_RSA_LEN := by
        rw [hlen, u16_of_lt (by omega)]
      obtain ⟨hbound, k, hk, hread', hlen'⟩ := ih (by dsimp only; omega) h
      dsimp only at hread' hlen'
      exact ⟨hbound, k + 1, by omega, by rw [Nat.mul_succ]; omega, by rw [Nat.mul_succ]; omega⟩
    · obtain ⟨rfl, -⟩ := run_pure_eq_ok.mp h
      exact ⟨by omega, 0, Nat.zero_le _, hread, hlen⟩

/-- The length of what `SEC_Encrypt` makes of a text. -/
def cipherLen (flag : UInt8) (u16Len : Nat) : Nat :=
  if flag = ZC_SEC_ALG_NONE then u16Len
  else if flag = ZC_SEC_ALG_RSA then ZC_SEC_RSA_LEN * max 1 ((u16Len + ZC_SEC_RSA_TEXT_LEN - 1) / ZC_SEC_RSA_TEXT_LEN)
  else if flag = ZC_SEC_ALG_AES then ZC_SEC_AES_BLOCK_SIZE * (u16Len / ZC_SEC_AES_BLOCK_SIZE + 1)
  else 0

private theorem SEC_EncryptTextByRsa_fits {text : List UInt8} {len off n : Nat} {out m : Mem MSG_BUFFER_MAXLEN}
    {d d' : Device} (hoff : off ≤ MSG_BUFFER_MAXLEN)
    (h : (SEC_EncryptTextByRsa env text len off out).run d = .ok ((ZC_RET_OK, n, m), d')) :
    off + n ≤ MSG_BUFFER_MAXLEN ∧ n = cipherLen ZC_SEC_ALG_RSA len := by
  have hmax : MSG_BUFFER_MAXLEN = 600 := rfl
  have hrsa : ZC_SEC_RSA_LEN = 32 := rfl
  have htext : ZC_SEC_RSA_TEXT_LEN = 21 := rfl
  have hok : ∀ {b : Bool}, ZC_RET_OK = (if b = true then ZC_RET_OK else ZC_RET_ERROR) → b = true := by decide
  rw [cipherLen, if_neg (by decide), if_pos rfl]
  rw [SEC_EncryptTextByRsa, run_get_bind] at h
  dsimp only at h
  split at h
  · obtain ⟨s₁, _, hloop, h⟩ := run_bind_eq_ok.mp h
    obtain ⟨hbound, k, hk, hread, hciper⟩ := rsaEncryptLoop_fits env (s := ⟨true, 0, 0, out⟩) hoff hloop
    rw [htext] at hk hread
    rw [hrsa] at hciper
    dsimp only at hread hciper
    split at h
    · obtain ⟨s₂, _, hblock, h⟩ := run_bind_eq_ok.mp h
      obtain ⟨_, _, hs, h⟩ := run_bind_eq_ok.mp h
      obtain ⟨rfl, -⟩ := run_pure_eq_ok.mp hs
      obtain ⟨heq, -⟩ := run_pure_eq_ok.mp h
      simp only [Prod.mk.injEq] at heq
      obtain ⟨hret, rfl, rfl⟩ := heq
      obtain ⟨-, hlen, hlast⟩ := rsaEncryptBlock_fits env hblock
      obtain ⟨hshort, hfits⟩ := hlast (hok hret)
      have hu16 : u16 (s₂.u16CiperLen + ZC_SEC_RSA_LEN) = s₁.u16CiperLen + ZC_SEC_RSA_LEN := by
        rw [hlen, u16_of_lt (by omega)]
      rw [hu16, hrsa, htext]
      omega
    · obtain ⟨_, _, hs, h⟩ := run_bind_eq_ok.mp h
      obtain ⟨rfl, -⟩ := run_pure_eq_ok.mp hs
      obtain ⟨heq, -⟩ := run_pure_eq_ok.mp h
      simp only [Prod.mk.injEq] at heq
      obtain ⟨-, rfl, rfl⟩ := heq
      exact ⟨hbound, by rw [hciper, hrsa, htext]; omega⟩
  · obtain ⟨s₂, _, hblock, h⟩ := run_bind_eq_ok.mp h
    obtain ⟨_, _, hs, h⟩ := run_bind_eq_ok.mp h
    obtain ⟨rfl, -⟩ := run_pure_eq_ok.mp hs
    obtain ⟨heq, -⟩ := run_pure_eq_ok.mp h
    simp only [Prod.mk.injEq] at heq
    obtain ⟨hret, rfl, rfl⟩ := heq
    obtain ⟨-, -, hfits⟩ := rsaEncryptBlock_fits env hblock
    obtain ⟨hshort, hfits⟩ := hfits (hok hret)
    exact ⟨hfits, by rw [hrsa, htext]; omega⟩

/-- A text that could be encrypted fits the buffer. -/
theorem SEC_Encrypt_fits {u8SecType : UInt8} {text : List UInt8} {len off : Nat}
    {out m : Mem MSG_BUFFER_MAXLEN} {n : Nat} {d d' : Device} (hoff : off ≤ MSG_BUFFER_MAXLEN)
    (h : (SEC_Encrypt env u8SecType text len off out).run d = .ok ((ZC_RET_OK, n, m), d')) :
    off + n ≤ MSG_BUFFER_MAXLEN ∧
      n = cipherLen (u8SecFlag d.g_struZcConfigDb.struSwitchInfo.u32SecSwitch u8SecType) len := by
  rw [SEC_Encrypt, run_get_bind] at h
  generalize u8SecFlag d.g_struZcConfigDb.struSwitchInfo.u32SecSwitch u8SecType = flag at h ⊢
  dsimp only at h
  by_cases hnone : flag = ZC_SEC_ALG_NONE
  · rw [if_pos hnone] at h
    obtain ⟨m', _, hcopy, h⟩ := run_bind_eq_ok.mp h
    obtain ⟨heq, -⟩ := run_pure_eq_ok.mp h
    cases heq
    exact ⟨(Mem.memcpy_eq_ok_iff.mp (run_lift_eq_ok.mp hcopy).1).2.1, by rw [cipherLen, if_pos hnone]⟩
  by_cases hrsa : flag = ZC_SEC_ALG_RSA
  · rw [if_neg hnone, if_pos hrsa] at h
    rw [hrsa]
    exact SEC_EncryptTextByRsa_fits env hoff h
  by_cases haes : flag = ZC_SEC_ALG_AES
  · rw [if_neg hnone, if_neg hrsa, if_pos haes] at h
    obtain ⟨input, _, hload, h⟩ := run_bind_eq_ok.mp h
    obtain ⟨⟨ret, cipher⟩, _, hcipher, h⟩ := run_bind_eq_ok.mp h
    obtain ⟨m', _, hstore, h⟩ := run_bind_eq_ok.mp h
    obtain ⟨heq, -⟩ := run_pure_eq_ok.mp h
    cases heq
    have hfits := (Mem.store_eq_ok_iff.mp (run_lift_eq_ok.mp hstore).1).1
    have hmax : MSG_BUFFER_MAXLEN = 600 := rfl
    have hlen : cipher.length = ZC_SEC_AES_BLOCK_SIZE * (len / ZC_SEC_AES_BLOCK_SIZE + 1) := by
      obtain ⟨pstruCon, _, -, hcipher⟩ := run_bind_eq_ok.mp hcipher
      split at hcipher
      · obtain ⟨heq, -⟩ := run_pure_eq_ok.mp hcipher
        cases heq
      · obtain ⟨heq, -⟩ := run_pure_eq_ok.mp hcipher
        cases heq
        rw [length_AES_CBC_Encrypt, length_of_load (run_lift_eq_ok.mp hload).1]
    rw [u16_of_lt (by omega), cipherLen, if_neg hnone, if_neg hrsa, if_pos haes]
    exact ⟨hfits, hlen⟩
  · rw [if_neg hnone, if_neg hrsa, if_neg haes] at h
    obtain ⟨heq, -⟩ := run_pure_eq_ok.mp h
    cases heq

end

/-- The frame in a send buffer. -/
def MSG_Buffer.frame (b : MSG_Buffer) : List UInt8 := b.u8MsgBuffer.bytes.take b.u32Len

/-- The frames that wait to be sent, the oldest first. -/
def Device.pending (d : Device) : List (List UInt8) :=
  d.g_struSendQueue.toList.map fun addr => (d.buffer addr).frame

/-- The send queue points to send buffers that each hold a frame, to none of them twice. -/
structure Device.Sendable (d : Device) : Prop where
  nodup : d.g_struSendQueue.toList.Nodup
  full : ∀ addr ∈ d.g_struSendQueue.toList, ∃ i, addr = .g_struSendBuffer i ∧
    (d.g_struSendBuffer i).u8Status = MSG_BUFFER_FULL ∧ (d.g_struSendBuffer i).u32Len ≤ MSG_BUFFER_MAXLEN

/-- The message and the frame of an event by which a message is queued. -/
def Event.queued? : Event → Option (List UInt8 × List UInt8)
  | .queued plain frame => some (plain, frame)
  | _ => none

/-- What is queued in the course of `es`, the oldest first. -/
def queuedIn (es : List Event) : List (List UInt8 × List UInt8) := es.reverse.filterMap Event.queued?

@[simp]
theorem queuedIn_nil : queuedIn [] = [] := rfl

theorem queuedIn_append (es₂ es₁ : List Event) : queuedIn (es₂ ++ es₁) = queuedIn es₁ ++ queuedIn es₂ := by
  simp [queuedIn]

theorem queuedIn_cons (e : Event) (es : List Event) : queuedIn (e :: es) = queuedIn es ++ e.queued?.toList := by
  cases h : e.queued? <;> simp [queuedIn, h]

theorem queuedIn_eq_nil {es : List Event} (h : ∀ e ∈ es, e.queued? = none) : queuedIn es = [] := by
  simpa [queuedIn] using h

theorem Device.Sendable.not_mem_of_idle {d : Device} (hd : d.Sendable) {i : Fin MSG_BUFFER_SEND_MAX_NUM}
    (hidle : (d.g_struSendBuffer i).u8Status = MSG_BUFFER_IDLE) :
    BufferAddr.g_struSendBuffer i ∉ d.g_struSendQueue.toList := by
  intro hmem
  obtain ⟨j, hj, hfull, -⟩ := hd.full _ hmem
  cases hj
  rw [hidle] at hfull
  cases hfull

/-- As long as a send buffer is idle, the queue is not full. -/
theorem Device.Sendable.not_full {d : Device} (hd : d.Sendable) {i : Fin MSG_BUFFER_SEND_MAX_NUM}
    (hidle : (d.g_struSendBuffer i).u8Status = MSG_BUFFER_IDLE) :
    d.g_struSendQueue.count ≠ MSG_QUEUE_MAXLEN := by
  have hnodup := List.nodup_cons.mpr ⟨hd.not_mem_of_idle hidle, hd.nodup⟩
  have hsend : ∀ addr ∈ BufferAddr.g_struSendBuffer i :: d.g_struSendQueue.toList,
      ∃ j, addr = .g_struSendBuffer j := by
    rintro addr (_ | ⟨_, hmem⟩)
    · exact ⟨i, rfl⟩
    · obtain ⟨j, hj, -⟩ := hd.full addr hmem
      exact ⟨j, hj⟩
  generalize BufferAddr.g_struSendBuffer i = first at hnodup hsend
  obtain ⟨is, his⟩ : ∃ is : List (Fin MSG_BUFFER_SEND_MAX_NUM),
      first :: d.g_struSendQueue.toList = is.map BufferAddr.g_struSendBuffer := by
    generalize first :: d.g_struSendQueue.toList = addrs at hsend
    induction addrs with
    | nil => exact ⟨[], rfl⟩
    | cons addr addrs ih =>
      obtain ⟨j, rfl⟩ := hsend addr List.mem_cons_self
      obtain ⟨is, rfl⟩ := ih fun a ha => hsend a (List.mem_cons_of_mem _ ha)
      exact ⟨j :: is, rfl⟩
  rw [his] at hnodup
  have hlen := (List.Nodup.of_map _ hnodup).length_le_card
  rw [Fintype.card_fin] at hlen
  have hsize := congrArg List.length his
  rw [List.length_cons, List.length_map, MSG_Queue.length_toList] at hsize
  have hmax : MSG_BUFFER_SEND_MAX_NUM = MSG_QUEUE_MAXLEN := rfl
  omega

/-- The globals that a function which sends leaves alone. -/
def Device.unsent (d : Device) : Device :=
  { d with
    g_struSendBuffer := fun _ => d.g_struRetxBuffer
    g_struSendQueue := MSG_InitQueue
    g_u8MsgBuildBuffer := Mem.fill _ 0
    App_R_Q := []
    moudleMsgs := 0
    trace := []
    clock := 0 }

theorem Ticks.unsent_eq {d d' : Device} (h : Ticks d d') : d'.unsent = d.unsent := by
  obtain ⟨_, rfl⟩ := h
  rfl

/-- The message `plain` was not queued. -/
structure NotQueued (plain : List UInt8) (d d' : Device) : Prop where
  unsent_eq : d'.unsent = d.unsent
  trace_eq : d'.trace = .toCloud plain :: d.trace
  queue_eq : d'.g_struSendQueue = d.g_struSendQueue
  buffer_eq : ∀ i, (d.g_struSendBuffer i).u8Status = MSG_BUFFER_FULL →
    d'.g_struSendBuffer i = d.g_struSendBuffer i
  status_eq : ∀ i, (d'.g_struSendBuffer i).u8Status = (d.g_struSendBuffer i).u8Status ∧
    (d'.g_struSendBuffer i).u32Len = (d.g_struSendBuffer i).u32Len

/-- The message `plain` was put into the send buffer `i` as a frame, and the buffer
was pushed to the queue. -/
structure Queued (plain : List UInt8) (i : Fin MSG_BUFFER_SEND_MAX_NUM) (d d' : Device) : Prop where
  unsent_eq : d'.unsent = d.unsent
  idle : (d.g_struSendBuffer i).u8Status = MSG_BUFFER_IDLE
  full : (d'.g_struSendBuffer i).u8Status = MSG_BUFFER_FULL ∧
    (d'.g_struSendBuffer i).u32Len ≤ MSG_BUFFER_MAXLEN
  buffer_eq : ∀ j, j ≠ i → d'.g_struSendBuffer j = d.g_struSendBuffer j
  queue_eq : d'.g_struSendQueue = (MSG_PushMsg d.g_struSendQueue (.g_struSendBuffer i)).2
  trace_eq : d'.trace =
    if (MSG_PushMsg d.g_struSendQueue (.g_struSendBuffer i)).1 = ZC_RET_OK then
      .queued plain (d'.g_struSendBuffer i).frame :: .toCloud plain :: d.trace
    else .toCloud plain :: d.trace

theorem idle_of_idleSendBuffer {d : Device} {i : Fin MSG_BUFFER_SEND_MAX_NUM}
    (h : idleSendBuffer d = some i) : (d.g_struSendBuffer i).u8Status = MSG_BUFFER_IDLE := by
  simpa using List.find?_some h

/-- What `pushFrame` does to the globals. -/
theorem pushFrame_spec {env : Env} {i : Fin MSG_BUFFER_SEND_MAX_NUM} {u8SecType : UInt8} {len : Nat}
    {m : Mem MSG_BUFFER_MAXLEN} {plain : List UInt8} {d d' : Device}
    (h : (pushFrame env i u8SecType len m plain).run d = .ok ((), d')) :
    ∃ d₁ b, Ticks d d₁ ∧ b.u8Status = MSG_BUFFER_FULL ∧ b.u32Len = len + sizeof_ZC_SecHead ∧
      let push := MSG_PushMsg d.g_struSendQueue (.g_struSendBuffer i)
      let d₂ := { d₁.setSendBuffer i b with g_struSendQueue := push.2 }
      d' = if push.1 = ZC_RET_OK then d₂.log (.queued plain b.frame) else d₂ := by
  obtain ⟨u8Resver, d₁, hdraw, h⟩ := run_bind_eq_ok.mp h
  have hticks := draw_ticks _ hdraw
  obtain ⟨m', _, hstore, h⟩ := run_bind_eq_ok.mp h
  obtain ⟨-, hsame⟩ := run_lift_eq_ok.mp hstore
  rw [hsame] at h
  obtain ⟨_, d₂, hset, h⟩ := run_bind_eq_ok.mp h
  have hd₂ := run_modify_eq_ok.mp hset
  rw [run_get_bind] at h
  have hq : d₂.g_struSendQueue = d.g_struSendQueue := by
    rw [hd₂]
    obtain ⟨clock, rfl⟩ := hticks
    rfl
  rw [hq] at h
  refine ⟨d₁, ⟨len + sizeof_ZC_SecHead, MSG_BUFFER_FULL, m'⟩, hticks, rfl, rfl, ?_⟩
  generalize MSG_PushMsg d.g_struSendQueue (.g_struSendBuffer i) = push at h ⊢
  obtain ⟨pushed, queue⟩ := push
  obtain ⟨_, d₃, hqueue, h⟩ := run_bind_eq_ok.mp h
  have hd₃ := run_modify_eq_ok.mp hqueue
  rw [hd₂] at hd₃
  dsimp only at h ⊢
  split at h
  · rename_i hpush
    rw [if_pos hpush, run_modify_eq_ok.mp h, hd₃]
    rfl
  · rename_i hpush
    rw [if_neg hpush, (run_pure_eq_ok.mp h).2, hd₃]

/-- The two outcomes of `PCT_SendMsgToCloud`. -/
theorem PCT_SendMsgToCloud_cases {env : Env} {u8SecType : UInt8} {len : Nat} {data : List UInt8} {r : ZC_RET}
    {d d' : Device} (h : (PCT_SendMsgToCloud env u8SecType len data).run d = .ok (r, d')) :
    r = ZC_RET_ERROR ∧ NotQueued (data.take len) d d' ∨
      r = ZC_RET_OK ∧ ∃ i, Queued (data.take len) i d d' := by
  obtain ⟨_, d₁, hlog, h⟩ := run_bind_eq_ok.mp h
  have hd₁ := run_modify_eq_ok.mp hlog
  rw [run_get_bind] at h
  dsimp only at h
  have herror : NotQueued (data.take len) d d₁ :=
    ⟨by rw [hd₁]; rfl, by rw [hd₁]; rfl, by rw [hd₁]; rfl, fun _ _ => by rw [hd₁]; rfl,
      fun _ => by rw [hd₁]; exact ⟨rfl, rfl⟩⟩
  split at h
  · obtain ⟨rfl, rfl⟩ := run_pure_eq_ok.mp h
    exact .inl ⟨rfl, herror⟩
  · split at h
    · obtain ⟨rfl, rfl⟩ := run_pure_eq_ok.mp h
      exact .inl ⟨rfl, herror⟩
    · rename_i i hi
      have hidle : (d.g_struSendBuffer i).u8Status = MSG_BUFFER_IDLE := by
        have := idle_of_idleSendBuffer hi
        rw [hd₁] at this
        exact this
      obtain ⟨⟨ret, n, m⟩, d₂, hencrypt, h⟩ := run_bind_eq_ok.mp h
      obtain ⟨clock, hd₂⟩ := SEC_Encrypt_ticks env u8SecType data len _ _ hencrypt
      dsimp only at h
      split at h
      · obtain ⟨_, d₃, hset, h⟩ := run_bind_eq_ok.mp h
        obtain ⟨rfl, rfl⟩ := run_pure_eq_ok.mp h
        rw [run_modify_eq_ok.mp hset, hd₂]
        refine .inl ⟨rfl, by rw [hd₁]; rfl, by rw [hd₁]; rfl, by rw [hd₁]; rfl, fun j hj => ?_, fun j => ?_⟩
        · have hji : j ≠ i := by
            rintro rfl
            rw [hj] at hidle
            cases hidle
          rw [hd₁]
          exact if_neg hji
        · rw [hd₁]
          by_cases hji : j = i
          · subst hji
            simp [Device.setSendBuffer, Device.log]
          · simp [Device.setSendBuffer, Device.log, hji]
      · rename_i hret
        obtain ⟨_, d₃, hpush, h⟩ := run_bind_eq_ok.mp h
        obtain ⟨rfl, rfl⟩ := run_pure_eq_ok.mp h
        have hok : ret = ZC_RET_OK := by
          cases ret
          · rfl
          · exact absurd rfl hret
        rw [hok] at hencrypt
        obtain ⟨hfits, -⟩ := SEC_Encrypt_fits env (by decide) hencrypt
        obtain ⟨d₄, b, ⟨clock', hd₄⟩, hfull, hlen, hd'⟩ := pushFrame_spec hpush
        rw [hd₄, hd₂, hd₁] at hd'
        refine .inr ⟨rfl, i, ?_⟩
        have hbuffer : ∀ j, d'.g_struSendBuffer j = if j = i then b else d.g_struSendBuffer j := by
          intro j
          rw [hd']
          split <;> rfl
        have hb : d'.g_struSendBuffer i = b := by rw [hbuffer, if_pos rfl]
        refine ⟨?_, hidle, ?_, fun j hj => by rw [hbuffer, if_neg hj], ?_, ?_⟩
        · rw [hd']
          split <;> rfl
        · rw [hb, hlen]
          exact ⟨hfull, by omega⟩
        · rw [hd']
          split <;> rfl
        · rw [hb, hd']
          split
          · rename_i hpushed
            exact (if_pos hpushed).symm
          · rename_i hpushed
            exact (if_neg hpushed).symm

/-- The oldest frame, in the buffer `i`, is sent; `rest` waits behind it. -/
structure Sends (i : Fin MSG_BUFFER_SEND_MAX_NUM) (rest : List BufferAddr) (d d' : Device) : Prop where
  first : d.g_struSendQueue.toList = .g_struSendBuffer i :: rest
  eq : ∃ queue, queue.toList = rest ∧
    d' = Device.setSendBuffer ((({ d with g_struSendQueue := queue } : Device).log
      (.sent (d.g_struSendBuffer i).frame)).log
        (.tcpSend d.g_struProtocolController.struCloudConnection.u32Socket (d.g_struSendBuffer i).frame)) i
      (d.g_struSendBuffer i).idle

/-- `MSG_SendDataToCloud` sends the oldest frame, if there is one. -/
theorem MSG_SendDataToCloud_spec {d : Device} (hd : d.Sendable) :
    ∃ d', MSG_SendDataToCloud.run d = .ok ((), d') ∧
      ((d.g_struSendQueue.toList = [] ∧ ∃ queue, queue.toList = [] ∧ d' = { d with g_struSendQueue := queue }) ∨
        ∃ i rest, Sends i rest d d') := by
  obtain ⟨hhead, htail⟩ := MSG_Queue.pop_eq d.g_struSendQueue
  rw [MSG_SendDataToCloud, run_get_bind]
  generalize MSG_PopMsg d.g_struSendQueue = pop at hhead htail
  obtain ⟨pstruBuf, queue⟩ := pop
  dsimp only at hhead htail ⊢
  cases hlist : d.g_struSendQueue.toList with
  | nil =>
    rw [hlist] at hhead htail
    obtain rfl : pstruBuf = none := hhead
    exact ⟨_, rfl, .inl ⟨rfl, queue, htail, rfl⟩⟩
  | cons addr rest =>
    rw [hlist] at hhead htail
    obtain rfl : pstruBuf = some addr := hhead
    obtain ⟨i, rfl, hfull, hlen⟩ := hd.full addr (hlist ▸ List.mem_cons_self)
    have hmax : MSG_BUFFER_MAXLEN = 600 := rfl
    have hframe : load (d.buffer (.g_struSendBuffer i)).u8MsgBuffer.bytes 0 (u16 (d.buffer (.g_struSendBuffer i)).u32Len) =
        .ok (d.g_struSendBuffer i).frame := by
      change load (d.g_struSendBuffer i).u8MsgBuffer.bytes 0 (u16 (d.g_struSendBuffer i).u32Len) = _
      rw [u16_of_lt (by omega), load_of_le (by rw [Mem.length_bytes]; omega)]
      rfl
    refine ⟨_, ?_, .inr ⟨i, rest, hlist, queue, htail, rfl⟩⟩
    rw [run_bind, run_modify, ok_bind]
    dsimp only
    rw [hframe]
    rfl

theorem Sends.pending_eq {i : Fin MSG_BUFFER_SEND_MAX_NUM} {rest : List BufferAddr} {d d' : Device}
    (h : Sends i rest d d') (hd : d.Sendable) :
    d'.Sendable ∧ d.pending = (d.g_struSendBuffer i).frame :: d'.pending := by
  obtain ⟨hlist, queue, hqueue, hd'⟩ := h
  have hnodup := List.nodup_cons.mp (hlist ▸ hd.nodup)
  have hother : ∀ addr ∈ rest, d'.buffer addr = d.buffer addr := by
    intro addr haddr
    obtain ⟨j, rfl, -⟩ := hd.full addr (hlist ▸ List.mem_cons_of_mem _ haddr)
    have hji : j ≠ i := by
      rintro rfl
      exact hnodup.1 haddr
    rw [hd']
    exact if_neg hji
  have hqueue' : d'.g_struSendQueue.toList = rest := by
    rw [hd']
    exact hqueue
  refine ⟨⟨by rw [hqueue']; exact hnodup.2, fun addr haddr => ?_⟩, ?_⟩
  · rw [hqueue'] at haddr
    obtain ⟨j, rfl, hj⟩ := hd.full addr (hlist ▸ List.mem_cons_of_mem _ haddr)
    have hsame : d'.g_struSendBuffer j = d.g_struSendBuffer j := hother _ haddr
    exact ⟨j, rfl, hsame ▸ hj⟩
  · rw [Device.pending, Device.pending, hlist, hqueue', List.map_cons]
    exact congrArg _ (List.map_congr_left fun addr haddr => (congrArg MSG_Buffer.frame (hother addr haddr)).symm)

theorem u8SecFlag_aes (u32SecSwitch : Nat) :
    u8SecFlag u32SecSwitch ZC_SEC_ALG_AES = ZC_SEC_ALG_NONE ∨ u8SecFlag u32SecSwitch ZC_SEC_ALG_AES = ZC_SEC_ALG_AES := by
  unfold u8SecFlag
  split
  · exact .inl rfl
  · split
    · exact .inr rfl
    · exact .inr rfl

section

variable (env : Env)

theorem drawPadding_returns (len : Nat) (d : Device) :
    ∃ bytes d', (drawPadding env len).run d = .ok (bytes, d') ∧ bytes.length = len := by
  induction len generalizing d with
  | zero => exact ⟨[], d, rfl, rfl⟩
  | succ len ih =>
    obtain ⟨bytes, d', hrun, hlen⟩ := ih d.tick
    refine ⟨(env.padding d.clock).val :: bytes, d', ?_, by rw [List.length_cons, hlen]⟩
    rw [drawPadding, draw, run_bind]
    simp only [run_bind, run_get, run_set, ok_bind, run_pure, hrun]

theorem rsa_pkcs1_encrypt_returns (key input : List UInt8) (d : Device) :
    ∃ ret bytes d', (rsa_pkcs1_encrypt env key input).run d = .ok ((ret, bytes), d') ∧
      bytes.length ≤ ZC_SEC_RSA_LEN := by
  rw [rsa_pkcs1_encrypt]
  split
  · exact ⟨false, [], d, rfl, Nat.zero_le _⟩
  · rename_i hlong
    have hrsa : ZC_SEC_RSA_LEN = 32 := rfl
    obtain ⟨padding, d', hpadding, hlen⟩ := drawPadding_returns env (ZC_SEC_RSA_LEN - 3 - input.length) d
    rw [run_bind, hpadding, ok_bind]
    dsimp only
    split
    · refine ⟨false, _, d', rfl, ?_⟩
      simp only [List.length_append, List.length_cons, List.length_nil, hlen]
      omega
    · rename_i out hpublic
      exact ⟨true, out, d', rfl, Nat.le_of_eq (env.length_public _ _ _ hpublic)⟩

/-- A block is encrypted without a fault, where there is room for it. -/
theorem rsaEncryptBlock_returns (key : List UInt8) {text : List UInt8} {off len : Nat} {s : RsaEncrypt MSG_BUFFER_MAXLEN} (d : Device)
    (hread : s.u16ReadLen + len ≤ text.length) (hfits : off + s.u16CiperLen + ZC_SEC_RSA_LEN ≤ MSG_BUFFER_MAXLEN) :
    ∃ s' d', (rsaEncryptBlock env key text off len s).run d = .ok (s', d') ∧ s'.u16ReadLen = s.u16ReadLen ∧
      s'.u16CiperLen = s.u16CiperLen := by
  obtain ⟨ret, bytes, d', hencrypt, hlen⟩ :=
    rsa_pkcs1_encrypt_returns env key ((text.drop s.u16ReadLen).take len) d
  obtain ⟨m, hstore, -⟩ := @Mem.store_spec _ s.out (off + s.u16CiperLen) bytes (by omega)
  refine ⟨{ s with s32Ret := ret, out := m }, d', ?_, rfl, rfl⟩
  rw [rsaEncryptBlock, load_of_le hread, run_bind, run_lift_ok, ok_bind, run_bind, hencrypt, ok_bind]
  dsimp only
  rw [hstore, run_bind, run_lift_ok, ok_bind]
  rfl

/-- The loop takes `k` texts, each to a block. -/
theorem rsaEncryptLoop_returns (key : List UInt8) {text : List UInt8} {off count : Nat} {s : RsaEncrypt MSG_BUFFER_MAXLEN} (d : Device)
    (hread : s.u16ReadLen + ZC_SEC_RSA_TEXT_LEN * count ≤ text.length)
    (hfits : off + s.u16CiperLen + ZC_SEC_RSA_LEN * count ≤ MSG_BUFFER_MAXLEN) :
    ∃ s' d' k, (rsaEncryptLoop env key text off count s).run d = .ok (s', d') ∧ k ≤ count ∧
      s'.u16ReadLen = s.u16ReadLen + ZC_SEC_RSA_TEXT_LEN * k ∧ s'.u16CiperLen = s.u16CiperLen + ZC_SEC_RSA_LEN * k := by
  have hmax : MSG_BUFFER_MAXLEN = 600 := rfl
  have hrsa : ZC_SEC_RSA_LEN = 32 := rfl
  have htext : ZC_SEC_RSA_TEXT_LEN = 21 := rfl
  rw [hrsa] at hfits ⊢
  rw [htext] at hread ⊢
  induction count generalizing s d with
  | zero => exact ⟨s, d, 0, rfl, Nat.le_refl _, rfl, rfl⟩
  | succ count ih =>
    obtain ⟨s₁, d₁, hblock, hread₁, hciper₁⟩ :=
      @rsaEncryptBlock_returns env key text off ZC_SEC_RSA_TEXT_LEN s d (by omega) (by omega)
    rw [rsaEncryptLoop, run_bind, hblock, ok_bind]
    dsimp only
    split
    · have hu16 : u16 (s₁.u16CiperLen + ZC_SEC_RSA_LEN) = s.u16CiperLen + ZC_SEC_RSA_LEN := by
        rw [hciper₁, u16_of_lt (by omega)]
      obtain ⟨s', d', k, hloop, hk, hr, hc⟩ := @ih
        { s₁ with
          u16ReadLen := s₁.u16ReadLen + ZC_SEC_RSA_TEXT_LEN, u16CiperLen := u16 (s₁.u16CiperLen + ZC_SEC_RSA_LEN) }
        d₁ (by dsimp only; omega) (by dsimp only; omega)
      refine ⟨s', d', k + 1, hloop, by omega, ?_, ?_⟩
      · rw [hr, hread₁]
        dsimp only
        omega
      · rw [hc, hu16]
        dsimp only
        omega
    · exact ⟨s₁, d₁, 0, rfl, Nat.zero_le _, hread₁, hciper₁⟩

private theorem SEC_EncryptTextByRsa_returns {text : List UInt8} {len off : Nat} (out : Mem MSG_BUFFER_MAXLEN)
    (d : Device) (htext : len ≤ text.length) (hfits : off + cipherLen ZC_SEC_ALG_RSA len ≤ MSG_BUFFER_MAXLEN) :
    ∃ r d', (SEC_EncryptTextByRsa env text len off out).run d = .ok (r, d') := by
  have hrsa : ZC_SEC_RSA_LEN = 32 := rfl
  have hlen : ZC_SEC_RSA_TEXT_LEN = 21 := rfl
  rw [cipherLen, if_neg (by decide), if_pos rfl, hrsa, hlen] at hfits
  rw [SEC_EncryptTextByRsa, run_get_bind]
  dsimp only
  split
  · obtain ⟨s₁, d₁, k, hloop, hk, hread, hciper⟩ := @rsaEncryptLoop_returns env
      d.g_struZcConfigDb.struCloudInfo.u8CloudKey.bytes text off (len / ZC_SEC_RSA_TEXT_LEN) ⟨true, 0, 0, out⟩ d
      (by rw [hlen]; dsimp only; omega) (by rw [hrsa, hlen]; dsimp only; omega)
    rw [hlen] at hk hread
    rw [hrsa] at hciper
    dsimp only at hread hciper
    rw [run_bind, hloop, ok_bind]
    dsimp only
    split
    · obtain ⟨s₂, d₂, hblock, -⟩ := @rsaEncryptBlock_returns env
        d.g_struZcConfigDb.struCloudInfo.u8CloudKey.bytes text off (len - s₁.u16ReadLen) s₁ d₁ (by omega)
        (by omega)
      rw [run_bind, hblock, ok_bind]
      exact ⟨_, _, rfl⟩
    · exact ⟨_, _, rfl⟩
  · obtain ⟨s₁, d₁, hblock, -⟩ := @rsaEncryptBlock_returns env
      d.g_struZcConfigDb.struCloudInfo.u8CloudKey.bytes text off len ⟨true, 0, 0, out⟩ d (by dsimp only; omega)
      (by dsimp only; omega)
    rw [run_bind, hblock, ok_bind]
    exact ⟨_, _, rfl⟩

/-- What `SEC_Encrypt` writes at `off` ends before the end of the buffer. Without a
session key it writes nothing in AES. -/
def Device.EncryptFits (d : Device) (u8SecType : UInt8) (len off : Nat) : Prop :=
  let flag := u8SecFlag d.g_struZcConfigDb.struSwitchInfo.u32SecSwitch u8SecType
  (flag = ZC_SEC_ALG_AES → d.g_struProtocolController.u8keyRecv = PCT_KEY_RECVED) →
    off + cipherLen flag len ≤ MSG_BUFFER_MAXLEN

/-- A message that fits is encrypted without a fault. -/
theorem SEC_Encrypt_returns {u8SecType : UInt8} {text : List UInt8} {len off : Nat} (out : Mem MSG_BUFFER_MAXLEN)
    (d : Device) (htext : len ≤ text.length) (hoff : off ≤ MSG_BUFFER_MAXLEN)
    (hfits : d.EncryptFits u8SecType len off) :
    ∃ r d', (SEC_Encrypt env u8SecType text len off out).run d = .ok (r, d') := by
  rw [SEC_Encrypt, run_get_bind]
  dsimp only [Device.EncryptFits] at hfits
  generalize u8SecFlag d.g_struZcConfigDb.struSwitchInfo.u32SecSwitch u8SecType = flag at hfits
  dsimp only
  by_cases hnone : flag = ZC_SEC_ALG_NONE
  · have hroom := hfits (by rw [hnone]; exact fun h => absurd h (by decide))
    rw [cipherLen, if_pos hnone] at hroom
    obtain ⟨m, hcopy, -⟩ := out.memcpy_spec htext hroom
    rw [if_pos hnone, hcopy]
    exact ⟨_, _, rfl⟩
  · by_cases hflag : flag = ZC_SEC_ALG_RSA
    · subst hflag
      rw [if_neg hnone, if_pos rfl]
      exact SEC_EncryptTextByRsa_returns env out d htext (hfits fun h => absurd h (by decide))
    · by_cases haes : flag = ZC_SEC_ALG_AES
      · have hload : load text 0 len = .ok ((text.drop 0).take len) := load_of_le (by omega)
        have hlen : ((text.drop 0).take len).length = len := length_of_load hload
        obtain ⟨cipher, hcipher, hstore⟩ : ∃ r : ZC_RET × List UInt8,
            (SEC_AesEncrypt env ((text.drop 0).take len)).run d = .ok (r, d) ∧
              off + r.2.length ≤ MSG_BUFFER_MAXLEN := by
          simp only [SEC_AesEncrypt, getController, run_bind, run_get, ok_bind, run_pure]
          split
          · exact ⟨_, rfl, hoff⟩
          · rename_i hkey
            have hroom := hfits fun _ => Classical.not_not.mp hkey
            rw [cipherLen, if_neg hnone, if_neg hflag, if_pos haes] at hroom
            refine ⟨_, rfl, ?_⟩
            rw [length_AES_CBC_Encrypt, hlen]
            exact hroom
        obtain ⟨m, hm, -⟩ := out.store_spec hstore
        rw [if_neg hnone, if_neg hflag, if_pos haes, hload]
        simp only [run_bind, run_lift_ok, ok_bind, hcipher, hm, run_pure]
        exact ⟨_, _, rfl⟩
      · rw [if_neg hnone, if_neg hflag, if_neg haes]
        exact ⟨_, _, rfl⟩

theorem pushFrame_returns (i : Fin MSG_BUFFER_SEND_MAX_NUM) (u8SecType : UInt8) (len : Nat)
    (m : Mem MSG_BUFFER_MAXLEN) (plain : List UInt8) (d : Device) :
    ∃ d', (pushFrame env i u8SecType len m plain).run d = .ok ((), d') := by
  have hroom : 0 + (ZC_SecHead.toBytes ⟨ZC_HTONS len, u8SecType, env.stack d.clock⟩).length ≤ MSG_BUFFER_MAXLEN := by
    rw [ZC_SecHead.length_toBytes]
    decide
  obtain ⟨m', hm, -⟩ := m.store_spec hroom
  simp only [pushFrame, draw, run_bind, run_get, run_set, ok_bind, run_pure, hm, run_lift_ok, run_modify]
  split
  · exact ⟨_, rfl⟩
  · exact ⟨_, rfl⟩

/-- A message that fits, if it gets as far as that, is sent or not without a fault. -/
theorem PCT_SendMsgToCloud_runs {u8SecType : UInt8} {text : List UInt8} {len : Nat} (d : Device)
    (htext : len ≤ text.length)
    (hfits : u16 (len + sizeof_ZC_SecHead + SEC_PaddingCheck d.g_struZcConfigDb.struSwitchInfo.u32SecSwitch u8SecType len) ≤
      MSG_BUFFER_MAXLEN → (idleSendBuffer d).isSome → d.EncryptFits u8SecType len sizeof_ZC_SecHead) :
    ∃ r d', (PCT_SendMsgToCloud env u8SecType len text).run d = .ok (r, d') := by
  simp only [PCT_SendMsgToCloud, logEvent, run_bind, run_modify, run_get, ok_bind]
  split
  · exact ⟨_, _, rfl⟩
  · rename_i hroom
    split
    · exact ⟨_, _, rfl⟩
    · rename_i i hidle
      obtain ⟨⟨r, n, m⟩, d₁, hencrypt⟩ := SEC_Encrypt_returns env
        ((d.log (.toCloud (text.take len))).g_struSendBuffer i).u8MsgBuffer (d.log (.toCloud (text.take len))) htext
        (by decide) (hfits (Nat.not_lt.mp hroom) (Option.isSome_iff_exists.mpr ⟨i, hidle⟩))
      simp only [run_bind, hencrypt, ok_bind]
      split
      · exact ⟨_, _, rfl⟩
      · obtain ⟨d₂, hpush⟩ := pushFrame_returns env i u8SecType n m (text.take len) d₁
        simp only [run_bind, hpush, ok_bind]
        exact ⟨_, _, rfl⟩

/-- A short message is sent, or not, without a fault. -/
theorem PCT_SendMsgToCloud_returns {text : List UInt8} {len : Nat} (d : Device) (htext : len ≤ text.length)
    (hshort : sizeof_ZC_SecHead + len + ZC_SEC_AES_BLOCK_SIZE ≤ MSG_BUFFER_MAXLEN) :
    ∃ r d', (PCT_SendMsgToCloud env ZC_SEC_ALG_AES len text).run d = .ok (r, d') := by
  refine PCT_SendMsgToCloud_runs env d htext fun _ _ _ => ?_
  have hsize : ZC_SEC_AES_BLOCK_SIZE = 16 := rfl
  obtain hflag | hflag := u8SecFlag_aes d.g_struZcConfigDb.struSwitchInfo.u32SecSwitch
  · rw [hflag, cipherLen, if_pos rfl]
    omega
  · rw [hflag, cipherLen, if_neg (by decide), if_neg (by decide), if_pos rfl, hsize]
    omega

theorem length_EVENT_BuildMsg (u8MsgCode : ZC_MsgCode) (u8MsgId : UInt8) (pu8Payload : List UInt8) :
    (EVENT_BuildMsg u8MsgCode u8MsgId pu8Payload).length = sizeof_ZC_MessageHead + pu8Payload.length := by
  rw [EVENT_BuildMsg, List.length_append, ZC_MessageHead.length_toBytes]
  rfl

/-- A message without a payload is built without a fault. -/
theorem buildMsg_returns (u8MsgCode : ZC_MsgCode) (u8MsgId : UInt8) (d : Device) :
    ∃ m, (buildMsg u8MsgCode u8MsgId []).run d = .ok (EVENT_BuildMsg u8MsgCode u8MsgId [], d.withBuild m) := by
  have hroom : 0 + (EVENT_BuildMsg u8MsgCode u8MsgId []).length ≤ MSG_BULID_BUFFER_MAXLEN := by
    rw [length_EVENT_BuildMsg]
    decide
  obtain ⟨m, hm, -⟩ := d.g_u8MsgBuildBuffer.store_spec hroom
  simp only [buildMsg, storeBuild, run_bind, run_get, ok_bind, hm, run_lift_ok, run_set, run_pure]
  exact ⟨_, rfl⟩

/-- A notification is sent where there is memory for it. -/
theorem PCT_SendNotifyMsg_returns (u8NotifyCode : ZC_MsgCode) {d : Device} (halloc : env.moudleAlloc d.moudleMsgs = true) :
    ∃ d', (PCT_SendNotifyMsg env u8NotifyCode).run d = .ok ((), d') := by
  obtain ⟨m, hbuild⟩ := buildMsg_returns u8NotifyCode 0 d
  have hload := @load_of_le (EVENT_BuildMsg u8NotifyCode 0 []) 0 _ (Nat.le_of_eq (Nat.zero_add _))
  exact ⟨_, run_bind_eq_ok.mpr ⟨_, d.withBuild m, hbuild, run_HF_SendDataToMoudle env halloc hload⟩⟩

theorem PCT_SendNotifyMsg_null (u8NotifyCode : ZC_MsgCode) {d : Device} (halloc : env.moudleAlloc d.moudleMsgs = false) :
    (PCT_SendNotifyMsg env u8NotifyCode).run d = .error .null := by
  obtain ⟨m, hbuild⟩ := buildMsg_returns u8NotifyCode 0 d
  exact (run_bind_of_ok hbuild).trans (run_HF_SendDataToMoudle_null env halloc)

theorem sendBuilt_returns (u8MsgCode : ZC_MsgCode) (u8MsgId : UInt8) (d : Device) :
    ∃ r d', (sendBuilt env ZC_SEC_ALG_AES (EVENT_BuildMsg u8MsgCode u8MsgId [])).run d = .ok (r, d') :=
  PCT_SendMsgToCloud_returns env d (Nat.le_refl _) (by rw [length_EVENT_BuildMsg]; decide)

theorem PCT_SendAckToCloud_returns (u8MsgId : UInt8) (d : Device) :
    ∃ d', (PCT_SendAckToCloud env u8MsgId).run d = .ok ((), d') := by
  obtain ⟨m, hbuild⟩ := buildMsg_returns ZC_CODE_ACK u8MsgId d
  obtain ⟨r, d₁, hsend⟩ := sendBuilt_returns env ZC_CODE_ACK u8MsgId (d.withBuild m)
  simp only [PCT_SendAckToCloud, run_bind, hbuild, hsend, ok_bind, run_pure]
  exact ⟨_, rfl⟩

theorem PCT_SendErrorMsg_returns (u8MsgId : UInt8) (d : Device) :
    ∃ d', (PCT_SendErrorMsg env u8MsgId []).run d = .ok ((), d') := by
  obtain ⟨m, hbuild⟩ := buildMsg_returns ZC_CODE_ERR u8MsgId d
  obtain ⟨r, d₁, hsend⟩ := sendBuilt_returns env ZC_CODE_ERR u8MsgId (d.withBuild m)
  simp only [PCT_SendErrorMsg, run_bind, hbuild, hsend, ok_bind, run_pure]
  exact ⟨_, rfl⟩

end

end ZCloud
