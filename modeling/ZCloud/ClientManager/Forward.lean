import ZCloud.ClientManager.Lock
import ZCloud.MessageQueue.Cuts
import ZCloud.MsgOption
import ZCloud.SecEngine.Aes

open Memory Framing Program

namespace ZCloud

/-- The message that the module is given for the request `m` of a client. -/
def Message.forwarded (m : Message) (ClientId : Nat) : List UInt8 :=
  ZC_MessageHead.toBytes { m.head with
    OptNum := m.head.OptNum + 1
    Payloadlen := ZC_HTONS (m.body.length + 8)
    TotalMsgCrc := crcBytes (crc16_ccitt (sessionOption ClientId ++ m.body)) } ++ (sessionOption ClientId ++ m.body)

/-- The frame in which a client sends `msg`. -/
def tokenFrame (c : Cipher) (u8Key : List UInt8) (u8Resver : UInt8) (msg : List UInt8) : List UInt8 :=
  let cipher := AES_CBC_Encrypt c msg u8Key u8Key
  ZC_SecHead.toBytes ⟨ZC_HTONS cipher.length, ZC_SEC_ALG_AES, u8Resver⟩ ++ cipher

/-- A client sends the chunks one after the other. -/
def clientChunks (env : Env) (ClientId : Nat) : List (List UInt8) → Prog Device Unit
  | [] => return
  | pu8Data :: chunks => do
    ZC_RecvDataFromClient env ClientId pu8Data
    clientChunks env ClientId chunks

/-- What an event gives to the module. -/
def Event.given? : Event → Option (MoudleMsg × List UInt8)
  | .toMoudle source data => some (source, data)
  | _ => none

/-- What the module has been given, the last first. -/
def Device.given (d : Device) : List (MoudleMsg × List UInt8) := d.trace.filterMap Event.given?

/-- The chunks of the client make the device give the module exactly the request `m` with
the option of the gateway, which reaches its queue, and leave the buffer and the lock free. -/
def Device.Forwards (env : Env) (d : Device) (ClientId : Nat) (m : Message) (chunks : List (List UInt8)) : Prop :=
  ∃ d', (clientChunks env ClientId chunks).run d = .ok ((), d') ∧
    d'.given = (.client ClientId, m.forwarded ClientId) :: d.given ∧ d'.App_R_Q = d.App_R_Q ++ [m.forwarded ClientId] ∧
    (m.head.OptNum + 1).toNat = m.options.length + 1 ∧
    checkMsgCrc (m.forwarded ClientId) = .ok ZC_RET_OK ∧ (m.forwarded ClientId).length ≤ MSG_BUFFER_MAXLEN ∧
    d'.g_struClientBuffer.u8Status = MSG_BUFFER_IDLE ∧ d'.g_struClientBuffer.u32Len = 0 ∧
    d'.g_struClientInfo.u8ClientStates = ZC_CLIENT_STATUS_IDLE

section

variable {env : Env} {ClientId : Nat} {d d' : Device} {m : Message}

/-- What the module has been given, what has reached its queue, and how many messages there were. -/
def Device.toModule (d : Device) : List Event × List (List UInt8) × Nat := (d.trace, d.App_R_Q, d.moudleMsgs)

@[simp]
theorem toModule_withClientBuffer (b : MSG_Buffer) : (d.withClientBuffer b).toModule = d.toModule := rfl

@[simp]
theorem toModule_withBuild (build : Mem MSG_BULID_BUFFER_MAXLEN) : (d.withBuild build).toModule = d.toModule := rfl

@[simp]
theorem toModule_tick : d.tick.toModule = d.toModule := rfl

theorem run_storeClient {off : Nat} {data : List UInt8} {buf : Mem MSG_BUFFER_MAXLEN}
    (h : d.g_struClientBuffer.u8MsgBuffer.store off data = .ok buf) :
    (storeClient off data).run d = .ok ((), d.withClientBuffer { d.g_struClientBuffer with u8MsgBuffer := buf }) := by
  simp only [storeClient, modifyClientBuffer, run_bind, run_get, ok_bind, h, run_lift_ok, run_modify]
  rfl

theorem run_ZC_TraceData {pData : List UInt8} {Len : Nat} (h : Len ≤ pData.length) : (ZC_TraceData pData Len).run d = .ok ((), d) := by
  rw [ZC_TraceData, run_get_bind]
  split
  · rfl
  · rw [load_of_le (by omega)]
    rfl

theorem load_within {a b c : List UInt8} {off len : Nat} (ha : a.length = off) (hb : b.length = len) :
    load (a ++ (b ++ c)) off len = .ok b := by
  rw [load_append_of_le (Nat.le_of_eq ha), ha, Nat.sub_self, load_append_zero hb]

/-- Three parts written one behind the other, which fit. -/
theorem exists_stores {n : Nat} (m₀ : Mem n) {head option body : List UInt8} (hfits : head.length + option.length + body.length ≤ n) :
    ∃ m₁ m₂ m₃, m₀.store 0 head = .ok m₁ ∧ m₁.store head.length option = .ok m₂ ∧
      m₂.store (head.length + option.length) body = .ok m₃ ∧
      m₃.bytes.take (head.length + option.length + body.length) = head ++ option ++ body := by
  obtain ⟨m₁, h₁, -⟩ := @Mem.store_spec n m₀ 0 head (by omega)
  obtain ⟨m₂, h₂, -⟩ := @Mem.store_spec n m₁ head.length option (by omega)
  obtain ⟨m₃, h₃, -⟩ := @Mem.store_spec n m₂ (head.length + option.length) body (by omega)
  have hnone : m₃.store 0 [] = .ok m₃ := Mem.store_nil (Nat.zero_le _)
  have htake := take_of_stores h₁ h₂ h₃ hnone (Nat.zero_le _)
  rw [patch_nil] at htake
  exact ⟨m₁, m₂, m₃, h₁, h₂, h₃, htake⟩

/-- Of a message in the build buffer `insertSession` makes the message with one more
option in the buffer of the clients. -/
theorem run_insertSession_message {h : ZC_MessageHead} {body rest : List UInt8}
    (hbuild : d.g_u8MsgBuildBuffer.bytes = h.toBytes ++ (body ++ rest)) (hlen : 16 + body.length ≤ MSG_BUFFER_MAXLEN) :
    ∃ build buf, (insertSession env ClientId (body.length + 8)).run d =
        .ok ((), (d.withBuild build).tick.withClientBuffer ⟨16 + body.length, d.g_struClientBuffer.u8Status, buf⟩) ∧
      buf.bytes.take (16 + body.length) = ZC_MessageHead.toBytes { h with
        OptNum := h.OptNum + 1
        TotalMsgCrc := crcBytes (crc16_ccitt (sessionOption ClientId ++ body)) } ++ (sessionOption ClientId ++ body) := by
  have hmax : MSG_BUFFER_MAXLEN = 600 := rfl
  let h' : ZC_MessageHead := { h with OptNum := h.OptNum + 1 }
  let crc := crcBytes (crc16_ccitt (sessionOption ClientId ++ body))
  have hnum : loadU8 d.g_u8MsgBuildBuffer.bytes 3 = .ok h.OptNum := by rw [hbuild, h.loadU8_OptNum]
  obtain ⟨build, hstore, hbytes⟩ := @Mem.store_spec _ d.g_u8MsgBuildBuffer 3 [h.OptNum + 1]
    (by rw [List.length_singleton]; decide)
  replace hbytes : build.bytes = h'.toBytes ++ (body ++ rest) := by
    rw [hbytes, hbuild]
    rfl
  have hhead : load (build.bytes ++ env.beyond d.clock) 0 sizeof_ZC_MessageHead = .ok h'.toBytes := by
    rw [hbytes, List.append_assoc]
    exact load_append_zero (ZC_MessageHead.length_toBytes h')
  have hbody : load (build.bytes ++ env.beyond d.clock) sizeof_ZC_MessageHead (u32Sub (body.length + 8) 8) = .ok body := by
    rw [u32Sub_of_le (by omega) (by omega), Nat.add_sub_cancel, hbytes, List.append_assoc, List.append_assoc]
    exact load_within (ZC_MessageHead.length_toBytes h') rfl
  obtain ⟨m₁, m₂, m₃, h₁, h₂, h₃, htake⟩ := exists_stores d.g_struClientBuffer.u8MsgBuffer
    (by simp; omega : h'.toBytes.length + (sessionOption ClientId).length + body.length ≤ MSG_BUFFER_MAXLEN)
  rw [ZC_MessageHead.length_toBytes, length_sessionOption] at htake
  have hload : load m₃.bytes sizeof_ZC_MessageHead (body.length + 8) = .ok (sessionOption ClientId ++ body) := by
    have hhead8 : sizeof_ZC_MessageHead = 8 := rfl
    have hsplit : h'.toBytes ++ sessionOption ClientId ++ body = h'.toBytes ++ ((sessionOption ClientId ++ body) ++ []) := by
      simp
    rw [← load_take (k := 8 + 8 + body.length) (by omega) (by rw [m₃.length_bytes]; omega), htake, hsplit]
    refine load_within (ZC_MessageHead.length_toBytes h') ?_
    rw [List.length_append, length_sessionOption, Nat.add_comm]
  obtain ⟨m₄, h₄, hcrc⟩ := @Mem.store_spec _ m₃ 6 [crc.1, crc.2]
    (by rw [List.length_cons, List.length_singleton]; decide)
  refine ⟨build, m₄, ?_, ?_⟩
  · refine run_bind_eq_ok.mpr ⟨d, d, rfl, run_bind_eq_ok.mpr ⟨h.OptNum, d, run_lift_eq_ok.mpr ⟨hnum, rfl⟩, ?_⟩⟩
    refine run_bind_eq_ok.mpr ⟨(), _, run_storeBuild hstore, run_bind_eq_ok.mpr ⟨_, _, rfl, run_bind_eq_ok.mpr ⟨_, _, rfl, ?_⟩⟩⟩
    refine run_bind_eq_ok.mpr ⟨h'.toBytes, _, run_lift_eq_ok.mpr ⟨hhead, rfl⟩, ?_⟩
    refine run_bind_eq_ok.mpr ⟨(), _, run_storeClient h₁, run_bind_eq_ok.mpr ⟨(), _, run_storeClient h₂, ?_⟩⟩
    refine run_bind_eq_ok.mpr ⟨body, _, run_lift_eq_ok.mpr ⟨hbody, rfl⟩, run_bind_eq_ok.mpr ⟨(), _, run_storeClient h₃, ?_⟩⟩
    refine run_bind_eq_ok.mpr ⟨(), _, rfl, run_bind_eq_ok.mpr ⟨_, _, rfl, ?_⟩⟩
    refine run_bind_eq_ok.mpr ⟨_, _, run_lift_eq_ok.mpr ⟨hload, rfl⟩, (run_storeClient h₄).trans ?_⟩
    rw [show 16 + body.length = sizeof_ZC_MessageHead + (body.length + 8) by rw [Nat.add_comm body.length 8, ← Nat.add_assoc]; rfl]
    rfl
  · rw [hcrc, take_patch (by rw [List.length_cons, List.length_singleton]; omega) (by rw [m₃.length_bytes]; omega), htake]
    rfl

theorem length_tokenFrame (c : Cipher) (u8Key : List UInt8) (u8Resver : UInt8) (msg : List UInt8) :
    (tokenFrame c u8Key u8Resver msg).length = 4 + 16 * (msg.length / 16 + 1) := by
  rw [tokenFrame, List.length_append, ZC_SecHead.length_toBytes, length_AES_CBC_Encrypt]
  rfl

/-- A request whose frame fits the buffer fits it with one more option, too. -/
theorem Message.fits_of_frame {c : Cipher} {u8Key : List UInt8} {u8Resver : UInt8}
    (hframe : (tokenFrame c u8Key u8Resver m.bytes).length ≤ MSG_BUFFER_MAXLEN) :
    (AES_CBC_Encrypt c m.bytes u8Key u8Key).length < 600 ∧ 16 + m.body.length < 600 := by
  have hmax : MSG_BUFFER_MAXLEN = 600 := rfl
  have hhead : sizeof_ZC_MessageHead = 8 := rfl
  have hsize : ZC_SEC_AES_BLOCK_SIZE = 16 := rfl
  rw [length_tokenFrame, m.length_bytes] at hframe
  rw [length_AES_CBC_Encrypt, m.length_bytes, hsize]
  omega

/-- A buffer that begins with the frame of `msg`. -/
theorem view_of_tokenFrame {c : Cipher} {u8Key view rest : List UInt8} {u8Resver : UInt8} {msg : List UInt8}
    (hview : view = tokenFrame c u8Key u8Resver msg ++ rest) :
    view = bytesU16 (ZC_HTONS (AES_CBC_Encrypt c msg u8Key u8Key).length) ++
      ([ZC_SEC_ALG_AES, u8Resver] ++ (AES_CBC_Encrypt c msg u8Key u8Key ++ rest)) := by
  rw [hview, tokenFrame, ZC_SecHead.toBytes]
  simp

/-- The steps of `forwardClient` before it gives a message to the module. -/
theorem run_forwardClient_of_stages {total len PL : Nat} {out : List UInt8} {build build' : Mem MSG_BULID_BUFFER_MAXLEN}
    (htotal : loadU16 (d.g_struClientBuffer.u8MsgBuffer.bytes ++ env.beyond d.clock) 0 = .ok total)
    (hlt : ZC_HTONS total < MSG_BULID_BUFFER_MAXLEN)
    (hdecrypt : AES_CBC_Decrypt env.toCipher
      ((d.g_struClientBuffer.u8MsgBuffer.bytes ++ env.beyond d.clock).drop sizeof_ZC_SecHead) (ZC_HTONS total)
      d.g_struZcConfigDb.struCloudInfo.u8TokenKey.bytes d.g_struZcConfigDb.struCloudInfo.u8TokenKey.bytes
      (env.stack d.tick.clock) = .ok (out, len))
    (hstore : d.g_u8MsgBuildBuffer.store 0 out = .ok build)
    (hcrc : checkMsgCrc (build.bytes ++ env.beyond d.tick.tick.clock) = .ok ZC_RET_OK)
    (hPayloadlen : pstruPayloadlen (build.bytes ++ env.beyond d.tick.tick.clock) = .ok PL)
    (hstore' : build.store 4 (bytesU16 (ZC_HTONS (u16 (PL + 8)))) = .ok build') (hle : u16 (PL + 8) ≤ MSG_BULID_BUFFER_MAXLEN)
    (hinsert : (insertSession env ClientId (u16 (PL + 8))).run ((d.tick.tick.withBuild build).tick.withBuild build') = .ok ((), d'))
    (hlen : d'.g_struClientBuffer.u32Len ≤ MSG_BUFFER_MAXLEN) :
    (forwardClient env ClientId).run d = (HF_SendDataToMoudle env (.client ClientId) d'.g_struClientBuffer.u8MsgBuffer.bytes
      (u16 d'.g_struClientBuffer.u32Len)).run d' := by
  refine (run_get_bind _ _).trans ((run_bind_of_ok (t := d.tick) rfl).trans ?_)
  refine (run_bind_of_ok (run_lift_eq_ok.mpr ⟨htotal, rfl⟩)).trans ?_
  dsimp only
  rw [if_neg (Nat.not_le.mpr hlt)]
  refine (run_bind_of_ok (t := d.tick.tick) rfl).trans ((run_bind_of_ok (run_lift_eq_ok.mpr ⟨hdecrypt, rfl⟩)).trans ?_)
  refine (run_bind_of_ok (@run_storeBuild _ _ d.tick.tick _ hstore)).trans ((run_get_bind _ _).trans ?_)
  refine (run_bind_of_ok (t := (d.tick.tick.withBuild build).tick) rfl).trans ?_
  refine (run_bind_of_ok (run_lift_eq_ok.mpr ⟨hcrc, rfl⟩)).trans ?_
  rw [if_neg (by decide)]
  refine (run_bind_of_ok (run_lift_eq_ok.mpr ⟨hPayloadlen, rfl⟩)).trans ((run_bind_of_ok (run_storeBuild hstore')).trans ?_)
  have hsizes : sizeof_ZC_MessageOptHead + sizeof_ZC_SsessionInfo = 8 := rfl
  rw [Nat.add_assoc PL, hsizes, if_neg (Nat.not_lt.mpr hle)]
  refine (run_bind_of_ok hinsert).trans ((run_get_bind _ _).trans ?_)
  exact run_bind_of_ok (run_ZC_TraceData (by rw [Mem.length_bytes]; exact hlen))

/-- The message in a frame that is complete goes to the module. -/
theorem run_forwardClient_message (hinv : env.toCipher.AesInverse) {u8Resver : UInt8} {u8Key : Mem ZC_HS_SESSION_KEY_LEN}
    (hkey : d.g_struZcConfigDb.struCloudInfo.u8TokenKey = u8Key)
    (hframe : (tokenFrame env.toCipher u8Key.bytes u8Resver m.bytes).length ≤ MSG_BUFFER_MAXLEN)
    (hfull : d.g_struClientBuffer.Full (tokenFrame env.toCipher u8Key.bytes u8Resver m.bytes)) :
    ∃ d' data len, (forwardClient env ClientId).run d = (HF_SendDataToMoudle env (.client ClientId) data len).run d' ∧
      load data 0 len = .ok (m.forwarded ClientId) ∧ d'.toModule = d.toModule := by
  obtain ⟨hcipher, hfits⟩ := m.fits_of_frame hframe
  have hmax : MSG_BULID_BUFFER_MAXLEN = 600 := rfl
  have hhead8 : sizeof_ZC_MessageHead = 8 := rfl
  have hpadLen : (Cbc.pad ZC_SEC_AES_BLOCK_SIZE m.bytes).length = (AES_CBC_Encrypt env.toCipher m.bytes u8Key.bytes u8Key.bytes).length := by
    rw [length_pad, length_AES_CBC_Encrypt]
  have hplain (rest : List UInt8) (before : UInt8) := @AES_CBC_Decrypt_encrypt _ _ u8Key.bytes _ hinv u8Key.length_bytes
    (by rw [m.length_bytes]; omega : m.bytes.length < 65536) rest before
  obtain ⟨rest, hview⟩ : ∃ rest, d.g_struClientBuffer.u8MsgBuffer.bytes ++ env.beyond d.clock =
      tokenFrame env.toCipher u8Key.bytes u8Resver m.bytes ++ rest := by
    refine ⟨d.g_struClientBuffer.u8MsgBuffer.bytes.drop (tokenFrame env.toCipher u8Key.bytes u8Resver m.bytes).length ++ env.beyond d.clock, ?_⟩
    rw [← List.append_assoc]
    conv => rhs; lhs; lhs; rw [← hfull.take_eq]
    rw [List.take_append_drop]
  replace hview := view_of_tokenFrame hview
  generalize AES_CBC_Encrypt env.toCipher m.bytes u8Key.bytes u8Key.bytes = cipher at hcipher hpadLen hplain hview
  have htotal : loadU16 (d.g_struClientBuffer.u8MsgBuffer.bytes ++ env.beyond d.clock) 0 = .ok (ZC_HTONS cipher.length) := by
    rw [hview]
    exact loadU16_append_zero (ZC_HTONS_lt _)
  have hswap : ZC_HTONS (ZC_HTONS cipher.length) = cipher.length := ZC_HTONS_ZC_HTONS (by omega)
  have hdecrypt : AES_CBC_Decrypt env.toCipher
      ((d.g_struClientBuffer.u8MsgBuffer.bytes ++ env.beyond d.clock).drop sizeof_ZC_SecHead) (ZC_HTONS (ZC_HTONS cipher.length))
      d.g_struZcConfigDb.struCloudInfo.u8TokenKey.bytes d.g_struZcConfigDb.struCloudInfo.u8TokenKey.bytes
      (env.stack d.tick.clock) = .ok (Cbc.pad ZC_SEC_AES_BLOCK_SIZE m.bytes, m.bytes.length) := by
    rw [hkey, hview, hswap]
    exact hplain rest _
  obtain ⟨build, hstore, hbuild⟩ := @Mem.store_spec _ d.g_u8MsgBuildBuffer 0 (Cbc.pad ZC_SEC_AES_BLOCK_SIZE m.bytes)
    (by omega)
  obtain ⟨rest₁, hbuild⟩ : ∃ rest₁, build.bytes = m.bytes ++ rest₁ := by
    rw [hbuild, patch, Cbc.pad, List.take_zero, List.nil_append, List.append_assoc]
    exact ⟨_, rfl⟩
  have hcrc : checkMsgCrc (build.bytes ++ env.beyond d.tick.tick.clock) = .ok ZC_RET_OK := by
    rw [hbuild, List.append_assoc]
    exact m.checkMsgCrc_bytes _
  have hPayloadlen : pstruPayloadlen (build.bytes ++ env.beyond d.tick.tick.clock) = .ok m.body.length := by
    rw [hbuild, List.append_assoc]
    exact m.pstruPayloadlen_bytes _
  have hsum : u16 (m.body.length + 8) = m.body.length + 8 := u16_of_lt (by omega)
  obtain ⟨build', hstore', hbuild'⟩ := @Mem.store_spec _ build 4 (bytesU16 (ZC_HTONS (m.body.length + 8)))
    (by rw [length_bytesU16]; decide)
  replace hbuild' : build'.bytes =
      ZC_MessageHead.toBytes { m.head with Payloadlen := ZC_HTONS (m.body.length + 8) } ++ (m.body ++ rest₁) := by
    rw [hbuild', hbuild, Message.bytes, List.append_assoc]
    rfl
  have hmax' : MSG_BUFFER_MAXLEN = 600 := rfl
  obtain ⟨build'', buf, hinsert, hbuf⟩ := @run_insertSession_message env ClientId
    ((d.tick.tick.withBuild build).tick.withBuild build') _ _ _ hbuild' (by omega)
  have hsent : load buf.bytes 0 (u16 (16 + m.body.length)) = .ok (m.forwarded ClientId) := by
    rw [u16_of_lt (by omega), load_of_le (by rw [buf.length_bytes]; omega), List.drop_zero, hbuf]
    rfl
  rw [← hsum] at hstore' hinsert
  have hle : u16 (m.body.length + 8) ≤ MSG_BULID_BUFFER_MAXLEN := by omega
  refine ⟨_, _, _, run_forwardClient_of_stages htotal (by omega) hdecrypt hstore hcrc hPayloadlen hstore' hle hinsert ?_, hsent, ?_⟩
  · change 16 + m.body.length ≤ _
    omega
  · simp only [toModule_withClientBuffer, toModule_tick, toModule_withBuild]

/-- The device with a client that has sent a chunk, which has left the buffer `b`. -/
def Device.serving (d : Device) (ClientId : Nat) (b : MSG_Buffer) : Device :=
  { d with
    g_struClientInfo := { d.g_struClientInfo with u8ClientStates := ZC_CLIENT_STATUS_BUSY, u32ClientBusyId := u8 ClientId }
    g_struClientBuffer := b }

/-- What `ZC_RecvDataFromClient` does after it has forwarded a message. -/
def endClient : Prog Device Unit := do
  modifyClientBuffer MSG_Buffer.idle
  ZC_SetClientFree

theorem run_endClient {u : Unit} (h : endClient.run d = .ok (u, d')) :
    d' = { d with
      g_struClientBuffer := d.g_struClientBuffer.idle
      g_struClientInfo := { d.g_struClientInfo with u8ClientStates := ZC_CLIENT_STATUS_IDLE } } :=
  (Prod.mk.inj (Except.ok.inj h)).2.symm

theorem run_ZC_RecvDataFromClient_part {c : List UInt8} {r : ZC_RET × MSG_Buffer}
    (hidle : ZC_CheckClientIdle d.g_struClientInfo ClientId = ZC_RET_OK) (hrecv : MSG_RecvData d.g_struClientBuffer c = .ok r)
    (hpart : r.2.u8Status ≠ MSG_BUFFER_FULL) :
    (ZC_RecvDataFromClient env ClientId c).run d = .ok ((), d.serving ClientId r.2) := by
  obtain ⟨ret, b⟩ := r
  refine run_bind_eq_ok.mpr ⟨d, d, rfl, ?_⟩
  rw [hidle, if_neg (by decide)]
  refine run_bind_eq_ok.mpr ⟨(), _, rfl, run_bind_eq_ok.mpr ⟨_, _, rfl, ?_⟩⟩
  refine run_bind_eq_ok.mpr ⟨(ret, b), _, run_lift_eq_ok.mpr ⟨hrecv, rfl⟩, run_bind_eq_ok.mpr ⟨(), d.serving ClientId b, rfl, ?_⟩⟩
  dsimp only
  rw [if_neg fun h => hpart h.1]
  rfl

theorem run_ZC_RecvDataFromClient_whole {c : List UInt8} {r : ZC_RET × MSG_Buffer}
    (hidle : ZC_CheckClientIdle d.g_struClientInfo ClientId = ZC_RET_OK) (hrecv : MSG_RecvData d.g_struClientBuffer c = .ok r)
    (hok : r.1 = ZC_RET_OK) (hfull : r.2.u8Status = MSG_BUFFER_FULL) :
    (ZC_RecvDataFromClient env ClientId c).run d =
      (forwardClient env ClientId >>= fun _ => endClient).run (d.serving ClientId r.2) := by
  obtain ⟨ret, b⟩ := r
  refine (run_get_bind _ _).trans ?_
  rw [hidle, if_neg (by decide)]
  refine (run_bind_of_ok (t := d.serving ClientId d.g_struClientBuffer) rfl).trans ((run_get_bind _ _).trans ?_)
  refine (run_bind_of_ok (run_lift_eq_ok.mpr ⟨hrecv, rfl⟩)).trans ?_
  refine (run_bind_of_ok (t := d.serving ClientId b) rfl).trans ?_
  dsimp only
  rw [if_pos ⟨hfull, hok⟩]
  rfl

/-- A client that does not hold the lock is refused, and the module gets nothing of it. -/
theorem given_of_refused {chunks : List (List UInt8)} (hbusy : ZC_CheckClientIdle d.g_struClientInfo ClientId = ZC_RET_ERROR)
    (h : (clientChunks env ClientId chunks).run d = .ok ((), d')) : d'.given = d.given := by
  induction chunks generalizing d with
  | nil => rw [(run_pure_eq_ok.mp h).2]
  | cons c chunks ih =>
    obtain ⟨_, d₁, hrecv, hrest⟩ := run_bind_eq_ok.mp h
    obtain ⟨_, d₂, hget, hrefuse⟩ := run_bind_eq_ok.mp hrecv
    obtain ⟨rfl, rfl⟩ := run_get_eq_ok.mp hget
    rw [hbusy, if_pos rfl] at hrefuse
    obtain ⟨_, d₃, hrefuse, hend⟩ := run_bind_eq_ok.mp hrefuse
    obtain rfl := (run_pure_eq_ok.mp hend).2
    have hclients := congrArg Prod.fst (refuseClient_clients _ hrefuse)
    obtain ⟨data, htrace⟩ := refuseClient_trace hrefuse
    rw [ih ((congrArg (ZC_CheckClientIdle · ClientId) hclients).trans hbusy) hrest, Device.given, htrace]
    rfl

/-- A chunk sent to the buffer `b` goes behind the part `p` of a frame. -/
def MSG_Buffer.Collects (b : MSG_Buffer) (p : List UInt8) : Prop :=
  ∀ c : List UInt8, c.length ≤ CHUNK_MAXLEN → ∃ r, MSG_RecvData b c = .ok r ∧ MSG_Buffer.Result r (secFormat.absorb p c)

theorem MSG_Buffer.collects_of_idle {b : MSG_Buffer} (hidle : b.u8Status = MSG_BUFFER_IDLE) : b.Collects [] := by
  intro c hc
  have hcleared : ({ b with u32Len := 0 } : MSG_Buffer).Holds [] := by
    rw [Holds, hidle]
    exact Holding.nil
  obtain ⟨r, hrecv, hresult⟩ := MSG_RecvData_spec hcleared hc
  refine ⟨r, ?_, hresult⟩
  obtain ⟨len, status, buf⟩ := b
  cases hidle
  exact hrecv

theorem isFrame_tokenFrame {c : Cipher} {u8Key : List UInt8} {u8Resver : UInt8} {msg : List UInt8}
    (hframe : (tokenFrame c u8Key u8Resver msg).length ≤ MSG_BUFFER_MAXLEN) :
    secFormat.IsFrame (tokenFrame c u8Key u8Resver msg) := by
  have hmax : MSG_BUFFER_MAXLEN = 600 := rfl
  have htotal : secTotal (tokenFrame c u8Key u8Resver msg) = (tokenFrame c u8Key u8Resver msg).length := by
    have hlen : (AES_CBC_Encrypt c msg u8Key u8Key).length < 65536 := by
      rw [tokenFrame, List.length_append] at hframe
      omega
    change ZC_HTONS (number (bytesU16 (ZC_HTONS _))) + 4 = _
    rw [number_bytesU16 (ZC_HTONS_lt _), ZC_HTONS_ZC_HTONS hlen, tokenFrame, List.length_append, ZC_SecHead.length_toBytes,
      Nat.add_comm]
  refine ⟨?_, ?_, htotal.symm⟩
  · change 4 ≤ _
    rw [length_tokenFrame]
    omega
  · exact decide_eq_true (htotal.trans_le hframe)

/-- The rest of a frame, sent by a client that holds the lock, or in one piece by one that
takes it: it ends with the message given to the module. -/
theorem run_clientChunks_rest (hinv : env.toCipher.AesInverse) {u8Resver : UInt8} {u8Key : Mem ZC_HS_SESSION_KEY_LEN}
    (hframe : (tokenFrame env.toCipher u8Key.bytes u8Resver m.bytes).length ≤ MSG_BUFFER_MAXLEN)
    {chunks : List (List UInt8)} {p : List UInt8} (hne : chunks ≠ []) (hchunks : ∀ c ∈ chunks, c ≠ [])
    (hcut : p ++ chunks.flatten = tokenFrame env.toCipher u8Key.bytes u8Resver m.bytes)
    (hkey : d.g_struZcConfigDb.struCloudInfo.u8TokenKey = u8Key) (hcollects : d.g_struClientBuffer.Collects p)
    (hidle : ZC_CheckClientIdle d.g_struClientInfo ClientId = ZC_RET_OK) (hid : ClientId < 256 ∨ chunks.length = 1) :
    ∃ d' data len, (clientChunks env ClientId chunks).run d =
        (HF_SendDataToMoudle env (.client ClientId) data len >>= fun _ => endClient).run d' ∧
      load data 0 len = .ok (m.forwarded ClientId) ∧ d'.toModule = d.toModule := by
  have hf := isFrame_tokenFrame hframe
  induction chunks generalizing p d with
  | nil => exact absurd rfl hne
  | cons c chunks ih =>
    have hmax : MSG_BUFFER_MAXLEN = 600 := rfl
    have hlen := congrArg List.length hcut
    rw [List.flatten_cons, List.length_append, List.length_append] at hlen
    obtain ⟨r, hrecv, hresult⟩ := hcollects c (by unfold CHUNK_MAXLEN; omega)
    rw [List.flatten_cons, ← List.append_assoc] at hcut
    cases chunks with
    | nil =>
      -- the last chunk completes the frame
      rw [List.flatten_nil, List.append_nil] at hcut
      rw [Format.absorb_finish hf (hcut.trans (List.append_nil _).symm)] at hresult
      obtain ⟨d', data, len, hforward, hload, hmodule⟩ := @run_forwardClient_message env ClientId (d.serving ClientId r.2) m hinv
        _ _ hkey hframe hresult.2
      refine ⟨d', data, len, ?_, hload, hmodule⟩
      have hlast : clientChunks env ClientId [c] = ZC_RecvDataFromClient env ClientId c := bind_pure_unit
      rw [hlast, run_ZC_RecvDataFromClient_whole hidle hrecv hresult.1 hresult.2.status_eq, run_bind, hforward, run_bind]
    | cons c' chunks =>
      have hrest : (c' :: chunks).flatten ≠ [] :=
        MSG_Buffer.flatten_ne_nil (List.cons_ne_nil _ _) fun c hc => hchunks c (List.mem_cons_of_mem _ hc)
      rw [Format.absorb_within hf hcut.symm hrest] at hresult
      have hlt : ClientId < 256 := hid.resolve_right (by simp)
      have hpart := @run_ZC_RecvDataFromClient_part env _ _ _ _ hidle hrecv (MSG_Buffer.Holds.not_full hresult.2)
      have hholds : ZC_CheckClientIdle (d.serving ClientId r.2).g_struClientInfo ClientId = ZC_RET_OK := by
        rw [ZC_CheckClientIdle, if_neg (by simp [Device.serving]), if_pos]
        change ClientId = (u8 ClientId).toNat
        rw [toNat_u8, Nat.mod_eq_of_lt hlt]
      obtain ⟨d', data, len, hrun, hend⟩ := ih (d := d.serving ClientId r.2) (List.cons_ne_nil _ _)
        (fun c hc => hchunks c (List.mem_cons_of_mem _ hc)) hcut hkey (fun c hc => MSG_RecvData_spec hresult.2 hc) hholds
        (.inl hlt)
      exact ⟨d', data, len, (run_bind_of_ok hpart).trans hrun, hend⟩

/-- A request whose frame fits the buffer has few options. -/
theorem Message.num_of_frame (hfits : 16 + m.body.length < 600) : (m.head.OptNum + 1).toNat = m.options.length + 1 := by
  have hsmall : ∀ os : List MsgOption, 4 * os.length ≤ (optionBytes os).length := by
    intro os
    induction os with
    | nil => exact Nat.le_refl _
    | cons o os ih =>
      rw [optionBytes_cons, List.length_append, o.length_bytes, List.length_cons]
      change _ ≤ 4 + o.body.length + _
      omega
  have hnum := hsmall m.options
  rw [Message.body, List.length_append] at hfits
  have hlen : m.head.OptNum.toNat = m.options.length := by
    change (u8 m.options.length).toNat = _
    rw [toNat_u8, Nat.mod_eq_of_lt m.num_lt]
  rw [toNat_succ, hlen]
  intro hwrap
  rw [hwrap] at hlen
  change 255 = _ at hlen
  omega

theorem Message.forwarded_sound (hfits : 16 + m.body.length < 600) (ClientId : Nat) :
    checkMsgCrc (m.forwarded ClientId) = .ok ZC_RET_OK ∧ (m.forwarded ClientId).length ≤ MSG_BUFFER_MAXLEN := by
  have hmax : MSG_BUFFER_MAXLEN = 600 := rfl
  have hlen : (sessionOption ClientId ++ m.body).length = m.body.length + 8 := by
    rw [List.length_append, length_sessionOption, Nat.add_comm]
  constructor
  · have hcheck := @checkMsgCrc_toBytes { m.head with
      OptNum := m.head.OptNum + 1
      Payloadlen := ZC_HTONS (m.body.length + 8)
      TotalMsgCrc := crcBytes (crc16_ccitt (sessionOption ClientId ++ m.body)) } (sessionOption ClientId ++ m.body) [] (by omega)
      (by rw [hlen])
    rw [List.append_nil, crcBytes_toNat (crc16_ccitt_lt _), if_pos rfl] at hcheck
    exact hcheck
  · rw [Message.forwarded, List.length_append, ZC_MessageHead.length_toBytes, hlen]
    omega

/-- A client whose number does not fit the lock is refused when it goes on. -/
theorem not_forwards {u8Resver : UInt8} {u8Key : List UInt8}
    (hframe : (tokenFrame env.toCipher u8Key u8Resver m.bytes).length ≤ MSG_BUFFER_MAXLEN) {chunks : List (List UInt8)}
    (hchunks : ∀ c ∈ chunks, c ≠ []) (hcut : chunks.flatten = tokenFrame env.toCipher u8Key u8Resver m.bytes)
    (hbuffer : d.g_struClientBuffer.u8Status = MSG_BUFFER_IDLE)
    (hidle : ZC_CheckClientIdle d.g_struClientInfo ClientId = ZC_RET_OK) (hid : 256 ≤ ClientId) (hlen : chunks.length ≠ 1) :
    ¬ d.Forwards env ClientId m chunks := by
  rintro ⟨d', hrun, hgiven, -⟩
  have hsize := congrArg List.length hcut
  rw [length_tokenFrame] at hsize hframe
  match chunks with
  | [] => simp at hsize
  | [_] => exact hlen rfl
  | c :: c' :: chunks =>
    have hrest : (c' :: chunks).flatten ≠ [] :=
      MSG_Buffer.flatten_ne_nil (List.cons_ne_nil _ _) fun c hc => hchunks c (List.mem_cons_of_mem _ hc)
    rw [List.flatten_cons, List.length_append] at hsize
    have hmax : MSG_BUFFER_MAXLEN = 600 := rfl
    obtain ⟨r, hrecv, hresult⟩ := MSG_Buffer.collects_of_idle hbuffer c (by unfold CHUNK_MAXLEN; omega)
    rw [Format.absorb_within (isFrame_tokenFrame (by rw [length_tokenFrame]; exact hframe)) hcut.symm hrest] at hresult
    obtain ⟨_, d₁, hfirst, hrun⟩ := run_bind_eq_ok.mp hrun
    rw [run_ZC_RecvDataFromClient_part hidle hrecv (MSG_Buffer.Holds.not_full hresult.2)] at hfirst
    obtain rfl := (Prod.mk.inj (Except.ok.inj hfirst)).2
    have hrefused : ZC_CheckClientIdle (d.serving ClientId r.2).g_struClientInfo ClientId = ZC_RET_ERROR := by
      rw [ZC_CheckClientIdle, if_neg (by simp [Device.serving]), if_neg]
      change ¬ ClientId = (u8 ClientId).toNat
      rw [toNat_u8]
      omega
    rw [given_of_refused hrefused hrun] at hgiven
    exact absurd (congrArg List.length hgiven) (by simp [Device.given, Device.serving])

/-- A request reaches the module exactly where the number of its client fits the lock, or
one chunk brings all of its frame, and there is memory for the message and room in the queue. -/
theorem ZC_RecvDataFromClient_forwards_iff (hinv : env.toCipher.AesInverse) {u8Resver : UInt8}
    (hframe : (tokenFrame env.toCipher d.g_struZcConfigDb.struCloudInfo.u8TokenKey.bytes u8Resver m.bytes).length ≤ MSG_BUFFER_MAXLEN)
    {chunks : List (List UInt8)} (hchunks : ∀ c ∈ chunks, c ≠ [])
    (hcut : chunks.flatten = tokenFrame env.toCipher d.g_struZcConfigDb.struCloudInfo.u8TokenKey.bytes u8Resver m.bytes)
    (hbuffer : d.g_struClientBuffer.u8Status = MSG_BUFFER_IDLE)
    (hidle : ZC_CheckClientIdle d.g_struClientInfo ClientId = ZC_RET_OK) :
    d.Forwards env ClientId m chunks ↔ (ClientId < 256 ∨ chunks.length = 1) ∧
      env.moudleAlloc d.moudleMsgs = true ∧ env.moudleSend d.moudleMsgs = true := by
  have hne : chunks ≠ [] := by
    rintro rfl
    have hlen := congrArg List.length hcut
    rw [length_tokenFrame] at hlen
    simp at hlen
  have hrest := run_clientChunks_rest hinv hframe hne hchunks hcut rfl (MSG_Buffer.collects_of_idle hbuffer) hidle
  constructor
  · intro hforwards
    have hid : ClientId < 256 ∨ chunks.length = 1 := by
      refine Decidable.byContradiction fun hnot => ?_
      simp only [not_or, Nat.not_lt] at hnot
      exact not_forwards hframe hchunks hcut hbuffer hidle hnot.1 hnot.2 hforwards
    obtain ⟨d₁, data, len, hrun, -, hmodule⟩ := hrest hid
    obtain ⟨d', hforwards, -, hqueue, -⟩ := hforwards
    simp only [Device.toModule, Prod.mk.injEq] at hmodule
    obtain ⟨-, hqueue₁, hmsgs⟩ := hmodule
    rw [hrun] at hforwards
    obtain ⟨_, d₂, hsend, hend⟩ := run_bind_eq_ok.mp hforwards
    obtain ⟨halloc, msg, -, rfl⟩ := run_HF_SendDataToMoudle_eq_ok env hsend
    refine ⟨hid, hmsgs ▸ halloc, ?_⟩
    rw [← hmsgs]
    obtain rfl := run_endClient hend
    by_contra hfull
    have hsame : (d₁.handed env (.client ClientId) msg).App_R_Q = d.App_R_Q := (if_neg hfull).trans hqueue₁
    exact absurd (congrArg List.length (hsame.symm.trans hqueue)) (by simp)
  · rintro ⟨hid, halloc, hsend⟩
    obtain ⟨-, hfits⟩ := m.fits_of_frame hframe
    obtain ⟨d₁, data, len, hrun, hload, hmodule⟩ := hrest hid
    simp only [Device.toModule, Prod.mk.injEq] at hmodule
    obtain ⟨htrace, hqueue, hmsgs⟩ := hmodule
    rw [← hmsgs] at halloc hsend
    obtain ⟨hcrc, hsize⟩ := m.forwarded_sound hfits ClientId
    refine ⟨_, hrun.trans (run_bind_of_ok (run_HF_SendDataToMoudle env halloc hload)), ?_, ?_, m.num_of_frame hfits, hcrc, hsize,
      rfl, rfl, rfl⟩
    · rw [Device.given, Device.given, ← htrace]
      rfl
    · rw [← hqueue]
      exact if_pos hsend

end

/-- A request without options and payload. -/
def shortRequest : Message := ⟨1, 5, 40, [], [], by decide, by decide⟩

/-- The frame of the request, cut behind its first five bytes. -/
def shortChunks : List (List UInt8) :=
  let frame := tokenFrame soundEnv.toCipher g_u8DefaultTokenKey.bytes 0 shortRequest.bytes
  [frame.take 5, frame.drop 5]

theorem length_shortRequest : (tokenFrame soundEnv.toCipher g_u8DefaultTokenKey.bytes 0 shortRequest.bytes).length = 20 :=
  length_tokenFrame _ _ _ _

theorem shortChunks_ne_nil : ∀ c ∈ shortChunks, c ≠ [] := by
  intro c hc
  rw [shortChunks, List.mem_cons, List.mem_singleton] at hc
  refine List.ne_nil_of_length_pos ?_
  rcases hc with rfl | rfl
  · rw [List.length_take, length_shortRequest]
    decide
  · rw [List.length_drop, length_shortRequest]
    decide

theorem flatten_shortChunks :
    shortChunks.flatten = tokenFrame soundEnv.toCipher g_u8DefaultTokenKey.bytes 0 shortRequest.bytes := by
  simp [shortChunks]

/-- What a client finds. -/
def clientView (d : Device) : MSG_BUFFER × ZC_CLIENT_STATUS × Mem ZC_HS_SESSION_KEY_LEN :=
  (d.g_struClientBuffer.u8Status, d.g_struClientInfo.u8ClientStates, d.g_struZcConfigDb.struCloudInfo.u8TokenKey)

def idleView : MSG_BUFFER × ZC_CLIENT_STATUS × Mem ZC_HS_SESSION_KEY_LEN :=
  (MSG_BUFFER_IDLE, ZC_CLIENT_STATUS_IDLE, g_u8DefaultTokenKey)

def clientViewAfter (inputs : List Input) : Option (MSG_BUFFER × ZC_CLIENT_STATUS × Mem ZC_HS_SESSION_KEY_LEN) :=
  ((Device.boot soundEnv blankFwup).bind (Device.replay soundEnv inputs)).map clientView

theorem reachable_idle {inputs : List Input} (h : clientViewAfter inputs = some idleView) :
    ∃ d : Device, d.Reachable soundEnv (fun _ _ => True) ∧ d.g_struClientBuffer.u8Status = MSG_BUFFER_IDLE ∧
      d.g_struClientInfo.u8ClientStates = ZC_CLIENT_STATUS_IDLE ∧
      d.g_struZcConfigDb.struCloudInfo.u8TokenKey = g_u8DefaultTokenKey := by
  obtain ⟨d, hreachable, hview⟩ := Device.reachable_of_replay ⟨rfl, rfl, rfl⟩ (fun _ _ _ => trivial) h
  exact ⟨d, hreachable, by simpa only [clientView, idleView, Prod.mk.injEq] using hview⟩

theorem checkIdle_of_states {info : ZC_ClientInfo} (h : info.u8ClientStates = ZC_CLIENT_STATUS_IDLE) (ClientId : Nat) :
    ZC_CheckClientIdle info ClientId = ZC_RET_OK :=
  if_pos h

theorem ZC_RecvDataFromClient_forwards_short :
    ∃ d : Device, d.Reachable soundEnv (fun _ _ => True) ∧ d.Forwards soundEnv 7 shortRequest shortChunks := by
  obtain ⟨d, hreachable, hbuffer, hstates, hkey⟩ := reachable_idle (by decide +kernel : clientViewAfter connected7 = some idleView)
  have hframe : (tokenFrame soundEnv.toCipher d.g_struZcConfigDb.struCloudInfo.u8TokenKey.bytes 0 shortRequest.bytes).length ≤
      MSG_BUFFER_MAXLEN := by
    rw [hkey, length_shortRequest]
    decide
  exact ⟨d, hreachable, (ZC_RecvDataFromClient_forwards_iff soundEnv_inverse hframe shortChunks_ne_nil
    (by rw [hkey]; exact flatten_shortChunks) hbuffer (checkIdle_of_states hstates 7)).mpr ⟨.inl (by decide), rfl, rfl⟩⟩

/-- A client whose descriptor is 300 sends a request in two chunks. -/
theorem ZC_RecvDataFromClient_locks_out : ¬ ∀ (d : Device) (ClientId : Nat) (m : Message) (chunks : List (List UInt8)),
    d.Reachable soundEnv (fun _ _ => True) → ClientId < 4294967296 → (∀ c ∈ chunks, c ≠ []) →
    chunks.flatten = tokenFrame soundEnv.toCipher d.g_struZcConfigDb.struCloudInfo.u8TokenKey.bytes 0 m.bytes →
    chunks.flatten.length ≤ MSG_BUFFER_MAXLEN → d.g_struClientBuffer.u8Status = MSG_BUFFER_IDLE →
    d.g_struClientInfo.u8ClientStates = ZC_CLIENT_STATUS_IDLE → d.Forwards soundEnv ClientId m chunks := by
  intro h
  obtain ⟨d, hreachable, hbuffer, hstates, hkey⟩ :=
    reachable_idle (by decide +kernel : clientViewAfter [.wakeUp, .listen, .clientConnect 300] = some idleView)
  have hsize : shortChunks.flatten.length ≤ MSG_BUFFER_MAXLEN := by
    rw [flatten_shortChunks, length_shortRequest]
    decide
  refine not_forwards (flatten_shortChunks ▸ hsize) shortChunks_ne_nil flatten_shortChunks hbuffer (checkIdle_of_states hstates 300)
    (by decide) (by decide) ?_
  exact h d 300 shortRequest shortChunks hreachable (by decide) shortChunks_ne_nil (by rw [hkey]; exact flatten_shortChunks) hsize
    hbuffer hstates

end ZCloud
