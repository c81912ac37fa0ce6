import ZCloud.HfAdpter.Adapter
import ZCloud.ProtocolController.Send

open Memory Program

namespace ZCloud

def modifyClient (f : ZC_ClientInfo → ZC_ClientInfo) : Prog Device Unit :=
  modify fun d => { d with g_struClientInfo := f d.g_struClientInfo }

def ZC_SetClientBusy (u32Clientfd : Nat) : Prog Device Unit :=
  modifyClient fun info =>
    { info with u8ClientStates := ZC_CLIENT_STATUS_BUSY, u32ClientBusyId := u8 u32Clientfd }

def ZC_SetClientFree : Prog Device Unit :=
  modifyClient fun info => { info with u8ClientStates := ZC_CLIENT_STATUS_IDLE }

/-- Whether a client slot has the connection `u32ClientId`. -/
def ZC_ClientInfo.hasFd (info : ZC_ClientInfo) (u32ClientId : Nat) : Bool :=
  (List.finRange ZC_MAX_CLIENT_NUM).any fun i => info.u32ClientFd i = u32ClientId

def ZC_ClientDisconnect (u32ClientId : Nat) : Prog Device Unit :=
  modifyClient fun info =>
    { info with
      u32ClientVaildFlag := fun i =>
        if info.u32ClientFd i = u32ClientId then ZC_CLIENT_VAILD_FLAG else info.u32ClientVaildFlag i
      u8ClientStates :=
        if info.hasFd u32ClientId ∧ info.u8ClientStates = ZC_CLIENT_STATUS_BUSY ∧
            u32ClientId = info.u32ClientBusyId.toNat then
          ZC_CLIENT_STATUS_IDLE
        else info.u8ClientStates }

def ZC_ClientConnect (u32ClientId : Nat) : Prog Device ZC_RET := do
  let info := (← get).g_struClientInfo
  match (List.finRange ZC_MAX_CLIENT_NUM).find? fun i => info.u32ClientVaildFlag i = ZC_CLIENT_VAILD_FLAG with
  | none => return ZC_RET_ERROR
  | some slot =>
    modifyClient fun info =>
      { info with
        u32ClientFd := fun i => if i = slot then u32ClientId else info.u32ClientFd i
        u32ClientVaildFlag := fun i => if i = slot then ZC_CLIENT_INVAILD_FLAG else info.u32ClientVaildFlag i }
    return ZC_RET_OK

def ZC_ClientInit : Prog Device Unit :=
  modifyClient fun info =>
    { info with u8ClientStates := ZC_CLIENT_STATUS_INIT, u32ClientVaildFlag := fun _ => ZC_CLIENT_VAILD_FLAG }

def ZC_CheckClientIdle (info : ZC_ClientInfo) (u32Fd : Nat) : ZC_RET :=
  if info.u8ClientStates = ZC_CLIENT_STATUS_IDLE then ZC_RET_OK
  else if u32Fd = info.u32ClientBusyId.toNat then ZC_RET_OK
  else ZC_RET_ERROR

def ZC_ClientWakeUp : Prog Device Unit :=
  modifyClient fun info => { info with u8ClientStates := ZC_CLIENT_STATUS_WAKEUP }

def ZC_ClientSleep : Prog Device Unit := ZC_ClientInit

def modifyClientBuffer (f : MSG_Buffer → MSG_Buffer) : Prog Device Unit :=
  modify fun d => { d with g_struClientBuffer := f d.g_struClientBuffer }

/-- Writes to the bytes of `g_struClientBuffer`. -/
def storeClient (off : Nat) (data : List UInt8) : Prog Device Unit := do
  let m ← (← get).g_struClientBuffer.u8MsgBuffer.store off data
  modifyClientBuffer fun b => { b with u8MsgBuffer := m }

def Device.withClientBuffer (d : Device) (b : MSG_Buffer) : Device := { d with g_struClientBuffer := b }

theorem run_storeClient_eq_ok {off : Nat} {data : List UInt8} {d d' : Device} {u : Unit}
    (h : (storeClient off data).run d = .ok (u, d')) :
    ∃ m, d.g_struClientBuffer.u8MsgBuffer.store off data = .ok m ∧
      d' = d.withClientBuffer { d.g_struClientBuffer with u8MsgBuffer := m } := by
  obtain ⟨_, _, hget, hrest⟩ := run_bind_eq_ok.mp h
  obtain ⟨rfl, rfl⟩ := run_get_eq_ok.mp hget
  obtain ⟨m, _, hstore, hmodify⟩ := run_bind_eq_ok.mp hrest
  obtain ⟨hm, rfl⟩ := run_lift_eq_ok.mp hstore
  exact ⟨m, hm, run_modify_eq_ok.mp hmodify⟩

section

variable (env : Env)

/-- Tells a client that another one is being served. -/
def refuseClient (ClientId : Nat) : Prog Device Unit := do
  let pu8Key := (← get).g_struZcConfigDb.struCloudInfo.u8TokenKey.bytes
  let msg := EVENT_BuildMsg ZC_CODE_ERR 0 []
  storeBuild sizeof_ZC_SecHead msg
  let cipher := AES_CBC_Encrypt env.toCipher msg pu8Key pu8Key
  storeBuild sizeof_ZC_SecHead cipher
  storeBuild 2 [ZC_SEC_ALG_AES]
  storeBuild 0 (bytesU16 (ZC_HTONS (u16 cipher.length)))
  HF_SendTcpData ClientId (← load (← get).g_u8MsgBuildBuffer.bytes 0 (cipher.length + sizeof_ZC_SecHead))

/-- Puts the number of its client into a message of `Payloadlen` bytes in the build
buffer, and copies it to `g_struClientBuffer`. -/
def insertSession (ClientId Payloadlen : Nat) : Prog Device Unit := do
  let pstruMsg := (← get).g_u8MsgBuildBuffer.bytes
  storeBuild 3 [(← loadU8 pstruMsg 3) + 1]
  let pstruMsg := (← get).g_u8MsgBuildBuffer.bytes ++ (← draw env.beyond)
  let option := optHead ZC_OPT_SSESSION sizeof_ZC_SsessionInfo ++ bytesU32 (ZC_HTONL ClientId)
  storeClient 0 (← load pstruMsg 0 sizeof_ZC_MessageHead)
  storeClient sizeof_ZC_MessageHead option
  storeClient (sizeof_ZC_MessageHead + option.length)
    (← load pstruMsg sizeof_ZC_MessageHead (u32Sub Payloadlen option.length))
  let u16Len := sizeof_ZC_MessageHead + Payloadlen
  modifyClientBuffer fun b => { b with u32Len := u16Len }
  let crc := crcBytes (crc16_ccitt (← load (← get).g_struClientBuffer.u8MsgBuffer.bytes sizeof_ZC_MessageHead Payloadlen))
  storeClient 6 [crc.1, crc.2]

/-- Forwards the message in `g_struClientBuffer` to the module, if it is one. -/
def forwardClient (ClientId : Nat) : Prog Device Unit := do
  let d ← get
  let pstruHead := d.g_struClientBuffer.u8MsgBuffer.bytes ++ (← draw env.beyond)
  let u16TotalMsg := ZC_HTONS (← loadU16 pstruHead 0)
  if u16TotalMsg ≥ MSG_BULID_BUFFER_MAXLEN then
    return
  let pu8Key := d.g_struZcConfigDb.struCloudInfo.u8TokenKey.bytes
  let before ← draw env.stack
  let (out, _) ← AES_CBC_Decrypt env.toCipher (pstruHead.drop sizeof_ZC_SecHead) u16TotalMsg pu8Key pu8Key before
  storeBuild 0 out
  let pstruMsg := (← get).g_u8MsgBuildBuffer.bytes ++ (← draw env.beyond)
  if (← checkMsgCrc pstruMsg) = ZC_RET_ERROR then
    return
  let Payloadlen := u16 ((← pstruPayloadlen pstruMsg) + sizeof_ZC_MessageOptHead + sizeof_ZC_SsessionInfo)
  storeBuild 4 (bytesU16 (ZC_HTONS Payloadlen))
  if Payloadlen > MSG_BULID_BUFFER_MAXLEN then
    return
  insertSession env ClientId Payloadlen
  let buffer := (← get).g_struClientBuffer
  ZC_TraceData buffer.u8MsgBuffer.bytes buffer.u32Len
  HF_SendDataToMoudle env (.client ClientId) buffer.u8MsgBuffer.bytes (u16 buffer.u32Len)

def ZC_StartClientListen : Prog Device Unit := do
  if (← get).g_struClientInfo.u8ClientStates = ZC_CLIENT_STATUS_WAKEUP then
    if (← HF_ListenClient env) = ZC_RET_OK then
      modifyClient fun info => { info with u8ClientStates := ZC_CLIENT_STATUS_IDLE }

def ZC_RecvDataFromClient (ClientId : Nat) (pu8Data : List UInt8) : Prog Device Unit := do
  if ZC_CheckClientIdle (← get).g_struClientInfo ClientId = ZC_RET_ERROR then
    refuseClient env ClientId
    return
  ZC_SetClientBusy ClientId
  let (u32RetVal, buffer) ← MSG_RecvData (← get).g_struClientBuffer pu8Data
  modifyClientBuffer fun _ => buffer
  if buffer.u8Status = MSG_BUFFER_FULL ∧ u32RetVal = ZC_RET_OK then
    forwardClient env ClientId
    modifyClientBuffer MSG_Buffer.idle
    ZC_SetClientFree

end

end ZCloud
