import ZCloud.ProtocolController.Controller

open Memory Program

namespace ZCloud

section

variable (env : Env)

/-- Whether a client is connected as `u32ClientId`. -/
def ZC_ClientInfo.connected (info : ZC_ClientInfo) (u32ClientId : Nat) : Bool :=
  (List.finRange ZC_MAX_CLIENT_NUM).any fun i =>
    info.u32ClientVaildFlag i = ZC_CLIENT_INVAILD_FLAG ∧ info.u32ClientFd i = u32ClientId

/-- Sends the message at the start of `view`, whose payload without the options
that have been found is at offset `pu8PayLoad`, to the client that it names. -/
def ZC_DealSessionOpt (view : List UInt8) (opts : ZC_OptList) (pstruSsession pu8PayLoad : Nat) :
    Prog Device Unit := do
  let u32ClientId := ZC_HTONL (← loadU32 view pstruSsession)
  if !(← get).g_struClientInfo.connected u32ClientId then
    return
  let body := sizeof_ZC_SecHead + sizeof_ZC_MessageHead
  let (OptNum, u16OptLen) ← EVENT_BuildOption view { opts with pstruSsession := none } body
  let u16RealLen := u16 ((← pstruPayloadlen view) + 65536 - (sizeof_ZC_MessageOptHead + sizeof_ZC_SsessionInfo))
  storeBuild (body + u16OptLen) (← load view pu8PayLoad (u32Sub u16RealLen u16OptLen))
  let crc := crcBytes (crc16_ccitt (← load (← get).g_u8MsgBuildBuffer.bytes sizeof_ZC_MessageHead u16RealLen))
  let pstruMsg : ZC_MessageHead :=
    { Version := ← loadU8 view 0
      MsgId := ← pstruMsgId view
      MsgCode := ← pstruMsgCode view
      OptNum := u8 OptNum
      Payloadlen := ZC_HTONS u16RealLen
      TotalMsgCrc := crc }
  storeBuild sizeof_ZC_SecHead pstruMsg.toBytes
  let d ← get
  let pu8Key := d.g_struZcConfigDb.struCloudInfo.u8TokenKey.bytes
  let text ← load d.g_u8MsgBuildBuffer.bytes sizeof_ZC_SecHead (u16RealLen + sizeof_ZC_MessageHead)
  let cipher := AES_CBC_Encrypt env.toCipher text pu8Key pu8Key
  storeBuild sizeof_ZC_SecHead cipher
  storeBuild 0 (ZC_SecHead.toBytes ⟨ZC_HTONS (u16 cipher.length), ZC_SEC_ALG_AES, ← draw env.stack⟩)
  let g_u8ClientSendLen := u8 (cipher.length + sizeof_ZC_SecHead)
  HF_SendTcpData u32ClientId (← load (← get).g_u8MsgBuildBuffer.bytes 0 g_u8ClientSendLen.toNat)
  modify fun d => { d with g_u8ClientSendLen := 0 }

def ZC_StoreRegisterInfo (pu8Data : List UInt8) : Prog Device Unit := do
  let info ← registerInfo pu8Data
  modify fun d => { d with g_struRegisterInfo := info }

def ZC_ConfigPara (pu8Data : List UInt8) : Prog Device Unit := do
  let db ← (← get).g_struZcConfigDb.configured pu8Data
  modifyConfig fun _ => db
  writeConfig env

/-- The handling of `ZC_CODE_REGSITER`. -/
def registerMoudle (pu8Payload : List UInt8) : Prog Device Unit := do
  let u8MainState := (← getController).u8MainState
  if PCT_STATE_ACCESS_NET.code ≤ u8MainState.code ∧ u8MainState.code < PCT_STATE_DISCONNECT_CLOUD.code then
    PCT_SendNotifyMsg env ZC_CODE_CLOUD_CONNECTED
  else if u8MainState = PCT_STATE_DISCONNECT_CLOUD then
    PCT_SendNotifyMsg env ZC_CODE_CLOUD_DISCONNECTED
  else
    ZC_StoreRegisterInfo pu8Payload
    setMainState PCT_STATE_ACCESS_NET
    if (← getController).u8RegisterTimer.isSome then
      TIMER_StopTimer (.handle .u8RegisterTimer)
      clearHandle .u8RegisterTimer

/-- The handling of `ZC_CODE_EQ_BEGIN`. -/
def beginMoudle : Prog Device Unit := do
  PCT_SendNotifyMsg env ZC_CODE_EQ_DONE
  if PCT_STATE_ACCESS_NET.code ≤ (← getController).u8MainState.code then
    PCT_SendNotifyMsg env ZC_CODE_WIFI_CONNECTED

/-- The branch of `ZC_RecvDataFromMoudle` for the code of a message. -/
def dispatchMoudle (pu8Data : List UInt8) (u16DataLen : Nat) (pu8Payload : List UInt8) : Prog Device Unit := do
  match ZC_MsgCode.ofByte (← pstruMsgCode pu8Data) with
  | some ZC_CODE_REGSITER => registerMoudle env pu8Payload
  | some ZC_CODE_EQ_BEGIN => beginMoudle env
  | some ZC_CODE_ZOTA_FILE_BEGIN => PCT_ModuleOtaFileBeginMsg env pu8Payload
  | some ZC_CODE_ZOTA_FILE_CHUNK => PCT_ModuleOtaFileChunkMsg env (HF_FirmwareUpdate env) pu8Data pu8Payload
  | some ZC_CODE_ZOTA_FILE_END =>
    PCT_ModuleOtaFileEndMsg env
    PCT_SendNotifyMsg env ZC_CODE_ZOTA_END
  | some ZC_CODE_REST => return
  | some ZC_CODE_CONFIG => ZC_ConfigPara env pu8Payload
  | _ =>
    if (← getController).u8MainState = PCT_STATE_CONNECT_CLOUD then
      PCT_HandleMoudleEvent env pu8Data u16DataLen
    else
      PCT_SendNotifyMsg env ZC_CODE_CLOUD_DISCONNECTED

/-- Handles the message of `u16DataLen` bytes at the start of `pu8Data`. -/
def ZC_RecvDataFromMoudle (pu8Data : List UInt8) (u16DataLen : Nat) : Prog Device ZC_RET := do
  ZC_TraceData pu8Data u16DataLen
  if u16DataLen = 0 then
    return ZC_RET_ERROR
  ZC_TraceData (pu8Data.drop sizeof_ZC_MessageHead) u16DataLen
  if (← checkMsgCrc pu8Data) = ZC_RET_ERROR then
    return ZC_RET_ERROR
  let (opts, u16OptLen) ← EVENT_ParseOption pu8Data ⟨none, none⟩
  match opts.pstruSsession with
  | some pstruSsession => ZC_DealSessionOpt env pu8Data opts pstruSsession (u16OptLen + sizeof_ZC_MessageHead)
  | none => dispatchMoudle env pu8Data u16DataLen (pu8Data.drop (u16OptLen + sizeof_ZC_MessageHead))
  return ZC_RET_OK

end

end ZCloud
