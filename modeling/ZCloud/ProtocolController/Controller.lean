import ZCloud.ClientManager.Client
import ZCloud.ProtocolController.Ota

open Memory Program

namespace ZCloud

def modifyRetxBuffer (f : MSG_Buffer → MSG_Buffer) : Prog Device Unit :=
  modify fun d => { d with g_struRetxBuffer := f d.g_struRetxBuffer }

def modifyConfig (f : ZC_ConfigDB → ZC_ConfigDB) : Prog Device Unit :=
  modify fun d => { d with g_struZcConfigDb := f d.g_struZcConfigDb }

section

variable (env : Env)

/-- What is done when the module has not answered a request in time. -/
def PCT_SendMoudleTimeout : Prog Device Unit := do
  let d ← get
  match d.g_struProtocolController.pu8SendMoudleBuffer with
  | none => throw .null
  | some addr =>
    let pstruBuffer := d.buffer addr
    let u8ReSendMoudleNum := (d.g_struProtocolController.u8ReSendMoudleNum + 1) % 256
    modifyController fun c => { c with u8ReSendMoudleNum := u8ReSendMoudleNum }
    if u8ReSendMoudleNum > PCT_SENDMOUDLE_NUM then
      modify fun d => d.setBuffer addr pstruBuffer.idle
      modifyController fun c => { c with u8SendMoudleTimer := none, u8ReSendMoudleNum := 0 }
      PCT_SendErrorMsg env (← pstruMsgId pstruBuffer.u8MsgBuffer.bytes) []
    else
      HF_SendDataToMoudle env .request pstruBuffer.u8MsgBuffer.bytes (u16 pstruBuffer.u32Len)
      let _ ← HF_SetTimer env PCT_TIMER_SENDMOUDLE .u8SendMoudleTimer

/-- Ends the request that the module has answered. -/
def releaseRequest : Prog Device Unit := do
  TIMER_StopTimer (.handle .u8SendMoudleTimer)
  match (← getController).pu8SendMoudleBuffer with
  | none => throw .null
  | some addr =>
    releaseBuffer addr
    modifyController fun c => { c with u8SendMoudleTimer := none, u8ReSendMoudleNum := 0 }

/-- Passes a message of the module on to the cloud. -/
def PCT_HandleMoudleEvent (pu8Msg : List UInt8) (u16DataLen : Nat) : Prog Device Unit := do
  if (← getController).u8SendMoudleTimer.isSome then
    releaseRequest
  let u32RetVal ← PCT_SendMsgToCloud env ZC_SEC_ALG_AES u16DataLen pu8Msg
  if u32RetVal = ZC_RET_OK then
    logEvent (.answered (pu8Msg.take u16DataLen))

/-- Hands the request at the start of `view`, in the buffer at `addr`, to the module. -/
def PCT_HandleMoudleMsg (addr : BufferAddr) (view : List UInt8) : Prog Device Unit := do
  let _ ← HF_SetTimer env PCT_TIMER_SENDMOUDLE .u8SendMoudleTimer
  let d ← get
  let pstruBuffer := d.buffer addr
  let m ← d.g_struRetxBuffer.u8MsgBuffer.memcpy 0 pstruBuffer.u8MsgBuffer.bytes pstruBuffer.u32Len
  modifyRetxBuffer fun _ => ⟨pstruBuffer.u32Len, MSG_BUFFER_FULL, m⟩
  modifyController fun c => { c with pu8SendMoudleBuffer := some .g_struRetxBuffer, u8ReSendMoudleNum := 0 }
  HF_SendDataToMoudle env .request view (u16 pstruBuffer.u32Len)
  restartHeart env

def ZC_StoreTokenKey (pu8Data : List UInt8) : Prog Device Unit := do
  let u8TokenKey ← loadMem pu8Data 0 ZC_HS_SESSION_KEY_LEN
  modifyConfig fun db => { db with struCloudInfo := { db.struCloudInfo with u8TokenKey := u8TokenKey } }
  writeConfig env

def PCT_SetTokenKey (view : List UInt8) : Prog Device Unit := do
  ZC_StoreTokenKey env (view.drop sizeof_ZC_MessageHead)
  let MsgId ← pstruMsgId view
  PCT_SendEmptyMsg env MsgId ZC_SEC_ALG_AES
  PCT_SendAckToCloud env MsgId

def PCT_ResetNetWork (view : List UInt8) : Prog Device Unit := do
  modifyConfig ZC_ConfigInitPara
  PCT_DisConnectCloud env
  let MsgId ← pstruMsgId view
  PCT_SendEmptyMsg env MsgId ZC_SEC_ALG_AES
  PCT_SendAckToCloud env MsgId

/-- The branch of `PCT_HandleEvent` for the code of a message. -/
def dispatchEvent (addr : BufferAddr) (view : List UInt8) : Prog Device Unit := do
  match ZC_MsgCode.ofByte (← pstruMsgCode view) with
  | some ZC_CODE_ZOTA_BEGIN => PCT_HandleOtaBeginMsg env view
  | some ZC_CODE_ZOTA_FILE_BEGIN => PCT_HandleOtaFileBeginMsg env view
  | some ZC_CODE_ZOTA_FILE_CHUNK => PCT_HandleOtaFileChunkMsg env (HF_FirmwareUpdate env) view
  | some ZC_CODE_ZOTA_FILE_END => PCT_HandleOtaFileEndMsg env view
  | some ZC_CODE_ZOTA_END => PCT_HandleOtaEndMsg env view
  | some ZC_CODE_OTA_BEGIN | some ZC_CODE_OTA_FILE_BEGIN | some ZC_CODE_OTA_FILE_CHUNK
  | some ZC_CODE_OTA_FILE_END | some ZC_CODE_OTA_END => PCT_HandleMoudleMsg env addr view
  | some ZC_CODE_TOKEN_SET => PCT_SetTokenKey env view
  | some ZC_CODE_RESET_NETWORK => PCT_ResetNetWork env view
  | _ =>
    PCT_HandleMoudleMsg env addr view
    PCT_SendEmptyMsg env (← pstruMsgId view) ZC_SEC_ALG_AES

/-- The handling of the message at the start of `view`. -/
def handleMessage (addr : BufferAddr) (view : List UInt8) : Prog Device Unit := do
  ZC_TraceData view ((← pstruPayloadlen view) + sizeof_ZC_MessageHead)
  if (← checkMsgCrc view) = ZC_RET_ERROR then
    let MsgId ← pstruMsgId view
    PCT_SendEmptyMsg env MsgId ZC_SEC_ALG_AES
    PCT_SendErrorMsg env MsgId []
  else
    dispatchEvent env addr view

def PCT_HandleEvent : Prog Device Unit := do
  if (← getController).u8SendMoudleTimer.isSome then
    return
  match ← popMessage env with
  | none => return
  | some (addr, view) =>
    handleMessage env addr view
    releaseBuffer addr

def PCT_Run : Prog Device Unit := do
  match (← getController).u8MainState with
  | PCT_STATE_SLEEP | PCT_STATE_INIT | PCT_STATE_DISCONNECT_CLOUD => return
  | PCT_STATE_ACCESS_NET => PCT_ConnectCloud env
  | PCT_STATE_WAIT_ACCESS => PCT_SendCloudAccessMsg1 env
  | PCT_STATE_WAIT_ACCESSRSP => PCT_RecvAccessMsg2 env
  | PCT_STATE_WAIT_MSG4 => PCT_RecvAccessMsg4 env
  | PCT_STATE_CONNECT_CLOUD => PCT_HandleEvent env

def PCT_WakeUp : Prog Device Unit := do
  if (← getController).u8MainState = PCT_STATE_INIT then
    let _ ← HF_SetTimer env PCT_TIMER_REGISTER .u8RegisterTimer
    PCT_SendNotifyMsg env ZC_CODE_WIFI_CONNECTED
    ZC_ClientWakeUp

def PCT_Sleep : Prog Device Unit := do
  MSG_Init
  setKeyRecv PCT_KEY_UNRECVED
  clearTimers
  clearHandle .u8RegisterTimer
  PCT_SendNotifyMsg env ZC_CODE_WIFI_DISCONNECTED
  ZC_ClientSleep

/-- What the controller does when the timer of a slot has run out. -/
def TIMER_TimeoutAction (u8TimerIndex : Fin ZC_TIMER_MAX_NUM) : Prog Device Unit := do
  match ((← get).g_struTimer u8TimerIndex).u8Type with
  | PCT_TIMER_RECONNECT =>
    clearHandle .u8ReconnectTimer
    setMainState PCT_STATE_ACCESS_NET
  | PCT_TIMER_REACCESS => PCT_DisConnectCloud env
  | PCT_TIMER_SENDMOUDLE => PCT_SendMoudleTimeout env
  | PCT_TIMER_SENDHEART => PCT_SendHeartMsg env
  | PCT_TIMER_REGISTER =>
    let _ ← HF_SetTimer env PCT_TIMER_REGISTER .u8RegisterTimer
    PCT_SendNotifyMsg env ZC_CODE_WIFI_CONNECTED

end

end ZCloud
