import ZCloud.HfAdpter.Adapter
import ZCloud.ProtocolController.Send

open Memory Program

namespace ZCloud

def setMainState (u8MainState : PCT_STATE) : Prog Device Unit :=
  modifyController fun c => { c with u8MainState := u8MainState }

def setKeyRecv (u8keyRecv : PCT_KEY) : Prog Device Unit :=
  modifyController fun c => { c with u8keyRecv := u8keyRecv }

/-- Marks a handle as `PCT_TIMER_INVAILD`. -/
def clearHandle (h : TimerHandle) : Prog Device Unit := modifyController fun c => c.setHandle h none

/-- Leaves the buffer at an address empty. -/
def releaseBuffer (addr : BufferAddr) : Prog Device Unit := modify fun d => d.setBuffer addr (d.buffer addr).idle

/-- Writes the configuration to flash. -/
def writeConfig (env : Env) : Prog Device Unit := do
  HF_WriteDataToFlash env (← get).g_struZcConfigDb.toBytes

def ZC_StoreAccessInfo (env : Env) (u32ServerIp u16ServerPort : Nat) : Prog Device Unit := do
  modify fun d => { d with g_struZcConfigDb := { d.g_struZcConfigDb with
    struConnection := { d.g_struZcConfigDb.struConnection with u32MagicFlag := ZC_MAGIC_FLAG }
    struSwitchInfo := { d.g_struZcConfigDb.struSwitchInfo with
      u32ServerAddrConfig := 1
      u32ServerIp := u32ServerIp
      u16ServerPort := u16ServerPort } } }
  writeConfig env

/-- Takes the oldest message from `g_struRecvQueue`: the address of its buffer and
the memory from its start on. -/
def popMessage (env : Env) : Prog Device (Option (BufferAddr × List UInt8)) := do
  let d ← get
  let (pstruBuffer, queue) := MSG_PopMsg d.g_struRecvQueue
  modify fun d => { d with g_struRecvQueue := queue }
  match pstruBuffer with
  | none => return none
  | some addr =>
    let view := (d.buffer addr).u8MsgBuffer.bytes ++ (← draw env.beyond)
    logEvent (.taken view)
    return some (addr, view)

section

variable (env : Env)

def PCT_DisConnectCloud : Prog Device Unit := do
  setMainState PCT_STATE_DISCONNECT_CLOUD
  setKeyRecv PCT_KEY_UNRECVED
  MSG_Init
  PCT_SendNotifyMsg env ZC_CODE_CLOUD_DISCONNECTED

/-- `ZC_HandShakeMsg1`. -/
def struMsg1 (d : Device) : List UInt8 :=
  d.g_struProtocolController.RandMsg.bytes ++ d.g_struRegisterInfo.u8DeviciId.bytes

/-- `ZC_HandShakeMsg3`, with the bytes of `u8Pad`. -/
def struMsg3 (d : Device) (u8Pad : List UInt8) : List UInt8 :=
  d.g_struProtocolController.RandMsg.bytes ++ d.g_struRegisterInfo.u8EqVersion.bytes ++ [0, 0, 0, 0, 1] ++ u8Pad

def PCT_SendCloudAccessMsg1 : Prog Device Unit := do
  if (← getController).u8ReconnectTimer.isSome then
    TIMER_StopTimer (.handle .u8ReconnectTimer)
    clearHandle .u8ReconnectTimer
  let msg ← buildMsg ZC_CODE_HANDSHAKE_1 1 (struMsg1 (← get))
  let u32RetVal ← sendBuilt env ZC_SEC_ALG_RSA msg
  if u32RetVal = ZC_RET_ERROR then
    PCT_DisConnectCloud env
    return
  setMainState PCT_STATE_WAIT_ACCESSRSP
  let _ ← HF_SetTimer env PCT_TIMER_REACCESS .u8AccessTimer

def PCT_SendCloudAccessMsg3 : Prog Device Unit := do
  let u8Pad ← drawBytes env.stack 3
  let payload := struMsg3 (← get) u8Pad
  setKeyRecv PCT_KEY_RECVED
  let msg ← buildMsg ZC_CODE_HANDSHAKE_3 1 payload
  let _ ← sendBuilt env ZC_SEC_ALG_AES msg
  setMainState PCT_STATE_WAIT_MSG4
  let _ ← HF_SetTimer env PCT_TIMER_REACCESS .u8AccessTimer

def PCT_ConnectCloud : Prog Device Unit := do
  if (← getController).u8ReconnectTimer.isSome then
    return
  if (← HF_ConnectToCloud env) ≠ ZC_RET_OK then
    return
  setMainState PCT_STATE_WAIT_ACCESS
  setKeyRecv PCT_KEY_UNRECVED

/-- The timers and their handles as `PCT_ReconnectCloud` and `PCT_Sleep` leave them. -/
def clearTimers : Prog Device Unit := do
  stopAllTimers (List.finRange ZC_TIMER_MAX_NUM)
  TIMER_Init
  clearHandle .u8ReconnectTimer
  clearHandle .u8SendMoudleTimer
  clearHandle .u8HeartTimer
  setMainState PCT_STATE_INIT

theorem clearTimers_keeps {β : Type} {view : Device → β} (hview : Untimed view) : Keeps view clearTimers :=
  moves_bind (stopAllTimers_keeps hview _) fun _ => moves_bind (moves_modify fun d => hview d _ _ _ _ _ _) fun _ =>
    moves_bind (moves_modify fun d => hview d _ _ _ _ _ _) fun _ =>
      moves_bind (moves_modify fun d => hview d _ _ _ _ _ _) fun _ =>
        moves_bind (moves_modify fun d => hview d _ _ _ _ _ _) fun _ => moves_modify fun d => hview d _ _ _ _ _ _

def PCT_ReconnectCloud : Prog Device Unit := do
  if (← getController).u8ReconnectTimer.isSome then
    return
  MSG_Init
  setKeyRecv PCT_KEY_UNRECVED
  clearTimers
  let _ ← HF_SetTimer env PCT_TIMER_RECONNECT .u8ReconnectTimer
  modifyController fun c =>
    { c with struCloudConnection := { c.struCloudConnection with u32Socket := PCT_INVAILD_SOCKET } }
  setKeyRecv PCT_KEY_UNRECVED
  setMainState PCT_STATE_INIT

/-- The nonce at the start of a payload. -/
def payloadRand (view : List UInt8) : Except Fault (List UInt8) :=
  load view sizeof_ZC_MessageHead ZC_HS_MSG_LEN

/-- The handling of the message 2 at the start of `view`. -/
def acceptMsg2 (view : List UInt8) : Prog Device Unit := do
  TIMER_StopTimer (.handle .u8AccessTimer)
  if (← payloadRand view) = (← getController).RandMsg.bytes then
    if (← pstruMsgCode view) = ZC_CODE_HANDSHAKE_2.code then
      let SessionKey ← loadMem view (sizeof_ZC_MessageHead + ZC_HS_MSG_LEN) ZC_HS_SESSION_KEY_LEN
      modifyController fun c => { c with u8SessionKey := SessionKey, IvRecv := SessionKey, IvSend := SessionKey }
      PCT_SendCloudAccessMsg3 env
    else
      let u32Addr := ZC_HTONL (← loadU32 view (sizeof_ZC_MessageHead + ZC_HS_MSG_LEN))
      let u16Port := ZC_HTONS (← loadU16 view (sizeof_ZC_MessageHead + ZC_HS_MSG_LEN + 4))
      ZC_StoreAccessInfo env u32Addr u16Port
      PCT_DisConnectCloud env
  else
    PCT_DisConnectCloud env

def handleMsg2 (view : List UInt8) : Prog Device Unit := do
  let MsgCode ← pstruMsgCode view
  if MsgCode = ZC_CODE_HANDSHAKE_2.code ∨ MsgCode = ZC_CODE_ACCESS_POINT_RSP.code then
    if (← checkMsgCrc view) = ZC_RET_ERROR then
      PCT_DisConnectCloud env
    else
      acceptMsg2 env view

def PCT_RecvAccessMsg2 : Prog Device Unit := do
  match ← popMessage env with
  | none => return
  | some (addr, view) =>
    handleMsg2 env view
    releaseBuffer addr

/-- The handling of the message 4 at the start of `view`. -/
def acceptMsg4 (view : List UInt8) : Prog Device Unit := do
  TIMER_StopTimer (.handle .u8AccessTimer)
  if (← payloadRand view) = (← getController).RandMsg.bytes then
    setMainState PCT_STATE_CONNECT_CLOUD
    PCT_SendNotifyMsg env ZC_CODE_CLOUD_CONNECTED
  else
    PCT_DisConnectCloud env

def handleMsg4 (view : List UInt8) : Prog Device Unit := do
  if (← pstruMsgCode view) = ZC_CODE_HANDSHAKE_4.code then
    if (← checkMsgCrc view) = ZC_RET_ERROR then
      PCT_DisConnectCloud env
    else
      acceptMsg4 env view

/-- Stops the heart-beat timer, if it runs, and starts it. -/
def restartHeart : Prog Device Unit := do
  stopHandle .u8HeartTimer
  let _ ← HF_SetTimer env PCT_TIMER_SENDHEART .u8HeartTimer

def PCT_RecvAccessMsg4 : Prog Device Unit := do
  match ← popMessage env with
  | none => return
  | some (addr, view) =>
    handleMsg4 env view
    releaseBuffer addr
    restartHeart env

end

end ZCloud
