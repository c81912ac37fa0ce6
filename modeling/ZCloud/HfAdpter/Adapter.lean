import ZCloud.Device

open Memory Program

namespace ZCloud

section

variable (env : Env)

/-- Gives the bytes at `pu8FileData` to the firmware update, in a new session if
they are the first of a file. -/
def HF_FirmwareUpdate (pu8FileData : List UInt8) (u32Offset : Nat) : Prog Device ZC_RET := do
  if u32Offset = 0 then
    let u32SessionId ← callFwup (tls_fwup_enter env.toFwupEnv TLS_FWUP_IMAGE_SRC_WEB (← draw env.session))
    modify fun d => { d with g_u32session_id := u32SessionId }
    if u32SessionId = 0 then
      return ZC_RET_ERROR
  let retval ← callFwup (tls_fwup_request_sync env.toFwupEnv (← get).g_u32session_id pu8FileData)
  return if retval.code < 0 then ZC_RET_ERROR else ZC_RET_OK

/-- Ends the session. Neither the length of the file nor the outcome is looked at. -/
def HF_FirmwareUpdateFinish (_u32TotalLen : Nat) : Prog Device ZC_RET := do
  let d ← get
  logEvent (.finish d.g_struProtocolController.struOtaInfo d.fwup.current_state)
  let _ ← callFwup (tls_fwup_exit d.g_u32session_id)
  return ZC_RET_OK

/-- A random nonce. -/
def ZC_Rand : Prog Device (Mem ZC_HS_MSG_LEN) := do
  loadMem (← randLoop env (ZC_HS_MSG_LEN / 4)) 0 ZC_HS_MSG_LEN

/-- Whether the address of the cloud is known: it is configured, or it is looked up. -/
def resolveCloud : Prog Device Bool := do
  if (← get).g_struZcConfigDb.struSwitchInfo.u32ServerAddrConfig = 1 then
    return true
  draw env.gethostbyname

/-- A connection to the cloud that has failed. -/
def connectFailed (d : Device) : Device :=
  let connection := d.g_struProtocolController.struCloudConnection
  let d := d.withController { d.g_struProtocolController with
    struCloudConnection := { connection with u32ConnectionTimes := u32 (connection.u32ConnectionTimes + 1) } }
  if connection.u32ConnectionTimes > 20 then
    { d with g_struZcConfigDb := { d.g_struZcConfigDb with
      struSwitchInfo := { d.g_struZcConfigDb.struSwitchInfo with u32ServerAddrConfig := 0 } } }
  else d

def HF_ConnectToCloud : Prog Device ZC_RET := do
  if !(← resolveCloud env) then
    return ZC_RET_ERROR
  match ← draw env.socket with
  | none => return ZC_RET_ERROR
  | some fd =>
    if !(← draw env.connect) then
      modify connectFailed
      return ZC_RET_ERROR
    modifyController fun c => { c with struCloudConnection := ⟨fd, 0⟩ }
    let RandMsg ← ZC_Rand env
    modifyController fun c => { c with RandMsg := RandMsg }
    logEvent (.connected RandMsg.bytes)
    return ZC_RET_OK

def HF_ListenClient : Prog Device ZC_RET := do
  match ← draw env.listen with
  | none => return ZC_RET_ERROR
  | some fd =>
    modifyController fun c => { c with struClientConnection := { c.struClientConnection with u32Socket := fd } }
    return ZC_RET_OK

end

end ZCloud
