import ZCloud.CloudEvent
import ZCloud.SecEngine.SecEngine
import ZCloud.Timer.Timer

open Memory Program

namespace ZCloud

/-- Prints `Len` bytes of `pData` if tracing is on. -/
def ZC_TraceData (pData : List UInt8) (Len : Nat) : Prog Device Unit := do
  let d ← get
  if d.g_struZcConfigDb.struSwitchInfo.u32TraceSwitch = 0 then
    return
  let _ ← load pData 0 Len

theorem ZC_TraceData_eq {pData : List UInt8} {Len : Nat} {d d' : Device}
    (h : (ZC_TraceData pData Len).run d = .ok ((), d')) : d' = d := by
  rw [ZC_TraceData, run_get_bind] at h
  split at h
  · exact (run_pure_eq_ok.mp h).2
  · obtain ⟨_, _, hload, h⟩ := run_bind_eq_ok.mp h
    rw [(run_pure_eq_ok.mp h).2]
    exact (run_lift_eq_ok.mp hload).2

/-- Compares the checksum in the two bytes at `pu8Crc` with that of the first
`u16Len` bytes of `pu8Data`. -/
def PCT_CheckCrc (pu8Crc pu8Data : List UInt8) (u16Len : Nat) : Except Fault ZC_RET := do
  let u16Crc := crc16_ccitt (← load pu8Data 0 u16Len)
  let u16RecvCrc := (← loadU8 pu8Crc 0).toNat * 256 + (← loadU8 pu8Crc 1).toNat
  return if u16Crc = u16RecvCrc then ZC_RET_OK else ZC_RET_ERROR

/-- The fields of the message at the start of `view`. -/
def pstruMsgId (view : List UInt8) : Except Fault UInt8 := loadU8 view 1

def pstruMsgCode (view : List UInt8) : Except Fault UInt8 := loadU8 view 2

def pstruPayloadlen (view : List UInt8) : Except Fault Nat := return ZC_HTONS (← loadU16 view 4)

/-- `PCT_CheckCrc` of the message at the start of `view`. -/
def checkMsgCrc (view : List UInt8) : Except Fault ZC_RET := do
  PCT_CheckCrc (view.drop 6) (view.drop sizeof_ZC_MessageHead) (← pstruPayloadlen view)

section

variable (env : Env)

/-- Builds a message in the build buffer. -/
def buildMsg (u8MsgCode : ZC_MsgCode) (u8MsgId : UInt8) (pu8Payload : List UInt8) : Prog Device (List UInt8) := do
  let msg := EVENT_BuildMsg u8MsgCode u8MsgId pu8Payload
  storeBuild 0 msg
  return msg

/-- Notifies the module of something. -/
def PCT_SendNotifyMsg (u8NotifyCode : ZC_MsgCode) : Prog Device Unit := do
  let msg ← buildMsg u8NotifyCode 0 []
  HF_SendDataToMoudle env (.notify u8NotifyCode) msg msg.length

/-- The first send buffer that is idle. -/
def idleSendBuffer (d : Device) : Option (Fin MSG_BUFFER_SEND_MAX_NUM) :=
  (List.finRange MSG_BUFFER_SEND_MAX_NUM).find? fun i => (d.g_struSendBuffer i).u8Status = MSG_BUFFER_IDLE

/-- Puts the head of a frame before its `u16Len` bytes in a send buffer, and
pushes the buffer to the queue. -/
def pushFrame (i : Fin MSG_BUFFER_SEND_MAX_NUM) (u8SecType : UInt8) (u16Len : Nat) (m : Mem MSG_BUFFER_MAXLEN)
    (plain : List UInt8) : Prog Device Unit := do
  let u8Resver ← draw env.stack
  let m ← m.store 0 (ZC_SecHead.toBytes ⟨ZC_HTONS u16Len, u8SecType, u8Resver⟩)
  let u32Len := u16Len + sizeof_ZC_SecHead
  modify fun d => d.setSendBuffer i ⟨u32Len, MSG_BUFFER_FULL, m⟩
  let (pushed, queue) := MSG_PushMsg (← get).g_struSendQueue (.g_struSendBuffer i)
  modify fun d => { d with g_struSendQueue := queue }
  if pushed = ZC_RET_OK then
    logEvent (.queued plain (m.bytes.take u32Len))

/-- Encrypts the first `u16TotalMsg` bytes of a message and queues the frame. -/
def PCT_SendMsgToCloud (u8SecType : UInt8) (u16TotalMsg : Nat) (pu8PlainData : List UInt8) :
    Prog Device ZC_RET := do
  let plain := pu8PlainData.take u16TotalMsg
  logEvent (.toCloud plain)
  let d ← get
  let u16PaddingLen := SEC_PaddingCheck d.g_struZcConfigDb.struSwitchInfo.u32SecSwitch u8SecType u16TotalMsg
  if u16 (u16TotalMsg + sizeof_ZC_SecHead + u16PaddingLen) > MSG_BUFFER_MAXLEN then
    return ZC_RET_ERROR
  match idleSendBuffer d with
  | none => return ZC_RET_ERROR
  | some i =>
    let buffer := d.g_struSendBuffer i
    let (u32RetVal, u16Len, m) ← SEC_Encrypt env u8SecType pu8PlainData u16TotalMsg sizeof_ZC_SecHead
      buffer.u8MsgBuffer
    if u32RetVal = ZC_RET_ERROR then
      modify fun d => d.setSendBuffer i { buffer with u8MsgBuffer := m }
      return ZC_RET_ERROR
    pushFrame env i u8SecType u16Len m plain
    return ZC_RET_OK

/-- Sends a message that has been built. -/
def sendBuilt (u8SecType : UInt8) (msg : List UInt8) : Prog Device ZC_RET :=
  PCT_SendMsgToCloud env u8SecType msg.length msg

def PCT_SendHeartMsg : Prog Device Unit := do
  let _ ← sendBuilt env ZC_SEC_ALG_AES EVENT_BuildHeartMsg
  let _ ← HF_SetTimer env PCT_TIMER_SENDHEART .u8HeartTimer

def PCT_SendEmptyMsg (u8MsgId u8SecType : UInt8) : Prog Device Unit := do
  let _ ← sendBuilt env u8SecType (EVENT_BuildEmptyMsg u8MsgId)

def PCT_SendErrorMsg (u8MsgId : UInt8) (pu8Error : List UInt8) : Prog Device Unit := do
  let _ ← sendBuilt env ZC_SEC_ALG_AES (← buildMsg ZC_CODE_ERR u8MsgId pu8Error)

def PCT_SendAckToCloud (u8MsgId : UInt8) : Prog Device Unit := do
  let _ ← sendBuilt env ZC_SEC_ALG_AES (← buildMsg ZC_CODE_ACK u8MsgId [])

/-- Sends the oldest frame of the queue. -/
def MSG_SendDataToCloud : Prog Device Unit := do
  let d ← get
  let (pstruBuf, queue) := MSG_PopMsg d.g_struSendQueue
  modify fun d => { d with g_struSendQueue := queue }
  match pstruBuf with
  | none => return
  | some addr =>
    let pstruBuf := d.buffer addr
    let frame ← load pstruBuf.u8MsgBuffer.bytes 0 (u16 pstruBuf.u32Len)
    logEvent (.sent frame)
    HF_SendTcpData d.g_struProtocolController.struCloudConnection.u32Socket frame
    modify fun d => d.setBuffer addr pstruBuf.idle

end

end ZCloud
