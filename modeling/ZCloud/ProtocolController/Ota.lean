import ZCloud.ProtocolController.Access

open Memory Program

namespace ZCloud

def ZC_OTA_MAX_CHUNK_LEN : Nat := 384
def sizeof_ZC_OtaFileChunkReq : Nat := 4

/-- What is left to do by `pfunUpdate`: to take the bytes of a file that belong at
an offset of it. -/
abbrev PfunUpdate := List UInt8 → Nat → Prog Device ZC_RET

/-- How a handler answers: `ok` and `err` tell the sender of a message. -/
structure Answer where
  ok : Prog Device Unit
  err : Prog Device Unit

/-- The answers to a message of the cloud. -/
def answerCloud (env : Env) (u8MsgId : UInt8) : Answer where
  ok := PCT_SendAckToCloud env u8MsgId
  err := PCT_SendErrorMsg env u8MsgId []

/-- The answers to a message of the module. -/
def answerMoudle (env : Env) : Answer where
  ok := PCT_SendNotifyMsg env ZC_CODE_ACK
  err := PCT_SendNotifyMsg env ZC_CODE_ERR

/-- Notes the file that the `ZC_OtaFileBeginReq` at the start of `pstruOta` announces. -/
def beginFile (pstruOta : List UInt8) : Prog Device Unit := do
  let u32FileTotalLen ← loadU32 pstruOta 4
  let crc₀ ← loadU8 pstruOta 2
  let crc₁ ← loadU8 pstruOta 3
  modifyController fun c => { c with struOtaInfo := ⟨ZC_HTONL u32FileTotalLen, 0, (crc₀, crc₁)⟩ }
  logEvent .fileBegin

/-- The offset in the `ZC_OtaFileChunkReq` at the start of `pstruOta`. -/
def chunkOffset (pstruOta : List UInt8) : Except Fault Nat := return ZC_HTONL (← loadU32 pstruOta 0)

/-- Whether a chunk of `u32FileLen` bytes at offset `u32RecvOffset` may be taken. -/
def checkPara (ota : PTC_OtaInfo) (u32RecvOffset u32FileLen : Nat) : Bool :=
  u32RecvOffset = ota.u32RecvOffset ∧ u32 (u32RecvOffset + u32FileLen) ≤ ota.u32TotalLen ∧
    u32FileLen ≤ ZC_OTA_MAX_CHUNK_LEN

/-- Gives the bytes of a chunk to `pfunUpdate`, and goes on to the next if it has
taken them. -/
def takeChunk (pfunUpdate : PfunUpdate) (answer : Answer) (pu8Data : List UInt8) (u32RecvOffset u32FileLen : Nat) :
    Prog Device Unit := do
  let data ← load pu8Data 0 u32FileLen
  let u32RetVal ← pfunUpdate data u32RecvOffset
  logEvent (.update data u32RecvOffset u32RetVal)
  if u32RetVal = ZC_RET_ERROR then
    answer.err
    return
  modifyController fun c => { c with struOtaInfo :=
    { c.struOtaInfo with u32RecvOffset := u32 (c.struOtaInfo.u32RecvOffset + u32FileLen) } }
  answer.ok

section

variable (env : Env)

def PCT_HandleOtaBeginMsg (view : List UInt8) : Prog Device Unit := do
  PCT_SendAckToCloud env (← pstruMsgId view)
  PCT_SendNotifyMsg env ZC_CODE_ZOTA_BEGIN

def PCT_ModuleOtaFileBeginMsg (pu8Msg : List UInt8) : Prog Device Unit := do
  beginFile pu8Msg
  PCT_SendNotifyMsg env ZC_CODE_ACK

/-- The handler of a chunk of the module, which checks the message once more.
`view` is the memory from the start of the message on, `pu8Msg` from the start of
its payload on. -/
def PCT_ModuleOtaFileChunkMsg (pfunUpdate : PfunUpdate) (view pu8Msg : List UInt8) : Prog Device Unit := do
  let Payloadlen ← pstruPayloadlen view
  let u32FileLen := u32Sub Payloadlen sizeof_ZC_OtaFileChunkReq
  let u32RecvOffset ← chunkOffset pu8Msg
  if !checkPara (← getController).struOtaInfo u32RecvOffset u32FileLen then
    PCT_SendNotifyMsg env ZC_CODE_ERR
    return
  if (← PCT_CheckCrc (view.drop 6) pu8Msg Payloadlen) = ZC_RET_ERROR then
    PCT_SendNotifyMsg env ZC_CODE_ERR
    return
  takeChunk pfunUpdate (answerMoudle env) (pu8Msg.drop sizeof_ZC_OtaFileChunkReq) u32RecvOffset u32FileLen

def PCT_ModuleOtaFileEndMsg : Prog Device Unit := do
  let u32RetVal ← HF_FirmwareUpdateFinish (← getController).struOtaInfo.u32TotalLen
  if u32RetVal = ZC_RET_ERROR then
    PCT_SendNotifyMsg env ZC_CODE_ERR
  else
    PCT_SendNotifyMsg env ZC_CODE_ACK

def PCT_HandleOtaFileBeginMsg (view : List UInt8) : Prog Device Unit := do
  beginFile (view.drop sizeof_ZC_MessageHead)
  PCT_SendAckToCloud env (← pstruMsgId view)

def PCT_HandleOtaFileChunkMsg (pfunUpdate : PfunUpdate) (view : List UInt8) : Prog Device Unit := do
  let pstruOta := view.drop sizeof_ZC_MessageHead
  let u32FileLen := u32Sub (← pstruPayloadlen view) sizeof_ZC_OtaFileChunkReq
  let u32RecvOffset ← chunkOffset pstruOta
  if !checkPara (← getController).struOtaInfo u32RecvOffset u32FileLen then
    PCT_SendErrorMsg env (← pstruMsgId view) []
    return
  takeChunk pfunUpdate (answerCloud env (← pstruMsgId view)) (pstruOta.drop sizeof_ZC_OtaFileChunkReq)
    u32RecvOffset u32FileLen

def PCT_HandleOtaFileEndMsg (view : List UInt8) : Prog Device Unit := do
  PCT_SendAckToCloud env (← pstruMsgId view)

def PCT_HandleOtaEndMsg (view : List UInt8) : Prog Device Unit := do
  let u32RetVal ← HF_FirmwareUpdateFinish (← getController).struOtaInfo.u32TotalLen
  if u32RetVal = ZC_RET_ERROR then
    PCT_SendErrorMsg env (← pstruMsgId view) []
  else
    PCT_SendAckToCloud env (← pstruMsgId view)
    PCT_SendNotifyMsg env ZC_CODE_ZOTA_END

end

end ZCloud
