import ZCloud.Configuration
import ZCloud.Fwup.Scheduler
import ZCloud.MessageQueue.Queue
import ZCloud.MessageQueue.RecvData

open Memory Program

namespace ZCloud

/-- The main states of the protocol controller. -/
inductive PCT_STATE where
  | PCT_STATE_SLEEP
  | PCT_STATE_INIT
  | PCT_STATE_ACCESS_NET
  | PCT_STATE_WAIT_ACCESS
  | PCT_STATE_WAIT_ACCESSRSP
  | PCT_STATE_WAIT_MSG4
  | PCT_STATE_CONNECT_CLOUD
  | PCT_STATE_DISCONNECT_CLOUD
deriving DecidableEq, Repr

export PCT_STATE (PCT_STATE_SLEEP PCT_STATE_INIT PCT_STATE_ACCESS_NET PCT_STATE_WAIT_ACCESS
  PCT_STATE_WAIT_ACCESSRSP PCT_STATE_WAIT_MSG4 PCT_STATE_CONNECT_CLOUD PCT_STATE_DISCONNECT_CLOUD)

/-- The number of a state, by which states are compared. -/
def PCT_STATE.code : PCT_STATE → Nat
  | PCT_STATE_SLEEP => 0
  | PCT_STATE_INIT => 1
  | PCT_STATE_ACCESS_NET => 2
  | PCT_STATE_WAIT_ACCESS => 3
  | PCT_STATE_WAIT_ACCESSRSP => 4
  | PCT_STATE_WAIT_MSG4 => 5
  | PCT_STATE_CONNECT_CLOUD => 6
  | PCT_STATE_DISCONNECT_CLOUD => 7

inductive PCT_KEY where
  | PCT_KEY_UNRECVED
  | PCT_KEY_RECVED
deriving DecidableEq, Repr

export PCT_KEY (PCT_KEY_UNRECVED PCT_KEY_RECVED)

/-- The types of timers. -/
inductive PCT_TIMER where
  | PCT_TIMER_RECONNECT
  | PCT_TIMER_REACCESS
  | PCT_TIMER_SENDMOUDLE
  | PCT_TIMER_SENDHEART
  | PCT_TIMER_REGISTER
deriving DecidableEq, Repr

export PCT_TIMER (PCT_TIMER_RECONNECT PCT_TIMER_REACCESS PCT_TIMER_SENDMOUDLE
  PCT_TIMER_SENDHEART PCT_TIMER_REGISTER)

def PCT_INVAILD_SOCKET : Nat := 0xFFFFFFFF
def PCT_SENDMOUDLE_NUM : Nat := 4
def MSG_BULID_BUFFER_MAXLEN : Nat := 600
def MSG_BUFFER_SEND_MAX_NUM : Nat := MSG_QUEUE_MAXLEN
def ZC_TIMER_MAX_NUM : Nat := 10
def ZC_MAX_CLIENT_NUM : Nat := 4

/-- The message buffers that a queue can point to. -/
inductive BufferAddr where
  | g_struRecvBuffer
  | g_struRetxBuffer
  | g_struClientBuffer
  | g_struSendBuffer (i : Fin MSG_BUFFER_SEND_MAX_NUM)
deriving DecidableEq, Repr

structure PTC_Connection where
  u32Socket : Nat
  u32ConnectionTimes : Nat
deriving DecidableEq, Repr

structure PTC_OtaInfo where
  u32TotalLen : Nat
  u32RecvOffset : Nat
  u8Crc : UInt8 × UInt8
deriving DecidableEq, Repr

/-- The protocol controller. A timer handle is the number of a slot of
`g_struTimer`, or `none` for `PCT_TIMER_INVAILD`. -/
structure PTC_ProtocolCon where
  u8MainState : PCT_STATE
  u8keyRecv : PCT_KEY
  u8ReconnectTimer : Option (Fin ZC_TIMER_MAX_NUM)
  u8AccessTimer : Option (Fin ZC_TIMER_MAX_NUM)
  u8HeartTimer : Option (Fin ZC_TIMER_MAX_NUM)
  u8SendMoudleTimer : Option (Fin ZC_TIMER_MAX_NUM)
  u8RegisterTimer : Option (Fin ZC_TIMER_MAX_NUM)
  u8ReSendMoudleNum : Nat
  pu8SendMoudleBuffer : Option BufferAddr
  struCloudConnection : PTC_Connection
  struClientConnection : PTC_Connection
  u8SessionKey : Mem ZC_HS_SESSION_KEY_LEN
  IvSend : Mem ZC_HS_SESSION_KEY_LEN
  IvRecv : Mem ZC_HS_SESSION_KEY_LEN
  RandMsg : Mem ZC_HS_MSG_LEN
  struOtaInfo : PTC_OtaInfo

inductive ZC_TIMER_STATUS where
  | ZC_TIMER_STATUS_IDLE
  | ZC_TIMER_STATUS_USED
deriving DecidableEq, Repr

export ZC_TIMER_STATUS (ZC_TIMER_STATUS_IDLE ZC_TIMER_STATUS_USED)

structure ZC_Timer where
  u8Status : ZC_TIMER_STATUS
  u8Type : PCT_TIMER
deriving DecidableEq, Repr

structure HF_TimerInfo where
  u32FirstFlag : Nat
  struHandle : Nat
deriving DecidableEq, Repr

/-- The five handles of the controller. -/
inductive TimerHandle where
  | u8ReconnectTimer
  | u8AccessTimer
  | u8HeartTimer
  | u8SendMoudleTimer
  | u8RegisterTimer
deriving DecidableEq, Repr

def PTC_ProtocolCon.handle (c : PTC_ProtocolCon) : TimerHandle → Option (Fin ZC_TIMER_MAX_NUM)
  | .u8ReconnectTimer => c.u8ReconnectTimer
  | .u8AccessTimer => c.u8AccessTimer
  | .u8HeartTimer => c.u8HeartTimer
  | .u8SendMoudleTimer => c.u8SendMoudleTimer
  | .u8RegisterTimer => c.u8RegisterTimer

def PTC_ProtocolCon.setHandle (c : PTC_ProtocolCon) (h : TimerHandle)
    (i : Option (Fin ZC_TIMER_MAX_NUM)) : PTC_ProtocolCon :=
  match h with
  | .u8ReconnectTimer => { c with u8ReconnectTimer := i }
  | .u8AccessTimer => { c with u8AccessTimer := i }
  | .u8HeartTimer => { c with u8HeartTimer := i }
  | .u8SendMoudleTimer => { c with u8SendMoudleTimer := i }
  | .u8RegisterTimer => { c with u8RegisterTimer := i }

/-- How a caller of `TIMER_StopTimer` names the slot to stop: by one of the
controller's handles, or by its number. -/
inductive TimerIndex where
  | handle (h : TimerHandle)
  | slot (i : Fin ZC_TIMER_MAX_NUM)
deriving DecidableEq, Repr

inductive ZC_CLIENT_STATUS where
  | ZC_CLIENT_STATUS_INIT
  | ZC_CLIENT_STATUS_WAKEUP
  | ZC_CLIENT_STATUS_IDLE
  | ZC_CLIENT_STATUS_BUSY
deriving DecidableEq, Repr

export ZC_CLIENT_STATUS (ZC_CLIENT_STATUS_INIT ZC_CLIENT_STATUS_WAKEUP ZC_CLIENT_STATUS_IDLE
  ZC_CLIENT_STATUS_BUSY)

/-- The flag of a client slot: `ZC_CLIENT_VAILD_FLAG` when the slot is free. -/
inductive ZC_CLIENT_FLAG where
  | ZC_CLIENT_INVAILD_FLAG
  | ZC_CLIENT_VAILD_FLAG
deriving DecidableEq, Repr

export ZC_CLIENT_FLAG (ZC_CLIENT_INVAILD_FLAG ZC_CLIENT_VAILD_FLAG)

/-- The clients. `u32ClientBusyId` is a `u8` in spite of its name. -/
structure ZC_ClientInfo where
  u8ClientStates : ZC_CLIENT_STATUS
  u32ClientBusyId : UInt8
  u32ClientVaildFlag : Fin ZC_MAX_CLIENT_NUM → ZC_CLIENT_FLAG
  u32ClientFd : Fin ZC_MAX_CLIENT_NUM → Nat

/-- What makes a message to the module: a notification of the controller, a
request of the cloud, or a request of a client. -/
inductive MoudleMsg where
  | notify (u8NotifyCode : ZC_MsgCode)
  | request
  | client (ClientId : Nat)
deriving DecidableEq, Repr

/-- What the device does that its globals do not remember. -/
inductive Event where
  /-- `pfunConnectToCloud` has succeeded, and the nonce of the connection is `RandMsg`. -/
  | connected (RandMsg : List UInt8)
  /-- A plain text of `u16PlainLen` bytes is copied back over a frame. -/
  | stored (u16PlainLen : Nat)
  /-- A message is pushed to `g_struRecvQueue`. -/
  | pushed (body : List UInt8)
  /-- The controller has taken a message from `g_struRecvQueue`; `view` is the
  memory from the start of the message on. -/
  | taken (view : List UInt8)
  /-- A message is given to `PCT_SendMsgToCloud`. -/
  | toCloud (plain : List UInt8)
  /-- A message is pushed to `g_struSendQueue` as a frame. -/
  | queued (plain frame : List UInt8)
  /-- A frame of `g_struSendQueue` is sent. -/
  | sent (frame : List UInt8)
  /-- A message of the module is pushed to `g_struSendQueue`. -/
  | answered (plain : List UInt8)
  /-- A message is given to the module. -/
  | toMoudle (source : MoudleMsg) (data : List UInt8)
  /-- A file is announced. -/
  | fileBegin
  /-- Bytes of a file are given to `pfunUpdate`, with the outcome. -/
  | update (data : List UInt8) (u32Offset : Nat) (u32RetVal : ZC_RET)
  /-- `pfunUpdateFinish` is called, with what the controller and the firmware
  update know of the file. -/
  | finish (struOtaInfo : PTC_OtaInfo) (current_state : TLS_FWUP_STATE)
  /-- Bytes are sent on a connection. -/
  | tcpSend (u32Fd : Nat) (data : List UInt8)
  /-- `TIMER_StopTimer` is called for the slot `i`, which holds `timer`. -/
  | stopTimer (arg : TimerIndex) (i : Fin ZC_TIMER_MAX_NUM) (timer : ZC_Timer)
deriving DecidableEq

/-- The globals of the device. `App_R_Q` is what has been put into the queue of the
module, and `moudleMsgs` counts the messages that there has been memory for;
`liveTimers` are the handles of the timers that the operating system holds, `trace` is
what the device has done, the last first, and `clock` counts the answers it has got from
the outside. -/
structure Device where
  g_struProtocolController : PTC_ProtocolCon
  g_struRecvBuffer : MSG_Buffer
  g_struRetxBuffer : MSG_Buffer
  g_struClientBuffer : MSG_Buffer
  g_struSendBuffer : Fin MSG_BUFFER_SEND_MAX_NUM → MSG_Buffer
  g_struRecvQueue : MSG_Queue BufferAddr
  g_struSendQueue : MSG_Queue BufferAddr
  g_u8MsgBuildBuffer : Mem MSG_BULID_BUFFER_MAXLEN
  g_u8ClientSendLen : UInt8
  g_struTimer : Fin ZC_TIMER_MAX_NUM → ZC_Timer
  g_struHfTimer : Fin ZC_TIMER_MAX_NUM → HF_TimerInfo
  liveTimers : List Nat
  g_struClientInfo : ZC_ClientInfo
  g_struZcConfigDb : ZC_ConfigDB
  g_struRegisterInfo : ZC_RegisterInfo
  g_u32session_id : Nat
  fwup : Fwup
  App_R_Q : List (List UInt8)
  moudleMsgs : Nat
  trace : List Event
  clock : Nat

/-- The block functions of the crypto library, each given the key and the block.
A failing RSA operation gives nothing. -/
structure Cipher where
  AES_encrypt : List UInt8 → List UInt8 → List UInt8
  AES_decrypt : List UInt8 → List UInt8 → List UInt8
  rsa_public : List UInt8 → List UInt8 → Option (List UInt8)
  rsa_private : List UInt8 → List UInt8 → Option (List UInt8)
  length_encrypt : ∀ key block, (AES_encrypt key block).length = 16
  length_decrypt : ∀ key block, (AES_decrypt key block).length = 16
  length_public : ∀ key block out, rsa_public key block = some out → out.length = 32
  length_private : ∀ key block out, rsa_private key block = some out → out.length = 32

/-- What the outside does: the `n`-th answer of the operating system (a new
timer never has the handle of a live one, nor `NULL`), of the network and of `rand`
(`session` and `padding` are the next numbers drawn that are not zero), what
uninitialised memory holds and what follows a buffer in memory, whether there is memory
for the `n`-th message to the module and room for it in the queue, and the identity the
device is built with. -/
structure Env extends FwupEnv, Cipher where
  newTimer : (live : List Nat) → Nat → Option { h : Nat // h ≠ 0 ∧ h ∉ live }
  rand : Nat → Nat
  session : Nat → { n : Nat // n ≠ 0 }
  padding : Nat → { b : UInt8 // b ≠ 0 }
  gethostbyname : Nat → Bool
  socket : Nat → Option Nat
  connect : Nat → Bool
  listen : Nat → Option Nat
  stack : Nat → UInt8
  beyond : Nat → List UInt8
  moudleAlloc : Nat → Bool
  moudleSend : Nat → Bool
  g_u8ModuleKey : Mem ZC_MODULE_KEY_LEN
  g_u8DeviceId : Mem ZC_HS_DEVICE_ID_LEN
  g_u64Domain : Mem ZC_DOMAIN_LEN
  g_u8EqVersion : Mem ZC_EQVERSION_LEN

namespace Device

/-- The buffer at an address. -/
def buffer (d : Device) : BufferAddr → MSG_Buffer
  | .g_struRecvBuffer => d.g_struRecvBuffer
  | .g_struRetxBuffer => d.g_struRetxBuffer
  | .g_struClientBuffer => d.g_struClientBuffer
  | .g_struSendBuffer i => d.g_struSendBuffer i

def setSendBuffer (d : Device) (i : Fin MSG_BUFFER_SEND_MAX_NUM) (b : MSG_Buffer) : Device :=
  { d with g_struSendBuffer := fun j => if j = i then b else d.g_struSendBuffer j }

def setBuffer (d : Device) (addr : BufferAddr) (b : MSG_Buffer) : Device :=
  match addr with
  | .g_struRecvBuffer => { d with g_struRecvBuffer := b }
  | .g_struRetxBuffer => { d with g_struRetxBuffer := b }
  | .g_struClientBuffer => { d with g_struClientBuffer := b }
  | .g_struSendBuffer i => d.setSendBuffer i b

def withController (d : Device) (c : PTC_ProtocolCon) : Device :=
  { d with g_struProtocolController := c }

@[simp]
theorem controller_withController (d : Device) (c : PTC_ProtocolCon) :
    (d.withController c).g_struProtocolController = c := rfl

@[simp]
theorem trace_withController (d : Device) (c : PTC_ProtocolCon) : (d.withController c).trace = d.trace := rfl

def withFwup (d : Device) (fwup : Fwup) : Device := { d with fwup := fwup }

def withBuild (d : Device) (m : Mem MSG_BULID_BUFFER_MAXLEN) : Device := { d with g_u8MsgBuildBuffer := m }

def log (d : Device) (e : Event) : Device := { d with trace := e :: d.trace }

def tick (d : Device) : Device := { d with clock := d.clock + 1 }

end Device

/-- An empty buffer, as it is left once its message has been dealt with. -/
def MSG_Buffer.idle (b : MSG_Buffer) : MSG_Buffer :=
  { b with u32Len := 0, u8Status := MSG_BUFFER_IDLE }

def logEvent (e : Event) : Prog Device Unit := modify fun d => d.log e

def modifyController (f : PTC_ProtocolCon → PTC_ProtocolCon) : Prog Device Unit :=
  modify fun d => d.withController (f d.g_struProtocolController)

/-- The controller's fields. -/
def getController : Prog Device PTC_ProtocolCon := return (← get).g_struProtocolController

/-- The next answer from the outside. -/
def draw {α : Type} (answer : Nat → α) : Prog Device α := do
  let d ← get
  set d.tick
  return answer d.clock

theorem run_draw_eq_ok {α : Type} {answer : Nat → α} {d d' : Device} {a : α} :
    (draw answer).run d = .ok (a, d') ↔ a = answer d.clock ∧ d' = d.tick := by
  rw [draw, run_get_bind]
  constructor
  · intro h
    obtain ⟨_, d₁, hset, h⟩ := run_bind_eq_ok.mp h
    obtain ⟨ha, rfl⟩ := run_pure_eq_ok.mp h
    exact ⟨ha, run_set_eq_ok.mp hset⟩
  · rintro ⟨rfl, rfl⟩
    rfl

/-- `len` bytes of uninitialised memory. -/
def drawBytes (stack : Nat → UInt8) : Nat → Prog Device (List UInt8)
  | 0 => return []
  | len + 1 => return (← draw stack) :: (← drawBytes stack len)

/-- Writes to the buffer in which messages are built. -/
def storeBuild (off : Nat) (data : List UInt8) : Prog Device Unit := do
  let d ← get
  let m ← d.g_u8MsgBuildBuffer.store off data
  set { d with g_u8MsgBuildBuffer := m }

theorem run_storeBuild {off : Nat} {data : List UInt8} {d : Device} {m : Mem MSG_BULID_BUFFER_MAXLEN}
    (h : d.g_u8MsgBuildBuffer.store off data = .ok m) : (storeBuild off data).run d = .ok ((), d.withBuild m) :=
  run_bind_eq_ok.mpr ⟨d, d, rfl, run_bind_eq_ok.mpr ⟨m, d, run_lift_eq_ok.mpr ⟨h, rfl⟩, rfl⟩⟩

theorem run_storeBuild_eq_ok {off : Nat} {data : List UInt8} {d d' : Device} {u : Unit}
    (h : (storeBuild off data).run d = .ok (u, d')) :
    ∃ m, d.g_u8MsgBuildBuffer.store off data = .ok m ∧ d' = d.withBuild m := by
  rw [storeBuild, run_get_bind] at h
  obtain ⟨m, _, hstore, h⟩ := run_bind_eq_ok.mp h
  obtain ⟨hm, rfl⟩ := run_lift_eq_ok.mp hstore
  exact ⟨m, hm, run_set_eq_ok.mp h⟩

def MSG_Init : Prog Device Unit :=
  modify fun d =>
    { d with
      g_struRecvQueue := MSG_InitQueue
      g_struSendQueue := MSG_InitQueue
      g_struRecvBuffer := d.g_struRecvBuffer.idle
      g_struSendBuffer := fun i => (d.g_struSendBuffer i).idle
      g_struClientBuffer := d.g_struClientBuffer.idle }

section

variable (env : Env)

/-- Calls of the flash driver and of the firmware update. These run with locks
and in a task of their own, so a caller waits for good for what never ends. -/
def callFwup {α : Type} (x : Prog Fwup α) : Prog Device α := do
  let d ← get
  match x.run d.fwup with
  | .ok (a, fwup) =>
    set (d.withFwup fwup)
    return a
  | .error _ => throw .wait

theorem run_callFwup {α : Type} {x : Prog Fwup α} {d : Device} {a : α} {fwup : Fwup}
    (h : x.run d.fwup = .ok (a, fwup)) : (callFwup x).run d = .ok (a, d.withFwup fwup) := by
  rw [callFwup, run_get_bind, h]
  rfl

theorem run_callFwup_eq_ok {α : Type} {x : Prog Fwup α} {d d' : Device} {a : α} (h : (callFwup x).run d = .ok (a, d')) :
    ∃ fwup, x.run d.fwup = .ok (a, fwup) ∧ d' = d.withFwup fwup := by
  rw [callFwup, run_get_bind] at h
  split at h
  · obtain ⟨_, d₁, hset, h⟩ := run_bind_eq_ok.mp h
    obtain ⟨rfl, rfl⟩ := run_pure_eq_ok.mp h
    exact ⟨_, ‹_›, run_set_eq_ok.mp hset⟩
  · exact (run_throw_eq_ok.mp h).elim

theorem callFwup_keeps {α β : Type} {view : Device → β} (hview : ∀ d fwup, view (Device.withFwup d fwup) = view d)
    (x : Prog Fwup α) : Keeps view (callFwup x) := by
  intro d a d' h
  obtain ⟨fwup, -, rfl⟩ := run_callFwup_eq_ok h
  exact hview d fwup

def USER_FLASH_PARAM1_ADDR : Nat := 0xF8000
def USER_FLASH_PARAM2_ADDR : Nat := 0xF9000

def HF_WriteDataToFlash (pu8Data : List UInt8) : Prog Device Unit := do
  let _ ← callFwup (callFls (tls_fls_write env.toFlsEnv USER_FLASH_PARAM1_ADDR pu8Data))

/-- Hands the first `u16DataLen` bytes of `pu8Data` to the module. They are copied whether
or not there is memory for them, and a full queue is only reported. -/
def HF_SendDataToMoudle (source : MoudleMsg) (pu8Data : List UInt8) (u16DataLen : Nat) : Prog Device Unit := do
  let n := (← get).moudleMsgs
  if !env.moudleAlloc n then
    throw .null
  let msg ← load pu8Data 0 u16DataLen
  modify fun d =>
    { d with
      moudleMsgs := n + 1
      App_R_Q := if env.moudleSend n then d.App_R_Q ++ [msg] else d.App_R_Q }
  logEvent (.toMoudle source msg)

/-- The device with the message `msg` handed to the module. -/
def Device.handed (d : Device) (source : MoudleMsg) (msg : List UInt8) : Device :=
  { d with
    moudleMsgs := d.moudleMsgs + 1
    App_R_Q := if env.moudleSend d.moudleMsgs then d.App_R_Q ++ [msg] else d.App_R_Q
    trace := .toMoudle source msg :: d.trace }

theorem run_HF_SendDataToMoudle {source : MoudleMsg} {pu8Data msg : List UInt8} {u16DataLen : Nat} {d : Device}
    (halloc : env.moudleAlloc d.moudleMsgs = true) (hload : load pu8Data 0 u16DataLen = .ok msg) :
    (HF_SendDataToMoudle env source pu8Data u16DataLen).run d = .ok ((), d.handed env source msg) := by
  simp only [HF_SendDataToMoudle, logEvent, run_bind, run_get, ok_bind, halloc, Bool.not_true, Bool.false_eq_true, ↓reduceIte,
    hload, run_lift_ok, run_modify]
  rfl

theorem run_HF_SendDataToMoudle_null {source : MoudleMsg} {pu8Data : List UInt8} {u16DataLen : Nat} {d : Device}
    (halloc : env.moudleAlloc d.moudleMsgs = false) :
    (HF_SendDataToMoudle env source pu8Data u16DataLen).run d = .error .null := by
  simp only [HF_SendDataToMoudle, run_bind, run_get, ok_bind, halloc, Bool.not_false, ↓reduceIte]
  rfl

theorem run_HF_SendDataToMoudle_eq_ok {source : MoudleMsg} {pu8Data : List UInt8} {u16DataLen : Nat} {d d' : Device} {u : Unit}
    (h : (HF_SendDataToMoudle env source pu8Data u16DataLen).run d = .ok (u, d')) :
    env.moudleAlloc d.moudleMsgs = true ∧ ∃ msg, load pu8Data 0 u16DataLen = .ok msg ∧ d' = d.handed env source msg := by
  cases halloc : env.moudleAlloc d.moudleMsgs with
  | false =>
    rw [run_HF_SendDataToMoudle_null env halloc] at h
    cases h
  | true =>
    cases hload : load pu8Data 0 u16DataLen with
    | error e =>
      simp [HF_SendDataToMoudle, halloc, hload] at h
    | ok msg =>
      rw [run_HF_SendDataToMoudle env halloc hload] at h
      cases h
      exact ⟨rfl, msg, rfl, rfl⟩

theorem HF_SendDataToMoudle_keeps {β : Type} {view : Device → β} (hview : ∀ d source msg, view (d.handed env source msg) = view d)
    (source : MoudleMsg) (pu8Data : List UInt8) (u16DataLen : Nat) :
    Keeps view (HF_SendDataToMoudle env source pu8Data u16DataLen) := by
  intro d u d' h
  obtain ⟨-, msg, -, rfl⟩ := run_HF_SendDataToMoudle_eq_ok env h
  exact hview d source msg

def HF_SendTcpData (u32Fd : Nat) (pu8Data : List UInt8) : Prog Device Unit :=
  logEvent (.tcpSend u32Fd pu8Data)

/-- The loop of `ZC_Rand`. -/
def randLoop : Nat → Prog Device (List UInt8)
  | 0 => return []
  | count + 1 => do
    let r ← draw env.rand
    let bytes := [r, r / 256, r / 65536, r / 16777216].map fun b => u8 (b % 256 % 26 + 65)
    return bytes ++ (← randLoop count)

end

end ZCloud
