import ZCloud.Fwup.Session
import ZCloud.Lib.Runs
import ZCloud.MoudleManager.Moudle
import ZCloud.SecEngine.Aes

open Memory Program

namespace ZCloud

def HF_MAX_SOCKET_LEN : Nat := 1000

/-- What can happen to the device: a round of `HF_Cloudfunc` is `run` and
`cloudTail`, the timers and the sockets call at any time, and the network comes
and goes. -/
inductive Input where
  /-- `PCT_Run`. -/
  | run
  /-- What `HF_Cloudfunc` does after `PCT_Run`. -/
  | cloudTail
  /-- The cloud has sent the bytes `pu8Data`. -/
  | recvCloud (pu8Data : List UInt8)
  /-- The connection to the cloud has ended. -/
  | recvError
  /-- The timer with the handle `htimer` has run out. -/
  | timer (htimer : Nat)
  /-- The module has sent the message of `u16DataLen` bytes at the start of `pu8Data`. -/
  | moudle (pu8Data : List UInt8) (u16DataLen : Nat)
  /-- The listening task looks for clients. -/
  | listen
  | clientConnect (connfd : Nat)
  /-- The client in slot `i` has sent the bytes `pu8Data`. -/
  | clientData (i : Fin ZC_MAX_CLIENT_NUM) (pu8Data : List UInt8)
  | clientDisconnect (i : Fin ZC_MAX_CLIENT_NUM)
  | wakeUp
  | sleep
deriving DecidableEq

/-- Whether the device reads from the cloud. -/
def PCT_STATE.reads (s : PCT_STATE) : Prop :=
  PCT_STATE_WAIT_ACCESSRSP.code ≤ s.code ∧ s.code < PCT_STATE_DISCONNECT_CLOUD.code

instance (s : PCT_STATE) : Decidable s.reads := by
  unfold PCT_STATE.reads
  infer_instance

/-- Bytes that `recv` can give. -/
def received (pu8Data : List UInt8) : Prop := 0 < pu8Data.length ∧ pu8Data.length ≤ HF_MAX_SOCKET_LEN

/-- The inputs that can come in a state. -/
def Input.enabled (d : Device) : Input → Prop
  | .recvCloud pu8Data => d.g_struProtocolController.u8MainState.reads ∧ received pu8Data
  | .recvError => d.g_struProtocolController.u8MainState.reads
  | .timer htimer => htimer ∈ d.liveTimers
  | .clientData i pu8Data =>
    d.g_struClientInfo.u32ClientVaildFlag i = ZC_CLIENT_INVAILD_FLAG ∧ received pu8Data
  | .clientDisconnect i => d.g_struClientInfo.u32ClientVaildFlag i = ZC_CLIENT_INVAILD_FLAG
  | .moudle pu8Data u16DataLen => u16DataLen ≤ pu8Data.length ∧ u16DataLen < 65536
  | _ => True

instance (d : Device) (input : Input) : Decidable (input.enabled d) := by
  cases input <;> simp only [Input.enabled, received] <;> infer_instance

section

variable (env : Env)

/-- The second time that a timer runs out, its action is taken. -/
def HF_timer_callback (htimer : Nat) : Prog Device Unit := do
  let d ← get
  match HF_get_timer_id d htimer with
  | none => throw .read
  | some u8TimerId =>
    if (d.g_struHfTimer u8TimerId).u32FirstFlag = 1 then
      modify fun d => d.setHfTimer u8TimerId { d.g_struHfTimer u8TimerId with u32FirstFlag := 0 }
    else
      TIMER_TimeoutAction env u8TimerId
      TIMER_StopTimer (.slot u8TimerId)

/-- What `HF_Cloudfunc` does after `PCT_Run`. -/
def cloudTail : Prog Device Unit := do
  if (← getController).u8MainState = PCT_STATE_DISCONNECT_CLOUD then
    let _ ← draw env.rand
    PCT_ReconnectCloud env
  else
    MSG_SendDataToCloud

def HF_ReadRegisterInfoFromFlash : Prog Device Unit := do
  let (_, bytes) ← callFwup (callFls (tls_fls_read env.toFlsEnv USER_FLASH_PARAM2_ADDR sizeof_ZC_RegisterInfo))
  let info ← ZC_RegisterInfo.ofBytes bytes
  modify fun d => { d with g_struRegisterInfo := info }

/-- The identity that the device is built with. -/
def builtInfo : ZC_RegisterInfo where
  u8PrivateKey := env.g_u8ModuleKey
  u8DeviciId := Mem.append env.g_u8DeviceId env.g_u64Domain
  u8EqVersion := env.g_u8EqVersion

def HF_WakeUp : Prog Device Unit := do
  PCT_WakeUp env
  if (← getController).u8RegisterTimer.isSome then
    TIMER_StopTimer (.handle .u8RegisterTimer)
    clearHandle .u8RegisterTimer
  modify fun d => { d with g_struRegisterInfo := builtInfo env }
  let _ ← callFwup (callFls (tls_fls_write env.toFlsEnv USER_FLASH_PARAM2_ADDR (builtInfo env).toBytes))
  HF_ReadRegisterInfoFromFlash env
  HF_ReadRegisterInfoFromFlash env
  setMainState PCT_STATE_ACCESS_NET

def HF_Sleep : Prog Device Unit := do
  modifyController fun c =>
    { c with
      struClientConnection := { c.struClientConnection with u32Socket := PCT_INVAILD_SOCKET }
      struCloudConnection := { c.struCloudConnection with u32Socket := PCT_INVAILD_SOCKET } }
  modifyClient fun info =>
    { info with
      u32ClientFd := fun i =>
        if info.u32ClientVaildFlag i = ZC_CLIENT_INVAILD_FLAG then PCT_INVAILD_SOCKET else info.u32ClientFd i }
  PCT_Sleep env

/-- The handling of an input. -/
def Device.handle : Input → Prog Device Unit
  | .run => PCT_Run env
  | .cloudTail => ZCloud.cloudTail env
  | .recvCloud pu8Data => MSG_RecvDataFromCloud env pu8Data
  | .recvError => PCT_DisConnectCloud env
  | .timer htimer => HF_timer_callback env htimer
  | .moudle pu8Data u16DataLen => do
    let _ ← ZC_RecvDataFromMoudle env pu8Data u16DataLen
  | .listen => ZC_StartClientListen env
  | .clientConnect connfd => do
    let _ ← ZC_ClientConnect connfd
  | .clientData i pu8Data => do
    ZC_RecvDataFromClient env ((← get).g_struClientInfo.u32ClientFd i) pu8Data
  | .clientDisconnect i => do
    ZC_ClientDisconnect ((← get).g_struClientInfo.u32ClientFd i)
  | .wakeUp => HF_WakeUp env
  | .sleep => HF_Sleep env

def PCT_Init : Prog Device Unit := do
  modifyController fun c =>
    { c with
      struCloudConnection := { c.struCloudConnection with u32Socket := PCT_INVAILD_SOCKET }
      struClientConnection := { c.struClientConnection with u32Socket := PCT_INVAILD_SOCKET } }
  modifyConfig ZC_ConfigInitPara
  MSG_Init
  TIMER_Init
  setKeyRecv PCT_KEY_UNRECVED
  clearHandle .u8ReconnectTimer
  clearHandle .u8SendMoudleTimer
  clearHandle .u8HeartTimer
  clearHandle .u8RegisterTimer
  setMainState PCT_STATE_INIT
  ZC_ClientInit

def HF_Init : Prog Device Unit := do
  PCT_Init
  let u8CloudAddr ← loadMem (testCloudAddr ++ (← drawBytes env.stack 2)) 0 ZC_CLOUD_ADDR_MAX_LEN
  modifyConfig fun db =>
    { db with
      struCloudInfo := { db.struCloudInfo with u8CloudAddr := u8CloudAddr }
      struSwitchInfo :=
        { db.struSwitchInfo with u32SecSwitch := 0, u32TraceSwitch := 0, u32WifiConfig := 0, u32ServerAddrConfig := 0 } }

def HF_ReadDataFromFlash : Prog Device Unit := do
  let (_, bytes) ← callFwup (callFls (tls_fls_read env.toFlsEnv USER_FLASH_PARAM1_ADDR 4))
  if number bytes = ZC_MAGIC_FLAG then
    let (_, bytes) ← callFwup (callFls (tls_fls_read env.toFlsEnv USER_FLASH_PARAM1_ADDR sizeof_ZC_ConfigDB))
    let db ← ZC_ConfigDB.ofBytes bytes
    modifyConfig fun _ => db

end

/-- A buffer in memory that has not been written yet. -/
def MSG_Buffer.zero : MSG_Buffer := ⟨0, MSG_BUFFER_IDLE, Mem.fill _ 0⟩

/-- The index `0`, which is what a handle in untouched memory is. -/
def timerZero : Fin ZC_TIMER_MAX_NUM := ⟨0, by decide⟩

def PTC_ProtocolCon.zero : PTC_ProtocolCon where
  u8MainState := PCT_STATE_SLEEP
  u8keyRecv := PCT_KEY_UNRECVED
  u8ReconnectTimer := some timerZero
  u8AccessTimer := some timerZero
  u8HeartTimer := some timerZero
  u8SendMoudleTimer := some timerZero
  u8RegisterTimer := some timerZero
  u8ReSendMoudleNum := 0
  pu8SendMoudleBuffer := none
  struCloudConnection := ⟨0, 0⟩
  struClientConnection := ⟨0, 0⟩
  u8SessionKey := Mem.fill _ 0
  IvSend := Mem.fill _ 0
  IvRecv := Mem.fill _ 0
  RandMsg := Mem.fill _ 0
  struOtaInfo := ⟨0, 0, (0, 0)⟩

def ZC_ConfigDB.zero : ZC_ConfigDB where
  u32MagicFlag := 0
  struConnection := ⟨0, Mem.fill _ 0, Mem.fill _ 0⟩
  struCloudInfo := ⟨Mem.fill _ 0, Mem.fill _ 0, Mem.fill _ 0⟩
  struSwitchInfo := ⟨0, 0, 0, 0, Mem.fill _ 0, Mem.fill _ 0, 0, 0, 0⟩

/-- The device before any of its code has run, with the flash and the firmware
update as they are. -/
def Device.zero (fwup : Fwup) : Device where
  g_struProtocolController := PTC_ProtocolCon.zero
  g_struRecvBuffer := MSG_Buffer.zero
  g_struRetxBuffer := MSG_Buffer.zero
  g_struClientBuffer := MSG_Buffer.zero
  g_struSendBuffer _ := MSG_Buffer.zero
  g_struRecvQueue := MSG_InitQueue
  g_struSendQueue := MSG_InitQueue
  g_u8MsgBuildBuffer := Mem.fill _ 0
  g_u8ClientSendLen := 0
  g_struTimer _ := ⟨ZC_TIMER_STATUS_IDLE, PCT_TIMER_RECONNECT⟩
  g_struHfTimer _ := ⟨0, 0⟩
  liveTimers := []
  g_struClientInfo := ⟨ZC_CLIENT_STATUS_INIT, 0, fun _ => ZC_CLIENT_INVAILD_FLAG, fun _ => 0⟩
  g_struZcConfigDb := ZC_ConfigDB.zero
  g_struRegisterInfo := ⟨Mem.fill _ 0, Mem.fill _ 0, Mem.fill _ 0⟩
  g_u32session_id := 0
  fwup := fwup
  App_R_Q := []
  moudleMsgs := 0
  trace := []
  clock := 0

/-- The start of the program. -/
def powerOn (env : Env) : Prog Device Unit := do
  HF_Init env
  HF_ReadDataFromFlash env

/-- The device has just been started. -/
def Device.Started (env : Env) (d : Device) : Prop :=
  ∃ fwup : Fwup, fwup.installed = true ∧ fwup.busy = false ∧ fwup.fls.fls_lock = 1 ∧
    (powerOn env).run (Device.zero fwup) = .ok ((), d)

/-- Every run in which each input is allowed where it comes. -/
abbrev Device.RunsTo (env : Env) (allowed : Device → Input → Prop) : Device → Device → Prop :=
  Runs (Device.handle env) fun d input => input.enabled d ∧ allowed d input

/-- The states that the device can be in, when each input is allowed where it comes. -/
def Device.Reachable (env : Env) (allowed : Device → Input → Prop) (d : Device) : Prop :=
  ∃ d₀, d₀.Started env ∧ Device.RunsTo env allowed d₀ d

/-- The device as it is after the start of the program. -/
def Device.boot (env : Env) (fwup : Fwup) : Option Device :=
  match (powerOn env).run (Device.zero fwup) with
  | .ok (_, d) => some d
  | .error _ => none

/-- The device after some inputs, if each can come where it does. -/
def Device.replay (env : Env) : List Input → Device → Option Device
  | [], d => some d
  | input :: inputs, d =>
    if input.enabled d then
      match (Device.handle env input).run d with
      | .ok (_, d') => Device.replay env inputs d'
      | .error _ => none
    else none

theorem Device.boot_started {env : Env} {fwup : Fwup} {d : Device}
    (hfwup : fwup.installed = true ∧ fwup.busy = false ∧ fwup.fls.fls_lock = 1)
    (h : Device.boot env fwup = some d) : d.Started env := by
  refine ⟨fwup, hfwup.1, hfwup.2.1, hfwup.2.2, ?_⟩
  rw [Device.boot] at h
  split at h
  · rename_i u d₁ hrun
    rw [hrun, Option.some.inj h]
  · cases h

theorem Device.replay_cons {env : Env} {input : Input} {inputs : List Input} {d d' : Device}
    (h : Device.replay env (input :: inputs) d = some d') :
    input.enabled d ∧ ∃ d₁, (Device.handle env input).run d = .ok ((), d₁) ∧ Device.replay env inputs d₁ = some d' := by
  rw [Device.replay] at h
  split at h
  · rename_i henabled
    split at h
    · rename_i u d₁ hrun
      exact ⟨henabled, d₁, hrun, h⟩
    · cases h
  · cases h

/-- A replay of inputs that are allowed is a run. -/
theorem Device.replay_runs {env : Env} {allowed : Device → Input → Prop} {inputs : List Input} {d d' : Device}
    (hallowed : ∀ input ∈ inputs, ∀ d, allowed d input) (h : Device.replay env inputs d = some d') :
    Device.RunsTo env allowed d d' := by
  induction inputs generalizing d with
  | nil =>
    obtain rfl := Option.some.inj h
    exact .refl
  | cons input inputs ih =>
    obtain ⟨henabled, d₁, hrun, hreplay⟩ := Device.replay_cons h
    have hstep : Device.RunsTo env allowed d d₁ :=
      .step .refl ⟨henabled, hallowed input List.mem_cons_self d⟩ hrun
    exact hstep.trans (ih (fun input hmem => hallowed input (List.mem_cons_of_mem _ hmem)) hreplay)

/-- What is seen after a replay from the start is seen in a state that can be reached. -/
theorem Device.reachable_of_replay {α : Type} {env : Env} {fwup : Fwup} {allowed : Device → Input → Prop}
    {inputs : List Input} {view : Device → α} {a : α}
    (hfwup : fwup.installed = true ∧ fwup.busy = false ∧ fwup.fls.fls_lock = 1)
    (hallowed : ∀ input ∈ inputs, ∀ d, allowed d input)
    (h : ((Device.boot env fwup).bind (Device.replay env inputs)).map view = some a) :
    ∃ d, d.Reachable env allowed ∧ view d = a := by
  obtain ⟨d, hd, hview⟩ := Option.map_eq_some_iff.mp h
  obtain ⟨d₀, hboot, hreplay⟩ := Option.bind_eq_some_iff.mp hd
  exact ⟨d, ⟨d₀, Device.boot_started hfwup hboot, Device.replay_runs hallowed hreplay⟩, hview⟩

theorem le_sum_of_mem {live : List Nat} {h : Nat} (hmem : h ∈ live) : h ≤ live.sum := by
  induction live with
  | nil => cases hmem
  | cons first live ih =>
    rw [List.sum_cons]
    rcases List.mem_cons.mp hmem with rfl | hmem
    · omega
    · have := ih hmem
      omega

/-- The handle of a new timer: more than all there are. -/
def freshTimer (live : List Nat) : { h : Nat // h ≠ 0 ∧ h ∉ live } where
  val := live.sum + 1
  property := ⟨Nat.succ_ne_zero _, fun h => Nat.not_succ_le_self _ (le_sum_of_mem h)⟩

/-- A block cipher that only fills a block up. -/
def fillBlock (size : Nat) (block : List UInt8) : List UInt8 := (block ++ List.replicate size 0).take size

theorem length_fillBlock (size : Nat) (block : List UInt8) : (fillBlock size block).length = size := by
  simp [fillBlock]

theorem fillBlock_of_length {size : Nat} {block : List UInt8} (h : block.length = size) : fillBlock size block = block :=
  List.take_left' h

/-- A machine on which nothing fails. -/
def soundEnv : Env where
  toFwupEnv := blankEnv
  AES_encrypt _ := fillBlock 16
  AES_decrypt _ := fillBlock 16
  rsa_public _ block := some (fillBlock 32 block)
  rsa_private _ block := some (fillBlock 32 block)
  length_encrypt _ := length_fillBlock 16
  length_decrypt _ := length_fillBlock 16
  length_public _ block _ h := Option.some.inj h ▸ length_fillBlock 32 block
  length_private _ block _ h := Option.some.inj h ▸ length_fillBlock 32 block
  newTimer live _ := some (freshTimer live)
  rand n := n
  session _ := ⟨1, by decide⟩
  padding _ := ⟨1, by decide⟩
  gethostbyname _ := true
  socket _ := some 1
  connect _ := true
  listen _ := some 2
  stack _ := 0
  beyond _ := []
  moudleAlloc _ := true
  moudleSend _ := true
  g_u8ModuleKey := Mem.fill _ 0
  g_u8DeviceId := Mem.fill _ 0
  g_u64Domain := Mem.fill _ 0
  g_u8EqVersion := Mem.fill _ 0

theorem soundEnv_inverse : soundEnv.toCipher.AesInverse := by
  intro key block h
  change fillBlock 16 (fillBlock 16 block) = block
  rw [fillBlock_of_length (length_fillBlock 16 block)]
  exact fillBlock_of_length h

end ZCloud
