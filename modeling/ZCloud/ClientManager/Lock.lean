import ZCloud.ClientManager.Session
import ZCloud.ProtocolController.SendQueue

open Memory Framing Program

namespace ZCloud

/-- The clients, and what has been received of them. -/
def Device.clients (d : Device) : ZC_ClientInfo × MSG_Buffer := (d.g_struClientInfo, d.g_struClientBuffer)

theorem untimed_clients : Untimed Device.clients := fun _ _ _ _ _ _ _ => rfl

theorem notify_clients (u8NotifyCode : ZC_MsgCode) : Keeps Device.clients (PCT_SendNotifyMsg env u8NotifyCode) := by
  intro d r d' h
  obtain ⟨m, rfl⟩ := PCT_SendNotifyMsg_spec env h
  rfl

section

variable {env : Env} {d d' : Device}

/-- After `MSG_Init`, code that leaves the clients alone leaves their buffer empty. -/
theorem MSG_Init_clients {f : Unit → Prog Device Unit} (hf : Keeps Device.clients (f ()))
    (h : (MSG_Init >>= f).run d = .ok ((), d')) : d'.clients = (d.g_struClientInfo, d.g_struClientBuffer.idle) := by
  obtain ⟨_, d₁, hinit, h⟩ := run_bind_eq_ok.mp h
  rw [hf h, run_modify_eq_ok.mp hinit]
  rfl

theorem PCT_DisConnectCloud_clients (h : (PCT_DisConnectCloud env).run d = .ok ((), d')) :
    d'.clients = (d.g_struClientInfo, d.g_struClientBuffer.idle) := by
  obtain ⟨_, d₁, hstate, h⟩ := run_bind_eq_ok.mp h
  obtain ⟨_, d₂, hkey, h⟩ := run_bind_eq_ok.mp h
  rw [MSG_Init_clients (notify_clients _) h, run_modify_eq_ok.mp hkey, run_modify_eq_ok.mp hstate]
  rfl

theorem PCT_ReconnectCloud_clients (h : (PCT_ReconnectCloud env).run d = .ok ((), d')) :
    d'.clients = d.clients ∨ d.g_struProtocolController.u8ReconnectTimer = none ∧
      d'.clients = (d.g_struClientInfo, d.g_struClientBuffer.idle) := by
  obtain ⟨c, _, hget, hrest⟩ := run_bind_eq_ok.mp h
  obtain ⟨rfl, hsame⟩ : c = d.g_struProtocolController ∧ _ := run_pure_eq_ok.mp hget
  rw [hsame] at hrest
  split at hrest
  · exact .inl (congrArg Device.clients (run_pure_eq_ok.mp hrest).2)
  · rename_i hnone
    refine .inr ⟨by simpa using hnone, MSG_Init_clients ?_ hrest⟩
    exact moves_bind (moves_modify fun _ => rfl) fun _ => moves_bind (clearTimers_keeps untimed_clients) fun _ =>
      moves_bind (HF_SetTimer_keeps untimed_clients env _ _) fun _ => moves_bind (moves_modify fun _ => rfl) fun _ =>
        moves_bind (moves_modify fun _ => rfl) fun _ => moves_modify fun _ => rfl

theorem PCT_WakeUp_clients (h : (PCT_WakeUp env).run d = .ok ((), d')) :
    d'.clients = d.clients ∨ d.g_struProtocolController.u8MainState = PCT_STATE_INIT ∧
      d'.clients = ({ d.g_struClientInfo with u8ClientStates := ZC_CLIENT_STATUS_WAKEUP }, d.g_struClientBuffer) := by
  obtain ⟨c, _, hget, hrest⟩ := run_bind_eq_ok.mp h
  obtain ⟨rfl, hsame⟩ : c = d.g_struProtocolController ∧ _ := run_pure_eq_ok.mp hget
  rw [hsame] at hrest
  split at hrest
  · rename_i hinit
    obtain ⟨_, d₁, htimer, hrest⟩ := run_bind_eq_ok.mp hrest
    obtain ⟨_, d₂, hnotify, hwake⟩ := run_bind_eq_ok.mp hrest
    have hclients := (notify_clients _ hnotify).trans (HF_SetTimer_keeps untimed_clients env _ _ htimer)
    simp only [Device.clients, Prod.mk.injEq] at hclients
    rw [run_modify_eq_ok.mp hwake]
    exact .inr ⟨hinit, by simp only [Device.clients, hclients]⟩
  · exact .inl (congrArg Device.clients (run_pure_eq_ok.mp hrest).2)

theorem HF_Sleep_clients (h : (HF_Sleep env).run d = .ok ((), d')) :
    d'.g_struClientInfo.u8ClientStates = ZC_CLIENT_STATUS_INIT ∧ d'.g_struClientBuffer = d.g_struClientBuffer.idle := by
  obtain ⟨_, d₁, hsocket, h⟩ := run_bind_eq_ok.mp h
  obtain ⟨_, d₂, hfd, h⟩ := run_bind_eq_ok.mp h
  obtain ⟨_, d₃, hinit, h⟩ := run_bind_eq_ok.mp h
  obtain ⟨_, d₄, hkey, h⟩ := run_bind_eq_ok.mp h
  obtain ⟨_, d₅, htimers, h⟩ := run_bind_eq_ok.mp h
  obtain ⟨_, d₆, hhandle, h⟩ := run_bind_eq_ok.mp h
  obtain ⟨_, d₇, hnotify, h⟩ := run_bind_eq_ok.mp h
  have hclients : d₇.clients = d₃.clients := by
    rw [notify_clients _ hnotify, run_modify_eq_ok.mp hhandle]
    refine ((clearTimers_keeps untimed_clients htimers).trans ?_)
    rw [run_modify_eq_ok.mp hkey]
    rfl
  simp only [Device.clients, Prod.mk.injEq] at hclients
  rw [run_modify_eq_ok.mp h]
  refine ⟨rfl, hclients.2.trans ?_⟩
  rw [run_modify_eq_ok.mp hinit, run_modify_eq_ok.mp hfd, run_modify_eq_ok.mp hsocket]
  rfl

theorem HF_ListenClient_clients : Keeps Device.clients (HF_ListenClient env) := by
  refine moves_bind (fun d a d' h => ?_) fun socket => ?_
  · obtain ⟨-, rfl⟩ := run_draw_eq_ok.mp h
    rfl
  · cases socket with
    | none => exact moves_pure _
    | some fd => exact moves_bind (moves_modify fun _ => rfl) fun _ => moves_pure _

theorem ZC_StartClientListen_clients (h : (ZC_StartClientListen env).run d = .ok ((), d')) :
    d'.clients = d.clients ∨ d.g_struClientInfo.u8ClientStates = ZC_CLIENT_STATUS_WAKEUP ∧
      d'.clients = ({ d.g_struClientInfo with u8ClientStates := ZC_CLIENT_STATUS_IDLE }, d.g_struClientBuffer) := by
  obtain ⟨_, d, hget, hrest⟩ := run_bind_eq_ok.mp h
  obtain ⟨rfl, rfl⟩ := run_get_eq_ok.mp hget
  split at hrest
  · rename_i hwakeup
    obtain ⟨ret, d₁, hlisten, hrest⟩ := run_bind_eq_ok.mp hrest
    have hclients := HF_ListenClient_clients hlisten
    split at hrest
    · simp only [Device.clients, Prod.mk.injEq] at hclients
      rw [run_modify_eq_ok.mp hrest]
      exact .inr ⟨hwakeup, by simp only [Device.clients, hclients]⟩
    · rw [(run_pure_eq_ok.mp hrest).2]
      exact .inl hclients
  · exact .inl (congrArg Device.clients (run_pure_eq_ok.mp hrest).2)

theorem ZC_ClientConnect_clients {u32ClientId : Nat} {r : ZC_RET} (h : (ZC_ClientConnect u32ClientId).run d = .ok (r, d')) :
    d'.clients = d.clients ∨ ∃ slot, d.g_struClientInfo.u32ClientVaildFlag slot = ZC_CLIENT_VAILD_FLAG ∧
      d'.clients = ({ d.g_struClientInfo with
        u32ClientFd := fun i => if i = slot then u32ClientId else d.g_struClientInfo.u32ClientFd i
        u32ClientVaildFlag := fun i =>
          if i = slot then ZC_CLIENT_INVAILD_FLAG else d.g_struClientInfo.u32ClientVaildFlag i }, d.g_struClientBuffer) := by
  obtain ⟨_, d, hget, hrest⟩ := run_bind_eq_ok.mp h
  obtain ⟨rfl, rfl⟩ := run_get_eq_ok.mp hget
  dsimp only at hrest
  split at hrest
  · exact .inl (congrArg Device.clients (run_pure_eq_ok.mp hrest).2)
  · rename_i slot hslot
    obtain ⟨_, d₁, hmodify, hrest⟩ := run_bind_eq_ok.mp hrest
    rw [(run_pure_eq_ok.mp hrest).2, run_modify_eq_ok.mp hmodify]
    exact .inr ⟨slot, by simpa using List.find?_some hslot, rfl⟩

/-- A connection that is made leaves those there are. -/
theorem connected_of_connect {u32ClientId fd : Nat} {r : ZC_RET} (h : (ZC_ClientConnect u32ClientId).run d = .ok (r, d'))
    (hconnected : d.g_struClientInfo.connected fd = true) : d'.g_struClientInfo.connected fd = true := by
  obtain hsame | ⟨slot, hslot, hclients⟩ := ZC_ClientConnect_clients h
  · have hinfo : d'.g_struClientInfo = d.g_struClientInfo := congrArg Prod.fst hsame
    rw [hinfo]
    exact hconnected
  · obtain ⟨i, hmem, hi⟩ := List.any_eq_true.mp hconnected
    simp only [decide_eq_true_eq] at hi
    have hne : i ≠ slot := fun hi' => by rw [hi', hslot] at hi; cases hi.1
    have hinfo := congrArg Prod.fst hclients
    change d'.g_struClientInfo = _ at hinfo
    rw [hinfo]
    exact List.any_eq_true.mpr ⟨i, hmem, by simpa [hne] using hi⟩

theorem draw_keeps {α β : Type} {view : Device → β} (hview : Untimed view) (answer : Nat → α) : Keeps view (draw answer) := by
  intro d a d' h
  obtain ⟨-, rfl⟩ := run_draw_eq_ok.mp h
  exact hview d _ _ _ _ _ _

theorem storeBuild_keeps {β : Type} {view : Device → β} (hview : ∀ d m, view (Device.withBuild d m) = view d) (off : Nat)
    (data : List UInt8) : Keeps view (storeBuild off data) := by
  intro d a d' h
  obtain ⟨m, -, rfl⟩ := run_storeBuild_eq_ok h
  exact hview d m

theorem storeClient_info (off : Nat) (data : List UInt8) :
    Keeps Device.g_struClientInfo (storeClient off data) := by
  intro d a d' h
  obtain ⟨m, -, rfl⟩ := run_storeClient_eq_ok h
  rfl

theorem ZC_TraceData_keeps {β : Type} {view : Device → β} (pData : List UInt8) (Len : Nat) :
    Keeps view (ZC_TraceData pData Len) :=
  fun _ _ _ h => congrArg view (ZC_TraceData_eq h)

theorem refuseClient_clients (ClientId : Nat) : Keeps Device.clients (refuseClient env ClientId) := by
  have hbuild := fun off data => @storeBuild_keeps _ Device.clients (fun _ _ => rfl) off data
  exact moves_bind moves_get fun _ => moves_bind (hbuild _ _) fun _ => moves_bind (hbuild _ _) fun _ =>
    moves_bind (hbuild _ _) fun _ => moves_bind (hbuild _ _) fun _ => moves_bind moves_get fun _ =>
      moves_bind (moves_lift _) fun _ => moves_modify fun _ => rfl

theorem insertSession_info (ClientId Payloadlen : Nat) :
    Keeps Device.g_struClientInfo (insertSession env ClientId Payloadlen) := by
  have hbuild := fun off data => @storeBuild_keeps _ Device.g_struClientInfo (fun _ _ => rfl) off data
  exact moves_bind moves_get fun _ => moves_bind (moves_lift _) fun _ => moves_bind (hbuild _ _) fun _ =>
    moves_bind moves_get fun _ => moves_bind (draw_keeps (fun _ _ _ _ _ _ _ => rfl) _) fun _ =>
      moves_bind (moves_lift _) fun _ => moves_bind (storeClient_info _ _) fun _ => moves_bind (storeClient_info _ _) fun _ =>
        moves_bind (moves_lift _) fun _ => moves_bind (storeClient_info _ _) fun _ =>
          moves_bind (moves_modify fun _ => rfl) fun _ => moves_bind moves_get fun _ =>
            moves_bind (moves_lift _) fun _ => storeClient_info _ _

theorem forwardClient_info (ClientId : Nat) : Keeps Device.g_struClientInfo (forwardClient env ClientId) := by
  have hbuild := fun off data => @storeBuild_keeps _ Device.g_struClientInfo (fun _ _ => rfl) off data
  have hdraw := fun {α : Type} (answer : Nat → α) =>
    @draw_keeps _ _ Device.g_struClientInfo (fun _ _ _ _ _ _ _ => rfl) answer
  refine moves_bind moves_get fun _ => moves_bind (hdraw _) fun _ => moves_bind (moves_lift _) fun _ => ?_
  refine moves_ite (moves_pure _) (moves_bind (hdraw _) fun _ => moves_bind (moves_lift _) fun _ => ?_)
  refine moves_bind (hbuild _ _) fun _ => moves_bind moves_get fun _ => moves_bind (hdraw _) fun _ =>
    moves_bind (moves_lift _) fun _ => moves_ite (moves_pure _) ?_
  refine moves_bind (moves_lift _) fun _ => moves_bind (hbuild _ _) fun _ => moves_ite (moves_pure _) ?_
  exact moves_bind (insertSession_info _ _) fun _ => moves_bind moves_get fun _ =>
    moves_bind (ZC_TraceData_keeps _ _) fun _ => HF_SendDataToMoudle_keeps env (fun _ _ _ => rfl) _ _ _

/-- What a chunk of a client changes of the clients: it is refused, or it completes a frame,
or it is kept. -/
theorem ZC_RecvDataFromClient_clients {ClientId : Nat} {pu8Data : List UInt8}
    (h : (ZC_RecvDataFromClient env ClientId pu8Data).run d = .ok ((), d')) :
    (ZC_CheckClientIdle d.g_struClientInfo ClientId = ZC_RET_ERROR ∧ d'.clients = d.clients) ∨
    ZC_CheckClientIdle d.g_struClientInfo ClientId = ZC_RET_OK ∧
      ∃ r, MSG_RecvData d.g_struClientBuffer pu8Data = .ok r ∧
        ((r.1 = ZC_RET_OK ∧ r.2.u8Status = MSG_BUFFER_FULL ∧
            d'.g_struClientInfo =
              { d.g_struClientInfo with u8ClientStates := ZC_CLIENT_STATUS_IDLE, u32ClientBusyId := u8 ClientId } ∧
            d'.g_struClientBuffer.u32Len = 0 ∧ d'.g_struClientBuffer.u8Status = MSG_BUFFER_IDLE) ∨
          ¬ (r.1 = ZC_RET_OK ∧ r.2.u8Status = MSG_BUFFER_FULL) ∧
            d'.clients = ({ d.g_struClientInfo with
              u8ClientStates := ZC_CLIENT_STATUS_BUSY, u32ClientBusyId := u8 ClientId }, r.2)) := by
  obtain ⟨_, d, hget, h₁⟩ := run_bind_eq_ok.mp h
  obtain ⟨rfl, rfl⟩ := run_get_eq_ok.mp hget
  split at h₁
  · rename_i herror
    obtain ⟨_, d₁, hrefuse, h₂⟩ := run_bind_eq_ok.mp h₁
    rw [(run_pure_eq_ok.mp h₂).2]
    exact .inl ⟨herror, refuseClient_clients _ hrefuse⟩
  rename_i hok
  refine .inr ⟨by cases hcheck : ZC_CheckClientIdle d.g_struClientInfo ClientId <;> simp_all, ?_⟩
  obtain ⟨_, d₁, hbusy, h₂⟩ := run_bind_eq_ok.mp h₁
  obtain ⟨_, d₂, hget, h₃⟩ := run_bind_eq_ok.mp h₂
  obtain ⟨rfl, rfl⟩ := run_get_eq_ok.mp hget
  obtain ⟨r, d₃, hrecv, h₄⟩ := run_bind_eq_ok.mp h₃
  obtain ⟨hbuffer, rfl⟩ := run_lift_eq_ok.mp hrecv
  have hd := run_modify_eq_ok.mp hbusy
  rw [hd] at hbuffer
  obtain ⟨_, d₄, hmodify, h₅⟩ := run_bind_eq_ok.mp h₄
  have hd₄ := run_modify_eq_ok.mp hmodify
  refine ⟨r, hbuffer, ?_⟩
  split at h₅
  · rename_i hfull
    obtain ⟨_, d₅, hforward, h₆⟩ := run_bind_eq_ok.mp h₅
    obtain ⟨_, d₆, hidle, h₇⟩ := run_bind_eq_ok.mp h₆
    have hinfo : d₅.g_struClientInfo = d₄.g_struClientInfo := forwardClient_info _ hforward
    rw [run_modify_eq_ok.mp h₇, run_modify_eq_ok.mp hidle]
    refine .inl ⟨hfull.2, hfull.1, ?_, rfl, rfl⟩
    simp only [hinfo, hd₄, hd]
  · rename_i hpart
    rw [(run_pure_eq_ok.mp h₅).2, hd₄, hd]
    exact .inr ⟨fun hfull => hpart ⟨hfull.2, hfull.1⟩, rfl⟩

end

/-- A buffer holds part of a frame. -/
def MSG_Buffer.segment (b : MSG_Buffer) : Prop :=
  b.u8Status = MSG_BUFFER_SEGMENT_NOHEAD ∨ b.u8Status = MSG_BUFFER_SEGMENT_HEAD

instance (b : MSG_Buffer) : Decidable b.segment := by
  unfold MSG_Buffer.segment
  infer_instance

/-- The bytes of a frame that a buffer holds when the chunk `pu8Data` has come. -/
def MSG_Buffer.extended (b : MSG_Buffer) (pu8Data : List UInt8) : List UInt8 :=
  if b.segment then b.u8MsgBuffer.bytes.take b.u32Len ++ pu8Data else pu8Data

/-- The bytes begin with the head of a frame that does not fit the buffer. -/
def Overlong (bytes : List UInt8) : Prop := sizeof_ZC_SecHead ≤ bytes.length ∧ MSG_BUFFER_MAXLEN < secTotal bytes

/-- The bytes begin with a whole frame. -/
def Whole (bytes : List UInt8) : Prop := sizeof_ZC_SecHead ≤ bytes.length ∧ secTotal bytes ≤ bytes.length

instance (bytes : List UInt8) : Decidable (Overlong bytes) := by
  unfold Overlong
  infer_instance

instance (bytes : List UInt8) : Decidable (Whole bytes) := by
  unfold Whole
  infer_instance

/-- The device, and the client whose bytes were the last to go to `g_struClientBuffer`. -/
structure Served where
  device : Device
  holder : Option Nat

/-- What happens to the clients: `disconnect` is the end of a connection, `elsewhere` is
what the rest of the program does between. -/
inductive ClientEvent where
  | connect (connfd : Nat)
  | data (ClientId : Nat) (pu8Data : List UInt8)
  | disconnect (ClientId : Nat)
  | cloudDisconnect
  | cloudReconnect
  | wakeUp
  | sleep
  | listen
  | elsewhere (x : Prog Device Unit)

namespace Served

def info (s : Served) : ZC_ClientInfo := s.device.g_struClientInfo

def buffer (s : Served) : MSG_Buffer := s.device.g_struClientBuffer

def busy (s : Served) : Prop := s.info.u8ClientStates = ZC_CLIENT_STATUS_BUSY

instance (s : Served) : Decidable s.busy := by
  unfold busy
  infer_instance

/-- Code of the device. -/
def onDevice (x : Prog Device Unit) : Prog Served Unit := zoom device (fun s d => { s with device := d }) x

def handle (env : Env) : ClientEvent → Prog Served Unit
  | .connect connfd => onDevice do
    let _ ← ZC_ClientConnect connfd
  | .data ClientId pu8Data => do
    let u32RetVal := ZC_CheckClientIdle (← get).info ClientId
    onDevice (ZC_RecvDataFromClient env ClientId pu8Data)
    if u32RetVal = ZC_RET_OK then
      modify fun s => { s with holder := some ClientId }
  | .disconnect ClientId => onDevice (ZC_ClientDisconnect ClientId)
  | .cloudDisconnect => onDevice (PCT_DisConnectCloud env)
  | .cloudReconnect => onDevice (PCT_ReconnectCloud env)
  | .wakeUp => onDevice (PCT_WakeUp env)
  | .sleep => onDevice (HF_Sleep env)
  | .listen => onDevice (ZC_StartClientListen env)
  | .elsewhere x => onDevice x

/-- What can happen: bytes come from a client that is connected. -/
def enabled (s : Served) : ClientEvent → Prop
  | .connect connfd => connfd < 4294967296
  | .data ClientId pu8Data => s.info.connected ClientId = true ∧ pu8Data ≠ [] ∧ pu8Data.length ≤ CHUNK_MAXLEN
  | .disconnect ClientId => s.info.connected ClientId = true
  | .elsewhere x => Keeps Device.clients x
  | _ => True

/-- No client with a descriptor above 255 sends a frame in parts, none announces a frame that
does not fit, and while part of a frame is there its client stays, the connection to the
cloud does not end, and the device is not woken up. -/
def guarded (s : Served) : ClientEvent → Prop
  | .data ClientId pu8Data => ZC_CheckClientIdle s.info ClientId = ZC_RET_OK →
      ¬ Overlong (s.buffer.extended pu8Data) ∧ (ClientId < 256 ∨ Whole (s.buffer.extended pu8Data))
  | .disconnect ClientId => s.busy → s.holder ≠ some ClientId
  | .cloudDisconnect => ¬ s.busy
  | .cloudReconnect => s.device.g_struProtocolController.u8ReconnectTimer = none → ¬ s.busy
  | .wakeUp => s.device.g_struProtocolController.u8MainState = PCT_STATE_INIT → ¬ s.busy
  | _ => True

/-- The lock is held exactly while there is part of a frame of a client that is connected,
and it is that client's. -/
structure Locked (s : Served) : Prop where
  busy_iff : s.busy ↔ s.buffer.segment ∧ ∃ ClientId, s.holder = some ClientId ∧ s.info.connected ClientId = true
  check : ∀ ClientId, s.busy → s.holder = some ClientId →
    ∀ fd, ZC_CheckClientIdle s.info fd = ZC_RET_OK ↔ fd = ClientId

/-- What the steps of a good run keep. -/
structure Locks (s : Served) : Prop where
  holds : ∃ p, s.buffer.Holds p
  busy_iff : s.busy ↔ s.buffer.u8Status ≠ MSG_BUFFER_IDLE
  holder : s.busy → ∃ ClientId, s.holder = some ClientId ∧ ClientId < 256 ∧ s.info.u32ClientBusyId = u8 ClientId ∧
    s.info.connected ClientId = true

theorem Locks.locked {s : Served} (h : s.Locks) : s.Locked := by
  obtain ⟨p, hp⟩ := h.holds
  have hsegment : s.buffer.segment ↔ s.buffer.u8Status ≠ MSG_BUFFER_IDLE := by
    obtain ⟨hstatus, -⟩ | ⟨hstatus, -⟩ | ⟨hstatus, -⟩ := hp.status_eq <;> simp [MSG_Buffer.segment, hstatus]
  refine ⟨⟨fun hbusy => ?_, fun hpart => h.busy_iff.mpr (hsegment.mp hpart.1)⟩, fun ClientId hbusy hholder fd => ?_⟩
  · obtain ⟨ClientId, hholder, -, -, hconnected⟩ := h.holder hbusy
    exact ⟨hsegment.mpr (h.busy_iff.mp hbusy), ClientId, hholder, hconnected⟩
  · obtain ⟨_, hholder', hlt, hid, -⟩ := h.holder hbusy
    obtain rfl := Option.some.inj (hholder.symm.trans hholder')
    have hnot : s.info.u8ClientStates ≠ ZC_CLIENT_STATUS_IDLE := fun hidle => by
      rw [busy, hidle] at hbusy
      cases hbusy
    have hnat : s.info.u32ClientBusyId.toNat = ClientId := by rw [hid, toNat_u8, Nat.mod_eq_of_lt hlt]
    rw [ZC_CheckClientIdle, if_neg hnot, hnat]
    by_cases hfd : fd = ClientId <;> simp [hfd]

theorem Locks.congr {s t : Served} (h : s.Locks) (hclients : t.device.clients = s.device.clients)
    (hholder : t.holder = s.holder) : t.Locks := by
  simp only [Device.clients, Prod.mk.injEq] at hclients
  have hinfo : t.info = s.info := hclients.1
  have hbuffer : t.buffer = s.buffer := hclients.2
  have hbusy : t.busy ↔ s.busy := by rw [busy, busy, hinfo]
  exact ⟨by rw [hbuffer]; exact h.holds, by rw [hbusy, hbuffer]; exact h.busy_iff,
    by rw [hbusy, hinfo, hholder]; exact h.holder⟩

/-- Nothing has been received, and the lock is free. -/
theorem Locks.free {s : Served} (hstatus : s.buffer.u8Status = MSG_BUFFER_IDLE) (hlen : s.buffer.u32Len = 0)
    (hfree : ¬ s.busy) : s.Locks := by
  refine ⟨⟨[], ?_⟩, ⟨fun hbusy => absurd hbusy hfree, fun hne => absurd hstatus hne⟩, fun hbusy => absurd hbusy hfree⟩
  rw [MSG_Buffer.Holds, hstatus, hlen]
  exact Holding.nil

/-- While the lock is free, it stays free where the buffer is emptied or left. -/
theorem Locks.of_free {s t : Served} (h : s.Locks) (hfree : ¬ s.busy) (hfree' : ¬ t.busy)
    (hbuffer : t.buffer = s.buffer ∨ t.buffer = s.buffer.idle) : t.Locks := by
  obtain ⟨p, hp⟩ := h.holds
  have hidle : s.buffer.u8Status = MSG_BUFFER_IDLE := Classical.not_not.mp fun hne => hfree (h.busy_iff.mpr hne)
  obtain hbuffer | hbuffer := hbuffer
  · obtain ⟨-, rfl⟩ | ⟨hstatus, -⟩ | ⟨hstatus, -⟩ := hp.status_eq
    · exact .free (by rw [hbuffer, hidle]) (by rw [hbuffer]; exact hp.len_eq) hfree'
    · exact absurd (hidle.symm.trans hstatus) (by decide)
    · exact absurd (hidle.symm.trans hstatus) (by decide)
  · exact .free (by rw [hbuffer]; rfl) (by rw [hbuffer]; rfl) hfree'

theorem onDevice_run {x : Prog Device Unit} {s t : Served} {u : Unit} (h : (onDevice x).run s = .ok (u, t)) :
    ∃ d, x.run s.device = .ok ((), d) ∧ t = { s with device := d } :=
  run_zoom_eq_ok.mp h

section

variable {env : Env} {s t : Served}

theorem extended_eq {b : MSG_Buffer} {p pu8Data : List UInt8} (hp : b.Holds p) : b.extended pu8Data = p ++ pu8Data := by
  have htake : b.u8MsgBuffer.bytes.take b.u32Len = p := by
    rw [hp.len_eq]
    exact hp.take_eq
  rw [MSG_Buffer.extended, htake]
  split
  · rfl
  · rename_i hnone
    obtain ⟨-, rfl⟩ | ⟨hstatus, -⟩ | ⟨hstatus, -⟩ := hp.status_eq
    · rfl
    · exact absurd (.inl hstatus) hnone
    · exact absurd (.inr hstatus) hnone

/-- The lock of a client of which part of a frame is there. -/
theorem Locks.held {ClientId : Nat} {q : List UInt8} (hq : t.buffer.Holds q) (hne : q ≠ []) (hbusy : t.busy)
    (hholder : t.holder = some ClientId) (hlt : ClientId < 256) (hid : t.info.u32ClientBusyId = u8 ClientId)
    (hconnected : t.info.connected ClientId = true) : t.Locks := by
  refine ⟨⟨q, hq⟩, ⟨fun _ hidle => ?_, fun _ => hbusy⟩, fun _ => ⟨ClientId, hholder, hlt, hid, hconnected⟩⟩
  obtain ⟨-, hnil⟩ | ⟨hstatus, -⟩ | ⟨hstatus, -⟩ := hq.status_eq
  · exact hne hnil
  · exact absurd (hidle.symm.trans hstatus) (by decide)
  · exact absurd (hidle.symm.trans hstatus) (by decide)

theorem holds_not_full {b : MSG_Buffer} {p : List UInt8} (hp : b.Holds p) : b.u8Status ≠ MSG_BUFFER_FULL := by
  obtain ⟨hstatus, -⟩ | ⟨hstatus, -⟩ | ⟨hstatus, -⟩ := hp.status_eq <;> rw [hstatus] <;> decide

/-- A chunk that is taken in completes a frame, or leaves the lock to its client. -/
theorem Locks.data {ClientId : Nat} {pu8Data : List UInt8} (hs : s.Locks) (henabled : s.enabled (.data ClientId pu8Data))
    (hguard : s.guarded (.data ClientId pu8Data)) (h : (handle env (.data ClientId pu8Data)).run s = .ok ((), t)) :
    t.Locks := by
  obtain ⟨_, s, hget, h₁⟩ := run_bind_eq_ok.mp h
  obtain ⟨rfl, rfl⟩ := run_get_eq_ok.mp hget
  obtain ⟨_, s₁, hrecv, h₂⟩ := run_bind_eq_ok.mp h₁
  obtain ⟨d, hrun, rfl⟩ := onDevice_run hrecv
  obtain ⟨p, hp⟩ := hs.holds
  obtain ⟨herror, hclients⟩ | ⟨hok, r, hbuffer, houtcome⟩ := ZC_RecvDataFromClient_clients hrun
  · have hneg : ZC_CheckClientIdle s.info ClientId ≠ ZC_RET_OK := fun hok => by
      rw [info, herror] at hok
      cases hok
    rw [if_neg hneg] at h₂
    rw [(run_pure_eq_ok.mp h₂).2]
    exact hs.congr hclients rfl
  · rw [if_pos (show ZC_CheckClientIdle s.info ClientId = ZC_RET_OK from hok)] at h₂
    obtain rfl := run_modify_eq_ok.mp h₂
    obtain ⟨r', hbuffer', hresult⟩ := MSG_RecvData_spec hp henabled.2.2
    obtain rfl : r = r' := Except.ok.inj (hbuffer.symm.trans hbuffer')
    obtain ⟨hfit, hwhole⟩ := hguard hok
    rw [extended_eq hp] at hfit hwhole
    have hpending : r.1 = ZC_RET_OK ∧ r.2.Holds (p ++ pu8Data) → ¬ Whole (p ++ pu8Data) →
        Locks { device := d, holder := some ClientId } := by
      rintro ⟨-, hq⟩ hpart
      obtain ⟨-, hfull, -⟩ | ⟨-, hclients⟩ := houtcome
      · exact absurd hfull (holds_not_full hq)
      simp only [Device.clients, Prod.mk.injEq] at hclients
      have hne : p ++ pu8Data ≠ [] := fun hnil => henabled.2.1 (List.append_eq_nil_iff.mp hnil).2
      refine .held (by rw [buffer, hclients.2]; exact hq) hne (by rw [busy, info, hclients.1]) rfl
        (hwhole.resolve_right hpart) (by rw [info, hclients.1]) ?_
      rw [info, hclients.1]
      exact henabled.1
    obtain ⟨hshort, hout⟩ | ⟨hover, hout⟩ | ⟨-, hout⟩ | ⟨⟨-, -, hpart⟩, hout⟩ := secFormat_cases p pu8Data
    · rw [hout] at hresult
      exact hpending hresult fun hall => absurd hshort (Nat.not_lt.mpr hall.1)
    · exact absurd hover hfit
    · rw [hout] at hresult
      obtain ⟨-, -, hinfo, hlen, hidle⟩ | ⟨hnot, -⟩ := houtcome
      · exact .free hidle hlen (by rw [busy, info, hinfo]; exact nofun)
      · exact absurd ⟨hresult.1, hresult.2.status_eq⟩ hnot
    · rw [hout] at hresult
      exact hpending hresult fun hall => absurd hpart (Nat.not_lt.mpr hall.2)

/-- What leaves the buffer, the lock and the connection of its holder as they are. -/
theorem Locks.of_connected (hs : s.Locks) (hbuffer : t.buffer = s.buffer) (hholder : t.holder = s.holder)
    (hstates : t.info.u8ClientStates = s.info.u8ClientStates) (hid : t.info.u32ClientBusyId = s.info.u32ClientBusyId)
    (hconnected : ∀ ClientId, s.busy → s.holder = some ClientId → s.info.connected ClientId = true →
      t.info.connected ClientId = true) : t.Locks := by
  have hbusy : t.busy ↔ s.busy := by rw [busy, busy, hstates]
  refine ⟨by rw [hbuffer]; exact hs.holds, by rw [hbusy, hbuffer]; exact hs.busy_iff, fun hb => ?_⟩
  obtain ⟨ClientId, hClientId, hlt, hbusyId, hc⟩ := hs.holder (hbusy.mp hb)
  exact ⟨ClientId, hholder.trans hClientId, hlt, hid.trans hbusyId, hconnected ClientId (hbusy.mp hb) hClientId hc⟩

theorem connected_of_disconnect {info : ZC_ClientInfo} {u32ClientId fd : Nat} (hne : fd ≠ u32ClientId)
    (h : info.connected fd = true) : ZC_ClientInfo.connected { info with
      u32ClientVaildFlag := fun i =>
        if info.u32ClientFd i = u32ClientId then ZC_CLIENT_VAILD_FLAG else info.u32ClientVaildFlag i } fd = true := by
  obtain ⟨i, hmem, hi⟩ := List.any_eq_true.mp h
  simp only [decide_eq_true_eq] at hi
  exact List.any_eq_true.mpr ⟨i, hmem, by simpa [hi.2, hne] using hi.1⟩

theorem Locks.disconnect {ClientId : Nat} (hs : s.Locks) (hguard : s.guarded (.disconnect ClientId))
    (h : (handle env (.disconnect ClientId)).run s = .ok ((), t)) : t.Locks := by
  obtain ⟨d, hrun, rfl⟩ := onDevice_run h
  obtain rfl := run_modify_eq_ok.mp hrun
  by_cases hbusy : s.busy
  · obtain ⟨holder, hholder, hlt, hid, -⟩ := hs.holder hbusy
    have hne : ClientId ≠ holder := fun heq => hguard hbusy (heq ▸ hholder)
    have hother : ClientId ≠ s.info.u32ClientBusyId.toNat := by rwa [hid, toNat_u8, Nat.mod_eq_of_lt hlt]
    refine hs.of_connected rfl rfl (if_neg fun hfree => hother hfree.2.2) rfl fun fd _ hfd hconnected => ?_
    obtain rfl := Option.some.inj (hholder.symm.trans hfd)
    exact connected_of_disconnect hne.symm hconnected
  · refine hs.of_free hbusy (fun hbusy' => hbusy ?_) (.inl rfl)
    rw [busy, info] at hbusy'
    dsimp only at hbusy'
    split at hbusy'
    · cases hbusy'
    · exact hbusy'

theorem Locks.connect {connfd : Nat} (hs : s.Locks) (h : (handle env (.connect connfd)).run s = .ok ((), t)) : t.Locks := by
  obtain ⟨d, hrun, rfl⟩ := onDevice_run h
  obtain ⟨r, d₁, hconnect, hrest⟩ := run_bind_eq_ok.mp hrun
  obtain ⟨-, rfl⟩ := run_pure_eq_ok.mp hrest
  obtain hclients | ⟨slot, -, hclients⟩ := ZC_ClientConnect_clients hconnect
  · exact hs.congr hclients rfl
  · simp only [Device.clients, Prod.mk.injEq] at hclients
    refine hs.of_connected hclients.2 rfl ?_ ?_ fun _ _ _ hc => connected_of_connect hconnect hc
    · rw [info, hclients.1]
      rfl
    · rw [info, hclients.1]
      rfl

theorem Locks.step {event : ClientEvent} (hs : s.Locks) (henabled : s.enabled event) (hguard : s.guarded event)
    (h : (handle env event).run s = .ok ((), t)) : t.Locks := by
  cases event with
  | data ClientId pu8Data => exact hs.data henabled hguard h
  | disconnect ClientId => exact hs.disconnect hguard h
  | connect connfd => exact hs.connect h
  | cloudDisconnect =>
    obtain ⟨d, hrun, rfl⟩ := onDevice_run h
    have hclients := PCT_DisConnectCloud_clients hrun
    simp only [Device.clients, Prod.mk.injEq] at hclients
    exact hs.of_free hguard (by rw [busy, info, hclients.1]; exact hguard) (.inr hclients.2)
  | cloudReconnect =>
    obtain ⟨d, hrun, rfl⟩ := onDevice_run h
    obtain hclients | ⟨hnone, hclients⟩ := PCT_ReconnectCloud_clients hrun
    · exact hs.congr hclients rfl
    · simp only [Device.clients, Prod.mk.injEq] at hclients
      exact hs.of_free (hguard hnone) (by rw [busy, info, hclients.1]; exact hguard hnone) (.inr hclients.2)
  | wakeUp =>
    obtain ⟨d, hrun, rfl⟩ := onDevice_run h
    obtain hclients | ⟨hinit, hclients⟩ := PCT_WakeUp_clients hrun
    · exact hs.congr hclients rfl
    · simp only [Device.clients, Prod.mk.injEq] at hclients
      exact hs.of_free (hguard hinit) (by rw [busy, info, hclients.1]; exact nofun) (.inl hclients.2)
  | sleep =>
    obtain ⟨d, hrun, rfl⟩ := onDevice_run h
    obtain ⟨hinit, hbuffer⟩ := HF_Sleep_clients hrun
    exact .free (by rw [buffer, hbuffer]; rfl) (by rw [buffer, hbuffer]; rfl) (by rw [busy, info, hinit]; exact nofun)
  | listen =>
    obtain ⟨d, hrun, rfl⟩ := onDevice_run h
    obtain hclients | ⟨hwakeup, hclients⟩ := ZC_StartClientListen_clients hrun
    · exact hs.congr hclients rfl
    · simp only [Device.clients, Prod.mk.injEq] at hclients
      refine hs.of_free (by rw [busy, info, hwakeup]; exact nofun) (by rw [busy, info, hclients.1]; exact nofun) (.inl hclients.2)
  | elsewhere x =>
    obtain ⟨d, hrun, rfl⟩ := onDevice_run h
    exact hs.congr (henabled hrun) rfl

/-- A client that goes in the middle of a frame frees the lock, but its bytes stay. -/
theorem Locks.disconnect_holder {ClientId : Nat} (hs : s.Locks) (hbusy : s.busy) (hholder : s.holder = some ClientId)
    (h : (handle env (.disconnect ClientId)).run s = .ok ((), t)) :
    t.info.u8ClientStates = ZC_CLIENT_STATUS_IDLE ∧ t.buffer.segment := by
  obtain ⟨d, hrun, rfl⟩ := onDevice_run h
  obtain rfl := run_modify_eq_ok.mp hrun
  obtain ⟨_, hholder', hlt, hid, hconnected⟩ := hs.holder hbusy
  obtain rfl := Option.some.inj (hholder.symm.trans hholder')
  refine ⟨if_pos ⟨?_, hbusy, ?_⟩, (hs.locked.busy_iff.mp hbusy).1⟩
  · obtain ⟨i, hmem, hi⟩ := List.any_eq_true.mp hconnected
    simp only [decide_eq_true_eq] at hi
    exact List.any_eq_true.mpr ⟨i, hmem, decide_eq_true hi.2⟩
  · change ClientId = s.info.u32ClientBusyId.toNat
    rw [hid, toNat_u8, Nat.mod_eq_of_lt hlt]

theorem HF_ReadDataFromFlash_clients : Keeps Device.clients (HF_ReadDataFromFlash env) :=
  moves_bind (callFwup_keeps (fun _ _ => rfl) _) fun _ => moves_ite
    (moves_bind (callFwup_keeps (fun _ _ => rfl) _) fun _ => moves_bind (moves_lift _) fun _ => moves_modify fun _ => rfl)
    (moves_pure _)

theorem HF_Init_clients (fwup : Fwup) : ∃ d, (HF_Init env).run (Device.zero fwup) = .ok ((), d) ∧
    d.clients = (⟨ZC_CLIENT_STATUS_INIT, 0, fun _ => ZC_CLIENT_VAILD_FLAG, fun _ => 0⟩, MSG_Buffer.zero) :=
  ⟨_, rfl, rfl⟩

/-- At the start of the program the lock is free. -/
theorem locks_of_started {d : Device} (hstarted : d.Started env) (holder : Option Nat) : Locks ⟨d, holder⟩ := by
  obtain ⟨fwup, -, -, -, hrun⟩ := hstarted
  obtain ⟨_, d₁, hinit, hread⟩ := run_bind_eq_ok.mp hrun
  obtain ⟨d₂, hinit', hclients⟩ := @HF_Init_clients env fwup
  obtain rfl : d₁ = d₂ := (Prod.mk.inj (Except.ok.inj (hinit.symm.trans hinit'))).2
  have hsame := (HF_ReadDataFromFlash_clients hread).trans hclients
  simp only [Device.clients, Prod.mk.injEq] at hsame
  exact .free (by rw [buffer, hsame.2]; rfl) (by rw [buffer, hsame.2]; rfl) (by rw [busy, info, hsame.1]; exact nofun)

/-- In every good run the lock is held exactly while there is part of a frame of a client
that is connected, and it is that client's. The client that goes then frees it, but what
it has sent stays in the buffer. -/
theorem locked_of_runs {s₀ : Served} (hstarted : s₀.device.Started env)
    (h : Runs (handle env) (fun s event => s.enabled event ∧ s.guarded event) s₀ s) :
    s.Locked ∧ ∀ ClientId t, s.busy → s.holder = some ClientId → (handle env (.disconnect ClientId)).run s = .ok ((), t) →
      t.info.u8ClientStates = ZC_CLIENT_STATUS_IDLE ∧ t.buffer.segment := by
  have hlocks := h.invariant (locks_of_started hstarted s₀.holder) fun _ _ _ ht hallowed hrun =>
    ht.step hallowed.1 hallowed.2 hrun
  exact ⟨hlocks.locked, fun ClientId t hbusy hholder hrun => hlocks.disconnect_holder hbusy hholder hrun⟩

end

instance (s : Served) (event : ClientEvent) : Decidable (s.guarded event) := by
  cases event <;> simp only [guarded] <;> infer_instance

/-- `enabled`, as far as it can be decided. -/
def check (s : Served) : ClientEvent → Bool
  | .connect connfd => decide (connfd < 4294967296)
  | .data ClientId pu8Data => s.info.connected ClientId && decide (pu8Data ≠ [] ∧ pu8Data.length ≤ CHUNK_MAXLEN)
  | .disconnect ClientId => s.info.connected ClientId
  | .elsewhere _ => false
  | _ => true

theorem enabled_of_check {s : Served} {event : ClientEvent} (h : s.check event = true) : s.enabled event := by
  cases event with
  | connect connfd => exact (of_decide_eq_true h : connfd < 4294967296)
  | data ClientId pu8Data =>
    obtain ⟨hconnected, hchunk⟩ := Bool.and_eq_true_iff.mp h
    exact ⟨hconnected, of_decide_eq_true hchunk⟩
  | disconnect ClientId => exact h
  | elsewhere x => cases h
  | _ => trivial

/-- The start of the program, and what is seen after some events. -/
def seen {α : Type} (ok : Served → ClientEvent → Bool) (view : Served → α) (events : List ClientEvent) : Option α :=
  (Device.boot soundEnv blankFwup).bind fun d => (replay (handle soundEnv) ok events ⟨d, none⟩).map view

theorem runs_of_seen {α : Type} {ok : Served → ClientEvent → Bool} {allowed : Served → ClientEvent → Prop}
    {view : Served → α} {events : List ClientEvent} {a : α} (hok : ∀ s event, ok s event = true → allowed s event)
    (h : seen ok view events = some a) :
    ∃ s₀ s : Served, s₀.device.Started soundEnv ∧ Runs (handle soundEnv) allowed s₀ s ∧ view s = a := by
  obtain ⟨d, hboot, hrest⟩ := Option.bind_eq_some_iff.mp h
  obtain ⟨s, hreplay, hview⟩ := Option.map_eq_some_iff.mp hrest
  exact ⟨⟨d, none⟩, s, Device.boot_started ⟨rfl, rfl, rfl⟩ hboot, runs_of_replay hok hreplay, hview⟩

/-- The client `7` has sent a part of a frame. -/
theorem locked_by_7 : ∃ s : Served, s.busy ∧ s.holder = some 7 ∧ s.Locked := by
  obtain ⟨s₀, s, hstarted, hruns, hview⟩ := @runs_of_seen _ (fun s event => s.check event && decide (s.guarded event))
    (fun s event => s.enabled event ∧ s.guarded event) (fun s => (decide s.busy, s.holder))
    [.wakeUp, .listen, .connect 7, .data 7 [0, 32, 2]] (true, some 7)
    (fun s event h => ⟨enabled_of_check (Bool.and_eq_true_iff.mp h).1, of_decide_eq_true (Bool.and_eq_true_iff.mp h).2⟩)
    (by decide +kernel)
  simp only [Prod.mk.injEq, decide_eq_true_eq] at hview
  exact ⟨s, hview.1, hview.2, (locked_of_runs hstarted hruns).1⟩

/-- The client `7` announces a frame that is too long, and nobody else is served from then on. -/
theorem lock_leaked : ¬ ∀ s₀ s : Served, s₀.device.Started soundEnv →
    Runs (handle soundEnv) (fun s event => s.enabled event) s₀ s → s.Locked := by
  intro h
  obtain ⟨s₀, s, hstarted, hruns, hview⟩ := @runs_of_seen _ check enabled (fun s => (decide s.busy, decide s.buffer.segment))
    [.wakeUp, .listen, .connect 7, .data 7 [255, 255, 2, 0]] (true, false) (fun _ _ => enabled_of_check) (by decide +kernel)
  simp only [Prod.mk.injEq, decide_eq_true_eq, decide_eq_false_iff_not] at hview
  exact hview.2 ((h s₀ s hstarted hruns).busy_iff.mp hview.1).1

end Served

end ZCloud
