import ZCloud.MoudleManager.Moudle
import ZCloud.ProtocolController.Sending

open Memory Program

namespace ZCloud

/-- The receive queue points to the receive buffer only, and the request that the
module is to answer lies in the buffer for retransmissions. -/
structure Device.Owned (d : Device) : Prop where
  recv : ∀ addr ∈ d.g_struRecvQueue.toList, addr = .g_struRecvBuffer
  request : ∀ addr, d.g_struProtocolController.pu8SendMoudleBuffer = some addr → addr = .g_struRetxBuffer

/-- The device has gone on without a change of what `view` shows of it: all it has
done are the events of kind `P`, and what it has queued waits behind what waited. -/
structure Aside {β : Type} (view : Device → β) (P : Event → Prop) (d d' : Device) : Prop where
  view_eq : view d' = view d
  logs : ∃ es, d'.trace = es ++ d.trace ∧ (∀ e ∈ es, P e) ∧
    (d.Sendable → d'.Sendable ∧ d'.pending = d.pending ++ (queuedIn es).map Prod.snd)
  owned : d.Owned → d'.Owned

/-- The trace, the queues, the send buffers and the place of the request. -/
def Device.channel (d : Device) :=
  (d.trace, d.g_struSendQueue, d.g_struSendBuffer, d.g_struRecvQueue,
    d.g_struProtocolController.pu8SendMoudleBuffer)

section

variable {β γ : Type} {view : Device → β} {P Q : Event → Prop} {d d' : Device}

theorem Device.Sendable.congr (hd : d.Sendable) (hqueue : d'.g_struSendQueue = d.g_struSendQueue)
    (hbuffer : ∀ i, (d.g_struSendBuffer i).u8Status = MSG_BUFFER_FULL →
      d'.g_struSendBuffer i = d.g_struSendBuffer i) : d'.Sendable ∧ d'.pending = d.pending := by
  refine ⟨⟨by rw [hqueue]; exact hd.nodup, fun addr haddr => ?_⟩, ?_⟩
  · rw [hqueue] at haddr
    obtain ⟨i, rfl, hfull, hlen⟩ := hd.full addr haddr
    exact ⟨i, rfl, by rw [hbuffer i hfull]; exact hfull, by rw [hbuffer i hfull]; exact hlen⟩
  · rw [Device.pending, Device.pending, hqueue]
    refine List.map_congr_left fun addr haddr => ?_
    obtain ⟨i, rfl, hfull, -⟩ := hd.full addr haddr
    exact congrArg MSG_Buffer.frame (hbuffer i hfull)

theorem Aside.of_channel (hview : view d' = view d) (hchannel : d'.channel = d.channel) : Aside view P d d' := by
  simp only [Device.channel, Prod.mk.injEq] at hchannel
  obtain ⟨htrace, hqueue, hbuffer, hrecv, hrequest⟩ := hchannel
  refine ⟨hview, ⟨[], htrace, by simp, fun hd => ?_⟩, fun hd => ?_⟩
  · have hsame := hd.congr hqueue fun i _ => congrFun hbuffer i
    exact ⟨hsame.1, by rw [hsame.2]; simp⟩
  · exact ⟨by rw [hrecv]; exact hd.recv, by rw [hrequest]; exact hd.request⟩

instance : Frame (Aside view P) where
  refl _ := .of_channel rfl rfl
  trans h₁ h₂ := by
    obtain ⟨es₁, htrace₁, hP₁, hsend₁⟩ := h₁.logs
    obtain ⟨es₂, htrace₂, hP₂, hsend₂⟩ := h₂.logs
    refine ⟨h₂.view_eq.trans h₁.view_eq, ⟨es₂ ++ es₁, ?_, ?_, fun hd => ?_⟩, fun hd => h₂.owned (h₁.owned hd)⟩
    · rw [htrace₂, htrace₁, List.append_assoc]
    · intro e he
      rcases List.mem_append.mp he with he | he
      · exact hP₂ e he
      · exact hP₁ e he
    · obtain ⟨hd₁, hpending₁⟩ := hsend₁ hd
      obtain ⟨hd₂, hpending₂⟩ := hsend₂ hd₁
      refine ⟨hd₂, ?_⟩
      rw [hpending₂, hpending₁, queuedIn_append, List.map_append, List.append_assoc]

theorem Aside.mono {view' : Device → γ} (h : Aside view P d d')
    (hview : ∀ {d d'}, view d' = view d → view' d' = view' d) (hP : ∀ e, P e → Q e) : Aside view' Q d d' := by
  obtain ⟨es, htrace, hes, hsend⟩ := h.logs
  exact ⟨hview h.view_eq, ⟨es, htrace, fun e he => hP e (hes e he), hsend⟩, h.owned⟩

theorem moves_mono {σ α : Type} {R S : σ → σ → Prop} {x : Prog σ α} (h : Moves R x) (hle : ∀ {s t}, R s t → S s t) :
    Moves S x :=
  fun _ _ _ hrun => hle (h hrun)

/-- Code that writes something that is neither shown nor part of the channels. -/
theorem modify_aside {f : Device → Device} (hview : ∀ d, view (f d) = view d)
    (hchannel : ∀ d, (f d).channel = d.channel) : Moves (Aside view P) (modify f) :=
  moves_modify fun d => .of_channel (hview d) (hchannel d)

theorem logEvent_aside {e : Event} (hview : ∀ d, view (d.log e) = view d) (he : P e) (hqueued : e.queued? = none) :
    Moves (Aside view P) (logEvent e) := by
  refine moves_modify fun d => ⟨hview d, ⟨[e], rfl, by simpa using he, fun hd => ?_⟩,
    fun hd => ⟨hd.recv, hd.request⟩⟩
  have hsame := @Device.Sendable.congr _ (d.log e) hd rfl fun _ _ => rfl
  exact ⟨hsame.1, by rw [hsame.2, queuedIn_cons, hqueued]; simp⟩

theorem draw_aside {α : Type} (answer : Nat → α) (hview : ∀ d, view d.tick = view d) :
    Moves (Aside view P) (draw answer) := by
  intro d a d' h
  obtain ⟨-, rfl⟩ := run_draw_eq_ok.mp h
  exact .of_channel (hview d) rfl

end

/-- The events by which a message is sent to the cloud. -/
def Event.Cloud : Event → Prop
  | .toCloud _ | .queued .. => True
  | _ => False

theorem controller_of_unsent {d d' : Device} (h : d'.unsent = d.unsent) :
    d'.g_struProtocolController = d.g_struProtocolController := by
  have := congrArg Device.g_struProtocolController h
  exact this

theorem owned_of_unsent {d d' : Device} (h : d'.unsent = d.unsent) (hd : d.Owned) : d'.Owned := by
  have hqueue : d'.unsent.g_struRecvQueue = d.unsent.g_struRecvQueue := congrArg Device.g_struRecvQueue h
  refine ⟨?_, by rw [controller_of_unsent h]; exact hd.request⟩
  change ∀ addr ∈ d'.unsent.g_struRecvQueue.toList, _
  rw [hqueue]
  exact hd.recv

theorem NotQueued.aside {plain : List UInt8} {d d' : Device} (h : NotQueued plain d d') :
    Aside Device.unsent Event.Cloud d d' := by
  refine ⟨h.unsent_eq, ⟨[.toCloud plain], h.trace_eq, by simp [Event.Cloud], fun hd => ?_⟩,
    owned_of_unsent h.unsent_eq⟩
  have hsame := hd.congr h.queue_eq h.buffer_eq
  exact ⟨hsame.1, by rw [hsame.2]; simp [queuedIn, Event.queued?]⟩

/-- A message that is queued waits behind the others. -/
theorem Queued.pending_eq {plain : List UInt8} {i : Fin MSG_BUFFER_SEND_MAX_NUM} {d d' : Device}
    (h : Queued plain i d d') (hd : d.Sendable) :
    d'.Sendable ∧ d'.pending = d.pending ++ [(d'.g_struSendBuffer i).frame] ∧
      d'.trace = .queued plain (d'.g_struSendBuffer i).frame :: .toCloud plain :: d.trace := by
  obtain ⟨hok, hlist⟩ := MSG_Queue.push_of_not_full (hd.not_full h.idle) (BufferAddr.g_struSendBuffer i)
  have hmem := hd.not_mem_of_idle h.idle
  have hlist' : d'.g_struSendQueue.toList = d.g_struSendQueue.toList ++ [.g_struSendBuffer i] := by
    rw [h.queue_eq, hlist]
  have hother : ∀ j, BufferAddr.g_struSendBuffer j ∈ d.g_struSendQueue.toList →
      d'.g_struSendBuffer j = d.g_struSendBuffer j := by
    intro j hj
    refine h.buffer_eq j ?_
    rintro rfl
    exact hmem hj
  refine ⟨⟨?_, fun addr haddr => ?_⟩, ?_, ?_⟩
  · rw [hlist']
    exact List.nodup_append.mpr ⟨hd.nodup, List.nodup_singleton _, fun a ha b hb hab => by
      rw [List.mem_singleton.mp hb] at hab
      exact hmem (hab ▸ ha)⟩
  · rw [hlist', List.mem_append, List.mem_singleton] at haddr
    rcases haddr with haddr | rfl
    · obtain ⟨j, rfl, hfull⟩ := hd.full addr haddr
      exact ⟨j, rfl, by rw [hother j haddr]; exact hfull⟩
    · exact ⟨i, rfl, h.full⟩
  · rw [Device.pending, hlist', List.map_append, Device.pending]
    refine congrArg₂ (· ++ ·) (List.map_congr_left fun addr haddr => ?_) rfl
    obtain ⟨j, rfl, -⟩ := hd.full addr haddr
    exact congrArg MSG_Buffer.frame (hother j haddr)
  · rw [h.trace_eq, if_pos hok]

theorem Queued.aside {plain : List UInt8} {i : Fin MSG_BUFFER_SEND_MAX_NUM} {d d' : Device}
    (h : Queued plain i d d') : Aside Device.unsent Event.Cloud d d' := by
  have hrecv := owned_of_unsent h.unsent_eq
  have htrace := h.trace_eq
  split at htrace
  · refine ⟨h.unsent_eq, ⟨[_, _], htrace, by simp [Event.Cloud], fun hd => ?_⟩, hrecv⟩
    obtain ⟨hd', hpending, -⟩ := h.pending_eq hd
    exact ⟨hd', by rw [hpending]; rfl⟩
  · rename_i hfull
    refine ⟨h.unsent_eq, ⟨[_], htrace, by simp [Event.Cloud], fun hd => ?_⟩, hrecv⟩
    exact absurd (MSG_Queue.push_of_not_full (hd.not_full h.idle) _).1 hfull

/-- What the timers and the handshake depend on. -/
structure Device.Core where
  u8MainState : PCT_STATE
  handle : TimerHandle → Option (Fin ZC_TIMER_MAX_NUM)
  u8ReSendMoudleNum : Nat
  pu8SendMoudleBuffer : Option BufferAddr
  RandMsg : Mem ZC_HS_MSG_LEN
  g_struRetxBuffer : MSG_Buffer
  g_struTimer : Fin ZC_TIMER_MAX_NUM → ZC_Timer
  g_struHfTimer : Fin ZC_TIMER_MAX_NUM → HF_TimerInfo
  liveTimers : List Nat

def Device.core (d : Device) : Device.Core where
  u8MainState := d.g_struProtocolController.u8MainState
  handle := d.g_struProtocolController.handle
  u8ReSendMoudleNum := d.g_struProtocolController.u8ReSendMoudleNum
  pu8SendMoudleBuffer := d.g_struProtocolController.pu8SendMoudleBuffer
  RandMsg := d.g_struProtocolController.RandMsg
  g_struRetxBuffer := d.g_struRetxBuffer
  g_struTimer := d.g_struTimer
  g_struHfTimer := d.g_struHfTimer
  liveTimers := d.liveTimers

theorem core_of_unsent {d d' : Device} (h : d'.unsent = d.unsent) : d'.core = d.core := by
  have := congrArg Device.core h
  exact this

/-- The events of a function that has no part in the handshake, other than those by
which a message is sent to the cloud. -/
def Event.Quiet : Event → Prop
  | .stored _ | .pushed _ | .fileBegin | .update .. | .tcpSend .. | .toMoudle (.client _) _ => True
  | .toMoudle (.notify u8NotifyCode) _ =>
    u8NotifyCode ≠ ZC_CODE_CLOUD_CONNECTED ∧ u8NotifyCode ≠ ZC_CODE_CLOUD_DISCONNECTED ∧
      u8NotifyCode ≠ ZC_CODE_ZOTA_END
  | _ => False

/-- The events of a function that has no part in the handshake. -/
def Event.Bystander (e : Event) : Prop := e.Quiet ∨ e.Cloud

section

variable (env : Env) {P : Event → Prop}

theorem PCT_SendMsgToCloud_aside (u8SecType : UInt8) (len : Nat) (data : List UInt8) :
    Moves (Aside Device.unsent Event.Cloud) (PCT_SendMsgToCloud env u8SecType len data) := by
  intro d r d' h
  obtain ⟨-, h⟩ | ⟨-, i, h⟩ := PCT_SendMsgToCloud_cases h
  · exact h.aside
  · exact h.aside

theorem storeBuild_aside (off : Nat) (data : List UInt8) : Moves (Aside Device.unsent P) (storeBuild off data) := by
  intro d r d' h
  rw [storeBuild, run_get_bind] at h
  obtain ⟨m, _, hstore, h⟩ := run_bind_eq_ok.mp h
  obtain ⟨-, rfl⟩ := run_lift_eq_ok.mp hstore
  obtain rfl := run_set_eq_ok.mp h
  exact .of_channel rfl rfl

theorem buildMsg_aside (u8MsgCode : ZC_MsgCode) (u8MsgId : UInt8) (pu8Payload : List UInt8) :
    Moves (Aside Device.unsent P) (buildMsg u8MsgCode u8MsgId pu8Payload) :=
  moves_bind (storeBuild_aside _ _) fun _ => moves_pure _

theorem sendBuilt_aside (u8SecType : UInt8) (msg : List UInt8) :
    Moves (Aside Device.unsent Event.Cloud) (sendBuilt env u8SecType msg) :=
  PCT_SendMsgToCloud_aside env u8SecType _ msg

theorem PCT_SendEmptyMsg_aside (u8MsgId u8SecType : UInt8) :
    Moves (Aside Device.unsent Event.Cloud) (PCT_SendEmptyMsg env u8MsgId u8SecType) :=
  moves_bind (sendBuilt_aside env _ _) fun _ => moves_pure _

theorem PCT_SendErrorMsg_aside (u8MsgId : UInt8) (pu8Error : List UInt8) :
    Moves (Aside Device.unsent Event.Cloud) (PCT_SendErrorMsg env u8MsgId pu8Error) :=
  moves_bind (buildMsg_aside _ _ _) fun _ => moves_bind (sendBuilt_aside env _ _) fun _ => moves_pure _

theorem PCT_SendAckToCloud_aside (u8MsgId : UInt8) :
    Moves (Aside Device.unsent Event.Cloud) (PCT_SendAckToCloud env u8MsgId) :=
  moves_bind (buildMsg_aside _ _ _) fun _ => moves_bind (sendBuilt_aside env _ _) fun _ => moves_pure _

/-- A message is handed to the module. -/
theorem handed_aside {β : Type} {view : Device → β} {d : Device} {source : MoudleMsg} {msg : List UInt8}
    (hview : view (d.handed env source msg) = view d) (hP : P (.toMoudle source msg)) :
    Aside view P d (d.handed env source msg) := by
  refine ⟨hview, ⟨[.toMoudle source msg], rfl, by simpa using hP, fun hd => ?_⟩, fun hd => ⟨hd.recv, hd.request⟩⟩
  have hsame := @Device.Sendable.congr _ (d.handed env source msg) hd rfl fun _ _ => rfl
  exact ⟨hsame.1, by rw [hsame.2]; simp [queuedIn, Event.queued?]⟩

/-- What `PCT_SendNotifyMsg` does to the globals. -/
theorem PCT_SendNotifyMsg_spec {u8NotifyCode : ZC_MsgCode} {d d' : Device}
    (h : (PCT_SendNotifyMsg env u8NotifyCode).run d = .ok ((), d')) :
    ∃ m, d' = (d.withBuild m).handed env (.notify u8NotifyCode) (EVENT_BuildMsg u8NotifyCode 0 []) := by
  obtain ⟨msg, d₁, hbuild, h⟩ := run_bind_eq_ok.mp h
  obtain ⟨_, d₂, hstore, hbuild⟩ := run_bind_eq_ok.mp hbuild
  obtain ⟨rfl, rfl⟩ := run_pure_eq_ok.mp hbuild
  obtain ⟨m, -, rfl⟩ := run_storeBuild_eq_ok hstore
  obtain ⟨-, data, hdata, rfl⟩ := run_HF_SendDataToMoudle_eq_ok env h
  rw [load_of_le (by omega)] at hdata
  simp only [List.drop_zero, List.take_length, Except.ok.injEq] at hdata
  exact ⟨m, by rw [hdata]⟩

theorem PCT_SendNotifyMsg_aside {u8NotifyCode : ZC_MsgCode}
    (hP : P (.toMoudle (.notify u8NotifyCode) (EVENT_BuildMsg u8NotifyCode 0 []))) :
    Moves (Aside Device.unsent P) (PCT_SendNotifyMsg env u8NotifyCode) := by
  intro d r d' h
  obtain ⟨m, rfl⟩ := PCT_SendNotifyMsg_spec env h
  have hbuild : Aside Device.unsent P d (d.withBuild m) := .of_channel rfl rfl
  exact Frame.trans hbuild (handed_aside env rfl hP)

/-- What sends to the cloud has no part in the handshake. -/
theorem Aside.of_cloud {d d' : Device} (h : Aside Device.unsent Event.Cloud d d') :
    Aside Device.core Event.Bystander d d' :=
  h.mono core_of_unsent fun _ => Or.inr

theorem Aside.of_unsent {d d' : Device} (h : Aside Device.unsent P d d') : Aside Device.core P d d' :=
  h.mono core_of_unsent fun _ => id

theorem Aside.of_quiet {d d' : Device} (h : Aside Device.core Event.Quiet d d') :
    Aside Device.core Event.Bystander d d' :=
  h.mono id fun _ => Or.inl

/-- Code that only looks at the globals. -/
theorem getController_aside {β : Type} {view : Device → β} : Moves (Aside view P) getController :=
  moves_bind moves_get fun _ => moves_pure _

theorem ZC_TraceData_aside (pData : List UInt8) (Len : Nat) :
    Moves (Aside Device.core P) (ZC_TraceData pData Len) :=
  moves_bind moves_get fun _ => moves_ite (moves_pure _) (moves_bind (moves_lift _) fun _ => moves_pure _)

theorem callFwup_aside {α : Type} (x : Prog Fwup α) : Moves (Aside Device.core P) (callFwup x) := by
  intro d a d' h
  obtain ⟨fwup, -, rfl⟩ := run_callFwup_eq_ok h
  exact .of_channel rfl rfl

theorem modifyConfig_aside (f : ZC_ConfigDB → ZC_ConfigDB) : Moves (Aside Device.core P) (modifyConfig f) :=
  modify_aside (fun _ => rfl) fun _ => rfl

theorem writeConfig_aside : Moves (Aside Device.core P) (writeConfig env) :=
  moves_bind moves_get fun _ => moves_bind (callFwup_aside _) fun _ => moves_pure _

theorem ZC_StoreAccessInfo_aside (ip port : Nat) : Moves (Aside Device.core P) (ZC_StoreAccessInfo env ip port) :=
  moves_bind (modify_aside (fun _ => rfl) fun _ => rfl) fun _ => writeConfig_aside env

theorem ZC_StoreTokenKey_aside (data : List UInt8) : Moves (Aside Device.core P) (ZC_StoreTokenKey env data) :=
  moves_bind (moves_lift _) fun _ => moves_bind (modifyConfig_aside _) fun _ => writeConfig_aside env

theorem ZC_ConfigPara_aside (data : List UInt8) : Moves (Aside Device.core P) (ZC_ConfigPara env data) :=
  moves_bind moves_get fun _ => moves_bind (moves_lift _) fun _ =>
    moves_bind (modifyConfig_aside _) fun _ => writeConfig_aside env

theorem ZC_StoreRegisterInfo_aside (data : List UInt8) : Moves (Aside Device.core P) (ZC_StoreRegisterInfo data) :=
  moves_bind (moves_lift _) fun _ => modify_aside (fun _ => rfl) fun _ => rfl

theorem PCT_SetTokenKey_aside (view : List UInt8) :
    Moves (Aside Device.core Event.Bystander) (PCT_SetTokenKey env view) :=
  moves_bind (ZC_StoreTokenKey_aside env _) fun _ => moves_bind (moves_lift _) fun _ =>
    moves_bind (moves_mono (PCT_SendEmptyMsg_aside env _ _) Aside.of_cloud) fun _ =>
      moves_mono (PCT_SendAckToCloud_aside env _) Aside.of_cloud

theorem HF_FirmwareUpdate_aside (data : List UInt8) (u32Offset : Nat) :
    Moves (Aside Device.core P) (HF_FirmwareUpdate env data u32Offset) := by
  have hrequest : Moves (Aside Device.core P) (do
      let retval ← callFwup (tls_fwup_request_sync env.toFwupEnv (← get).g_u32session_id data)
      return if retval.code < 0 then ZC_RET_ERROR else ZC_RET_OK) :=
    moves_bind moves_get fun _ => moves_bind (callFwup_aside _) fun _ => moves_pure _
  refine moves_ite ?_ hrequest
  refine moves_bind (draw_aside _ fun _ => rfl) fun _ => moves_bind (callFwup_aside _) fun _ => ?_
  exact moves_bind (modify_aside (fun _ => rfl) fun _ => rfl) fun _ => moves_ite (moves_pure _) hrequest

/-- The answers of the handlers of the module have no part in the handshake. -/
theorem answerMoudle_aside : Moves (Aside Device.core Event.Quiet) (answerMoudle env).ok ∧
    Moves (Aside Device.core Event.Quiet) (answerMoudle env).err :=
  ⟨moves_mono (PCT_SendNotifyMsg_aside env ⟨by decide, by decide, by decide⟩) Aside.of_unsent,
    moves_mono (PCT_SendNotifyMsg_aside env ⟨by decide, by decide, by decide⟩) Aside.of_unsent⟩

theorem answerCloud_aside (u8MsgId : UInt8) :
    Moves (Aside Device.core Event.Bystander) (answerCloud env u8MsgId).ok ∧
      Moves (Aside Device.core Event.Bystander) (answerCloud env u8MsgId).err :=
  ⟨moves_mono (PCT_SendAckToCloud_aside env _) Aside.of_cloud,
    moves_mono (PCT_SendErrorMsg_aside env _ _) Aside.of_cloud⟩

theorem core_withOta (d : Device) (ota : PTC_OtaInfo) :
    (d.withController { d.g_struProtocolController with struOtaInfo := ota }).core = d.core := rfl

theorem channel_withOta (d : Device) (ota : PTC_OtaInfo) :
    (d.withController { d.g_struProtocolController with struOtaInfo := ota }).channel = d.channel := rfl

theorem beginFile_aside (pstruOta : List UInt8) : Moves (Aside Device.core Event.Quiet) (beginFile pstruOta) :=
  moves_bind (moves_lift _) fun _ => moves_bind (moves_lift _) fun _ => moves_bind (moves_lift _) fun _ =>
    moves_bind (modify_aside (fun d => core_withOta d _) fun d => channel_withOta d _) fun _ =>
      logEvent_aside (fun _ => rfl) trivial rfl

theorem takeChunk_aside {pfunUpdate : PfunUpdate} {answer : Answer}
    (hupdate : ∀ data u32Offset, Moves (Aside Device.core P) (pfunUpdate data u32Offset))
    (hevent : ∀ data u32Offset r, P (.update data u32Offset r))
    (hok : Moves (Aside Device.core P) answer.ok) (herr : Moves (Aside Device.core P) answer.err)
    (pu8Data : List UInt8) (u32RecvOffset u32FileLen : Nat) :
    Moves (Aside Device.core P) (takeChunk pfunUpdate answer pu8Data u32RecvOffset u32FileLen) := by
  refine moves_bind (moves_lift _) fun _ => moves_bind (hupdate _ _) fun r => ?_
  refine moves_bind (logEvent_aside (fun _ => rfl) (hevent _ _ _) rfl) fun _ => moves_ite ?_ ?_
  · exact moves_bind herr fun _ => moves_pure _
  · exact moves_bind (modify_aside (fun _ => rfl) fun _ => rfl) fun _ => hok

theorem PCT_HandleOtaBeginMsg_aside (view : List UInt8) :
    Moves (Aside Device.core Event.Bystander) (PCT_HandleOtaBeginMsg env view) :=
  moves_bind (moves_lift _) fun _ => moves_bind (answerCloud_aside env _).1 fun _ =>
    moves_mono (PCT_SendNotifyMsg_aside env (P := Event.Quiet) ⟨by decide, by decide, by decide⟩) fun h => h.of_unsent.of_quiet

theorem PCT_ModuleOtaFileBeginMsg_aside (pu8Msg : List UInt8) :
    Moves (Aside Device.core Event.Quiet) (PCT_ModuleOtaFileBeginMsg env pu8Msg) :=
  moves_bind (beginFile_aside _) fun _ => (answerMoudle_aside env).1

theorem PCT_ModuleOtaFileChunkMsg_aside (view pu8Msg : List UInt8) :
    Moves (Aside Device.core Event.Quiet) (PCT_ModuleOtaFileChunkMsg env (HF_FirmwareUpdate env) view pu8Msg) := by
  have herr := (answerMoudle_aside env).2
  refine moves_bind (moves_lift _) fun _ => moves_bind (moves_lift _) fun _ =>
    moves_bind getController_aside fun _ => moves_ite (moves_bind herr fun _ => moves_pure _) ?_
  refine moves_bind (moves_lift _) fun _ => moves_ite (moves_bind herr fun _ => moves_pure _) ?_
  exact takeChunk_aside (fun _ _ => HF_FirmwareUpdate_aside env _ _) (fun _ _ _ => trivial)
    (answerMoudle_aside env).1 herr _ _ _

theorem PCT_HandleOtaFileBeginMsg_aside (view : List UInt8) :
    Moves (Aside Device.core Event.Bystander) (PCT_HandleOtaFileBeginMsg env view) :=
  moves_bind (moves_mono (beginFile_aside _) Aside.of_quiet) fun _ =>
    moves_bind (moves_lift _) fun _ => (answerCloud_aside env _).1

theorem PCT_HandleOtaFileChunkMsg_aside (view : List UInt8) :
    Moves (Aside Device.core Event.Bystander) (PCT_HandleOtaFileChunkMsg env (HF_FirmwareUpdate env) view) := by
  refine moves_bind (moves_lift _) fun _ => moves_bind (moves_lift _) fun _ =>
    moves_bind getController_aside fun _ => moves_ite ?_ ?_
  · exact moves_bind (moves_lift _) fun _ => moves_bind (answerCloud_aside env _).2 fun _ => moves_pure _
  · refine moves_bind (moves_lift _) fun _ => ?_
    exact takeChunk_aside (fun _ _ => HF_FirmwareUpdate_aside env _ _) (fun _ _ _ => .inl trivial)
      (answerCloud_aside env _).1 (answerCloud_aside env _).2 _ _ _

theorem PCT_HandleOtaFileEndMsg_aside (view : List UInt8) :
    Moves (Aside Device.core Event.Bystander) (PCT_HandleOtaFileEndMsg env view) :=
  moves_bind (moves_lift _) fun _ => (answerCloud_aside env _).1

theorem beginMoudle_aside : Moves (Aside Device.core Event.Quiet) (beginMoudle env) := by
  refine moves_bind (moves_mono (PCT_SendNotifyMsg_aside env ⟨by decide, by decide, by decide⟩) Aside.of_unsent)
    fun _ => moves_bind getController_aside fun _ => moves_ite ?_ (moves_pure _)
  exact moves_mono (PCT_SendNotifyMsg_aside env ⟨by decide, by decide, by decide⟩) Aside.of_unsent

theorem SEC_AesDecrypt_aside (text : List UInt8) (u16Len u16PlainLen : Nat) :
    Moves (Aside Device.core P) (SEC_AesDecrypt env text u16Len u16PlainLen) :=
  moves_bind getController_aside fun _ => moves_ite (moves_pure _) (moves_bind (draw_aside _ fun _ => rfl) fun _ =>
    moves_bind (moves_lift _) fun _ =>
      moves_bind (moves_mono (storeBuild_aside _ _) Aside.of_unsent) fun _ => moves_pure _)

theorem drawBytes_aside (stack : Nat → UInt8) (len : Nat) : Moves (Aside Device.core P) (drawBytes stack len) :=
  moves_mono (drawBytes_ticks stack len) fun ⟨_, h⟩ => .of_channel (by rw [h]; rfl) (by rw [h]; rfl)

theorem SEC_Decrypt_aside (view : List UInt8) (u16PlainLen : Nat) :
    Moves (Aside Device.core P) (SEC_Decrypt env view u16PlainLen) := by
  refine moves_bind (moves_lift _) fun _ => moves_bind (moves_lift _) fun _ => moves_bind moves_get fun _ => ?_
  refine moves_ite ?_ (moves_ite ?_ (moves_ite ?_ (moves_pure _)))
  · exact moves_bind (moves_lift _) fun _ =>
      moves_bind (moves_mono (storeBuild_aside _ _) Aside.of_unsent) fun _ => moves_pure _
  · refine moves_bind (drawBytes_aside _ _) fun _ => moves_bind moves_get fun _ => moves_bind (moves_lift _) fun _ => ?_
    exact moves_bind (modify_aside (fun _ => rfl) fun _ => rfl) fun _ => moves_pure _
  · exact SEC_AesDecrypt_aside env _ _ _

theorem mem_toList_push {α : Type} {q : MSG_Queue α} {msg addr : α} (h : addr ∈ (MSG_PushMsg q msg).2.toList) :
    addr ∈ q.toList ∨ addr = msg := by
  by_cases hfull : q.count = MSG_QUEUE_MAXLEN
  · rw [MSG_Queue.push_of_full hfull] at h
    exact .inl h
  · rw [(MSG_Queue.push_of_not_full hfull msg).2, List.mem_append, List.mem_singleton] at h
    exact h

/-- A new content of the receive queue. -/
theorem setRecvQueue_aside (queue : MSG_Queue BufferAddr) {d : Device}
    (h : d.Owned → ∀ addr ∈ queue.toList, addr = .g_struRecvBuffer) :
    Aside Device.core P d { d with g_struRecvQueue := queue } := by
  refine ⟨rfl, ⟨[], rfl, by simp, fun hd => ?_⟩, fun hd => ⟨h hd, hd.request⟩⟩
  have hsame := @Device.Sendable.congr _ { d with g_struRecvQueue := queue } hd rfl fun _ _ => rfl
  exact ⟨hsame.1, by rw [hsame.2]; simp⟩

theorem MSG_RecvDataFromCloud_aside (pu8Data : List UInt8) :
    Moves (Aside Device.core Event.Quiet) (MSG_RecvDataFromCloud env pu8Data) := by
  refine moves_bind (drawBytes_aside _ _) fun _ => moves_bind (draw_aside _ fun _ => rfl) fun _ => ?_
  refine moves_get_bind fun d r d' h => ?_
  obtain ⟨⟨ret, buffer⟩, _, hrecv, h⟩ := run_bind_eq_ok.mp h
  obtain ⟨-, hsame⟩ := run_lift_eq_ok.mp hrecv
  rw [hsame] at h
  obtain ⟨_, d₁, hset, h⟩ := run_bind_eq_ok.mp h
  have h₁ : Aside Device.core Event.Quiet d d₁ := by
    rw [run_set_eq_ok.mp hset]
    exact .of_channel rfl rfl
  refine Frame.trans h₁ (moves_ite ?_ (moves_pure _) h)
  refine moves_bind (SEC_Decrypt_aside env _ _) fun _ => moves_get_bind fun d r d' h => ?_
  obtain ⟨m, _, hcopy, h⟩ := run_bind_eq_ok.mp h
  obtain ⟨-, hsame⟩ := run_lift_eq_ok.mp hcopy
  rw [hsame] at h
  obtain ⟨_, d₂, hlog, h⟩ := run_bind_eq_ok.mp h
  obtain ⟨_, d₃, hbuffer, h⟩ := run_bind_eq_ok.mp h
  have h₂ : Aside Device.core Event.Quiet d d₂ := logEvent_aside (fun _ => rfl) trivial rfl hlog
  have h₃ : Aside Device.core Event.Quiet d₂ d₃ := by
    rw [run_modify_eq_ok.mp hbuffer]
    exact .of_channel rfl rfl
  have hqueue : d₃.g_struRecvQueue = d.g_struRecvQueue := by
    rw [run_modify_eq_ok.mp hbuffer, run_modify_eq_ok.mp hlog]
    rfl
  refine Frame.trans (Frame.trans h₂ h₃) ?_
  split at h
  · rw [← hqueue] at h
    obtain ⟨_, d₄, hpush, h⟩ := run_bind_eq_ok.mp h
    have h₄ : Aside Device.core Event.Quiet d₃ d₄ := by
      rw [run_modify_eq_ok.mp hpush]
      refine setRecvQueue_aside _ fun hd addr haddr => ?_
      rcases mem_toList_push haddr with haddr | haddr
      · exact hd.recv addr haddr
      · exact haddr
    exact Frame.trans h₄ (moves_ite (logEvent_aside (fun _ => rfl) trivial rfl) (moves_pure _) h)
  · exact moves_pure _ h

theorem modifyClient_aside (f : ZC_ClientInfo → ZC_ClientInfo) : Moves (Aside Device.core P) (modifyClient f) :=
  modify_aside (fun _ => rfl) fun _ => rfl

theorem modifyClientBuffer_aside (f : MSG_Buffer → MSG_Buffer) : Moves (Aside Device.core P) (modifyClientBuffer f) :=
  modify_aside (fun _ => rfl) fun _ => rfl

theorem storeClient_aside (off : Nat) (data : List UInt8) : Moves (Aside Device.core P) (storeClient off data) :=
  moves_bind moves_get fun _ => moves_bind (moves_lift _) fun _ => modifyClientBuffer_aside _

theorem HF_SendTcpData_aside (u32Fd : Nat) (data : List UInt8) :
    Moves (Aside Device.core Event.Quiet) (HF_SendTcpData u32Fd data) :=
  logEvent_aside (fun _ => rfl) trivial rfl

theorem storeBuild_core_aside (off : Nat) (data : List UInt8) : Moves (Aside Device.core P) (storeBuild off data) :=
  moves_mono (storeBuild_aside _ _) Aside.of_unsent

theorem refuseClient_aside (ClientId : Nat) : Moves (Aside Device.core Event.Quiet) (refuseClient env ClientId) :=
  moves_bind moves_get fun _ => moves_bind (storeBuild_core_aside _ _) fun _ =>
    moves_bind (storeBuild_core_aside _ _) fun _ => moves_bind (storeBuild_core_aside _ _) fun _ =>
      moves_bind (storeBuild_core_aside _ _) fun _ => moves_bind moves_get fun _ =>
        moves_bind (moves_lift _) fun _ => HF_SendTcpData_aside _ _

theorem insertSession_aside (ClientId Payloadlen : Nat) :
    Moves (Aside Device.core P) (insertSession env ClientId Payloadlen) :=
  moves_bind moves_get fun _ => moves_bind (moves_lift _) fun _ => moves_bind (storeBuild_core_aside _ _) fun _ =>
    moves_bind moves_get fun _ => moves_bind (draw_aside _ fun _ => rfl) fun _ => moves_bind (moves_lift _) fun _ =>
      moves_bind (storeClient_aside _ _) fun _ => moves_bind (storeClient_aside _ _) fun _ =>
        moves_bind (moves_lift _) fun _ => moves_bind (storeClient_aside _ _) fun _ =>
          moves_bind (modifyClientBuffer_aside _) fun _ => moves_bind moves_get fun _ =>
            moves_bind (moves_lift _) fun _ => storeClient_aside _ _

theorem HF_SendDataToMoudle_aside {source : MoudleMsg} (hP : ∀ data, P (.toMoudle source data)) (data : List UInt8)
    (len : Nat) : Moves (Aside Device.core P) (HF_SendDataToMoudle env source data len) := by
  intro d u d' h
  obtain ⟨-, msg, -, rfl⟩ := run_HF_SendDataToMoudle_eq_ok env h
  exact handed_aside env rfl (hP msg)

theorem forwardClient_aside (ClientId : Nat) : Moves (Aside Device.core Event.Quiet) (forwardClient env ClientId) := by
  refine moves_bind moves_get fun _ => moves_bind (draw_aside _ fun _ => rfl) fun _ => moves_bind (moves_lift _) fun _ => ?_
  refine moves_ite (moves_pure _) (moves_bind (draw_aside _ fun _ => rfl) fun _ => moves_bind (moves_lift _) fun _ => ?_)
  refine moves_bind (storeBuild_core_aside _ _) fun _ => moves_bind moves_get fun _ =>
    moves_bind (draw_aside _ fun _ => rfl) fun _ => moves_bind (moves_lift _) fun _ => moves_ite (moves_pure _) ?_
  refine moves_bind (moves_lift _) fun _ => moves_bind (storeBuild_core_aside _ _) fun _ => moves_ite (moves_pure _) ?_
  exact moves_bind (insertSession_aside env _ _) fun _ => moves_bind moves_get fun _ =>
    moves_bind (ZC_TraceData_aside _ _) fun _ => HF_SendDataToMoudle_aside env (fun _ => trivial) _ _

theorem ZC_RecvDataFromClient_aside (ClientId : Nat) (pu8Data : List UInt8) :
    Moves (Aside Device.core Event.Quiet) (ZC_RecvDataFromClient env ClientId pu8Data) := by
  refine moves_bind moves_get fun _ => moves_ite (moves_bind (refuseClient_aside env _) fun _ => moves_pure _) ?_
  refine moves_bind (modifyClient_aside _) fun _ => moves_bind moves_get fun _ => moves_bind (moves_lift _) fun _ => ?_
  refine moves_bind (modifyClientBuffer_aside _) fun _ => moves_ite ?_ (moves_pure _)
  exact moves_bind (forwardClient_aside env _) fun _ =>
    moves_bind (modifyClientBuffer_aside _) fun _ => modifyClient_aside _

theorem ZC_ClientConnect_aside (u32ClientId : Nat) : Moves (Aside Device.core P) (ZC_ClientConnect u32ClientId) := by
  refine moves_bind moves_get fun info d r d' h => ?_
  dsimp only at h
  split at h
  · exact moves_pure _ h
  · exact moves_bind (modifyClient_aside _) (fun _ => moves_pure _) h

theorem ZC_StartClientListen_aside : Moves (Aside Device.core P) (ZC_StartClientListen env) := by
  refine moves_bind moves_get fun _ => moves_ite (moves_bind ?_ fun _ => ?_) (moves_pure _)
  · refine moves_bind (draw_aside _ fun _ => rfl) fun fd d r d' h => ?_
    dsimp only at h
    split at h
    · exact moves_pure _ h
    · refine moves_bind ?_ (fun _ => moves_pure _) h
      exact modify_aside (fun _ => rfl) fun _ => rfl
  · exact moves_ite (modifyClient_aside _) (moves_pure _)

theorem EVENT_BuildOption_aside (view : List UInt8) (opts : ZC_OptList) (off : Nat) :
    Moves (Aside Device.core P) (EVENT_BuildOption view opts off) := by
  obtain ⟨transport, session⟩ := opts
  cases transport with
  | none =>
    cases session with
    | none => exact moves_bind (moves_pure _) fun _ => moves_bind (moves_pure _) fun _ => moves_pure _
    | some _ =>
      exact moves_bind (moves_pure _) fun _ => moves_bind (moves_lift _) fun _ =>
        moves_bind (storeBuild_core_aside _ _) fun _ => moves_bind (moves_pure _) fun _ => moves_pure _
  | some _ =>
    refine moves_bind (moves_lift _) fun _ => moves_bind (storeBuild_core_aside _ _) fun _ =>
      moves_bind (moves_pure _) fun _ => ?_
    cases session with
    | none => exact moves_bind (moves_pure _) fun _ => moves_pure _
    | some _ =>
      exact moves_bind (moves_lift _) fun _ => moves_bind (storeBuild_core_aside _ _) fun _ =>
        moves_bind (moves_pure _) fun _ => moves_pure _

theorem ZC_DealSessionOpt_aside (view : List UInt8) (opts : ZC_OptList) (pstruSsession pu8PayLoad : Nat) :
    Moves (Aside Device.core Event.Quiet) (ZC_DealSessionOpt env view opts pstruSsession pu8PayLoad) := by
  refine moves_bind (moves_lift _) fun _ => moves_bind moves_get fun _ => moves_ite (moves_pure _) ?_
  refine moves_bind (EVENT_BuildOption_aside _ _ _) fun _ => moves_bind (moves_lift _) fun _ =>
    moves_bind (moves_lift _) fun _ => moves_bind (storeBuild_core_aside _ _) fun _ => moves_bind moves_get fun _ => ?_
  refine moves_bind (moves_lift _) fun _ => moves_bind (moves_lift _) fun _ => moves_bind (moves_lift _) fun _ =>
    moves_bind (moves_lift _) fun _ => moves_bind (storeBuild_core_aside _ _) fun _ => moves_bind moves_get fun _ => ?_
  refine moves_bind (moves_lift _) fun _ => moves_bind (storeBuild_core_aside _ _) fun _ =>
    moves_bind (draw_aside _ fun _ => rfl) fun _ => moves_bind (storeBuild_core_aside _ _) fun _ => ?_
  exact moves_bind moves_get fun _ => moves_bind (moves_lift _) fun _ => moves_bind (HF_SendTcpData_aside _ _) fun _ =>
    modify_aside (fun _ => rfl) fun _ => rfl

theorem randLoop_aside (count : Nat) : Moves (Aside Device.core P) (randLoop env count) := by
  induction count with
  | zero => exact moves_pure _
  | succ count ih => exact moves_bind (draw_aside _ fun _ => rfl) fun _ => moves_bind ih fun _ => moves_pure _

theorem resolveCloud_aside : Moves (Aside Device.core P) (resolveCloud env) :=
  moves_bind moves_get fun _ => moves_ite (moves_pure _) (draw_aside _ fun _ => rfl)

theorem connectFailed_aside (d : Device) : Aside Device.core P d (connectFailed d) := by
  refine .of_channel ?_ ?_
  · rw [connectFailed]
    split <;> rfl
  · rw [connectFailed]
    split <;> rfl

/-- A connection to the cloud is not made, or it is and has a nonce of its own. -/
theorem HF_ConnectToCloud_cases {r : ZC_RET} {d d' : Device} (h : (HF_ConnectToCloud env).run d = .ok (r, d')) :
    r = ZC_RET_ERROR ∧ Aside Device.core P d d' ∨
      r = ZC_RET_OK ∧ ∃ d₁ RandMsg, Aside Device.core P d d₁ ∧
        d' = (d₁.withController { d₁.g_struProtocolController with RandMsg := RandMsg }).log
          (.connected RandMsg.bytes) := by
  obtain ⟨resolved, d₁, hresolve, h⟩ := run_bind_eq_ok.mp h
  have h₁ : Aside Device.core P d d₁ := resolveCloud_aside env hresolve
  split at h
  · obtain ⟨rfl, rfl⟩ := run_pure_eq_ok.mp h
    exact .inl ⟨rfl, h₁⟩
  · obtain ⟨fd, d₂, hsocket, h⟩ := run_bind_eq_ok.mp h
    have h₂ : Aside Device.core P d d₂ := Frame.trans h₁ (draw_aside _ (fun _ => rfl) hsocket)
    cases fd with
    | none =>
      obtain ⟨rfl, rfl⟩ := run_pure_eq_ok.mp h
      exact .inl ⟨rfl, h₂⟩
    | some fd =>
      obtain ⟨connected, d₃, hconnect, h⟩ := run_bind_eq_ok.mp h
      have h₃ : Aside Device.core P d d₃ := Frame.trans h₂ (draw_aside _ (fun _ => rfl) hconnect)
      split at h
      · obtain ⟨_, d₄, hfailed, h⟩ := run_bind_eq_ok.mp h
        obtain ⟨rfl, rfl⟩ := run_pure_eq_ok.mp h
        rw [run_modify_eq_ok.mp hfailed]
        exact .inl ⟨rfl, Frame.trans h₃ (connectFailed_aside _)⟩
      · obtain ⟨_, d₄, hfd, h⟩ := run_bind_eq_ok.mp h
        obtain ⟨RandMsg, d₅, hrand, h⟩ := run_bind_eq_ok.mp h
        obtain ⟨_, d₆, hset, h⟩ := run_bind_eq_ok.mp h
        obtain ⟨_, d₇, hlog, h⟩ := run_bind_eq_ok.mp h
        obtain ⟨rfl, rfl⟩ := run_pure_eq_ok.mp h
        have h₄ : Aside Device.core P d₃ d₄ := by
          rw [run_modify_eq_ok.mp hfd]
          exact .of_channel rfl rfl
        have h₅ : Aside Device.core P d₄ d₅ :=
          moves_bind (randLoop_aside env _) (fun _ => moves_lift _) hrand
        refine .inr ⟨rfl, d₅, RandMsg, Frame.trans h₃ (Frame.trans h₄ h₅), ?_⟩
        rw [run_modify_eq_ok.mp hlog, run_modify_eq_ok.mp hset]

/-- The event of taking a message from the receive queue. -/
def Event.Taken : Event → Prop
  | .taken _ => True
  | _ => False

theorem popMessage_aside : Moves (Aside Device.core Event.Taken) (popMessage env) := by
  refine moves_get_bind fun d r d' h => ?_
  have hpop := (MSG_Queue.pop_eq d.g_struRecvQueue).2
  generalize MSG_PopMsg d.g_struRecvQueue = pop at h hpop
  obtain ⟨addr, queue⟩ := pop
  obtain ⟨_, d₁, hset, h⟩ := run_bind_eq_ok.mp h
  have h₁ : Aside Device.core Event.Taken d d₁ := by
    rw [run_modify_eq_ok.mp hset]
    refine setRecvQueue_aside queue fun hd addr haddr => hd.recv addr ?_
    dsimp only at hpop
    rw [hpop] at haddr
    exact List.mem_of_mem_tail haddr
  refine Frame.trans h₁ ?_
  cases addr with
  | none => exact moves_pure _ h
  | some addr =>
    exact moves_bind (draw_aside _ fun _ => rfl)
      (fun _ => moves_bind (logEvent_aside (fun _ => rfl) trivial rfl) fun _ => moves_pure _) h

/-- The message that is taken lies in the receive buffer. -/
theorem popMessage_some {addr : BufferAddr} {view : List UInt8} {d d' : Device} (hd : d.Owned)
    (h : (popMessage env).run d = .ok (some (addr, view), d')) :
    addr = .g_struRecvBuffer ∧ d.g_struRecvQueue.toList ≠ [] ∧
      view = d.g_struRecvBuffer.u8MsgBuffer.bytes ++ env.beyond d.clock ∧ d'.trace = .taken view :: d.trace := by
  rw [popMessage, run_get_bind] at h
  have hpop := (MSG_Queue.pop_eq d.g_struRecvQueue).1
  generalize MSG_PopMsg d.g_struRecvQueue = pop at h hpop
  obtain ⟨addr', queue⟩ := pop
  obtain ⟨_, d₁, hset, h⟩ := run_bind_eq_ok.mp h
  cases addr' with
  | none =>
    obtain ⟨heq, -⟩ := run_pure_eq_ok.mp h
    cases heq
  | some addr' =>
    obtain ⟨beyond, d₂, hdraw, h⟩ := run_bind_eq_ok.mp h
    obtain ⟨_, d₃, hlog, h⟩ := run_bind_eq_ok.mp h
    obtain ⟨heq, rfl⟩ := run_pure_eq_ok.mp h
    cases heq
    obtain ⟨hbeyond, hd₂⟩ := run_draw_eq_ok.mp hdraw
    have hmem : addr ∈ d.g_struRecvQueue.toList := List.mem_of_mem_head? hpop.symm
    obtain rfl := hd.recv _ hmem
    refine ⟨rfl, List.ne_nil_of_mem hmem, ?_, ?_⟩
    · rw [hbeyond, run_modify_eq_ok.mp hset]
      rfl
    · rw [run_modify_eq_ok.mp hlog, hd₂, run_modify_eq_ok.mp hset]
      rfl

theorem releaseBuffer_aside : Moves (Aside Device.core P) (releaseBuffer .g_struRecvBuffer) :=
  modify_aside (fun _ => rfl) fun _ => rfl

/-- The events at the end of a file. -/
def Event.End : Event → Prop
  | .finish .. => True
  | .toMoudle (.notify u8NotifyCode) _ => u8NotifyCode = ZC_CODE_ZOTA_END
  | _ => False

theorem HF_FirmwareUpdateFinish_aside (u32TotalLen : Nat) :
    Moves (Aside Device.core Event.End) (HF_FirmwareUpdateFinish u32TotalLen) :=
  moves_bind moves_get fun _ => moves_bind (logEvent_aside (fun _ => rfl) trivial rfl) fun _ =>
    moves_bind (callFwup_aside _) fun _ => moves_pure _

theorem PCT_ModuleOtaFileEndMsg_aside :
    Moves (Aside Device.core fun e => e.Quiet ∨ e.End) (PCT_ModuleOtaFileEndMsg env) := by
  have hanswer {x : Prog Device Unit} (h : Moves (Aside Device.core Event.Quiet) x) :
      Moves (Aside Device.core fun e => e.Quiet ∨ e.End) x := moves_mono h fun h => h.mono id fun _ => Or.inl
  refine moves_bind getController_aside fun _ => moves_bind ?_ fun _ => moves_ite ?_ ?_
  · exact moves_mono (HF_FirmwareUpdateFinish_aside _) fun h => h.mono id fun _ => Or.inr
  · exact hanswer (answerMoudle_aside env).2
  · exact hanswer (answerMoudle_aside env).1

theorem PCT_HandleOtaEndMsg_aside (view : List UInt8) :
    Moves (Aside Device.core fun e => e.Bystander ∨ e.End) (PCT_HandleOtaEndMsg env view) := by
  have hanswer {x : Prog Device Unit} (h : Moves (Aside Device.core Event.Bystander) x) :
      Moves (Aside Device.core fun e => e.Bystander ∨ e.End) x := moves_mono h fun h => h.mono id fun _ => Or.inl
  refine moves_bind getController_aside fun _ => moves_bind ?_ fun _ => moves_ite ?_ ?_
  · exact moves_mono (HF_FirmwareUpdateFinish_aside _) fun h => h.mono id fun _ => Or.inr
  · exact moves_bind (moves_lift _) fun _ => hanswer (answerCloud_aside env _).2
  · refine moves_bind (moves_lift _) fun _ => moves_bind (hanswer (answerCloud_aside env _).1) fun _ => ?_
    exact moves_mono (PCT_SendNotifyMsg_aside env (P := Event.End) rfl) fun h => h.of_unsent.mono id fun _ => Or.inr

end

end ZCloud
