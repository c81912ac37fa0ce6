import ZCloud.Fwup.RequestFault
import ZCloud.ProtocolController.Loopback
import ZCloud.ProtocolController.OtaEnd

open Memory Program

namespace ZCloud

/-- A frame that waits to be sent carries a message with the number `MsgId`. -/
def Device.Answers (env : Env) (MsgId : UInt8) (d : Device) : Prop :=
  ∃ plain u8Resver, plain[1]? = some MsgId ∧ d.secrets.frame env.toCipher ZC_SEC_ALG_AES plain u8Resver ∈ d.pending

/-- What is sent to the cloud can be put in a frame: there is a session key and an idle buffer. -/
structure Device.CanSend (d : Device) : Prop where
  sendable : d.Sendable
  recved : d.secrets.u8keyRecv = PCT_KEY_RECVED
  idle : ∃ i, (d.g_struSendBuffer i).u8Status = MSG_BUFFER_IDLE

/-- The send queue is in order, and an answer waits in it. -/
structure Device.Answering (env : Env) (MsgId : UInt8) (d : Device) : Prop where
  sendable : d.Sendable
  answers : d.Answers env MsgId

/-- What of the globals decides how a message to the cloud is sent. -/
def Device.outgoing (d : Device) := (d.sendChannel, d.secrets)

section

variable (env : Env) {d d' : Device} {MsgId : UInt8}

theorem Device.CanSend.congr (h : d.CanSend) (hsame : d'.outgoing = d.outgoing) : d'.CanSend := by
  simp only [Device.outgoing, Device.sendChannel, Prod.mk.injEq] at hsame
  obtain ⟨⟨hqueue, hbuffer⟩, hsecrets⟩ := hsame
  obtain ⟨i, hi⟩ := h.idle
  exact ⟨(h.sendable.congr hqueue fun j _ => congrFun hbuffer j).1, by rw [hsecrets]; exact h.recved, i,
    by rw [hbuffer]; exact hi⟩

/-- What leaves the way out to the cloud alone leaves it open. -/
theorem ensures_canSend {α : Type} {x : Prog Device α} (hx : Returns x) (hkeeps : Keeps Device.outgoing x) :
    Ensures Device.CanSend x Device.CanSend :=
  ensures_of_returns hx fun _ _ _ h hd => hd.congr (hkeeps h)

/-- More messages are sent, to the cloud or to the module. -/
theorem Device.Answering.of_aside {P : Event → Prop} (hd : d.Answering env MsgId) (h : Aside Device.unsent P d d') :
    d'.Answering env MsgId := by
  obtain ⟨es, -, -, hsend⟩ := h.logs
  obtain ⟨hsendable, hpending⟩ := hsend hd.sendable
  obtain ⟨plain, u8Resver, hid, hframe⟩ := hd.answers
  refine ⟨hsendable, plain, u8Resver, hid, ?_⟩
  rw [secrets_of_unsent h.view_eq, hpending]
  exact List.mem_append_left _ hframe

/-- With its key, every message of type AES can be sealed. -/
theorem canSeal_aes {s : Secrets} (hkey : s.u8keyRecv = PCT_KEY_RECVED) : s.CanSeal ZC_SEC_ALG_AES :=
  (u8SecFlag_aes s.u32SecSwitch).imp_right fun haes => ⟨haes, hkey⟩

theorem SEC_PaddingCheck_aes_le (u32SecSwitch len : Nat) :
    SEC_PaddingCheck u32SecSwitch ZC_SEC_ALG_AES len ≤ ZC_SEC_AES_BLOCK_SIZE := by
  have hsize : ZC_SEC_AES_BLOCK_SIZE = 16 := rfl
  rw [SEC_PaddingCheck]
  obtain hflag | hflag := u8SecFlag_aes u32SecSwitch
  · rw [hflag]
    exact Nat.zero_le _
  · rw [hflag, if_pos rfl, hsize]
    dsimp only
    split <;> omega

/-- A message without a payload is queued under its number. -/
theorem sendBuilt_answers (u8MsgCode : ZC_MsgCode) (u8MsgId : UInt8) :
    Ensures Device.CanSend (sendBuilt env ZC_SEC_ALG_AES (EVENT_BuildMsg u8MsgCode u8MsgId []))
      (Device.Answering env u8MsgId) := by
  intro d hd
  have hmax : MSG_BUFFER_MAXLEN = 600 := rfl
  have hhead : sizeof_ZC_SecHead = 4 := rfl
  have hsize : ZC_SEC_AES_BLOCK_SIZE = 16 := rfl
  have hlen : (EVENT_BuildMsg u8MsgCode u8MsgId []).length = 8 := length_EVENT_BuildMsg ..
  have hpadding := SEC_PaddingCheck_aes_le d.secrets.u32SecSwitch (EVENT_BuildMsg u8MsgCode u8MsgId []).length
  obtain ⟨i, hi⟩ : ∃ i, idleSendBuffer d = some i := by
    obtain ⟨i, hi⟩ := hd.idle
    exact Option.isSome_iff_exists.mp (List.find?_isSome.mpr ⟨i, List.mem_finRange i, decide_eq_true hi⟩)
  obtain ⟨d', hrun, hqueued, hframe⟩ := @run_PCT_SendMsgToCloud_sealed env _ _ (EVENT_BuildMsg u8MsgCode u8MsgId []) _ _ hi
    (canSeal_aes hd.recved) (Nat.le_refl _) (by omega)
  obtain ⟨hsendable, hpending, -⟩ := hqueued.pending_eq hd.sendable
  refine ⟨_, d', hrun, hsendable, EVENT_BuildMsg u8MsgCode u8MsgId [], env.stack d.clock, rfl, ?_⟩
  rw [secrets_of_unsent hqueued.unsent_eq, hpending, hframe, List.take_length]
  exact List.mem_append_right _ List.mem_cons_self

theorem PCT_SendEmptyMsg_answers (u8MsgId : UInt8) :
    Ensures Device.CanSend (PCT_SendEmptyMsg env u8MsgId ZC_SEC_ALG_AES) (Device.Answering env u8MsgId) :=
  ensures_bind (sendBuilt_answers env ZC_CODE_EMPTY u8MsgId) fun _ d hd => ⟨_, d, rfl, hd⟩

theorem buildMsg_sends (u8MsgCode : ZC_MsgCode) (u8MsgId : UInt8) :
    Ensures Device.CanSend (do let _ ← sendBuilt env ZC_SEC_ALG_AES (← buildMsg u8MsgCode u8MsgId []))
      (Device.Answering env u8MsgId) := by
  intro d hd
  obtain ⟨m, hbuild⟩ := buildMsg_returns u8MsgCode u8MsgId d
  have hd₁ : (d.withBuild m).CanSend := hd.congr rfl
  obtain ⟨r, d₂, hsend, hd₂⟩ := sendBuilt_answers env u8MsgCode u8MsgId hd₁
  exact ⟨_, d₂, run_bind_eq_ok.mpr ⟨_, _, hbuild, run_bind_eq_ok.mpr ⟨r, d₂, hsend, rfl⟩⟩, hd₂⟩

theorem PCT_SendAckToCloud_answers (u8MsgId : UInt8) :
    Ensures Device.CanSend (PCT_SendAckToCloud env u8MsgId) (Device.Answering env u8MsgId) :=
  buildMsg_sends env ZC_CODE_ACK u8MsgId

theorem PCT_SendErrorMsg_answers (u8MsgId : UInt8) :
    Ensures Device.CanSend (PCT_SendErrorMsg env u8MsgId []) (Device.Answering env u8MsgId) :=
  buildMsg_sends env ZC_CODE_ERR u8MsgId

/-- An answer waits on while more is sent. -/
theorem ensures_answering {α : Type} {P : Event → Prop} {x : Prog Device α} (hx : Returns x)
    (haside : Moves (Aside Device.unsent P) x) : Ensures (Device.Answering env MsgId) x (Device.Answering env MsgId) :=
  ensures_of_returns hx fun _ _ _ h hd => hd.of_aside env (haside h)

/-- An acknowledgement, and then a notification of the module. -/
theorem ack_notify_answers (u8MsgId : UInt8) (u8NotifyCode : ZC_MsgCode) :
    Ensures (fun d => d.CanSend ∧ d.CanNotify env) (do
      PCT_SendAckToCloud env u8MsgId
      PCT_SendNotifyMsg env u8NotifyCode) (Device.Answering env u8MsgId) := by
  refine ensures_bind (ensures_and (PCT_SendAckToCloud_answers env u8MsgId) fun _ _ _ h =>
    (moves_canNotify env (PCT_SendAckToCloud_moudleMsgs env u8MsgId) h).mpr) fun _ => ?_
  rintro d ⟨hanswering, hnotify⟩
  obtain ⟨_, d', hrun, -⟩ := notify_returns env u8NotifyCode hnotify
  exact ⟨(), d', hrun, hanswering.of_aside env (PCT_SendNotifyMsg_aside env (P := fun _ => True) trivial hrun)⟩

theorem ack_notify_requires (u8MsgId : UInt8) (u8NotifyCode : ZC_MsgCode) : Requires (Device.CanNotify env) (do
    PCT_SendAckToCloud env u8MsgId
    PCT_SendNotifyMsg env u8NotifyCode) :=
  requires_bind_right (fun _ _ _ h => (moves_canNotify env (PCT_SendAckToCloud_moudleMsgs env u8MsgId) h).mp) fun _ =>
    notify_requires env u8NotifyCode

theorem callFwup_returns {α : Type} {x : Prog Fwup α} (hx : Returns x) : Returns (callFwup x) := by
  intro d
  obtain ⟨a, fwup, hrun⟩ := hx d.fwup
  exact ⟨a, d.withFwup fwup, run_callFwup hrun⟩

theorem getController_returns : Returns getController := fun d => ⟨_, d, rfl⟩

theorem getController_outgoing : Keeps Device.outgoing getController := moves_bind moves_get fun _ => moves_pure _

theorem tls_fwup_exit_returns (session_id : Nat) : Returns (tls_fwup_exit session_id) :=
  returns_get_bind fun _ => returns_ite (returns_pure _) <| returns_ite (returns_pure _) <|
    returns_ite (returns_pure _) (returns_bind (returns_set _) fun _ => returns_pure _)

theorem HF_FirmwareUpdateFinish_canSend (u32TotalLen : Nat) :
    Ensures Device.CanSend (HF_FirmwareUpdateFinish u32TotalLen) Device.CanSend := by
  refine ensures_canSend ?_ ?_
  · exact returns_get_bind fun _ => returns_bind (returns_modify _) fun _ =>
      returns_bind (callFwup_returns (tls_fwup_exit_returns _)) fun _ => returns_pure _
  · exact moves_bind moves_get fun _ => moves_bind (moves_modify fun _ => rfl) fun _ =>
      moves_bind (callFwup_keeps (fun _ _ => rfl) _) fun _ => moves_pure _

theorem HF_FirmwareUpdateFinish_moudleMsgs (u32TotalLen : Nat) :
    Keeps Device.moudleMsgs (HF_FirmwareUpdateFinish u32TotalLen) :=
  moves_bind moves_get fun _ => moves_bind (moves_modify fun _ => rfl) fun _ =>
    moves_bind (callFwup_keeps (fun _ _ => rfl) _) fun _ => moves_pure _

theorem modifyOtaInfo_outgoing (f : PTC_OtaInfo → PTC_OtaInfo) :
    Keeps Device.outgoing (modifyController fun c => { c with struOtaInfo := f c.struOtaInfo }) :=
  moves_modify fun _ => rfl

/-- The file is noted when its announcement is whole. -/
theorem beginFile_canSend {pstruOta : List UInt8} (h : 8 ≤ pstruOta.length) :
    Ensures Device.CanSend (beginFile pstruOta) Device.CanSend := by
  obtain ⟨n, hn⟩ := @exists_loadU32 pstruOta 4 h
  obtain ⟨crc₀, hcrc₀⟩ := @exists_loadU8 pstruOta 2 (by omega)
  obtain ⟨crc₁, hcrc₁⟩ := @exists_loadU8 pstruOta 3 (by omega)
  refine ensures_lift_bind hn (ensures_lift_bind hcrc₀ (ensures_lift_bind hcrc₁ (ensures_canSend ?_ ?_)))
  · exact returns_bind (returns_modify _) fun _ => returns_modify _
  · exact moves_bind (modifyOtaInfo_outgoing fun _ => ⟨ZC_HTONL n, 0, (crc₀, crc₁)⟩) fun _ => moves_modify fun _ => rfl

section

variable {view : List UInt8} (hview : MSG_BUFFER_MAXLEN ≤ view.length) (hid : pstruMsgId view = .ok MsgId)

include hid

theorem PCT_HandleOtaBeginMsg_answers :
    Ensures (fun d => d.CanSend ∧ d.CanNotify env) (PCT_HandleOtaBeginMsg env view) (Device.Answering env MsgId) :=
  ensures_lift_bind hid (ack_notify_answers env MsgId _)

theorem PCT_HandleOtaFileEndMsg_answers :
    Ensures Device.CanSend (PCT_HandleOtaFileEndMsg env view) (Device.Answering env MsgId) :=
  ensures_lift_bind hid (PCT_SendAckToCloud_answers env MsgId)

theorem PCT_HandleOtaEndMsg_answers :
    Ensures (fun d => d.CanSend ∧ d.CanNotify env) (PCT_HandleOtaEndMsg env view) (Device.Answering env MsgId) := by
  refine ensures_bind (ensures_and (ensures_canSend getController_returns getController_outgoing) fun _ _ _ h =>
    (moves_canNotify env (moves_bind moves_get fun _ => moves_pure _) h).mpr) fun c => ?_
  refine ensures_bind (ensures_and (HF_FirmwareUpdateFinish_canSend _) fun _ _ _ h =>
    (moves_canNotify env (HF_FirmwareUpdateFinish_moudleMsgs _) h).mpr) fun u32RetVal => ?_
  cases u32RetVal with
  | ZC_RET_OK => exact ensures_lift_bind hid (ack_notify_answers env MsgId _)
  | ZC_RET_ERROR =>
    intro d hd
    exact ensures_lift_bind hid (PCT_SendErrorMsg_answers env MsgId) hd.1

theorem PCT_HandleOtaBeginMsg_requires : Requires (Device.CanNotify env) (PCT_HandleOtaBeginMsg env view) := by
  rw [PCT_HandleOtaBeginMsg, hid, lift_ok, pure_bind]
  exact ack_notify_requires env MsgId _

/-- The end of a file is told to the module, since `HF_FirmwareUpdateFinish` never fails. -/
theorem PCT_HandleOtaEndMsg_requires : Requires (Device.CanNotify env) (PCT_HandleOtaEndMsg env view) := by
  intro d _ d' h
  rw [PCT_HandleOtaEndMsg, getController, bind_assoc, run_get_bind, pure_bind] at h
  obtain ⟨r, d₁, hfinish, h⟩ := run_bind_eq_ok.mp h
  obtain ⟨rfl, -⟩ := HF_FirmwareUpdateFinish_spec hfinish
  rw [if_neg (by decide), hid, lift_ok, pure_bind] at h
  exact (moves_canNotify env (HF_FirmwareUpdateFinish_moudleMsgs _) hfinish).mp (ack_notify_requires env MsgId _ h)

include hview

theorem PCT_HandleOtaFileBeginMsg_answers :
    Ensures Device.CanSend (PCT_HandleOtaFileBeginMsg env view) (Device.Answering env MsgId) := by
  have hmax : MSG_BUFFER_MAXLEN = 600 := rfl
  have hhead : sizeof_ZC_MessageHead = 8 := rfl
  refine ensures_bind (beginFile_canSend ?_) fun _ => ensures_lift_bind hid (PCT_SendAckToCloud_answers env MsgId)
  rw [List.length_drop]
  omega

end

/-- A chunk is answered whatever becomes of it, if the firmware update returns. -/
theorem takenChunk_outgoing (view : List UInt8) : Keeps Device.outgoing (takenChunk (HF_FirmwareUpdate env) view) := by
  have hrequest (data : List UInt8) : Keeps Device.outgoing (do
      let retval ← callFwup (tls_fwup_request_sync env.toFwupEnv (← get).g_u32session_id data)
      return if retval.code < 0 then ZC_RET_ERROR else ZC_RET_OK) :=
    moves_bind moves_get fun _ => moves_bind (callFwup_keeps (fun _ _ => rfl) _) fun _ => moves_pure _
  have hupdate (data : List UInt8) (off : Nat) : Keeps Device.outgoing (HF_FirmwareUpdate env data off) := by
    refine moves_ite (moves_bind ?_ fun _ => moves_bind (callFwup_keeps (fun _ _ => rfl) _) fun _ => ?_) (hrequest data)
    · exact moves_mono (draw_ticks _) fun ⟨_, h⟩ => by rw [h]; rfl
    · exact moves_bind (moves_modify fun _ => rfl) fun _ => moves_ite (moves_pure _) (hrequest data)
  refine moves_bind (moves_lift _) fun Payloadlen => moves_bind (moves_lift _) fun _ =>
    moves_bind getController_outgoing fun _ => moves_ite (moves_pure _) ?_
  refine moves_bind (moves_lift _) fun _ => moves_bind (hupdate _ _) fun _ => moves_bind (moves_modify fun _ => rfl) fun _ => ?_
  exact moves_ite (moves_pure _) (moves_bind (modifyOtaInfo_outgoing fun ota =>
    { ota with u32RecvOffset := u32 (ota.u32RecvOffset + u32Sub Payloadlen sizeof_ZC_OtaFileChunkReq) }) fun _ => moves_pure _)

theorem Answer.give_answers (taken : Bool) :
    Ensures Device.CanSend ((answerCloud env MsgId).give taken) (Device.Answering env MsgId) := by
  cases taken
  · exact PCT_SendErrorMsg_answers env MsgId
  · exact PCT_SendAckToCloud_answers env MsgId

theorem PCT_HandleOtaFileChunkMsg_answers {view : List UInt8} (hvalid : validMsg view) (hid : pstruMsgId view = .ok MsgId)
    (hd : d.CanSend) (hreturns : ∃ r, (takenChunk (HF_FirmwareUpdate env) view).run d = .ok r) :
    ∃ d', (PCT_HandleOtaFileChunkMsg env (HF_FirmwareUpdate env) view).run d = .ok ((), d') ∧ d'.Answering env MsgId := by
  obtain ⟨⟨taken, d₁⟩, hrun⟩ := hreturns
  obtain ⟨_, d', hgive, hd'⟩ := Answer.give_answers env taken (hd.congr (takenChunk_outgoing env view hrun))
  refine ⟨d', ?_, hd'⟩
  rw [PCT_HandleOtaFileChunkMsg_eq hvalid hid]
  exact run_bind_eq_ok.mpr ⟨taken, d₁, hrun, hgive⟩

theorem HF_SetTimer_outgoing (u8Type : PCT_TIMER) (pu8TimeIndex : TimerHandle) :
    Keeps Device.outgoing (HF_SetTimer env u8Type pu8TimeIndex) := by
  refine moves_bind moves_get fun d => ?_
  cases TIMER_FindIdleTimer d with
  | none => exact moves_pure _
  | some i =>
    refine moves_bind (moves_mono (draw_ticks _) fun ⟨_, h⟩ => by rw [h]; rfl) fun timer => ?_
    cases timer with
    | none => exact moves_bind (moves_modify fun _ => rfl) fun _ => moves_pure _
    | some timer =>
      refine moves_bind (moves_modify fun _ => rfl) fun _ => moves_bind (moves_modify fun _ => rfl) fun _ =>
        moves_bind (moves_modify fun d => ?_) fun _ => moves_pure _
      cases pu8TimeIndex <;> rfl

theorem stopHandle_outgoing (h : TimerHandle) : Keeps Device.outgoing (stopHandle h) := by
  refine moves_bind getController_outgoing fun _ => moves_ite (moves_bind moves_get fun d => ?_) (moves_pure _)
  cases d.timerIndex (.handle h) with
  | none => exact moves_throw _
  | some i =>
    exact moves_bind (moves_modify fun _ => rfl) fun _ => moves_bind (moves_modify fun _ => rfl) fun _ =>
      moves_modify fun _ => rfl

theorem stopHandle_returns (h : TimerHandle) : Returns (stopHandle h) := by
  intro d
  cases hhandle : d.g_struProtocolController.handle h with
  | none =>
    refine ⟨(), d, ?_⟩
    simp only [stopHandle, getController, run_bind, run_get, run_pure, ok_bind, hhandle, Option.isSome_none, Bool.false_eq_true,
      if_false]
  | some i =>
    have hindex : d.timerIndex (.handle h) = some i := hhandle
    have hstop : ∃ d', (TIMER_StopTimer (.handle h)).run d = .ok ((), d') := by
      rw [TIMER_StopTimer, run_get_bind, hindex]
      exact ⟨_, rfl⟩
    obtain ⟨d', hstop⟩ := hstop
    refine ⟨(), d', ?_⟩
    simp only [stopHandle, getController, run_bind, run_get, run_pure, ok_bind, hhandle, Option.isSome_some, if_true, hstop]

theorem restartHeart_canSend : Ensures Device.CanSend (restartHeart env) Device.CanSend := by
  refine ensures_canSend ?_ ?_
  · exact returns_bind (stopHandle_returns _) fun _ => returns_bind (HF_SetTimer_returns env _ _) fun _ => returns_pure _
  · exact moves_bind (stopHandle_outgoing _) fun _ => moves_bind (HF_SetTimer_outgoing env _ _) fun _ => moves_pure _

/-- What a handler needs of the globals: an answer can be sent, no flash operation
holds the lock, and the message is no longer than its buffer. -/
structure Device.Receptive (d : Device) : Prop where
  canSend : d.CanSend
  lock : d.fwup.fls.fls_lock ≠ 0
  len_le : d.g_struRecvBuffer.u32Len ≤ MSG_BUFFER_MAXLEN

theorem HF_SendDataToMoudle_canSend {source : MoudleMsg} {data msg : List UInt8} {len : Nat} (hload : load data 0 len = .ok msg) :
    Ensures (fun d => d.CanSend ∧ d.CanNotify env) (HF_SendDataToMoudle env source data len) Device.CanSend :=
  fun _ hd => ⟨(), _, run_HF_SendDataToMoudle env hd.2 hload, hd.1.congr rfl⟩

theorem HF_SendDataToMoudle_requires (source : MoudleMsg) (data : List UInt8) (len : Nat) :
    Requires (Device.CanNotify env) (HF_SendDataToMoudle env source data len) :=
  fun _ _ _ h => (run_HF_SendDataToMoudle_eq_ok env h).1

/-- A request is handed to the module, whoever has sent it. -/
theorem PCT_HandleMoudleMsg_canSend {view : List UInt8} (hview : MSG_BUFFER_MAXLEN ≤ view.length) :
    Ensures (fun d => d.Receptive ∧ d.CanNotify env) (PCT_HandleMoudleMsg env .g_struRecvBuffer view) Device.CanSend := by
  rintro d ⟨hd, hnotify⟩
  have hmax : MSG_BUFFER_MAXLEN = 600 := rfl
  obtain ⟨ret, d₁, htimer⟩ := HF_SetTimer_returns env PCT_TIMER_SENDMOUDLE .u8SendMoudleTimer d
  have hd₁ : d₁.CanSend := hd.canSend.congr (HF_SetTimer_outgoing env _ _ htimer)
  have hnotify₁ : d₁.CanNotify env := (moves_canNotify env (HF_SetTimer_keeps untimed_moudleMsgs env _ _) htimer).mpr hnotify
  have hrecv : d₁.g_struRecvBuffer = d.g_struRecvBuffer :=
    @HF_SetTimer_keeps _ (fun d : Device => d.g_struRecvBuffer) (fun _ _ _ _ _ _ _ => rfl) env _ _ _ _ _ htimer
  have hlen := hd.len_le
  rw [← hrecv] at hlen
  obtain ⟨m, hm, -⟩ := @Mem.memcpy_spec _ d₁.g_struRetxBuffer.u8MsgBuffer 0 _ d₁.g_struRecvBuffer.u8MsgBuffer.bytes
    (show d₁.g_struRecvBuffer.u32Len ≤ _ by rw [Mem.length_bytes]; exact hlen) (by omega)
  have hload : load view 0 (u16 d₁.g_struRecvBuffer.u32Len) = .ok (view.take (u16 d₁.g_struRecvBuffer.u32Len)) := by
    rw [u16_of_lt (by omega), load_of_le (by omega), List.drop_zero]
  have hmodify (f : Device → Device) (hf : ∀ d, (f d).outgoing = d.outgoing) (hmsgs : ∀ d, (f d).moudleMsgs = d.moudleMsgs) :
      Ensures (fun d => d.CanSend ∧ d.CanNotify env) (modify f) fun d => d.CanSend ∧ d.CanNotify env :=
    ensures_and (ensures_canSend (returns_modify _) (moves_modify hf)) fun _ _ _ h =>
      (moves_canNotify env (moves_modify hmsgs) h).mpr
  rw [PCT_HandleMoudleMsg, run_bind_of_ok htimer, run_get_bind]
  refine (ensures_lift_bind hm ?_ : Ensures (fun d => d.CanSend ∧ d.CanNotify env) _ Device.CanSend) ⟨hd₁, hnotify₁⟩
  refine ensures_bind (hmodify _ (fun _ => rfl) fun _ => rfl) fun _ => ensures_bind (hmodify _ (fun _ => rfl) fun _ => rfl) fun _ => ?_
  exact ensures_bind (HF_SendDataToMoudle_canSend env hload) fun _ => restartHeart_canSend env

theorem PCT_HandleMoudleMsg_requires (addr : BufferAddr) (view : List UInt8) :
    Requires (Device.CanNotify env) (PCT_HandleMoudleMsg env addr view) := by
  have hkeeps {α : Type} {x : Prog Device α} (hx : Keeps Device.moudleMsgs x) :
      Moves (fun d d' : Device => d'.CanNotify env → d.CanNotify env) x := fun _ _ _ h => (moves_canNotify env hx h).mp
  refine requires_bind_right (hkeeps (HF_SetTimer_keeps untimed_moudleMsgs env _ _)) fun _ =>
    requires_bind_right (hkeeps moves_get) fun _ => requires_bind_right (hkeeps (moves_lift _)) fun _ => ?_
  refine requires_bind_right (hkeeps (moves_modify fun _ => rfl)) fun _ =>
    requires_bind_right (hkeeps (moves_modify fun _ => rfl)) fun _ => ?_
  exact requires_bind (HF_SendDataToMoudle_requires env _ _ _)

theorem ZC_StoreTokenKey_canSend {pu8Data : List UInt8} (h : ZC_HS_SESSION_KEY_LEN ≤ pu8Data.length) :
    Ensures Device.Receptive (ZC_StoreTokenKey env pu8Data) Device.CanSend := by
  obtain ⟨m, hm⟩ : ∃ m : Mem ZC_HS_SESSION_KEY_LEN, loadMem pu8Data 0 _ = .ok m := exists_loadMem (by omega)
  refine ensures_lift_bind hm fun d hd => ?_
  let d₁ : Device := { d with g_struZcConfigDb := { d.g_struZcConfigDb with
    struCloudInfo := { d.g_struZcConfigDb.struCloudInfo with u8TokenKey := m } } }
  have hd₁ : d₁.CanSend := hd.canSend.congr rfl
  have hlen : d₁.g_struZcConfigDb.toBytes.length = sizeof_ZC_ConfigDB := length_configDB _
  obtain ⟨st, fls, hwrite⟩ := @tls_fls_write_returns env.toFlsEnv d₁.fwup.fls USER_FLASH_PARAM1_ADDR d₁.g_struZcConfigDb.toBytes
    hd.lock (by decide) (by rw [hlen]; decide) (by rw [hlen]; decide) (by rw [hlen]; decide)
  have hcall : (callFls (tls_fls_write env.toFlsEnv USER_FLASH_PARAM1_ADDR d₁.g_struZcConfigDb.toBytes)).run d₁.fwup =
      .ok (st, d₁.fwup.withFls fls) := run_zoom hwrite
  have hrun : (writeConfig env).run d₁ = .ok ((), d₁.withFwup (d₁.fwup.withFls fls)) := by
    rw [writeConfig, run_get_bind, HF_WriteDataToFlash, run_bind, run_callFwup hcall]
    rfl
  exact ⟨(), _, hrun, hd₁.congr rfl⟩

theorem PCT_SetTokenKey_answers {view : List UInt8} (hview : MSG_BUFFER_MAXLEN ≤ view.length) (hid : pstruMsgId view = .ok MsgId) :
    Ensures Device.Receptive (PCT_SetTokenKey env view) (Device.Answering env MsgId) := by
  have hmax : MSG_BUFFER_MAXLEN = 600 := rfl
  have hhead : sizeof_ZC_MessageHead = 8 := rfl
  have hkey : ZC_HS_SESSION_KEY_LEN = 16 := rfl
  refine ensures_bind (ZC_StoreTokenKey_canSend env (by rw [List.length_drop]; omega)) fun _ => ensures_lift_bind hid ?_
  exact ensures_bind (PCT_SendEmptyMsg_answers env MsgId) fun _ =>
    ensures_answering env (fun d => ⟨(), PCT_SendAckToCloud_returns env MsgId d⟩) (PCT_SendAckToCloud_aside env MsgId)

/-- No message of type AES can be put in a frame, and none waits. -/
structure Device.Mute (d : Device) : Prop where
  queue_eq : d.g_struSendQueue.toList = []
  unrecved : d.secrets.u8keyRecv = PCT_KEY_UNRECVED
  secure : d.secrets.u32SecSwitch = 1

theorem Device.Mute.congr (h : d.Mute) (hsame : d'.outgoing = d.outgoing) : d'.Mute := by
  simp only [Device.outgoing, Device.sendChannel, Prod.mk.injEq] at hsame
  obtain ⟨⟨hqueue, -⟩, hsecrets⟩ := hsame
  exact ⟨by rw [hqueue]; exact h.queue_eq, by rw [hsecrets]; exact h.unrecved, by rw [hsecrets]; exact h.secure⟩

theorem Device.Mute.not_answers (h : d.Mute) : ¬ d.Answers env MsgId := by
  rintro ⟨plain, u8Resver, -, hframe⟩
  rw [Device.pending, h.queue_eq] at hframe
  exact absurd hframe List.not_mem_nil

theorem sendBuilt_mute (msg : List UInt8) : Moves (fun d d' : Device => d.Mute → d'.Mute) (sendBuilt env ZC_SEC_ALG_AES msg) := by
  intro d r d' h hd
  obtain ⟨-, hnot⟩ | ⟨rfl, -⟩ := PCT_SendMsgToCloud_cases h
  · refine ⟨by rw [hnot.queue_eq]; exact hd.queue_eq, ?_, ?_⟩
    · rw [secrets_of_unsent hnot.unsent_eq]
      exact hd.unrecved
    · rw [secrets_of_unsent hnot.unsent_eq]
      exact hd.secure
  · obtain ⟨-, hnone | ⟨-, hkey⟩⟩ := canSeal_of_sent (.inr rfl) h
    · rw [hd.secure] at hnone
      exact absurd hnone (by decide)
    · cases hd.unrecved.symm.trans hkey

theorem buildMsg_outgoing (u8MsgCode : ZC_MsgCode) (u8MsgId : UInt8) (pu8Payload : List UInt8) :
    Keeps Device.outgoing (buildMsg u8MsgCode u8MsgId pu8Payload) := by
  refine moves_bind (fun d r d' h => ?_) fun _ => moves_pure _
  obtain ⟨m, -, rfl⟩ := run_storeBuild_eq_ok h
  rfl

theorem notify_outgoing (u8NotifyCode : ZC_MsgCode) : Keeps Device.outgoing (PCT_SendNotifyMsg env u8NotifyCode) :=
  moves_bind (buildMsg_outgoing _ _ _) fun _ => HF_SendDataToMoudle_keeps env (fun _ _ _ => rfl) _ _ _

/-- A request to reset the network disconnects before it is answered. -/
theorem PCT_ResetNetWork_mute {view : List UInt8} (h : (PCT_ResetNetWork env view).run d = .ok ((), d')) : d'.Mute := by
  obtain ⟨_, d₁, hconfig, h⟩ := run_bind_eq_ok.mp h
  obtain ⟨_, d₂, hdisconnect, h⟩ := run_bind_eq_ok.mp h
  have hd₂ : d₂.Mute := by
    obtain ⟨_, d₃, hstate, hdisconnect⟩ := run_bind_eq_ok.mp hdisconnect
    obtain ⟨_, d₄, hkey, hdisconnect⟩ := run_bind_eq_ok.mp hdisconnect
    obtain ⟨_, d₅, hinit, hnotify⟩ := run_bind_eq_ok.mp hdisconnect
    refine Device.Mute.congr ?_ (notify_outgoing env _ hnotify)
    rw [run_modify_eq_ok.mp hinit, run_modify_eq_ok.mp hkey, run_modify_eq_ok.mp hstate, run_modify_eq_ok.mp hconfig]
    exact ⟨rfl, rfl, rfl⟩
  refine (moves_bind (moves_lift _) fun _ => moves_bind (moves_bind (sendBuilt_mute env _) fun _ => moves_pure _) fun _ =>
    moves_bind (fun d r d' hbuild hd => ?_) fun _ => moves_bind (sendBuilt_mute env _) fun _ => moves_pure _ :
      Moves (fun d d' : Device => d.Mute → d'.Mute) _) h hd₂
  exact hd.congr (buildMsg_outgoing _ _ _ hbuild)

variable {view : List UInt8} {code : UInt8}

/-- The chunk `data` of a file finds a sector cache, if the firmware update needs one for it.
The first chunk opens a session, for which the cache is allocated. -/
def Device.ChunkCached (d : Device) (data : List UInt8) (u32Offset : Nat) : Prop :=
  if u32Offset = 0 then
    d.fwup.installed = true → d.fwup.busy = false →
      (d.fwup.enter TLS_FWUP_IMAGE_SRC_WEB (env.session d.clock)).NeedsCache env.toFwupEnv (env.session d.clock) data →
        d.fwup.fls.HasCache ∨ env.alloc d.fwup.fls.allocations = true
  else d.fwup.NeedsCache env.toFwupEnv d.g_u32session_id data → d.fwup.fls.HasCache

/-- So does the chunk in the message at the start of `view`, if it is the one that is due. -/
def Device.ViewCached (d : Device) (view : List UInt8) : Prop :=
  ∀ Payloadlen u32RecvOffset, pstruPayloadlen view = .ok Payloadlen →
    chunkOffset (view.drop sizeof_ZC_MessageHead) = .ok u32RecvOffset →
    checkPara d.struOtaInfo u32RecvOffset (u32Sub Payloadlen sizeof_ZC_OtaFileChunkReq) = true →
      d.ChunkCached env (((view.drop sizeof_ZC_MessageHead).drop sizeof_ZC_OtaFileChunkReq).take
        (u32Sub Payloadlen sizeof_ZC_OtaFileChunkReq)) u32RecvOffset

theorem callFwup_returns_iff {α : Type} {x : Prog Fwup α} : (∃ r, (callFwup x).run d = .ok r) ↔ ∃ r, x.run d.fwup = .ok r := by
  constructor
  · rintro ⟨⟨a, d'⟩, h⟩
    obtain ⟨fwup, hrun, -⟩ := run_callFwup_eq_ok h
    exact ⟨_, hrun⟩
  · rintro ⟨⟨a, fwup⟩, h⟩
    exact ⟨_, run_callFwup h⟩

/-- The bytes of a chunk are taken or refused exactly where there is a cache for them. -/
theorem HF_FirmwareUpdate_returns_iff {data : List UInt8} {u32Offset : Nat}
    (hsource : u32Offset ≠ 0 → d.fwup.current_image_src ≠ TLS_FWUP_IMAGE_SRC_LUART) (hfree : d.fwup.Free) :
    (∃ r, (HF_FirmwareUpdate env data u32Offset).run d = .ok r) ↔ d.ChunkCached env data u32Offset := by
  have hrequest {d : Device} (hsource : d.fwup.current_image_src ≠ TLS_FWUP_IMAGE_SRC_LUART) (hfree : d.fwup.Free) :
      (∃ r, (do
        let retval ← callFwup (tls_fwup_request_sync env.toFwupEnv (← get).g_u32session_id data)
        return if retval.code < 0 then ZC_RET_ERROR else ZC_RET_OK : Prog Device ZC_RET).run d = .ok r) ↔
        (d.fwup.NeedsCache env.toFwupEnv d.g_u32session_id data → d.fwup.fls.HasCache) := by
    rw [run_get_bind, exists_run_bind_iff fun _ => returns_pure _, callFwup_returns_iff]
    exact tls_fwup_request_sync_returns_iff hsource hfree
  rw [HF_FirmwareUpdate, Device.ChunkCached]
  split
  · have hdraw : (draw env.session).run d = .ok (env.session d.clock, d.tick) := rfl
    rw [run_bind_of_ok hdraw]
    by_cases hopen : d.fwup.installed = true ∧ d.fwup.busy = false
    · obtain ⟨fls, hinit, hflash, hoperations, hlock, hcache⟩ := @run_fls_fast_write_init env.toFlsEnv d.fwup.fls
      have hneeds := @Fwup.needsCache_withFls env.toFwupEnv (d.fwup.enter TLS_FWUP_IMAGE_SRC_WEB (env.session d.clock)) data fls
        (env.session d.clock) hflash hoperations
      have hfree₁ : fls.Free := by
        rw [Fls.Free, hlock]
        exact hfree
      have henter := @run_fwup_enter env.toFwupEnv d.fwup TLS_FWUP_IMAGE_SRC_WEB (env.session d.clock) _ hopen.1 hopen.2 hinit
      rw [run_bind_of_ok (@run_callFwup _ _ d.tick _ _ henter), run_bind_of_ok (run_modify _ _),
        if_neg (env.session d.clock).2]
      let d₁ : Device := { d.tick.withFwup ((d.fwup.enter TLS_FWUP_IMAGE_SRC_WEB (env.session d.clock)).withFls fls) with
        g_u32session_id := env.session d.clock }
      refine (@hrequest d₁ (fun h => by cases h) hfree₁).trans ?_
      exact (imp_congr hneeds hcache).trans ⟨fun h _ _ => h, fun h => h hopen.1 hopen.2⟩
    · refine iff_of_true ?_ fun hinstalled hidle => absurd ⟨hinstalled, hidle⟩ hopen
      exact exists_run_bind (@run_callFwup _ _ d.tick _ _ (run_fwup_enter_refused hopen)) ⟨_, rfl⟩
  · exact hrequest (hsource ‹_›) hfree

/-- A chunk is answered exactly where the firmware update has a cache for it. -/
theorem takenChunk_returns_iff (hview : MSG_BUFFER_MAXLEN ≤ view.length) (hvalid : validMsg view)
    (hsource : d.struOtaInfo.u32RecvOffset ≠ 0 → d.fwup.current_image_src ≠ TLS_FWUP_IMAGE_SRC_LUART) (hfree : d.fwup.Free) :
    (∃ r, (takenChunk (HF_FirmwareUpdate env) view).run d = .ok r) ↔ d.ViewCached env view := by
  have hmax : MSG_BUFFER_MAXLEN = 600 := rfl
  have hchunk : ZC_OTA_MAX_CHUNK_LEN = 384 := rfl
  have hhead : sizeof_ZC_MessageHead = 8 := rfl
  have hfour : sizeof_ZC_OtaFileChunkReq = 4 := rfl
  obtain ⟨n, hn, hlt, -⟩ := hvalid.payloadlen
  obtain ⟨off, hoff⟩ : ∃ off, chunkOffset (view.drop sizeof_ZC_MessageHead) = .ok off := by
    obtain ⟨n, hn⟩ := @exists_loadU32 (view.drop sizeof_ZC_MessageHead) 0 (by rw [List.length_drop]; omega)
    exact ⟨_, by rw [chunkOffset, hn]; rfl⟩
  have hcached : d.ViewCached env view ↔ (checkPara d.struOtaInfo off (u32Sub n sizeof_ZC_OtaFileChunkReq) = true →
      d.ChunkCached env (((view.drop sizeof_ZC_MessageHead).drop sizeof_ZC_OtaFileChunkReq).take
        (u32Sub n sizeof_ZC_OtaFileChunkReq)) off) := by
    refine ⟨fun h => h n off hn hoff, fun h n' off' hn' hoff' => ?_⟩
    cases hn.symm.trans hn'
    cases hoff.symm.trans hoff'
    exact h
  rw [hcached, takenChunk, hn, lift_ok, pure_bind, hoff, lift_ok, pure_bind, getController, bind_assoc, run_get_bind, pure_bind]
  split
  · rename_i hrefused
    refine iff_of_true ⟨_, rfl⟩ fun h => ?_
    rw [h] at hrefused
    cases hrefused
  · rename_i hcheck
    rw [Bool.not_eq_true', Bool.not_eq_false] at hcheck
    obtain ⟨hdue, -, hlen⟩ := checkPara_iff.mp hcheck
    have hload : load ((view.drop sizeof_ZC_MessageHead).drop sizeof_ZC_OtaFileChunkReq) 0
        (u32Sub n sizeof_ZC_OtaFileChunkReq) = .ok _ :=
      load_of_le (by rw [List.length_drop, List.length_drop]; omega)
    rw [List.drop_zero] at hload
    rw [hload, lift_ok, pure_bind, forall_prop_of_true hcheck, exists_run_bind_iff]
    · exact HF_FirmwareUpdate_returns_iff env (fun h => hsource (hdue ▸ h)) hfree
    · exact fun r => returns_bind (returns_modify _) fun _ => returns_ite (returns_pure _)
        (returns_bind (returns_modify _) fun _ => returns_pure _)

/-- The codes that a message of the cloud passes on to the module alone. -/
def moudleOta : List ZC_MsgCode :=
  [ZC_CODE_OTA_BEGIN, ZC_CODE_OTA_FILE_BEGIN, ZC_CODE_OTA_FILE_CHUNK, ZC_CODE_OTA_FILE_END, ZC_CODE_OTA_END]

/-- The codes that the device answers without a message to the module. -/
def deviceOnly : List ZC_MsgCode :=
  [ZC_CODE_ZOTA_FILE_BEGIN, ZC_CODE_ZOTA_FILE_CHUNK, ZC_CODE_ZOTA_FILE_END, ZC_CODE_TOKEN_SET]

theorem dispatchEvent_answers (hview : MSG_BUFFER_MAXLEN ≤ view.length) (hvalid : validMsg view)
    (hid : pstruMsgId view = .ok MsgId) (hcode : pstruMsgCode view = .ok code)
    (hmoudle : ∀ c ∈ moudleOta, ZC_MsgCode.ofByte code ≠ some c) (hreset : ZC_MsgCode.ofByte code ≠ some ZC_CODE_RESET_NETWORK)
    (hd : d.Receptive) (hnotify : (∀ c ∈ deviceOnly, ZC_MsgCode.ofByte code ≠ some c) → d.CanNotify env)
    (hupdate : ZC_MsgCode.ofByte code = some ZC_CODE_ZOTA_FILE_CHUNK →
      ∃ r, (takenChunk (HF_FirmwareUpdate env) view).run d = .ok r) :
    ∃ d', (dispatchEvent env .g_struRecvBuffer view).run d = .ok ((), d') ∧ d'.Answering env MsgId := by
  have hother {P : Device → Prop} {x : Prog Device Unit} (hx : Ensures P x (Device.Answering env MsgId)) (hd : P d) :
      ∃ d', x.run d = .ok ((), d') ∧ d'.Answering env MsgId := by
    obtain ⟨_, d', hrun, hd'⟩ := hx hd
    exact ⟨d', hrun, hd'⟩
  rw [dispatchEvent, hcode, lift_ok, pure_bind]
  split
  · rename_i hbegin
    rw [hbegin] at hnotify
    exact hother (PCT_HandleOtaBeginMsg_answers env hid) ⟨hd.canSend, hnotify (by decide)⟩
  · exact hother (PCT_HandleOtaFileBeginMsg_answers env hview hid) hd.canSend
  · rename_i hchunk
    exact PCT_HandleOtaFileChunkMsg_answers env hvalid hid hd.canSend (hupdate hchunk)
  · exact hother (PCT_HandleOtaFileEndMsg_answers env hid) hd.canSend
  · rename_i hend
    rw [hend] at hnotify
    exact hother (PCT_HandleOtaEndMsg_answers env hid) ⟨hd.canSend, hnotify (by decide)⟩
  · exact absurd ‹_› (hmoudle _ (by decide))
  · exact absurd ‹_› (hmoudle _ (by decide))
  · exact absurd ‹_› (hmoudle _ (by decide))
  · exact absurd ‹_› (hmoudle _ (by decide))
  · exact absurd ‹_› (hmoudle _ (by decide))
  · exact hother (PCT_SetTokenKey_answers env hview hid) hd
  · exact absurd ‹_› hreset
  · have hinvolved : ∀ c ∈ deviceOnly, ZC_MsgCode.ofByte code ≠ some c := by
      intro c hc
      simp only [deviceOnly, List.mem_cons, List.not_mem_nil, or_false] at hc
      rcases hc with rfl | rfl | rfl | rfl <;> assumption
    have hempty : Ensures Device.CanSend (do PCT_SendEmptyMsg env (← pstruMsgId view) ZC_SEC_ALG_AES)
        (Device.Answering env MsgId) := ensures_lift_bind hid (PCT_SendEmptyMsg_answers env MsgId)
    exact hother (ensures_bind (PCT_HandleMoudleMsg_canSend env hview) fun _ => hempty) ⟨hd, hnotify hinvolved⟩

/-- A message whose handling involves the module is handled only where there is memory for
what the module is told. -/
theorem dispatchEvent_requires {addr : BufferAddr} (hid : pstruMsgId view = .ok MsgId) (hcode : pstruMsgCode view = .ok code)
    (hmoudle : ∀ c ∈ moudleOta, ZC_MsgCode.ofByte code ≠ some c) (hreset : ZC_MsgCode.ofByte code ≠ some ZC_CODE_RESET_NETWORK)
    (hinvolved : ∀ c ∈ deviceOnly, ZC_MsgCode.ofByte code ≠ some c) :
    Requires (Device.CanNotify env) (dispatchEvent env addr view) := by
  rw [dispatchEvent, hcode, lift_ok, pure_bind]
  split
  · exact PCT_HandleOtaBeginMsg_requires env hid
  · exact absurd ‹_› (hinvolved _ (by decide))
  · exact absurd ‹_› (hinvolved _ (by decide))
  · exact absurd ‹_› (hinvolved _ (by decide))
  · exact PCT_HandleOtaEndMsg_requires env hid
  · exact absurd ‹_› (hmoudle _ (by decide))
  · exact absurd ‹_› (hmoudle _ (by decide))
  · exact absurd ‹_› (hmoudle _ (by decide))
  · exact absurd ‹_› (hmoudle _ (by decide))
  · exact absurd ‹_› (hmoudle _ (by decide))
  · exact absurd ‹_› (hinvolved _ (by decide))
  · exact absurd ‹_› hreset
  · exact requires_bind (PCT_HandleMoudleMsg_requires env addr view)

/-- The device with the oldest message of `g_struRecvQueue` taken. -/
def Device.popped (d : Device) : Device :=
  ({ d with g_struRecvQueue := (MSG_PopMsg d.g_struRecvQueue).2 } : Device).tick.log
    (.taken (d.g_struRecvBuffer.u8MsgBuffer.bytes ++ env.beyond d.clock))

/-- `PCT_HandleEvent` leaves an answer to the message with the number `MsgId`. -/
def Device.AnswersRequest (d : Device) (MsgId : UInt8) : Prop :=
  ∃ d', (PCT_HandleEvent env).run d = .ok ((), d') ∧ d'.Answers env MsgId

theorem run_popMessage {rest : List BufferAddr} (hqueue : d.g_struRecvQueue.toList = .g_struRecvBuffer :: rest) :
    (popMessage env).run d =
      .ok (some (.g_struRecvBuffer, d.g_struRecvBuffer.u8MsgBuffer.bytes ++ env.beyond d.clock), d.popped env) := by
  have hpop := (MSG_Queue.pop_eq d.g_struRecvQueue).1
  rw [hqueue] at hpop
  rw [popMessage, run_get_bind, Device.popped]
  generalize MSG_PopMsg d.g_struRecvQueue = pop at hpop ⊢
  obtain ⟨addr, queue⟩ := pop
  obtain rfl : addr = some .g_struRecvBuffer := hpop
  rfl

/-- A message with a right checksum is handled. -/
theorem run_handleMessage {addr : BufferAddr} (hvalid : validMsg view) :
    (handleMessage env addr view).run d = (dispatchEvent env addr view).run d := by
  obtain ⟨n, hn, -, hlen⟩ := hvalid.payloadlen
  have htrace : (ZC_TraceData view (n + sizeof_ZC_MessageHead)).run d = .ok ((), d) := by
    rw [ZC_TraceData, run_get_bind]
    split
    · rfl
    · rw [load_of_le (by omega)]
      rfl
  have hvalid' : checkMsgCrc view = .ok ZC_RET_OK := hvalid
  simp only [handleMessage, hn, hvalid', run_bind, run_lift_ok, ok_bind, htrace, reduceCtorEq, if_false]

theorem run_PCT_HandleEvent {rest : List BufferAddr} (hfree : d.g_struProtocolController.u8SendMoudleTimer = none)
    (hqueue : d.g_struRecvQueue.toList = .g_struRecvBuffer :: rest)
    (hview : view = d.g_struRecvBuffer.u8MsgBuffer.bytes ++ env.beyond d.clock) (hvalid : validMsg view) :
    (PCT_HandleEvent env).run d =
      (dispatchEvent env .g_struRecvBuffer view >>= fun _ => releaseBuffer .g_struRecvBuffer).run (d.popped env) := by
  simp only [PCT_HandleEvent, getController, run_bind, run_get, run_pure, ok_bind, hfree, Option.isSome_none,
    Bool.false_eq_true, if_false, run_popMessage env hqueue, ← hview, run_handleMessage env hvalid]

/-- A request to reset the network is not answered. -/
theorem not_answersRequest_of_reset {rest : List BufferAddr} (hfree : d.g_struProtocolController.u8SendMoudleTimer = none)
    (hqueue : d.g_struRecvQueue.toList = .g_struRecvBuffer :: rest)
    (hview : view = d.g_struRecvBuffer.u8MsgBuffer.bytes ++ env.beyond d.clock) (hvalid : validMsg view)
    (hcode : pstruMsgCode view = .ok code) (hreset : ZC_MsgCode.ofByte code = some ZC_CODE_RESET_NETWORK) :
    ¬ d.AnswersRequest env MsgId := by
  rintro ⟨d', hd', hanswers⟩
  rw [run_PCT_HandleEvent env hfree hqueue hview hvalid] at hd'
  obtain ⟨_, d₁, hdispatch, hrelease⟩ := run_bind_eq_ok.mp hd'
  rw [dispatchEvent, hcode, lift_ok, pure_bind, hreset] at hdispatch
  have hmute : d'.Mute := by
    rw [run_modify_eq_ok.mp hrelease]
    exact (PCT_ResetNetWork_mute env hdispatch).congr rfl
  exact hmute.not_answers env hanswers

/-- A request is answered unless it asks to reset the network, there is no memory for what
the module is told of it, or it is a chunk that the firmware update has no cache for. -/
theorem request_answered_iff {rest : List BufferAddr} (hsend : d.Sendable) (hkey : d.secrets.u8keyRecv = PCT_KEY_RECVED)
    (hfree : d.g_struProtocolController.u8SendMoudleTimer = none)
    (hidle : ∃ i, (d.g_struSendBuffer i).u8Status = MSG_BUFFER_IDLE) (hlock : d.fwup.fls.fls_lock ≠ 0)
    (hsource : d.struOtaInfo.u32RecvOffset ≠ 0 → d.fwup.current_image_src ≠ TLS_FWUP_IMAGE_SRC_LUART)
    (hlen : d.g_struRecvBuffer.u32Len ≤ MSG_BUFFER_MAXLEN) (hqueue : d.g_struRecvQueue.toList = .g_struRecvBuffer :: rest)
    (hview : view = d.g_struRecvBuffer.u8MsgBuffer.bytes ++ env.beyond d.clock) (hvalid : validMsg view)
    (hid : pstruMsgId view = .ok MsgId) (hcode : pstruMsgCode view = .ok code)
    (hmoudle : ∀ c ∈ moudleOta, ZC_MsgCode.ofByte code ≠ some c) :
    d.AnswersRequest env MsgId ↔ ZC_MsgCode.ofByte code ≠ some ZC_CODE_RESET_NETWORK ∧
      ((∀ c ∈ deviceOnly, ZC_MsgCode.ofByte code ≠ some c) → env.moudleAlloc d.moudleMsgs = true) ∧
      (ZC_MsgCode.ofByte code = some ZC_CODE_ZOTA_FILE_CHUNK → (d.popped env).ViewCached env view) := by
  have hrun := run_PCT_HandleEvent env hfree hqueue hview hvalid
  have hlong : MSG_BUFFER_MAXLEN ≤ view.length := by
    rw [hview, List.length_append, Mem.length_bytes]
    exact Nat.le_add_right ..
  have hcached : (∃ r, (takenChunk (HF_FirmwareUpdate env) view).run (d.popped env) = .ok r) ↔ (d.popped env).ViewCached env view :=
    takenChunk_returns_iff env hlong hvalid hsource hlock
  constructor
  · intro hanswers
    have hreset : ZC_MsgCode.ofByte code ≠ some ZC_CODE_RESET_NETWORK := fun hreset =>
      not_answersRequest_of_reset env hfree hqueue hview hvalid hcode hreset hanswers
    obtain ⟨d', hd', -⟩ := hanswers
    rw [hrun] at hd'
    obtain ⟨_, d₁, hdispatch, -⟩ := run_bind_eq_ok.mp hd'
    refine ⟨hreset, fun hinvolved => ?_, fun hchunk => ?_⟩
    · exact @dispatchEvent_requires env _ _ _ _ hid hcode hmoudle hreset hinvolved (d.popped env) _ _ hdispatch
    · rw [dispatchEvent, hcode, lift_ok, pure_bind, hchunk] at hdispatch
      dsimp only at hdispatch
      rw [PCT_HandleOtaFileChunkMsg_eq hvalid hid] at hdispatch
      obtain ⟨taken, d₂, htaken, -⟩ := run_bind_eq_ok.mp hdispatch
      exact hcached.mp ⟨_, htaken⟩
  · rintro ⟨hreset, hnotify, hupdate⟩
    have hd : (d.popped env).Receptive := ⟨(Device.CanSend.mk hsend hkey hidle).congr rfl, hlock, hlen⟩
    obtain ⟨d₁, hdispatch, hd₁⟩ := dispatchEvent_answers env hlong hvalid hid hcode hmoudle hreset hd hnotify fun hchunk =>
      hcached.mpr (hupdate hchunk)
    refine ⟨d₁.setBuffer .g_struRecvBuffer (d₁.buffer .g_struRecvBuffer).idle, ?_, ?_⟩
    · rw [hrun]
      exact run_bind_eq_ok.mpr ⟨(), d₁, hdispatch, rfl⟩
    · obtain ⟨plain, u8Resver, hplain, hframe⟩ := hd₁.answers
      have hpending : (d₁.setBuffer .g_struRecvBuffer (d₁.buffer .g_struRecvBuffer).idle).pending = d₁.pending :=
        (@Device.Sendable.congr _ (d₁.setBuffer .g_struRecvBuffer (d₁.buffer .g_struRecvBuffer).idle) hd₁.sendable rfl
          fun _ _ => rfl).2
      refine ⟨plain, u8Resver, hplain, ?_⟩
      rw [hpending]
      exact hframe

end

/-- A device in which a message of the cloud with the number 7 waits. -/
def requested (u8MsgCode : ZC_MsgCode) : Device :=
  { keyedDevice with
    g_struRecvBuffer := ⟨8, MSG_BUFFER_FULL,
      ⟨fillBlock MSG_BUFFER_MAXLEN (EVENT_BuildMsg u8MsgCode 7 []), length_fillBlock _ _⟩⟩
    g_struRecvQueue := (MSG_PushMsg MSG_InitQueue .g_struRecvBuffer).2 }

theorem requested_sendable (u8MsgCode : ZC_MsgCode) : (requested u8MsgCode).Sendable :=
  Device.Agreeing.sendable (Device.SendIdle.agreeing ⟨rfl, fun _ => rfl⟩)

/-- What the controller sees of the message. -/
def requestView (u8MsgCode : ZC_MsgCode) : List UInt8 := (requested u8MsgCode).g_struRecvBuffer.u8MsgBuffer.bytes ++ []

theorem request_answered_begin : (requested ZC_CODE_ZOTA_BEGIN).AnswersRequest soundEnv 7 := by
  have hvalid : validMsg (requestView ZC_CODE_ZOTA_BEGIN) := by
    change checkMsgCrc _ = Except.ok ZC_RET_OK
    decide +kernel
  have hid : pstruMsgId (requestView ZC_CODE_ZOTA_BEGIN) = .ok 7 := by decide +kernel
  have hcode : pstruMsgCode (requestView ZC_CODE_ZOTA_BEGIN) = .ok ZC_CODE_ZOTA_BEGIN.code := by decide +kernel
  have hiff := @request_answered_iff soundEnv (requested ZC_CODE_ZOTA_BEGIN) 7 _ _ [] (requested_sendable _) rfl rfl
    ⟨⟨0, by decide⟩, rfl⟩ (by decide) (fun h => absurd rfl h) (by decide) rfl rfl hvalid hid hcode (by decide)
  exact hiff.mpr ⟨by decide, fun _ => rfl, fun h => absurd h (by decide)⟩

/-- The order to reset the network, the number of which is 7. -/
theorem reset_not_answered : ¬ ∀ (env : Env) (d : Device) (view : List UInt8) (MsgId code : UInt8) (rest : List BufferAddr),
    d.Sendable → d.g_struProtocolController.u8MainState = PCT_STATE_CONNECT_CLOUD → d.secrets.u8keyRecv = PCT_KEY_RECVED →
    d.g_struProtocolController.u8SendMoudleTimer = none →
    (∃ i j, i ≠ j ∧ (d.g_struSendBuffer i).u8Status = MSG_BUFFER_IDLE ∧ (d.g_struSendBuffer j).u8Status = MSG_BUFFER_IDLE) →
    d.fwup.fls.fls_lock ≠ 0 → d.g_struRecvBuffer.u32Len ≤ MSG_BUFFER_MAXLEN →
    d.g_struRecvQueue.toList = .g_struRecvBuffer :: rest →
    view = d.g_struRecvBuffer.u8MsgBuffer.bytes ++ env.beyond d.clock → validMsg view → pstruMsgId view = .ok MsgId →
    pstruMsgCode view = .ok code → (∀ c ∈ moudleOta, ZC_MsgCode.ofByte code ≠ some c) → d.AnswersRequest env MsgId := by
  intro h
  have hvalid : validMsg (requestView ZC_CODE_RESET_NETWORK) := by
    change checkMsgCrc _ = Except.ok ZC_RET_OK
    decide +kernel
  have hid : pstruMsgId (requestView ZC_CODE_RESET_NETWORK) = .ok 7 := by decide +kernel
  have hcode : pstruMsgCode (requestView ZC_CODE_RESET_NETWORK) = .ok ZC_CODE_RESET_NETWORK.code := by decide +kernel
  have hanswers := h soundEnv (requested ZC_CODE_RESET_NETWORK) _ 7 _ [] (requested_sendable _) rfl rfl rfl
    ⟨⟨0, by decide⟩, ⟨1, by decide⟩, by decide, rfl, rfl⟩ (by decide) (by decide) rfl rfl hvalid hid hcode (by decide)
  exact not_answersRequest_of_reset soundEnv rfl rfl rfl hvalid hcode rfl hanswers

end ZCloud
