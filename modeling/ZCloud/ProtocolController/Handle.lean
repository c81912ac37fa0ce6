import ZCloud.ProtocolController.Steps

open Memory Program

namespace ZCloud

/-- A message of the module or the cloud passes its check and has the code `u8MsgCode`. -/
def carries (view : List UInt8) (u8MsgCode : ZC_MsgCode) : Prop :=
  checkMsgCrc view = .ok ZC_RET_OK ∧ ∃ MsgCode, pstruMsgCode view = .ok MsgCode ∧ ZC_MsgCode.ofByte MsgCode = some u8MsgCode

/-- A message of the module is handled by `dispatchMoudle`: it is not empty, and
not for a client. -/
def dispatched (pu8Data : List UInt8) (u16DataLen : Nat) : Prop :=
  u16DataLen ≠ 0 ∧ ∃ opts u16OptLen, EVENT_ParseOption pu8Data ⟨none, none⟩ = .ok (opts, u16OptLen) ∧
    opts.pstruSsession = none

/-- What `PCT_HandleEvent` takes when it is called next: the receive buffer, and
what is behind it in memory. -/
def Device.received (env : Env) (d : Device) : List UInt8 :=
  d.g_struRecvBuffer.u8MsgBuffer.bytes ++ env.beyond d.clock

/-- The input is the end of a file. -/
def Input.Ends (env : Env) (d : Device) : Input → Prop
  | .run =>
    d.g_struProtocolController.u8MainState = PCT_STATE_CONNECT_CLOUD ∧
      d.g_struProtocolController.u8SendMoudleTimer = none ∧ d.g_struRecvQueue.toList ≠ [] ∧
      carries (d.received env) ZC_CODE_ZOTA_END
  | .moudle pu8Data u16DataLen => dispatched pu8Data u16DataLen ∧ carries pu8Data ZC_CODE_ZOTA_FILE_END
  | _ => False

/-- The input is a registration of the module while the device connects to the cloud. -/
def Input.Registers (d : Device) : Input → Prop
  | .moudle pu8Data u16DataLen =>
    PCT_STATE_ACCESS_NET.code ≤ d.g_struProtocolController.u8MainState.code ∧
      d.g_struProtocolController.u8MainState.code < PCT_STATE_CONNECT_CLOUD.code ∧
      dispatched pu8Data u16DataLen ∧ carries pu8Data ZC_CODE_REGSITER
  | _ => False

section

variable {ends : Prop} {S : PCT_STATE → Prop} (env : Env)

theorem opened_connect : ∀ s, s = PCT_STATE_CONNECT_CLOUD → s.Opened := by
  rintro _ rfl
  exact Nat.le_add_right 4 2

theorem bystander_path {α : Type} {x : Prog Device α} (hS : ∀ s, S s → s.Opened)
    (h : Moves (Aside Device.core Event.Bystander) x) : Moves (Path ends S) x :=
  moves_mono h (Path.of_bystander hS)

theorem quiet_path {α : Type} {x : Prog Device α} (h : Moves (Aside Device.core Event.Quiet) x) :
    Moves (Path ends S) x :=
  moves_mono h Path.of_quiet

/-- Messages that are sent to the cloud. -/
theorem cloud_path {α : Type} {x : Prog Device α} (hS : ∀ s, S s → s.Opened)
    (h : Moves (Aside Device.unsent Event.Cloud) x) : Moves (Path ends S) x :=
  bystander_path hS (moves_mono h Aside.of_cloud)

/-- A change of what has nothing to do with the connection. -/
theorem modify_path {f : Device → Device} (hlink : ∀ d, (f d).link = d.link) (hchannel : ∀ d, (f d).channel = d.channel) :
    Moves (Path ends S) (modify f) :=
  moves_mono (modify_aside hlink hchannel) Path.of_aside

/-- A request is handed to the module. -/
theorem request_path (data : List UInt8) (len : Nat) : Moves (Path ends S) (HF_SendDataToMoudle env .request data len) :=
  moves_mono (@HF_SendDataToMoudle_aside env (Event.Plain ends) .request (fun _ => trivial) data len)
    fun h => .of_aside (h.mono link_of_core fun _ => id)

theorem PCT_HandleMoudleMsg_path (hS : ∀ s, S s → s.Opened) (view : List UInt8) :
    Moves (Path ends S) (PCT_HandleMoudleMsg env .g_struRecvBuffer view) := by
  refine moves_bind (HF_SetTimer_path hS (by decide) (by decide)) fun _ => moves_bind moves_get fun d =>
    moves_bind (moves_lift _) fun m => moves_bind (modify_path (fun _ => rfl) fun _ => rfl) fun _ => ?_
  refine moves_bind ?_ fun _ => moves_bind (request_path env _ _) fun _ => restartHeart_path env hS
  refine moves_modify fun d => .of_aside ⟨rfl, ⟨[], rfl, by simp, fun hd => ?_⟩, fun hd => ⟨hd.recv, ?_⟩⟩
  · have hsame := @Device.Sendable.congr _ (d.withController { d.g_struProtocolController with
      pu8SendMoudleBuffer := some .g_struRetxBuffer, u8ReSendMoudleNum := 0 }) hd rfl fun _ _ => rfl
    exact ⟨hsame.1, by rw [hsame.2]; simp⟩
  · rintro addr ⟨⟩
    rfl

theorem PCT_ResetNetWork_path (hS : ∀ s, S s → s.Opened) (hdisconnect : S PCT_STATE_DISCONNECT_CLOUD)
    (view : List UInt8) : Moves (Path ends S) (PCT_ResetNetWork env view) := by
  refine moves_bind (quiet_path (modifyConfig_aside _)) fun _ => moves_bind (PCT_DisConnectCloud_path hdisconnect fun s hs => (hS s hs).le)
    fun _ => moves_bind (moves_lift _) fun _ => moves_bind (cloud_path hS (PCT_SendEmptyMsg_aside env _ _)) fun _ => ?_
  exact cloud_path hS (PCT_SendAckToCloud_aside env _)

/-- The end of a file. -/
theorem PCT_HandleOtaEndMsg_path (hends : ends) (hS : ∀ s, S s → s.Opened) (view : List UInt8) :
    Moves (Path ends S) (PCT_HandleOtaEndMsg env view) := by
  intro d r d' h hd hstate
  have haside := (PCT_HandleOtaEndMsg_aside env view h).mono (Q := fun e => e.Plain ends ∨ e.Cloud) link_of_core
    fun e he => by
      rcases he with (he | he) | he
      · exact .inl he.plain
      · exact .inr he
      · exact .inl (he.plain hends)
  exact ⟨.single (.queue (.inl (hS _ hstate)) haside), hd.of_aside haside, by rw [haside.view_eq]; exact hstate⟩

/-- The branches of `PCT_HandleEvent` for a message of the cloud. -/
theorem dispatchEvent_path (hS : ∀ s, S s → s.Opened) (hdisconnect : S PCT_STATE_DISCONNECT_CLOUD) {view : List UInt8}
    (hends : ∀ MsgCode, pstruMsgCode view = .ok MsgCode → ZC_MsgCode.ofByte MsgCode = some ZC_CODE_ZOTA_END → ends) :
    Moves (Path ends S) (dispatchEvent env .g_struRecvBuffer view) := by
  intro d r d' h
  obtain ⟨MsgCode, _, hcode, h⟩ := run_bind_eq_ok.mp h
  obtain ⟨hcode, hsame⟩ := run_lift_eq_ok.mp hcode
  rw [hsame] at h
  have hrequest := @PCT_HandleMoudleMsg_path ends _ env hS view
  split at h
  · exact bystander_path hS (PCT_HandleOtaBeginMsg_aside env view) h
  · exact bystander_path hS (PCT_HandleOtaFileBeginMsg_aside env view) h
  · exact bystander_path hS (PCT_HandleOtaFileChunkMsg_aside env view) h
  · exact bystander_path hS (PCT_HandleOtaFileEndMsg_aside env view) h
  · rename_i hend
    exact PCT_HandleOtaEndMsg_path env (hends MsgCode hcode hend) hS view h
  · exact hrequest h
  · exact hrequest h
  · exact hrequest h
  · exact hrequest h
  · exact hrequest h
  · exact bystander_path hS (PCT_SetTokenKey_aside env view) h
  · exact PCT_ResetNetWork_path env hS hdisconnect view h
  · exact moves_bind hrequest (fun _ => moves_bind (moves_lift _) fun _ => cloud_path hS (PCT_SendEmptyMsg_aside env _ _)) h

theorem ZC_TraceData_path (pData : List UInt8) (Len : Nat) : Moves (Path ends S) (ZC_TraceData pData Len) :=
  quiet_path (ZC_TraceData_aside pData Len)

theorem handleMessage_path (hS : ∀ s, S s → s.Opened) (hdisconnect : S PCT_STATE_DISCONNECT_CLOUD) {view : List UInt8}
    (hends : carries view ZC_CODE_ZOTA_END → ends) : Moves (Path ends S) (handleMessage env .g_struRecvBuffer view) := by
  refine moves_bind (moves_lift _) fun _ => moves_bind (ZC_TraceData_path _ _) fun _ => fun d r d' h => ?_
  obtain ⟨crc, _, hcrc, h⟩ := run_bind_eq_ok.mp h
  obtain ⟨hcrc, hsame⟩ := run_lift_eq_ok.mp hcrc
  rw [hsame] at h
  split at h
  · exact moves_bind (moves_lift _) (fun _ => moves_bind (cloud_path hS (PCT_SendEmptyMsg_aside env _ _)) fun _ =>
      cloud_path hS (PCT_SendErrorMsg_aside env _ _)) h
  · rename_i hok
    refine dispatchEvent_path env hS hdisconnect (fun MsgCode hcode hend => hends ⟨?_, MsgCode, hcode, hend⟩) h
    cases crc
    · exact hcrc
    · exact absurd rfl hok

variable {d d' : Device}

theorem PCT_HandleEvent_steps (hd : d.Sound) (hstate : d.link.u8MainState = PCT_STATE_CONNECT_CLOUD)
    (hends : Input.Ends env d .run → ends) (h : (PCT_HandleEvent env).run d = .ok ((), d')) :
    Relation.ReflTransGen (Step ends) d d' ∧ d'.Sound := by
  obtain ⟨c, _, hget, h⟩ := run_bind_eq_ok.mp h
  obtain ⟨rfl, hsame⟩ : c = d.g_struProtocolController ∧ _ := run_pure_eq_ok.mp hget
  rw [hsame] at h
  split at h
  · obtain ⟨-, rfl⟩ := run_pure_eq_ok.mp h
    exact ⟨.refl, hd⟩
  · rename_i htimer
    obtain ⟨o, d₁, hpop, h⟩ := run_bind_eq_ok.mp h
    have hpath := (@popMessage_path ends PCT_STATE.Opened env) hpop hd (opened_connect _ hstate)
    cases o with
    | none =>
      obtain ⟨-, rfl⟩ := run_pure_eq_ok.mp h
      exact ⟨hpath.1, hpath.2.1⟩
    | some message =>
      obtain ⟨addr, view⟩ := message
      obtain ⟨rfl, hqueue, rfl, -⟩ := popMessage_some env hd.owned hpop
      have hmessage := moves_bind (handleMessage_path env (S := PCT_STATE.Opened) (fun _ => id) (Nat.le_add_right 4 3)
        fun hcarries => hends ⟨hstate, Option.not_isSome_iff_eq_none.mp htimer, hqueue, hcarries⟩)
        (fun _ => releaseBuffer_path) h hpath.2.1 hpath.2.2
      exact ⟨hpath.1.trans hmessage.1, hmessage.2.1⟩

theorem PCT_Run_steps (hd : d.Sound) (hends : Input.Ends env d .run → ends) (h : (PCT_Run env).run d = .ok ((), d')) :
    Relation.ReflTransGen (Step ends) d d' ∧ d'.Sound := by
  obtain ⟨c, _, hget, h⟩ := run_bind_eq_ok.mp h
  obtain ⟨rfl, hsame⟩ : c = d.g_struProtocolController ∧ _ := run_pure_eq_ok.mp hget
  rw [hsame] at h
  split at h
  iterate 3
    obtain ⟨-, rfl⟩ := run_pure_eq_ok.mp h
    exact ⟨.refl, hd⟩
  · rename_i hstate
    exact (PCT_ConnectCloud_takes env).steps h hd hstate
  · rename_i hstate
    exact (PCT_SendCloudAccessMsg1_takes env).steps h hd hstate
  · rename_i hstate
    exact (PCT_RecvAccessMsg2_takes env).steps h hd hstate
  · rename_i hstate
    exact (PCT_RecvAccessMsg4_takes env).steps h hd hstate
  · rename_i hstate
    exact PCT_HandleEvent_steps env hd hstate hends h

/-- The oldest frame is sent, if there is one. -/
theorem MSG_SendDataToCloud_steps (hd : d.Sound) (hstate : d.link.u8MainState ≠ PCT_STATE_DISCONNECT_CLOUD)
    (h : MSG_SendDataToCloud.run d = .ok ((), d')) : Relation.ReflTransGen (Step ends) d d' ∧ d'.Sound := by
  obtain ⟨d₁, hrun, hcases⟩ := MSG_SendDataToCloud_spec hd.sendable
  obtain rfl : d₁ = d' := congrArg Prod.snd (Except.ok.inj (hrun.symm.trans h))
  obtain ⟨hlist, queue, hqueue, hd'⟩ | ⟨i, rest, hsends⟩ := hcases
  · have haside : Aside Device.link (Event.Plain ends) d d₁ := by
      rw [hd']
      refine ⟨rfl, ⟨[], rfl, by simp, fun _ => ⟨⟨?_, ?_⟩, ?_⟩⟩, fun hd => ⟨hd.recv, hd.request⟩⟩
      · exact hqueue ▸ List.nodup_nil
      · exact hqueue ▸ fun _ hmem => absurd hmem List.not_mem_nil
      · simp [Device.pending, hlist, hqueue]
    exact ⟨.single (.aside haside), hd.of_aside haside⟩
  · obtain ⟨hsendable, hpending⟩ := hsends.pending_eq hd.sendable
    obtain ⟨-, queue, -, hd'⟩ := hsends
    have hgoes : Goes d d₁ d.link
        [.tcpSend d.g_struProtocolController.struCloudConnection.u32Socket (d.g_struSendBuffer i).frame,
          .sent (d.g_struSendBuffer i).frame] d₁.pending := by
      refine ⟨⟨hsendable, ?_⟩, ?_, ?_, rfl⟩
      · rw [hd']
        exact ⟨hd.owned.recv, hd.owned.request⟩
      · rw [hd']
        rfl
      · rw [hd']
        rfl
    exact ⟨.single (.send _ _ _ hstate hpending hgoes), hgoes.sound⟩

/-- What the loop that stops the timers does. -/
theorem stopAllTimers_spec {slots : List (Fin ZC_TIMER_MAX_NUM)} (h : (stopAllTimers slots).run d = .ok ((), d')) :
    ∃ es timer live, d' = { d with g_struTimer := timer, liveTimers := live, trace := es ++ d.trace } ∧
      (∀ e ∈ es, e.Plain ends) ∧ (d.link.Timed → d'.link.Timed) ∧
        ∀ i, d'.link.Used i → d.link.Used i ∧ i ∉ slots := by
  induction slots generalizing d with
  | nil =>
    obtain ⟨-, rfl⟩ := run_pure_eq_ok.mp h
    exact ⟨[], _, _, rfl, by simp, id, fun i hi => ⟨hi, List.not_mem_nil⟩⟩
  | cons i rest ih =>
    rw [stopAllTimers, run_get_bind] at h
    split at h
    · obtain ⟨_, d₁, hstop, h⟩ := run_bind_eq_ok.mp h
      obtain ⟨j, hj, hd₁⟩ := TIMER_StopTimer_spec hstop
      obtain rfl : i = j := Option.some.inj hj
      have hlink : d₁.link = d.link.stop i := by rw [hd₁]; rfl
      obtain ⟨es, timer, live, hd', hes, htimed, hused⟩ := ih h
      refine ⟨es ++ [.stopTimer (.slot i) i (d.g_struTimer i)], timer, live, ?_, ?_, ?_, fun j hj => ?_⟩
      · rw [hd', hd₁, List.append_assoc]
        rfl
      · intro e he
        rcases List.mem_append.mp he with he | he
        · exact hes e he
        · rw [List.mem_singleton.mp he]
          trivial
      · intro ht
        refine htimed ?_
        rw [hlink]
        exact ht.stop
      · obtain ⟨hj₁, hmem⟩ := hused j hj
        rw [hlink, Link.used_stop] at hj₁
        exact ⟨hj₁.2, by rw [List.mem_cons, not_or]; exact ⟨hj₁.1, hmem⟩⟩
    · rename_i hidle
      obtain ⟨es, timer, live, hd', hes, htimed, hused⟩ := ih h
      refine ⟨es, timer, live, hd', hes, htimed, fun j hj => ?_⟩
      obtain ⟨hj₁, hmem⟩ := hused j hj
      have hne : j ≠ i := by
        rintro rfl
        exact hidle hj₁
      exact ⟨hj₁, by rw [List.mem_cons, not_or]; exact ⟨hne, hmem⟩⟩

/-- `clearTimers` stops every timer and leaves the device in `PCT_STATE_INIT`. -/
theorem clearTimers_spec (h : clearTimers.run d = .ok ((), d')) :
    ∃ es timer live, d' = { d with
        g_struProtocolController := { d.g_struProtocolController with
          u8ReconnectTimer := none, u8SendMoudleTimer := none, u8HeartTimer := none, u8MainState := PCT_STATE_INIT }
        g_struTimer := timer, liveTimers := live, trace := es ++ d.trace } ∧
      (∀ e ∈ es, e.Plain ends) ∧ (d.link.Timed → live = []) ∧ ∀ i, (timer i).u8Status = ZC_TIMER_STATUS_IDLE := by
  obtain ⟨_, d₁, hstop, h⟩ := run_bind_eq_ok.mp h
  obtain ⟨_, d₂, hinit, h⟩ := run_bind_eq_ok.mp h
  obtain ⟨_, d₃, hreconnect, h⟩ := run_bind_eq_ok.mp h
  obtain ⟨_, d₄, hmoudle, h⟩ := run_bind_eq_ok.mp h
  obtain ⟨_, d₅, hheart, h⟩ := run_bind_eq_ok.mp h
  obtain ⟨es, timer, live, hd₁, hes, htimed, hused⟩ := @stopAllTimers_spec ends _ _ _ hstop
  refine ⟨es, fun i => { timer i with u8Status := ZC_TIMER_STATUS_IDLE }, live, ?_, hes, fun ht => ?_, fun _ => rfl⟩
  · rw [run_modify_eq_ok.mp h, run_modify_eq_ok.mp hheart, run_modify_eq_ok.mp hmoudle,
      run_modify_eq_ok.mp hreconnect, run_modify_eq_ok.mp hinit, hd₁]
    rfl
  · have hlive := (htimed ht).live_nil fun i hi => (hused i hi).2 (List.mem_finRange i)
    rw [hd₁] at hlive
    exact hlive

/-- The link once the queues have been emptied and the timers stopped. -/
def Link.cleared (l : Link) (timer : Fin ZC_TIMER_MAX_NUM → ZC_Timer) (live : List Nat) : Link :=
  { l with u8MainState := PCT_STATE_INIT, u8ReconnectTimer := none, g_struTimer := timer, liveTimers := live }

/-- What `PCT_ReconnectCloud` and `PCT_Sleep` begin with. -/
theorem clear_goes (hd : d.Owned) {d₁ d₂ : Device} (hinit : MSG_Init.run d = .ok ((), d₁))
    (hkey : (setKeyRecv PCT_KEY_UNRECVED).run d₁ = .ok ((), d₂)) (hclear : clearTimers.run d₂ = .ok ((), d')) :
    ∃ es timer live, Goes d d' (d.link.cleared timer live) es [] ∧ (∀ e ∈ es, e.Plain ends) ∧
      (d.link.Timed → live = []) ∧ ∀ i, (timer i).u8Status = ZC_TIMER_STATUS_IDLE := by
  obtain ⟨hsound, hlink, htrace, hpending⟩ := MSG_Init_goes hd hinit
  have hd₂ := run_modify_eq_ok.mp hkey
  obtain ⟨es, timer, live, hd', hes, hlive, hidle⟩ := @clearTimers_spec ends _ _ hclear
  have hlink₂ : d₂.link = d.link := by
    rw [← hlink, hd₂]
    rfl
  have hsend := @Device.Sendable.congr _ d' hsound.sendable (by rw [hd', hd₂]; rfl) fun _ _ => by rw [hd', hd₂]; rfl
  refine ⟨es, timer, live, ⟨⟨hsend.1, ?_, ?_⟩, ?_, ?_, hsend.2.trans hpending⟩, hes, hlink₂ ▸ hlive, hidle⟩
  · rw [hd', hd₂]
    exact hsound.owned.recv
  · rw [hd', hd₂]
    exact hsound.owned.request
  · rw [← hlink, hd', hd₂]
    rfl
  · rw [hd', hd₂]
    exact congrArg (es ++ ·) htrace

theorem Link.Timed.cleared {l : Link} {timer : Fin ZC_TIMER_MAX_NUM → ZC_Timer} {live : List Nat}
    (hlive : live = []) (hidle : ∀ i, (timer i).u8Status = ZC_TIMER_STATUS_IDLE) : (l.cleared timer live).Timed :=
  Link.timed_of_idle hlive fun i hi => by
    rw [Link.Used, Link.cleared, hidle i] at hi
    cases hi

/-- All timers are stopped, and one for reconnecting is started, if there is one. -/
theorem PCT_ReconnectCloud_steps (hd : d.Sound) (hstate : d.link.u8MainState = PCT_STATE_DISCONNECT_CLOUD)
    (h : (PCT_ReconnectCloud env).run d = .ok ((), d')) : Relation.ReflTransGen (Step ends) d d' ∧ d'.Sound := by
  obtain ⟨c, _, hget, h⟩ := run_bind_eq_ok.mp h
  obtain ⟨rfl, hsame⟩ : c = d.g_struProtocolController ∧ _ := run_pure_eq_ok.mp hget
  rw [hsame] at h
  split at h
  · obtain ⟨-, rfl⟩ := run_pure_eq_ok.mp h
    exact ⟨.refl, hd⟩
  · obtain ⟨_, d₁, hinit, h⟩ := run_bind_eq_ok.mp h
    obtain ⟨_, d₂, hkey, h⟩ := run_bind_eq_ok.mp h
    obtain ⟨_, d₃, hclear, h⟩ := run_bind_eq_ok.mp h
    obtain ⟨r, d₄, hset, h⟩ := run_bind_eq_ok.mp h
    obtain ⟨_, d₅, hsocket, h⟩ := run_bind_eq_ok.mp h
    obtain ⟨_, d₆, hkey', h⟩ := run_bind_eq_ok.mp h
    obtain ⟨es, timer, live, hgoes, hes, hlive, hidle⟩ := @clear_goes ends _ _ hd.owned _ _ hinit hkey hclear
    have hrest : ∀ link, d₄.link = link → d₄.channel = d₃.channel → link.u8MainState = PCT_STATE_INIT →
        Goes d d' link es [] := by
      rintro link rfl hchannel hinit'
      obtain ⟨hsound, -, htrace, hpending⟩ := @Device.Sound.goes _ d' hgoes.sound (by
        rw [run_modify_eq_ok.mp h, run_modify_eq_ok.mp hkey', run_modify_eq_ok.mp hsocket]
        exact hchannel)
      refine ⟨hsound, ?_, htrace.trans hgoes.trace_eq, hpending.trans hgoes.pending_eq⟩
      rw [run_modify_eq_ok.mp h, run_modify_eq_ok.mp hkey', run_modify_eq_ok.mp hsocket]
      rw [← hinit']
      rfl
    have hwaits : ∀ link, d₄.link = link → d₄.channel = d₃.channel → d.link.Waits link →
        Relation.ReflTransGen (Step ends) d d' ∧ d'.Sound := fun link hlink hchannel hwaits =>
      have hgoes := hrest link hlink hchannel hwaits.1
      ⟨.single (.reconnect link es hstate hwaits hes hgoes), hgoes.sound⟩
    have hused : ∀ i, ¬ (d.link.cleared timer live).Used i := fun i hi => by
      rw [Link.Used, Link.cleared, hidle i] at hi
      cases hi
    obtain ⟨-, rfl⟩ | ⟨i, -, -, rfl⟩ | ⟨i, handle, hfirst, hnew, hzero, -, rfl⟩ := HF_SetTimer_cases hset
    · refine hwaits _ hgoes.link_eq rfl ⟨rfl, rfl, fun ht => .cleared (hlive ht) hidle, fun i hi => absurd hi (hused i)⟩
    · refine hwaits ((d.link.cleared timer live).fail i) ?_ rfl ⟨rfl, rfl, fun ht => ?_, fun j hj => absurd hj (hused j)⟩
      · rw [← hgoes.link_eq]
        rfl
      · exact (Link.Timed.cleared (hlive ht) hidle).fail (hused i)
    · let link : Link := { d.link.cleared timer live with u8ReconnectTimer := some i }
      refine hwaits (link.start i PCT_TIMER_RECONNECT handle) ?_ rfl ⟨rfl, rfl, fun ht => ?_, fun j hj => ?_⟩
      · change Link.start { d₃.link with u8ReconnectTimer := some i } i PCT_TIMER_RECONNECT handle = _
        rw [hgoes.link_eq]
      · have hlink : link.Timed := Link.timed_of_idle (hlive ht) hused
        change handle ∉ d₃.link.liveTimers at hnew
        rw [hgoes.link_eq] at hfirst hnew
        exact hlink.start hfirst hnew hzero fun _ => ⟨rfl, hused⟩
      · obtain rfl : j = i := (Link.used_start.mp hj).resolve_right (hused j)
        simp [Link.start]

/-- What `HF_Cloudfunc` does after `PCT_Run`. -/
theorem cloudTail_steps (hd : d.Sound) (h : (cloudTail env).run d = .ok ((), d')) :
    Relation.ReflTransGen (Step ends) d d' ∧ d'.Sound := by
  obtain ⟨c, _, hget, h⟩ := run_bind_eq_ok.mp h
  obtain ⟨rfl, hsame⟩ : c = d.g_struProtocolController ∧ _ := run_pure_eq_ok.mp hget
  rw [hsame] at h
  split at h
  · rename_i hstate
    obtain ⟨_, d₁, hdraw, h⟩ := run_bind_eq_ok.mp h
    have hpath : Path ends (· = PCT_STATE_DISCONNECT_CLOUD) d d₁ :=
      .of_quiet (draw_aside (P := Event.Quiet) env.rand (fun _ => rfl) hdraw)
    obtain ⟨hsteps₁, hd₁, hstate₁⟩ := hpath hd hstate
    obtain ⟨hsteps₂, hd'⟩ := @PCT_ReconnectCloud_steps ends env _ _ hd₁ hstate₁ h
    exact ⟨hsteps₁.trans hsteps₂, hd'⟩
  · rename_i hstate
    exact MSG_SendDataToCloud_steps hd hstate h

/-- The module has not answered a request in time. -/
theorem PCT_SendMoudleTimeout_path {d₀ : Device} (hd₀ : d₀.link.Runs PCT_TIMER_SENDMOUDLE) (hd : d₀.Sound)
    (h : (PCT_SendMoudleTimeout env).run d₀ = .ok ((), d')) : Path ends S d₀ d' := by
  rw [PCT_SendMoudleTimeout, run_get_bind] at h
  split at h
  · exact (run_throw_eq_ok.mp h).elim
  · rename_i addr haddr
    obtain rfl := hd.owned.request addr haddr
    obtain ⟨_, d₁, hnum, h⟩ := run_bind_eq_ok.mp h
    have hpath₁ : Aside Device.link (fun e => e.Plain ends ∨ e.Cloud) d₀ d₁ := by
      rw [run_modify_eq_ok.mp hnum]
      exact .of_channel rfl rfl
    split at h
    · obtain ⟨_, d₂, hidle, h⟩ := run_bind_eq_ok.mp h
      obtain ⟨_, d₃, hhandle, h⟩ := run_bind_eq_ok.mp h
      have hpath₂ : Aside Device.link (fun e => e.Plain ends ∨ e.Cloud) d₁ d₃ := by
        rw [run_modify_eq_ok.mp hhandle, run_modify_eq_ok.mp hidle]
        exact .of_channel rfl rfl
      obtain ⟨_, _, hid, h⟩ := run_bind_eq_ok.mp h
      obtain ⟨-, hsame⟩ := run_lift_eq_ok.mp hid
      rw [hsame] at h
      have hpath₃ : Aside Device.link (fun e => e.Plain ends ∨ e.Cloud) d₃ d' :=
        (PCT_SendErrorMsg_aside env _ _ h).mono (fun h => link_of_core (core_of_unsent h)) fun _ => Or.inr
      have hpath := Frame.trans (Frame.trans hpath₁ hpath₂) hpath₃
      exact fun hd hS => ⟨.single (.queue (.inr (.inr hd₀)) hpath), hd.of_aside hpath, by rw [hpath.view_eq]; exact hS⟩
    · obtain ⟨_, d₂, hrequest, h⟩ := run_bind_eq_ok.mp h
      obtain ⟨_, d₃, hset, h⟩ := run_bind_eq_ok.mp h
      obtain ⟨-, rfl⟩ := run_pure_eq_ok.mp h
      have hpath₁ : Path ends S d₀ d₁ := by
        rw [run_modify_eq_ok.mp hnum]
        exact .of_aside (.of_channel rfl rfl)
      have hlink : d₂.link = d₀.link := by
        obtain ⟨-, _, -, rfl⟩ := run_HF_SendDataToMoudle_eq_ok env hrequest
        rw [run_modify_eq_ok.mp hnum]
        rfl
      have hsend : d₂.link.MaySend := hlink ▸ .inr (.inr hd₀)
      exact Frame.trans hpath₁ (Frame.trans (request_path env _ _ hrequest)
        (HF_SetTimer_path_of (by decide) (by decide) (.inr hsend) hset))

/-- It is time for a heart-beat. -/
theorem PCT_SendHeartMsg_path {d₀ : Device} (hd₀ : d₀.link.Runs PCT_TIMER_SENDHEART)
    (h : (PCT_SendHeartMsg env).run d₀ = .ok ((), d')) : Path ends S d₀ d' := by
  obtain ⟨_, d₁, hsend, h⟩ := run_bind_eq_ok.mp h
  have hqueue : Aside Device.link (fun e => e.Plain ends ∨ e.Cloud) d₀ d₁ :=
    (sendBuilt_aside env _ _ hsend).mono (fun h => link_of_core (core_of_unsent h)) fun _ => Or.inr
  have hpath : Path ends S d₀ d₁ := fun hd hS =>
    ⟨.single (.queue (.inr (.inl hd₀)) hqueue), hd.of_aside hqueue, by rw [hqueue.view_eq]; exact hS⟩
  obtain ⟨_, d₂, hset, h⟩ := run_bind_eq_ok.mp h
  obtain ⟨-, rfl⟩ := run_pure_eq_ok.mp h
  have hsend : d₁.link.MaySend := hqueue.view_eq ▸ .inr (.inl hd₀)
  exact Frame.trans hpath (HF_SetTimer_path_of (by decide) (by decide) (.inr hsend) hset)

/-- The action of the reconnect timer, and the end of the timer. -/
theorem fire_steps {htimer : Nat} {i : Fin ZC_TIMER_MAX_NUM} (hd : d.Sound) (hlive : htimer ∈ d.link.liveTimers)
    (hid : d.link.timerId htimer = some i) (htype : (d.link.g_struTimer i).u8Type = PCT_TIMER_RECONNECT)
    {d₁ d₂ : Device} (hclear : (clearHandle .u8ReconnectTimer).run d = .ok ((), d₁))
    (hset : (setMainState PCT_STATE_ACCESS_NET).run d₁ = .ok ((), d₂))
    (hstop : (TIMER_StopTimer (.slot i)).run d₂ = .ok ((), d')) : Step ends d d' ∧ d'.Sound := by
  obtain ⟨j, hj, hd'⟩ := TIMER_StopTimer_spec hstop
  obtain rfl : i = j := Option.some.inj hj
  have hgoes₂ : Goes d d₂ d₂.link [] d.pending := by
    rw [run_modify_eq_ok.mp hset, run_modify_eq_ok.mp hclear]
    exact hd.goes rfl
  have hgoes := (@Device.Sound.goes _ ((d₂.setTimer i { d₂.g_struTimer i with u8Status := ZC_TIMER_STATUS_IDLE
    }).withLiveTimers (d₂.liveTimers.erase (d₂.g_struHfTimer i).struHandle)) hgoes₂.sound rfl).log
      (.stopTimer (.slot i) i (d₂.g_struTimer i))
  have hlink₂ : d₂.link = { d.link with u8MainState := PCT_STATE_ACCESS_NET, u8ReconnectTimer := none } := by
    rw [run_modify_eq_ok.mp hset, run_modify_eq_ok.mp hclear]
    rfl
  have hstep : Goes d d' (Link.stop { d.link with u8MainState := PCT_STATE_ACCESS_NET, u8ReconnectTimer := none } i)
      [.stopTimer (.slot i) i (d₂.g_struTimer i)] d.pending := by
    rw [hd', ← hlink₂]
    exact ⟨hgoes.sound, hgoes.link_eq, hgoes.trace_eq.trans (congrArg (_ :: ·) hgoes₂.trace_eq),
      hgoes.pending_eq.trans hgoes₂.pending_eq⟩
  exact ⟨.fire htimer i (.stopTimer (.slot i) i (d₂.g_struTimer i)) hlive hid htype trivial hstep, hstep.sound⟩

theorem HF_timer_callback_steps {htimer : Nat} (hd : d.Sound) (hlive : htimer ∈ d.liveTimers)
    (h : (HF_timer_callback env htimer).run d = .ok ((), d')) : Relation.ReflTransGen (Step ends) d d' ∧ d'.Sound := by
  rw [HF_timer_callback, run_get_bind] at h
  split at h
  · exact (run_throw_eq_ok.mp h).elim
  · rename_i i hid
    split at h
    · have hgoes : Goes d d' (d.link.ring i) [] d.pending := by
        rw [run_modify_eq_ok.mp h]
        exact hd.goes rfl
      exact ⟨.single (.ring i hgoes), hgoes.sound⟩
    · obtain ⟨_, d₁, haction, hstop⟩ := run_bind_eq_ok.mp h
      rw [TIMER_TimeoutAction, run_get_bind] at haction
      have hruns : ∀ u8Type, (d.g_struTimer i).u8Type = u8Type → d.link.Runs u8Type :=
        fun u8Type htype => ⟨htimer, hlive, i, hid, htype⟩
      have hthen : Path ends (fun _ => True) d d₁ → Relation.ReflTransGen (Step ends) d d' ∧ d'.Sound := fun hpath =>
        have hrest := Frame.trans hpath (TIMER_StopTimer_path (.slot i) hstop) hd trivial
        ⟨hrest.1, hrest.2.1⟩
      split at haction
      · rename_i htype
        obtain ⟨_, d₂, hclear, hset⟩ := run_bind_eq_ok.mp haction
        have hstep := @fire_steps ends _ _ _ _ hd hlive hid htype _ _ hclear hset hstop
        exact ⟨.single hstep.1, hstep.2⟩
      · rename_i htype
        exact hthen (.of_step (PCT_DisConnectCloud_goes hd haction) (.disconnect (.inr (hruns _ htype))) id)
      · rename_i htype
        exact hthen (PCT_SendMoudleTimeout_path env (hruns _ htype) hd haction)
      · rename_i htype
        exact hthen (PCT_SendHeartMsg_path env (hruns _ htype) haction)
      · obtain ⟨_, d₂, hset, hnotify⟩ := run_bind_eq_ok.mp haction
        refine hthen (Frame.trans (HF_SetTimer_path_of (by decide) (by decide) (.inl rfl) hset) (quiet_path ?_ hnotify))
        exact moves_mono (PCT_SendNotifyMsg_aside env ⟨by decide, by decide, by decide⟩) Aside.of_unsent

/-- The request that the module has answered is released. -/
theorem releaseRequest_path {d₀ : Device} (hd : d₀.Owned) (h : releaseRequest.run d₀ = .ok ((), d')) :
    Path ends S d₀ d' := by
  obtain ⟨_, d₁, hstop, h⟩ := run_bind_eq_ok.mp h
  have hrequest : d₁.g_struProtocolController.pu8SendMoudleBuffer = d₀.g_struProtocolController.pu8SendMoudleBuffer := by
    obtain ⟨i, -, hd₁⟩ := TIMER_StopTimer_spec hstop
    rw [hd₁]
    rfl
  obtain ⟨c, _, hget, h⟩ := run_bind_eq_ok.mp h
  obtain ⟨rfl, hsame⟩ : c = d₁.g_struProtocolController ∧ _ := run_pure_eq_ok.mp hget
  rw [hsame] at h
  refine Frame.trans (TIMER_StopTimer_path _ hstop) ?_
  split at h
  · exact (run_throw_eq_ok.mp h).elim
  · rename_i addr haddr
    obtain rfl := hd.request addr (hrequest ▸ haddr)
    refine moves_bind (R := Path ends S) ?_ (fun _ => ?_) h
    · exact modify_path (fun _ => rfl) fun _ => rfl
    · exact modify_path (fun _ => rfl) fun _ => rfl

/-- A message of the module is passed on to the cloud. -/
theorem PCT_HandleMoudleEvent_path {d₀ : Device} (hS : ∀ s, S s → s.Opened) {data : List UInt8} {len : Nat}
    (h : (PCT_HandleMoudleEvent env data len).run d₀ = .ok ((), d')) : Path ends S d₀ d' := by
  have hsend : Moves (Path ends S) (do
      let u32RetVal ← PCT_SendMsgToCloud env ZC_SEC_ALG_AES len data
      if u32RetVal = ZC_RET_OK then
        logEvent (.answered (data.take len))) :=
    moves_bind (cloud_path hS (PCT_SendMsgToCloud_aside env _ _ _)) fun _ => moves_ite
      (moves_mono (logEvent_aside (P := Event.Plain ends) (fun _ => rfl) trivial rfl) Path.of_aside) (moves_pure _)
  intro hd
  refine (?_ : Path ends S d₀ d') hd
  obtain ⟨c, _, hget, h⟩ := run_bind_eq_ok.mp h
  obtain ⟨rfl, hsame⟩ : c = d₀.g_struProtocolController ∧ _ := run_pure_eq_ok.mp hget
  rw [hsame] at h
  split at h
  · obtain ⟨_, d₁, hrelease, h⟩ := run_bind_eq_ok.mp h
    exact Frame.trans (releaseRequest_path hd.owned hrelease) (hsend h)
  · exact hsend h

/-- A notification of the module that nothing else depends on. -/
theorem PCT_SendNotifyMsg_path {u8NotifyCode : ZC_MsgCode} (hconnected : u8NotifyCode ≠ ZC_CODE_CLOUD_CONNECTED)
    (hdisconnected : u8NotifyCode ≠ ZC_CODE_CLOUD_DISCONNECTED) (hend : u8NotifyCode = ZC_CODE_ZOTA_END → ends) :
    Moves (Path ends S) (PCT_SendNotifyMsg env u8NotifyCode) :=
  moves_mono (PCT_SendNotifyMsg_aside env (P := Event.Plain ends) ⟨hconnected, hdisconnected, hend⟩) fun h =>
    .of_aside (h.of_unsent.mono link_of_core fun _ => id)

/-- The module is told that the cloud is not connected. -/
theorem deny_steps (hd : d.Sound) (h : (PCT_SendNotifyMsg env ZC_CODE_CLOUD_DISCONNECTED).run d = .ok ((), d')) :
    Relation.ReflTransGen (Step ends) d d' ∧ d'.Sound := by
  have hgoes := PCT_SendNotifyMsg_goes (@Device.Sound.goes _ d hd rfl) h
  exact ⟨.single (.deny hgoes), hgoes.sound⟩

/-- A registration, other than while the device connects to the cloud. -/
theorem registerMoudle_steps {data : List UInt8} (hd : d.Sound)
    (hnot : ¬ (PCT_STATE_ACCESS_NET.code ≤ d.link.u8MainState.code ∧ d.link.u8MainState.code < PCT_STATE_CONNECT_CLOUD.code))
    (h : (registerMoudle env data).run d = .ok ((), d')) : Relation.ReflTransGen (Step ends) d d' ∧ d'.Sound := by
  obtain ⟨c, _, hget, h⟩ := run_bind_eq_ok.mp h
  obtain ⟨rfl, hsame⟩ : c = d.g_struProtocolController ∧ _ := run_pure_eq_ok.mp hget
  rw [hsame] at h
  dsimp only at h
  split at h
  · rename_i hrange
    have hconnect : d.link.u8MainState = PCT_STATE_CONNECT_CLOUD := by
      change ¬ (_ ≤ d.g_struProtocolController.u8MainState.code ∧ d.g_struProtocolController.u8MainState.code < _) at hnot
      change d.g_struProtocolController.u8MainState = _
      revert hnot hrange
      cases d.g_struProtocolController.u8MainState <;> simp [PCT_STATE.code]
    have hgoes := PCT_SendNotifyMsg_goes (@Device.Sound.goes _ d hd rfl) h
    exact ⟨.single (.confirm hconnect hgoes), hgoes.sound⟩
  · rename_i hrange
    split at h
    · exact deny_steps env hd h
    · rename_i hdisconnect
      obtain ⟨_, d₁, hstore, h⟩ := run_bind_eq_ok.mp h
      obtain ⟨_, d₂, hset, h⟩ := run_bind_eq_ok.mp h
      have hpath₁ : Path ends (· = d.link.u8MainState) d d₁ :=
        .of_quiet (ZC_StoreRegisterInfo_aside (P := Event.Quiet) _ hstore)
      obtain ⟨hsteps₁, hd₁, hstate₁⟩ := hpath₁ hd rfl
      have hbefore : d₁.link.u8MainState.code < PCT_STATE_ACCESS_NET.code := by
        rw [hstate₁]
        change d.g_struProtocolController.u8MainState.code < _
        revert hrange hdisconnect
        cases d.g_struProtocolController.u8MainState <;> simp [PCT_STATE.code]
      have hgoes := setMainState_goes hd₁ hset
      obtain ⟨c, _, hget, h⟩ := run_bind_eq_ok.mp h
      obtain ⟨rfl, hsame⟩ : c = d₂.g_struProtocolController ∧ _ := run_pure_eq_ok.mp hget
      rw [hsame] at h
      have hrest : Path ends (fun _ => True) d₂ d' := moves_ite
        (moves_bind (TIMER_StopTimer_path _) fun _ => clearHandle_path (by decide)) (moves_pure _) h
      obtain ⟨hsteps₂, hd', -⟩ := hrest hgoes.sound trivial
      exact ⟨hsteps₁.trans (.head (.enter hbefore hgoes) hsteps₂), hd'⟩

theorem moudle_path {d₀ : Device} (h : (PCT_ModuleOtaFileEndMsg env >>= fun _ => PCT_SendNotifyMsg env ZC_CODE_ZOTA_END).run d₀ =
    .ok ((), d')) (hends : ends) : Path ends S d₀ d' := by
  refine moves_bind (moves_mono (PCT_ModuleOtaFileEndMsg_aside env) fun h => .of_aside (h.mono link_of_core fun e he => ?_))
    (fun _ => PCT_SendNotifyMsg_path env (by decide) (by decide) fun _ => hends) h
  exact he.elim Event.Quiet.plain fun he => he.plain hends

theorem dispatchMoudle_steps {pu8Data pu8Payload : List UInt8} {u16DataLen : Nat} (hd : d.Sound)
    (hends : ∀ MsgCode, pstruMsgCode pu8Data = .ok MsgCode →
      ZC_MsgCode.ofByte MsgCode = some ZC_CODE_ZOTA_FILE_END → ends)
    (hregister : ∀ MsgCode, pstruMsgCode pu8Data = .ok MsgCode → ZC_MsgCode.ofByte MsgCode = some ZC_CODE_REGSITER →
      ¬ (PCT_STATE_ACCESS_NET.code ≤ d.link.u8MainState.code ∧ d.link.u8MainState.code < PCT_STATE_CONNECT_CLOUD.code))
    (h : (dispatchMoudle env pu8Data u16DataLen pu8Payload).run d = .ok ((), d')) :
    Relation.ReflTransGen (Step ends) d d' ∧ d'.Sound := by
  obtain ⟨MsgCode, _, hcode, h⟩ := run_bind_eq_ok.mp h
  obtain ⟨hcode, hsame⟩ := run_lift_eq_ok.mp hcode
  rw [hsame] at h
  have hpath : Path ends (fun _ => True) d d' → Relation.ReflTransGen (Step ends) d d' ∧ d'.Sound := fun hpath =>
    ⟨(hpath hd trivial).1, (hpath hd trivial).2.1⟩
  split at h
  · rename_i hcode'
    exact registerMoudle_steps env hd (hregister MsgCode hcode hcode') h
  · exact hpath (quiet_path (beginMoudle_aside env) h)
  · exact hpath (quiet_path (PCT_ModuleOtaFileBeginMsg_aside env _) h)
  · exact hpath (quiet_path (PCT_ModuleOtaFileChunkMsg_aside env _ _) h)
  · rename_i hcode'
    exact hpath (moudle_path env h (hends MsgCode hcode hcode'))
  · obtain ⟨-, rfl⟩ := run_pure_eq_ok.mp h
    exact ⟨.refl, hd⟩
  · exact hpath (quiet_path (ZC_ConfigPara_aside env _) h)
  · obtain ⟨c, _, hget, h⟩ := run_bind_eq_ok.mp h
    obtain ⟨rfl, hsame⟩ : c = d.g_struProtocolController ∧ _ := run_pure_eq_ok.mp hget
    rw [hsame] at h
    split at h
    · rename_i hstate
      have hopened := @PCT_HandleMoudleEvent_path ends _ env _ _ opened_connect _ _ h hd hstate
      exact ⟨hopened.1, hopened.2.1⟩
    · exact deny_steps env hd h

/-- What becomes of a message of the module: it is dropped, passed on to a client,
or handled. -/
theorem ZC_RecvDataFromMoudle_cases {pu8Data : List UInt8} {u16DataLen : Nat} {r : ZC_RET}
    (h : (ZC_RecvDataFromMoudle env pu8Data u16DataLen).run d = .ok (r, d')) :
    d' = d ∨ Aside Device.core Event.Quiet d d' ∨
      dispatched pu8Data u16DataLen ∧ checkMsgCrc pu8Data = .ok ZC_RET_OK ∧
        ∃ pu8Payload, (dispatchMoudle env pu8Data u16DataLen pu8Payload).run d = .ok ((), d') := by
  obtain ⟨_, d₁, htrace, h⟩ := run_bind_eq_ok.mp h
  rw [ZC_TraceData_eq htrace] at h
  split at h
  · exact .inl (run_pure_eq_ok.mp h).2
  · rename_i hlen
    obtain ⟨_, d₂, htrace', h⟩ := run_bind_eq_ok.mp h
    rw [ZC_TraceData_eq htrace'] at h
    obtain ⟨crc, _, hcrc, h⟩ := run_bind_eq_ok.mp h
    obtain ⟨hcrc, hsame⟩ := run_lift_eq_ok.mp hcrc
    rw [hsame] at h
    split at h
    · exact .inl (run_pure_eq_ok.mp h).2
    · rename_i hok
      obtain rfl : crc = ZC_RET_OK := by
        cases crc
        · rfl
        · exact absurd rfl hok
      obtain ⟨⟨opts, u16OptLen⟩, _, hparse, h⟩ := run_bind_eq_ok.mp h
      obtain ⟨hparse, hsame⟩ := run_lift_eq_ok.mp hparse
      rw [hsame] at h
      dsimp only at h
      cases hsession : opts.pstruSsession with
      | some pstruSsession =>
        rw [hsession] at h
        exact .inr (.inl (moves_bind (ZC_DealSessionOpt_aside env _ _ _ _) (fun _ => moves_pure _) h))
      | none =>
        rw [hsession] at h
        obtain ⟨_, d₃, hdispatch, h⟩ := run_bind_eq_ok.mp h
        obtain ⟨-, rfl⟩ := run_pure_eq_ok.mp h
        exact .inr (.inr ⟨⟨hlen, opts, u16OptLen, hparse, hsession⟩, hcrc, _, hdispatch⟩)

theorem ZC_RecvDataFromMoudle_steps {pu8Data : List UInt8} {u16DataLen : Nat} {r : ZC_RET} (hd : d.Sound)
    (hends : Input.Ends env d (.moudle pu8Data u16DataLen) → ends) (hregister : ¬ Input.Registers d (.moudle pu8Data u16DataLen))
    (h : (ZC_RecvDataFromMoudle env pu8Data u16DataLen).run d = .ok (r, d')) :
    Relation.ReflTransGen (Step ends) d d' ∧ d'.Sound := by
  obtain rfl | haside | ⟨hdispatched, hcrc, pu8Payload, hdispatch⟩ := ZC_RecvDataFromMoudle_cases env h
  · exact ⟨.refl, hd⟩
  · have hpath : Path ends (fun _ => True) d d' := .of_quiet haside
    exact ⟨(hpath hd trivial).1, (hpath hd trivial).2.1⟩
  · refine dispatchMoudle_steps env hd (fun MsgCode hcode hend => ?_) (fun MsgCode hcode hreg hrange => ?_) hdispatch
    · exact hends ⟨hdispatched, hcrc, MsgCode, hcode, hend⟩
    · exact hregister ⟨hrange.1, hrange.2, hdispatched, hcrc, MsgCode, hcode, hreg⟩

/-- A registration while the device connects only tells the module that the cloud
is connected. -/
theorem Device.handle_registers {input : Input} (hd : d.Sound) (hregister : Input.Registers d input)
    (h : (Device.handle env input).run d = .ok ((), d')) :
    d' = d ∨ Aside Device.core Event.Quiet d d' ∨ Goes d d' d.link [notification ZC_CODE_CLOUD_CONNECTED] d.pending := by
  cases input with
  | moudle pu8Data u16DataLen =>
    obtain ⟨hlow, hhigh, -, -, MsgCode, hcode, hreg⟩ := hregister
    obtain ⟨r, d₁, hrecv, h⟩ := run_bind_eq_ok.mp h
    obtain ⟨-, rfl⟩ := run_pure_eq_ok.mp h
    refine (ZC_RecvDataFromMoudle_cases env hrecv).imp_right (Or.imp_right ?_)
    rintro ⟨-, -, pu8Payload, hdispatch⟩
    obtain ⟨MsgCode', _, hcode', hdispatch⟩ := run_bind_eq_ok.mp hdispatch
    obtain ⟨hcode', hsame⟩ := run_lift_eq_ok.mp hcode'
    obtain rfl : MsgCode' = MsgCode := Except.ok.inj (hcode'.symm.trans hcode)
    rw [hsame, hreg] at hdispatch
    obtain ⟨c, _, hget, hdispatch⟩ := run_bind_eq_ok.mp hdispatch
    obtain ⟨rfl, hsame⟩ : c = d.g_struProtocolController ∧ _ := run_pure_eq_ok.mp hget
    have hbefore : d.g_struProtocolController.u8MainState.code < PCT_STATE_DISCONNECT_CLOUD.code :=
      Nat.lt_trans hhigh (by decide)
    rw [hsame] at hdispatch
    dsimp only at hdispatch
    rw [if_pos ⟨hlow, hbefore⟩] at hdispatch
    exact PCT_SendNotifyMsg_goes (@Device.Sound.goes _ d hd rfl) hdispatch
  | _ => exact hregister.elim

/-- Every step of a run, other than a registration while the device connects, and
the coming and going of the network. -/
theorem Device.handle_steps {input : Input} (hd : d.Sound) (henabled : input.enabled d)
    (hends : Input.Ends env d input → ends) (hregister : ¬ Input.Registers d input) (hwake : input ≠ .wakeUp)
    (hsleep : input ≠ .sleep) (h : (Device.handle env input).run d = .ok ((), d')) :
    Relation.ReflTransGen (Step ends) d d' ∧ d'.Sound := by
  have hpath : Path ends (fun _ => True) d d' → Relation.ReflTransGen (Step ends) d d' ∧ d'.Sound := fun hpath =>
    ⟨(hpath hd trivial).1, (hpath hd trivial).2.1⟩
  cases input with
  | run => exact PCT_Run_steps env hd hends h
  | cloudTail => exact cloudTail_steps env hd h
  | recvCloud pu8Data => exact hpath (quiet_path (MSG_RecvDataFromCloud_aside env pu8Data) h)
  | recvError =>
    have hgoes := PCT_DisConnectCloud_goes hd h
    have hopen : PCT_STATE_WAIT_ACCESSRSP.code ≤ d.link.u8MainState.code := henabled.1
    exact ⟨.single (.disconnect (.inl (Nat.le_of_succ_le hopen)) hgoes), hgoes.sound⟩
  | timer htimer => exact HF_timer_callback_steps env hd henabled h
  | moudle pu8Data u16DataLen =>
    obtain ⟨r, d₁, hrecv, h⟩ := run_bind_eq_ok.mp h
    obtain ⟨-, rfl⟩ := run_pure_eq_ok.mp h
    exact ZC_RecvDataFromMoudle_steps env hd hends hregister hrecv
  | listen => exact hpath (quiet_path (ZC_StartClientListen_aside env) h)
  | clientConnect connfd =>
    exact hpath (quiet_path (moves_bind (ZC_ClientConnect_aside connfd) fun _ => moves_pure _) h)
  | clientData i pu8Data =>
    exact hpath (quiet_path (moves_bind moves_get fun _ => ZC_RecvDataFromClient_aside env _ _) h)
  | clientDisconnect i =>
    exact hpath (quiet_path (moves_bind moves_get fun _ => modifyClient_aside _) h)
  | wakeUp => exact absurd rfl hwake
  | sleep => exact absurd rfl hsleep

/-- What happens before the device goes over to `PCT_STATE_ACCESS_NET` when the
network comes: only timers for registering are started. -/
structure Wakes (ends : Prop) (d d' : Device) : Prop where
  sound : d.Sound → d'.Sound ∧ d'.pending = d.pending
  logs : ∃ es, d'.trace = es ++ d.trace ∧ ∀ e ∈ es, e.Plain ends
  state_eq : d'.link.u8MainState = d.link.u8MainState
  reconnect_eq : d'.link.u8ReconnectTimer = d.link.u8ReconnectTimer
  timed : d.link.Timed → d'.link.Timed
  used : ∀ i, d'.link.Used i → (d'.link.g_struTimer i).u8Type = PCT_TIMER_REGISTER ∨
    d.link.Used i ∧ d'.link.g_struTimer i = d.link.g_struTimer i

instance : Frame (Wakes ends) where
  refl d := ⟨fun hd => ⟨hd, rfl⟩, ⟨[], rfl, by simp⟩, rfl, rfl, id, fun _ hi => .inr ⟨hi, rfl⟩⟩
  trans h₁ h₂ := by
    obtain ⟨es₁, htrace₁, hes₁⟩ := h₁.logs
    obtain ⟨es₂, htrace₂, hes₂⟩ := h₂.logs
    refine ⟨fun hd => ?_, ⟨es₂ ++ es₁, by rw [htrace₂, htrace₁, List.append_assoc], fun e he => ?_⟩,
      h₂.state_eq.trans h₁.state_eq, h₂.reconnect_eq.trans h₁.reconnect_eq, h₂.timed ∘ h₁.timed, fun i hi => ?_⟩
    · obtain ⟨hd₁, hpending₁⟩ := h₁.sound hd
      obtain ⟨hd₂, hpending₂⟩ := h₂.sound hd₁
      exact ⟨hd₂, hpending₂.trans hpending₁⟩
    · exact (List.mem_append.mp he).elim (hes₂ e) (hes₁ e)
    · rcases h₂.used i hi with htype | ⟨hi₁, heq₂⟩
      · exact .inl htype
      · rcases h₁.used i hi₁ with htype | ⟨hi₀, heq₁⟩
        · exact .inl (heq₂ ▸ htype)
        · exact .inr ⟨hi₀, heq₂.trans heq₁⟩

theorem Wakes.of_quiet {d₀ : Device} (h : Aside Device.core Event.Quiet d₀ d') : Wakes ends d₀ d' := by
  have hlink := link_of_core h.view_eq
  obtain ⟨es, htrace, hes, hsend⟩ := h.logs
  refine ⟨fun hd => ⟨hd.of_aside h, ?_⟩, ⟨es, htrace, fun e he => (hes e he).plain⟩, by rw [hlink], by rw [hlink],
    by rw [hlink]; exact id, by rw [hlink]; exact fun _ hi => .inr ⟨hi, rfl⟩⟩
  have hnone : queuedIn es = [] := queuedIn_eq_nil fun e he => by
    have hquiet := hes e he
    cases e <;> first | rfl | exact hquiet.elim
  rw [(hsend hd.sendable).2, hnone, List.map_nil, List.append_nil]

theorem Device.Sound.same {d₀ : Device} (hd : d₀.Sound) (h : d'.channel = d₀.channel) :
    d'.Sound ∧ d'.pending = d₀.pending :=
  ⟨(hd.goes h).sound, (hd.goes h).pending_eq⟩

theorem register_wakes : Moves (Wakes ends) (HF_SetTimer env PCT_TIMER_REGISTER .u8RegisterTimer) := by
  intro d r d' h
  obtain ⟨-, rfl⟩ | ⟨i, hfirst, -, rfl⟩ | ⟨i, handle, hfirst, hnew, hzero, -, rfl⟩ := HF_SetTimer_cases h
  · exact Frame.refl _
  · refine ⟨fun hd => hd.same rfl, ⟨[], rfl, by simp⟩, rfl, rfl,
      fun ht => ht.fail hfirst.1, fun _ hi => .inr ⟨hi, rfl⟩⟩
  · refine ⟨fun hd => hd.same rfl, ⟨[], rfl, by simp⟩, rfl, rfl,
      fun ht => ht.start hfirst hnew hzero fun hne => absurd hne (by decide), fun j hj => ?_⟩
    by_cases hji : j = i
    · exact .inl (by rw [hji]; exact congrArg ZC_Timer.u8Type (if_pos rfl))
    · exact .inr ⟨(Link.used_start (l := d.link).mp hj).resolve_left hji, if_neg hji⟩

theorem TIMER_StopTimer_wakes (arg : TimerIndex) : Moves (Wakes ends) (TIMER_StopTimer arg) := by
  intro d r d' h
  obtain ⟨i, -, rfl⟩ := TIMER_StopTimer_spec h
  refine ⟨fun hd => ?_, ⟨[_], rfl, ?_⟩, rfl, rfl, Link.Timed.stop (l := d.link), fun j hj => .inr ?_⟩
  · have hgoes := (@Device.Sound.goes _ ((d.setTimer i { d.g_struTimer i with u8Status := ZC_TIMER_STATUS_IDLE }).withLiveTimers
      (d.liveTimers.erase (d.g_struHfTimer i).struHandle)) hd rfl).log (.stopTimer arg i (d.g_struTimer i))
    exact ⟨hgoes.sound, hgoes.pending_eq⟩
  · intro e he
    rw [List.mem_singleton.mp he]
    trivial
  · obtain ⟨hji, hused⟩ := (Link.used_stop (l := d.link)).mp hj
    exact ⟨hused, if_neg hji⟩

theorem quiet_wakes {α : Type} {x : Prog Device α} (h : Moves (Aside Device.core Event.Quiet) x) :
    Moves (Wakes ends) x :=
  moves_mono h Wakes.of_quiet

/-- A change of what has nothing to do with the connection. -/
theorem modify_wakes {f : Device → Device} (hlink : ∀ d, (f d).link = d.link)
    (hchannel : ∀ d, (f d).channel = d.channel) : Moves (Wakes ends) (modify f) := by
  refine moves_modify fun d => ⟨fun hd => hd.same (hchannel d),
    ⟨[], ?_, by simp⟩, by rw [hlink], by rw [hlink], by rw [hlink]; exact id,
    by rw [hlink]; exact fun _ hi => .inr ⟨hi, rfl⟩⟩
  exact congrArg Prod.fst (hchannel d)

theorem PCT_WakeUp_wakes : Moves (Wakes ends) (PCT_WakeUp env) := by
  refine moves_bind (moves_bind moves_get fun _ => moves_pure _) fun _ => moves_ite ?_ (moves_pure _)
  refine moves_bind (register_wakes env) fun _ => moves_bind (quiet_wakes ?_) fun _ => quiet_wakes (modifyClient_aside _)
  exact moves_mono (PCT_SendNotifyMsg_aside env ⟨by decide, by decide, by decide⟩) Aside.of_unsent

theorem HF_ReadRegisterInfoFromFlash_aside {P : Event → Prop} :
    Moves (Aside Device.core P) (HF_ReadRegisterInfoFromFlash env) :=
  moves_bind (callFwup_aside _) fun _ => moves_bind (moves_lift _) fun _ => modify_aside (fun _ => rfl) fun _ => rfl

/-- The network comes. -/
theorem HF_WakeUp_spec (h : (HF_WakeUp env).run d = .ok ((), d')) :
    ∃ d₁, Wakes ends d d₁ ∧ (setMainState PCT_STATE_ACCESS_NET).run d₁ = .ok ((), d') := by
  obtain ⟨_, d₁, hwake, h⟩ := run_bind_eq_ok.mp h
  obtain ⟨c, _, hget, h⟩ := run_bind_eq_ok.mp h
  obtain ⟨rfl, hsame⟩ : c = d₁.g_struProtocolController ∧ _ := run_pure_eq_ok.mp hget
  rw [hsame] at h
  have hstart : ∀ d₂ : Device, (do
      modify fun d : Device => { d with g_struRegisterInfo := builtInfo env }
      let _ ← callFwup (callFls (tls_fls_write env.toFlsEnv USER_FLASH_PARAM2_ADDR (builtInfo env).toBytes))
      HF_ReadRegisterInfoFromFlash env
      HF_ReadRegisterInfoFromFlash env
      setMainState PCT_STATE_ACCESS_NET).run d₂ = .ok ((), d') →
      ∃ d₃, Wakes ends d₂ d₃ ∧ (setMainState PCT_STATE_ACCESS_NET).run d₃ = .ok ((), d') := by
    intro d₂ h
    obtain ⟨_, d₃, hinfo, h⟩ := run_bind_eq_ok.mp h
    obtain ⟨_, d₄, hwrite, h⟩ := run_bind_eq_ok.mp h
    obtain ⟨_, d₅, hread, h⟩ := run_bind_eq_ok.mp h
    obtain ⟨_, d₆, hread', h⟩ := run_bind_eq_ok.mp h
    have h₃ : Wakes ends d₂ d₃ := by
      refine modify_wakes ?_ ?_ hinfo
      · exact fun _ => rfl
      · exact fun _ => rfl
    have h₄ : Wakes ends d₃ d₄ := quiet_wakes (callFwup_aside _) hwrite
    have h₅ : Wakes ends d₄ d₅ := quiet_wakes (HF_ReadRegisterInfoFromFlash_aside env) hread
    have h₆ : Wakes ends d₅ d₆ := quiet_wakes (HF_ReadRegisterInfoFromFlash_aside env) hread'
    exact ⟨d₆, Frame.trans h₃ (Frame.trans h₄ (Frame.trans h₅ h₆)), h⟩
  have h₁ : Wakes ends d d₁ := PCT_WakeUp_wakes env hwake
  split at h
  · obtain ⟨_, d₂, hstop, h⟩ := run_bind_eq_ok.mp h
    obtain ⟨_, d₃, hclear, h⟩ := run_bind_eq_ok.mp h
    have h₂ : Wakes ends d₁ d₂ := TIMER_StopTimer_wakes _ hstop
    have h₃ : Wakes ends d₂ d₃ := modify_wakes (fun _ => link_setHandle (by decide) none)
      (fun _ => channel_setHandle _ _ none) hclear
    obtain ⟨d₄, h₄, hset⟩ := hstart d₃ h
    exact ⟨d₄, Frame.trans h₁ (Frame.trans h₂ (Frame.trans h₃ h₄)), hset⟩
  · obtain ⟨d₂, h₂, hset⟩ := hstart d₁ h
    exact ⟨d₂, Frame.trans h₁ h₂, hset⟩

/-- The network goes. -/
theorem HF_Sleep_goes (hd : d.Sound) (h : (HF_Sleep env).run d = .ok ((), d')) :
    ∃ es timer live, Goes d d' (d.link.cleared timer live) es [] ∧ (∀ e ∈ es, e.Plain ends) ∧
      (d.link.Timed → live = []) ∧ ∀ i, (timer i).u8Status = ZC_TIMER_STATUS_IDLE := by
  obtain ⟨_, d₁, hsocket, h⟩ := run_bind_eq_ok.mp h
  obtain ⟨_, d₂, hclient, h⟩ := run_bind_eq_ok.mp h
  obtain ⟨_, d₃, hinit, h⟩ := run_bind_eq_ok.mp h
  obtain ⟨_, d₄, hkey, h⟩ := run_bind_eq_ok.mp h
  obtain ⟨_, d₅, hclear, h⟩ := run_bind_eq_ok.mp h
  obtain ⟨_, d₆, hregister, h⟩ := run_bind_eq_ok.mp h
  obtain ⟨_, d₇, hnotify, h⟩ := run_bind_eq_ok.mp h
  have hd₂ : Goes d d₂ d.link [] d.pending := by
    rw [run_modify_eq_ok.mp hclient, run_modify_eq_ok.mp hsocket]
    exact hd.goes rfl
  obtain ⟨es, timer, live, hgoes, hes, hlive, hidle⟩ := @clear_goes ends _ _ hd₂.sound.owned _ _ hinit hkey hclear
  rw [hd₂.link_eq] at hgoes hlive
  have hgoes₆ := @Device.Sound.goes _ d₆ hgoes.sound (by
    rw [run_modify_eq_ok.mp hregister]
    exact channel_setHandle _ _ none)
  have hlink₆ : d₆.link = d₅.link := by
    rw [run_modify_eq_ok.mp hregister]
    exact link_setHandle (by decide) none
  have hgoes₇ := PCT_SendNotifyMsg_goes hgoes₆ hnotify
  have hgoes' := @Device.Sound.goes _ d' hgoes₇.sound (by
    rw [run_modify_eq_ok.mp h]
    rfl)
  refine ⟨notification ZC_CODE_WIFI_DISCONNECTED :: es, timer, live, ⟨hgoes'.sound, ?_, ?_, ?_⟩, ?_, hlive, hidle⟩
  · rw [run_modify_eq_ok.mp h, ← hgoes.link_eq, ← hlink₆, ← hgoes₇.link_eq]
    rfl
  · rw [hgoes'.trace_eq, hgoes₇.trace_eq, hgoes.trace_eq, hd₂.trace_eq]
    rfl
  · rw [hgoes'.pending_eq, hgoes₇.pending_eq, hgoes.pending_eq]
  · intro e he
    rcases List.mem_cons.mp he with rfl | he
    · exact ⟨by decide, by decide, fun h => absurd h (by decide)⟩
    · exact hes e he

/-- The device has done nothing yet, and waits for the network or the module. -/
structure Device.Fresh (d : Device) : Prop where
  sound : d.Sound
  trace_eq : d.trace = []
  pending_eq : d.pending = []
  state_eq : d.link.u8MainState = PCT_STATE_INIT
  reconnect_eq : d.link.u8ReconnectTimer = none
  idle : ∀ i, ¬ d.link.Used i
  timed : d.link.Timed

theorem PCT_Init_fresh {fwup : Fwup} (h : PCT_Init.run (Device.zero fwup) = .ok ((), d)) : d.Fresh := by
  have hd := congrArg Prod.snd (Except.ok.inj h)
  dsimp only at hd
  rw [← hd]
  have hidle : ∀ i : Fin ZC_TIMER_MAX_NUM, ¬ ZC_TIMER_STATUS_IDLE = ZC_TIMER_STATUS_USED := fun _ => by decide
  refine ⟨⟨⟨List.nodup_nil, ?_⟩, ?_, ?_⟩, rfl, rfl, rfl, rfl, hidle, Link.timed_of_idle rfl hidle⟩
  · exact fun _ hmem => absurd hmem List.not_mem_nil
  · exact fun _ hmem => absurd hmem List.not_mem_nil
  · rintro addr ⟨⟩

theorem Device.Fresh.of_aside (hd : d.Fresh) (h : Aside Device.core (fun _ => False) d d') : d'.Fresh := by
  have hlink := link_of_core h.view_eq
  obtain ⟨es, htrace, hes, hsend⟩ := h.logs
  obtain rfl : es = [] := List.eq_nil_iff_forall_not_mem.mpr hes
  refine ⟨hd.sound.of_aside h, htrace.trans hd.trace_eq, ?_, by rw [hlink]; exact hd.state_eq,
    by rw [hlink]; exact hd.reconnect_eq, by rw [hlink]; exact hd.idle, by rw [hlink]; exact hd.timed⟩
  rw [(hsend hd.sound.sendable).2, hd.pending_eq]
  rfl

theorem Device.Started.fresh (h : d.Started env) : d.Fresh := by
  obtain ⟨fwup, -, -, -, hrun⟩ := h
  obtain ⟨_, d₁, hinit, hread⟩ := run_bind_eq_ok.mp hrun
  obtain ⟨_, d₂, hpct, hconfig⟩ := run_bind_eq_ok.mp hinit
  have h₁ : Aside Device.core (fun _ => False) d₂ d₁ := by
    refine moves_bind (drawBytes_aside _ _) (fun _ => moves_bind (moves_lift _) fun _ => ?_) hconfig
    exact modifyConfig_aside _
  have h₂ : Aside Device.core (fun _ => False) d₁ d := by
    refine moves_bind (callFwup_aside _) (fun _ => moves_ite ?_ (moves_pure _)) hread
    exact moves_bind (callFwup_aside _) fun _ => moves_bind (moves_lift _) fun _ => modifyConfig_aside _
  exact ((PCT_Init_fresh hpct).of_aside h₁).of_aside h₂

/-- The handle for reconnecting names the timer that is about to run out. -/
theorem Link.Timed.of_fire {l : Link} (h : l.Timed) {handle : Nat} {i : Fin ZC_TIMER_MAX_NUM}
    (hlive : handle ∈ l.liveTimers) (hid : l.timerId handle = some i)
    (htype : (l.g_struTimer i).u8Type = PCT_TIMER_RECONNECT) : l.u8ReconnectTimer = some i := by
  obtain ⟨j, hj, hused⟩ := h.slot handle hlive
  obtain rfl : i = j := Option.some.inj (hid.symm.trans hj)
  exact h.reconnect i hused htype

/-- The buffers and the queues stay in order with every step. -/
theorem Step.sound (h : Step ends d d') (hd : d.Sound) : d'.Sound := by
  cases h with
  | aside h => exact hd.of_aside h
  | queue _ h => exact hd.of_aside h
  | confirm _ h | deny h | disconnect _ h | connect _ _ _ h | greet _ _ _ h | access _ h | accept _ h | enter _ h
  | fail _ _ h | stop _ _ _ h | settle _ _ _ _ h | ring _ h => exact h.sound
  | reconnect _ _ _ _ _ h | send _ _ _ _ _ h | start _ _ _ _ _ _ _ _ h | fire _ _ _ _ _ _ _ h => exact h.sound

/-- The timers stay in order with every step. -/
theorem Step.timed (h : Step ends d d') (ht : d.link.Timed) : d'.link.Timed := by
  cases h with
  | aside h => exact h.view_eq ▸ ht
  | queue _ h => exact h.view_eq ▸ ht
  | confirm _ h => exact h.link_eq ▸ ht
  | deny h => exact h.link_eq ▸ ht
  | disconnect _ h => exact h.link_eq ▸ ht.congr rfl rfl rfl rfl
  | connect _ _ _ h => exact h.link_eq ▸ ht.congr rfl rfl rfl rfl
  | greet _ _ _ h => exact h.link_eq ▸ ht.congr rfl rfl rfl rfl
  | access _ h => exact h.link_eq ▸ ht.congr rfl rfl rfl rfl
  | accept _ h => exact h.link_eq ▸ ht.congr rfl rfl rfl rfl
  | reconnect _ _ _ hlink _ h => exact h.link_eq ▸ hlink.2.2.1 ht
  | fire _ _ _ hlive hid htype _ h =>
    exact h.link_eq ▸ (ht.settle (ht.of_fire hlive hid htype)).congr rfl rfl rfl rfl
  | enter _ h => exact h.link_eq ▸ ht.congr rfl rfl rfl rfl
  | start _ _ _ hfirst hnew hzero htype _ h =>
    exact h.link_eq ▸ ht.start hfirst hnew hzero fun hne => absurd hne htype
  | fail _ hidle h => exact h.link_eq ▸ ht.fail hidle
  | stop _ _ _ h => exact h.link_eq ▸ ht.stop
  | settle _ _ _ hreconnect h => exact h.link_eq ▸ ht.settle hreconnect
  | ring _ h => exact h.link_eq ▸ ht.ring
  | send _ _ _ _ _ h => exact h.link_eq ▸ ht

end

end ZCloud
