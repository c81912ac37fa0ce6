import Mathlib.Logic.Relation
import ZCloud.ProtocolController.Link

open Memory Program

namespace ZCloud

/-- The buffers and the queues are in order. -/
structure Device.Sound (d : Device) : Prop where
  sendable : d.Sendable
  owned : d.Owned

/-- The device has gone over to `link` by doing `es`, and the frames `pending` wait to be sent. -/
structure Goes (d d' : Device) (link : Link) (es : List Event) (pending : List (List UInt8)) : Prop where
  sound : d'.Sound
  link_eq : d'.link = link
  trace_eq : d'.trace = es ++ d.trace
  pending_eq : d'.pending = pending

/-- The events that have nothing to do with the connection to the cloud. With them
are the events at the end of a file, if there can be any. -/
def Event.Plain (ends : Prop) : Event → Prop
  | .connected _ | .queued .. | .sent _ => False
  | .finish .. => ends
  | .toMoudle (.notify u8NotifyCode) _ =>
    u8NotifyCode ≠ ZC_CODE_CLOUD_CONNECTED ∧ u8NotifyCode ≠ ZC_CODE_CLOUD_DISCONNECTED ∧
      (u8NotifyCode = ZC_CODE_ZOTA_END → ends)
  | _ => True

variable {ends : Prop}

theorem Event.Quiet.plain {e : Event} (h : e.Quiet) : e.Plain ends := by
  cases e with
  | toMoudle source data =>
    cases source with
    | notify u8NotifyCode => exact ⟨h.1, h.2.1, fun hend => absurd hend h.2.2⟩
    | request => trivial
    | client ClientId => trivial
  | finish struOtaInfo current_state => exact h.elim
  | connected RandMsg => exact h.elim
  | queued plain frame => exact h.elim
  | sent frame => exact h.elim
  | _ => trivial

theorem Event.End.plain {e : Event} (h : e.End) (hends : ends) : e.Plain ends := by
  cases e with
  | toMoudle source data =>
    cases source with
    | notify u8NotifyCode =>
      obtain rfl : u8NotifyCode = ZC_CODE_ZOTA_END := h
      exact ⟨by decide, by decide, fun _ => hends⟩
    | request => exact h.elim
    | client ClientId => exact h.elim
  | finish struOtaInfo current_state => exact hends
  | _ => exact h.elim

/-- A connection to the cloud has been opened and greeted. -/
def PCT_STATE.Opened (s : PCT_STATE) : Prop := PCT_STATE_WAIT_ACCESSRSP.code ≤ s.code

theorem PCT_STATE.Opened.le {s : PCT_STATE} (h : s.Opened) : PCT_STATE_WAIT_ACCESS.code ≤ s.code := Nat.le_of_succ_le h

/-- A timer of this type can run out. -/
def Link.Runs (l : Link) (u8Type : PCT_TIMER) : Prop :=
  ∃ handle ∈ l.liveTimers, ∃ i, l.timerId handle = some i ∧ (l.g_struTimer i).u8Type = u8Type

/-- Messages are sent to the cloud once the connection has been greeted, and when a
timer says so. -/
def Link.MaySend (l : Link) : Prop :=
  l.u8MainState.Opened ∨ l.Runs PCT_TIMER_SENDHEART ∨ l.Runs PCT_TIMER_SENDMOUDLE

/-- The notification of the module with code `u8NotifyCode`. -/
def notification (u8NotifyCode : ZC_MsgCode) : Event :=
  .toMoudle (.notify u8NotifyCode) (EVENT_BuildMsg u8NotifyCode 0 [])

/-- The message 1 for a connection with the nonce `RandMsg`. -/
def greeting (RandMsg u8DeviciId : List UInt8) : List UInt8 :=
  EVENT_BuildMsg ZC_CODE_HANDSHAKE_1 1 (RandMsg ++ u8DeviciId)

/-- The device waits to connect again: all timers have been stopped, and the one
for reconnecting started, if there was one. -/
def Link.Waits (l l' : Link) : Prop :=
  l'.u8MainState = PCT_STATE_INIT ∧ l'.RandMsg = l.RandMsg ∧ (l.Timed → l'.Timed) ∧
    ∀ i, l'.Used i → (l'.g_struTimer i).u8Type = PCT_TIMER_RECONNECT

/-- The steps in which the device handles an input, but for what `HF_WakeUp`,
`HF_Sleep`, a registration during the handshake and the end of a file do. -/
inductive Step (ends : Prop) (d d' : Device) : Prop where
  | aside (h : Aside Device.link (Event.Plain ends) d d')
  | queue (hsend : d.link.MaySend) (h : Aside Device.link (fun e => e.Plain ends ∨ e.Cloud) d d')
  | confirm (hstate : d.link.u8MainState = PCT_STATE_CONNECT_CLOUD)
      (h : Goes d d' d.link [notification ZC_CODE_CLOUD_CONNECTED] d.pending)
  | deny (h : Goes d d' d.link [notification ZC_CODE_CLOUD_DISCONNECTED] d.pending)
  | disconnect (hstate : PCT_STATE_WAIT_ACCESS.code ≤ d.link.u8MainState.code ∨ d.link.Runs PCT_TIMER_REACCESS)
      (h : Goes d d' { d.link with u8MainState := PCT_STATE_DISCONNECT_CLOUD }
        [notification ZC_CODE_CLOUD_DISCONNECTED] [])
  | connect (RandMsg : Mem ZC_HS_MSG_LEN) (hstate : d.link.u8MainState = PCT_STATE_ACCESS_NET)
      (htimer : d.link.u8ReconnectTimer = none)
      (h : Goes d d' { d.link with u8MainState := PCT_STATE_WAIT_ACCESS, RandMsg := RandMsg }
        [.connected RandMsg.bytes] d.pending)
  | greet (u8DeviciId frame : List UInt8) (hstate : d.link.u8MainState = PCT_STATE_WAIT_ACCESS)
      (h : Goes d d' { d.link with u8MainState := PCT_STATE_WAIT_ACCESSRSP }
        [.queued (greeting d.link.RandMsg.bytes u8DeviciId) frame, .toCloud (greeting d.link.RandMsg.bytes u8DeviciId)]
        (d.pending ++ [frame]))
  | access (hstate : d.link.u8MainState = PCT_STATE_WAIT_ACCESSRSP)
      (h : Goes d d' { d.link with u8MainState := PCT_STATE_WAIT_MSG4 } [] d.pending)
  | accept (hstate : d.link.u8MainState = PCT_STATE_WAIT_MSG4)
      (h : Goes d d' { d.link with u8MainState := PCT_STATE_CONNECT_CLOUD }
        [notification ZC_CODE_CLOUD_CONNECTED] d.pending)
  | reconnect (link : Link) (es : List Event) (hstate : d.link.u8MainState = PCT_STATE_DISCONNECT_CLOUD)
      (hlink : d.link.Waits link) (hes : ∀ e ∈ es, e.Plain ends) (h : Goes d d' link es [])
  | fire (handle : Nat) (i : Fin ZC_TIMER_MAX_NUM) (e : Event) (hlive : handle ∈ d.link.liveTimers)
      (hid : d.link.timerId handle = some i) (htype : (d.link.g_struTimer i).u8Type = PCT_TIMER_RECONNECT)
      (he : e.Plain ends)
      (h : Goes d d' (Link.stop { d.link with u8MainState := PCT_STATE_ACCESS_NET, u8ReconnectTimer := none } i)
        [e] d.pending)
  | enter (hstate : d.link.u8MainState.code < PCT_STATE_ACCESS_NET.code)
      (h : Goes d d' { d.link with u8MainState := PCT_STATE_ACCESS_NET } [] d.pending)
  | start (i : Fin ZC_TIMER_MAX_NUM) (u8Type : PCT_TIMER) (handle : Nat) (hfirst : d.link.FirstIdle i)
      (hnew : handle ∉ d.link.liveTimers) (hzero : handle ≠ 0) (htype : u8Type ≠ PCT_TIMER_RECONNECT)
      (hsend : u8Type = PCT_TIMER_REGISTER ∨ d.link.MaySend)
      (h : Goes d d' (d.link.start i u8Type handle) [] d.pending)
  | fail (i : Fin ZC_TIMER_MAX_NUM) (hidle : ¬ d.link.Used i) (h : Goes d d' (d.link.fail i) [] d.pending)
  | stop (i : Fin ZC_TIMER_MAX_NUM) (e : Event) (he : e.Plain ends) (h : Goes d d' (d.link.stop i) [e] d.pending)
  | settle (i : Fin ZC_TIMER_MAX_NUM) (e : Event) (he : e.Plain ends) (hreconnect : d.link.u8ReconnectTimer = some i)
      (h : Goes d d' { d.link.stop i with u8ReconnectTimer := none } [e] d.pending)
  | ring (i : Fin ZC_TIMER_MAX_NUM) (h : Goes d d' (d.link.ring i) [] d.pending)
  | send (u32Fd : Nat) (frame : List UInt8) (pending : List (List UInt8))
      (hstate : d.link.u8MainState ≠ PCT_STATE_DISCONNECT_CLOUD) (hpending : d.pending = frame :: pending)
      (h : Goes d d' d.link [.tcpSend u32Fd frame, .sent frame] pending)

/-- The device takes any number of steps, from a state of kind `S` to one of kind `S`. -/
def Path (ends : Prop) (S : PCT_STATE → Prop) (d d' : Device) : Prop :=
  d.Sound → S d.link.u8MainState → Relation.ReflTransGen (Step ends) d d' ∧ d'.Sound ∧ S d'.link.u8MainState

instance {S : PCT_STATE → Prop} : Frame (Path ends S) where
  refl _ := fun hd hS => ⟨.refl, hd, hS⟩
  trans h₁ h₂ := fun hd hS =>
    let ⟨hsteps₁, hd₁, hS₁⟩ := h₁ hd hS
    let ⟨hsteps₂, hd₂, hS₂⟩ := h₂ hd₁ hS₁
    ⟨hsteps₁.trans hsteps₂, hd₂, hS₂⟩

theorem Device.Sound.of_aside {β : Type} {view : Device → β} {P : Event → Prop} {d d' : Device} (hd : d.Sound)
    (h : Aside view P d d') : d'.Sound := by
  obtain ⟨es, -, -, hsend⟩ := h.logs
  exact ⟨(hsend hd.sendable).1, h.owned hd.owned⟩

theorem Device.Sound.goes {d d' : Device} (hd : d.Sound) (h : d'.channel = d.channel) :
    Goes d d' d'.link [] d.pending := by
  have haside : Aside (fun _ => ()) (fun _ => False) d d' := .of_channel rfl h
  obtain ⟨es, htrace, hes, hsend⟩ := haside.logs
  obtain rfl : es = [] := List.eq_nil_iff_forall_not_mem.mpr hes
  exact ⟨hd.of_aside haside, rfl, htrace, by rw [(hsend hd.sendable).2]; simp⟩

theorem Goes.log {d d' : Device} {link : Link} {es : List Event} {pending : List (List UInt8)} (e : Event)
    (h : Goes d d' link es pending) : Goes d (d'.log e) link (e :: es) pending := by
  have hsame := @Device.Sendable.congr _ (d'.log e) h.sound.sendable rfl fun _ _ => rfl
  exact ⟨⟨hsame.1, ⟨h.sound.owned.recv, h.sound.owned.request⟩⟩, h.link_eq,
    congrArg (e :: ·) h.trace_eq, hsame.2.trans h.pending_eq⟩

theorem channel_setHandle (d : Device) (h : TimerHandle) (i : Option (Fin ZC_TIMER_MAX_NUM)) :
    (d.withController (d.g_struProtocolController.setHandle h i)).channel = d.channel := by
  cases h <;> rfl

theorem link_setHandle {d : Device} {h : TimerHandle} (hne : h ≠ .u8ReconnectTimer)
    (i : Option (Fin ZC_TIMER_MAX_NUM)) :
    (d.withController (d.g_struProtocolController.setHandle h i)).link = d.link := by
  cases h
  · exact absurd rfl hne
  all_goals rfl

/-- The outcomes of `HF_SetTimer`: there is no slot, there is no timer, or a timer
is started in the first idle slot. -/
theorem HF_SetTimer_cases {env : Env} {u8Type : PCT_TIMER} {h : TimerHandle} {r : ZC_RET} {d d' : Device}
    (hrun : (HF_SetTimer env u8Type h).run d = .ok (r, d')) :
    r = ZC_RET_ERROR ∧ d' = d ∨
    (∃ i, d.link.FirstIdle i ∧ r = ZC_RET_ERROR ∧
      d' = d.tick.setHfTimer i { d.g_struHfTimer i with struHandle := 0 }) ∨
    ∃ i handle, d.link.FirstIdle i ∧ handle ∉ d.liveTimers ∧ handle ≠ 0 ∧ r = ZC_RET_OK ∧
      d' = (((d.tick.setTimer i ⟨ZC_TIMER_STATUS_USED, u8Type⟩).setHfTimer i ⟨1, handle⟩).withLiveTimers
        (handle :: d.liveTimers)).withController (d.g_struProtocolController.setHandle h (some i)) := by
  rw [HF_SetTimer, run_get_bind] at hrun
  cases hfind : TIMER_FindIdleTimer d with
  | none =>
    rw [hfind] at hrun
    obtain ⟨rfl, rfl⟩ := run_pure_eq_ok.mp hrun
    exact .inl ⟨rfl, rfl⟩
  | some i =>
    rw [hfind] at hrun
    have hfirst : d.link.FirstIdle i := by
      obtain ⟨hidle, hbefore⟩ := find?_finRange.mp hfind
      refine ⟨fun hused => ?_, fun j hj => ?_⟩
      · rw [decide_eq_true_eq] at hidle
        rw [show (d.g_struTimer i).u8Status = ZC_TIMER_STATUS_USED from hused] at hidle
        cases hidle
      · have hbusy := hbefore j hj
        rw [decide_eq_false_iff_not] at hbusy
        change (d.g_struTimer j).u8Status = _
        cases hstatus : (d.g_struTimer j).u8Status
        · exact absurd hstatus hbusy
        · rfl
    obtain ⟨o, d₁, hdraw, hrun⟩ := run_bind_eq_ok.mp hrun
    obtain ⟨ho, hd₁⟩ := run_draw_eq_ok.mp hdraw
    cases o with
    | none =>
      obtain ⟨_, d₃, hfail, hrun⟩ := run_bind_eq_ok.mp hrun
      obtain ⟨rfl, rfl⟩ := run_pure_eq_ok.mp hrun
      refine .inr (.inl ⟨i, hfirst, rfl, ?_⟩)
      rw [run_modify_eq_ok.mp hfail, hd₁]
      rfl
    | some handle =>
      obtain ⟨_, d₃, hallocate, hrun⟩ := run_bind_eq_ok.mp hrun
      obtain ⟨_, d₄, hhf, hrun⟩ := run_bind_eq_ok.mp hrun
      obtain ⟨_, d₅, hhandle, hrun⟩ := run_bind_eq_ok.mp hrun
      obtain ⟨rfl, rfl⟩ := run_pure_eq_ok.mp hrun
      refine .inr (.inr ⟨i, handle.val, hfirst, handle.property.2, handle.property.1, rfl, ?_⟩)
      rw [run_modify_eq_ok.mp hhandle, run_modify_eq_ok.mp hhf, run_modify_eq_ok.mp hallocate, hd₁]
      rfl

/-- What `TIMER_StopTimer` does to the globals. -/
theorem TIMER_StopTimer_spec {arg : TimerIndex} {d d' : Device} (h : (TIMER_StopTimer arg).run d = .ok ((), d')) :
    ∃ i, d.timerIndex arg = some i ∧
      d' = ((d.log (.stopTimer arg i (d.g_struTimer i))).setTimer i
        { d.g_struTimer i with u8Status := ZC_TIMER_STATUS_IDLE }).withLiveTimers
          (d.liveTimers.erase (d.g_struHfTimer i).struHandle) := by
  rw [TIMER_StopTimer, run_get_bind] at h
  split at h
  · exact (run_throw_eq_ok.mp h).elim
  · rename_i i hi
    obtain ⟨_, d₁, hlog, h⟩ := run_bind_eq_ok.mp h
    obtain ⟨_, d₂, hset, h⟩ := run_bind_eq_ok.mp h
    refine ⟨i, hi, ?_⟩
    rw [run_modify_eq_ok.mp h, run_modify_eq_ok.mp hset, run_modify_eq_ok.mp hlog]
    rfl

variable {S : PCT_STATE → Prop} {d d' : Device}

/-- A step to a state of kind `S`. -/
theorem Path.of_step {link : Link} {es : List Event} {pending : List (List UInt8)} (h : Goes d d' link es pending)
    (hstep : Goes d d' link es pending → Step ends d d') (hS : S d.link.u8MainState → S link.u8MainState) : Path ends S d d' :=
  fun _ hd => ⟨.single (hstep h), h.sound, by rw [h.link_eq]; exact hS hd⟩

theorem Path.of_aside (h : Aside Device.link (Event.Plain ends) d d') : Path ends S d d' :=
  fun hd hS => ⟨.single (.aside h), hd.of_aside h, by rw [h.view_eq]; exact hS⟩

theorem Path.of_quiet (h : Aside Device.core Event.Quiet d d') : Path ends S d d' :=
  .of_aside (h.mono link_of_core fun _ => Event.Quiet.plain)

/-- Messages to the cloud are sent over a connection that has been greeted. -/
theorem Path.of_bystander (hS : ∀ s, S s → s.Opened) (h : Aside Device.core Event.Bystander d d') : Path ends S d d' := by
  intro hd hstate
  have h' : Aside Device.link (fun e => e.Plain ends ∨ e.Cloud) d d' :=
    h.mono link_of_core fun e he => he.imp_left Event.Quiet.plain
  exact ⟨.single (.queue (.inl (hS _ hstate)) h'), hd.of_aside h', by rw [h'.view_eq]; exact hstate⟩

theorem HF_SetTimer_path_of {env : Env} {u8Type : PCT_TIMER} {h : TimerHandle} {r : ZC_RET}
    (htype : u8Type ≠ PCT_TIMER_RECONNECT) (hne : h ≠ .u8ReconnectTimer)
    (hsend : u8Type = PCT_TIMER_REGISTER ∨ d.link.MaySend) (hrun : (HF_SetTimer env u8Type h).run d = .ok (r, d')) :
    Path ends S d d' := by
  obtain ⟨-, rfl⟩ | ⟨i, hfirst, -, rfl⟩ | ⟨i, handle, hfirst, hnew, hzero, -, rfl⟩ := HF_SetTimer_cases hrun
  · exact Frame.refl _
  · exact fun hd hS => Path.of_step (hd.goes rfl) (.fail i hfirst.1) id hd hS
  · intro hd hS
    have hgoes := @Device.Sound.goes _ _ hd ((channel_setHandle ((d.tick.setTimer i ⟨ZC_TIMER_STATUS_USED, u8Type⟩).setHfTimer i
      ⟨1, handle⟩ |>.withLiveTimers (handle :: d.liveTimers)) h (some i)).trans rfl)
    rw [link_setHandle hne] at hgoes
    exact Path.of_step hgoes (.start i u8Type handle hfirst hnew hzero htype hsend) id hd hS

/-- A timer is started in an open connection. -/
theorem HF_SetTimer_path {env : Env} {u8Type : PCT_TIMER} {h : TimerHandle} (hS : ∀ s, S s → s.Opened)
    (htype : u8Type ≠ PCT_TIMER_RECONNECT) (hne : h ≠ .u8ReconnectTimer) :
    Moves (Path ends S) (HF_SetTimer env u8Type h) :=
  fun _ _ _ hrun hd hstate => HF_SetTimer_path_of htype hne (.inr (.inl (hS _ hstate))) hrun hd hstate

theorem TIMER_StopTimer_path (arg : TimerIndex) : Moves (Path ends S) (TIMER_StopTimer arg) := by
  intro d r d' hrun
  obtain ⟨i, -, rfl⟩ := TIMER_StopTimer_spec hrun
  intro hd hS
  have hgoes : Goes d _ (d.link.stop i) [_] d.pending :=
    (@Device.Sound.goes _ ((d.setTimer i { d.g_struTimer i with u8Status := ZC_TIMER_STATUS_IDLE }).withLiveTimers
      (d.liveTimers.erase (d.g_struHfTimer i).struHandle)) hd rfl).log (.stopTimer arg i (d.g_struTimer i))
  exact Path.of_step hgoes (.stop i _ trivial) id hd hS

theorem clearHandle_path {h : TimerHandle} (hne : h ≠ .u8ReconnectTimer) : Moves (Path ends S) (clearHandle h) :=
  moves_modify fun _ => .of_aside (.of_channel (link_setHandle hne none) (channel_setHandle _ h none))

theorem getController_path : Moves (Path ends S) getController := moves_bind moves_get fun _ => moves_pure _

theorem restartHeart_path (env : Env) (hS : ∀ s, S s → s.Opened) : Moves (Path ends S) (restartHeart env) :=
  moves_bind (moves_bind getController_path fun _ => moves_ite (TIMER_StopTimer_path _) (moves_pure _)) fun _ =>
    moves_bind (HF_SetTimer_path hS (by decide) (by decide)) fun _ => moves_pure _

theorem setKeyRecv_aside {P : Event → Prop} (u8keyRecv : PCT_KEY) : Moves (Aside Device.core P) (setKeyRecv u8keyRecv) :=
  modify_aside (fun _ => rfl) fun _ => rfl

/-- What `PCT_SendNotifyMsg` sends. -/
theorem PCT_SendNotifyMsg_goes {u8NotifyCode : ZC_MsgCode} {link : Link} {es : List Event}
    {pending : List (List UInt8)} {d₁ : Device} (hd : Goes d d₁ link es pending)
    (h : (PCT_SendNotifyMsg env u8NotifyCode).run d₁ = .ok ((), d')) :
    Goes d d' link (notification u8NotifyCode :: es) pending := by
  obtain ⟨m, rfl⟩ := PCT_SendNotifyMsg_spec env h
  have hqueued := @Device.Sound.goes _
    { d₁ with
      g_u8MsgBuildBuffer := m
      moudleMsgs := d₁.moudleMsgs + 1
      App_R_Q := if env.moudleSend d₁.moudleMsgs then d₁.App_R_Q ++ [EVENT_BuildMsg u8NotifyCode 0 []] else d₁.App_R_Q }
    hd.sound rfl
  have hgoes : Goes d _ link es pending :=
    ⟨hqueued.sound, hd.link_eq, hqueued.trace_eq.trans hd.trace_eq, hqueued.pending_eq.trans hd.pending_eq⟩
  exact hgoes.log (notification u8NotifyCode)

/-- `MSG_Init` empties the queues. -/
theorem MSG_Init_goes (hd : d.Owned) {d₁ : Device} (h : MSG_Init.run d = .ok ((), d₁)) : Goes d d₁ d.link [] [] := by
  rw [run_modify_eq_ok.mp h]
  exact ⟨⟨⟨List.nodup_nil, fun _ h => absurd h List.not_mem_nil⟩, ⟨fun _ h => absurd h List.not_mem_nil, hd.request⟩⟩,
    rfl, rfl, rfl⟩

theorem PCT_DisConnectCloud_goes (hd : d.Sound) (h : (PCT_DisConnectCloud env).run d = .ok ((), d')) :
    Goes d d' { d.link with u8MainState := PCT_STATE_DISCONNECT_CLOUD } [notification ZC_CODE_CLOUD_DISCONNECTED] [] := by
  obtain ⟨_, d₁, hstate, h⟩ := run_bind_eq_ok.mp h
  obtain ⟨_, d₂, hkey, h⟩ := run_bind_eq_ok.mp h
  obtain ⟨_, d₃, hinit, h⟩ := run_bind_eq_ok.mp h
  have hd₁ := run_modify_eq_ok.mp hstate
  have hd₂ := run_modify_eq_ok.mp hkey
  have howned : d₂.Owned := by
    rw [hd₂, hd₁]
    exact ⟨hd.owned.recv, hd.owned.request⟩
  obtain ⟨hsound, hlink, htrace, hpending⟩ := MSG_Init_goes howned hinit
  refine PCT_SendNotifyMsg_goes ⟨hsound, ?_, ?_, hpending⟩ h
  · rw [hlink, hd₂, hd₁]
    rfl
  · rw [htrace, hd₂, hd₁]
    rfl

theorem PCT_DisConnectCloud_path (hS : S PCT_STATE_DISCONNECT_CLOUD)
    (hopen : ∀ s, S s → PCT_STATE_WAIT_ACCESS.code ≤ s.code) : Moves (Path ends S) (PCT_DisConnectCloud env) := by
  intro d r d' h hd hstate
  exact Path.of_step (PCT_DisConnectCloud_goes hd h) (.disconnect (.inl (hopen _ hstate))) (fun _ => hS) hd hstate

/-- A change of the main state alone. -/
theorem setMainState_goes (hd : d.Sound) {s : PCT_STATE} (h : (setMainState s).run d = .ok ((), d')) :
    Goes d d' { d.link with u8MainState := s } [] d.pending := by
  rw [run_modify_eq_ok.mp h]
  exact hd.goes rfl

variable {T : PCT_STATE → Prop}

/-- The steps of a piece of code, from a state of kind `S` to one of kind `T`. -/
def Takes (ends : Prop) (S T : PCT_STATE → Prop) {α : Type} (x : Prog Device α) : Prop :=
  ∀ ⦃d a d'⦄, x.run d = .ok (a, d') → d.Sound → S d.link.u8MainState →
    Relation.ReflTransGen (Step ends) d d' ∧ d'.Sound ∧ T d'.link.u8MainState

theorem Takes.of_path {α : Type} {x : Prog Device α} (h : Moves (Path ends S) x) : Takes ends S S x :=
  fun _ _ _ hrun hd hS => h hrun hd hS

theorem Takes.bind {α β : Type} {x : Prog Device α} {f : α → Prog Device β} (hx : Moves (Path ends S) x)
    (hf : ∀ a, Takes ends S T (f a)) : Takes ends S T (x >>= f) := by
  intro d b d' h hd hS
  obtain ⟨a, d₁, hxrun, hfrun⟩ := run_bind_eq_ok.mp h
  obtain ⟨hsteps, hd₁, hS₁⟩ := hx hxrun hd hS
  obtain ⟨hsteps', hd'⟩ := hf a hfrun hd₁ hS₁
  exact ⟨hsteps.trans hsteps', hd'⟩

theorem Takes.before {α β : Type} {x : Prog Device α} {f : α → Prog Device β} (hx : Takes ends S T x)
    (hf : ∀ a, Moves (Path ends T) (f a)) : Takes ends S T (x >>= f) := by
  intro d b d' h hd hS
  obtain ⟨a, d₁, hxrun, hfrun⟩ := run_bind_eq_ok.mp h
  obtain ⟨hsteps, hd₁, hT⟩ := hx hxrun hd hS
  obtain ⟨hsteps', hd'⟩ := hf a hfrun hd₁ hT
  exact ⟨hsteps.trans hsteps', hd'⟩

theorem Takes.ite {α : Type} {c : Prop} [Decidable c] {x y : Prog Device α} (hx : Takes ends S T x)
    (hy : Takes ends S T y) : Takes ends S T (if c then x else y) := by
  split <;> assumption

theorem Takes.weaken {α : Type} {U : PCT_STATE → Prop} {x : Prog Device α} (h : Takes ends S T x)
    (hle : ∀ s, T s → U s) : Takes ends S U x :=
  fun _ _ _ hrun hd hS =>
    have ⟨hsteps, hd', hT⟩ := h hrun hd hS
    ⟨hsteps, hd', hle _ hT⟩

theorem Takes.steps {α : Type} {x : Prog Device α} {a : α} (h : Takes ends S T x) (hrun : x.run d = .ok (a, d'))
    (hd : d.Sound) (hS : S d.link.u8MainState) : Relation.ReflTransGen (Step ends) d d' ∧ d'.Sound :=
  ⟨(h hrun hd hS).1, (h hrun hd hS).2.1⟩

/-- A step, and what comes after it. -/
theorem Takes.of_step {link : Link} {es : List Event} {pending : List (List UInt8)} {α : Type} {d₁ : Device} {a : α}
    {x : Prog Device α} (h : Goes d d₁ link es pending) (hstep : Goes d d₁ link es pending → Step ends d d₁)
    (hT : T link.u8MainState) (hx : Moves (Path ends T) x) (hrun : x.run d₁ = .ok (a, d')) :
    Relation.ReflTransGen (Step ends) d d' ∧ d'.Sound ∧ T d'.link.u8MainState :=
  have ⟨hsteps, hd'⟩ := hx hrun h.sound (by rw [h.link_eq]; exact hT)
  ⟨.head (hstep h) hsteps, hd'⟩

section

variable (env : Env)

theorem PCT_ConnectCloud_takes : Takes ends (· = PCT_STATE_ACCESS_NET) (fun _ => True) (PCT_ConnectCloud env) := by
  intro d r d' h hd hstate
  obtain ⟨c, _, hget, h⟩ := run_bind_eq_ok.mp h
  obtain ⟨rfl, hsame⟩ : c = d.g_struProtocolController ∧ _ := run_pure_eq_ok.mp hget
  rw [hsame] at h
  split at h
  · obtain ⟨-, rfl⟩ := run_pure_eq_ok.mp h
    exact ⟨.refl, hd, trivial⟩
  · rename_i htimer
    have hnone : d.link.u8ReconnectTimer = none := Option.not_isSome_iff_eq_none.mp htimer
    obtain ⟨r, d₁, hconnect, h⟩ := run_bind_eq_ok.mp h
    obtain ⟨rfl, haside⟩ | ⟨rfl, d₀, RandMsg, haside, rfl⟩ := HF_ConnectToCloud_cases (P := Event.Quiet) env hconnect
    · obtain ⟨-, rfl⟩ := run_pure_eq_ok.mp h
      have hpath : Path ends (fun _ => True) d d' := .of_quiet haside
      exact hpath hd trivial
    · have hpath₀ : Path ends (· = PCT_STATE_ACCESS_NET) d d₀ := .of_quiet haside
      have hpath := hpath₀ hd hstate
      have hlink := link_of_core haside.view_eq
      rw [if_neg (by decide)] at h
      obtain ⟨_, d₂, hset, h⟩ := run_bind_eq_ok.mp h
      have hgoes : Goes d₀ d₂ { d₀.link with u8MainState := PCT_STATE_WAIT_ACCESS, RandMsg := RandMsg }
          [.connected RandMsg.bytes] d₀.pending := by
        rw [run_modify_eq_ok.mp hset]
        exact (@Device.Sound.goes _ (d₀.withController { d₀.g_struProtocolController with
          RandMsg := RandMsg, u8MainState := PCT_STATE_WAIT_ACCESS }) hpath.2.1 rfl).log (.connected RandMsg.bytes)
      have hrest : Relation.ReflTransGen (Step ends) d₀ d' ∧ d'.Sound ∧ True :=
        Takes.of_step (T := fun _ => True) hgoes (.connect RandMsg hpath.2.2 (by rw [hlink]; exact hnone))
        trivial (moves_mono (setKeyRecv_aside (P := Event.Quiet) _) Path.of_quiet) h
      exact ⟨hpath.1.trans hrest.1, hrest.2⟩

/-- A message that could not be sent is no event of the connection. -/
theorem NotQueued.path {plain : List UInt8} (h : NotQueued plain d d') : Path ends S d d' := by
  have hsame := h.aside
  intro hd hS
  have hlink : d'.link = d.link := link_of_core (core_of_unsent h.unsent_eq)
  have hsend := hd.sendable.congr h.queue_eq h.buffer_eq
  have haside : Aside Device.link (Event.Plain ends) d d' :=
    ⟨hlink, ⟨[.toCloud plain], h.trace_eq, by simp [Event.Plain],
      fun _ => ⟨hsend.1, by rw [hsend.2]; simp [queuedIn, Event.queued?]⟩⟩, hsame.owned⟩
  exact Path.of_aside haside hd hS

/-- The timer for reconnecting is stopped and its handle given up. -/
theorem settle_path {d₁ : Device} (hstop : (TIMER_StopTimer (.handle .u8ReconnectTimer)).run d = .ok ((), d₁))
    (hclear : (clearHandle .u8ReconnectTimer).run d₁ = .ok ((), d')) : Path ends S d d' := by
  obtain ⟨i, hi, rfl⟩ := TIMER_StopTimer_spec hstop
  intro hd hS
  have hgoes : Goes d d' { d.link.stop i with u8ReconnectTimer := none }
      [.stopTimer (.handle .u8ReconnectTimer) i (d.g_struTimer i)] d.pending := by
    rw [run_modify_eq_ok.mp hclear]
    exact (@Device.Sound.goes _ (((d.setTimer i { d.g_struTimer i with u8Status := ZC_TIMER_STATUS_IDLE }).withLiveTimers
      (d.liveTimers.erase (d.g_struHfTimer i).struHandle)).withController
        (d.g_struProtocolController.setHandle .u8ReconnectTimer none)) hd rfl).log _
  exact Path.of_step hgoes (.settle i _ trivial hi) id hd hS

theorem buildMsg_spec {u8MsgCode : ZC_MsgCode} {u8MsgId : UInt8} {payload msg : List UInt8}
    (h : (buildMsg u8MsgCode u8MsgId payload).run d = .ok (msg, d')) : msg = EVENT_BuildMsg u8MsgCode u8MsgId payload := by
  obtain ⟨_, _, -, h⟩ := run_bind_eq_ok.mp h
  exact (run_pure_eq_ok.mp h).1

/-- The greeting of a new connection. -/
theorem greet_takes : Takes ends (· = PCT_STATE_WAIT_ACCESS) (fun _ => True) (do
    let msg ← buildMsg ZC_CODE_HANDSHAKE_1 1 (struMsg1 (← get))
    let u32RetVal ← sendBuilt env ZC_SEC_ALG_RSA msg
    if u32RetVal = ZC_RET_ERROR then
      PCT_DisConnectCloud env
      return
    setMainState PCT_STATE_WAIT_ACCESSRSP
    let _ ← HF_SetTimer env PCT_TIMER_REACCESS .u8AccessTimer) := by
  intro d r d' h hd hstate
  rw [run_get_bind] at h
  obtain ⟨msg, d₁, hbuild, h⟩ := run_bind_eq_ok.mp h
  obtain rfl := buildMsg_spec hbuild
  have haside : Aside Device.unsent Event.Quiet d d₁ := buildMsg_aside _ _ _ hbuild
  have hpath : Path ends (· = PCT_STATE_WAIT_ACCESS) d d₁ := .of_quiet haside.of_unsent
  obtain ⟨hsteps₁, hd₁, hstate₁⟩ := hpath hd hstate
  have hrand : d₁.link.RandMsg = d.link.RandMsg := congrArg Link.RandMsg (link_of_core haside.of_unsent.view_eq)
  obtain ⟨r, d₂, hsend, h⟩ := run_bind_eq_ok.mp h
  obtain ⟨rfl, hnot⟩ | ⟨rfl, i, hqueued⟩ := PCT_SendMsgToCloud_cases hsend
  · have hpath₂ : Path ends (fun s => PCT_STATE_WAIT_ACCESS.code ≤ s.code) d₁ d₂ := hnot.path
    obtain ⟨hsteps₂, hd₂, hstate₂⟩ := hpath₂ hd₁ (by rw [hstate₁])
    rw [if_pos rfl] at h
    obtain ⟨hsteps₃, hd', -⟩ := Takes.of_path (moves_bind (PCT_DisConnectCloud_path (by decide) fun _ => id)
      fun _ => moves_pure _) h hd₂ hstate₂
    exact ⟨hsteps₁.trans (hsteps₂.trans hsteps₃), hd', trivial⟩
  · obtain ⟨hsendable, hpending, htrace⟩ := hqueued.pending_eq hd₁.sendable
    have hlink₂ : d₂.link = d₁.link := link_of_core (core_of_unsent hqueued.unsent_eq)
    rw [if_neg (by decide)] at h
    obtain ⟨_, d₃, hset, h⟩ := run_bind_eq_ok.mp h
    have hgoes := setMainState_goes ⟨hsendable, hqueued.aside.owned hd₁.owned⟩ hset
    rw [List.take_length] at htrace
    have hgreet : Goes d₁ d₃ { d₁.link with u8MainState := PCT_STATE_WAIT_ACCESSRSP }
        [.queued (greeting d₁.link.RandMsg.bytes d.g_struRegisterInfo.u8DeviciId.bytes) (d₂.g_struSendBuffer i).frame,
          .toCloud (greeting d₁.link.RandMsg.bytes d.g_struRegisterInfo.u8DeviciId.bytes)]
        (d₁.pending ++ [(d₂.g_struSendBuffer i).frame]) := by
      refine ⟨hgoes.sound, ?_, ?_, hgoes.pending_eq.trans hpending⟩
      · rw [hgoes.link_eq, hlink₂]
      · rw [hgoes.trace_eq, htrace, hrand]
        rfl
    obtain ⟨hsteps₂, hd', -⟩ := Takes.of_step (T := PCT_STATE.Opened) hgreet (.greet _ _ hstate₁) (Nat.le_refl _)
      (moves_bind (HF_SetTimer_path (fun _ => id) (by decide) (by decide)) fun _ => moves_pure _) h
    exact ⟨hsteps₁.trans hsteps₂, hd', trivial⟩

theorem PCT_SendCloudAccessMsg1_takes : Takes ends (· = PCT_STATE_WAIT_ACCESS) (fun _ => True) (PCT_SendCloudAccessMsg1 env) := by
  refine Takes.bind getController_path fun c => Takes.ite ?_ (greet_takes env)
  intro d r d' h hd hstate
  obtain ⟨_, d₁, hstop, h⟩ := run_bind_eq_ok.mp h
  obtain ⟨_, d₂, hclear, h⟩ := run_bind_eq_ok.mp h
  obtain ⟨hsteps₁, hd₂, hstate₂⟩ := settle_path (S := (· = PCT_STATE_WAIT_ACCESS)) hstop hclear hd hstate
  obtain ⟨hsteps₂, hd'⟩ := greet_takes env h hd₂ hstate₂
  exact ⟨hsteps₁.trans hsteps₂, hd'⟩

theorem opened_rsp : ∀ s, s = PCT_STATE_WAIT_ACCESSRSP → s.Opened := by
  rintro _ rfl
  exact Nat.le_refl _

theorem opened_msg4 : ∀ s, s = PCT_STATE_WAIT_MSG4 → s.Opened := by
  rintro _ rfl
  exact Nat.le_add_right 4 1

/-- The handling of a message 3 that is sent. -/
theorem PCT_SendCloudAccessMsg3_takes : Takes ends (· = PCT_STATE_WAIT_ACCESSRSP) PCT_STATE.Opened (PCT_SendCloudAccessMsg3 env) := by
  have hquiet {α : Type} {x : Prog Device α} (h : Moves (Aside Device.core Event.Quiet) x) :
      Moves (Path ends (· = PCT_STATE_WAIT_ACCESSRSP)) x := moves_mono h Path.of_quiet
  refine Takes.bind (hquiet (drawBytes_aside _ _)) fun _ => Takes.bind moves_get fun _ =>
    Takes.bind (hquiet (setKeyRecv_aside _)) fun _ => Takes.bind (hquiet (moves_mono (buildMsg_aside _ _ _) Aside.of_unsent))
      fun _ => Takes.bind (moves_mono (sendBuilt_aside env _ _) fun h => Path.of_bystander opened_rsp h.of_cloud) fun _ => ?_
  intro d r d' h hd hstate
  obtain ⟨_, d₁, hset, h⟩ := run_bind_eq_ok.mp h
  exact Takes.of_step (setMainState_goes hd hset) (.access hstate) (Nat.le_add_right 4 1)
    (moves_bind (HF_SetTimer_path (fun _ => id) (by decide) (by decide)) fun _ => moves_pure _) h

theorem disconnect_takes (hS : ∀ s, S s → s.Opened) : Takes ends S PCT_STATE.Opened (PCT_DisConnectCloud env) := by
  intro d r d' h hd hstate
  exact PCT_DisConnectCloud_path (Nat.le_add_right 4 3) (fun _ => PCT_STATE.Opened.le) h hd (hS _ hstate)

theorem lift_path {α : Type} (x : Except Fault α) : Moves (Path ends S) (liftM x : Prog Device α) := moves_lift x

theorem acceptMsg2_takes (view : List UInt8) : Takes ends (· = PCT_STATE_WAIT_ACCESSRSP) PCT_STATE.Opened (acceptMsg2 env view) := by
  refine Takes.bind (TIMER_StopTimer_path _) fun _ => Takes.bind (lift_path _) fun _ =>
    Takes.bind getController_path fun _ => Takes.ite ?_ (disconnect_takes env opened_rsp)
  refine Takes.bind (lift_path _) fun _ => Takes.ite ?_ ?_
  · refine Takes.bind (lift_path _) fun SessionKey => Takes.bind ?_ fun _ => PCT_SendCloudAccessMsg3_takes env
    exact moves_mono (@modify_aside _ Device.core Event.Quiet _ (fun _ => rfl) fun _ => rfl) Path.of_quiet
  · refine Takes.bind (lift_path _) fun _ => Takes.bind (lift_path _) fun _ => Takes.bind ?_ fun _ => (disconnect_takes env opened_rsp)
    exact moves_mono (ZC_StoreAccessInfo_aside (P := Event.Quiet) env _ _) Path.of_quiet

theorem handleMsg2_takes (view : List UInt8) : Takes ends (· = PCT_STATE_WAIT_ACCESSRSP) PCT_STATE.Opened (handleMsg2 env view) :=
  Takes.bind (lift_path _) fun _ => Takes.ite
    (Takes.bind (lift_path _) fun _ => Takes.ite (disconnect_takes env opened_rsp) (acceptMsg2_takes env view))
    ((Takes.of_path (moves_pure _)).weaken opened_rsp)

theorem acceptMsg4_takes (view : List UInt8) : Takes ends (· = PCT_STATE_WAIT_MSG4) PCT_STATE.Opened (acceptMsg4 env view) := by
  refine Takes.bind (TIMER_StopTimer_path _) fun _ => Takes.bind (lift_path _) fun _ =>
    Takes.bind getController_path fun _ => Takes.ite ?_ (disconnect_takes env opened_msg4)
  intro d r d' h hd hstate
  obtain ⟨_, d₁, hset, h⟩ := run_bind_eq_ok.mp h
  have hgoes := PCT_SendNotifyMsg_goes (setMainState_goes hd hset) h
  exact ⟨.single (.accept hstate hgoes), hgoes.sound, by rw [hgoes.link_eq]; exact Nat.le_add_right 4 2⟩

theorem handleMsg4_takes (view : List UInt8) : Takes ends (· = PCT_STATE_WAIT_MSG4) PCT_STATE.Opened (handleMsg4 env view) :=
  Takes.bind (lift_path _) fun _ => Takes.ite
    (Takes.bind (lift_path _) fun _ => Takes.ite (disconnect_takes env opened_msg4) (acceptMsg4_takes env view))
    ((Takes.of_path (moves_pure _)).weaken opened_msg4)

theorem popMessage_path : Moves (Path ends S) (popMessage env) :=
  moves_mono (popMessage_aside env) fun h => .of_aside (h.mono link_of_core fun e he => by cases e <;> trivial)

/-- A message is taken from the queue, and then something is done with it. -/
theorem popMessage_takes {rest : Option (BufferAddr × List UInt8) → Prog Device Unit}
    (hnone : Takes ends S T (rest none)) (hsome : ∀ view, Takes ends S T (rest (some (.g_struRecvBuffer, view)))) :
    Takes ends S T (popMessage env >>= rest) := by
  intro d r d' h hd hstate
  obtain ⟨o, d₁, hpop, h⟩ := run_bind_eq_ok.mp h
  obtain ⟨hsteps₁, hd₁, hstate₁⟩ := (@popMessage_path ends _ env) hpop hd hstate
  cases o with
  | none =>
    obtain ⟨hsteps₂, hd'⟩ := hnone h hd₁ hstate₁
    exact ⟨hsteps₁.trans hsteps₂, hd'⟩
  | some message =>
    obtain ⟨addr, view⟩ := message
    obtain ⟨rfl, -⟩ := popMessage_some env hd.owned hpop
    obtain ⟨hsteps₂, hd'⟩ := hsome view h hd₁ hstate₁
    exact ⟨hsteps₁.trans hsteps₂, hd'⟩

theorem releaseBuffer_path : Moves (Path ends S) (releaseBuffer .g_struRecvBuffer) :=
  moves_mono (releaseBuffer_aside (P := Event.Quiet)) Path.of_quiet

theorem PCT_RecvAccessMsg2_takes : Takes ends (· = PCT_STATE_WAIT_ACCESSRSP) PCT_STATE.Opened (PCT_RecvAccessMsg2 env) :=
  popMessage_takes env ((Takes.of_path (moves_pure _)).weaken opened_rsp) fun view =>
    (handleMsg2_takes env view).before fun _ => releaseBuffer_path

theorem PCT_RecvAccessMsg4_takes : Takes ends (· = PCT_STATE_WAIT_MSG4) PCT_STATE.Opened (PCT_RecvAccessMsg4 env) :=
  popMessage_takes env ((Takes.of_path (moves_pure _)).weaken opened_msg4) fun view =>
    (handleMsg4_takes env view).before fun _ => moves_bind releaseBuffer_path fun _ => restartHeart_path env fun _ => id

end

end ZCloud
