import ZCloud.ProtocolController.Connection

open Memory Program

namespace ZCloud

/-- What is done with the send buffers and the send queue. `elsewhere` is what the
rest of the program does between: it leaves the controller and the configuration as
`c` and `db`. -/
inductive SendInput where
  | send (u8SecType : UInt8) (u16TotalMsg : Nat) (pu8PlainData : List UInt8)
  | sendData
  | disconnect
  | reconnect
  | sleep
  | elsewhere (c : PTC_ProtocolCon) (db : ZC_ConfigDB)

/-- A message is in memory as long as its `u16` length says. -/
def SendInput.valid : SendInput → Prop
  | .send _ u16TotalMsg pu8PlainData => u16TotalMsg < 65536 ∧ u16TotalMsg ≤ pu8PlainData.length
  | _ => True

/-- A message that passes the check of its padded length fits the send buffer that
is chosen for it, with its head before it, as it is encrypted. -/
def SendInput.fits (d : Device) : SendInput → Prop
  | .send u8SecType u16TotalMsg _ =>
    u16 (u16TotalMsg + sizeof_ZC_SecHead +
      SEC_PaddingCheck d.g_struZcConfigDb.struSwitchInfo.u32SecSwitch u8SecType u16TotalMsg) ≤ MSG_BUFFER_MAXLEN →
    (idleSendBuffer d).isSome → d.EncryptFits u8SecType u16TotalMsg sizeof_ZC_SecHead
  | _ => True

/-- `MSG_Init` is called. -/
def SendInput.inits (d : Device) : SendInput → Prop
  | .disconnect | .sleep => True
  | .reconnect => d.g_struProtocolController.u8ReconnectTimer = none
  | _ => False

/-- The module is notified. -/
def SendInput.notifies : SendInput → Prop
  | .disconnect | .sleep => True
  | _ => False

def Device.sending (env : Env) : SendInput → Prog Device Unit
  | .send u8SecType u16TotalMsg pu8PlainData => do
    let _ ← PCT_SendMsgToCloud env u8SecType u16TotalMsg pu8PlainData
  | .sendData => MSG_SendDataToCloud
  | .disconnect => PCT_DisConnectCloud env
  | .reconnect => PCT_ReconnectCloud env
  | .sleep => PCT_Sleep env
  | .elsewhere c db => modify fun d => { d.withController c with g_struZcConfigDb := db }

/-- Nothing waits to be sent. -/
structure Device.SendIdle (d : Device) : Prop where
  queue_eq : d.g_struSendQueue.toList = []
  idle : ∀ i, (d.g_struSendBuffer i).u8Status = MSG_BUFFER_IDLE

/-- The outcome of sending a message: it is queued as the last, or nothing is changed
of the queue and of the status and the length of every buffer. -/
def SendsOnce (d d' : Device) : ZC_RET → Prop
  | ZC_RET_OK => ∃ i plain frame, (d.g_struSendBuffer i).u8Status = MSG_BUFFER_IDLE ∧
      (MSG_PushMsg d.g_struSendQueue (.g_struSendBuffer i)).1 = ZC_RET_OK ∧
      d'.g_struSendQueue.toList = d.g_struSendQueue.toList ++ [.g_struSendBuffer i] ∧
      d'.trace = .queued plain frame :: .toCloud plain :: d.trace ∧ d'.pending = d.pending ++ [frame]
  | ZC_RET_ERROR => d'.g_struSendQueue = d.g_struSendQueue ∧
      ∀ i, (d'.g_struSendBuffer i).u8Status = (d.g_struSendBuffer i).u8Status ∧
        (d'.g_struSendBuffer i).u32Len = (d.g_struSendBuffer i).u32Len

/-- The frames that have been sent since `d`, and those that wait in `d'`, are those that
waited in `d` and those that have been queued, in order. -/
def SentInOrder (d d' : Device) : Prop :=
  ∃ es, d'.trace = es ++ d.trace ∧ d.pending ++ (queuedIn es).map Prod.snd = sentIn es ++ d'.pending

section

variable (env : Env)

/-- The send buffers and the send queue agree in `d`, and whatever is done next,
each input as `allowed`: nothing faults but the copy of a notification for which there is no
memory, a push never fails, and as long as `MSG_Init` is not called, the frames that are sent
are those that waited and those that are queued, in order. -/
structure SendAgrees (allowed : Device → SendInput → Prop) (d : Device) : Prop where
  full_iff : ∀ i, (d.g_struSendBuffer i).u8Status = MSG_BUFFER_FULL ↔
    BufferAddr.g_struSendBuffer i ∈ d.g_struSendQueue.toList
  only : ∀ addr ∈ d.g_struSendQueue.toList, ∃ i, addr = .g_struSendBuffer i
  nodup : d.g_struSendQueue.toList.Nodup
  returns : ∀ input, allowed d input → (input.notifies → env.moudleAlloc d.moudleMsgs = true) →
    ∃ d', (Device.sending env input).run d = .ok ((), d')
  sends : ∀ u8SecType u16TotalMsg pu8PlainData, allowed d (.send u8SecType u16TotalMsg pu8PlainData) →
    ∃ r d', (PCT_SendMsgToCloud env u8SecType u16TotalMsg pu8PlainData).run d = .ok (r, d') ∧ SendsOnce d d' r
  inits : ∀ input d', input.inits d → (Device.sending env input).run d = .ok ((), d') → d'.SendIdle
  fifo : ∀ d', Runs (Device.sending env) (fun d input => allowed d input ∧ ¬ input.inits d) d d' → SentInOrder d d'

variable {d d' : Device}

/-- The send buffers that are full are those in the send queue, each once. -/
structure Device.Agreeing (d : Device) : Prop where
  sendable : d.Sendable
  queued : ∀ i, (d.g_struSendBuffer i).u8Status = MSG_BUFFER_FULL →
    BufferAddr.g_struSendBuffer i ∈ d.g_struSendQueue.toList

theorem Device.SendIdle.agreeing (h : d.SendIdle) : d.Agreeing := by
  refine ⟨⟨by rw [h.queue_eq]; exact List.nodup_nil, fun addr haddr => ?_⟩, fun i hfull => ?_⟩
  · rw [h.queue_eq] at haddr
    exact absurd haddr List.not_mem_nil
  · rw [h.idle i] at hfull
    cases hfull

/-- What is kept of the send buffers and the send queue. -/
def Device.sendChannel (d : Device) :
    MSG_Queue BufferAddr × (Fin MSG_BUFFER_SEND_MAX_NUM → MSG_Buffer) :=
  (d.g_struSendQueue, d.g_struSendBuffer)

theorem Device.SendIdle.congr (h : d.SendIdle) (hsame : d'.sendChannel = d.sendChannel) : d'.SendIdle := by
  obtain ⟨hqueue, hbuffer⟩ := Prod.mk.inj hsame
  exact ⟨by rw [hqueue]; exact h.queue_eq, fun i => by rw [hbuffer]; exact h.idle i⟩

theorem Device.Agreeing.congr (h : d.Agreeing) (hsame : d'.sendChannel = d.sendChannel) :
    d'.Agreeing ∧ d'.pending = d.pending := by
  obtain ⟨hqueue, hbuffer⟩ := Prod.mk.inj hsame
  have hsend := h.sendable.congr hqueue fun i _ => congrFun hbuffer i
  exact ⟨⟨hsend.1, by rw [hqueue, hbuffer]; exact h.queued⟩, hsend.2⟩

theorem Queued.agreeing {plain : List UInt8} {i : Fin MSG_BUFFER_SEND_MAX_NUM} (h : Queued plain i d d')
    (hd : d.Agreeing) : d'.Agreeing ∧ SendsOnce d d' ZC_RET_OK := by
  obtain ⟨hsendable, hpending, htrace⟩ := h.pending_eq hd.sendable
  obtain ⟨hok, hlist⟩ := MSG_Queue.push_of_not_full (hd.sendable.not_full h.idle) (BufferAddr.g_struSendBuffer i)
  rw [← h.queue_eq] at hlist
  refine ⟨⟨hsendable, fun j hfull => ?_⟩, i, plain, _, h.idle, hok, hlist, htrace, hpending⟩
  rw [hlist]
  by_cases hji : j = i
  · rw [hji]
    exact List.mem_append_right _ List.mem_cons_self
  · rw [h.buffer_eq j hji] at hfull
    exact List.mem_append_left _ (hd.queued j hfull)

theorem NotQueued.agreeing {plain : List UInt8} (h : NotQueued plain d d') (hd : d.Agreeing) : d'.Agreeing := by
  refine ⟨(hd.sendable.congr h.queue_eq h.buffer_eq).1, fun i hfull => ?_⟩
  rw [(h.status_eq i).1] at hfull
  rw [h.queue_eq]
  exact hd.queued i hfull

theorem PCT_SendMsgToCloud_agreeing {u8SecType : UInt8} {len : Nat} {data : List UInt8} {r : ZC_RET}
    (hd : d.Agreeing) (h : (PCT_SendMsgToCloud env u8SecType len data).run d = .ok (r, d')) :
    d'.Agreeing ∧ SendsOnce d d' r := by
  obtain ⟨rfl, hnot⟩ | ⟨rfl, i, hqueued⟩ := PCT_SendMsgToCloud_cases h
  · exact ⟨hnot.agreeing hd, hnot.queue_eq, hnot.status_eq⟩
  · exact hqueued.agreeing hd

theorem Sends.agreeing {i : Fin MSG_BUFFER_SEND_MAX_NUM} {rest : List BufferAddr} (h : Sends i rest d d')
    (hd : d.Agreeing) : d'.Agreeing := by
  refine ⟨(h.pending_eq hd.sendable).1, fun j hfull => ?_⟩
  obtain ⟨hlist, queue, hqueue, hd'⟩ := h
  have hbuffer : d'.g_struSendBuffer j = if j = i then (d.g_struSendBuffer i).idle else d.g_struSendBuffer j := by
    rw [hd']
    rfl
  have hqueue' : d'.g_struSendQueue.toList = rest := by
    rw [hd']
    exact hqueue
  rw [hbuffer] at hfull
  rw [hqueue']
  split at hfull
  · cases hfull
  · rename_i hji
    have hmem := hd.queued j hfull
    rw [hlist, List.mem_cons] at hmem
    rcases hmem with hmem | hmem
    · exact absurd (BufferAddr.g_struSendBuffer.inj hmem) hji
    · exact hmem

theorem MSG_SendDataToCloud_agreeing (hd : d.Agreeing) (h : MSG_SendDataToCloud.run d = .ok ((), d')) :
    d'.Agreeing ∧ SentInOrder d d' := by
  obtain ⟨d₁, hrun, hcases⟩ := MSG_SendDataToCloud_spec hd.sendable
  obtain rfl : d₁ = d' := congrArg Prod.snd (Except.ok.inj (hrun.symm.trans h))
  obtain ⟨hlist, queue, hqueue, hd'⟩ | ⟨i, rest, hsends⟩ := hcases
  · have hnone : ∀ addr, addr ∉ d₁.g_struSendQueue.toList := by
      rw [hd']
      exact hqueue ▸ fun _ => List.not_mem_nil
    refine ⟨⟨⟨?_, fun addr haddr => absurd haddr (hnone addr)⟩, fun i hfull => ?_⟩, [], by rw [hd']; rfl, ?_⟩
    · rw [hd']
      exact hqueue ▸ List.nodup_nil
    · rw [hd'] at hfull
      exact absurd (hd.queued i hfull) (hlist ▸ List.not_mem_nil)
    · simp [Device.pending, hlist, hd', hqueue, sentIn]
  · have hagreeing := hsends.agreeing hd
    obtain ⟨-, hpending⟩ := hsends.pending_eq hd.sendable
    obtain ⟨-, queue, -, hd'⟩ := hsends
    refine ⟨hagreeing, [_, _], by rw [hd']; rfl, ?_⟩
    rw [hpending]
    exact List.append_nil _

theorem TIMER_StopTimer_slot_returns (i : Fin ZC_TIMER_MAX_NUM) : Returns (TIMER_StopTimer (.slot i)) :=
  returns_get_bind fun _ => returns_bind (returns_modify _) fun _ =>
    returns_bind (returns_modify _) fun _ => returns_modify _

theorem stopAllTimers_returns (slots : List (Fin ZC_TIMER_MAX_NUM)) : Returns (stopAllTimers slots) := by
  induction slots with
  | nil => exact returns_pure _
  | cons i rest ih =>
    refine returns_get_bind fun d => ?_
    split
    · exact returns_bind (TIMER_StopTimer_slot_returns i) fun _ => ih
    · exact ih

theorem clearTimers_returns : Returns clearTimers :=
  returns_bind (stopAllTimers_returns _) fun _ => returns_bind (returns_modify _) fun _ =>
    returns_bind (returns_modify _) fun _ => returns_bind (returns_modify _) fun _ =>
      returns_bind (returns_modify _) fun _ => returns_modify _

theorem HF_SetTimer_returns (u8Type : PCT_TIMER) (pu8TimeIndex : TimerHandle) :
    Returns (HF_SetTimer env u8Type pu8TimeIndex) := by
  refine returns_get_bind fun d => ?_
  split
  · exact returns_pure _
  · refine returns_bind (fun d => ⟨_, _, rfl⟩) fun handle => ?_
    split
    · exact returns_bind (returns_modify _) fun _ => returns_pure _
    · exact returns_bind (returns_modify _) fun _ => returns_bind (returns_modify _) fun _ =>
        returns_bind (returns_modify _) fun _ => returns_pure _

/-- There is memory for a message to the module. -/
def Device.CanNotify (d : Device) : Prop := env.moudleAlloc d.moudleMsgs = true

theorem untimed_moudleMsgs : Untimed Device.moudleMsgs := fun _ _ _ _ _ _ _ => rfl

theorem ensures_canNotify {α : Type} {x : Prog Device α} (hx : Returns x) (hkeeps : Keeps Device.moudleMsgs x) :
    Ensures (Device.CanNotify env) x (Device.CanNotify env) :=
  ensures_of_returns hx fun _ _ _ h hd => (congrArg env.moudleAlloc (hkeeps h)).trans hd

theorem notify_returns (u8NotifyCode : ZC_MsgCode) :
    Ensures (Device.CanNotify env) (PCT_SendNotifyMsg env u8NotifyCode) fun _ => True := by
  intro d halloc
  obtain ⟨d', h⟩ := PCT_SendNotifyMsg_returns env u8NotifyCode halloc
  exact ⟨(), d', h, trivial⟩

theorem notify_requires (u8NotifyCode : ZC_MsgCode) : Requires (Device.CanNotify env) (PCT_SendNotifyMsg env u8NotifyCode) := by
  intro d u d' h
  cases halloc : env.moudleAlloc d.moudleMsgs with
  | false => cases (PCT_SendNotifyMsg_null env u8NotifyCode halloc).symm.trans h
  | true => exact halloc

theorem moves_canNotify {α : Type} {x : Prog Device α} (hkeeps : Keeps Device.moudleMsgs x) :
    Moves (fun d d' : Device => d'.CanNotify env ↔ d.CanNotify env) x := by
  intro d a d' h
  rw [Device.CanNotify, hkeeps h, Device.CanNotify]

theorem buildMsg_moudleMsgs (u8MsgCode : ZC_MsgCode) (u8MsgId : UInt8) (pu8Payload : List UInt8) :
    Keeps Device.moudleMsgs (buildMsg u8MsgCode u8MsgId pu8Payload) := by
  refine moves_bind (fun d r d' h => ?_) fun _ => moves_pure _
  obtain ⟨m, -, rfl⟩ := run_storeBuild_eq_ok h
  rfl

theorem Ticks.moudleMsgs_eq {d d' : Device} (h : Ticks d d') : d'.moudleMsgs = d.moudleMsgs := by
  obtain ⟨_, rfl⟩ := h
  rfl

/-- A message to the cloud takes no memory from those to the module. -/
theorem PCT_SendMsgToCloud_moudleMsgs (u8SecType : UInt8) (len : Nat) (data : List UInt8) :
    Keeps Device.moudleMsgs (PCT_SendMsgToCloud env u8SecType len data) := by
  refine moves_bind (moves_modify fun _ => rfl) fun _ => moves_bind moves_get fun d => moves_ite (moves_pure _) ?_
  cases idleSendBuffer d with
  | none => exact moves_pure _
  | some i =>
    refine moves_bind (moves_mono (SEC_Encrypt_ticks env u8SecType data len _ _) Ticks.moudleMsgs_eq) fun _ => ?_
    refine moves_ite (moves_bind (moves_modify fun _ => rfl) fun _ => moves_pure _) ?_
    refine moves_bind (fun d u d' h => ?_) fun _ => moves_pure _
    obtain ⟨d₁, b, hticks, -, -, hd'⟩ := pushFrame_spec h
    rw [hd', ← hticks.moudleMsgs_eq]
    split <;> rfl

theorem sendBuilt_moudleMsgs (u8SecType : UInt8) (msg : List UInt8) : Keeps Device.moudleMsgs (sendBuilt env u8SecType msg) :=
  PCT_SendMsgToCloud_moudleMsgs env u8SecType _ _

theorem PCT_SendAckToCloud_moudleMsgs (u8MsgId : UInt8) : Keeps Device.moudleMsgs (PCT_SendAckToCloud env u8MsgId) :=
  moves_bind (buildMsg_moudleMsgs _ _ _) fun _ => moves_bind (sendBuilt_moudleMsgs env _ _) fun _ => moves_pure _

theorem untimed_sendChannel : Untimed Device.sendChannel := fun _ _ _ _ _ _ _ => rfl

theorem notify_sendChannel (u8NotifyCode : ZC_MsgCode) : Keeps Device.sendChannel (PCT_SendNotifyMsg env u8NotifyCode) := by
  intro d r d' h
  obtain ⟨m, rfl⟩ := PCT_SendNotifyMsg_spec env h
  rfl

/-- After `MSG_Init`, code that leaves the send channel alone leaves it empty. -/
theorem MSG_Init_sendIdle {f : Unit → Prog Device Unit} (hf : Keeps Device.sendChannel (f ()))
    (h : (MSG_Init >>= f).run d = .ok ((), d')) : d'.SendIdle := by
  obtain ⟨_, d₁, hinit, h⟩ := run_bind_eq_ok.mp h
  refine Device.SendIdle.congr ?_ (hf h)
  rw [run_modify_eq_ok.mp hinit]
  exact ⟨rfl, fun _ => rfl⟩

theorem PCT_DisConnectCloud_returns : Ensures (Device.CanNotify env) (PCT_DisConnectCloud env) fun _ => True :=
  ensures_bind (ensures_canNotify env (returns_modify _) (moves_modify fun _ => rfl)) fun _ =>
    ensures_bind (ensures_canNotify env (returns_modify _) (moves_modify fun _ => rfl)) fun _ =>
      ensures_bind (ensures_canNotify env (returns_modify _) (moves_modify fun _ => rfl)) fun _ => notify_returns env _

theorem PCT_DisConnectCloud_sendIdle (h : (PCT_DisConnectCloud env).run d = .ok ((), d')) : d'.SendIdle := by
  obtain ⟨_, d₁, -, h⟩ := run_bind_eq_ok.mp h
  obtain ⟨_, d₂, -, h⟩ := run_bind_eq_ok.mp h
  exact MSG_Init_sendIdle (notify_sendChannel env _) h

theorem PCT_Sleep_returns : Ensures (Device.CanNotify env) (PCT_Sleep env) fun _ => True :=
  ensures_bind (ensures_canNotify env (returns_modify _) (moves_modify fun _ => rfl)) fun _ =>
    ensures_bind (ensures_canNotify env (returns_modify _) (moves_modify fun _ => rfl)) fun _ =>
      ensures_bind (ensures_canNotify env clearTimers_returns (clearTimers_keeps untimed_moudleMsgs)) fun _ =>
        ensures_bind (ensures_canNotify env (returns_modify _) (moves_modify fun _ => rfl)) fun _ =>
          ensures_bind (notify_returns env _) fun _ _ _ => ⟨(), _, rfl, trivial⟩

theorem PCT_Sleep_sendIdle (h : (PCT_Sleep env).run d = .ok ((), d')) : d'.SendIdle := by
  refine MSG_Init_sendIdle ?_ h
  exact moves_bind (moves_modify fun _ => rfl) fun _ => moves_bind (clearTimers_keeps untimed_sendChannel) fun _ =>
    moves_bind (moves_modify fun _ => rfl) fun _ => moves_bind (notify_sendChannel env _) fun _ => moves_modify fun _ => rfl

theorem PCT_ReconnectCloud_returns : Returns (PCT_ReconnectCloud env) := by
  refine returns_bind (fun d => ⟨_, d, rfl⟩) fun c => ?_
  refine returns_ite (returns_pure _) ?_
  exact returns_bind (returns_modify _) fun _ => returns_bind (returns_modify _) fun _ =>
    returns_bind clearTimers_returns fun _ => returns_bind (HF_SetTimer_returns env _ _) fun _ =>
      returns_bind (returns_modify _) fun _ => returns_bind (returns_modify _) fun _ => returns_modify _

/-- `PCT_ReconnectCloud` does nothing while the reconnect timer runs. -/
theorem PCT_ReconnectCloud_sendIdle (h : (PCT_ReconnectCloud env).run d = .ok ((), d')) :
    if d.g_struProtocolController.u8ReconnectTimer = none then d'.SendIdle else d' = d := by
  obtain ⟨c, _, hget, h⟩ := run_bind_eq_ok.mp h
  obtain ⟨rfl, hsame⟩ : c = d.g_struProtocolController ∧ _ := run_pure_eq_ok.mp hget
  rw [hsame] at h
  split at h
  · rename_i hsome
    rw [if_neg (Option.isSome_iff_ne_none.mp hsome)]
    exact (run_pure_eq_ok.mp h).2
  · rename_i hnone
    rw [if_pos (by simpa using hnone)]
    refine MSG_Init_sendIdle ?_ h
    exact moves_bind (moves_modify fun _ => rfl) fun _ => moves_bind (clearTimers_keeps untimed_sendChannel) fun _ =>
      moves_bind (HF_SetTimer_keeps untimed_sendChannel env _ _) fun _ => moves_bind (moves_modify fun _ => rfl) fun _ =>
        moves_bind (moves_modify fun _ => rfl) fun _ => moves_modify fun _ => rfl

theorem SentInOrder.of_pending (htrace : d'.trace = d.trace) (hpending : d'.pending = d.pending) : SentInOrder d d' :=
  ⟨[], htrace, by simp [hpending, sentIn]⟩

instance : Frame SentInOrder where
  refl _ := .of_pending rfl rfl
  trans := by
    rintro d d₁ d₂ ⟨es₁, htrace₁, horder₁⟩ ⟨es₂, htrace₂, horder₂⟩
    refine ⟨es₂ ++ es₁, by rw [htrace₂, htrace₁, List.append_assoc], ?_⟩
    rw [queuedIn_append, List.map_append, ← List.append_assoc, horder₁, List.append_assoc, horder₂, sentIn_append,
      List.append_assoc]

theorem PCT_SendMsgToCloud_inOrder {u8SecType : UInt8} {len : Nat} {data : List UInt8} {r : ZC_RET}
    (hd : d.Agreeing) (h : (PCT_SendMsgToCloud env u8SecType len data).run d = .ok (r, d')) : SentInOrder d d' := by
  obtain ⟨es, htrace, hes, hsend⟩ := (PCT_SendMsgToCloud_aside env u8SecType len data h).logs
  refine ⟨es, htrace, ?_⟩
  rw [(hsend hd.sendable).2, sentIn_eq_nil fun e he => (hes e he).sent?, List.nil_append]

/-- What one input does. -/
theorem Device.sending_agreeing {input : SendInput} (hd : d.Agreeing)
    (h : (Device.sending env input).run d = .ok ((), d')) :
    d'.Agreeing ∧ (input.inits d → d'.SendIdle) ∧ (¬ input.inits d → SentInOrder d d') := by
  cases input with
  | send u8SecType u16TotalMsg pu8PlainData =>
    obtain ⟨r, d₁, hsend, h⟩ := run_bind_eq_ok.mp h
    obtain ⟨-, rfl⟩ := run_pure_eq_ok.mp h
    exact ⟨(PCT_SendMsgToCloud_agreeing env hd hsend).1, False.elim, fun _ => PCT_SendMsgToCloud_inOrder env hd hsend⟩
  | sendData =>
    obtain ⟨hagreeing, horder⟩ := MSG_SendDataToCloud_agreeing hd h
    exact ⟨hagreeing, False.elim, fun _ => horder⟩
  | disconnect =>
    have hidle := PCT_DisConnectCloud_sendIdle env h
    exact ⟨hidle.agreeing, fun _ => hidle, fun hnot => absurd trivial hnot⟩
  | reconnect =>
    have hcases := PCT_ReconnectCloud_sendIdle env h
    split at hcases
    · rename_i hnone
      exact ⟨hcases.agreeing, fun _ => hcases, fun hnot => absurd hnone hnot⟩
    · rename_i hsome
      rw [hcases]
      exact ⟨hd, fun hnone => absurd hnone hsome, fun _ => Frame.refl d⟩
  | sleep =>
    have hidle := PCT_Sleep_sendIdle env h
    exact ⟨hidle.agreeing, fun _ => hidle, fun hnot => absurd trivial hnot⟩
  | elsewhere c db =>
    rw [run_modify_eq_ok.mp h]
    obtain ⟨hagreeing, hpending⟩ :=
      @Device.Agreeing.congr _ { d.withController c with g_struZcConfigDb := db } hd rfl
    exact ⟨hagreeing, False.elim, fun _ => .of_pending rfl hpending⟩

/-- What fits faults only where a notification does. -/
theorem Device.sending_returns {input : SendInput} (hd : d.Agreeing) (hvalid : input.valid) (hfits : input.fits d)
    (halloc : input.notifies → env.moudleAlloc d.moudleMsgs = true) : ∃ d', (Device.sending env input).run d = .ok ((), d') := by
  cases input with
  | send u8SecType u16TotalMsg pu8PlainData =>
    obtain ⟨r, d', hrun⟩ := PCT_SendMsgToCloud_runs env d hvalid.2 hfits
    exact ⟨d', run_bind_eq_ok.mpr ⟨r, d', hrun, rfl⟩⟩
  | sendData =>
    obtain ⟨d', hrun, -⟩ := MSG_SendDataToCloud_spec hd.sendable
    exact ⟨d', hrun⟩
  | disconnect =>
    obtain ⟨_, d', hrun, -⟩ := PCT_DisConnectCloud_returns env (halloc trivial)
    exact ⟨d', hrun⟩
  | reconnect =>
    obtain ⟨_, d', hrun⟩ := PCT_ReconnectCloud_returns env d
    exact ⟨d', hrun⟩
  | sleep =>
    obtain ⟨_, d', hrun, -⟩ := PCT_Sleep_returns env (halloc trivial)
    exact ⟨d', hrun⟩
  | elsewhere c db => exact ⟨_, rfl⟩

/-- In every run in which each message that passes the check fits, the send buffers
and the send queue agree. -/
theorem Device.SendIdle.agrees (hidle : d.SendIdle)
    (h : Runs (Device.sending env) (fun d input => input.valid ∧ input.fits d) d d') :
    SendAgrees env (fun d input => input.valid ∧ input.fits d) d' := by
  have hd' : d'.Agreeing := h.invariant (I := Device.Agreeing) hidle.agreeing fun _ _ _ hd _ hstep =>
    (Device.sending_agreeing env hd hstep).1
  refine ⟨fun i => ⟨hd'.queued i, fun hmem => ?_⟩, fun addr haddr => ?_, hd'.sendable.nodup, ?_, ?_, ?_, ?_⟩
  · obtain ⟨j, hj, hfull, -⟩ := hd'.sendable.full _ hmem
    rw [BufferAddr.g_struSendBuffer.inj hj]
    exact hfull
  · obtain ⟨i, hi, -⟩ := hd'.sendable.full addr haddr
    exact ⟨i, hi⟩
  · exact fun input hallowed halloc => Device.sending_returns env hd' hallowed.1 hallowed.2 halloc
  · intro u8SecType u16TotalMsg pu8PlainData hallowed
    obtain ⟨r, d₁, hrun⟩ := PCT_SendMsgToCloud_runs env d' hallowed.1.2 hallowed.2
    exact ⟨r, d₁, hrun, (PCT_SendMsgToCloud_agreeing env hd' hrun).2⟩
  · exact fun input d₁ hinits hrun => (Device.sending_agreeing env hd' hrun).2.1 hinits
  · intro d₁ hrun
    exact (hrun.invariant (I := fun t => t.Agreeing ∧ SentInOrder d' t) ⟨hd', Frame.refl d'⟩
      fun t u input ht hallowed hstep =>
        let hu := Device.sending_agreeing env ht.1 hstep
        ⟨hu.1, Frame.trans ht.2 (hu.2.2 hallowed.2)⟩).2

end

/-- The device before its start, when it is configured to encrypt every message. -/
def secureDevice : Device :=
  { Device.zero blankFwup with g_struZcConfigDb :=
    { ZC_ConfigDB.zero with struSwitchInfo := { ZC_ConfigDB.zero.struSwitchInfo with u32SecSwitch := 1 } } }

theorem secureDevice_sendIdle : secureDevice.SendIdle := ⟨rfl, fun _ => rfl⟩

/-- A message of `len` bytes in RSA. -/
def rsaMessage (len : Nat) : SendInput := .send ZC_SEC_ALG_RSA len (List.replicate len 0)

theorem rsaMessage_valid {len : Nat} (h : len < 65536) : (rsaMessage len).valid :=
  ⟨h, Nat.le_of_eq (List.length_replicate ..).symm⟩

/-- A device that has queued a message of 21 bytes in RSA. -/
theorem agrees_short_rsa : ∃ d : Device, d.pending.map List.length = [36] ∧
    SendAgrees soundEnv (fun d input => input.valid ∧ input.fits d) d := by
  have hview : ((Device.sending soundEnv (rsaMessage 21)).run secureDevice).toOption.map
      (fun r => r.2.pending.map List.length) = some [36] := by decide +kernel
  cases hstep : (Device.sending soundEnv (rsaMessage 21)).run secureDevice with
  | error e =>
    rw [hstep] at hview
    cases hview
  | ok r =>
    rw [hstep] at hview
    refine ⟨r.2, Option.some.inj hview, secureDevice_sendIdle.agrees soundEnv (.step .refl ⟨rsaMessage_valid (by decide), ?_⟩ hstep)⟩
    exact fun _ _ _ => by decide

/-- A message of 379 bytes passes the check of its length, but in RSA it takes 19
blocks, which do not fit the buffer. -/
theorem long_rsa_overflows :
    ¬ ∀ (env : Env) (d d' : Device), d.SendIdle →
      Runs (Device.sending env) (fun _ input => input.valid) d d' → SendAgrees env (fun _ input => input.valid) d' := by
  intro h
  obtain ⟨d', hrun⟩ := (h soundEnv _ _ secureDevice_sendIdle .refl).returns (rsaMessage 379) (rsaMessage_valid (by decide)) False.elim
  have hfault : ((Device.sending soundEnv (rsaMessage 379)).run secureDevice).toOption.isSome = false := by
    decide +kernel
  rw [hrun] at hfault
  cases hfault

end ZCloud
