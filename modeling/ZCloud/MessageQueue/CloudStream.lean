import ZCloud.Lib.Framing.Slot
import ZCloud.ProtocolController.Requests

open Memory Program Framing

namespace ZCloud

/-- Takes the message that waits, if there is one, and empties its buffer. -/
def consumeMessage (env : Env) : Prog Device Unit := do
  match ← popMessage env with
  | none => return
  | some (addr, _) => releaseBuffer addr

def cloudStep (env : Env) : Framing.Step UInt8 → Prog Device Unit
  | .chunk pu8Data => MSG_RecvDataFromCloud env pu8Data
  | .consume => consumeMessage env

def cloudSteps (env : Env) : List (Framing.Step UInt8) → Prog Device Unit
  | [] => return
  | step :: steps => do
    cloudStep env step
    cloudSteps env steps

/-- The message that an event pushes. -/
def Event.body? : Event → Option (List UInt8)
  | .pushed body => some body
  | _ => none

namespace Device

variable {env : Env} {d d' : Device} {s : Framing.Slot UInt8} {before : List (List UInt8)} {f c : List UInt8}

/-- The messages that have been pushed to `g_struRecvQueue`, the first one first. -/
def bodies (d : Device) : List (List UInt8) := d.trace.reverse.filterMap Event.body?

/-- The receiver of frames in clear, as the device implements it. -/
structure Receives (before : List (List UInt8)) (s : Framing.Slot UInt8) (d : Device) : Prop where
  clear : d.g_struZcConfigDb.struSwitchInfo.u32SecSwitch = 0
  free : s.waiting = false → d.g_struRecvBuffer.Holds s.pending ∧ d.g_struRecvQueue.toList = []
  waits : s.waiting = true → d.g_struRecvBuffer.u8Status = MSG_BUFFER_FULL ∧ d.g_struRecvQueue.toList = [.g_struRecvBuffer] ∧
    s.pending = []
  bodies : d.bodies = before ++ s.delivered.map (List.drop sizeof_ZC_SecHead)

/-- The device with a chunk that does not complete a frame. -/
def collected (d : Device) (buffer : MSG_Buffer) : Device := { d.tick.tick.tick with g_struRecvBuffer := buffer }

theorem run_MSG_RecvDataFromCloud {ret : ZC_RET} {buffer : MSG_Buffer} (hrecv : MSG_RecvData d.g_struRecvBuffer c = .ok (ret, buffer))
    (hnot : ¬ (ret = ZC_RET_OK ∧ buffer.u8Status = MSG_BUFFER_FULL)) :
    (MSG_RecvDataFromCloud env c).run d = .ok ((), d.collected buffer) := by
  have hrecv' : MSG_RecvData d.tick.tick.tick.g_struRecvBuffer c = .ok (ret, buffer) := hrecv
  simp only [MSG_RecvDataFromCloud, drawBytes, draw, run_bind, run_get, run_set, run_pure, ok_bind, hrecv', run_lift_ok, if_neg hnot]
  rfl

/-- What is in the frame `f`, which is complete. -/
theorem run_SEC_Decrypt {buffer : MSG_Buffer} {beyond : List UInt8} {u16PlainLen : Nat}
    (hclear : d.g_struZcConfigDb.struSwitchInfo.u32SecSwitch = 0) (hf : secFormat.IsFrame f) (hfull : buffer.Full f) :
    ∃ m, (SEC_Decrypt env (buffer.u8MsgBuffer.bytes ++ beyond) u16PlainLen).run d = .ok ((ZC_RET_OK, f.length - sizeof_ZC_SecHead), d.withBuild m) ∧
      m.bytes.take (f.length - sizeof_ZC_SecHead) = f.drop sizeof_ZC_SecHead := by
  have hhead : 4 ≤ f.length := hf.head_le
  have hmax : f.length ≤ 600 := by
    rw [hf.length_eq]
    exact of_decide_eq_true hf.accepted
  have hlen : ZC_HTONS (number (f.take 2)) = f.length - sizeof_ZC_SecHead := by
    have htotal : f.length = ZC_HTONS (number (f.take 2)) + sizeof_ZC_SecHead := hf.length_eq
    omega
  generalize hview : buffer.u8MsgBuffer.bytes ++ beyond = view
  have htake : view.take f.length = f := by
    rw [← hview, List.take_append_of_le_length (by rw [Mem.length_bytes]; exact hmax)]
    exact hfull.take_eq
  have hle : f.length ≤ view.length := by
    have := congrArg List.length htake
    rw [List.length_take] at this
    omega
  have htotal : loadU16 view 0 = .ok (number (f.take 2)) := loadU16_of_take (by rw [htake, List.take_length]) (by omega) hle
  obtain ⟨u8SecType, htype⟩ := @exists_loadU8 view 2 (by omega)
  have hbody : load (view.drop sizeof_ZC_SecHead) 0 (f.length - sizeof_ZC_SecHead) = .ok (f.drop sizeof_ZC_SecHead) := by
    rw [load_of_le (by rw [List.length_drop]; omega), List.drop_zero, ← List.drop_take, htake]
  have hdrop : (f.drop sizeof_ZC_SecHead).length = f.length - sizeof_ZC_SecHead := List.length_drop
  obtain ⟨m, hm, hbytes⟩ := @Mem.store_spec _ d.g_u8MsgBuildBuffer 0 (f.drop sizeof_ZC_SecHead)
    (by rw [hdrop]; simp only [MSG_BULID_BUFFER_MAXLEN]; omega)
  refine ⟨m, ?_, ?_⟩
  · simp only [SEC_Decrypt, run_bind, htotal, run_lift_ok, ok_bind, htype, run_get, hclear, u8SecFlag, if_true, hlen, hbody, run_storeBuild hm,
      run_pure]
  · rw [hbytes, ← hdrop, take_patch_zero]

theorem run_complete {buffer : MSG_Buffer} (hclear : d.g_struZcConfigDb.struSwitchInfo.u32SecSwitch = 0) (hqueue : d.g_struRecvQueue.toList = [])
    (hrecv : MSG_RecvData d.g_struRecvBuffer c = .ok (ZC_RET_OK, buffer)) (hf : secFormat.IsFrame f) (hfull : buffer.Full f) :
    ∃ d', (MSG_RecvDataFromCloud env c).run d = .ok ((), d') ∧ d'.g_struZcConfigDb = d.g_struZcConfigDb ∧
      d'.g_struRecvBuffer.u8Status = MSG_BUFFER_FULL ∧ d'.g_struRecvQueue.toList = [.g_struRecvBuffer] ∧
      d'.trace = .pushed (f.drop sizeof_ZC_SecHead) :: .stored (f.length - sizeof_ZC_SecHead) :: d.trace := by
  have hmax : f.length ≤ 600 := by
    rw [hf.length_eq]
    exact of_decide_eq_true hf.accepted
  obtain ⟨m, hdecrypt, hm⟩ := @run_SEC_Decrypt env (d.collected buffer) f buffer (env.beyond (d.clock + 2))
    (number [env.stack d.clock, env.stack (d.clock + 1)]) hclear hf hfull
  obtain ⟨m', hcopy, hm'⟩ := @Mem.memcpy_spec _ buffer.u8MsgBuffer 0 (f.length - sizeof_ZC_SecHead) m.bytes
    (by rw [Mem.length_bytes]; simp only [MSG_BULID_BUFFER_MAXLEN]; omega) (by simp only [MSG_BUFFER_MAXLEN]; omega)
  have hbody : m'.bytes.take (f.length - sizeof_ZC_SecHead) = f.drop sizeof_ZC_SecHead := by
    rw [hm', hm, ← List.length_drop, take_patch_zero]
  have hcount : d.g_struRecvQueue.count ≠ MSG_QUEUE_MAXLEN := by
    rw [← MSG_Queue.length_toList, hqueue]
    decide
  obtain ⟨hpushed, hlist⟩ := MSG_Queue.push_of_not_full hcount BufferAddr.g_struRecvBuffer
  rw [hqueue] at hlist
  have hrecv' : MSG_RecvData d.tick.tick.tick.g_struRecvBuffer c = .ok (ZC_RET_OK, buffer) := hrecv
  refine ⟨(({ ((d.collected buffer).withBuild m).log (.stored (f.length - sizeof_ZC_SecHead)) with
    g_struRecvBuffer := { buffer with u8MsgBuffer := m', u32Len := f.length - sizeof_ZC_SecHead }
    g_struRecvQueue := (MSG_PushMsg d.g_struRecvQueue .g_struRecvBuffer).2 } : Device).log
      (.pushed (m'.bytes.take (f.length - sizeof_ZC_SecHead)))), ?_, rfl, hfull.status_eq, hlist, by rw [hbody]; rfl⟩
  simp only [MSG_RecvDataFromCloud, drawBytes, draw, run_bind, run_get, run_set, run_pure, ok_bind, hrecv', run_lift_ok]
  rw [if_pos ⟨trivial, hfull.status_eq⟩]
  have hdecrypt' : (SEC_Decrypt env (buffer.u8MsgBuffer.bytes ++ env.beyond d.tick.tick.clock)
      (number [env.stack d.clock, env.stack d.tick.clock])).run { d.tick.tick.tick with g_struRecvBuffer := buffer } =
      .ok ((ZC_RET_OK, f.length - sizeof_ZC_SecHead), (d.collected buffer).withBuild m) := hdecrypt
  have hcopy' : buffer.u8MsgBuffer.memcpy 0 ((d.collected buffer).withBuild m).g_u8MsgBuildBuffer.bytes (f.length - sizeof_ZC_SecHead) = .ok m' :=
    hcopy
  simp only [run_bind, hdecrypt', ok_bind, run_get, hcopy', run_lift_ok, logEvent, run_modify, if_true]
  have hpush : (MSG_PushMsg ((d.collected buffer).withBuild m).g_struRecvQueue .g_struRecvBuffer).1 = ZC_RET_OK := hpushed
  rw [if_pos hpush]
  rfl

theorem bodies_of_trace {events : List Event} (h : d'.trace = events ++ d.trace) : d'.bodies = d.bodies ++ events.reverse.filterMap Event.body? := by
  rw [bodies, h, List.reverse_append, List.filterMap_append]
  rfl

theorem Receives.chunk (h : d.Receives before s) (hc : c.length ≤ CHUNK_MAXLEN) :
    ∃ d', (MSG_RecvDataFromCloud env c).run d = .ok ((), d') ∧ d'.Receives before (s.step secFormat (.chunk c)) := by
  cases hwaiting : s.waiting with
  | true =>
    have hwaits := h.waits hwaiting
    have hstep : s.step secFormat (.chunk c) = s := if_pos hwaiting
    rw [hstep]
    exact ⟨_, run_MSG_RecvDataFromCloud (MSG_RecvData_full hwaits.1 c) (by simp), h.clear, fun hfree => absurd hfree (by simp [hwaiting]),
      fun _ => hwaits, h.bodies⟩
  | false =>
    obtain ⟨hholds, hqueue⟩ := h.free hwaiting
    obtain ⟨⟨ret, buffer⟩, hrecv, hresult⟩ := MSG_RecvData_spec hholds hc
    rw [Slot.step, if_neg (by simp [hwaiting])]
    cases hout : secFormat.absorb s.pending c with
    | pending q =>
      rw [hout] at hresult
      exact ⟨_, run_MSG_RecvDataFromCloud hrecv fun hfull => hresult.2.not_full hfull.2, h.clear, fun _ => ⟨hresult.2, hqueue⟩,
        fun hw => absurd hw (by simp [hwaiting]), h.bodies⟩
    | reject =>
      rw [hout] at hresult
      exact ⟨_, run_MSG_RecvDataFromCloud hrecv fun hfull => hresult.2.1.not_full hfull.2, h.clear, fun _ => ⟨hresult.2.1, hqueue⟩,
        fun hw => absurd hw (by simp [hwaiting]), h.bodies⟩
    | complete f rest =>
      rw [hout] at hresult
      obtain ⟨hret, hfull⟩ := hresult
      dsimp only at hret hfull
      obtain ⟨d', hrun, hconfig, hstatus, hlist, htrace⟩ := @run_complete env d f c buffer h.clear hqueue (hret ▸ hrecv)
        (Format.absorb_complete hout).2 hfull
      refine ⟨d', hrun, by rw [hconfig]; exact h.clear, (fun h => by cases h), fun _ => ⟨hstatus, hlist, rfl⟩, ?_⟩
      rw [@bodies_of_trace d d' [.pushed (f.drop sizeof_ZC_SecHead), .stored (f.length - sizeof_ZC_SecHead)] htrace, h.bodies, List.append_assoc,
        List.map_append]
      rfl

theorem Receives.consume (h : d.Receives before s) :
    ∃ d', (consumeMessage env).run d = .ok ((), d') ∧ d'.Receives before (s.step secFormat .consume) := by
  have hpop := MSG_Queue.pop_eq d.g_struRecvQueue
  cases hwaiting : s.waiting with
  | true =>
    obtain ⟨hstatus, hqueue, hpending⟩ := h.waits hwaiting
    refine ⟨(d.popped env).setBuffer .g_struRecvBuffer (d.popped env).g_struRecvBuffer.idle, ?_, h.clear, fun _ => ⟨?_, ?_⟩, nofun, ?_⟩
    · rw [consumeMessage, run_bind, run_popMessage env hqueue]
      rfl
    · rw [Framing.Slot.step, hpending]
      exact Holding.nil
    · change (MSG_PopMsg d.g_struRecvQueue).2.toList = []
      rw [hpop.2, hqueue]
      rfl
    · rw [@bodies_of_trace d _ [.taken (d.g_struRecvBuffer.u8MsgBuffer.bytes ++ env.beyond d.clock)] rfl]
      exact (List.append_nil _).trans h.bodies
  | false =>
    obtain ⟨hholds, hqueue⟩ := h.free hwaiting
    have hsame : s.step secFormat .consume = s := by
      obtain ⟨pending, waiting, delivered⟩ := s
      obtain rfl : waiting = false := hwaiting
      rfl
    rw [hsame]
    have hnone : (MSG_PopMsg d.g_struRecvQueue).1 = none := by
      rw [hpop.1, hqueue]
      rfl
    refine ⟨{ d with g_struRecvQueue := (MSG_PopMsg d.g_struRecvQueue).2 }, ?_, h.clear, fun _ => ⟨hholds, ?_⟩,
      fun hw => absurd hw (by simp [hwaiting]), h.bodies⟩
    · simp only [consumeMessage, popMessage, run_bind, run_get, ok_bind, run_modify, hnone, run_pure]
    · rw [hpop.2, hqueue]
      rfl

/-- The steps do to the device what they do to the receiver. -/
theorem Receives.steps {steps : List (Framing.Step UInt8)} (h : d.Receives before s) (hc : ∀ c ∈ chunks steps, c.length ≤ CHUNK_MAXLEN) :
    ∃ d', (cloudSteps env steps).run d = .ok ((), d') ∧ d'.Receives before (s.run secFormat steps) := by
  induction steps generalizing s d with
  | nil => exact ⟨d, rfl, h⟩
  | cons e steps ih =>
    obtain ⟨d₁, hrun, h₁⟩ : ∃ d₁, (cloudStep env e).run d = .ok ((), d₁) ∧ d₁.Receives before (s.step secFormat e) := by
      cases e with
      | chunk c => exact h.chunk (hc c List.mem_cons_self)
      | consume => exact h.consume
    obtain ⟨d', hrest, h'⟩ := ih h₁ fun c hmem => hc c (by rw [Slot.chunks_cons]; exact List.mem_append_right _ hmem)
    refine ⟨d', ?_, h'⟩
    simp only [cloudSteps, run_bind, hrun, ok_bind, hrest]

/-- The device takes every frame, and pushes the messages in it. -/
def PushesFrames (env : Env) (steps : List (Framing.Step UInt8)) (frames : List (List UInt8)) (d : Device) : Prop :=
  ∃ d', (cloudSteps env steps).run d = .ok ((), d') ∧ d'.bodies = d.bodies ++ frames.map (List.drop sizeof_ZC_SecHead)

end Device

/-- The bodies of frames are as long as the frames but for the heads. -/
theorem length_flatten_bodies {frames : List (List UInt8)} (hframes : ∀ f ∈ frames, sizeof_ZC_SecHead ≤ f.length) :
    frames.flatten.length = (frames.map (List.drop sizeof_ZC_SecHead)).flatten.length + sizeof_ZC_SecHead * frames.length := by
  induction frames with
  | nil => rfl
  | cons f frames ih =>
    have hf := hframes f List.mem_cons_self
    have hrest := ih fun g hg => hframes g (List.mem_cons_of_mem _ hg)
    rw [List.map_cons, List.flatten_cons, List.flatten_cons, List.length_append, List.length_append, List.length_drop, List.length_cons, hrest,
      Nat.mul_succ]
    omega

/-- The messages pushed are those in the frames, each once and in order, if and only if
the chunks bring the frames one by one. -/
theorem MSG_RecvDataFromCloud_pushes_iff {env : Env} {d : Device} {frames : List (List UInt8)} {steps : List (Framing.Step UInt8)}
    (hclear : d.g_struZcConfigDb.struSwitchInfo.u32SecSwitch = 0) (hidle : d.g_struRecvBuffer.Holds [])
    (hqueue : d.g_struRecvQueue.toList = []) (hframes : ∀ f ∈ frames, secFormat.IsFrame f)
    (hchunks : ∀ c ∈ chunks steps, received c) (hcut : (chunks steps).flatten = frames.flatten) :
    d.PushesFrames env steps frames ↔ Slot.Separate frames 0 false steps := by
  have hne : ∀ c ∈ chunks steps, c ≠ [] := fun c hc => List.ne_nil_of_length_pos (hchunks c hc).1
  have hle : ∀ c ∈ chunks steps, c.length ≤ CHUNK_MAXLEN := fun c hc => Nat.le_trans (hchunks c hc).2 (by decide)
  have hd : d.Receives d.bodies Slot.init := ⟨hclear, fun _ => ⟨hidle, hqueue⟩, nofun, (List.append_nil _).symm⟩
  obtain ⟨d₁, hrun, h₁⟩ := @Device.Receives.steps env d Slot.init d.bodies steps hd hle
  rw [← Slot.delivered_iff_separate hframes hne hcut]
  constructor
  · rintro ⟨d₂, hrun', hbodies⟩
    obtain rfl := (Prod.mk.inj (Except.ok.inj (hrun.symm.trans hrun'))).2
    rw [h₁.bodies] at hbodies
    have hsame := List.append_cancel_left hbodies
    refine (Slot.delivered_iff_separate hframes hne hcut).mpr (Decidable.byContradiction fun hsep => ?_)
    -- as many bytes as have been sent are delivered
    have hlt := Slot.weight_lt_of_not_separate (s := Slot.init) hframes hne (by simpa using hcut)
      (by rintro f rest rfl; exact (hframes f List.mem_cons_self).length_pos) (fun _ => rfl) rfl hsep
    have hsent := length_flatten_bodies fun f hf => (hframes f hf).head_le
    have hgot := length_flatten_bodies fun f hf => (Slot.isFrame_of_delivered (F := secFormat) (s := Slot.init) nofun steps f hf).head_le
    have hcount := congrArg List.length hsame
    rw [List.length_map, List.length_map] at hcount
    rw [hsame, hcount] at hgot
    rw [Slot.weight, hcut] at hlt
    simp only [Slot.weight, Slot.init, List.flatten_nil, List.length_nil] at hlt hgot
    omega
  · intro hdelivered
    refine ⟨d₁, hrun, ?_⟩
    rw [h₁.bodies, hdelivered]

/-- The device before it is started, with frames in clear. -/
def clearDevice : Device := Device.zero blankFwup

theorem clearDevice_holds : clearDevice.g_struRecvBuffer.Holds [] := Holding.nil

/-- Two frames, of the bodies `1 2` and `3`. -/
def twoFrames : List (List UInt8) := [[0, 2, 0, 0, 1, 2], [0, 1, 0, 0, 3]]

theorem twoFrames_isFrame : ∀ f ∈ twoFrames, secFormat.IsFrame f := by
  intro f hf
  simp only [twoFrames, List.mem_cons, List.not_mem_nil, or_false] at hf
  rcases hf with rfl | rfl
  · exact ⟨by decide, by decide, by decide⟩
  · exact ⟨by decide, by decide, by decide⟩

/-- One frame in two chunks, and the other one after its message has been taken. -/
theorem MSG_RecvDataFromCloud_pushes_two :
    clearDevice.PushesFrames soundEnv [.chunk [0, 2, 0], .chunk [0, 1, 2], .consume, .chunk [0, 1, 0, 0, 3]] twoFrames :=
  (MSG_RecvDataFromCloud_pushes_iff rfl clearDevice_holds rfl twoFrames_isFrame (by simp [chunks, received, HF_MAX_SOCKET_LEN]) (by decide)).mpr
    (by decide)

/-- Both frames in one chunk. -/
theorem MSG_RecvDataFromCloud_drops_frame : ¬ ∀ (env : Env) (d : Device) (frames : List (List UInt8)) (steps : List (Framing.Step UInt8)),
    d.g_struZcConfigDb.struSwitchInfo.u32SecSwitch = 0 → d.g_struRecvBuffer.Holds [] → d.g_struRecvQueue.toList = [] →
    (∀ f ∈ frames, secFormat.IsFrame f) → (∀ c ∈ chunks steps, received c) → (chunks steps).flatten = frames.flatten →
    d.PushesFrames env steps frames := by
  intro h
  obtain ⟨d, hrun, hbodies⟩ := h soundEnv clearDevice twoFrames [.chunk [0, 2, 0, 0, 1, 2, 0, 1, 0, 0, 3]] rfl clearDevice_holds rfl
    twoFrames_isFrame (by simp [chunks, received, HF_MAX_SOCKET_LEN]) (by decide)
  have hview : ((cloudSteps soundEnv [.chunk [0, 2, 0, 0, 1, 2, 0, 1, 0, 0, 3]]).run clearDevice).toOption.map (fun r => r.2.bodies) =
      some [[1, 2]] := by decide +kernel
  rw [hrun] at hview
  have hone : d.bodies = [[1, 2]] := Option.some.inj hview
  rw [hone] at hbodies
  exact absurd hbodies (by decide)

end ZCloud
