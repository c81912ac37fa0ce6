import ZCloud.ProtocolController.Notified
import ZCloud.ProtocolController.OtaChunks

open Memory Program

namespace ZCloud

/-- The bytes of a file that have been taken since it was announced. -/
def fileBytes (trace : List Event) : List UInt8 :=
  ((acceptedIn (trace.takeWhile fun e => e ≠ .fileBegin)).map Prod.fst).flatten

/-- The announced file has come in whole, with the bytes `file`, and the firmware
update has reached its end. -/
structure Complete (ota : PTC_OtaInfo) (current_state : TLS_FWUP_STATE) (file : List UInt8) : Prop where
  length_eq : ota.u32RecvOffset = ota.u32TotalLen
  crc_eq : crc16_ccitt file = ota.u8Crc.1.toNat * 256 + ota.u8Crc.2.toNat
  state_eq : current_state.COMPLETE = true

/-- The file that the controller knows of is complete. -/
def Device.Complete (d : Device) : Prop :=
  ZCloud.Complete d.g_struProtocolController.struOtaInfo d.fwup.current_state (fileBytes d.trace)

/-- The end of a file, as the last that has been done. -/
def Event.isFinish : Event → Bool
  | .finish .. => true
  | _ => false

/-- The answer that all is well, to the cloud or to the module. -/
def Event.Ack : Event → Prop
  | .toCloud plain => pstruMsgCode plain = .ok ZC_CODE_ACK.code
  | .toMoudle (.notify u8NotifyCode) _ => u8NotifyCode = ZC_CODE_ACK
  | _ => False

/-- What is done after `older` reports that a file has been taken: the module is
notified, or the end of the file is acknowledged. -/
def Event.Reports (e : Event) (older : List Event) : Prop :=
  e = notification ZC_CODE_ZOTA_END ∨ e.Ack ∧ (older.head?.any Event.isFinish) = true

/-- When the device reports a file, it was complete when its end was handled. -/
def TruthfulEnds (trace : List Event) : Prop :=
  ∀ newer e older, trace = newer ++ e :: older → e.Reports older →
    ∃ later ota current_state before, older = later ++ .finish ota current_state :: before ∧
      (∀ e ∈ later, e.isFinish = false) ∧ Complete ota current_state (fileBytes before)

theorem fileBytes_append {es older : List Event} (hbegin : .fileBegin ∉ es) (hupdate : ∀ e ∈ es, e.update? = none) :
    fileBytes (es ++ older) = fileBytes older := by
  have hne : ∀ e ∈ es, decide (e ≠ .fileBegin) = true := fun e he => decide_eq_true fun h => hbegin (h ▸ he)
  rw [fileBytes, List.takeWhile_append_of_pos hne, acceptedIn, updatesIn_append, updatesIn_eq_nil hupdate,
    List.append_nil]
  rfl

/-- No file has been ended in the course of `es`. -/
def Unfinished (es : List Event) : Prop := ∀ e ∈ es, e.isFinish = false ∧ e ≠ notification ZC_CODE_ZOTA_END

theorem Event.Plain.unfinished {e : Event} (h : e.Plain False) :
    e.isFinish = false ∧ e ≠ notification ZC_CODE_ZOTA_END := by
  cases e with
  | toMoudle source data =>
    refine ⟨rfl, ?_⟩
    rintro ⟨⟩
    exact h.2.2 rfl
  | finish struOtaInfo current_state => exact h.elim
  | _ => exact ⟨rfl, fun h => by cases h⟩

theorem Event.Cloud.unfinished {e : Event} (h : e.Cloud) : e.isFinish = false ∧ e ≠ notification ZC_CODE_ZOTA_END := by
  cases e <;> first | exact h.elim | exact ⟨rfl, fun h => by cases h⟩

/-- The reports so far are true, and the end of a file is not the last that has been done. -/
structure Settled (trace : List Event) : Prop where
  truthful : TruthfulEnds trace
  head_eq : trace.head?.any Event.isFinish = false

theorem Settled.append {es trace : List Event} (h : Settled trace) (hes : Unfinished es) : Settled (es ++ trace) := by
  induction es with
  | nil => exact h
  | cons e es ih =>
    have hrest := ih fun e' he' => hes e' (List.mem_cons_of_mem _ he')
    obtain ⟨hnot, hne⟩ := hes e List.mem_cons_self
    refine ⟨fun newer e' older htrace hreport => ?_, hnot⟩
    cases newer with
    | nil =>
      obtain ⟨rfl, rfl⟩ := List.cons.inj htrace
      rcases hreport with hreport | ⟨-, hhead⟩
      · exact absurd hreport hne
      · exact absurd (hrest.head_eq.symm.trans hhead) (by decide)
    | cons first newer => exact hrest.truthful newer e' older (List.cons.inj htrace).2 hreport

/-- The end of a file that is complete is handled. -/
theorem Settled.finish {ota : PTC_OtaInfo} {current_state : TLS_FWUP_STATE} {answers trace : List Event}
    (h : Settled trace) (hcomplete : Complete ota current_state (fileBytes trace)) (hne : answers ≠ [])
    (hanswers : ∀ e ∈ answers, e.isFinish = false) :
    Settled (answers ++ .finish ota current_state :: trace) := by
  have hall : TruthfulEnds (answers ++ .finish ota current_state :: trace) := by
    clear hne
    induction answers with
    | nil =>
      intro newer e older htrace hreport
      cases newer with
      | nil =>
        obtain ⟨rfl, rfl⟩ := List.cons.inj htrace
        rcases hreport with hreport | ⟨hack, -⟩
        · cases hreport
        · exact hack.elim
      | cons first newer => exact h.truthful newer e older (List.cons.inj htrace).2 hreport
    | cons answer answers ih =>
      intro newer e older htrace hreport
      have hrest : ∀ e ∈ answers, e.isFinish = false := fun e he => hanswers e (List.mem_cons_of_mem _ he)
      cases newer with
      | nil =>
        obtain ⟨rfl, rfl⟩ := List.cons.inj htrace
        exact ⟨answers, ota, current_state, trace, rfl, hrest, hcomplete⟩
      | cons first newer => exact ih hrest newer e older (List.cons.inj htrace).2 hreport
  refine ⟨hall, ?_⟩
  cases answers with
  | nil => exact absurd rfl hne
  | cons answer answers => exact hanswers answer List.mem_cons_self

variable {d d' : Device}

/-- The end of the file that the controller knows of is logged in the trace `older`,
and answered. -/
def Finishes (d : Device) (older : List Event) (d' : Device) : Prop :=
  ∃ answers, answers ≠ [] ∧ (∀ e ∈ answers, e.isFinish = false) ∧
    d'.trace = answers ++ .finish d.g_struProtocolController.struOtaInfo d.fwup.current_state :: older

theorem HF_FirmwareUpdateFinish_spec {u32TotalLen : Nat} {r : ZC_RET}
    (h : (HF_FirmwareUpdateFinish u32TotalLen).run d = .ok (r, d')) :
    r = ZC_RET_OK ∧ ∃ fwup,
      d' = (d.log (.finish d.g_struProtocolController.struOtaInfo d.fwup.current_state)).withFwup fwup := by
  rw [HF_FirmwareUpdateFinish, run_get_bind] at h
  obtain ⟨_, d₁, hlog, h⟩ := run_bind_eq_ok.mp h
  obtain ⟨_, d₂, hexit, h⟩ := run_bind_eq_ok.mp h
  obtain ⟨rfl, rfl⟩ := run_pure_eq_ok.mp h
  obtain ⟨fwup, -, rfl⟩ := run_callFwup_eq_ok hexit
  rw [run_modify_eq_ok.mp hlog]
  exact ⟨rfl, fwup, rfl⟩

theorem Event.Cloud.isFinish {e : Event} (h : e.Cloud) : e.isFinish = false := h.unfinished.1

/-- What `PCT_HandleOtaEndMsg` does: whatever has been received, the end of the file
is acknowledged and the module notified. -/
theorem PCT_HandleOtaEndMsg_finishes (env : Env) {view : List UInt8}
    (h : (PCT_HandleOtaEndMsg env view).run d = .ok ((), d')) : Finishes d d.trace d' := by
  obtain ⟨c, _, hget, h⟩ := run_bind_eq_ok.mp h
  obtain ⟨-, hsame⟩ := run_pure_eq_ok.mp hget
  rw [hsame] at h
  obtain ⟨r, d₁, hfinish, h⟩ := run_bind_eq_ok.mp h
  obtain ⟨rfl, fwup, hd₁⟩ := HF_FirmwareUpdateFinish_spec hfinish
  rw [if_neg (by decide)] at h
  obtain ⟨MsgId, _, hid, h⟩ := run_bind_eq_ok.mp h
  obtain ⟨-, hsame⟩ := run_lift_eq_ok.mp hid
  rw [hsame] at h
  obtain ⟨_, d₂, hack, h⟩ := run_bind_eq_ok.mp h
  obtain ⟨es, htrace, hes, -⟩ := (PCT_SendAckToCloud_aside env MsgId hack).logs
  obtain ⟨m, hd'⟩ := PCT_SendNotifyMsg_spec env h
  refine ⟨notification ZC_CODE_ZOTA_END :: es, List.cons_ne_nil _ _, fun e he => ?_, ?_⟩
  · rcases List.mem_cons.mp he with rfl | he
    · rfl
    · exact (hes e he).isFinish
  · rw [hd', List.cons_append]
    have hbuild : (d₂.withBuild m).trace = d₂.trace := rfl
    refine congrArg (_ :: ·) ?_
    rw [hbuild, htrace, hd₁]
    rfl

/-- The end of the file of the module is acknowledged as well. -/
theorem PCT_ModuleOtaFileEndMsg_finishes
    (h : (PCT_ModuleOtaFileEndMsg env >>= fun _ => PCT_SendNotifyMsg env ZC_CODE_ZOTA_END).run d = .ok ((), d')) :
    Finishes d d.trace d' := by
  obtain ⟨_, d₂, hend, h⟩ := run_bind_eq_ok.mp h
  obtain ⟨c, _, hget, hend⟩ := run_bind_eq_ok.mp hend
  obtain ⟨-, hsame⟩ := run_pure_eq_ok.mp hget
  rw [hsame] at hend
  obtain ⟨r, d₁, hfinish, hend⟩ := run_bind_eq_ok.mp hend
  obtain ⟨rfl, fwup, hd₁⟩ := HF_FirmwareUpdateFinish_spec hfinish
  rw [if_neg (by decide)] at hend
  obtain ⟨m₂, hd₂⟩ := PCT_SendNotifyMsg_spec env hend
  obtain ⟨m, hd'⟩ := PCT_SendNotifyMsg_spec env h
  refine ⟨[notification ZC_CODE_ZOTA_END, notification ZC_CODE_ACK], List.cons_ne_nil _ _, fun e he => ?_, ?_⟩
  · rcases List.mem_cons.mp he with rfl | he
    · rfl
    · rw [List.mem_singleton.mp he]
      rfl
  · rw [hd', hd₂, hd₁]
    rfl

theorem unfinished_nil : Unfinished [] := fun _ he => absurd he List.not_mem_nil

theorem unfinished_cons {e : Event} {es : List Event} (he : e.isFinish = false ∧ e ≠ notification ZC_CODE_ZOTA_END)
    (hes : Unfinished es) : Unfinished (e :: es) := by
  intro e' he'
  rcases List.mem_cons.mp he' with rfl | he'
  · exact he
  · exact hes e' he'

/-- What the steps do that end no file. -/
theorem Step.unfinished (h : Step False d d') : ∃ es, d'.trace = es ++ d.trace ∧ Unfinished es := by
  cases h with
  | aside h =>
    obtain ⟨es, htrace, hes, -⟩ := h.logs
    exact ⟨es, htrace, fun e he => (hes e he).unfinished⟩
  | queue _ h =>
    obtain ⟨es, htrace, hes, -⟩ := h.logs
    exact ⟨es, htrace, fun e he => (hes e he).elim Event.Plain.unfinished Event.Cloud.unfinished⟩
  | confirm _ h => exact ⟨_, h.trace_eq, unfinished_cons ⟨rfl, by decide⟩ unfinished_nil⟩
  | deny h => exact ⟨_, h.trace_eq, unfinished_cons ⟨rfl, by decide⟩ unfinished_nil⟩
  | disconnect _ h => exact ⟨_, h.trace_eq, unfinished_cons ⟨rfl, by decide⟩ unfinished_nil⟩
  | connect _ _ _ h => exact ⟨_, h.trace_eq, unfinished_cons ⟨rfl, fun h => by cases h⟩ unfinished_nil⟩
  | greet _ _ _ h =>
    exact ⟨_, h.trace_eq, unfinished_cons ⟨rfl, fun h => by cases h⟩
      (unfinished_cons ⟨rfl, fun h => by cases h⟩ unfinished_nil)⟩
  | access _ h => exact ⟨_, h.trace_eq, unfinished_nil⟩
  | accept _ h => exact ⟨_, h.trace_eq, unfinished_cons ⟨rfl, by decide⟩ unfinished_nil⟩
  | reconnect _ es _ _ hes h => exact ⟨es, h.trace_eq, fun e he => (hes e he).unfinished⟩
  | fire _ _ _ _ _ _ he h => exact ⟨_, h.trace_eq, unfinished_cons he.unfinished unfinished_nil⟩
  | enter _ h => exact ⟨_, h.trace_eq, unfinished_nil⟩
  | start _ _ _ _ _ _ _ _ h => exact ⟨_, h.trace_eq, unfinished_nil⟩
  | fail _ _ h => exact ⟨_, h.trace_eq, unfinished_nil⟩
  | stop _ _ he h => exact ⟨_, h.trace_eq, unfinished_cons he.unfinished unfinished_nil⟩
  | settle _ _ he _ h => exact ⟨_, h.trace_eq, unfinished_cons he.unfinished unfinished_nil⟩
  | ring _ h => exact ⟨_, h.trace_eq, unfinished_nil⟩
  | send _ _ _ _ _ h =>
    exact ⟨_, h.trace_eq, unfinished_cons ⟨rfl, fun h => by cases h⟩
      (unfinished_cons ⟨rfl, fun h => by cases h⟩ unfinished_nil)⟩

theorem Settled.of_steps (h : Settled d.trace) (hsteps : Relation.ReflTransGen (Step False) d d') : Settled d'.trace := by
  induction hsteps with
  | refl => exact h
  | tail _ hstep ih =>
    obtain ⟨es, htrace, hes⟩ := hstep.unfinished
    rw [htrace]
    exact ih.append hes

theorem Settled.of_finishes {es : List Event} (h : Settled d.trace) (hcomplete : d.Complete)
    (hes : Unfinished es) (hbegin : .fileBegin ∉ es) (hupdate : ∀ e ∈ es, e.update? = none)
    (hfinish : Finishes d (es ++ d.trace) d') : Settled d'.trace := by
  obtain ⟨answers, hne, hanswers, htrace⟩ := hfinish
  rw [htrace]
  refine (h.append hes).finish ?_ hne hanswers
  rw [fileBytes_append hbegin hupdate]
  exact hcomplete

section

variable (env : Env)

theorem popMessage_keeps : Keeps (fun d : Device => (d.g_struProtocolController, d.fwup)) (popMessage env) := by
  refine moves_get_bind fun d r d' h => ?_
  generalize MSG_PopMsg d.g_struRecvQueue = pop at h
  obtain ⟨addr, queue⟩ := pop
  obtain ⟨_, d₁, hset, h⟩ := run_bind_eq_ok.mp h
  rw [run_modify_eq_ok.mp hset] at h
  cases addr with
  | none => rw [(run_pure_eq_ok.mp h).2]
  | some addr =>
    obtain ⟨beyond, d₂, hdraw, h⟩ := run_bind_eq_ok.mp h
    obtain ⟨_, d₃, hlog, h⟩ := run_bind_eq_ok.mp h
    rw [(run_pure_eq_ok.mp h).2, run_modify_eq_ok.mp hlog, (run_draw_eq_ok.mp hdraw).2]
    rfl

/-- The cloud ends a file. -/
theorem PCT_HandleEvent_settled (h : Settled d.trace) (hd : d.Sound) (hcomplete : d.Complete)
    (hcarries : carries (d.received env) ZC_CODE_ZOTA_END) (hrun : (PCT_HandleEvent env).run d = .ok ((), d')) :
    Settled d'.trace := by
  obtain ⟨c, _, hget, hrun⟩ := run_bind_eq_ok.mp hrun
  obtain ⟨rfl, hsame⟩ : c = d.g_struProtocolController ∧ _ := run_pure_eq_ok.mp hget
  rw [hsame] at hrun
  split at hrun
  · rw [(run_pure_eq_ok.mp hrun).2]
    exact h
  · obtain ⟨o, d₁, hpop, hrun⟩ := run_bind_eq_ok.mp hrun
    have hkeeps := popMessage_keeps env hpop
    cases o with
    | none =>
      obtain ⟨-, rfl⟩ := run_pure_eq_ok.mp hrun
      obtain ⟨es, htrace, hes, -⟩ := (popMessage_aside env hpop).logs
      rw [htrace]
      refine h.append fun e he => ?_
      have htaken := hes e he
      cases e <;> first | exact htaken.elim | exact ⟨rfl, fun h => by cases h⟩
    | some message =>
      obtain ⟨addr, view⟩ := message
      obtain ⟨rfl, -, rfl, htrace⟩ := popMessage_some env hd.owned hpop
      obtain ⟨hcrc, MsgCode, hcode, hend⟩ := hcarries
      obtain ⟨_, d₂, hmessage, hrun⟩ := run_bind_eq_ok.mp hrun
      obtain ⟨len, _, hlen, hmessage⟩ := run_bind_eq_ok.mp hmessage
      rw [(run_lift_eq_ok.mp hlen).2] at hmessage
      obtain ⟨_, _, htracing, hmessage⟩ := run_bind_eq_ok.mp hmessage
      rw [ZC_TraceData_eq htracing] at hmessage
      obtain ⟨crc, _, hcrc', hmessage⟩ := run_bind_eq_ok.mp hmessage
      obtain ⟨hcrc', hsame⟩ := run_lift_eq_ok.mp hcrc'
      obtain rfl : crc = ZC_RET_OK := Except.ok.inj (hcrc'.symm.trans hcrc)
      rw [hsame, if_neg (by decide)] at hmessage
      obtain ⟨MsgCode', _, hcode', hmessage⟩ := run_bind_eq_ok.mp hmessage
      obtain ⟨hcode', hsame⟩ := run_lift_eq_ok.mp hcode'
      obtain rfl : MsgCode' = MsgCode := Except.ok.inj (hcode'.symm.trans hcode)
      rw [hsame, hend] at hmessage
      have hfinish := PCT_HandleOtaEndMsg_finishes env hmessage
      obtain ⟨hcontroller, hfwup⟩ := Prod.mk.inj hkeeps
      have htaken : Finishes d ([.taken (d.g_struRecvBuffer.u8MsgBuffer.bytes ++ env.beyond d.clock)] ++ d.trace) d' := by
        obtain ⟨answers, hne, hanswers, hd₂⟩ := hfinish
        refine ⟨answers, hne, hanswers, ?_⟩
        rw [run_modify_eq_ok.mp hrun]
        change d₂.trace = _
        rw [hd₂, htrace, hcontroller, hfwup]
        rfl
      refine h.of_finishes hcomplete (unfinished_cons ⟨rfl, fun h => by cases h⟩ unfinished_nil) ?_ ?_ htaken
      · simp
      · intro e he
        rw [List.mem_singleton.mp he]
        rfl

/-- The module ends a file. -/
theorem ZC_RecvDataFromMoudle_settled {pu8Data : List UInt8} {u16DataLen : Nat} {r : ZC_RET} (h : Settled d.trace)
    (hcomplete : d.Complete) (hcarries : carries pu8Data ZC_CODE_ZOTA_FILE_END)
    (hrun : (ZC_RecvDataFromMoudle env pu8Data u16DataLen).run d = .ok (r, d')) : Settled d'.trace := by
  obtain ⟨-, MsgCode, hcode, hend⟩ := hcarries
  obtain rfl | haside | ⟨-, -, pu8Payload, hdispatch⟩ := ZC_RecvDataFromMoudle_cases env hrun
  · exact h
  · obtain ⟨es, htrace, hes, -⟩ := haside.logs
    rw [htrace]
    exact h.append fun e he => (@Event.Quiet.plain False _ (hes e he)).unfinished
  · obtain ⟨MsgCode', _, hcode', hdispatch⟩ := run_bind_eq_ok.mp hdispatch
    obtain ⟨hcode', hsame⟩ := run_lift_eq_ok.mp hcode'
    obtain rfl : MsgCode' = MsgCode := Except.ok.inj (hcode'.symm.trans hcode)
    rw [hsame, hend] at hdispatch
    refine h.of_finishes hcomplete unfinished_nil List.not_mem_nil (fun _ he => absurd he List.not_mem_nil) ?_
    exact PCT_ModuleOtaFileEndMsg_finishes hdispatch

/-- What is kept along a run in which only complete files are ended. -/
structure Device.Ending (d : Device) : Prop where
  sound : d.Sound
  settled : Settled d.trace

theorem HF_WakeUp_ending (hd : d.Ending) (h : (HF_WakeUp env).run d = .ok ((), d')) : d'.Ending := by
  obtain ⟨d₁, hwakes, hset⟩ := @HF_WakeUp_spec False env _ _ h
  have hgoes := setMainState_goes (hwakes.sound hd.sound).1 hset
  obtain ⟨es, htrace, hes⟩ := hwakes.logs
  refine ⟨hgoes.sound, ?_⟩
  rw [hgoes.trace_eq, List.nil_append, htrace]
  exact hd.settled.append fun e he => (hes e he).unfinished

theorem Device.handle_ending {input : Input} (hd : d.Ending) (henabled : input.enabled d)
    (hcomplete : Input.Ends env d input → d.Complete) (h : (Device.handle env input).run d = .ok ((), d')) :
    d'.Ending := by
  by_cases hwake : input = .wakeUp
  · subst hwake
    exact HF_WakeUp_ending env hd h
  · by_cases hsleep : input = .sleep
    · subst hsleep
      obtain ⟨es, timer, live, hgoes, hes, -⟩ := @HF_Sleep_goes False env _ _ hd.sound h
      refine ⟨hgoes.sound, ?_⟩
      rw [hgoes.trace_eq]
      exact hd.settled.append fun e he => (hes e he).unfinished
    · by_cases hregister : Input.Registers d input
      · obtain rfl | haside | hgoes := Device.handle_registers env hd.sound hregister h
        · exact hd
        · obtain ⟨es, htrace, hes, -⟩ := haside.logs
          refine ⟨hd.sound.of_aside haside, ?_⟩
          rw [htrace]
          exact hd.settled.append fun e he => (@Event.Quiet.plain False _ (hes e he)).unfinished
        · refine ⟨hgoes.sound, ?_⟩
          rw [hgoes.trace_eq]
          exact hd.settled.append (unfinished_cons ⟨rfl, by decide⟩ unfinished_nil)
      · by_cases hends : Input.Ends env d input
        · have hsound := (@Device.handle_steps True env _ _ _ hd.sound henabled (fun _ => trivial) hregister hwake hsleep h).2
          refine ⟨hsound, ?_⟩
          have hfile := hcomplete hends
          cases input with
          | run =>
            obtain ⟨hstate, -, -, hcarries⟩ := hends
            obtain ⟨c, _, hget, h⟩ := run_bind_eq_ok.mp h
            obtain ⟨rfl, hsame⟩ : c = d.g_struProtocolController ∧ _ := run_pure_eq_ok.mp hget
            rw [hsame, hstate] at h
            exact PCT_HandleEvent_settled env hd.settled hd.sound hfile hcarries h
          | moudle pu8Data u16DataLen =>
            obtain ⟨r, d₁, hrecv, h⟩ := run_bind_eq_ok.mp h
            obtain ⟨-, rfl⟩ := run_pure_eq_ok.mp h
            exact ZC_RecvDataFromMoudle_settled env hd.settled hfile hends.2 hrecv
          | _ => exact hends.elim
        · obtain ⟨hsteps, hsound⟩ := @Device.handle_steps False env _ _ _ hd.sound henabled (fun h => hends h) hregister hwake hsleep h
          exact ⟨hsound, hd.settled.of_steps hsteps⟩

/-- In every run in which the end of a file is handled only once the file is complete,
the device reports only complete files. -/
theorem Device.Reachable.truthful_ends
    (h : d.Reachable env fun d input => Input.Ends env d input → d.Complete) : TruthfulEnds d.trace := by
  obtain ⟨d₀, hstarted, hrun⟩ := h
  refine (hrun.invariant (I := Device.Ending) ⟨hstarted.fresh.sound, ?_⟩ ?_).settled.truthful
  · rw [hstarted.fresh.trace_eq]
    exact ⟨fun newer _ _ htrace => by simp at htrace, rfl⟩
  · exact fun _ _ _ hd hallowed hstep => Device.handle_ending env hd hallowed.1 hallowed.2 hstep

end

/-- A data image of four bytes, with its header in network order. -/
def uploadImage : List UInt8 :=
  (bytesU32 TLS_FWUP_IMAGE_SIGNATURE_WORD).reverse ++ [93, 1, 0, 16] ++ [0, 0, 0, 4] ++ bytesU32 0 ++ [1, 2, 3, 4]

/-- The messages of a module that uploads the image in one chunk, up to the end. -/
def upload : List Input :=
  let crc := crc16_ccitt uploadImage
  [EVENT_BuildMsg ZC_CODE_ZOTA_FILE_BEGIN 0 ([0, 0, u8 (crc / 256), u8 crc] ++ [0, 0, 0, u8 uploadImage.length]),
    EVENT_BuildMsg ZC_CODE_ZOTA_FILE_CHUNK 0 ([0, 0, 0, 0] ++ uploadImage)].map fun m => .moudle m m.length

/-- The end of the file, from the module. -/
def uploadEnd : List UInt8 := EVENT_BuildMsg ZC_CODE_ZOTA_FILE_END 0 []

/-- What the module sends in an input. -/
def Input.packet? : Input → Option (List UInt8)
  | .moudle m _ => some m
  | _ => none

theorem upload_no_end : ∀ input ∈ upload, ∀ d, Input.Ends soundEnv d input → d.Complete := by
  intro input hmem d hends
  have hcode : ∀ m : List UInt8, m ∈ upload.filterMap Input.packet? →
      (pstruMsgCode m).toOption.bind ZC_MsgCode.ofByte ≠ some ZC_CODE_ZOTA_FILE_END := by decide +kernel
  cases input with
  | moudle pu8Data u16DataLen =>
    obtain ⟨-, -, MsgCode, hload, hof⟩ := hends
    refine absurd ?_ (hcode pu8Data (List.mem_filterMap.mpr ⟨_, hmem, rfl⟩))
    rw [hload]
    exact hof
  | _ => exact absurd hmem (by simp [upload])

instance (ota : PTC_OtaInfo) (current_state : TLS_FWUP_STATE) (file : List UInt8) :
    Decidable (ZCloud.Complete ota current_state file) :=
  decidable_of_iff (ota.u32RecvOffset = ota.u32TotalLen ∧
    crc16_ccitt file = ota.u8Crc.1.toNat * 256 + ota.u8Crc.2.toNat ∧ current_state.COMPLETE = true)
    ⟨fun ⟨hlength, hcrc, hstate⟩ => ⟨hlength, hcrc, hstate⟩, fun h => ⟨h.length_eq, h.crc_eq, h.state_eq⟩⟩

instance (d : Device) : Decidable d.Complete := inferInstanceAs (Decidable (ZCloud.Complete ..))

/-- A module that uploads a whole file and ends it then is told that it has come in. -/
theorem truthful_ends_upload :
    ∃ d : Device, d.trace.head? = some (notification ZC_CODE_ZOTA_END) ∧ TruthfulEnds d.trace := by
  have hview : ((Device.boot soundEnv blankFwup).bind (Device.replay soundEnv upload)).map
      (fun d => (decide d.Complete, (Device.replay soundEnv [.moudle uploadEnd uploadEnd.length] d).map
        fun d => d.trace.head?)) = some (true, some (some (notification ZC_CODE_ZOTA_END))) := by decide +kernel
  obtain ⟨d, hd, hview⟩ := Option.map_eq_some_iff.mp hview
  obtain ⟨d₀, hboot, hreplay⟩ := Option.bind_eq_some_iff.mp hd
  obtain ⟨hcomplete, hlast⟩ := Prod.mk.inj hview
  obtain ⟨d', hend, hhead⟩ := Option.map_eq_some_iff.mp hlast
  obtain ⟨henabled, d₁, hrun, hnil⟩ := Device.replay_cons hend
  obtain rfl : d₁ = d' := Option.some.inj hnil
  have hruns := @Device.replay_runs soundEnv (fun d input => Input.Ends soundEnv d input → d.Complete) _ _ _
    upload_no_end hreplay
  refine ⟨d₁, hhead, Device.Reachable.truthful_ends soundEnv ⟨d₀, Device.boot_started ⟨rfl, rfl, rfl⟩ hboot, ?_⟩⟩
  exact .step hruns ⟨henabled, fun _ => of_decide_eq_true hcomplete⟩ hrun

/-- A module that ends a file that it has never sent is acknowledged. -/
theorem uploadEnd_misreports :
    ¬ ∀ (env : Env) (d : Device), d.Reachable env (fun _ _ => True) → TruthfulEnds d.trace := by
  intro h
  obtain ⟨d, hreach, htrace⟩ := @Device.reachable_of_replay _ soundEnv blankFwup (fun _ _ => True)
    [.moudle uploadEnd uploadEnd.length] Device.trace
    ([notification ZC_CODE_ZOTA_END] ++ notification ZC_CODE_ACK :: [.finish ⟨0, 0, (0, 0)⟩ TLS_FWUP_STATE.none])
    ⟨rfl, rfl, rfl⟩ (fun _ _ _ => trivial) (by decide +kernel)
  obtain ⟨later, ota, current_state, before, holder, -, hcomplete⟩ :=
    h soundEnv d hreach _ _ _ htrace (.inr ⟨rfl, rfl⟩)
  have hmem : Event.finish ota current_state ∈ [Event.finish ⟨0, 0, (0, 0)⟩ TLS_FWUP_STATE.none] := by
    rw [holder]
    exact List.mem_append_right _ List.mem_cons_self
  obtain ⟨rfl, rfl⟩ := Event.finish.inj (List.mem_singleton.mp hmem)
  exact absurd hcomplete.state_eq (by decide)

end ZCloud
