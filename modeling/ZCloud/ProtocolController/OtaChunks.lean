import ZCloud.HfAdpter.System
import ZCloud.ProtocolController.Aside

open Memory Program

namespace ZCloud

/-- What the controller knows of the file that is being received. -/
abbrev Device.struOtaInfo (d : Device) : PTC_OtaInfo := d.g_struProtocolController.struOtaInfo

/-- The call of `pfunUpdate` that an event is. -/
def Event.update? : Event → Option (List UInt8 × Nat × ZC_RET)
  | .update data u32Offset u32RetVal => some (data, u32Offset, u32RetVal)
  | _ => none

/-- The calls of `pfunUpdate` in the course of `es`, the first one first. -/
def updatesIn (es : List Event) : List (List UInt8 × Nat × ZC_RET) := es.reverse.filterMap Event.update?

theorem updatesIn_append (es₂ es₁ : List Event) : updatesIn (es₂ ++ es₁) = updatesIn es₁ ++ updatesIn es₂ := by
  simp [updatesIn]

theorem updatesIn_eq_nil {es : List Event} (h : ∀ e ∈ es, e.update? = none) : updatesIn es = [] := by
  simpa [updatesIn] using h

/-- The chunks that `pfunUpdate` has taken, with their offsets. -/
def acceptedIn (es : List Event) : List (List UInt8 × Nat) :=
  (updatesIn es).filterMap fun (data, u32Offset, u32RetVal) =>
    if u32RetVal = ZC_RET_OK then some (data, u32Offset) else none

/-- The chunks follow each other from offset `start` to offset `stop`. -/
def Contiguous : (start : Nat) → List (List UInt8 × Nat) → (stop : Nat) → Prop
  | start, [], stop => stop = start
  | start, (data, u32Offset) :: chunks, stop =>
    u32Offset = start ∧ Contiguous (start + data.length) chunks stop

theorem Contiguous.append {start mid stop : Nat} {chunks : List (List UInt8 × Nat)} {data : List UInt8}
    (h : Contiguous start chunks mid) (hstop : stop = mid + data.length) :
    Contiguous start (chunks ++ [(data, mid)]) stop := by
  induction chunks generalizing start with
  | nil => exact ⟨h, by rw [hstop, h]; rfl⟩
  | cons chunk chunks ih => exact ⟨h.1, ih h.2⟩

/-- What the handling of a chunk does before it is answered, once its checksum is
known to be right, and whether the chunk is taken. -/
def takenChunk (pfunUpdate : PfunUpdate) (view : List UInt8) : Prog Device Bool := do
  let u32FileLen := u32Sub (← pstruPayloadlen view) sizeof_ZC_OtaFileChunkReq
  let u32RecvOffset ← chunkOffset (view.drop sizeof_ZC_MessageHead)
  if !checkPara (← getController).struOtaInfo u32RecvOffset u32FileLen then
    return false
  let data ← load ((view.drop sizeof_ZC_MessageHead).drop sizeof_ZC_OtaFileChunkReq) 0 u32FileLen
  let u32RetVal ← pfunUpdate data u32RecvOffset
  logEvent (.update data u32RecvOffset u32RetVal)
  if u32RetVal = ZC_RET_ERROR then
    return false
  modifyController fun c => { c with struOtaInfo :=
    { c.struOtaInfo with u32RecvOffset := u32 (c.struOtaInfo.u32RecvOffset + u32FileLen) } }
  return true

/-- The answer to a chunk. -/
def Answer.give (answer : Answer) (taken : Bool) : Prog Device Unit := if taken then answer.ok else answer.err

/-- The message at the start of `view` has a right checksum. -/
def validMsg (view : List UInt8) : Prop := checkMsgCrc view = .ok ZC_RET_OK

theorem loadU8_eq_ok {view : List UInt8} {off : Nat} {b : UInt8} (h : loadU8 view off = .ok b) :
    off < view.length := by
  cases hload : load view off 1 with
  | error e => simp [loadU8, hload, bind, Except.bind] at h
  | ok bytes =>
    have := (load_eq_ok_iff.mp hload).1
    omega

theorem validMsg.payloadlen {view : List UInt8} (h : validMsg view) :
    ∃ n, pstruPayloadlen view = .ok n ∧ n < 65536 ∧ sizeof_ZC_MessageHead + n ≤ view.length := by
  unfold validMsg checkMsgCrc at h
  cases hn : pstruPayloadlen view with
  | error e => simp [hn, bind, Except.bind] at h
  | ok n =>
    rw [hn, ok_bind, PCT_CheckCrc] at h
    refine ⟨n, rfl, ?_, ?_⟩
    · unfold pstruPayloadlen at hn
      cases hload : loadU16 view 4 with
      | error e => simp [hload, bind, Except.bind] at hn
      | ok m =>
        simp only [hload, ok_bind, pure, Except.pure, Except.ok.injEq] at hn
        rw [← hn]
        exact ZC_HTONS_lt m
    · cases hload : load (view.drop sizeof_ZC_MessageHead) 0 n with
      | error e => simp [hload, bind, Except.bind] at h
      | ok body =>
        have hbody := (load_eq_ok_iff.mp hload).1
        rw [List.length_drop] at hbody
        have hhead : sizeof_ZC_MessageHead = 8 := rfl
        rw [hload, ok_bind] at h
        cases hlow : loadU8 (view.drop 6) 1 with
        | error e => 
          cases hhigh : loadU8 (view.drop 6) 0 <;> simp [hlow, hhigh, bind, Except.bind] at h
        | ok b =>
          have hcrc := loadU8_eq_ok hlow
          rw [List.length_drop] at hcrc
          omega

/-- The number of a message whose checksum is right can be read. -/
theorem validMsg.msgId {view : List UInt8} (h : validMsg view) : ∃ MsgId, pstruMsgId view = .ok MsgId := by
  obtain ⟨n, -, -, hlen⟩ := h.payloadlen
  have hhead : sizeof_ZC_MessageHead = 8 := rfl
  have hload : load view 1 1 = .ok ((view.drop 1).take 1) := load_of_le (by omega)
  exact ⟨_, by rw [pstruMsgId, loadU8, hload]; rfl⟩

/-- A chunk message, with the memory from its start on: it comes from the cloud or
from the module. -/
inductive ChunkMsg where
  | cloud (view : List UInt8)
  | moudle (view : List UInt8)

def ChunkMsg.view : ChunkMsg → List UInt8
  | .cloud view | .moudle view => view

/-- The handling of a chunk message without options. -/
def ChunkMsg.handle (env : Env) (pfunUpdate : PfunUpdate) : ChunkMsg → Prog Device Unit
  | .cloud view => PCT_HandleOtaFileChunkMsg env pfunUpdate view
  | .moudle view => PCT_ModuleOtaFileChunkMsg env pfunUpdate view (view.drop sizeof_ZC_MessageHead)

section

variable {env : Env} {pfunUpdate : PfunUpdate} {view : List UInt8} {d d' : Device}

private theorem takeChunk_eq (answer : Answer) (data : List UInt8) (off len : Nat) :
    takeChunk pfunUpdate answer data off len = (do
      let data ← load data 0 len
      let u32RetVal ← pfunUpdate data off
      logEvent (.update data off u32RetVal)
      if u32RetVal = ZC_RET_ERROR then
        return false
      modifyController fun c => { c with struOtaInfo :=
        { c.struOtaInfo with u32RecvOffset := u32 (c.struOtaInfo.u32RecvOffset + len) } }
      return true) >>= answer.give := by
  simp only [takeChunk, bind_assoc]
  refine bind_congr fun _ => bind_congr fun _ => bind_congr fun _ => ?_
  split
  · exact bind_pure_unit
  · simp only [bind_assoc, pure_bind]
    rfl

theorem PCT_HandleOtaFileChunkMsg_eq (hvalid : validMsg view) {MsgId : UInt8} (hid : pstruMsgId view = .ok MsgId) :
    PCT_HandleOtaFileChunkMsg env pfunUpdate view = takenChunk pfunUpdate view >>= (answerCloud env MsgId).give := by
  obtain ⟨n, hn, -⟩ := hvalid.payloadlen
  simp only [PCT_HandleOtaFileChunkMsg, takenChunk, hn, hid, lift_ok, pure_bind, bind_assoc]
  refine bind_congr fun _ => bind_congr fun _ => ?_
  split
  · exact bind_pure_unit
  · rw [takeChunk_eq]

theorem PCT_ModuleOtaFileChunkMsg_eq (hvalid : validMsg view) :
    PCT_ModuleOtaFileChunkMsg env pfunUpdate view (view.drop sizeof_ZC_MessageHead) =
      takenChunk pfunUpdate view >>= (answerMoudle env).give := by
  obtain ⟨n, hn, -⟩ := hvalid.payloadlen
  have hcrc : PCT_CheckCrc (view.drop 6) (view.drop sizeof_ZC_MessageHead) n = .ok ZC_RET_OK := by
    have h := hvalid
    unfold validMsg checkMsgCrc at h
    rwa [hn, ok_bind] at h
  have hok : ¬ ZC_RET_OK = ZC_RET_ERROR := by decide
  simp only [PCT_ModuleOtaFileChunkMsg, takenChunk, hn, hcrc, lift_ok, pure_bind, bind_assoc, if_neg hok]
  refine bind_congr fun _ => bind_congr fun _ => ?_
  split
  · exact bind_pure_unit
  · rw [takeChunk_eq]

/-- A chunk is refused: nothing is noted, and `pfunUpdate` has not taken it. -/
def ChunkRefused (d d' : Device) : Prop :=
  d'.struOtaInfo = d.struOtaInfo ∧ ∃ es, d'.trace = es ++ d.trace ∧
    (updatesIn es = [] ∨ ∃ data u32Offset, updatesIn es = [(data, u32Offset, ZC_RET_ERROR)])

/-- The chunk in the message at the start of `view` is taken: its data, which are
the payload behind the offset, belong where the bytes received end and stay below
the announced length. -/
def ChunkAccepted (view : List UInt8) (d d' : Device) : Prop :=
  ∃ data, (∃ es, d'.trace = es ++ d.trace ∧ updatesIn es = [(data, d.struOtaInfo.u32RecvOffset, ZC_RET_OK)]) ∧
    pstruPayloadlen view = .ok (sizeof_ZC_OtaFileChunkReq + data.length) ∧
    data = ((view.drop sizeof_ZC_MessageHead).drop sizeof_ZC_OtaFileChunkReq).take data.length ∧
    d.struOtaInfo.u32RecvOffset + data.length ≤ d.struOtaInfo.u32TotalLen ∧
    d'.struOtaInfo =
      { d.struOtaInfo with u32RecvOffset := d.struOtaInfo.u32RecvOffset + data.length }

/-- `pfunUpdate` has no part in the protocol. -/
def PfunUpdate.Apart (pfunUpdate : PfunUpdate) : Prop :=
  ∀ data u32Offset, Keeps (fun d => (d.g_struProtocolController, d.trace)) (pfunUpdate data u32Offset)

theorem checkPara_iff {ota : PTC_OtaInfo} {off len : Nat} :
    checkPara ota off len = true ↔
      off = ota.u32RecvOffset ∧ u32 (off + len) ≤ ota.u32TotalLen ∧ len ≤ ZC_OTA_MAX_CHUNK_LEN := by
  simp [checkPara]

/-- A payload shorter than the offset field makes a length that is refused. -/
theorem fileLen_of_le {n : Nat} (hn : n < 65536)
    (hlen : u32Sub n sizeof_ZC_OtaFileChunkReq ≤ ZC_OTA_MAX_CHUNK_LEN) :
    n = sizeof_ZC_OtaFileChunkReq + u32Sub n sizeof_ZC_OtaFileChunkReq := by
  have hfour : sizeof_ZC_OtaFileChunkReq = 4 := rfl
  have hmax : ZC_OTA_MAX_CHUNK_LEN = 384 := rfl
  unfold u32Sub u32 at hlen ⊢
  omega

theorem takenChunk_cases (hvalid : validMsg view) (hapart : pfunUpdate.Apart)
    (hoff : d.struOtaInfo.u32RecvOffset ≤ d.struOtaInfo.u32TotalLen)
    (htotal : d.struOtaInfo.u32TotalLen ≤ TOTAL_SIZE) {taken : Bool}
    (h : (takenChunk pfunUpdate view).run d = .ok (taken, d')) :
    taken = false ∧ ChunkRefused d d' ∨ taken = true ∧ ChunkAccepted view d d' := by
  obtain ⟨n, hn, hlt, -⟩ := hvalid.payloadlen
  rw [takenChunk, hn, lift_ok, pure_bind] at h
  obtain ⟨off, _, hoffset, h⟩ := run_bind_eq_ok.mp h
  obtain ⟨-, hsame⟩ := run_lift_eq_ok.mp hoffset
  rw [hsame] at h
  obtain ⟨c, _, hget, h⟩ := run_bind_eq_ok.mp h
  obtain ⟨rfl, hsame⟩ : c = d.g_struProtocolController ∧ _ := run_pure_eq_ok.mp hget
  rw [hsame] at h
  split at h
  · obtain ⟨rfl, rfl⟩ := run_pure_eq_ok.mp h
    exact .inl ⟨rfl, rfl, [], rfl, .inl rfl⟩
  · rename_i hcheck
    rw [Bool.not_eq_true', Bool.not_eq_false, checkPara_iff] at hcheck
    obtain ⟨rfl, hend, hmax⟩ := hcheck
    generalize hfile : u32Sub n sizeof_ZC_OtaFileChunkReq = len at h hend hmax
    have hlen := fileLen_of_le hlt (by rw [hfile]; exact hmax)
    rw [hfile] at hlen
    obtain ⟨data, _, hload, h⟩ := run_bind_eq_ok.mp h
    obtain ⟨hdata, hsame⟩ := run_lift_eq_ok.mp hload
    rw [hsame] at h
    have hsize := length_of_load hdata
    have htake := (load_eq_ok_iff.mp hdata).2
    rw [List.drop_zero] at htake
    obtain ⟨r, d₁, hupdate, h⟩ := run_bind_eq_ok.mp h
    obtain ⟨hcontroller, htrace⟩ := Prod.mk.inj (hapart _ _ hupdate)
    obtain ⟨_, d₂, hlog, h⟩ := run_bind_eq_ok.mp h
    have hd₂ := run_modify_eq_ok.mp hlog
    have htrace₂ : d₂.trace = .update data d.struOtaInfo.u32RecvOffset r :: d.trace := by
      rw [hd₂, ← htrace]
      rfl
    have hcontroller₂ : d₂.g_struProtocolController = d.g_struProtocolController := by
      rw [hd₂, ← hcontroller]
      rfl
    split at h
    · rename_i hret
      obtain ⟨rfl, rfl⟩ := run_pure_eq_ok.mp h
      rw [hret] at htrace₂
      exact .inl ⟨rfl, by rw [Device.struOtaInfo, hcontroller₂], [_], htrace₂, .inr ⟨data, _, rfl⟩⟩
    · rename_i hret
      obtain ⟨_, d₃, hmodify, h⟩ := run_bind_eq_ok.mp h
      obtain ⟨rfl, rfl⟩ := run_pure_eq_ok.mp h
      have hok : r = ZC_RET_OK := by
        cases r
        · rfl
        · exact absurd rfl hret
      rw [hok] at htrace₂
      have hnowrap : u32 (d.struOtaInfo.u32RecvOffset + len) = d.struOtaInfo.u32RecvOffset + len := by
        have hflash : TOTAL_SIZE = 1048576 := rfl
        have hchunk : ZC_OTA_MAX_CHUNK_LEN = 384 := rfl
        exact u32_of_lt (by omega)
      rw [hnowrap] at hend
      refine .inr ⟨rfl, data, ⟨[.update data _ ZC_RET_OK], ?_, rfl⟩, ?_, ?_, ?_, ?_⟩
      · rw [run_modify_eq_ok.mp hmodify, Device.trace_withController, htrace₂]
        rfl
      · rw [hn, hsize, ← hlen]
      · rw [hsize]
        exact htake
      · rw [hsize]
        exact hend
      · rw [run_modify_eq_ok.mp hmodify, Device.struOtaInfo, Device.controller_withController, hcontroller₂, hsize]
        simp only [hnowrap]

/-- An answer does not touch anything but what is sent, and it is given unless there is no
memory for a message to the module. -/
structure Answer.Sends (env : Env) (answer : Answer) : Prop where
  aside : ∀ taken, Moves (Aside Device.unsent fun e => e.update? = none) (answer.give taken)
  returns : ∀ taken d, (∃ d', (answer.give taken).run d = .ok ((), d')) ∨
    (answer.give taken).run d = .error .null ∧ env.moudleAlloc d.moudleMsgs = false

theorem answerCloud_sends (env : Env) (u8MsgId : UInt8) : (answerCloud env u8MsgId).Sends env where
  aside taken := by
    have hcloud (e : Event) (he : e.Cloud) : e.update? = none := by
      cases e <;> first | rfl | exact he.elim
    cases taken
    · exact moves_mono (PCT_SendErrorMsg_aside env _ _) fun h => h.mono id hcloud
    · exact moves_mono (PCT_SendAckToCloud_aside env _) fun h => h.mono id hcloud
  returns taken d := by
    cases taken
    · exact .inl (PCT_SendErrorMsg_returns env u8MsgId d)
    · exact .inl (PCT_SendAckToCloud_returns env u8MsgId d)

theorem answerMoudle_sends (env : Env) : (answerMoudle env).Sends env where
  aside taken := by
    cases taken
    · exact PCT_SendNotifyMsg_aside env rfl
    · exact PCT_SendNotifyMsg_aside env rfl
  returns taken d := by
    cases halloc : env.moudleAlloc d.moudleMsgs with
    | true =>
      left
      cases taken
      · exact PCT_SendNotifyMsg_returns env _ halloc
      · exact PCT_SendNotifyMsg_returns env _ halloc
    | false =>
      refine .inr ⟨?_, rfl⟩
      cases taken
      · exact PCT_SendNotifyMsg_null env _ halloc
      · exact PCT_SendNotifyMsg_null env _ halloc

/-- What an answer adds to the trace are no calls of `pfunUpdate`. -/
theorem Aside.updates {d₁ d₂ : Device} (h : Aside Device.unsent (fun e => e.update? = none) d₁ d₂)
    {es : List Event} (htrace : d₁.trace = es ++ d.trace) :
    d₂.struOtaInfo = d₁.struOtaInfo ∧ ∃ es', d₂.trace = es' ++ d.trace ∧ updatesIn es' = updatesIn es := by
  obtain ⟨new, hnew, hnone, -⟩ := h.logs
  refine ⟨by rw [Device.struOtaInfo, controller_of_unsent h.view_eq], new ++ es, by rw [hnew, htrace, List.append_assoc], ?_⟩
  rw [updatesIn_append, updatesIn_eq_nil hnone, List.append_nil]

/-- Both handlers do the same and then answer. -/
theorem ChunkMsg.handle_eq (msg : ChunkMsg) (hvalid : validMsg msg.view) :
    ∃ answer : Answer, answer.Sends env ∧ msg.handle env pfunUpdate = takenChunk pfunUpdate msg.view >>= answer.give := by
  cases msg with
  | cloud view =>
    obtain ⟨MsgId, hid⟩ := hvalid.msgId
    exact ⟨_, answerCloud_sends env MsgId, PCT_HandleOtaFileChunkMsg_eq hvalid hid⟩
  | moudle view => exact ⟨_, answerMoudle_sends env, PCT_ModuleOtaFileChunkMsg_eq hvalid⟩

/-- A chunk message is refused, or its chunk is taken. -/
theorem ChunkMsg.handle_cases {msg : ChunkMsg} (hvalid : validMsg msg.view) (hapart : pfunUpdate.Apart)
    (hoff : d.struOtaInfo.u32RecvOffset ≤ d.struOtaInfo.u32TotalLen)
    (htotal : d.struOtaInfo.u32TotalLen ≤ TOTAL_SIZE) (h : (msg.handle env pfunUpdate).run d = .ok ((), d')) :
    ChunkRefused d d' ∨ ChunkAccepted msg.view d d' := by
  obtain ⟨answer, hanswer, heq⟩ := @ChunkMsg.handle_eq env pfunUpdate msg hvalid
  rw [heq] at h
  obtain ⟨taken, d₁, htaken, h⟩ := run_bind_eq_ok.mp h
  have haside := hanswer.aside taken h
  obtain ⟨-, hota, es, htrace, hes⟩ | ⟨-, data, ⟨es, htrace, hes⟩, hlen, hdata, hend, hota⟩ :=
    takenChunk_cases hvalid hapart hoff htotal htaken
  · obtain ⟨hota', es', htrace', hes'⟩ := haside.updates htrace
    exact .inl ⟨hota'.trans hota, es', htrace', by rw [hes']; exact hes⟩
  · obtain ⟨hota', es', htrace', hes'⟩ := haside.updates htrace
    exact .inr ⟨data, ⟨es', htrace', by rw [hes']; exact hes⟩, hlen, hdata, hend, hota'.trans hota⟩

/-- From `d` two handlings have had the same effect, but for what was sent. -/
def SameEffect (d d₁ d₂ : Device) : Prop :=
  d₂.unsent = d₁.unsent ∧ ∃ es₁ es₂, d₁.trace = es₁ ++ d.trace ∧ d₂.trace = es₂ ++ d.trace ∧
    updatesIn es₂ = updatesIn es₁

/-- The chunk of `msg` has been dealt with, to the effect of `d₁`, when the copy of the
answer to the module goes to `NULL`: there is no memory for it. -/
def Unanswered (env : Env) (pfunUpdate : PfunUpdate) (msg : ChunkMsg) (d d₁ : Device) : Prop :=
  (msg.handle env pfunUpdate).run d = .error .null ∧ ∃ taken d₂,
    (takenChunk pfunUpdate msg.view).run d = .ok (taken, d₂) ∧ env.moudleAlloc d₂.moudleMsgs = false ∧ SameEffect d d₁ d₂

/-- Which way a chunk message comes makes no difference but for the answer. -/
theorem ChunkMsg.handle_same {msg₁ msg₂ : ChunkMsg} (hview : msg₁.view = msg₂.view) (hvalid : validMsg msg₁.view)
    (hapart : pfunUpdate.Apart) (hoff : d.struOtaInfo.u32RecvOffset ≤ d.struOtaInfo.u32TotalLen)
    (htotal : d.struOtaInfo.u32TotalLen ≤ TOTAL_SIZE) {d₁ : Device}
    (h : (msg₁.handle env pfunUpdate).run d = .ok ((), d₁)) :
    (∃ d₂, (msg₂.handle env pfunUpdate).run d = .ok ((), d₂) ∧ SameEffect d d₁ d₂) ∨
      Unanswered env pfunUpdate msg₂ d d₁ := by
  obtain ⟨answer₁, hanswer₁, heq₁⟩ := @ChunkMsg.handle_eq env pfunUpdate msg₁ hvalid
  obtain ⟨answer₂, hanswer₂, heq₂⟩ := @ChunkMsg.handle_eq env pfunUpdate msg₂ (hview ▸ hvalid)
  rw [heq₁] at h
  obtain ⟨taken, d', htaken, h₁⟩ := run_bind_eq_ok.mp h
  have haside₁ := hanswer₁.aside taken h₁
  obtain ⟨es, htrace⟩ : ∃ es, d'.trace = es ++ d.trace := by
    obtain ⟨-, -, es, htrace, -⟩ | ⟨-, -, ⟨es, htrace, -⟩, -⟩ := takenChunk_cases hvalid hapart hoff htotal htaken
    · exact ⟨es, htrace⟩
    · exact ⟨es, htrace⟩
  obtain ⟨-, es₁, htrace₁, hes₁⟩ := haside₁.updates htrace
  rw [hview] at htaken
  obtain ⟨d₂, h₂⟩ | ⟨h₂, halloc⟩ := hanswer₂.returns taken d'
  · have haside₂ := hanswer₂.aside taken h₂
    obtain ⟨-, es₂, htrace₂, hes₂⟩ := haside₂.updates htrace
    refine .inl ⟨d₂, ?_, haside₂.view_eq.trans haside₁.view_eq.symm, es₁, es₂, htrace₁, htrace₂, hes₂.trans hes₁.symm⟩
    rw [heq₂]
    exact run_bind_eq_ok.mpr ⟨taken, d', htaken, h₂⟩
  · refine .inr ⟨?_, taken, d', htaken, halloc, haside₁.view_eq.symm, es₁, es, htrace₁, htrace, hes₁.symm⟩
    rw [heq₂, run_bind, htaken, ok_bind, h₂]

/-- What is taken in the course of further events is added to what has been taken. -/
theorem acceptedIn_append (es₂ es₁ : List Event) : acceptedIn (es₂ ++ es₁) = acceptedIn es₁ ++ acceptedIn es₂ := by
  rw [acceptedIn, updatesIn_append, List.filterMap_append]
  rfl

theorem ChunkRefused.accepted_nil {es : List Event}
    (h : updatesIn es = [] ∨ ∃ data u32Offset, updatesIn es = [(data, u32Offset, ZC_RET_ERROR)]) :
    acceptedIn es = [] := by
  obtain h | ⟨data, off, h⟩ := h
  · rw [acceptedIn, h]
    rfl
  · rw [acceptedIn, h]
    rfl

/-- How far a file has been received since `d₀`. -/
structure ChunkProgress (d₀ d : Device) : Prop where
  total : d.struOtaInfo.u32TotalLen = d₀.struOtaInfo.u32TotalLen
  offset : d.struOtaInfo.u32RecvOffset ≤ d.struOtaInfo.u32TotalLen
  chunks : ∃ es, d.trace = es ++ d₀.trace ∧
    Contiguous d₀.struOtaInfo.u32RecvOffset (acceptedIn es) d.struOtaInfo.u32RecvOffset

theorem ChunkProgress.step {d₀ : Device} (h : ChunkProgress d₀ d)
    (hstep : ChunkRefused d d' ∨ ChunkAccepted view d d') : ChunkProgress d₀ d' := by
  obtain ⟨htotal, hoff, es, htrace, hchunks⟩ := h
  obtain ⟨hota, es', htrace', hes'⟩ | ⟨data, ⟨es', htrace', hes'⟩, -, -, hend, hota⟩ := hstep
  · refine ⟨by rw [hota]; exact htotal, by rw [hota]; exact hoff, es' ++ es, ?_, ?_⟩
    · rw [htrace', htrace, List.append_assoc]
    · rw [hota, acceptedIn_append, ChunkRefused.accepted_nil hes', List.append_nil]
      exact hchunks
  · refine ⟨by rw [hota]; exact htotal, by rw [hota]; exact hend, es' ++ es, ?_, ?_⟩
    · rw [htrace', htrace, List.append_assoc]
    · have haccepted : acceptedIn es' = [(data, d.struOtaInfo.u32RecvOffset)] := by
        rw [acceptedIn, hes']
        rfl
      rw [acceptedIn_append, haccepted]
      exact hchunks.append (by rw [hota])

/-- The chunks of a file are taken in order, without gaps and overlaps and within the
announced length, whichever way they come, and each is refused or taken as a
whole. `pfunUpdate` may refuse any of them, and for the answer to the module there may be
no memory. -/
theorem PCT_HandleOtaFileChunkMsg_sequence (env : Env) {pfunUpdate : PfunUpdate} (hapart : pfunUpdate.Apart)
    {d₀ d : Device} (hoff : d₀.struOtaInfo.u32RecvOffset ≤ d₀.struOtaInfo.u32TotalLen)
    (htotal : d₀.struOtaInfo.u32TotalLen ≤ TOTAL_SIZE)
    (hrun : Runs (ChunkMsg.handle env pfunUpdate) (fun _ msg => validMsg msg.view) d₀ d) :
    (d.struOtaInfo.u32TotalLen = d₀.struOtaInfo.u32TotalLen ∧
      d.struOtaInfo.u32RecvOffset ≤ d.struOtaInfo.u32TotalLen ∧
      ∃ es, d.trace = es ++ d₀.trace ∧
        Contiguous d₀.struOtaInfo.u32RecvOffset (acceptedIn es) d.struOtaInfo.u32RecvOffset) ∧
    ∀ view, validMsg view →
      (∀ msg : ChunkMsg, msg.view = view → ∀ d', (msg.handle env pfunUpdate).run d = .ok ((), d') →
        ChunkRefused d d' ∨ ChunkAccepted view d d') ∧
      ∀ msg₁ msg₂ : ChunkMsg, msg₁.view = view → msg₂.view = view →
        ∀ d₁, (msg₁.handle env pfunUpdate).run d = .ok ((), d₁) →
          (∃ d₂, (msg₂.handle env pfunUpdate).run d = .ok ((), d₂) ∧ SameEffect d d₁ d₂) ∨
            Unanswered env pfunUpdate msg₂ d d₁ := by
  have hprogress : ChunkProgress d₀ d := by
    refine hrun.invariant (I := ChunkProgress d₀) ⟨rfl, hoff, [], rfl, rfl⟩ fun t u msg ht hvalid h => ?_
    exact ht.step (ChunkMsg.handle_cases hvalid hapart ht.offset (by rw [ht.total]; exact htotal) h)
  have hbound : d.struOtaInfo.u32TotalLen ≤ TOTAL_SIZE := by
    rw [hprogress.total]
    exact htotal
  refine ⟨⟨hprogress.total, hprogress.offset, hprogress.chunks⟩, fun view hvalid => ⟨?_, ?_⟩⟩
  · rintro msg rfl d' h
    exact ChunkMsg.handle_cases hvalid hapart hprogress.offset hbound h
  · rintro msg₁ msg₂ rfl hview d₁ h
    exact ChunkMsg.handle_same hview.symm hvalid hapart hprogress.offset hbound h

end

/-- The firmware update has no part in the protocol. -/
theorem HF_FirmwareUpdate_apart (env : Env) : PfunUpdate.Apart (HF_FirmwareUpdate env) := by
  intro data off
  have hcall {α : Type} (x : Prog Fwup α) : Keeps (fun d => (d.g_struProtocolController, d.trace)) (callFwup x) :=
    callFwup_keeps (fun _ _ => rfl) x
  have hrequest : Keeps (fun d => (d.g_struProtocolController, d.trace)) (do
      let retval ← callFwup (tls_fwup_request_sync env.toFwupEnv (← get).g_u32session_id data)
      return if retval.code < 0 then ZC_RET_ERROR else ZC_RET_OK) :=
    moves_bind moves_get fun _ => moves_bind (hcall _) fun _ => moves_pure _
  refine moves_ite (moves_bind ?_ fun _ => moves_bind (hcall _) fun _ => ?_) hrequest
  · refine moves_mono (draw_ticks _) fun h => ?_
    obtain ⟨_, h⟩ := h
    rw [h]
  · exact moves_bind (moves_modify fun _ => rfl) fun _ => moves_ite (moves_pure _) hrequest

/-- The device has been told of a file of five bytes. -/
def announced : Device :=
  (Device.zero blankFwup).withController
    { (Device.zero blankFwup).g_struProtocolController with struOtaInfo := ⟨5, 0, (0, 0)⟩ }

/-- The first two bytes of the file. -/
def firstChunk : List UInt8 := EVENT_BuildMsg ZC_CODE_ZOTA_FILE_CHUNK 7 ([0, 0, 0, 0] ++ [1, 2])

/-- They come from the cloud, and then from the module. -/
def firstChunkTwice : Prog Device Unit := do
  (ChunkMsg.cloud firstChunk).handle soundEnv (HF_FirmwareUpdate soundEnv)
  (ChunkMsg.moudle firstChunk).handle soundEnv (HF_FirmwareUpdate soundEnv)

/-- A chunk is taken, and refused when it comes again. -/
theorem PCT_HandleOtaFileChunkMsg_sequence_first : ∃ d : Device,
    updatesIn d.trace = [([1, 2], 0, ZC_RET_OK)] ∧
      d.trace.head? = some (.toMoudle (.notify ZC_CODE_ERR) (EVENT_BuildMsg ZC_CODE_ERR 0 [])) ∧
      ChunkProgress announced d ∧ ∀ view, validMsg view → ∀ msg : ChunkMsg, msg.view = view →
        ∀ d', (msg.handle soundEnv (HF_FirmwareUpdate soundEnv)).run d = .ok ((), d') →
          ChunkRefused d d' ∨ ChunkAccepted view d d' := by
  have hvalid : validMsg firstChunk := by
    change checkMsgCrc _ = Except.ok ZC_RET_OK
    decide +kernel
  have hview : (firstChunkTwice.run announced).toOption.map (fun r => (updatesIn r.2.trace, r.2.trace.head?)) =
      some ([([1, 2], 0, ZC_RET_OK)], some (.toMoudle (.notify ZC_CODE_ERR) (EVENT_BuildMsg ZC_CODE_ERR 0 []))) := by
    decide +kernel
  cases hrun : firstChunkTwice.run announced with
  | error e =>
    rw [hrun] at hview
    cases hview
  | ok r =>
    obtain ⟨_, d⟩ := r
    rw [hrun] at hview
    obtain ⟨hupdates, hlast⟩ := Prod.mk.inj (Option.some.inj hview)
    obtain ⟨_, d₁, hcloud, hmoudle⟩ := run_bind_eq_ok.mp hrun
    have hruns : Runs (ChunkMsg.handle soundEnv (HF_FirmwareUpdate soundEnv)) (fun _ msg => validMsg msg.view) announced d :=
      @Runs.step _ _ _ _ _ _ _ (.moudle firstChunk) (@Runs.step _ _ _ _ _ _ _ (.cloud firstChunk) .refl hvalid hcloud)
        hvalid hmoudle
    obtain ⟨⟨htotal, hoff, hchunks⟩, hstep⟩ := @PCT_HandleOtaFileChunkMsg_sequence soundEnv _
      (HF_FirmwareUpdate_apart soundEnv) announced d (by decide) (by decide) hruns
    exact ⟨d, hupdates, hlast, ⟨htotal, hoff, hchunks⟩, fun view hview => (hstep view hview).1⟩

end ZCloud
