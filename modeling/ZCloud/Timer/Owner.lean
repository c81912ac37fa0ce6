import Mathlib.Logic.Function.Basic
import ZCloud.ProtocolController.Handle

open Memory Program

namespace ZCloud

/-- The slot in which each live timer has been started. -/
abbrev Owners : Type := Nat → Option (Fin ZC_TIMER_MAX_NUM)

/-- What the lookup of timers depends on. -/
def Device.timers (d : Device) : (Fin ZC_TIMER_MAX_NUM → ZC_TIMER_STATUS) × (Fin ZC_TIMER_MAX_NUM → Nat) × List Nat :=
  (fun i => (d.g_struTimer i).u8Status, fun i => (d.g_struHfTimer i).struHandle, d.liveTimers)

/-- The states that the timers go through: they are started, also without success,
those in use are stopped, and everything else leaves them alone. -/
inductive Timing (env : Env) : Device → Owners → Prop where
  | start {d : Device} (hidle : ∀ i, (d.g_struTimer i).u8Status = ZC_TIMER_STATUS_IDLE) (hlive : d.liveTimers = []) :
      Timing env d fun _ => none
  | set {d d' : Device} {owners : Owners} {u8Type : PCT_TIMER} {pu8TimeIndex : TimerHandle} {i : Fin ZC_TIMER_MAX_NUM}
      {handle : Nat} (h : Timing env d owners) (hset : (HF_SetTimer env u8Type pu8TimeIndex).run d = .ok (ZC_RET_OK, d'))
      (hfind : TIMER_FindIdleTimer d = some i) (hlive : d'.liveTimers = handle :: d.liveTimers) :
      Timing env d' (Function.update owners handle (some i))
  | fail {d d' : Device} {owners : Owners} {u8Type : PCT_TIMER} {pu8TimeIndex : TimerHandle} (h : Timing env d owners)
      (hset : (HF_SetTimer env u8Type pu8TimeIndex).run d = .ok (ZC_RET_ERROR, d')) : Timing env d' owners
  | stop {d d' : Device} {owners : Owners} {u8TimerIndex : TimerIndex} {i : Fin ZC_TIMER_MAX_NUM} (h : Timing env d owners)
      (hindex : d.timerIndex u8TimerIndex = some i) (hused : (d.g_struTimer i).u8Status = ZC_TIMER_STATUS_USED)
      (hstop : (TIMER_StopTimer u8TimerIndex).run d = .ok ((), d')) :
      Timing env d' (Function.update owners (d.g_struHfTimer i).struHandle none)
  | aside {d d' : Device} {owners : Owners} (h : Timing env d owners) (htimers : d'.timers = d.timers) :
      Timing env d' owners

namespace Link

/-- Every live timer has a slot of its own, which is in use, and no slot before it
holds its handle. A slot that is in use has a live timer. -/
structure Owned (l : Link) (owners : Owners) : Prop where
  nodup : l.liveTimers.Nodup
  zero : 0 ∉ l.liveTimers
  live : ∀ handle ∈ l.liveTimers, ∃ i, owners handle = some i ∧ l.Used i ∧ l.timerId handle = some i
  used : ∀ i, l.Used i → (l.g_struHfTimer i).struHandle ∈ l.liveTimers ∧ owners (l.g_struHfTimer i).struHandle = some i

variable {l l' : Link} {owners : Owners} {i : Fin ZC_TIMER_MAX_NUM} {handle : Nat}

/-- Only the status and the handle of each slot, and the live timers, count. -/
theorem Owned.congr (h : l.Owned owners) (hstatus : ∀ i, (l'.g_struTimer i).u8Status = (l.g_struTimer i).u8Status)
    (hhandle : ∀ i, (l'.g_struHfTimer i).struHandle = (l.g_struHfTimer i).struHandle)
    (hlive : l'.liveTimers = l.liveTimers) : l'.Owned owners := by
  have hused : ∀ i, l'.Used i ↔ l.Used i := fun i => by rw [Used, Used, hstatus]
  refine ⟨by rw [hlive]; exact h.nodup, by rw [hlive]; exact h.zero, fun x hx => ?_, fun j hj => ?_⟩
  · rw [hlive] at hx
    obtain ⟨j, howner, hj, hid⟩ := h.live x hx
    refine ⟨j, howner, (hused j).mpr hj, ?_⟩
    rw [timerId_eq_some] at hid ⊢
    simpa only [hhandle] using hid
  · rw [hlive, hhandle]
    exact h.used j ((hused j).mp hj)

theorem Owned.start (h : l.Owned owners) {u8Type : PCT_TIMER} (hfirst : l.FirstIdle i) (hnew : handle ∉ l.liveTimers)
    (hzero : handle ≠ 0) : (l.start i u8Type handle).Owned (Function.update owners handle (some i)) := by
  have hother : ∀ j, j ≠ i → ((l.start i u8Type handle).g_struHfTimer j).struHandle = (l.g_struHfTimer j).struHandle :=
    fun j hj => by simp [Link.start, hj]
  have hown : ((l.start i u8Type handle).g_struHfTimer i).struHandle = handle := by simp [Link.start]
  refine ⟨List.nodup_cons.mpr ⟨hnew, h.nodup⟩, ?_, fun x hx => ?_, fun j hj => ?_⟩
  · exact fun hmem => (List.mem_cons.mp hmem).elim (fun heq => hzero heq.symm) h.zero
  · rcases List.mem_cons.mp hx with rfl | hmem
    · refine ⟨i, Function.update_self .., used_start.mpr (.inl rfl), timerId_eq_some.mpr ⟨hown, fun j hj => ?_⟩⟩
      -- the slots before the first idle one hold the handles of live timers
      rw [hother j (Fin.ne_of_lt hj)]
      rintro rfl
      exact hnew (h.used j (hfirst.2 j hj)).1
    · obtain ⟨j, howner, hj, hid⟩ := h.live x hmem
      have hxh : x ≠ handle := fun heq => hnew (heq ▸ hmem)
      have hji : j ≠ i := fun heq => hfirst.1 (heq ▸ hj)
      obtain ⟨hheld, hbefore⟩ := timerId_eq_some.mp hid
      refine ⟨j, by rw [Function.update_of_ne hxh]; exact howner, used_start.mpr (.inr hj),
        timerId_eq_some.mpr ⟨by rw [hother j hji]; exact hheld, fun k hk => ?_⟩⟩
      by_cases hki : k = i
      · rw [hki, hown]
        exact hxh.symm
      · rw [hother k hki]
        exact hbefore k hk
  · by_cases hji : j = i
    · rw [hji, hown]
      exact ⟨List.mem_cons_self, Function.update_self ..⟩
    · obtain ⟨hmem, howner⟩ := h.used j ((used_start.mp hj).resolve_left hji)
      have hne : (l.g_struHfTimer j).struHandle ≠ handle := fun heq => hnew (heq ▸ hmem)
      rw [hother j hji, Function.update_of_ne hne]
      exact ⟨List.mem_cons_of_mem _ hmem, howner⟩

theorem Owned.fail (h : l.Owned owners) (hidle : ¬ l.Used i) : (l.fail i).Owned owners := by
  have hother : ∀ j, j ≠ i → ((l.fail i).g_struHfTimer j).struHandle = (l.g_struHfTimer j).struHandle :=
    fun j hj => by simp [Link.fail, hj]
  refine ⟨h.nodup, h.zero, fun x hx => ?_, fun j hj => ?_⟩
  · obtain ⟨j, howner, hj, hid⟩ := h.live x hx
    have hji : j ≠ i := fun heq => hidle (heq ▸ hj)
    obtain ⟨hheld, hbefore⟩ := timerId_eq_some.mp hid
    refine ⟨j, howner, hj, timerId_eq_some.mpr ⟨by rw [hother j hji]; exact hheld, fun k hk => ?_⟩⟩
    by_cases hki : k = i
    · have hx0 : 0 ≠ x := fun heq => h.zero (heq ▸ hx)
      simpa [Link.fail, hki] using hx0
    · rw [hother k hki]
      exact hbefore k hk
  · rw [hother j fun heq => hidle (heq ▸ hj)]
    exact h.used j hj

theorem Owned.stop (h : l.Owned owners) (hused : l.Used i) :
    (l.stop i).Owned (Function.update owners (l.g_struHfTimer i).struHandle none) := by
  have hi := (h.used i hused).2
  refine ⟨h.nodup.erase _, fun hmem => h.zero (List.mem_of_mem_erase hmem), fun x hx => ?_, fun j hj => ?_⟩
  · obtain ⟨hne, hmem⟩ := h.nodup.mem_erase_iff.mp hx
    obtain ⟨j, howner, hj, hid⟩ := h.live x hmem
    have hji : j ≠ i := fun heq => hne (heq ▸ (timerId_eq_some.mp hid).1.symm)
    exact ⟨j, by rw [Function.update_of_ne hne]; exact howner, used_stop.mpr ⟨hji, hj⟩, hid⟩
  · obtain ⟨hji, hj⟩ := used_stop.mp hj
    obtain ⟨hmem, howner⟩ := h.used j hj
    -- two slots in use have different handles, for the owner of a handle is one slot
    have hne : (l.g_struHfTimer j).struHandle ≠ (l.g_struHfTimer i).struHandle := by
      intro heq
      rw [heq, hi] at howner
      exact hji (Option.some.inj howner).symm
    exact ⟨h.nodup.mem_erase_iff.mpr ⟨hne, hmem⟩, (Function.update_of_ne hne _ _).trans howner⟩

theorem owned_of_idle (hlive : l.liveTimers = []) (hidle : ∀ j, ¬ l.Used j) : l.Owned fun _ => none :=
  ⟨by rw [hlive]; exact List.nodup_nil, by rw [hlive]; exact List.not_mem_nil,
    by rw [hlive]; exact fun _ hx => absurd hx List.not_mem_nil, fun j hj => absurd hj (hidle j)⟩

end Link

variable {env : Env} {d d' : Device} {owners : Owners} {i : Fin ZC_TIMER_MAX_NUM} {handle : Nat}

theorem findIdleTimer_eq_some : TIMER_FindIdleTimer d = some i ↔ d.link.FirstIdle i := by
  have hidle : ∀ j, (d.g_struTimer j).u8Status = ZC_TIMER_STATUS_IDLE ↔ ¬ d.link.Used j := by
    intro j
    rw [Link.Used, Device.link]
    cases (d.g_struTimer j).u8Status <;> simp
  rw [TIMER_FindIdleTimer, find?_finRange, Link.FirstIdle]
  simp [hidle]

theorem Device.Owned.of_timers {owners : Owners} (h : d.link.Owned owners) (htimers : d'.timers = d.timers) :
    d'.link.Owned owners := by
  obtain ⟨hstatus, hhandle, hlive⟩ : _ ∧ _ ∧ _ := by simpa [Device.timers, Prod.ext_iff] using htimers
  exact h.congr (congrFun hstatus) (congrFun hhandle) hlive

/-- Every state of the timers keeps the record of what they are. -/
theorem Timing.owned (h : Timing env d owners) : d.link.Owned owners := by
  induction h with
  | start hidle hlive =>
    refine Link.owned_of_idle hlive fun j hj => ?_
    rw [Link.Used, Device.link, hidle j] at hj
    cases hj
  | @set d d' owners u8Type pu8TimeIndex i handle _ hset hfind hlive ih =>
    obtain ⟨hret, -⟩ | ⟨_, -, hret, -⟩ | ⟨j, x, hfirst, hnew, hzero, -, rfl⟩ := HF_SetTimer_cases hset
    · cases hret
    · cases hret
    · obtain rfl : i = j := Option.some.inj (hfind.symm.trans (findIdleTimer_eq_some.mpr hfirst))
      obtain rfl : x = handle := (List.cons.inj hlive).1
      exact (@Link.Owned.start d.link owners i x ih u8Type hfirst hnew hzero).congr (fun _ => rfl) (fun _ => rfl) rfl
  | @fail d d' owners u8Type pu8TimeIndex _ hset ih =>
    obtain ⟨-, rfl⟩ | ⟨j, hfirst, -, rfl⟩ | ⟨_, _, -, -, -, hret, -⟩ := HF_SetTimer_cases hset
    · exact ih
    · exact ih.fail hfirst.1
    · cases hret
  | @stop d d' owners u8TimerIndex i _ hindex hused hstop ih =>
    obtain ⟨j, hj, rfl⟩ := TIMER_StopTimer_spec hstop
    obtain rfl : i = j := Option.some.inj (hindex.symm.trans hj)
    exact ih.stop hused
  | aside _ htimers ih => exact Device.Owned.of_timers ih htimers

/-- The device goes over to `d'` without stopping a timer. -/
def Starts (env : Env) (d d' : Device) : Prop :=
  (∀ owners, Timing env d owners → ∃ owners', Timing env d' owners') ∧ ∀ i, d.link.Used i → d'.link.Used i

instance : Frame (Starts env) where
  refl _ := ⟨fun owners h => ⟨owners, h⟩, fun _ h => h⟩
  trans h₁ h₂ :=
    ⟨fun owners h => let ⟨owners₁, h'⟩ := h₁.1 owners h; h₂.1 owners₁ h', fun i h => h₂.2 i (h₁.2 i h)⟩

theorem Starts.of_timers (h : d'.timers = d.timers) : Starts env d d' := by
  refine ⟨fun owners ht => ⟨owners, ht.aside h⟩, fun i hi => ?_⟩
  exact (congrFun (congrArg Prod.fst h) i).trans hi

theorem Starts.of_unsent {P : Event → Prop} (h : Aside Device.unsent P d d') : Starts env d d' := by
  have hlink := link_of_core (core_of_unsent h.view_eq)
  exact .of_timers (congrArg (fun l : Link => (fun i => (l.g_struTimer i).u8Status,
    fun i => (l.g_struHfTimer i).struHandle, l.liveTimers)) hlink)

theorem HF_SetTimer_starts (env : Env) (u8Type : PCT_TIMER) (pu8TimeIndex : TimerHandle) :
    Moves (Starts env) (HF_SetTimer env u8Type pu8TimeIndex) := by
  intro d r d' hrun
  obtain ⟨rfl, rfl⟩ | ⟨j, -, rfl, rfl⟩ | ⟨j, x, hfirst, -, -, rfl, rfl⟩ := HF_SetTimer_cases hrun
  · exact Frame.refl _
  · exact ⟨fun owners h => ⟨owners, h.fail hrun⟩, fun _ hi => hi⟩
  · refine ⟨fun owners h => ⟨_, h.set hrun (findIdleTimer_eq_some.mpr hfirst) rfl⟩, fun k hk => ?_⟩
    exact (@Link.used_start d.link j x u8Type k).mpr (.inr hk)

/-- What changes neither a slot nor the live timers. -/
theorem modify_starts {f : Device → Device} (h : ∀ d, (f d).timers = d.timers) :
    Moves (Starts env) (modify f : Prog Device PUnit) :=
  moves_modify fun d => .of_timers (h d)

theorem clearHandle_starts (h : TimerHandle) : Moves (Starts env) (clearHandle h) :=
  modify_starts fun d => by cases h <;> rfl

theorem PCT_DisConnectCloud_starts : Moves (Starts env) (PCT_DisConnectCloud env) :=
  moves_bind (modify_starts fun _ => rfl) fun _ => moves_bind (modify_starts fun _ => rfl) fun _ =>
    moves_bind (modify_starts fun _ => rfl) fun _ =>
      moves_mono (PCT_SendNotifyMsg_aside env (P := fun _ => True) trivial) Starts.of_unsent

theorem PCT_SendMoudleTimeout_starts (env : Env) : Moves (Starts env) (PCT_SendMoudleTimeout env) := by
  refine moves_bind moves_get fun d => ?_
  cases d.g_struProtocolController.pu8SendMoudleBuffer with
  | none => exact moves_throw _
  | some addr =>
    refine moves_bind (modify_starts fun _ => rfl) fun _ => moves_ite ?_ ?_
    · refine moves_bind (modify_starts fun d => by cases addr <;> rfl) fun _ => moves_bind (modify_starts fun _ => rfl) fun _ =>
        moves_bind (moves_lift _) fun _ => moves_mono (PCT_SendErrorMsg_aside env _ _) Starts.of_unsent
    · refine moves_bind (moves_mono (HF_SendDataToMoudle_keeps env (fun _ _ _ => rfl) _ _ _) .of_timers) fun _ =>
        moves_bind (HF_SetTimer_starts env _ _) fun _ => moves_pure _

/-- The action of a timer that has run out stops no timer. -/
theorem TIMER_TimeoutAction_starts (env : Env) (u8TimerIndex : Fin ZC_TIMER_MAX_NUM) :
    Moves (Starts env) (TIMER_TimeoutAction env u8TimerIndex) := by
  refine moves_bind moves_get fun d => ?_
  cases (d.g_struTimer u8TimerIndex).u8Type with
  | PCT_TIMER_RECONNECT => exact moves_bind (clearHandle_starts _) fun _ => modify_starts fun _ => rfl
  | PCT_TIMER_REACCESS => exact PCT_DisConnectCloud_starts
  | PCT_TIMER_SENDMOUDLE => exact PCT_SendMoudleTimeout_starts env
  | PCT_TIMER_SENDHEART =>
    exact moves_bind (moves_mono (sendBuilt_aside env _ _) Starts.of_unsent) fun _ =>
      moves_bind (HF_SetTimer_starts env _ _) fun _ => moves_pure _
  | PCT_TIMER_REGISTER =>
    exact moves_bind (HF_SetTimer_starts env _ _) fun _ =>
      moves_mono (PCT_SendNotifyMsg_aside env (P := fun _ => True) trivial) Starts.of_unsent

/-- The timers go on when one of them runs out: its slot is in use after its action, too. -/
theorem Timing.expire (h : Timing env d owners) (hlive : handle ∈ d.liveTimers)
    (hrun : (HF_timer_callback env handle).run d = .ok ((), d')) : ∃ owners', Timing env d' owners' := by
  obtain ⟨i, -, hused, hid⟩ := h.owned.live handle hlive
  have hid' : HF_get_timer_id d handle = some i := hid
  rw [HF_timer_callback, run_get_bind, hid'] at hrun
  simp only at hrun
  split at hrun
  · obtain rfl := run_modify_eq_ok.mp hrun
    refine ⟨owners, h.aside ?_⟩
    have hsame : ∀ j, ((d.link.ring i).g_struHfTimer j).struHandle = (d.g_struHfTimer j).struHandle := by
      intro j
      by_cases hj : j = i
      · simp [Link.ring, Device.link, hj]
      · simp [Link.ring, Device.link, hj]
    exact congrArg (fun f => (fun i => (d.g_struTimer i).u8Status, f, d.liveTimers)) (funext hsame)
  · obtain ⟨_, d₁, haction, hstop⟩ := run_bind_eq_ok.mp hrun
    obtain ⟨hstarts, hkeeps⟩ := TIMER_TimeoutAction_starts env i haction
    obtain ⟨owners₁, h₁⟩ := hstarts owners h
    exact ⟨_, h₁.stop rfl (hkeeps i hused) hstop⟩

/-- In every state that the timers go through, a live timer is found in the slot that
it was started in, and this slot is in use. They go on so when one of them runs out. -/
theorem HF_get_timer_id_live (env : Env) (d : Device) (owners : Owners) (h : Timing env d owners) (handle : Nat)
    (hlive : handle ∈ d.liveTimers) :
    (∃ i, owners handle = some i ∧ HF_get_timer_id d handle = some i ∧ (d.g_struTimer i).u8Status = ZC_TIMER_STATUS_USED) ∧
      ∀ d', (HF_timer_callback env handle).run d = .ok ((), d') → ∃ owners', Timing env d' owners' := by
  obtain ⟨i, howner, hused, hid⟩ := h.owned.live handle hlive
  exact ⟨⟨i, howner, hid, hused⟩, fun d' hrun => h.expire hlive hrun⟩

/-- The first timer that the program starts is in slot 0. -/
theorem HF_get_timer_id_live_first : ∃ d owners, Timing soundEnv d owners ∧ d.liveTimers = [1] ∧
    owners 1 = some timerZero ∧ HF_get_timer_id d 1 = some timerZero := by
  have hset : (HF_SetTimer soundEnv PCT_TIMER_REGISTER .u8RegisterTimer).run (Device.zero blankFwup) = .ok (ZC_RET_OK, _) := rfl
  have h := (@Timing.start soundEnv (Device.zero blankFwup) (fun _ => rfl) rfl).set hset rfl rfl
  refine ⟨_, _, h, rfl, rfl, ?_⟩
  obtain ⟨⟨i, howner, hid, -⟩, -⟩ := HF_get_timer_id_live soundEnv _ _ h 1 (List.mem_singleton.mpr rfl)
  exact hid.trans howner.symm

end ZCloud
