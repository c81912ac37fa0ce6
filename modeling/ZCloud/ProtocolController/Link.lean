import ZCloud.HfAdpter.System
import ZCloud.ProtocolController.Aside

open Memory Program

namespace ZCloud

/-- What of the globals the connection to the cloud depends on. -/
structure Link where
  u8MainState : PCT_STATE
  u8ReconnectTimer : Option (Fin ZC_TIMER_MAX_NUM)
  RandMsg : Mem ZC_HS_MSG_LEN
  g_struTimer : Fin ZC_TIMER_MAX_NUM → ZC_Timer
  g_struHfTimer : Fin ZC_TIMER_MAX_NUM → HF_TimerInfo
  liveTimers : List Nat

def Device.link (d : Device) : Link where
  u8MainState := d.g_struProtocolController.u8MainState
  u8ReconnectTimer := d.g_struProtocolController.u8ReconnectTimer
  RandMsg := d.g_struProtocolController.RandMsg
  g_struTimer := d.g_struTimer
  g_struHfTimer := d.g_struHfTimer
  liveTimers := d.liveTimers

theorem link_of_core {d d' : Device} (h : d'.core = d.core) : d'.link = d.link := by
  have := congrArg (fun c : Device.Core =>
    (⟨c.u8MainState, c.handle .u8ReconnectTimer, c.RandMsg, c.g_struTimer, c.g_struHfTimer, c.liveTimers⟩ : Link)) h
  exact this

theorem find?_finRange {n : Nat} {p : Fin n → Bool} {i : Fin n} :
    (List.finRange n).find? p = some i ↔ p i = true ∧ ∀ j < i, p j = false := by
  rw [List.find?_eq_some_iff_getElem]
  constructor
  · rintro ⟨hi, k, hk, rfl, hbefore⟩
    refine ⟨hi, fun j hj => ?_⟩
    rw [List.getElem_finRange] at hj
    have := hbefore j.val hj
    rw [List.getElem_finRange] at this
    simpa using this
  · rintro ⟨hi, hbefore⟩
    refine ⟨hi, i.val, by simp, by simp, fun j hj => ?_⟩
    rw [List.getElem_finRange]
    simpa using hbefore ⟨j, by omega⟩ hj

namespace Link

/-- The first slot that holds the handle of a timer. -/
def timerId (l : Link) (handle : Nat) : Option (Fin ZC_TIMER_MAX_NUM) :=
  (List.finRange ZC_TIMER_MAX_NUM).find? fun i => (l.g_struHfTimer i).struHandle = handle

/-- The timer of slot `i` has been stopped. -/
def stop (l : Link) (i : Fin ZC_TIMER_MAX_NUM) : Link :=
  { l with
    g_struTimer := fun j => if j = i then { l.g_struTimer i with u8Status := ZC_TIMER_STATUS_IDLE } else l.g_struTimer j
    liveTimers := l.liveTimers.erase (l.g_struHfTimer i).struHandle }

/-- A timer has been started in slot `i`. -/
def start (l : Link) (i : Fin ZC_TIMER_MAX_NUM) (u8Type : PCT_TIMER) (handle : Nat) : Link :=
  { l with
    g_struTimer := fun j => if j = i then ⟨ZC_TIMER_STATUS_USED, u8Type⟩ else l.g_struTimer j
    g_struHfTimer := fun j => if j = i then ⟨1, handle⟩ else l.g_struHfTimer j
    liveTimers := handle :: l.liveTimers }

/-- There was no timer for slot `i`. -/
def fail (l : Link) (i : Fin ZC_TIMER_MAX_NUM) : Link :=
  { l with g_struHfTimer := fun j => if j = i then { l.g_struHfTimer i with struHandle := 0 } else l.g_struHfTimer j }

/-- The timer of slot `i` has run out for the first time. -/
def ring (l : Link) (i : Fin ZC_TIMER_MAX_NUM) : Link :=
  { l with g_struHfTimer := fun j => if j = i then { l.g_struHfTimer i with u32FirstFlag := 0 } else l.g_struHfTimer j }

/-- Slot `i` is used by a timer. -/
def Used (l : Link) (i : Fin ZC_TIMER_MAX_NUM) : Prop := (l.g_struTimer i).u8Status = ZC_TIMER_STATUS_USED

/-- Slot `i` is the first that is idle. -/
def FirstIdle (l : Link) (i : Fin ZC_TIMER_MAX_NUM) : Prop := ¬ l.Used i ∧ ∀ j < i, l.Used j

/-- Every timer that can run out is found in a slot that is in use, and the handle
for reconnecting names the only slot with a timer of that type. -/
structure Timed (l : Link) : Prop where
  nodup : l.liveTimers.Nodup
  zero : 0 ∉ l.liveTimers
  slot : ∀ handle ∈ l.liveTimers, ∃ i, l.timerId handle = some i ∧ l.Used i
  reconnect : ∀ i, l.Used i → (l.g_struTimer i).u8Type = PCT_TIMER_RECONNECT → l.u8ReconnectTimer = some i

variable {l l' : Link} {i : Fin ZC_TIMER_MAX_NUM} {handle : Nat}

theorem timerId_eq_some : l.timerId handle = some i ↔
    (l.g_struHfTimer i).struHandle = handle ∧ ∀ j < i, (l.g_struHfTimer j).struHandle ≠ handle := by
  rw [timerId, find?_finRange]
  simp

/-- A change of what is not about timers keeps them sound. -/
theorem Timed.congr (h : l.Timed) (htimer : l'.g_struTimer = l.g_struTimer) (hhf : l'.g_struHfTimer = l.g_struHfTimer)
    (hlive : l'.liveTimers = l.liveTimers) (hreconnect : l'.u8ReconnectTimer = l.u8ReconnectTimer) : l'.Timed := by
  obtain ⟨hnodup, hzero, hslot, honly⟩ := h
  refine ⟨by rwa [hlive], by rwa [hlive], fun x hx => ?_, fun j hj => ?_⟩
  · rw [hlive] at hx
    obtain ⟨j, hj, hused⟩ := hslot x hx
    exact ⟨j, by rw [timerId, hhf]; exact hj, by rw [Used, htimer]; exact hused⟩
  · rw [htimer, hreconnect]
    rw [Used, htimer] at hj
    exact honly j hj

theorem used_stop {j : Fin ZC_TIMER_MAX_NUM} : (l.stop i).Used j ↔ j ≠ i ∧ l.Used j := by
  by_cases hji : j = i
  · simp [Used, stop, hji]
  · simp [Used, stop, hji]

theorem Timed.stop (h : l.Timed) : (l.stop i).Timed := by
  obtain ⟨hnodup, hzero, hslot, honly⟩ := h
  refine ⟨hnodup.erase _, fun hmem => hzero (List.mem_of_mem_erase hmem), fun x hx => ?_, fun j hj htype => ?_⟩
  · obtain ⟨hne, hmem⟩ := hnodup.mem_erase_iff.mp hx
    obtain ⟨j, hj, hused⟩ := hslot x hmem
    refine ⟨j, hj, used_stop.mpr ⟨?_, hused⟩⟩
    rintro rfl
    exact hne (timerId_eq_some.mp hj).1.symm
  · obtain ⟨hji, hused⟩ := used_stop.mp hj
    have htype' : (l.g_struTimer j).u8Type = PCT_TIMER_RECONNECT := by
      simpa [Link.stop, hji] using htype
    exact honly j hused htype'

/-- The timer for reconnecting is stopped, and its handle given up. -/
theorem Timed.settle (h : l.Timed) (hreconnect : l.u8ReconnectTimer = some i) :
    Timed { l.stop i with u8ReconnectTimer := none } := by
  refine ⟨h.stop.nodup, h.stop.zero, h.stop.slot, fun j hj htype => ?_⟩
  obtain ⟨hji, hused⟩ := used_stop.mp hj
  have htype' : (l.g_struTimer j).u8Type = PCT_TIMER_RECONNECT := by simpa [Link.stop, hji] using htype
  have hother := h.reconnect j hused htype'
  rw [hreconnect] at hother
  exact absurd (Option.some.inj hother).symm hji

theorem used_start {u8Type : PCT_TIMER} {j : Fin ZC_TIMER_MAX_NUM} :
    (l.start i u8Type handle).Used j ↔ j = i ∨ l.Used j := by
  by_cases hji : j = i
  · simp [Used, start, hji]
  · simp [Used, start, hji]

/-- A new timer has a handle of its own, and is found in its slot, unless a slot
before it that is in use still holds that handle. -/
theorem Timed.start (h : l.Timed) {u8Type : PCT_TIMER} (hfirst : l.FirstIdle i) (hnew : handle ∉ l.liveTimers)
    (hzero' : handle ≠ 0)
    (hreconnect : u8Type = PCT_TIMER_RECONNECT → l.u8ReconnectTimer = some i ∧ ∀ j, ¬ l.Used j) :
    (l.start i u8Type handle).Timed := by
  obtain ⟨hnodup, hzero, hslot, honly⟩ := h
  refine ⟨List.nodup_cons.mpr ⟨hnew, hnodup⟩, ?_, fun x hx => ?_, fun j hj htype => ?_⟩
  · rintro (_ | ⟨_, hmem⟩)
    · exact hzero' rfl
    · exact hzero hmem
  · rcases List.mem_cons.mp hx with rfl | hmem
    · have hown : ((l.start i u8Type x).g_struHfTimer i).struHandle = x := by simp [Link.start]
      obtain ⟨k, hk⟩ : ∃ k, (l.start i u8Type x).timerId x = some k := by
        refine Option.isSome_iff_exists.mp (List.find?_isSome.mpr ⟨i, List.mem_finRange i, ?_⟩)
        simpa using hown
      have hki : k ≤ i := by
        refine Fin.not_lt.mp fun hlt => ?_
        exact (timerId_eq_some.mp hk).2 i hlt hown
      refine ⟨k, hk, used_start.mpr ?_⟩
      rcases Fin.lt_or_eq_of_le hki with hlt | heq
      · exact .inr (hfirst.2 k hlt)
      · exact .inl heq
    · obtain ⟨j, hj, hused⟩ := hslot x hmem
      have hji : j ≠ i := by
        rintro rfl
        exact hfirst.1 hused
      have hne : handle ≠ x := by
        rintro rfl
        exact hnew hmem
      refine ⟨j, ?_, used_start.mpr (.inr hused)⟩
      obtain ⟨hfound, hbefore⟩ := timerId_eq_some.mp hj
      refine timerId_eq_some.mpr ⟨?_, fun k hk => ?_⟩
      · simpa [Link.start, hji] using hfound
      · by_cases hki : k = i
        · simpa [Link.start, hki] using hne
        · simpa [Link.start, hki] using hbefore k hk
  · by_cases hji : j = i
    · have htype' : u8Type = PCT_TIMER_RECONNECT := by simpa [Link.start, hji] using htype
      rw [hji]
      exact (hreconnect htype').1
    · have hused : l.Used j := (used_start.mp hj).resolve_left hji
      exact honly j hused (by simpa [Link.start, hji] using htype)

theorem Timed.fail (h : l.Timed) (hidle : ¬ l.Used i) : (l.fail i).Timed := by
  obtain ⟨hnodup, hzero, hslot, honly⟩ := h
  refine ⟨hnodup, hzero, fun x hx => ?_, honly⟩
  obtain ⟨j, hj, hused⟩ := hslot x hx
  have hji : j ≠ i := by
    rintro rfl
    exact hidle hused
  refine ⟨j, ?_, hused⟩
  obtain ⟨hfound, hbefore⟩ := timerId_eq_some.mp hj
  refine timerId_eq_some.mpr ⟨?_, fun k hk => ?_⟩
  · simpa [Link.fail, hji] using hfound
  · by_cases hki : k = i
    · have hx0 : 0 ≠ x := by
        rintro rfl
        exact hzero hx
      simpa [Link.fail, hki] using hx0
    · simpa [Link.fail, hki] using hbefore k hk

theorem Timed.ring (h : l.Timed) : (l.ring i).Timed := by
  have hsame : ∀ j, ((l.ring i).g_struHfTimer j).struHandle = (l.g_struHfTimer j).struHandle := by
    intro j
    by_cases hji : j = i
    · simp [Link.ring, hji]
    · simp [Link.ring, hji]
  obtain ⟨hnodup, hzero, hslot, honly⟩ := h
  refine ⟨hnodup, hzero, fun x hx => ?_, honly⟩
  obtain ⟨j, hj, hused⟩ := hslot x hx
  refine ⟨j, ?_, hused⟩
  rw [timerId_eq_some] at hj ⊢
  simpa only [hsame] using hj

/-- No timer is live once no slot is in use. -/
theorem Timed.live_nil (h : l.Timed) (hidle : ∀ j, ¬ l.Used j) : l.liveTimers = [] := by
  refine List.eq_nil_iff_forall_not_mem.mpr fun x hx => ?_
  obtain ⟨j, -, hused⟩ := h.slot x hx
  exact hidle j hused

theorem timed_of_idle (hlive : l.liveTimers = []) (hidle : ∀ j, ¬ l.Used j) : l.Timed :=
  ⟨by rw [hlive]; exact List.nodup_nil, by rw [hlive]; exact List.not_mem_nil,
    by rw [hlive]; exact fun _ hx => absurd hx List.not_mem_nil, fun j hj => absurd hj (hidle j)⟩

end Link

end ZCloud
