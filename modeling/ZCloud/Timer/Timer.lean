import ZCloud.Device

open Memory Program

namespace ZCloud

namespace Device

def setTimer (d : Device) (i : Fin ZC_TIMER_MAX_NUM) (timer : ZC_Timer) : Device :=
  { d with g_struTimer := fun j => if j = i then timer else d.g_struTimer j }

def setHfTimer (d : Device) (i : Fin ZC_TIMER_MAX_NUM) (info : HF_TimerInfo) : Device :=
  { d with g_struHfTimer := fun j => if j = i then info else d.g_struHfTimer j }

def withLiveTimers (d : Device) (live : List Nat) : Device := { d with liveTimers := live }

/-- The slot that a caller of `TIMER_StopTimer` names. -/
def timerIndex (d : Device) : TimerIndex → Option (Fin ZC_TIMER_MAX_NUM)
  | .handle h => d.g_struProtocolController.handle h
  | .slot i => some i

end Device

def TIMER_Init : Prog Device Unit :=
  modify fun d =>
    { d with g_struTimer := fun i => { d.g_struTimer i with u8Status := ZC_TIMER_STATUS_IDLE } }

def TIMER_FindIdleTimer (d : Device) : Option (Fin ZC_TIMER_MAX_NUM) :=
  (List.finRange ZC_TIMER_MAX_NUM).find? fun i => (d.g_struTimer i).u8Status = ZC_TIMER_STATUS_IDLE

def TIMER_AllocateTimer (u8Type : PCT_TIMER) (u8TimerIndex : Fin ZC_TIMER_MAX_NUM) : Prog Device Unit :=
  modify fun d => d.setTimer u8TimerIndex ⟨ZC_TIMER_STATUS_USED, u8Type⟩

/-- Deletes the timer of the operating system whose handle a slot holds. -/
def HF_StopTimer (u8TimerIndex : Fin ZC_TIMER_MAX_NUM) : Prog Device Unit :=
  modify fun d => d.withLiveTimers (d.liveTimers.erase (d.g_struHfTimer u8TimerIndex).struHandle)

/-- Stops the timer of a slot. `PCT_TIMER_INVAILD` is not the number of a slot. -/
def TIMER_StopTimer (u8TimerIndex : TimerIndex) : Prog Device Unit := do
  let d ← get
  match d.timerIndex u8TimerIndex with
  | none => throw .write
  | some i =>
    logEvent (.stopTimer u8TimerIndex i (d.g_struTimer i))
    modify fun d => d.setTimer i { d.g_struTimer i with u8Status := ZC_TIMER_STATUS_IDLE }
    HF_StopTimer i

/-- The first slot that holds the handle of a timer. -/
def HF_get_timer_id (d : Device) (handle : Nat) : Option (Fin ZC_TIMER_MAX_NUM) :=
  (List.finRange ZC_TIMER_MAX_NUM).find? fun i => (d.g_struHfTimer i).struHandle = handle

section

variable (env : Env)

/-- Starts a timer in the first idle slot and leaves the number of the slot in
the handle `pu8TimeIndex`. -/
def HF_SetTimer (u8Type : PCT_TIMER) (pu8TimeIndex : TimerHandle) : Prog Device ZC_RET := do
  let d ← get
  match TIMER_FindIdleTimer d with
  | none => return ZC_RET_ERROR
  | some u8TimerIndex =>
    match ← draw (env.newTimer d.liveTimers) with
    | none =>
      modify fun d => d.setHfTimer u8TimerIndex { d.g_struHfTimer u8TimerIndex with struHandle := 0 }
      return ZC_RET_ERROR
    | some handle =>
      TIMER_AllocateTimer u8Type u8TimerIndex
      modify fun d => (d.setHfTimer u8TimerIndex ⟨1, handle⟩).withLiveTimers (handle.val :: d.liveTimers)
      modifyController fun c => c.setHandle pu8TimeIndex (some u8TimerIndex)
      return ZC_RET_OK

end

/-- `view` shows nothing of the timers, and of the trace, the clock and the controller. -/
def Untimed {β : Type} (view : Device → β) : Prop :=
  ∀ (d : Device) c timer hfTimer live trace clock, view { d with
    g_struProtocolController := c, g_struTimer := timer, g_struHfTimer := hfTimer, liveTimers := live, trace := trace
    clock := clock } = view d

section

variable {β : Type} {view : Device → β}

theorem TIMER_StopTimer_keeps (hview : Untimed view) (u8TimerIndex : TimerIndex) :
    Keeps view (TIMER_StopTimer u8TimerIndex) := by
  refine moves_bind moves_get fun d => ?_
  cases d.timerIndex u8TimerIndex with
  | none => exact moves_throw _
  | some i =>
    exact moves_bind (moves_modify fun d => hview d _ _ _ _ _ _) fun _ =>
      moves_bind (moves_modify fun d => hview d _ _ _ _ _ _) fun _ => moves_modify fun d => hview d _ _ _ _ _ _

theorem HF_SetTimer_keeps (hview : Untimed view) (env : Env) (u8Type : PCT_TIMER) (pu8TimeIndex : TimerHandle) :
    Keeps view (HF_SetTimer env u8Type pu8TimeIndex) := by
  refine moves_bind moves_get fun d => ?_
  cases TIMER_FindIdleTimer d with
  | none => exact moves_pure _
  | some i =>
    refine moves_bind (fun d a d' h => ?_) fun timer => ?_
    · obtain ⟨-, rfl⟩ := run_draw_eq_ok.mp h
      exact hview d _ _ _ _ _ _
    · cases timer with
      | none => exact moves_bind (moves_modify fun d => hview d _ _ _ _ _ _) fun _ => moves_pure _
      | some timer =>
        exact moves_bind (moves_modify fun d => hview d _ _ _ _ _ _) fun _ =>
          moves_bind (moves_modify fun d => hview d _ _ _ _ _ _) fun _ =>
            moves_bind (moves_modify fun d => hview d _ _ _ _ _ _) fun _ => moves_pure _

end

/-- Stops the timer of a handle, if it has one. -/
def stopHandle (h : TimerHandle) : Prog Device Unit := do
  if ((← getController).handle h).isSome then
    TIMER_StopTimer (.handle h)

/-- The loop that stops every timer in use. -/
def stopAllTimers : List (Fin ZC_TIMER_MAX_NUM) → Prog Device Unit
  | [] => return
  | i :: rest => do
    let d ← get
    if (d.g_struTimer i).u8Status = ZC_TIMER_STATUS_USED then
      TIMER_StopTimer (.slot i)
    stopAllTimers rest

theorem stopAllTimers_keeps {β : Type} {view : Device → β} (hview : Untimed view) (slots : List (Fin ZC_TIMER_MAX_NUM)) :
    Keeps view (stopAllTimers slots) := by
  induction slots with
  | nil => exact moves_pure _
  | cons i rest ih =>
    refine moves_get_bind fun d r d' h => ?_
    split at h
    · exact moves_bind (TIMER_StopTimer_keeps hview _) (fun _ => ih) h
    · exact ih h

end ZCloud
