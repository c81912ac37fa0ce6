import ZCloud.Fwup.Session
import ZCloud.Fwup.WaitList

open Memory Program

namespace ZCloud

/-- What of the globals says whether a session is open. -/
def Fwup.access (s : Fwup) : Bool × Nat × Bool := (s.busy, s.current_session_id, s.current_state.BUSY)

theorem callFls_access {α : Type} (x : Prog Fls α) : Keeps Fwup.access (callFls x) := by
  intro s a t h
  obtain ⟨u, -, rfl⟩ := run_zoom_eq_ok.mp h
  rfl

theorem setError_access {f : TLS_FWUP_STATE → TLS_FWUP_STATE} (hf : ∀ state, (f state).BUSY = state.BUSY) :
    Keeps Fwup.access (setError f) :=
  moves_modify fun s => by rw [Fwup.access, Fwup.access, hf]

section

variable (env : FwupEnv)

theorem firstBlock_access (data : List UInt8) : Keeps Fwup.access (firstBlock env data) := by
  refine moves_bind (callFls_access _) fun r => ?_
  refine moves_ite (moves_bind (setError_access fun _ => rfl) fun _ => moves_pure _) ?_
  exact moves_bind (moves_lift _) fun _ => moves_bind (moves_lift _) fun _ =>
    moves_bind (moves_modify fun _ => rfl) fun _ => moves_pure _

theorem takeBlock_access (data : List UInt8) : Keeps Fwup.access (takeBlock env data) := by
  refine moves_bind (moves_lift _) fun number => ?_
  refine moves_ite (moves_bind (firstBlock_access env data) fun failed => ?_) (moves_bind (moves_pure _) fun failed => ?_)
  all_goals
    cases failed with
    | some status => exact moves_pure _
    | none =>
      exact moves_bind (moves_modify fun _ => rfl) fun _ => moves_bind (moves_lift _) fun _ =>
        moves_bind moves_get fun _ => moves_bind (moves_lift _) fun _ => moves_bind (moves_modify fun _ => rfl) fun _ =>
          moves_pure _

theorem headerReceived_access : Keeps Fwup.access (headerReceived env) := by
  refine moves_bind moves_get fun s => moves_bind (moves_modify fun _ => rfl) fun _ => ?_
  refine moves_ite (moves_bind (setError_access fun _ => rfl) fun _ => moves_pure _) ?_
  have hend : ∀ hdr : tls_fwup_image_hdr, Keeps Fwup.access (do
      modify fun s : Fwup => { s with updated_len := 0, total_len := hdr.file_len }
      return (none : Option TLS_FWUP_REQ_STATUS)) :=
    fun _ => moves_bind (moves_modify fun _ => rfl) fun _ => moves_pure _
  refine moves_ite (moves_bind (callFls_access _) fun r => ?_) ?_
  · refine moves_ite (moves_bind (setError_access fun _ => rfl) fun _ => moves_pure _) ?_
    exact moves_bind (moves_modify fun _ => rfl) fun _ => hend _
  · exact moves_bind (moves_modify fun _ => rfl) fun _ => hend _

theorem takeHeader_access (data : List UInt8) : Keeps Fwup.access (takeHeader env data) := by
  refine moves_bind moves_get fun s => moves_ite ?_ (moves_bind (moves_modify fun _ => rfl) fun _ => moves_pure _)
  refine moves_bind (moves_lift _) fun hdr => moves_bind (moves_modify fun _ => rfl) fun _ => moves_bind moves_get fun t => ?_
  refine moves_ite (moves_bind (headerReceived_access env) fun failed => ?_) (moves_bind (moves_pure _) fun failed => ?_)
  all_goals
    cases failed with
    | some status => exact moves_pure _
    | none => exact moves_bind (moves_modify fun _ => rfl) fun _ => moves_pure _

theorem verifyLoop_access (program_base fuel offset left : Nat) (buffer_t : Mem 1024) (crc8 : UInt8)
    (sum image_checksum : Nat) :
    Keeps Fwup.access (verifyLoop env program_base fuel offset left buffer_t crc8 sum image_checksum) := by
  induction fuel generalizing offset left buffer_t crc8 sum image_checksum with
  | zero => exact moves_pure _
  | succ fuel ih =>
    refine moves_ite (moves_pure _) (moves_bind (callFls_access _) fun r => ?_)
    refine moves_ite (moves_bind (setError_access fun _ => rfl) fun _ => moves_pure _) ?_
    exact moves_bind (moves_lift _) fun _ => ih _ _ _ _ _ _

theorem acceptImage_access (crc8 : UInt8) (image_checksum : Nat) : Keeps Fwup.access (acceptImage env crc8 image_checksum) := by
  refine moves_bind moves_get fun s => ?_
  refine moves_ite (moves_bind (setError_access fun _ => rfl) fun _ => moves_pure _) (moves_ite ?_ ?_)
  · refine moves_bind (moves_modify fun _ => rfl) fun _ => moves_bind (callFls_access _) fun err => ?_
    refine moves_ite (moves_bind (setError_access fun _ => rfl) fun _ => moves_pure _) ?_
    exact moves_bind (setError_access fun _ => rfl) fun _ => moves_pure _
  · exact moves_bind (setError_access fun _ => rfl) fun _ => moves_pure _

theorem verifyImage_access : Keeps Fwup.access (verifyImage env) := by
  refine moves_bind (callFls_access _) fun _ => moves_bind (callFls_access _) fun allocated => ?_
  refine moves_ite (moves_bind (setError_access fun _ => rfl) fun _ => moves_pure _) (moves_bind moves_get fun s => ?_)
  refine moves_bind (verifyLoop_access env _ _ _ _ _ _ _ _) fun r => ?_
  cases r with
  | error status => exact moves_pure _
  | ok r => exact acceptImage_access env _ _

theorem programImage_access (buffer : List UInt8) : Keeps Fwup.access (programImage env buffer) := by
  refine moves_ite (moves_bind moves_get fun s => moves_bind (callFls_access _) fun err => ?_) (moves_pure _)
  refine moves_ite (moves_bind (setError_access fun _ => rfl) fun _ => moves_pure _) ?_
  refine moves_bind (moves_modify fun _ => rfl) fun _ => moves_bind moves_get fun t => ?_
  exact moves_ite (verifyImage_access env) (moves_pure _)

/-- The handling of a request neither opens nor closes a session. -/
theorem handleRequest_access (data : List UInt8) : Keeps Fwup.access (handleRequest env data) := by
  refine moves_bind moves_get fun s => ?_
  cases s.current_state.ERROR with
  | some status => exact moves_pure _
  | none =>
    refine moves_ite (moves_pure _) ?_
    refine moves_ite (moves_bind (takeBlock_access env data) fun taken => ?_)
      (moves_bind (takeHeader_access env data) fun taken => ?_)
    all_goals
      cases taken with
      | error status => exact moves_pure _
      | ok buffer => exact programImage_access env buffer

/-- What keeps a request from being handed to the scheduler. -/
def refusal (s : Fwup) (session_id : Nat) (data : List UInt8) : Option TLS_FWUP_STATUS :=
  if !s.installed then some TLS_FWUP_STATUS_EPERM
  else if session_id ≠ s.current_session_id then some TLS_FWUP_STATUS_ESESSIONID
  else if data.length = 0 then some TLS_FWUP_STATUS_EINVALID
  else if !env.sem s.semaphores then some TLS_FWUP_STATUS_EMEM
  else none

theorem refusal_eq_none {session_id : Nat} {data : List UInt8} {s : Fwup} (h : refusal env s session_id data = none) :
    s.installed = true ∧ session_id = s.current_session_id ∧ data.length ≠ 0 ∧ env.sem s.semaphores = true := by
  unfold refusal at h
  split at h
  · cases h
  · split at h
    · cases h
    · split at h
      · cases h
      · split at h
        · cases h
        · simp_all

/-- `tls_fwup_request_sync` hands what is not refused to the scheduler. -/
theorem tls_fwup_request_sync_eq {session_id : Nat} {data : List UInt8} {s : Fwup}
    (h : refusal env s session_id data = none) :
    (tls_fwup_request_sync env session_id data).run s =
      ((fwup_scheduler env data).run { s with semaphores := s.semaphores + 1 }).map fun r => (r.1.result, r.2) := by
  obtain ⟨hinstalled, hsession, hdata, hsem⟩ := refusal_eq_none env h
  simp only [tls_fwup_request_sync, run_bind, run_get, ok_bind, hinstalled, hsession, hdata, hsem, Bool.not_true,
    Bool.false_eq_true, ne_eq, not_true_eq_false, ↓reduceIte, run_set]
  cases (fwup_scheduler env data).run { s with semaphores := s.semaphores + 1 } with
  | error e => rfl
  | ok r => rfl

end

/-- A request, with the session in which it was accepted; `number` tells it from others. -/
structure tls_fwup_request where
  number : Nat
  session_id : Nat
  data : List UInt8
deriving DecidableEq

/-- The firmware update, its list of requests, and `session`, the id that the last
successful `tls_fwup_enter` has returned. -/
structure Service where
  fwup : Fwup
  list : WaitList tls_fwup_request
  session : Nat

/-- The calls of the tasks that update the firmware, and the steps of the scheduler. -/
inductive ServiceInput where
  | enter (image_src : tls_fwup_image_src) (rand : { n : Nat // n ≠ 0 })
  | exit (session_id : Nat)
  | reset (session_id : Nat)
  | clear_error (session_id : Nat)
  | request (session_id : Nat) (data : List UInt8)
  | send
  | receive
  | handle
  | delete
  | complete
  | moveOn

namespace Service

/-- A call that has to do with the globals of the update alone. -/
def onFwup {α : Type} (x : Prog Fwup α) : Prog Service α := zoom Service.fwup (fun s fwup => { s with fwup := fwup }) x

def onList (input : ListInput tls_fwup_request) : Prog Service Unit :=
  modify fun s => { s with list := s.list.step input }

section

variable (env : FwupEnv)

/-- The part of `tls_fwup_request_sync` that comes before the wait: a request that is not
refused is put in the list. -/
def submitRequest (session_id : Nat) (data : List UInt8) : Prog Service Unit := do
  let s ← get
  match refusal env s.fwup session_id data with
  | none =>
    onFwup (modify fun fwup => { fwup with semaphores := fwup.semaphores + 1 })
    onList (.request ⟨s.list.accepted.length, session_id, data⟩)
  -- `tls_os_sem_create` has been called, without success
  | some TLS_FWUP_STATUS_EMEM => onFwup (modify fun fwup => { fwup with semaphores := fwup.semaphores + 1 })
  | some _ => return

/-- The scheduler takes a message: it is busy from here on, if there is a request. -/
def receiveMessage : Prog Service Unit := do
  if (← get).list.wait_list ≠ [] then
    onFwup (setError fun st => { st with BUSY := true })
  onList .receive

/-- The body of the loop, up to `request_finish`. -/
def handleItem : Prog Service Unit := do
  match (← get).list.scheduler with
  | .visiting item _ =>
    let _ ← onFwup (handleRequest env item.data)
    onList .finish
  | _ => return

/-- What follows the deletion of a request. -/
def completeItem : Prog Service Unit := do
  if (← get).list.wait_list = [] then
    onFwup (setError fun st => { st with BUSY := false })
  onList .complete
  let s ← get
  if s.fwup.updated_len ≥ s.fwup.total_len then
    onFwup tls_sys_reset

def handle : ServiceInput → Prog Service Unit
  | .enter image_src rand => do
    let session_id ← onFwup (tls_fwup_enter env image_src rand)
    if session_id ≠ 0 then
      modify fun s => { s with session := session_id }
  | .exit session_id => do
    let _ ← onFwup (tls_fwup_exit session_id)
  | .reset session_id => do
    let _ ← onFwup (tls_fwup_reset session_id)
  | .clear_error session_id => do
    let _ ← onFwup (tls_fwup_clear_error session_id)
  | .request session_id data => submitRequest env session_id data
  | .send => onList .send
  | .receive => receiveMessage
  | .handle => handleItem env
  | .delete => onList .delete
  | .complete => completeItem
  | .moveOn => onList .moveOn

/-- Whether a step can be taken. -/
def enabled (s : Service) : ServiceInput → Prop
  | .send => s.list.enabled .send
  | .receive => s.list.enabled .receive
  | .handle => s.list.enabled .finish
  | .delete => s.list.enabled .delete
  | .complete => s.list.enabled .complete
  | .moveOn => s.list.enabled .moveOn
  | _ => True

/-- Once the update has been installed, and before the first session. -/
structure Installed (s : Service) : Prop where
  installed : s.fwup.installed = true
  busy : s.fwup.busy = false
  current_session_id : s.fwup.current_session_id = 0
  list : s.list = WaitList.init

/-- No data is given with the id `0` while no session is open, and the session is not
closed while a request waits that the scheduler has not begun with. -/
def guarded (s : Service) : ServiceInput → Prop
  | .request session_id data => session_id = 0 → data ≠ [] → s.fwup.busy = true
  | .exit session_id =>
    session_id = s.fwup.current_session_id → s.list.wait_list = [] ∨ s.fwup.current_state.BUSY = true
  | _ => True

/-- A session is open exactly while there is an id, and what is accepted or handled
belongs to the open session. -/
structure Guards (allowed : Service → ServiceInput → Prop) (s : Service) : Prop where
  busy_iff : s.fwup.busy = true ↔ s.fwup.current_session_id ≠ 0
  accepts : ∀ session_id data s', allowed s (.request session_id data) →
    (handle env (.request session_id data)).run s = .ok ((), s') → s'.list.accepted ≠ s.list.accepted →
      s.fwup.busy = true ∧ session_id = s.session
  handles : ∀ item next, s.list.scheduler = .visiting item next → s.fwup.busy = true ∧ item.session_id = s.session

end

end Service

namespace WaitList

variable {ρ : Type}

/-- The request in hand, while it is still in the list. -/
def hand (s : WaitList ρ) : Option ρ :=
  match s.scheduler with
  | .visiting item _ | .finishing item _ => some item
  | _ => none

/-- The request that the loop goes on with. -/
def ahead (s : WaitList ρ) : Option ρ :=
  match s.scheduler with
  | .receiving => none
  | .visiting _ next | .finishing _ next | .deleted _ next | .moving next => next

/-- The requests that the scheduler points to are in the list, and not the same. -/
structure Points (s : WaitList ρ) : Prop where
  hand_mem : ∀ item, s.hand = some item → item ∈ s.wait_list
  ahead_mem : ∀ item, s.ahead = some item → item ∈ s.wait_list ∧ s.hand ≠ some item

theorem Points.of_nil {s : WaitList ρ} (h : s.Points) (hlist : s.wait_list = []) : s.hand = none ∧ s.ahead = none := by
  refine ⟨?_, ?_⟩
  · rw [Option.eq_none_iff_forall_not_mem]
    intro item hitem
    exact absurd (h.hand_mem item hitem) (hlist ▸ List.not_mem_nil)
  · rw [Option.eq_none_iff_forall_not_mem]
    intro item hitem
    exact absurd (h.ahead_mem item hitem).1 (hlist ▸ List.not_mem_nil)

variable [DecidableEq ρ] {s : WaitList ρ}

theorem Points.request (h : s.Points) (request : ρ) : (s.step (.request request)).Points :=
  ⟨fun item hitem => List.mem_append_left _ (h.hand_mem item hitem),
    fun item hitem => ⟨List.mem_append_left _ (h.ahead_mem item hitem).1, (h.ahead_mem item hitem).2⟩⟩

theorem Points.receive (hnodup : s.wait_list.Nodup) : (s.step .receive).Points := by
  have hsched : (s.step .receive).scheduler = begin s.wait_list := rfl
  have hsame : (s.step .receive).wait_list = s.wait_list := rfl
  rcases hlist : s.wait_list with _ | ⟨item, rest⟩
  · rw [hlist] at hsched
    exact ⟨fun item hitem => by simp [hand, hsched, begin] at hitem, fun item hitem => by simp [ahead, hsched, begin] at hitem⟩
  · rw [hlist] at hsched hnodup hsame
    refine ⟨fun item' hitem => ?_, fun item' hitem => ?_⟩
    · simp only [hand, hsched, begin, Option.some.injEq] at hitem
      rw [hsame, hitem]
      exact List.mem_cons_self
    · simp only [ahead, hsched, begin] at hitem
      have hmem := List.mem_of_head? hitem
      rw [hsame]
      refine ⟨List.mem_cons_of_mem _ hmem, fun hhand => ?_⟩
      simp only [hand, hsched, begin, Option.some.injEq] at hhand
      rw [hhand] at hnodup
      exact (List.nodup_cons.mp hnodup).1 hmem

theorem Points.delete {item : ρ} {next : Option ρ} (h : s.Points) (hat : s.scheduler = .finishing item next) :
    (s.step .delete).Points ∧ (s.step .delete).ahead = s.ahead ∧ (s.step .delete).hand = none := by
  have hhand : s.hand = some item := by rw [hand, hat]
  have hahead : s.ahead = next := by rw [ahead, hat]
  rw [step_delete hat]
  refine ⟨⟨nofun, fun item' hitem => ?_⟩, hahead.symm, rfl⟩
  obtain ⟨hmem, hne⟩ := h.ahead_mem item' (hahead.trans hitem)
  refine ⟨(List.mem_erase_of_ne ?_).mpr hmem, nofun⟩
  rintro rfl
  exact hne hhand

theorem Points.moveOn {next : Option ρ} (h : s.Points) (hnodup : s.wait_list.Nodup) (hat : s.scheduler = .moving next) :
    (s.step .moveOn).Points ∧ ((s.step .moveOn).hand = none ∧ (s.step .moveOn).ahead = none ∨ s.ahead ≠ none) := by
  have hahead : s.ahead = next := by rw [ahead, hat]
  rw [step_moveOn hat]
  cases next with
  | none => exact ⟨⟨nofun, nofun⟩, .inl ⟨rfl, rfl⟩⟩
  | some item =>
    have hmem := (h.ahead_mem item hahead).1
    refine ⟨⟨fun item' hitem => ?_, fun item' hitem => ?_⟩, .inr (by rw [hahead]; exact nofun)⟩
    · obtain rfl : item = item' := Option.some.inj hitem
      exact hmem
    · change s.wait_list[s.wait_list.idxOf item + 1]? = some item' at hitem
      refine ⟨List.mem_of_getElem? hitem, fun hhand => ?_⟩
      obtain rfl : item = item' := Option.some.inj hhand
      have hfirst : s.wait_list[s.wait_list.idxOf item]? = some item := by
        rw [List.getElem?_eq_getElem (List.idxOf_lt_length_of_mem hmem), List.getElem_idxOf]
      have hsame := (List.getElem?_inj (List.idxOf_lt_length_of_mem hmem) hnodup).mp (hfirst.trans hitem.symm)
      omega

end WaitList

section

variable (env : FwupEnv) {s t : Fwup} {session_id : Nat} {status : TLS_FWUP_STATUS}

theorem tls_fwup_exit_eq (session_id : Nat) :
    tls_fwup_exit session_id = changeSession session_id fun s =>
      { s with
        current_hdr := Mem.fill sizeof_tls_fwup_image_hdr 0
        current_state := TLS_FWUP_STATE.none
        received_len := 0
        total_len := 0
        updated_len := 0
        program_base := 0
        program_offset := 0
        current_session_id := 0
        busy := false } := rfl

/-- Only an open session that is not at work is changed. -/
theorem changeSession_spec {change : Fwup → Fwup} (h : (changeSession session_id change).run s = .ok (status, t)) :
    t = s ∨ (s.busy = true ∧ session_id = s.current_session_id ∧ s.current_state.BUSY = false ∧ t = change s) := by
  simp only [changeSession, run_bind, run_get, ok_bind] at h
  split at h
  · exact .inl (run_pure_eq_ok.mp h).2
  · rename_i hopen
    split at h
    · exact .inl (run_pure_eq_ok.mp h).2
    · rename_i hid
      split at h
      · exact .inl (run_pure_eq_ok.mp h).2
      · rename_i hbusy
        obtain ⟨_, u, hset, hpure⟩ := run_bind_eq_ok.mp h
        obtain ⟨-, rfl⟩ := run_pure_eq_ok.mp hpure
        exact .inr ⟨by simp_all, not_not.mp hid, by simpa using hbusy, run_set_eq_ok.mp hset⟩

theorem tls_fwup_enter_spec {image_src : tls_fwup_image_src} {rand : { n : Nat // n ≠ 0 }} {id : Nat}
    (h : (tls_fwup_enter env image_src rand).run s = .ok (id, t)) :
    (id = 0 ∧ t = s) ∨ (s.busy = false ∧ id = rand ∧ t.access = (true, rand.val, false)) := by
  simp only [tls_fwup_enter, run_bind, run_get, ok_bind] at h
  split at h
  · exact .inl (run_pure_eq_ok.mp h)
  · rename_i hopen
    obtain ⟨_, u, hset, hrest⟩ := run_bind_eq_ok.mp h
    obtain ⟨_, v, hinit, hpure⟩ := run_bind_eq_ok.mp hrest
    obtain ⟨rfl, rfl⟩ := run_pure_eq_ok.mp hpure
    obtain rfl := run_set_eq_ok.mp hset
    exact .inr ⟨by simp_all, rfl, callFls_access _ hinit⟩

end

namespace Service

/-- The invariant of the service. -/
structure Sound (s : Service) : Prop where
  busy_iff : s.fwup.busy = true ↔ s.fwup.current_session_id ≠ 0
  session : s.fwup.busy = true → s.fwup.current_session_id = s.session
  listed : ∀ request ∈ s.list.wait_list, s.fwup.busy = true ∧ request.session_id = s.fwup.current_session_id
  numbers : ∀ request ∈ s.list.wait_list, request.number < s.list.accepted.length
  nodup : s.list.wait_list.Nodup
  points : s.list.Points
  working : (s.list.hand ≠ none ∨ s.list.ahead ≠ none) → s.fwup.current_state.BUSY = true

variable {s t : Service}

/-- The scheduler points to nothing in an empty list. -/
theorem Sound.idle (h : s.Sound) (hlist : s.list.wait_list = []) : ¬ (s.list.hand ≠ none ∨ s.list.ahead ≠ none) := by
  obtain ⟨hhand, hahead⟩ := h.points.of_nil hlist
  simp [hhand, hahead]

theorem Installed.sound (h : s.Installed) : s.Sound := by
  obtain ⟨-, hbusy, hid, hlist⟩ := h
  have hidle : s.list.hand = none ∧ s.list.ahead = none := by rw [hlist]; exact ⟨rfl, rfl⟩
  have hnil : s.list.wait_list = [] := by rw [hlist]; rfl
  refine ⟨by simp [hbusy, hid], by simp [hbusy], by simp [hnil], by simp [hnil], by simp [hnil], ⟨?_, ?_⟩, ?_⟩
  · simp [hidle.1]
  · simp [hidle.2]
  · simp [hidle]

/-- A step that leaves the list alone and the session as it is. -/
theorem Sound.of_access (h : s.Sound) (haccess : t.fwup.access = s.fwup.access) (hlist : t.list = s.list)
    (hsession : t.session = s.session) : t.Sound := by
  obtain ⟨hbusy, hid, hstate⟩ : t.fwup.busy = s.fwup.busy ∧ t.fwup.current_session_id = s.fwup.current_session_id ∧
      t.fwup.current_state.BUSY = s.fwup.current_state.BUSY := by simpa [Fwup.access] using haccess
  obtain ⟨hiff, hown, hlisted, hnumbers, hnodup, hpoints, hworking⟩ := h
  constructor
  · rwa [hbusy, hid]
  · rwa [hbusy, hid, hsession]
  · rwa [hbusy, hid, hlist]
  · rwa [hlist]
  · rwa [hlist]
  · rwa [hlist]
  · rwa [hlist, hstate]

/-- A call that leaves the session open, or closed, as it is. -/
theorem Sound.onFwup {α : Type} {x : Prog Fwup α} {a : α} (h : s.Sound) (hx : Keeps Fwup.access x)
    (hrun : (Service.onFwup x).run s = .ok (a, t)) : t.Sound ∧ t.list = s.list := by
  obtain ⟨fwup, hfwup, rfl⟩ := run_zoom_eq_ok.mp hrun
  exact ⟨h.of_access (hx hfwup) rfl rfl, rfl⟩

/-- A call that changes the open session while the list is empty or nothing is at work. -/
theorem Sound.change {change : Fwup → Fwup} {session_id : Nat} {status : TLS_FWUP_STATUS} (h : s.Sound)
    (hchange : session_id = s.fwup.current_session_id → s.fwup.current_state.BUSY = false →
      { s with fwup := change s.fwup }.Sound)
    (hrun : (Service.onFwup (changeSession session_id change)).run s = .ok (status, t)) : t.Sound := by
  obtain ⟨fwup, hfwup, rfl⟩ := run_zoom_eq_ok.mp hrun
  obtain rfl | ⟨-, hid, hstate, rfl⟩ := changeSession_spec hfwup
  · exact h
  · exact hchange hid hstate

section

variable {env : FwupEnv}

theorem Sound.enter {image_src : tls_fwup_image_src} {rand : { n : Nat // n ≠ 0 }} (h : s.Sound)
    (hrun : (Service.handle env (.enter image_src rand)).run s = .ok ((), t)) : t.Sound := by
  obtain ⟨id, u, henter, hrest⟩ := run_bind_eq_ok.mp hrun
  obtain ⟨fwup, hfwup, rfl⟩ := run_zoom_eq_ok.mp henter
  obtain ⟨rfl, rfl⟩ | ⟨hidle, rfl, haccess⟩ := tls_fwup_enter_spec env hfwup
  · obtain ⟨-, rfl⟩ := run_pure_eq_ok.mp hrest
    exact h
  · obtain ⟨hbusy, hid, -⟩ : fwup.busy = true ∧ fwup.current_session_id = rand ∧ fwup.current_state.BUSY = false := by
      simpa [Fwup.access] using haccess
    have hnil : s.list.wait_list = [] := by
      rw [List.eq_nil_iff_forall_not_mem]
      intro request hmem
      rw [(h.listed request hmem).1] at hidle
      cases hidle
    rw [if_pos rand.2] at hrest
    obtain rfl := run_modify_eq_ok.mp hrest
    refine ⟨by simp [hbusy, hid, rand.2], fun _ => hid, by simp [hnil], by simp [hnil], h.nodup, h.points, fun hworks => ?_⟩
    exact absurd hworks (h.idle hnil)

theorem Sound.exit {session_id : Nat} (h : s.Sound) (hguard : s.guarded (.exit session_id))
    (hrun : (Service.handle env (.exit session_id)).run s = .ok ((), t)) : t.Sound := by
  obtain ⟨status, u, hexit, hpure⟩ := run_bind_eq_ok.mp hrun
  obtain ⟨-, rfl⟩ := run_pure_eq_ok.mp hpure
  rw [tls_fwup_exit_eq] at hexit
  refine h.change (fun hid hstate => ?_) hexit
  have hnil : s.list.wait_list = [] := (hguard hid).resolve_right (by simp [hstate])
  refine ⟨by simp, nofun, by simp [hnil], by simp [hnil], h.nodup, h.points, fun hworks => ?_⟩
  exact absurd hworks (h.idle hnil)

theorem Sound.reset {session_id : Nat} (h : s.Sound)
    (hrun : (Service.handle env (.reset session_id)).run s = .ok ((), t)) : t.Sound := by
  obtain ⟨status, u, hreset, hpure⟩ := run_bind_eq_ok.mp hrun
  obtain ⟨-, rfl⟩ := run_pure_eq_ok.mp hpure
  refine h.change (fun _ hstate => ?_) hreset
  refine ⟨h.busy_iff, h.session, h.listed, h.numbers, h.nodup, h.points, fun hworks => ?_⟩
  exact absurd (h.working hworks) (by simp [hstate])

theorem Sound.clear_error {session_id : Nat} (h : s.Sound)
    (hrun : (Service.handle env (.clear_error session_id)).run s = .ok ((), t)) : t.Sound := by
  obtain ⟨status, u, hclear, hpure⟩ := run_bind_eq_ok.mp hrun
  obtain ⟨-, rfl⟩ := run_pure_eq_ok.mp hpure
  exact h.change (fun _ _ => h.of_access rfl rfl rfl) hclear

/-- What is refused leaves the list and the session alone, what is not is put in the list of the
open session. -/
theorem submitRequest_spec {session_id : Nat} {data : List UInt8}
    (hrun : (submitRequest env session_id data).run s = .ok ((), t)) :
    (∃ n, t = { s with fwup := { s.fwup with semaphores := n } }) ∨
      session_id = s.fwup.current_session_id ∧ data ≠ [] ∧
        t = { s with
          fwup := { s.fwup with semaphores := s.fwup.semaphores + 1 }
          list := s.list.step (.request ⟨s.list.accepted.length, session_id, data⟩) } := by
  simp only [submitRequest, run_bind, run_get, ok_bind] at hrun
  split at hrun
  · rename_i haccepted
    obtain ⟨-, hid, hdata, -⟩ := refusal_eq_none env haccepted
    obtain ⟨_, u, hsem, hrest⟩ := run_bind_eq_ok.mp hrun
    obtain ⟨fwup, hfwup, rfl⟩ := run_zoom_eq_ok.mp hsem
    obtain rfl := run_modify_eq_ok.mp hfwup
    exact .inr ⟨hid, fun hnil => hdata (List.length_eq_zero_iff.mpr hnil), run_modify_eq_ok.mp hrest⟩
  · obtain ⟨fwup, hfwup, rfl⟩ := run_zoom_eq_ok.mp hrun
    exact .inl ⟨_, by rw [run_modify_eq_ok.mp hfwup]⟩
  · exact .inl ⟨s.fwup.semaphores, (run_pure_eq_ok.mp hrun).2⟩

theorem Sound.request {session_id : Nat} {data : List UInt8} (h : s.Sound)
    (hguard : s.guarded (.request session_id data))
    (hrun : (Service.handle env (.request session_id data)).run s = .ok ((), t)) :
    t.Sound ∧ (t.list.accepted ≠ s.list.accepted → s.fwup.busy = true ∧ session_id = s.session) := by
  obtain ⟨n, rfl⟩ | ⟨hid, hdata, rfl⟩ := submitRequest_spec hrun
  · exact ⟨⟨h.busy_iff, h.session, h.listed, h.numbers, h.nodup, h.points, h.working⟩, fun hne => absurd rfl hne⟩
  · have hbusy : s.fwup.busy = true := by
      by_cases hzero : session_id = 0
      · exact hguard hzero hdata
      · exact h.busy_iff.mpr (hid ▸ hzero)
    refine ⟨⟨h.busy_iff, h.session, fun request hmem => ?_, fun request hmem => ?_, ?_, h.points.request _, h.working⟩,
      fun _ => ⟨hbusy, hid.trans (h.session hbusy)⟩⟩
    · obtain hmem | hmem := List.mem_append.mp hmem
      · exact h.listed request hmem
      · obtain rfl := List.mem_singleton.mp hmem
        exact ⟨hbusy, hid⟩
    · show request.number < (s.list.accepted ++ [_]).length
      rw [List.length_append, List.length_singleton]
      obtain hmem | hmem := List.mem_append.mp hmem
      · exact Nat.lt_succ_of_lt (h.numbers request hmem)
      · obtain rfl := List.mem_singleton.mp hmem
        exact Nat.lt_succ_self _
    · refine List.nodup_append.mpr ⟨h.nodup, List.nodup_singleton _, fun request hmem request' hmem' hsame => ?_⟩
      obtain rfl := List.mem_singleton.mp hmem'
      have hlt := h.numbers request hmem
      rw [hsame] at hlt
      exact absurd hlt (Nat.lt_irrefl _)

theorem Sound.receive (h : s.Sound) (hrun : receiveMessage.run s = .ok ((), t)) : t.Sound := by
  have hlist : (s.list.step .receive).wait_list = s.list.wait_list := rfl
  have hpoints := WaitList.Points.receive (s := s.list) h.nodup
  simp only [receiveMessage, run_bind, run_get, ok_bind] at hrun
  split at hrun
  · obtain ⟨_, u, hset, hrest⟩ := run_bind_eq_ok.mp hrun
    obtain ⟨fwup, hfwup, rfl⟩ := run_zoom_eq_ok.mp hset
    obtain rfl := run_modify_eq_ok.mp hfwup
    obtain rfl := run_modify_eq_ok.mp hrest
    exact ⟨h.busy_iff, h.session, h.listed, h.numbers, h.nodup, hpoints, fun _ => rfl⟩
  · rename_i hnil
    obtain rfl := run_modify_eq_ok.mp hrun
    have hnil := not_not.mp hnil
    obtain ⟨hhand, hahead⟩ := hpoints.of_nil (hlist.trans hnil)
    refine ⟨h.busy_iff, h.session, h.listed, h.numbers, h.nodup, hpoints, fun hworks => ?_⟩
    simp [hhand, hahead] at hworks

/-- A step of the list that leaves the requests in it, and those accepted, as they are. -/
theorem Sound.onList {list : WaitList tls_fwup_request} (h : s.Sound) (hlist : list.wait_list = s.list.wait_list)
    (haccepted : list.accepted = s.list.accepted) (hhand : list.hand = s.list.hand)
    (hahead : list.ahead = s.list.ahead) : { s with list := list }.Sound := by
  obtain ⟨hiff, hown, hlisted, hnumbers, hnodup, ⟨hhands, haheads⟩, hworking⟩ := h
  refine ⟨hiff, hown, ?_, ?_, ?_, ⟨?_, ?_⟩, ?_⟩
  · rwa [hlist]
  · rwa [hlist, haccepted]
  · rwa [hlist]
  · rwa [hlist, hhand]
  · rwa [hlist, hhand, hahead]
  · rwa [hhand, hahead]

theorem Sound.handleItem (h : s.Sound) (hrun : (Service.handleItem env).run s = .ok ((), t)) : t.Sound := by
  simp only [Service.handleItem, run_bind, run_get, ok_bind] at hrun
  split at hrun
  · rename_i item next hat
    obtain ⟨_, u, hhandle, hfinish⟩ := run_bind_eq_ok.mp hrun
    obtain ⟨hu, hlist⟩ := h.onFwup (handleRequest_access env item.data) hhandle
    rw [← hlist] at hat
    obtain rfl := run_modify_eq_ok.mp hfinish
    rw [WaitList.step_finish hat]
    refine hu.onList rfl rfl ?_ ?_
    · rw [WaitList.hand, WaitList.hand, hat]
    · rw [WaitList.ahead, WaitList.ahead, hat]
  · obtain ⟨-, rfl⟩ := run_pure_eq_ok.mp hrun
    exact h

theorem Sound.delete (h : s.Sound) (henabled : s.enabled .delete) : { s with list := s.list.step .delete }.Sound := by
  obtain ⟨item, next, hat⟩ := henabled
  obtain ⟨hpoints, hahead, hhand⟩ := h.points.delete hat
  have hlist : (s.list.step .delete).wait_list = s.list.wait_list.erase item := by rw [WaitList.step_delete hat]
  have haccepted : (s.list.step .delete).accepted = s.list.accepted := by rw [WaitList.step_delete hat]
  refine ⟨h.busy_iff, h.session, fun request hmem => ?_, fun request hmem => ?_, ?_, hpoints, fun hworks => ?_⟩
  · rw [hlist] at hmem
    exact h.listed request (List.mem_of_mem_erase hmem)
  · rw [hlist] at hmem
    rw [haccepted]
    exact h.numbers request (List.mem_of_mem_erase hmem)
  · rw [hlist]
    exact h.nodup.erase item
  · refine h.working (.inr ?_)
    rw [← hahead]
    exact hworks.resolve_left (by simp [hhand])

theorem Sound.moveOn (h : s.Sound) (henabled : s.enabled .moveOn) : { s with list := s.list.step .moveOn }.Sound := by
  obtain ⟨next, hat⟩ := henabled
  obtain ⟨hpoints, hnext⟩ := h.points.moveOn h.nodup hat
  have hlist : (s.list.step .moveOn).wait_list = s.list.wait_list := by rw [WaitList.step_moveOn hat]
  have haccepted : (s.list.step .moveOn).accepted = s.list.accepted := by rw [WaitList.step_moveOn hat]
  refine ⟨h.busy_iff, h.session, ?_, ?_, ?_, hpoints, fun hworks => ?_⟩
  · rw [hlist]
    exact h.listed
  · rw [hlist, haccepted]
    exact h.numbers
  · rw [hlist]
    exact h.nodup
  · obtain ⟨hhand, hahead⟩ | hahead := hnext
    · simp [hhand, hahead] at hworks
    · exact h.working (.inr hahead)

/-- The last request deleted leaves the scheduler nothing to go on with. -/
theorem Sound.completed (h : s.Sound) (henabled : s.enabled .complete) :
    { s with list := s.list.step .complete }.Sound := by
  obtain ⟨item, next, hat⟩ := henabled
  rw [WaitList.step_complete hat]
  refine h.onList rfl rfl ?_ ?_
  · rw [WaitList.hand, WaitList.hand, hat]
  · rw [WaitList.ahead, WaitList.ahead, hat]

theorem Sound.complete (h : s.Sound) (henabled : s.enabled .complete) (hrun : completeItem.run s = .ok ((), t)) :
    t.Sound := by
  have hkeeps : Keeps Fwup.access tls_sys_reset := moves_modify fun _ => rfl
  have hreset : ∀ {u : Service}, (do
      Service.onList .complete
      let s ← get
      if s.fwup.updated_len ≥ s.fwup.total_len then
        Service.onFwup tls_sys_reset : Prog Service Unit).run u = .ok ((), t) → u.enabled .complete → u.Sound → t.Sound := by
    intro u hrun henabled hu
    obtain ⟨_, v, hcomplete, hrest⟩ := run_bind_eq_ok.mp hrun
    obtain rfl := run_modify_eq_ok.mp hcomplete
    have hv := hu.completed henabled
    rw [run_get_bind] at hrest
    split at hrest
    · exact (hv.onFwup hkeeps hrest).1
    · obtain ⟨-, rfl⟩ := run_pure_eq_ok.mp hrest
      exact hv
  rw [completeItem, run_get_bind] at hrun
  split at hrun
  · rename_i hnil
    obtain ⟨_, u, hset, hrest⟩ := run_bind_eq_ok.mp hrun
    obtain ⟨fwup, hfwup, rfl⟩ := run_zoom_eq_ok.mp hset
    obtain rfl := run_modify_eq_ok.mp hfwup
    refine hreset hrest henabled ⟨h.busy_iff, h.session, h.listed, h.numbers, h.nodup, h.points, fun hworks => ?_⟩
    exact absurd hworks (h.idle hnil)
  · exact hreset hrun henabled h

theorem Sound.step {input : ServiceInput} (h : s.Sound) (henabled : s.enabled input) (hguard : s.guarded input)
    (hrun : (Service.handle env input).run s = .ok ((), t)) : t.Sound := by
  cases input with
  | enter image_src rand => exact h.enter hrun
  | exit session_id => exact h.exit hguard hrun
  | reset session_id => exact h.reset hrun
  | clear_error session_id => exact h.clear_error hrun
  | request session_id data => exact (h.request hguard hrun).1
  | send =>
    obtain rfl := run_modify_eq_ok.mp hrun
    exact h.onList rfl rfl rfl rfl
  | receive => exact h.receive hrun
  | handle => exact h.handleItem hrun
  | delete =>
    obtain rfl := run_modify_eq_ok.mp hrun
    exact h.delete henabled
  | complete => exact h.complete henabled hrun
  | moveOn =>
    obtain rfl := run_modify_eq_ok.mp hrun
    exact h.moveOn henabled

/-- What is handled is in the list of the open session. -/
theorem Sound.keeps_guard {allowed : Service → ServiceInput → Prop} (h : s.Sound)
    (hallowed : ∀ input, allowed s input → s.guarded input) : s.Guards env allowed := by
  refine ⟨h.busy_iff, fun session_id data s' hinput hrun haccepted => ?_, fun item next hat => ?_⟩
  · exact (h.request (hallowed _ hinput) hrun).2 haccepted
  · obtain ⟨hbusy, hid⟩ := h.listed item (h.points.hand_mem item (by rw [WaitList.hand, hat]))
    exact ⟨hbusy, hid.trans (h.session hbusy)⟩

end

section

variable {s₀ : Service}

/-- In every interleaving in which no data is given with the id `0` while no session is open,
and no session is closed while a request waits that the scheduler has not begun with, only
the open session is served. -/
theorem guards {env : FwupEnv} (hinstalled : s₀.Installed)
    (h : Runs (handle env) (fun s input => s.enabled input ∧ s.guarded input) s₀ s) :
    s.Guards env fun s input => s.enabled input ∧ s.guarded input :=
  (h.invariant hinstalled.sound fun _ _ _ ht hallowed hrun => ht.step hallowed.1 hallowed.2 hrun).keeps_guard
    fun _ hinput => hinput.2

/-- The machine with a blank flash, before the first session. -/
def blank : Service := ⟨blankFwup, .init, 0⟩

theorem blank_installed : blank.Installed := ⟨rfl, rfl, rfl, rfl⟩

/-- A session is opened, and a request is made in it. -/
theorem guards_request : ∃ s : Service, s.list.wait_list = [⟨0, 1, [7]⟩] ∧
    s.Guards blankEnv fun s input => s.enabled input ∧ s.guarded input := by
  obtain ⟨s₁, henter, hid⟩ : ∃ s₁, (handle blankEnv (.enter TLS_FWUP_IMAGE_SRC_WEB ⟨1, by decide⟩)).run blank =
      .ok ((), s₁) ∧ s₁.fwup.current_session_id = 1 ∧ s₁.fwup.installed = true ∧ s₁.list = .init := ⟨_, rfl, rfl, rfl, rfl⟩
  obtain ⟨s₂, hrequest, hlist⟩ : ∃ s₂, (handle blankEnv (.request 1 [7])).run s₁ = .ok ((), s₂) ∧
      s₂.list.wait_list = [⟨0, 1, [7]⟩] := by
    obtain ⟨hid, hinstalled, hlist⟩ := hid
    have haccepted : refusal blankEnv s₁.fwup 1 [7] = none := by simp [refusal, hid, hinstalled, blankEnv]
    simp only [handle, submitRequest, run_bind, run_get, ok_bind, haccepted]
    refine ⟨_, rfl, ?_⟩
    show (s₁.list.step (.request ⟨s₁.list.accepted.length, 1, [7]⟩)).wait_list = _
    rw [hlist]
    rfl
  refine ⟨s₂, hlist, guards blank_installed (.step (.step .refl (by exact ⟨trivial, trivial⟩) henter) ?_ hrequest)⟩
  exact ⟨trivial, fun hzero => absurd hzero (by decide)⟩

/-- Before the first session, the id that `tls_fwup_enter` returns when it fails is accepted. -/
theorem request_without_session : ¬ ∀ s : Service, Runs (handle blankEnv) (fun s input => s.enabled input) blank s →
    s.Guards blankEnv fun s input => s.enabled input := by
  intro h
  have haccepts := (h blank .refl).accepts 0 [1] _ trivial rfl (by decide)
  exact absurd haccepts.1 (by decide)

end

end Service

end ZCloud
