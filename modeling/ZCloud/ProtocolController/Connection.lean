import ZCloud.ProtocolController.Notified

open Memory Program

namespace ZCloud

def Event.nonce? : Event → Option (List UInt8)
  | .connected RandMsg => some RandMsg
  | _ => none

def Event.sent? : Event → Option (List UInt8)
  | .sent frame => some frame
  | _ => none

/-- The nonce of the last connection. -/
def lastNonce (trace : List Event) : Option (List UInt8) := trace.findSome? Event.nonce?

/-- What has been done since the last connection was opened, the last first. -/
def sinceConnected (trace : List Event) : List Event := trace.takeWhile fun e => e.nonce?.isNone

/-- The frames that are sent in the course of `es`, the oldest first. -/
def sentIn (es : List Event) : List (List UInt8) := es.reverse.filterMap Event.sent?

/-- The frames sent since the last connection was opened are the first of those queued
since then, and the very first is that of a message 1 with the nonce of the connection. -/
def FreshConnection (trace : List Event) : Prop :=
  ∀ RandMsg, lastNonce trace = some RandMsg →
    sentIn (sinceConnected trace) <+: (queuedIn (sinceConnected trace)).map Prod.snd ∧
      ∀ frame, (sentIn (sinceConnected trace)).head? = some frame →
        ∃ u8DeviciId, (queuedIn (sinceConnected trace)).head? = some (greeting RandMsg u8DeviciId, frame)

theorem lastNonce_append {es older : List Event} (h : ∀ e ∈ es, e.nonce? = none) :
    lastNonce (es ++ older) = lastNonce older := by
  rw [lastNonce, List.findSome?_append, List.findSome?_eq_none_iff.mpr h]
  rfl

theorem sinceConnected_append {es older : List Event} (h : ∀ e ∈ es, e.nonce? = none) :
    sinceConnected (es ++ older) = es ++ sinceConnected older :=
  List.takeWhile_append_of_pos fun e he => by rw [h e he]; rfl

theorem sentIn_append (es₂ es₁ : List Event) : sentIn (es₂ ++ es₁) = sentIn es₁ ++ sentIn es₂ := by
  simp [sentIn]

theorem sentIn_eq_nil {es : List Event} (h : ∀ e ∈ es, e.sent? = none) : sentIn es = [] := by
  simpa [sentIn] using h

/-- What is queued behind what has been sent changes nothing. -/
theorem FreshConnection.append {es older : List Event} (h : FreshConnection older) (hnonce : ∀ e ∈ es, e.nonce? = none)
    (hsent : ∀ e ∈ es, e.sent? = none) : FreshConnection (es ++ older) := by
  intro RandMsg hlast
  rw [lastNonce_append hnonce] at hlast
  obtain ⟨hbegins, hfirst⟩ := h RandMsg hlast
  rw [sinceConnected_append hnonce, sentIn_append, sentIn_eq_nil hsent, List.append_nil, queuedIn_append,
    List.map_append]
  refine ⟨hbegins.trans (List.prefix_append _ _), fun frame hframe => ?_⟩
  obtain ⟨u8DeviciId, hhead⟩ := hfirst frame hframe
  exact ⟨u8DeviciId, by rw [List.head?_append, hhead]; rfl⟩

/-- An open connection has been greeted, and what has been queued on it has been sent
but for what is pending. -/
structure Greeted (trace : List Event) (pending : List (List UInt8)) : Prop where
  greeting : ∃ RandMsg u8DeviciId frame, lastNonce trace = some RandMsg ∧
    (queuedIn (sinceConnected trace)).head? = some (greeting RandMsg u8DeviciId, frame)
  queued : (queuedIn (sinceConnected trace)).map Prod.snd = sentIn (sinceConnected trace) ++ pending

theorem Greeted.fresh {trace : List Event} {pending : List (List UInt8)} (h : Greeted trace pending) :
    FreshConnection trace := by
  obtain ⟨⟨RandMsg, u8DeviciId, frame, hlast, hhead⟩, hqueued⟩ := h
  intro RandMsg' hlast'
  obtain rfl : RandMsg = RandMsg' := Option.some.inj (hlast.symm.trans hlast')
  refine ⟨⟨pending, hqueued.symm⟩, fun frame' hframe' => ⟨u8DeviciId, ?_⟩⟩
  have hfirst := congrArg List.head? hqueued
  rw [List.head?_map, hhead, List.head?_append, hframe'] at hfirst
  rw [hhead, ← Option.some.inj hfirst]

theorem Greeted.append {es trace : List Event} {pending : List (List UInt8)} (h : Greeted trace pending)
    (hnonce : ∀ e ∈ es, e.nonce? = none) (hsent : ∀ e ∈ es, e.sent? = none) :
    Greeted (es ++ trace) (pending ++ (queuedIn es).map Prod.snd) := by
  obtain ⟨⟨RandMsg, u8DeviciId, frame, hlast, hhead⟩, hqueued⟩ := h
  refine ⟨⟨RandMsg, u8DeviciId, frame, by rw [lastNonce_append hnonce]; exact hlast, ?_⟩, ?_⟩
  · rw [sinceConnected_append hnonce, queuedIn_append, List.head?_append, hhead]
    rfl
  · rw [sinceConnected_append hnonce, queuedIn_append, List.map_append, hqueued, sentIn_append,
      sentIn_eq_nil hsent, List.append_nil, List.append_assoc]

theorem Event.Plain.nonce? {ends : Prop} {e : Event} (h : e.Plain ends) : e.nonce? = none := by
  cases e <;> first | rfl | exact h.elim

theorem Event.Plain.sent? {ends : Prop} {e : Event} (h : e.Plain ends) : e.sent? = none := by
  cases e <;> first | rfl | exact h.elim

theorem Event.Plain.queued? {ends : Prop} {e : Event} (h : e.Plain ends) : e.queued? = none := by
  cases e <;> first | rfl | exact h.elim

theorem Event.Cloud.nonce? {e : Event} (h : e.Cloud) : e.nonce? = none := by
  cases e <;> first | rfl | exact h.elim

theorem Event.Cloud.sent? {e : Event} (h : e.Cloud) : e.sent? = none := by
  cases e <;> first | rfl | exact h.elim

/-- No timer is in use by which messages are sent to the cloud. -/
def Link.Silent (l : Link) : Prop :=
  ∀ i, l.Used i → (l.g_struTimer i).u8Type ≠ PCT_TIMER_SENDHEART ∧ (l.g_struTimer i).u8Type ≠ PCT_TIMER_SENDMOUDLE

/-- Only timers for reconnecting and registering are in use. -/
def Link.Resting (l : Link) : Prop :=
  ∀ i, l.Used i → (l.g_struTimer i).u8Type = PCT_TIMER_RECONNECT ∨ (l.g_struTimer i).u8Type = PCT_TIMER_REGISTER

/-- Nothing waits to be sent to the cloud, nor will a timer send anything. -/
def Device.Quiescent (d : Device) : Prop := d.pending = [] ∧ d.link.Silent

/-- What holds of the connection in each state of the controller. -/
structure Device.Session (d : Device) : Prop where
  sound : d.Sound
  timed : d.link.Timed
  resting : d.link.u8ReconnectTimer.isSome → d.link.u8MainState.code ≤ PCT_STATE_ACCESS_NET.code ∧ d.link.Resting
  quiet : d.link.u8MainState.code ≤ PCT_STATE_WAIT_ACCESS.code → d.Quiescent
  waiting : d.link.u8MainState = PCT_STATE_WAIT_ACCESS → lastNonce d.trace = some d.link.RandMsg.bytes ∧
    queuedIn (sinceConnected d.trace) = [] ∧ sentIn (sinceConnected d.trace) = []
  opened : d.link.u8MainState.Opened → d.link.u8MainState ≠ PCT_STATE_DISCONNECT_CLOUD → Greeted d.trace d.pending
  fresh : FreshConnection d.trace

theorem Link.Resting.silent {l : Link} (h : l.Resting) : l.Silent := by
  intro i hi
  rcases h i hi with htype | htype
  · rw [htype]
    exact ⟨by decide, by decide⟩
  · rw [htype]
    exact ⟨by decide, by decide⟩

theorem Link.Timed.used_of_runs {l : Link} (h : l.Timed) {u8Type : PCT_TIMER} (hruns : l.Runs u8Type) :
    ∃ i, l.Used i ∧ (l.g_struTimer i).u8Type = u8Type := by
  obtain ⟨handle, hlive, i, hid, htype⟩ := hruns
  obtain ⟨j, hj, hused⟩ := h.slot handle hlive
  obtain rfl : i = j := Option.some.inj (hid.symm.trans hj)
  exact ⟨i, hused, htype⟩

/-- Without such a timer, messages are sent only over an open connection. -/
theorem Link.MaySend.opened {l : Link} (h : l.MaySend) (ht : l.Timed) (hsilent : l.Silent) : l.u8MainState.Opened := by
  rcases h with h | h | h
  · exact h
  · obtain ⟨i, hi, htype⟩ := ht.used_of_runs h
    exact absurd htype (hsilent i hi).1
  · obtain ⟨i, hi, htype⟩ := ht.used_of_runs h
    exact absurd htype (hsilent i hi).2

/-- The timers of `l'` are among those of `l`. -/
def Link.Fewer (l l' : Link) : Prop := ∀ i, l'.Used i → l.Used i ∧ l'.g_struTimer i = l.g_struTimer i

theorem Link.Silent.fewer {l l' : Link} (h : l.Silent) (hle : l.Fewer l') : l'.Silent := by
  intro i hi
  obtain ⟨hused, heq⟩ := hle i hi
  rw [heq]
  exact h i hused

theorem Link.Resting.fewer {l l' : Link} (h : l.Resting) (hle : l.Fewer l') : l'.Resting := by
  intro i hi
  obtain ⟨hused, heq⟩ := hle i hi
  rw [heq]
  exact h i hused

theorem Link.fewer_of_eq {l l' : Link} (h : l'.g_struTimer = l.g_struTimer) : l.Fewer l' := by
  intro i hi
  rw [Link.Used, h] at hi
  exact ⟨hi, by rw [h]⟩

theorem Link.fewer_stop (l : Link) (i : Fin ZC_TIMER_MAX_NUM) : l.Fewer (l.stop i) := by
  intro j hj
  obtain ⟨hji, hused⟩ := Link.used_stop.mp hj
  exact ⟨hused, if_neg hji⟩

variable {ends : Prop} {d d' : Device}

/-- The state and the nonce stay, and nothing but plain events happens. -/
theorem Device.Session.keep {link : Link} {es : List Event} (hd : d.Session) (ht : d'.link.Timed)
    (h : Goes d d' link es d.pending) (hstate : link.u8MainState = d.link.u8MainState)
    (hrand : link.RandMsg = d.link.RandMsg)
    (hreconnect : link.u8ReconnectTimer.isSome → d.link.u8ReconnectTimer.isSome) (hfewer : d.link.Fewer link)
    (hes : ∀ e ∈ es, e.nonce? = none ∧ e.sent? = none ∧ e.queued? = none) : d'.Session := by
  obtain ⟨hsound, hlink, htrace, hpending⟩ := h
  have hnonce : ∀ e ∈ es, e.nonce? = none := fun e he => (hes e he).1
  have hsent : ∀ e ∈ es, e.sent? = none := fun e he => (hes e he).2.1
  have hqueued : queuedIn es = [] := queuedIn_eq_nil fun e he => (hes e he).2.2
  refine ⟨hsound, ht, ?_, ?_, ?_, ?_, by rw [htrace]; exact hd.fresh.append hnonce hsent⟩
  · rw [hlink, hstate]
    exact fun hsome => ⟨(hd.resting (hreconnect hsome)).1, (hd.resting (hreconnect hsome)).2.fewer hfewer⟩
  · rw [hlink, hstate]
    intro hle
    obtain ⟨hnone, hsilent⟩ := hd.quiet hle
    exact ⟨hpending.trans hnone, by rw [hlink]; exact hsilent.fewer hfewer⟩
  · rw [hlink, hstate, hrand, htrace, lastNonce_append hnonce, sinceConnected_append hnonce, queuedIn_append,
      sentIn_append, hqueued, sentIn_eq_nil hsent, List.append_nil, List.append_nil]
    exact hd.waiting
  · rw [hlink, hstate, htrace, hpending]
    intro hopen hne
    have := (hd.opened hopen hne).append hnonce hsent
    rwa [hqueued, List.map_nil, List.append_nil] at this

/-- With a timer for reconnecting, nothing is sent, and nothing but a registration
timer is started. -/
theorem Device.Session.not_send (hd : d.Session) (hsome : d.link.u8ReconnectTimer.isSome) : ¬ d.link.MaySend := by
  obtain ⟨hle, hresting⟩ := hd.resting hsome
  intro hsend
  have hopen : PCT_STATE_WAIT_ACCESSRSP.code ≤ d.link.u8MainState.code := hsend.opened hd.timed hresting.silent
  exact absurd (Nat.le_trans hopen hle) (by decide)

/-- Nothing is sent before the connection is open. -/
theorem Device.Session.opened_of_send (hd : d.Session) (hsend : d.link.MaySend) : d.link.u8MainState.Opened := by
  by_cases hle : d.link.u8MainState.code ≤ PCT_STATE_WAIT_ACCESS.code
  · exact hsend.opened hd.timed (hd.quiet hle).2
  · exact Nat.lt_of_not_le hle

theorem PCT_STATE.Opened.not_quiet {s : PCT_STATE} (h : s.Opened) : ¬ s.code ≤ PCT_STATE_WAIT_ACCESS.code :=
  Nat.not_le_of_lt h

/-- From a state in which nothing waits to be sent, the device goes to one in which
no connection is open. -/
theorem Device.Session.rest {link : Link} {es : List Event} (hd : d.Session) (ht : d'.link.Timed)
    (h : Goes d d' link es []) (hstate : link.u8MainState.code ≤ PCT_STATE_ACCESS_NET.code) (hsilent : link.Silent)
    (hresting : link.u8ReconnectTimer.isSome → link.Resting)
    (hes : ∀ e ∈ es, e.nonce? = none ∧ e.sent? = none) : d'.Session := by
  obtain ⟨hsound, hlink, htrace, hpending⟩ := h
  refine ⟨hsound, ht, ?_, ?_, ?_, ?_, ?_⟩
  · rw [hlink]
    exact fun hsome => ⟨hstate, hresting hsome⟩
  · exact fun _ => ⟨hpending, by rw [hlink]; exact hsilent⟩
  · rw [hlink]
    intro heq
    rw [heq] at hstate
    exact absurd hstate (by decide)
  · rw [hlink]
    exact fun hopen _ => absurd (Nat.le_trans hstate (by decide)) hopen.not_quiet
  · rw [htrace]
    exact hd.fresh.append (fun e he => (hes e he).1) fun e he => (hes e he).2

/-- The device goes over to another state of an open connection. -/
theorem Device.Session.advance {s : PCT_STATE} {es : List Event} (hd : d.Session) (ht : d'.link.Timed)
    (h : Goes d d' { d.link with u8MainState := s } es d.pending) (hopen : d.link.u8MainState.Opened)
    (hne : d.link.u8MainState ≠ PCT_STATE_DISCONNECT_CLOUD) (hopen' : s.Opened)
    (hes : ∀ e ∈ es, e.nonce? = none ∧ e.sent? = none ∧ e.queued? = none) : d'.Session := by
  obtain ⟨hsound, hlink, htrace, hpending⟩ := h
  have hnonce : ∀ e ∈ es, e.nonce? = none := fun e he => (hes e he).1
  have hsent : ∀ e ∈ es, e.sent? = none := fun e he => (hes e he).2.1
  have hqueued : queuedIn es = [] := queuedIn_eq_nil fun e he => (hes e he).2.2
  have hgreeted : Greeted d'.trace d'.pending := by
    have := (hd.opened hopen hne).append hnonce hsent
    rwa [hqueued, List.map_nil, List.append_nil, ← htrace, ← hpending] at this
  refine ⟨hsound, ht, ?_, ?_, ?_, fun _ _ => hgreeted, hgreeted.fresh⟩
  · rw [hlink]
    exact fun hsome => absurd (Nat.le_trans (hd.resting hsome).1 (by decide)) hopen.not_quiet
  · rw [hlink]
    exact fun hle => absurd hle hopen'.not_quiet
  · rw [hlink]
    intro (heq : s = _)
    rw [heq] at hopen'
    exact absurd hopen' (by unfold PCT_STATE.Opened; decide)

/-- Messages are queued on an open connection. -/
theorem Device.Session.queue (hd : d.Session) (hsend : d.link.MaySend)
    (h : Aside Device.link (fun e => e.Plain ends ∨ e.Cloud) d d') : d'.Session := by
  have hopen := hd.opened_of_send hsend
  obtain ⟨es, htrace, hes, hpending⟩ := h.logs
  have hlink : d'.link = d.link := h.view_eq
  have hnonce : ∀ e ∈ es, e.nonce? = none := fun e he => (hes e he).elim Event.Plain.nonce? Event.Cloud.nonce?
  have hsent : ∀ e ∈ es, e.sent? = none := fun e he => (hes e he).elim Event.Plain.sent? Event.Cloud.sent?
  refine ⟨hd.sound.of_aside h, by rw [hlink]; exact hd.timed, ?_, ?_, ?_, ?_, ?_⟩
  · rw [hlink]
    exact hd.resting
  · rw [hlink]
    exact fun hle => absurd hle hopen.not_quiet
  · rw [hlink]
    intro heq
    exact absurd (by rw [heq]) hopen.not_quiet
  · rw [hlink, htrace, (hpending hd.sound.sendable).2]
    exact fun hopen hne => (hd.opened hopen hne).append hnonce hsent
  · rw [htrace]
    exact hd.fresh.append hnonce hsent

/-- A connection ends. -/
theorem Device.Session.disconnect (hd : d.Session) (ht : d'.link.Timed)
    (hstate : PCT_STATE_WAIT_ACCESS.code ≤ d.link.u8MainState.code ∨ d.link.Runs PCT_TIMER_REACCESS)
    (h : Goes d d' { d.link with u8MainState := PCT_STATE_DISCONNECT_CLOUD } [notification ZC_CODE_CLOUD_DISCONNECTED]
      []) : d'.Session := by
  obtain ⟨hsound, hlink, htrace, hpending⟩ := h
  refine ⟨hsound, ht, ?_, ?_, ?_, ?_, ?_⟩
  · rw [hlink]
    intro hsome
    obtain ⟨hle, hresting⟩ := hd.resting hsome
    rcases hstate with hstate | hruns
    · exact absurd (Nat.le_trans hstate hle) (by decide)
    · obtain ⟨i, hi, htype⟩ := hd.timed.used_of_runs hruns
      rcases hresting i hi with hother | hother
      · rw [htype] at hother
        cases hother
      · rw [htype] at hother
        cases hother
  · rw [hlink]
    intro (hle : PCT_STATE_DISCONNECT_CLOUD.code ≤ _)
    exact absurd hle (by decide)
  · rw [hlink]
    intro (heq : PCT_STATE_DISCONNECT_CLOUD = _)
    cases heq
  · rw [hlink]
    exact fun _ hne => absurd rfl hne
  · rw [htrace]
    refine hd.fresh.append ?_ ?_
    · intro e he
      rw [List.mem_singleton.mp he]
      rfl
    · intro e he
      rw [List.mem_singleton.mp he]
      rfl

/-- A connection is opened, on which nothing has been done. -/
theorem Device.Session.connect (hd : d.Session) (ht : d'.link.Timed) {RandMsg : Mem ZC_HS_MSG_LEN}
    (hstate : d.link.u8MainState = PCT_STATE_ACCESS_NET) (htimer : d.link.u8ReconnectTimer = none)
    (h : Goes d d' { d.link with u8MainState := PCT_STATE_WAIT_ACCESS, RandMsg := RandMsg } [.connected RandMsg.bytes]
      d.pending) : d'.Session := by
  obtain ⟨hsound, hlink, htrace, hpending⟩ := h
  obtain ⟨hnone, hsilent⟩ := hd.quiet (by rw [hstate]; decide)
  have hsince : sinceConnected d'.trace = [] := by
    rw [htrace, sinceConnected, List.singleton_append, List.takeWhile_cons]
    rfl
  refine ⟨hsound, ht, ?_, ?_, ?_, ?_, ?_⟩
  · rw [hlink]
    intro (hsome : d.link.u8ReconnectTimer.isSome)
    rw [htimer] at hsome
    cases hsome
  · exact fun _ => ⟨hpending.trans hnone, by rw [hlink]; exact hsilent⟩
  · rw [hsince, hlink, htrace]
    exact fun _ => ⟨rfl, rfl, rfl⟩
  · rw [hlink]
    intro hopen
    exact absurd (Nat.le_refl _) hopen.not_quiet
  · intro _ _
    rw [hsince]
    exact ⟨List.nil_prefix, fun _ hframe => by cases hframe⟩

/-- The connection is greeted. -/
theorem Device.Session.greet (hd : d.Session) (ht : d'.link.Timed) {u8DeviciId frame : List UInt8}
    (hstate : d.link.u8MainState = PCT_STATE_WAIT_ACCESS)
    (h : Goes d d' { d.link with u8MainState := PCT_STATE_WAIT_ACCESSRSP }
      [.queued (greeting d.link.RandMsg.bytes u8DeviciId) frame, .toCloud (greeting d.link.RandMsg.bytes u8DeviciId)]
      (d.pending ++ [frame])) : d'.Session := by
  obtain ⟨hsound, hlink, htrace, hpending⟩ := h
  obtain ⟨hlast, hqueued, hsent⟩ := hd.waiting hstate
  have hnonce : ∀ e ∈ [Event.queued (greeting d.link.RandMsg.bytes u8DeviciId) frame,
      .toCloud (greeting d.link.RandMsg.bytes u8DeviciId)], e.nonce? = none := by
    rintro e (_ | ⟨_, _ | ⟨_, he⟩⟩)
    · rfl
    · rfl
    · cases he
  have hnone : d.pending = [] := (hd.quiet (by rw [hstate])).1
  have hqueued' : queuedIn (sinceConnected d'.trace) = [(greeting d.link.RandMsg.bytes u8DeviciId, frame)] := by
    rw [htrace, sinceConnected_append hnonce, queuedIn_append, hqueued]
    rfl
  have hgreeted : Greeted d'.trace d'.pending := by
    refine ⟨⟨_, u8DeviciId, frame, ?_, by rw [hqueued']; rfl⟩, ?_⟩
    · rw [htrace, lastNonce_append hnonce]
      exact hlast
    · rw [hqueued', hpending, hnone, htrace, sinceConnected_append hnonce, sentIn_append, hsent]
      rfl
  refine ⟨hsound, ht, ?_, ?_, ?_, fun _ _ => hgreeted, hgreeted.fresh⟩
  · rw [hlink]
    intro hsome
    have hle := (hd.resting hsome).1
    rw [hstate] at hle
    exact absurd hle (by decide)
  · rw [hlink]
    intro (hle : PCT_STATE_WAIT_ACCESSRSP.code ≤ _)
    exact absurd hle (by decide)
  · rw [hlink]
    intro (heq : PCT_STATE_WAIT_ACCESSRSP = _)
    cases heq

/-- The oldest frame is sent over the open connection. -/
theorem Device.Session.send (hd : d.Session) {u32Fd : Nat} {frame : List UInt8} {pending : List (List UInt8)}
    (hstate : d.link.u8MainState ≠ PCT_STATE_DISCONNECT_CLOUD) (hfirst : d.pending = frame :: pending)
    (h : Goes d d' d.link [.tcpSend u32Fd frame, .sent frame] pending) : d'.Session := by
  obtain ⟨hsound, hlink, htrace, hpending⟩ := h
  have hopen : d.link.u8MainState.Opened := by
    refine Nat.lt_of_not_le fun hle => ?_
    have hnone := (hd.quiet hle).1
    rw [hfirst] at hnone
    cases hnone
  have hnonce : ∀ e ∈ [Event.tcpSend u32Fd frame, .sent frame], e.nonce? = none := by
    rintro e (_ | ⟨_, _ | ⟨_, he⟩⟩)
    · rfl
    · rfl
    · cases he
  obtain ⟨⟨RandMsg, u8DeviciId, first, hlast, hhead⟩, hqueued⟩ := hd.opened hopen hstate
  have hgreeted : Greeted d'.trace d'.pending := by
    refine ⟨⟨RandMsg, u8DeviciId, first, ?_, ?_⟩, ?_⟩
    · rw [htrace, lastNonce_append hnonce]
      exact hlast
    · rw [htrace, sinceConnected_append hnonce, queuedIn_append, List.head?_append, hhead]
      rfl
    · rw [htrace, sinceConnected_append hnonce, queuedIn_append, sentIn_append, List.map_append, hqueued, hfirst, hpending]
      change _ ++ frame :: pending ++ [] = _ ++ [frame] ++ pending
      rw [List.append_nil, List.append_assoc]
      rfl
  refine ⟨hsound, by rw [hlink]; exact hd.timed, ?_, ?_, ?_, fun _ _ => hgreeted, hgreeted.fresh⟩
  · rw [hlink]
    exact hd.resting
  · rw [hlink]
    exact fun hle => absurd hle hopen.not_quiet
  · rw [hlink]
    intro heq
    exact absurd (by rw [heq]) hopen.not_quiet

/-- A timer is started. -/
theorem Device.Session.start (hd : d.Session) (ht : d'.link.Timed) {i : Fin ZC_TIMER_MAX_NUM} {u8Type : PCT_TIMER}
    {handle : Nat} (hsend : u8Type = PCT_TIMER_REGISTER ∨ d.link.MaySend)
    (h : Goes d d' (d.link.start i u8Type handle) [] d.pending) : d'.Session := by
  obtain ⟨hsound, hlink, htrace, hpending⟩ := h
  have hused : ∀ j, (d.link.start i u8Type handle).Used j →
      ((d.link.start i u8Type handle).g_struTimer j).u8Type = u8Type ∨
        d.link.Used j ∧ (d.link.start i u8Type handle).g_struTimer j = d.link.g_struTimer j := by
    intro j hj
    by_cases hji : j = i
    · exact .inl (congrArg ZC_Timer.u8Type (if_pos hji))
    · exact .inr ⟨(Link.used_start.mp hj).resolve_left hji, if_neg hji⟩
  refine ⟨hsound, ht, ?_, ?_, ?_, ?_, by rw [htrace]; exact hd.fresh⟩
  · rw [hlink]
    intro hsome
    obtain ⟨hle, hresting⟩ := hd.resting hsome
    obtain rfl := hsend.resolve_right (hd.not_send hsome)
    refine ⟨hle, fun j hj => ?_⟩
    rcases hused j hj with htype | ⟨hj', heq⟩
    · exact .inr htype
    · rw [heq]
      exact hresting j hj'
  · rw [hlink]
    intro hle
    obtain ⟨hnone, hsilent⟩ := hd.quiet hle
    obtain rfl := hsend.resolve_right fun hsend => absurd hle (hsend.opened hd.timed hsilent).not_quiet
    refine ⟨hpending.trans hnone, fun j hj => ?_⟩
    rw [hlink] at hj ⊢
    rcases hused j hj with htype | ⟨hj', heq⟩
    · rw [htype]
      exact ⟨by decide, by decide⟩
    · rw [heq]
      exact hsilent j hj'
  · rw [hlink, htrace]
    exact hd.waiting
  · rw [hlink, htrace, hpending]
    exact hd.opened

/-- Every step keeps the connection fresh. -/
theorem Step.session (h : Step ends d d') (hd : d.Session) : d'.Session := by
  have hsound := h.sound hd.sound
  have ht := h.timed hd.timed
  have hnil : ∀ e ∈ ([] : List Event), e.nonce? = none ∧ e.sent? = none ∧ e.queued? = none :=
    fun _ he => absurd he List.not_mem_nil
  have hone {e : Event} (h : e.nonce? = none ∧ e.sent? = none ∧ e.queued? = none) :
      ∀ e' ∈ [e], e'.nonce? = none ∧ e'.sent? = none ∧ e'.queued? = none := by
    intro e' he'
    rw [List.mem_singleton.mp he']
    exact h
  have hplain {e : Event} (he : e.Plain ends) : e.nonce? = none ∧ e.sent? = none ∧ e.queued? = none :=
    ⟨he.nonce?, he.sent?, he.queued?⟩
  have hsame : d.link.Fewer d.link := Link.fewer_of_eq rfl
  cases h with
  | aside h =>
    obtain ⟨es, htrace, hes, hsend⟩ := h.logs
    have hqueued : queuedIn es = [] := queuedIn_eq_nil fun e he => (hes e he).queued?
    refine hd.keep ht ⟨hsound, h.view_eq, htrace, ?_⟩ rfl rfl id hsame fun e he => hplain (hes e he)
    rw [(hsend hd.sound.sendable).2, hqueued, List.map_nil, List.append_nil]
  | queue hsend h => exact hd.queue hsend h
  | confirm hstate h => exact hd.keep ht h rfl rfl id hsame (hone ⟨rfl, rfl, rfl⟩)
  | deny h => exact hd.keep ht h rfl rfl id hsame (hone ⟨rfl, rfl, rfl⟩)
  | disconnect hstate h => exact hd.disconnect ht hstate h
  | connect RandMsg hstate htimer h => exact hd.connect ht hstate htimer h
  | greet u8DeviciId frame hstate h => exact hd.greet ht hstate h
  | access hstate h =>
    refine hd.advance ht h ?_ ?_ (Nat.le_add_right 4 1) hnil
    · rw [hstate]
      exact Nat.le_refl _
    · rw [hstate]
      decide
  | accept hstate h =>
    refine hd.advance ht h ?_ ?_ (Nat.le_add_right 4 2) (hone ⟨rfl, rfl, rfl⟩)
    · rw [hstate]
      exact Nat.le_add_right 4 1
    · rw [hstate]
      decide
  | reconnect link es hstate hlink hes h =>
    obtain ⟨hinit, -, -, hused⟩ := hlink
    have hresting : link.Resting := fun i hi => .inl (hused i hi)
    refine hd.rest ht h (by rw [hinit]; decide) hresting.silent (fun _ => hresting) fun e he => ?_
    exact ⟨(hes e he).nonce?, (hes e he).sent?⟩
  | fire handle i e hlive hid htype he h =>
    have hsome : d.link.u8ReconnectTimer.isSome := by rw [hd.timed.of_fire hlive hid htype]; rfl
    obtain ⟨hle, hresting⟩ := hd.resting hsome
    obtain ⟨hnone, hsilent⟩ := hd.quiet (Nat.le_trans hle (by decide))
    rw [hnone] at h
    refine hd.rest ht h (Nat.le_refl _) ?_ (fun hfalse => absurd hfalse (by simp [Link.stop])) fun e he' => ?_
    · exact hsilent.fewer (d.link.fewer_stop i)
    · rw [List.mem_singleton.mp he']
      exact ⟨he.nonce?, he.sent?⟩
  | enter hstate h =>
    obtain ⟨hnone, hsilent⟩ := hd.quiet (Nat.le_trans (Nat.le_of_lt hstate) (by decide))
    rw [hnone] at h
    exact hd.rest ht h (Nat.le_refl _) hsilent (fun hsome => (hd.resting hsome).2) fun e he => ⟨(hnil e he).1, (hnil e he).2.1⟩
  | start i u8Type handle hfirst hnew hzero htype hsend h => exact hd.start ht hsend h
  | fail i hidle h => exact hd.keep ht h rfl rfl id (Link.fewer_of_eq rfl) hnil
  | stop i e he h => exact hd.keep ht h rfl rfl id (d.link.fewer_stop i) (hone (hplain he))
  | settle i e he hreconnect h => exact hd.keep ht h rfl rfl (fun hfalse => absurd hfalse (by simp)) (d.link.fewer_stop i) (hone (hplain he))
  | ring i h => exact hd.keep ht h rfl rfl id (Link.fewer_of_eq rfl) hnil
  | send u32Fd frame pending hstate hpending h => exact hd.send hstate hpending h

theorem steps_session (h : Relation.ReflTransGen (Step ends) d d') (hd : d.Session) : d'.Session := by
  induction h with
  | refl => exact hd
  | tail _ hstep ih => exact hstep.session ih

section

variable (env : Env)

theorem HF_WakeUp_session (hd : d.Session) (hquiet : d.Quiescent) (h : (HF_WakeUp env).run d = .ok ((), d')) :
    d'.Session := by
  obtain ⟨d₁, hwakes, hset⟩ := @HF_WakeUp_spec True env _ _ h
  obtain ⟨hsound₁, hpending₁⟩ := hwakes.sound hd.sound
  obtain ⟨hsound, hlink, htrace, hpending⟩ := setMainState_goes hsound₁ hset
  obtain ⟨es, htrace₁, hes⟩ := hwakes.logs
  have hsilent : d₁.link.Silent := by
    intro i hi
    rcases hwakes.used i hi with htype | ⟨hused, heq⟩
    · rw [htype]
      exact ⟨by decide, by decide⟩
    · rw [heq]
      exact hquiet.2 i hused
  have hresting : d₁.link.u8ReconnectTimer.isSome → d₁.link.Resting := by
    rw [hwakes.reconnect_eq]
    intro hsome i hi
    rcases hwakes.used i hi with htype | ⟨hused, heq⟩
    · exact .inr htype
    · rw [heq]
      exact (hd.resting hsome).2 i hused
  have ht : d'.link.Timed := hlink ▸ (hwakes.timed hd.timed).congr rfl rfl rfl rfl
  exact hd.rest ht ⟨hsound, hlink, htrace.trans htrace₁, hpending.trans (hpending₁.trans hquiet.1)⟩ (Nat.le_refl _)
    hsilent hresting fun e he => ⟨(hes e he).nonce?, (hes e he).sent?⟩

theorem HF_Sleep_session (hd : d.Session) (h : (HF_Sleep env).run d = .ok ((), d')) : d'.Session := by
  obtain ⟨es, timer, live, hgoes, hes, hlive, hidle⟩ := @HF_Sleep_goes True env _ _ hd.sound h
  have hresting : (d.link.cleared timer live).Resting := fun i hi => by
    rw [Link.Used, Link.cleared, hidle i] at hi
    cases hi
  exact hd.rest (hgoes.link_eq ▸ .cleared (hlive hd.timed) hidle) hgoes (by change 1 ≤ 2; decide) hresting.silent
    (fun _ => hresting) fun e he => ⟨(hes e he).nonce?, (hes e he).sent?⟩

theorem Device.handle_session {input : Input} (hd : d.Session) (henabled : input.enabled d)
    (hwakes : input = .wakeUp → d.Quiescent) (h : (Device.handle env input).run d = .ok ((), d')) : d'.Session := by
  by_cases hwake : input = .wakeUp
  · subst hwake
    exact HF_WakeUp_session env hd (hwakes rfl) h
  · by_cases hsleep : input = .sleep
    · subst hsleep
      exact HF_Sleep_session env hd h
    · by_cases hregister : Input.Registers d input
      · obtain rfl | haside | hgoes := Device.handle_registers env hd.sound hregister h
        · exact hd
        · exact Step.session (.aside (haside.mono link_of_core fun _ he => @Event.Quiet.plain True _ he)) hd
        · refine hd.keep (hgoes.link_eq ▸ hd.timed) hgoes rfl rfl id (Link.fewer_of_eq rfl) fun e he => ?_
          rw [List.mem_singleton.mp he]
          exact ⟨rfl, rfl, rfl⟩
      · obtain ⟨hsteps, -⟩ := @Device.handle_steps True env _ _ _ hd.sound henabled (fun _ => trivial) hregister hwake hsleep h
        exact steps_session hsteps hd

theorem Device.Fresh.session (h : d.Fresh) : d.Session := by
  have hnone : ¬ d.link.u8ReconnectTimer.isSome := by
    rw [h.reconnect_eq]
    decide
  refine ⟨h.sound, h.timed, fun hsome => absurd hsome hnone, fun _ => ⟨h.pending_eq, fun i hi => absurd hi (h.idle i)⟩,
    fun hstate => ?_, fun hopen => ?_, fun _ hlast => ?_⟩
  · rw [h.state_eq] at hstate
    cases hstate
  · rw [h.state_eq] at hopen
    exact absurd hopen (by unfold PCT_STATE.Opened; decide)
  · rw [h.trace_eq] at hlast
    cases hlast

/-- In every run in which `HF_WakeUp` is not called while frames wait to be sent or a
timer can still queue one, every connection starts with its own message 1, and only
what has been queued on it is sent on it. -/
theorem Device.Reachable.fresh_connection
    (h : d.Reachable env fun d input => input = .wakeUp → d.Quiescent) : FreshConnection d.trace := by
  obtain ⟨d₀, hstarted, hrun⟩ := h
  refine (hrun.invariant (I := Device.Session) hstarted.fresh.session ?_).fresh
  exact fun _ _ _ hd hallowed hstep => Device.handle_session env hd hallowed.1 hallowed.2 hstep

end

/-- After a registration, a connection is opened and its message 1 sent. -/
theorem fresh_connection_first : ∃ d : Device, (sentIn (sinceConnected d.trace)).length = 1 ∧ FreshConnection d.trace := by
  obtain ⟨d, hreach, hsent⟩ := @Device.reachable_of_replay _ soundEnv blankFwup
    (fun d input => input = .wakeUp → d.Quiescent)
    [.moudle registration registration.length, .run, .run, .cloudTail]
    (fun d => (sentIn (sinceConnected d.trace)).length) 1 ⟨rfl, rfl, rfl⟩
    (fun input hmem _ hwake => absurd (hwake ▸ hmem) (by decide)) (by decide +kernel)
  exact ⟨d, hsent, Device.Reachable.fresh_connection soundEnv hreach⟩

/-- The network comes while a message 1 waits to be sent: it is sent on the next
connection. -/
theorem wakeUp_sends_stale_frame :
    ¬ ∀ (env : Env) (d : Device), d.Reachable env (fun _ _ => True) → FreshConnection d.trace := by
  intro h
  obtain ⟨d, hreach, hview⟩ := @Device.reachable_of_replay _ soundEnv blankFwup (fun _ _ => True)
    [.moudle registration registration.length, .run, .run, .wakeUp, .run, .cloudTail]
    (fun d => ((lastNonce d.trace).isSome, (sentIn (sinceConnected d.trace)).length,
      (queuedIn (sinceConnected d.trace)).length)) (true, 1, 0) ⟨rfl, rfl, rfl⟩
    (fun _ _ _ => trivial) (by decide +kernel)
  obtain ⟨hnonce, hlengths⟩ := Prod.mk.inj hview
  obtain ⟨hsent, hqueued⟩ := Prod.mk.inj hlengths
  obtain ⟨RandMsg, hlast⟩ := Option.isSome_iff_exists.mp hnonce
  have hle := (h soundEnv d hreach RandMsg hlast).1.length_le
  rw [List.length_map, hsent, hqueued] at hle
  exact absurd hle (by decide)

end ZCloud
