import ZCloud.ProtocolController.Handle

open Memory Program

namespace ZCloud

/-- What an event tells the module about the cloud. -/
def Event.cloud? : Event → Option ZC_MsgCode
  | .toMoudle (.notify u8NotifyCode) _ =>
    if u8NotifyCode = ZC_CODE_CLOUD_CONNECTED ∨ u8NotifyCode = ZC_CODE_CLOUD_DISCONNECTED then some u8NotifyCode else none
  | _ => none

/-- The last that the module has been told about the cloud. -/
def lastCloud (trace : List Event) : Option ZC_MsgCode := trace.findSome? Event.cloud?

theorem lastCloud_notification {u8NotifyCode : ZC_MsgCode} {older : List Event}
    (h : u8NotifyCode = ZC_CODE_CLOUD_CONNECTED ∨ u8NotifyCode = ZC_CODE_CLOUD_DISCONNECTED) :
    lastCloud (notification u8NotifyCode :: older) = some u8NotifyCode := by
  rw [lastCloud, List.findSome?_cons]
  simp only [notification, Event.cloud?, if_pos h]

theorem lastCloud_append {es older : List Event} (h : ∀ e ∈ es, e.cloud? = none) :
    lastCloud (es ++ older) = lastCloud older := by
  rw [lastCloud, List.findSome?_append, List.findSome?_eq_none_iff.mpr h]
  rfl

theorem Event.Plain.cloud? {ends : Prop} {e : Event} (h : e.Plain ends) : e.cloud? = none := by
  cases e with
  | toMoudle source data =>
    cases source with
    | notify u8NotifyCode => exact if_neg fun hcode => hcode.elim h.1 h.2.1
    | _ => rfl
  | _ => rfl

theorem Event.Cloud.cloud? {e : Event} (h : e.Cloud) : e.cloud? = none := by
  cases e <;> first | rfl | exact h.elim

/-- What the module has last been told about the cloud is true. -/
def Device.Truthful (d : Device) : Prop :=
  lastCloud d.trace = some ZC_CODE_CLOUD_CONNECTED →
    d.g_struProtocolController.u8MainState = PCT_STATE_CONNECT_CLOUD

/-- The states from which the connection is opened, and those of an open connection. -/
def PCT_STATE.Connecting (s : PCT_STATE) : Prop :=
  PCT_STATE_WAIT_ACCESS.code ≤ s.code ∧ s.code ≤ PCT_STATE_CONNECT_CLOUD.code

/-- The module knows when the cloud is connected, and no timer for reconnecting runs
while a connection is open. -/
structure Device.Notified (d : Device) : Prop where
  sound : d.Sound
  timed : d.link.Timed
  settled : d.link.u8MainState.Connecting → d.link.u8ReconnectTimer = none
  truthful : d.Truthful

/-- The steps after which the module would be told, or would go on to think, that the
cloud is connected when it is not. -/
def Input.Misleads (d : Device) (input : Input) : Prop :=
  input.Registers d ∨
    d.g_struProtocolController.u8MainState = PCT_STATE_CONNECT_CLOUD ∧ (input = .wakeUp ∨ input = .sleep)

variable {ends : Prop} {d d' : Device}

/-- Nothing is said about the cloud, and the state is left only if the module does
not think that the cloud is connected. -/
theorem Device.Truthful.of_silent (h : d.Truthful) {es : List Event} (htrace : d'.trace = es ++ d.trace)
    (hes : ∀ e ∈ es, e.cloud? = none)
    (hstate : d.link.u8MainState = PCT_STATE_CONNECT_CLOUD → d'.link.u8MainState = PCT_STATE_CONNECT_CLOUD) :
    d'.Truthful := by
  intro hlast
  rw [htrace, lastCloud_append hes] at hlast
  exact hstate (h hlast)

theorem Device.Truthful.of_denied {older : List Event}
    (htrace : d'.trace = [notification ZC_CODE_CLOUD_DISCONNECTED] ++ older) : d'.Truthful := by
  intro hlast
  rw [htrace, List.singleton_append, lastCloud_notification (.inr rfl)] at hlast
  cases hlast

/-- No step misleads the module. -/
theorem Step.notified (h : Step ends d d') (hd : d.Notified) : d'.Notified := by
  have hsound := h.sound hd.sound
  have ht := h.timed hd.timed
  have hsilent {link : Link} {es : List Event} {pending : List (List UInt8)} (hgoes : Goes d d' link es pending)
      (hes : ∀ e ∈ es, e.cloud? = none) (hsettled : link.u8MainState.Connecting → link.u8ReconnectTimer = none)
      (hstate : d.link.u8MainState = PCT_STATE_CONNECT_CLOUD → link.u8MainState = PCT_STATE_CONNECT_CLOUD) :
      d'.Notified :=
    ⟨hsound, ht, by rw [hgoes.link_eq]; exact hsettled,
      hd.truthful.of_silent hgoes.trace_eq hes (by rw [hgoes.link_eq]; exact hstate)⟩
  have hnil : ∀ e ∈ ([] : List Event), e.cloud? = none := fun _ he => absurd he List.not_mem_nil
  have hone {e : Event} (he : e.cloud? = none) : ∀ e' ∈ [e], e'.cloud? = none := by
    intro e' he'
    rw [List.mem_singleton.mp he']
    exact he
  have htwo {e₁ e₂ : Event} (he₁ : e₁.cloud? = none) (he₂ : e₂.cloud? = none) : ∀ e' ∈ [e₁, e₂], e'.cloud? = none := by
    intro e' he'
    rcases List.mem_cons.mp he' with rfl | he'
    · exact he₁
    · exact hone he₂ e' he'
  have hother {s : PCT_STATE} (hs : d.link.u8MainState = s) (hne : s ≠ PCT_STATE_CONNECT_CLOUD) {p : Prop} :
      d.link.u8MainState = PCT_STATE_CONNECT_CLOUD → p := fun h => absurd (hs.symm.trans h) hne
  have hsettled {s : PCT_STATE} (hs : d.link.u8MainState = s) (hconnecting : s.Connecting) :
      d.link.u8ReconnectTimer = none := hd.settled (by rw [hs]; exact hconnecting)
  have haccess : ¬ PCT_STATE_ACCESS_NET.Connecting := fun h => absurd h.1 (by decide)
  cases h with
  | aside h =>
    obtain ⟨es, htrace, hes, -⟩ := h.logs
    refine ⟨hsound, ht, by rw [h.view_eq]; exact hd.settled, hd.truthful.of_silent htrace ?_ (by rw [h.view_eq]; exact id)⟩
    exact fun e he => (hes e he).cloud?
  | queue _ h =>
    obtain ⟨es, htrace, hes, -⟩ := h.logs
    refine ⟨hsound, ht, by rw [h.view_eq]; exact hd.settled, hd.truthful.of_silent htrace ?_ (by rw [h.view_eq]; exact id)⟩
    exact fun e he => (hes e he).elim Event.Plain.cloud? Event.Cloud.cloud?
  | confirm hstate h =>
    refine ⟨hsound, ht, by rw [h.link_eq]; exact hd.settled, fun _ => ?_⟩
    change d'.link.u8MainState = _
    rw [h.link_eq, hstate]
  | deny h => exact ⟨hsound, ht, by rw [h.link_eq]; exact hd.settled, .of_denied h.trace_eq⟩
  | disconnect _ h =>
    refine ⟨hsound, ht, fun hs => ?_, .of_denied h.trace_eq⟩
    rw [h.link_eq] at hs
    exact absurd (show PCT_STATE_DISCONNECT_CLOUD.Connecting from hs) fun h => absurd h.2 (by decide)
  | connect _ hstate htimer h => exact hsilent h (hone rfl) (fun _ => htimer) (hother hstate (by decide))
  | greet _ _ hstate h =>
    exact hsilent h (htwo rfl rfl) (fun _ => hsettled hstate ⟨by decide, by decide⟩) (hother hstate (by decide))
  | access hstate h => exact hsilent h hnil (fun _ => hsettled hstate ⟨by decide, by decide⟩) (hother hstate (by decide))
  | accept hstate h =>
    refine ⟨hsound, ht, fun _ => ?_, fun _ => ?_⟩
    · rw [h.link_eq]
      exact hsettled hstate ⟨by decide, by decide⟩
    · change d'.link.u8MainState = _
      rw [h.link_eq]
  | reconnect link es hstate hlink hes h =>
    refine hsilent h (fun e he => (hes e he).cloud?) (fun hs => ?_) (hother hstate (by decide))
    rw [hlink.1] at hs
    exact absurd hs.1 (by decide)
  | fire handle i e hlive hid htype he h =>
    refine hsilent h (hone he.cloud?) (fun hs => absurd hs haccess) fun hs => ?_
    have hnone := hsettled hs ⟨by decide, by decide⟩
    rw [hd.timed.of_fire hlive hid htype] at hnone
    cases hnone
  | enter hstate h =>
    refine hsilent h hnil (fun hs => absurd hs haccess) fun hs => ?_
    rw [hs] at hstate
    exact absurd hstate (by decide)
  | start _ _ _ _ _ _ _ _ h => exact hsilent h hnil hd.settled id
  | fail _ _ h => exact hsilent h hnil hd.settled id
  | stop _ _ he h => exact hsilent h (hone he.cloud?) hd.settled id
  | settle _ _ he _ h => exact hsilent h (hone he.cloud?) (fun _ => rfl) id
  | ring _ h => exact hsilent h hnil hd.settled id
  | send _ _ _ _ _ h => exact hsilent h (htwo rfl rfl) hd.settled id

theorem steps_notified (h : Relation.ReflTransGen (Step ends) d d') (hd : d.Notified) : d'.Notified := by
  induction h with
  | refl => exact hd
  | tail _ hstep ih => exact hstep.notified ih

section

variable (env : Env)

theorem HF_WakeUp_notified (hd : d.Notified) (hstate : d.link.u8MainState ≠ PCT_STATE_CONNECT_CLOUD)
    (h : (HF_WakeUp env).run d = .ok ((), d')) : d'.Notified := by
  obtain ⟨d₁, hwakes, hset⟩ := @HF_WakeUp_spec True env _ _ h
  have hgoes := setMainState_goes (hwakes.sound hd.sound).1 hset
  obtain ⟨es, htrace, hes⟩ := hwakes.logs
  refine ⟨hgoes.sound, ?_, fun hs => ?_, hd.truthful.of_silent (hgoes.trace_eq.trans htrace)
    (fun e he => (hes e he).cloud?) fun hs => absurd hs hstate⟩
  · exact hgoes.link_eq ▸ (hwakes.timed hd.timed).congr rfl rfl rfl rfl
  · rw [hgoes.link_eq] at hs
    exact absurd (show PCT_STATE_ACCESS_NET.Connecting from hs) fun h => absurd h.1 (by decide)

theorem HF_Sleep_notified (hd : d.Notified) (hstate : d.link.u8MainState ≠ PCT_STATE_CONNECT_CLOUD)
    (h : (HF_Sleep env).run d = .ok ((), d')) : d'.Notified := by
  obtain ⟨es, timer, live, hgoes, hes, hlive, hidle⟩ := @HF_Sleep_goes True env _ _ hd.sound h
  refine ⟨hgoes.sound, hgoes.link_eq ▸ .cleared (hlive hd.timed) hidle, fun _ => ?_,
    hd.truthful.of_silent hgoes.trace_eq (fun e he => (hes e he).cloud?) fun hs => absurd hs hstate⟩
  rw [hgoes.link_eq]
  rfl

theorem Device.handle_notified {input : Input} (hd : d.Notified) (henabled : input.enabled d)
    (hnot : ¬ Input.Misleads d input) (h : (Device.handle env input).run d = .ok ((), d')) : d'.Notified := by
  obtain ⟨hregister, hnetwork⟩ := not_or.mp hnot
  by_cases hwake : input = .wakeUp
  · subst hwake
    exact HF_WakeUp_notified env hd (fun hstate => hnetwork ⟨hstate, .inl rfl⟩) h
  · by_cases hsleep : input = .sleep
    · subst hsleep
      exact HF_Sleep_notified env hd (fun hstate => hnetwork ⟨hstate, .inr rfl⟩) h
    · obtain ⟨hsteps, -⟩ := @Device.handle_steps True env _ _ _ hd.sound henabled (fun _ => trivial) hregister hwake hsleep h
      exact steps_notified hsteps hd

theorem Device.Fresh.notified (h : d.Fresh) : d.Notified := by
  refine ⟨h.sound, h.timed, fun _ => h.reconnect_eq, fun hlast => ?_⟩
  rw [h.trace_eq] at hlast
  cases hlast

/-- In every run without a registration while the device connects, and in which the
network neither comes nor goes while the cloud is connected, what the module has
last been told about the cloud is true. -/
theorem Device.Reachable.truthful (h : d.Reachable env fun d input => ¬ Input.Misleads d input) : d.Truthful := by
  obtain ⟨d₀, hstarted, hrun⟩ := h
  refine (hrun.invariant (I := Device.Notified) hstarted.fresh.notified ?_).truthful
  exact fun _ _ _ hd hallowed hstep => Device.handle_notified env hd hallowed.1 hallowed.2 hstep

end

/-- The registration of a module that gives nothing but zeros. -/
def registration : List UInt8 := EVENT_BuildMsg ZC_CODE_REGSITER 0 (List.replicate sizeof_ZC_RegisterInfo 0)

theorem soundEnv_boots : ∃ d, d.Started soundEnv ∧ d.link.u8MainState = PCT_STATE_INIT ∧
    ((Device.replay soundEnv [.moudle registration registration.length] d).map fun d => d.link.u8MainState) =
      some PCT_STATE_ACCESS_NET := by
  refine ⟨_, ⟨blankFwup, rfl, rfl, rfl, rfl⟩, rfl, ?_⟩
  decide +kernel

/-- A module that registers once is not misled. -/
theorem truthful_registered : ∃ d : Device, d.link.u8MainState = PCT_STATE_ACCESS_NET ∧ d.Truthful := by
  obtain ⟨d₀, hstarted, hinit, hreplay⟩ := soundEnv_boots
  obtain ⟨d, hd, hstate⟩ := Option.map_eq_some_iff.mp hreplay
  obtain ⟨henabled, d₁, hrun, hnil⟩ := Device.replay_cons hd
  obtain rfl : d₁ = d := Option.some.inj hnil
  refine ⟨d₁, hstate, Device.Reachable.truthful soundEnv ⟨d₀, hstarted, .step .refl ⟨henabled, ?_⟩ hrun⟩⟩
  change d₀.g_struProtocolController.u8MainState = _ at hinit
  rintro (hregister | ⟨hconnect, -⟩)
  · have hnet := hregister.1
    rw [hinit] at hnet
    exact absurd hnet (by decide)
  · rw [hinit] at hconnect
    cases hconnect

/-- A module that registers twice is told that the cloud is connected while the
device has yet to connect to it. -/
theorem registration_twice_misleads :
    ¬ ∀ (env : Env) (d : Device), d.Reachable env (fun _ _ => True) → d.Truthful := by
  intro h
  obtain ⟨d, hreach, hview⟩ := @Device.reachable_of_replay _ soundEnv blankFwup (fun _ _ => True)
    (List.replicate 2 (.moudle registration registration.length))
    (fun d => (lastCloud d.trace, d.g_struProtocolController.u8MainState))
    (some ZC_CODE_CLOUD_CONNECTED, PCT_STATE_ACCESS_NET) ⟨rfl, rfl, rfl⟩
    (fun _ _ _ => trivial) (by decide +kernel)
  obtain ⟨hlast, hstate⟩ := Prod.mk.inj hview
  have := h soundEnv d hreach hlast
  rw [hstate] at this
  cases this

end ZCloud
