import ZCloud.Network.Accepted

open Memory Program DlList

namespace ZCloud

/-- What may happen to a server and to the connections that it has accepted. -/
inductive TcpEvent where
  | accept (pcb : Nat) (acceptf : Option Int)
  | recv (pcb : Nat) (received : Received)
  | poll (pcb : Nat) (closing closed : Bool) (pollf : Option Int)
  /-- The control block is gone, for what has come from the other side. -/
  | err (pcb : Nat)
  | write (conn : Nat) (sent : Int)
  | close (conn : Nat) (closed : Nat → Bool)

/-- What an event does at the server `srv`. -/
def tcpEvent (srv : Nat) : TcpEvent → Prog NetPool Unit
  | .accept pcb acceptf => do
    let s ← get
    let err ← net_tcp_accept_cb srv pcb acceptf
    if err ≠ ERR_OK ∧ err ≠ ERR_ABRT then
      tcp_abort pcb
    modify fun s' => { s' with quiet := fun c => if (s.g_net_conn c).used then s'.quiet c else 0 }
  | .recv pcb received => do
    match (← get).pcb pcb, received with
    | some ⟨conn, true⟩, .data =>
      let _ ← net_tcp_recv_cb conn pcb .data
      modify fun s => s.setQuiet conn 0
    | some ⟨conn, true⟩, received =>
      let _ ← net_tcp_recv_cb conn pcb received
    | _, _ => return ()
  | .poll pcb closing closed pollf => do
    match (← get).pcb pcb with
    | none => return ()
    | some callbacks =>
      let _ ← net_tcp_poll_cb callbacks.arg pcb closing closed pollf
      modify fun s => s.setQuiet callbacks.arg (s.quiet callbacks.arg + 1)
  | .err pcb => tcp_abort pcb
  | .write conn sent => do
    let _ ← net_do_write conn sent
    modify fun s => s.setQuiet conn 0
  | .close conn closed => do_close_connect conn closed

namespace NetPool

variable {srv c d p : Nat} {T : UInt32} {s s' t : NetPool} {e : TcpEvent}

/-- The server `srv` listens, and has not accepted anything yet. -/
structure Listens (srv : Nat) (T : UInt32) (s : NetPool) : Prop where
  socket : srv < TLS_MAX_SOCKET_NUM
  timeout : 0 < T
  server : (s.g_net_conn srv).client = false ∧ (s.g_net_conn srv).idle_time = T
  tcp : ∃ p, (s.g_net_conn srv).tcp = some p
  links : s.links.next srv = some srv ∧ s.links.prev srv = some srv
  unused : ∀ c, Slot srv c → (s.g_net_conn c).used = false ∧ s.links.first c = none
  pcb : ∀ p, s.pcb p = none

theorem Listens.not_live (h : Listens srv T s) : ¬ s.Live srv c := fun hlive => NetPool.not_live (h.unused c hlive.1).1 hlive

theorem Listens.inv (h : Listens srv T s) : Inv srv T (fun _ => False) s where
  server := h.server
  listed := ⟨[], ⟨by simp, by simp [Linked, h.links]⟩, fun c => by simp [h.not_live]⟩
  client _ hlive := absurd hlive h.not_live
  tcp _ hlive := absurd hlive h.not_live
  listening _ := by
    obtain ⟨p, htcp⟩ := h.tcp
    exact ⟨p, htcp, h.pcb p⟩
  alone c hslot _ := (h.unused c hslot).2
  arg p callbacks hp := by simp [h.pcb] at hp

/-- The control block calls back with the connection that it is of. -/
def Attached (s : NetPool) (p : Nat) : Prop := ∀ r, s.pcb p = some r → (s.g_net_conn r.arg).tcp = some p

/-- What may come when. The control block that listens is always closed. -/
def Allowed (srv : Nat) (s : NetPool) : TcpEvent → Prop
  | .accept p _ => (s.g_net_conn srv).used = true ∧ s.Fresh p
  | .write c _ => Slot srv c
  | .close c closed => (c = srv ∧ closed srv = true) ∨ Slot srv c
  | _ => True

/-- What follows a connection with something on it has the timeout, and no control block
calls back with a connection that it is not of. -/
def Careful (srv : Nat) (s : NetPool) : TcpEvent → Prop
  | .recv p .data => s.Attached p ∧ ∀ r, s.pcb p = some r → s.Refreshes srv r.arg
  | .recv p _ | .poll p _ _ _ | .err p => s.Attached p
  | .write c _ => s.Refreshes srv c
  | _ => True

/-- There is something on the connection `c`. -/
def IsTraffic (s : NetPool) (c : Nat) : TcpEvent → Prop
  | .recv p .data => s.pcb p = some ⟨c, true⟩
  | .write conn _ => conn = c
  | _ => False

/-- The connection `c` is polled, and not found to be at its end. -/
def IsPoll (s : NetPool) (c : Nat) : TcpEvent → Prop
  | .poll p closing closed _ => (∃ recv, s.pcb p = some ⟨c, recv⟩) ∧ ¬ s.Ends c closing closed
  | _ => False

/-- What an event is to do about the idle times: the poll that makes up the timeout
aborts its connection, and nothing else does. -/
structure Proper (srv : Nat) (T : UInt32) (e : TcpEvent) (s s' : NetPool) : Prop where
  traffic : ∀ c, s.Live srv c → s.IsTraffic c e → (s'.g_net_conn c).idle_time = T
  poll : ∀ c, s.Live srv c → s.IsPoll c e → (s'.g_net_conn c).idle_time.toNat + 1 = (s.g_net_conn c).idle_time.toNat
  other : ∀ c, s.Live srv c → ¬ s.IsTraffic c e → ¬ s.IsPoll c e → (s'.g_net_conn c).idle_time = (s.g_net_conn c).idle_time
  idled : ∀ c, s.Live srv c → s.IsPoll c e → s.quiet c + 1 = T.toNat →
    s'.idled = c :: s.idled ∧ (s'.g_net_conn c).used = false
  kept : (∀ c, s.Live srv c → s.IsPoll c e → s.quiet c + 1 ≠ T.toNat) → s'.idled = s.idled

theorem Shrinks.proper (h : Shrinks s s') (htraffic : ∀ c, ¬ s.IsTraffic c e) (hpoll : ∀ c, ¬ s.IsPoll c e) : Proper srv T e s s' where
  traffic c _ hc := absurd hc (htraffic c)
  poll c _ hc := absurd hc (hpoll c)
  other c _ _ _ := h.idle_time c
  idled c _ hc := absurd hc (hpoll c)
  kept _ := h.idled

theorem Inv.setQuiet {exempt : Nat → Prop} (h : Inv srv T exempt s) (quiet : Nat → Nat) : Inv srv T exempt { s with quiet := quiet } :=
  ⟨h.server, h.listed, h.client, h.tcp, h.listening, h.alone, h.arg⟩

theorem Counts.pos (hcounts : Counts srv T s) (hlive : s.Live srv c) : (s.g_net_conn c).idle_time > 0 := by
  have := hcounts c hlive
  rw [gt_iff_lt, UInt32.lt_iff_toNat_lt]
  change 0 < _
  omega

theorem Counts.touched (hcounts : Counts srv T s) (htimeout : 0 < T) (h : Touched srv c T s s') : Counts srv T (s'.setQuiet c 0) := by
  intro d hafter
  have hlive : s.Live srv d := ⟨hafter.1, (h.used d).symm.trans hafter.2⟩
  have hpos : 0 < T.toNat := UInt32.lt_iff_toNat_lt.mp htimeout
  by_cases hd : d = c
  · subst hd
    simp [NetPool.setQuiet, h.idle_time hlive, hpos]
  · simpa [NetPool.setQuiet, hd, h.other d hd, h.quiet] using hcounts d hlive

/-- Something on a connection is counted as such. -/
theorem Touched.proper (h : Touched srv c T s s') (htraffic : ∀ d, s.IsTraffic d e ↔ d = c) (hpoll : ∀ d, ¬ s.IsPoll d e) :
    Proper srv T e s (s'.setQuiet c 0) where
  traffic d hlive hd := by
    obtain rfl := (htraffic d).mp hd
    exact h.idle_time hlive
  poll d _ hd := absurd hd (hpoll d)
  other d _ hd _ := h.other d fun heq => hd ((htraffic d).mpr heq)
  idled d _ hd := absurd hd (hpoll d)
  kept _ := h.idled

theorem Counts.polled {closing closed : Bool} (hcounts : Counts srv T s) (h : Polled srv c T closing closed s s') :
    Counts srv T (s'.setQuiet c (s'.quiet c + 1)) := by
  intro d hafter
  have hused : (s'.g_net_conn d).used = true := hafter.2
  have hlive : s.Live srv d := ⟨hafter.1, h.used d hused⟩
  have hbefore := hcounts d hlive
  by_cases hd : d = c
  · subst hd
    have hends : ¬ s.Ends d closing closed := by
      intro hends
      rw [(h.ended hlive hends).2.1] at hused
      exact Bool.noConfusion hused
    have hfull : s.quiet d + 1 ≠ T.toNat := by
      intro hfull
      rw [h.aborted hlive hfull] at hused
      exact Bool.noConfusion hused
    have hidle := (h.counted hlive hends).1
    simp only [NetPool.setQuiet, Function.update_self, h.quiet]
    omega
  · simpa [NetPool.setQuiet, hd, h.other d hd, h.quiet] using hbefore

/-- A poll counts for its own connection. -/
theorem Polled.proper {closing closed recv : Bool} {pollf : Option Int} (hpcb : s.pcb p = some ⟨c, recv⟩)
    (h : Polled srv c T closing closed s s') :
    Proper srv T (.poll p closing closed pollf) s (s'.setQuiet c (s'.quiet c + 1)) := by
  have hpoll (d : Nat) : s.IsPoll d (.poll p closing closed pollf) ↔ d = c ∧ ¬ s.Ends c closing closed := by
    constructor
    · rintro ⟨⟨recv', hd⟩, hends⟩
      obtain rfl : c = d := congrArg Callbacks.arg (Option.some.inj (hpcb.symm.trans hd))
      exact ⟨rfl, hends⟩
    · rintro ⟨rfl, hends⟩
      exact ⟨⟨recv, hpcb⟩, hends⟩
  refine ⟨fun d _ hd => hd.elim, fun d hlive hd => ?_, fun d hlive _ hd => ?_, fun d hlive hd hfull => ?_, fun hnone => ?_⟩
  · obtain ⟨rfl, hends⟩ := (hpoll d).mp hd
    exact (h.counted hlive hends).1
  · by_cases hdc : d = c
    · subst hdc
      exact (h.ended hlive (Classical.byContradiction fun hends => hd ((hpoll d).mpr ⟨rfl, hends⟩))).1
    · exact h.other d hdc
  · obtain ⟨rfl, hends⟩ := (hpoll d).mp hd
    exact ⟨(h.counted hlive hends).2.trans (if_pos hfull), h.aborted hlive hfull⟩
  · by_cases hlive : s.Live srv c
    · by_cases hends : s.Ends c closing closed
      · exact (h.ended hlive hends).2.2
      · exact (h.counted hlive hends).2.trans (if_neg (hnone c hlive ((hpoll c).mpr ⟨rfl, hends⟩)))
    · exact h.freed hlive

theorem run_recv (s : NetPool) (p : Nat) (received : Received) (hnone : ∀ c, s.pcb p ≠ some ⟨c, true⟩) :
    (tcpEvent srv (.recv p received)).run s = .ok ((), s) := by
  simp only [tcpEvent, run_bind, run_get, ok_bind]
  split
  · exact absurd ‹_› (hnone _)
  · exact absurd ‹_› (hnone _)
  · rfl

theorem Inv.recv (h : Inv srv T (fun _ => False) s) (hcounts : Counts srv T s) (htimeout : 0 < T) {received : Received}
    (hcareful : s.Careful srv (.recv p received)) :
    ∃ s', (tcpEvent srv (.recv p received)).run s = .ok ((), s') ∧ Inv srv T (fun _ => False) s' ∧ Counts srv T s' ∧
      Proper srv T (.recv p received) s s' := by
  by_cases hregistered : ∃ c, s.pcb p = some ⟨c, true⟩
  · obtain ⟨c, hpcb⟩ := hregistered
    have hattached : s.Attached p := by
      cases received
      case data => exact hcareful.1
      all_goals exact hcareful
    have hcurrent : s.Current p c := fun r hr => by
      obtain rfl : ⟨c, true⟩ = r := Option.some.inj (hpcb.symm.trans hr)
      exact ⟨rfl, hattached _ hpcb⟩
    have hno (hdata : received ≠ .data) (d : Nat) : ¬ s.IsTraffic d (.recv p received) := by
      cases received
      case data => exact absurd rfl hdata
      all_goals exact id
    cases received with
    | data =>
      have hslot := h.arg p _ hpcb
      obtain ⟨s', hrun, hinv, htouched⟩ := h.touch hslot (fun hlive => (hcounts.pos hlive)) (hcareful.2 _ hpcb)
      refine ⟨s'.setQuiet c 0, ?_, hinv.setQuiet _, hcounts.touched htimeout htouched,
        htouched.proper (fun d => ?_) fun d => id⟩
      · simp only [tcpEvent, net_tcp_recv_cb, run_bind, run_get, ok_bind, hpcb, hrun, run_pure, run_modify]
      · constructor
        · intro hd
          exact (congrArg Callbacks.arg (Option.some.inj (hpcb.symm.trans hd))).symm
        · rintro rfl
          exact hpcb
    | noMemory =>
      refine ⟨s, ?_, h, hcounts, (Shrinks.refl s).proper (hno (by simp)) fun d => id⟩
      simp only [tcpEvent, net_tcp_recv_cb, run_bind, run_get, ok_bind, hpcb, run_pure]
    | closed =>
      obtain ⟨s', hrun, hinv, hshrinks⟩ := h.abort hcurrent
      refine ⟨s', ?_, hinv, hcounts.shrinks hshrinks, hshrinks.proper (hno (by simp)) fun d => id⟩
      simp only [tcpEvent, net_tcp_recv_cb, run_bind, run_get, ok_bind, hpcb, hrun, run_pure]
    | error err_ret =>
      by_cases habort : err_ret = ERR_ABRT
      · obtain ⟨s', hrun, hinv, hshrinks⟩ := h.abort hcurrent
        refine ⟨s', ?_, hinv, hcounts.shrinks hshrinks, hshrinks.proper (hno (by simp)) fun d => id⟩
        simp only [tcpEvent, net_tcp_recv_cb, run_bind, run_get, ok_bind, hpcb, habort, if_true, hrun, run_pure]
      · refine ⟨s, ?_, h, hcounts, (Shrinks.refl s).proper (hno (by simp)) fun d => id⟩
        simp only [tcpEvent, net_tcp_recv_cb, run_bind, run_get, ok_bind, hpcb, if_neg habort, run_pure]
  · refine ⟨s, run_recv s p received fun c hc => hregistered ⟨c, hc⟩, h, hcounts, (Shrinks.refl s).proper (fun d hd => ?_) fun d => id⟩
    cases received
    case data => exact hregistered ⟨d, hd⟩
    all_goals exact hd

theorem Inv.poll (h : Inv srv T (fun _ => False) s) (hcounts : Counts srv T s) {closing closed : Bool} {pollf : Option Int}
    (hattached : s.Attached p) :
    ∃ s', (tcpEvent srv (.poll p closing closed pollf)).run s = .ok ((), s') ∧ Inv srv T (fun _ => False) s' ∧ Counts srv T s' ∧
      Proper srv T (.poll p closing closed pollf) s s' := by
  cases hpcb : s.pcb p with
  | none =>
    refine ⟨s, ?_, h, hcounts, (Shrinks.refl s).proper (fun d => id) fun d hd => ?_⟩
    · simp only [tcpEvent, run_bind, run_get, ok_bind, hpcb]
      rfl
    · obtain ⟨⟨recv, hd⟩, -⟩ := hd
      rw [hpcb] at hd
      cases hd
  | some r =>
    obtain ⟨ret, s', hrun, hinv, hpolled⟩ := h.poll_cb hcounts hpcb (hattached r hpcb) closing closed pollf
    refine ⟨s'.setQuiet r.arg (s'.quiet r.arg + 1), ?_, hinv.setQuiet _, hcounts.polled hpolled, hpolled.proper hpcb⟩
    simp only [tcpEvent, run_bind, run_get, ok_bind, hpcb, hrun, run_modify]

theorem Counts.accepted {n : Nat} {s₁ : NetPool} (hcounts : Counts srv T s) (htimeout : 0 < T) (hunused : (s.g_net_conn n).used = false)
    (haccepted : Accepted n p T s s₁) (h : Shrinks s₁ s') :
    Counts srv T { s' with quiet := fun c => if (s.g_net_conn c).used then s'.quiet c else 0 } := by
  intro d hafter
  have hused : (s₁.g_net_conn d).used = true := h.used d hafter.2
  have hpos : 0 < T.toNat := UInt32.lt_iff_toNat_lt.mp htimeout
  by_cases hd : d = n
  · rw [hd]
    simp [hunused, h.idle_time, haccepted.self.2.2.1, hpos]
  · rw [haccepted.other d hd] at hused
    have := hcounts d ⟨hafter.1, hused⟩
    simpa [hused, h.quiet, h.idle_time, haccepted.quiet, haccepted.other d hd] using this

/-- What happens to a new connection does not count for the others. -/
theorem Accepted.proper {n : Nat} {s₁ : NetPool} {acceptf : Option Int} {quiet : Nat → Nat} (hunused : (s.g_net_conn n).used = false)
    (haccepted : Accepted n p T s s₁) (h : Shrinks s₁ s') : Proper srv T (.accept p acceptf) s { s' with quiet := quiet } where
  traffic c _ hc := hc.elim
  poll c _ hc := hc.elim
  other c hlive _ _ := by
    have hc : c ≠ n := by
      rintro rfl
      exact NetPool.not_live hunused hlive
    exact (h.idle_time c).trans (congrArg tls_netconn.idle_time (haccepted.other c hc))
  idled c _ hc := hc.elim
  kept _ := h.idled.trans haccepted.idled

theorem Inv.accept (h : Inv srv T (fun _ => False) s) (hcounts : Counts srv T s) (hsrv : srv < TLS_MAX_SOCKET_NUM) (htimeout : 0 < T)
    (hfresh : s.Fresh p) (acceptf : Option Int) :
    ∃ s', (tcpEvent srv (.accept p acceptf)).run s = .ok ((), s') ∧ Inv srv T (fun _ => False) s' ∧ Counts srv T s' ∧
      Proper srv T (.accept p acceptf) s s' := by
  obtain ⟨err, s', hrun, hinv, ⟨rfl, rfl⟩ | ⟨n, s₁, hslot, hunused, haccepted, hshrinks, hstays⟩⟩ := h.accept_cb hsrv hfresh acceptf
  · refine ⟨{ s' with quiet := fun c => if (s'.g_net_conn c).used then s'.quiet c else 0 }, ?_, hinv.setQuiet _, fun c hlive => ?_,
      ⟨fun c _ hc => hc.elim, fun c _ hc => hc.elim, fun c _ _ _ => rfl, fun c _ hc => hc.elim, fun _ => rfl⟩⟩
    · simp only [tcpEvent, run_bind, run_get, ok_bind, hrun]
      rfl
    · simpa [show (s'.g_net_conn c).used = true from hlive.2] using hcounts c hlive
  · by_cases herr : err ≠ ERR_OK ∧ err ≠ ERR_ABRT
    · obtain rfl := hstays herr.2
      have hcurrent : s'.Current p n := fun r hr => by
        rw [haccepted.pcb, setPcb_self] at hr
        cases hr
        exact ⟨rfl, haccepted.self.2.2.2⟩
      obtain ⟨t, habort, hinv', hshrinks'⟩ := hinv.abort hcurrent
      refine ⟨_, ?_, hinv'.setQuiet _, hcounts.accepted htimeout hunused haccepted hshrinks', haccepted.proper hunused hshrinks'⟩
      simp only [tcpEvent, run_bind, run_get, ok_bind, hrun, if_pos herr, habort]
      rfl
    · refine ⟨_, ?_, hinv.setQuiet _, hcounts.accepted htimeout hunused haccepted hshrinks, haccepted.proper hunused hshrinks⟩
      simp only [tcpEvent, run_bind, run_get, ok_bind, hrun, if_neg herr]
      rfl

theorem Inv.write (h : Inv srv T (fun _ => False) s) (hcounts : Counts srv T s) (htimeout : 0 < T) (hslot : Slot srv c)
    (hrefreshes : s.Refreshes srv c) (sent : Int) :
    ∃ s', (tcpEvent srv (.write c sent)).run s = .ok ((), s') ∧ Inv srv T (fun _ => False) s' ∧ Counts srv T s' ∧
      Proper srv T (.write c sent) s s' := by
  obtain ⟨err, s', hrun, hinv, htouched⟩ := h.do_write hslot (fun hlive => hcounts.pos hlive) hrefreshes sent
  refine ⟨s'.setQuiet c 0, ?_, hinv.setQuiet _, hcounts.touched htimeout htouched, htouched.proper (fun d => eq_comm) fun d => id⟩
  simp only [tcpEvent, run_bind, ok_bind, hrun, run_modify]

/-- Every event does what it is to do about the idle times. -/
theorem Inv.step (h : Inv srv T (fun _ => False) s) (hcounts : Counts srv T s) (hsrv : srv < TLS_MAX_SOCKET_NUM) (htimeout : 0 < T)
    (hallowed : s.Allowed srv e) (hcareful : s.Careful srv e) :
    ∃ s', (tcpEvent srv e).run s = .ok ((), s') ∧ Inv srv T (fun _ => False) s' ∧ Counts srv T s' ∧ Proper srv T e s s' := by
  cases e with
  | accept p acceptf => exact h.accept hcounts hsrv htimeout hallowed.2 acceptf
  | recv p received => exact h.recv hcounts htimeout hcareful
  | poll p closing closed pollf => exact h.poll hcounts hcareful
  | err p =>
    have hstep : ∃ s', (ZCloud.tcp_abort p).run s = .ok ((), s') ∧ Inv srv T (fun _ => False) s' ∧ Shrinks s s' := by
      cases hpcb : s.pcb p with
      | none => exact ⟨s, run_tcp_abort_none hpcb, h, .refl s⟩
      | some r => exact h.abort fun r' hr' => ⟨(congrArg Callbacks.arg (Option.some.inj (hpcb.symm.trans hr'))).symm, hcareful r hpcb⟩
    obtain ⟨s', hrun, hinv, hshrinks⟩ := hstep
    exact ⟨s', hrun, hinv, hcounts.shrinks hshrinks, hshrinks.proper (fun d => id) fun d => id⟩
  | write c sent => exact h.write hcounts htimeout hallowed hcareful sent
  | close c closed =>
    obtain ⟨s', hrun, hinv, hshrinks⟩ := h.do_close hallowed
    exact ⟨s', hrun, hinv, hcounts.shrinks hshrinks, hshrinks.proper (fun d => id) fun d => id⟩

/-- What holds after every run. -/
theorem Listens.runs {s₀ : NetPool} (hlistens : Listens srv T s₀)
    (hruns : Runs (tcpEvent srv) (fun s e => s.Allowed srv e ∧ s.Careful srv e) s₀ s) :
    Inv srv T (fun _ => False) s ∧ Counts srv T s := by
  refine hruns.invariant (I := fun s => Inv srv T (fun _ => False) s ∧ Counts srv T s) ⟨hlistens.inv, fun c hlive => absurd hlive hlistens.not_live⟩ ?_
  rintro t u e ⟨hinv, hcounts⟩ ⟨hallowed, hcareful⟩ hrun
  obtain ⟨u', hrun', hinv', hcounts', -⟩ := hinv.step hcounts hlistens.socket hlistens.timeout hallowed hcareful
  obtain rfl := (Prod.mk.inj (Except.ok.inj (hrun'.symm.trans hrun))).2
  exact ⟨hinv', hcounts'⟩

end NetPool

open NetPool

/-- As long as every connection with something on it is followed by a node with the
timeout, and no control block calls back with a connection that it is not of, the idle
times count the polls without traffic. -/
theorem net_tcp_idle_time {srv : Nat} {T : UInt32} {s₀ s : NetPool} {e : TcpEvent} (hlistens : Listens srv T s₀)
    (hruns : Runs (tcpEvent srv) (fun s e => s.Allowed srv e ∧ s.Careful srv e) s₀ s) (hallowed : s.Allowed srv e)
    (hcareful : s.Careful srv e) :
    (∀ c, s.Live srv c → (s.g_net_conn c).idle_time.toNat + s.quiet c = T.toNat) ∧
      ∃ s', (tcpEvent srv e).run s = .ok ((), s') ∧ Proper srv T e s s' := by
  obtain ⟨hinv, hcounts⟩ := hlistens.runs hruns
  obtain ⟨s', hrun, -, -, hproper⟩ := hinv.step hcounts hlistens.socket hlistens.timeout hallowed hcareful
  exact ⟨fun c hlive => (hcounts c hlive).2, s', hrun, hproper⟩

/-- The first server that listens, with the control block `0`. -/
def listening (T : UInt32) : NetPool where
  g_net_conn c := ⟨decide (c = 0), false, NETCONN_STATE_NONE, false, if c = 0 then T else 0, if c = 0 then some 0 else none⟩
  links := ⟨fun c => if c = 0 then some 0 else none, fun c => if c = 0 then some 0 else none⟩
  pcb _ := none
  quiet _ := 0
  idled := []

theorem listens_listening {T : UInt32} (h : 0 < T) : Listens 0 T (listening T) where
  socket := by decide
  timeout := h
  server := ⟨rfl, rfl⟩
  tcp := ⟨0, rfl⟩
  links := ⟨rfl, rfl⟩
  unused c hslot := by
    have hne := ne_server_of_slot hslot
    simp [listening, hne, Links.first]
  pcb _ := rfl

instance (s : NetPool) (p : Nat) : Decidable (s.Fresh p) :=
  inferInstanceAs (Decidable (s.pcb p = none ∧ ∀ c < TLS_MAX_NETCONN_NUM, (s.g_net_conn c).used = true → (s.g_net_conn c).tcp ≠ some p))

/-- Whether an accept or a poll may come. -/
def NetPool.check (srv : Nat) (s : NetPool) : TcpEvent → Bool
  | .accept p _ => (s.g_net_conn srv).used && decide (s.Fresh p)
  | .poll p _ _ _ => (s.pcb p).all fun r => (s.g_net_conn r.arg).tcp = some p
  | _ => false

theorem NetPool.of_check {srv : Nat} {s : NetPool} {e : TcpEvent} (h : s.check srv e = true) : s.Allowed srv e ∧ s.Careful srv e := by
  cases e with
  | accept p acceptf =>
    obtain ⟨hused, hfresh⟩ := Bool.and_eq_true_iff.mp h
    exact ⟨⟨hused, of_decide_eq_true hfresh⟩, trivial⟩
  | poll p closing closed pollf =>
    refine ⟨trivial, fun r hr => ?_⟩
    rw [NetPool.check, hr] at h
    exact of_decide_eq_true h
  | _ => cases h

/-- Two connections are accepted, and the second one is polled. -/
def twoClients : List TcpEvent := [.accept 1 none, .accept 2 none, .poll 2 false false none]

/-- The server follows the second one, and the second one follows the first one. -/
theorem runs_twoClients : ∃ s, Runs (tcpEvent 0) (fun s e => s.Allowed 0 e ∧ s.Careful 0 e) (listening 5) s ∧
    s.pcb 1 = some ⟨4, true⟩ ∧ s.pcb 2 = some ⟨5, true⟩ ∧ s.links.first 4 = some 5 ∧ s.links.first 5 = some 0 ∧
    (s.g_net_conn 4 = ⟨true, true, NETCONN_STATE_CONNECTED, false, 5, some 1⟩) ∧
    (s.g_net_conn 5 = ⟨true, true, NETCONN_STATE_CONNECTED, false, 4, some 2⟩) ∧ (s.g_net_conn 0).idle_time = 5 := by
  obtain ⟨s, hreplay, h⟩ := Option.map_eq_some_iff.mp (show (replay (tcpEvent 0) (NetPool.check 0) twoClients (listening 5)).map
    (fun s => (s.pcb 1, s.pcb 2, s.links.first 4, s.links.first 5, s.g_net_conn 4, s.g_net_conn 5, (s.g_net_conn 0).idle_time)) =
      some (some ⟨4, true⟩, some ⟨5, true⟩, some 5, some 0, ⟨true, true, NETCONN_STATE_CONNECTED, false, 5, some 1⟩,
        ⟨true, true, NETCONN_STATE_CONNECTED, false, 4, some 2⟩, 5) by rfl)
  simp only [Prod.mk.injEq] at h
  exact ⟨s, runs_of_replay (fun s e => NetPool.of_check) hreplay, h⟩

theorem live_of_used {s : NetPool} {i : Nat} (hi : i < 4) (hused : (s.g_net_conn (4 + i)).used = true) : s.Live 0 (4 + i) :=
  ⟨⟨i, hi, by simp⟩, hused⟩

/-- What is received on the connection that was accepted last. -/
theorem net_tcp_idle_time_last : ∃ s s', Runs (tcpEvent 0) (fun s e => s.Allowed 0 e ∧ s.Careful 0 e) (listening 5) s ∧
    s.Live 0 5 ∧ (s.g_net_conn 5).idle_time = 4 ∧ (tcpEvent 0 (.recv 2 .data)).run s = .ok ((), s') ∧
    (s'.g_net_conn 5).idle_time = 5 := by
  obtain ⟨s, hruns, -, hpcb, -, hfirst, -, hconn, hserver⟩ := runs_twoClients
  have hlive : s.Live 0 5 := @live_of_used s 1 (by decide) (by rw [hconn])
  have hattached : s.Attached 2 := fun r hr => by
    obtain rfl : ⟨5, true⟩ = r := Option.some.inj (hpcb.symm.trans hr)
    rw [hconn]
  have hrefreshes : ∀ r, s.pcb 2 = some r → s.Refreshes 0 r.arg := fun r hr => by
    obtain rfl : ⟨5, true⟩ = r := Option.some.inj (hpcb.symm.trans hr)
    exact fun _ => ⟨0, hfirst, rfl⟩
  obtain ⟨-, s', hrun, hproper⟩ := @net_tcp_idle_time 0 5 _ s (.recv 2 .data) (listens_listening (by decide)) hruns trivial
    ⟨hattached, hrefreshes⟩
  exact ⟨s, s', hruns, hlive, by rw [hconn], hrun, hproper.traffic 5 hlive hpcb⟩

/-- What is received on the connection before it: it gets what the second one has left. -/
theorem net_tcp_idle_time_first : ∃ s s', Runs (tcpEvent 0) (fun s e => s.Allowed 0 e) (listening 5) s ∧ s.Live 0 4 ∧
    s.Allowed 0 (.recv 1 .data) ∧ s.IsTraffic 4 (.recv 1 .data) ∧ (tcpEvent 0 (.recv 1 .data)).run s = .ok ((), s') ∧
    (s'.g_net_conn 4).idle_time = 4 ∧ ¬ Proper 0 5 (.recv 1 .data) s s' := by
  obtain ⟨s, hruns, hpcb, -, hfirst, -, hconn, hnext, -⟩ := runs_twoClients
  have hlive : s.Live 0 4 := @live_of_used s 0 (by decide) (by rw [hconn])
  have hidle : (((s.setConn 4 { s.g_net_conn 4 with idle_time := (s.g_net_conn 5).idle_time }).setQuiet 4 0).g_net_conn 4).idle_time = 4 := by
    simp [NetPool.setQuiet, NetPool.setConn, hnext]
  refine ⟨s, _, hruns.mono (fun _ _ h => h.1), hlive, trivial, hpcb, ?_, hidle, fun hproper => ?_⟩
  · have hcond : (s.g_net_conn 4).client = true ∧ (s.g_net_conn 4).idle_time > 0 := by
      rw [hconn]
      decide
    simp only [tcpEvent, net_tcp_recv_cb, touch, run_bind, run_get, ok_bind, hpcb]
    rw [if_pos hcond, hfirst]
    rfl
  · have heq := hproper.traffic 4 hlive hpcb
    rw [hidle] at heq
    exact absurd heq (by decide)

end ZCloud
