import ZCloud.Network.Netconn

open Memory Program DlList

namespace ZCloud

/-- The sockets for the connections that the server `srv` accepts. -/
def Slot (srv c : Nat) : Prop := ∃ i < TLS_MAX_SOCKET_NUM, c = (srv + 1) * 4 + i

namespace NetPool

variable {srv c d p : Nat} {T : UInt32} {s s' t : NetPool} {exempt : Nat → Prop}

/-- An accepted connection that has not been freed. -/
def Live (srv : Nat) (s : NetPool) (c : Nat) : Prop := Slot srv c ∧ (s.g_net_conn c).used = true

/-- What holds between the events at a server with the timeout `T`. The control blocks
of the `exempt` connections are on their way out. -/
structure Inv (srv : Nat) (T : UInt32) (exempt : Nat → Prop) (s : NetPool) : Prop where
  server : (s.g_net_conn srv).client = false ∧ (s.g_net_conn srv).idle_time = T
  listed : ∃ items, IsList s.links srv items ∧ ∀ c, c ∈ items ↔ s.Live srv c
  client : ∀ c, s.Live srv c → (s.g_net_conn c).client = true
  tcp : ∀ c, s.Live srv c → ¬ exempt c → ∃ p recv, (s.g_net_conn c).tcp = some p ∧ s.pcb p = some ⟨c, recv⟩
  listening : (s.g_net_conn srv).used = true → ∃ p, (s.g_net_conn srv).tcp = some p ∧ s.pcb p = none
  alone : ∀ c, Slot srv c → (s.g_net_conn c).used = false → s.links.first c = none
  arg : ∀ p callbacks, s.pcb p = some callbacks → Slot srv callbacks.arg

/-- The idle time of every connection is what is left of the timeout. -/
def Counts (srv : Nat) (T : UInt32) (s : NetPool) : Prop :=
  ∀ c, s.Live srv c → s.quiet c < T.toNat ∧ (s.g_net_conn c).idle_time.toNat + s.quiet c = T.toNat

/-- Connections are freed, and nothing is counted. -/
structure Shrinks (s s' : NetPool) : Prop where
  used : ∀ c, (s'.g_net_conn c).used = true → (s.g_net_conn c).used = true
  idle_time : ∀ c, (s'.g_net_conn c).idle_time = (s.g_net_conn c).idle_time
  quiet : s'.quiet = s.quiet
  idled : s'.idled = s.idled

theorem Shrinks.refl (s : NetPool) : Shrinks s s := ⟨fun _ => id, fun _ => rfl, rfl, rfl⟩

theorem Shrinks.trans (h : Shrinks s s') (h' : Shrinks s' t) : Shrinks s t where
  used c hc := h.used c (h'.used c hc)
  idle_time c := (h'.idle_time c).trans (h.idle_time c)
  quiet := h'.quiet.trans h.quiet
  idled := h'.idled.trans h.idled

theorem Shrinks.unused (h : Shrinks s s') (hused : (s.g_net_conn c).used = false) : (s'.g_net_conn c).used = false := by
  refine Bool.eq_false_iff.mpr fun hc => ?_
  rw [h.used c hc] at hused
  exact Bool.noConfusion hused

theorem Counts.shrinks (hcounts : Counts srv T s) (h : Shrinks s s') : Counts srv T s' := by
  intro c hlive
  rw [h.quiet, h.idle_time]
  exact hcounts c ⟨hlive.1, h.used c hlive.2⟩

theorem ne_server_of_slot (h : Slot srv c) : c ≠ srv := by
  obtain ⟨i, hi, rfl⟩ := h
  omega

@[simp]
theorem setConn_self (s : NetPool) (c : Nat) (conn : tls_netconn) : (s.setConn c conn).g_net_conn c = conn := by
  simp [setConn]

theorem setConn_of_ne (hne : d ≠ c) (s : NetPool) (conn : tls_netconn) : (s.setConn c conn).g_net_conn d = s.g_net_conn d := by
  simp [setConn, hne]

@[simp]
theorem setPcb_self (s : NetPool) (p : Nat) (callbacks : Option Callbacks) : (s.setPcb p callbacks).pcb p = callbacks := by
  simp [setPcb]

theorem setPcb_of_ne {q : Nat} (hne : q ≠ p) (s : NetPool) (callbacks : Option Callbacks) :
    (s.setPcb p callbacks).pcb q = s.pcb q := by
  simp [setPcb, hne]

/-- The connections but for their states, and for what is left of their idle times. -/
structure Agrees (srv : Nat) (s s' : NetPool) : Prop where
  used : ∀ c, (s'.g_net_conn c).used = (s.g_net_conn c).used
  client : ∀ c, (s'.g_net_conn c).client = (s.g_net_conn c).client
  timeout : (s'.g_net_conn srv).idle_time = (s.g_net_conn srv).idle_time
  tcp : ∀ c, (s'.g_net_conn c).tcp = (s.g_net_conn c).tcp

theorem Agrees.live (h : Agrees srv s s') (c : Nat) : s'.Live srv c ↔ s.Live srv c := by
  rw [Live, Live, h.used]

theorem Inv.of_agrees (h : Inv srv T exempt s) (ha : Agrees srv s s') (hlinks : s'.links = s.links) (hpcb : s'.pcb = s.pcb) :
    Inv srv T exempt s' where
  server := by rw [ha.client, ha.timeout]; exact h.server
  listed := by
    obtain ⟨items, hlist, hmem⟩ := h.listed
    exact ⟨items, hlinks ▸ hlist, fun c => (hmem c).trans (ha.live c).symm⟩
  client c hc := by rw [ha.client]; exact h.client c ((ha.live c).mp hc)
  tcp c hc hexempt := by rw [ha.tcp, hpcb]; exact h.tcp c ((ha.live c).mp hc) hexempt
  listening hused := by
    rw [ha.used] at hused
    rw [ha.tcp, hpcb]
    exact h.listening hused
  alone c hslot hused := by
    rw [ha.used] at hused
    rw [hlinks]
    exact h.alone c hslot hused
  arg q callbacks hq := h.arg q callbacks (hpcb ▸ hq)

theorem agrees_setConn {conn : tls_netconn} (hne : c ≠ srv) (hused : conn.used = (s.g_net_conn c).used)
    (hclient : conn.client = (s.g_net_conn c).client) (htcp : conn.tcp = (s.g_net_conn c).tcp) : Agrees srv s (s.setConn c conn) where
  used d := by
    by_cases hd : d = c
    · rw [hd, setConn_self, hused]
    · rw [setConn_of_ne hd]
  client d := by
    by_cases hd : d = c
    · rw [hd, setConn_self, hclient]
    · rw [setConn_of_ne hd]
  timeout := by rw [setConn_of_ne hne.symm]
  tcp d := by
    by_cases hd : d = c
    · rw [hd, setConn_self, htcp]
    · rw [setConn_of_ne hd]

/-- A control block belongs to one connection. -/
theorem Inv.tcp_ne (h : Inv srv T exempt s) {recv : Bool} (hpcb : s.pcb p = some ⟨c, recv⟩) (hd : s.Live srv d) (hexempt : ¬ exempt d)
    (hne : d ≠ c) : (s.g_net_conn d).tcp ≠ some p := by
  obtain ⟨q, recv', htcp, hq⟩ := h.tcp d hd hexempt
  rintro heq
  obtain rfl : q = p := Option.some.inj (htcp.symm.trans heq)
  rw [hpcb] at hq
  exact hne (congrArg Callbacks.arg (Option.some.inj hq)).symm

/-- What becomes of the callbacks of a control block matters to its connection only. -/
theorem Inv.setPcb (h : Inv srv T exempt s) {exempt' : Nat → Prop} {callbacks : Option Callbacks}
    (hexempt : ∀ d, s.Live srv d → ¬ exempt' d → ¬ exempt d ∧ (s.g_net_conn d).tcp ≠ some p)
    (hlisten : (s.g_net_conn srv).used = true → callbacks ≠ none → (s.g_net_conn srv).tcp ≠ some p)
    (harg : ∀ r, callbacks = some r → Slot srv r.arg) : Inv srv T exempt' (s.setPcb p callbacks) where
  server := h.server
  listed := h.listed
  client := h.client
  tcp d hd hd' := by
    obtain ⟨hnot, hne⟩ := hexempt d hd hd'
    obtain ⟨q, recv, htcp, hq⟩ := h.tcp d hd hnot
    have hqp : q ≠ p := fun heq => hne (heq ▸ htcp)
    exact ⟨q, recv, htcp, by rw [setPcb_of_ne hqp]; exact hq⟩
  listening hused := by
    obtain ⟨q, htcp, hq⟩ := h.listening hused
    refine ⟨q, htcp, ?_⟩
    by_cases hqp : q = p
    · rw [hqp, setPcb_self]
      exact Classical.byContradiction fun hsome => hlisten hused hsome (hqp ▸ htcp)
    · rw [setPcb_of_ne hqp]
      exact hq
  alone := h.alone
  arg q r hq := by
    by_cases hqp : q = p
    · rw [hqp, setPcb_self] at hq
      exact harg r hq
    · rw [setPcb_of_ne hqp] at hq
      exact h.arg q r hq

/-- Of the connections, `s'` has another one only at `c`. -/
structure Frees (c : Nat) (s s' : NetPool) : Prop where
  self : s'.g_net_conn c = { s.g_net_conn c with used := false }
  other : ∀ d, d ≠ c → s'.g_net_conn d = s.g_net_conn d
  pcb : s'.pcb = s.pcb
  quiet : s'.quiet = s.quiet
  idled : s'.idled = s.idled

theorem Frees.shrinks (h : Frees c s s') : Shrinks s s' where
  used d hd := by
    by_cases hdc : d = c
    · rw [hdc, h.self] at hd
      exact Bool.noConfusion hd
    · rwa [h.other d hdc] at hd
  idle_time d := by
    by_cases hdc : d = c
    · rw [hdc, h.self]
    · rw [h.other d hdc]
  quiet := h.quiet
  idled := h.idled

theorem Frees.live (h : Frees c s s') (d : Nat) : s'.Live srv d ↔ d ≠ c ∧ s.Live srv d := by
  by_cases hdc : d = c
  · simp [Live, hdc, h.self]
  · simp [Live, hdc, h.other d hdc]

theorem run_net_free_socket {a : Nat} {links : Links Nat} (hused : (s.g_net_conn c).used = true)
    (hclient : (s.g_net_conn c).client = true) (hprev : s.links.prev c = some a) (hne : a ≠ c) (hdel : s.links.del c = some links) :
    ∃ s', (net_free_socket c).run s = .ok ((), s') ∧ Frees c s s' ∧ s'.links = links := by
  have hcond : (s.g_net_conn c).client = true ∧ s.links.prev c ≠ none ∧ s.links.prev c ≠ some c := by simp [hclient, hprev, hne]
  refine ⟨{ s.setConn c { s.g_net_conn c with used := false } with links := links }, ?_,
    ⟨setConn_self .., fun d hd => setConn_of_ne hd .., rfl, rfl, rfl⟩, rfl⟩
  rw [net_free_socket, run_get_bind, if_neg (by simp [hused])]
  simp only [run_bind, run_modify, ok_bind, if_pos hcond, hdel]

/-- A connection that has been freed needs no exemption. -/
theorem Inv.release (h : Inv srv T (· = c) s) (hused : (s.g_net_conn c).used = false) : Inv srv T (fun _ => False) s :=
  { h with
    tcp := fun d hd _ => h.tcp d hd (by
      rintro rfl
      rw [hd.2] at hused
      exact Bool.noConfusion hused) }

/-- Nor does one that has its control block. -/
theorem Inv.restore (h : Inv srv T (· = c) s) {recv : Bool} (htcp : (s.g_net_conn c).tcp = some p)
    (hpcb : s.pcb p = some ⟨c, recv⟩) : Inv srv T (fun _ => False) s :=
  { h with
    tcp := fun d hd _ => by
      by_cases hdc : d = c
      · rw [hdc]
        exact ⟨p, recv, htcp, hpcb⟩
      · exact h.tcp d hd hdc }

/-- A connection that is freed leaves the list. -/
theorem Inv.free (h : Inv srv T exempt s) (hslot : Slot srv c) : ∃ s', (net_free_socket c).run s = .ok ((), s') ∧
    Inv srv T exempt s' ∧ Frees c s s' := by
  by_cases hused : (s.g_net_conn c).used = false
  · refine ⟨s, ?_, h, ?_, fun _ _ => rfl, rfl, rfl, rfl⟩
    · rw [net_free_socket, run_get_bind, if_pos hused]
      rfl
    · rw [← hused]
  · rw [Bool.not_eq_false] at hused
    obtain ⟨items, hlist, hmem⟩ := h.listed
    have hlive : s.Live srv c := ⟨hslot, hused⟩
    have hcmem : c ∈ items := (hmem c).mpr hlive
    obtain ⟨a, hprev, hne⟩ := hlist.prev hcmem
    obtain ⟨links, hdel, hlist', hnext', -, hkeeps⟩ := hlist.del hcmem
    obtain ⟨s', hrun, hfrees, hlinks⟩ := run_net_free_socket hused (h.client c hlive) hprev hne hdel
    have hserver : s'.g_net_conn srv = s.g_net_conn srv := hfrees.other srv (ne_server_of_slot hslot).symm
    refine ⟨s', hrun, ?_, hfrees⟩
    constructor
    · rw [hserver]
      exact h.server
    · refine ⟨items.erase c, hlinks ▸ hlist', fun d => ?_⟩
      rw [hfrees.live, ← hmem]
      exact (List.nodup_cons.mp hlist.nodup).2.mem_erase_iff
    · intro d hd
      obtain ⟨hdc, hd⟩ := (hfrees.live d).mp hd
      rw [hfrees.other d hdc]
      exact h.client d hd
    · intro d hd hexempt
      obtain ⟨hdc, hd⟩ := (hfrees.live d).mp hd
      rw [hfrees.other d hdc, hfrees.pcb]
      exact h.tcp d hd hexempt
    · rw [hserver, hfrees.pcb]
      exact h.listening
    · intro d hd hdused
      rw [hlinks]
      by_cases hdc : d = c
      · rw [hdc, Links.first, hnext', if_neg (by simp)]
      · rw [hfrees.other d hdc] at hdused
        have hnot : d ∉ srv :: items := by
          rw [List.mem_cons, hmem]
          rintro (heq | hlive)
          · exact ne_server_of_slot hd heq
          · rw [hlive.2] at hdused
            exact Bool.noConfusion hdused
        have halone := h.alone d hd hdused
        rw [Links.first] at halone ⊢
        rw [hkeeps.next d hnot]
        exact halone
    · rw [hfrees.pcb]
      exact h.arg

/-- The connection `c` with the control block `p` is gone. -/
structure Shut (c p : Nat) (s s' : NetPool) : Prop where
  used : (s'.g_net_conn c).used = false
  other : ∀ d, d ≠ c → s'.g_net_conn d = s.g_net_conn d
  pcb : s'.pcb = (s.setPcb p none).pcb
  shrinks : Shrinks s s'

/-- The control block of a connection on its way out does not matter. -/
theorem Inv.setTcp (h : Inv srv T exempt s) (hslot : Slot srv c) (hout : s.Live srv c → exempt c) {state : NetconnState}
    {tcp : Option Nat} : Inv srv T exempt (s.setConn c { s.g_net_conn c with state := state, tcp := tcp }) := by
  have hlive (d : Nat) : (s.setConn c { s.g_net_conn c with state := state, tcp := tcp }).Live srv d ↔ s.Live srv d := by
    by_cases hdc : d = c
    · simp [Live, hdc]
    · simp [Live, setConn_of_ne hdc]
  have hserver := setConn_of_ne (ne_server_of_slot hslot).symm s { s.g_net_conn c with state := state, tcp := tcp }
  constructor
  · rw [hserver]
    exact h.server
  · obtain ⟨items, hlist, hmem⟩ := h.listed
    exact ⟨items, hlist, fun d => (hmem d).trans (hlive d).symm⟩
  · intro d hd
    have hclient := h.client d ((hlive d).mp hd)
    by_cases hdc : d = c
    · rw [hdc, setConn_self]
      rwa [hdc] at hclient
    · rwa [setConn_of_ne hdc]
  · intro d hd hexempt
    have hd' := (hlive d).mp hd
    have hdc : d ≠ c := by
      rintro rfl
      exact hexempt (hout hd')
    rw [setConn_of_ne hdc]
    exact h.tcp d hd' hexempt
  · rw [hserver]
    exact h.listening
  · intro d hd hdused
    refine h.alone d hd ?_
    by_cases hdc : d = c
    · rw [hdc, setConn_self] at hdused
      rwa [hdc]
    · rwa [setConn_of_ne hdc] at hdused
  · exact h.arg

theorem not_live (hused : (s.g_net_conn c).used = false) : ¬ s.Live srv c := by
  intro hlive
  rw [hlive.2] at hused
  exact Bool.noConfusion hused

/-- The states of a connection and of its control block change before it is freed. -/
theorem shut_of_frees {s₁ s₂ : NetPool} {state state' : NetconnState} {tcp tcp' : Option Nat}
    (hs₁ : s₁ = (s.setPcb p none).setConn c { s.g_net_conn c with state := state, tcp := tcp }) (hfrees : Frees c s₁ s₂) :
    Shut c p s (s₂.setConn c { s₂.g_net_conn c with state := state', tcp := tcp' }) := by
  have hself : s₁.g_net_conn c = { s.g_net_conn c with state := state, tcp := tcp } := by rw [hs₁, setConn_self]
  have hother (d : Nat) (hd : d ≠ c) : s₁.g_net_conn d = s.g_net_conn d := by rw [hs₁, setConn_of_ne hd]; rfl
  have hpcb : s₁.pcb = (s.setPcb p none).pcb := by rw [hs₁]; rfl
  have hquiet : s₁.quiet = s.quiet := by rw [hs₁]; rfl
  have hidled : s₁.idled = s.idled := by rw [hs₁]; rfl
  constructor
  · rw [setConn_self, hfrees.self]
  · intro d hd
    rw [setConn_of_ne hd, hfrees.other d hd, hother d hd]
  · exact hfrees.pcb.trans hpcb
  · constructor
    · intro d hd
      by_cases hdc : d = c
      · rw [hdc, setConn_self, hfrees.self] at hd
        exact Bool.noConfusion hd
      · rwa [setConn_of_ne hdc, hfrees.other d hdc, hother d hdc] at hd
    · intro d
      by_cases hdc : d = c
      · rw [hdc, setConn_self, hfrees.self, hself]
      · rw [setConn_of_ne hdc, hfrees.other d hdc, hother d hdc]
    · exact hfrees.quiet.trans hquiet
    · exact hfrees.idled.trans hidled

/-- The error callback frees the connection of a control block that is gone. -/
theorem Inv.err_cb (h : Inv srv T (· = c) (s.setPcb p none)) (hslot : Slot srv c) (htcp : (s.g_net_conn c).tcp = some p) :
    ∃ s', (net_tcp_err_cb c).run s = .ok ((), s') ∧ Inv srv T (fun _ => False) s' ∧ Shut c p s s' := by
  have hagrees : Agrees srv (s.setPcb p none) ((s.setPcb p none).setConn c { s.g_net_conn c with state := NETCONN_STATE_NONE }) :=
    agrees_setConn (ne_server_of_slot hslot) rfl rfl rfl
  obtain ⟨s₂, hfree, hinv, hfrees⟩ := (h.of_agrees hagrees rfl rfl).free hslot
  have hused : (s₂.g_net_conn c).used = false := by rw [hfrees.self]
  refine ⟨s₂.setConn c { s₂.g_net_conn c with tcp := none }, ?_, (hinv.release hused).setTcp hslot (fun hlive => not_live hused hlive), ?_⟩
  · rw [net_tcp_err_cb, run_get_bind, htcp]
    simp only [run_bind, run_modify, ok_bind, hfree]
  · exact shut_of_frees rfl hfrees

/-- Where the callbacks of a control block are dropped, only its connection is exempt. -/
theorem Inv.dropPcb (h : Inv srv T (fun _ => False) s) {recv : Bool} (hpcb : s.pcb p = some ⟨c, recv⟩) :
    Inv srv T (· = c) (s.setPcb p none) :=
  h.setPcb (fun d hd hne => ⟨id, h.tcp_ne hpcb hd id hne⟩) (fun _ hnone => absurd rfl hnone) fun r hr => by cases hr

theorem setPcb_setPcb (s : NetPool) (p : Nat) (a b : Option Callbacks) : (s.setPcb p a).setPcb p b = s.setPcb p b := by
  simp [setPcb]

theorem Inv.tcp_abort (h : Inv srv T (fun _ => False) s) {recv : Bool} (hpcb : s.pcb p = some ⟨c, recv⟩)
    (htcp : (s.g_net_conn c).tcp = some p) :
    ∃ s', (tcp_abort p).run s = .ok ((), s') ∧ Inv srv T (fun _ => False) s' ∧ Shut c p s s' := by
  have hinv := h.dropPcb hpcb
  rw [← setPcb_setPcb s p none none] at hinv
  obtain ⟨s', hrun, hinv', hshut⟩ := Inv.err_cb hinv (h.arg p _ hpcb) htcp
  refine ⟨s', ?_, hinv', ⟨hshut.used, hshut.other, ?_, ⟨hshut.shrinks.used, hshut.shrinks.idle_time,
    hshut.shrinks.quiet, hshut.shrinks.idled⟩⟩⟩
  · rw [ZCloud.tcp_abort, run_get_bind, hpcb]
    simp only [run_bind, run_modify, ok_bind, hrun]
  · rw [hshut.pcb, setPcb_setPcb]

/-- A control block that calls nobody back is aborted without further ado. -/
theorem run_tcp_abort_none (hpcb : s.pcb p = none) : (tcp_abort p).run s = .ok ((), s) := by
  rw [ZCloud.tcp_abort, run_get_bind, hpcb]
  rfl

/-- A connection that is closed is gone, or its control block stays. -/
theorem Inv.close_connect (h : Inv srv T (fun _ => False) s) {recv : Bool} (hpcb : s.pcb p = some ⟨c, recv⟩)
    (htcp : (s.g_net_conn c).tcp = some p) (closed : Bool) :
    ∃ s', (net_tcp_close_connect closed c).run s = .ok ((), s') ∧ Inv srv T (fun _ => False) s' ∧
      (closed = true → Shut c p s s') ∧ (closed = false → s' = s.setPcb p (some ⟨c, false⟩)) := by
  have hslot := h.arg p _ hpcb
  cases closed with
  | true =>
    obtain ⟨s', hrun, hinv, hshut⟩ := Inv.err_cb (h.dropPcb hpcb) hslot htcp
    refine ⟨s', ?_, hinv, fun _ => hshut, fun h => Bool.noConfusion h⟩
    rw [net_tcp_err_cb, run_get_bind, htcp] at hrun
    rw [net_tcp_close_connect, run_get_bind, htcp]
    exact hrun
  | false =>
    refine ⟨s.setPcb p (some ⟨c, false⟩), ?_, ?_, fun h => Bool.noConfusion h, fun _ => rfl⟩
    · rw [net_tcp_close_connect, run_get_bind, htcp]
      rfl
    · have hexempt : Inv srv T (· = c) (s.setPcb p (some ⟨c, false⟩)) := by
        refine h.setPcb (fun d hd hne => ⟨id, h.tcp_ne hpcb hd id hne⟩) (fun hused _ heq => ?_) fun r hr => ?_
        · obtain ⟨q, hq, hnone⟩ := h.listening hused
          obtain rfl : q = p := Option.some.inj (hq.symm.trans heq)
          rw [hpcb] at hnone
          cases hnone
        · cases hr
          exact hslot
      exact hexempt.restore htcp (setPcb_self ..)

/-- A poll finds that the connection is to be closed. -/
def Ends (s : NetPool) (c : Nat) (closing closed : Bool) : Prop :=
  ¬ ((s.g_net_conn c).write_state = true ∧ (s.g_net_conn c).state = NETCONN_STATE_CONNECTED) ∧
    (if (s.g_net_conn c).state = NETCONN_STATE_CLOSED then closed else closing) = true

theorem Inv.pollState (h : Inv srv T (fun _ => False) s) {recv : Bool} (hpcb : s.pcb p = some ⟨c, recv⟩)
    (htcp : (s.g_net_conn c).tcp = some p) (closing closed : Bool) :
    ∃ s', (pollState c closing closed).run s = .ok ((), s') ∧ Inv srv T (fun _ => False) s' ∧
      (s.Ends c closing closed → Shut c p s s') ∧
      (¬ s.Ends c closing closed → ∃ recv', s' = s.setPcb p (some ⟨c, recv'⟩)) := by
  have hslot := h.arg p _ hpcb
  have hsame : s.setPcb p (some ⟨c, recv⟩) = s := by
    rw [← hpcb]
    simp [NetPool.setPcb]
  by_cases hwrite : (s.g_net_conn c).write_state = true ∧ (s.g_net_conn c).state = NETCONN_STATE_CONNECTED
  · refine ⟨s, ?_, h, fun hends => absurd hwrite hends.1, fun _ => ⟨recv, hsame.symm⟩⟩
    rw [ZCloud.pollState, run_get_bind, if_pos hwrite]
    rfl
  · by_cases hclosed : (s.g_net_conn c).state = NETCONN_STATE_CLOSED
    · obtain ⟨s', hrun, hinv, hshut, hstays⟩ := h.close_connect hpcb htcp closed
      refine ⟨s', ?_, hinv, fun hends => ?_, fun hends => ?_⟩
      · rw [ZCloud.pollState, run_get_bind, if_neg hwrite, if_pos hclosed]
        exact hrun
      · exact hshut (by simpa [hclosed] using hends.2)
      · refine ⟨false, hstays ?_⟩
        simpa [Ends, hwrite, hclosed] using hends
    · cases closing with
      | false =>
        refine ⟨s, ?_, h, fun hends => ?_, fun _ => ⟨recv, hsame.symm⟩⟩
        · rw [ZCloud.pollState, run_get_bind, if_neg hwrite, if_neg hclosed]
          rfl
        · simpa [hclosed] using hends.2
      | true =>
        have hinv := @Inv.setTcp _ c _ _ _ (h.dropPcb hpcb) hslot (fun _ => rfl) NETCONN_STATE_NONE none
        obtain ⟨s', hrun, hinv', hfrees⟩ := hinv.free hslot
        have hused : (s'.g_net_conn c).used = false := by rw [hfrees.self]
        refine ⟨s', ?_, hinv'.release hused, fun _ => ?_, fun hends => ?_⟩
        · rw [ZCloud.pollState, run_get_bind, if_neg hwrite, if_neg hclosed, if_pos rfl, htcp]
          simp only [run_bind, run_modify, ok_bind]
          exact hrun
        · have hshut := @shut_of_frees c p s _ s' NETCONN_STATE_NONE (s'.g_net_conn c).state none (s'.g_net_conn c).tcp rfl hfrees
          have hkeep : s'.setConn c { s'.g_net_conn c with state := (s'.g_net_conn c).state, tcp := (s'.g_net_conn c).tcp } = s' := by
            simp [setConn]
          rwa [hkeep] at hshut
        · exact absurd ⟨hwrite, by simp [hclosed]⟩ hends

/-- The control block calls back with its connection, if at all. -/
def Current (s : NetPool) (p c : Nat) : Prop := ∀ r, s.pcb p = some r → r.arg = c ∧ (s.g_net_conn c).tcp = some p

theorem Inv.abort (h : Inv srv T (fun _ => False) s) (hcurrent : s.Current p c) :
    ∃ s', (ZCloud.tcp_abort p).run s = .ok ((), s') ∧ Inv srv T (fun _ => False) s' ∧ Shrinks s s' := by
  cases hpcb : s.pcb p with
  | none => exact ⟨s, run_tcp_abort_none hpcb, h, .refl s⟩
  | some r =>
    obtain ⟨rfl, htcp⟩ := hcurrent r hpcb
    obtain ⟨s', hrun, hinv, hshut⟩ := h.tcp_abort hpcb htcp
    exact ⟨s', hrun, hinv, hshut.shrinks⟩

/-- What the callback of the user returns at the end of a poll. -/
theorem Inv.pollf (h : Inv srv T (fun _ => False) s) (hcurrent : s.Current p c) (pollf : Option Int) :
    ∃ ret s', (match pollf with
      | none => return ERR_OK
      | some err_ret => do
        if err_ret = ERR_ABRT then
          ZCloud.tcp_abort p
        return err_ret : Prog NetPool Int).run s = .ok (ret, s') ∧ Inv srv T (fun _ => False) s' ∧ Shrinks s s' := by
  cases pollf with
  | none => exact ⟨_, s, rfl, h, .refl s⟩
  | some err_ret =>
    by_cases habort : err_ret = ERR_ABRT
    · obtain ⟨s', hrun, hinv, hshrinks⟩ := h.abort hcurrent
      refine ⟨err_ret, s', ?_, hinv, hshrinks⟩
      simp only [habort, if_true, run_bind, hrun, ok_bind, run_pure]
    · exact ⟨err_ret, s, by simp only [if_neg habort]; rfl, h, .refl s⟩

/-- A live connection is followed by another node. -/
theorem Inv.first (h : Inv srv T exempt s) (hc : s.Live srv c) : (s.links.first c).isSome = true := by
  obtain ⟨items, hlist, hmem⟩ := h.listed
  obtain ⟨y, hfirst, -⟩ := hlist.first ((hmem c).mpr hc)
  rw [hfirst]
  rfl

/-- What a poll does about the idle time, as far as the events before it have not ended
the connection. -/
structure Polled (srv c : Nat) (T : UInt32) (closing closed : Bool) (s s' : NetPool) : Prop where
  quiet : s'.quiet = s.quiet
  other : ∀ d, d ≠ c → (s'.g_net_conn d).idle_time = (s.g_net_conn d).idle_time
  used : ∀ d, (s'.g_net_conn d).used = true → (s.g_net_conn d).used = true
  counted : s.Live srv c → ¬ s.Ends c closing closed → (s'.g_net_conn c).idle_time.toNat + 1 = (s.g_net_conn c).idle_time.toNat ∧
    s'.idled = if s.quiet c + 1 = T.toNat then c :: s.idled else s.idled
  ended : s.Live srv c → s.Ends c closing closed → (s'.g_net_conn c).idle_time = (s.g_net_conn c).idle_time ∧
    (s'.g_net_conn c).used = false ∧ s'.idled = s.idled
  freed : ¬ s.Live srv c → s'.idled = s.idled
  aborted : s.Live srv c → s.quiet c + 1 = T.toNat → (s'.g_net_conn c).used = false

theorem Inv.poll_cb (h : Inv srv T (fun _ => False) s) (hcounts : Counts srv T s) {recv : Bool} (hpcb : s.pcb p = some ⟨c, recv⟩)
    (htcp : (s.g_net_conn c).tcp = some p) (closing closed : Bool) (pollf : Option Int) :
    ∃ ret s', (net_tcp_poll_cb c p closing closed pollf).run s = .ok (ret, s') ∧ Inv srv T (fun _ => False) s' ∧
      Polled srv c T closing closed s s' := by
  have hslot := h.arg p _ hpcb
  obtain ⟨s₁, hrun₁, hinv₁, hends, hstays⟩ := h.pollState hpcb htcp closing closed
  by_cases hend : s.Ends c closing closed
  · have hshut := hends hend
    have halone := hinv₁.alone c hslot hshut.used
    have hcurrent : s₁.Current p c := fun r hr => by
      rw [hshut.pcb, setPcb_self] at hr
      cases hr
    obtain ⟨ret, s', hrun, hinv, hshrinks⟩ := hinv₁.pollf hcurrent pollf
    have hall := hshut.shrinks.trans hshrinks
    refine ⟨ret, s', ?_, hinv, ⟨hall.quiet, fun d _ => hall.idle_time d, hall.used, fun _ hnot => absurd hend hnot, fun _ _ => ⟨hall.idle_time c, ?_, hall.idled⟩,
      fun _ => hall.idled, fun _ _ => ?_⟩⟩
    · simp only [net_tcp_poll_cb, run_bind, hrun₁, ok_bind, run_get, halone, Option.isSome_none, Bool.false_eq_true, and_false,
        if_false]
      exact hrun
    · exact hshrinks.unused hshut.used
    · exact hshrinks.unused hshut.used
  · obtain ⟨recv', hs₁⟩ := hstays hend
    have hconn₁ : s₁.g_net_conn = s.g_net_conn := by rw [hs₁]; rfl
    have hlinks₁ : s₁.links = s.links := by rw [hs₁]; rfl
    have hidled₁ : s₁.idled = s.idled := by rw [hs₁]; rfl
    have hquiet₁ : s₁.quiet = s.quiet := by rw [hs₁]; rfl
    have hpcb₁ : s₁.pcb p = some ⟨c, recv'⟩ := by rw [hs₁, setPcb_self]
    by_cases hlive : s.Live srv c
    · obtain ⟨hlt, hsum⟩ := hcounts c hlive
      have hpos : (s.g_net_conn c).idle_time > 0 := by
        rw [gt_iff_lt, UInt32.lt_iff_toNat_lt]
        change 0 < _
        omega
      have hone : ((s.g_net_conn c).idle_time - 1).toNat = (s.g_net_conn c).idle_time.toNat - 1 :=
        UInt32.toNat_sub_of_le _ _ (by rw [UInt32.le_iff_toNat_le]; change 1 ≤ _; omega)
      have hcond : (s₁.g_net_conn c).client = true ∧ (s₁.g_net_conn c).idle_time > 0 ∧ (s₁.links.first c).isSome = true := by
        rw [hconn₁, hlinks₁]
        exact ⟨h.client c hlive, hpos, h.first hlive⟩
      generalize hs₂ : s₁.setConn c { s₁.g_net_conn c with idle_time := (s₁.g_net_conn c).idle_time - 1 } = s₂
      have hinv₂ : Inv srv T (fun _ => False) s₂ :=
        hs₂ ▸ hinv₁.of_agrees (agrees_setConn (ne_server_of_slot hslot) rfl rfl rfl) rfl rfl
      have hcurrent₂ : s₂.Current p c := fun r hr => by
        rw [← hs₂] at hr ⊢
        refine ⟨(congrArg Callbacks.arg (Option.some.inj (hpcb₁.symm.trans hr))).symm, ?_⟩
        rw [setConn_self, hconn₁]
        exact htcp
      have hidle₂ : (s₂.g_net_conn c).idle_time.toNat + 1 = (s.g_net_conn c).idle_time.toNat := by
        rw [← hs₂, setConn_self, hconn₁, hone]
        omega
      have hother₂ (d : Nat) (hd : d ≠ c) : s₂.g_net_conn d = s.g_net_conn d := by rw [← hs₂, setConn_of_ne hd, hconn₁]
      have hused₂ (d : Nat) : (s₂.g_net_conn d).used = (s.g_net_conn d).used := by
        by_cases hd : d = c
        · rw [hd, ← hs₂, setConn_self, hconn₁]
        · rw [hother₂ d hd]
      have hquiet₂ : s₂.quiet = s.quiet := by rw [← hs₂]; exact hquiet₁
      have hidled₂ : s₂.idled = s.idled := by rw [← hs₂]; exact hidled₁
      by_cases hzero : (s₁.g_net_conn c).idle_time - 1 = 0
      · have hfull : s.quiet c + 1 = T.toNat := by
          rw [hconn₁] at hzero
          rw [hzero] at hone
          change 0 = _ at hone
          omega
        have hinv₃ : Inv srv T (fun _ => False) { s₂ with idled := c :: s₂.idled } :=
          ⟨hinv₂.server, hinv₂.listed, hinv₂.client, hinv₂.tcp, hinv₂.listening, hinv₂.alone, hinv₂.arg⟩
        have hpcb₂ : s₂.pcb p = some ⟨c, recv'⟩ := by rw [← hs₂]; exact hpcb₁
        obtain ⟨s', habort, hinv', hshut⟩ := @Inv.tcp_abort srv c p T { s₂ with idled := c :: s₂.idled } hinv₃ recv' hpcb₂
          (hcurrent₂ _ hpcb₂).2
        refine ⟨ERR_ABRT, s', ?_, hinv', ⟨hshut.shrinks.quiet.trans hquiet₂, fun d hd => ?_, fun d hd => ?_, fun _ _ => ⟨?_, ?_⟩,
          fun _ hends => absurd hends hend, fun hnot => absurd hlive hnot, fun _ _ => hshut.used⟩⟩
        · simp only [net_tcp_poll_cb, run_bind, hrun₁, ok_bind, run_get]
          rw [if_pos hcond]
          simp only [run_bind, run_modify, ok_bind]
          rw [hs₂, if_pos hzero]
          simp only [run_bind, run_modify, ok_bind, habort, run_pure]
        · rw [hshut.shrinks.idle_time]
          exact congrArg tls_netconn.idle_time (hother₂ d hd)
        · rw [← hused₂]
          exact hshut.shrinks.used d hd
        · rw [hshut.shrinks.idle_time]
          exact hidle₂
        · rw [if_pos hfull, hshut.shrinks.idled, ← hidled₂]
      · have hnotfull : s.quiet c + 1 ≠ T.toNat := by
          intro hfull
          refine hzero (UInt32.toNat_inj.mp ?_)
          rw [hconn₁, hone]
          change _ = 0
          omega
        obtain ⟨ret, s', hrun, hinv', hshrinks⟩ := hinv₂.pollf hcurrent₂ pollf
        refine ⟨ret, s', ?_, hinv', ⟨hshrinks.quiet.trans hquiet₂, fun d hd => ?_, fun d hd => ?_, fun _ _ => ⟨?_, ?_⟩,
          fun _ hends => absurd hends hend, fun hnot => absurd hlive hnot, fun _ hfull => absurd hfull hnotfull⟩⟩
        · simp only [net_tcp_poll_cb, run_bind, hrun₁, ok_bind, run_get]
          rw [if_pos hcond]
          simp only [run_bind, run_modify, ok_bind]
          rw [hs₂, if_neg hzero]
          exact hrun
        · rw [hshrinks.idle_time, hother₂ d hd]
        · rw [← hused₂]
          exact hshrinks.used d hd
        · rw [hshrinks.idle_time]
          exact hidle₂
        · rw [if_neg hnotfull, hshrinks.idled, hidled₂]
    · have hunused : (s.g_net_conn c).used = false := Bool.eq_false_iff.mpr fun hused => hlive ⟨hslot, hused⟩
      have halone := h.alone c hslot hunused
      have hcurrent₁ : s₁.Current p c := fun r hr => by
        rw [hconn₁]
        exact ⟨(congrArg Callbacks.arg (Option.some.inj (hpcb₁.symm.trans hr))).symm, htcp⟩
      obtain ⟨ret, s', hrun, hinv', hshrinks⟩ := hinv₁.pollf hcurrent₁ pollf
      refine ⟨ret, s', ?_, hinv', ⟨hshrinks.quiet.trans hquiet₁, fun d _ => ?_, fun d hd => ?_, fun hlive' => absurd hlive' hlive,
        fun hlive' => absurd hlive' hlive, fun _ => hshrinks.idled.trans hidled₁, fun hlive' => absurd hlive' hlive⟩⟩
      · simp only [net_tcp_poll_cb, run_bind, hrun₁, ok_bind, run_get, hlinks₁, halone, Option.isSome_none, Bool.false_eq_true,
          and_false, if_false]
        exact hrun
      · rw [hshrinks.idle_time, hconn₁]
      · rw [← hconn₁]
        exact hshrinks.used d hd

/-- What follows a connection says what its idle time is to be. -/
def Refreshes (srv : Nat) (s : NetPool) (c : Nat) : Prop :=
  s.Live srv c → ∃ n, s.links.first c = some n ∧ (s.g_net_conn n).idle_time = (s.g_net_conn srv).idle_time

/-- Something on the connection `c` gives it the whole timeout, if it is live. -/
structure Touched (srv c : Nat) (T : UInt32) (s s' : NetPool) : Prop where
  used : ∀ d, (s'.g_net_conn d).used = (s.g_net_conn d).used
  idle_time : s.Live srv c → (s'.g_net_conn c).idle_time = T
  other : ∀ d, d ≠ c → (s'.g_net_conn d).idle_time = (s.g_net_conn d).idle_time
  quiet : s'.quiet = s.quiet
  idled : s'.idled = s.idled

theorem Inv.touch (h : Inv srv T exempt s) (hslot : Slot srv c) (hpos : s.Live srv c → (s.g_net_conn c).idle_time > 0)
    (hrefreshes : s.Refreshes srv c) : ∃ s', (touch c).run s = .ok ((), s') ∧ Inv srv T exempt s' ∧ Touched srv c T s s' := by
  by_cases hlive : s.Live srv c
  · obtain ⟨n, hfirst, hidle⟩ := hrefreshes hlive
    rw [h.server.2] at hidle
    refine ⟨s.setConn c { s.g_net_conn c with idle_time := T }, ?_, h.of_agrees (agrees_setConn (ne_server_of_slot hslot) rfl rfl rfl) rfl rfl,
      ⟨fun d => ?_, fun _ => by rw [setConn_self], fun d hd => by rw [setConn_of_ne hd], rfl, rfl⟩⟩
    · rw [ZCloud.touch, run_get_bind, if_pos ⟨h.client c hlive, hpos hlive⟩, hfirst, ← hidle]
      rfl
    · by_cases hd : d = c
      · rw [hd, setConn_self]
      · rw [setConn_of_ne hd]
  · have hunused : (s.g_net_conn c).used = false := Bool.eq_false_iff.mpr fun hused => hlive ⟨hslot, hused⟩
    refine ⟨s, ?_, h, ⟨fun _ => rfl, fun hlive' => absurd hlive' hlive, fun _ _ => rfl, rfl, rfl⟩⟩
    rw [ZCloud.touch, run_get_bind, h.alone c hslot hunused]
    split <;> rfl

theorem Inv.do_write (h : Inv srv T exempt s) (hslot : Slot srv c) (hpos : s.Live srv c → (s.g_net_conn c).idle_time > 0)
    (hrefreshes : s.Refreshes srv c) (sent : Int) :
    ∃ err s', (net_do_write c sent).run s = .ok (err, s') ∧ Inv srv T exempt s' ∧ Touched srv c T s s' := by
  obtain ⟨s', hrun, hinv, htouched⟩ := h.touch hslot hpos hrefreshes
  by_cases hstate : (s.g_net_conn c).state ≠ NETCONN_STATE_CONNECTED
  · refine ⟨ERR_INPROGRESS, s', ?_, hinv, htouched⟩
    simp only [net_do_write, run_bind, run_get, ok_bind]
    rw [if_pos hstate]
    simp only [run_bind, run_pure, ok_bind, hrun]
  · by_cases htcp : (s.g_net_conn c).tcp ≠ none
    · have hne := ne_server_of_slot hslot
      generalize hs₁ : s.setConn c { s.g_net_conn c with write_state := true } = s₁
      have hagrees : Agrees srv s s₁ := hs₁ ▸ agrees_setConn hne rfl rfl rfl
      have hidle (d : Nat) : (s₁.g_net_conn d).idle_time = (s.g_net_conn d).idle_time := by
        by_cases hd : d = c
        · rw [hd, ← hs₁, setConn_self]
        · rw [← hs₁, setConn_of_ne hd]
      have hlinks : s₁.links = s.links := by rw [← hs₁]; rfl
      obtain ⟨s₂, hrun₂, hinv₂, htouched₂⟩ := (h.of_agrees hagrees hlinks (by rw [← hs₁]; rfl)).touch hslot
        (fun hlive => by rw [hidle]; exact hpos ((hagrees.live c).mp hlive)) (fun hlive => by
          simp only [hidle, hlinks]
          exact hrefreshes ((hagrees.live c).mp hlive))
      refine ⟨sent, s₂, ?_, hinv₂, ⟨fun d => (htouched₂.used d).trans (hagrees.used d),
        fun hlive => htouched₂.idle_time ((hagrees.live c).mpr hlive), fun d hd => (htouched₂.other d hd).trans (hidle d),
        htouched₂.quiet.trans (by rw [← hs₁]; rfl), htouched₂.idled.trans (by rw [← hs₁]; rfl)⟩⟩
      simp only [net_do_write, run_bind, run_get, ok_bind]
      rw [if_neg hstate, if_pos htcp]
      simp only [run_bind, run_modify, run_pure, ok_bind]
      rw [hs₁, hrun₂]
      rfl
    · refine ⟨ERR_CONN, s', ?_, hinv, htouched⟩
      simp only [net_do_write, run_bind, run_get, ok_bind]
      rw [if_neg hstate, if_neg htcp]
      simp only [run_bind, run_pure, ok_bind, hrun]

/-- The first of the sockets that is not used is taken. -/
theorem run_allocFrom {offset : Nat} (slots : List Nat) (hslots : ∀ i ∈ slots, offset + i < TLS_MAX_NETCONN_NUM) (s : NetPool) :
    (allocFrom offset slots).run s = .ok (none, s) ∨ ∃ i ∈ slots, (s.g_net_conn (offset + i)).used = false ∧
      (allocFrom offset slots).run s = .ok (some (offset + i),
        { s.setConn (offset + i) { s.g_net_conn (offset + i) with used := true } with links := s.links.init (offset + i) }) := by
  induction slots with
  | nil => exact .inl rfl
  | cons i slots ih =>
    have hlt : ¬ offset + i ≥ TLS_MAX_NETCONN_NUM := Nat.not_le.mpr (hslots i List.mem_cons_self)
    by_cases hused : (s.g_net_conn (offset + i)).used = true
    · have hrun : (allocFrom offset (i :: slots)).run s = (allocFrom offset slots).run s := by
        rw [allocFrom, run_get_bind, if_neg hlt, if_pos hused]
      rw [hrun]
      rcases ih fun j hj => hslots j (List.mem_cons_of_mem _ hj) with hnone | ⟨j, hj, hfree, htaken⟩
      · exact .inl hnone
      · exact .inr ⟨j, List.mem_cons_of_mem _ hj, hfree, htaken⟩
    · refine .inr ⟨i, List.mem_cons_self, Bool.eq_false_iff.mpr hused, ?_⟩
      rw [allocFrom, run_get_bind, if_neg hlt, if_neg hused]
      rfl

/-- A control block that is not that of any connection. -/
def Fresh (s : NetPool) (p : Nat) : Prop :=
  s.pcb p = none ∧ ∀ c < TLS_MAX_NETCONN_NUM, (s.g_net_conn c).used = true → (s.g_net_conn c).tcp ≠ some p

theorem lt_of_slot (hsrv : srv < TLS_MAX_SOCKET_NUM) (h : Slot srv c) : c < TLS_MAX_NETCONN_NUM := by
  obtain ⟨i, hi, rfl⟩ := h
  simp only [TLS_MAX_SOCKET_NUM, TLS_MAX_NETCONN_NUM] at *
  omega

/-- The connection `n` is accepted. -/
structure Accepted (n p : Nat) (T : UInt32) (s s' : NetPool) : Prop where
  self : (s'.g_net_conn n).used = true ∧ (s'.g_net_conn n).client = true ∧ (s'.g_net_conn n).idle_time = T ∧
    (s'.g_net_conn n).tcp = some p
  other : ∀ d, d ≠ n → s'.g_net_conn d = s.g_net_conn d
  pcb : s'.pcb = (s.setPcb p (some ⟨n, true⟩)).pcb
  quiet : s'.quiet = s.quiet
  idled : s'.idled = s.idled

theorem Inv.accepted {n : Nat} (h : Inv srv T (fun _ => False) s) (hsrv : srv < TLS_MAX_SOCKET_NUM) (hslot : Slot srv n)
    (hunused : (s.g_net_conn n).used = false) (hfresh : s.Fresh p) (haccepted : Accepted n p T s s') {items : List Nat}
    (hmem : ∀ c, c ∈ items ↔ s.Live srv c)
    (hlist' : IsList s'.links srv (items ++ [n]))
    (hkeeps : ∀ y ∉ n :: srv :: items, s'.links.next y = s.links.next y) : Inv srv T (fun _ => False) s' := by
  have hserver : s'.g_net_conn srv = s.g_net_conn srv := haccepted.other srv (ne_server_of_slot hslot).symm
  have hlive (d : Nat) : s'.Live srv d ↔ d = n ∨ s.Live srv d := by
    by_cases hd : d = n
    · simp [Live, hd, haccepted.self.1, hslot]
    · simp [Live, hd, haccepted.other d hd]
  constructor
  · rw [hserver]
    exact h.server
  · refine ⟨items ++ [n], hlist', fun d => ?_⟩
    rw [hlive, List.mem_append, hmem, List.mem_singleton, or_comm]
  · intro d hd
    by_cases hdn : d = n
    · rw [hdn]
      exact haccepted.self.2.1
    · rw [haccepted.other d hdn]
      exact h.client d (((hlive d).mp hd).resolve_left hdn)
  · intro d hd hexempt
    by_cases hdn : d = n
    · rw [hdn]
      exact ⟨p, true, haccepted.self.2.2.2, by rw [haccepted.pcb, setPcb_self]⟩
    · have hd := ((hlive d).mp hd).resolve_left hdn
      obtain ⟨q, recv, htcp, hq⟩ := h.tcp d hd hexempt
      have hqp : q ≠ p := fun heq => hfresh.2 d (lt_of_slot hsrv hd.1) hd.2 (heq ▸ htcp)
      rw [haccepted.other d hdn]
      exact ⟨q, recv, htcp, by rw [haccepted.pcb, setPcb_of_ne hqp]; exact hq⟩
  · intro hused
    rw [hserver] at hused ⊢
    obtain ⟨q, htcp, hq⟩ := h.listening hused
    have hqp : q ≠ p := fun heq => hfresh.2 srv (by simp only [TLS_MAX_SOCKET_NUM, TLS_MAX_NETCONN_NUM] at *; omega) hused (heq ▸ htcp)
    exact ⟨q, htcp, by rw [haccepted.pcb, setPcb_of_ne hqp]; exact hq⟩
  · intro d hd hdused
    have hdn : d ≠ n := by
      rintro rfl
      rw [haccepted.self.1] at hdused
      exact Bool.noConfusion hdused
    rw [haccepted.other d hdn] at hdused
    have hnot : d ∉ n :: srv :: items := by
      rw [List.mem_cons, List.mem_cons, hmem]
      rintro (heq | heq | hlive)
      · exact hdn heq
      · exact ne_server_of_slot hd heq
      · exact not_live hdused hlive
    have halone := h.alone d hd hdused
    rw [Links.first] at halone ⊢
    rw [hkeeps d hnot]
    exact halone
  · intro q r hq
    rw [haccepted.pcb] at hq
    by_cases hqp : q = p
    · rw [hqp, setPcb_self] at hq
      cases hq
      exact hslot
    · rw [setPcb_of_ne hqp] at hq
      exact h.arg q r hq

/-- A new connection is refused, or accepted and then perhaps aborted. -/
theorem Inv.accept_cb (h : Inv srv T (fun _ => False) s) (hsrv : srv < TLS_MAX_SOCKET_NUM) (hfresh : s.Fresh p) (acceptf : Option Int) :
    ∃ err s', (net_tcp_accept_cb srv p acceptf).run s = .ok (err, s') ∧ Inv srv T (fun _ => False) s' ∧
      ((err = ERR_ABRT ∧ s' = s) ∨ ∃ n s₁, Slot srv n ∧ (s.g_net_conn n).used = false ∧ Accepted n p T s s₁ ∧ Shrinks s₁ s' ∧
        (err ≠ ERR_ABRT → s' = s₁)) := by
  have hslots : ∀ i ∈ List.range TLS_MAX_SOCKET_NUM, (srv + 1) * 4 + i < TLS_MAX_NETCONN_NUM := by
    intro i hi
    have := List.mem_range.mp hi
    simp only [TLS_MAX_SOCKET_NUM, TLS_MAX_NETCONN_NUM] at *
    omega
  rcases run_allocFrom (List.range TLS_MAX_SOCKET_NUM) hslots s with hnone | ⟨i, hi, hunused, halloc⟩
  · refine ⟨ERR_ABRT, s, ?_, h, .inl ⟨rfl, rfl⟩⟩
    simp only [net_tcp_accept_cb, net_alloc_socket, run_bind, hnone, ok_bind, run_pure]
  · have hslot : Slot srv ((srv + 1) * 4 + i) := ⟨i, List.mem_range.mp hi, rfl⟩
    generalize (srv + 1) * 4 + i = n at *
    obtain ⟨items, hlist, hmem⟩ := h.listed
    have hne : n ≠ srv := ne_server_of_slot hslot
    have hnot : n ∉ srv :: items := by
      rw [List.mem_cons, hmem]
      rintro (heq | hlive)
      · exact hne heq
      · exact not_live hunused hlive
    have hout (y : Nat) (hy : y ∈ srv :: items) : y ≠ n := fun heq => hnot (heq ▸ hy)
    have hnext (y : Nat) (hy : y ≠ n) : (s.links.init n).next y = s.links.next y := by
      simp [Links.init, Links.setNext, Links.setPrev, hy]
    have hinit : IsList (s.links.init n) srv items := hlist.congr (fun y hy => hnext y (hout y hy)) fun y hy => by
      simp [Links.init, Links.setNext, Links.setPrev, hout y hy]
    obtain ⟨links, hadd, hlist', hkeeps⟩ := hinit.addTail hnot
    generalize hs₀ : ({ s.setConn n { s.g_net_conn n with used := true } with links := s.links.init n } : NetPool) = s₀ at halloc
    have hlinks₀ : s₀.links = s.links.init n := by rw [← hs₀]
    have hother₀ (d : Nat) (hd : d ≠ n) : s₀.g_net_conn d = s.g_net_conn d := by rw [← hs₀]; exact setConn_of_ne hd ..
    have hpcb₀ : s₀.pcb = s.pcb := by rw [← hs₀]; rfl
    have hquiet₀ : s₀.quiet = s.quiet := by rw [← hs₀]; rfl
    have hidled₀ : s₀.idled = s.idled := by rw [← hs₀]; rfl
    generalize hs₁ : ({ (s₀.setConn n { s₀.g_net_conn n with
        used := true, tcp := some p, client := true, idle_time := (s₀.g_net_conn srv).idle_time
        state := NETCONN_STATE_CONNECTED }).setPcb p (some ⟨n, true⟩) with links := links } : NetPool) = s₁
    have haccepted : Accepted n p T s s₁ := by
      rw [← hs₁]
      refine ⟨?_, fun d hd => ?_, ?_, hquiet₀, hidled₀⟩
      · simp [NetPool.setPcb, hother₀ srv hne.symm, h.server.2]
      · exact (setConn_of_ne hd ..).trans (hother₀ d hd)
      · simp [NetPool.setPcb, NetPool.setConn, hpcb₀]
    have hlinks : s₁.links = links := by rw [← hs₁]
    have hinv₁ : Inv srv T (fun _ => False) s₁ := by
      refine h.accepted hsrv hslot hunused hfresh haccepted hmem (by rw [hlinks]; exact hlist') fun y hy => ?_
      rw [hlinks, hkeeps.next y hy]
      exact hnext y fun heq => hy (heq ▸ List.mem_cons_self)
    have hcurrent : s₁.Current p n := fun r hr => by
      rw [haccepted.pcb, setPcb_self] at hr
      cases hr
      exact ⟨rfl, haccepted.self.2.2.2⟩
    have hrun : (net_tcp_accept_cb srv p acceptf).run s = (match acceptf with
        | none => return ERR_OK
        | some err_ret => do
          if err_ret = ERR_ABRT then
            ZCloud.tcp_abort p
          return err_ret : Prog NetPool Int).run s₁ := by
      have hadd₀ : ((s₀.setConn n { s₀.g_net_conn n with
          used := true, tcp := some p, client := true, idle_time := (s₀.g_net_conn srv).idle_time
          state := NETCONN_STATE_CONNECTED }).setPcb p (some ⟨n, true⟩)).links.addTail srv n = some links := by
        rw [← hadd, ← hlinks₀]
        rfl
      simp only [net_tcp_accept_cb, net_alloc_socket, run_bind, halloc, ok_bind, run_modify, run_get]
      rw [hadd₀]
      simp only [run_bind, run_modify, ok_bind]
      subst hs₁
      rfl
    obtain ⟨err, s', hrun', hinv', hshrinks⟩ := hinv₁.pollf hcurrent acceptf
    refine ⟨err, s', hrun.trans hrun', hinv', .inr ⟨n, s₁, hslot, hunused, haccepted, hshrinks, fun hnotabort => ?_⟩⟩
    cases acceptf with
    | none => exact (Prod.mk.inj (Except.ok.inj hrun')).2.symm
    | some err_ret =>
      by_cases habort : err_ret = ERR_ABRT
      · simp only [habort, if_true, run_bind] at hrun'
        obtain ⟨⟨u, t⟩, -, hpure⟩ := bind_eq_ok.mp hrun'
        exact absurd (Prod.mk.inj (Except.ok.inj hpure)).1.symm hnotabort
      · simp only [habort, if_false] at hrun'
        exact (Prod.mk.inj (Except.ok.inj hrun')).2.symm

/-- Of the connections that are to be closed, each is gone or has its control block. -/
theorem Inv.closeClients (h : Inv srv T (fun _ => False) s) (closed : Nat → Bool) {conns : List Nat} (hnodup : conns.Nodup)
    (hlive : ∀ c ∈ conns, s.Live srv c) : ∃ s', (closeClients closed conns).run s = .ok ((), s') ∧ Inv srv T (fun _ => False) s' ∧
      Shrinks s s' ∧ ∀ d ∉ conns, s'.g_net_conn d = s.g_net_conn d := by
  induction conns with
  | nil => exact ⟨s, rfl, h, .refl s, fun _ _ => rfl⟩
  | cons c conns ih =>
    obtain ⟨hc, hnodup⟩ := List.nodup_cons.mp hnodup
    obtain ⟨s₁, hrun₁, hinv₁, hshrinks₁, hother₁⟩ := ih hnodup fun d hd => hlive d (List.mem_cons_of_mem _ hd)
    have hlive₁ : s₁.Live srv c := by
      have := hlive c List.mem_cons_self
      exact ⟨this.1, by rw [hother₁ c hc]; exact this.2⟩
    obtain ⟨p, recv, htcp, hpcb⟩ := hinv₁.tcp c hlive₁ id
    obtain ⟨s', hrun, hinv', hshut, hstays⟩ := hinv₁.close_connect hpcb htcp (closed c)
    have hrun' : (ZCloud.closeClients closed (c :: conns)).run s = .ok ((), s') := by
      simp only [ZCloud.closeClients, run_bind, hrun₁, ok_bind, hrun]
    cases hclosed : closed c with
    | true =>
      have hshut := hshut hclosed
      refine ⟨s', hrun', hinv', hshrinks₁.trans hshut.shrinks, fun d hd => ?_⟩
      rw [hshut.other d (fun heq => hd (heq ▸ List.mem_cons_self)), hother₁ d fun hmem => hd (List.mem_cons_of_mem _ hmem)]
    | false =>
      obtain rfl := hstays hclosed
      exact ⟨_, hrun', hinv', ⟨hshrinks₁.used, hshrinks₁.idle_time, hshrinks₁.quiet, hshrinks₁.idled⟩,
        fun d hd => hother₁ d fun hmem => hd (List.mem_cons_of_mem _ hmem)⟩

/-- What is changed at the server itself, but for its timeout, does not matter to its
clients. -/
theorem Inv.setServer (h : Inv srv T exempt s) {conn : tls_netconn} (hclient : conn.client = false) (hidle : conn.idle_time = T)
    (hlisten : conn.used = true → ∃ p, conn.tcp = some p ∧ s.pcb p = none) : Inv srv T exempt (s.setConn srv conn) := by
  have hother (d : Nat) (hd : Slot srv d) : (s.setConn srv conn).g_net_conn d = s.g_net_conn d := setConn_of_ne (ne_server_of_slot hd) ..
  have hlive (d : Nat) : (s.setConn srv conn).Live srv d ↔ s.Live srv d := by
    constructor
    · intro hd
      exact ⟨hd.1, by rw [← hother d hd.1]; exact hd.2⟩
    · intro hd
      exact ⟨hd.1, by rw [hother d hd.1]; exact hd.2⟩
  constructor
  · rw [setConn_self]
    exact ⟨hclient, hidle⟩
  · obtain ⟨items, hlist, hmem⟩ := h.listed
    exact ⟨items, hlist, fun d => (hmem d).trans (hlive d).symm⟩
  · intro d hd
    rw [hother d hd.1]
    exact h.client d ((hlive d).mp hd)
  · intro d hd
    rw [hother d hd.1]
    exact h.tcp d ((hlive d).mp hd)
  · rw [setConn_self]
    exact hlisten
  · intro d hd hused
    rw [hother d hd] at hused
    exact h.alone d hd hused
  · exact h.arg

/-- The server is gone. -/
theorem Inv.closeServer (h : Inv srv T (fun _ => False) s) (hused : (s.g_net_conn srv).used = true) :
    ∃ s', (net_tcp_close_connect true srv).run s = .ok ((), s') ∧ (net_free_socket srv).run s' = .ok ((), s') ∧
      Inv srv T (fun _ => False) s' ∧ Shrinks s s' := by
  obtain ⟨q, htcp, hq⟩ := h.listening hused
  have hdrop : Inv srv T (fun _ => False) (s.setPcb q none) :=
    h.setPcb (fun d hd _ => ⟨id, fun heq => by
      obtain ⟨q', recv, htcp', hq'⟩ := h.tcp d hd id
      obtain rfl : q' = q := Option.some.inj (htcp'.symm.trans heq)
      rw [hq] at hq'
      cases hq'⟩) (fun _ hnone => absurd rfl hnone) fun r hr => by cases hr
  generalize hs' : (s.setPcb q none).setConn srv { s.g_net_conn srv with used := false, state := NETCONN_STATE_NONE, tcp := none } = s'
  have hself : s'.g_net_conn srv = { s.g_net_conn srv with used := false, state := NETCONN_STATE_NONE, tcp := none } := by
    rw [← hs', setConn_self]
  have hother (d : Nat) (hd : d ≠ srv) : s'.g_net_conn d = s.g_net_conn d := by rw [← hs']; exact setConn_of_ne hd ..
  refine ⟨s', ?_, ?_, hs' ▸ hdrop.setServer h.server.1 h.server.2 fun hfalse => Bool.noConfusion hfalse,
    ⟨fun d hd => ?_, fun d => ?_, by rw [← hs']; rfl, by rw [← hs']; rfl⟩⟩
  · rw [net_tcp_close_connect, run_get_bind, htcp]
    simp only [if_true, net_free_socket, run_bind, run_modify, ok_bind, run_get, setConn_self]
    have hserver := h.server.1
    simp [hused, hserver, ← hs', NetPool.setConn]
  · rw [net_free_socket, run_get_bind, if_pos (by rw [hself])]
    rfl
  · by_cases hds : d = srv
    · rw [hds]
      exact hused
    · rwa [hother d hds] at hd
  · by_cases hds : d = srv
    · rw [hds, hself]
    · rw [hother d hds]

/-- A client is closed. -/
theorem Inv.closeClient (h : Inv srv T (fun _ => False) s) (hlive : s.Live srv c) (closed : Nat → Bool) :
    ∃ s', (do_close_connect c closed).run s = .ok ((), s') ∧ Inv srv T (fun _ => False) s' ∧ Shrinks s s' := by
  obtain ⟨hslot, hused⟩ := hlive
  obtain ⟨p, recv, htcp, hpcb⟩ := h.tcp c ⟨hslot, hused⟩ id
  generalize hs₁ : s.setConn c { s.g_net_conn c with state := NETCONN_STATE_CLOSED } = s₁
  have hagrees : Agrees srv s s₁ := hs₁ ▸ agrees_setConn (ne_server_of_slot hslot) rfl rfl rfl
  have hinv₁ : Inv srv T (fun _ => False) s₁ := h.of_agrees hagrees (by rw [← hs₁]; rfl) (by rw [← hs₁]; rfl)
  have hpcb₁ : s₁.pcb p = some ⟨c, recv⟩ := by rw [← hs₁]; exact hpcb
  have hshrinks₁ : Shrinks s s₁ := by
    refine ⟨fun d hd => by rwa [hagrees.used] at hd, fun d => ?_, by rw [← hs₁]; rfl, by rw [← hs₁]; rfl⟩
    by_cases hd : d = c
    · rw [hd, ← hs₁, setConn_self]
    · rw [← hs₁, setConn_of_ne hd]
  obtain ⟨s₂, hrun₂, hinv₂, hshut, hstays⟩ := hinv₁.close_connect hpcb₁ ((hagrees.tcp c).trans htcp) (closed c)
  have hshrinks₂ : Shrinks s₁ s₂ := by
    cases hclosed : closed c with
    | true => exact (hshut hclosed).shrinks
    | false =>
      rw [hstays hclosed]
      exact ⟨fun _ => id, fun _ => rfl, rfl, rfl⟩
  obtain ⟨s₃, hrun₃, hinv₃, hfrees⟩ := hinv₂.free hslot
  refine ⟨s₃, ?_, hinv₃, (hshrinks₁.trans hshrinks₂).trans hfrees.shrinks⟩
  rw [do_close_connect, run_get_bind, if_neg (by simp [hused]), if_neg (by simp [h.client c ⟨hslot, hused⟩])]
  simp only [run_bind, run_modify, ok_bind]
  rw [hs₁, hrun₂]
  exact hrun₃

/-- There are few sockets for the connections of a server. -/
theorem length_of_slots {items : List Nat} (hnodup : items.Nodup) (hslots : ∀ c ∈ items, Slot srv c) :
    items.length ≤ TLS_MAX_SOCKET_NUM := by
  have hsub : items ⊆ (List.range TLS_MAX_SOCKET_NUM).map ((srv + 1) * 4 + ·) := by
    intro c hc
    obtain ⟨i, hi, rfl⟩ := hslots c hc
    exact List.mem_map.mpr ⟨i, List.mem_range.mpr hi, rfl⟩
  simpa using List.Nodup.length_le_of_subset hnodup hsub

/-- The server is closed with its clients. -/
theorem Inv.closeAll (h : Inv srv T (fun _ => False) s) (hused : (s.g_net_conn srv).used = true) {closed : Nat → Bool}
    (hclosed : closed srv = true) :
    ∃ s', (do_close_connect srv closed).run s = .ok ((), s') ∧ Inv srv T (fun _ => False) s' ∧ Shrinks s s' := by
  obtain ⟨items, hlist, hmem⟩ := h.listed
  have hnodup := (List.nodup_cons.mp hlist.nodup).2
  have hlive (c : Nat) (hc : c ∈ items) : s.Live srv c := (hmem c).mp hc
  have hcollect : (s.links.collect srv (TLS_MAX_NETCONN_NUM + 1) (s.links.next srv)).filter (fun c => (s.g_net_conn c).used) = items := by
    have hlength := length_of_slots hnodup fun c hc => (hlive c hc).1
    rw [hlist.collect (by simp only [TLS_MAX_SOCKET_NUM, TLS_MAX_NETCONN_NUM] at *; omega)]
    exact List.filter_eq_self.mpr fun c hc => (hlive c hc).2
  generalize hs₁ : ({ s with g_net_conn := fun c =>
    if c ∈ items then { s.g_net_conn c with state := NETCONN_STATE_CLOSED } else s.g_net_conn c } : NetPool) = s₁
  have hconn₁ (c : Nat) : ∃ state, s₁.g_net_conn c = { s.g_net_conn c with state := state } := by
    by_cases hc : c ∈ items
    · exact ⟨NETCONN_STATE_CLOSED, by rw [← hs₁]; exact if_pos hc⟩
    · exact ⟨(s.g_net_conn c).state, by rw [← hs₁]; exact if_neg hc⟩
  have hused₁ (c : Nat) : (s₁.g_net_conn c).used = (s.g_net_conn c).used := by obtain ⟨state, heq⟩ := hconn₁ c; rw [heq]
  have hidle₁ (c : Nat) : (s₁.g_net_conn c).idle_time = (s.g_net_conn c).idle_time := by obtain ⟨state, heq⟩ := hconn₁ c; rw [heq]
  have hagrees : Agrees srv s s₁ :=
    ⟨hused₁, fun c => by obtain ⟨state, heq⟩ := hconn₁ c; rw [heq], hidle₁ srv, fun c => by obtain ⟨state, heq⟩ := hconn₁ c; rw [heq]⟩
  have hinv₁ : Inv srv T (fun _ => False) s₁ := h.of_agrees hagrees (by rw [← hs₁]) (by rw [← hs₁])
  have hshrinks₁ : Shrinks s s₁ := ⟨fun c hc => by rwa [hused₁] at hc, hidle₁, by rw [← hs₁], by rw [← hs₁]⟩
  obtain ⟨s₂, hrun₂, hinv₂, hshrinks₂, hother₂⟩ := hinv₁.closeClients closed hnodup fun c hc => (hagrees.live c).mpr (hlive c hc)
  have hserver₂ : s₂.g_net_conn srv = s₁.g_net_conn srv := hother₂ srv (List.nodup_cons.mp hlist.nodup).1
  have hused₂ : (s₂.g_net_conn srv).used = true := by rw [hserver₂, hused₁, hused]
  generalize hs₃ : s₂.setConn srv { s₂.g_net_conn srv with state := NETCONN_STATE_CLOSED } = s₃
  have hinv₃ : Inv srv T (fun _ => False) s₃ := hs₃ ▸ hinv₂.setServer hinv₂.server.1 hinv₂.server.2 hinv₂.listening
  have hself₃ : s₃.g_net_conn srv = { s₂.g_net_conn srv with state := NETCONN_STATE_CLOSED } := by rw [← hs₃, setConn_self]
  have hshrinks₃ : Shrinks s₂ s₃ := by
    refine ⟨fun d hd => ?_, fun d => ?_, by rw [← hs₃]; rfl, by rw [← hs₃]; rfl⟩
    · by_cases hds : d = srv
      · rw [hds, hused₂]
      · rwa [← hs₃, setConn_of_ne hds] at hd
    · by_cases hds : d = srv
      · rw [hds, hself₃]
      · rw [← hs₃, setConn_of_ne hds]
  obtain ⟨s₄, hrun₄, hfree₄, hinv₄, hshrinks₄⟩ := hinv₃.closeServer (by rw [hself₃]; exact hused₂)
  refine ⟨s₄, ?_, hinv₄, ((hshrinks₁.trans hshrinks₂).trans hshrinks₃).trans hshrinks₄⟩
  rw [do_close_connect, run_get_bind, if_neg (by simp [hused]), if_pos h.server.1, hcollect]
  simp only [run_bind, run_modify, ok_bind]
  rw [hs₁, hrun₂]
  simp only [ok_bind]
  rw [hs₃, hclosed, hrun₄]
  exact hfree₄

/-- A client, or the server with its clients, is closed. -/
theorem Inv.do_close (h : Inv srv T (fun _ => False) s) {closed : Nat → Bool} (hconn : (c = srv ∧ closed srv = true) ∨ Slot srv c) :
    ∃ s', (do_close_connect c closed).run s = .ok ((), s') ∧ Inv srv T (fun _ => False) s' ∧ Shrinks s s' := by
  by_cases hused : (s.g_net_conn c).used = true
  · rcases hconn with ⟨rfl, hclosed⟩ | hslot
    · exact h.closeAll hused hclosed
    · exact h.closeClient ⟨hslot, hused⟩ closed
  · refine ⟨s, ?_, h, .refl s⟩
    rw [do_close_connect, run_get_bind, if_pos (by simpa using hused)]
    rfl

end NetPool

end ZCloud
