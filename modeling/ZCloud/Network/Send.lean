import ZCloud.Lib.Runs
import ZCloud.Network.Netconn

open Memory Program

namespace ZCloud

def TLS_NETCONN_TCP : UInt8 := 0
def TLS_NETCONN_UDP : UInt8 := 1

def ERR_VAL : Int := -6

/-- A connection, as far as sending goes. `list` has the nodes behind its own. -/
structure SendConn where
  used : Bool
  proto : UInt8
  client : Bool
  port : UInt16
  list : List Nat

structure tls_net_msg where
  conn : Nat
  err : Int

inductive TcpipCallback where
  | net_do_send
  | net_do_write

/-- Where the task is that sends: between two calls, the last of which has returned `ret`,
before it posts a message, or waiting for its callback. `clients` are those that the
message goes to afterwards. -/
inductive SendTask where
  | idle (ret : Int)
  | posting (function : TcpipCallback) (net_msg : Nat) (clients : List Nat)
  | waiting (net_msg conn : Nat) (clients : List Nat)

/-- Messages are numbered as they are allocated. `sentto` has those of
`tls_socket_udp_sendto`. -/
structure NetSends where
  op_completed : Nat → Nat
  msgs : Nat → Option tls_net_msg
  allocated : Nat
  mbox : List (TcpipCallback × Nat)
  task : SendTask
  sentto : List Nat

namespace NetSends

def setMsg (s : NetSends) (net_msg : Nat) (msg : Option tls_net_msg) : NetSends :=
  { s with msgs := Function.update s.msgs net_msg msg }

def setTask (s : NetSends) (task : SendTask) : NetSends := { s with task := task }

/-- After `tls_net_init`. -/
def init : NetSends where
  op_completed _ := 0
  msgs _ := none
  allocated := 0
  mbox := []
  task := .idle ERR_OK
  sentto := []

/-- Where there is memory for a message. -/
def allocMsg : Prog NetSends Nat := do
  let s ← get
  set { s.setMsg s.allocated (some ⟨0, ERR_OK⟩) with allocated := s.allocated + 1 }
  return s.allocated

def readMsg (net_msg : Nat) : Prog NetSends tls_net_msg := do
  match (← get).msgs net_msg with
  | none => throw .read
  | some msg => return msg

def writeMsg (net_msg : Nat) (msg : tls_net_msg) : Prog NetSends Unit := do
  let _ ← readMsg net_msg
  modify fun s => s.setMsg net_msg (some msg)

/-- A message must not be freed twice. -/
def tls_mem_free (net_msg : Nat) : Prog NetSends Unit := do
  let _ ← readMsg net_msg
  modify fun s => s.setMsg net_msg none

/-- `posted` tells whether there is room for the message. -/
def tcpip_callback_with_block (function : TcpipCallback) (net_msg : Nat) (posted : Bool) : Prog NetSends Int := do
  if posted then
    modify fun s => { s with mbox := s.mbox ++ [(function, net_msg)] }
    return ERR_OK
  else
    return ERR_MEM

/-- Those of the sockets from `TLS_MAX_NETCONN_NUM` on have never been opened. -/
def tls_net_get_socket (socket : Nat) : Option Nat :=
  if socket < 1 ∨ socket > TLS_MAX_NETCONN_NUM * 2 then none
  else if socket ≤ TLS_MAX_NETCONN_NUM then some (socket - 1)
  else none

/-- What both callbacks end with. -/
def completed (net_msg : Nat) (err : Int) : Prog NetSends Unit := do
  let msg ← readMsg net_msg
  writeMsg net_msg { msg with err := err }
  modify fun s => { s with op_completed := Function.update s.op_completed msg.conn (s.op_completed msg.conn + 1) }

/-- `err` is what `udp_sendto` returns. -/
def net_do_send (net_msg : Nat) (err : Int) : Prog NetSends Unit := completed net_msg err

/-- `err` is what the state of the connection and `tcp_write` amount to. -/
def net_do_write (net : Nat → SendConn) (net_msg : Nat) (err : Int) : Prog NetSends Unit := do
  let msg ← readMsg net_msg
  completed net_msg (if (net msg.conn).proto = TLS_NETCONN_TCP then err else ERR_VAL)

/-- The thread of the stack runs the callback that has been posted first. -/
def tcpip_thread (net : Nat → SendConn) (err : Int) : Prog NetSends Unit := do
  match (← get).mbox with
  | [] => return ()
  | (function, net_msg) :: mbox =>
    modify fun s => { s with mbox := mbox }
    match function with
    | .net_do_send => net_do_send net_msg err
    | .net_do_write => net_do_write net net_msg err

/-- The loop over the clients that are left, `err` being what the one before them has
returned, and what comes after the loop. -/
def sendClients (net_msg : Nat) (err : Int) : (clients : List Nat) → Prog NetSends Unit
  | [] => do
    tls_mem_free net_msg
    modify fun s => s.setTask (.idle err)
  | client_conn :: clients => do
    writeMsg net_msg ⟨client_conn, ERR_VAL⟩
    modify fun s => s.setTask (.posting .net_do_write net_msg clients)

/-- Up to the wait for the callback, in front of which the task goes on at once if the
message cannot be posted. -/
def netconn_msg (function : TcpipCallback) (net_msg : Nat) (clients : List Nat) (posted : Bool) : Prog NetSends Unit := do
  let msg ← readMsg net_msg
  let err ← tcpip_callback_with_block function net_msg posted
  if err ≠ ERR_OK then
    tls_mem_free net_msg
    sendClients net_msg err clients
  else
    modify fun s => s.setTask (.waiting net_msg msg.conn clients)

/-- Up to the first message. `memory` and `pbuf` tell whether there is memory for the
message and for its buffer. -/
def tls_socket_send (net : Nat → SendConn) (skt_num : UInt8) (memory pbuf : Bool) : Prog NetSends Unit := do
  if memory then
    let net_msg ← allocMsg
    match tls_net_get_socket skt_num.toNat with
    | none =>
      tls_mem_free net_msg
      modify fun s => s.setTask (.idle ERR_VAL)
    | some conn =>
      if (net conn).used = false then
        tls_mem_free net_msg
        modify fun s => s.setTask (.idle ERR_VAL)
      else if (net conn).proto = TLS_NETCONN_UDP then
        writeMsg net_msg ⟨conn, ERR_VAL⟩
        if pbuf then
          modify fun s => s.setTask (.posting .net_do_send net_msg [])
        else
          tls_mem_free net_msg
          modify fun s => s.setTask (.idle ERR_VAL)
      else if (net conn).proto = TLS_NETCONN_TCP then
        if (net conn).client then
          writeMsg net_msg ⟨conn, ERR_VAL⟩
          modify fun s => s.setTask (.posting .net_do_write net_msg [])
        else
          sendClients net_msg ERR_OK ((net conn).list.filter fun client_conn => (net client_conn).used)
      else
        tls_mem_free net_msg
        modify fun s => s.setTask (.idle (-1))
  else
    modify fun s => s.setTask (.idle ERR_MEM)

/-- The first socket that the loop finds. -/
def udpSocket (net : Nat → SendConn) (localport : UInt16) : Option Nat :=
  (List.range (TLS_MAX_NETCONN_NUM * 2)).findSome? fun i => (tls_net_get_socket i).filter fun conn =>
    (net conn).used ∧ localport = (net conn).port ∧ (net conn).proto = TLS_NETCONN_UDP

def tls_socket_udp_sendto (net : Nat → SendConn) (localport : UInt16) (memory posted : Bool) : Prog NetSends Unit := do
  match udpSocket net localport with
  | none => modify fun s => s.setTask (.idle (-1))
  | some conn =>
    if memory then
      let net_msg ← allocMsg
      modify fun s => { s with sentto := net_msg :: s.sentto }
      writeMsg net_msg ⟨conn, ERR_VAL⟩
      let err ← tcpip_callback_with_block .net_do_send net_msg posted
      if err ≠ ERR_OK then
        tls_mem_free net_msg
      modify fun s => s.setTask (.idle err)
    else
      modify fun s => s.setTask (.idle ERR_MEM)

end NetSends

open NetSends

/-- What comes next: the task calls a function, posts its message or finds out about its
semaphore, or the thread of the stack runs a callback. -/
inductive SendEvent where
  | send (skt_num : UInt8) (memory pbuf : Bool)
  | sendto (localport : UInt16) (memory posted : Bool)
  | post (posted : Bool)
  | wait
  | callback (err : Int)

/-- What does not fit where the task is does nothing. -/
def sendEvent (net : Nat → SendConn) (event : SendEvent) : Prog NetSends Unit := do
  let s ← get
  match event, s.task with
  | .send skt_num memory pbuf, .idle _ => tls_socket_send net skt_num memory pbuf
  | .sendto localport memory posted, .idle _ => tls_socket_udp_sendto net localport memory posted
  | .post posted, .posting function net_msg clients => netconn_msg function net_msg clients posted
  | .wait, .waiting net_msg conn clients =>
    if s.op_completed conn > 0 then
      modify fun s => { s with op_completed := Function.update s.op_completed conn (s.op_completed conn - 1) }
      let msg ← readMsg net_msg
      sendClients net_msg msg.err clients
  | .callback err, _ => tcpip_thread net err
  | _, _ => return ()

namespace NetSends

variable {net : Nat → SendConn} {s s' : NetSends} {m : Nat} {own : Option Nat} {event : SendEvent}

/-- The messages for the thread of the stack. -/
def queue (s : NetSends) : List Nat := s.mbox.map Prod.snd

/-- Of the messages that are there, `own` is that of the task, and the others are of
`tls_socket_udp_sendto` and have been posted. -/
structure Owned (own : Option Nat) (s : NetSends) : Prop where
  fresh : ∀ m, s.msgs m ≠ none → m < s.allocated
  sentto : ∀ m ∈ s.sentto, m < s.allocated ∧ (m ∈ s.queue ∨ s.msgs m = none)
  held : ∀ m, own = some m → s.msgs m ≠ none ∧ m ∉ s.sentto
  others : ∀ m, m ∉ s.sentto → s.msgs m = none ∨ own = some m

/-- Nothing is signalled, and the thread of the stack has messages of
`tls_socket_udp_sendto` only. -/
structure Quiet (s : NetSends) : Prop where
  op_completed : ∀ c, s.op_completed c = 0
  queue : ∀ m ∈ s.queue, m ∈ s.sentto

/-- What holds at each point of the task. A task that waits has posted its message last,
or has been signalled once. -/
def Inv (s : NetSends) : Prop :=
  match s.task with
  | .idle _ => Owned none s ∧ Quiet s
  | .posting _ net_msg _ => Owned (some net_msg) s ∧ Quiet s
  | .waiting net_msg conn _ => Owned (some net_msg) s ∧ (∃ err, s.msgs net_msg = some ⟨conn, err⟩) ∧
    ((∃ function mbox, s.mbox = mbox ++ [(function, net_msg)] ∧ Quiet { s with mbox := mbox }) ∨
      ∃ op_completed, s.op_completed = Function.update op_completed conn 1 ∧ Quiet { s with op_completed := op_completed } ∧
        op_completed conn = 0)

theorem init_inv : Inv init :=
  ⟨⟨fun _ h => absurd rfl h, fun _ h => (by cases h), fun _ h => (by cases h), fun _ _ => .inl rfl⟩, fun _ => rfl, fun _ h => by cases h⟩

theorem run_readMsg {msg : tls_net_msg} (h : s.msgs m = some msg) : (readMsg m).run s = .ok (msg, s) := by
  rw [readMsg, run_get_bind, h]
  rfl

theorem run_writeMsg {msg : tls_net_msg} (h : s.msgs m ≠ none) : (writeMsg m msg).run s = .ok ((), s.setMsg m (some msg)) := by
  obtain ⟨old, hold⟩ := Option.ne_none_iff_exists'.mp h
  simp only [writeMsg, run_bind, run_readMsg hold, ok_bind, run_modify]

theorem run_tls_mem_free (h : s.msgs m ≠ none) : (tls_mem_free m).run s = .ok ((), s.setMsg m none) := by
  obtain ⟨old, hold⟩ := Option.ne_none_iff_exists'.mp h
  simp only [tls_mem_free, run_bind, run_readMsg hold, ok_bind, run_modify]

/-- Only the messages count, and where they are. -/
theorem Owned.congr (h : Owned own s) (hmsgs : s'.msgs = s.msgs) (hallocated : s'.allocated = s.allocated)
    (hsentto : s'.sentto = s.sentto) (hqueue : ∀ m ∈ s.sentto, m ∈ s.queue → m ∈ s'.queue) : Owned own s' where
  fresh := by rw [hmsgs, hallocated]; exact h.fresh
  sentto m hm := by
    rw [hsentto] at hm
    rw [hallocated, hmsgs]
    exact ⟨(h.sentto m hm).1, (h.sentto m hm).2.imp_left (hqueue m hm)⟩
  held := by rw [hmsgs, hsentto]; exact h.held
  others := by rw [hmsgs, hsentto]; exact h.others

theorem Owned.setTask (h : Owned own s) (task : SendTask) : Owned own (s.setTask task) := h.congr rfl rfl rfl fun _ _ => id

theorem Quiet.setTask (h : Quiet s) (task : SendTask) : Quiet (s.setTask task) := ⟨h.op_completed, h.queue⟩

/-- A message of the task may be written. -/
theorem Owned.write (h : Owned own s) (hown : own = some m) (msg : tls_net_msg) : Owned own (s.setMsg m (some msg)) := by
  have hmsg := h.held m hown
  have hne {d : Nat} (hd : d ≠ m) : (s.setMsg m (some msg)).msgs d = s.msgs d := by simp [setMsg, hd]
  refine ⟨fun d hd => ?_, fun d hd => ⟨(h.sentto d hd).1, ?_⟩, fun d hd => ?_, fun d hd => ?_⟩
  · by_cases hdm : d = m
    · exact hdm ▸ h.fresh m hmsg.1
    · exact h.fresh d (hne hdm ▸ hd)
  · rw [hne fun hdm => hmsg.2 (hdm ▸ hd)]
    exact (h.sentto d hd).2
  · obtain rfl : m = d := Option.some.inj (hown.symm.trans hd)
    exact ⟨by simp [setMsg], hmsg.2⟩
  · by_cases hdm : d = m
    · exact .inr (hdm ▸ hown)
    · rw [hne hdm]
      exact h.others d hd

/-- It is gone when the task has freed it. -/
theorem Owned.free (h : Owned (some m) s) : Owned none (s.setMsg m none) := by
  have hne {d : Nat} (hd : d ≠ m) : (s.setMsg m none).msgs d = s.msgs d := by simp [setMsg, hd]
  have hself : (s.setMsg m none).msgs m = none := by simp [setMsg]
  refine ⟨fun d hd => ?_, fun d hd => ⟨(h.sentto d hd).1, ?_⟩, fun d hd => (by cases hd), fun d hd => .inl ?_⟩
  · have hdm : d ≠ m := by
      rintro rfl
      exact hd hself
    exact h.fresh d (hne hdm ▸ hd)
  · rw [hne fun hdm => (h.held m rfl).2 (hdm ▸ hd)]
    exact (h.sentto d hd).2
  · by_cases hdm : d = m
    · rw [hdm, hself]
    · rw [hne hdm]
      exact (h.others d hd).resolve_right fun heq => hdm (Option.some.inj heq).symm

theorem Quiet.setMsg (h : Quiet s) (m : Nat) (msg : Option tls_net_msg) : Quiet (s.setMsg m msg) := ⟨h.op_completed, h.queue⟩

/-- The task goes on to the next client, or returns. -/
theorem run_sendClients (hown : Owned (some m) s) (hquiet : Quiet s) (err : Int) (clients : List Nat) :
    ∃ s', (sendClients m err clients).run s = .ok ((), s') ∧ Inv s' := by
  have hmsg := (hown.held m rfl).1
  cases clients with
  | nil =>
    refine ⟨(s.setMsg m none).setTask (.idle err), ?_, hown.free.setTask _, (hquiet.setMsg m none).setTask _⟩
    simp only [sendClients, run_bind, run_tls_mem_free hmsg, ok_bind, run_modify]
  | cons client_conn clients =>
    refine ⟨(s.setMsg m (some ⟨client_conn, ERR_VAL⟩)).setTask (.posting .net_do_write m clients), ?_,
      (hown.write rfl _).setTask _, (hquiet.setMsg m _).setTask _⟩
    simp only [sendClients, run_bind, run_writeMsg hmsg, ok_bind, run_modify]

/-- A new message is the task's. -/
theorem Owned.alloc (h : Owned none s) :
    Owned (some s.allocated) { s.setMsg s.allocated (some ⟨0, ERR_OK⟩) with allocated := s.allocated + 1 } := by
  have hne {d : Nat} (hd : d ≠ s.allocated) : (s.setMsg s.allocated (some ⟨0, ERR_OK⟩)).msgs d = s.msgs d := by simp [setMsg, hd]
  have hlt (d : Nat) (hd : d ∈ s.sentto) : d ≠ s.allocated := Nat.ne_of_lt (h.sentto d hd).1
  refine ⟨fun d hd => ?_, fun d hd => ⟨Nat.lt_succ_of_lt (h.sentto d hd).1, ?_⟩, fun d hd => ?_, fun d hd => ?_⟩
  · by_cases hdm : d = s.allocated
    · exact hdm ▸ Nat.lt_succ_self _
    · exact Nat.lt_succ_of_lt (h.fresh d (hne hdm ▸ hd))
  · exact (h.sentto d hd).2.imp_right fun hnone => (hne (hlt d hd)).trans hnone
  · obtain rfl : s.allocated = d := Option.some.inj hd
    exact ⟨by simp [setMsg], fun hmem => hlt _ hmem rfl⟩
  · by_cases hdm : d = s.allocated
    · exact .inr (hdm ▸ rfl)
    · exact .inl ((hne hdm).trans ((h.others d hd).resolve_right (by simp)))

/-- The task gives its message away with a post. -/
theorem Owned.sendto (h : Owned (some m) s) (function : TcpipCallback) :
    Owned none { s with sentto := m :: s.sentto, mbox := s.mbox ++ [(function, m)] } where
  fresh := h.fresh
  sentto d hd := by
    rcases List.mem_cons.mp hd with rfl | hd
    · exact ⟨h.fresh d (h.held d rfl).1, .inl (by simp [queue])⟩
    · exact ⟨(h.sentto d hd).1, (h.sentto d hd).2.imp_left fun hmem => by
        rw [queue, List.map_append]
        exact List.mem_append_left _ hmem⟩
  held d hd := by cases hd
  others d hd := by
    rw [List.mem_cons, not_or] at hd
    exact .inl ((h.others d hd.2).resolve_right fun heq => hd.1 (Option.some.inj heq).symm)

/-- Nothing is to be done about a message of it that could not be posted. -/
theorem Owned.sentto_none (h : Owned none s) (hm : m < s.allocated) (hmsg : s.msgs m = none) :
    Owned none { s with sentto := m :: s.sentto } where
  fresh := h.fresh
  sentto d hd := by
    rcases List.mem_cons.mp hd with rfl | hd
    · exact ⟨hm, .inr hmsg⟩
    · exact h.sentto d hd
  held d hd := by cases hd
  others d hd := h.others d fun hmem => hd (List.mem_cons_of_mem _ hmem)

theorem run_allocMsg (s : NetSends) : allocMsg.run s =
    .ok (s.allocated, { s.setMsg s.allocated (some ⟨0, ERR_OK⟩) with allocated := s.allocated + 1 }) := rfl

/-- The task frees its message and returns. -/
theorem run_return (hown : Owned (some m) s) (hquiet : Quiet s) (ret : Int) :
    ∃ s', (do tls_mem_free m; modify fun s => s.setTask (.idle ret) : Prog NetSends Unit).run s = .ok ((), s') ∧ Inv s' := by
  refine ⟨(s.setMsg m none).setTask (.idle ret), ?_, hown.free.setTask _, (hquiet.setMsg m none).setTask _⟩
  simp only [run_bind, run_tls_mem_free (hown.held m rfl).1, ok_bind, run_modify]

/-- The task is about to post its message for `conn`. -/
theorem run_prepare (hown : Owned (some m) s) (hquiet : Quiet s) (conn : Nat) (function : TcpipCallback) :
    ∃ s', (do writeMsg m ⟨conn, ERR_VAL⟩; modify fun s => s.setTask (.posting function m []) : Prog NetSends Unit).run s =
      .ok ((), s') ∧ Inv s' := by
  refine ⟨(s.setMsg m (some ⟨conn, ERR_VAL⟩)).setTask (.posting function m []), ?_, (hown.write rfl _).setTask _,
    (hquiet.setMsg m _).setTask _⟩
  simp only [run_bind, run_writeMsg (hown.held m rfl).1, ok_bind, run_modify]

theorem run_tls_socket_send (hown : Owned none s) (hquiet : Quiet s) (skt_num : UInt8) (memory pbuf : Bool) :
    ∃ s', (tls_socket_send net skt_num memory pbuf).run s = .ok ((), s') ∧ Inv s' := by
  cases memory with
  | false => exact ⟨s.setTask (.idle ERR_MEM), rfl, hown.setTask _, hquiet.setTask _⟩
  | true =>
    simp only [tls_socket_send, if_true, run_bind, run_allocMsg, ok_bind]
    have hown₁ := hown.alloc
    have hquiet₁ : Quiet { s.setMsg s.allocated (some ⟨0, ERR_OK⟩) with allocated := s.allocated + 1 } := ⟨hquiet.op_completed, hquiet.queue⟩
    generalize { s.setMsg s.allocated (some ⟨0, ERR_OK⟩) with allocated := s.allocated + 1 } = s₁ at hown₁ hquiet₁
    generalize s.allocated = m at hown₁
    cases tls_net_get_socket skt_num.toNat with
    | none => exact run_return hown₁ hquiet₁ ERR_VAL
    | some conn =>
      simp only []
      split
      · exact run_return hown₁ hquiet₁ ERR_VAL
      split
      · cases pbuf with
        | true => exact run_prepare hown₁ hquiet₁ conn .net_do_send
        | false =>
          simp only [run_bind, run_writeMsg (hown₁.held m rfl).1, ok_bind, Bool.false_eq_true, if_false]
          exact run_return (hown₁.write rfl _) (hquiet₁.setMsg m _) ERR_VAL
      split
      · split
        · exact run_prepare hown₁ hquiet₁ conn .net_do_write
        · exact run_sendClients hown₁ hquiet₁ ERR_OK _
      · exact run_return hown₁ hquiet₁ (-1)

/-- A message for `conn` that nobody waits for is posted, or freed. -/
theorem run_postSendto (hown : Owned (some m) s) (hquiet : Quiet s) (conn : Nat) (posted : Bool) :
    ∃ s', (do
      modify fun s => { s with sentto := m :: s.sentto }
      writeMsg m ⟨conn, ERR_VAL⟩
      let err ← tcpip_callback_with_block .net_do_send m posted
      if err ≠ ERR_OK then
        tls_mem_free m
      modify fun s => s.setTask (.idle err) : Prog NetSends Unit).run s = .ok ((), s') ∧ Inv s' := by
  have hown' := hown.write rfl ⟨conn, ERR_VAL⟩
  have hquiet' := hquiet.setMsg m (some ⟨conn, ERR_VAL⟩)
  have hwrite : (writeMsg m ⟨conn, ERR_VAL⟩).run { s with sentto := m :: s.sentto } =
      .ok ((), { s.setMsg m (some ⟨conn, ERR_VAL⟩) with sentto := m :: s.sentto }) :=
    @run_writeMsg { s with sentto := m :: s.sentto } m _ (hown.held m rfl).1
  simp only [run_bind, run_modify, ok_bind, hwrite]
  generalize hs₁ : s.setMsg m (some ⟨conn, ERR_VAL⟩) = s₁ at hown' hquiet'
  have hsentto : s.sentto = s₁.sentto := by rw [← hs₁]; rfl
  rw [hsentto]
  cases posted with
  | true =>
    refine ⟨({ s₁ with sentto := m :: s₁.sentto, mbox := s₁.mbox ++ [(.net_do_send, m)] } : NetSends).setTask (.idle ERR_OK), rfl,
      (hown'.sendto .net_do_send).setTask _, hquiet'.op_completed, fun d hd => ?_⟩
    obtain hd | rfl : d ∈ s₁.queue ∨ d = m := by simpa [queue, setTask] using hd
    · exact List.mem_cons_of_mem _ (hquiet'.queue d hd)
    · exact List.mem_cons_self
  | false =>
    have hmsg := (hown'.held m rfl).1
    have hfree : (tls_mem_free m).run { s₁ with sentto := m :: s₁.sentto } = .ok ((), { s₁.setMsg m none with sentto := m :: s₁.sentto }) :=
      @run_tls_mem_free { s₁ with sentto := m :: s₁.sentto } m hmsg
    refine ⟨({ s₁.setMsg m none with sentto := m :: s₁.sentto } : NetSends).setTask (.idle ERR_MEM), ?_,
      (hown'.free.sentto_none (hown'.fresh m hmsg) (by simp [setMsg])).setTask _, hquiet'.op_completed,
      fun d hd => List.mem_cons_of_mem _ (hquiet'.queue d hd)⟩
    simp only [tcpip_callback_with_block, Bool.false_eq_true, if_false, run_pure, ok_bind]
    rw [if_pos (by decide)]
    simp only [run_bind, hfree, ok_bind, run_modify]

theorem run_tls_socket_udp_sendto (hown : Owned none s) (hquiet : Quiet s) (localport : UInt16) (memory posted : Bool) :
    ∃ s', (tls_socket_udp_sendto net localport memory posted).run s = .ok ((), s') ∧ Inv s' := by
  simp only [tls_socket_udp_sendto]
  cases udpSocket net localport with
  | none => exact ⟨s.setTask (.idle (-1)), rfl, hown.setTask _, hquiet.setTask _⟩
  | some conn =>
    cases memory with
    | false => exact ⟨s.setTask (.idle ERR_MEM), rfl, hown.setTask _, hquiet.setTask _⟩
    | true =>
      simp only [if_true]
      rw [run_bind, run_allocMsg, ok_bind]
      exact run_postSendto hown.alloc ⟨hquiet.op_completed, hquiet.queue⟩ conn posted

/-- The task waits for its message. -/
theorem run_netconn_msg (hown : Owned (some m) s) (hquiet : Quiet s) (function : TcpipCallback) (clients : List Nat) :
    ∃ s', (netconn_msg function m clients true).run s = .ok ((), s') ∧ Inv s' := by
  obtain ⟨⟨conn, err⟩, hmsg⟩ := Option.ne_none_iff_exists'.mp (hown.held m rfl).1
  refine ⟨({ s with mbox := s.mbox ++ [(function, m)] } : NetSends).setTask (.waiting m conn clients), ?_,
    hown.congr rfl rfl rfl fun d _ hd => ?_, ⟨err, hmsg⟩, .inl ⟨function, s.mbox, rfl, hquiet.op_completed, hquiet.queue⟩⟩
  · simp only [netconn_msg, run_bind, run_readMsg hmsg, ok_bind]
    rfl
  · rw [queue, setTask, List.map_append]
    exact List.mem_append_left _ hd

/-- What is signalled to a task is signalled to it once. -/
theorem run_completed (hown : Owned (some m) s) {conn : Nat} {err₀ : Int} (hmsg : s.msgs m = some ⟨conn, err₀⟩) (err : Int) :
    (completed m err).run s = .ok ((), { s.setMsg m (some ⟨conn, err⟩) with
      op_completed := Function.update s.op_completed conn (s.op_completed conn + 1) }) := by
  simp only [completed, run_bind, run_readMsg hmsg, run_writeMsg (hown.held m rfl).1, ok_bind, run_modify]
  rfl

/-- The message of the task. -/
def ofTask (s : NetSends) : Option Nat :=
  match s.task with
  | .idle _ => none
  | .posting _ net_msg _ => some net_msg
  | .waiting net_msg _ _ => some net_msg

/-- Every message that the task posts is posted, and no callback of a message that
nobody waits for is run. -/
def Careful (s : NetSends) : SendEvent → Prop
  | .post posted => posted = true
  | .callback _ => ∀ entry, s.mbox.head? = some entry → entry.2 ∉ s.sentto
  | _ => True

/-- How sends are to be completed: no callback of what has been sent is left where the
task has returned, and a message is gone unless it is that of the task or is to be sent. -/
structure Proper (s : NetSends) : Prop where
  returned : s.ofTask = none → (∀ c, s.op_completed c = 0) ∧ ∀ m ∈ s.queue, m ∈ s.sentto
  freed : ∀ m, m ∉ s.sentto → s.msgs m = none ∨ s.ofTask = some m
  sentto : ∀ m ∈ s.sentto, m ∈ s.queue ∨ s.msgs m = none

theorem Inv.proper (h : Inv s) : Proper s := by
  rw [Inv] at h
  split at h
  · rename_i htask
    exact ⟨fun _ => ⟨h.2.op_completed, h.2.queue⟩, fun m hm => .inl ((h.1.others m hm).resolve_right (by simp)),
      fun m hm => (h.1.sentto m hm).2⟩
  · rename_i htask
    exact ⟨fun hnone => by simp [ofTask, htask] at hnone, fun m hm => by simpa [ofTask, htask] using h.1.others m hm,
      fun m hm => (h.1.sentto m hm).2⟩
  · rename_i htask
    exact ⟨fun hnone => by simp [ofTask, htask] at hnone, fun m hm => by simpa [ofTask, htask] using h.1.others m hm,
      fun m hm => (h.1.sentto m hm).2⟩

/-- The thread of the stack has nothing to run that the task does not wait for. -/
theorem Quiet.mbox (h : Quiet s) {err : Int} (hcareful : s.Careful (.callback err)) : s.mbox = [] := by
  cases hmbox : s.mbox with
  | nil => rfl
  | cons entry mbox => exact absurd (h.queue entry.2 (by simp [NetSends.queue, hmbox])) (hcareful entry (by simp [hmbox]))

/-- The callback of the message that the task waits for. -/
theorem run_callback {function : TcpipCallback} {conn : Nat} {clients : List Nat} {mbox : List (TcpipCallback × Nat)} {err₀ : Int}
    (hown : Owned (some m) s) (htask : s.task = .waiting m conn clients) (hmsg : s.msgs m = some ⟨conn, err₀⟩)
    (hmbox : s.mbox = mbox ++ [(function, m)]) (hquiet : Quiet { s with mbox := mbox }) (err : Int)
    (hcareful : s.Careful (.callback err)) : ∃ s', (tcpip_thread net err).run s = .ok ((), s') ∧ Inv s' := by
  have hnil : mbox = [] := @Quiet.mbox { s with mbox := mbox } hquiet err fun entry hentry => by
    refine hcareful entry ?_
    obtain ⟨rest, hrest⟩ := List.head?_eq_some_iff.mp hentry
    have hmbox' : mbox = entry :: rest := hrest
    simp [hmbox, hmbox']
  subst hnil
  have hown' : Owned (some m) { s with mbox := [] } := hown.congr rfl rfl rfl fun d hd hqueue => by
    obtain rfl : d = m := by simpa [queue, hmbox] using hqueue
    exact absurd hd (hown.held d rfl).2
  have hrun (err' : Int) : ∃ s', (completed m err').run { s with mbox := [] } = .ok ((), s') ∧ Inv s' := by
    refine ⟨_, run_completed hown' hmsg err', ?_⟩
    simp only [Inv, setMsg, htask]
    refine ⟨(hown'.write rfl ⟨conn, err'⟩).congr rfl rfl rfl fun _ _ hd => hd, ⟨err', by simp⟩, .inr ⟨s.op_completed, ?_, ?_, hquiet.op_completed conn⟩⟩
    · have hzero : s.op_completed conn = 0 := hquiet.op_completed conn
      rw [hzero]
    · exact ⟨hquiet.op_completed, hquiet.queue⟩
  rw [tcpip_thread, run_get_bind, hmbox]
  cases function with
  | net_do_send => exact hrun err
  | net_do_write =>
    obtain ⟨s', hrun', hinv⟩ := hrun (if (net conn).proto = TLS_NETCONN_TCP then err else ERR_VAL)
    refine ⟨s', ?_, hinv⟩
    have hread : (readMsg m).run { s with mbox := [] } = .ok (⟨conn, err₀⟩, { s with mbox := [] }) := run_readMsg hmsg
    simp only [List.nil_append, run_bind, run_modify, ok_bind, NetSends.net_do_write, hread]
    exact hrun'

/-- The task goes on after the callback of its message. -/
theorem run_wake {conn : Nat} {clients : List Nat} {err : Int} {op_completed : Nat → Nat} (hown : Owned (some m) s)
    (hmsg : s.msgs m = some ⟨conn, err⟩) (hsignal : s.op_completed = Function.update op_completed conn 1)
    (hzero : op_completed conn = 0) (hquiet : Quiet { s with op_completed := op_completed }) :
    ∃ s', (do
      modify fun s' => { s' with op_completed := Function.update s'.op_completed conn (s.op_completed conn - 1) }
      let msg ← readMsg m
      sendClients m msg.err clients : Prog NetSends Unit).run s = .ok ((), s') ∧ Inv s' := by
  have hback : Function.update s.op_completed conn (s.op_completed conn - 1) = op_completed := by
    rw [hsignal]
    funext c
    by_cases hc : c = conn
    · simp [hc, hzero]
    · simp [hc]
  simp only [run_bind, run_modify, ok_bind, hback]
  have hread : (readMsg m).run { s with op_completed := op_completed } = .ok (⟨conn, err⟩, { s with op_completed := op_completed }) :=
    run_readMsg hmsg
  have hown' : Owned (some m) { s with op_completed := op_completed } := hown.congr rfl rfl rfl fun _ _ hd => hd
  rw [hread, ok_bind]
  exact run_sendClients hown' hquiet err clients

theorem Inv.step (h : Inv s) (hcareful : s.Careful event) : ∃ s', (sendEvent net event).run s = .ok ((), s') ∧ Inv s' := by
  have hinv := h
  have hskip : ∃ s', (return () : Prog NetSends Unit).run s = .ok ((), s') ∧ Inv s' := ⟨s, rfl, hinv⟩
  rw [sendEvent, run_get_bind]
  rw [Inv] at h
  cases htask : s.task with
  | idle ret =>
    rw [htask] at h
    cases event with
    | send skt_num memory pbuf => exact run_tls_socket_send h.1 h.2 skt_num memory pbuf
    | sendto localport memory posted => exact run_tls_socket_udp_sendto h.1 h.2 localport memory posted
    | callback err =>
      simp only [tcpip_thread]
      rw [run_get_bind, h.2.mbox hcareful]
      exact hskip
    | post posted => exact hskip
    | wait => exact hskip
  | posting function net_msg clients =>
    rw [htask] at h
    cases event with
    | post posted =>
      obtain rfl : posted = true := hcareful
      exact run_netconn_msg h.1 h.2 function clients
    | callback err =>
      simp only [tcpip_thread]
      rw [run_get_bind, h.2.mbox hcareful]
      exact hskip
    | send skt_num memory pbuf => exact hskip
    | sendto localport memory posted => exact hskip
    | wait => exact hskip
  | waiting net_msg conn clients =>
    rw [htask] at h
    obtain ⟨hown, ⟨err₀, hmsg⟩, ⟨function, mbox, hmbox, hquiet⟩ | ⟨op_completed, hsignal, hquiet, hzero⟩⟩ := h
    · have hquiet : Quiet { s with mbox := mbox } := ⟨hquiet.op_completed, hquiet.queue⟩
      cases event with
      | callback err => exact run_callback hown htask hmsg hmbox hquiet err hcareful
      | wait =>
        have hnone : ¬ s.op_completed conn > 0 := Nat.not_lt.mpr (Nat.le_of_eq (hquiet.op_completed conn))
        simp only [if_neg hnone]
        exact hskip
      | send skt_num memory pbuf => exact hskip
      | sendto localport memory posted => exact hskip
      | post posted => exact hskip
    · have hquiet : Quiet { s with op_completed := op_completed } := ⟨hquiet.op_completed, hquiet.queue⟩
      cases event with
      | callback err =>
        have hnil : s.mbox = [] := @Quiet.mbox { s with op_completed := op_completed } hquiet err hcareful
        simp only [tcpip_thread]
        rw [run_get_bind, hnil]
        exact hskip
      | wait =>
        have hsome : s.op_completed conn > 0 := by simp [hsignal]
        simp only [if_pos hsome]
        exact run_wake hown hmsg hsignal hzero hquiet
      | send skt_num memory pbuf => exact hskip
      | sendto localport memory posted => exact hskip
      | post posted => exact hskip

end NetSends

/-- As long as every message of `tls_socket_send` is posted, and no callback is run of
a message of `tls_socket_udp_sendto`, sends are completed properly. -/
theorem socket_send_completion {net : Nat → SendConn} {s : NetSends} {event : SendEvent}
    (hruns : Runs (sendEvent net) Careful init s) (hcareful : s.Careful event) :
    Proper s ∧ ∃ s', (sendEvent net event).run s = .ok ((), s') := by
  have hinv : Inv s := hruns.invariant (I := Inv) init_inv fun t u e hinv hcareful hrun => by
    obtain ⟨u', hrun', hinv'⟩ := @Inv.step net t e hinv hcareful
    obtain rfl := (Prod.mk.inj (Except.ok.inj (hrun'.symm.trans hrun))).2
    exact hinv'
  obtain ⟨s', hrun, -⟩ := @Inv.step net s event hinv hcareful
  exact ⟨hinv.proper, s', hrun⟩

/-- The socket `1` is for UDP, and `2` is a server with the clients `5` and `6`. -/
def someSockets : Nat → SendConn
  | 0 => ⟨true, TLS_NETCONN_UDP, true, 7000, []⟩
  | 1 => ⟨true, TLS_NETCONN_TCP, false, 80, [4, 5]⟩
  | _ => ⟨true, TLS_NETCONN_TCP, true, 80, []⟩

/-- Whether the condition for a step holds. -/
def NetSends.check (s : NetSends) : SendEvent → Bool
  | .post posted => posted
  | .callback _ => s.mbox.head?.all fun entry => decide (entry.2 ∉ s.sentto)
  | _ => true

theorem NetSends.careful_of_check {s : NetSends} {event : SendEvent} (h : s.check event = true) : s.Careful event := by
  cases event with
  | post posted => exact h
  | callback err =>
    intro entry hentry
    rw [check, hentry] at h
    exact of_decide_eq_true h
  | _ => trivial

/-- Something is sent to both clients. -/
def sendBoth : List SendEvent := [.send 2 true true, .post true, .callback 0, .wait, .post true, .callback 0, .wait]

theorem socket_send_completion_both : ∃ s, Runs (sendEvent someSockets) Careful init s ∧ s.task = .idle ERR_OK ∧ s.allocated = 1 ∧
    Proper s ∧ ∃ s', (sendEvent someSockets (.send 1 true true)).run s = .ok ((), s') := by
  obtain ⟨s, hreplay, h⟩ := Option.map_eq_some_iff.mp (show (replay (sendEvent someSockets) check sendBoth init).map
    (fun s => (s.task, s.allocated)) = some (.idle ERR_OK, 1) by rfl)
  simp only [Prod.mk.injEq] at h
  have hruns := runs_of_replay (fun s e => careful_of_check) hreplay
  exact ⟨s, hruns, h.1, h.2, @socket_send_completion someSockets s (.send 1 true true) hruns trivial⟩

/-- Where a list of events leads. -/
theorem runs_of_events {α : Type} {events : List SendEvent} {view : NetSends → α} {a : α}
    (h : (replay (sendEvent someSockets) (fun _ _ => true) events init).map view = some a) :
    ∃ s, Runs (sendEvent someSockets) (fun _ _ => True) init s ∧ view s = a := by
  obtain ⟨s, hreplay, hview⟩ := Option.map_eq_some_iff.mp h
  exact ⟨s, runs_of_replay (fun _ _ _ => trivial) hreplay, hview⟩

/-- The fault that a run ends in. -/
def faultOf {α : Type} : Except Fault α → Option Fault
  | .ok _ => none
  | .error fault => some fault

theorem error_of_faultOf {α : Type} {r : Except Fault α} {fault : Fault} (h : faultOf r = some fault) : r = .error fault := by
  cases r with
  | ok a => cases h
  | error e => exact congrArg Except.error (Option.some.inj h)

/-- The semaphore is signalled for what `tls_socket_udp_sendto` has sent, and the message is
never freed; what `tls_socket_send` cannot post is freed twice; and after the former, it
frees its message before the callback. -/
theorem socket_send_completion_fails :
    (∃ s, Runs (sendEvent someSockets) (fun _ _ => True) init s ∧
      (s.ofTask, s.op_completed 0, s.sentto, s.queue, (s.msgs 0).isSome) = (none, 1, [0], [], true)) ∧
    (∃ s, Runs (sendEvent someSockets) (fun _ _ => True) init s ∧
      (sendEvent someSockets (.post false)).run s = .error .read) ∧
    (∃ s, Runs (sendEvent someSockets) (fun _ _ => True) init s ∧
      (s.ofTask, s.sentto, s.queue, (s.msgs 1).isSome) = (none, [0], [1], false) ∧
      (sendEvent someSockets (.callback 0)).run s = .error .read) := by
  refine ⟨@runs_of_events _ [.sendto 7000 true true, .callback 0] _ _ rfl, ?_, ?_⟩
  · obtain ⟨s, hruns, hview⟩ := @runs_of_events _ [.send 1 true true]
      (fun s => faultOf ((sendEvent someSockets (.post false)).run s)) (some .read) rfl
    exact ⟨s, hruns, error_of_faultOf hview⟩
  · obtain ⟨s, hruns, hview⟩ := @runs_of_events _ [.sendto 7000 true true, .callback 0, .send 1 true true, .post true, .wait]
      (fun s => ((s.ofTask, s.sentto, s.queue, (s.msgs 1).isSome), faultOf ((sendEvent someSockets (.callback 0)).run s)))
      ((none, [0], [1], false), some .read) rfl
    exact ⟨s, hruns, (Prod.mk.inj hview).1, error_of_faultOf (Prod.mk.inj hview).2⟩

end ZCloud
