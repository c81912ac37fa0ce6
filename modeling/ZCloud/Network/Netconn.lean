import ZCloud.Lib.DlList
import ZCloud.Lib.Runs

open Memory Program DlList

namespace ZCloud

def TLS_MAX_SOCKET_NUM : Nat := 4
def TLS_MAX_NETCONN_NUM : Nat := 20

def ERR_OK : Int := 0
def ERR_MEM : Int := -1
def ERR_INPROGRESS : Int := -5
def ERR_ABRT : Int := -10
def ERR_CONN : Int := -13

inductive NetconnState where
  | NETCONN_STATE_NONE
  | NETCONN_STATE_WAITING
  | NETCONN_STATE_CONNECTED
  | NETCONN_STATE_CLOSED
deriving DecidableEq

export NetconnState (NETCONN_STATE_NONE NETCONN_STATE_WAITING NETCONN_STATE_CONNECTED NETCONN_STATE_CLOSED)

/-- A connection; `tcp` is its control block. -/
structure tls_netconn where
  used : Bool
  client : Bool
  state : NetconnState
  write_state : Bool
  idle_time : UInt32
  tcp : Option Nat

/-- What a control block calls back with, and whether it does so with what it receives. -/
structure Callbacks where
  arg : Nat
  recv : Bool

/-- The connections, the pointers of their nodes, and the control blocks that call back.
`quiet` counts the polls of a connection since there has been something on it, and
`idled` has those that have been aborted for being idle, the last one first. -/
structure NetPool where
  g_net_conn : Nat → tls_netconn
  links : Links Nat
  pcb : Nat → Option Callbacks
  quiet : Nat → Nat
  idled : List Nat

namespace NetPool

def setConn (s : NetPool) (c : Nat) (conn : tls_netconn) : NetPool := { s with g_net_conn := Function.update s.g_net_conn c conn }

def setPcb (s : NetPool) (p : Nat) (callbacks : Option Callbacks) : NetPool := { s with pcb := Function.update s.pcb p callbacks }

def setQuiet (s : NetPool) (c n : Nat) : NetPool := { s with quiet := Function.update s.quiet c n }

end NetPool

/-- The loop over the sockets behind `offset`. -/
def allocFrom (offset : Nat) : (slots : List Nat) → Prog NetPool (Option Nat)
  | [] => return none
  | i :: slots => do
    let s ← get
    if offset + i ≥ TLS_MAX_NETCONN_NUM then throw .read
    else if (s.g_net_conn (offset + i)).used then allocFrom offset slots
    else
      set { s.setConn (offset + i) { s.g_net_conn (offset + i) with used := true } with links := s.links.init (offset + i) }
      return some (offset + i)

/-- For a connection to the server `conn`. -/
def net_alloc_socket (conn : Nat) : Prog NetPool (Option Nat) :=
  let skt_num := conn + 1
  allocFrom (skt_num * 4) (List.range TLS_MAX_SOCKET_NUM)

def net_free_socket (conn : Nat) : Prog NetPool Unit := do
  let s ← get
  if (s.g_net_conn conn).used = false then
    return ()
  modify fun s => s.setConn conn { s.g_net_conn conn with used := false }
  if (s.g_net_conn conn).client ∧ s.links.prev conn ≠ none ∧ s.links.prev conn ≠ some conn then
    match s.links.del conn with
    | none => throw .null
    | some links => modify fun s => { s with links := links }

/-- `closed` tells whether `tcp_close` or `tcp_shutdown` succeeds. -/
def net_tcp_close_connect (closed : Bool) (conn : Nat) : Prog NetPool Unit := do
  let s ← get
  match (s.g_net_conn conn).tcp with
  | none => throw .null
  | some pcb =>
    if closed then
      modify fun s => (s.setPcb pcb none).setConn conn { s.g_net_conn conn with state := NETCONN_STATE_NONE }
      net_free_socket conn
      modify fun s => s.setConn conn { s.g_net_conn conn with tcp := none }
    else
      -- All callbacks are restored but for that of what is received.
      modify fun s => s.setPcb pcb (some ⟨conn, false⟩)

def net_tcp_err_cb (conn : Nat) : Prog NetPool Unit := do
  let s ← get
  match (s.g_net_conn conn).tcp with
  | none => return ()
  | some pcb =>
    modify fun s => (s.setPcb pcb none).setConn conn { s.g_net_conn conn with state := NETCONN_STATE_NONE }
    net_free_socket conn
    modify fun s => s.setConn conn { s.g_net_conn conn with tcp := none }

/-- The control block is gone before its error callback is called. -/
def tcp_abort (pcb : Nat) : Prog NetPool Unit := do
  match (← get).pcb pcb with
  | none => return ()
  | some callbacks =>
    modify fun s => s.setPcb pcb none
    net_tcp_err_cb callbacks.arg

/-- What a poll does about the state of the connection. `closing` tells whether the
control block is in `CLOSE_WAIT` or `CLOSED`. -/
def pollState (conn : Nat) (closing closed : Bool) : Prog NetPool Unit := do
  let s ← get
  if (s.g_net_conn conn).write_state ∧ (s.g_net_conn conn).state = NETCONN_STATE_CONNECTED then
    return ()
  else if (s.g_net_conn conn).state = NETCONN_STATE_CLOSED then
    net_tcp_close_connect closed conn
  else if closing then
    match (s.g_net_conn conn).tcp with
    | none => return ()
    | some pcb =>
      modify fun s => (s.setPcb pcb none).setConn conn
        { s.g_net_conn conn with state := NETCONN_STATE_NONE, tcp := none }
      net_free_socket conn

/-- `pollf` is what the callback of the user returns, if there is one. -/
def net_tcp_poll_cb (conn pcb : Nat) (closing closed : Bool) (pollf : Option Int) : Prog NetPool Int := do
  pollState conn closing closed
  let s ← get
  if (s.g_net_conn conn).client ∧ (s.g_net_conn conn).idle_time > 0 ∧ (s.links.first conn).isSome then
    modify fun s => s.setConn conn { s.g_net_conn conn with idle_time := (s.g_net_conn conn).idle_time - 1 }
    if (s.g_net_conn conn).idle_time - 1 = 0 then
      modify fun s => { s with idled := conn :: s.idled }
      tcp_abort pcb
      return ERR_ABRT
  match pollf with
  | none => return ERR_OK
  | some err_ret =>
    if err_ret = ERR_ABRT then
      tcp_abort pcb
    return err_ret

/-- The idle time of a connection with something on it is that of its first neighbour. -/
def touch (conn : Nat) : Prog NetPool Unit := do
  let s ← get
  if (s.g_net_conn conn).client ∧ (s.g_net_conn conn).idle_time > 0 then
    match s.links.first conn with
    | none => return ()
    | some server_conn =>
      modify fun s => s.setConn conn { s.g_net_conn conn with idle_time := (s.g_net_conn server_conn).idle_time }

/-- What is received: data, for which there may be no memory, the end of the connection,
or an error, for which the callback of the user returns `err_ret`. -/
inductive Received where
  | data
  | noMemory
  | closed
  | error (err_ret : Int)

def net_tcp_recv_cb (conn pcb : Nat) : Received → Prog NetPool Int
  | .error err_ret => do
    if err_ret = ERR_ABRT then
      tcp_abort pcb
    return err_ret
  | .closed => do
    tcp_abort pcb
    return ERR_ABRT
  | .noMemory => return ERR_MEM
  | .data => do
    touch conn
    return ERR_OK

/-- `acceptf` is what the callback of the user returns, if there is one. -/
def net_tcp_accept_cb (conn newpcb : Nat) (acceptf : Option Int) : Prog NetPool Int := do
  match ← net_alloc_socket conn with
  | none => return ERR_ABRT
  | some newconn =>
    modify fun s => (s.setConn newconn { s.g_net_conn newconn with
      used := true, tcp := some newpcb, client := true, idle_time := (s.g_net_conn conn).idle_time
      state := NETCONN_STATE_CONNECTED }).setPcb newpcb (some ⟨newconn, true⟩)
    match (← get).links.addTail conn newconn with
    | none => throw .null
    | some links => modify fun s => { s with links := links }
    match acceptf with
    | none => return ERR_OK
    | some err_ret =>
      if err_ret = ERR_ABRT then
        tcp_abort newpcb
      return err_ret

/-- `sent` is what `tcp_write` returns. -/
def net_do_write (conn : Nat) (sent : Int) : Prog NetPool Int := do
  let s ← get
  let err ←
    if (s.g_net_conn conn).state ≠ NETCONN_STATE_CONNECTED then pure ERR_INPROGRESS
    else if (s.g_net_conn conn).tcp ≠ none then do
      modify fun s => s.setConn conn { s.g_net_conn conn with write_state := true }
      pure sent
    else pure ERR_CONN
  touch conn
  return err

/-- The sockets of the clients that are used are closed, the last one first. -/
def closeClients (closed : Nat → Bool) : List Nat → Prog NetPool Unit
  | [] => return ()
  | conn :: conns => do
    closeClients closed conns
    net_tcp_close_connect (closed conn) conn

def do_close_connect (conn : Nat) (closed : Nat → Bool) : Prog NetPool Unit := do
  let s ← get
  if (s.g_net_conn conn).used = false then
    return ()
  if (s.g_net_conn conn).client = false then
    let clients := (s.links.collect conn (TLS_MAX_NETCONN_NUM + 1) (s.links.next conn)).filter fun c => (s.g_net_conn c).used
    modify fun s => { s with g_net_conn := fun c =>
      if c ∈ clients then { s.g_net_conn c with state := NETCONN_STATE_CLOSED } else s.g_net_conn c }
    closeClients closed clients
  modify fun s => s.setConn conn { s.g_net_conn conn with state := NETCONN_STATE_CLOSED }
  net_tcp_close_connect (closed conn) conn
  net_free_socket conn

end ZCloud
