import ZCloud.Drivers.Uart

open Memory Program

namespace ZCloud

def TLS_UART_RX_BUF_SIZE : Nat := 4096

def UIS_RX_FIFO : UInt32 := 0x4
def UIS_RX_FIFO_TIMEOUT : UInt32 := 0x8
def UIS_BREAK : UInt32 := 0x20
def UIS_FRM_ERR : UInt32 := 0x40
def UIS_PARITY_ERR : UInt32 := 0x80
def UIS_OVERRUN : UInt32 := 0x100

def UART_RX_INT_FLAG : UInt32 :=
  UIS_RX_FIFO ||| UIS_RX_FIFO_TIMEOUT ||| UIS_BREAK ||| UIS_OVERRUN ||| UIS_FRM_ERR ||| UIS_PARITY_ERR

def UART_RX_ERR_INT_FLAG : UInt32 := UIS_BREAK ||| UIS_FRM_ERR ||| UIS_PARITY_ERR

/-- The number of a port. -/
inductive UartNo where
  | TLS_UART_0
  | TLS_UART_1
deriving DecidableEq

inductive TLS_UART_FLOW_CTRL_MODE_T where
  | TLS_UART_FLOW_CTRL_NONE
  | TLS_UART_FLOW_CTRL_HARDWARE
deriving DecidableEq

inductive TLS_UART_RX_FLOW_CTRL_FLAG_T where
  | TLS_UART_RX_DISABLE
  | TLS_UART_RX_ENABLE
deriving DecidableEq

export UartNo (TLS_UART_0 TLS_UART_1)
export TLS_UART_FLOW_CTRL_MODE_T (TLS_UART_FLOW_CTRL_NONE TLS_UART_FLOW_CTRL_HARDWARE)
export TLS_UART_RX_FLOW_CTRL_FLAG_T (TLS_UART_RX_DISABLE TLS_UART_RX_ENABLE)

def CIRC_SPACE (head tail size : UInt32) : UInt32 := CIRC_CNT tail (head + 1) size

/-- The receiving side of a port that is not in user mode. `UR_RXW` is what waits in the
FIFO of the hardware, and `received` all that has been read from it, each byte with
whether it has been counted in `buf_overrun`. -/
structure UartRx where
  uart_no : UartNo
  flow_ctrl : TLS_UART_FLOW_CTRL_MODE_T
  fcStatus : TLS_UART_FLOW_CTRL_MODE_T
  rxstatus : TLS_UART_RX_FLOW_CTRL_FLAG_T
  hw_stopped : Bool
  UR_FC : UInt32
  UR_INTM : UInt32
  UR_RXW : List UInt8
  recv : tls_uart_circ_buf
  icount_rx : UInt32
  buf_overrun : UInt32
  tls_rx_len : UInt32
  received : List (UInt8 × Bool)

def tls_uart_set_flow_ctrl (flow_ctrl : TLS_UART_FLOW_CTRL_MODE_T) (port : UartRx) : UartRx :=
  match flow_ctrl with
  | .TLS_UART_FLOW_CTRL_NONE => { port with UR_FC := 0 }
  | .TLS_UART_FLOW_CTRL_HARDWARE =>
    if port.flow_ctrl = TLS_UART_FLOW_CTRL_HARDWARE then { port with UR_FC := 0x1 ||| 0x18 } else port

/-- Where the transmitter has been stopped, it goes on. -/
def tls_uart_set_fc_status (status : TLS_UART_FLOW_CTRL_MODE_T) : Prog UartRx Unit := do
  modify fun port => tls_uart_set_flow_ctrl status { port with fcStatus := status }
  let port ← get
  if port.flow_ctrl = TLS_UART_FLOW_CTRL_HARDWARE ∧ status = TLS_UART_FLOW_CTRL_NONE ∧ port.hw_stopped then
    modify fun port => { port with hw_stopped := false }

/-- `port` is the port with the number `uart_no`. -/
def tls_set_uart_rx_status (status : TLS_UART_RX_FLOW_CTRL_FLAG_T) (port : UartRx) : UartRx :=
  if port.uart_no = TLS_UART_1 then
    if port.rxstatus = status then port
    else
      match status with
      | .TLS_UART_RX_DISABLE =>
        if port.flow_ctrl = TLS_UART_FLOW_CTRL_HARDWARE ∧ port.fcStatus = TLS_UART_FLOW_CTRL_HARDWARE then
          { port with UR_INTM := port.UR_INTM ||| (UIS_RX_FIFO ||| UIS_OVERRUN), rxstatus := TLS_UART_RX_DISABLE }
        else port
      | .TLS_UART_RX_ENABLE =>
        { port with UR_INTM := port.UR_INTM &&& ~~~(UIS_RX_FIFO ||| UIS_OVERRUN), rxstatus := TLS_UART_RX_ENABLE }
  else port

/-- Takes the next byte from the FIFO. -/
def readChar : Prog UartRx UInt8 := do
  match (← get).UR_RXW with
  | [] => throw .read
  | ch :: chars =>
    modify fun port => { port with UR_RXW := chars }
    return ch

def note (ch : UInt8) (overrun : Bool) (port : UartRx) : UartRx := { port with received := port.received ++ [(ch, overrun)] }

/-- Inserts the character into the buffer. -/
def insertChar (ch : UInt8) : Prog UartRx Unit := do
  let port ← get
  match port.recv.buf with
  | none => throw .null
  | some buf =>
    let buf ← buf.store port.recv.head.toNat [ch]
    set { port with
      recv := { port.recv with buf := some buf, head := (port.recv.head + 1) &&& (UInt32.ofNat TLS_UART_RX_BUF_SIZE - 1) }
      icount_rx := port.icount_rx + 1 }

/-- The loop of the interrupt over the bytes that the FIFO has reported. -/
def receiveChars (intr_src : UInt32) : (rx_fifocnt : Nat) → Prog UartRx Unit
  | 0 => return ()
  | rx_fifocnt + 1 => do
    let ch ← readChar
    if intr_src &&& UART_RX_ERR_INT_FLAG ≠ 0 then
      modify (note ch false)
      receiveChars intr_src rx_fifocnt
    else
      let port ← get
      if CIRC_SPACE port.recv.head port.recv.tail (UInt32.ofNat TLS_UART_RX_BUF_SIZE) ≤ 2 then
        modify fun port => note ch true { port with buf_overrun := port.buf_overrun + 1 }
        if port.fcStatus = TLS_UART_FLOW_CTRL_HARDWARE then
          modify (tls_set_uart_rx_status TLS_UART_RX_DISABLE)
          -- This byte is the last one that is read.
          insertChar ch
      else
        modify (note ch false)
        insertChar ch
        receiveChars intr_src rx_fifocnt

/-- What the interrupt receives. -/
def tls_uart_isr (intr_src : UInt32) : Prog UartRx Unit := do
  let port ← get
  if intr_src &&& UART_RX_INT_FLAG ≠ 0 ∧ port.UR_INTM &&& UIS_RX_FIFO = 0 then
    let rx_fifocnt := port.UR_RXW.length % 64
    modify fun port => { port with tls_rx_len := port.tls_rx_len + UInt32.ofNat rx_fifocnt }
    receiveChars intr_src rx_fifocnt

/-- The copy from the ring, in two parts where it goes around. -/
def copyParts (bytes : List UInt8) (tail buflen : Nat) : Except Fault (List UInt8) :=
  if tail + buflen > TLS_UART_RX_BUF_SIZE then do
    let bufcopylen := TLS_UART_RX_BUF_SIZE - tail
    let first ← load bytes tail bufcopylen
    let second ← load bytes 0 (buflen - bufcopylen)
    return first ++ second
  else load bytes tail buflen

/-- `bufsize` is the size of the buffer of the caller, and `none` is the null pointer.
What has been copied comes with what is returned. -/
def tls_uart_copy_rxbuf (bufsize : Option Nat) : Prog UartRx (Int × List UInt8) := do
  let port ← get
  match bufsize, port.recv.buf with
  | none, _ => return (WM_FAILED, [])
  | _, none => throw .null
  | some bufsize, some buf =>
    let data_cnt := (CIRC_CNT port.recv.head port.recv.tail (UInt32.ofNat TLS_UART_RX_BUF_SIZE)).toNat
    let buflen := if data_cnt ≥ bufsize then bufsize else data_cnt
    let data ← copyParts buf.bytes port.recv.tail.toNat buflen
    set { port with
      recv := { port.recv with tail := (port.recv.tail + UInt32.ofNat buflen) &&& (UInt32.ofNat TLS_UART_RX_BUF_SIZE - 1) } }
    return (buflen, data)

/-- `kept` is `all` without some of the bytes that have been counted as overruns. -/
inductive Spared : (all : List (UInt8 × Bool)) → (kept : List UInt8) → Prop where
  | nil : Spared [] []
  | keep {ch : UInt8} {overrun : Bool} {all : List (UInt8 × Bool)} {kept : List UInt8} (h : Spared all kept) :
      Spared ((ch, overrun) :: all) (ch :: kept)
  | drop {ch : UInt8} {all : List (UInt8 × Bool)} {kept : List UInt8} (h : Spared all kept) : Spared ((ch, true) :: all) kept

theorem Spared.append {a b : List (UInt8 × Bool)} {k l : List UInt8} (ha : Spared a k) (hb : Spared b l) :
    Spared (a ++ b) (k ++ l) := by
  induction ha with
  | nil => exact hb
  | keep _ ih => exact .keep ih
  | drop _ ih => exact .drop ih

/-- Where nothing is kept, all bytes have been counted. -/
theorem Spared.all_counted {all : List (UInt8 × Bool)} {kept : List UInt8} (h : Spared all kept) (hnil : kept = []) :
    ∀ byte ∈ all, byte.2 = true := by
  induction h with
  | nil => simp
  | keep => exact absurd hnil (List.cons_ne_nil _ _)
  | drop _ ih => simpa using ih hnil

theorem TLS_UART_RX_BUF_SIZE_eq : TLS_UART_RX_BUF_SIZE = TLS_UART_TX_BUF_SIZE := rfl

namespace UartRx

variable {port port' : UartRx} {ch : UInt8}

/-- The unread bytes. -/
def ring (port : UartRx) : List UInt8 :=
  match port.recv.buf with
  | none => []
  | some buf => ringOf buf port.recv.head port.recv.tail

/-- The port has its ring. -/
structure Open (port : UartRx) : Prop where
  buf : port.recv.buf.isSome
  head : port.recv.head.toNat < TLS_UART_TX_BUF_SIZE
  tail : port.recv.tail.toNat < TLS_UART_TX_BUF_SIZE

theorem Open.ring_eq (h : port.Open) : ∃ buf, port.recv.buf = some buf ∧ port.ring = ringOf buf port.recv.head port.recv.tail := by
  obtain ⟨buf, hbuf⟩ := Option.isSome_iff_exists.mp h.buf
  exact ⟨buf, hbuf, by rw [ring, hbuf]⟩

/-- The space is what the unread bytes leave, but for one. -/
theorem Open.space (h : port.Open) :
    (CIRC_SPACE port.recv.head port.recv.tail (UInt32.ofNat TLS_UART_RX_BUF_SIZE)).toNat = 4095 - port.ring.length := by
  obtain ⟨buf, -, hring⟩ := h.ring_eq
  have hcnt := @toNat_CIRC_CNT port.recv.head _ h.tail
  have hhead := h.head
  have htail := h.tail
  have hsize : TLS_UART_TX_BUF_SIZE = 4096 := rfl
  have hone : (1 : UInt32).toNat = 1 := rfl
  rw [hring, length_ringOf, hcnt, CIRC_SPACE, CIRC_CNT, TLS_UART_RX_BUF_SIZE_eq, toNat_mask, UInt32.toNat_sub,
    UInt32.toNat_add, hone, hsize]
  omega

theorem Open.length_ring_lt (h : port.Open) : port.ring.length < 4096 := by
  obtain ⟨buf, -, hring⟩ := h.ring_eq
  rw [hring]
  exact length_ringOf_lt

theorem Open.insertChar (h : port.Open) (ch : UInt8) : ∃ buf' head', (insertChar ch).run port = .ok ((), { port with
      recv := { port.recv with buf := some buf', head := head' }, icount_rx := port.icount_rx + 1 }) ∧
    head'.toNat = (port.recv.head.toNat + 1) % 4096 ∧
    (port.ring.length < 4095 → ringOf buf' head' port.recv.tail = port.ring ++ [ch]) := by
  obtain ⟨buf, hbuf, hring⟩ := h.ring_eq
  have hhead := h.head
  have hsize : TLS_UART_TX_BUF_SIZE = 4096 := rfl
  have hone : (1 : UInt32).toNat = 1 := rfl
  obtain ⟨buf', hstore, hbytes⟩ := @Mem.store_spec _ buf port.recv.head.toNat [ch] (by simp; omega)
  refine ⟨buf', (port.recv.head + 1) &&& (UInt32.ofNat TLS_UART_RX_BUF_SIZE - 1), ?_, ?_, fun hroom => ?_⟩
  · simp only [ZCloud.insertChar, run_bind, run_get, ok_bind, hbuf, hstore, run_lift_ok, run_set]
  · rw [TLS_UART_RX_BUF_SIZE_eq, toNat_mask, UInt32.toNat_add, hone, hsize]
    omega
  · rw [hring] at hroom ⊢
    exact (ringOf_patch hhead h.tail (by rw [List.length_singleton]; omega) (by rw [List.length_singleton]; omega) hbytes).2

/-- `port'` comes from `port` by receiving `log`, of which `new` is behind the unread
bytes now. As many bytes as the log marks have been counted as overruns, and a byte is
marked only where those before it have all been inserted, and leave `CIRC_SPACE` 2 at
most. -/
structure Received (port port' : UartRx) (log : List (UInt8 × Bool)) (new : List UInt8) : Prop where
  opened : port'.Open
  received : port'.received = port.received ++ log
  waiting : port.UR_RXW = log.map (·.1) ++ port'.UR_RXW
  ring : port'.ring = port.ring ++ new
  spared : Spared log new
  counted : port'.buf_overrun = port.buf_overrun + UInt32.ofNat (log.countP (·.2))
  full (before : List (UInt8 × Bool)) (ch : UInt8) (later : List (UInt8 × Bool)) (h : log = before ++ (ch, true) :: later) :
    before.map (·.1) <+: new ∧ 4095 - (port.ring.length + before.length) ≤ 2

theorem Received.refl (h : port.Open) : Received port port [] [] where
  opened := h
  received := (List.append_nil _).symm
  waiting := rfl
  ring := (List.append_nil _).symm
  spared := .nil
  counted := (UInt32.add_zero _).symm
  full before ch later h := absurd h.symm (by simp)

/-- A byte that is not an overrun, and what is received behind it. -/
theorem Received.trans {port'' : UartRx} {log : List (UInt8 × Bool)} {new : List UInt8}
    (ha : Received port port' [(ch, false)] [ch]) (hb : Received port' port'' log new) :
    Received port port'' ((ch, false) :: log) (ch :: new) where
  opened := hb.opened
  received := by rw [hb.received, ha.received, List.append_assoc, List.singleton_append]
  waiting := by rw [ha.waiting, hb.waiting]; rfl
  ring := by rw [hb.ring, ha.ring, List.append_assoc, List.singleton_append]
  spared := .keep hb.spared
  counted := by
    rw [hb.counted, ha.counted, List.countP_cons_of_neg Bool.false_ne_true, List.countP_nil, List.countP_cons_of_neg Bool.false_ne_true]
    exact congrArg (· + _) (UInt32.add_zero _)
  full before ch' later h := by
    match before with
    | [] => simp at h
    | byte :: before =>
      obtain ⟨rfl, hlog⟩ := List.cons.inj h
      obtain ⟨hbefore, hspace⟩ := hb.full before ch' later hlog
      refine ⟨(List.cons_prefix_cons).mpr ⟨rfl, hbefore⟩, ?_⟩
      rw [ha.ring, List.length_append, List.length_singleton] at hspace
      rw [List.length_cons]
      omega

@[simp]
theorem recv_set_rx_status (status : TLS_UART_RX_FLOW_CTRL_FLAG_T) (port : UartRx) :
    (tls_set_uart_rx_status status port).recv = port.recv := by
  unfold tls_set_uart_rx_status
  split
  · split
    · rfl
    · split
      · split <;> rfl
      · rfl
  · rfl

@[simp]
theorem received_set_rx_status (status : TLS_UART_RX_FLOW_CTRL_FLAG_T) (port : UartRx) :
    (tls_set_uart_rx_status status port).received = port.received ∧
      (tls_set_uart_rx_status status port).UR_RXW = port.UR_RXW ∧
      (tls_set_uart_rx_status status port).buf_overrun = port.buf_overrun := by
  unfold tls_set_uart_rx_status
  split
  · split
    · exact ⟨rfl, rfl, rfl⟩
    · split
      · split <;> exact ⟨rfl, rfl, rfl⟩
      · exact ⟨rfl, rfl, rfl⟩
  · exact ⟨rfl, rfl, rfl⟩

/-- Of a log of one byte, a byte that is marked is the first one. -/
theorem full_singleton {overrun : Bool} {new : List UInt8} (hfull : overrun = true → 4095 - port.ring.length ≤ 2)
    (before : List (UInt8 × Bool)) (ch' : UInt8) (later : List (UInt8 × Bool)) (h : [(ch, overrun)] = before ++ (ch', true) :: later) :
    before.map (·.1) <+: new ∧ 4095 - (port.ring.length + before.length) ≤ 2 := by
  match before with
  | [] => exact ⟨List.nil_prefix, hfull (congrArg Prod.snd (List.cons.inj h).1)⟩
  | byte :: before => simp at h

/-- A byte that is received and inserted, where there is room for it. -/
theorem received_insert {rest : List UInt8} {overrun : Bool} (h : port.Open) (hroom : port.ring.length < 4095)
    (hwait : port.UR_RXW = ch :: rest) (hrecv : port'.recv = port.recv)
    (hreceived : port'.received = port.received ++ [(ch, overrun)]) (hrest : port'.UR_RXW = rest)
    (hcounted : port'.buf_overrun = port.buf_overrun + UInt32.ofNat ([(ch, overrun)].countP (·.2)))
    (hfull : overrun = true → 4095 - port.ring.length ≤ 2) :
    ∃ port'', (insertChar ch).run port' = .ok ((), port'') ∧ Received port port'' [(ch, overrun)] [ch] ∧
      port''.fcStatus = port'.fcStatus := by
  have hopen' : port'.Open := ⟨by rw [hrecv]; exact h.buf, by rw [hrecv]; exact h.head, by rw [hrecv]; exact h.tail⟩
  have hring' : port'.ring = port.ring := by rw [ring, ring, hrecv]
  obtain ⟨buf, head, hrun, hhead, hring⟩ := hopen'.insertChar ch
  refine ⟨_, hrun, ⟨⟨rfl, ?_, hopen'.tail⟩, hreceived, ?_, ?_, .keep .nil, hcounted, full_singleton hfull⟩, rfl⟩
  · rw [hhead]
    exact Nat.mod_lt _ (by decide)
  · rw [hwait, hrest]
    rfl
  · change ringOf buf head port'.recv.tail = _
    rw [hring (by rw [hring']; exact hroom), hring']

/-- The loop receives what it reads behind the unread bytes, where these leave room for
the byte that is inserted in spite of an overrun. -/
theorem receiveChars_spec {intr_src : UInt32} (herr : intr_src &&& UART_RX_ERR_INT_FLAG = 0) (n : Nat) (h : port.Open)
    (hn : n ≤ port.UR_RXW.length) (hroom : n ≠ 0 → port.fcStatus = TLS_UART_FLOW_CTRL_HARDWARE → port.ring.length < 4095) :
    ∃ port' log new, (receiveChars intr_src n).run port = .ok ((), port') ∧ Received port port' log new := by
  induction n generalizing port with
  | zero => exact ⟨port, [], [], rfl, .refl h⟩
  | succ n ih =>
    match hwait : port.UR_RXW with
    | [] => simp [hwait] at hn
    | ch :: rest =>
      have hspace := h.space
      have hread : readChar.run port = .ok (ch, { port with UR_RXW := rest }) := by
        simp only [readChar, run_bind, run_get, ok_bind, hwait, run_modify, run_pure]
      by_cases hfull : CIRC_SPACE port.recv.head port.recv.tail (UInt32.ofNat TLS_UART_RX_BUF_SIZE) ≤ 2
      · have hplace : 4095 - port.ring.length ≤ 2 := Nat.le_trans (Nat.le_of_eq hspace.symm) hfull
        by_cases hfc : port.fcStatus = TLS_UART_FLOW_CTRL_HARDWARE
        · obtain ⟨port'', hrun, hreceived, -⟩ := @received_insert port (tls_set_uart_rx_status TLS_UART_RX_DISABLE
            (note ch true { port with UR_RXW := rest, buf_overrun := port.buf_overrun + 1 })) ch rest true h
            (hroom (Nat.succ_ne_zero n) hfc) hwait (by simp [note]) (by simp [note]) (by simp [note]) (by simp [note])
            (fun _ => hplace)
          refine ⟨port'', _, _, ?_, hreceived⟩
          rw [hfc] at hrun
          simp only [receiveChars, run_bind, hread, ok_bind, herr, ne_eq, not_true_eq_false, if_false, run_get, hfull, if_true,
            run_modify, hfc, hrun]
        · refine ⟨note ch true { port with UR_RXW := rest, buf_overrun := port.buf_overrun + 1 }, [(ch, true)], [], ?_,
            ⟨⟨h.buf, h.head, h.tail⟩, rfl, hwait, (List.append_nil _).symm, .drop .nil, rfl, full_singleton fun _ => hplace⟩⟩
          simp only [receiveChars, run_bind, hread, ok_bind, herr, ne_eq, not_true_eq_false, if_false, run_get, hfull, if_true,
            run_modify, hfc, run_pure]
      · have hplace : port.ring.length < 4093 := by
          have hgt : ¬ (CIRC_SPACE port.recv.head port.recv.tail (UInt32.ofNat TLS_UART_RX_BUF_SIZE)).toNat ≤ 2 := hfull
          omega
        obtain ⟨port'', hrun, hreceived, hfc⟩ := @received_insert port (note ch false { port with UR_RXW := rest }) ch rest false h
          (by omega) hwait rfl rfl rfl (UInt32.add_zero _).symm (fun h => Bool.noConfusion h)
        have hwaiting := hreceived.waiting
        rw [hwait] at hwaiting hn
        obtain ⟨port', log, new, hrest, hlater⟩ := @ih port'' hreceived.opened
          (by simpa [(List.cons.inj hwaiting).2] using hn)
          (fun _ _ => by rw [hreceived.ring, List.length_append, List.length_singleton]; omega)
        refine ⟨port', _, _, ?_, hreceived.trans hlater⟩
        simp only [receiveChars, run_bind, hread, ok_bind, herr, ne_eq, not_true_eq_false, if_false, run_get, hfull,
          run_modify, hrun, hrest]

/-- The bytes in a row from the tail on are those that are unread, up to the end of the
ring. -/
theorem load_contents {buf : Mem TLS_UART_TX_BUF_SIZE} {tail n : Nat} (hend : tail + n ≤ 4096) :
    load buf.bytes tail n = .ok (Ring.contents TLS_UART_TX_BUF_SIZE (fun k => buf.bytes.getD k 0) tail n) := by
  have hlen := buf.size
  have hsize : TLS_UART_TX_BUF_SIZE = 4096 := rfl
  rw [load_of_le (by omega)]
  congr 1
  refine List.ext_getElem (by simp; omega) fun k hk _ => ?_
  rw [List.length_take] at hk
  have hmod : (tail + k) % TLS_UART_TX_BUF_SIZE = tail + k := Nat.mod_eq_of_lt (by omega)
  have hlt : tail + k < buf.bytes.length := by omega
  simp only [Ring.contents, List.getElem_take, List.getElem_drop, List.getElem_map, List.getElem_range, hmod,
    List.getD_eq_getElem?_getD, List.getElem?_eq_getElem hlt, Option.getD_some]

theorem copyParts_eq {buf : Mem TLS_UART_TX_BUF_SIZE} {tail n : Nat} (htail : tail < TLS_UART_TX_BUF_SIZE)
    (hn : n ≤ TLS_UART_TX_BUF_SIZE) :
    copyParts buf.bytes tail n = .ok (Ring.contents TLS_UART_TX_BUF_SIZE (fun k => buf.bytes.getD k 0) tail n) := by
  have hsize : TLS_UART_TX_BUF_SIZE = 4096 := rfl
  rw [copyParts, TLS_UART_RX_BUF_SIZE_eq]
  by_cases hwrap : tail + n > TLS_UART_TX_BUF_SIZE
  · have hback : (tail + (TLS_UART_TX_BUF_SIZE - tail)) % TLS_UART_TX_BUF_SIZE = 0 := by
      rw [Nat.add_sub_cancel' (Nat.le_of_lt htail), Nat.mod_self]
    have hsplit : n = (TLS_UART_TX_BUF_SIZE - tail) + (n - (TLS_UART_TX_BUF_SIZE - tail)) := by omega
    have hcontents := @Ring.contents_add _ TLS_UART_TX_BUF_SIZE (fun k => buf.bytes.getD k 0) tail
      (TLS_UART_TX_BUF_SIZE - tail) (n - (TLS_UART_TX_BUF_SIZE - tail))
    rw [← hsplit, hback] at hcontents
    have hfirst := @load_contents buf tail (TLS_UART_TX_BUF_SIZE - tail) (by omega)
    have hsecond := @load_contents buf 0 (n - (TLS_UART_TX_BUF_SIZE - tail)) (by omega)
    simp only [if_pos hwrap, hfirst, hsecond, ok_bind, hcontents]
    rfl
  · rw [if_neg hwrap, load_contents (by omega)]

/-- A read takes the first unread bytes. -/
theorem Open.copy_rxbuf (h : port.Open) (bufsize : Nat) : ∃ port', (tls_uart_copy_rxbuf (some bufsize)).run port =
      .ok ((((min bufsize port.ring.length : Nat) : Int), port.ring.take bufsize), port') ∧
    port'.Open ∧ port'.ring = port.ring.drop bufsize ∧ port'.received = port.received ∧ port'.UR_RXW = port.UR_RXW ∧
    port'.buf_overrun = port.buf_overrun := by
  obtain ⟨buf, hbuf, hring⟩ := h.ring_eq
  have hhead := h.head
  have htail := h.tail
  have hsize : TLS_UART_TX_BUF_SIZE = 4096 := rfl
  have hcnt := @toNat_CIRC_CNT port.recv.head _ h.tail
  have hlen : port.ring.length = (CIRC_CNT port.recv.head port.recv.tail (UInt32.ofNat TLS_UART_TX_BUF_SIZE)).toNat := by
    rw [hring, length_ringOf]
  generalize hn : min bufsize port.ring.length = n
  have hchoice : (if port.ring.length ≥ bufsize then bufsize else port.ring.length) = n := by
    split <;> omega
  let tail' := (port.recv.tail + UInt32.ofNat n) &&& (UInt32.ofNat TLS_UART_TX_BUF_SIZE - 1)
  have htail' : tail'.toNat = (port.recv.tail.toNat + n) % 4096 := by
    rw [toNat_mask, UInt32.toNat_add, UInt32.toNat_ofNat', hsize]
    omega
  have hlt' : tail'.toNat < TLS_UART_TX_BUF_SIZE := by omega
  have hcnt' := @toNat_CIRC_CNT port.recv.head _ hlt'
  have hparts : port.ring = Ring.contents TLS_UART_TX_BUF_SIZE (fun k => buf.bytes.getD k 0) port.recv.tail.toNat n ++
      ringOf buf port.recv.head tail' := by
    have hrest : (CIRC_CNT port.recv.head tail' (UInt32.ofNat TLS_UART_TX_BUF_SIZE)).toNat = port.ring.length - n := by omega
    have hplace : (port.recv.tail.toNat + n) % TLS_UART_TX_BUF_SIZE = tail'.toNat := htail'.symm
    have hall : (CIRC_CNT port.recv.head port.recv.tail (UInt32.ofNat TLS_UART_TX_BUF_SIZE)).toNat =
        n + (CIRC_CNT port.recv.head tail' (UInt32.ofNat TLS_UART_TX_BUF_SIZE)).toNat := by omega
    rw [hring, ringOf, ringOf, hall, Ring.contents_add, hplace]
  have hdata := @copyParts_eq buf port.recv.tail.toNat n htail (by omega)
  have hlength : (Ring.contents TLS_UART_TX_BUF_SIZE (fun k => buf.bytes.getD k 0) port.recv.tail.toNat n).length = n :=
    Ring.length_contents ..
  have htake : port.ring.take bufsize = Ring.contents TLS_UART_TX_BUF_SIZE (fun k => buf.bytes.getD k 0) port.recv.tail.toNat n := by
    by_cases hall : bufsize ≤ port.ring.length
    · rw [hparts, List.take_left' (by omega)]
    · have hnil : ringOf buf port.recv.head tail' = [] := by
        have hsum := congrArg List.length hparts
        rw [List.length_append, hlength] at hsum
        exact List.length_eq_zero_iff.mp (by omega)
      rw [List.take_of_length_le (by omega), hparts, hnil, List.append_nil]
  have hdrop : port.ring.drop bufsize = ringOf buf port.recv.head tail' := by
    have hsplit := hparts
    rw [← htake] at hsplit
    exact List.append_cancel_left ((List.take_append_drop bufsize port.ring).trans hsplit)
  refine ⟨{ port with recv := { port.recv with tail := tail' } }, ?_, ⟨h.buf, h.head, hlt'⟩, ?_, rfl, rfl, rfl⟩
  · have hcount : port.ring.length = (CIRC_CNT port.recv.head port.recv.tail (UInt32.ofNat TLS_UART_RX_BUF_SIZE)).toNat := hlen
    rw [hcount] at hchoice
    simp only [tls_uart_copy_rxbuf, run_get_bind, hbuf]
    rw [hchoice, hdata, htake]
    rfl
  · rw [hdrop, ring]
    simp only [hbuf]

/-- There is no room for another byte, but an interrupt would insert it. -/
def Spills (port : UartRx) : Prop :=
  port.fcStatus = TLS_UART_FLOW_CTRL_HARDWARE ∧ port.UR_INTM &&& UIS_RX_FIFO = 0 ∧ port.UR_RXW ≠ [] ∧
    CIRC_SPACE port.recv.head port.recv.tail (UInt32.ofNat TLS_UART_RX_BUF_SIZE) = 0

theorem isr_spec {intr_src : UInt32} (herr : intr_src &&& UART_RX_ERR_INT_FLAG = 0) (h : port.Open) (hspills : ¬ port.Spills) :
    ∃ port' log new, (tls_uart_isr intr_src).run port = .ok ((), port') ∧ Received port port' log new := by
  by_cases hrx : intr_src &&& UART_RX_INT_FLAG ≠ 0 ∧ port.UR_INTM &&& UIS_RX_FIFO = 0
  · obtain ⟨port', log, new, hrun, hreceived⟩ := @receiveChars_spec { port with
        tls_rx_len := port.tls_rx_len + UInt32.ofNat (port.UR_RXW.length % 64) } intr_src herr (port.UR_RXW.length % 64)
      ⟨h.buf, h.head, h.tail⟩ (Nat.mod_le _ _) (fun hn hfc => by
        have hlt : port.ring.length < 4096 := h.length_ring_lt
        refine Nat.lt_of_le_of_ne (Nat.le_of_lt_succ hlt) fun hfull => hspills ⟨hfc, hrx.2, fun hnil => hn ?_, ?_⟩
        · rw [hnil]
          rfl
        · refine UInt32.toNat_inj.mp (h.space.trans ?_)
          change 4095 - port.ring.length = 0
          change port.ring.length = 4095 at hfull
          omega)
    refine ⟨port', log, new, ?_, ⟨hreceived.opened, hreceived.received, hreceived.waiting, hreceived.ring, hreceived.spared,
      hreceived.counted, hreceived.full⟩⟩
    simp only [tls_uart_isr, run_bind, run_get, ok_bind, hrx, ne_eq, not_false_eq_true, and_self, if_true, run_modify]
    exact hrun
  · refine ⟨port, [], [], ?_, .refl h⟩
    rw [tls_uart_isr, run_get_bind, if_neg hrx]
    rfl

/-- A port as `tls_uart_port_init` leaves it. -/
def opened (uart_no : UartNo) (flow_ctrl : TLS_UART_FLOW_CTRL_MODE_T) (UR_FC UR_INTM : UInt32) : UartRx where
  uart_no := uart_no
  flow_ctrl := flow_ctrl
  fcStatus := TLS_UART_FLOW_CTRL_NONE
  rxstatus := TLS_UART_RX_ENABLE
  hw_stopped := false
  UR_FC := UR_FC
  UR_INTM := UR_INTM
  UR_RXW := []
  recv := ⟨some (.fill _ 0), 0, 0⟩
  icount_rx := 0
  buf_overrun := 0
  tls_rx_len := 0
  received := []

theorem opened_open (uart_no : UartNo) (flow_ctrl : TLS_UART_FLOW_CTRL_MODE_T) (UR_FC UR_INTM : UInt32) :
    (opened uart_no flow_ctrl UR_FC UR_INTM).Open :=
  ⟨rfl, Nat.succ_pos 4095, Nat.succ_pos 4095⟩

theorem ring_opened (uart_no : UartNo) (flow_ctrl : TLS_UART_FLOW_CTRL_MODE_T) (UR_FC UR_INTM : UInt32) :
    (opened uart_no flow_ctrl UR_FC UR_INTM).ring = [] := by
  exact List.length_eq_zero_iff.mp (@length_ringOf (.fill _ 0) 0 0)

/-- What may happen at a port, with the bytes that have arrived and those that have been
read of it. Every interrupt finds it in a state that is `careful`. -/
inductive Receiving (careful : UartRx → Prop) : (port : UartRx) → (arrived read : List UInt8) → Prop where
  | init (uart_no : UartNo) (flow_ctrl : TLS_UART_FLOW_CTRL_MODE_T) (UR_FC UR_INTM : UInt32) :
      Receiving careful (opened uart_no flow_ctrl UR_FC UR_INTM) [] []
  | arrive {port : UartRx} {arrived read chars : List UInt8} (h : Receiving careful port arrived read)
      (hfifo : (port.UR_RXW ++ chars).length < 64) :
      Receiving careful { port with UR_RXW := port.UR_RXW ++ chars } (arrived ++ chars) read
  | isr {port port' : UartRx} {arrived read : List UInt8} {intr_src : UInt32} (h : Receiving careful port arrived read)
      (herr : intr_src &&& UART_RX_ERR_INT_FLAG = 0) (hcareful : careful port)
      (hrun : (tls_uart_isr intr_src).run port = .ok ((), port')) : Receiving careful port' arrived read
  | copy {port port' : UartRx} {arrived read data : List UInt8} {bufsize : Option Nat} {ret : Int}
      (h : Receiving careful port arrived read) (hrun : (tls_uart_copy_rxbuf bufsize).run port = .ok ((ret, data), port')) :
      Receiving careful port' arrived (read ++ data)
  | fcStatus {port port' : UartRx} {arrived read : List UInt8} {status : TLS_UART_FLOW_CTRL_MODE_T}
      (h : Receiving careful port arrived read) (hrun : (tls_uart_set_fc_status status).run port = .ok ((), port')) :
      Receiving careful port' arrived read
  | rxStatus {port : UartRx} {arrived read : List UInt8} {status : TLS_UART_RX_FLOW_CTRL_FLAG_T}
      (h : Receiving careful port arrived read) : Receiving careful (tls_set_uart_rx_status status port) arrived read

/-- What has arrived has been received or waits, and of what has been received, only
bytes that have been counted as overruns are neither read nor in the ring. -/
structure Streams (port : UartRx) (arrived read : List UInt8) : Prop where
  waiting : port.received.map (·.1) ++ port.UR_RXW = arrived
  spared : Spared port.received (read ++ port.ring)
  counted : port.buf_overrun = UInt32.ofNat (port.received.countP (·.2))

@[simp]
theorem set_flow_ctrl_frame (flow_ctrl : TLS_UART_FLOW_CTRL_MODE_T) (port : UartRx) :
    ∃ UR_FC, tls_uart_set_flow_ctrl flow_ctrl port = { port with UR_FC := UR_FC } := by
  cases flow_ctrl with
  | TLS_UART_FLOW_CTRL_NONE => exact ⟨0, rfl⟩
  | TLS_UART_FLOW_CTRL_HARDWARE =>
    by_cases hflow : port.flow_ctrl = TLS_UART_FLOW_CTRL_HARDWARE
    · exact ⟨_, if_pos hflow⟩
    · exact ⟨port.UR_FC, if_neg hflow⟩

/-- Setting the status leaves the rest of the receiving side as it is. -/
theorem run_set_fc_status (status : TLS_UART_FLOW_CTRL_MODE_T) (port : UartRx) : ∃ UR_FC hw_stopped,
    (tls_uart_set_fc_status status).run port =
      .ok ((), { port with fcStatus := status, UR_FC := UR_FC, hw_stopped := hw_stopped }) := by
  obtain ⟨UR_FC, hset⟩ := set_flow_ctrl_frame status { port with fcStatus := status }
  by_cases hgo : port.flow_ctrl = TLS_UART_FLOW_CTRL_HARDWARE ∧ status = TLS_UART_FLOW_CTRL_NONE ∧ port.hw_stopped = true
  · refine ⟨UR_FC, false, ?_⟩
    simp only [tls_uart_set_fc_status, run_bind, run_modify, ok_bind, hset, run_get, if_pos hgo]
  · refine ⟨UR_FC, port.hw_stopped, ?_⟩
    simp only [tls_uart_set_fc_status, run_bind, run_modify, ok_bind, hset, run_get, if_neg hgo, run_pure]

theorem Open.of_recv (h : port.Open) (hrecv : port'.recv = port.recv) : port'.Open :=
  ⟨by rw [hrecv]; exact h.buf, by rw [hrecv]; exact h.head, by rw [hrecv]; exact h.tail⟩

theorem ring_of_recv (hrecv : port'.recv = port.recv) : port'.ring = port.ring := by rw [ring, ring, hrecv]

section

variable {arrived read log' : List UInt8} {log : List (UInt8 × Bool)} {new : List UInt8}

theorem Streams.receive (h : port.Streams arrived read) (hreceived : Received port port' log new) :
    port'.Streams arrived read where
  waiting := by
    rw [hreceived.received, List.map_append, List.append_assoc, ← hreceived.waiting]
    exact h.waiting
  spared := by
    rw [hreceived.received, hreceived.ring, ← List.append_assoc]
    exact h.spared.append hreceived.spared
  counted := by
    rw [hreceived.received, hreceived.counted, h.counted, List.countP_append, UInt32.ofNat_add]

theorem Streams.of_eq (h : port.Streams arrived read) (hrecv : port'.recv = port.recv) (hreceived : port'.received = port.received)
    (hwait : port'.UR_RXW = port.UR_RXW) (hcount : port'.buf_overrun = port.buf_overrun) : port'.Streams arrived read where
  waiting := by rw [hreceived, hwait]; exact h.waiting
  spared := by rw [hreceived, ring_of_recv hrecv]; exact h.spared
  counted := by rw [hreceived, hcount]; exact h.counted

/-- A read takes its bytes from the ring. -/
theorem copy_rxbuf_streams {bufsize : Option Nat} {ret : Int} {data : List UInt8} (hopen : port.Open)
    (h : port.Streams arrived read) (hrun : (tls_uart_copy_rxbuf bufsize).run port = .ok ((ret, data), port')) :
    port'.Open ∧ port'.Streams arrived (read ++ data) := by
  cases bufsize with
  | none =>
    have hnull : (tls_uart_copy_rxbuf none).run port = .ok ((WM_FAILED, []), port) := rfl
    obtain ⟨⟨-, rfl⟩, rfl⟩ : (ret = WM_FAILED ∧ data = []) ∧ port' = port := by
      simpa [eq_comm] using hnull.symm.trans hrun
    exact ⟨hopen, by rw [List.append_nil]; exact h⟩
  | some bufsize =>
    obtain ⟨port'', hcopy, hopen', hring, hreceived, hwait, hcount⟩ := hopen.copy_rxbuf bufsize
    obtain ⟨⟨-, rfl⟩, rfl⟩ : ((ret = ((min bufsize port.ring.length : Nat) : Int)) ∧ data = port.ring.take bufsize) ∧ port' = port'' := by
      simpa [eq_comm] using hcopy.symm.trans hrun
    refine ⟨hopen', ⟨by rw [hreceived, hwait]; exact h.waiting, ?_, by rw [hreceived, hcount]; exact h.counted⟩⟩
    rw [hreceived, hring, List.append_assoc, List.take_append_drop]
    exact h.spared

/-- Whatever happens while no interrupt finds the ring full, the stream is in order. -/
theorem Receiving.streams (h : Receiving (fun port => ¬ port.Spills) port arrived read) :
    port.Open ∧ port.Streams arrived read := by
  induction h with
  | init uart_no flow_ctrl UR_FC UR_INTM =>
    refine ⟨opened_open uart_no flow_ctrl UR_FC UR_INTM, ⟨rfl, ?_, rfl⟩⟩
    rw [ring_opened]
    exact .nil
  | arrive _ _ ih =>
    refine ⟨ih.1.of_recv rfl, ⟨?_, ih.2.spared, ih.2.counted⟩⟩
    rw [← List.append_assoc]
    exact congrArg (· ++ _) ih.2.waiting
  | isr _ herr hcareful hrun ih =>
    obtain ⟨port'', log, new, hrun', hreceived⟩ := isr_spec herr ih.1 hcareful
    obtain rfl := (Prod.mk.inj (Except.ok.inj (hrun.symm.trans hrun'))).2
    exact ⟨hreceived.opened, ih.2.receive hreceived⟩
  | copy _ hrun ih => exact copy_rxbuf_streams ih.1 ih.2 hrun
  | @fcStatus port _ _ _ status _ hrun ih =>
    obtain ⟨UR_FC, hw_stopped, hrun'⟩ := run_set_fc_status status port
    obtain rfl := (Prod.mk.inj (Except.ok.inj (hrun.symm.trans hrun'))).2
    exact ⟨ih.1.of_recv rfl, ih.2.of_eq rfl rfl rfl rfl⟩
  | @rxStatus port _ _ status _ ih =>
    exact ⟨ih.1.of_recv (recv_set_rx_status status port), ih.2.of_eq (recv_set_rx_status status port)
      (received_set_rx_status status port).1 (received_set_rx_status status port).2.1 (received_set_rx_status status port).2.2⟩

end

section

/-- The first port, of which `k` bytes are unread and none is waiting, with hardware flow
control. -/
structure Filled (port : UartRx) (k : Nat) : Prop where
  opened : port.Open
  uart_no : port.uart_no = TLS_UART_0
  fcStatus : port.fcStatus = TLS_UART_FLOW_CTRL_HARDWARE
  unmasked : port.UR_INTM &&& UIS_RX_FIFO = 0
  waiting : port.UR_RXW = []
  ring : port.ring.length = k
  uncounted : 0 < k → (0, false) ∈ port.received

/-- The interrupt inserts a byte that it finds at this port, counted as an overrun or not. -/
theorem Filled.isr {k : Nat} (h : port.Filled k) : ∃ tls_rx_len buf_overrun overrun, (overrun = true → 4093 ≤ k) ∧
    (tls_uart_isr UIS_RX_FIFO).run { port with UR_RXW := [0] } = (insertChar 0).run { port with
      UR_RXW := [], tls_rx_len := tls_rx_len, buf_overrun := buf_overrun, received := port.received ++ [(0, overrun)] } := by
  have hspace := h.opened.space
  rw [h.ring] at hspace
  have hmask := h.unmasked
  have hfc := h.fcStatus
  have hno := h.uart_no
  have hflag : UIS_RX_FIFO &&& UART_RX_INT_FLAG ≠ 0 := by decide
  have herr : UIS_RX_FIFO &&& UART_RX_ERR_INT_FLAG = 0 := by decide
  have hset (p : UartRx) (hp : p.uart_no = TLS_UART_0) : tls_set_uart_rx_status TLS_UART_RX_DISABLE p = p := by
    simp [tls_set_uart_rx_status, hp]
  by_cases hfull : CIRC_SPACE port.recv.head port.recv.tail (UInt32.ofNat TLS_UART_RX_BUF_SIZE) ≤ 2
  · refine ⟨port.tls_rx_len + 1, port.buf_overrun + 1, true, fun _ => ?_, ?_⟩
    · have hle : (CIRC_SPACE port.recv.head port.recv.tail (UInt32.ofNat TLS_UART_RX_BUF_SIZE)).toNat ≤ 2 := hfull
      omega
    · have hkeep := hset (note 0 true { port with
        UR_RXW := [], tls_rx_len := port.tls_rx_len + 1, buf_overrun := port.buf_overrun + 1 }) hno
      simp [tls_uart_isr, receiveChars, readChar, hflag, hmask, herr, hfull, hfc, note] at hkeep ⊢
      rw [hkeep]
  · refine ⟨port.tls_rx_len + 1, port.buf_overrun, false, fun h => Bool.noConfusion h, ?_⟩
    simp [tls_uart_isr, receiveChars, readChar, hflag, hmask, herr, hfull, note]

/-- A byte that arrives at this port has been inserted after an interrupt. -/
theorem Filled.next {careful : UartRx → Prop} {k : Nat} {arrived read : List UInt8} (h : port.Filled k)
    (hrun : Receiving careful port arrived read) (hcareful : careful { port with UR_RXW := [0] }) :
    ∃ port' buf' head' overrun, Receiving careful port' (arrived ++ [0]) read ∧ (overrun = true → 4093 ≤ k) ∧
      head'.toNat = (port.recv.head.toNat + 1) % 4096 ∧
      (port.ring.length < 4095 → ringOf buf' head' port.recv.tail = port.ring ++ [0]) ∧
      port'.recv = ⟨some buf', head', port.recv.tail⟩ ∧ port'.received = port.received ++ [(0, overrun)] ∧
      port'.uart_no = port.uart_no ∧ port'.fcStatus = port.fcStatus ∧ port'.UR_INTM = port.UR_INTM ∧ port'.UR_RXW = [] := by
  have harrive := @Receiving.arrive _ _ _ _ [0] hrun (by simp [h.waiting])
  rw [h.waiting] at harrive
  obtain ⟨tls_rx_len, buf_overrun, overrun, hoverrun, hisr⟩ := h.isr
  obtain ⟨buf', head', hinsert, hhead, hring⟩ := @Open.insertChar { port with
    UR_RXW := [], tls_rx_len := tls_rx_len, buf_overrun := buf_overrun, received := port.received ++ [(0, overrun)] }
    (h.opened.of_recv rfl) 0
  exact ⟨_, buf', head', overrun, harrive.isr (by decide) hcareful (hisr.trans hinsert), hoverrun, hhead, hring, rfl, rfl, rfl, rfl,
    rfl, rfl⟩

theorem Receiving.mono {careful careful' : UartRx → Prop} {arrived read : List UInt8} (hmono : ∀ port, careful port → careful' port)
    (h : Receiving careful port arrived read) : Receiving careful' port arrived read := by
  induction h with
  | init uart_no flow_ctrl UR_FC UR_INTM => exact .init uart_no flow_ctrl UR_FC UR_INTM
  | arrive _ hfifo ih => exact ih.arrive hfifo
  | isr _ herr hcareful hrun ih => exact ih.isr herr (hmono _ hcareful) hrun
  | copy _ hrun ih => exact ih.copy hrun
  | fcStatus _ hrun ih => exact ih.fcStatus hrun
  | rxStatus _ ih => exact ih.rxStatus

/-- The ring can be filled by interrupts that all find room. -/
theorem exists_filled (k : Nat) (hk : k ≤ 4095) :
    ∃ port arrived, Receiving (fun port => ¬ port.Spills) port arrived [] ∧ arrived.length = k ∧ port.Filled k := by
  induction k with
  | zero =>
    have hinit := @Receiving.init (fun port => ¬ port.Spills) TLS_UART_0 TLS_UART_FLOW_CTRL_HARDWARE 0 0
    obtain ⟨UR_FC, hw_stopped, hset⟩ := run_set_fc_status TLS_UART_FLOW_CTRL_HARDWARE
      (opened TLS_UART_0 TLS_UART_FLOW_CTRL_HARDWARE 0 0)
    refine ⟨_, _, hinit.fcStatus hset, rfl, ⟨(opened_open TLS_UART_0 TLS_UART_FLOW_CTRL_HARDWARE 0 0).of_recv rfl, rfl, rfl, by simp [opened], rfl, ?_, fun h => absurd h (Nat.lt_irrefl 0)⟩⟩
    exact congrArg List.length (ring_opened TLS_UART_0 TLS_UART_FLOW_CTRL_HARDWARE 0 0)
  | succ k ih =>
    obtain ⟨port, arrived, hrun, hlen, hfilled⟩ := ih (Nat.le_of_succ_le hk)
    have hspace := hfilled.opened.space
    have hroom : ¬ Spills { port with UR_RXW := [0] } := by
      rintro ⟨-, -, -, hzero⟩
      change CIRC_SPACE port.recv.head port.recv.tail (UInt32.ofNat TLS_UART_RX_BUF_SIZE) = 0 at hzero
      rw [hzero, UInt32.toNat_zero, hfilled.ring] at hspace
      omega
    obtain ⟨port', buf', head', overrun, hrun', hoverrun, hhead, hring, hrecv, hreceived, huart, hfc, hintm, hwait⟩ :=
      hfilled.next hrun hroom
    have hnew : port'.ring = port.ring ++ [0] := by
      rw [ring, hrecv]
      exact hring (by rw [hfilled.ring]; exact hk)
    refine ⟨port', _, hrun', by rw [List.length_append, hlen, List.length_singleton], ⟨⟨by rw [hrecv]; rfl, ?_, by rw [hrecv]; exact hfilled.opened.tail⟩, huart.trans hfilled.uart_no,
      hfc.trans hfilled.fcStatus, by rw [hintm]; exact hfilled.unmasked, hwait, ?_, fun _ => ?_⟩⟩
    · rw [hrecv]
      change head'.toNat < 4096
      rw [hhead]
      exact Nat.mod_lt _ (Nat.succ_pos 4095)
    · rw [hnew, List.length_append, hfilled.ring, List.length_singleton]
    · rw [hreceived]
      by_cases hfirst : k = 0
      · cases overrun with
        | false => simp
        | true =>
          have := hoverrun rfl
          omega
      · exact List.mem_append_left _ (hfilled.uncounted (Nat.pos_of_ne_zero hfirst))

end

end UartRx

open UartRx

/-- As long as no interrupt finds a full ring that it is to insert into, the stream
that is read is what has been received but for bytes that have been counted as
overruns, and these are as many as the port has counted. The next interrupt inserts
behind the unread bytes, and counts a byte only where `CIRC_SPACE` is 2 at most. -/
theorem uart_receive_stream (port : UartRx) (arrived read : List UInt8)
    (h : UartRx.Receiving (fun port => ¬ port.Spills) port arrived read) :
    port.received.map (·.1) ++ port.UR_RXW = arrived ∧ Spared port.received (read ++ port.ring) ∧
      port.buf_overrun = UInt32.ofNat (port.received.countP (·.2)) ∧
      ∀ intr_src : UInt32, intr_src &&& UART_RX_ERR_INT_FLAG = 0 → ¬ port.Spills →
        ∃ port' log new, (tls_uart_isr intr_src).run port = .ok ((), port') ∧ port.Received port' log new ∧
          port.ring <+: port'.ring := by
  obtain ⟨hopen, hstreams⟩ := h.streams
  refine ⟨hstreams.waiting, hstreams.spared, hstreams.counted, fun intr_src herr hspills => ?_⟩
  obtain ⟨port', log, new, hrun, hreceived⟩ := isr_spec herr hopen hspills
  exact ⟨port', log, new, hrun, hreceived, new, hreceived.ring.symm⟩

/-- Of 4095 bytes, the last of which are overruns, 100 have been read. -/
theorem uart_receive_stream_read : ∃ port arrived read, UartRx.Receiving (fun port => ¬ port.Spills) port arrived read ∧
    arrived.length = 4095 ∧ read.length = 100 ∧ port.received.map (·.1) ++ port.UR_RXW = arrived ∧
    Spared port.received (read ++ port.ring) ∧ port.buf_overrun = UInt32.ofNat (port.received.countP (·.2)) := by
  obtain ⟨port, arrived, hrun, hlen, hfilled⟩ := exists_filled 4095 (Nat.le_refl _)
  obtain ⟨port', hcopy, -⟩ := hfilled.opened.copy_rxbuf 100
  have hread := hrun.copy hcopy
  obtain ⟨hwaiting, hspared, hcounted, -⟩ := uart_receive_stream _ _ _ hread
  refine ⟨port', arrived, _, hread, hlen, ?_, hwaiting, hspared, hcounted⟩
  rw [List.nil_append, List.length_take, hfilled.ring]
  rfl

/-- Hardware flow control at the first port does not keep the interrupt from filling the
ring to the last byte, after which it is empty. -/
theorem uart_receive_stream_spills : ∃ port arrived read, UartRx.Receiving (fun _ => True) port arrived read ∧
    ¬ Spared port.received (read ++ port.ring) := by
  obtain ⟨port, arrived, hrun, -, hfilled⟩ := exists_filled 4095 (Nat.le_refl _)
  obtain ⟨port', buf', head', overrun, hrun', -, hhead, -, hrecv, hreceived, -⟩ :=
    hfilled.next (hrun.mono fun _ _ => trivial) trivial
  refine ⟨port', _, _, hrun', fun hspared => ?_⟩
  have hempty : port'.ring = [] := by
    obtain ⟨buf, -, hring⟩ := hfilled.opened.ring_eq
    have hlen := hfilled.ring
    have hcnt := @toNat_CIRC_CNT port.recv.head _ hfilled.opened.tail
    have hcnt' := @toNat_CIRC_CNT head' _ hfilled.opened.tail
    have hlt := hfilled.opened.head
    have hsize : TLS_UART_TX_BUF_SIZE = 4096 := rfl
    rw [hring, length_ringOf] at hlen
    rw [ring, hrecv]
    apply List.length_eq_zero_iff.mp
    rw [length_ringOf]
    change (CIRC_CNT head' port.recv.tail (UInt32.ofNat TLS_UART_TX_BUF_SIZE)).toNat = 0
    omega
  rw [hempty] at hspared
  have hlost : (0, false) ∈ port'.received := by
    rw [hreceived]
    exact List.mem_append_left _ (hfilled.uncounted (Nat.succ_pos 4094))
  exact Bool.noConfusion (hspared.all_counted rfl _ hlost)

end ZCloud
