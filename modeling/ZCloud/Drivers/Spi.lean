import ZCloud.Lib.BigEndian
import ZCloud.Lib.Runs

open Memory Program BigEndian

namespace ZCloud

def SPI_MSG_QUEUE_SIZE : Nat := 8
def SPI_FIFO_SIZE : Nat := 32

inductive SpiMessageStatus where
  | SPI_MESSAGE_STATUS_IDLE
  | SPI_MESSAGE_STATUS_INPROGRESS
  | SPI_MESSAGE_STATUS_DONE
deriving DecidableEq

export SpiMessageStatus (SPI_MESSAGE_STATUS_IDLE SPI_MESSAGE_STATUS_INPROGRESS SPI_MESSAGE_STATUS_DONE)

inductive SpiSchedMsg where
  | SPI_SCHED_MSG_START_ENGINE
  | SPI_SCHED_MSG_TX_FIFO_READY
  | SPI_SCHED_MSG_RX_FIFO_READY
  | SPI_SCHED_MSG_TRANSFER_COMPLETE
  | SPI_SCHED_MSG_EXIT
deriving DecidableEq

export SpiSchedMsg (SPI_SCHED_MSG_START_ENGINE SPI_SCHED_MSG_TRANSFER_COMPLETE)

/-- The buffers are null, or have what is in them. -/
structure tls_spi_transfer where
  tx_buf : Option (List UInt8)
  rx_buf : Option (List UInt8)
  len : Nat

/-- `transfers` has the numbers of those that are left, and `given` those of all. -/
structure tls_spi_message where
  transfers : List Nat
  status : SpiMessageStatus
  given : List Nat

/-- The port with its messages and their transfers, which are numbered as they come, and
its controller: the words in its FIFOs, the bytes that the one for reception has
received, and the length of the transfer that it has started. `starting` has the tasks that are about
to start the engine, `completed` the messages whose callbacks have been called, and `mosi` and
`miso` the bytes that have been on the wires. -/
structure SpiPort where
  wait_queue : List Nat
  messages : Nat → tls_spi_message
  transfers : Nat → tls_spi_transfer
  current_message : Option Nat
  current_transfer : Option Nat
  current_remaining_bytes : Nat
  msg_queue : List SpiSchedMsg
  txfifo : List UInt32
  rxfifo : List UInt32
  rxcount : Nat
  sclk : Option Nat
  starting : List Nat
  submitted : Nat
  known : Nat
  completed : List Nat
  mosi : List UInt8
  miso : List UInt8

namespace SpiPort

/-- After `tls_spi_init`. -/
def init : SpiPort where
  wait_queue := []
  messages _ := ⟨[], SPI_MESSAGE_STATUS_IDLE, []⟩
  transfers _ := ⟨none, none, 0⟩
  current_message := none
  current_transfer := none
  current_remaining_bytes := 0
  msg_queue := []
  txfifo := []
  rxfifo := []
  rxcount := 0
  sclk := none
  starting := []
  submitted := 0
  known := 0
  completed := []
  mosi := []
  miso := []

def setMessage (s : SpiPort) (m : Nat) (message : tls_spi_message) : SpiPort :=
  { s with messages := Function.update s.messages m message }

def setTransfer (s : SpiPort) (t : Nat) (transfer : tls_spi_transfer) : SpiPort :=
  { s with transfers := Function.update s.transfers t transfer }

def remain (s : SpiPort) (current_remaining_bytes : Nat) : SpiPort := { s with current_remaining_bytes := current_remaining_bytes }

def swap_32 (v : UInt32) : UInt32 :=
  ((v &&& 0xff) <<< 24) ||| ((v &&& 0xff00) <<< 8) ||| ((v &&& 0xff0000) >>> 8) ||| (v >>> 24)

def tls_os_queue_send (msg : SpiSchedMsg) : Prog SpiPort Unit :=
  modify fun s => if s.msg_queue.length < SPI_MSG_QUEUE_SIZE then { s with msg_queue := s.msg_queue ++ [msg] } else s

def spi_data_put (data : UInt32) : Prog SpiPort Unit := modify fun s => { s with txfifo := s.txfifo ++ [data] }

/-- There must be a word. -/
def spi_data_get : Prog SpiPort UInt32 := do
  match (← get).rxfifo with
  | [] => throw .read
  | data :: rxfifo =>
    modify fun s => { s with rxfifo := rxfifo, rxcount := s.rxcount - 4 }
    return data

/-- The byte of a transfer at `off`. -/
def txByte (transfer : tls_spi_transfer) (off : Nat) : Prog SpiPort UInt8 :=
  match transfer.tx_buf with
  | none => return 0xff
  | some tx_buf =>
    match tx_buf[off]? with
    | none => throw .read
    | some data8 => return data8

/-- The bytes of a transfer from `off` on are written. -/
def rxPut (t off : Nat) (data : List UInt8) : Prog SpiPort Unit := do
  let s ← get
  match (s.transfers t).rx_buf with
  | none => return ()
  | some rx_buf =>
    if off + data.length ≤ rx_buf.length then
      modify fun s => s.setTransfer t { s.transfers t with rx_buf := some (patch rx_buf off data) }
    else throw .write

/-- The word of a transfer at `off`. -/
def txWord (transfer : tls_spi_transfer) (off : Nat) : Prog SpiPort UInt32 := do
  if transfer.tx_buf.isSome then
    let data0 ← txByte transfer off
    let data1 ← txByte transfer (off + 1)
    let data2 ← txByte transfer (off + 2)
    let data3 ← txByte transfer (off + 3)
    return (0 : UInt32) ||| data0.toUInt32 <<< 24 ||| data1.toUInt32 <<< 16 ||| data2.toUInt32 <<< 8 ||| data3.toUInt32 <<< 0
  else
    return 0xffffffff

/-- The loop over the words, with what is left of the transfer. -/
def putWords (transfer : tls_spi_transfer) : (rw_words tx_remaining_bytes : Nat) → Prog SpiPort Nat
  | 0, tx_remaining_bytes => return tx_remaining_bytes
  | rw_words + 1, tx_remaining_bytes => do
    spi_data_put (← txWord transfer (transfer.len - tx_remaining_bytes))
    putWords transfer rw_words (tx_remaining_bytes - 4)

/-- The loop over the bytes of the last word, of which there are `rw_bytes` from `i` on. -/
def putBytes (transfer : tls_spi_transfer) : (rw_bytes i : Nat) → (data32 : UInt32) → (tx_remaining_bytes : Nat) → Prog SpiPort (UInt32 × Nat)
  | 0, _, data32, tx_remaining_bytes => return (data32, tx_remaining_bytes)
  | rw_bytes + 1, i, data32, tx_remaining_bytes => do
    let data8 ← txByte transfer (transfer.len - tx_remaining_bytes)
    putBytes transfer rw_bytes (i + 1) (data32 ||| data8.toUInt32 <<< UInt32.ofNat ((3 - i) * 8)) (tx_remaining_bytes - 1)

def spi_fill_txfifo (current_transfer : Option Nat) (current_remaining_bytes : Nat) : Prog SpiPort Nat := do
  let s ← get
  match current_transfer with
  | none => return 0
  | some t =>
    if current_remaining_bytes = 0 then
      return 0
    let fifo_level := SPI_FIFO_SIZE - 4 * s.txfifo.length
    let rw_size := if fifo_level > current_remaining_bytes then current_remaining_bytes else fifo_level
    let tx_remaining_bytes ← putWords (s.transfers t) (rw_size / 4) current_remaining_bytes
    if rw_size % 4 ≠ 0 then
      let (data32, tx_remaining_bytes) ← putBytes (s.transfers t) (rw_size % 4) 0 0 tx_remaining_bytes
      spi_data_put data32
      return current_remaining_bytes - tx_remaining_bytes
    else
      return current_remaining_bytes - tx_remaining_bytes

/-- The loop over the words, with what is left of the transfer `t` of length `len`. -/
def getWords (t len : Nat) : (rw_words rx_remaining_bytes : Nat) → Prog SpiPort Nat
  | 0, rx_remaining_bytes => return rx_remaining_bytes
  | rw_words + 1, rx_remaining_bytes => do
    let data32 := swap_32 (← spi_data_get)
    rxPut t (len - rx_remaining_bytes) [data32.toUInt8, (data32 >>> 8).toUInt8, (data32 >>> 16).toUInt8, (data32 >>> 24).toUInt8]
    getWords t len rw_words (rx_remaining_bytes - 4)

/-- The loop over the bytes of the last word. -/
def getBytes (t len : Nat) (data32 : UInt32) : (rw_bytes i rx_remaining_bytes : Nat) → Prog SpiPort Nat
  | 0, _, rx_remaining_bytes => return rx_remaining_bytes
  | rw_bytes + 1, i, rx_remaining_bytes => do
    rxPut t (len - rx_remaining_bytes) [(data32 >>> UInt32.ofNat ((3 - i) * 8)).toUInt8]
    getBytes t len data32 rw_bytes (i + 1) (rx_remaining_bytes - 1)

def spi_get_rxfifo (current_transfer : Option Nat) (current_remaining_bytes : Nat) : Prog SpiPort Nat := do
  let s ← get
  match current_transfer with
  | none => return 0
  | some t =>
    if current_remaining_bytes = 0 then
      return 0
    let fifo_level := s.rxcount
    let len := (s.transfers t).len
    let rx_remaining_bytes ← getWords t len (fifo_level / 4) current_remaining_bytes
    if fifo_level % 4 ≠ 0 then
      let data32 ← spi_data_get
      let rx_remaining_bytes ← if (s.transfers t).rx_buf.isSome then getBytes t len data32 (fifo_level % 4) 0 rx_remaining_bytes
        else pure (rx_remaining_bytes - fifo_level % 4)
      return current_remaining_bytes - rx_remaining_bytes
    else
      return current_remaining_bytes - rx_remaining_bytes

def spi_next_transfer (s : SpiPort) (current_message : Option Nat) : Option Nat :=
  current_message.bind fun m => (s.messages m).transfers.head?

def spi_next_message : Prog SpiPort (Option Nat) := do
  let s ← get
  match s.wait_queue.head? with
  | none => return none
  | some m =>
    modify fun s => { s.setMessage m { s.messages m with status := SPI_MESSAGE_STATUS_INPROGRESS } with
      current_transfer := spi_next_transfer s (some m) }
    return some m

/-- The first message becomes the current one. -/
def nextMessage : Prog SpiPort Unit := do
  let current_message ← spi_next_message
  modify fun s => { s with current_message := current_message }

/-- The controller starts to shift. -/
def spi_start_transfer (transfer_bytes : Nat) : Prog SpiPort Unit := modify fun s => { s with sclk := some transfer_bytes }

/-- What is done under the lock at the end of the transfer `t` of the message `m`. -/
def endTransfer (m t : Nat) : Prog SpiPort Unit := do
  modify fun s => s.setMessage m { s.messages m with transfers := (s.messages m).transfers.erase t }
  modify fun s => { s with current_transfer := s.spi_next_transfer s.current_message }
  if (← get).current_transfer = none then
    modify fun s => { s.setMessage m { s.messages m with status := SPI_MESSAGE_STATUS_DONE } with wait_queue := s.wait_queue.erase m }
    nextMessage

/-- What is left of a transfer that has not begun yet is all of it. -/
def reload (s : SpiPort) : SpiPort :=
  match s.current_transfer with
  | none => s
  | some t => s.remain (s.transfers t).len

/-- The FIFO is filled, and what is in it is sent. -/
def fillAndStart : Prog SpiPort Unit := do
  let s ← get
  let transfer_bytes ← spi_fill_txfifo s.current_transfer s.current_remaining_bytes
  if transfer_bytes ≠ 0 then
    spi_start_transfer transfer_bytes

def spi_continue_transfer : Prog SpiPort Unit := do
  let s ← get
  match s.current_message, s.current_transfer with
  | some current_message, some current_transfer =>
    let transfer_bytes ← spi_get_rxfifo (some current_transfer) s.current_remaining_bytes
    modify fun s => s.remain (s.current_remaining_bytes - transfer_bytes)
    if (← get).current_remaining_bytes = 0 then
      endTransfer current_message current_transfer
      modify reload
    fillAndStart
    if ((← get).messages current_message).status = SPI_MESSAGE_STATUS_DONE then
      modify fun s => { s with completed := s.completed ++ [current_message] }
  | _, _ => return ()

/-- The engine is started unless it runs. A transfer is started even where there is
nothing in the FIFO. -/
def startEngine : Prog SpiPort Unit := do
  if (← get).current_message.isSome then
    return ()
  nextMessage
  let s ← get
  match s.current_transfer with
  | none => return ()
  | some t =>
    modify fun s => s.remain (s.transfers t).len
    let transfer_bytes ← spi_fill_txfifo (some t) (s.transfers t).len
    spi_start_transfer transfer_bytes

/-- The scheduler handles the message that has come first. -/
def spi_scheduler : Prog SpiPort Unit := do
  match (← get).msg_queue with
  | [] => return ()
  | msg :: msg_queue =>
    modify fun s => { s with msg_queue := msg_queue }
    match msg with
    | .SPI_SCHED_MSG_START_ENGINE => startEngine
    | .SPI_SCHED_MSG_TX_FIFO_READY => return ()
    | .SPI_SCHED_MSG_RX_FIFO_READY => return ()
    | .SPI_SCHED_MSG_TRANSFER_COMPLETE => spi_continue_transfer
    | .SPI_SCHED_MSG_EXIT => return ()

/-- The transfer that has been started is done, with these words received. -/
def transferDone (words : List UInt32) : Prog SpiPort Unit := do
  let s ← get
  match s.sclk with
  | none => return ()
  | some n =>
    set { s with
      sclk := none
      txfifo := s.txfifo.drop ((n + 3) / 4)
      rxfifo := words
      rxcount := n
      mosi := s.mosi ++ (s.txfifo.flatMap bytes).take n
      miso := s.miso ++ (words.flatMap bytes).take n }
    tls_os_queue_send SPI_SCHED_MSG_TRANSFER_COMPLETE

/-- The task goes as far as the end of the locked part. -/
def tls_spi_async (task message : Nat) : Prog SpiPort Unit := do
  let s ← get
  if (s.messages message).transfers = [] then
    return ()
  if ∃ t ∈ (s.messages message).transfers, (s.transfers t).len = 0 then
    return ()
  let need_sched := s.wait_queue = []
  modify fun s => { s.setMessage message { s.messages message with status := SPI_MESSAGE_STATUS_IDLE } with
    wait_queue := s.wait_queue ++ [message] }
  if need_sched then
    modify fun s => { s with starting := task :: s.starting }

/-- A message with these transfers, which nobody knows of yet. -/
def newMessage (xs : List tls_spi_transfer) : Prog SpiPort Nat := do
  let s ← get
  set { s with
    transfers := fun t => if s.known ≤ t then xs.getD (t - s.known) (s.transfers t) else s.transfers t
    messages := Function.update s.messages s.submitted ⟨List.range' s.known xs.length, SPI_MESSAGE_STATUS_IDLE, List.range' s.known xs.length⟩
    known := s.known + xs.length
    submitted := s.submitted + 1 }
  return s.submitted

end SpiPort

open SpiPort

inductive SpiEvent where
  /-- A task submits a message. -/
  | submit (task : Nat) (xs : List tls_spi_transfer)
  /-- A task that has found the queue empty starts the engine. -/
  | start (task : Nat)
  | schedule
  | done (words : List UInt32)

def spiEvent : SpiEvent → Prog SpiPort Unit
  | .submit task xs => do
    let message ← newMessage xs
    tls_spi_async task message
  | .start task => do
    modify fun s => { s with starting := s.starting.erase task }
    tls_os_queue_send SPI_SCHED_MSG_START_ENGINE
  | .schedule => spi_scheduler
  | .done words => transferDone words

end ZCloud
