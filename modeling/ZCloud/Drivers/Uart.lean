import ZCloud.Lib.Program
import ZCloud.Lib.Ring

open Memory Program

namespace ZCloud

def WM_SUCCESS : Int := 0
def WM_FAILED : Int := -1

def TLS_UART_TX_BUF_SIZE : Nat := 4096
def WAKEUP_CHARS : Nat := 256
def UFS_TX_FIFO_CNT_MASK : UInt32 := 0x3F

def CIRC_CNT (head tail size : UInt32) : UInt32 := (head - tail) &&& (size - 1)

/-- Both variables of the macro are `int`. -/
def CIRC_SPACE_TO_END (head tail size : UInt32) : Int :=
  let end_ := size - 1 - head
  let n := (end_ + tail) &&& (size - 1)
  if n.toInt32.toInt ≤ end_.toInt32.toInt then n.toInt32.toInt else end_.toInt32.toInt + 1

structure tls_uart_circ_buf where
  buf : Option (Mem TLS_UART_TX_BUF_SIZE)
  head : UInt32
  tail : UInt32

/-- The callbacks that a port may have: that of `tls_uart_tx`, and one of a user. -/
inductive TxCallback where
  | tls_uart_tx_cb
  | user
deriving DecidableEq

/-- A port. `UR_TXW` is all that has been written to this register, `buf_ptr` what
is in the buffer of the caller from the pointer on, and `tx_sem` the count of the
semaphore. -/
structure tls_uart_port where
  tx_fifofull : UInt32
  UR_TXW : List UInt8
  icount_tx : UInt32
  xmit : tls_uart_circ_buf
  tx_sem : Option Nat
  buf_ptr : List UInt8
  buf_len : Nat
  tx_callback : Option TxCallback

namespace tls_uart_circ_buf

def uart_circ_empty (circ : tls_uart_circ_buf) : Bool := circ.head = circ.tail

def uart_circ_chars_pending (circ : tls_uart_circ_buf) : Nat :=
  (CIRC_CNT circ.head circ.tail (UInt32.ofNat TLS_UART_TX_BUF_SIZE)).toNat

/-- The byte at the tail. -/
def next (circ : tls_uart_circ_buf) : Except Fault UInt8 :=
  match circ.buf with
  | none => .error .null
  | some buf =>
    match buf.bytes[circ.tail.toNat]? with
    | none => .error .read
    | some ch => .ok ch

end tls_uart_circ_buf

theorem CIRC_SPACE_TO_END_range (head tail size : UInt32) :
    -2 ^ 31 ≤ CIRC_SPACE_TO_END head tail size ∧ CIRC_SPACE_TO_END head tail size ≤ 2 ^ 31 := by
  have hlt := (size - 1 - head).toInt32.toInt_lt
  have hle := (size - 1 - head).toInt32.le_toInt
  have hle' := (((size - 1 - head) + tail) &&& (size - 1)).toInt32.le_toInt
  simp only [CIRC_SPACE_TO_END]
  split <;> omega

/-- How many of `count` bytes a pass of `tls_uart_write` copies. -/
def passLen (head tail : UInt32) (count : Nat) : Int :=
  let c := CIRC_SPACE_TO_END head tail (UInt32.ofNat TLS_UART_TX_BUF_SIZE)
  -- `count` is unsigned, and so is the comparison.
  if (count : Int) < c % 2 ^ 32 then count else c

theorem count_pos_of_passLen {head tail : UInt32} {count : Nat} (h : ¬ passLen head tail count ≤ 0) : 0 < count := by
  have hrange := CIRC_SPACE_TO_END_range head tail (UInt32.ofNat TLS_UART_TX_BUF_SIZE)
  simp only [passLen] at h
  split at h <;> omega

/-- The loop of `tls_uart_write`; `ret` counts what has been copied before. -/
def writeChunks (buf : Mem TLS_UART_TX_BUF_SIZE) (head tail : UInt32) (data : List UInt8) (count : Nat) (ret : Int) :
    Except Fault (Mem TLS_UART_TX_BUF_SIZE × UInt32 × Int) := do
  let c := passLen head tail count
  if _hc : c ≤ 0 then return (buf, head, ret)
  else
    let buf' ← buf.memcpy head.toNat data c.toNat
    writeChunks buf' ((head + UInt32.ofNat c.toNat) &&& (UInt32.ofNat TLS_UART_TX_BUF_SIZE - 1)) tail (data.drop c.toNat)
      (count - c.toNat) (ret + c)
termination_by count
decreasing_by
  have hcount := count_pos_of_passLen _hc
  omega

theorem writeChunks_stop {buf : Mem TLS_UART_TX_BUF_SIZE} {head tail : UInt32} {data : List UInt8} {count : Nat} {ret : Int}
    (h : passLen head tail count = 0) : writeChunks buf head tail data count ret = .ok (buf, head, ret) := by
  rw [writeChunks.eq_def, h]
  rfl

theorem writeChunks_pass {buf : Mem TLS_UART_TX_BUF_SIZE} {head tail : UInt32} {data : List UInt8} {count c : Nat} {ret : Int}
    (h : passLen head tail count = c) (hc : c ≠ 0) : writeChunks buf head tail data count ret = (do
      let buf' ← buf.memcpy head.toNat data c
      writeChunks buf' ((head + UInt32.ofNat c) &&& (UInt32.ofNat TLS_UART_TX_BUF_SIZE - 1)) tail (data.drop c) (count - c)
        (ret + c)) := by
  rw [writeChunks.eq_def]
  simp only [h, Int.toNat_natCast]
  rw [dif_neg (by omega)]

def tls_uart_write (data : List UInt8) (count : Nat) : Prog tls_uart_port Int := do
  let port ← get
  match port.xmit.buf with
  | none => return WM_FAILED
  | some buf =>
    let (buf, head, ret) ← writeChunks buf port.xmit.head port.xmit.tail data count 0
    modify fun s => { s with xmit := { s.xmit with buf := some buf, head := head } }
    return ret

/-- The loop of `tls_uart_tx_chars_start` and of `tls_uart_tx_chars`. `fifos k` is
what the register `UR_FIFOS` holds when `k` passes are left after this one. -/
def sendChars (fifos : Nat → UInt32) : (tx_count : Nat) → Prog tls_uart_port Unit
  | 0 => return ()
  | tx_count + 1 => do
    let port ← get
    if port.xmit.uart_circ_empty then return ()
    else if fifos tx_count &&& UFS_TX_FIFO_CNT_MASK = port.tx_fifofull then return ()
    else
      let ch ← port.xmit.next
      set { port with
        UR_TXW := port.UR_TXW ++ [ch]
        xmit := { port.xmit with tail := (port.xmit.tail + 1) &&& (UInt32.ofNat TLS_UART_TX_BUF_SIZE - 1) }
        icount_tx := port.icount_tx + 1 }
      sendChars fifos tx_count

/-- Runs in a critical section. -/
def tls_uart_tx_chars_start (fifos : Nat → UInt32) : Prog tls_uart_port Unit := sendChars fifos 32

def tls_uart_tx_cb : Prog tls_uart_port Int := do
  let port ← get
  if 0 < port.buf_len then
    let ret_len ← tls_uart_write port.buf_ptr port.buf_len
    if 0 ≤ ret_len ∧ ret_len ≤ port.buf_len then
      modify fun s => { s with buf_len := s.buf_len - ret_len.toNat, buf_ptr := s.buf_ptr.drop ret_len.toNat }
  return WM_SUCCESS

/-- The interrupt, with what `user` does as callback. -/
def tls_uart_tx_chars (user : Prog tls_uart_port Int) (fifos : Nat → UInt32) : Prog tls_uart_port Unit := do
  if (← get).xmit.uart_circ_empty then
    modify fun s => { s with tx_sem := s.tx_sem.map (· + 1) }
  else
    sendChars fifos 64
    let port ← get
    if port.xmit.uart_circ_chars_pending < WAKEUP_CHARS then
      match port.tx_callback with
      | none => return ()
      | some .tls_uart_tx_cb =>
        let _ ← tls_uart_tx_cb
      | some .user =>
        let _ ← user

def tls_uart_tx_register (tx_callback : Option TxCallback) : Prog tls_uart_port Unit :=
  modify fun s => { s with tx_callback := tx_callback }

/-- `none` is the null pointer. -/
def tls_uart_tx (fifos : Nat → UInt32) (buf : Option (List UInt8)) (len : UInt16) : Prog tls_uart_port Int := do
  match buf with
  | none => return WM_FAILED
  | some buf =>
    if len < 1 then return WM_FAILED
    else
      modify fun s => { s with icount_tx := 0 }
      tls_uart_tx_register (some .tls_uart_tx_cb)
      modify fun s => { s with buf_ptr := buf, buf_len := len.toNat }
      let ret_len ← tls_uart_write buf len.toNat
      if 0 ≤ ret_len ∧ ret_len ≤ (← get).buf_len then
        modify fun s => { s with buf_ptr := s.buf_ptr.drop ret_len.toNat, buf_len := s.buf_len - ret_len.toNat }
        tls_uart_tx_chars_start fifos
      return WM_SUCCESS

section

variable {head tail : UInt32} (hhead : head.toNat < TLS_UART_TX_BUF_SIZE) (htail : tail.toNat < TLS_UART_TX_BUF_SIZE)

/-- The mask keeps an index inside of the ring. -/
theorem toNat_mask (x : UInt32) : (x &&& (UInt32.ofNat TLS_UART_TX_BUF_SIZE - 1)).toNat = x.toNat % TLS_UART_TX_BUF_SIZE := by
  have hmask : (UInt32.ofNat TLS_UART_TX_BUF_SIZE - 1).toNat = 2 ^ 12 - 1 := rfl
  rw [UInt32.toNat_and, hmask, Nat.and_two_pow_sub_one_eq_mod]
  rfl

theorem toInt_of_lt {x : UInt32} (h : x.toNat < 2 ^ 31) : x.toInt32.toInt = x.toNat :=
  @BitVec.toInt_eq_toNat_of_lt _ x.toBitVec (by rw [UInt32.toNat_toBitVec]; omega)

include htail in
theorem toNat_CIRC_CNT : (CIRC_CNT head tail (UInt32.ofNat TLS_UART_TX_BUF_SIZE)).toNat =
    (head.toNat + (4096 - tail.toNat)) % 4096 := by
  rw [CIRC_CNT, toNat_mask, UInt32.toNat_sub]
  simp only [TLS_UART_TX_BUF_SIZE] at htail ⊢
  omega

include hhead htail

/-- The space that is left, but not beyond the end of the ring. -/
theorem CIRC_SPACE_TO_END_eq : CIRC_SPACE_TO_END head tail (UInt32.ofNat TLS_UART_TX_BUF_SIZE) =
    (min (TLS_UART_TX_BUF_SIZE - 1 - (CIRC_CNT head tail (UInt32.ofNat TLS_UART_TX_BUF_SIZE)).toNat)
      (TLS_UART_TX_BUF_SIZE - head.toNat) : Nat) := by
  have hone : (UInt32.ofNat TLS_UART_TX_BUF_SIZE - 1).toNat = TLS_UART_TX_BUF_SIZE - 1 := rfl
  have hsize : TLS_UART_TX_BUF_SIZE = 4096 := rfl
  have hend : (UInt32.ofNat TLS_UART_TX_BUF_SIZE - 1 - head).toNat = TLS_UART_TX_BUF_SIZE - 1 - head.toNat := by
    rw [UInt32.toNat_sub, hone]
    omega
  have hspace : ((UInt32.ofNat TLS_UART_TX_BUF_SIZE - 1 - head + tail) &&& (UInt32.ofNat TLS_UART_TX_BUF_SIZE - 1)).toNat =
      (4095 - head.toNat + tail.toNat) % 4096 := by
    rw [toNat_mask, UInt32.toNat_add, hend, hsize]
    omega
  have hcnt := @toNat_CIRC_CNT head _ htail
  simp only [CIRC_SPACE_TO_END]
  rw [toInt_of_lt (by omega), toInt_of_lt (by omega), hend, hspace]
  split <;> omega

/-- What a pass copies is what there is to copy and what there is space for, not
beyond the end of the ring. -/
theorem passLen_eq (count : Nat) : passLen head tail count =
    (min count (min (TLS_UART_TX_BUF_SIZE - 1 - (CIRC_CNT head tail (UInt32.ofNat TLS_UART_TX_BUF_SIZE)).toNat)
      (TLS_UART_TX_BUF_SIZE - head.toNat)) : Nat) := by
  have hsize : TLS_UART_TX_BUF_SIZE = 4096 := rfl
  simp only [passLen]
  rw [CIRC_SPACE_TO_END_eq hhead htail]
  split <;> omega

end

section

variable {buf : Mem TLS_UART_TX_BUF_SIZE} {head tail : UInt32}

/-- What is in the ring from the tail to the head. -/
def ringOf (buf : Mem TLS_UART_TX_BUF_SIZE) (head tail : UInt32) : List UInt8 :=
  Ring.contents TLS_UART_TX_BUF_SIZE (fun k => buf.bytes.getD k 0) tail.toNat
    (CIRC_CNT head tail (UInt32.ofNat TLS_UART_TX_BUF_SIZE)).toNat

@[simp]
theorem length_ringOf : (ringOf buf head tail).length = (CIRC_CNT head tail (UInt32.ofNat TLS_UART_TX_BUF_SIZE)).toNat :=
  Ring.length_contents ..

theorem length_ringOf_lt : (ringOf buf head tail).length < TLS_UART_TX_BUF_SIZE := by
  rw [length_ringOf, CIRC_CNT, toNat_mask]
  exact Nat.mod_lt _ (by decide)

variable (hhead : head.toNat < TLS_UART_TX_BUF_SIZE) (htail : tail.toNat < TLS_UART_TX_BUF_SIZE)

include hhead htail

/-- What a pass copies is behind what was in the ring. -/
theorem ringOf_patch {buf' : Mem TLS_UART_TX_BUF_SIZE} {data : List UInt8}
    (hroom : (ringOf buf head tail).length + data.length < TLS_UART_TX_BUF_SIZE)
    (hend : head.toNat + data.length ≤ TLS_UART_TX_BUF_SIZE) (hbuf : buf'.bytes = patch buf.bytes head.toNat data) :
    let head' := (head + UInt32.ofNat data.length) &&& (UInt32.ofNat TLS_UART_TX_BUF_SIZE - 1)
    head'.toNat < TLS_UART_TX_BUF_SIZE ∧ ringOf buf' head' tail = ringOf buf head tail ++ data := by
  intro head'
  have hsize : TLS_UART_TX_BUF_SIZE = 4096 := rfl
  have hlen := buf.size
  have hhead' : head'.toNat = (head.toNat + data.length) % 4096 := by
    rw [toNat_mask, UInt32.toNat_add, UInt32.toNat_ofNat', hsize]
    omega
  have hlt : head'.toNat < TLS_UART_TX_BUF_SIZE := by omega
  have hcnt := @toNat_CIRC_CNT head _ htail
  have hcnt' := @toNat_CIRC_CNT head' _ htail
  rw [length_ringOf] at hroom
  refine ⟨hlt, ?_⟩
  have hcount : (CIRC_CNT head' tail (UInt32.ofNat TLS_UART_TX_BUF_SIZE)).toNat =
      (CIRC_CNT head tail (UInt32.ofNat TLS_UART_TX_BUF_SIZE)).toNat + data.length := by omega
  have hplace : head.toNat = (tail.toNat + (CIRC_CNT head tail (UInt32.ofNat TLS_UART_TX_BUF_SIZE)).toNat) %
      TLS_UART_TX_BUF_SIZE := by
    change _ = _ % 4096
    omega
  rw [ringOf, ringOf, hcount]
  refine Ring.contents_fill hplace (by omega) hend (fun k hk => ?_) fun k hk => ?_
  · rw [hbuf, getD_patch (by omega) hk]
  · rw [hbuf, getD_patch_of_outside (by omega) hk]

/-- The passes of `tls_uart_write` copy as much as there is space for. -/
theorem writeChunks_spec {data : List UInt8} {count : Nat} (hcount : count ≤ data.length) (ret : Int) :
    ∃ buf' head', writeChunks buf head tail data count ret =
        .ok (buf', head', ret + min count (TLS_UART_TX_BUF_SIZE - 1 - (ringOf buf head tail).length)) ∧
      head'.toNat < TLS_UART_TX_BUF_SIZE ∧ ringOf buf' head' tail =
        ringOf buf head tail ++ data.take (min count (TLS_UART_TX_BUF_SIZE - 1 - (ringOf buf head tail).length)) := by
  induction count using Nat.strongRecOn generalizing buf head data ret with
  | ind count ih =>
    have hpass := @passLen_eq head tail hhead htail count
    rw [← @length_ringOf buf] at hpass
    generalize hc : min count (min (TLS_UART_TX_BUF_SIZE - 1 - (ringOf buf head tail).length) (TLS_UART_TX_BUF_SIZE - head.toNat))
      = c at hpass
    by_cases hzero : c = 0
    · have hnone : min count (TLS_UART_TX_BUF_SIZE - 1 - (ringOf buf head tail).length) = 0 := by omega
      rw [hzero] at hpass
      refine ⟨buf, head, ?_, hhead, ?_⟩
      · rw [writeChunks_stop hpass, hnone, Int.natCast_zero, Int.add_zero]
      · rw [hnone, List.take_zero, List.append_nil]
    · have hlen : (data.take c).length = c := by
        rw [List.length_take]
        omega
      obtain ⟨buf₁, hcopy, hbuf₁⟩ := @Mem.memcpy_spec _ buf head.toNat c data (by omega) (by omega)
      obtain ⟨hhead₁, hring₁⟩ := ringOf_patch hhead htail (by omega) (by omega) hbuf₁
      rw [hlen] at hhead₁ hring₁
      have hroom : (data.drop c).length = data.length - c := List.length_drop
      have hlength := congrArg List.length hring₁
      rw [List.length_append, hlen] at hlength
      obtain ⟨buf', head', hrest, hhead', hring'⟩ :=
        @ih (count - c) (by omega) buf₁ _ hhead₁ (data.drop c) (by omega) (ret + c)
      have hmoved : min count (TLS_UART_TX_BUF_SIZE - 1 - (ringOf buf head tail).length) =
          c + min (count - c) (TLS_UART_TX_BUF_SIZE - 1 - (ringOf buf head tail).length - c) := by omega
      rw [hlength, ← Nat.sub_sub] at hrest hring'
      rw [hring₁] at hring'
      refine ⟨buf', head', ?_, hhead', ?_⟩
      · rw [writeChunks_pass hpass hzero, hcopy, ok_bind, hrest, hmoved, Int.natCast_add, Int.add_assoc]
      · rw [hring', hmoved, List.take_add, List.append_assoc]

end

namespace tls_uart_port

/-- What is in the ring of a port. -/
def ring (port : tls_uart_port) : List UInt8 :=
  match port.xmit.buf with
  | none => []
  | some buf => ringOf buf port.xmit.head port.xmit.tail

/-- What is left in the buffer of the caller. -/
def rest (port : tls_uart_port) : List UInt8 := port.buf_ptr.take port.buf_len

/-- The port has its ring. -/
structure Open (port : tls_uart_port) : Prop where
  buf : port.xmit.buf.isSome
  head : port.xmit.head.toNat < TLS_UART_TX_BUF_SIZE
  tail : port.xmit.tail.toNat < TLS_UART_TX_BUF_SIZE

/-- The port has its ring, and there is nothing to send. -/
structure Idle (port : tls_uart_port) : Prop extends Open port where
  ring_empty : port.xmit.head = port.xmit.tail
  buf_len : port.buf_len = 0

/-- Of `data`, what has not been written to `UR_TXW` since it held `before` is in
the ring, and behind it in the buffer of the caller. -/
structure Streams (port : tls_uart_port) (before data : List UInt8) : Prop where
  split : ∃ sent, port.UR_TXW = before ++ sent ∧ sent ++ port.ring ++ port.rest = data
  ring_length : port.ring.length ≤ TLS_UART_TX_BUF_SIZE - 1
  rest_waits : 0 < port.buf_len → port.ring ≠ []

/-- What holds between the interrupts; as long as something is left in the buffer
of the caller, there are at least `least` bytes in the ring. -/
structure Sending (port : tls_uart_port) (before data : List UInt8) (least : Nat) : Prop extends Open port where
  split : ∃ sent, port.UR_TXW = before ++ sent ∧ sent ++ port.ring ++ port.rest = data
  fits : port.buf_len ≤ port.buf_ptr.length
  tx_callback : port.tx_callback = some .tls_uart_tx_cb
  least_le : 0 < port.buf_len → least ≤ port.ring.length

variable {port : tls_uart_port} {before data : List UInt8} {least least' : Nat}

theorem length_ring_lt (port : tls_uart_port) : port.ring.length < TLS_UART_TX_BUF_SIZE := by
  unfold ring
  split
  · decide
  · exact length_ringOf_lt

theorem Sending.mono (h : port.Sending before data least) (hle : least' ≤ least) : port.Sending before data least' :=
  { h with least_le := fun hlen => hle.trans (h.least_le hlen) }

theorem Sending.streams (h : port.Sending before data least) (hleast : 0 < least) : port.Streams before data where
  split := h.split
  ring_length := Nat.le_sub_one_of_lt port.length_ring_lt
  rest_waits hlen hnil := by
    have hle := h.least_le hlen
    rw [hnil, List.length_nil] at hle
    omega

/-- The pending characters are those in the ring. -/
theorem Open.pending_eq (h : port.Open) : port.xmit.uart_circ_chars_pending = port.ring.length := by
  obtain ⟨buf, hbuf⟩ := Option.isSome_iff_exists.mp h.buf
  rw [ring, hbuf, tls_uart_circ_buf.uart_circ_chars_pending, length_ringOf]

theorem Open.empty_iff (h : port.Open) : port.xmit.uart_circ_empty = true ↔ port.ring = [] := by
  have hcnt := @toNat_CIRC_CNT port.xmit.head _ h.tail
  have hhead := h.head
  have htail := h.tail
  have hsize : TLS_UART_TX_BUF_SIZE = 4096 := rfl
  rw [← List.length_eq_zero_iff, ← h.pending_eq, tls_uart_circ_buf.uart_circ_chars_pending, hcnt,
    tls_uart_circ_buf.uart_circ_empty, decide_eq_true_iff, ← UInt32.toNat_inj]
  omega

theorem Idle.empty (h : port.Idle) : port.xmit.uart_circ_empty = true := by
  rw [tls_uart_circ_buf.uart_circ_empty, decide_eq_true_iff]
  exact h.ring_empty

/-- The tail goes on by one. -/
def advance (port : tls_uart_port) : UInt32 := (port.xmit.tail + 1) &&& (UInt32.ofNat TLS_UART_TX_BUF_SIZE - 1)

theorem Open.toNat_advance (h : port.Open) : port.advance.toNat = (port.xmit.tail.toNat + 1) % TLS_UART_TX_BUF_SIZE := by
  have htail := h.tail
  have hone : (1 : UInt32).toNat = 1 := rfl
  rw [advance, toNat_mask, UInt32.toNat_add, hone]
  simp only [TLS_UART_TX_BUF_SIZE] at htail ⊢
  omega

/-- The byte at the tail is the first one in the ring, and the rest of the ring
is behind it. -/
theorem Open.next_spec (h : port.Open) {ch : UInt8} {chars : List UInt8} (hring : port.ring = ch :: chars) :
    port.xmit.next = .ok ch ∧ ∀ buf, port.xmit.buf = some buf → ringOf buf port.xmit.head port.advance = chars := by
  obtain ⟨buf, hbuf⟩ := Option.isSome_iff_exists.mp h.buf
  have hlen := buf.size
  have hhead := h.head
  have htail := h.tail
  have hsize : TLS_UART_TX_BUF_SIZE = 4096 := rfl
  have hadvance := h.toNat_advance
  have hlt : port.advance.toNat < TLS_UART_TX_BUF_SIZE := by
    rw [hadvance]
    exact Nat.mod_lt _ (by decide)
  have hcnt := @toNat_CIRC_CNT port.xmit.head _ htail
  have hcnt' := @toNat_CIRC_CNT port.xmit.head _ hlt
  have hcount : (CIRC_CNT port.xmit.head port.xmit.tail (UInt32.ofNat TLS_UART_TX_BUF_SIZE)).toNat = chars.length + 1 := by
    rw [← List.length_cons (a := ch), ← hring, ring, hbuf, length_ringOf]
  rw [ring, hbuf] at hring
  simp only [ringOf, hcount] at hring
  rw [Ring.contents_succ htail] at hring
  obtain ⟨hch, hchars⟩ := List.cons.inj hring
  refine ⟨?_, fun buf' hbuf' => ?_⟩
  · have hget : buf.bytes[port.xmit.tail.toNat]? = some ch := by
      rw [← hch, List.getD_eq_getElem?_getD, List.getElem?_eq_getElem (by omega), Option.getD_some]
    rw [tls_uart_circ_buf.next, hbuf]
    simp only [hget]
  · obtain rfl := Option.some.inj (hbuf.symm.trans hbuf')
    have hrest : (CIRC_CNT port.xmit.head port.advance (UInt32.ofNat TLS_UART_TX_BUF_SIZE)).toNat = chars.length := by
      have hwrap : port.advance.toNat = (port.xmit.tail.toNat + 1) % 4096 := hadvance
      omega
    rw [ringOf, hrest, hadvance, hchars]

end tls_uart_port

section

variable {port : tls_uart_port} {before data : List UInt8} {least : Nat}

/-- What a pass of the loop leaves when it writes `ch` to `UR_TXW`. -/
def tls_uart_port.sent (port : tls_uart_port) (ch : UInt8) : tls_uart_port :=
  { port with
    UR_TXW := port.UR_TXW ++ [ch]
    xmit := { port.xmit with tail := port.advance }
    icount_tx := port.icount_tx + 1 }

theorem tls_uart_port.Open.ring_sent (h : port.Open) {ch : UInt8} {chars : List UInt8} (hring : port.ring = ch :: chars) :
    (port.sent ch).ring = chars := by
  obtain ⟨-, hchars⟩ := h.next_spec hring
  obtain ⟨buf, hbuf⟩ := Option.isSome_iff_exists.mp h.buf
  rw [tls_uart_port.ring]
  simp only [tls_uart_port.sent, hbuf]
  exact hchars buf hbuf

theorem tls_uart_port.Sending.sent (h : port.Sending before data least) {ch : UInt8} {chars : List UInt8}
    (hring : port.ring = ch :: chars) : (port.sent ch).Sending before data (least - 1) := by
  obtain ⟨done, htxw, hsplit⟩ := h.split
  have hring' := h.ring_sent hring
  refine { buf := h.buf, head := h.head, tail := ?_, split := ⟨done ++ [ch], ?_, ?_⟩, fits := h.fits,
           tx_callback := h.tx_callback, least_le := fun hlen => ?_ }
  · exact h.toNat_advance ▸ Nat.mod_lt _ (by decide)
  · rw [tls_uart_port.sent, htxw, List.append_assoc]
  · rw [hring', ← hsplit, hring]
    simp [tls_uart_port.rest, tls_uart_port.sent]
  · have hle := h.least_le hlen
    rw [hring, List.length_cons] at hle
    rw [hring']
    omega

/-- The FIFO of the transmitter is never full. -/
def tls_uart_port.Room (port : tls_uart_port) (fifos : Nat → UInt32) : Prop :=
  ∀ k, fifos k &&& UFS_TX_FIFO_CNT_MASK ≠ port.tx_fifofull

/-- What leaves the settings of the transmitter alone writes `n` bytes to `UR_TXW`. -/
structure tls_uart_port.Wrote (port port' : tls_uart_port) (n : Nat) : Prop where
  tx_fifofull : port'.tx_fifofull = port.tx_fifofull
  length : port'.UR_TXW.length = port.UR_TXW.length + n

/-- A pass of the loop writes the first byte in the ring to `UR_TXW`, or ends the
loop; while there is room in the FIFO, it ends it only when the ring is empty. -/
theorem sendChars_spec (fifos : Nat → UInt32) (tx_count : Nat) (h : port.Sending before data least) :
    ∃ port', (sendChars fifos tx_count).run port = .ok ((), port') ∧ port'.Sending before data (least - tx_count) ∧
      (port.Room fifos → port.Wrote port' (min tx_count port.ring.length)) := by
  induction tx_count generalizing port least with
  | zero => exact ⟨port, rfl, h, fun _ => ⟨rfl, by rw [Nat.zero_min]; rfl⟩⟩
  | succ tx_count ih =>
    simp only [sendChars]
    rw [run_get_bind]
    by_cases hempty : port.xmit.uart_circ_empty = true
    · rw [if_pos hempty]
      refine ⟨port, rfl, h.mono (Nat.sub_le ..), fun _ => ⟨rfl, ?_⟩⟩
      rw [h.empty_iff.mp hempty, List.length_nil, Nat.min_zero, Nat.add_zero]
    by_cases hfull : fifos tx_count &&& UFS_TX_FIFO_CNT_MASK = port.tx_fifofull
    · rw [if_neg hempty, if_pos hfull]
      exact ⟨port, rfl, h.mono (Nat.sub_le ..), fun hroom => absurd hfull (hroom tx_count)⟩
    rw [if_neg hempty, if_neg hfull]
    have hne : port.ring ≠ [] := fun hnil => hempty (h.empty_iff.mpr hnil)
    obtain ⟨ch, chars, hring⟩ := List.exists_cons_of_ne_nil hne
    obtain ⟨port', hrun, hsending, hwrote⟩ := ih (h.sent hring)
    rw [Nat.sub_sub, Nat.add_comm 1] at hsending
    refine ⟨port', ?_, hsending, fun hroom => ⟨(hwrote hroom).tx_fifofull, ?_⟩⟩
    · rw [(h.next_spec hring).1]
      exact hrun
    · have htxw : (port.sent ch).UR_TXW.length = port.UR_TXW.length + 1 := List.length_append
      rw [(hwrote hroom).length, h.ring_sent hring, htxw, hring, List.length_cons]
      omega

/-- How much of what is left in the buffer of the caller there is space for. -/
def tls_uart_port.moved (port : tls_uart_port) : Nat := min port.buf_len (TLS_UART_TX_BUF_SIZE - 1 - port.ring.length)

/-- What is left when the ring has been filled. -/
def tls_uart_port.filled (port : tls_uart_port) (buf : Mem TLS_UART_TX_BUF_SIZE) (head : UInt32) : tls_uart_port :=
  { port with
    xmit := { port.xmit with buf := some buf, head := head }
    buf_ptr := port.buf_ptr.drop port.moved
    buf_len := port.buf_len - port.moved }

theorem tls_uart_write_spec (h : port.Open) (hfits : port.buf_len ≤ port.buf_ptr.length) : ∃ buf head,
    (tls_uart_write port.buf_ptr port.buf_len).run port =
        .ok (port.moved, { port with xmit := { port.xmit with buf := some buf, head := head } }) ∧
      head.toNat < TLS_UART_TX_BUF_SIZE ∧ ringOf buf head port.xmit.tail = port.ring ++ port.buf_ptr.take port.moved := by
  obtain ⟨buf, hbuf⟩ := Option.isSome_iff_exists.mp h.buf
  have hring : port.ring = ringOf buf port.xmit.head port.xmit.tail := by rw [tls_uart_port.ring, hbuf]
  obtain ⟨buf', head', hwrite, hhead', hring'⟩ := @writeChunks_spec buf _ _ h.head h.tail _ _ hfits 0
  rw [← hring, Int.zero_add] at hwrite
  rw [← hring] at hring'
  refine ⟨buf', head', ?_, hhead', hring'⟩
  rw [tls_uart_write, run_get_bind, hbuf]
  simp only [run_bind, hwrite, run_lift_ok, ok_bind, run_modify, run_pure]
  rfl

/-- Where the ring is filled, the stream is split as before, at another place; if
something is left, the ring is full. -/
theorem tls_uart_port.Sending.filled (h : port.Sending before data least) {buf : Mem TLS_UART_TX_BUF_SIZE} {head : UInt32}
    (hhead : head.toNat < TLS_UART_TX_BUF_SIZE)
    (hring : ringOf buf head port.xmit.tail = port.ring ++ port.buf_ptr.take port.moved) :
    (port.filled buf head).Sending before data (TLS_UART_TX_BUF_SIZE - 1) := by
  obtain ⟨done, htxw, hsplit⟩ := h.split
  have hring' : (port.filled buf head).ring = port.ring ++ port.buf_ptr.take port.moved := hring
  have hmoved : port.moved = min port.buf_len (TLS_UART_TX_BUF_SIZE - 1 - port.ring.length) := rfl
  have hfits := h.fits
  have hlen := port.length_ring_lt
  refine { buf := rfl, head := hhead, tail := h.tail, split := ⟨done, htxw, ?_⟩, fits := ?_, tx_callback := h.tx_callback,
           least_le := fun hrest => ?_ }
  · have hsum : port.moved + (port.buf_len - port.moved) = port.buf_len := by omega
    have hrest : port.buf_ptr.take port.moved ++ (port.filled buf head).rest = port.rest := by
      rw [tls_uart_port.rest, tls_uart_port.filled, ← List.take_add, hsum]
      rfl
    rw [hring', ← List.append_assoc, List.append_assoc, hrest, hsplit]
  · change port.buf_len - port.moved ≤ (port.buf_ptr.drop port.moved).length
    rw [List.length_drop]
    omega
  · have hrest' : 0 < port.buf_len - port.moved := hrest
    rw [hring', List.length_append, List.length_take]
    omega

theorem tls_uart_tx_cb_spec (h : port.Sending before data least) : ∃ port',
    tls_uart_tx_cb.run port = .ok (WM_SUCCESS, port') ∧ port'.Sending before data (TLS_UART_TX_BUF_SIZE - 1) ∧
      port.Wrote port' 0 := by
  by_cases hlen : 0 < port.buf_len
  · obtain ⟨buf, head, hwrite, hhead, hring⟩ := tls_uart_write_spec h.toOpen h.fits
    refine ⟨port.filled buf head, ?_, h.filled hhead hring, rfl, rfl⟩
    have hret : (0 : Int) ≤ port.moved ∧ (port.moved : Int) ≤ port.buf_len := by
      have hmoved : port.moved = min port.buf_len (TLS_UART_TX_BUF_SIZE - 1 - port.ring.length) := rfl
      omega
    rw [tls_uart_tx_cb, run_get_bind, if_pos hlen]
    simp only [run_bind, hwrite, ok_bind, if_pos hret, run_modify, run_pure]
    rfl
  · refine ⟨port, ?_, { h with least_le := fun hpos => absurd hpos hlen }, rfl, rfl⟩
    rw [tls_uart_tx_cb, run_get_bind, if_neg hlen]
    rfl

/-- An interrupt leaves `WAKEUP_CHARS` bytes in the ring, as long as something is
left in the buffer of the caller. -/
theorem tls_uart_tx_chars_spec (user : Prog tls_uart_port Int) (fifos : Nat → UInt32)
    (h : port.Sending before data WAKEUP_CHARS) :
    ∃ port', (tls_uart_tx_chars user fifos).run port = .ok ((), port') ∧ port'.Sending before data WAKEUP_CHARS ∧
      (port.Room fifos → port.Wrote port' (min 64 port.ring.length)) := by
  rw [tls_uart_tx_chars, run_get_bind]
  by_cases hempty : port.xmit.uart_circ_empty = true
  · rw [if_pos hempty]
    refine ⟨_, rfl, { h with }, fun _ => ⟨rfl, ?_⟩⟩
    rw [h.empty_iff.mp hempty, List.length_nil, Nat.min_zero]
    rfl
  rw [if_neg hempty]
  obtain ⟨port₁, hsend, h₁, hwrote₁⟩ := sendChars_spec fifos 64 h
  by_cases hwake : port₁.xmit.uart_circ_chars_pending < WAKEUP_CHARS
  · obtain ⟨port₂, hcallback, h₂, hwrote₂⟩ := tls_uart_tx_cb_spec h₁
    refine ⟨port₂, ?_, h₂.mono (by decide), fun hroom => ⟨?_, ?_⟩⟩
    · simp only [run_bind, hsend, ok_bind, run_get, if_pos hwake, h₁.tx_callback, hcallback, run_pure]
    · exact hwrote₂.tx_fifofull.trans (hwrote₁ hroom).tx_fifofull
    · exact hwrote₂.length.trans (hwrote₁ hroom).length
  · refine ⟨port₁, ?_, { h₁ with least_le := fun _ => ?_ }, hwrote₁⟩
    · simp only [run_bind, hsend, ok_bind, run_get, if_neg hwake, run_pure]
    · rw [h₁.pending_eq] at hwake
      omega

/-- What has been written, what is in the ring and what is left add up. -/
theorem tls_uart_port.Sending.length_eq (h : port.Sending before data least) :
    port.UR_TXW.length + port.ring.length + port.buf_len = before.length + data.length := by
  obtain ⟨sent, htxw, hdata⟩ := h.split
  have hrest : port.rest.length = port.buf_len := by
    rw [tls_uart_port.rest, List.length_take]
    exact Nat.min_eq_left h.fits
  rw [htxw, ← hdata]
  simp only [List.length_append, hrest]
  omega

/-- Each interrupt that finds room in the FIFO writes 64 bytes, while there are so many. -/
theorem interrupts_spec (user : Prog tls_uart_port Int) (interrupts : List (Nat → UInt32))
    (h : port.Sending before data WAKEUP_CHARS) : ∃ port',
    (forM interrupts (tls_uart_tx_chars user)).run port = .ok ((), port') ∧ port'.Sending before data WAKEUP_CHARS ∧
      ((∀ fifos ∈ interrupts, port.Room fifos) →
        min (before.length + data.length) (port.UR_TXW.length + 64 * interrupts.length) ≤ port'.UR_TXW.length) := by
  induction interrupts generalizing port with
  | nil => exact ⟨port, rfl, h, fun _ => Nat.min_le_right ..⟩
  | cons fifos interrupts ih =>
    obtain ⟨port₁, hfirst, h₁, hwrote₁⟩ := tls_uart_tx_chars_spec user fifos h
    obtain ⟨port₂, hrest, h₂, hwrote₂⟩ := ih h₁
    refine ⟨port₂, ?_, h₂, fun hroom => ?_⟩
    · rw [List.forM_cons, run_bind, hfirst, ok_bind, hrest]
    · obtain ⟨hfifo, hlen₁⟩ := hwrote₁ (hroom fifos List.mem_cons_self)
      have hle := hwrote₂ fun fifos hmem k => by
        rw [hfifo]
        exact hroom fifos (List.mem_cons_of_mem _ hmem) k
      have hsum := h.length_eq
      have hwake : WAKEUP_CHARS = 256 := rfl
      have hleast := h.least_le
      rw [List.length_cons]
      -- Less than 64 bytes in the ring are the last ones.
      omega

/-- `tls_uart_tx` splits the buffer it is given. -/
theorem tls_uart_tx_spec (hidle : port.Idle) (fifos : Nat → UInt32) {buf : List UInt8} {len : UInt16} (hlen : 1 ≤ len.toNat)
    (hbuf : len.toNat ≤ buf.length) : ∃ port', (tls_uart_tx fifos (some buf) len).run port = .ok (WM_SUCCESS, port') ∧
      port'.Sending port.UR_TXW (buf.take len.toNat) WAKEUP_CHARS ∧
      (port.Room fifos → port'.tx_fifofull = port.tx_fifofull) := by
  have hring : port.ring = [] := hidle.empty_iff.mp hidle.empty
  have hpositive : ¬ len < 1 := by
    rw [UInt16.lt_iff_toNat_lt]
    exact Nat.not_lt.mpr hlen
  let port₁ : tls_uart_port :=
    { port with icount_tx := 0, tx_callback := some .tls_uart_tx_cb, buf_ptr := buf, buf_len := len.toNat }
  have h₁ : port₁.Sending port.UR_TXW (buf.take len.toNat) 0 :=
    { buf := hidle.buf, head := hidle.head, tail := hidle.tail, fits := hbuf, tx_callback := rfl,
      split := ⟨[], (List.append_nil _).symm, by rw [show port₁.ring = [] from hring]; rfl⟩,
      least_le := fun _ => Nat.zero_le _ }
  obtain ⟨mem, head, hwrite, hhead, hfilled⟩ := tls_uart_write_spec h₁.toOpen h₁.fits
  obtain ⟨port', hstart, h', hwrote⟩ := sendChars_spec fifos 32 (h₁.filled hhead hfilled)
  have hret : (0 : Int) ≤ port₁.moved ∧ (port₁.moved : Int) ≤ port₁.buf_len := by
    have hmoved : port₁.moved = min port₁.buf_len (TLS_UART_TX_BUF_SIZE - 1 - port₁.ring.length) := rfl
    omega
  refine ⟨port', ?_, h'.mono (by decide), fun hroom => (hwrote hroom).tx_fifofull⟩
  have hwrite' : (tls_uart_write buf len.toNat).run port₁ = _ := hwrite
  rw [tls_uart_tx, if_neg hpositive]
  simp only [tls_uart_tx_register, run_bind, run_modify, ok_bind]
  rw [hwrite', ok_bind, run_get, ok_bind, if_pos hret]
  simp only [run_bind, run_modify, ok_bind, run_pure]
  have hstart' : (tls_uart_tx_chars_start fifos).run (port₁.filled mem head) = .ok ((), port') := hstart
  exact congrArg (fun x : Except Fault (Unit × tls_uart_port) => x >>= fun r => .ok (WM_SUCCESS, r.2)) hstart'

end

section

variable {port : tls_uart_port}

theorem tls_uart_port.Idle.streams (h : port.Idle) : port.Streams port.UR_TXW [] where
  split := ⟨[], (List.append_nil _).symm, by rw [h.empty_iff.mp h.empty, tls_uart_port.rest, h.buf_len]; rfl⟩
  ring_length := by simp [h.empty_iff.mp h.empty]
  rest_waits hlen := by
    rw [h.buf_len] at hlen
    cases hlen

theorem sendChars_idle (h : port.Idle) (fifos : Nat → UInt32) (tx_count : Nat) :
    (sendChars fifos tx_count).run port = .ok ((), port) := by
  cases tx_count with
  | zero => rfl
  | succ tx_count =>
    simp only [sendChars]
    rw [run_get_bind, if_pos h.empty, run_pure]

/-- Where there is nothing to send, the interrupts send nothing. -/
theorem interrupts_idle (user : Prog tls_uart_port Int) (interrupts : List (Nat → UInt32)) (h : port.Idle) : ∃ port',
    (forM interrupts (tls_uart_tx_chars user)).run port = .ok ((), port') ∧ port'.Idle ∧ port'.UR_TXW = port.UR_TXW := by
  induction interrupts generalizing port with
  | nil => exact ⟨port, rfl, h, rfl⟩
  | cons fifos interrupts ih =>
    have hidle : ({ port with tx_sem := port.tx_sem.map (· + 1) } : tls_uart_port).Idle := { h with }
    obtain ⟨port', hrest, h', htxw⟩ := ih hidle
    refine ⟨port', ?_, h', htxw⟩
    have hfirst : (tls_uart_tx_chars user fifos).run port = .ok ((), { port with tx_sem := port.tx_sem.map (· + 1) }) := by
      rw [tls_uart_tx_chars, run_get_bind, if_pos h.empty]
      rfl
    rw [List.forM_cons, run_bind, hfirst, ok_bind, hrest]

end

/-- After `tls_uart_tx` and any interrupts, and after any passes of the loop of the
next one, what has been written to `UR_TXW`, what is in the ring and what is left
of the buffer are the buffer. -/
theorem tls_uart_tx_streams {port : tls_uart_port} (hidle : port.Idle) {buf : List UInt8} {len : UInt16}
    (hbuf : len.toNat ≤ buf.length) (user : Prog tls_uart_port Int) (fifos : Nat → UInt32)
    (interrupts : List (Nat → UInt32)) : ∃ port',
    (do let _ ← tls_uart_tx fifos (some buf) len; forM interrupts (tls_uart_tx_chars user)).run port = .ok ((), port') ∧
      port'.Streams port.UR_TXW (buf.take len.toNat) ∧
      ∀ fifos' tx_count, tx_count ≤ 64 → ∃ port'', (sendChars fifos' tx_count).run port' = .ok ((), port'') ∧
        port''.Streams port.UR_TXW (buf.take len.toNat) := by
  by_cases hlen : 1 ≤ len.toNat
  · obtain ⟨port₁, htx, h₁, -⟩ := tls_uart_tx_spec hidle fifos hlen hbuf
    obtain ⟨port', hrest, h', -⟩ := interrupts_spec user interrupts h₁
    refine ⟨port', ?_, h'.streams (by decide), fun fifos' tx_count hcount => ?_⟩
    · rw [run_bind, htx, ok_bind, hrest]
    · obtain ⟨port'', hsend, h'', -⟩ := sendChars_spec fifos' tx_count h'
      refine ⟨port'', hsend, h''.streams ?_⟩
      simp only [WAKEUP_CHARS]
      omega
  · -- Nothing is to be sent, and `tls_uart_tx` refuses.
    have hzero : len.toNat = 0 := by omega
    have htx : (tls_uart_tx fifos (some buf) len).run port = .ok (WM_FAILED, port) := by
      rw [tls_uart_tx, if_pos (by rw [UInt16.lt_iff_toNat_lt, hzero]; decide), run_pure]
    obtain ⟨port', hrest, h', htxw⟩ := interrupts_idle user interrupts hidle
    have hstreams := h'.streams
    rw [htxw] at hstreams
    rw [hzero, List.take_zero]
    refine ⟨port', ?_, hstreams, fun fifos' tx_count _ => ⟨port', sendChars_idle h' fifos' tx_count, hstreams⟩⟩
    rw [run_bind, htx, ok_bind, hrest]

/-- Interrupts that find room in the FIFO send the whole buffer, if there are enough of them. -/
theorem tls_uart_tx_sends_all {port : tls_uart_port} (hidle : port.Idle) {buf : List UInt8} {len : UInt16}
    (hlen : 1 ≤ len.toNat) (hbuf : len.toNat ≤ buf.length) (user : Prog tls_uart_port Int) {fifos : Nat → UInt32}
    {interrupts : List (Nat → UInt32)} (hfirst : port.Room fifos) (hroom : ∀ fifos ∈ interrupts, port.Room fifos)
    (henough : len.toNat ≤ 64 * interrupts.length) : ∃ port',
    (do let _ ← tls_uart_tx fifos (some buf) len; forM interrupts (tls_uart_tx_chars user)).run port = .ok ((), port') ∧
      port'.UR_TXW = port.UR_TXW ++ buf.take len.toNat := by
  obtain ⟨port₁, htx, h₁, hfifo⟩ := tls_uart_tx_spec hidle fifos hlen hbuf
  obtain ⟨port', hrest, h', hwrote⟩ := interrupts_spec user interrupts h₁
  refine ⟨port', by rw [run_bind, htx, ok_bind, hrest], ?_⟩
  have hle := hwrote fun fifos hmem k => by
    rw [hfifo hfirst]
    exact hroom fifos hmem k
  have hsize : (buf.take len.toNat).length = len.toNat := by
    rw [List.length_take]
    exact Nat.min_eq_left hbuf
  obtain ⟨sent₁, htxw₁, -⟩ := h₁.split
  obtain ⟨sent, htxw, hdata⟩ := h'.split
  have hbefore : port.UR_TXW.length ≤ port₁.UR_TXW.length := by
    rw [htxw₁, List.length_append]
    exact Nat.le_add_right ..
  have hsum := congrArg List.length hdata
  rw [htxw] at hle ⊢
  simp only [List.length_append] at hle hsum
  have hring : port'.ring = [] := List.length_eq_zero_iff.mp (by omega)
  have hrest' : port'.rest = [] := List.length_eq_zero_iff.mp (by omega)
  rw [← hdata, hring, hrest', List.append_nil, List.append_nil]

/-- A port that has been opened. -/
def openPort : tls_uart_port where
  tx_fifofull := 16
  UR_TXW := []
  icount_tx := 0
  xmit := ⟨some (Mem.fill TLS_UART_TX_BUF_SIZE 0), 0, 0⟩
  tx_sem := none
  buf_ptr := []
  buf_len := 0
  tx_callback := none

theorem openPort_idle : openPort.Idle := ⟨⟨rfl, by decide, by decide⟩, rfl, rfl⟩

/-- A buffer that the ring cannot take at once. -/
def beyondRing : List UInt8 := (List.range 6000).map UInt8.ofNat

/-- The ring is filled again in the interrupts, until the whole buffer is sent. -/
theorem tls_uart_tx_streams_refilled : ∃ port',
    (do let _ ← tls_uart_tx (fun _ => 0) (some beyondRing) 6000
        forM (List.replicate 100 fun _ => 0) (tls_uart_tx_chars (return 0))).run openPort = .ok ((), port') ∧
      port'.Streams [] beyondRing ∧ port'.UR_TXW = beyondRing := by
  have hlen : beyondRing.length = 6000 := by rw [beyondRing, List.length_map, List.length_range]
  have htake : beyondRing.take (6000 : UInt16).toNat = beyondRing := List.take_of_length_le (Nat.le_of_eq hlen)
  have hbuf : (6000 : UInt16).toNat ≤ beyondRing.length := Nat.le_of_eq hlen.symm
  have hroom : openPort.Room fun _ => 0 := by
    have hmask : 0 &&& UFS_TX_FIFO_CNT_MASK ≠ 16 := by decide
    exact fun _ => hmask
  obtain ⟨port', hrun, hstreams, -⟩ := @tls_uart_tx_streams openPort openPort_idle beyondRing 6000 hbuf (return 0) (fun _ => 0)
    (List.replicate 100 fun _ => 0)
  obtain ⟨port'', hrun', hall⟩ := @tls_uart_tx_sends_all openPort openPort_idle beyondRing 6000 (by decide) hbuf (return 0) _
    (List.replicate 100 fun _ => 0) hroom (fun fifos hmem => List.eq_of_mem_replicate hmem ▸ hroom)
    (by rw [List.length_replicate]; decide)
  rw [hrun] at hrun'
  obtain ⟨-, rfl⟩ := Prod.mk.inj (Except.ok.inj hrun')
  have hfresh : openPort.UR_TXW = [] := rfl
  rw [htake, hfresh] at hstreams hall
  exact ⟨port', hrun, hstreams, hall.trans (List.nil_append _)⟩

end ZCloud
