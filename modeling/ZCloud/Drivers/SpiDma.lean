import ZCloud.Lib.Program

open Memory Program

namespace ZCloud

def SPI_DMA_CMD_ADDR : Nat := 0x60000
def SPI_DMA_BUF_ADDR : Nat := 0x60020
def SPI_DMA_CMD_MAX_SIZE : Nat := SPI_DMA_BUF_ADDR - SPI_DMA_CMD_ADDR
def SPI_DMA_BUF_MAX_SIZE : Nat := 0x61800 - SPI_DMA_BUF_ADDR
def SPI_DMA_MAX_TRANS_SIZE : Nat := 4092

inductive TLS_SPI_STATUS where
  | TLS_SPI_STATUS_OK
  | TLS_SPI_STATUS_EINVAL
  | TLS_SPI_STATUS_EBUSY
deriving DecidableEq

export TLS_SPI_STATUS (TLS_SPI_STATUS_OK TLS_SPI_STATUS_EINVAL TLS_SPI_STATUS_EBUSY)

/-- The controller, and the memory that it is used with. `mosi` is all that has been
shifted out, and `timeouts` counts the waits that have been given up. -/
structure SpiMaster where
  txFifo : List UInt8
  rxFifo : List UInt8
  mosi : List UInt8
  cmd : Mem SPI_DMA_CMD_MAX_SIZE
  buf : Mem SPI_DMA_BUF_MAX_SIZE
  timeouts : Nat

/-- What the controller works with. `miso k` is the byte that is shifted in with byte
number `k`, `idleInTime` and `dmaInTime` tell which waits end in time, `stall` is what
has become of the controller when one does not, and `undriven` is shifted out, and read,
where there is nothing. -/
structure SpiHw where
  miso : Nat → UInt8
  idleInTime : Nat → Bool
  dmaInTime : Nat → Bool
  stall : SpiMaster → SpiMaster
  undriven : UInt8

namespace SpiMaster

/-- `n` bytes have been clocked, of which the first `skip` are not received. -/
def shift (hw : SpiHw) (n skip : Nat) (tx : Bool) (s : SpiMaster) : SpiMaster :=
  { s with
    txFifo := if tx then s.txFifo.drop n else s.txFifo
    mosi := s.mosi ++ ((if tx then s.txFifo else []) ++ List.replicate n hw.undriven).take n
    rxFifo := s.rxFifo ++ ((List.range n).map fun k => hw.miso (s.mosi.length + k)).drop skip }

/-- A wait has been given up. -/
def giveUp (hw : SpiHw) (s : SpiMaster) : SpiMaster := { hw.stall s with timeouts := s.timeouts + 1 }

end SpiMaster

/-- A word of a FIFO is its four bytes, the lowest one first. -/
def word (bytes : List UInt8) (fill : UInt8) : List UInt8 := (bytes ++ List.replicate 4 fill).take 4

section

variable (hw : SpiHw)

/-- The wait with number `k`. -/
def spiWaitIdle (k : Nat) : Prog SpiMaster TLS_SPI_STATUS := do
  if hw.idleInTime k then
    return TLS_SPI_STATUS_OK
  modify (SpiMaster.giveUp hw)
  return TLS_SPI_STATUS_EBUSY

/-- The loop that writes the command to the transmit FIFO. `word32` is the word so far. -/
def putCommand : (txdata : List UInt8) → (i : Nat) → (word32 : List UInt8) → Prog SpiMaster Unit
  | [], _, word32 => modify fun s => { s with txFifo := s.txFifo ++ word word32 0 }
  | byte :: txdata, i, word32 => do
    if i > 0 ∧ i % 4 = 0 then
      modify fun s => { s with txFifo := s.txFifo ++ word word32 0 }
      putCommand txdata (i + 1) [byte]
    else
      putCommand txdata (i + 1) (word32 ++ [byte])

/-- The field of the channel register for the clocks has 16 bits. -/
def validClks (n : Nat) : Nat := n % 65536

/-- The field for the bits that are not received has 8 bits: of the 256 bits of a
command of 32 bytes nothing is left. -/
def rxInvalidBits (n : Nat) : Nat := n % 256

/-- The transfer that block `i` starts, with `clks` clocks: the controller, and the DMA
channel if it has been started for `n` bytes to the offset `off`. -/
def transfer (i clks invalid : Nat) (tx : Bool) (dma : Option (Nat × Nat)) : Prog SpiMaster TLS_SPI_STATUS := do
  if (← spiWaitIdle hw (i + 1)) ≠ TLS_SPI_STATUS_OK then
    return TLS_SPI_STATUS_EBUSY
  modify (SpiMaster.shift hw (validClks clks / 8) (rxInvalidBits invalid / 8) tx)
  match dma with
  | none => return TLS_SPI_STATUS_OK
  | some (off, n) =>
    let s ← get
    if hw.dmaInTime i ∧ n ≤ s.rxFifo.length then
      let buf ← s.buf.store off (s.rxFifo.take n)
      set { s with buf := buf, rxFifo := s.rxFifo.drop n }
      return TLS_SPI_STATUS_OK
    modify (SpiMaster.giveUp hw)
    return TLS_SPI_STATUS_EBUSY

/-- The loop over the blocks. `left` blocks are still to come, `i` is the number of the
next one. -/
def readBlocks (len txlen rxlenbk blocknum : Nat) : (left i rxlen : Nat) → Prog SpiMaster TLS_SPI_STATUS
  | 0, _, _ => return TLS_SPI_STATUS_OK
  | left + 1, i, rxlen => do
    let blocksize := if rxlenbk > 0 then (if rxlen > SPI_DMA_MAX_TRANS_SIZE then SPI_DMA_MAX_TRANS_SIZE else rxlen) else 0
    if rxlenbk > 0 ∧ blocksize = 0 then
      return TLS_SPI_STATUS_OK
    let dma := if rxlenbk > 0 then some (i * SPI_DMA_MAX_TRANS_SIZE, blocksize) else none
    let ret ←
      if blocknum = 0 then transfer hw i ((len + txlen) * 8) (txlen * 8) true dma
      else if i = 0 then transfer hw i ((blocksize + txlen) * 8) (txlen * 8) true dma
      else if i = blocknum then transfer hw i ((blocksize + len - rxlenbk) * 8) 0 false dma
      else transfer hw i (blocksize * 8) 0 false dma
    if ret ≠ TLS_SPI_STATUS_OK then
      return TLS_SPI_STATUS_EBUSY
    readBlocks len txlen rxlenbk blocknum left (i + 1) (rxlen - blocksize)

/-- Reads `len` bytes behind the command `txdata` to the buffer for the DMA. -/
def SpiDmaBlockRead (len : Nat) (txdata : List UInt8) : Prog SpiMaster TLS_SPI_STATUS := do
  if (← spiWaitIdle hw 0) ≠ TLS_SPI_STATUS_OK then
    return TLS_SPI_STATUS_EBUSY
  modify fun s => { s with txFifo := [], rxFifo := [] }
  let rxlenbk := if len % 4 ≠ 0 then len &&& 0xfffffffc else len
  let blocknum := rxlenbk / SPI_DMA_MAX_TRANS_SIZE % 256
  if txdata.length > 0 ∧ txdata.length ≤ 32 then
    putCommand txdata 0 []
  let ret ← readBlocks hw len txdata.length rxlenbk blocknum (blocknum + 1) 0 rxlenbk
  if len > rxlenbk then
    let s ← get
    let buf ← s.buf.store (rxlenbk / 4 * 4) (word s.rxFifo hw.undriven)
    set { s with buf := buf, rxFifo := s.rxFifo.drop 4 }
  return ret

/-- Sends `txbuf`, and returns the `n_rx` bytes that are read then, by DMA. -/
def tls_spi_write_then_read (txbuf : List UInt8) (n_rx : Nat) : Prog SpiMaster (TLS_SPI_STATUS × Option (List UInt8)) := do
  let n_tx := txbuf.length
  if n_tx = 0 ∨ n_rx = 0 ∨ n_rx > SPI_DMA_BUF_MAX_SIZE ∨ n_tx > SPI_DMA_CMD_MAX_SIZE then
    return (TLS_SPI_STATUS_EINVAL, none)
  let cmd ← (← get).cmd.memcpy 0 txbuf n_tx
  modify fun s => { s with cmd := cmd }
  -- what the read returns is not looked at
  let _ ← SpiDmaBlockRead hw n_rx (cmd.bytes.take n_tx)
  let rxbuf ← load (← get).buf.bytes 0 n_rx
  return (TLS_SPI_STATUS_OK, some rxbuf)

end

/-- The `n` bytes that the slave returns from byte number `k` on. -/
def wire (hw : SpiHw) (k n : Nat) : List UInt8 := (List.range n).map fun j => hw.miso (k + j)

/-- How many of the bytes that are clocked with a command are not received. -/
def dropped (txlen : Nat) : Nat := rxInvalidBits (txlen * 8) / 8

section

variable {hw : SpiHw} {s : SpiMaster} {k m n i skip txlen : Nat}

theorem validClks_of_lt (h : n < 8192) : validClks (n * 8) = n * 8 :=
  Nat.mod_eq_of_lt (by omega)

theorem rxInvalidBits_eq (txlen : Nat) : rxInvalidBits (txlen * 8) = dropped txlen * 8 := by
  rw [dropped, rxInvalidBits]
  omega

theorem dropped_le (txlen : Nat) : dropped txlen ≤ txlen := by
  rw [dropped, rxInvalidBits]
  omega

/-- What is clocked with a command is not received, unless it has 32 bytes. -/
theorem dropped_of_le (h : txlen ≤ 32) : txlen = 32 ∧ dropped txlen = 0 ∨ txlen ≠ 32 ∧ dropped txlen = txlen := by
  rw [dropped, rxInvalidBits]
  omega

@[simp]
theorem length_wire : (wire hw k n).length = n := by simp [wire]

theorem wire_add : wire hw k (m + n) = wire hw k m ++ wire hw (k + m) n := by
  simp [wire, List.range_add, Nat.add_assoc, Function.comp_def]

theorem drop_wire : (wire hw k (m + n)).drop m = wire hw (k + m) n := by
  rw [wire_add, List.drop_left' length_wire]

theorem take_wire : (wire hw k (m + n)).take m = wire hw k m := by
  rw [wire_add, List.take_left' length_wire]

/-- The lengths that the read cuts the bytes of a word off. -/
theorem and_word_mask (hn : n < 4294967296) : n &&& 0xfffffffc = n / 4 * 4 := by
  have hmask : (0xfffffffc : Nat) = (2 ^ 30 - 1) <<< 2 := rfl
  refine Nat.eq_of_testBit_eq fun j => ?_
  rw [hmask, show n / 4 * 4 = (n >>> 2) <<< 2 by rw [Nat.shiftLeft_eq, Nat.shiftRight_eq_div_pow]]
  simp only [Nat.testBit_and, Nat.testBit_shiftLeft, Nat.testBit_shiftRight, Nat.testBit_two_pow_sub_one]
  by_cases hj : 2 ≤ j
  · rw [Nat.add_sub_cancel' hj]
    by_cases hlarge : j < 32
    · simp [hj, show j - 2 < 30 by omega]
    · have : n < 2 ^ j := Nat.lt_of_lt_of_le hn (Nat.pow_le_pow_right (Nat.succ_pos 1) (Nat.not_lt.mp hlarge))
      simp [Nat.testBit_lt_two_pow this]
  · simp [hj]

/-- The read length without the bytes of the last word that it does not fill. -/
theorem words_eq (hn : n < 4294967296) : (if n % 4 ≠ 0 then n &&& 0xfffffffc else n) = n / 4 * 4 := by
  rw [and_word_mask hn]
  split <;> omega

theorem run_spiWaitIdle (hw : SpiHw) (k : Nat) (s : SpiMaster) : (spiWaitIdle hw k).run s =
    .ok (if hw.idleInTime k then (TLS_SPI_STATUS_OK, s) else (TLS_SPI_STATUS_EBUSY, s.giveUp hw)) := by
  rw [spiWaitIdle]
  split <;> rfl

/-- The command is all that changes when it is written. -/
theorem run_putCommand (txdata : List UInt8) (i : Nat) (word32 : List UInt8) (s : SpiMaster) :
    ∃ txFifo, (putCommand txdata i word32).run s = .ok ((), { s with txFifo := txFifo }) := by
  induction txdata generalizing i word32 s with
  | nil => exact ⟨_, rfl⟩
  | cons byte txdata ih =>
    rw [putCommand]
    split
    · obtain ⟨txFifo, hrun⟩ := ih (i + 1) [byte] { s with txFifo := s.txFifo ++ word word32 0 }
      exact ⟨txFifo, hrun⟩
    · exact ih (i + 1) (word32 ++ [byte]) s

/-- The read has come to `s`: `n` bytes behind byte number `k` are in the buffer, and
those clocked since are `rx`. -/
structure SpiMaster.Holds (s : SpiMaster) (hw : SpiHw) (k n : Nat) (rx : List UInt8) : Prop where
  taken : s.buf.bytes.take n = wire hw k n
  clocked : s.mosi.length = k + n + rx.length
  rxFifo : s.rxFifo = rx

theorem length_mosi_shift (hw : SpiHw) (n skip : Nat) (tx : Bool) (s : SpiMaster) :
    (s.shift hw n skip tx).mosi.length = s.mosi.length + n := by
  simp only [SpiMaster.shift, List.length_append, List.length_take, List.length_replicate]
  omega

/-- A block of `n` bytes by DMA, and of `more` bytes that stay in the FIFO behind the
`m` that are there already. -/
theorem run_transfer_dma {tx : Bool} {done more clks invalid : Nat} (hclks : validClks clks = (skip + (n + more)) * 8)
    (hinvalid : rxInvalidBits invalid = skip * 8) (hfits : done + n ≤ SPI_DMA_BUF_MAX_SIZE)
    (hs : s.Holds hw k done (wire hw (k + done) m)) (hskip : skip = 0 ∨ done = 0 ∧ m = 0)
    (hidle : hw.idleInTime (i + 1) = true) (hdma : hw.dmaInTime i = true) :
    ∃ s', (transfer hw i clks invalid tx (some (done, n))).run s = .ok (TLS_SPI_STATUS_OK, s') ∧
      s'.Holds hw (k + skip) (done + n) (wire hw (k + skip + (done + n)) (m + more)) ∧ s'.timeouts = s.timeouts := by
  have hclocked : s.mosi.length = k + done + m := by simpa using hs.clocked
  have hrx : (s.shift hw (skip + (n + more)) skip tx).rxFifo = wire hw (k + skip + done) (n + (m + more)) := by
    have hnew := @drop_wire hw s.mosi.length skip (n + more)
    rw [wire] at hnew
    have hjoined : wire hw (k + skip + done) (m + (n + more)) =
        wire hw (k + skip + done) m ++ wire hw (k + skip + done + m) (n + more) := wire_add
    simp only [SpiMaster.shift, hs.rxFifo, hnew]
    rw [Nat.add_left_comm, hjoined, hclocked]
    rcases hskip with rfl | ⟨rfl, rfl⟩
    · rfl
    · simp [wire]
  have htake : (s.shift hw (skip + (n + more)) skip tx).rxFifo.take n = wire hw (k + skip + done) n := by rw [hrx, take_wire]
  obtain ⟨buf, hstore, hbytes⟩ := @Mem.store_spec _ s.buf done (wire hw (k + skip + done) n) (by rw [length_wire]; exact hfits)
  refine ⟨{ s.shift hw (skip + (n + more)) skip tx with buf := buf, rxFifo := wire hw (k + skip + (done + n)) (m + more) }, ?_,
    ⟨?_, ?_, rfl⟩, rfl⟩
  · have hlen : n ≤ (s.shift hw (skip + (n + more)) skip tx).rxFifo.length := by
      rw [hrx, length_wire]
      omega
    have hdrop : (s.shift hw (skip + (n + more)) skip tx).rxFifo.drop n = wire hw (k + skip + (done + n)) (m + more) := by
      rw [hrx, drop_wire, Nat.add_assoc (k + skip)]
    have hbuf : (s.shift hw (skip + (n + more)) skip tx).buf = s.buf := rfl
    simp only [transfer, run_bind, run_spiWaitIdle, hidle, if_true, ok_bind, ne_eq, not_true_eq_false, if_false, run_modify,
      run_get, hclks, hinvalid, Nat.mul_div_cancel _ (Nat.succ_pos 7), hdma, hlen, and_self, htake, hbuf, hstore,
      run_lift_ok, run_set, run_pure, hdrop]
  · have htaken : s.buf.bytes.take done = wire hw (k + skip) done := by
      rcases hskip with rfl | ⟨rfl, rfl⟩
      · exact hs.taken
      · simp [wire]
    have hpatch := @take_patch_append s.buf.bytes (wire hw (k + skip) done) (wire hw (k + skip + done) n)
      (by rw [length_wire]; exact htaken)
    rw [length_wire, length_wire, ← hbytes, ← wire_add] at hpatch
    exact hpatch
  · have := length_mosi_shift hw (skip + (n + more)) skip tx s
    simp only [length_wire]
    omega

/-- A block whose bytes all stay in the FIFO. -/
theorem run_transfer_fifo {clks invalid : Nat} (hclks : validClks clks = (n + skip) * 8) (hinvalid : rxInvalidBits invalid = skip * 8)
    (hs : s.Holds hw k 0 []) (hidle : hw.idleInTime (i + 1) = true) :
    ∃ s', (transfer hw i clks invalid true none).run s = .ok (TLS_SPI_STATUS_OK, s') ∧
      s'.Holds hw (k + skip) 0 (wire hw (k + skip) n) ∧ s'.timeouts = s.timeouts := by
  have hclocked : s.mosi.length = k := by simpa using hs.clocked
  refine ⟨s.shift hw (n + skip) skip true, ?_, ⟨by simp [wire], ?_, ?_⟩, rfl⟩
  · simp only [transfer, run_bind, run_spiWaitIdle, hidle, if_true, ok_bind, ne_eq, not_true_eq_false, if_false, run_modify,
      hclks, hinvalid, Nat.mul_div_cancel _ (Nat.succ_pos 7), run_pure]
  · have := length_mosi_shift hw (n + skip) skip true s
    simp only [length_wire]
    omega
  · have := @drop_wire hw s.mosi.length skip n
    rw [wire, hclocked] at this
    simp only [SpiMaster.shift, hs.rxFifo, List.nil_append, hclocked, Nat.add_comm n skip, this]

/-- A wait of a block that is given up is all that is counted of it. -/
theorem run_transfer_late {tx : Bool} {clks invalid : Nat} {dma : Option (Nat × Nat)}
    (hlate : hw.idleInTime (i + 1) = false ∨ dma.isSome ∧ hw.dmaInTime i = false) :
    ∃ s', (transfer hw i clks invalid tx dma).run s = .ok (TLS_SPI_STATUS_EBUSY, s') ∧ s'.timeouts = s.timeouts + 1 := by
  by_cases hidle : hw.idleInTime (i + 1) = true
  · obtain ⟨hsome, hdma⟩ := hlate.resolve_left (by simp [hidle])
    obtain ⟨⟨off, n⟩, rfl⟩ := Option.isSome_iff_exists.mp hsome
    refine ⟨(s.shift hw (validClks clks / 8) (rxInvalidBits invalid / 8) tx).giveUp hw, ?_, rfl⟩
    simp only [transfer, run_bind, run_spiWaitIdle, hidle, if_true, ok_bind, ne_eq, not_true_eq_false, if_false, run_modify,
      run_get, hdma, Bool.false_eq_true, false_and, run_pure]
  · refine ⟨s.giveUp hw, ?_, rfl⟩
    simp only [transfer, run_bind, run_spiWaitIdle, hidle, if_false, ok_bind, ne_eq, reduceCtorEq, not_false_eq_true, if_true,
      run_pure, Bool.false_eq_true]

theorem late_of_not {dma : Nat × Nat} (h : ¬ (hw.idleInTime (i + 1) = true ∧ hw.dmaInTime i = true)) :
    hw.idleInTime (i + 1) = false ∨ (some dma).isSome ∧ hw.dmaInTime i = false := by
  cases hidle : hw.idleInTime (i + 1) with
  | false => exact .inl rfl
  | true => exact .inr ⟨rfl, by simpa [hidle] using h⟩

/-- All the waits of a read of `len` bytes end in time. From 4096 bytes on there is a
second block. -/
structure InTime (hw : SpiHw) (len : Nat) : Prop where
  ready : hw.idleInTime 0 = true
  first : hw.idleInTime 1 = true ∧ (4 ≤ len → hw.dmaInTime 0 = true)
  second : 4096 ≤ len → hw.idleInTime 2 = true ∧ hw.dmaInTime 1 = true

/-- Behind a first block of 4092 bytes that is all of the words, one to three bytes are
left out. -/
def LeftOut (len : Nat) : Prop := SPI_DMA_MAX_TRANS_SIZE < len ∧ len < SPI_DMA_MAX_TRANS_SIZE + 4

instance (len : Nat) : Decidable (LeftOut len) := inferInstanceAs (Decidable (_ ∧ _))

/-- How many bytes of the last word are clocked. -/
def lastBytes (len : Nat) : Nat := if LeftOut len then 0 else len % 4

/-- What the loop over the blocks leaves: the words from the first byte that has been
received, and in the FIFO what is left of the last word and, behind a command that has
been received, its length more. -/
def BlocksRead (hw : SpiHw) (len txlen : Nat) (s s' : SpiMaster) : Prop :=
  s'.Holds hw (s.mosi.length + dropped txlen) (len / 4 * 4)
      (wire hw (s.mosi.length + dropped txlen + len / 4 * 4) (txlen - dropped txlen + lastBytes len)) ∧
    s'.timeouts = s.timeouts

/-- What the loop does once its block has been transferred. -/
theorem run_after_transfer {x : Prog SpiMaster TLS_SPI_STATUS} {rest : Prog SpiMaster TLS_SPI_STATUS} {s s' : SpiMaster}
    (hrun : x.run s = .ok (TLS_SPI_STATUS_OK, s')) : (do
      if (← x) ≠ TLS_SPI_STATUS_OK then
        return TLS_SPI_STATUS_EBUSY
      rest : Prog SpiMaster TLS_SPI_STATUS).run s = rest.run s' := by
  rw [run_bind, hrun]
  rfl

theorem run_after_late {x : Prog SpiMaster TLS_SPI_STATUS} {rest : Prog SpiMaster TLS_SPI_STATUS} {s s' : SpiMaster}
    (hrun : x.run s = .ok (TLS_SPI_STATUS_EBUSY, s')) : (do
      if (← x) ≠ TLS_SPI_STATUS_OK then
        return TLS_SPI_STATUS_EBUSY
      rest : Prog SpiMaster TLS_SPI_STATUS).run s = .ok (TLS_SPI_STATUS_EBUSY, s') := by
  rw [run_bind, hrun]
  rfl

/-- A read of a single block. -/
theorem readBlocks_one {len txlen words : Nat} (hwords : words ≤ SPI_DMA_MAX_TRANS_SIZE) (hpos : 0 < words) :
    readBlocks hw len txlen words 0 1 0 words = do
      if (← transfer hw 0 ((len + txlen) * 8) (txlen * 8) true (some (0, words))) ≠ TLS_SPI_STATUS_OK then
        return TLS_SPI_STATUS_EBUSY
      return TLS_SPI_STATUS_OK := by
  have hsize : ¬ words > SPI_DMA_MAX_TRANS_SIZE := Nat.not_lt.mpr hwords
  simp [readBlocks, hpos, hsize, Nat.ne_of_gt hpos]

theorem readBlocks_none {len txlen : Nat} : readBlocks hw len txlen 0 0 1 0 0 = do
    if (← transfer hw 0 ((len + txlen) * 8) (txlen * 8) true none) ≠ TLS_SPI_STATUS_OK then
      return TLS_SPI_STATUS_EBUSY
    return TLS_SPI_STATUS_OK := by
  simp [readBlocks]

/-- A read of two blocks. The second one may be empty. -/
theorem readBlocks_two {len txlen words : Nat} (hlow : SPI_DMA_MAX_TRANS_SIZE ≤ words)
    (hhigh : words ≤ 2 * SPI_DMA_MAX_TRANS_SIZE) :
    readBlocks hw len txlen words 1 2 0 words = do
      if (← transfer hw 0 ((SPI_DMA_MAX_TRANS_SIZE + txlen) * 8) (txlen * 8) true (some (0, SPI_DMA_MAX_TRANS_SIZE))) ≠
          TLS_SPI_STATUS_OK then
        return TLS_SPI_STATUS_EBUSY
      if words = SPI_DMA_MAX_TRANS_SIZE then
        return TLS_SPI_STATUS_OK
      if (← transfer hw 1 ((words - SPI_DMA_MAX_TRANS_SIZE + len - words) * 8) 0 false
          (some (SPI_DMA_MAX_TRANS_SIZE, words - SPI_DMA_MAX_TRANS_SIZE))) ≠ TLS_SPI_STATUS_OK then
        return TLS_SPI_STATUS_EBUSY
      return TLS_SPI_STATUS_OK := by
  have hblock : SPI_DMA_MAX_TRANS_SIZE = 4092 := rfl
  have hpos : words > 0 := by omega
  have hfirst : (if words > SPI_DMA_MAX_TRANS_SIZE then SPI_DMA_MAX_TRANS_SIZE else words) = SPI_DMA_MAX_TRANS_SIZE := by
    split <;> omega
  have hsecond : (if words - SPI_DMA_MAX_TRANS_SIZE > SPI_DMA_MAX_TRANS_SIZE then SPI_DMA_MAX_TRANS_SIZE
      else words - SPI_DMA_MAX_TRANS_SIZE) = words - SPI_DMA_MAX_TRANS_SIZE := by
    split <;> omega
  have hzero : SPI_DMA_MAX_TRANS_SIZE ≠ 0 := by decide
  have hempty : words - SPI_DMA_MAX_TRANS_SIZE = 0 ↔ words = SPI_DMA_MAX_TRANS_SIZE := by omega
  simp [readBlocks, hpos, hfirst, hsecond, hzero, hempty]

/-- How a loop over the blocks ends: with all bytes, or with a wait that was given up. -/
def Ends (hw : SpiHw) (len txlen : Nat) (s : SpiMaster) (x : Prog SpiMaster TLS_SPI_STATUS) : Prop :=
  ∃ ret s', x.run s = .ok (ret, s') ∧ (InTime hw len → BlocksRead hw len txlen s s') ∧
    (¬ InTime hw len → s'.timeouts = s.timeouts + 1)

variable {len : Nat}

theorem Ends.done {x : Prog SpiMaster TLS_SPI_STATUS} {ret : TLS_SPI_STATUS} {s' : SpiMaster} (hrun : x.run s = .ok (ret, s'))
    (htime : InTime hw len) (hread : BlocksRead hw len txlen s s') : Ends hw len txlen s x :=
  ⟨ret, s', hrun, fun _ => hread, fun h => absurd htime h⟩

theorem Ends.late {x : Prog SpiMaster TLS_SPI_STATUS} {ret : TLS_SPI_STATUS} {s' : SpiMaster} (hrun : x.run s = .ok (ret, s'))
    (htime : ¬ InTime hw len) (hcount : s'.timeouts = s.timeouts + 1) : Ends hw len txlen s x :=
  ⟨ret, s', hrun, fun h => absurd h htime, fun _ => hcount⟩

theorem SpiMaster.holds_start (hw : SpiHw) (hs : s.rxFifo = []) :
    s.Holds hw s.mosi.length 0 (wire hw (s.mosi.length + 0) 0) :=
  ⟨by simp [wire], by simp, hs⟩

section

variable (htx : txlen ≤ 32)

include htx

theorem readBlocks_one_ends (hready : hw.idleInTime 0 = true) (hlow : 4 ≤ len) (hhigh : len < SPI_DMA_MAX_TRANS_SIZE)
    (hs : s.rxFifo = []) : Ends hw len txlen s (readBlocks hw len txlen (len / 4 * 4) 0 1 0 (len / 4 * 4)) := by
  have hblock : SPI_DMA_MAX_TRANS_SIZE = 4092 := rfl
  have hsize : SPI_DMA_BUF_MAX_SIZE = 6112 := rfl
  have hdropped := dropped_le txlen
  have hclks : validClks ((len + txlen) * 8) = (dropped txlen + (len / 4 * 4 + (txlen - dropped txlen + len % 4))) * 8 :=
    (validClks_of_lt (by omega)).trans (by omega)
  rw [readBlocks_one (by omega) (by omega)]
  by_cases hfirst : hw.idleInTime 1 = true ∧ hw.dmaInTime 0 = true
  · obtain ⟨s', hrun, hholds, htimeouts⟩ := @run_transfer_dma hw s s.mosi.length 0 (len / 4 * 4) 0 (dropped txlen) true 0 _
      ((len + txlen) * 8) (txlen * 8) hclks (rxInvalidBits_eq txlen) (by omega) (s.holds_start hw hs) (.inr ⟨rfl, rfl⟩)
      hfirst.1 hfirst.2
    have hlast : lastBytes len = len % 4 := if_neg fun h => absurd h.1 (by omega)
    refine .done (run_after_transfer hrun) ⟨hready, ⟨hfirst.1, fun _ => hfirst.2⟩, fun h => absurd h (by omega)⟩ ⟨?_, htimeouts⟩
    rw [Nat.zero_add, Nat.zero_add] at hholds
    rwa [hlast]
  · obtain ⟨s', hrun, hcount⟩ := @run_transfer_late hw s 0 true ((len + txlen) * 8) (txlen * 8) (some (0, len / 4 * 4))
      (late_of_not hfirst)
    exact .late (run_after_late hrun) (fun h => hfirst ⟨h.first.1, h.first.2 hlow⟩) hcount

theorem readBlocks_none_ends (hready : hw.idleInTime 0 = true) (hhigh : len < 4) (hs : s.rxFifo = []) :
    Ends hw len txlen s (readBlocks hw len txlen (len / 4 * 4) 0 1 0 (len / 4 * 4)) := by
  have hwords : len / 4 * 4 = 0 := by omega
  have hdropped := dropped_le txlen
  have hclks : validClks ((len + txlen) * 8) = (txlen - dropped txlen + len + dropped txlen) * 8 :=
    (validClks_of_lt (by omega)).trans (by omega)
  rw [hwords, readBlocks_none]
  by_cases hfirst : hw.idleInTime 1 = true
  · obtain ⟨s', hrun, hholds, htimeouts⟩ := @run_transfer_fifo hw s s.mosi.length (txlen - dropped txlen + len) 0
      (dropped txlen) ((len + txlen) * 8) (txlen * 8) hclks (rxInvalidBits_eq txlen) (s.holds_start hw hs) hfirst
    have hlast : lastBytes len = len := (if_neg fun h => absurd h.1 (by simp [SPI_DMA_MAX_TRANS_SIZE]; omega)).trans (by omega)
    refine .done (run_after_transfer hrun) ⟨hready, ⟨hfirst, fun h => absurd h (by omega)⟩, fun h => absurd h (by omega)⟩ ⟨?_, htimeouts⟩
    rwa [hwords, hlast, Nat.add_zero]
  · have hlate : hw.idleInTime 1 = false ∨ (none : Option (Nat × Nat)).isSome ∧ hw.dmaInTime 0 = false := by simpa using hfirst
    obtain ⟨s', hrun, hcount⟩ := @run_transfer_late hw s 0 true ((len + txlen) * 8) (txlen * 8) _ hlate
    exact .late (run_after_late hrun) (fun h => hfirst h.first.1) hcount

theorem readBlocks_two_ends (hready : hw.idleInTime 0 = true) (hlow : SPI_DMA_MAX_TRANS_SIZE ≤ len)
    (hhigh : len ≤ SPI_DMA_BUF_MAX_SIZE) (hs : s.rxFifo = []) :
    Ends hw len txlen s (readBlocks hw len txlen (len / 4 * 4) 1 2 0 (len / 4 * 4)) := by
  have hblock : SPI_DMA_MAX_TRANS_SIZE = 4092 := rfl
  have hsize : SPI_DMA_BUF_MAX_SIZE = 6112 := rfl
  have hdropped := dropped_le txlen
  have hclks : validClks ((SPI_DMA_MAX_TRANS_SIZE + txlen) * 8) =
      (dropped txlen + (SPI_DMA_MAX_TRANS_SIZE + (txlen - dropped txlen))) * 8 :=
    (validClks_of_lt (by omega)).trans (by omega)
  rw [readBlocks_two (by omega) (by omega)]
  by_cases hfirst : hw.idleInTime 1 = true ∧ hw.dmaInTime 0 = true
  · obtain ⟨s₁, hrun₁, hholds₁, htimeouts₁⟩ := @run_transfer_dma hw s s.mosi.length 0 SPI_DMA_MAX_TRANS_SIZE 0 (dropped txlen)
      true 0 _ ((SPI_DMA_MAX_TRANS_SIZE + txlen) * 8) (txlen * 8) hclks (rxInvalidBits_eq txlen) (by omega)
      (s.holds_start hw hs) (.inr ⟨rfl, rfl⟩) hfirst.1 hfirst.2
    rw [Nat.zero_add, Nat.zero_add] at hholds₁
    by_cases hempty : len / 4 * 4 = SPI_DMA_MAX_TRANS_SIZE
    · rw [if_pos hempty]
      have hlast : lastBytes len = 0 := by
        by_cases hleft : LeftOut len
        · exact if_pos hleft
        · refine (if_neg hleft).trans ?_
          rw [LeftOut] at hleft
          omega
      refine .done (run_after_transfer hrun₁) ⟨hready, ⟨hfirst.1, fun _ => hfirst.2⟩, fun h => absurd h (by omega)⟩ ⟨?_, htimeouts₁⟩
      rwa [hempty, hlast, Nat.add_zero]
    · rw [if_neg hempty]
      by_cases hsecond : hw.idleInTime 2 = true ∧ hw.dmaInTime 1 = true
      · have hclks₂ : validClks ((len / 4 * 4 - SPI_DMA_MAX_TRANS_SIZE + len - len / 4 * 4) * 8) =
            (0 + (len / 4 * 4 - SPI_DMA_MAX_TRANS_SIZE + len % 4)) * 8 :=
          (validClks_of_lt (by omega)).trans (by omega)
        obtain ⟨s₂, hrun₂, hholds₂, htimeouts₂⟩ := @run_transfer_dma hw s₁ (s.mosi.length + dropped txlen)
          (txlen - dropped txlen) (len / 4 * 4 - SPI_DMA_MAX_TRANS_SIZE) 1 0 false SPI_DMA_MAX_TRANS_SIZE (len % 4)
          ((len / 4 * 4 - SPI_DMA_MAX_TRANS_SIZE + len - len / 4 * 4) * 8) 0 hclks₂ rfl (by omega) hholds₁ (.inl rfl)
          hsecond.1 hsecond.2
        have hlast : lastBytes len = len % 4 := if_neg fun h => absurd h.2 (by omega)
        have hwords : SPI_DMA_MAX_TRANS_SIZE + (len / 4 * 4 - SPI_DMA_MAX_TRANS_SIZE) = len / 4 * 4 := by omega
        refine .done ((run_after_transfer hrun₁).trans (run_after_transfer hrun₂))
          ⟨hready, ⟨hfirst.1, fun _ => hfirst.2⟩, fun _ => hsecond⟩ ⟨?_, htimeouts₂.trans htimeouts₁⟩
        rwa [hwords, ← hlast] at hholds₂
      · obtain ⟨s₂, hrun₂, hcount⟩ := @run_transfer_late hw s₁ 1 false
          ((len / 4 * 4 - SPI_DMA_MAX_TRANS_SIZE + len - len / 4 * 4) * 8) 0
          (some (SPI_DMA_MAX_TRANS_SIZE, len / 4 * 4 - SPI_DMA_MAX_TRANS_SIZE)) (late_of_not hsecond)
        exact .late ((run_after_transfer hrun₁).trans (run_after_late hrun₂)) (fun h => hsecond (h.second (by omega)))
          (by rw [hcount, htimeouts₁])
  · obtain ⟨s', hrun, hcount⟩ := @run_transfer_late hw s 0 true ((SPI_DMA_MAX_TRANS_SIZE + txlen) * 8) (txlen * 8)
      (some (0, SPI_DMA_MAX_TRANS_SIZE)) (late_of_not hfirst)
    exact .late (run_after_late hrun) (fun h => hfirst ⟨h.first.1, h.first.2 (by omega)⟩) hcount

theorem readBlocks_ends (hready : hw.idleInTime 0 = true) (hhigh : len ≤ SPI_DMA_BUF_MAX_SIZE) (hs : s.rxFifo = []) :
    Ends hw len txlen s (readBlocks hw len txlen (len / 4 * 4) (len / 4 * 4 / SPI_DMA_MAX_TRANS_SIZE % 256)
      (len / 4 * 4 / SPI_DMA_MAX_TRANS_SIZE % 256 + 1) 0 (len / 4 * 4)) := by
  have hblock : SPI_DMA_MAX_TRANS_SIZE = 4092 := rfl
  have hsize : SPI_DMA_BUF_MAX_SIZE = 6112 := rfl
  by_cases hlow : SPI_DMA_MAX_TRANS_SIZE ≤ len
  · have hnum : len / 4 * 4 / SPI_DMA_MAX_TRANS_SIZE % 256 = 1 := by
      rw [hblock]
      omega
    rw [hnum]
    exact readBlocks_two_ends htx hready hlow hhigh hs
  · have hnum : len / 4 * 4 / SPI_DMA_MAX_TRANS_SIZE % 256 = 0 := by
      rw [hblock]
      omega
    rw [hnum]
    by_cases hword : 4 ≤ len
    · exact readBlocks_one_ends htx hready hword (Nat.not_le.mp hlow) hs
    · exact readBlocks_none_ends htx hready (Nat.not_le.mp hword) hs

end

/-- What is read behind the words puts the bytes that have been clocked of the last one
behind the others. -/
theorem run_last_word {words : Nat} {ret : TLS_SPI_STATUS} (hfits : words + 4 ≤ SPI_DMA_BUF_MAX_SIZE) (s : SpiMaster) : ∃ s', (do
      let s ← get
      let buf ← s.buf.store words (word s.rxFifo hw.undriven)
      set { s with buf := buf, rxFifo := s.rxFifo.drop 4 }
      return ret : Prog SpiMaster TLS_SPI_STATUS).run s = .ok (ret, s') ∧
      s'.mosi = s.mosi ∧ s'.timeouts = s.timeouts ∧
      ∀ k rx m, s.Holds hw k words rx → m ≤ 4 → m ≤ rx.length → s'.buf.bytes.take (words + m) = wire hw k words ++ rx.take m := by
  have hlen : (word s.rxFifo hw.undriven).length = 4 := by simp [word]
  obtain ⟨buf, hstore, hbytes⟩ := @Mem.store_spec _ s.buf words (word s.rxFifo hw.undriven) (by rw [hlen]; exact hfits)
  refine ⟨{ s with buf := buf, rxFifo := s.rxFifo.drop 4 }, ?_, rfl, rfl, fun k rx m hholds hm hrx => ?_⟩
  · simp only [run_bind, run_get, ok_bind, hstore, run_lift_ok, run_set, run_pure]
  · have hpatch := @take_patch_append s.buf.bytes (wire hw k words) (word s.rxFifo hw.undriven)
      (by rw [length_wire]; exact hholds.taken)
    rw [length_wire, hlen, ← hbytes] at hpatch
    have hword : (word s.rxFifo hw.undriven).take m = rx.take m := by
      rw [word, List.take_take, Nat.min_eq_left hm, hholds.rxFifo, List.take_append_of_le_length hrx]
    calc buf.bytes.take (words + m) = (buf.bytes.take (words + 4)).take (words + m) := by
          rw [List.take_take, Nat.min_eq_left (Nat.add_le_add_left hm words)]
      _ = (wire hw k words).take (words + m) ++ (word s.rxFifo hw.undriven).take m := by
          rw [hpatch, List.take_append, length_wire, Nat.add_sub_cancel_left]
      _ = wire hw k words ++ rx.take m := by
          rw [hword, List.take_of_length_le (by rw [length_wire]; exact Nat.le_add_right words m)]

/-- What the read does behind the blocks: all bytes are in the buffer. -/
theorem run_after_blocks {ret : TLS_SPI_STATUS} (hhigh : len ≤ SPI_DMA_BUF_MAX_SIZE) (s : SpiMaster) : ∃ s', (do
      if len > len / 4 * 4 then
        let s ← get
        let buf ← s.buf.store (len / 4 * 4) (word s.rxFifo hw.undriven)
        set { s with buf := buf, rxFifo := s.rxFifo.drop 4 }
      return ret : Prog SpiMaster TLS_SPI_STATUS).run s = .ok (ret, s') ∧
      s'.mosi = s.mosi ∧ s'.timeouts = s.timeouts ∧
      ∀ k m, s.Holds hw k (len / 4 * 4) (wire hw (k + len / 4 * 4) (len % 4 + m)) → s'.buf.bytes.take len = wire hw k len := by
  have hsize : SPI_DMA_BUF_MAX_SIZE = 6112 := rfl
  have hlen : len / 4 * 4 + len % 4 = len := by omega
  by_cases hlast : len > len / 4 * 4
  · rw [if_pos hlast]
    obtain ⟨s', hrun, hmosi, htimeouts, htaken⟩ := @run_last_word hw (len / 4 * 4) ret (by omega) s
    refine ⟨s', hrun, hmosi, htimeouts, fun k m hholds => ?_⟩
    have hrest : len % 4 ≤ (wire hw (k + len / 4 * 4) (len % 4 + m)).length :=
      Nat.le_trans (Nat.le_add_right _ m) (Nat.le_of_eq length_wire.symm)
    calc s'.buf.bytes.take len = s'.buf.bytes.take (len / 4 * 4 + len % 4) := by rw [hlen]
      _ = wire hw k (len / 4 * 4) ++ (wire hw (k + len / 4 * 4) (len % 4 + m)).take (len % 4) :=
          htaken k _ (len % 4) hholds (by omega) hrest
      _ = wire hw k (len / 4 * 4 + len % 4) := by rw [take_wire, wire_add]
      _ = wire hw k len := by rw [hlen]
  · rw [if_neg hlast]
    have hwords : len / 4 * 4 = len := by omega
    refine ⟨s, rfl, rfl, rfl, fun k _ hholds => ?_⟩
    have htaken := hholds.taken
    rwa [hwords] at htaken

/-- What the read for `txlen` command bytes leaves: all bytes, if all waits end in time
and none is left out, but from the first one on that has been received. -/
structure BytesRead (hw : SpiHw) (len txlen : Nat) (s s' : SpiMaster) : Prop where
  late : ¬ InTime hw len → s'.timeouts = s.timeouts + 1
  inTime : InTime hw len → s'.timeouts = s.timeouts
  clocked : InTime hw len → s'.mosi.length = s.mosi.length + txlen + len / 4 * 4 + lastBytes len
  taken : InTime hw len → ¬ LeftOut len → s'.buf.bytes.take len = wire hw (s.mosi.length + dropped txlen) len

theorem run_SpiDmaBlockRead (hhigh : len ≤ SPI_DMA_BUF_MAX_SIZE) {txdata : List UInt8} (htx : txdata.length ≤ 32)
    (s : SpiMaster) :
    ∃ ret s', (SpiDmaBlockRead hw len txdata).run s = .ok (ret, s') ∧ BytesRead hw len txdata.length s s' := by
  have hsize : SPI_DMA_BUF_MAX_SIZE = 6112 := rfl
  have hdropped := dropped_le txdata.length
  rw [SpiDmaBlockRead, run_bind, run_spiWaitIdle, words_eq (by omega)]
  by_cases hready : hw.idleInTime 0 = true
  · obtain ⟨s₁, hcommand, hclear⟩ : ∃ s₁ : SpiMaster, (∀ rest : Prog SpiMaster TLS_SPI_STATUS, (do
        if txdata.length > 0 ∧ txdata.length ≤ 32 then
          putCommand txdata 0 []
        rest : Prog SpiMaster TLS_SPI_STATUS).run { s with txFifo := [], rxFifo := [] } = rest.run s₁) ∧
        s₁.rxFifo = [] ∧ s₁.mosi = s.mosi ∧ s₁.timeouts = s.timeouts := by
      by_cases hlen : txdata.length > 0 ∧ txdata.length ≤ 32
      · obtain ⟨txFifo, hput⟩ := run_putCommand txdata 0 [] { s with txFifo := [], rxFifo := [] }
        refine ⟨{ s with txFifo := txFifo, rxFifo := [] }, fun rest => ?_, rfl, rfl, rfl⟩
        simp only [hlen, and_self, if_true, run_bind, hput, ok_bind]
      · exact ⟨{ s with txFifo := [], rxFifo := [] }, fun rest => by simp only [hlen, if_false], rfl, rfl, rfl⟩
    obtain ⟨hrx, hmosi, htimeouts⟩ := hclear
    obtain ⟨ret, s₂, hrun, hdone, hlate⟩ := @readBlocks_ends hw s₁ txdata.length len htx hready hhigh hrx
    simp only [hready, if_true, ok_bind, ne_eq, not_true_eq_false, if_false, run_bind, run_modify,
      Nat.mul_div_cancel _ (Nat.succ_pos 3)]
    obtain ⟨s₃, hlast, hmosi₃, htimeouts₃, htaken⟩ := @run_after_blocks hw len ret (by omega) s₂
    refine ⟨ret, s₃, (hcommand _).trans ?_, ⟨fun h => ?_, fun h => ?_, fun h => ?_, fun h hleft => ?_⟩⟩
    · rw [run_bind, hrun]
      exact hlast
    · rw [htimeouts₃, hlate h, htimeouts]
    · rw [htimeouts₃, (hdone h).2, htimeouts]
    · rw [hmosi₃, (hdone h).1.clocked, length_wire, hmosi]
      omega
    · have hwire : lastBytes len = len % 4 := if_neg hleft
      have hholds := (hdone h).1
      rw [hmosi, hwire, Nat.add_comm (txdata.length - _)] at hholds
      exact htaken _ _ hholds
  · refine ⟨TLS_SPI_STATUS_EBUSY, s.giveUp hw, by simp only [hready, ok_bind]; rfl, ⟨fun _ => rfl, fun h => ?_, fun h => ?_, fun h => ?_⟩⟩
    · exact absurd h.ready hready
    · exact absurd h.ready hready
    · exact absurd h.ready hready

/-- What a read should do that starts in `s`: to succeed only with all bytes clocked and
received, and never when a wait has been given up. -/
def ReadsAll (hw : SpiHw) (txbuf : List UInt8) (n_rx : Nat) (s : SpiMaster) : Prop :=
  ∃ status rxbuf s', (tls_spi_write_then_read hw txbuf n_rx).run s = .ok ((status, rxbuf), s') ∧
    (status = TLS_SPI_STATUS_OK → s'.mosi.length = s.mosi.length + txbuf.length + n_rx ∧
      rxbuf = some (wire hw (s.mosi.length + txbuf.length) n_rx)) ∧
    (s'.timeouts ≠ s.timeouts → status ≠ TLS_SPI_STATUS_OK)

theorem run_write_then_read {txbuf : List UInt8} (htx : 1 ≤ txbuf.length) (htxmax : txbuf.length ≤ SPI_DMA_CMD_MAX_SIZE)
    (hrx : 1 ≤ len) (hrxmax : len ≤ SPI_DMA_BUF_MAX_SIZE) :
    ∃ rxbuf s', (tls_spi_write_then_read hw txbuf len).run s = .ok ((TLS_SPI_STATUS_OK, some rxbuf), s') ∧
      BytesRead hw len txbuf.length s s' ∧ rxbuf = s'.buf.bytes.take len := by
  have hvalid : ¬ (txbuf.length = 0 ∨ len = 0 ∨ len > SPI_DMA_BUF_MAX_SIZE ∨ txbuf.length > SPI_DMA_CMD_MAX_SIZE) := by omega
  obtain ⟨cmd, hmemcpy, hcmd⟩ := @Mem.memcpy_spec _ s.cmd 0 txbuf.length txbuf (Nat.le_refl _) (by omega)
  have hlen : (cmd.bytes.take txbuf.length).length = txbuf.length := by
    rw [List.length_take, cmd.size, Nat.min_eq_left htxmax]
  obtain ⟨ret, s', hrun, hread⟩ := @run_SpiDmaBlockRead hw len hrxmax (cmd.bytes.take txbuf.length)
    (Nat.le_trans (Nat.le_of_eq hlen) htxmax) { s with cmd := cmd }
  rw [hlen] at hread
  refine ⟨s'.buf.bytes.take len, s', ?_, ⟨hread.late, hread.inTime, hread.clocked, hread.taken⟩, rfl⟩
  have hload : load s'.buf.bytes 0 len = .ok (s'.buf.bytes.take len) := by
    apply load_of_le
    rw [s'.buf.size]
    omega
  simp only [tls_spi_write_then_read, if_neg hvalid, run_bind, run_get, ok_bind, hmemcpy, run_lift_ok, run_modify, hrun, hload, run_pure]

section

variable {txbuf : List UInt8} {n_rx : Nat} (htx : 1 ≤ txbuf.length) (htxmax : txbuf.length ≤ SPI_DMA_CMD_MAX_SIZE)
  (hrx : 1 ≤ n_rx) (hrxmax : n_rx ≤ SPI_DMA_BUF_MAX_SIZE)

include htx htxmax hrx hrxmax

/-- A read succeeds in any case, so that it must not be late, and it must clock all bytes. -/
theorem inTime_of_readsAll (hall : ReadsAll hw txbuf n_rx s) : InTime hw n_rx ∧ ¬ LeftOut n_rx ∧
    wire hw (s.mosi.length + dropped txbuf.length) n_rx = wire hw (s.mosi.length + txbuf.length) n_rx := by
  obtain ⟨rxbuf, s', hrun, hread, hrxbuf⟩ := @run_write_then_read hw s n_rx txbuf htx htxmax hrx hrxmax
  obtain ⟨status, rxbuf', s'', hrun', hok, hlate⟩ := hall
  obtain ⟨⟨rfl, rfl⟩, rfl⟩ : (status = TLS_SPI_STATUS_OK ∧ rxbuf' = some rxbuf) ∧ s'' = s' := by
    simpa [eq_comm] using hrun.symm.trans hrun'
  have htime : InTime hw n_rx := Classical.byContradiction fun htime =>
    hlate (by rw [hread.late htime]; exact Nat.succ_ne_self _) rfl
  obtain ⟨hmosi, hbytes⟩ := hok rfl
  have hleft : ¬ LeftOut n_rx := by
    intro hleft
    have hclocked := hread.clocked htime
    rw [lastBytes, if_pos hleft, hmosi] at hclocked
    have hblock : SPI_DMA_MAX_TRANS_SIZE = 4092 := rfl
    have hlow := hleft.1
    have hhigh := hleft.2
    omega
  refine ⟨htime, hleft, ?_⟩
  rw [← hread.taken htime hleft, ← hrxbuf]
  exact Option.some.inj hbytes

theorem readsAll_of_inTime (htime : InTime hw n_rx) (hleft : ¬ LeftOut n_rx)
    (hsame : wire hw (s.mosi.length + dropped txbuf.length) n_rx = wire hw (s.mosi.length + txbuf.length) n_rx) :
    ReadsAll hw txbuf n_rx s := by
  obtain ⟨rxbuf, s', hrun, hread, hrxbuf⟩ := @run_write_then_read hw s n_rx txbuf htx htxmax hrx hrxmax
  refine ⟨_, _, s', hrun, fun _ => ⟨?_, ?_⟩, fun hlate => absurd (hread.inTime htime) hlate⟩
  · rw [hread.clocked htime, lastBytes, if_neg hleft]
    omega
  · rw [hrxbuf, hread.taken htime hleft, hsame]

/-- A read by DMA does what it should exactly when all its waits end in time, no bytes
are left out behind its first block, and, for a command of 32 bytes, what the slave
sends with the command is what it sends behind it. -/
theorem tls_spi_write_then_read_iff : ReadsAll hw txbuf n_rx s ↔ InTime hw n_rx ∧ ¬ LeftOut n_rx ∧
    (txbuf.length = 32 → wire hw s.mosi.length n_rx = wire hw (s.mosi.length + 32) n_rx) := by
  have hsame : wire hw (s.mosi.length + dropped txbuf.length) n_rx = wire hw (s.mosi.length + txbuf.length) n_rx ↔
      (txbuf.length = 32 → wire hw s.mosi.length n_rx = wire hw (s.mosi.length + 32) n_rx) := by
    rcases dropped_of_le htxmax with ⟨hfull, hdropped⟩ | ⟨hfull, hdropped⟩
    · rw [hdropped, hfull, imp_iff_right rfl, Nat.add_zero]
    · simp only [hdropped, hfull, false_implies]
  rw [← hsame]
  constructor
  · exact inTime_of_readsAll htx htxmax hrx hrxmax
  · rintro ⟨htime, hleft, hsame⟩
    exact readsAll_of_inTime htx htxmax hrx hrxmax htime hleft hsame

end

end

/-- A slave whose byte number `k` is `k`, at a controller that is never late. -/
def promptSpi : SpiHw where
  miso k := UInt8.ofNat k
  idleInTime _ := true
  dmaInTime _ := true
  stall s := s
  undriven := 0xff

/-- A controller that has not been used. -/
def idleSpi : SpiMaster := ⟨[], [], [], .fill _ 0, .fill _ 0, 0⟩

theorem tls_spi_write_then_read_iff_id : ReadsAll promptSpi [0x9f] 3 idleSpi ↔ InTime promptSpi 3 ∧ ¬ LeftOut 3 ∧
    ([(0x9f : UInt8)].length = 32 → wire promptSpi idleSpi.mosi.length 3 = wire promptSpi (idleSpi.mosi.length + 32) 3) :=
  tls_spi_write_then_read_iff (by decide) (by decide) (by decide) (by decide)

/-- The last byte of a read of 4093 bytes is neither clocked nor received, a read that
the controller is too late for succeeds as well, and behind a command of 32 bytes what
has been received with it is read. -/
theorem tls_spi_write_then_read_short :
    ¬ ReadsAll promptSpi [3, 0, 0, 0] 4093 idleSpi ∧
      ¬ ReadsAll { promptSpi with idleInTime := fun _ => false } [0x9f] 3 idleSpi ∧
      ¬ ReadsAll promptSpi (List.replicate 32 3) 3 idleSpi := by
  refine ⟨fun h => ?_, fun h => ?_, fun h => ?_⟩
  · exact (inTime_of_readsAll (by decide) (by decide) (by decide) (by decide) h).2.1 (by decide)
  · simpa using (inTime_of_readsAll (by decide) (by decide) (by decide) (by decide) h).1.ready
  · have hsame := (inTime_of_readsAll (by decide) (by decide) (by decide) (by decide) h).2.2
    exact absurd hsame (by decide)

end ZCloud
