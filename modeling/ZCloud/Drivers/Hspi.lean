import ZCloud.Lib.Program
import ZCloud.Lib.Ring

open Memory Program

namespace ZCloud

def HSPI_TX_DESC_NUM : Nat := 6
def HSPI_TXBUF_SIZE : Nat := 1500

/-- Bit 31 of `valid_ctrl`. -/
def HSPI_DESC_VALID : UInt32 := 0x80000000

/-- A descriptor for what the module sends; `buf` is what lies at `buf_addr[0]`. -/
structure tls_hspi_tx_desc where
  valid_ctrl : UInt32
  buf_info : Nat
  buf : Mem HSPI_TXBUF_SIZE
  next_desc_addr : Fin HSPI_TX_DESC_NUM

structure tls_slave_hspi where
  tx_desc : Fin HSPI_TX_DESC_NUM → tls_hspi_tx_desc
  curr_tx_desc : Fin HSPI_TX_DESC_NUM
  HR_SDIO_RXEN : UInt32

namespace tls_hspi_tx_desc

def valid (desc : tls_hspi_tx_desc) : Bool := desc.valid_ctrl &&& HSPI_DESC_VALID ≠ 0

/-- The bytes that the descriptor sends. -/
def data (desc : tls_hspi_tx_desc) : List UInt8 := desc.buf.bytes.take (desc.buf_info >>> 12)

end tls_hspi_tx_desc

/-- The descriptor `k` places behind another one. -/
def behind (i : Fin HSPI_TX_DESC_NUM) (k : Nat) : Fin HSPI_TX_DESC_NUM := ⟨(i + k) % HSPI_TX_DESC_NUM, Nat.mod_lt _ (by decide)⟩

def hspi_tx_init : Prog tls_slave_hspi Unit := modify fun s =>
  { s with
    curr_tx_desc := ⟨0, by decide⟩
    tx_desc := fun i => { s.tx_desc i with valid_ctrl := 0, buf_info := 0, next_desc_addr := behind i 1 } }

/-- How much of `totallen` bytes a descriptor takes. -/
def txLen (totallen : Nat) : Nat := if totallen > HSPI_TXBUF_SIZE then HSPI_TXBUF_SIZE else totallen

theorem txLen_eq (totallen : Nat) : txLen totallen = min HSPI_TXBUF_SIZE totallen := by
  unfold txLen
  split <;> omega

/-- The loop of `tls_hspi_tx_data`. -/
def fillDescs (txbuf : List UInt8) (totallen : Nat) : Prog tls_slave_hspi Unit := do
  let s ← get
  let tx_desc := s.tx_desc s.curr_tx_desc
  if tx_desc.valid then return ()
  else
    let txlen := txLen totallen
    let buf ← tx_desc.buf.memcpy 0 txbuf txlen
    let filled := { tx_desc with buf := buf, buf_info := txlen <<< 12, valid_ctrl := HSPI_DESC_VALID }
    set { s with
      tx_desc := fun i => if i = s.curr_tx_desc then filled else s.tx_desc i
      curr_tx_desc := tx_desc.next_desc_addr
      HR_SDIO_RXEN := 1 }
    if _hrest : totallen - txlen ≤ 0 then return ()
    else fillDescs txbuf (totallen - txlen)
termination_by totallen
decreasing_by
  have htxlen := txLen_eq totallen
  have hsize : 0 < HSPI_TXBUF_SIZE := by decide
  omega

/-- `none` is the null pointer. -/
def tls_hspi_tx_data (txbuf : Option (List UInt8)) (len : Int) : Prog tls_slave_hspi Unit := do
  match txbuf with
  | none => return ()
  | some txbuf =>
    if len ≤ 0 ∨ len > HSPI_TXBUF_SIZE * HSPI_TX_DESC_NUM then return ()
    else fillDescs txbuf len.toNat

section

variable {i : Fin HSPI_TX_DESC_NUM} {j k : Nat}

@[simp]
theorem behind_zero : behind i 0 = i := Fin.ext (Nat.mod_eq_of_lt i.isLt)

theorem behind_behind : behind (behind i j) k = behind i (j + k) := by
  refine Fin.ext ?_
  simp only [behind]
  rw [Nat.mod_add_mod, Nat.add_assoc]

/-- Descriptors less than a whole ring apart are others. -/
theorem behind_ne (hj : 0 < j) (hlt : j < HSPI_TX_DESC_NUM) : behind i j ≠ i := by
  intro h
  refine @Ring.cell_ne HSPI_TX_DESC_NUM i 0 j hj (by omega) ?_
  rw [Nat.add_zero, Nat.mod_eq_of_lt i.isLt]
  exact (congrArg Fin.val h).symm

end

/-- How many descriptors `len` bytes take. -/
def descsFor (len : Nat) : Nat := (len + (HSPI_TXBUF_SIZE - 1)) / HSPI_TXBUF_SIZE

/-- The first `len` of the bytes that repeat the start of a buffer, as much of it
as fits in a descriptor. -/
def repeated (txbuf : List UInt8) (len : Nat) : List UInt8 := (List.range len).map fun i => txbuf.getD (i % HSPI_TXBUF_SIZE) 0

section

variable {txbuf : List UInt8} {len : Nat}

theorem repeated_of_le (hfits : len ≤ HSPI_TXBUF_SIZE) (hlen : len ≤ txbuf.length) : repeated txbuf len = txbuf.take len := by
  refine List.ext_getElem (by simp [repeated, hlen]) fun i hi _ => ?_
  have hi' : i < len := by simpa [repeated] using hi
  have hmod : i % HSPI_TXBUF_SIZE = i := Nat.mod_eq_of_lt (by omega)
  have hget : i < txbuf.length := by omega
  simp [repeated, hmod, hget]

theorem repeated_add : repeated txbuf (HSPI_TXBUF_SIZE + len) = repeated txbuf HSPI_TXBUF_SIZE ++ repeated txbuf len := by
  simp only [repeated, List.range_add, List.map_append, List.map_map, Function.comp_def, Nat.add_mod_left]

/-- A buffer is what repeats its start when and only when it repeats. -/
theorem repeated_eq_iff : repeated txbuf txbuf.length = txbuf ↔ ∀ i < txbuf.length, txbuf[i]? = txbuf[i % HSPI_TXBUF_SIZE]? := by
  have hle (i : Nat) : i % HSPI_TXBUF_SIZE ≤ i := Nat.mod_le _ _
  constructor
  · intro h i hi
    have hget := congrArg (·[i]?) h
    have hmod : i % HSPI_TXBUF_SIZE < txbuf.length := (hle i).trans_lt hi
    simpa [repeated, hi, hmod] using hget.symm
  · intro h
    refine List.ext_getElem (by simp [repeated]) fun i _ hi => ?_
    have hmod : i % HSPI_TXBUF_SIZE < txbuf.length := (hle i).trans_lt hi
    have hget := h i hi
    rw [List.getElem?_eq_getElem hi, List.getElem?_eq_getElem hmod, Option.some_inj] at hget
    simp [repeated, hmod, hget]

end

namespace tls_slave_hspi

/-- The descriptors are linked to a ring. -/
def Linked (s : tls_slave_hspi) : Prop := ∀ i, (s.tx_desc i).next_desc_addr = behind i 1

/-- What `k` descriptors send, one behind the other from `i` on. -/
def sends (s : tls_slave_hspi) (i : Fin HSPI_TX_DESC_NUM) (k : Nat) : List UInt8 :=
  (List.range k).flatMap fun j => (s.tx_desc (behind i j)).data

theorem sends_succ (s : tls_slave_hspi) (i : Fin HSPI_TX_DESC_NUM) (k : Nat) :
    s.sends i (k + 1) = (s.tx_desc i).data ++ s.sends (behind i 1) k := by
  simp only [sends, List.range_succ_eq_map, List.flatMap_cons, List.flatMap_map, behind_zero, behind_behind]
  simp only [Nat.add_comm 1]

/-- In `s'`, `k` descriptors of `s` have been filled: they are valid, the others
are as they were, and the current descriptor is the one behind them. -/
structure Filled (s s' : tls_slave_hspi) (k : Nat) : Prop where
  valid : ∀ j < k, (s'.tx_desc (behind s.curr_tx_desc j)).valid = true
  other : ∀ i, (∀ j < k, i ≠ behind s.curr_tx_desc j) → s'.tx_desc i = s.tx_desc i
  curr_tx_desc : s'.curr_tx_desc = behind s.curr_tx_desc k

/-- What a pass of the loop leaves when it has copied the start of the buffer to
`buf`. -/
def pass (s : tls_slave_hspi) (buf : Mem HSPI_TXBUF_SIZE) (txlen : Nat) : tls_slave_hspi where
  tx_desc i :=
    if i = s.curr_tx_desc then
      { s.tx_desc s.curr_tx_desc with buf := buf, buf_info := txlen <<< 12, valid_ctrl := HSPI_DESC_VALID }
    else s.tx_desc i
  curr_tx_desc := (s.tx_desc s.curr_tx_desc).next_desc_addr
  HR_SDIO_RXEN := 1

variable {s s' : tls_slave_hspi} {buf : Mem HSPI_TXBUF_SIZE} {txlen : Nat}

theorem pass_self : (s.pass buf txlen).tx_desc s.curr_tx_desc =
    { s.tx_desc s.curr_tx_desc with buf := buf, buf_info := txlen <<< 12, valid_ctrl := HSPI_DESC_VALID } := if_pos rfl

theorem pass_other {i : Fin HSPI_TX_DESC_NUM} (h : i ≠ s.curr_tx_desc) : (s.pass buf txlen).tx_desc i = s.tx_desc i := if_neg h

theorem Linked.pass (h : s.Linked) : (s.pass buf txlen).Linked := by
  intro i
  by_cases hi : i = s.curr_tx_desc
  · subst hi
    rw [pass_self]
    exact h _
  · rw [pass_other hi]
    exact h i

theorem Linked.curr_pass (h : s.Linked) : (s.pass buf txlen).curr_tx_desc = behind s.curr_tx_desc 1 := h _

theorem pass_valid : ((s.pass buf txlen).tx_desc s.curr_tx_desc).valid = true := by
  have hvalid : HSPI_DESC_VALID &&& HSPI_DESC_VALID ≠ 0 := by decide
  rw [pass_self]
  exact decide_eq_true hvalid

theorem pass_data : ((s.pass buf txlen).tx_desc s.curr_tx_desc).data = buf.bytes.take txlen := by
  rw [pass_self, tls_hspi_tx_desc.data, Nat.shiftLeft_shiftRight]

theorem Filled.refl (s : tls_slave_hspi) : s.Filled s 0 := ⟨nofun, fun _ _ => rfl, behind_zero.symm⟩

variable {k : Nat}

/-- The descriptor that a pass has filled is not filled again. -/
theorem Filled.self_eq (hlinked : s.Linked) (hk : k < HSPI_TX_DESC_NUM) (h : (s.pass buf txlen).Filled s' k) :
    s'.tx_desc s.curr_tx_desc = (s.pass buf txlen).tx_desc s.curr_tx_desc := by
  refine h.other _ fun j hj heq => ?_
  rw [hlinked.curr_pass, behind_behind] at heq
  exact behind_ne (by omega) (by omega) heq.symm

theorem Filled.of_pass (hlinked : s.Linked) (hk : k < HSPI_TX_DESC_NUM) (h : (s.pass buf txlen).Filled s' k) :
    s.Filled s' (k + 1) := by
  have hcurr := @Linked.curr_pass s buf txlen hlinked
  refine ⟨fun j hj => ?_, fun i hi => ?_, ?_⟩
  · cases j with
    | zero =>
      rw [behind_zero, h.self_eq hlinked hk]
      exact pass_valid
    | succ j =>
      have hvalid := h.valid j (by omega)
      rwa [hcurr, behind_behind, Nat.add_comm 1] at hvalid
  · have hself : i ≠ s.curr_tx_desc := by
      have hzero := hi 0 (by omega)
      rwa [behind_zero] at hzero
    rw [h.other i fun j hj => ?_, pass_other hself]
    rw [hcurr, behind_behind, Nat.add_comm 1]
    exact hi (j + 1) (by omega)
  · rw [h.curr_tx_desc, hcurr, behind_behind, Nat.add_comm 1]

end tls_slave_hspi

section

variable {s : tls_slave_hspi} {txbuf : List UInt8} {totallen : Nat}

theorem fillDescs_pass (hfree : (s.tx_desc s.curr_tx_desc).valid = false) (hlen : totallen ≤ txbuf.length) : ∃ buf,
    buf.bytes.take (txLen totallen) = txbuf.take (txLen totallen) ∧
      (fillDescs txbuf totallen).run s =
        if totallen - txLen totallen ≤ 0 then .ok ((), s.pass buf (txLen totallen))
        else (fillDescs txbuf (totallen - txLen totallen)).run (s.pass buf (txLen totallen)) := by
  have htxlen := txLen_eq totallen
  obtain ⟨buf, hcopy, hbuf⟩ := @Mem.memcpy_spec _ (s.tx_desc s.curr_tx_desc).buf 0 (txLen totallen) txbuf (by omega) (by omega)
  have hcopied := take_patch_zero (s.tx_desc s.curr_tx_desc).buf.bytes (txbuf.take (txLen totallen))
  rw [List.length_take, Nat.min_eq_left (by omega), ← hbuf] at hcopied
  refine ⟨buf, hcopied, ?_⟩
  rw [fillDescs.eq_def, run_get_bind]
  simp only [hfree, Bool.false_eq_true, if_false, run_bind, hcopy, run_lift_ok, ok_bind, run_set]
  split
  · rfl
  · rfl

/-- Where the descriptors are free, they are filled, each with the start of the
buffer. -/
theorem fillDescs_spec {k : Nat} (hlo : HSPI_TXBUF_SIZE * k < totallen) (hhi : totallen ≤ HSPI_TXBUF_SIZE * (k + 1))
    (hk : k < HSPI_TX_DESC_NUM) (hlen : totallen ≤ txbuf.length) (hlinked : s.Linked)
    (hfree : ∀ j < k + 1, (s.tx_desc (behind s.curr_tx_desc j)).valid = false) : ∃ s',
    (fillDescs txbuf totallen).run s = .ok ((), s') ∧ s.Filled s' (k + 1) ∧
      s'.sends s.curr_tx_desc (k + 1) = repeated txbuf totallen := by
  induction k generalizing s totallen with
  | zero =>
    have hfirst := hfree 0 (by decide)
    rw [behind_zero] at hfirst
    have htxlen : txLen totallen = totallen := by
      rw [txLen_eq]
      omega
    obtain ⟨buf, hcopied, hrun⟩ := fillDescs_pass hfirst hlen
    rw [htxlen] at hcopied hrun
    rw [if_pos (by omega)] at hrun
    refine ⟨_, hrun, .of_pass hlinked (by decide) (.refl _), ?_⟩
    rw [tls_slave_hspi.sends_succ, tls_slave_hspi.pass_data, hcopied, repeated_of_le (by omega) hlen]
    exact List.append_nil _
  | succ k ih =>
    have hfirst := hfree 0 (by omega)
    rw [behind_zero] at hfirst
    have hsize : HSPI_TXBUF_SIZE * (k + 1 + 1) = HSPI_TXBUF_SIZE * (k + 1) + HSPI_TXBUF_SIZE := Nat.mul_add_one ..
    have hsize' : HSPI_TXBUF_SIZE * (k + 1) = HSPI_TXBUF_SIZE * k + HSPI_TXBUF_SIZE := Nat.mul_add_one ..
    have htxlen : txLen totallen = HSPI_TXBUF_SIZE := by
      rw [txLen_eq]
      omega
    obtain ⟨buf, hcopied, hrun⟩ := fillDescs_pass hfirst hlen
    rw [htxlen] at hcopied hrun
    rw [if_neg (by omega)] at hrun
    have hcurr := @tls_slave_hspi.Linked.curr_pass s buf HSPI_TXBUF_SIZE hlinked
    obtain ⟨s', hrest, hfilled, hsends⟩ := @ih (s.pass buf HSPI_TXBUF_SIZE) (totallen - HSPI_TXBUF_SIZE) (by omega) (by omega)
      (by omega) (by omega) hlinked.pass fun j hj => by
        rw [hcurr, behind_behind, Nat.add_comm 1, tls_slave_hspi.pass_other (behind_ne (by omega) (by omega))]
        exact hfree (j + 1) (by omega)
    refine ⟨s', hrun.trans hrest, .of_pass hlinked hk hfilled, ?_⟩
    have hsplit : totallen = HSPI_TXBUF_SIZE + (totallen - HSPI_TXBUF_SIZE) := by omega
    rw [tls_slave_hspi.sends_succ, hfilled.self_eq hlinked hk, tls_slave_hspi.pass_data, hcopied, ← hcurr, hsends, hsplit,
      repeated_add, repeated_of_le (Nat.le_refl _) (by omega), Nat.add_sub_cancel_left]

/-- The descriptors that a buffer needs are filled, with what repeats its start. -/
theorem tls_hspi_tx_data_spec (hpos : 1 ≤ txbuf.length) (hmax : txbuf.length ≤ HSPI_TXBUF_SIZE * HSPI_TX_DESC_NUM)
    (hlinked : s.Linked) (hfree : ∀ j < descsFor txbuf.length, (s.tx_desc (behind s.curr_tx_desc j)).valid = false) : ∃ s',
    (tls_hspi_tx_data (some txbuf) txbuf.length).run s = .ok ((), s') ∧ s.Filled s' (descsFor txbuf.length) ∧
      s'.sends s.curr_tx_desc (descsFor txbuf.length) = repeated txbuf txbuf.length := by
  have hsize : HSPI_TXBUF_SIZE = 1500 := rfl
  have hnum : HSPI_TX_DESC_NUM = 6 := rfl
  obtain ⟨k, hk⟩ : ∃ k, descsFor txbuf.length = k + 1 := by
    refine Nat.exists_eq_add_one.mpr ?_
    simp only [descsFor, hsize]
    omega
  have hk' := hk
  simp only [descsFor, hsize] at hk'
  rw [hsize, hnum] at hmax
  rw [hk] at hfree ⊢
  have hlen : ¬ ((txbuf.length : Int) ≤ 0 ∨ (txbuf.length : Int) > HSPI_TXBUF_SIZE * HSPI_TX_DESC_NUM) := by
    rw [hsize, hnum]
    omega
  obtain ⟨s', hrun, hfilled⟩ := @fillDescs_spec s txbuf txbuf.length k (by rw [hsize]; omega) (by rw [hsize]; omega)
    (by omega) (Nat.le_refl _) hlinked hfree
  refine ⟨s', ?_, hfilled⟩
  simp only [tls_hspi_tx_data]
  rw [if_neg hlen, Int.toNat_natCast, hrun]

end

/-- What the descriptors of a transfer send, one behind the other, is the buffer;
just these are filled, and the current one is the first behind them. -/
structure tls_slave_hspi.Sent (s s' : tls_slave_hspi) (txbuf : List UInt8) : Prop
    extends s.Filled s' (descsFor txbuf.length) where
  data : s'.sends s.curr_tx_desc (descsFor txbuf.length) = txbuf

/-- A buffer is sent as it is when and only when behind its first 1500 bytes it
repeats them. -/
theorem tls_hspi_tx_data_sent_iff {s : tls_slave_hspi} {txbuf : List UInt8} (hpos : 1 ≤ txbuf.length)
    (hmax : txbuf.length ≤ HSPI_TXBUF_SIZE * HSPI_TX_DESC_NUM) (hlinked : s.Linked)
    (hfree : ∀ j < descsFor txbuf.length, (s.tx_desc (behind s.curr_tx_desc j)).valid = false) : ∃ s',
    (tls_hspi_tx_data (some txbuf) txbuf.length).run s = .ok ((), s') ∧
      (s.Sent s' txbuf ↔ ∀ i < txbuf.length, txbuf[i]? = txbuf[i % HSPI_TXBUF_SIZE]?) := by
  obtain ⟨s', hrun, hfilled, hsends⟩ := tls_hspi_tx_data_spec hpos hmax hlinked hfree
  refine ⟨s', hrun, ?_⟩
  rw [← repeated_eq_iff, ← hsends]
  exact ⟨fun h => h.data, fun h => { hfilled with data := h }⟩

/-- Some state of the descriptors. -/
def bareHspi : tls_slave_hspi := ⟨fun _ => ⟨0, 0, Mem.fill HSPI_TXBUF_SIZE 0, ⟨0, by decide⟩⟩, ⟨0, by decide⟩, 0⟩

theorem hspi_tx_init_spec (s : tls_slave_hspi) : ∃ s', hspi_tx_init.run s = .ok ((), s') ∧ s'.Linked ∧
    ∀ i, (s'.tx_desc i).valid = false := by
  have hfree : (0 : UInt32) &&& HSPI_DESC_VALID = 0 := by decide
  exact ⟨_, rfl, fun _ => rfl, fun _ => decide_eq_false (not_not_intro hfree)⟩

/-- A buffer for three descriptors, in which the first 1500 bytes come again and again. -/
def periodicBuf : List UInt8 := (List.range 4000).map fun i => UInt8.ofNat (i % HSPI_TXBUF_SIZE)

theorem tls_hspi_tx_data_sent_periodic : descsFor periodicBuf.length = 3 ∧
    ∃ s s', hspi_tx_init.run bareHspi = .ok ((), s) ∧
      (tls_hspi_tx_data (some periodicBuf) periodicBuf.length).run s = .ok ((), s') ∧ s.Sent s' periodicBuf := by
  have hlen : periodicBuf.length = 4000 := by rw [periodicBuf, List.length_map, List.length_range]
  have hbyte {i : Nat} (hi : i < 4000) : periodicBuf[i]? = some (UInt8.ofNat (i % HSPI_TXBUF_SIZE)) := by
    rw [periodicBuf, List.getElem?_map, List.getElem?_range hi]
    rfl
  obtain ⟨s, hinit, hlinked, hfree⟩ := hspi_tx_init_spec bareHspi
  obtain ⟨s', hrun, hiff⟩ := @tls_hspi_tx_data_sent_iff s periodicBuf (by omega) (by rw [hlen]; decide) hlinked fun _ _ => hfree _
  refine ⟨by rw [hlen]; decide, s, s', hinit, hrun, hiff.mpr fun i hi => ?_⟩
  rw [hlen] at hi
  rw [hbyte hi, hbyte (Nat.lt_of_le_of_lt (Nat.mod_le ..) hi), Nat.mod_mod]

/-- One byte more than a descriptor takes. -/
def longBuf : List UInt8 := List.replicate 1500 0 ++ [1]

/-- The last byte is not sent: the first one is sent in its place. -/
theorem tls_hspi_tx_data_long : ∃ s, hspi_tx_init.run bareHspi = .ok ((), s) ∧
    ¬ ∃ s', (tls_hspi_tx_data (some longBuf) longBuf.length).run s = .ok ((), s') ∧ s.Sent s' longBuf := by
  have hlen : longBuf.length = 1501 := by rw [longBuf, List.length_append, List.length_replicate]; rfl
  obtain ⟨s, hinit, hlinked, hfree⟩ := hspi_tx_init_spec bareHspi
  refine ⟨s, hinit, ?_⟩
  rintro ⟨s', hrun, hsent⟩
  obtain ⟨s'', hrun', -, hsends⟩ := @tls_hspi_tx_data_spec s longBuf (by omega) (by rw [hlen]; decide) hlinked fun _ _ => hfree _
  obtain rfl : s' = s'' := congrArg Prod.snd (Except.ok.inj (hrun.symm.trans hrun'))
  have hrepeats := repeated_eq_iff.mp (hsends.symm.trans hsent.data) 1500 (by omega)
  have hlast : longBuf[1500]? = some 1 := by
    rw [longBuf, List.getElem?_append_right (by rw [List.length_replicate]), List.length_replicate]
    rfl
  have hfirst : longBuf[1500 % HSPI_TXBUF_SIZE]? = some 0 := by
    rw [longBuf, List.getElem?_append_left (by rw [List.length_replicate]; decide)]
    rfl
  rw [hlast, hfirst] at hrepeats
  cases hrepeats

end ZCloud
