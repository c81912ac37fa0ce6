import ZCloud.Common
import ZCloud.Lib.Framing.Format

open Memory Framing

namespace ZCloud

/-- The states of a reassembly buffer. -/
inductive MSG_BUFFER where
  | MSG_BUFFER_IDLE
  | MSG_BUFFER_FULL
  | MSG_BUFFER_SEGMENT_NOHEAD
  | MSG_BUFFER_SEGMENT_HEAD
deriving DecidableEq, Repr

export MSG_BUFFER (MSG_BUFFER_IDLE MSG_BUFFER_FULL MSG_BUFFER_SEGMENT_NOHEAD
  MSG_BUFFER_SEGMENT_HEAD)

def MSG_BUFFER_MAXLEN : Nat := 600

structure MSG_Buffer where
  u32Len : Nat
  u8Status : MSG_BUFFER
  u8MsgBuffer : Mem MSG_BUFFER_MAXLEN
deriving DecidableEq

/-- Collects the chunk `pu8Data` into the buffer. -/
def MSG_RecvData (pstruRecvBuffer : MSG_Buffer) (pu8Data : List UInt8) :
    Except Fault (ZC_RET × MSG_Buffer) := do
  let u32DataLen := pu8Data.length
  let u32Len := pstruRecvBuffer.u32Len
  let u8MsgBuffer := pstruRecvBuffer.u8MsgBuffer
  match pstruRecvBuffer.u8Status with
  | MSG_BUFFER_FULL => return (ZC_RET_ERROR, pstruRecvBuffer)
  | MSG_BUFFER_IDLE =>
    if u32DataLen < sizeof_ZC_SecHead then
      let m ← u8MsgBuffer.memcpy 0 pu8Data u32DataLen
      return (ZC_RET_OK, ⟨u32DataLen, MSG_BUFFER_SEGMENT_NOHEAD, m⟩)
    else
      let u32MsgLen := ZC_HTONS (← loadU16 pu8Data 0) + sizeof_ZC_SecHead
      if u32MsgLen > MSG_BUFFER_MAXLEN then
        return (ZC_RET_ERROR, ⟨0, MSG_BUFFER_IDLE, u8MsgBuffer⟩)
      else if u32MsgLen ≤ u32DataLen then
        let m ← u8MsgBuffer.memcpy 0 pu8Data u32MsgLen
        return (ZC_RET_OK, ⟨u32MsgLen, MSG_BUFFER_FULL, m⟩)
      else
        let m ← u8MsgBuffer.memcpy 0 pu8Data u32DataLen
        return (ZC_RET_OK, ⟨u32DataLen, MSG_BUFFER_SEGMENT_HEAD, m⟩)
  | MSG_BUFFER_SEGMENT_HEAD =>
    let u32MsgLen := ZC_HTONS (← loadU16 u8MsgBuffer.bytes 0) + sizeof_ZC_SecHead
    if u32MsgLen ≤ u32 (u32DataLen + u32Len) then
      let m ← u8MsgBuffer.memcpy u32Len pu8Data (u32Sub u32MsgLen u32Len)
      return (ZC_RET_OK, ⟨u32MsgLen, MSG_BUFFER_FULL, m⟩)
    else
      let m ← u8MsgBuffer.memcpy u32Len pu8Data u32DataLen
      return (ZC_RET_OK, ⟨u32 (u32Len + u32DataLen), MSG_BUFFER_SEGMENT_HEAD, m⟩)
  | MSG_BUFFER_SEGMENT_NOHEAD =>
    if u32 (u32Len + u32DataLen) < sizeof_ZC_SecHead then
      let m ← u8MsgBuffer.memcpy u32Len pu8Data u32DataLen
      return (ZC_RET_OK, ⟨u32 (u32Len + u32DataLen), MSG_BUFFER_SEGMENT_NOHEAD, m⟩)
    else
      let m ← u8MsgBuffer.memcpy u32Len pu8Data (u32Sub sizeof_ZC_SecHead u32Len)
      let u32MsgLen := ZC_HTONS (← loadU16 m.bytes 0) + sizeof_ZC_SecHead
      if u32MsgLen > MSG_BUFFER_MAXLEN then
        return (ZC_RET_ERROR, ⟨0, MSG_BUFFER_IDLE, m⟩)
      else if u32MsgLen ≤ u32 (u32DataLen + u32Len) then
        let m ← m.memcpy u32Len pu8Data (u32Sub u32MsgLen u32Len)
        return (ZC_RET_OK, ⟨u32MsgLen, MSG_BUFFER_FULL, m⟩)
      else
        let m ← m.memcpy u32Len pu8Data u32DataLen
        return (ZC_RET_OK, ⟨u32 (u32Len + u32DataLen), MSG_BUFFER_SEGMENT_HEAD, m⟩)

/-- The largest chunk there can be: it and the buffer it goes to are different
objects of one 32-bit address space. -/
def CHUNK_MAXLEN : Nat := 4294967296 - 1008

/-- The length that `ZC_SecHead` declares, itself included. -/
def secTotal (p : List UInt8) : Nat := ZC_HTONS (number (p.take 2)) + sizeof_ZC_SecHead

theorem secTotal_eq (p : List UInt8) :
    ZC_HTONS (number (p.take 2)) + sizeof_ZC_SecHead = secTotal p := rfl

theorem secTotal_take {p : List UInt8} {n : Nat} (h : 2 ≤ n) : secTotal (p.take n) = secTotal p := by
  rw [secTotal, List.take_take, Nat.min_eq_left h, secTotal]

/-- The framing of the cloud and client streams. -/
def secFormat : Format UInt8 where
  head := sizeof_ZC_SecHead
  accept p := decide (secTotal p ≤ MSG_BUFFER_MAXLEN)
  total := secTotal
  head_pos := by decide
  accept_take p _ := by rw [secTotal_take (by decide)]
  total_take p _ := secTotal_take (by decide)
  head_le_total p _ := Nat.le_add_left ..

/-- A buffer in state `status`, with `len` bytes of `bytes` filled, holds the
part `p` of a frame. -/
structure Holding (F : Format UInt8) (status : MSG_BUFFER) (len : Nat) (bytes p : List UInt8) :
    Prop where
  len_eq : len = p.length
  take_eq : bytes.take p.length = p
  isOpen : F.Open p
  status_eq : status = MSG_BUFFER_IDLE ∧ p = [] ∨
    status = MSG_BUFFER_SEGMENT_NOHEAD ∧ p.length < F.head ∨
    status = MSG_BUFFER_SEGMENT_HEAD ∧ F.head ≤ p.length

/-- A buffer that is full holds the frame `f`. -/
structure Filled (status : MSG_BUFFER) (len : Nat) (bytes f : List UInt8) : Prop where
  len_eq : len = f.length
  take_eq : bytes.take f.length = f
  status_eq : status = MSG_BUFFER_FULL

namespace Holding

variable {F : Format UInt8} {status : MSG_BUFFER} {len : Nat} {bytes p : List UInt8}

theorem length_le (h : Holding F status len bytes p) : p.length ≤ bytes.length := by
  have := congrArg List.length h.take_eq
  rw [List.length_take] at this
  omega

theorem nil : Holding F MSG_BUFFER_IDLE 0 bytes [] where
  len_eq := rfl
  take_eq := rfl
  isOpen := Format.open_nil
  status_eq := Or.inl ⟨rfl, rfl⟩

end Holding

/-- The header field of a frame reads the same in a buffer that begins with
part of the frame. -/
theorem loadU16_of_take {view q : List UInt8} {off k : Nat} (h : view.take k = q.take k)
    (hk : off + 2 ≤ k) (hlen : k ≤ view.length) :
    loadU16 view off = .ok (number ((q.drop off).take 2)) := by
  have hslice : (view.drop off).take 2 = (q.drop off).take 2 := by
    have := congrArg (fun l => (l.drop off).take 2) h
    simp only [List.drop_take, List.take_take] at this
    rwa [Nat.min_eq_left (by omega)] at this
  rw [loadU16, load_of_le (by omega), hslice]
  rfl

/-- The buffer holds the part `p` of a frame. -/
def MSG_Buffer.Holds (b : MSG_Buffer) (p : List UInt8) : Prop :=
  Holding secFormat b.u8Status b.u32Len b.u8MsgBuffer.bytes p

/-- The buffer holds the whole frame `f`. -/
def MSG_Buffer.Full (b : MSG_Buffer) (f : List UInt8) : Prop :=
  Filled b.u8Status b.u32Len b.u8MsgBuffer.bytes f

/-- What `MSG_RecvData` returns and leaves for each outcome of the framing. -/
def MSG_Buffer.Result (r : ZC_RET × MSG_Buffer) : Outcome UInt8 → Prop
  | .pending q => r.1 = ZC_RET_OK ∧ r.2.Holds q
  | .complete f _ => r.1 = ZC_RET_OK ∧ r.2.Full f
  | .reject => r.1 = ZC_RET_ERROR ∧ r.2.Holds [] ∧ r.2.u8Status = MSG_BUFFER_IDLE

/-- The four ways in which a chunk is taken in, in the words of the source. -/
theorem secFormat_cases (p c : List UInt8) :
    (p ++ c).length < sizeof_ZC_SecHead ∧ secFormat.absorb p c = .pending (p ++ c) ∨
    (sizeof_ZC_SecHead ≤ (p ++ c).length ∧ secTotal (p ++ c) > MSG_BUFFER_MAXLEN) ∧
      secFormat.absorb p c = .reject ∨
    (sizeof_ZC_SecHead ≤ (p ++ c).length ∧ secTotal (p ++ c) ≤ MSG_BUFFER_MAXLEN ∧
      secTotal (p ++ c) ≤ (p ++ c).length) ∧
      secFormat.absorb p c =
        .complete ((p ++ c).take (secTotal (p ++ c))) ((p ++ c).drop (secTotal (p ++ c))) ∨
    (sizeof_ZC_SecHead ≤ (p ++ c).length ∧ secTotal (p ++ c) ≤ MSG_BUFFER_MAXLEN ∧
      (p ++ c).length < secTotal (p ++ c)) ∧ secFormat.absorb p c = .pending (p ++ c) := by
  have h := Format.absorb_cases (F := secFormat) p c
  simpa only [secFormat, decide_eq_true_eq, decide_eq_false_iff_not, Nat.not_le] using h

theorem filled_of_take {bytes q : List UInt8} {n : Nat} (hn : n ≤ q.length)
    (h : bytes.take n = q.take n) : Filled MSG_BUFFER_FULL n bytes (q.take n) := by
  have hlen : (q.take n).length = n := by
    rw [List.length_take]
    omega
  exact ⟨hlen.symm, by rw [hlen]; exact h, rfl⟩

private theorem recv_idle {len : Nat} {m : Mem MSG_BUFFER_MAXLEN} {c : List UInt8} :
    ∃ r, MSG_RecvData ⟨len, MSG_BUFFER_IDLE, m⟩ c = .ok r ∧
      MSG_Buffer.Result r (secFormat.absorb [] c) := by
  have hcopy := fun k hk hfit => Mem.memcpy_part m (p := []) (c := c) (k := k) rfl hk hfit
  simp only [List.length_nil, Nat.zero_add, List.nil_append] at hcopy
  have hload : 4 ≤ c.length → loadU16 c 0 = .ok (number (c.take 2)) :=
    fun h => loadU16_of_take (k := 4) rfl (by omega) h
  have hcases := secFormat_cases [] c
  simp only [List.nil_append] at hcases
  simp only [MSG_RecvData]
  obtain ⟨h, hout⟩ | ⟨⟨h, hbig⟩, hout⟩ | ⟨⟨h, hfit, htot⟩, hout⟩ | ⟨⟨h, hfit, htot⟩, hout⟩ := hcases
  · obtain ⟨m', hm, htake, -⟩ := hcopy c.length (Nat.le_refl _)
      (Nat.le_of_lt (Nat.lt_of_lt_of_le h (by decide)))
    rw [if_pos h, hm, hout]
    exact ⟨_, rfl, rfl, rfl, by simpa using htake, Or.inl h, Or.inr (Or.inl ⟨rfl, h⟩)⟩
  · rw [if_neg (Nat.not_lt.mpr h), hload h, hout, ok_bind, secTotal_eq, if_pos hbig]
    exact ⟨_, rfl, rfl, Holding.nil, rfl⟩
  · obtain ⟨m', hm, htake, -⟩ := hcopy (secTotal c) htot hfit
    rw [if_neg (Nat.not_lt.mpr h), hload h, hout, ok_bind, secTotal_eq,
      if_neg (Nat.not_lt.mpr hfit), if_pos htot, hm]
    exact ⟨_, rfl, rfl, filled_of_take htot htake⟩
  · obtain ⟨m', hm, htake, -⟩ := hcopy c.length (Nat.le_refl _) (by omega)
    rw [if_neg (Nat.not_lt.mpr h), hload h, hout, ok_bind, secTotal_eq,
      if_neg (Nat.not_lt.mpr hfit), if_neg (Nat.not_le.mpr htot), hm]
    exact ⟨_, rfl, rfl, rfl, by simpa using htake, Or.inr ⟨by simpa [secFormat] using hfit, htot⟩,
      Or.inr (Or.inr ⟨rfl, h⟩)⟩

private theorem recv_head {m : Mem MSG_BUFFER_MAXLEN} {p c : List UInt8}
    (hp : m.bytes.take p.length = p) (hopen : secFormat.Open p) (hhead : sizeof_ZC_SecHead ≤ p.length)
    (hc : c.length ≤ CHUNK_MAXLEN) :
    ∃ r, MSG_RecvData ⟨p.length, MSG_BUFFER_SEGMENT_HEAD, m⟩ c = .ok r ∧
      MSG_Buffer.Result r (secFormat.absorb p c) := by
  have hlen : p.length ≤ m.bytes.length := by
    rw [← hp, List.length_take]
    omega
  have hopen' : secTotal p ≤ MSG_BUFFER_MAXLEN ∧ p.length < secTotal p := by
    rcases hopen with h | ⟨h, h'⟩
    · exact absurd h (Nat.not_lt.mpr hhead)
    · exact ⟨by simpa [secFormat] using h, h'⟩
  have htotal : secTotal (p ++ c) = secTotal p := Format.total_append (F := secFormat) hhead
  have hload : loadU16 m.bytes 0 = .ok (number (p.take 2)) :=
    loadU16_of_take (by rw [hp, List.take_length]) (Nat.le_trans (by decide) hhead) hlen
  have hmax : MSG_BUFFER_MAXLEN = 600 := rfl
  have hsum : u32 (c.length + p.length) = c.length + p.length :=
    u32_of_lt (by unfold CHUNK_MAXLEN at hc; omega)
  have hsum' : u32 (p.length + c.length) = p.length + c.length := by
    rw [Nat.add_comm, hsum]
  have hsub : u32Sub (secTotal p) p.length = secTotal p - p.length := u32Sub_of_le (by omega) (by omega)
  have hcases := secFormat_cases p c
  rw [htotal] at hcases
  simp only [MSG_RecvData]
  rw [hload, ok_bind, secTotal_eq, hsum, hsub, hsum']
  obtain ⟨h, hout⟩ | ⟨⟨h, hbig⟩, hout⟩ | ⟨⟨h, hfit, htot⟩, hout⟩ | ⟨⟨h, hfit, htot⟩, hout⟩ := hcases
  · rw [List.length_append] at h
    omega
  · omega
  · rw [List.length_append] at htot
    obtain ⟨m', hm, htake, -⟩ := Mem.memcpy_part m (c := c) (k := secTotal p - p.length) hp (by omega) (by omega)
    rw [Nat.add_sub_cancel' (by omega)] at htake
    rw [if_pos (by omega), hm, hout]
    exact ⟨_, rfl, rfl, filled_of_take (by rw [List.length_append]; omega) htake⟩
  · have hlt := htot
    rw [List.length_append] at hlt
    obtain ⟨m', hm, htake, -⟩ := Mem.memcpy_part m (c := c) hp (Nat.le_refl _) (by omega)
    rw [if_neg (by omega), hm, hout]
    rw [← List.length_append, List.take_length] at htake
    exact ⟨_, rfl, rfl, by simp, htake, Or.inr ⟨by simpa [secFormat, htotal] using hfit, by rwa [← htotal] at htot⟩,
      Or.inr (Or.inr ⟨rfl, h⟩)⟩

private theorem recv_nohead {m : Mem MSG_BUFFER_MAXLEN} {p c : List UInt8}
    (hp : m.bytes.take p.length = p) (hshort : p.length < sizeof_ZC_SecHead)
    (hc : c.length ≤ CHUNK_MAXLEN) :
    ∃ r, MSG_RecvData ⟨p.length, MSG_BUFFER_SEGMENT_NOHEAD, m⟩ c = .ok r ∧
      MSG_Buffer.Result r (secFormat.absorb p c) := by
  have hhead : sizeof_ZC_SecHead = 4 := rfl
  have hmax : MSG_BUFFER_MAXLEN = 600 := rfl
  have hsum : u32 (c.length + p.length) = c.length + p.length :=
    u32_of_lt (by unfold CHUNK_MAXLEN at hc; omega)
  have hsum' : u32 (p.length + c.length) = p.length + c.length := by
    rw [Nat.add_comm, hsum]
  have hsub : u32Sub sizeof_ZC_SecHead p.length = sizeof_ZC_SecHead - p.length :=
    u32Sub_of_le (by omega) (by omega)
  simp only [MSG_RecvData]
  rw [hsum, hsum', hsub]
  by_cases hin : (p ++ c).length < sizeof_ZC_SecHead
  · have hlt := hin
    rw [List.length_append] at hlt
    obtain ⟨m', hm, htake, -⟩ := Mem.memcpy_part m (c := c) hp (Nat.le_refl _) (by omega)
    rw [← List.length_append, List.take_length] at htake
    have hout : secFormat.absorb p c = .pending (p ++ c) := if_pos hin
    rw [if_pos (by omega), hm, hout]
    exact ⟨_, rfl, rfl, by simp, htake, Or.inl hin, Or.inr (Or.inl ⟨rfl, hin⟩)⟩
  · have hge := hin
    rw [List.length_append] at hge
    obtain ⟨m₁, hm₁, htake₁, hp₁⟩ := Mem.memcpy_part m (c := c) (k := sizeof_ZC_SecHead - p.length) hp
      (by omega) (by omega)
    rw [Nat.add_sub_cancel' (by omega)] at htake₁
    have hload : loadU16 m₁.bytes 0 = .ok (number ((p ++ c).take 2)) :=
      loadU16_of_take htake₁ (by decide) (by rw [m₁.length_bytes]; decide)
    rw [if_neg (by omega), hm₁, ok_bind, hload, ok_bind, secTotal_eq]
    obtain ⟨h, -⟩ | ⟨⟨-, hbig⟩, hout⟩ | ⟨⟨-, hfit, htot⟩, hout⟩ | ⟨⟨h, hfit, htot⟩, hout⟩ :=
      secFormat_cases p c
    · exact absurd h hin
    · rw [if_pos hbig, hout]
      exact ⟨_, rfl, rfl, Holding.nil, rfl⟩
    · have hmin : sizeof_ZC_SecHead ≤ secTotal (p ++ c) := Nat.le_add_left ..
      have hsub' : u32Sub (secTotal (p ++ c)) p.length = secTotal (p ++ c) - p.length :=
        u32Sub_of_le (by omega) (by omega)
      have hlt := htot
      rw [List.length_append] at hlt
      obtain ⟨m₂, hm₂, htake₂, -⟩ := Mem.memcpy_part m₁ (c := c) (k := secTotal (p ++ c) - p.length) hp₁
        (by omega) (by omega)
      rw [Nat.add_sub_cancel' (by omega)] at htake₂
      rw [if_neg (Nat.not_lt.mpr hfit), if_pos (by omega), hsub', hm₂, hout]
      exact ⟨_, rfl, rfl, filled_of_take htot htake₂⟩
    · have hlt := htot
      rw [List.length_append] at hlt
      obtain ⟨m₂, hm₂, htake₂, -⟩ := Mem.memcpy_part m₁ (c := c) hp₁ (Nat.le_refl _) (by omega)
      rw [← List.length_append, List.take_length] at htake₂
      rw [if_neg (Nat.not_lt.mpr hfit), if_neg (by omega), hm₂, hout]
      exact ⟨_, rfl, rfl, by simp, htake₂, Or.inr ⟨by simpa [secFormat] using hfit, htot⟩,
        Or.inr (Or.inr ⟨rfl, h⟩)⟩

/-- From a buffer that holds part of a frame, `MSG_RecvData` does what the
framing says, and no access of it leaves its object. -/
theorem MSG_RecvData_spec {b : MSG_Buffer} {p c : List UInt8} (hb : b.Holds p)
    (hc : c.length ≤ CHUNK_MAXLEN) :
    ∃ r, MSG_RecvData b c = .ok r ∧ MSG_Buffer.Result r (secFormat.absorb p c) := by
  obtain ⟨len, status, m⟩ := b
  obtain ⟨hlen, htake, hopen, hstatus⟩ := hb
  simp only at hlen htake hstatus
  subst hlen
  obtain ⟨rfl, rfl⟩ | ⟨rfl, hhead⟩ | ⟨rfl, hhead⟩ := hstatus
  · exact recv_idle
  · exact recv_nohead htake hhead hc
  · exact recv_head htake hopen hhead hc

/-- While a message waits in the buffer, a chunk is refused. -/
theorem MSG_RecvData_full {b : MSG_Buffer} (hb : b.u8Status = MSG_BUFFER_FULL) (c : List UInt8) :
    MSG_RecvData b c = .ok (ZC_RET_ERROR, b) := by
  obtain ⟨len, status, m⟩ := b
  cases hb
  rfl

end ZCloud
