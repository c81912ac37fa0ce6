import ZCloud.MessageQueue.RecvData

open Memory Framing

namespace ZCloud

def ZC_MAGIC_LEN : Nat := 4
def ZC_MAX_UARTBUF_LEN : Nat := 1000

structure ZC_UartBuffer where
  u32Status : MSG_BUFFER
  u32RecvLen : Nat
  u8UartBuffer : Mem ZC_MAX_UARTBUF_LEN
deriving DecidableEq

def u8MagicHead : List UInt8 := [0x02, 0x03, 0x04, 0x05]

/-- The length of the magic and of the message head behind it. -/
def u32HeadLen : Nat := ZC_MAGIC_LEN + sizeof_ZC_MessageHead

/-- Collects the bytes `pu8Data` of the UART into the buffer. The last result is
`*pu32LeftLen`, the number of bytes at the end of `pu8Data` still to be handled. -/
def ZC_AssemblePkt (uart : ZC_UartBuffer) (pu8Data : List UInt8) :
    Except Fault (ZC_RET × ZC_UartBuffer × Nat) := do
  let u32DataLen := pu8Data.length
  let u32RecvLen := uart.u32RecvLen
  let u8UartBuffer := uart.u8UartBuffer
  match uart.u32Status with
  | MSG_BUFFER_FULL => return (ZC_RET_ERROR, uart, 0)
  | MSG_BUFFER_IDLE =>
    if u32DataLen < u32HeadLen then
      let m ← u8UartBuffer.memcpy 0 pu8Data u32DataLen
      return (ZC_RET_OK, ⟨MSG_BUFFER_SEGMENT_NOHEAD, u32DataLen, m⟩, 0)
    else if (← load pu8Data 0 4) ≠ u8MagicHead then
      return (ZC_RET_ERROR, ⟨MSG_BUFFER_IDLE, 0, u8UartBuffer⟩, 0)
    else
      let u32MsgLen := ZC_HTONS (← loadU16 pu8Data 8) + sizeof_ZC_MessageHead + ZC_MAGIC_LEN
      if u32MsgLen > ZC_MAX_UARTBUF_LEN then
        return (ZC_RET_ERROR, ⟨MSG_BUFFER_IDLE, 0, u8UartBuffer⟩, 0)
      else if u32MsgLen ≤ u32DataLen then
        let m ← u8UartBuffer.memcpy 0 pu8Data u32MsgLen
        return (ZC_RET_OK, ⟨MSG_BUFFER_FULL, u32MsgLen, m⟩, u32Sub u32DataLen u32MsgLen)
      else
        let m ← u8UartBuffer.memcpy 0 pu8Data u32DataLen
        return (ZC_RET_OK, ⟨MSG_BUFFER_SEGMENT_HEAD, u32DataLen, m⟩, 0)
  | MSG_BUFFER_SEGMENT_HEAD =>
    let u32MsgLen := ZC_HTONS (← loadU16 u8UartBuffer.bytes 8) + sizeof_ZC_MessageHead + ZC_MAGIC_LEN
    if u32MsgLen ≤ u32 (u32DataLen + u32RecvLen) then
      let m ← u8UartBuffer.memcpy u32RecvLen pu8Data (u32Sub u32MsgLen u32RecvLen)
      -- `u32RecvLen` is already `u32MsgLen` when the bytes left over are counted
      let u32RecvLen := u32MsgLen
      return (ZC_RET_OK, ⟨MSG_BUFFER_FULL, u32RecvLen, m⟩,
        u32Sub (u32 (u32DataLen + u32RecvLen)) u32MsgLen)
    else
      let m ← u8UartBuffer.memcpy u32RecvLen pu8Data u32DataLen
      return (ZC_RET_OK, ⟨MSG_BUFFER_SEGMENT_HEAD, u32 (u32RecvLen + u32DataLen), m⟩, 0)
  | MSG_BUFFER_SEGMENT_NOHEAD =>
    if u32 (u32RecvLen + u32DataLen) < u32HeadLen then
      let m ← u8UartBuffer.memcpy u32RecvLen pu8Data u32DataLen
      return (ZC_RET_OK, ⟨MSG_BUFFER_SEGMENT_NOHEAD, u32 (u32RecvLen + u32DataLen), m⟩, 0)
    else
      let m ← u8UartBuffer.memcpy u32RecvLen pu8Data (u32Sub u32HeadLen u32RecvLen)
      if (← load m.bytes 0 4) ≠ u8MagicHead then
        return (ZC_RET_ERROR, ⟨MSG_BUFFER_IDLE, 0, m⟩, 0)
      else
        let u32MsgLen := ZC_HTONS (← loadU16 m.bytes 8) + sizeof_ZC_MessageHead + ZC_MAGIC_LEN
        if u32MsgLen > ZC_MAX_UARTBUF_LEN then
          return (ZC_RET_ERROR, ⟨MSG_BUFFER_IDLE, 0, m⟩, 0)
        else if u32MsgLen ≤ u32 (u32DataLen + u32RecvLen) then
          let m ← m.memcpy u32RecvLen pu8Data (u32Sub u32MsgLen u32RecvLen)
          let u32RecvLen := u32MsgLen
          return (ZC_RET_OK, ⟨MSG_BUFFER_FULL, u32RecvLen, m⟩,
            u32Sub (u32 (u32DataLen + u32RecvLen)) u32MsgLen)
        else
          let m ← m.memcpy u32RecvLen pu8Data u32DataLen
          return (ZC_RET_OK, ⟨MSG_BUFFER_SEGMENT_HEAD, u32 (u32RecvLen + u32DataLen), m⟩, 0)

/-- The length of the packet whose first bytes are `p`, magic and head
included. -/
def uartTotal (p : List UInt8) : Nat :=
  ZC_HTONS (number ((p.drop 8).take 2)) + sizeof_ZC_MessageHead + ZC_MAGIC_LEN

theorem uartTotal_eq (p : List UInt8) :
    ZC_HTONS (number ((p.drop 8).take 2)) + sizeof_ZC_MessageHead + ZC_MAGIC_LEN = uartTotal p := rfl

theorem uartTotal_take {p : List UInt8} {n : Nat} (h : 10 ≤ n) : uartTotal (p.take n) = uartTotal p := by
  rw [uartTotal, List.drop_take, List.take_take, Nat.min_eq_left (by omega), uartTotal]

/-- The framing of the UART stream. -/
def uartFormat : Format UInt8 where
  head := u32HeadLen
  accept p := decide (p.take 4 = u8MagicHead ∧ uartTotal p ≤ ZC_MAX_UARTBUF_LEN)
  total := uartTotal
  head_pos := by decide
  accept_take p _ := by rw [uartTotal_take (by decide), List.take_take, Nat.min_eq_left (by decide)]
  total_take p _ := uartTotal_take (by decide)
  head_le_total p _ := by
    rw [uartTotal, u32HeadLen]
    omega

/-- The buffer holds the part `p` of a packet. -/
def ZC_UartBuffer.Holds (uart : ZC_UartBuffer) (p : List UInt8) : Prop :=
  Holding uartFormat uart.u32Status uart.u32RecvLen uart.u8UartBuffer.bytes p

/-- The buffer holds the whole packet `f`. -/
def ZC_UartBuffer.Full (uart : ZC_UartBuffer) (f : List UInt8) : Prop :=
  Filled uart.u32Status uart.u32RecvLen uart.u8UartBuffer.bytes f

/-- What `ZC_AssemblePkt` returns and leaves for each outcome of the framing of
the chunk `c`. A packet completed from the `IDLE` state leaves what follows it
in the chunk to be handled. One whose beginning was already in the buffer leaves
the whole chunk, the bytes just used included. -/
def ZC_UartBuffer.Result (idle : Prop) [Decidable idle] (c : List UInt8)
    (r : ZC_RET × ZC_UartBuffer × Nat) : Outcome UInt8 → Prop
  | .pending q => r.1 = ZC_RET_OK ∧ r.2.1.Holds q ∧ r.2.2 = 0
  | .complete f rest =>
    r.1 = ZC_RET_OK ∧ r.2.1.Full f ∧ r.2.2 = if idle then rest.length else c.length
  | .reject => r.1 = ZC_RET_ERROR ∧ r.2.1.Holds [] ∧ r.2.1.u32Status = MSG_BUFFER_IDLE ∧ r.2.2 = 0

/-- The ways in which a chunk is taken in, in the words of the source. -/
theorem uartFormat_cases (p c : List UInt8) :
    (p ++ c).length < u32HeadLen ∧ uartFormat.absorb p c = .pending (p ++ c) ∨
    (u32HeadLen ≤ (p ++ c).length ∧ (p ++ c).take 4 ≠ u8MagicHead) ∧
      uartFormat.absorb p c = .reject ∨
    (u32HeadLen ≤ (p ++ c).length ∧ (p ++ c).take 4 = u8MagicHead ∧
      uartTotal (p ++ c) > ZC_MAX_UARTBUF_LEN) ∧ uartFormat.absorb p c = .reject ∨
    (u32HeadLen ≤ (p ++ c).length ∧ (p ++ c).take 4 = u8MagicHead ∧
      uartTotal (p ++ c) ≤ ZC_MAX_UARTBUF_LEN ∧ uartTotal (p ++ c) ≤ (p ++ c).length) ∧
      uartFormat.absorb p c =
        .complete ((p ++ c).take (uartTotal (p ++ c))) ((p ++ c).drop (uartTotal (p ++ c))) ∨
    (u32HeadLen ≤ (p ++ c).length ∧ (p ++ c).take 4 = u8MagicHead ∧
      uartTotal (p ++ c) ≤ ZC_MAX_UARTBUF_LEN ∧ (p ++ c).length < uartTotal (p ++ c)) ∧
      uartFormat.absorb p c = .pending (p ++ c) := by
  have h := Format.absorb_cases (F := uartFormat) p c
  simp only [uartFormat, decide_eq_true_eq, decide_eq_false_iff_not] at h
  obtain ⟨h, hout⟩ | ⟨⟨h, hacc⟩, hout⟩ | ⟨⟨h, ⟨hmagic, hfit⟩, htot⟩, hout⟩ |
    ⟨⟨h, ⟨hmagic, hfit⟩, htot⟩, hout⟩ := h
  · exact Or.inl ⟨h, hout⟩
  · by_cases hmagic : (p ++ c).take 4 = u8MagicHead
    · exact Or.inr (Or.inr (Or.inl ⟨⟨h, hmagic, Nat.not_le.mp fun hle => hacc ⟨hmagic, hle⟩⟩, hout⟩))
    · exact Or.inr (Or.inl ⟨⟨h, hmagic⟩, hout⟩)
  · exact Or.inr (Or.inr (Or.inr (Or.inl ⟨⟨h, hmagic, hfit, htot⟩, hout⟩)))
  · exact Or.inr (Or.inr (Or.inr (Or.inr ⟨⟨h, hmagic, hfit, htot⟩, hout⟩)))

private theorem accept_uart {p : List UInt8} (hmagic : p.take 4 = u8MagicHead)
    (hfit : uartTotal p ≤ ZC_MAX_UARTBUF_LEN) : uartFormat.accept p = true :=
  decide_eq_true ⟨hmagic, hfit⟩

private theorem assemble_idle {len : Nat} {m : Mem ZC_MAX_UARTBUF_LEN} {c : List UInt8}
    (hc : c.length ≤ CHUNK_MAXLEN) :
    ∃ r, ZC_AssemblePkt ⟨MSG_BUFFER_IDLE, len, m⟩ c = .ok r ∧
      ZC_UartBuffer.Result True c r (uartFormat.absorb [] c) := by
  have hcopy := fun k hk hfit => Mem.memcpy_part m (p := []) (c := c) (k := k) rfl hk hfit
  simp only [List.length_nil, Nat.zero_add, List.nil_append] at hcopy
  have hhead : u32HeadLen = 12 := rfl
  have hmagicLoad : u32HeadLen ≤ c.length → load c 0 4 = .ok (c.take 4) :=
    fun h => load_of_le (by omega)
  have hload : u32HeadLen ≤ c.length → loadU16 c 8 = .ok (number ((c.drop 8).take 2)) :=
    fun h => loadU16_of_take (k := 12) rfl (by omega) h
  have hcases := uartFormat_cases [] c
  simp only [List.nil_append] at hcases
  simp only [ZC_AssemblePkt]
  obtain ⟨h, hout⟩ | ⟨⟨h, hmagic⟩, hout⟩ | ⟨⟨h, hmagic, hbig⟩, hout⟩ |
    ⟨⟨h, hmagic, hfit, htot⟩, hout⟩ | ⟨⟨h, hmagic, hfit, htot⟩, hout⟩ := hcases
  · obtain ⟨m', hm, htake, -⟩ := hcopy c.length (Nat.le_refl _)
      (Nat.le_of_lt (Nat.lt_of_lt_of_le h (by decide)))
    rw [if_pos h, hm, hout]
    exact ⟨_, rfl, rfl, ⟨rfl, by simpa using htake, Or.inl h, Or.inr (Or.inl ⟨rfl, h⟩)⟩, rfl⟩
  · rw [if_neg (Nat.not_lt.mpr h), hmagicLoad h, hout, ok_bind, if_pos hmagic]
    exact ⟨_, rfl, rfl, Holding.nil, rfl, rfl⟩
  · rw [if_neg (Nat.not_lt.mpr h), hmagicLoad h, hout, ok_bind, if_neg (not_not_intro hmagic), hload h,
      ok_bind, uartTotal_eq, if_pos hbig]
    exact ⟨_, rfl, rfl, Holding.nil, rfl, rfl⟩
  · obtain ⟨m', hm, htake, -⟩ := hcopy (uartTotal c) htot hfit
    have hleft : u32Sub c.length (uartTotal c) = c.length - uartTotal c :=
      u32Sub_of_le htot (by unfold CHUNK_MAXLEN at hc; omega)
    rw [if_neg (Nat.not_lt.mpr h), hmagicLoad h, hout, ok_bind, if_neg (not_not_intro hmagic), hload h,
      ok_bind, uartTotal_eq, if_neg (Nat.not_lt.mpr hfit), if_pos htot, hm, hleft]
    exact ⟨_, rfl, rfl, filled_of_take htot htake, List.length_drop.symm⟩
  · obtain ⟨m', hm, htake, -⟩ := hcopy c.length (Nat.le_refl _) (by omega)
    rw [if_neg (Nat.not_lt.mpr h), hmagicLoad h, hout, ok_bind, if_neg (not_not_intro hmagic), hload h,
      ok_bind, uartTotal_eq, if_neg (Nat.not_lt.mpr hfit), if_neg (Nat.not_le.mpr htot), hm]
    exact ⟨_, rfl, rfl, ⟨rfl, by simpa using htake, Or.inr ⟨accept_uart hmagic hfit, htot⟩,
      Or.inr (Or.inr ⟨rfl, h⟩)⟩, rfl⟩

private theorem assemble_head {m : Mem ZC_MAX_UARTBUF_LEN} {p c : List UInt8}
    (hp : m.bytes.take p.length = p) (hopen : uartFormat.Open p) (hhead : u32HeadLen ≤ p.length)
    (hc : c.length ≤ CHUNK_MAXLEN) :
    ∃ r, ZC_AssemblePkt ⟨MSG_BUFFER_SEGMENT_HEAD, p.length, m⟩ c = .ok r ∧
      ZC_UartBuffer.Result False c r (uartFormat.absorb p c) := by
  have hlen : p.length ≤ m.bytes.length := by
    rw [← hp, List.length_take]
    omega
  obtain ⟨hmagic, hfit, hlt⟩ : p.take 4 = u8MagicHead ∧ uartTotal p ≤ ZC_MAX_UARTBUF_LEN ∧
      p.length < uartTotal p := by
    rcases hopen with h | ⟨h, h'⟩
    · exact absurd h (Nat.not_lt.mpr hhead)
    · obtain ⟨hmagic, hfit⟩ := of_decide_eq_true h
      exact ⟨hmagic, hfit, h'⟩
  have hmagic' : (p ++ c).take 4 = u8MagicHead := by
    rw [List.take_append_of_le_length (Nat.le_trans (by decide) hhead), hmagic]
  have htotal : uartTotal (p ++ c) = uartTotal p := Format.total_append (F := uartFormat) hhead
  have hload : loadU16 m.bytes 8 = .ok (number ((p.drop 8).take 2)) :=
    loadU16_of_take (by rw [hp, List.take_length]) (Nat.le_trans (by decide) hhead) hlen
  have hmax : ZC_MAX_UARTBUF_LEN = 1000 := rfl
  have hsum : u32 (c.length + p.length) = c.length + p.length :=
    u32_of_lt (by unfold CHUNK_MAXLEN at hc; omega)
  have hsum' : u32 (p.length + c.length) = p.length + c.length := by
    rw [Nat.add_comm, hsum]
  have hsub : u32Sub (uartTotal p) p.length = uartTotal p - p.length :=
    u32Sub_of_le (by omega) (by omega)
  have hleft : u32Sub (u32 (c.length + uartTotal p)) (uartTotal p) = c.length := by
    rw [u32_of_lt (by unfold CHUNK_MAXLEN at hc; omega), u32Sub_of_le (by omega)
      (by unfold CHUNK_MAXLEN at hc; omega), Nat.add_sub_cancel]
  have hcases := uartFormat_cases p c
  rw [htotal, hmagic'] at hcases
  simp only [ZC_AssemblePkt]
  rw [hload, ok_bind, uartTotal_eq, hsum, hsub, hsum', hleft]
  obtain ⟨h, hout⟩ | ⟨⟨h, hbad⟩, hout⟩ | ⟨⟨h, -, hbig⟩, hout⟩ | ⟨⟨h, -, -, htot⟩, hout⟩ |
    ⟨⟨h, -, -, htot⟩, hout⟩ := hcases
  · rw [List.length_append] at h
    omega
  · exact absurd rfl hbad
  · omega
  · rw [List.length_append] at htot
    obtain ⟨m', hm, htake, -⟩ := Mem.memcpy_part m (c := c) (k := uartTotal p - p.length) hp (by omega)
      (by omega)
    rw [Nat.add_sub_cancel' (by omega)] at htake
    rw [if_pos (by omega), hm, hout]
    exact ⟨_, rfl, rfl, filled_of_take (by rw [List.length_append]; omega) htake, rfl⟩
  · have hshort := htot
    rw [List.length_append] at hshort
    obtain ⟨m', hm, htake, -⟩ := Mem.memcpy_part m (c := c) hp (Nat.le_refl _) (by omega)
    rw [if_neg (by omega), hm, hout]
    rw [← List.length_append, List.take_length] at htake
    exact ⟨_, rfl, rfl, ⟨by simp, htake,
      Or.inr ⟨accept_uart hmagic' (by rwa [htotal]), by rwa [← htotal] at htot⟩,
      Or.inr (Or.inr ⟨rfl, h⟩)⟩, rfl⟩

private theorem assemble_nohead {m : Mem ZC_MAX_UARTBUF_LEN} {p c : List UInt8}
    (hp : m.bytes.take p.length = p) (hshort : p.length < u32HeadLen) (hc : c.length ≤ CHUNK_MAXLEN) :
    ∃ r, ZC_AssemblePkt ⟨MSG_BUFFER_SEGMENT_NOHEAD, p.length, m⟩ c = .ok r ∧
      ZC_UartBuffer.Result False c r (uartFormat.absorb p c) := by
  have hhead : u32HeadLen = 12 := rfl
  have hmax : ZC_MAX_UARTBUF_LEN = 1000 := rfl
  have hsum : u32 (c.length + p.length) = c.length + p.length :=
    u32_of_lt (by unfold CHUNK_MAXLEN at hc; omega)
  have hsum' : u32 (p.length + c.length) = p.length + c.length := by
    rw [Nat.add_comm, hsum]
  have hsub : u32Sub u32HeadLen p.length = u32HeadLen - p.length :=
    u32Sub_of_le (by omega) (by omega)
  simp only [ZC_AssemblePkt]
  rw [hsum, hsum', hsub]
  by_cases hin : (p ++ c).length < u32HeadLen
  · have hlt := hin
    rw [List.length_append] at hlt
    obtain ⟨m', hm, htake, -⟩ := Mem.memcpy_part m (c := c) hp (Nat.le_refl _) (by omega)
    rw [← List.length_append, List.take_length] at htake
    have hout : uartFormat.absorb p c = .pending (p ++ c) := if_pos hin
    rw [if_pos (by omega), hm, hout]
    exact ⟨_, rfl, rfl, ⟨by simp, htake, Or.inl hin, Or.inr (Or.inl ⟨rfl, hin⟩)⟩, rfl⟩
  · have hge := hin
    rw [List.length_append] at hge
    obtain ⟨m₁, hm₁, htake₁, hp₁⟩ := Mem.memcpy_part m (c := c) (k := u32HeadLen - p.length) hp
      (by omega) (by omega)
    rw [Nat.add_sub_cancel' (by omega)] at htake₁
    have hmagicLoad : load m₁.bytes 0 4 = .ok ((p ++ c).take 4) := by
      have := congrArg (List.take 4) htake₁
      simp only [List.take_take, hhead, Nat.reduceLeDiff, Nat.min_eq_left] at this
      rw [load_of_le (by rw [m₁.length_bytes]; decide), List.drop_zero, this]
    have hload : loadU16 m₁.bytes 8 = .ok (number (((p ++ c).drop 8).take 2)) :=
      loadU16_of_take htake₁ (by decide) (by rw [m₁.length_bytes]; decide)
    rw [if_neg (by omega), hm₁, ok_bind, hmagicLoad, ok_bind]
    obtain ⟨h, -⟩ | ⟨⟨-, hmagic⟩, hout⟩ | ⟨⟨-, hmagic, hbig⟩, hout⟩ |
      ⟨⟨-, hmagic, hfit, htot⟩, hout⟩ | ⟨⟨h, hmagic, hfit, htot⟩, hout⟩ := uartFormat_cases p c
    · exact absurd h hin
    · rw [if_pos hmagic, hout]
      exact ⟨_, rfl, rfl, Holding.nil, rfl, rfl⟩
    · rw [if_neg (not_not_intro hmagic), hload, ok_bind, uartTotal_eq, if_pos hbig, hout]
      exact ⟨_, rfl, rfl, Holding.nil, rfl, rfl⟩
    · have hmin : u32HeadLen ≤ uartTotal (p ++ c) := uartFormat.head_le_total _ (Nat.not_lt.mp hin)
      have hsub' : u32Sub (uartTotal (p ++ c)) p.length = uartTotal (p ++ c) - p.length :=
        u32Sub_of_le (by omega) (by omega)
      have hleft : u32Sub (u32 (c.length + uartTotal (p ++ c))) (uartTotal (p ++ c)) = c.length := by
        rw [u32_of_lt (by unfold CHUNK_MAXLEN at hc; omega), u32Sub_of_le (by omega)
          (by unfold CHUNK_MAXLEN at hc; omega), Nat.add_sub_cancel]
      have hlt := htot
      rw [List.length_append] at hlt
      obtain ⟨m₂, hm₂, htake₂, -⟩ := Mem.memcpy_part m₁ (c := c) (k := uartTotal (p ++ c) - p.length) hp₁
        (by omega) (by omega)
      rw [Nat.add_sub_cancel' (by omega)] at htake₂
      rw [if_neg (not_not_intro hmagic), hload, ok_bind, uartTotal_eq, if_neg (Nat.not_lt.mpr hfit),
        if_pos (by omega), hsub', hm₂, hleft, hout]
      exact ⟨_, rfl, rfl, filled_of_take htot htake₂, rfl⟩
    · have hlt := htot
      rw [List.length_append] at hlt
      obtain ⟨m₂, hm₂, htake₂, -⟩ := Mem.memcpy_part m₁ (c := c) hp₁ (Nat.le_refl _) (by omega)
      rw [← List.length_append, List.take_length] at htake₂
      rw [if_neg (not_not_intro hmagic), hload, ok_bind, uartTotal_eq, if_neg (Nat.not_lt.mpr hfit),
        if_neg (by omega), hm₂, hout]
      exact ⟨_, rfl, rfl, ⟨by simp, htake₂, Or.inr ⟨accept_uart hmagic hfit, htot⟩,
        Or.inr (Or.inr ⟨rfl, h⟩)⟩, rfl⟩

/-- From a buffer that holds part of a packet, `ZC_AssemblePkt` does what the
framing says, and no access of it leaves its object. -/
theorem ZC_AssemblePkt_spec {uart : ZC_UartBuffer} {p c : List UInt8} (hu : uart.Holds p)
    (hc : c.length ≤ CHUNK_MAXLEN) :
    ∃ r, ZC_AssemblePkt uart c = .ok r ∧
      ZC_UartBuffer.Result (uart.u32Status = MSG_BUFFER_IDLE) c r (uartFormat.absorb p c) := by
  obtain ⟨status, len, m⟩ := uart
  obtain ⟨hlen, htake, hopen, hstatus⟩ := hu
  simp only at hlen htake hstatus
  subst hlen
  obtain ⟨rfl, rfl⟩ | ⟨rfl, hhead⟩ | ⟨rfl, hhead⟩ := hstatus
  · simpa [ZC_UartBuffer.Result] using assemble_idle hc
  · simpa [ZC_UartBuffer.Result] using assemble_nohead htake hhead hc
  · simpa [ZC_UartBuffer.Result] using assemble_head htake hopen hhead hc

end ZCloud
