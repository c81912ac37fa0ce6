import Mathlib.Logic.Relation
import ZCloud.MoudleManager.Moudlefunc
import ZCloud.MoudleManager.Reassembly

open Memory Program Framing

namespace ZCloud

/-- `x` reads nothing outside its objects, and what it returns satisfies `P`. -/
def ReadsWithin {α : Type} (P : α → Prop) (x : Except Fault α) : Prop :=
  x ≠ .error .read ∧ ∀ a, x = .ok a → P a

section

variable {α β : Type} {P : α → Prop} {Q : β → Prop}

theorem readsWithin_ok {a : α} (h : P a) : ReadsWithin P (.ok a) :=
  ⟨nofun, fun _ heq => Except.ok.inj heq ▸ h⟩

theorem ReadsWithin.bind {x : Except Fault α} {f : α → Except Fault β} (hx : ReadsWithin P x)
    (hf : ∀ a, P a → ReadsWithin Q (f a)) : ReadsWithin Q (x >>= f) := by
  cases x with
  | error e =>
    refine ⟨fun h => hx.1 ?_, nofun⟩
    simpa using h
  | ok a => exact hf a (hx.2 a rfl)

theorem readsWithin_load {view : List UInt8} {off len : Nat} (h : off + len ≤ view.length) :
    ReadsWithin (fun _ => True) (load view off len) := by
  rw [load_of_le h]
  exact readsWithin_ok trivial

theorem readsWithin_loadU16 {view : List UInt8} {off : Nat} (h : off + 2 ≤ view.length) :
    ReadsWithin (fun _ => True) (loadU16 view off) :=
  (readsWithin_load h).bind fun _ _ => readsWithin_ok trivial

/-- A copy that does not fit is a write outside the array. -/
theorem readsWithin_memcpy {n : Nat} (m : Mem n) (off : Nat) {src : List UInt8} {len : Nat} (h : len ≤ src.length) :
    ReadsWithin (fun _ => True) (m.memcpy off src len) := by
  refine (readsWithin_load (by omega)).bind fun data _ => ?_
  rw [Mem.store]
  split
  · exact readsWithin_ok trivial
  · exact ⟨(fun h => by cases h), fun _ h => by cases h⟩

end

/-- What `ZC_AssemblePkt` leaves of the chunk `c`: a part of it, and one byte of it at
least is gone where the packet began in the chunk. -/
def Leaves (uart : ZC_UartBuffer) (c : List UInt8) (r : ZC_RET × ZC_UartBuffer × Nat) : Prop :=
  r.2.2 ≤ c.length ∧ (0 < r.2.2 → r.2.1.u32Status = MSG_BUFFER_FULL ∧
    (uart.u32Status = MSG_BUFFER_IDLE → r.2.2 < c.length))

theorem leaves_none (uart : ZC_UartBuffer) (c : List UInt8) (ret : ZC_RET) (uart' : ZC_UartBuffer) :
    Leaves uart c (ret, uart', 0) :=
  ⟨Nat.zero_le _, fun h => absurd h (Nat.lt_irrefl _)⟩

/-- The bytes counted as left over are those of the whole chunk. -/
theorem u32Sub_u32_add (n total : Nat) (hn : n < 4294967296) (htotal : total ≤ ZC_MAX_UARTBUF_LEN) :
    u32Sub (u32 (n + total)) total = n := by
  have hmax : ZC_MAX_UARTBUF_LEN = 1000 := rfl
  simp only [u32Sub, u32]
  omega

section

variable {uart : ZC_UartBuffer} {c : List UInt8}

private theorem leaves_idle {len : Nat} {m : Mem ZC_MAX_UARTBUF_LEN} (hc : c.length < 4294967296) :
    ReadsWithin (Leaves ⟨MSG_BUFFER_IDLE, len, m⟩ c) (ZC_AssemblePkt ⟨MSG_BUFFER_IDLE, len, m⟩ c) := by
  have hhead : u32HeadLen = 12 := rfl
  simp only [ZC_AssemblePkt]
  split
  · exact (readsWithin_memcpy _ _ (Nat.le_refl _)).bind fun _ _ => readsWithin_ok (leaves_none _ _ _ _)
  · refine (readsWithin_load (by omega)).bind fun magic _ => ?_
    split
    · exact readsWithin_ok (leaves_none _ _ _ _)
    · refine (readsWithin_loadU16 (by omega)).bind fun Payloadlen _ => ?_
      generalize htotal : ZC_HTONS Payloadlen + sizeof_ZC_MessageHead + ZC_MAGIC_LEN = u32MsgLen
      have hpos : 0 < u32MsgLen := by
        have : sizeof_ZC_MessageHead = 8 := rfl
        omega
      split
      · exact readsWithin_ok (leaves_none _ _ _ _)
      · split
        · rename_i hle
          refine (readsWithin_memcpy _ _ hle).bind fun _ _ => readsWithin_ok ?_
          have hleft : u32Sub c.length u32MsgLen = c.length - u32MsgLen := u32Sub_of_le hle hc
          simp only [Leaves, hleft]
          exact ⟨Nat.sub_le _ _, fun _ => ⟨trivial, fun _ => by omega⟩⟩
        · exact (readsWithin_memcpy _ _ (Nat.le_refl _)).bind fun _ _ => readsWithin_ok (leaves_none _ _ _ _)

/-- A packet whose beginning is in the buffer takes its remaining bytes from the chunk,
and all of the chunk is left over. -/
private theorem leaves_complete {m : Mem ZC_MAX_UARTBUF_LEN} {len total : Nat} (hidle : uart.u32Status ≠ MSG_BUFFER_IDLE)
    (hc : c.length < 4294967296) (hlen : len < total) (htotal : total ≤ ZC_MAX_UARTBUF_LEN)
    (hle : total ≤ u32 (c.length + len)) :
    ReadsWithin (Leaves uart c) (do
      let m ← m.memcpy len c (u32Sub total len)
      return (ZC_RET_OK, ⟨MSG_BUFFER_FULL, total, m⟩, u32Sub (u32 (c.length + total)) total)) := by
  have hmax : ZC_MAX_UARTBUF_LEN = 1000 := rfl
  have hsum : u32 (c.length + len) ≤ c.length + len := Nat.mod_le _ _
  have hcopy : u32Sub total len = total - len := u32Sub_of_le (by omega) (by omega)
  refine (readsWithin_memcpy m len (by omega)).bind fun _ _ => readsWithin_ok ?_
  simp only [Leaves, u32Sub_u32_add _ _ hc htotal]
  exact ⟨Nat.le_refl _, fun _ => ⟨trivial, fun h => absurd h hidle⟩⟩

private theorem leaves_pending (uart : ZC_UartBuffer) (m : Mem ZC_MAX_UARTBUF_LEN) (len : Nat) (status : MSG_BUFFER) (k : Nat) :
    ReadsWithin (Leaves uart c) (do
      let m ← m.memcpy len c c.length
      return (ZC_RET_OK, ⟨status, k, m⟩, 0)) :=
  (readsWithin_memcpy m len (Nat.le_refl _)).bind fun _ _ => readsWithin_ok (leaves_none _ _ _ _)

/-- `ZC_AssemblePkt` reads nothing outside the chunk, and leaves a part of it. -/
theorem ZC_AssemblePkt_leaves
    (hu : Bounded u32HeadLen uartTotal ZC_MAX_UARTBUF_LEN uart.u32Status uart.u32RecvLen uart.u8UartBuffer.bytes)
    (hc : c.length < 4294967296) : ReadsWithin (Leaves uart c) (ZC_AssemblePkt uart c) := by
  obtain ⟨status, len, m⟩ := uart
  have hhead : u32HeadLen = 12 := rfl
  have hmax : ZC_MAX_UARTBUF_LEN = 1000 := rfl
  have hbytes : m.bytes.length = 1000 := m.length_bytes
  cases status with
  | MSG_BUFFER_IDLE => exact leaves_idle hc
  | MSG_BUFFER_FULL => exact readsWithin_ok (leaves_none _ _ _ _)
  | MSG_BUFFER_SEGMENT_HEAD =>
    obtain ⟨-, hlt, hfits⟩ := hu.segment rfl
    simp only [ZC_AssemblePkt]
    rw [loadU16_of_take (k := 1000) rfl (by decide) (by omega), ok_bind, uartTotal_eq]
    split
    · exact leaves_complete (fun h => by cases h) hc hlt hfits ‹_›
    · exact leaves_pending _ _ _ _ _
  | MSG_BUFFER_SEGMENT_NOHEAD =>
    have hshort : len < u32HeadLen := hu.nohead rfl
    simp only [ZC_AssemblePkt]
    split
    · exact leaves_pending _ _ _ _ _
    · rename_i hge
      have hsum : u32 (len + c.length) ≤ len + c.length := Nat.mod_le _ _
      have hcopy : u32Sub u32HeadLen len = u32HeadLen - len := u32Sub_of_le (by omega) (by omega)
      refine (readsWithin_memcpy _ _ (by omega)).bind fun m₁ _ => ?_
      have hbytes₁ : m₁.bytes.length = 1000 := m₁.length_bytes
      refine (readsWithin_load (by omega)).bind fun magic _ => ?_
      split
      · exact readsWithin_ok (leaves_none _ _ _ _)
      · refine (readsWithin_loadU16 (by omega)).bind fun Payloadlen _ => ?_
        generalize htotal : ZC_HTONS Payloadlen + sizeof_ZC_MessageHead + ZC_MAGIC_LEN = u32MsgLen
        have hmin : u32HeadLen ≤ u32MsgLen := by
          have : sizeof_ZC_MessageHead = 8 := rfl
          have : ZC_MAGIC_LEN = 4 := rfl
          omega
        split
        · exact readsWithin_ok (leaves_none _ _ _ _)
        · split
          · exact leaves_complete (fun h => by cases h) hc (by omega) (by omega) ‹_›
          · exact leaves_pending _ _ _ _ _

end

/-- A call of `ZC_Moudlefunc`: the data it is given, and the globals it finds. -/
abbrev MoudleCall (σ : Type) : Type := List UInt8 × ZC_UartBuffer × σ

section

variable {σ : Type} (recvDataFromMoudle : List UInt8 → Nat → Prog σ ZC_RET)

/-- What a call of `ZC_Moudlefunc` does before it ends: the globals it leaves, and the
data of the call that it ends with, if it ends with one. -/
def moudleBody : MoudleCall σ → Except Fault ((ZC_UartBuffer × σ) × Option (List UInt8))
  | (pu8Data, uart, s) => do
    if pu8Data.length = 0 then
      return ((uart, s), none)
    let (u32RetVal, uart, u32LeftLen) ← ZC_AssemblePkt uart pu8Data
    if u32RetVal = ZC_RET_ERROR then
      return ((uart, s), none)
    let (uart, s) ←
      if uart.u32Status = MSG_BUFFER_FULL then do
        let (_, s) ← (recvDataFromMoudle (uart.u8UartBuffer.bytes.drop ZC_MAGIC_LEN)
          (u16 (u32Sub uart.u32RecvLen ZC_MAGIC_LEN))).run s
        pure (⟨MSG_BUFFER_IDLE, 0, uart.u8UartBuffer⟩, s)
      else pure (uart, s)
    if u32LeftLen > 0 then
      return ((uart, s), some (pu8Data.drop (u32Sub pu8Data.length u32LeftLen)))
    else return ((uart, s), none)

/-- The call `x` ends with the call `y`. -/
def Recurses (y x : MoudleCall σ) : Prop := moudleBody recvDataFromMoudle x = .ok (y.2, some y.1)

theorem moudlefuncDepth_succ (depth : Nat) (pu8Data : List UInt8) (s : ZC_UartBuffer × σ) :
    ZC_MoudlefuncDepth recvDataFromMoudle (depth + 1) pu8Data s = (do
      match ← moudleBody recvDataFromMoudle (pu8Data, s) with
      | (s, none) => return s
      | (s, some pu8Left) => ZC_MoudlefuncDepth recvDataFromMoudle depth pu8Left s) := by
  obtain ⟨uart, s⟩ := s
  simp only [ZC_MoudlefuncDepth, moudleBody]
  by_cases hzero : pu8Data.length = 0
  · rw [if_pos hzero, if_pos hzero]
    rfl
  · rw [if_neg hzero, if_neg hzero]
    cases ZC_AssemblePkt uart pu8Data with
    | error e => rfl
    | ok r =>
      simp only [ok_bind]
      by_cases hret : r.1 = ZC_RET_ERROR
      · rw [if_pos hret, if_pos hret]
        rfl
      · rw [if_neg hret, if_neg hret]
        by_cases hfull : r.2.1.u32Status = MSG_BUFFER_FULL
        · rw [if_pos hfull, if_pos hfull]
          cases (recvDataFromMoudle (r.2.1.u8UartBuffer.bytes.drop ZC_MAGIC_LEN)
            (u16 (u32Sub r.2.1.u32RecvLen ZC_MAGIC_LEN))).run s with
          | error e => rfl
          | ok called =>
            by_cases hleft : r.2.2 > 0
            · simp only [if_pos hleft]
              rfl
            · simp only [if_neg hleft]
              rfl
        · rw [if_neg hfull, if_neg hfull]
          by_cases hleft : r.2.2 > 0
          · simp [hleft]
          · simp [hleft]

variable {recvDataFromMoudle} {x y : MoudleCall σ}

/-- The buffer keeps to its bounds, and the length of the data is a `u32`. -/
structure MoudleCall.Sound (x : MoudleCall σ) : Prop where
  bounded : Bounded u32HeadLen uartTotal ZC_MAX_UARTBUF_LEN x.2.1.u32Status x.2.1.u32RecvLen x.2.1.u8UartBuffer.bytes
  length_lt : x.1.length < 4294967296

/-- The data gets shorter from one call to the next, but for the first call on a buffer
that holds part of a packet. -/
def MoudleCall.size (x : MoudleCall σ) : Nat := x.1.length + if x.2.1.u32Status = MSG_BUFFER_IDLE then 0 else 1

theorem MoudleCall.sound_of_idle (hidle : y.2.1.u32Status = MSG_BUFFER_IDLE) (hlen : y.1.length < 4294967296) : y.Sound := by
  refine ⟨?_, hlen⟩
  rw [hidle]
  exact ⟨nofun, nofun, nofun⟩

/-- What a call hands on: the globals have an idle buffer, and the data is the end of
its own. -/
theorem Recurses.spec (h : Recurses recvDataFromMoudle y x) (hx : x.Sound) :
    y.2.1.u32Status = MSG_BUFFER_IDLE ∧ y.1 <:+ x.1 ∧
      (x.2.1.u32Status = MSG_BUFFER_IDLE → y.1.length < x.1.length) := by
  obtain ⟨pu8Data, uart, s⟩ := x
  obtain ⟨pu8Left, uart', s'⟩ := y
  simp only [Recurses, moudleBody] at h
  split at h
  · cases h
  · obtain ⟨⟨u32RetVal, uart₁, u32LeftLen⟩, hassemble, h⟩ := bind_eq_ok.mp h
    obtain ⟨hle, hpos⟩ := (ZC_AssemblePkt_leaves hx.bounded hx.length_lt).2 _ hassemble
    simp only at hle hpos h
    split at h
    · cases h
    · by_cases hleft : u32LeftLen > 0
      · obtain ⟨hfull, hless⟩ := hpos hleft
        rw [if_pos hfull] at h
        obtain ⟨⟨ret, s₁⟩, -, h⟩ := bind_eq_ok.mp h
        obtain ⟨⟨uart₂, s₂⟩, hreset, h⟩ := bind_eq_ok.mp h
        cases hreset
        rw [if_pos hleft] at h
        cases h
        have hsub : u32Sub pu8Data.length u32LeftLen = pu8Data.length - u32LeftLen := u32Sub_of_le hle hx.length_lt
        refine ⟨rfl, List.drop_suffix _ _, fun hidle => ?_⟩
        have := hless hidle
        simp only [hsub, List.length_drop]
        omega
      · -- nothing is left over, and no call is made
        simp only [if_neg hleft] at h
        split at h
        · obtain ⟨⟨ret, s₁⟩, -, h⟩ := bind_eq_ok.mp h
          cases h
        · cases h

theorem Recurses.sound (h : Recurses recvDataFromMoudle y x) (hx : x.Sound) : y.Sound := by
  obtain ⟨hidle, hsuffix, -⟩ := h.spec hx
  exact MoudleCall.sound_of_idle hidle (Nat.lt_of_le_of_lt hsuffix.length_le hx.length_lt)

theorem Recurses.size_lt (h : Recurses recvDataFromMoudle y x) (hx : x.Sound) : y.size < x.size := by
  obtain ⟨hidle, hsuffix, hless⟩ := h.spec hx
  have hle := hsuffix.length_le
  simp only [MoudleCall.size, hidle, if_true]
  by_cases hx' : x.2.1.u32Status = MSG_BUFFER_IDLE
  · have := hless hx'
    simp [hx', this]
  · simp only [hx', if_false]
    omega

/-- The calls that each end with the next come to an end. -/
theorem MoudleCall.Sound.acc (hx : x.Sound) : Acc (Recurses recvDataFromMoudle) x := by
  induction hsize : x.size using Nat.strongRecOn generalizing x with
  | ind n ih => exact ⟨x, fun y h => ih y.size (hsize ▸ h.size_lt hx) (h.sound hx) rfl⟩

/-- A bound that no call reaches can as well be greater. -/
theorem moudlefuncDepth_succ_eq {depth : Nat} (hx : x.Sound) (hdepth : x.size < depth) :
    ZC_MoudlefuncDepth recvDataFromMoudle (depth + 1) x.1 x.2 = ZC_MoudlefuncDepth recvDataFromMoudle depth x.1 x.2 := by
  induction depth generalizing x with
  | zero => exact absurd hdepth (Nat.not_lt_zero _)
  | succ depth ih =>
    rw [moudlefuncDepth_succ, moudlefuncDepth_succ]
    cases hbody : moudleBody recvDataFromMoudle (x.1, x.2) with
    | error e => rfl
    | ok r =>
      obtain ⟨s, _ | pu8Left⟩ := r
      · rfl
      · have hrec : Recurses recvDataFromMoudle (pu8Left, s) x := hbody
        exact ih (hrec.sound hx) (Nat.lt_of_lt_of_le (hrec.size_lt hx) (Nat.le_of_lt_succ hdepth))

theorem MoudleCall.Sound.calls {call : MoudleCall σ} (hx : x.Sound)
    (h : Relation.ReflTransGen (fun x y => Recurses recvDataFromMoudle y x) x call) : call.Sound ∧ call.1 <:+ x.1 := by
  induction h with
  | refl => exact ⟨hx, List.suffix_refl _⟩
  | tail _ hrec ih => exact ⟨hrec.sound ih.1, (hrec.spec ih.1).2.1.trans ih.2⟩

/-- `ZC_Moudlefunc` terminates: the calls that it leads to come to an end, and the depth
at which the model cuts them off is not reached. Each of them is given the end of the
chunk, reads nothing outside it, and counts no more bytes left over than it was given. -/
theorem ZC_Moudlefunc_terminates (recvDataFromMoudle : List UInt8 → Nat → Prog σ ZC_RET) (uart : ZC_UartBuffer) (s : σ)
    (pu8Data : List UInt8)
    (hu : Bounded u32HeadLen uartTotal ZC_MAX_UARTBUF_LEN uart.u32Status uart.u32RecvLen uart.u8UartBuffer.bytes)
    (hlen : pu8Data.length < 4294967296) :
    Acc (Recurses recvDataFromMoudle) (pu8Data, uart, s) ∧
    (∀ depth, 2 * pu8Data.length + 2 ≤ depth →
      ZC_MoudlefuncDepth recvDataFromMoudle depth pu8Data (uart, s) = ZC_Moudlefunc recvDataFromMoudle pu8Data (uart, s)) ∧
    ∀ call : MoudleCall σ, Relation.ReflTransGen (fun x y => Recurses recvDataFromMoudle y x) (pu8Data, uart, s) call →
      call.1 <:+ pu8Data ∧ ZC_AssemblePkt call.2.1 call.1 ≠ .error .read ∧
        ∀ u32RetVal uart' u32LeftLen, ZC_AssemblePkt call.2.1 call.1 = .ok (u32RetVal, uart', u32LeftLen) →
          u32LeftLen ≤ call.1.length := by
  have hx : MoudleCall.Sound (pu8Data, uart, s) := ⟨hu, hlen⟩
  refine ⟨hx.acc, fun depth hdepth => ?_, fun call hcall => ?_⟩
  · have hsize : MoudleCall.size (pu8Data, uart, s) < 2 * pu8Data.length + 2 := by
      simp only [MoudleCall.size]
      split <;> omega
    obtain ⟨more, rfl⟩ := Nat.exists_eq_add_of_le hdepth
    clear hdepth
    induction more with
    | zero => rfl
    | succ more ih => exact (moudlefuncDepth_succ_eq hx (Nat.lt_of_lt_of_le hsize (Nat.le_add_right _ _))).trans ih
  · obtain ⟨hsound, hsuffix⟩ := hx.calls hcall
    have hleaves := ZC_AssemblePkt_leaves hsound.bounded hsound.length_lt
    exact ⟨hsuffix, hleaves.1, fun _ _ _ hrun => (hleaves.2 _ hrun).1⟩

/-- A packet without payload. -/
def emptyPacket : List UInt8 := u8MagicHead ++ ZC_MessageHead.toBytes ⟨0, 1, 14, 0, 0, (0, 0)⟩

/-- Of two packets in one chunk the second is handled by the call that the first one leads to,
and both are passed on, however deep the calls may go. -/
theorem ZC_Moudlefunc_terminates_two :
    Acc (Recurses recordCall) (emptyPacket ++ emptyPacket, ⟨MSG_BUFFER_IDLE, 0, Mem.fill _ 0⟩, []) ∧
      ∀ depth, 50 ≤ depth →
        (ZC_MoudlefuncDepth recordCall depth (emptyPacket ++ emptyPacket) (⟨MSG_BUFFER_IDLE, 0, Mem.fill _ 0⟩, [])).toOption.map
          Prod.snd = some [emptyPacket.drop ZC_MAGIC_LEN, emptyPacket.drop ZC_MAGIC_LEN] := by
  obtain ⟨hacc, hdepth, -⟩ := ZC_Moudlefunc_terminates recordCall ⟨MSG_BUFFER_IDLE, 0, Mem.fill _ 0⟩ []
    (emptyPacket ++ emptyPacket) ⟨nofun, nofun, nofun⟩ (by decide)
  refine ⟨hacc, fun depth hle => ?_⟩
  rw [hdepth depth hle]
  decide +kernel

end

end ZCloud
