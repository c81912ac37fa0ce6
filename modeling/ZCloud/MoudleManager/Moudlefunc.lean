import ZCloud.MoudleManager.AssemblePkt
import ZCloud.Lib.Framing.Stream

open Memory Program Framing

namespace ZCloud

section

variable {σ : Type} (recvDataFromMoudle : List UInt8 → Nat → Prog σ ZC_RET)

/-- Handles the bytes `pu8Data` of the UART. `recvDataFromMoudle` is what
`ZC_RecvDataFromMoudle` does to the globals other than the UART buffer, and
`depth` bounds the depth of the recursion on the bytes left over. -/
def ZC_MoudlefuncDepth : Nat → List UInt8 → ZC_UartBuffer × σ → Except Fault (ZC_UartBuffer × σ)
  | 0, _, s => .ok s
  | depth + 1, pu8Data, (uart, s) => do
    if pu8Data.length = 0 then
      return (uart, s)
    let (u32RetVal, uart, u32LeftLen) ← ZC_AssemblePkt uart pu8Data
    if u32RetVal = ZC_RET_ERROR then
      return (uart, s)
    let (uart, s) ←
      if uart.u32Status = MSG_BUFFER_FULL then do
        let (_, s) ← (recvDataFromMoudle (uart.u8UartBuffer.bytes.drop ZC_MAGIC_LEN)
          (u16 (u32Sub uart.u32RecvLen ZC_MAGIC_LEN))).run s
        pure (⟨MSG_BUFFER_IDLE, 0, uart.u8UartBuffer⟩, s)
      else pure (uart, s)
    if u32LeftLen > 0 then
      ZC_MoudlefuncDepth depth (pu8Data.drop (u32Sub pu8Data.length u32LeftLen)) (uart, s)
    else return (uart, s)

/-- A call either shortens the data or, once for each packet, starts over from
the `IDLE` state, so this depth is never used up. -/
def ZC_Moudlefunc (pu8Data : List UInt8) (s : ZC_UartBuffer × σ) :
    Except Fault (ZC_UartBuffer × σ) :=
  ZC_MoudlefuncDepth recvDataFromMoudle (2 * pu8Data.length + 2) pu8Data s

variable {uart : ZC_UartBuffer} {p c : List UInt8} (s : σ)

theorem moudlefunc_nil (depth : Nat) :
    ZC_MoudlefuncDepth recvDataFromMoudle depth [] (uart, s) = .ok (uart, s) := by
  cases depth <;> rfl

/-- A chunk that leaves a packet unfinished, or that is refused, is not passed
on. -/
theorem moudlefunc_pending (hu : uart.Holds p) (hc : c.length ≤ CHUNK_MAXLEN) (hne : c ≠ [])
    {q : List UInt8} (hout : uartFormat.absorb p c = .pending q) :
    ∃ uart', uart'.Holds q ∧ ∀ depth,
      ZC_MoudlefuncDepth recvDataFromMoudle (depth + 1) c (uart, s) = .ok (uart', s) := by
  obtain ⟨⟨ret, uart', left⟩, hrun, hres⟩ := ZC_AssemblePkt_spec hu hc
  rw [hout] at hres
  obtain ⟨rfl, hholds, rfl⟩ := hres
  have hlen : c.length ≠ 0 := fun h => hne (List.length_eq_zero_iff.mp h)
  have hnotFull : uart'.u32Status ≠ MSG_BUFFER_FULL := by
    intro hfull
    have := hholds.status_eq
    simp [hfull] at this
  refine ⟨uart', hholds, fun depth => ?_⟩
  simp only [ZC_MoudlefuncDepth, if_neg hlen, hrun, ok_bind, reduceCtorEq, ↓reduceIte,
    if_neg hnotFull, Nat.lt_irrefl, gt_iff_lt]
  rfl

theorem moudlefunc_reject (hu : uart.Holds p) (hc : c.length ≤ CHUNK_MAXLEN) (hne : c ≠ [])
    (hout : uartFormat.absorb p c = .reject) :
    ∃ uart', (uart'.Holds [] ∧ uart'.u32Status = MSG_BUFFER_IDLE) ∧ ∀ depth,
      ZC_MoudlefuncDepth recvDataFromMoudle (depth + 1) c (uart, s) = .ok (uart', s) := by
  obtain ⟨⟨ret, uart', left⟩, hrun, hres⟩ := ZC_AssemblePkt_spec hu hc
  rw [hout] at hres
  obtain ⟨rfl, hholds, hidle, -⟩ := hres
  have hlen : c.length ≠ 0 := fun h => hne (List.length_eq_zero_iff.mp h)
  refine ⟨uart', ⟨hholds, hidle⟩, fun depth => ?_⟩
  simp only [ZC_MoudlefuncDepth, if_neg hlen, hrun, ok_bind, ↓reduceIte]
  rfl

/-- A packet that a chunk completes is passed on once. What is handled next is
what follows it in the chunk when the packet began in the chunk, and the whole
chunk again when it did not. -/
theorem moudlefunc_complete (hu : uart.Holds p) (hc : c.length ≤ CHUNK_MAXLEN) (hne : c ≠ [])
    {f rest : List UInt8} (hout : uartFormat.absorb p c = .complete f rest) :
    ∃ uart' : ZC_UartBuffer, uart'.u8UartBuffer.bytes.take f.length = f ∧ ∀ depth,
      ZC_MoudlefuncDepth recvDataFromMoudle (depth + 1) c (uart, s) =
        ((recvDataFromMoudle (uart'.u8UartBuffer.bytes.drop ZC_MAGIC_LEN)
          (f.length - ZC_MAGIC_LEN)).run s >>= fun r =>
          ZC_MoudlefuncDepth recvDataFromMoudle depth
            (if uart.u32Status = MSG_BUFFER_IDLE then rest else c)
            (⟨MSG_BUFFER_IDLE, 0, uart'.u8UartBuffer⟩, r.2)) := by
  obtain ⟨⟨ret, uart', left⟩, hrun, hres⟩ := ZC_AssemblePkt_spec hu hc
  rw [hout] at hres
  obtain ⟨rfl, ⟨hlenEq, htake, hfull⟩, hleft⟩ := hres
  simp only at hlenEq htake hfull hleft
  obtain ⟨hsplit, hframe⟩ := Format.absorb_complete hout
  have hmax : f.length ≤ 1000 := by
    have := congrArg List.length htake
    rw [List.length_take, Mem.length_bytes] at this
    have hright := Nat.min_le_right f.length ZC_MAX_UARTBUF_LEN
    rwa [this] at hright
  have hmin : ZC_MAGIC_LEN ≤ f.length := Nat.le_trans (by decide) hframe.head_le
  have hlen : c.length ≠ 0 := fun h => hne (List.length_eq_zero_iff.mp h)
  have hdata : u16 (u32Sub uart'.u32RecvLen ZC_MAGIC_LEN) = f.length - ZC_MAGIC_LEN := by
    rw [hlenEq, u32Sub_of_le hmin (by omega), u16_of_lt (by omega)]
  have hleftLe : left ≤ c.length := by
    rw [hleft]
    split
    · have hidle : p = [] := by
        have := hu.status_eq
        simp_all
      have := congrArg List.length hsplit
      simp only [hidle, List.nil_append, List.length_append] at this
      omega
    · exact Nat.le_refl _
  have hdrop : c.drop (u32Sub c.length left) =
      if uart.u32Status = MSG_BUFFER_IDLE then rest else c := by
    rw [u32Sub_of_le hleftLe (by unfold CHUNK_MAXLEN at hc; omega), hleft]
    split
    · have hidle : p = [] := by
        have := hu.status_eq
        simp_all
      rw [hidle, List.nil_append] at hsplit
      rw [← hsplit, List.length_append, Nat.add_sub_cancel, List.drop_left]
    · rw [Nat.sub_self, List.drop_zero]
  refine ⟨uart', htake, fun depth => ?_⟩
  simp only [ZC_MoudlefuncDepth, if_neg hlen, hrun, ok_bind, reduceCtorEq, ↓reduceIte, hfull, hdata,
    hdrop]
  cases hcall : (recvDataFromMoudle (uart'.u8UartBuffer.bytes.drop ZC_MAGIC_LEN)
    (f.length - ZC_MAGIC_LEN)).run s with
  | error e => rfl
  | ok r =>
    simp only [ok_bind]
    by_cases hpos : left > 0
    · exact if_pos hpos
    · have hnil : (if uart.u32Status = MSG_BUFFER_IDLE then rest else c) = [] := by
        have hzero : left = 0 := by omega
        rw [hzero] at hleft
        split at hleft
        · rw [if_pos ‹_›]
          exact List.length_eq_zero_iff.mp hleft.symm
        · exact absurd hleft.symm hlen
      rw [hnil, moudlefunc_nil]
      exact if_neg hpos

/-- How deep a call can go: the bytes handled again are once those of the whole
chunk, and then fewer each time. -/
def moudlefuncDepth (uart : ZC_UartBuffer) (c : List UInt8) : Nat :=
  c.length + if uart.u32Status = MSG_BUFFER_IDLE then 1 else 2

end

/-- The calls of `ZC_RecvDataFromMoudle`, each with the bytes it is given. -/
def recordCall (pu8Data : List UInt8) (u16DataLen : Nat) : Prog (List (List UInt8)) ZC_RET := do
  modify (· ++ [pu8Data.take u16DataLen])
  return ZC_RET_OK

/-- What the chunks of a UART stream leave in the buffer, and the calls made. -/
def feedUart (chunks : List (List UInt8)) (s : ZC_UartBuffer × List (List UInt8)) :
    Except Fault (ZC_UartBuffer × List (List UInt8)) :=
  chunks.foldlM (fun s c => ZC_Moudlefunc recordCall c s) s

theorem run_recordCall (pu8Data : List UInt8) (n : Nat) (calls : List (List UInt8)) :
    (recordCall pu8Data n).run calls = .ok (ZC_RET_OK, calls ++ [pu8Data.take n]) := rfl

/-- The bytes behind the magic of a packet that fills the beginning of a
buffer. -/
theorem take_drop_magic {bytes f : List UInt8} (h : bytes.take f.length = f) :
    (bytes.drop ZC_MAGIC_LEN).take (f.length - ZC_MAGIC_LEN) = f.drop ZC_MAGIC_LEN := by
  rw [← List.drop_take, h]

/-- From the `IDLE` state, the packets completed inside a chunk are passed on
one after another and the bytes behind them stay in the buffer. -/
theorem moudlefunc_idle {packets : List (List UInt8)} {c tail : List UInt8} {uart : ZC_UartBuffer}
    (calls : List (List UInt8)) (depth : Nat) (hpackets : ∀ f ∈ packets, uartFormat.IsFrame f)
    (hcut : c ++ tail = packets.flatten) (hc : c.length ≤ CHUNK_MAXLEN)
    (hu : uart.Holds []) (hidle : uart.u32Status = MSG_BUFFER_IDLE) (hdepth : c.length ≤ depth) :
    ∃ uart', ZC_MoudlefuncDepth recordCall (depth + 1) c (uart, calls) =
        .ok (uart', calls ++ (advance packets c.length).1.map (List.drop ZC_MAGIC_LEN)) ∧
      uart'.Holds ((advance packets c.length).2.1.flatten.take (advance packets c.length).2.2) ∧
      (uart'.u32Status = MSG_BUFFER_IDLE ↔ (advance packets c.length).2.2 = 0) := by
  induction packets generalizing c uart calls depth with
  | nil =>
    simp only [List.flatten_nil, List.append_eq_nil_iff] at hcut
    obtain ⟨rfl, -⟩ := hcut
    exact ⟨uart, by simp [moudlefunc_nil, advance], by simpa [advance] using hu, by simp [advance, hidle]⟩
  | cons f packets ih =>
    have hf := hpackets f (List.mem_cons_self ..)
    by_cases hne : c = []
    · subst hne
      rw [List.length_nil, advance_zero hpackets]
      exact ⟨uart, by simp [moudlefunc_nil], by simpa using hu, by simp [hidle]⟩
    · rw [List.flatten_cons] at hcut
      by_cases hlt : c.length < f.length
      · obtain ⟨hsplit, -⟩ := Slot.take_within (k := 0) (by simpa using hcut) (by omega)
        rw [List.take_zero, List.nil_append, Nat.zero_add] at hsplit
        have hout : uartFormat.absorb [] c = .pending c := by
          refine Format.absorb_within hf (d := f.drop c.length) ?_ ?_
          · rw [List.nil_append]
            exact (List.take_append_drop c.length f).symm.trans (by rw [hsplit])
          · intro h
            have := List.drop_eq_nil_iff.mp h
            omega
        obtain ⟨uart', hholds, hrun⟩ := moudlefunc_pending recordCall calls
          hu hc hne hout
        rw [advance_of_lt hlt]
        refine ⟨uart', by simpa using hrun depth, ?_, ?_⟩
        · rw [List.flatten_cons, List.take_append_of_le_length (Nat.le_of_lt hlt), hsplit]
          exact hholds
        · have hstatus := hholds.status_eq
          have hlen : c.length ≠ 0 := fun h => hne (List.length_eq_zero_iff.mp h)
          constructor
          · intro h
            simp [h, hne] at hstatus
          · intro h
            exact absurd h hlen
      · obtain ⟨rest, hsplit, hlater⟩ := Slot.take_finish (k := 0) (by simpa using hcut)
          (Nat.zero_le _) (by omega)
        rw [List.take_zero, List.nil_append] at hsplit
        have hout : uartFormat.absorb [] c = .complete f rest :=
          Format.absorb_finish hf (by simpa using hsplit)
        obtain ⟨uart', htake, hrun⟩ := moudlefunc_complete recordCall calls
          hu hc hne hout
        have hlen : c.length - f.length = rest.length := by
          rw [hsplit, List.length_append]
          omega
        have hpos := hf.length_pos
        have hclen : c.length = f.length + rest.length := by
          rw [hsplit, List.length_append]
        obtain ⟨depth, rfl⟩ : ∃ d, depth = d + 1 := ⟨depth - 1, by omega⟩
        obtain ⟨uart'', hrest, hholds, hstatus⟩ := ih
          (calls ++ [f.drop ZC_MAGIC_LEN]) depth (fun g hg => hpackets g (List.mem_cons_of_mem _ hg)) hlater
          (by omega) (show (⟨MSG_BUFFER_IDLE, 0, uart'.u8UartBuffer⟩ : ZC_UartBuffer).Holds [] from Holding.nil)
          rfl (by omega)
        rw [advance_of_le (by omega), hlen]
        refine ⟨uart'', ?_, hholds, hstatus⟩
        rw [hrun, run_recordCall, ok_bind, if_pos hidle, take_drop_magic htake, hrest]
        simp

end ZCloud
