import ZCloud.MoudleManager.Moudlefunc

open Memory Program Framing

namespace ZCloud

/-- The chunk `c`, handled again from the `IDLE` state, is refused: it is long
enough to be looked at, and does not begin with a packet the buffer could hold. -/
def RefusedWhenHandledAgain (c : List UInt8) : Prop :=
  u32HeadLen ≤ c.length ∧ ¬ (c.take 4 = u8MagicHead ∧ uartTotal c ≤ ZC_MAX_UARTBUF_LEN)

/-- Every chunk that starts inside a packet either stops before the end of the
packet, or stops exactly there and is refused when it is handled again. `k` is
the number of bytes of the first packet that have arrived. -/
def AlignedCut : List (List UInt8) → Nat → List (List UInt8) → Prop
  | _, _, [] => True
  | packets, 0, c :: chunks =>
    AlignedCut (advance packets c.length).2.1 (advance packets c.length).2.2 chunks
  | [], _ + 1, _ :: _ => False
  | f :: packets, k + 1, c :: chunks =>
    k + 1 + c.length < f.length ∧ AlignedCut (f :: packets) (k + 1 + c.length) chunks ∨
      k + 1 + c.length = f.length ∧ RefusedWhenHandledAgain c ∧ AlignedCut packets 0 chunks

/-- The chunks make `ZC_RecvDataFromMoudle` be called with the bytes behind the
magic of each packet, once and in order, and leave the buffer empty. -/
def DeliversPackets (packets chunks : List (List UInt8)) (uart : ZC_UartBuffer) : Prop :=
  ∃ uart', feedUart chunks (uart, []) = .ok (uart', packets.map (List.drop ZC_MAGIC_LEN)) ∧
    uart'.u32Status = MSG_BUFFER_IDLE ∧ uart'.u32RecvLen = 0

/-- `k` bytes of the first of the packets left are in the buffer. -/
structure InPacket (uart : ZC_UartBuffer) (packets : List (List UInt8)) (k : Nat) : Prop where
  holds : uart.Holds (packets.flatten.take k)
  idle : uart.u32Status = MSG_BUFFER_IDLE ↔ k = 0
  lt : ∀ f rest, packets = f :: rest → k < f.length
  nil : packets = [] → k = 0

theorem InPacket.start {uart : ZC_UartBuffer} {packets : List (List UInt8)}
    (hpackets : ∀ f ∈ packets, uartFormat.IsFrame f) (hu : uart.Holds [])
    (hidle : uart.u32Status = MSG_BUFFER_IDLE) : InPacket uart packets 0 where
  holds := hu
  idle := by simp [hidle]
  lt := by
    rintro f rest rfl
    exact (hpackets f (List.mem_cons_self ..)).length_pos
  nil _ := rfl

theorem feed_boundary {packets : List (List UInt8)} {c tail : List UInt8}
    {uart : ZC_UartBuffer} (calls : List (List UInt8))
    (hpackets : ∀ f ∈ packets, uartFormat.IsFrame f) (hcut : c ++ tail = packets.flatten)
    (hc : c.length ≤ CHUNK_MAXLEN) (hu : InPacket uart packets 0) :
    ∃ uart', ZC_Moudlefunc recordCall c (uart, calls) =
        .ok (uart', calls ++ (advance packets c.length).1.map (List.drop ZC_MAGIC_LEN)) ∧
      InPacket uart' (advance packets c.length).2.1 (advance packets c.length).2.2 := by
  obtain ⟨uart', hrun, hholds, hstatus⟩ := moudlefunc_idle calls
    (2 * c.length + 1) hpackets hcut hc hu.holds (hu.idle.mpr rfl) (by omega)
  exact ⟨uart', hrun, hholds, hstatus, fun _ _ => advance_lt, advance_nil⟩

theorem feed_inside {f : List UInt8} {packets : List (List UInt8)} {c tail : List UInt8}
    {k : Nat} {uart : ZC_UartBuffer} (calls : List (List UInt8)) (hf : uartFormat.IsFrame f)
    (hcut : c ++ tail = f.drop k ++ packets.flatten) (hne : c ≠ []) (hc : c.length ≤ CHUNK_MAXLEN)
    (hin : k + c.length < f.length) (hu : InPacket uart (f :: packets) k) :
    ∃ uart', ZC_Moudlefunc recordCall c (uart, calls) = .ok (uart', calls) ∧
      InPacket uart' (f :: packets) (k + c.length) := by
  have hk := hu.lt f packets rfl
  have hpos := List.length_pos_iff.mpr hne
  obtain ⟨hsplit, -⟩ := Slot.take_within hcut hin
  have hholds := hu.holds
  rw [List.flatten_cons, List.take_append_of_le_length (Nat.le_of_lt hk)] at hholds
  have hout : uartFormat.absorb (f.take k) c = .pending (f.take k ++ c) := by
    refine Format.absorb_within hf (d := f.drop (k + c.length)) ?_ ?_
    · rw [← hsplit, List.take_append_drop]
    · intro h
      have := List.drop_eq_nil_iff.mp h
      omega
  obtain ⟨uart', hholds', hrun⟩ := moudlefunc_pending recordCall calls
    hholds hc hne hout
  refine ⟨uart', hrun _, ?_, ?_, ?_, by simp⟩
  · rw [List.flatten_cons, List.take_append_of_le_length (Nat.le_of_lt hin), hsplit]
    exact hholds'
  · constructor
    · intro h
      have hstatus := hholds'.status_eq
      simp [h, hne] at hstatus
    · intro h
      omega
  · rintro g rest ⟨⟩
    exact hin

theorem feed_end {f : List UInt8} {packets : List (List UInt8)} {c tail : List UInt8}
    {k : Nat} {uart : ZC_UartBuffer} (calls : List (List UInt8)) (hf : uartFormat.IsFrame f)
    (hcut : c ++ tail = f.drop k ++ packets.flatten) (hne : c ≠ []) (hc : c.length ≤ CHUNK_MAXLEN)
    (hend : k + c.length = f.length) (hk : k ≠ 0) (hagain : RefusedWhenHandledAgain c)
    (hpackets : ∀ g ∈ packets, uartFormat.IsFrame g) (hu : InPacket uart (f :: packets) k) :
    ∃ uart', ZC_Moudlefunc recordCall c (uart, calls) =
        .ok (uart', calls ++ [f.drop ZC_MAGIC_LEN]) ∧
      InPacket uart' packets 0 := by
  have hlt := hu.lt f packets rfl
  obtain ⟨extra, hsplit, hlater⟩ := Slot.take_finish hcut (Nat.le_of_lt hlt) (Nat.le_of_eq hend.symm)
  have hholds := hu.holds
  rw [List.flatten_cons, List.take_append_of_le_length (Nat.le_of_lt hlt)] at hholds
  obtain ⟨uart₁, htake, hrun₁⟩ := moudlefunc_complete recordCall calls
    hholds hc hne (Format.absorb_finish hf hsplit)
  -- the whole chunk is handled again, from the `IDLE` state, and refused
  have hrefuse : uartFormat.absorb [] c = .reject := by
    have haccept : uartFormat.accept ([] ++ c) = false := decide_eq_false hagain.2
    exact (if_neg (Nat.not_lt.mpr hagain.1)).trans (if_pos haccept)
  obtain ⟨uart₂, ⟨hholds₂, hidle₂⟩, hrun₂⟩ := moudlefunc_reject recordCall
    (calls ++ [f.drop ZC_MAGIC_LEN])
    (show (⟨MSG_BUFFER_IDLE, 0, uart₁.u8UartBuffer⟩ : ZC_UartBuffer).Holds [] from Holding.nil) hc hne hrefuse
  have hnotIdle : ¬ uart.u32Status = MSG_BUFFER_IDLE := fun h => hk (hu.idle.mp h)
  refine ⟨uart₂, ?_, InPacket.start hpackets hholds₂ hidle₂⟩
  rw [ZC_Moudlefunc, hrun₁, run_recordCall, ok_bind, if_neg hnotIdle, take_drop_magic htake]
  exact hrun₂ _

theorem feed_aligned {packets chunks : List (List UInt8)} {k : Nat} {uart : ZC_UartBuffer}
    (calls : List (List UInt8)) (hpackets : ∀ f ∈ packets, uartFormat.IsFrame f)
    (hchunks : ∀ c ∈ chunks, c ≠ [] ∧ c.length ≤ CHUNK_MAXLEN)
    (hcut : chunks.flatten = packets.flatten.drop k) (hu : InPacket uart packets k)
    (haligned : AlignedCut packets k chunks) :
    ∃ uart', feedUart chunks (uart, calls) =
        .ok (uart', calls ++ packets.map (List.drop ZC_MAGIC_LEN)) ∧
      uart'.u32Status = MSG_BUFFER_IDLE ∧ uart'.u32RecvLen = 0 := by
  induction chunks generalizing packets k uart calls with
  | nil =>
    cases packets with
    | nil =>
      obtain rfl := hu.nil rfl
      exact ⟨uart, by simp [feedUart, pure, Except.pure], hu.idle.mpr rfl, hu.holds.len_eq⟩
    | cons f packets =>
      have hlt := hu.lt f packets rfl
      have hdrop := List.drop_eq_nil_iff.mp hcut.symm
      simp only [List.flatten_cons, List.length_append] at hdrop
      omega
  | cons c chunks ih =>
    obtain ⟨hne, hc⟩ := hchunks c (List.mem_cons_self ..)
    have htail : ∀ c' ∈ chunks, c' ≠ [] ∧ c'.length ≤ CHUNK_MAXLEN :=
      fun c' h => hchunks c' (List.mem_cons_of_mem _ h)
    have hstep : ∀ {uart₁ : ZC_UartBuffer} {calls₁ : List (List UInt8)},
        ZC_Moudlefunc recordCall c (uart, calls) = .ok (uart₁, calls₁) →
        feedUart (c :: chunks) (uart, calls) = feedUart chunks (uart₁, calls₁) := by
      intro uart₁ calls₁ h
      rw [feedUart, List.foldlM_cons, h]
      rfl
    rw [List.flatten_cons] at hcut
    cases k with
    | zero =>
      rw [List.drop_zero] at hcut
      obtain ⟨uart₁, hrun, hu₁⟩ := feed_boundary calls hpackets hcut hc hu
      have happend := advance_append packets c.length
      obtain ⟨uart', hrest, hfinal⟩ := ih
        (calls ++ (advance packets c.length).1.map (List.drop ZC_MAGIC_LEN))
        (fun f hf => hpackets f (happend ▸ List.mem_append_right _ hf)) htail (advance_drop hcut) hu₁
        (by simpa only [AlignedCut] using haligned)
      refine ⟨uart', ?_, hfinal⟩
      rw [hstep hrun, hrest, List.append_assoc, ← List.map_append, happend]
    | succ k =>
      cases packets with
      | nil => exact absurd (hu.nil rfl) (Nat.succ_ne_zero k)
      | cons f packets =>
        have hf := hpackets f (List.mem_cons_self ..)
        have hlt := hu.lt f packets rfl
        rw [List.flatten_cons, List.drop_append_of_le_length (Nat.le_of_lt hlt)] at hcut
        obtain ⟨hin, haligned⟩ | ⟨hend, hagain, haligned⟩ := haligned
        · obtain ⟨uart₁, hrun, hu₁⟩ := feed_inside calls hf hcut hne hc hin hu
          obtain ⟨-, hrest⟩ := Slot.take_within hcut hin
          rw [hstep hrun]
          refine ih calls hpackets htail ?_ hu₁ haligned
          rw [List.flatten_cons, List.drop_append_of_le_length (Nat.le_of_lt hin), hrest]
        · have hothers : ∀ g ∈ packets, uartFormat.IsFrame g :=
            fun g hg => hpackets g (List.mem_cons_of_mem _ hg)
          obtain ⟨uart₁, hrun, hu₁⟩ := feed_end calls hf hcut hne hc hend
            (Nat.succ_ne_zero k) hagain hothers hu
          obtain ⟨extra, hsplit, hlater⟩ := Slot.take_finish hcut (Nat.le_of_lt hlt)
            (Nat.le_of_eq hend.symm)
          have hextra : extra = [] := by
            have := congrArg List.length hsplit
            simp only [List.length_append, List.length_take] at this
            exact List.length_eq_zero_iff.mp (by omega)
          rw [hextra, List.nil_append] at hlater
          obtain ⟨uart', hrest, hfinal⟩ := ih _ hothers htail (by simpa using hlater) hu₁ haligned
          refine ⟨uart', ?_, hfinal⟩
          rw [hstep hrun, hrest, List.append_assoc]
          rfl

end ZCloud
