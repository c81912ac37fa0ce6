import ZCloud.MoudleManager.UartStream

open Memory Program Framing

namespace ZCloud

/-- The magic begins no other bytes of the packets than the packets
themselves. -/
def MagicOnlyAtStart (packets : List (List UInt8)) : Prop :=
  ∀ f ∈ packets, ∀ i, 0 < i → (f.drop i).take u8MagicHead.length ≠ u8MagicHead

theorem take_magic_of_isFrame {f : List UInt8} (hf : uartFormat.IsFrame f) (l : List UInt8) :
    (f ++ l).take u8MagicHead.length = u8MagicHead := by
  have hlen : u8MagicHead.length ≤ f.length := Nat.le_trans (by decide) hf.head_le
  rw [List.take_append_of_le_length hlen]
  exact (of_decide_eq_true hf.accepted).1

/-- The magic does not begin in one packet and end in the next. -/
private theorem take_magic_append {d l : List UInt8} (hne : d ≠ [])
    (hd : d.take u8MagicHead.length ≠ u8MagicHead)
    (hl : l = [] ∨ l.take u8MagicHead.length = u8MagicHead) :
    (d ++ l).take u8MagicHead.length ≠ u8MagicHead := by
  by_cases hlen : u8MagicHead.length ≤ d.length
  · rwa [List.take_append_of_le_length hlen]
  · obtain rfl | hl := hl
    · rwa [List.append_nil]
    · obtain ⟨rest, rfl⟩ : u8MagicHead <+: l := List.prefix_iff_eq_take.mpr hl.symm
      match d, hne, hlen with
      | [a], _, _ => simp [u8MagicHead]
      | [a, b], _, _ => simp [u8MagicHead]
      | [a, b, c], _, _ => simp [u8MagicHead]
      | a :: b :: c :: d :: t, _, hlen => simp [u8MagicHead] at hlen

private theorem flatten_nil_or_magic {packets : List (List UInt8)}
    (hpackets : ∀ f ∈ packets, uartFormat.IsFrame f) :
    packets.flatten = [] ∨ packets.flatten.take u8MagicHead.length = u8MagicHead := by
  cases packets with
  | nil => exact Or.inl rfl
  | cons f packets => exact Or.inr (take_magic_of_isFrame (hpackets f (List.mem_cons_self ..)) _)

/-- Bytes that begin inside a packet do not begin with the magic. -/
theorem take_inside_ne_magic {f : List UInt8} {packets : List (List UInt8)} {k : Nat}
    (hpackets : ∀ g ∈ f :: packets, uartFormat.IsFrame g) (hmagic : MagicOnlyAtStart (f :: packets))
    (hk : 0 < k) (hlt : k < f.length) :
    (f.drop k ++ packets.flatten).take u8MagicHead.length ≠ u8MagicHead := by
  refine take_magic_append ?_ (hmagic f (List.mem_cons_self ..) k hk)
    (flatten_nil_or_magic fun g hg => hpackets g (List.mem_cons_of_mem _ hg))
  intro h
  have := List.drop_eq_nil_iff.mp h
  omega

/-- The magic begins once in a stream for each packet. -/
theorem marks_flatten {packets : List (List UInt8)} (hpackets : ∀ f ∈ packets, uartFormat.IsFrame f)
    (hmagic : MagicOnlyAtStart packets) : marks u8MagicHead packets.flatten = packets.length := by
  induction packets with
  | nil => rfl
  | cons f packets ih =>
    have hf := hpackets f (List.mem_cons_self ..)
    have hrest := ih (fun g hg => hpackets g (List.mem_cons_of_mem _ hg))
      (fun g hg => hmagic g (List.mem_cons_of_mem _ hg))
    have hstart := take_magic_of_isFrame hf packets.flatten
    have hinside : ∀ i, 0 < i → i < f.length →
        (f.drop i ++ packets.flatten).take u8MagicHead.length ≠ u8MagicHead :=
      fun i hi hlt => take_inside_ne_magic hpackets hmagic hi hlt
    cases f with
    | nil => exact absurd hf.length_pos (Nat.lt_irrefl 0)
    | cons b f =>
      rw [List.cons_append] at hstart
      rw [List.flatten_cons, List.cons_append, marks, if_pos hstart, List.length_cons,
        marks_append_of_ne (fun i hi => hinside (i + 1) (Nat.succ_pos i) (Nat.succ_lt_succ hi)), hrest,
        Nat.add_comm]

/-- Every call takes a place where the magic begins, in the bytes held and
those still to come. -/
private theorem moudlefunc_calls_le {depth : Nat} {uart uart' : ZC_UartBuffer} {p c : List UInt8}
    {calls calls' : List (List UInt8)} (hu : uart.Holds p)
    (hidle : p = [] → uart.u32Status = MSG_BUFFER_IDLE) (hc : c.length ≤ CHUNK_MAXLEN)
    (hdepth : moudlefuncDepth uart c ≤ depth)
    (hrun : ZC_MoudlefuncDepth recordCall depth c (uart, calls) = .ok (uart', calls')) :
    ∃ q, (uart'.Holds q ∧ (q = [] → uart'.u32Status = MSG_BUFFER_IDLE)) ∧ ∀ tail, calls'.length + marks u8MagicHead (q ++ tail) ≤
      calls.length + marks u8MagicHead (p ++ (c ++ tail)) := by
  induction depth generalizing uart p c calls with
  | zero =>
    unfold moudlefuncDepth at hdepth
    split at hdepth <;> omega
  | succ depth ih =>
    by_cases hne : c = []
    · rw [hne, moudlefunc_nil] at hrun
      obtain ⟨rfl, rfl⟩ : uart = uart' ∧ calls = calls' := by simpa using hrun
      exact ⟨p, ⟨hu, hidle⟩, fun tail => by simp [hne]⟩
    · cases hout : uartFormat.absorb p c with
      | pending q =>
        obtain ⟨u, hholds, hstep⟩ := moudlefunc_pending recordCall calls
          hu hc hne hout
        obtain ⟨rfl, rfl⟩ : u = uart' ∧ calls = calls' := by simpa [hstep] using hrun
        obtain ⟨rfl, -⟩ := Format.absorb_pending hout
        exact ⟨_, ⟨hholds, by simp [hne]⟩, fun tail => by simp⟩
      | reject =>
        obtain ⟨u, ⟨hholds, hu'⟩, hstep⟩ := moudlefunc_reject recordCall
          calls hu hc hne hout
        obtain ⟨rfl, rfl⟩ : u = uart' ∧ calls = calls' := by simpa [hstep] using hrun
        refine ⟨_, ⟨hholds, fun _ => hu'⟩, fun tail => ?_⟩
        rw [List.nil_append, ← List.append_assoc]
        exact Nat.add_le_add_left (marks_le_append _ _) _
      | complete f rest =>
        obtain ⟨u, -, hstep⟩ := moudlefunc_complete recordCall calls
          hu hc hne hout
        obtain ⟨hsplit, hframe⟩ := Format.absorb_complete hout
        have hpos := hframe.length_pos
        have hlen := congrArg List.length hsplit
        simp only [List.length_append] at hlen
        have hstart : ∀ tail, (p ++ (c ++ tail)).take u8MagicHead.length = u8MagicHead := by
          intro tail
          rw [← List.append_assoc, ← hsplit, List.append_assoc]
          exact take_magic_of_isFrame hframe _
        rw [hstep, run_recordCall, ok_bind] at hrun
        by_cases hstatus : uart.u32Status = MSG_BUFFER_IDLE
        · have hnil : p = [] := by
            have := hu.status_eq
            simp_all
          subst hnil
          rw [if_pos hstatus] at hrun
          rw [moudlefuncDepth, if_pos hstatus] at hdepth
          rw [List.length_nil] at hlen
          obtain ⟨q, hq, hbound⟩ := ih (show (⟨MSG_BUFFER_IDLE, 0, u.u8UartBuffer⟩ : ZC_UartBuffer).Holds [] from Holding.nil) (fun _ => rfl) (by omega)
            (by rw [moudlefuncDepth, if_pos rfl]; omega) hrun
          refine ⟨q, hq, fun tail => ?_⟩
          have hlt := @marks_lt_append _ _ u8MagicHead f (rest ++ tail)
            (List.length_pos_iff.mp hpos) (take_magic_of_isFrame hframe _)
          have hle := hbound tail
          rw [← List.append_assoc f, hsplit, List.append_assoc] at hlt
          rw [List.length_append, List.length_singleton, List.nil_append] at hle
          omega
        · have hp : p ≠ [] := fun h => hstatus (hidle h)
          rw [if_neg hstatus] at hrun
          rw [moudlefuncDepth, if_neg hstatus] at hdepth
          obtain ⟨q, hq, hbound⟩ := ih (show (⟨MSG_BUFFER_IDLE, 0, u.u8UartBuffer⟩ : ZC_UartBuffer).Holds [] from Holding.nil) (fun _ => rfl) hc
            (by rw [moudlefuncDepth, if_pos rfl]; omega) hrun
          refine ⟨q, hq, fun tail => ?_⟩
          have hlt := marks_lt_append hp (hstart tail)
          have hle := hbound tail
          rw [List.length_append, List.length_singleton, List.nil_append] at hle
          omega

private theorem Moudlefunc_calls_le {uart uart' : ZC_UartBuffer} {p c : List UInt8}
    {calls calls' : List (List UInt8)} (hu : uart.Holds p)
    (hidle : p = [] → uart.u32Status = MSG_BUFFER_IDLE) (hc : c.length ≤ CHUNK_MAXLEN)
    (hrun : ZC_Moudlefunc recordCall c (uart, calls) = .ok (uart', calls')) :
    ∃ q, (uart'.Holds q ∧ (q = [] → uart'.u32Status = MSG_BUFFER_IDLE)) ∧ ∀ tail,
      calls'.length + marks u8MagicHead (q ++ tail) ≤
        calls.length + marks u8MagicHead (p ++ (c ++ tail)) := by
  refine moudlefunc_calls_le hu hidle hc ?_ hrun
  unfold moudlefuncDepth
  split <;> omega

/-- The calls that chunks bring are at most as many as the places where the
magic begins, in the bytes held and those of the chunks. -/
private theorem feed_calls_le {chunks : List (List UInt8)} {uart uart' : ZC_UartBuffer}
    {p : List UInt8} {calls calls' : List (List UInt8)} (hu : uart.Holds p)
    (hidle : p = [] → uart.u32Status = MSG_BUFFER_IDLE)
    (hchunks : ∀ c ∈ chunks, c ≠ [] ∧ c.length ≤ CHUNK_MAXLEN)
    (hrun : feedUart chunks (uart, calls) = .ok (uart', calls')) :
    calls'.length ≤ calls.length + marks u8MagicHead (p ++ chunks.flatten) := by
  induction chunks generalizing uart p calls with
  | nil =>
    obtain ⟨-, rfl⟩ : uart = uart' ∧ calls = calls' := by simpa [feedUart, pure, Except.pure] using hrun
    exact Nat.le_add_right ..
  | cons c chunks ih =>
    rw [feedUart, List.foldlM_cons] at hrun
    cases hstep : ZC_Moudlefunc recordCall c (uart, calls) with
    | error e => simp [hstep] at hrun
    | ok r =>
      obtain ⟨uart₁, calls₁⟩ := r
      rw [hstep, ok_bind] at hrun
      obtain ⟨q, ⟨hq, hidle₁⟩, hbound⟩ := Moudlefunc_calls_le hu hidle
        (hchunks c (List.mem_cons_self ..)).2 hstep
      have hrest := ih hq hidle₁ (fun c' h => hchunks c' (List.mem_cons_of_mem _ h)) hrun
      have hle := hbound chunks.flatten
      rw [List.flatten_cons]
      omega

/-- Bytes from inside a packet that were taken for the beginning of one cost at
least the packet after it. -/
private theorem feed_stale {chunks packets : List (List UInt8)} {uart uart' : ZC_UartBuffer}
    {q t e : List UInt8} {calls calls' : List (List UInt8)} (hu : uart.Holds q) (hq : q = t ++ e)
    (ht : t ≠ []) (hshort : q.length < u32HeadLen)
    (hpackets : ∀ f ∈ packets, uartFormat.IsFrame f) (hmagic : MagicOnlyAtStart packets)
    (hinside : (t ++ packets.flatten).take u8MagicHead.length ≠ u8MagicHead)
    (hchunks : ∀ c ∈ chunks, c ≠ [] ∧ c.length ≤ CHUNK_MAXLEN)
    (hcut : e ++ chunks.flatten = packets.flatten)
    (hrun : feedUart chunks (uart, calls) = .ok (uart', calls'))
    (hidle : uart'.u32Status = MSG_BUFFER_IDLE) : calls'.length < calls.length + packets.length := by
  induction chunks generalizing uart q e calls with
  | nil =>
    obtain ⟨rfl, -⟩ : uart = uart' ∧ calls = calls' := by simpa [feedUart, pure, Except.pure] using hrun
    have hstatus := hu.status_eq
    simp [hidle, hq, ht] at hstatus
  | cons c chunks ih =>
    obtain ⟨hne, hc⟩ := hchunks c (List.mem_cons_self ..)
    have htail : ∀ c' ∈ chunks, c' ≠ [] ∧ c'.length ≤ CHUNK_MAXLEN :=
      fun c' h => hchunks c' (List.mem_cons_of_mem _ h)
    rw [List.flatten_cons, ← List.append_assoc] at hcut
    rw [feedUart, List.foldlM_cons] at hrun
    obtain ⟨hlt, hout⟩ | ⟨⟨-, -⟩, hout⟩ | ⟨⟨-, hstart, -⟩, -⟩ | ⟨⟨-, hstart, -⟩, -⟩ |
      ⟨⟨-, hstart, -⟩, -⟩ := uartFormat_cases q c
    · obtain ⟨uart₁, hu₁, hstep⟩ := moudlefunc_pending recordCall calls
        hu hc hne hout
      rw [ZC_Moudlefunc, hstep, ok_bind] at hrun
      exact ih hu₁ (by rw [hq, List.append_assoc]) hlt htail hcut hrun
    · obtain ⟨uart₁, ⟨hu₁, hidle₁⟩, hstep⟩ := moudlefunc_reject recordCall
        calls hu hc hne hout
      rw [ZC_Moudlefunc, hstep, ok_bind] at hrun
      have hle := feed_calls_le hu₁ (fun _ => hidle₁) htail hrun
      have hlost := @marks_lt_append _ _ u8MagicHead (e ++ c) chunks.flatten
        (by simp [hne]) (by
          rw [hcut]
          refine (flatten_nil_or_magic hpackets).resolve_left fun h => ?_
          rw [h] at hcut
          simp [hne] at hcut)
      rw [hcut, marks_flatten hpackets hmagic] at hlost
      rw [List.nil_append] at hle
      omega
    all_goals
      refine absurd ?_ hinside
      rw [← hcut, ← List.append_assoc, ← List.append_assoc, ← hq, List.take_append_of_le_length]
      · exact hstart
      · have := congrArg List.length hstart
        rw [List.length_take] at this
        have hfour : u8MagicHead.length = 4 := rfl
        omega

/-- A chunk that reaches the end of a packet that began before it, and after
which no packet is lost, ends there and is refused when it is handled again. -/
private theorem feed_end_aligned {f : List UInt8} {packets chunks : List (List UInt8)} {c : List UInt8}
    {k : Nat} {uart uart' : ZC_UartBuffer} {calls calls' : List (List UInt8)}
    (hpackets : ∀ g ∈ f :: packets, uartFormat.IsFrame g) (hmagic : MagicOnlyAtStart (f :: packets))
    (hchunks : ∀ c' ∈ c :: chunks, c' ≠ [] ∧ c'.length ≤ CHUNK_MAXLEN)
    (hcut : c ++ chunks.flatten = f.drop k ++ packets.flatten) (hk : 0 < k)
    (hend : f.length ≤ k + c.length) (hu : InPacket uart (f :: packets) k)
    (hrun : feedUart (c :: chunks) (uart, calls) = .ok (uart', calls'))
    (hidle : uart'.u32Status = MSG_BUFFER_IDLE)
    (hcalls : calls'.length = calls.length + (packets.length + 1)) :
    k + c.length = f.length ∧ RefusedWhenHandledAgain c := by
  have hlt := hu.lt f packets rfl
  have hf := hpackets f (List.mem_cons_self ..)
  have hothers : ∀ g ∈ packets, uartFormat.IsFrame g := fun g hg => hpackets g (List.mem_cons_of_mem _ hg)
  have hmagic' : MagicOnlyAtStart packets := fun g hg => hmagic g (List.mem_cons_of_mem _ hg)
  obtain ⟨hne, hc⟩ := hchunks c (List.mem_cons_self ..)
  have htail : ∀ c' ∈ chunks, c' ≠ [] ∧ c'.length ≤ CHUNK_MAXLEN :=
    fun c' h => hchunks c' (List.mem_cons_of_mem _ h)
  have hinside := take_inside_ne_magic hpackets hmagic hk hlt
  obtain ⟨extra, hsplit, hlater⟩ := Slot.take_finish hcut (Nat.le_of_lt hlt) hend
  have hc' : c = f.drop k ++ extra := by
    have h : f.take k ++ c = f.take k ++ (f.drop k ++ extra) := by
      rw [← List.append_assoc, List.take_append_drop, hsplit]
    exact List.append_cancel_left h
  have hdrop : f.drop k ≠ [] := by
    intro h
    have := List.drop_eq_nil_iff.mp h
    omega
  have hclen : c.length = f.length - k + extra.length := by
    rw [hc', List.length_append, List.length_drop]
  have hholds := hu.holds
  rw [List.flatten_cons, List.take_append_of_le_length (Nat.le_of_lt hlt)] at hholds
  obtain ⟨uart₁, -, hstep⟩ := moudlefunc_complete recordCall calls
    hholds hc hne (Format.absorb_finish hf hsplit)
  have hnotIdle : ¬ uart.u32Status = MSG_BUFFER_IDLE := fun h => absurd (hu.idle.mp h) (by omega)
  rw [feedUart, List.foldlM_cons, ZC_Moudlefunc, hstep, run_recordCall, ok_bind, if_neg hnotIdle] at hrun
  have hempty : (⟨MSG_BUFFER_IDLE, 0, uart₁.u8UartBuffer⟩ : ZC_UartBuffer).Holds [] := Holding.nil
  by_cases hshort : c.length < u32HeadLen
  · have hout : uartFormat.absorb [] c = .pending c := if_pos hshort
    obtain ⟨uart₂, hu₂, hagain⟩ := moudlefunc_pending recordCall
      (calls ++ [(uart₁.u8UartBuffer.bytes.drop ZC_MAGIC_LEN).take (f.length - ZC_MAGIC_LEN)])
      hempty hc hne hout
    rw [hagain, ok_bind] at hrun
    have hlost := feed_stale hu₂ hc' hdrop hshort hothers hmagic' hinside htail hlater hrun hidle
    rw [List.length_append, List.length_singleton] at hlost
    omega
  · have hstart : c.take 4 ≠ u8MagicHead := by
      intro h
      refine hinside ?_
      rw [← hlater, ← List.append_assoc, ← hc', List.take_append_of_le_length]
      · exact h
      · exact Nat.le_trans (by decide) (Nat.not_lt.mp hshort)
    have hrefused : RefusedWhenHandledAgain c := ⟨Nat.not_lt.mp hshort, fun h => hstart h.1⟩
    have hout : uartFormat.absorb [] c = .reject := by
      have haccept : uartFormat.accept ([] ++ c) = false := decide_eq_false hrefused.2
      exact (if_neg hshort).trans (if_pos haccept)
    obtain ⟨uart₂, ⟨hu₂, hidle₂⟩, hagain⟩ := moudlefunc_reject recordCall
      (calls ++ [(uart₁.u8UartBuffer.bytes.drop ZC_MAGIC_LEN).take (f.length - ZC_MAGIC_LEN)])
      hempty hc hne hout
    rw [hagain, ok_bind] at hrun
    have hle := feed_calls_le hu₂ (fun _ => hidle₂) htail hrun
    rw [List.length_append, List.length_singleton, List.nil_append] at hle
    refine ⟨Decidable.byContradiction fun hover => ?_, hrefused⟩
    have hextra : extra ≠ [] := by
      rintro rfl
      rw [List.length_nil] at hclen
      omega
    have hlost := @marks_lt_append _ _ u8MagicHead _ chunks.flatten hextra (by
      rw [hlater]
      refine (flatten_nil_or_magic hothers).resolve_left fun h => ?_
      rw [h, List.append_eq_nil_iff] at hlater
      exact hextra hlater.1)
    rw [hlater, marks_flatten hothers hmagic'] at hlost
    omega

private theorem aligned_of_feed {packets chunks : List (List UInt8)} {k : Nat}
    {uart uart' : ZC_UartBuffer} {calls calls' : List (List UInt8)}
    (hpackets : ∀ f ∈ packets, uartFormat.IsFrame f) (hmagic : MagicOnlyAtStart packets)
    (hchunks : ∀ c ∈ chunks, c ≠ [] ∧ c.length ≤ CHUNK_MAXLEN)
    (hcut : chunks.flatten = packets.flatten.drop k) (hu : InPacket uart packets k)
    (hrun : feedUart chunks (uart, calls) = .ok (uart', calls'))
    (hidle : uart'.u32Status = MSG_BUFFER_IDLE)
    (hcalls : calls'.length = calls.length + packets.length) : AlignedCut packets k chunks := by
  induction chunks generalizing packets k uart calls with
  | nil =>
    unfold AlignedCut
    trivial
  | cons c chunks ih =>
    obtain ⟨hne, hc⟩ := hchunks c (List.mem_cons_self ..)
    have htail : ∀ c' ∈ chunks, c' ≠ [] ∧ c'.length ≤ CHUNK_MAXLEN :=
      fun c' h => hchunks c' (List.mem_cons_of_mem _ h)
    rw [List.flatten_cons] at hcut
    cases k with
    | zero =>
      rw [List.drop_zero] at hcut
      obtain ⟨uart₁, hstep, hu₁⟩ := feed_boundary calls hpackets hcut hc hu
      have happend := advance_append packets c.length
      have hlen := congrArg List.length happend
      rw [List.length_append] at hlen
      rw [feedUart, List.foldlM_cons, hstep, ok_bind] at hrun
      unfold AlignedCut
      refine ih (fun f hf => hpackets f (happend ▸ List.mem_append_right _ hf))
        (fun f hf => hmagic f (happend ▸ List.mem_append_right _ hf)) htail (advance_drop hcut) hu₁ hrun ?_
      rw [hcalls, List.length_append, List.length_map]
      omega
    | succ k =>
      cases packets with
      | nil => exact absurd (hu.nil rfl) (Nat.succ_ne_zero k)
      | cons f packets =>
        have hlt := hu.lt f packets rfl
        rw [List.flatten_cons, List.drop_append_of_le_length (Nat.le_of_lt hlt)] at hcut
        unfold AlignedCut
        by_cases hin : k + 1 + c.length < f.length
        · obtain ⟨uart₁, hstep, hu₁⟩ := feed_inside calls (hpackets f (List.mem_cons_self ..))
            hcut hne hc hin hu
          obtain ⟨-, hrest⟩ := Slot.take_within hcut hin
          rw [feedUart, List.foldlM_cons, hstep, ok_bind] at hrun
          refine Or.inl ⟨hin, ih hpackets hmagic htail ?_ hu₁ hrun hcalls⟩
          rw [List.flatten_cons, List.drop_append_of_le_length (Nat.le_of_lt hin), hrest]
        · obtain ⟨hend, hagain⟩ := feed_end_aligned hpackets hmagic hchunks hcut (Nat.succ_pos k)
            (by omega) hu hrun hidle hcalls
          have hothers : ∀ g ∈ packets, uartFormat.IsFrame g :=
            fun g hg => hpackets g (List.mem_cons_of_mem _ hg)
          obtain ⟨uart₁, hstep, hu₁⟩ := feed_end calls (hpackets f (List.mem_cons_self ..))
            hcut hne hc hend (Nat.succ_ne_zero k) hagain hothers hu
          obtain ⟨extra, hsplit, hlater⟩ := Slot.take_finish hcut (Nat.le_of_lt hlt) (Nat.le_of_eq hend.symm)
          have hextra : extra = [] := by
            have := congrArg List.length hsplit
            simp only [List.length_append, List.length_take] at this
            exact List.length_eq_zero_iff.mp (by omega)
          rw [hextra, List.nil_append] at hlater
          rw [feedUart, List.foldlM_cons, hstep, ok_bind] at hrun
          refine Or.inr ⟨hend, hagain, ih hothers (fun g hg => hmagic g (List.mem_cons_of_mem _ hg)) htail
            (by simpa using hlater) hu₁ hrun ?_⟩
          rw [hcalls, List.length_append, List.length_singleton, List.length_cons]
          omega

/-- The packets of a stream are passed on once each, in order and whole, when
every chunk that starts inside a packet stops before its end, or exactly there
with bytes that are refused when they are handled again. Unless a packet has the
magic among its other bytes, they are passed on in no other case. -/
theorem ZC_Moudlefunc_delivers_iff_aligned {packets chunks : List (List UInt8)} {uart : ZC_UartBuffer}
    (hpackets : ∀ f ∈ packets, uartFormat.IsFrame f)
    (hchunks : ∀ c ∈ chunks, c ≠ [] ∧ c.length ≤ CHUNK_MAXLEN)
    (hcut : chunks.flatten = packets.flatten) (hidle : uart.u32Status = MSG_BUFFER_IDLE)
    (hempty : uart.u32RecvLen = 0) :
    (AlignedCut packets 0 chunks → DeliversPackets packets chunks uart) ∧
      (MagicOnlyAtStart packets → DeliversPackets packets chunks uart → AlignedCut packets 0 chunks) := by
  have hu : uart.Holds [] := ⟨hempty, rfl, Format.open_nil, Or.inl ⟨hidle, rfl⟩⟩
  have hstart := InPacket.start hpackets hu hidle
  have hcut' : chunks.flatten = packets.flatten.drop 0 := by simpa using hcut
  constructor
  · intro haligned
    exact feed_aligned [] hpackets hchunks hcut' hstart haligned
  · rintro hmagic ⟨uart', hrun, hidle', -⟩
    exact aligned_of_feed hpackets hmagic hchunks hcut' hstart hrun hidle' (by simp)

/-- A packet with four bytes of payload, cut before its last six bytes: these
are handled again and stay in the buffer. -/
theorem ZC_Moudlefunc_handles_again :
    let packet := u8MagicHead ++ (ZC_MessageHead.toBytes ⟨0, 1, 14, 0, ZC_HTONS 4, (0, 0)⟩) ++ [1, 2, 3, 4]
    uartFormat.IsFrame packet ∧
      ¬ DeliversPackets [packet] [packet.take 10, packet.drop 10]
        ⟨MSG_BUFFER_IDLE, 0, Mem.fill ZC_MAX_UARTBUF_LEN 0⟩ := by
  intro packet
  have hframe : uartFormat.IsFrame packet := ⟨by decide, by decide, by decide⟩
  have hpackets : ∀ f ∈ [packet], uartFormat.IsFrame f := by simpa using hframe
  have hmagic : MagicOnlyAtStart [packet] := by
    intro f hf i hi h
    obtain rfl := List.mem_singleton.mp hf
    have hlen := congrArg List.length h
    have hmiss : ∀ i : Fin 13, 0 < i.val → (packet.drop i).take u8MagicHead.length ≠ u8MagicHead := by
      decide
    have hfour : u8MagicHead.length = 4 := rfl
    have hsize : packet.length = 16 := rfl
    rw [List.length_take, List.length_drop] at hlen
    exact hmiss ⟨i, by omega⟩ hi h
  refine ⟨hframe, ?_⟩
  rintro ⟨uart', hrun, hidle, -⟩
  have haligned := aligned_of_feed hpackets hmagic (by decide) (by decide)
    (InPacket.start hpackets
      (show (⟨MSG_BUFFER_IDLE, 0, Mem.fill ZC_MAX_UARTBUF_LEN 0⟩ : ZC_UartBuffer).Holds [] from Holding.nil) rfl)
    hrun hidle rfl
  have hrefused : ¬ RefusedWhenHandledAgain (packet.drop 10) := fun h => absurd h.1 (by decide)
  obtain ⟨hin, -⟩ | ⟨-, hagain, -⟩ := haligned
  · exact absurd hin (by decide)
  · exact hrefused hagain

/-- Three packets: the first two and ten bytes of the third one arrive in one chunk, and
the rest in another. -/
theorem ZC_Moudlefunc_delivers_whole :
    let short := u8MagicHead ++ (ZC_MessageHead.toBytes ⟨0, 1, 14, 0, ZC_HTONS 4, (0, 0)⟩) ++ [1, 2, 3, 4]
    let long := u8MagicHead ++ (ZC_MessageHead.toBytes ⟨0, 2, 14, 0, ZC_HTONS 12, (0, 0)⟩) ++ List.replicate 12 5
    DeliversPackets [short, short, long] [short ++ short ++ long.take 10, long.drop 10]
      ⟨MSG_BUFFER_IDLE, 0, Mem.fill ZC_MAX_UARTBUF_LEN 0⟩ := by
  intro short long
  have hframes : ∀ f ∈ [short, short, long], uartFormat.IsFrame f := by
    intro f hf
    obtain rfl | rfl | rfl : f = short ∨ f = short ∨ f = long := by simpa using hf
    · exact ⟨by decide, by decide, by decide⟩
    · exact ⟨by decide, by decide, by decide⟩
    · exact ⟨by decide, by decide, by decide⟩
  refine (@ZC_Moudlefunc_delivers_iff_aligned _ [short ++ short ++ long.take 10, long.drop 10]
    ⟨MSG_BUFFER_IDLE, 0, Mem.fill ZC_MAX_UARTBUF_LEN 0⟩ hframes (by decide) (by decide) rfl rfl).1 ?_
  have hrest : AlignedCut [long] 10 [long.drop 10] := by
    unfold AlignedCut
    refine .inr ⟨rfl, ⟨by decide, fun h => absurd h.1 (by decide)⟩, ?_⟩
    unfold AlignedCut
    trivial
  unfold AlignedCut
  exact hrest

end ZCloud
