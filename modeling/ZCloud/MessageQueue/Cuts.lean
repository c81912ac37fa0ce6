import ZCloud.MessageQueue.RecvData

open Memory Framing

namespace ZCloud

namespace MSG_Buffer

/-- Feeds the chunks to `MSG_RecvData` one after the other, up to the first one
that fills the buffer or is refused. -/
def feed : List (List UInt8) → MSG_Buffer → Except Fault (ZC_RET × MSG_Buffer)
  | [], b => return (ZC_RET_OK, b)
  | pu8Data :: chunks, b => do
    let (u32RetVal, b) ← MSG_RecvData b pu8Data
    if u32RetVal = ZC_RET_ERROR ∨ b.u8Status = MSG_BUFFER_FULL then return (u32RetVal, b)
    feed chunks b

/-- The bytes stored in a buffer. -/
def stored (b : MSG_Buffer) : List UInt8 :=
  if b.u8Status = MSG_BUFFER_IDLE then [] else b.u8MsgBuffer.bytes.take b.u32Len

theorem Holds.stored_eq {b : MSG_Buffer} {p : List UInt8} (h : b.Holds p) : b.stored = p := by
  unfold stored
  obtain ⟨hlen, htake, -, hstatus⟩ := h
  split
  · rename_i hidle
    obtain ⟨-, rfl⟩ | ⟨hseg, -⟩ | ⟨hseg, -⟩ := hstatus
    · rfl
    · cases hidle.symm.trans hseg
    · cases hidle.symm.trans hseg
  · rw [hlen, htake]

theorem Holds.not_full {b : MSG_Buffer} {p : List UInt8} (h : b.Holds p) : b.u8Status ≠ MSG_BUFFER_FULL := by
  intro hfull
  obtain ⟨hseg, -⟩ | ⟨hseg, -⟩ | ⟨hseg, -⟩ := h.status_eq
  all_goals cases hfull.symm.trans hseg

/-- What a buffer that holds a part of a frame is in depends on that part only. -/
theorem Holds.status_unique {b b' : MSG_Buffer} {p : List UInt8} (h : b.Holds p) (h' : b'.Holds p) (hp : p ≠ []) :
    b.u8Status = b'.u8Status := by
  obtain ⟨-, hnil⟩ | ⟨hseg, hlen⟩ | ⟨hseg, hlen⟩ := h.status_eq
  · exact absurd hnil hp
  · obtain ⟨-, hnil⟩ | ⟨hseg', -⟩ | ⟨-, hlen'⟩ := h'.status_eq
    · exact absurd hnil hp
    · rw [hseg, hseg']
    · exact absurd hlen (Nat.not_lt.mpr hlen')
  · obtain ⟨-, hnil⟩ | ⟨-, hlen'⟩ | ⟨hseg', -⟩ := h'.status_eq
    · exact absurd hnil hp
    · exact absurd hlen' (Nat.not_lt.mpr hlen)
    · rw [hseg, hseg']

theorem Full.stored_eq {b : MSG_Buffer} {f : List UInt8} (h : b.Full f) : b.stored = f := by
  unfold stored
  rw [if_neg (by rw [h.status_eq]; decide), h.len_eq, h.take_eq]

/-- Chunks leave what their bytes would leave in one piece. -/
theorem feed_result {b : MSG_Buffer} {p : List UInt8} {chunks : List (List UInt8)} (hb : b.Holds p)
    (hchunks : ∀ c ∈ chunks, c.length ≤ CHUNK_MAXLEN) (hne : chunks ≠ []) :
    ∃ r, feed chunks b = .ok r ∧ Result r (secFormat.absorb p chunks.flatten) := by
  induction chunks generalizing b p with
  | nil => exact absurd rfl hne
  | cons c chunks ih =>
    obtain ⟨⟨ret, b'⟩, hrecv, hresult⟩ := MSG_RecvData_spec hb (hchunks c (List.mem_cons_self ..))
    rw [feed, hrecv, ok_bind, List.flatten_cons]
    dsimp only
    cases hout : secFormat.absorb p c with
    | pending q =>
      rw [hout] at hresult
      obtain ⟨rfl, hq⟩ := hresult
      rw [if_neg (by simp [hq.not_full]), Format.absorb_append_of_pending hout]
      cases chunks with
      | nil =>
        -- the last chunk
        refine ⟨_, rfl, ?_⟩
        rw [List.flatten_nil, ← Format.absorb_append_of_pending hout, List.append_nil, hout]
        exact ⟨rfl, hq⟩
      | cons c' chunks => exact ih hq (fun c hc => hchunks c (List.mem_cons_of_mem _ hc)) (by simp)
    | complete f rest =>
      rw [hout] at hresult
      rw [if_pos (Or.inr hresult.2.status_eq), Format.absorb_append_of_complete _ hout]
      exact ⟨_, rfl, hresult⟩
    | reject =>
      rw [hout] at hresult
      rw [if_pos (Or.inl hresult.1), Format.absorb_append_of_reject _ hout]
      exact ⟨_, rfl, hresult⟩

/-- How a run over the bytes `s` ends: rejected when the length declared is too
large, full with the message once all of it is there, else with all of `s`
stored. -/
def Ending (s : List UInt8) (r : ZC_RET × MSG_Buffer) : Prop :=
  if sizeof_ZC_SecHead ≤ s.length ∧ MSG_BUFFER_MAXLEN < secTotal s then
    r.1 = ZC_RET_ERROR ∧ r.2.u8Status = MSG_BUFFER_IDLE ∧ r.2.u32Len = 0
  else if sizeof_ZC_SecHead ≤ s.length ∧ secTotal s ≤ s.length then
    r.1 = ZC_RET_OK ∧ r.2.u8Status = MSG_BUFFER_FULL ∧ r.2.stored = s.take (secTotal s)
  else r.1 = ZC_RET_OK ∧ r.2.u8Status ≠ MSG_BUFFER_FULL ∧ r.2.stored = s

theorem ending_of_result {s : List UInt8} {r : ZC_RET × MSG_Buffer} (h : Result r (secFormat.absorb [] s)) :
    Ending s r := by
  have hcases := secFormat_cases [] s
  simp only [List.nil_append] at hcases
  unfold Ending
  obtain ⟨hshort, hout⟩ | ⟨hbig, hout⟩ | ⟨⟨hhead, hfit, htotal⟩, hout⟩ | ⟨⟨hhead, hfit, htotal⟩, hout⟩ := hcases
  · rw [hout] at h
    rw [if_neg (fun hn => absurd hn.1 (Nat.not_le.mpr hshort)), if_neg (fun hn => absurd hn.1 (Nat.not_le.mpr hshort))]
    exact ⟨h.1, h.2.not_full, h.2.stored_eq⟩
  · rw [hout] at h
    rw [if_pos hbig]
    exact ⟨h.1, h.2.2, h.2.1.len_eq⟩
  · rw [hout] at h
    rw [if_neg (fun hn => absurd hn.2 (Nat.not_lt.mpr hfit)), if_pos ⟨hhead, htotal⟩]
    exact ⟨h.1, h.2.status_eq, h.2.stored_eq⟩
  · rw [hout] at h
    rw [if_neg (fun hn => absurd hn.2 (Nat.not_lt.mpr hfit)), if_neg (fun hn => absurd hn.2 (Nat.not_le.mpr htotal))]
    exact ⟨h.1, h.2.not_full, h.2.stored_eq⟩

theorem Ending.error_iff {s : List UInt8} {r : ZC_RET × MSG_Buffer} (h : Ending s r) :
    r.1 = ZC_RET_ERROR ↔ sizeof_ZC_SecHead ≤ s.length ∧ MSG_BUFFER_MAXLEN < secTotal s := by
  unfold Ending at h
  split at h
  · rename_i hbig
    exact ⟨fun _ => hbig, fun _ => h.1⟩
  · rename_i hbig
    refine ⟨fun herr => ?_, fun hn => absurd hn hbig⟩
    split at h
    all_goals cases herr.symm.trans h.1

/-- An idle buffer holds nothing, whatever its length field says. -/
theorem feed_idle {b : MSG_Buffer} (hidle : b.u8Status = MSG_BUFFER_IDLE) {chunks : List (List UInt8)}
    (hchunks : ∀ c ∈ chunks, c.length ≤ CHUNK_MAXLEN) (hne : chunks ≠ []) :
    ∃ r, feed chunks b = .ok r ∧ Result r (secFormat.absorb [] chunks.flatten) := by
  have hcleared : ({ b with u32Len := 0 } : MSG_Buffer).Holds [] := by
    rw [Holds, hidle]
    exact Holding.nil
  obtain ⟨r, hrun, hresult⟩ := feed_result hcleared hchunks hne
  obtain ⟨c, chunks, rfl⟩ := List.exists_cons_of_ne_nil hne
  have hrecv : MSG_RecvData b c = MSG_RecvData { b with u32Len := 0 } c := by
    obtain ⟨len, status, m⟩ := b
    cases hidle
    rfl
  refine ⟨r, ?_, hresult⟩
  rw [feed, hrecv]
  exact hrun

theorem flatten_ne_nil {chunks : List (List UInt8)} (hne : chunks ≠ []) (hchunks : ∀ c ∈ chunks, c ≠ []) :
    chunks.flatten ≠ [] := by
  obtain ⟨c, chunks, rfl⟩ := List.exists_cons_of_ne_nil hne
  rw [List.flatten_cons]
  exact List.append_ne_nil_of_left_ne_nil (hchunks c (List.mem_cons_self ..)) _

/-- Two buffers into which the same bytes went agree in all that is read of
them. -/
theorem Result.unique {s : List UInt8} {r r' : ZC_RET × MSG_Buffer} (hne : s ≠ [])
    (h : Result r (secFormat.absorb [] s)) (h' : Result r' (secFormat.absorb [] s)) :
    r.1 = r'.1 ∧ r.2.u8Status = r'.2.u8Status ∧ r.2.u32Len = r'.2.u32Len ∧ r.2.stored = r'.2.stored := by
  cases hout : secFormat.absorb [] s with
  | pending q =>
    rw [hout] at h h'
    have hq : q ≠ [] := by
      rw [(Format.absorb_pending hout).1]
      exact hne
    exact ⟨h.1.trans h'.1.symm, h.2.status_unique h'.2 hq, h.2.len_eq.trans h'.2.len_eq.symm,
      h.2.stored_eq.trans h'.2.stored_eq.symm⟩
  | complete f rest =>
    rw [hout] at h h'
    exact ⟨h.1.trans h'.1.symm, h.2.status_eq.trans h'.2.status_eq.symm, h.2.len_eq.trans h'.2.len_eq.symm,
      h.2.stored_eq.trans h'.2.stored_eq.symm⟩
  | reject =>
    rw [hout] at h h'
    exact ⟨h.1.trans h'.1.symm, h.2.2.trans h'.2.2.symm, h.2.1.len_eq.trans h'.2.1.len_eq.symm,
      h.2.1.stored_eq.trans h'.2.1.stored_eq.symm⟩

/-- However the bytes `s` are cut into chunks, an idle buffer ends the same way. -/
theorem feed_independent_of_cut {b : MSG_Buffer} (hidle : b.u8Status = MSG_BUFFER_IDLE) {s : List UInt8}
    {chunks chunks' : List (List UInt8)} (hs : chunks.flatten = s) (hs' : chunks'.flatten = s)
    (hchunks : ∀ c ∈ chunks, c ≠ [] ∧ c.length ≤ CHUNK_MAXLEN)
    (hchunks' : ∀ c ∈ chunks', c ≠ [] ∧ c.length ≤ CHUNK_MAXLEN) :
    ∃ r r', feed chunks b = .ok r ∧ feed chunks' b = .ok r' ∧ Ending s r ∧ Ending s r' ∧
      (r.1 = ZC_RET_ERROR ↔ sizeof_ZC_SecHead ≤ s.length ∧ MSG_BUFFER_MAXLEN < secTotal s) ∧
      r.1 = r'.1 ∧ r.2.u8Status = r'.2.u8Status ∧ r.2.u32Len = r'.2.u32Len ∧ r.2.stored = r'.2.stored := by
  by_cases hnil : s = []
  · -- nothing is fed, and the buffer stays as it is
    have hnone {l : List (List UInt8)} (hl : l.flatten = s) (hne : ∀ c ∈ l, c ≠ [] ∧ c.length ≤ CHUNK_MAXLEN) :
        l = [] :=
      Decidable.byContradiction fun hcons => flatten_ne_nil hcons (fun c hc => (hne c hc).1) (hl.trans hnil)
    have hend : Ending s (ZC_RET_OK, b) := by
      rw [hnil]
      exact ⟨rfl, by rw [hidle]; decide, by rw [stored, if_pos hidle]⟩
    rw [hnone hs hchunks, hnone hs' hchunks']
    exact ⟨_, _, rfl, rfl, hend, hend, hend.error_iff, rfl, rfl, rfl, rfl⟩
  · have hcons {l : List (List UInt8)} (hl : l.flatten = s) : l ≠ [] := by
      rintro rfl
      exact hnil hl.symm
    obtain ⟨r, hrun, hresult⟩ := feed_idle hidle (fun c hc => (hchunks c hc).2) (hcons hs)
    obtain ⟨r', hrun', hresult'⟩ := feed_idle hidle (fun c hc => (hchunks' c hc).2) (hcons hs')
    rw [hs] at hresult
    rw [hs'] at hresult'
    have hend := ending_of_result hresult
    exact ⟨r, r', hrun, hrun', hend, ending_of_result hresult', hend.error_iff, Result.unique hnil hresult hresult'⟩

/-- A message of one byte that arrives in one piece and byte by byte. -/
theorem feed_independent_of_cut_short :
    ∃ r r', feed [[0, 1, 0, 0, 7]] ⟨0, MSG_BUFFER_IDLE, Mem.fill _ 0⟩ = .ok r ∧
      feed [[0], [1], [0], [0], [7]] ⟨0, MSG_BUFFER_IDLE, Mem.fill _ 0⟩ = .ok r' ∧ r.2.stored = r'.2.stored := by
  obtain ⟨r, r', hrun, hrun', -, -, -, -, -, -, hstored⟩ :=
    @feed_independent_of_cut ⟨0, MSG_BUFFER_IDLE, Mem.fill _ 0⟩ rfl [0, 1, 0, 0, 7]
      [[0, 1, 0, 0, 7]] [[0], [1], [0], [0], [7]] rfl rfl (by decide) (by decide)
  exact ⟨r, r', hrun, hrun', hstored⟩

end MSG_Buffer

end ZCloud
