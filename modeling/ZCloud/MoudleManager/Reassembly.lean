import ZCloud.MoudleManager.AssemblePkt

open Memory Framing

namespace ZCloud

/-- What a buffer of `L` bytes keeps to, of which the first `len` are filled: a head
takes `head` bytes, and declares the length `total`. -/
structure Bounded (head : Nat) (total : List UInt8 → Nat) (L : Nat) (status : MSG_BUFFER) (len : Nat)
    (bytes : List UInt8) : Prop where
  nohead : status = MSG_BUFFER_SEGMENT_NOHEAD → len < head
  segment : status = MSG_BUFFER_SEGMENT_HEAD → head ≤ len ∧ len < total bytes ∧ total bytes ≤ L
  full : status = MSG_BUFFER_FULL → len = total bytes ∧ total bytes ≤ L

/-- The states that a buffer goes through: it starts `IDLE`, takes in chunks, and is
reset once it is `FULL`. -/
inductive Collected {B : Type} (status : B → MSG_BUFFER) (recv : B → List UInt8 → Except Fault B) (reset : B → B) :
    B → Prop where
  | start {b : B} (h : status b = MSG_BUFFER_IDLE) : Collected status recv reset b
  | chunk {b b' : B} {c : List UInt8} (h : Collected status recv reset b) (hne : c ≠ []) (hc : c.length ≤ CHUNK_MAXLEN)
      (hrecv : recv b c = .ok b') : Collected status recv reset b'
  | reset {b : B} (h : Collected status recv reset b) (hfull : status b = MSG_BUFFER_FULL) :
      Collected status recv reset (reset b)

section

variable {F : Format UInt8} {L : Nat} {status : MSG_BUFFER} {len : Nat} {bytes p f : List UInt8}

theorem total_of_take (hp : bytes.take p.length = p) (hhead : F.head ≤ p.length) : F.total bytes = F.total p := by
  rw [← List.take_append_drop p.length bytes, hp, Format.total_append hhead]

theorem Holding.bounded (h : Holding F status len bytes p) (hL : ∀ p, F.accept p = true → F.total p ≤ L) :
    Bounded F.head F.total L status len bytes := by
  obtain ⟨rfl, -⟩ | ⟨rfl, hshort⟩ | ⟨rfl, hhead⟩ := h.status_eq
  · exact ⟨nofun, nofun, nofun⟩
  · exact ⟨fun _ => h.len_eq ▸ hshort, nofun, nofun⟩
  · refine ⟨nofun, fun _ => ?_, nofun⟩
    rw [h.len_eq, total_of_take h.take_eq hhead]
    rcases h.isOpen with hshort | ⟨haccept, hlt⟩
    · exact absurd hshort (Nat.not_lt.mpr hhead)
    · exact ⟨hhead, hlt, hL p haccept⟩

theorem Filled.bounded (h : Filled status len bytes f) (hf : F.IsFrame f)
    (hL : ∀ p, F.accept p = true → F.total p ≤ L) : Bounded F.head F.total L status len bytes := by
  rw [h.status_eq]
  refine ⟨nofun, nofun, fun _ => ?_⟩
  rw [h.len_eq, total_of_take h.take_eq hf.head_le]
  exact ⟨hf.length_eq, hL f hf.accepted⟩

end

/-- What a buffer is like in the course of its reassembly: it is idle, or holds part of
a frame, or a whole one. -/
def Assembling (F : Format UInt8) (status : MSG_BUFFER) (len : Nat) (bytes : List UInt8) : Prop :=
  status = MSG_BUFFER_IDLE ∨ (∃ p, Holding F status len bytes p) ∨ ∃ f, Filled status len bytes f ∧ F.IsFrame f

theorem Assembling.bounded {F : Format UInt8} {L : Nat} {status : MSG_BUFFER} {len : Nat} {bytes : List UInt8}
    (h : Assembling F status len bytes) (hL : ∀ p, F.accept p = true → F.total p ≤ L) :
    Bounded F.head F.total L status len bytes := by
  obtain rfl | ⟨p, hp⟩ | ⟨f, hfilled, hf⟩ := h
  · exact ⟨nofun, nofun, nofun⟩
  · exact hp.bounded hL
  · exact hfilled.bounded hf hL

theorem Assembling.of_absorb {F : Format UInt8} {status : MSG_BUFFER} {len : Nat} {bytes : List UInt8} (p c : List UInt8)
    (hpending : ∀ q, F.absorb p c = .pending q → Holding F status len bytes q)
    (hcomplete : ∀ f rest, F.absorb p c = .complete f rest → Filled status len bytes f)
    (hreject : F.absorb p c = .reject → status = MSG_BUFFER_IDLE) : Assembling F status len bytes := by
  cases hout : F.absorb p c with
  | pending q => exact .inr (.inl ⟨q, hpending q hout⟩)
  | complete f rest => exact .inr (.inr ⟨f, hcomplete f rest hout, (Format.absorb_complete hout).2⟩)
  | reject => exact .inl (hreject hout)

def MSG_Buffer.Assembling (b : MSG_Buffer) : Prop :=
  ZCloud.Assembling secFormat b.u8Status b.u32Len b.u8MsgBuffer.bytes

def ZC_UartBuffer.Assembling (uart : ZC_UartBuffer) : Prop :=
  ZCloud.Assembling uartFormat uart.u32Status uart.u32RecvLen uart.u8UartBuffer.bytes

/-- How `MSG_RecvData` leaves the buffer. -/
def recvBuffer (b : MSG_Buffer) (c : List UInt8) : Except Fault MSG_Buffer := return (← MSG_RecvData b c).2

/-- How `ZC_AssemblePkt` leaves the buffer. -/
def assembleBuffer (uart : ZC_UartBuffer) (c : List UInt8) : Except Fault ZC_UartBuffer :=
  return (← ZC_AssemblePkt uart c).2.1

theorem recvBuffer_assembling {b : MSG_Buffer} {c : List UInt8} (hb : b.Assembling) (hc : c.length ≤ CHUNK_MAXLEN) :
    ∃ b', recvBuffer b c = .ok b' ∧ b'.Assembling := by
  have hpart : ∀ {b : MSG_Buffer} {p}, b.Holds p → ∃ b', recvBuffer b c = .ok b' ∧ b'.Assembling := by
    intro b p hp
    obtain ⟨r, hrecv, hresult⟩ := MSG_RecvData_spec hp hc
    refine ⟨r.2, by rw [recvBuffer, hrecv]; rfl,
      .of_absorb p c (fun q hout => ?_) (fun f rest hout => ?_) fun hout => ?_⟩
    all_goals rw [hout] at hresult
    · exact hresult.2
    · exact hresult.2
    · exact hresult.2.2
  obtain hidle | ⟨p, hp⟩ | ⟨f, hfilled, hf⟩ := hb
  · obtain ⟨len, status, m⟩ := b
    obtain rfl : status = MSG_BUFFER_IDLE := hidle
    -- the length that an idle buffer has is not looked at
    exact hpart (b := ⟨0, MSG_BUFFER_IDLE, m⟩) (p := []) Holding.nil
  · exact hpart hp
  · refine ⟨b, ?_, .inr (.inr ⟨f, hfilled, hf⟩)⟩
    rw [recvBuffer, MSG_RecvData_full hfilled.status_eq]
    rfl

theorem assembleBuffer_assembling {uart : ZC_UartBuffer} {c : List UInt8} (hu : uart.Assembling)
    (hc : c.length ≤ CHUNK_MAXLEN) : ∃ uart', assembleBuffer uart c = .ok uart' ∧ uart'.Assembling := by
  have hpart : ∀ {uart : ZC_UartBuffer} {p}, uart.Holds p →
      ∃ uart', assembleBuffer uart c = .ok uart' ∧ uart'.Assembling := by
    intro uart p hp
    obtain ⟨r, hrecv, hresult⟩ := ZC_AssemblePkt_spec hp hc
    refine ⟨r.2.1, by rw [assembleBuffer, hrecv]; rfl,
      .of_absorb p c (fun q hout => ?_) (fun f rest hout => ?_) fun hout => ?_⟩
    all_goals rw [hout] at hresult
    · exact hresult.2.1
    · exact hresult.2.1
    · exact hresult.2.2.1
  obtain hidle | ⟨p, hp⟩ | ⟨f, hfilled, hf⟩ := hu
  · obtain ⟨status, len, m⟩ := uart
    obtain rfl : status = MSG_BUFFER_IDLE := hidle
    exact @hpart ⟨MSG_BUFFER_IDLE, 0, m⟩ [] Holding.nil
  · exact hpart hp
  · obtain ⟨status, len, m⟩ := uart
    obtain rfl : status = MSG_BUFFER_FULL := hfilled.status_eq
    exact ⟨_, rfl, .inr (.inr ⟨f, hfilled, hf⟩)⟩

/-- What every step of a reassembly keeps. -/
theorem Collected.invariant {B : Type} {status : B → MSG_BUFFER} {recv : B → List UInt8 → Except Fault B}
    {reset : B → B} {I : B → Prop} {b : B} (h : Collected status recv reset b)
    (hidle : ∀ b, status b = MSG_BUFFER_IDLE → I b) (hreset : ∀ b, status (reset b) = MSG_BUFFER_IDLE)
    (hrecv : ∀ b c, I b → c.length ≤ CHUNK_MAXLEN → ∃ b', recv b c = .ok b' ∧ I b') : I b := by
  induction h with
  | start h => exact hidle _ h
  | chunk _ _ hc hstep ih =>
    obtain ⟨b', hb', hI⟩ := hrecv _ _ ih hc
    rw [hstep] at hb'
    rwa [Except.ok.inj hb']
  | reset _ _ _ => exact hidle _ (hreset _)

/-- The buffer of a stream is emptied. -/
def MSG_Buffer.reset (b : MSG_Buffer) : MSG_Buffer := { b with u32Len := 0, u8Status := MSG_BUFFER_IDLE }

def ZC_UartBuffer.reset (uart : ZC_UartBuffer) : ZC_UartBuffer :=
  { uart with u32Status := MSG_BUFFER_IDLE, u32RecvLen := 0 }

/-- In every state of their reassembly, the buffers of the cloud and of the module
keep to their bounds, and no access of the next call leaves its object. -/
theorem reassembly_bounded :
    (∀ b, Collected MSG_Buffer.u8Status recvBuffer MSG_Buffer.reset b →
      Bounded sizeof_ZC_SecHead secTotal MSG_BUFFER_MAXLEN b.u8Status b.u32Len b.u8MsgBuffer.bytes ∧
        ∀ c, c ≠ [] → c.length ≤ CHUNK_MAXLEN → ∃ r, MSG_RecvData b c = .ok r) ∧
    ∀ uart, Collected ZC_UartBuffer.u32Status assembleBuffer ZC_UartBuffer.reset uart →
      Bounded u32HeadLen uartTotal ZC_MAX_UARTBUF_LEN uart.u32Status uart.u32RecvLen uart.u8UartBuffer.bytes ∧
        ∀ c, c ≠ [] → c.length ≤ CHUNK_MAXLEN → ∃ r, ZC_AssemblePkt uart c = .ok r := by
  refine ⟨fun b h => ?_, fun uart h => ?_⟩
  · have hb : b.Assembling := h.invariant (fun b hb => .inl hb) (fun _ => rfl) fun b c => recvBuffer_assembling
    refine ⟨hb.bounded fun p hp => of_decide_eq_true hp, fun c _ hc => ?_⟩
    obtain ⟨b', hb', -⟩ := recvBuffer_assembling hb hc
    cases hrecv : MSG_RecvData b c with
    | ok r => exact ⟨r, rfl⟩
    | error e =>
      rw [recvBuffer, hrecv] at hb'
      cases hb'
  · have hu : uart.Assembling := h.invariant (fun _ hu => .inl hu) (fun _ => rfl) fun _ _ => assembleBuffer_assembling
    refine ⟨hu.bounded fun p hp => (of_decide_eq_true hp).2, fun c _ hc => ?_⟩
    obtain ⟨uart', hu', -⟩ := assembleBuffer_assembling hu hc
    cases hrecv : ZC_AssemblePkt uart c with
    | ok r => exact ⟨r, rfl⟩
    | error e =>
      rw [assembleBuffer, hrecv] at hu'
      cases hu'

/-- The first two bytes of a head, and the first eleven of a packet. -/
theorem reassembly_bounded_short : ∃ (b : MSG_Buffer) (uart : ZC_UartBuffer),
    b.u8Status = MSG_BUFFER_SEGMENT_NOHEAD ∧ uart.u32Status = MSG_BUFFER_SEGMENT_NOHEAD ∧
    Bounded sizeof_ZC_SecHead secTotal MSG_BUFFER_MAXLEN b.u8Status b.u32Len b.u8MsgBuffer.bytes ∧
    Bounded u32HeadLen uartTotal ZC_MAX_UARTBUF_LEN uart.u32Status uart.u32RecvLen uart.u8UartBuffer.bytes := by
  have hb : (recvBuffer ⟨0, MSG_BUFFER_IDLE, Mem.fill _ 0⟩ [0, 9]).toOption.map MSG_Buffer.u8Status =
      some MSG_BUFFER_SEGMENT_NOHEAD := by decide +kernel
  have hu : (assembleBuffer ⟨MSG_BUFFER_IDLE, 0, Mem.fill _ 0⟩ (u8MagicHead ++ List.replicate 7 0)).toOption.map
      ZC_UartBuffer.u32Status = some MSG_BUFFER_SEGMENT_NOHEAD := by decide +kernel
  cases hrecv : recvBuffer ⟨0, MSG_BUFFER_IDLE, Mem.fill _ 0⟩ [0, 9] with
  | error e =>
    rw [hrecv] at hb
    cases hb
  | ok b =>
    cases hassemble : assembleBuffer ⟨MSG_BUFFER_IDLE, 0, Mem.fill _ 0⟩ (u8MagicHead ++ List.replicate 7 0) with
    | error e =>
      rw [hassemble] at hu
      cases hu
    | ok uart =>
      rw [hrecv] at hb
      rw [hassemble] at hu
      exact ⟨b, uart, Option.some.inj hb, Option.some.inj hu,
        (reassembly_bounded.1 b (.chunk (.start rfl) (List.cons_ne_nil _ _) (by decide) hrecv)).1,
        (reassembly_bounded.2 uart (.chunk (.start rfl) (List.cons_ne_nil _ _) (by decide) hassemble)).1⟩

end ZCloud
