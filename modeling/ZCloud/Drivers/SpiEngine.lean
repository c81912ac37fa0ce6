import ZCloud.Drivers.SpiFifo

open Memory Program BigEndian

namespace ZCloud

/-- Only what is in the buffer for reception may differ. -/
structure tls_spi_transfer.Same (x y : tls_spi_transfer) : Prop where
  tx_buf : x.tx_buf = y.tx_buf
  len : x.len = y.len
  rx : x.rx_buf.isSome = y.rx_buf.isSome

theorem tls_spi_transfer.Same.refl (x : tls_spi_transfer) : x.Same x := ⟨rfl, rfl, rfl⟩

theorem tls_spi_transfer.same_receive (x : tls_spi_transfer) (off : Nat) (data : List UInt8) : (x.receive off data).Same x :=
  ⟨rfl, rfl, by simp [tls_spi_transfer.receive]⟩

namespace SpiPort

variable {s s' : SpiPort} {k r n m t : Nat} {out seg : List UInt8} {event : SpiEvent}

/-- The transfers that are left. -/
def pending (s : SpiPort) : List Nat := s.wait_queue.flatMap fun m => (s.messages m).transfers

/-- The messages, of whose transfers `k` are over. -/
structure Queued (k : Nat) (s : SpiPort) : Prop where
  order : List.range s.submitted = s.completed ++ s.wait_queue
  left : List.range s.known = List.range k ++ s.pending
  nonempty : ∀ m ∈ s.wait_queue, (s.messages m).transfers ≠ [] ∧ (s.messages m).status ≠ SPI_MESSAGE_STATUS_DONE
  ended : ∀ m ∈ s.completed, (s.messages m).transfers = []
  given : ∀ m < s.submitted, ∀ t ∈ (s.messages m).given, t < k ∨ t ∈ (s.messages m).transfers
  valid : ∀ t < s.known, (s.transfers t).Valid

/-- What has been on the wires: the first `k` transfers, and then `out` and `seg`. -/
structure Wired (k : Nat) (out seg : List UInt8) (s : SpiPort) : Prop where
  mosi : s.mosi = (List.range k).flatMap (fun t => (s.transfers t).sent) ++ out
  miso : ∃ segs : Nat → List UInt8, s.miso = (List.range k).flatMap segs ++ seg ∧
    ∀ t < k, (segs t).length = (s.transfers t).len ∧ ∀ rx_buf, (s.transfers t).rx_buf = some rx_buf → rx_buf = segs t

theorem Queued.mem_lt (h : Queued k s) (hm : m ∈ s.completed ++ s.wait_queue) : m < s.submitted := by
  rw [← h.order] at hm
  exact List.mem_range.mp hm

theorem Queued.nodup (h : Queued k s) : (s.completed ++ s.wait_queue).Nodup := by
  rw [← h.order]
  exact List.nodup_range

theorem Queued.le (h : Queued k s) : k ≤ s.known := by
  have := congrArg List.length h.left
  simp only [List.length_range, List.length_append] at this
  omega

/-- The transfer that comes next is the first one of the first message. -/
theorem Queued.next (h : Queued k s) {q : List Nat} (hqueue : s.wait_queue = m :: q) : ∃ ts, (s.messages m).transfers = k :: ts ∧ k < s.known ∧
    List.range s.known = List.range (k + 1) ++ (ts ++ q.flatMap fun m => (s.messages m).transfers) := by
  have hne := (h.nonempty m (by rw [hqueue]; exact List.mem_cons_self)).1
  obtain ⟨t, ts, hts⟩ := List.exists_cons_of_ne_nil hne
  have hleft := h.left
  rw [pending, hqueue, List.flatMap_cons, hts, List.cons_append] at hleft
  have hlen := congrArg List.length hleft
  simp only [List.length_range, List.length_append, List.length_cons] at hlen
  have hget : (List.range s.known)[k]? = some t := by
    rw [hleft, List.getElem?_append_right (by simp)]
    simp
  rw [List.getElem?_range (by omega)] at hget
  obtain rfl : k = t := Option.some.inj hget
  exact ⟨ts, hts, by omega, by rw [hleft, List.range_succ, List.append_assoc, List.singleton_append]⟩

/-- The transfer `k` is going on, with `r` bytes left and `seg` received. -/
structure Current (k r : Nat) (seg : List UInt8) (s : SpiPort) : Prop where
  head : ∃ m q, s.wait_queue = m :: q ∧ s.current_message = some m
  current_transfer : s.current_transfer = some k
  remaining : s.current_remaining_bytes = r
  pos : 0 < r
  le : r ≤ (s.transfers k).len
  length : seg.length = (s.transfers k).len - r
  rx : ∀ rx_buf, (s.transfers k).rx_buf = some rx_buf → rx_buf.take seg.length = seg
  starting : s.starting = []

/-- Nothing is going on, and nobody is about to start anything unless there are messages. -/
structure Resting (k : Nat) (s : SpiPort) : Prop where
  current : s.current_message = none ∧ s.current_transfer = none
  still : s.sclk = none ∧ s.txfifo = []
  waking : (s.wait_queue = [] ∧ s.msg_queue = [] ∧ s.starting = []) ∨ (s.wait_queue ≠ [] ∧
    ((s.msg_queue = [SPI_SCHED_MSG_START_ENGINE] ∧ s.starting = []) ∨ (s.msg_queue = [] ∧ ∃ task, s.starting = [task])))
  wired : Wired k [] [] s

/-- The next part of the transfer is to be put into the FIFO. -/
structure Ready (k r : Nat) (seg : List UInt8) (s : SpiPort) : Prop where
  current : Current k r seg s
  still : s.sclk = none ∧ s.txfifo = []
  quiet : s.msg_queue = []
  wired : Wired k ((s.transfers k).sent.take ((s.transfers k).len - r)) seg s

/-- It is on its way. -/
structure Shifting (k r : Nat) (seg : List UInt8) (s : SpiPort) : Prop where
  current : Current k r seg s
  sclk : s.sclk = some (min SPI_FIFO_SIZE r)
  words : s.txfifo.length = (min SPI_FIFO_SIZE r + 3) / 4
  bytes : (s.txfifo.flatMap bytes).take (min SPI_FIFO_SIZE r) =
    ((s.transfers k).sent.drop ((s.transfers k).len - r)).take (min SPI_FIFO_SIZE r)
  quiet : s.msg_queue = []
  wired : Wired k ((s.transfers k).sent.take ((s.transfers k).len - r)) seg s

/-- What has been received of the `r` bytes that were left. -/
def received (s : SpiPort) (r : Nat) : List UInt8 := (s.rxfifo.flatMap bytes).take (min SPI_FIFO_SIZE r)

/-- It is over, and what has been received is in the FIFO. -/
structure Shifted (k r : Nat) (seg : List UInt8) (s : SpiPort) : Prop where
  current : Current k r seg s
  still : s.sclk = none ∧ s.txfifo = []
  count : s.rxcount = min SPI_FIFO_SIZE r
  words : s.rxfifo.length = (min SPI_FIFO_SIZE r + 3) / 4
  wired : Wired k ((s.transfers k).sent.take ((s.transfers k).len - r + min SPI_FIFO_SIZE r)) (seg ++ s.received r) s

/-- What holds between the events. -/
def Inv (s : SpiPort) : Prop :=
  ∃ k, Queued k s ∧ (Resting k s ∨ (∃ r seg, Shifting k r seg s) ∨
    ∃ r seg, Shifted k r seg s ∧ s.msg_queue = [SPI_SCHED_MSG_TRANSFER_COMPLETE])

theorem init_inv : Inv init := by
  refine ⟨0, ⟨rfl, rfl, ?_, ?_, ?_, ?_⟩, .inl ⟨⟨rfl, rfl⟩, ⟨rfl, rfl⟩, .inl ⟨rfl, rfl, rfl⟩, rfl, fun _ => [], rfl, ?_⟩⟩
  all_goals simp [init]

theorem transfers_of_ne {x : tls_spi_transfer} (hne : t ≠ k) : (s.setTransfer k x).transfers t = s.transfers t := by
  simp [setTransfer, hne]

/-- The first `k` transfers are over, so that the others do not matter. -/
theorem Wired.congr (h : Wired k out seg s) (htransfers : ∀ t < k, s'.transfers t = s.transfers t) (hmosi : s'.mosi = s.mosi)
    (hmiso : s'.miso = s.miso) : Wired k out seg s' where
  mosi := by
    rw [hmosi, h.mosi]
    congr 1
    refine List.flatMap_congr fun t ht => ?_
    rw [htransfers t (List.mem_range.mp ht)]
  miso := by
    obtain ⟨segs, hmiso', hsegs⟩ := h.miso
    refine ⟨segs, hmiso.trans hmiso', fun t ht => ?_⟩
    rw [htransfers t ht]
    exact hsegs t ht

/-- A transfer is over when all of it has been on the wires, and in its buffer. -/
theorem Wired.succ (h : Wired k (s.transfers k).sent seg s) (hlength : seg.length = (s.transfers k).len)
    (hrx : ∀ rx_buf, (s.transfers k).rx_buf = some rx_buf → rx_buf = seg) : Wired (k + 1) [] [] s where
  mosi := by rw [h.mosi, List.range_succ, List.flatMap_append, List.flatMap_singleton, List.append_nil]
  miso := by
    obtain ⟨segs, hmiso, hsegs⟩ := h.miso
    refine ⟨Function.update segs k seg, ?_, fun t ht => ?_⟩
    · have hsame : (List.range k).flatMap (Function.update segs k seg) = (List.range k).flatMap segs :=
        List.flatMap_congr fun t ht => Function.update_of_ne (Nat.ne_of_lt (List.mem_range.mp ht)) ..
      rw [hmiso, List.range_succ, List.flatMap_append, List.flatMap_singleton, hsame, Function.update_self, List.append_nil]
    · by_cases htk : t = k
      · rw [htk, Function.update_self]
        exact ⟨hlength, hrx⟩
      · rw [Function.update_of_ne htk]
        exact hsegs t (by omega)

/-- The controller shifts what is in the FIFO. -/
def sending (s : SpiPort) (words : List UInt32) (n : Nat) : SpiPort := { s with txfifo := words, sclk := some n }

/-- The next part is put into the FIFO and sent. -/
theorem Ready.fill (h : Ready k r seg s) (hvalid : (s.transfers k).Valid) : ∃ words,
    (spi_fill_txfifo (some k) r).run s = .ok (min SPI_FIFO_SIZE r, { s with txfifo := words }) ∧
      Shifting k r seg (s.sending words (min SPI_FIFO_SIZE r)) := by
  obtain ⟨words, hrun, hwords, hbytes⟩ := run_spi_fill_txfifo hvalid h.still.2 h.current.le h.current.pos
  exact ⟨words, hrun, ⟨h.current.head, h.current.current_transfer, h.current.remaining, h.current.pos, h.current.le, h.current.length,
    h.current.rx, h.current.starting⟩, rfl, hwords, hbytes, h.quiet, h.wired.mosi, h.wired.miso⟩

theorem Ready.run_fillAndStart (h : Ready k r seg s) (hvalid : (s.transfers k).Valid) : ∃ words,
    fillAndStart.run s = .ok ((), s.sending words (min SPI_FIFO_SIZE r)) ∧
      Shifting k r seg (s.sending words (min SPI_FIFO_SIZE r)) := by
  obtain ⟨words, hrun, hshifting⟩ := h.fill hvalid
  have hpos := h.current.pos
  have hne : min SPI_FIFO_SIZE r ≠ 0 := by
    simp only [SPI_FIFO_SIZE]
    omega
  have hcall : spi_fill_txfifo s.current_transfer s.current_remaining_bytes = spi_fill_txfifo (some k) r := by
    rw [h.current.current_transfer, h.current.remaining]
  refine ⟨words, ?_, hshifting⟩
  simp only [fillAndStart, run_bind, run_get, ok_bind, hcall, hrun, if_pos hne, spi_start_transfer, run_modify]
  rfl

/-- The message `m` with its first transfer `k` is the current one. -/
def begun (s : SpiPort) (m k : Nat) : SpiPort :=
  { s.setMessage m { s.messages m with status := SPI_MESSAGE_STATUS_INPROGRESS } with current_transfer := some k, current_message := some m }

theorem run_nextMessage {q ts : List Nat} (hqueue : s.wait_queue = m :: q) (hts : (s.messages m).transfers = k :: ts) :
    nextMessage.run s = .ok ((), s.begun m k) := by
  have hfirst : s.spi_next_transfer (some m) = some k := by simp [spi_next_transfer, hts]
  simp only [nextMessage, spi_next_message, run_bind, run_get, ok_bind, hqueue, List.head?_cons, run_modify, run_pure, hfirst]
  rfl

theorem run_nextMessage_nil (hqueue : s.wait_queue = []) : nextMessage.run s = .ok ((), { s with current_message := none }) := by
  simp only [nextMessage, spi_next_message, run_bind, run_get, ok_bind, hqueue, List.head?_nil, run_modify, run_pure]

theorem messages_setMessage {x : tls_spi_message} : (s.setMessage m x).messages m = x := by simp [setMessage]

theorem messages_of_ne {m' : Nat} {x : tls_spi_message} (hne : m' ≠ m) : (s.setMessage m x).messages m' = s.messages m' := by
  simp [setMessage, hne]

/-- What the status of a message is does not matter, as long as it is not done. -/
theorem Queued.setStatus (h : Queued k s) {status : SpiMessageStatus} (hne : status ≠ SPI_MESSAGE_STATUS_DONE) :
    Queued k (s.setMessage m { s.messages m with status := status }) := by
  have htransfers (m' : Nat) : ((s.setMessage m { s.messages m with status := status }).messages m').transfers = (s.messages m').transfers := by
    by_cases hm : m' = m
    · rw [hm, messages_setMessage]
    · rw [messages_of_ne hm]
  have hgiven (m' : Nat) : ((s.setMessage m { s.messages m with status := status }).messages m').given = (s.messages m').given := by
    by_cases hm : m' = m
    · rw [hm, messages_setMessage]
    · rw [messages_of_ne hm]
  refine ⟨h.order, ?_, fun m' hm' => ⟨?_, ?_⟩, fun m' hm' => ?_, fun m' hm' => ?_, h.valid⟩
  · simp only [pending, htransfers]
    exact h.left
  · rw [htransfers]
    exact (h.nonempty m' hm').1
  · by_cases hm : m' = m
    · rw [hm, messages_setMessage]
      exact hne
    · rw [messages_of_ne hm]
      exact (h.nonempty m' hm').2
  · rw [htransfers]
    exact h.ended m' hm'
  · rw [htransfers, hgiven]
    exact h.given m' hm'

/-- A transfer that has just become the current one has not begun. -/
theorem ready_of_head {q : List Nat} (hvalid : (s.transfers k).Valid) (hwired : Wired k [] [] s) (hqueue : s.wait_queue = m :: q)
    (hmessage : s.current_message = some m) (htransfer : s.current_transfer = some k) (hstill : s.sclk = none ∧ s.txfifo = [])
    (hquiet : s.msg_queue = [] ∧ s.starting = []) : Ready k (s.transfers k).len [] (s.remain (s.transfers k).len) := by
  refine ⟨⟨⟨m, q, hqueue, hmessage⟩, htransfer, rfl, hvalid.pos, Nat.le_refl _, ?_, fun _ _ => rfl, hquiet.2⟩, hstill, hquiet.1, ?_⟩
  · exact (Nat.sub_self (s.transfers k).len).symm
  · change Wired k ((s.transfers k).sent.take ((s.transfers k).len - (s.transfers k).len)) [] _
    rw [Nat.sub_self, List.take_zero]
    exact ⟨hwired.mosi, hwired.miso⟩

/-- Only the FIFO and the controller have changed. -/
theorem Queued.congr (h : Queued k s) (hqueue : s'.wait_queue = s.wait_queue) (hmessages : s'.messages = s.messages)
    (htransfers : s'.transfers = s.transfers) (hcompleted : s'.completed = s.completed)
    (hnumbers : s'.submitted = s.submitted ∧ s'.known = s.known) : Queued k s' where
  order := by rw [hnumbers.1, hcompleted, hqueue]; exact h.order
  left := by rw [hnumbers.2, pending, hqueue, hmessages]; exact h.left
  nonempty := by rw [hqueue, hmessages]; exact h.nonempty
  ended := by rw [hcompleted, hmessages]; exact h.ended
  given := by rw [hnumbers.1, hmessages]; exact h.given
  valid := by rw [hnumbers.2, htransfers]; exact h.valid

/-- The next message is about to be sent. -/
theorem ready_begun {q : List Nat} (hvalid : (s.transfers k).Valid) (hwired : Wired k [] [] s) (hqueue : s.wait_queue = m :: q)
    (hstill : s.sclk = none ∧ s.txfifo = []) (hquiet : s.msg_queue = [] ∧ s.starting = []) :
    Ready k (s.transfers k).len [] ((s.begun m k).remain (s.transfers k).len) :=
  @ready_of_head (s.begun m k) k m q hvalid ⟨hwired.mosi, hwired.miso⟩ hqueue rfl rfl hstill hquiet

/-- The wire for what is sent, what the transfers are, and what the messages have had left. -/
structure Kept (s s' : SpiPort) : Prop where
  mosi : s'.mosi = s.mosi
  numbers : s'.submitted = s.submitted ∧ s'.known = s.known
  transfers : ∀ t, (s'.transfers t).Same (s.transfers t)
  left : ∀ m, (s'.messages m).transfers ⊆ (s.messages m).transfers

theorem left_setMessage {x : tls_spi_message} (hsub : x.transfers ⊆ (s.messages m).transfers) (m' : Nat) :
    ((s.setMessage m x).messages m').transfers ⊆ (s.messages m').transfers := by
  by_cases hm : m' = m
  · rw [hm, messages_setMessage]
    exact hsub
  · rw [messages_of_ne hm]
    exact List.Subset.refl _

theorem run_startEngine (hq : Queued k s) (hwired : Wired k [] [] s) (hcurrent : s.current_message = none) (hqueue : s.wait_queue ≠ [])
    (hstill : s.sclk = none ∧ s.txfifo = []) (hquiet : s.msg_queue = [] ∧ s.starting = []) :
    ∃ s' r seg, startEngine.run s = .ok ((), s') ∧ Queued k s' ∧ Shifting k r seg s' ∧ Kept s s' := by
  obtain ⟨m, q, hmq⟩ := List.exists_cons_of_ne_nil hqueue
  obtain ⟨ts, hts, hknown, -⟩ := hq.next hmq
  have hready := ready_begun (hq.valid k hknown) hwired hmq hstill hquiet
  have hq₁ : Queued k ((s.begun m k).remain (s.transfers k).len) := (hq.setStatus (by decide)).congr rfl rfl rfl rfl ⟨rfl, rfl⟩
  obtain ⟨words, hfill, hshifting⟩ := hready.fill (hq.valid k hknown)
  refine ⟨((s.begun m k).remain (s.transfers k).len).sending words (min SPI_FIFO_SIZE (s.transfers k).len), _, _, ?_,
    hq₁.congr rfl rfl rfl rfl ⟨rfl, rfl⟩, hshifting, rfl, ⟨rfl, rfl⟩, fun _ => tls_spi_transfer.Same.refl _, left_setMessage (List.Subset.refl _)⟩
  have hcurrent₁ : (s.begun m k).current_transfer = some k := rfl
  have htransfers : (s.begun m k).transfers k = s.transfers k := rfl
  simp only [startEngine, run_bind, run_get, ok_bind, hcurrent, Option.isSome_none, Bool.false_eq_true, if_false,
    run_nextMessage hmq hts, hcurrent₁, htransfers, run_modify]
  rw [hfill]
  rfl

/-- What is in the FIFO is in the buffer of the transfer `k`. -/
def emptied (s : SpiPort) (k r : Nat) : SpiPort := s.got k ((s.transfers k).len - r) (s.received r) [] 0

theorem Shifted.length_received (h : Shifted k r seg s) : (s.received r).length = min SPI_FIFO_SIZE r := by
  rw [received, List.length_take, length_flatMap_bytes, h.words]
  omega

theorem transfers_emptied (s : SpiPort) (k r : Nat) : (s.emptied k r).transfers k = (s.transfers k).receive ((s.transfers k).len - r) (s.received r) :=
  transfers_got

theorem len_emptied (s : SpiPort) (k r : Nat) : ((s.emptied k r).transfers k).len = (s.transfers k).len := by
  rw [transfers_emptied]
  rfl

theorem sent_emptied (s : SpiPort) (k r : Nat) : ((s.emptied k r).transfers k).sent = (s.transfers k).sent := by
  rw [transfers_emptied]
  rfl

theorem Queued.emptied (h : Queued k s) (hshifted : Shifted k r seg s) : Queued k (s.emptied k r) := by
  refine ⟨h.order, h.left, h.nonempty, h.ended, h.given, fun t ht => ?_⟩
  by_cases htk : t = k
  · subst htk
    rw [transfers_emptied]
    refine (h.valid t ht).receive ?_
    rw [hshifted.length_received]
    have := hshifted.current.le
    omega
  · exact (transfers_of_ne htk).symm ▸ h.valid t ht

theorem Wired.emptied (h : Wired k out seg s) (r : Nat) : Wired k out seg (s.emptied k r) :=
  h.congr (fun _ ht => transfers_of_ne (Nat.ne_of_lt ht)) rfl rfl

/-- The buffer has what has been received so far. -/
theorem Shifted.rx_emptied (h : Shifted k r seg s) (hvalid : (s.transfers k).Valid) {rx_buf : List UInt8}
    (hrx : ((s.emptied k r).transfers k).rx_buf = some rx_buf) :
    rx_buf.length = (s.transfers k).len ∧ rx_buf.take (seg ++ s.received r).length = seg ++ s.received r := by
  have hreceived := h.length_received
  have hlength := h.current.length
  have hle := h.current.le
  rw [transfers_emptied] at hrx
  obtain ⟨old, hold, rfl⟩ := Option.map_eq_some_iff.mp hrx
  have holdlen := hvalid.rx old hold
  have hdone := h.current.rx old hold
  rw [hlength] at hdone
  refine ⟨(length_patch (by omega)).trans holdlen, ?_⟩
  rw [patch, hdone, List.take_append_of_le_length (by omega), List.take_length]

theorem Shifted.run_spi_get_rxfifo (h : Shifted k r seg s) (hvalid : (s.transfers k).Valid) :
    (spi_get_rxfifo (some k) r).run s = .ok (min SPI_FIFO_SIZE r, s.emptied k r) :=
  SpiPort.run_spi_get_rxfifo hvalid h.current.le h.current.pos h.count (Nat.min_le_right ..) h.words

/-- There are bytes left. -/
theorem Shifted.ready (h : Shifted k r seg s) (hvalid : (s.transfers k).Valid) (hquiet : s.msg_queue = []) (hmore : SPI_FIFO_SIZE < r) :
    Ready k (r - SPI_FIFO_SIZE) (seg ++ s.received r) ((s.emptied k r).remain (r - SPI_FIFO_SIZE)) := by
  have hmin : min SPI_FIFO_SIZE r = SPI_FIFO_SIZE := Nat.min_eq_left (Nat.le_of_lt hmore)
  have hle := h.current.le
  have hlength := h.current.length
  have hreceived := h.length_received
  have hlen : (((s.emptied k r).remain (r - SPI_FIFO_SIZE)).transfers k).len = (s.transfers k).len := len_emptied s k r
  have hsent : (((s.emptied k r).remain (r - SPI_FIFO_SIZE)).transfers k).sent = (s.transfers k).sent := sent_emptied s k r
  refine ⟨⟨h.current.head, h.current.current_transfer, rfl, by omega, by omega, ?_, fun rx_buf hrx => (h.rx_emptied hvalid hrx).2,
    h.current.starting⟩, h.still, hquiet, ?_⟩
  · rw [List.length_append, hlen]
    omega
  · rw [hlen, hsent, show (s.transfers k).len - (r - SPI_FIFO_SIZE) = (s.transfers k).len - r + min SPI_FIFO_SIZE r by omega]
    exact ⟨(h.wired.emptied r).mosi, (h.wired.emptied r).miso⟩

/-- There are none. -/
theorem Shifted.ended (h : Shifted k r seg s) (hvalid : (s.transfers k).Valid) (hlast : r ≤ SPI_FIFO_SIZE) : Wired (k + 1) [] [] (s.emptied k r) := by
  have hmin : min SPI_FIFO_SIZE r = r := Nat.min_eq_right hlast
  have hle := h.current.le
  have hlength := h.current.length
  have hreceived := h.length_received
  have hlen : ((s.emptied k r).transfers k).len = (s.transfers k).len := len_emptied s k r
  have hsent : ((s.emptied k r).transfers k).sent = (s.transfers k).sent := sent_emptied s k r
  have hall : (s.transfers k).sent.take ((s.transfers k).len - r + min SPI_FIFO_SIZE r) = (s.transfers k).sent :=
    List.take_of_length_le (by rw [hvalid.length_sent]; omega)
  have hwired := h.wired.emptied r
  rw [hall, ← hsent] at hwired
  refine hwired.succ ?_ fun rx_buf hrx => ?_
  · rw [List.length_append, hlen]
    omega
  · obtain ⟨hrxlen, htake⟩ := h.rx_emptied hvalid hrx
    rwa [List.take_of_length_le (by rw [List.length_append]; omega)] at htake

/-- The message `m` goes on with its next transfer. -/
def advanced (s : SpiPort) (m t : Nat) (ts : List Nat) : SpiPort :=
  { s.setMessage m { s.messages m with transfers := t :: ts } with current_transfer := some t }

/-- The message `m`, which has been in front of `q`, has no transfers left. -/
def finished (s : SpiPort) (m : Nat) (q : List Nat) : SpiPort :=
  { s.setMessage m { s.messages m with transfers := [], status := SPI_MESSAGE_STATUS_DONE } with current_transfer := none, wait_queue := q }

theorem run_endTransfer_more {ts : List Nat} (hmessage : s.current_message = some m) (hts : (s.messages m).transfers = k :: t :: ts) :
    (endTransfer m k).run s = .ok ((), s.advanced m t ts) := by
  have hnext : (s.setMessage m { s.messages m with transfers := t :: ts }).spi_next_transfer s.current_message = some t := by
    simp [spi_next_transfer, hmessage, messages_setMessage]
  have hmessage' : (s.setMessage m { s.messages m with transfers := t :: ts }).current_message = s.current_message := rfl
  simp only [endTransfer, run_bind, run_modify, ok_bind, run_get, hts, List.erase_cons_head, hmessage', hnext]
  rfl

theorem run_endTransfer_last {q : List Nat} (hmessage : s.current_message = some m) (hqueue : s.wait_queue = m :: q)
    (hts : (s.messages m).transfers = [k]) : (endTransfer m k).run s = nextMessage.run (s.finished m q) := by
  have hnext : (s.setMessage m { s.messages m with transfers := [] }).spi_next_transfer s.current_message = none := by
    simp [spi_next_transfer, hmessage, messages_setMessage]
  have hmessage' : (s.setMessage m { s.messages m with transfers := [] }).current_message = s.current_message := rfl
  have hfinished : ({ ({ s.setMessage m { s.messages m with transfers := [] } with current_transfer := none } : SpiPort).setMessage m
      { (s.setMessage m { s.messages m with transfers := [] }).messages m with status := SPI_MESSAGE_STATUS_DONE } with
        wait_queue := s.wait_queue.erase m } : SpiPort) = s.finished m q := by
    simp [finished, setMessage, hqueue]
  simp only [endTransfer, run_bind, run_modify, ok_bind, run_get, hts, List.erase_cons_head, hmessage', hnext, if_true]
  rw [← hfinished]
  rfl

/-- A message that is not there does not matter. -/
theorem flatMap_setMessage {q : List Nat} (hm : m ∉ q) (x : tls_spi_message) :
    (q.flatMap fun m' => ((s.setMessage m x).messages m').transfers) = q.flatMap fun m' => (s.messages m').transfers :=
  List.flatMap_congr fun m' hm' => by rw [messages_of_ne (ne_of_mem_of_not_mem hm' hm)]

theorem Queued.not_mem {q : List Nat} (h : Queued k s) (hqueue : s.wait_queue = m :: q) : m ∉ q ∧ m ∉ s.completed := by
  have hnodup := h.nodup
  rw [hqueue] at hnodup
  obtain ⟨-, hq, hdisjoint⟩ := List.nodup_append.mp hnodup
  exact ⟨(List.nodup_cons.mp hq).1, fun hm => hdisjoint m hm m List.mem_cons_self rfl⟩

theorem Queued.advanced {q ts : List Nat} (h : Queued k s) (hqueue : s.wait_queue = m :: q) (hts : (s.messages m).transfers = k :: t :: ts) :
    Queued (k + 1) (s.advanced m t ts) := by
  obtain ⟨hmq, hmc⟩ := h.not_mem hqueue
  obtain ⟨ts', hts', hknown, hleft⟩ := h.next hqueue
  obtain rfl : t :: ts = ts' := (List.cons.inj (hts.symm.trans hts')).2
  have hself : (s.advanced m t ts).messages m = { s.messages m with transfers := t :: ts } := messages_setMessage
  have hother {m' : Nat} (hm' : m' ≠ m) : (s.advanced m t ts).messages m' = s.messages m' := messages_of_ne hm'
  refine ⟨h.order, ?_, fun m' hm' => ?_, fun m' hm' => ?_, fun m' hm' t' ht' => ?_, h.valid⟩
  · have hpending : (s.advanced m t ts).pending = t :: ts ++ q.flatMap fun m' => (s.messages m').transfers := by
      rw [pending, show (s.advanced m t ts).wait_queue = m :: q from hqueue, List.flatMap_cons, hself]
      exact congrArg _ (flatMap_setMessage hmq _)
    rw [hpending]
    exact hleft
  · have hne := h.nonempty m' hm'
    by_cases hmm : m' = m
    · rw [hmm] at hne ⊢
      rw [hself]
      exact ⟨by simp, hne.2⟩
    · rw [hother hmm]
      exact hne
  · rw [hother fun heq => hmc (heq ▸ hm')]
    exact h.ended m' hm'
  · by_cases hmm : m' = m
    · rw [hmm] at hm' ht' ⊢
      rw [hself] at ht' ⊢
      have hgiven := h.given m hm' t' ht'
      rw [hts, List.mem_cons] at hgiven
      rcases hgiven with hlt | rfl | hmem
      · exact .inl (Nat.lt_succ_of_lt hlt)
      · exact .inl (Nat.lt_succ_self _)
      · exact .inr hmem
    · rw [hother hmm] at ht' ⊢
      exact (h.given m' hm' t' ht').imp_left (Nat.lt_succ_of_lt ·)

theorem Queued.finished {q : List Nat} (h : Queued k s) (hqueue : s.wait_queue = m :: q) (hts : (s.messages m).transfers = [k]) :
    Queued (k + 1) { s.finished m q with completed := s.completed ++ [m] } := by
  obtain ⟨hmq, hmc⟩ := h.not_mem hqueue
  obtain ⟨ts', hts', hknown, hleft⟩ := h.next hqueue
  obtain rfl : [] = ts' := (List.cons.inj (hts.symm.trans hts')).2
  have hself : (s.finished m q).messages m = { s.messages m with transfers := [], status := SPI_MESSAGE_STATUS_DONE } := messages_setMessage
  have hother {m' : Nat} (hm' : m' ≠ m) : (s.finished m q).messages m' = s.messages m' := messages_of_ne hm'
  refine ⟨?_, ?_, fun m' hm' => ?_, fun m' hm' => ?_, fun m' hm' t' ht' => ?_, h.valid⟩
  · rw [List.append_assoc, List.singleton_append]
    exact hqueue ▸ h.order
  · have hpending : (s.finished m q).pending = q.flatMap fun m' => (s.messages m').transfers := flatMap_setMessage hmq _
    exact hpending ▸ hleft
  · have hmm : m' ≠ m := fun heq => hmq (heq ▸ hm')
    change ((s.finished m q).messages m').transfers ≠ [] ∧ ((s.finished m q).messages m').status ≠ _
    rw [hother hmm]
    exact h.nonempty m' (hqueue ▸ List.mem_cons_of_mem _ hm')
  · change ((s.finished m q).messages m').transfers = []
    rcases List.mem_append.mp hm' with hm' | hm'
    · rw [hother fun heq => hmc (heq ▸ hm')]
      exact h.ended m' hm'
    · rw [List.mem_singleton.mp hm', hself]
  · change t' ∈ ((s.finished m q).messages m').given at ht'
    change t' < k + 1 ∨ t' ∈ ((s.finished m q).messages m').transfers
    by_cases hmm : m' = m
    · rw [hmm, hself] at ht'
      have := h.given m (hmm ▸ hm') t' ht'
      rw [hts, List.mem_singleton] at this
      omega
    · rw [hother hmm] at ht' ⊢
      exact (h.given m' hm' t' ht').imp_left (Nat.lt_succ_of_lt ·)

theorem kept_emptied (s : SpiPort) (k r : Nat) : Kept s (s.emptied k r) := by
  refine ⟨rfl, ⟨rfl, rfl⟩, fun t => ?_, fun m => List.Subset.refl _⟩
  by_cases htk : t = k
  · rw [htk, transfers_emptied]
    exact tls_spi_transfer.same_receive ..
  · exact (transfers_of_ne htk).symm ▸ tls_spi_transfer.Same.refl _

/-- The end of `spi_continue_transfer`. -/
theorem run_complete (hstatus : (s.messages m).status = SPI_MESSAGE_STATUS_DONE) :
    (do if ((← get).messages m).status = SPI_MESSAGE_STATUS_DONE then modify fun s => { s with completed := s.completed ++ [m] } :
      Prog SpiPort Unit).run s = .ok ((), { s with completed := s.completed ++ [m] }) := by
  rw [run_get_bind, if_pos hstatus]
  rfl

theorem run_not_complete (hstatus : (s.messages m).status ≠ SPI_MESSAGE_STATUS_DONE) :
    (do if ((← get).messages m).status = SPI_MESSAGE_STATUS_DONE then modify fun s => { s with completed := s.completed ++ [m] } :
      Prog SpiPort Unit).run s = .ok ((), s) := by
  rw [run_get_bind, if_neg hstatus]
  rfl

/-- After the last byte of a transfer, the message goes on with its next one. -/
theorem ready_advanced {q ts : List Nat} (hq : Queued k s) (hwired : Wired (k + 1) [] [] s) (hqueue : s.wait_queue = m :: q)
    (hmessage : s.current_message = some m) (hts : (s.messages m).transfers = k :: t :: ts) (hstill : s.sclk = none ∧ s.txfifo = [])
    (hquiet : s.msg_queue = [] ∧ s.starting = []) :
    (s.transfers t).Valid ∧ Queued t (s.advanced m t ts) ∧ Ready t (s.transfers t).len [] ((s.advanced m t ts).remain (s.transfers t).len) := by
  have hq' := hq.advanced hqueue hts
  have hself : (s.advanced m t ts).messages m = { s.messages m with transfers := t :: ts } := messages_setMessage
  obtain ⟨ts', hts', hknown, -⟩ := hq'.next hqueue
  rw [hself] at hts'
  obtain rfl : t = k + 1 := (List.cons.inj hts').1
  have hvalid := hq'.valid (k + 1) hknown
  exact ⟨hvalid, hq', @ready_of_head (s.advanced m (k + 1) ts) (k + 1) m q hvalid ⟨hwired.mosi, hwired.miso⟩ hqueue hmessage rfl hstill hquiet⟩

theorem run_spi_continue_transfer (hq : Queued k s) (h : Shifted k r seg s) (hquiet : s.msg_queue = []) :
    ∃ s' k', spi_continue_transfer.run s = .ok ((), s') ∧ Queued k' s' ∧ (Resting k' s' ∨ ∃ r seg, Shifting k' r seg s') ∧ Kept s s' ∧
      s'.starting = [] ∧ s'.msg_queue = [] := by
  obtain ⟨m, q, hqueue, hmessage⟩ := h.current.head
  obtain ⟨ts, hts, hknown, -⟩ := hq.next hqueue
  have hvalid := hq.valid k hknown
  have hq₁ := hq.emptied h
  have hkept := kept_emptied s k r
  have hstatus := (hq.nonempty m (hqueue ▸ List.mem_cons_self)).2
  have hget := h.run_spi_get_rxfifo hvalid
  have hremaining : (s.emptied k r).current_remaining_bytes = r := h.current.remaining
  have hquiet₁ : s.msg_queue = [] ∧ s.starting = [] := ⟨hquiet, h.current.starting⟩
  simp only [spi_continue_transfer, run_bind, run_get, ok_bind, hmessage, h.current.current_transfer, h.current.remaining, hget, run_modify,
    hremaining]
  by_cases hmore : SPI_FIFO_SIZE < r
  · have hready := h.ready hvalid hquiet hmore
    obtain ⟨words, hrun, hshifting⟩ := hready.run_fillAndStart (hq₁.valid k hknown)
    have hmin : min SPI_FIFO_SIZE r = SPI_FIFO_SIZE := Nat.min_eq_left (Nat.le_of_lt hmore)
    have hleft : ¬ ((s.emptied k r).remain (r - SPI_FIFO_SIZE)).current_remaining_bytes = 0 := Nat.sub_ne_zero_of_lt hmore
    refine ⟨_, k, ?_, ?_, .inr ⟨_, _, hshifting⟩, ⟨hkept.mosi, hkept.numbers, hkept.transfers, hkept.left⟩, hquiet₁.2, hquiet₁.1⟩
    · rw [hmin, if_neg hleft]
      simp only [run_bind, hrun, ok_bind]
      exact run_not_complete hstatus
    · exact hq₁.congr rfl rfl rfl rfl ⟨rfl, rfl⟩
  · have hwired := h.ended hvalid (Nat.not_lt.mp hmore)
    have hmin : r - min SPI_FIFO_SIZE r = 0 := by omega
    rw [hmin]
    have hzero : ((s.emptied k r).remain 0).current_remaining_bytes = 0 := rfl
    have hq₁ : Queued k ((s.emptied k r).remain 0) := hq₁.congr rfl rfl rfl rfl ⟨rfl, rfl⟩
    have hwired : Wired (k + 1) [] [] ((s.emptied k r).remain 0) := ⟨hwired.mosi, hwired.miso⟩
    have hkept : Kept s ((s.emptied k r).remain 0) := ⟨hkept.mosi, hkept.numbers, hkept.transfers, hkept.left⟩
    have hsame : ((s.emptied k r).remain 0).wait_queue = m :: q ∧ ((s.emptied k r).remain 0).current_message = some m ∧
        ((s.emptied k r).remain 0).messages = s.messages := ⟨hqueue, hmessage, rfl⟩
    have hstill : ((s.emptied k r).remain 0).sclk = none ∧ ((s.emptied k r).remain 0).txfifo = [] := h.still
    have hquiet₁ : ((s.emptied k r).remain 0).msg_queue = [] ∧ ((s.emptied k r).remain 0).starting = [] := hquiet₁
    rw [if_pos hzero]
    generalize (s.emptied k r).remain 0 = s₁ at *
    rw [← hsame.2.2] at hts hstatus
    have hleft (x : tls_spi_message) (hsub : x.transfers ⊆ (s₁.messages m).transfers) (m' : Nat) :
        ((s₁.setMessage m x).messages m').transfers ⊆ (s.messages m').transfers := hsame.2.2 ▸ left_setMessage hsub m'
    simp only [run_bind]
    obtain rfl | ⟨t, ts, rfl⟩ : ts = [] ∨ ∃ t ts', ts = t :: ts' := by cases ts <;> simp
    · have hq' := hq₁.finished hsame.1 hts
      have hmq := (hq₁.not_mem hsame.1).1
      have hself : (s₁.finished m q).messages m = { s₁.messages m with transfers := [], status := SPI_MESSAGE_STATUS_DONE } := messages_setMessage
      have hdone : ((s₁.finished m q).messages m).status = SPI_MESSAGE_STATUS_DONE := by rw [hself]
      rw [run_endTransfer_last hsame.2.1 hsame.1 hts]
      cases q with
      | nil =>
        rw [run_nextMessage_nil rfl]
        have hfill : fillAndStart.run { s₁.finished m [] with current_message := none } =
            .ok ((), { s₁.finished m [] with current_message := none }) := rfl
        have hreload : ({ s₁.finished m [] with current_message := none } : SpiPort).reload = { s₁.finished m [] with current_message := none } := rfl
        refine ⟨{ s₁.finished m [] with current_message := none, completed := s₁.completed ++ [m] }, k + 1, ?_, ?_,
          .inl ⟨⟨rfl, rfl⟩, hstill, .inl ⟨rfl, hquiet₁⟩, hwired.mosi, hwired.miso⟩,
          ⟨hkept.mosi, hkept.numbers, hkept.transfers, hleft _ (List.nil_subset _)⟩, hquiet₁.2, hquiet₁.1⟩
        · simp only [ok_bind, run_modify, hreload, hfill]
          exact run_complete hdone
        · exact hq'.congr rfl rfl rfl rfl ⟨rfl, rfl⟩
      | cons m' q =>
        obtain ⟨ts', hts', hknown', -⟩ := hq'.next rfl
        have hvalid := hq'.valid (k + 1) hknown'
        have hready := @ready_begun (s₁.finished m (m' :: q)) (k + 1) m' q hvalid ⟨hwired.mosi, hwired.miso⟩ rfl hstill hquiet₁
        obtain ⟨words, hrun, hshifting⟩ := hready.run_fillAndStart hvalid
        have hnext := @run_nextMessage (s₁.finished m (m' :: q)) (k + 1) m' q ts' rfl hts'
        rw [hnext]
        have hreload : ((s₁.finished m (m' :: q)).begun m' (k + 1)).reload =
          ((s₁.finished m (m' :: q)).begun m' (k + 1)).remain (s₁.transfers (k + 1)).len := rfl
        have hlen : ((s₁.finished m (m' :: q)).transfers (k + 1)).len = (s₁.transfers (k + 1)).len := rfl
        rw [hlen] at hrun
        refine ⟨{ (((s₁.finished m (m' :: q)).begun m' (k + 1)).remain (s₁.transfers (k + 1)).len).sending words
          (min SPI_FIFO_SIZE (s₁.transfers (k + 1)).len) with completed := s₁.completed ++ [m] }, k + 1, ?_, ?_,
          .inr ⟨(s₁.transfers (k + 1)).len, [], ?_⟩,
          ⟨hkept.mosi, hkept.numbers, hkept.transfers, fun i => ?_⟩, hquiet₁.2, hquiet₁.1⟩
        · simp only [ok_bind, run_modify, hreload, hrun]
          refine run_complete ?_
          have hne : m ≠ m' := fun heq => hmq (heq ▸ List.mem_cons_self)
          have hother : ((s₁.finished m (m' :: q)).begun m' (k + 1)).messages m = (s₁.finished m (m' :: q)).messages m := messages_of_ne hne
          exact (congrArg tls_spi_message.status hother).trans hdone
        · exact (hq'.setStatus (by decide)).congr rfl rfl rfl rfl ⟨rfl, rfl⟩
        · exact ⟨⟨hshifting.current.head, hshifting.current.current_transfer, hshifting.current.remaining, hshifting.current.pos,
            hshifting.current.le, hshifting.current.length, hshifting.current.rx, hshifting.current.starting⟩, hshifting.sclk, hshifting.words,
            hshifting.bytes, hshifting.quiet, hshifting.wired.mosi, hshifting.wired.miso⟩
        · refine List.Subset.trans ?_ (hleft { s₁.messages m with transfers := [], status := SPI_MESSAGE_STATUS_DONE } (List.nil_subset _) i)
          exact @left_setMessage (s₁.finished m (m' :: q)) m' { (s₁.finished m (m' :: q)).messages m' with
            status := SPI_MESSAGE_STATUS_INPROGRESS } (List.Subset.refl _) i
    · rw [run_endTransfer_more hsame.2.1 hts]
      obtain ⟨hvalid, hq', hready⟩ := ready_advanced hq₁ hwired hsame.1 hsame.2.1 hts hstill hquiet₁
      obtain ⟨words, hrun, hshifting⟩ := hready.run_fillAndStart hvalid
      have hreload : (s₁.advanced m t ts).reload = (s₁.advanced m t ts).remain (s₁.transfers t).len := rfl
      refine ⟨_, t, ?_, ?_, .inr ⟨_, _, hshifting⟩, ⟨hkept.mosi, hkept.numbers, hkept.transfers, hleft _ ?_⟩, hquiet₁.2, hquiet₁.1⟩
      · simp only [ok_bind, run_modify, hreload, hrun]
        refine run_not_complete ?_
        have hself : (s₁.advanced m t ts).messages m = { s₁.messages m with transfers := t :: ts } := messages_setMessage
        change ((s₁.advanced m t ts).messages m).status ≠ _
        rw [hself]
        exact hstatus
      · exact hq'.congr rfl rfl rfl rfl ⟨rfl, rfl⟩
      · rw [hts]
        exact List.subset_cons_self ..

/-- A task has submitted a message with these transfers. -/
def submits (s : SpiPort) (task : Nat) (xs : List tls_spi_transfer) : SpiPort :=
  { s with
    wait_queue := s.wait_queue ++ [s.submitted]
    messages := Function.update s.messages s.submitted ⟨List.range' s.known xs.length, SPI_MESSAGE_STATUS_IDLE, List.range' s.known xs.length⟩
    transfers := fun t => if s.known ≤ t then xs.getD (t - s.known) (s.transfers t) else s.transfers t
    known := s.known + xs.length
    submitted := s.submitted + 1
    starting := if s.wait_queue = [] then task :: s.starting else s.starting }

variable {task : Nat} {xs : List tls_spi_transfer}

theorem transfers_submits_of_lt (s : SpiPort) (task : Nat) (xs : List tls_spi_transfer) (ht : t < s.known) :
    (s.submits task xs).transfers t = s.transfers t := if_neg (Nat.not_le.mpr ht)

theorem transfers_submits_mem (s : SpiPort) (task : Nat) {xs : List tls_spi_transfer} (ht : s.known ≤ t) (hlt : t < s.known + xs.length) :
    (s.submits task xs).transfers t ∈ xs := by
  have hsub : t - s.known < xs.length := by omega
  have hget : (s.submits task xs).transfers t = xs[t - s.known] := by simp [submits, ht, hsub]
  rw [hget]
  exact List.getElem_mem hsub

theorem run_submit (hxs : xs ≠ []) (hvalid : ∀ x ∈ xs, x.Valid) : (spiEvent (.submit task xs)).run s = .ok ((), s.submits task xs) := by
  generalize hs₁ : ({ s with
    transfers := fun t => if s.known ≤ t then xs.getD (t - s.known) (s.transfers t) else s.transfers t
    messages := Function.update s.messages s.submitted ⟨List.range' s.known xs.length, SPI_MESSAGE_STATUS_IDLE, List.range' s.known xs.length⟩
    known := s.known + xs.length
    submitted := s.submitted + 1 } : SpiPort) = s₁
  have hmessage : (s₁.messages s.submitted).transfers = List.range' s.known xs.length := by simp [← hs₁]
  have hne : ¬ (s₁.messages s.submitted).transfers = [] := by
    rw [hmessage, List.range'_eq_nil_iff]
    exact fun hlen => hxs (List.length_eq_zero_iff.mp hlen)
  have hnone : ¬ ∃ t ∈ (s₁.messages s.submitted).transfers, (s₁.transfers t).len = 0 := by
    rintro ⟨t, ht, hlen⟩
    rw [hmessage, List.mem_range'_1] at ht
    have htransfer : s₁.transfers t = (s.submits task xs).transfers t := by rw [← hs₁]; rfl
    rw [htransfer] at hlen
    exact Nat.ne_of_gt (hvalid _ (transfers_submits_mem s task ht.1 ht.2)).pos hlen
  have hrun : (newMessage xs).run s = .ok (s.submitted, s₁) := by
    rw [← hs₁]
    rfl
  simp only [spiEvent, run_bind, hrun, ok_bind]
  rw [tls_spi_async, run_get_bind, if_neg hne, if_neg hnone]
  have hqueue : s₁.wait_queue = s.wait_queue := by rw [← hs₁]
  by_cases hempty : s.wait_queue = []
  · simp only [hqueue, hempty, if_true, run_bind, run_modify, ok_bind]
    simp [← hs₁, submits, setMessage, hempty]
  · simp only [hqueue, if_neg hempty, run_bind, run_modify, ok_bind]
    simp [← hs₁, submits, setMessage, hempty]
    rfl

theorem Queued.submits (h : Queued k s) (task : Nat) (hxs : xs ≠ []) (hvalid : ∀ x ∈ xs, x.Valid) : Queued k (s.submits task xs) := by
  have hself : (s.submits task xs).messages s.submitted =
      ⟨List.range' s.known xs.length, SPI_MESSAGE_STATUS_IDLE, List.range' s.known xs.length⟩ := by simp [SpiPort.submits]
  have hother {m : Nat} (hm : m ∈ s.completed ++ s.wait_queue) : (s.submits task xs).messages m = s.messages m := by
    have hne : m ≠ s.submitted := Nat.ne_of_lt (h.mem_lt hm)
    simp [SpiPort.submits, hne]
  refine ⟨?_, ?_, fun m hm => ?_, fun m hm => ?_, fun m hm t ht => ?_, fun t ht => ?_⟩
  · change List.range (s.submitted + 1) = s.completed ++ (s.wait_queue ++ [s.submitted])
    rw [List.range_succ, h.order, List.append_assoc]
  · have hpending : (s.submits task xs).pending = s.pending ++ List.range' s.known xs.length := by
      rw [pending, show (s.submits task xs).wait_queue = s.wait_queue ++ [s.submitted] from rfl, List.flatMap_append, List.flatMap_singleton,
        hself]
      exact congrArg (· ++ _) (List.flatMap_congr fun m hm => by rw [hother (List.mem_append_right _ hm)])
    rw [hpending, ← List.append_assoc, ← h.left]
    change List.range (s.known + xs.length) = _
    rw [List.range_eq_range', List.range_eq_range', ← List.range'_append_1, Nat.zero_add]
  · rcases List.mem_append.mp hm with hm | hm
    · rw [hother (List.mem_append_right _ hm)]
      exact h.nonempty m hm
    · rw [List.mem_singleton.mp hm, hself]
      refine ⟨?_, by simp⟩
      rw [ne_eq, List.range'_eq_nil_iff]
      exact fun hlen => hxs (List.length_eq_zero_iff.mp hlen)
  · rw [hother (List.mem_append_left _ hm)]
    exact h.ended m hm
  · by_cases hms : m = s.submitted
    · rw [hms, hself] at ht ⊢
      exact .inr ht
    · have hlt : m < s.submitted := by
        change m < s.submitted + 1 at hm
        omega
      have hmem : m ∈ s.completed ++ s.wait_queue := h.order ▸ List.mem_range.mpr hlt
      rw [hother hmem] at ht ⊢
      exact h.given m hlt t ht
  · by_cases hlt : t < s.known
    · rw [transfers_submits_of_lt s task xs hlt]
      exact h.valid t hlt
    · exact hvalid _ (transfers_submits_mem s task (Nat.not_lt.mp hlt) ht)

theorem Wired.submits (h : Wired k out seg s) (hle : k ≤ s.known) (task : Nat) (xs : List tls_spi_transfer) :
    Wired k out seg (s.submits task xs) :=
  h.congr (fun _ ht => transfers_submits_of_lt s task xs (Nat.lt_of_lt_of_le ht hle)) rfl rfl

theorem Current.submits (h : Current k r seg s) (hknown : k < s.known) (task : Nat) (xs : List tls_spi_transfer) :
    Current k r seg (s.submits task xs) := by
  have hsame := transfers_submits_of_lt s task xs hknown
  obtain ⟨m, q, hqueue, hmessage⟩ := h.head
  refine ⟨⟨m, q ++ [s.submitted], ?_, hmessage⟩, h.current_transfer, h.remaining, h.pos, by rw [hsame]; exact h.le, by rw [hsame]; exact h.length,
    by rw [hsame]; exact h.rx, ?_⟩
  · change s.wait_queue ++ [s.submitted] = m :: (q ++ [s.submitted])
    rw [hqueue, List.cons_append]
  · have hne : s.wait_queue ≠ [] := by simp [hqueue]
    exact (if_neg hne).trans h.starting

/-- A task that finds the queue empty is to start the engine. -/
theorem Resting.submits (h : Resting k s) (hle : k ≤ s.known) (task : Nat) (xs : List tls_spi_transfer) : Resting k (s.submits task xs) := by
  refine ⟨h.current, h.still, .inr ⟨by simp [SpiPort.submits], ?_⟩, h.wired.submits hle task xs⟩
  rcases h.waking with ⟨hempty, hquiet, hstarting⟩ | ⟨hne, hwaking⟩
  · exact .inr ⟨hquiet, task, (if_pos hempty).trans (congrArg _ hstarting)⟩
  · have hstarting : (s.submits task xs).starting = s.starting := if_neg hne
    rw [hstarting]
    exact hwaking

theorem Inv.submit (h : Inv s) (task : Nat) (hxs : xs ≠ []) (hvalid : ∀ x ∈ xs, x.Valid) : Inv (s.submits task xs) := by
  obtain ⟨k, hq, hphase⟩ := h
  have hknown (hmem : ∃ m q, s.wait_queue = m :: q ∧ s.current_message = some m) : k < s.known := by
    obtain ⟨m, q, hqueue, -⟩ := hmem
    obtain ⟨ts, -, hlt, -⟩ := hq.next hqueue
    exact hlt
  refine ⟨k, hq.submits task hxs hvalid, ?_⟩
  rcases hphase with hresting | ⟨r, seg, h⟩ | ⟨r, seg, h, htold⟩
  · exact .inl (hresting.submits hq.le task xs)
  · have hlt := hknown h.current.head
    have hsame := transfers_submits_of_lt s task xs hlt
    exact .inr (.inl ⟨r, seg, h.current.submits hlt task xs, h.sclk, h.words, by rw [hsame]; exact h.bytes, h.quiet,
      by rw [hsame]; exact h.wired.submits hq.le task xs⟩)
  · have hlt := hknown h.current.head
    have hsame := transfers_submits_of_lt s task xs hlt
    exact .inr (.inr ⟨r, seg, ⟨h.current.submits hlt task xs, h.still, h.count, h.words, by rw [hsame]; exact h.wired.submits hq.le task xs⟩,
      htold⟩)

/-- How many bytes the first `n` transfers have. -/
def total (s : SpiPort) (n : Nat) : Nat := ((List.range n).map fun t => (s.transfers t).len).sum

/-- What is left to do for the first `n` transfers: three steps for each byte at most, and what has been announced. -/
def work (s : SpiPort) (n : Nat) : Nat :=
  3 * (s.total n - s.mosi.length) + 3 * s.starting.length + 2 * s.msg_queue.length + if s.sclk = none then 0 else 1

theorem total_congr (htransfers : ∀ t < n, (s'.transfers t).len = (s.transfers t).len) : s'.total n = s.total n := by
  simp only [total]
  congr 1
  exact List.map_congr_left fun t ht => htransfers t (List.mem_range.mp ht)

theorem total_le (hle : k ≤ n) : s.total k ≤ s.total n := by
  obtain ⟨d, rfl⟩ := Nat.exists_eq_add_of_le hle
  rw [total, total, List.range_add, List.map_append, List.sum_append]
  exact Nat.le_add_right ..

theorem Queued.length_mosi (h : Queued k s) : ((List.range k).flatMap fun t => (s.transfers t).sent).length = s.total k := by
  rw [List.length_flatMap, total]
  congr 1
  exact List.map_congr_left fun t ht => (h.valid t (Nat.lt_of_lt_of_le (List.mem_range.mp ht) h.le)).length_sent

/-- All that is on its way has not been on the wire yet. -/
theorem Shifting.le_total (hq : Queued k s) (h : Shifting k r seg s) : s.mosi.length + min SPI_FIFO_SIZE r ≤ s.total (k + 1) := by
  obtain ⟨m, q, hqueue, -⟩ := h.current.head
  obtain ⟨ts, -, hknown, -⟩ := hq.next hqueue
  have hlen := (hq.valid k hknown).length_sent
  have hle := h.current.le
  have hsucc : s.total (k + 1) = s.total k + (s.transfers k).len := by
    rw [total, total, List.range_succ, List.map_append, List.sum_append, List.map_singleton, List.sum_singleton]
  rw [h.wired.mosi, List.length_append, hq.length_mosi, List.length_take, hlen, hsucc]
  omega

theorem Queued.lt (h : Queued k s) (ht : t ∈ s.pending) : k ≤ t ∧ t < s.known := by
  have hnodup : (List.range k ++ s.pending).Nodup := h.left ▸ List.nodup_range
  have hmem : t ∈ List.range s.known := h.left ▸ List.mem_append_right _ ht
  refine ⟨Nat.not_lt.mp fun hlt => ?_, List.mem_range.mp hmem⟩
  exact (List.nodup_append.mp hnodup).2.2 t (List.mem_range.mpr hlt) t ht rfl

/-- An event that the tasks do not come with: it brings nothing new, and as long as a transfer is left, there is less to do after it. -/
structure Progress (s s' : SpiPort) : Prop where
  transfers : ∀ t, (s'.transfers t).Same (s.transfers t)
  left : ∀ m, (s'.messages m).transfers ⊆ (s.messages m).transfers
  numbers : s'.submitted = s.submitted ∧ s'.known = s.known
  work : ∀ n, (∃ t ∈ s.pending, t < n) → s'.work n < s.work n

theorem run_transferDone {words : List UInt32} (hsclk : s.sclk = some n) (hquiet : s.msg_queue = []) :
    (transferDone words).run s = .ok ((), { s with
      sclk := none
      txfifo := s.txfifo.drop ((n + 3) / 4)
      rxfifo := words
      rxcount := n
      mosi := s.mosi ++ (s.txfifo.flatMap bytes).take n
      miso := s.miso ++ (words.flatMap bytes).take n
      msg_queue := [SPI_SCHED_MSG_TRANSFER_COMPLETE] }) := by
  rw [transferDone, run_get_bind, hsclk]
  simp only [run_bind, run_set, ok_bind, tls_os_queue_send, run_modify, hquiet, List.length_nil, List.nil_append]
  rfl

theorem Shifting.done (hq : Queued k s) (h : Shifting k r seg s) {words : List UInt32} (hwords : words.length = (min SPI_FIFO_SIZE r + 3) / 4) :
    ∃ s', (transferDone words).run s = .ok ((), s') ∧ Inv s' ∧ Progress s s' := by
  have hpos := h.current.pos
  have hsize : SPI_FIFO_SIZE = 32 := rfl
  refine ⟨_, run_transferDone h.sclk h.quiet, ⟨k, hq.congr rfl rfl rfl rfl ⟨rfl, rfl⟩, .inr (.inr ⟨r, seg,
    ⟨⟨h.current.head, h.current.current_transfer, h.current.remaining, h.current.pos, h.current.le, h.current.length, h.current.rx,
      h.current.starting⟩, ⟨rfl, ?_⟩, rfl, hwords, ?_, ?_⟩, rfl⟩)⟩, fun _ => tls_spi_transfer.Same.refl _, fun _ => List.Subset.refl _,
    ⟨rfl, rfl⟩, fun n hn => ?_⟩
  · exact List.drop_eq_nil_of_le (Nat.le_of_eq h.words)
  · change s.mosi ++ (s.txfifo.flatMap BigEndian.bytes).take (min SPI_FIFO_SIZE r) = (List.range k).flatMap (fun t => (s.transfers t).sent) ++ _
    rw [h.wired.mosi, h.bytes, List.append_assoc, ← List.take_add]
  · obtain ⟨segs, hmiso, hsegs⟩ := h.wired.miso
    refine ⟨segs, ?_, hsegs⟩
    change s.miso ++ (words.flatMap BigEndian.bytes).take (min SPI_FIFO_SIZE r) = _
    rw [hmiso, List.append_assoc]
    rfl
  · obtain ⟨t, ht, htn⟩ := hn
    have htotal : s.mosi.length + min SPI_FIFO_SIZE r ≤ s.total n :=
      Nat.le_trans (h.le_total hq) (total_le (Nat.lt_of_le_of_lt (hq.lt ht).1 htn))
    have hbytes : ((s.txfifo.flatMap BigEndian.bytes).take (min SPI_FIFO_SIZE r)).length = min SPI_FIFO_SIZE r := by
      rw [List.length_take, length_flatMap_bytes, h.words]
      omega
    have hsome : ¬ s.sclk = none := by simp [h.sclk]
    simp only [SpiPort.work, total, List.length_append, hbytes, h.quiet, List.length_nil, List.length_singleton, if_true, if_neg hsome] at htotal ⊢
    omega

theorem Inv.start (h : Inv s) (htask : task ∈ s.starting) :
    ∃ s', (spiEvent (.start task)).run s = .ok ((), s') ∧ Inv s' ∧ Progress s s' := by
  obtain ⟨k, hq, hresting | ⟨r, seg, h⟩ | ⟨r, seg, h, -⟩⟩ := h
  · rcases hresting.waking with ⟨-, -, hnone⟩ | ⟨hne, ⟨-, hnone⟩ | ⟨hquiet, task', hstarting⟩⟩
    · rw [hnone] at htask
      cases htask
    · rw [hnone] at htask
      cases htask
    · obtain rfl : task = task' := by simpa [hstarting] using htask
      refine ⟨{ s with starting := [], msg_queue := [SPI_SCHED_MSG_START_ENGINE] }, ?_, ⟨k, hq.congr rfl rfl rfl rfl ⟨rfl, rfl⟩,
        .inl ⟨hresting.current, hresting.still, .inr ⟨hne, .inl ⟨rfl, rfl⟩⟩, hresting.wired.mosi, hresting.wired.miso⟩⟩,
        fun _ => tls_spi_transfer.Same.refl _, fun _ => List.Subset.refl _, ⟨rfl, rfl⟩, fun n _ => ?_⟩
      · simp only [spiEvent, run_bind, run_modify, ok_bind, tls_os_queue_send, hstarting, List.erase_cons_head, hquiet, List.length_nil,
          List.nil_append]
        rfl
      · simp [SpiPort.work, total, hquiet, hstarting]
  · rw [h.current.starting] at htask
    cases htask
  · rw [h.current.starting] at htask
    cases htask

theorem Kept.progress (h : Kept s s') (hstarting : s'.starting = s.starting) (hquiet : s'.msg_queue = []) (hmsg : s.msg_queue ≠ []) :
    Progress s s' := by
  refine ⟨h.transfers, h.left, h.numbers, fun n _ => ?_⟩
  have hlength := List.length_pos_iff.mpr hmsg
  rw [SpiPort.work, SpiPort.work, total_congr fun t _ => (h.transfers t).len, h.mosi, hstarting, hquiet, List.length_nil]
  split <;> split <;> omega

theorem Inv.schedule (h : Inv s) (hmsg : s.msg_queue ≠ []) :
    ∃ s', (spiEvent .schedule).run s = .ok ((), s') ∧ Inv s' ∧ Progress s s' := by
  obtain ⟨k, hq, hresting | ⟨r, seg, h⟩ | ⟨r, seg, h, htold⟩⟩ := h
  · rcases hresting.waking with ⟨-, hquiet, -⟩ | ⟨hne, ⟨hstart, hstarting⟩ | ⟨hquiet, -⟩⟩
    · exact absurd hquiet hmsg
    · obtain ⟨s', r, seg, hrun, hq', hshifting, hkept⟩ := @run_startEngine { s with msg_queue := [] } k
        (hq.congr rfl rfl rfl rfl ⟨rfl, rfl⟩) ⟨hresting.wired.mosi, hresting.wired.miso⟩ hresting.current.1 hne hresting.still ⟨rfl, hstarting⟩
      have hkept : Kept s s' := ⟨hkept.mosi, hkept.numbers, hkept.transfers, hkept.left⟩
      refine ⟨s', ?_, ⟨k, hq', .inr (.inl ⟨r, seg, hshifting⟩)⟩,
        hkept.progress (hshifting.current.starting.trans hstarting.symm) hshifting.quiet hmsg⟩
      simp only [spiEvent, spi_scheduler]
      rw [run_get_bind, hstart]
      exact hrun
    · exact absurd hquiet hmsg
  · exact absurd h.quiet hmsg
  · obtain ⟨s', k', hrun, hq', hphase, hkept, hstarting, hquiet⟩ := @run_spi_continue_transfer { s with msg_queue := [] } k r seg
      (hq.congr rfl rfl rfl rfl ⟨rfl, rfl⟩) ⟨⟨h.current.head, h.current.current_transfer, h.current.remaining, h.current.pos, h.current.le,
        h.current.length, h.current.rx, h.current.starting⟩, h.still, h.count, h.words, h.wired.mosi, h.wired.miso⟩ rfl
    have hkept : Kept s s' := ⟨hkept.mosi, hkept.numbers, hkept.transfers, hkept.left⟩
    refine ⟨s', ?_, ⟨k', hq', hphase.imp_right .inl⟩, hkept.progress (hstarting.trans h.current.starting.symm) hquiet hmsg⟩
    simp only [spiEvent, spi_scheduler]
    rw [run_get_bind, htold]
    exact hrun

/-- What the tasks, the scheduler and the controller may do. -/
def Allowed (s : SpiPort) : SpiEvent → Prop
  | .submit task xs => task ∉ s.starting ∧ xs ≠ [] ∧ ∀ x ∈ xs, x.Valid
  | .start task => task ∈ s.starting
  | .schedule => s.msg_queue ≠ []
  | .done words => ∃ n, s.sclk = some n ∧ words.length = (n + 3) / 4

/-- Whether an event is one that the tasks do not come with. -/
def engine : SpiEvent → Bool
  | .submit _ _ => false
  | _ => true

theorem Inv.proceed (h : Inv s) (hallowed : s.Allowed event) (hengine : engine event = true) :
    ∃ s', (spiEvent event).run s = .ok ((), s') ∧ Inv s' ∧ Progress s s' := by
  cases event with
  | submit task xs => cases hengine
  | start task => exact h.start hallowed
  | schedule => exact h.schedule hallowed
  | done words =>
    obtain ⟨n, hsclk, hwords⟩ := hallowed
    obtain ⟨k, hq, hresting | ⟨r, seg, h⟩ | ⟨r, seg, h, -⟩⟩ := h
    · rw [hresting.still.1] at hsclk
      cases hsclk
    · obtain rfl : min SPI_FIFO_SIZE r = n := Option.some.inj (h.sclk.symm.trans hsclk)
      exact h.done hq hwords
    · rw [h.still.1] at hsclk
      cases hsclk

/-- There is something to do as long as there are messages. -/
theorem Inv.live (h : Inv s) (hne : s.wait_queue ≠ []) : ∃ event, s.Allowed event ∧ engine event = true := by
  obtain ⟨k, hq, hresting | ⟨r, seg, h⟩ | ⟨r, seg, h, htold⟩⟩ := h
  · rcases hresting.waking with ⟨hempty, -⟩ | ⟨-, ⟨hstart, -⟩ | ⟨-, task, hstarting⟩⟩
    · exact absurd hempty hne
    · exact ⟨.schedule, by simp [Allowed, hstart], rfl⟩
    · exact ⟨.start task, by simp [Allowed, hstarting], rfl⟩
  · exact ⟨.done (List.replicate ((min SPI_FIFO_SIZE r + 3) / 4) 0), ⟨_, h.sclk, List.length_replicate⟩, rfl⟩
  · exact ⟨.schedule, by simp [Allowed, htold], rfl⟩

theorem work_pos_of_allowed (hallowed : s.Allowed event) (hengine : engine event = true) (n : Nat) : 0 < s.work n := by
  cases event with
  | submit task xs => cases hengine
  | start task =>
    have := List.length_pos_of_mem hallowed
    rw [work]
    omega
  | schedule =>
    have := List.length_pos_iff.mpr hallowed
    rw [work]
    omega
  | done words =>
    obtain ⟨m, hsclk, -⟩ := hallowed
    rw [work, hsclk]
    simp

/-- The first `m` messages have the first `n` transfers. -/
structure Bounded (m n : Nat) (s : SpiPort) : Prop where
  submitted : m ≤ s.submitted
  known : n ≤ s.known
  lt : ∀ m' < m, ∀ t ∈ (s.messages m').transfers, t < n

/-- A message that waits has transfers left. -/
theorem Queued.mem_wait_queue (h : Queued k s) (hm : m < s.submitted) : m ∈ s.wait_queue ↔ (s.messages m).transfers ≠ [] := by
  refine ⟨fun hmem => (h.nonempty m hmem).1, fun hne => ?_⟩
  have hmem : m ∈ s.completed ++ s.wait_queue := h.order ▸ List.mem_range.mpr hm
  rcases List.mem_append.mp hmem with hmem | hmem
  · exact absurd (h.ended m hmem) hne
  · exact hmem

theorem Bounded.pending (h : Bounded m n s) (hq : Queued k s) (hm : ∃ m' < m, m' ∈ s.wait_queue) : ∃ t ∈ s.pending, t < n := by
  obtain ⟨m', hlt, hmem⟩ := hm
  obtain ⟨t, ht⟩ := List.exists_mem_of_ne_nil _ (hq.nonempty m' hmem).1
  exact ⟨t, List.mem_flatMap.mpr ⟨m', hmem, ht⟩, h.lt m' hlt t ht⟩

theorem Progress.bounded (h : Progress s s') (hbounded : Bounded m n s) : Bounded m n s' := by
  refine ⟨h.numbers.1 ▸ hbounded.submitted, h.numbers.2 ▸ hbounded.known, fun m' hlt t ht => ?_⟩
  exact hbounded.lt m' hlt t (h.left m' ht)

theorem messages_submits_of_lt (s : SpiPort) (task : Nat) (xs : List tls_spi_transfer) (hm : m < s.submitted) :
    (s.submits task xs).messages m = s.messages m := by
  have hne : m ≠ s.submitted := Nat.ne_of_lt hm
  simp [submits, hne]

theorem Bounded.submits (h : Bounded m n s) (task : Nat) (xs : List tls_spi_transfer) : Bounded m n (s.submits task xs) := by
  refine ⟨Nat.le_succ_of_le h.submitted, Nat.le_add_right_of_le h.known, fun m' hlt t ht => ?_⟩
  rw [messages_submits_of_lt s task xs (Nat.lt_of_lt_of_le hlt h.submitted)] at ht
  exact h.lt m' hlt t ht

/-- Messages that come behind others do not matter to them. -/
theorem Bounded.work_submits (h : Bounded m n s) (task : Nat) (xs : List tls_spi_transfer) (hne : s.wait_queue ≠ []) :
    (s.submits task xs).work n = s.work n := by
  have hstarting : (s.submits task xs).starting = s.starting := if_neg hne
  have htotal : (s.submits task xs).total n = s.total n :=
    total_congr fun t ht => by rw [transfers_submits_of_lt s task xs (Nat.lt_of_lt_of_le ht h.known)]
  rw [work, work, hstarting, htotal]
  rfl

/-- A step, for those of the first `m` messages that wait. -/
theorem Bounded.step {u : SpiPort} (h : Bounded m n s) (hinv : Inv s) (hallowed : s.Allowed event) (hrun : (spiEvent event).run s = .ok ((), u)) :
    (Inv u ∧ Bounded m n u) ∧ ((∃ m' < m, m' ∈ u.wait_queue) → ∃ m' < m, m' ∈ s.wait_queue) ∧
      ((∃ m' < m, m' ∈ s.wait_queue) → u.work n + (if engine event then 1 else 0) ≤ s.work n) := by
  have hinv' := hinv
  obtain ⟨k, hq, -⟩ := hinv
  by_cases hengine : engine event = true
  · obtain ⟨u', hrun', hinv'', hprogress⟩ := hinv'.proceed hallowed hengine
    obtain rfl := (Prod.mk.inj (Except.ok.inj (hrun'.symm.trans hrun))).2
    have hinv := hinv''
    obtain ⟨k', hq', -⟩ := hinv''
    refine ⟨⟨hinv, hprogress.bounded h⟩, fun ⟨m', hlt, hmem⟩ => ⟨m', hlt, ?_⟩, fun hwait => ?_⟩
    · have hlt' : m' < s.submitted := Nat.lt_of_lt_of_le hlt h.submitted
      rw [hq'.mem_wait_queue (hprogress.numbers.1 ▸ hlt')] at hmem
      exact (hq.mem_wait_queue hlt').mpr fun hnil => hmem (List.subset_nil.mp (hnil ▸ hprogress.left m'))
    · rw [if_pos hengine]
      exact hprogress.work n (h.pending hq hwait)
  · obtain ⟨task, xs, rfl⟩ : ∃ task xs, event = .submit task xs := by
      cases event with
      | submit task xs => exact ⟨task, xs, rfl⟩
      | _ => exact absurd rfl hengine
    obtain rfl := (Prod.mk.inj (Except.ok.inj ((run_submit hallowed.2.1 hallowed.2.2).symm.trans hrun))).2
    refine ⟨⟨hinv'.submit task hallowed.2.1 hallowed.2.2, h.submits task xs⟩, fun ⟨m', hlt, hmem⟩ => ⟨m', hlt, ?_⟩, fun hwait => ?_⟩
    · rcases List.mem_append.mp hmem with hmem | hmem
      · exact hmem
      · exact absurd (List.mem_singleton.mp hmem) (Nat.ne_of_lt (Nat.lt_of_lt_of_le hlt h.submitted))
    · obtain ⟨m', -, hmem⟩ := hwait
      rw [h.work_submits task xs (List.ne_nil_of_mem hmem), if_neg hengine]
      exact Nat.le_refl _

/-- The messages come in the order in which they have been submitted, and their transfers as
well: the first `k` are over, with all that they send on the one wire, and all that has come
on the other one in their buffers, and the next one is as far on the one as on the other. -/
structure Proper (s : SpiPort) : Prop where
  order : List.range s.submitted = s.completed ++ s.wait_queue
  current : ∀ m, s.current_message = some m → s.wait_queue.head? = some m
  live : s.wait_queue ≠ [] → s.current_message ≠ none ∨ SPI_SCHED_MSG_START_ENGINE ∈ s.msg_queue ∨ s.starting ≠ []
  transferred : ∃ k out seg, List.range s.known = List.range k ++ s.pending ∧ Wired k out seg s ∧
    (s.current_transfer = none → out = [] ∧ seg = []) ∧
    (∀ t, s.current_transfer = some t → t = k ∧ out <+: (s.transfers t).sent ∧ seg.length = out.length) ∧
    ∀ m ∈ s.completed, ∀ t ∈ (s.messages m).given, t < k

theorem Queued.lt_of_completed (h : Queued k s) (hm : m ∈ s.completed) (ht : t ∈ (s.messages m).given) : t < k := by
  rcases h.given m (h.mem_lt (List.mem_append_left _ hm)) t ht with hlt | hmem
  · exact hlt
  · rw [h.ended m hm] at hmem
    cases hmem

/-- A transfer is going on, which `n` bytes have been sent of. -/
theorem Current.proper (hq : Queued k s) (h : Current k r seg s) {got : List UInt8} (hn : n ≤ (s.transfers k).len) (hlength : got.length = n)
    (hwired : Wired k ((s.transfers k).sent.take n) got s) : Proper s := by
  obtain ⟨m, q, hqueue, hmessage⟩ := h.head
  obtain ⟨ts, -, hknown, -⟩ := hq.next hqueue
  refine ⟨hq.order, fun m' hm' => ?_, fun _ => .inl (by simp [hmessage]), k, _, got, hq.left, hwired, fun hnone => ?_, fun t ht => ?_,
    fun m hm t ht => hq.lt_of_completed hm ht⟩
  · rw [hqueue, List.head?_cons, ← hmessage, hm']
  · rw [h.current_transfer] at hnone
    cases hnone
  · obtain rfl : k = t := Option.some.inj (h.current_transfer.symm.trans ht)
    refine ⟨rfl, List.take_prefix .., ?_⟩
    rw [hlength, List.length_take, (hq.valid k hknown).length_sent, Nat.min_eq_left hn]

theorem Inv.proper (h : Inv s) : Proper s := by
  obtain ⟨k, hq, hresting | ⟨r, seg, h⟩ | ⟨r, seg, h, -⟩⟩ := h
  · refine ⟨hq.order, fun m hm => ?_, fun hne => ?_, k, [], [], hq.left, hresting.wired, fun _ => ⟨rfl, rfl⟩, fun t ht => ?_,
      fun m hm t ht => hq.lt_of_completed hm ht⟩
    · rw [hresting.current.1] at hm
      cases hm
    · rcases hresting.waking with ⟨hempty, -⟩ | ⟨-, ⟨hstart, -⟩ | ⟨-, task, hstarting⟩⟩
      · exact absurd hempty hne
      · exact .inr (.inl (by simp [hstart]))
      · exact .inr (.inr (by simp [hstarting]))
    · rw [hresting.current.2] at ht
      cases ht
  · exact h.current.proper hq (Nat.sub_le ..) h.current.length h.wired
  · have hle := h.current.le
    refine h.current.proper hq ?_ ?_ h.wired
    · omega
    · rw [List.length_append, h.current.length, h.length_received]

end SpiPort

open SpiPort

/-- Messages are transferred one after the other. Each is completed after as many steps of
the engine as there is work left when it has been submitted, whatever is submitted
meanwhile, and the engine can go on until then. -/
theorem spi_engine {s : SpiPort} (hruns : Runs spiEvent Allowed init s) : Proper s ∧
    (∀ event, s.Allowed event → ∃ s', (spiEvent event).run s = .ok ((), s') ∧ ∀ t < s.known, (s'.transfers t).Same (s.transfers t)) ∧
    (s.wait_queue ≠ [] → ∃ event, s.Allowed event ∧ engine event = true) ∧
    ∀ events s', Leads spiEvent Allowed events s s' → s.work s.known ≤ events.countP engine → ∀ m < s.submitted, m ∈ s'.completed := by
  have hinv : Inv s := hruns.invariant init_inv fun t u event hinv hallowed hrun =>
    (Bounded.step (m := 0) (n := 0) ⟨Nat.zero_le _, Nat.zero_le _, fun _ hlt => absurd hlt (Nat.not_lt_zero _)⟩ hinv hallowed hrun).1.1
  refine ⟨hinv.proper, fun event hallowed => ?_, hinv.live, fun events s' hleads hwork m hm => ?_⟩
  · by_cases hengine : engine event = true
    · obtain ⟨s', hrun, -, hprogress⟩ := hinv.proceed hallowed hengine
      exact ⟨s', hrun, fun t _ => hprogress.transfers t⟩
    · cases event with
      | submit task xs =>
        refine ⟨s.submits task xs, SpiPort.run_submit hallowed.2.1 hallowed.2.2, fun t ht => ?_⟩
        rw [transfers_submits_of_lt s task xs ht]
        exact tls_spi_transfer.Same.refl _
      | _ => exact absurd rfl hengine
  · have hinv' := hinv
    obtain ⟨k, hq, -⟩ := hinv'
    have hbounded : Bounded s.submitted s.known s := by
      refine ⟨Nat.le_refl _, Nat.le_refl _, fun m' hlt t ht => ?_⟩
      have hwaits := (hq.mem_wait_queue hlt).mpr (List.ne_nil_of_mem ht)
      exact (hq.lt (List.mem_flatMap.mpr ⟨m', hwaits, ht⟩)).2
    obtain ⟨hinv', hbounded'⟩ : Inv s' ∧ Bounded s.submitted s.known s' :=
      hleads.invariant (I := fun u => Inv u ∧ Bounded s.submitted s.known u) ⟨hinv, hbounded⟩ fun u v event hu hallowed hrun => (hu.2.step hu.1 hallowed hrun).1
    have hmem : m ∈ s'.completed ++ s'.wait_queue :=
      hinv'.proper.order ▸ List.mem_range.mpr (Nat.lt_of_lt_of_le hm hbounded'.submitted)
    rcases List.mem_append.mp hmem with hdone | hwaits
    · exact hdone
    · have hrank := (@Leads.rank _ _ spiEvent Allowed s s' (fun u => Inv u ∧ Bounded s.submitted s.known u)
        (fun u => ∃ m < s.submitted, m ∈ u.wait_queue) (fun u => u.work s.known) engine events hleads ⟨hinv, hbounded⟩ ⟨m, hm, hwaits⟩
        fun u v event hu hallowed hrun => hu.2.step hu.1 hallowed hrun).2
      obtain ⟨event, hallowed, hengine⟩ := hinv'.live (List.ne_nil_of_mem hwaits)
      have hpos := work_pos_of_allowed hallowed hengine s.known
      omega

/-- Whether an event is allowed. -/
def SpiPort.check (s : SpiPort) : SpiEvent → Bool
  | .submit task xs => decide (task ∉ s.starting) && !xs.isEmpty && xs.all fun x =>
    decide (0 < x.len) && x.tx_buf.all (fun tx_buf => tx_buf.length == x.len) && x.rx_buf.all fun rx_buf => rx_buf.length == x.len
  | .start task => decide (task ∈ s.starting)
  | .schedule => !s.msg_queue.isEmpty
  | .done words => s.sclk.any fun n => words.length == (n + 3) / 4

theorem SpiPort.allowed_of_check {s : SpiPort} {event : SpiEvent} (h : s.check event = true) : s.Allowed event := by
  cases event with
  | submit task xs =>
    simp only [check, Bool.and_eq_true, decide_eq_true_eq, List.all_eq_true, Bool.not_eq_true', List.isEmpty_eq_false_iff, Option.all_eq_true,
      beq_iff_eq] at h
    exact ⟨h.1.1, h.1.2, fun x hx => ⟨(h.2 x hx).1.1, (h.2 x hx).1.2, (h.2 x hx).2⟩⟩
  | start task => simpa [check, Allowed] using h
  | schedule => simpa [check, Allowed] using h
  | done words =>
    obtain ⟨n, hsclk, hwords⟩ := Option.any_eq_true .. |>.mp h
    exact ⟨n, hsclk, eq_of_beq hwords⟩

/-- Two tasks come with a message each, and the first one is over after its 34 bytes. -/
def twoMessages : List SpiEvent :=
  [.submit 1 [⟨none, some (List.replicate 34 0), 34⟩], .submit 2 [⟨some [1, 2], none, 2⟩, ⟨some [3], some [0], 1⟩], .start 1, .schedule,
    .done (List.replicate 8 0x5a5b5c5d), .schedule, .done [0x5e5f6061], .schedule]

theorem spi_engine_two : ∃ s, Runs spiEvent Allowed init s ∧ s.completed = [0] ∧ s.current_message = some 1 ∧ s.mosi = List.replicate 34 0xff ∧
    Proper s ∧ ∃ event, s.Allowed event ∧ engine event = true := by
  obtain ⟨s, hreplay, h⟩ := Option.map_eq_some_iff.mp (show (replay spiEvent check twoMessages init).map
    (fun s => (s.completed, s.current_message, s.mosi, s.wait_queue)) = some ([0], some 1, List.replicate 34 0xff, [1]) by decide +kernel)
  simp only [Prod.mk.injEq] at h
  have hruns := runs_of_replay (fun s e => allowed_of_check) hreplay
  obtain ⟨hproper, -, hlive, -⟩ := spi_engine hruns
  exact ⟨s, hruns, h.1, h.2.1, h.2.2.1, hproper, hlive (by simp [h.2.2.2])⟩

end ZCloud
