import ZCloud.Drivers.Spi

open Memory Program BigEndian

namespace ZCloud

namespace tls_spi_transfer

/-- What is sent: the buffer, or ones. -/
def sent (x : tls_spi_transfer) : List UInt8 :=
  match x.tx_buf with
  | none => List.replicate x.len 0xff
  | some tx_buf => tx_buf

/-- A transfer that has something to transfer, and buffers of its length. -/
structure Valid (x : tls_spi_transfer) : Prop where
  pos : 0 < x.len
  tx : ∀ tx_buf, x.tx_buf = some tx_buf → tx_buf.length = x.len
  rx : ∀ rx_buf, x.rx_buf = some rx_buf → rx_buf.length = x.len

variable {x : tls_spi_transfer}

theorem Valid.length_sent (h : x.Valid) : x.sent.length = x.len := by
  rw [sent]
  split
  · exact List.length_replicate
  · exact h.tx _ ‹_›

/-- The transfer with `data` received from `off` on. -/
def receive (x : tls_spi_transfer) (off : Nat) (data : List UInt8) : tls_spi_transfer :=
  { x with rx_buf := x.rx_buf.map fun rx_buf => patch rx_buf off data }

theorem receive_nil (off : Nat) : x.receive off [] = x := by
  simp [receive, patch_nil]

theorem receive_receive (h : x.Valid) {off : Nat} {a b : List UInt8} (hoff : off ≤ x.len) :
    (x.receive off a).receive (off + a.length) b = x.receive off (a ++ b) := by
  cases hrx : x.rx_buf with
  | none => simp [receive, hrx]
  | some rx_buf => simp [receive, hrx, patch_patch_behind (show off ≤ rx_buf.length by rw [h.rx rx_buf hrx]; exact hoff)]

theorem Valid.receive (h : x.Valid) {off : Nat} {data : List UInt8} (hfits : off + data.length ≤ x.len) : (x.receive off data).Valid where
  pos := h.pos
  tx := h.tx
  rx rx_buf hrx := by
    obtain ⟨old, hold, rfl⟩ := Option.map_eq_some_iff.mp hrx
    exact (length_patch (by rw [h.rx old hold]; exact hfits)).trans (h.rx old hold)

end tls_spi_transfer

namespace SpiPort

variable {s : SpiPort} {x : tls_spi_transfer} {t n k r : Nat} {words : List UInt32}

theorem run_txByte {off : Nat} {b : UInt8} (hb : x.sent[off]? = some b) : (txByte x off).run s = .ok (b, s) := by
  cases htx : x.tx_buf with
  | none =>
    have hone : b = 0xff := by
      simp only [tls_spi_transfer.sent, htx, List.getElem?_replicate] at hb
      split at hb
      · exact (Option.some.inj hb).symm
      · cases hb
    rw [txByte, htx, hone]
    rfl
  | some tx_buf =>
    simp only [tls_spi_transfer.sent, htx] at hb
    rw [txByte, htx]
    simp only [hb]
    rfl

/-- Four bytes make a word. -/
theorem run_txWord {off : Nat} {b₀ b₁ b₂ b₃ : UInt8} {rest : List UInt8} (hdrop : x.sent.drop off = b₀ :: b₁ :: b₂ :: b₃ :: rest) :
    (txWord x off).run s = .ok (pack 0 [b₀, b₁, b₂, b₃] 0, s) := by
  have hget (i : Nat) : x.sent[off + i]? = (b₀ :: b₁ :: b₂ :: b₃ :: rest)[i]? := by rw [← hdrop, List.getElem?_drop]
  cases htx : x.tx_buf with
  | none =>
    have hone (i : Nat) (b : UInt8) (hb : (b₀ :: b₁ :: b₂ :: b₃ :: rest)[i]? = some b) : b = 0xff := by
      rw [← hget] at hb
      have hmem := List.mem_of_getElem? hb
      simp only [tls_spi_transfer.sent, htx] at hmem
      exact List.eq_of_mem_replicate hmem
    obtain rfl := hone 0 b₀ rfl
    obtain rfl := hone 1 b₁ rfl
    obtain rfl := hone 2 b₂ rfl
    obtain rfl := hone 3 b₃ rfl
    rw [txWord, htx]
    rfl
  | some tx_buf =>
    have hfirst : (txByte x off).run s = .ok (b₀, s) := run_txByte (hget 0)
    rw [txWord, htx]
    simp only [Option.isSome_some, if_true, run_bind, hfirst, run_txByte (hget 1), run_txByte (hget 2),
      run_txByte (hget 3), ok_bind]
    rfl

/-- The words in the FIFO are the next bytes of the transfer. -/
theorem run_putWords (h : x.Valid) (k r : Nat) (hr : r ≤ x.len) (hk : 4 * k ≤ r) (s : SpiPort) :
    ∃ words, (putWords x k r).run s = .ok (r - 4 * k, { s with txfifo := s.txfifo ++ words }) ∧ words.length = k ∧
      words.flatMap bytes = (x.sent.drop (x.len - r)).take (4 * k) := by
  induction k generalizing r s with
  | zero => exact ⟨[], by rw [putWords, List.append_nil]; rfl, rfl, by simp⟩
  | succ k ih =>
    have hlen : (x.sent.drop (x.len - r)).length = r := by
      rw [List.length_drop, h.length_sent]
      omega
    obtain ⟨b₀, b₁, b₂, b₃, rest, hdrop⟩ : ∃ b₀ b₁ b₂ b₃ rest, x.sent.drop (x.len - r) = b₀ :: b₁ :: b₂ :: b₃ :: rest := by
      match hdrop : x.sent.drop (x.len - r) with
      | b₀ :: b₁ :: b₂ :: b₃ :: rest => exact ⟨b₀, b₁, b₂, b₃, rest, rfl⟩
      | [] | [_] | [_, _] | [_, _, _] =>
        rw [hdrop] at hlen
        simp at hlen
        omega
    have hrest : x.sent.drop (x.len - (r - 4)) = rest := by
      rw [show x.len - (r - 4) = x.len - r + 4 by omega, ← List.drop_drop, hdrop]
      rfl
    obtain ⟨words, hrun, hwords, hbytes⟩ := ih (r - 4) (by omega) (by omega) { s with txfifo := s.txfifo ++ [pack 0 [b₀, b₁, b₂, b₃] 0] }
    refine ⟨pack 0 [b₀, b₁, b₂, b₃] 0 :: words, ?_, by rw [List.length_cons, hwords], ?_⟩
    · simp only [putWords, run_bind, run_txWord hdrop, ok_bind, spi_data_put, run_modify, hrun]
      rw [show r - 4 - 4 * k = r - 4 * (k + 1) by omega, List.append_assoc, List.singleton_append]
    · have hword : bytes (pack 0 [b₀, b₁, b₂, b₃] 0) = [b₀, b₁, b₂, b₃] := @take_bytes_pack [b₀, b₁, b₂, b₃] (by simp)
      rw [List.flatMap_cons, hword, hbytes, hrest, hdrop, show 4 * (k + 1) = 4 * k + 1 + 1 + 1 + 1 by omega]
      rfl

/-- The last word has the bytes that are left over. -/
theorem run_putBytes (h : x.Valid) (n i : Nat) (w : UInt32) (r : Nat) (hr : r ≤ x.len) (hn : n ≤ r) :
    (putBytes x n i w r).run s = .ok ((pack i ((x.sent.drop (x.len - r)).take n) w, r - n), s) := by
  induction n generalizing i w r with
  | zero => rfl
  | succ n ih =>
    have hlt : x.len - r < x.sent.length := by
      rw [h.length_sent]
      omega
    have hget : x.sent[x.len - r]? = some x.sent[x.len - r] := List.getElem?_eq_getElem hlt
    simp only [putBytes, run_bind, run_txByte hget, ok_bind]
    rw [ih (i + 1) _ (r - 1) (by omega) (by omega), List.drop_eq_getElem_cons hlt, List.take_succ_cons, pack,
      show x.len - (r - 1) = x.len - r + 1 by omega, show r - 1 - n = r - (n + 1) by omega]

/-- As many bytes as there is room for are put into the empty FIFO. -/
theorem run_spi_fill_txfifo (h : (s.transfers t).Valid) (hempty : s.txfifo = []) (hr : r ≤ (s.transfers t).len) (hpos : 0 < r) :
    ∃ words, (spi_fill_txfifo (some t) r).run s = .ok (min SPI_FIFO_SIZE r, { s with txfifo := words }) ∧
      words.length = (min SPI_FIFO_SIZE r + 3) / 4 ∧ (words.flatMap bytes).take (min SPI_FIFO_SIZE r) =
        ((s.transfers t).sent.drop ((s.transfers t).len - r)).take (min SPI_FIFO_SIZE r) := by
  have hsize : (if SPI_FIFO_SIZE - 4 * s.txfifo.length > r then r else SPI_FIFO_SIZE - 4 * s.txfifo.length) = min SPI_FIFO_SIZE r := by
    rw [hempty, List.length_nil]
    split <;> omega
  generalize hx : s.transfers t = x at *
  generalize hn : min SPI_FIFO_SIZE r = n at *
  have hnr : n ≤ r := by omega
  obtain ⟨words, hrun, hwords, hbytes⟩ := run_putWords h (n / 4) r hr (by omega) s
  rw [hempty, List.nil_append] at hrun
  have hlen : (words.flatMap bytes).length = 4 * (n / 4) := by
    rw [length_flatMap_bytes, hwords, Nat.mul_comm]
  simp only [spi_fill_txfifo, run_bind, run_get, ok_bind, if_neg (Nat.ne_of_gt hpos), hx, hsize, hrun]
  by_cases hrest : n % 4 = 0
  · refine ⟨words, ?_, by omega, ?_⟩
    · rw [if_neg (by simp [hrest]), run_pure, show r - (r - 4 * (n / 4)) = n by omega]
    · have hfull : 4 * (n / 4) = n := by omega
      rw [List.take_of_length_le (by omega), hbytes, hfull]
  · have hleft : (x.sent.drop (x.len - (r - 4 * (n / 4)))) = (x.sent.drop (x.len - r)).drop (4 * (n / 4)) := by
      rw [List.drop_drop]
      congr 1
      omega
    have hbytes' := @run_putBytes { s with txfifo := words } x h (n % 4) 0 0 (r - 4 * (n / 4)) (by omega) (by omega)
    rw [hleft] at hbytes'
    generalize hlast : ((x.sent.drop (x.len - r)).drop (4 * (n / 4))).take (n % 4) = last at hbytes'
    have hlastlen : last.length = n % 4 := by
      rw [← hlast, List.length_take, List.length_drop, List.length_drop, h.length_sent]
      omega
    refine ⟨words ++ [pack 0 last 0], ?_, ?_, ?_⟩
    · rw [if_pos hrest]
      simp only [run_bind, hbytes', ok_bind, spi_data_put, run_modify, run_pure]
      rw [show r - (r - 4 * (n / 4) - n % 4) = n by omega]
    · rw [List.length_append, hwords, List.length_singleton]
      omega
    · have hsum : n = (words.flatMap bytes).length + last.length := by omega
      have htake : (words.flatMap bytes ++ bytes (pack 0 last 0)).take n = words.flatMap bytes ++ last := by
        rw [hsum, List.take_length_add_append, take_bytes_pack (by omega)]
      calc ((words ++ [pack 0 last 0]).flatMap bytes).take n
        _ = words.flatMap bytes ++ last := by rw [List.flatMap_append, List.flatMap_singleton, htake]
        _ = (x.sent.drop (x.len - r)).take (4 * (n / 4) + n % 4) := by rw [hbytes, ← hlast, ← List.take_add]
        _ = (x.sent.drop (x.len - r)).take n := by rw [Nat.div_add_mod]

/-- What is received from `off` on, with what is left in the FIFO. -/
def got (s : SpiPort) (t off : Nat) (data : List UInt8) (rxfifo : List UInt32) (rxcount : Nat) : SpiPort :=
  { s.setTransfer t ((s.transfers t).receive off data) with rxfifo := rxfifo, rxcount := rxcount }

theorem transfers_got {off : Nat} {data : List UInt8} {rxfifo : List UInt32} {rxcount : Nat} :
    (s.got t off data rxfifo rxcount).transfers t = (s.transfers t).receive off data := by
  simp [got, setTransfer]

theorem got_got (h : (s.transfers t).Valid) {off off' : Nat} {a b : List UInt8} (hoff : off ≤ (s.transfers t).len) (hoff' : off' = off + a.length)
    {rxfifo rxfifo' : List UInt32} {rxcount rxcount' : Nat} :
    (s.got t off a rxfifo rxcount).got t off' b rxfifo' rxcount' = s.got t off (a ++ b) rxfifo' rxcount' := by
  rw [got, transfers_got, hoff', tls_spi_transfer.receive_receive h hoff]
  simp [got, setTransfer]

theorem swap_bytes (w : UInt32) :
    [(swap_32 w).toUInt8, (swap_32 w >>> 8).toUInt8, (swap_32 w >>> 16).toUInt8, (swap_32 w >>> 24).toUInt8] = bytes w := by
  have hbyte (i : Nat) (hi : i < 4) : (swap_32 w >>> UInt32.ofNat (i * 8)).toUInt8 = byte w i := by
    apply UInt8.toBitVec_inj.mp
    apply BitVec.eq_of_getLsbD_eq
    intro k hk
    obtain rfl | rfl | rfl | rfl : i = 0 ∨ i = 1 ∨ i = 2 ∨ i = 3 := by omega
    all_goals obtain rfl | rfl | rfl | rfl | rfl | rfl | rfl | rfl :
      k = 0 ∨ k = 1 ∨ k = 2 ∨ k = 3 ∨ k = 4 ∨ k = 5 ∨ k = 6 ∨ k = 7 := by omega
    all_goals simp [swap_32, byte]
  have hfirst : (swap_32 w).toUInt8 = byte w 0 := by simpa using hbyte 0 (by decide)
  rw [hfirst, bytes, ← hbyte 1 (by decide), ← hbyte 2 (by decide), ← hbyte 3 (by decide)]
  rfl

theorem run_rxPut (h : (s.transfers t).Valid) {off : Nat} {data : List UInt8} (hfits : off + data.length ≤ (s.transfers t).len) :
    (rxPut t off data).run s = .ok ((), s.setTransfer t ((s.transfers t).receive off data)) := by
  rw [rxPut, run_get_bind]
  cases hrx : (s.transfers t).rx_buf with
  | none =>
    have hsame : (s.transfers t).receive off data = s.transfers t := by rw [tls_spi_transfer.receive, hrx, Option.map_none, ← hrx]
    rw [hsame, setTransfer, Function.update_eq_self]
    rfl
  | some rx_buf =>
    simp only [h.rx rx_buf hrx]
    rw [if_pos hfits, run_modify]
    simp [tls_spi_transfer.receive, hrx]

theorem run_spi_data_get {w : UInt32} (h : s.rxfifo = w :: words) :
    spi_data_get.run s = .ok (w, { s with rxfifo := words, rxcount := s.rxcount - 4 }) := by
  rw [spi_data_get, run_get_bind, h]
  rfl

/-- The words in the FIFO are the next bytes of what is received. -/
theorem run_getWords (words : List UInt32) (r : Nat) (s : SpiPort) (h : (s.transfers t).Valid) (hr : r ≤ (s.transfers t).len)
    (hwords : 4 * words.length ≤ r) {more : List UInt32} (hfifo : s.rxfifo = words ++ more) :
    (getWords t (s.transfers t).len words.length r).run s = .ok (r - 4 * words.length,
      s.got t ((s.transfers t).len - r) (words.flatMap bytes) more (s.rxcount - 4 * words.length)) := by
  induction words generalizing r s with
  | nil =>
    have hsame : s.got t ((s.transfers t).len - r) [] s.rxfifo s.rxcount = s := by
      simp [got, setTransfer, tls_spi_transfer.receive_nil]
    rw [List.nil_append] at hfifo
    simp only [List.length_nil, getWords, run_pure, Nat.mul_zero, Nat.sub_zero, List.flatMap_nil, ← hfifo, hsame]
  | cons w words ih =>
    rw [List.length_cons] at hwords ⊢
    rw [List.cons_append] at hfifo
    have hget := run_spi_data_get hfifo
    have hput := @run_rxPut { s with rxfifo := words ++ more, rxcount := s.rxcount - 4 } t h ((s.transfers t).len - r) (bytes w)
      (by rw [length_bytes]; change _ ≤ (s.transfers t).len; omega)
    have hgot : ({ s with rxfifo := words ++ more, rxcount := s.rxcount - 4 } : SpiPort).setTransfer t
        ((s.transfers t).receive ((s.transfers t).len - r) (bytes w)) =
      s.got t ((s.transfers t).len - r) (bytes w) (words ++ more) (s.rxcount - 4) := rfl
    rw [hgot] at hput
    have hlen : ((s.got t ((s.transfers t).len - r) (bytes w) (words ++ more) (s.rxcount - 4)).transfers t).len = (s.transfers t).len := by
      rw [transfers_got]
      rfl
    have hvalid : ((s.got t ((s.transfers t).len - r) (bytes w) (words ++ more) (s.rxcount - 4)).transfers t).Valid := by
      rw [transfers_got]
      exact h.receive (by rw [length_bytes]; omega)
    have hrest := ih (r - 4) (s.got t ((s.transfers t).len - r) (bytes w) (words ++ more) (s.rxcount - 4)) hvalid (by omega) (by omega) rfl
    rw [hlen] at hrest
    simp only [getWords, run_bind, hget, ok_bind, swap_bytes, hput, hrest]
    rw [got_got h (Nat.sub_le ..) (by rw [length_bytes]; omega), List.flatMap_cons, show r - 4 - 4 * words.length = r - 4 * (words.length + 1) by omega]
    congr 3
    change s.rxcount - 4 - 4 * words.length = _
    omega

theorem run_getBytes (w : UInt32) (n i r : Nat) (s : SpiPort) (h : (s.transfers t).Valid) (hr : r ≤ (s.transfers t).len) (hn : n ≤ r) :
    (getBytes t (s.transfers t).len w n i r).run s = .ok (r - n,
      s.got t ((s.transfers t).len - r) ((List.range' i n).map (byte w)) s.rxfifo s.rxcount) := by
  induction n generalizing i r s with
  | zero =>
    have hsame : s.got t ((s.transfers t).len - r) [] s.rxfifo s.rxcount = s := by
      simp [got, setTransfer, tls_spi_transfer.receive_nil]
    rw [getBytes, List.range'_zero, List.map_nil, hsame]
    rfl
  | succ n ih =>
    have hput := @run_rxPut s t h ((s.transfers t).len - r) [byte w i] (by rw [List.length_singleton]; omega)
    have hgot : s.setTransfer t ((s.transfers t).receive ((s.transfers t).len - r) [byte w i]) =
      s.got t ((s.transfers t).len - r) [byte w i] s.rxfifo s.rxcount := rfl
    rw [hgot] at hput
    generalize hs₁ : s.got t ((s.transfers t).len - r) [byte w i] s.rxfifo s.rxcount = s₁ at hput
    have htransfer : s₁.transfers t = (s.transfers t).receive ((s.transfers t).len - r) [byte w i] := by rw [← hs₁, transfers_got]
    have hlen : (s₁.transfers t).len = (s.transfers t).len := by rw [htransfer]; rfl
    have hvalid : (s₁.transfers t).Valid := by
      rw [htransfer]
      exact h.receive (by rw [List.length_singleton]; omega)
    have hrest := ih (i + 1) (r - 1) s₁ hvalid (by omega) (by omega)
    rw [hlen] at hrest
    rw [getBytes, run_bind]
    change (do let r ← (rxPut t ((s.transfers t).len - r) [byte w i]).run s; _) = _
    rw [hput, ok_bind, hrest, ← hs₁, got_got h (Nat.sub_le ..) (by rw [List.length_singleton]; omega), List.range'_succ, List.map_cons,
      List.singleton_append, show r - 1 - n = r - (n + 1) by omega]
    rfl

theorem take_bytes (w : UInt32) {n : Nat} (hn : n ≤ 4) : (bytes w).take n = (List.range' 0 n).map (byte w) := by
  obtain rfl | rfl | rfl | rfl | rfl : n = 0 ∨ n = 1 ∨ n = 2 ∨ n = 3 ∨ n = 4 := by omega
  all_goals rfl

/-- What is in the FIFO is received, and the FIFO is empty after that. -/
theorem run_spi_get_rxfifo (h : (s.transfers t).Valid) (hr : r ≤ (s.transfers t).len) (hpos : 0 < r) (hn : s.rxcount = n) (hnr : n ≤ r)
    (hwords : s.rxfifo.length = (n + 3) / 4) : (spi_get_rxfifo (some t) r).run s =
      .ok (n, s.got t ((s.transfers t).len - r) ((s.rxfifo.flatMap bytes).take n) [] 0) := by
  generalize hfifo : s.rxfifo = words at hwords
  have hsplit : words.take (n / 4) ++ words.drop (n / 4) = words := List.take_append_drop ..
  have hk : (words.take (n / 4)).length = n / 4 := by
    rw [List.length_take]
    omega
  have hfull : ((words.take (n / 4)).flatMap bytes).length = 4 * (n / 4) := by rw [length_flatMap_bytes, hk, Nat.mul_comm]
  have hrun := run_getWords (words.take (n / 4)) r s h hr (by omega) (hfifo.trans hsplit.symm)
  rw [hk] at hrun
  simp only [spi_get_rxfifo, run_bind, run_get, ok_bind, if_neg (Nat.ne_of_gt hpos), hn, hrun]
  by_cases hrest : n % 4 = 0
  · have hnil : words.drop (n / 4) = [] := List.drop_eq_nil_of_le (by omega)
    have hall : words.take (n / 4) = words := List.take_of_length_le (by omega)
    have htake : (words.flatMap bytes).take n = words.flatMap bytes := List.take_of_length_le (by rw [length_flatMap_bytes]; omega)
    rw [if_neg (by simp [hrest]), run_pure, hnil, hall, htake, show r - (r - 4 * (n / 4)) = n by omega,
      show n - 4 * (n / 4) = 0 by omega]
  · obtain ⟨w, hw⟩ : ∃ w, words.drop (n / 4) = [w] := List.length_eq_one_iff.mp (by rw [List.length_drop]; omega)
    have hall : words.flatMap bytes = (words.take (n / 4)).flatMap bytes ++ bytes w := by
      conv_lhs => rw [← hsplit, hw, List.flatMap_append, List.flatMap_singleton]
    generalize (words.take (n / 4)).flatMap bytes = front at *
    have htake : (words.flatMap bytes).take n = front ++ (List.range' 0 (n % 4)).map (byte w) := by
      have hsum : n = front.length + n % 4 := by omega
      calc (words.flatMap bytes).take n
        _ = (front ++ bytes w).take (front.length + n % 4) := by rw [hall, ← hsum]
        _ = front ++ (List.range' 0 (n % 4)).map (byte w) := by rw [List.take_length_add_append, take_bytes w (by omega)]
    have hget : spi_data_get.run (s.got t ((s.transfers t).len - r) front (words.drop (n / 4)) (n - 4 * (n / 4))) =
        .ok (w, s.got t ((s.transfers t).len - r) front [] 0) := by
      rw [hw, run_spi_data_get rfl]
      congr 3
      change n - 4 * (n / 4) - 4 = 0
      omega
    have hlen : ((s.got t ((s.transfers t).len - r) front [] 0).transfers t).len = (s.transfers t).len := by rw [transfers_got]; rfl
    have hvalid : ((s.got t ((s.transfers t).len - r) front [] 0).transfers t).Valid := by
      rw [transfers_got]
      exact h.receive (by omega)
    have hbytes := run_getBytes w (n % 4) 0 (r - 4 * (n / 4)) _ hvalid (by omega) (by omega)
    rw [hlen, got_got h (Nat.sub_le ..) (by omega), ← htake] at hbytes
    rw [if_pos hrest]
    simp only [run_bind, hget, ok_bind]
    cases hrx : (s.transfers t).rx_buf with
    | some rx_buf =>
      simp only [Option.isSome_some, if_true, run_bind, hbytes, ok_bind, run_pure]
      rw [show r - (r - 4 * (n / 4) - n % 4) = n by omega]
      rfl
    | none =>
      have hsame (data : List UInt8) : (s.transfers t).receive ((s.transfers t).len - r) data = s.transfers t := by
        rw [tls_spi_transfer.receive, hrx, Option.map_none, ← hrx]
      simp only [Option.isSome_none, Bool.false_eq_true, if_false, run_bind, run_pure, ok_bind]
      rw [show r - (r - 4 * (n / 4) - n % 4) = n by omega, got, got, hsame, hsame]

end SpiPort

end ZCloud
