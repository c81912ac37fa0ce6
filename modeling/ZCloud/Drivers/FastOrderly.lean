import ZCloud.Drivers.FastSession

open Memory Program

namespace ZCloud

variable {env : FlsEnv} {s t : Fls} {b base n : Nat}

private theorem cacheBytes_isSome {offset len : Nat} {buf : List UInt8} {u : Unit}
    (h : (cacheBytes env offset buf len).run s = .ok (u, t)) : s.gsflscache.isSome ∧ t.gsflscache.isSome := by
  rw [cacheBytes, run_get_bind] at h
  cases hcache : s.gsflscache with
  | none =>
    simp only [hcache] at h
    exact (run_throw_eq_ok.mp h).elim
  | some cache =>
    simp only [hcache] at h
    obtain ⟨cache', s₁, hcopy, h⟩ := run_bind_eq_ok.mp h
    obtain ⟨_, s₂, hset, h⟩ := run_bind_eq_ok.mp h
    obtain rfl := run_modify_eq_ok.mp hset
    rw [run_get_bind] at h
    split at h
    · obtain ⟨_, s₃, hflush, h⟩ := run_bind_eq_ok.mp h
      rw [run_modify_eq_ok.mp h]
      exact ⟨rfl, by rw [(tls_fls_flush_sector_ok hflush).1]; rfl⟩
    · obtain ⟨-, rfl⟩ := run_pure_eq_ok.mp h
      exact ⟨rfl, rfl⟩

private theorem fastWriteLoop_isSome {fuel offset : Nat} {buf : List UInt8} {u : Unit}
    (hs : s.gsflscache.isSome) (h : (fastWriteLoop env fuel offset buf).run s = .ok (u, t)) :
    t.gsflscache.isSome := by
  induction fuel generalizing s offset buf with
  | zero => rwa [(run_pure_eq_ok.mp h).2]
  | succ fuel ih =>
    rw [fastWriteLoop] at h
    split at h
    · rwa [(run_pure_eq_ok.mp h).2]
    · obtain ⟨_, s₁, hcache, h⟩ := run_bind_eq_ok.mp h
      exact ih (cacheBytes_isSome hcache).2 h

/-- A write needs a cache and leaves one. -/
theorem tls_fls_fast_write_isSome {addr : Nat} {buf : List UInt8}
    (h : (tls_fls_fast_write env addr buf).run s = .ok (TLS_FLS_STATUS_OK, t)) :
    s.gsflscache.isSome ∧ t.gsflscache.isSome := by
  rw [tls_fls_fast_write] at h
  split at h
  · exact absurd (run_pure_eq_ok.mp h).1 (fun h => by cases h)
  · obtain ⟨_, s₁, hacquire, h⟩ := run_bind_eq_ok.mp h
    obtain ⟨_, s₂, hflush, h⟩ := run_bind_eq_ok.mp h
    obtain ⟨_, s₃, hset, h⟩ := run_bind_eq_ok.mp h
    obtain rfl := run_modify_eq_ok.mp hset
    obtain ⟨_, s₄, hwrite, h⟩ := run_bind_eq_ok.mp h
    obtain ⟨_, s₅, hrelease, h⟩ := run_bind_eq_ok.mp h
    obtain ⟨-, rfl⟩ := run_pure_eq_ok.mp h
    have hcache₂ : s₂.gsflscache = s₁.gsflscache := by
      rw [flushOther, run_get_bind] at hflush
      split at hflush
      · split at hflush
        · exact (run_throw_eq_ok.mp hflush).elim
        · exact (tls_fls_flush_sector_ok hflush).1
      · rw [(run_pure_eq_ok.mp hflush).2]
    have hsome : s₂.gsflscache.isSome := by
      obtain ⟨fuel, hfuel⟩ : ∃ fuel, buf.length = fuel + 1 := ⟨buf.length - 1, by omega⟩
      rw [hfuel, fastWriteLoop, if_neg (by omega)] at hwrite
      obtain ⟨_, s₆, hcache, -⟩ := run_bind_eq_ok.mp hwrite
      exact (cacheBytes_isSome hcache).1
    constructor
    · rwa [hcache₂, (acquireLock_sameCache hacquire).1] at hsome
    · rw [(releaseLock_sameCache hrelease).1]
      exact fastWriteLoop_isSome (s := { s₂ with gsSector := addr / SECTOR_SIZE }) hsome hwrite

/-- What is known of a session that does what it should: no operation fails. -/
theorem WritesPieces.ok {pieces : List (List UInt8)} (h : WritesPieces env s base pieces)
    (hpieces : ∀ piece ∈ pieces, piece ≠ []) (hchip : base + pieces.flatten.length ≤ TOTAL_SIZE) :
    ∃ sts s₁ s₂ t, s.Opened s₁ ∧
      (s₁.gsflscache.isSome ↔ s.gsflscache.isSome ∨ env.alloc s.allocations = true) ∧
      (writeAll env base pieces).run s₁ = .ok (sts, s₂) ∧ (∀ st ∈ sts, st = TLS_FLS_STATUS_OK) ∧
      (tls_fls_fast_write_destroy env).run s₂ = .ok ((), t) ∧
      (∀ i < pieces.flatten.length, t.flash (base + i) = pieces.flatten.getD i 0) ∧
      (∀ new, t.flushed = new ++ s.flushed →
        (∀ k ∈ new, Covers base pieces.flatten.length (k % CHIP_SECTORS)) ∧
          ∀ j, s.operations ≤ j → j < s.operations + flushOps new → env.io j = none) := by
  obtain ⟨sts, t, hrun, hwritten, ⟨new, hnew, hcovers⟩, hreported⟩ := h
  obtain ⟨s₁, s₂, hinit, hwrite, hdestroy⟩ := fastSession_ok hrun
  obtain ⟨hopened, hsome⟩ := tls_fls_fast_write_init_ok hinit
  have haccepted := writeAll_accepted hpieces hchip hwrite
  have hclean : ∀ j, s.operations ≤ j → j < t.operations → env.io j = none := by
    intro j hj hlt
    cases hio : env.io j with
    | none => rfl
    | some left =>
      obtain ⟨st, hst, hfail⟩ := hreported ⟨j, hj, hlt, by rw [hio]; nofun⟩
      exact absurd (haccepted st hst) hfail
  refine ⟨sts, s₁, s₂, t, hopened, hsome, hwrite, haccepted, hdestroy, hwritten, fun new' hnew' => ?_⟩
  obtain ⟨new'', hnew'', hdid, -⟩ := fastSession_flushes _ hrun
  obtain rfl : new' = new := List.append_cancel_right (hnew'.symm.trans hnew)
  obtain rfl : new'' = new' := List.append_cancel_right (hnew''.symm.trans hnew)
  exact ⟨hcovers, hdid.iff_clean.mp hclean⟩

/-- A session that does what it should does it on a chip without failures too. -/
theorem WritesPieces.reliable {pieces : List (List UInt8)} (h : WritesPieces env s base pieces)
    (hpieces : ∀ piece ∈ pieces, piece ≠ []) (hchip : base + pieces.flatten.length ≤ TOTAL_SIZE) :
    WritesPieces (env.withIo fun _ => none) s base pieces := by
  obtain ⟨sts, t, hrun, hwritten, hnew, hreported⟩ := h
  obtain ⟨s₁, s₂, -, hwrite, -⟩ := fastSession_ok hrun
  have haccepted := writeAll_accepted hpieces hchip hwrite
  refine ⟨sts, t, ((@fastSession_agrees env _ env.io _ pieces) hrun).2 fun j hj hlt => ?_, hwritten, hnew, ?_⟩
  · cases hio : env.io j with
    | none => rfl
    | some left =>
      obtain ⟨st, hst, hfail⟩ := hreported ⟨j, hj, hlt, by rw [hio]; nofun⟩
      exact absurd (haccepted st hst) hfail
  · rintro ⟨j, -, -, hfail⟩
    exact absurd rfl hfail

/-- A write that has nothing to flush first is the copying loop. -/
theorem tls_fls_fast_write_stays {addr : Nat} {buf : List UInt8}
    (hstays : addr / SECTOR_SIZE ≠ s.gsSector → s.gsSecOffset = 0)
    (h : (tls_fls_fast_write env addr buf).run s = .ok (TLS_FLS_STATUS_OK, t)) :
    ∃ s' t', (s'.gsflscache = s.gsflscache ∧ s'.gsSecOffset = s.gsSecOffset ∧
        s'.gsSector = addr / SECTOR_SIZE ∧ s'.flushed = s.flushed ∧ s'.flash = s.flash) ∧
      (fastWriteLoop env buf.length (addr % SECTOR_SIZE) buf).run s' = .ok ((), t') ∧
      t'.SameCache t ∧ t.flash = t'.flash := by
  rw [tls_fls_fast_write] at h
  split at h
  · exact absurd (run_pure_eq_ok.mp h).1 (fun h => by cases h)
  · obtain ⟨_, s₁, hacquire, h⟩ := run_bind_eq_ok.mp h
    obtain ⟨_, s₂, hflush, h⟩ := run_bind_eq_ok.mp h
    obtain ⟨_, s₃, hset, h⟩ := run_bind_eq_ok.mp h
    obtain rfl := run_modify_eq_ok.mp hset
    obtain ⟨_, s₄, hwrite, h⟩ := run_bind_eq_ok.mp h
    obtain ⟨_, s₅, hrelease, h⟩ := run_bind_eq_ok.mp h
    obtain ⟨-, rfl⟩ := run_pure_eq_ok.mp h
    obtain ⟨hcache₁, hoffset₁, hsector₁, hflushed₁⟩ := acquireLock_sameCache hacquire
    have hflash₁ : s₁.flash = s.flash := by
      rw [acquireLock, run_get_bind] at hacquire
      split at hacquire
      · exact (run_throw_eq_ok.mp hacquire).elim
      · rw [run_set_eq_ok.mp hacquire]
    rw [flushOther, run_get_bind, hsector₁, hoffset₁, if_neg fun hother => hother.2 (hstays hother.1)] at hflush
    obtain ⟨-, rfl⟩ := run_pure_eq_ok.mp hflush
    refine ⟨{ s₂ with gsSector := addr / SECTOR_SIZE }, s₄, ⟨hcache₁, hoffset₁, rfl, hflushed₁, hflash₁⟩, hwrite,
      releaseLock_sameCache hrelease, ?_⟩
    rw [releaseLock] at hrelease
    rw [run_modify_eq_ok.mp hrelease]

/-- The first round of the copying loop. -/
theorem fastWriteLoop_cons {fuel offset : Nat} {buf : List UInt8} {u : Unit} (hbuf : buf ≠ [])
    (h : (fastWriteLoop env (fuel + 1) offset buf).run s = .ok (u, t)) :
    ∃ v, (cacheBytes env offset buf (min buf.length (SECTOR_SIZE - offset))).run s = .ok ((), v) ∧
      (fastWriteLoop env fuel 0 (buf.drop (min buf.length (SECTOR_SIZE - offset)))).run v = .ok (u, t) := by
  have hpos := List.length_pos_iff.mpr hbuf
  have hlen : (if buf.length > SECTOR_SIZE - offset then SECTOR_SIZE - offset else buf.length) =
      min buf.length (SECTOR_SIZE - offset) := by
    split <;> omega
  rw [fastWriteLoop, if_neg (by omega)] at h
  simp only [hlen] at h
  obtain ⟨_, v, hround, h⟩ := run_bind_eq_ok.mp h
  exact ⟨v, hround, h⟩

theorem fastWriteLoop_nil {fuel offset : Nat} {u : Unit}
    (h : (fastWriteLoop env fuel offset []).run s = .ok (u, t)) : t = s := by
  cases fuel with
  | zero => exact (run_pure_eq_ok.mp h).2
  | succ fuel =>
    rw [fastWriteLoop, if_pos List.length_nil] at h
    exact (run_pure_eq_ok.mp h).2

/-- A first write of less than a sector, to the sector that the cache holds bytes
of already. -/
theorem tls_fls_fast_write_short {buf : List UInt8} (hsector : s.gsSector = b)
    (hoffset : s.gsSecOffset < SECTOR_SIZE) (hb : b + 1 < 4294967296) (hbuf : buf ≠ [])
    (hshort : buf.length < SECTOR_SIZE)
    (h : (tls_fls_fast_write env (b * SECTOR_SIZE) buf).run s = .ok (TLS_FLS_STATUS_OK, t)) :
    SECTOR_SIZE ≤ s.gsSecOffset + buf.length ∧ t.gsSecOffset = 0 ∧ t.gsSector = b + 1 ∧ t.flushed = b :: s.flushed ∨
      s.gsSecOffset + buf.length < SECTOR_SIZE ∧ t.gsSector = b ∧ t.flushed = s.flushed := by
  have haddr : b * SECTOR_SIZE / SECTOR_SIZE = b := Nat.mul_div_cancel _ (Nat.zero_lt_of_lt hshort)
  obtain ⟨s', t', ⟨-, hoffset', hsector', hflushed', -⟩, hloop, ⟨-, hoffset₁, hsector₁, hflushed₁⟩, -⟩ :=
    tls_fls_fast_write_stays (fun hne => absurd (haddr.trans hsector.symm) hne) h
  rw [haddr] at hsector'
  obtain ⟨fuel, hfuel⟩ : ∃ fuel, buf.length = fuel + 1 :=
    ⟨buf.length - 1, by have := List.length_pos_iff.mpr hbuf; omega⟩
  rw [Nat.mul_mod_left, hfuel] at hloop
  obtain ⟨v, hround, hrest⟩ := fastWriteLoop_cons hbuf hloop
  rw [Nat.sub_zero, Nat.min_eq_left (Nat.le_of_lt hshort)] at hround hrest
  rw [List.drop_length] at hrest
  obtain rfl := fastWriteLoop_nil hrest
  obtain ⟨-, -, -, -, -, hcase⟩ := cacheBytes_ok (by rwa [hoffset']) (Nat.le_of_lt hshort) hround
  rw [hoffset', hsector', hflushed', u32_of_lt hb] at hcase
  obtain ⟨hfull, hzero, hnext, hnew⟩ | ⟨hless, -, hsame, hkept, -⟩ := hcase
  · exact Or.inl ⟨hfull, hoffset₁.trans hzero, hsector₁.trans hnext, hflushed₁.trans hnew⟩
  · exact Or.inr ⟨hless, hsector₁.trans hsame, hflushed₁.trans hkept⟩

/-- A first write of a sector and more, whatever the cache held. -/
theorem tls_fls_fast_write_long {buf : List UInt8} (hoffset : s.gsSecOffset < SECTOR_SIZE)
    (hlong : SECTOR_SIZE ≤ buf.length) (hb : b + buf.length / SECTOR_SIZE < 4294967296)
    (h : (tls_fls_fast_write env (b * SECTOR_SIZE) buf).run s = .ok (TLS_FLS_STATUS_OK, t)) :
    t.At b (s.stale b ++ s.flushed) buf.length := by
  have hsize : SECTOR_SIZE = 4096 := rfl
  by_cases hclean : s.gsSecOffset = 0 ∨ s.gsSector ≠ b
  · exact tls_fls_fast_write_first hclean hb h
  · have hsector : s.gsSector = b := not_not.mp fun hne => hclean (Or.inr hne)
    have hone : 1 ≤ buf.length / SECTOR_SIZE := (Nat.le_div_iff_mul_le (by omega)).mpr (by omega)
    have hbuf : buf ≠ [] := List.length_pos_iff.mp (by omega)
    have haddr : b * SECTOR_SIZE / SECTOR_SIZE = b := Nat.mul_div_cancel _ (by omega)
    obtain ⟨s', t', ⟨-, hoffset', hsector', hflushed', -⟩, hloop, ⟨-, hoffset₁, hsector₁, hflushed₁⟩, -⟩ :=
      tls_fls_fast_write_stays (fun hne => absurd (haddr.trans hsector.symm) hne) h
    rw [haddr] at hsector'
    obtain ⟨fuel, hfuel⟩ : ∃ fuel, buf.length = fuel + 1 := ⟨buf.length - 1, by omega⟩
    rw [Nat.mul_mod_left, hfuel] at hloop
    obtain ⟨v, hround, hrest⟩ := fastWriteLoop_cons hbuf hloop
    rw [Nat.sub_zero, Nat.min_eq_right hlong] at hround hrest
    obtain ⟨-, -, -, -, -, hcase⟩ := cacheBytes_ok (by rwa [hoffset']) (Nat.le_refl _) hround
    rw [hoffset', hsector', hflushed', u32_of_lt (by omega)] at hcase
    have hv : v.At b s.flushed SECTOR_SIZE := by
      obtain ⟨-, hzero, hnext, hnew⟩ | ⟨hless, -⟩ := hcase
      · exact ⟨hzero, hnext, hnew⟩
      · omega
    have hrest' : SECTOR_SIZE + (buf.drop SECTOR_SIZE).length = buf.length := by
      rw [List.length_drop]
      omega
    rw [← Nat.mod_self SECTOR_SIZE] at hrest
    have ht := fastWriteLoop_at hv (by rw [List.length_drop]; omega) (by rwa [hrest']) hrest
    rw [hrest'] at ht
    rw [Fls.stale, if_neg fun hother => hother.1 hsector.symm, List.nil_append]
    exact ⟨hoffset₁.trans ht.offset, hsector₁.trans ht.sector, hflushed₁.trans ht.flushed⟩

/-- What is known of a session of one write that does what it should. -/
structure WritesPiece (env : FlsEnv) (s : Fls) (base : Nat) (piece : List UInt8) (s₁ s₂ t : Fls) : Prop where
  opened : s.Opened s₁
  cache : s.gsflscache.isSome ∨ env.alloc s.allocations = true
  write : (tls_fls_fast_write env base piece).run s₁ = .ok (TLS_FLS_STATUS_OK, s₂)
  destroy : (tls_fls_fast_write_destroy env).run s₂ = .ok ((), t)
  written : ∀ i < piece.length, t.flash (base + i) = piece.getD i 0
  flushed : t.flushed = s₂.gsSector :: s₂.flushed
  new : ∀ new, t.flushed = new ++ s.flushed →
    (∀ k ∈ new, Covers base piece.length (k % CHIP_SECTORS)) ∧
      ∀ j, s.operations ≤ j → j < s.operations + flushOps new → env.io j = none

theorem WritesPieces.single {piece : List UInt8} (h : WritesPieces env s base [piece]) (hpiece : piece ≠ [])
    (hchip : base + piece.length ≤ TOTAL_SIZE) : ∃ s₁ s₂ t, WritesPiece env s base piece s₁ s₂ t := by
  have hflat : [piece].flatten = piece := by rw [List.flatten_singleton]
  obtain ⟨sts, s₁, s₂, t, hopened, hsome, hwrite, haccepted, hdestroy, hwritten, hnew⟩ :=
    h.ok (fun p hp => by rwa [List.mem_singleton.mp hp]) (by rwa [hflat])
  rw [hflat] at hwritten hnew
  obtain ⟨st, sts', u, rfl, hfirst, hrest⟩ := writeAll_cons_ok hwrite
  obtain ⟨rfl, rfl⟩ := run_pure_eq_ok.mp hrest
  obtain rfl := haccepted st (List.mem_cons_self ..)
  obtain ⟨hsome₁, hsome₂⟩ := tls_fls_fast_write_isSome hfirst
  refine ⟨s₁, s₂, t, hopened, hsome.mp hsome₁, hfirst, hdestroy, hwritten, ?_, hnew⟩
  rw [(tls_fls_fast_write_destroy_ok hdestroy).flushed, if_pos hsome₂]

/-- The first byte of sector `b` is lost: the cache is about to put a one there,
or has done so. There are `m` bytes to come. -/
structure Fls.Lost (b m : Nat) (s : Fls) : Prop where
  offset : s.gsSecOffset < SECTOR_SIZE
  room : s.gsSector * SECTOR_SIZE + s.gsSecOffset + m < TOTAL_SIZE
  sector : s.gsSector = b ∨ b < s.gsSector ∧ s.flash (b * SECTOR_SIZE) = 1

/-- Writing a cache with a one at its start to a sector from `b` on. -/
theorem writtenSector_lost {flash : Nat → UInt8} {sector : Nat} {cache : Mem SECTOR_SIZE}
    (hcache : cache.bytes.getD 0 0 = 1) (h : sector = b ∨ b < sector ∧ flash (b * SECTOR_SIZE) = 1) :
    writtenSector flash sector cache (b * SECTOR_SIZE) = 1 := by
  obtain rfl | ⟨hlt, hone⟩ := h
  · rw [writtenSector, rewrite_of_mem ⟨Nat.le_refl _, Nat.lt_add_of_pos_right (by decide)⟩, Nat.sub_self, hcache]
  · have hbelow : b * SECTOR_SIZE < sector * SECTOR_SIZE := Nat.mul_lt_mul_of_pos_right hlt (by decide)
    rw [writtenSector, rewrite_of_not_mem (by omega), hone]

theorem tls_fls_flush_sector_written (henv : env.Reliable) {cache : Mem SECTOR_SIZE} {u : Unit}
    (hchip : s.gsSector * SECTOR_SIZE + SECTOR_SIZE ≤ TOTAL_SIZE)
    (h : (tls_fls_flush_sector env cache).run s = .ok (u, t)) : t.flash = writtenSector s.flash s.gsSector cache := by
  obtain ⟨ops, hrun⟩ := run_flush_sector henv cache hchip
  rw [hrun] at h
  cases h
  rfl

private theorem getD_memcpy_ones {cache cache' : Mem SECTOR_SIZE} {len m : Nat} (hlen : 0 < len)
    (h : cache.memcpy 0 (List.replicate m 1) len = .ok cache') : cache'.bytes.getD 0 0 = 1 := by
  obtain ⟨hle, -, hbytes⟩ := Mem.memcpy_eq_ok_iff.mp h
  rw [List.length_replicate] at hle
  obtain ⟨len, rfl⟩ : ∃ k, len = k + 1 := ⟨len - 1, by omega⟩
  obtain ⟨m, rfl⟩ : ∃ k, m = k + 1 := ⟨m - 1, by omega⟩
  rw [hbytes]
  rfl

/-- A round that brings ones. -/
private theorem cacheBytes_lost (henv : env.Reliable) {len m : Nat} {u : Unit} (hs : s.Lost b (len + m))
    (hpos : 0 < len) (hlen : len ≤ SECTOR_SIZE)
    (h : (cacheBytes env 0 (List.replicate (len + m) 1) len).run s = .ok (u, t)) :
    t.Lost b m ∧ ∃ cache, t.gsflscache = some cache ∧ cache.bytes.getD 0 0 = 1 := by
  have hsize : SECTOR_SIZE = 4096 := rfl
  obtain ⟨hoffset, hroom, hsector⟩ := hs
  have hin : s.gsSector * 4096 + 4096 ≤ 1048576 := by
    change s.gsSector * 4096 + s.gsSecOffset + (len + m) < 1048576 at hroom
    omega
  obtain ⟨cache, cache', hcache, hcopy, hcache', hcase⟩ := cacheBytes_ok hoffset hlen h
  have hone := getD_memcpy_ones hpos hcopy
  refine ⟨?_, cache', hcache', hone⟩
  obtain ⟨hfull, hzero, hnext, -⟩ | ⟨hless, hoffset', hsame, -, hflash⟩ := hcase
  · rw [u32_of_lt (by omega)] at hnext
    have hsucc : (s.gsSector + 1) * SECTOR_SIZE = s.gsSector * SECTOR_SIZE + SECTOR_SIZE := Nat.succ_mul ..
    have hflash : t.flash = writtenSector s.flash s.gsSector cache' := by
      rw [cacheBytes, run_get_bind] at h
      simp only [hcache, hcopy, run_bind, run_lift_ok, ok_bind, run_modify] at h
      rw [u32_of_lt (by omega), run_get, ok_bind, if_pos hfull] at h
      obtain ⟨_, v, hflush, h⟩ := run_bind_eq_ok.mp h
      rw [run_modify_eq_ok.mp h]
      change v.flash = _
      exact tls_fls_flush_sector_written
        (s := { s with gsflscache := some cache', gsSecOffset := s.gsSecOffset + len }) henv hin hflush
    refine ⟨by rw [hzero]; exact Nat.zero_lt_of_lt hoffset, by rw [hnext, hzero, hsucc]; omega, Or.inr ⟨?_, ?_⟩⟩
    · rw [hnext]
      obtain rfl | ⟨hlt, -⟩ := hsector <;> omega
    · rw [hflash]
      exact writtenSector_lost hone hsector
  · refine ⟨by rwa [hoffset'], by rw [hsame, hoffset']; omega, ?_⟩
    rw [hsame, hflash]
    exact hsector

private theorem fastWriteLoop_lost (henv : env.Reliable) {fuel m : Nat} {u : Unit} (hs : s.Lost b m) (hm : 0 < m)
    (hfuel : m ≤ fuel) (h : (fastWriteLoop env fuel 0 (List.replicate m 1)).run s = .ok (u, t)) :
    t.Lost b 0 ∧ ∃ cache, t.gsflscache = some cache ∧ cache.bytes.getD 0 0 = 1 := by
  have hsize : SECTOR_SIZE = 4096 := rfl
  induction fuel generalizing s m with
  | zero => omega
  | succ fuel ih =>
    have hne : List.replicate m (1 : UInt8) ≠ [] :=
      List.length_pos_iff.mp (by rw [List.length_replicate]; exact hm)
    obtain ⟨v, hround, hrest⟩ := fastWriteLoop_cons hne h
    rw [List.length_replicate, Nat.sub_zero] at hround hrest
    obtain ⟨rest, hrest_eq⟩ : ∃ rest, m = min m SECTOR_SIZE + rest := ⟨m - min m SECTOR_SIZE, by omega⟩
    rw [List.drop_replicate, show m - min m SECTOR_SIZE = rest by omega] at hrest
    have hv := @cacheBytes_lost _ _ _ _ henv (min m SECTOR_SIZE) rest _ (by rwa [← hrest_eq]) (by omega) (by omega)
      (by rwa [← hrest_eq])
    by_cases hzero : rest = 0
    · subst hzero
      rw [List.replicate_zero] at hrest
      rwa [fastWriteLoop_nil hrest]
    · exact ih hv.1 (by omega) (by omega) hrest

private theorem getD_zeros {m : Nat} {bytes : List UInt8} (hm : 0 < m) :
    (List.replicate m 0 ++ bytes).getD 0 0 = 0 := by
  cases m with
  | zero => omega
  | succ m => rfl

/-- Bytes of the first sector that an earlier session left in the cache are
counted again: a session that ends its first write one byte before the sector
does loses the first byte. -/
theorem not_writesPieces_of_left {len : Nat} (hs : s.Ready) (hbase : base % SECTOR_SIZE = 0)
    (hchip : base + len ≤ TOTAL_SIZE) (hlen : SECTOR_SIZE < len) (hsame : s.gsSector = base / SECTOR_SIZE)
    (hleft : s.gsSecOffset ≠ 0) :
    ∃ pieces : List (List UInt8), (∀ piece ∈ pieces, piece ≠ []) ∧ pieces.flatten.length = len ∧
      ¬ WritesPieces env s base pieces := by
  obtain ⟨m, hm, hsize⟩ : ∃ m, m = 4095 ∧ SECTOR_SIZE = m + 1 := ⟨_, rfl, rfl⟩
  have htotal : TOTAL_SIZE = 1048576 := rfl
  rw [htotal] at hchip
  change base % 4096 = 0 at hbase
  have hsector : base / SECTOR_SIZE * SECTOR_SIZE = base := by
    change base / 4096 * 4096 = base
    omega
  have hdiv : (base + m) / SECTOR_SIZE = base / SECTOR_SIZE := by
    change (base + m) / 4096 = base / 4096
    omega
  have hmod : (base + m) % SECTOR_SIZE = m := by
    change (base + m) % 4096 = m
    omega
  have hroom : base / SECTOR_SIZE < 256 := by
    change base / 4096 < 256
    omega
  rw [hsize] at hlen
  have hne : ∀ piece ∈ [List.replicate m 0, (0 : UInt8) :: List.replicate (len - (m + 1)) 1], piece ≠ [] := by
    intro piece hpiece
    obtain rfl | hpiece := List.mem_cons.mp hpiece
    · exact List.length_pos_iff.mp (by rw [List.length_replicate]; omega)
    · rw [List.mem_singleton.mp hpiece]
      exact List.cons_ne_nil _ _
  have hflat : [List.replicate m 0, (0 : UInt8) :: List.replicate (len - (m + 1)) 1].flatten.length = len := by
    simp only [List.flatten_cons, List.flatten_nil, List.length_append, List.length_cons, List.length_replicate,
      List.length_nil]
    omega
  refine ⟨_, hne, hflat, fun h => ?_⟩
  obtain ⟨sts, s₁, s₂, t, hopened, -, hwrite, haccepted, hdestroy, hwritten, -⟩ :=
    (h.reliable hne (by rw [hflat]; exact hchip)).ok hne (by rw [hflat]; exact hchip)
  have henv : (env.withIo fun _ => none).Reliable := fun _ => rfl
  obtain ⟨st, sts', v, rfl, hfirst, hrest⟩ := writeAll_cons_ok hwrite
  obtain ⟨st', sts'', w, rfl, hsecond, hrest⟩ := writeAll_cons_ok hrest
  obtain ⟨rfl, rfl⟩ := run_pure_eq_ok.mp hrest
  obtain rfl := haccepted st (List.mem_cons_self ..)
  obtain rfl := haccepted st' (List.mem_cons_of_mem _ (List.mem_cons_self ..))
  rw [← hsector] at hfirst
  have hzero : v.gsSecOffset = 0 := by
    obtain ⟨-, hzero, -⟩ | ⟨hless, -⟩ := tls_fls_fast_write_short (hopened.gsSector.trans hsame)
      (by rw [hopened.gsSecOffset]; exact hs.offset) (by omega) (hne _ (List.mem_cons_self ..))
      (by rw [List.length_replicate, hsize]; omega) hfirst
    · exact hzero
    · rw [List.length_replicate, hopened.gsSecOffset, hsize] at hless
      omega
  -- The second one starts to count at the byte that the first one missed.
  rw [List.length_replicate] at hsecond
  obtain ⟨v', w', ⟨-, hoffset, hsector', -, -⟩, hloop, ⟨hcache₂, hoffset₂, hsector₂, -⟩, hflash₂⟩ :=
    tls_fls_fast_write_stays (fun _ => hzero) hsecond
  rw [hdiv] at hsector'
  rw [List.length_cons, List.length_replicate, hmod] at hloop
  obtain ⟨x, hround, hloop⟩ := fastWriteLoop_cons (List.cons_ne_nil _ _) hloop
  have hmin : min (len - (m + 1) + 1) (m + 1 - m) = 1 := by omega
  rw [List.length_cons, List.length_replicate, hsize, hmin] at hround hloop
  rw [List.drop_succ_cons, List.drop_zero] at hloop
  obtain ⟨-, -, -, -, -, ⟨hfull, -⟩ | ⟨-, hoffset', hsame', -, -⟩⟩ :=
    cacheBytes_ok (by rw [hoffset, hzero, hsize]; omega) (by rw [hsize]; omega) hround
  · rw [hoffset, hzero, hsize] at hfull
    omega
  rw [hoffset, hzero] at hoffset'
  rw [hsector'] at hsame'
  have hlost : x.Lost (base / SECTOR_SIZE) (len - (m + 1)) := by
    refine ⟨by rw [hoffset', hsize]; omega, ?_, Or.inl hsame'⟩
    rw [hoffset', hsame', hsector, htotal]
    omega
  obtain ⟨⟨-, hroom, hlost⟩, cache, hcache, hone⟩ := fastWriteLoop_lost henv hlost (by omega) (Nat.le_refl _) hloop
  rw [← hsector₂, ← hflash₂] at hlost
  have hin : s₂.gsSector * SECTOR_SIZE + SECTOR_SIZE ≤ TOTAL_SIZE := by
    change w'.gsSector * 4096 + w'.gsSecOffset + 0 < 1048576 at hroom
    rw [hsector₂]
    change w'.gsSector * 4096 + 4096 ≤ 1048576
    omega
  rw [tls_fls_fast_write_destroy, run_get_bind] at hdestroy
  simp only [hcache₂.trans hcache] at hdestroy
  obtain ⟨_, y, hflush, hdestroy⟩ := run_bind_eq_ok.mp hdestroy
  have hflash := tls_fls_flush_sector_written henv hin hflush
  have hfirst := hwritten 0 (by rw [hflat]; omega)
  rw [run_modify_eq_ok.mp hdestroy, List.flatten_cons, getD_zeros (by omega), Nat.add_zero] at hfirst
  change y.flash base = 0 at hfirst
  rw [hflash, ← hsector, writtenSector_lost hone hlost] at hfirst
  exact absurd hfirst (by decide)

section

variable {piece : List UInt8} {s₁ s₂ : Fls}

/-- The sectors that a session of one write goes to, unless the cache makes it
end too early. -/
theorem WritesPiece.sectors (h : WritesPiece env s base piece s₁ s₂ t) (hs : s.Ready)
    (hbase : base % SECTOR_SIZE = 0) (hchip : base + piece.length ≤ TOTAL_SIZE)
    (hcase : (s.gsSecOffset = 0 ∨ s.gsSector ≠ base / SECTOR_SIZE) ∨ SECTOR_SIZE ≤ piece.length) :
    s₂.gsSector = base / SECTOR_SIZE + piece.length / SECTOR_SIZE ∧
      t.flushed = sessionSectors s base piece.length ++ s.flushed := by
  have hwrite := h.write
  have hsector : base / SECTOR_SIZE * SECTOR_SIZE = base := by
    change base % 4096 = 0 at hbase
    change base / 4096 * 4096 = base
    omega
  have hb : base / SECTOR_SIZE + piece.length / SECTOR_SIZE < 4294967296 := by
    change base + piece.length ≤ 1048576 at hchip
    change base / 4096 + piece.length / 4096 < 4294967296
    omega
  rw [← hsector] at hwrite
  have hat : s₂.At (base / SECTOR_SIZE) (s₁.stale (base / SECTOR_SIZE) ++ s₁.flushed) piece.length := by
    obtain hclean | hlong := hcase
    · exact tls_fls_fast_write_first (by rwa [h.opened.gsSecOffset, h.opened.gsSector]) hb hwrite
    · exact tls_fls_fast_write_long (by rw [h.opened.gsSecOffset]; exact hs.offset) hlong hb hwrite
  refine ⟨hat.sector, ?_⟩
  rw [h.flushed, hat.sector, hat.flushed, h.opened.stale, h.opened.flushed, sessionSectors, List.cons_append,
    List.append_assoc]

/-- Bytes that end where a sector does: the sector behind them is written, or the
first sector of the chip is erased. -/
theorem WritesPieces.ends {len : Nat} (hs : s.Ready) (hbase : base % SECTOR_SIZE = 0)
    (hchip : base + len ≤ TOTAL_SIZE) (hlen : 0 < len)
    (hcase : (s.gsSecOffset = 0 ∨ s.gsSector ≠ base / SECTOR_SIZE) ∨ SECTOR_SIZE ≤ len)
    (h : WritesPieces env s base [List.replicate len 0]) : len % SECTOR_SIZE ≠ 0 := by
  have hlength : (List.replicate len (0 : UInt8)).length = len := List.length_replicate
  have hne : List.replicate len (0 : UInt8) ≠ [] := List.length_pos_iff.mp (by rwa [hlength])
  have hreliable := h.reliable (fun p hp => by rwa [List.mem_singleton.mp hp])
    (by rw [List.flatten_singleton, hlength]; exact hchip)
  obtain ⟨s₁, s₂, t, hpiece⟩ := hreliable.single hne (by rwa [hlength])
  obtain ⟨hsector, hflushed⟩ := hpiece.sectors hs hbase (by rwa [hlength]) (by rwa [hlength])
  have hcovers := (hpiece.new _ hflushed).1 _ (List.mem_cons_self ..)
  rw [hlength] at hsector hcovers
  intro hend
  change len % 4096 = 0 at hend
  change base % 4096 = 0 at hbase
  change base + len ≤ 1048576 at hchip
  change (base / 4096 + len / 4096) % 256 * 4096 < base + len ∧
    base < ((base / 4096 + len / 4096) % 256 + 1) * 4096 at hcovers
  change s₂.gsSector = base / 4096 + len / 4096 at hsector
  have hzero : base = 0 := by omega
  have hlast : s₂.gsSector = 256 := by omega
  obtain ⟨cache, hcache⟩ := Option.isSome_iff_exists.mp (tls_fls_fast_write_isSome hpiece.write).2
  obtain ⟨v, hflush, hflash, -⟩ := @run_flush_sector_any (env.withIo fun _ => none) (fun _ => rfl) cache s₂
  have hdestroy := hpiece.destroy
  simp only [tls_fls_fast_write_destroy, run_bind, run_get, ok_bind, hcache, hflush, run_modify] at hdestroy
  cases hdestroy
  have hfirst := hpiece.written 0 (by rwa [hlength])
  change v.flash (base + 0) = _ at hfirst
  rw [hzero, hflash, flushedSector, hlast, if_neg (by decide), rewrite_of_mem (by decide)] at hfirst
  obtain ⟨len, rfl⟩ : ∃ k, len = k + 1 := ⟨len - 1, by omega⟩
  cases hfirst

end

/-- A session without bytes writes a cache that there is, to no sector of its own. -/
private theorem WritesPieces.nil (hbase : base % SECTOR_SIZE = 0) (hchip : base ≤ TOTAL_SIZE)
    (h : WritesPieces env s base []) : s.gsflscache = none ∧ env.alloc s.allocations = false := by
  obtain ⟨sts, s₁, s₂, t, hopened, hsome, hwrite, -, hdestroy, -, hnew⟩ := h.ok nofun hchip
  obtain ⟨-, rfl⟩ := run_pure_eq_ok.mp hwrite
  have hflushed := (tls_fls_fast_write_destroy_ok hdestroy).flushed
  cases hcache : s₂.gsflscache with
  | none =>
    rw [hcache, Option.isSome_none] at hsome
    have hnone := (not_congr hsome).mp Bool.false_ne_true
    rw [not_or, Bool.not_eq_true, Bool.not_eq_true, Option.isSome_eq_false_iff, Option.isNone_iff_eq_none] at hnone
    exact hnone
  | some cache =>
    rw [hcache, Option.isSome_some, if_pos rfl, hopened.flushed] at hflushed
    obtain ⟨hleft, hright⟩ := (hnew [s₂.gsSector] hflushed).1 _ (List.mem_singleton.mpr rfl)
    change base % 4096 = 0 at hbase
    change s₂.gsSector % 256 * 4096 < base + 0 at hleft
    change base < (s₂.gsSector % 256 + 1) * 4096 at hright
    omega

/-- Less than a sector, behind bytes of the first sector that are in the cache:
they must not fill it up. -/
private theorem WritesPiece.short {piece : List UInt8} {s₁ s₂ : Fls} (h : WritesPiece env s base piece s₁ s₂ t)
    (hs : s.Ready) (hbase : base % SECTOR_SIZE = 0) (hchip : base + piece.length ≤ TOTAL_SIZE)
    (hpiece : piece ≠ []) (hsame : s.gsSector = base / SECTOR_SIZE) (hshort : piece.length < SECTOR_SIZE) :
    s.gsSecOffset + piece.length < SECTOR_SIZE ∧ t.flushed = sessionSectors s base piece.length ++ s.flushed := by
  have hpos := List.length_pos_iff.mpr hpiece
  have hwrite := h.write
  have hflushed := h.flushed
  change base % 4096 = 0 at hbase
  change base + piece.length ≤ 1048576 at hchip
  have hsector : base / SECTOR_SIZE * SECTOR_SIZE = base := by
    change base / 4096 * 4096 = base
    omega
  have hlast : base / SECTOR_SIZE < 256 := by
    change base / 4096 < 256
    omega
  have hzero : piece.length / SECTOR_SIZE = 0 := Nat.div_eq_of_lt hshort
  rw [← hsector] at hwrite
  have hwritten := tls_fls_fast_write_short (h.opened.gsSector.trans hsame)
    (by rw [h.opened.gsSecOffset]; exact hs.offset) (by omega) hpiece hshort hwrite
  rw [h.opened.gsSecOffset, h.opened.flushed] at hwritten
  obtain ⟨-, -, hnext, hnew⟩ | ⟨hroom, hkept, hnew⟩ := hwritten
  · rw [hnext, hnew] at hflushed
    have hcovers := (h.new [base / SECTOR_SIZE + 1, base / SECTOR_SIZE] hflushed).1 _ (List.mem_cons_self ..)
    change piece.length < 4096 at hshort
    change (base / 4096 + 1) % 256 * 4096 < base + piece.length ∧ base < ((base / 4096 + 1) % 256 + 1) * 4096 at hcovers
    omega
  · rw [hkept, hnew] at hflushed
    refine ⟨hroom, ?_⟩
    rw [hflushed, sessionSectors, hzero, Fls.stale, if_neg fun hother => hother.1 hsame.symm]
    rfl

/-- A session that writes any bytes as it should, however they are cut, is in
order. -/
private theorem orderly_of_writesPieces {len : Nat} (hs : s.Ready) (hbase : base % SECTOR_SIZE = 0)
    (hchip : base + len ≤ TOTAL_SIZE)
    (h : ∀ pieces : List (List UInt8), (∀ piece ∈ pieces, piece ≠ []) → pieces.flatten.length = len →
      WritesPieces env s base pieces) : Orderly env s base len := by
  rw [Orderly]
  split
  · exact WritesPieces.nil hbase (by omega) (h [] (fun p hp => by cases hp) ‹len = 0›.symm)
  · have hlength : (List.replicate len (0 : UInt8)).length = len := List.length_replicate
    have hne : List.replicate len (0 : UInt8) ≠ [] := List.length_pos_iff.mp (by omega)
    have hone := h [List.replicate len 0] (fun p hp => by rwa [List.mem_singleton.mp hp])
      (by rw [List.flatten_singleton, hlength])
    obtain ⟨s₁, s₂, t, hpiece⟩ := hone.single hne (by rwa [hlength])
    by_cases hcase : (s.gsSecOffset = 0 ∨ s.gsSector ≠ base / SECTOR_SIZE) ∨ SECTOR_SIZE ≤ len
    · have hend := hone.ends hs hbase hchip (by omega) hcase
      obtain ⟨-, hflushed⟩ := hpiece.sectors hs hbase (by rwa [hlength]) (by rwa [hlength])
      obtain ⟨hcovers, hio⟩ := hpiece.new _ hflushed
      rw [hlength] at hcovers hio
      refine ⟨hpiece.cache, hend, ?_, hio⟩
      by_cases hzero : s.gsSecOffset = 0
      · exact Or.inl hzero
      · by_cases hsame : s.gsSector = base / SECTOR_SIZE
        · have hlong : SECTOR_SIZE < len := by
            obtain hclean | hlong := hcase
            · exact absurd hsame (hclean.resolve_left hzero)
            · refine Nat.lt_of_le_of_ne hlong fun heq => hend ?_
              rw [← heq, Nat.mod_self]
          obtain ⟨pieces, hpieces, hlen, hnot⟩ := @not_writesPieces_of_left env _ _ _ hs hbase hchip hlong hsame hzero
          exact absurd (h pieces hpieces hlen) hnot
        · refine Or.inr (Or.inr ⟨hsame, hcovers _ (List.mem_cons_of_mem _ (List.mem_append_right _ ?_))⟩)
          rw [Fls.stale, if_pos ⟨fun heq => hsame heq.symm, hzero⟩]
          exact List.mem_singleton.mpr rfl
    · rw [not_or, not_or] at hcase
      obtain ⟨⟨-, hsame⟩, hshort⟩ := hcase
      have hsame := not_not.mp hsame
      obtain ⟨hroom, hflushed⟩ := hpiece.short hs hbase (by rwa [hlength]) hne hsame (by rw [hlength]; omega)
      rw [hlength] at hroom hflushed
      refine ⟨hpiece.cache, ?_, Or.inr (Or.inl ⟨hsame, hroom⟩), (hpiece.new _ hflushed).2⟩
      rw [Nat.mod_eq_of_lt (by omega)]
      omega

/-- Code that leaves the lock of the flash as it is, and the cache not full. -/
def Fls.Held (s t : Fls) : Prop :=
  t.fls_lock = s.fls_lock ∧ (s.gsSecOffset < SECTOR_SIZE → t.gsSecOffset < SECTOR_SIZE)

instance : Frame Fls.Held where
  refl _ := ⟨rfl, id⟩
  trans h₁ h₂ := ⟨h₂.1.trans h₁.1, fun h => h₂.2 (h₁.2 h)⟩

private theorem nextIo_held : Moves Fls.Held (nextIo env) := by
  refine moves_get_bind fun s a t h => ?_
  simp only [run_bind, run_set, ok_bind, run_pure] at h
  cases h
  exact ⟨rfl, id⟩

private theorem erase_held (sector : Nat) : Moves Fls.Held (gd25qxx_erase env sector) := by
  refine moves_bind nextIo_held fun r => ?_
  cases r <;> exact moves_bind (moves_modify fun _ => ⟨rfl, id⟩) fun _ => moves_pure _

private theorem writePages_held (page count : Nat) (buf : List UInt8) :
    Moves Fls.Held (writePages env page count buf) := by
  induction count generalizing page buf with
  | zero => exact moves_pure _
  | succ count ih =>
    refine moves_bind (moves_bind nextIo_held fun r => ?_) fun err => ?_
    · cases r <;> exact moves_bind (moves_modify fun _ => ⟨rfl, id⟩) fun _ => moves_pure _
    · exact moves_ite (moves_pure _) (moves_bind (moves_pure _) fun _ => ih _ _)

private theorem flush_sector_held (cache : Mem SECTOR_SIZE) : Moves Fls.Held (tls_fls_flush_sector env cache) := by
  refine moves_bind moves_get fun s => moves_bind (erase_held _) fun _ => ?_
  refine moves_bind (moves_ite (moves_pure _) (moves_bind (moves_pure _) fun _ => writePages_held _ _ _)) fun _ => ?_
  exact moves_modify fun _ => ⟨rfl, fun _ => Nat.zero_lt_succ _⟩

private theorem cacheBytes_held {offset len : Nat} {buf : List UInt8} (hlen : len ≤ SECTOR_SIZE) :
    Moves Fls.Held (cacheBytes env offset buf len) := by
  intro s a t h
  refine ⟨?_, fun hoffset => ?_⟩
  · rw [cacheBytes, run_get_bind] at h
    split at h
    · exact (run_throw_eq_ok.mp h).elim
    · obtain ⟨cache', s₁, hcopy, h⟩ := run_bind_eq_ok.mp h
      rw [(run_lift_eq_ok.mp hcopy).2] at h
      obtain ⟨_, s₂, hset, h⟩ := run_bind_eq_ok.mp h
      obtain rfl := run_modify_eq_ok.mp hset
      rw [run_get_bind] at h
      split at h
      · obtain ⟨_, s₃, hflush, h⟩ := run_bind_eq_ok.mp h
        rw [run_modify_eq_ok.mp h]
        exact (flush_sector_held _ hflush).1
      · rw [(run_pure_eq_ok.mp h).2]
  · obtain ⟨-, -, -, -, -, ⟨-, hzero, -⟩ | ⟨hless, hsum, -⟩⟩ := cacheBytes_ok hoffset hlen h
    · rw [hzero]
      exact Nat.zero_lt_of_lt hoffset
    · rwa [hsum]

private theorem fastWriteLoop_held (fuel offset : Nat) (buf : List UInt8) :
    Moves Fls.Held (fastWriteLoop env fuel offset buf) := by
  induction fuel generalizing offset buf with
  | zero => exact moves_pure _
  | succ fuel ih =>
    refine moves_ite (moves_pure _) (moves_bind (cacheBytes_held ?_) fun _ => ih _ _)
    split <;> omega

theorem Fls.Ready.fast_write {addr : Nat} {buf : List UInt8} {st : TLS_FLS_STATUS} (hs : s.Ready)
    (h : (tls_fls_fast_write env addr buf).run s = .ok (st, t)) : t.Ready := by
  have hother : Moves Fls.Held (flushOther env (addr / SECTOR_SIZE)) := by
    refine moves_bind moves_get fun s => moves_ite ?_ (moves_pure _)
    split
    · exact moves_throw _
    · exact flush_sector_held _
  rw [tls_fls_fast_write] at h
  split at h
  · rwa [(run_pure_eq_ok.mp h).2]
  · obtain ⟨_, s₁, hacquire, h⟩ := run_bind_eq_ok.mp h
    obtain ⟨_, s₂, hflush, h⟩ := run_bind_eq_ok.mp h
    obtain ⟨_, s₃, hset, h⟩ := run_bind_eq_ok.mp h
    obtain rfl := run_modify_eq_ok.mp hset
    obtain ⟨_, s₄, hwrite, h⟩ := run_bind_eq_ok.mp h
    obtain ⟨_, s₅, hrelease, h⟩ := run_bind_eq_ok.mp h
    obtain ⟨-, rfl⟩ := run_pure_eq_ok.mp h
    rw [run_acquireLock (by rw [hs.lock]; exact Nat.one_ne_zero)] at hacquire
    cases hacquire
    obtain ⟨hlock₂, hoffset₂⟩ := hother hflush
    obtain ⟨hlock₄, hoffset₄⟩ := fastWriteLoop_held _ _ _ hwrite
    rw [releaseLock] at hrelease
    rw [run_modify_eq_ok.mp hrelease]
    refine ⟨?_, hoffset₄ (hoffset₂ hs.offset)⟩
    change s₄.fls_lock + 1 = 1
    rw [hlock₄, hlock₂, hs.lock]

theorem Fls.Ready.destroy (hs : s.Ready) (h : (tls_fls_fast_write_destroy env).run s = .ok ((), t)) : t.Ready := by
  have hheld : Moves Fls.Held (tls_fls_fast_write_destroy env) := by
    refine moves_bind moves_get fun s => ?_
    split
    · exact moves_pure _
    · exact moves_bind (flush_sector_held _) fun _ => moves_modify fun _ => ⟨rfl, id⟩
  obtain ⟨hlock, hoffset⟩ := hheld h
  exact ⟨hlock.trans hs.lock, hoffset hs.offset⟩

/-- The driver after any sessions, begun, given up or ended, since it was installed. -/
inductive Fls.Used (env : FlsEnv) : Fls → Prop where
  | install {s : Fls} (hlock : s.fls_lock = 1) (hcache : s.gsflscache = none) (hoffset : s.gsSecOffset = 0) : Used env s
  | init {s t : Fls} (hs : Used env s) (h : (tls_fls_fast_write_init env).run s = .ok ((), t)) : Used env t
  | fast_write {s t : Fls} {addr : Nat} {buf : List UInt8} {st : TLS_FLS_STATUS} (hs : Used env s)
    (h : (tls_fls_fast_write env addr buf).run s = .ok (st, t)) : Used env t
  | destroy {s t : Fls} (hs : Used env s) (h : (tls_fls_fast_write_destroy env).run s = .ok ((), t)) : Used env t

theorem Fls.Used.ready (h : s.Used env) : s.Ready := by
  induction h with
  | install hlock _ hoffset => exact ⟨hlock, by rw [hoffset]; exact Nat.zero_lt_succ _⟩
  | init _ h ih =>
    obtain ⟨hopened, -⟩ := tls_fls_fast_write_init_ok h
    exact ⟨hopened.fls_lock.trans ih.lock, by rw [hopened.gsSecOffset]; exact ih.offset⟩
  | fast_write _ h ih => exact ih.fast_write h
  | destroy _ h ih => exact ih.destroy h

/-- The sessions that write whatever they are given as they should, in whatever
pieces, are those that are in order. -/
theorem tls_fls_fast_write_sequential {len : Nat} (hs : s.Used env) (hbase : base % SECTOR_SIZE = 0)
    (hchip : base + len ≤ TOTAL_SIZE) :
    (∀ pieces : List (List UInt8), (∀ piece ∈ pieces, piece ≠ []) → pieces.flatten.length = len →
      WritesPieces env s base pieces) ↔ Orderly env s base len :=
  ⟨orderly_of_writesPieces hs.ready hbase hchip, fun h _ hpieces hlen =>
    writesPieces_of_orderly hs.ready hbase hchip hpieces hlen h⟩

/-- A chip without failures, and a heap that is never used up. -/
def soundFls : FlsEnv := ⟨fun _ => none, fun _ => true, fun _ => 0⟩

/-- An empty chip whose driver has just been installed. -/
def emptyFls : Fls := ⟨fun _ => 0xff, none, 0, 0, 1, 0, 0, []⟩

theorem emptyFls_used : emptyFls.Used soundFls := Fls.Used.install rfl rfl rfl

/-- Three bytes in two pieces. -/
theorem tls_fls_fast_write_sequential_three : WritesPieces soundFls emptyFls 0x3000 [[1], [2, 3]] := by
  refine (@tls_fls_fast_write_sequential _ _ _ 3 emptyFls_used (by decide) (by decide)).mpr ?_ _ ?_ rfl
  · rw [Orderly, if_neg (by decide)]
    exact ⟨Or.inr rfl, by decide, Or.inl rfl, fun _ _ _ => rfl⟩
  · decide

/-- A session that writes one whole sector writes the next one too. -/
theorem tls_fls_fast_write_destroy_extra :
    emptyFls.Used soundFls ∧ ¬ WritesPieces soundFls emptyFls 0x3000 [List.replicate SECTOR_SIZE 0] := by
  refine ⟨emptyFls_used, fun h => ?_⟩
  exact h.ends emptyFls_used.ready (by decide) (by decide) (by decide) (Or.inl (Or.inl rfl)) (Nat.mod_self _)

end ZCloud
