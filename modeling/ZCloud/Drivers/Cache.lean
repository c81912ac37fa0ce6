import ZCloud.Drivers.FastWrite

open Memory Program

namespace ZCloud

variable {env : FlsEnv}

/-- What a write past the sector cache leaves of it. -/
def Fls.SameCache (s t : Fls) : Prop :=
  t.gsflscache = s.gsflscache ∧ t.gsSecOffset = s.gsSecOffset ∧ t.gsSector = s.gsSector ∧
    t.flushed = s.flushed

instance : Frame Fls.SameCache where
  refl _ := ⟨rfl, rfl, rfl, rfl⟩
  trans h₁ h₂ :=
    ⟨h₂.1.trans h₁.1, h₂.2.1.trans h₁.2.1, h₂.2.2.1.trans h₁.2.2.1, h₂.2.2.2.trans h₁.2.2.2⟩

private theorem nextIo_sameCache : Moves Fls.SameCache (nextIo env) := by
  refine moves_get_bind fun s a t h => ?_
  simp only [run_bind, run_set, ok_bind, run_pure] at h
  cases h
  exact ⟨rfl, rfl, rfl, rfl⟩

theorem acquireLock_sameCache : Moves Fls.SameCache acquireLock := by
  refine moves_get_bind fun s a t h => ?_
  split at h
  · exact (run_throw_eq_ok.mp h).elim
  · rw [run_set_eq_ok.mp h]
    exact ⟨rfl, rfl, rfl, rfl⟩

theorem releaseLock_sameCache : Moves Fls.SameCache releaseLock :=
  moves_modify fun _ => ⟨rfl, rfl, rfl, rfl⟩

private theorem read_sameCache (addr len : Nat) : Moves Fls.SameCache (gd25qxx_read env addr len) := by
  refine moves_bind moves_get fun s => moves_bind nextIo_sameCache fun r => ?_
  cases r <;> exact moves_pure _

private theorem erase_sameCache (sector : Nat) : Moves Fls.SameCache (gd25qxx_erase env sector) := by
  refine moves_bind nextIo_sameCache fun r => ?_
  cases r <;> exact moves_bind (moves_modify fun _ => ⟨rfl, rfl, rfl, rfl⟩) fun _ => moves_pure _

private theorem page_write_sameCache (page : Nat) (buf : List UInt8) :
    Moves Fls.SameCache (gd25qxx_page_write env page buf) := by
  refine moves_bind nextIo_sameCache fun r => ?_
  cases r <;> exact moves_bind (moves_modify fun _ => ⟨rfl, rfl, rfl, rfl⟩) fun _ => moves_pure _

private theorem writePages_sameCache (page count : Nat) (buf : List UInt8) :
    Moves Fls.SameCache (writePages env page count buf) := by
  induction count generalizing page buf with
  | zero => exact moves_pure _
  | succ count ih =>
    refine moves_bind (page_write_sameCache page _) fun err => ?_
    exact moves_ite (moves_pure _) (moves_bind (moves_pure _) fun _ => ih _ _)

theorem tls_fls_page_write_sameCache (page : Nat) (buf : List UInt8) (page_cnt : Nat) :
    Moves Fls.SameCache (tls_fls_page_write env page buf page_cnt) :=
  moves_ite (moves_pure _) (moves_bind (moves_pure _) fun _ => writePages_sameCache _ _ _)

theorem tls_mem_alloc_sameCache : Moves Fls.SameCache (tls_mem_alloc env) := by
  refine moves_get_bind fun s a t h => ?_
  simp only [run_bind, run_set, ok_bind, run_pure] at h
  cases h
  exact ⟨rfl, rfl, rfl, rfl⟩

private theorem released_sameCache {α : Type} (a : α) :
    Moves Fls.SameCache (do releaseLock; return a : Prog Fls α) :=
  moves_bind releaseLock_sameCache fun _ => moves_pure _

private theorem writeSectors_sameCache (addr sector_addr sector_num left i : Nat) (cache : Mem SECTOR_SIZE)
    (buf : List UInt8) (write_bytes : Nat) :
    Moves Fls.SameCache (writeSectors env addr sector_addr sector_num left i cache buf write_bytes) := by
  induction left generalizing i cache buf write_bytes with
  | zero => exact moves_pure _
  | succ left ih =>
    refine moves_bind (read_sameCache _ _) fun ⟨err, bytes⟩ => ?_
    refine moves_ite (released_sameCache _) ?_
    refine moves_bind (moves_lift _) fun cache => ?_
    refine moves_ite ?_ (moves_ite ?_ ?_)
    all_goals
      refine moves_bind (moves_lift _) fun _ => moves_bind (moves_pure _) fun r => ?_
      refine moves_bind (erase_sameCache _) fun err => moves_ite (released_sameCache _) ?_
      refine moves_bind (tls_fls_page_write_sameCache _ _ _) fun err => moves_ite (released_sameCache _) ?_
      exact ih _ _ _ _

/-- What becomes of the sector cache when it is given back. -/
structure Fls.Destroyed (s t : Fls) : Prop where
  gsflscache : t.gsflscache = none
  flushed : t.flushed = if s.gsflscache.isSome then s.gsSector :: s.flushed else s.flushed

theorem Fls.Destroyed.trans_sameCache {s t u : Fls} (h₁ : s.Destroyed t) (h₂ : t.SameCache u) :
    s.Destroyed u :=
  ⟨h₂.1.trans h₁.gsflscache, h₂.2.2.2.trans h₁.flushed⟩

/-- What writing the cache to the chip leaves of the cache, whatever comes of it
on the chip. -/
theorem tls_fls_flush_sector_ok {cache : Mem SECTOR_SIZE} {s t : Fls} {u : Unit}
    (h : (tls_fls_flush_sector env cache).run s = .ok (u, t)) :
    t.gsflscache = s.gsflscache ∧ t.gsSecOffset = 0 ∧ t.gsSector = s.gsSector ∧
      t.flushed = s.gsSector :: s.flushed := by
  rw [tls_fls_flush_sector, run_get_bind] at h
  obtain ⟨_, s₂, herase, h⟩ := run_bind_eq_ok.mp h
  obtain ⟨_, s₃, hwrite, h⟩ := run_bind_eq_ok.mp h
  obtain ⟨hcache, -, hsector, hflushed⟩ :=
    Frame.trans (R := Fls.SameCache) (erase_sameCache _ herase) (tls_fls_page_write_sameCache _ _ _ hwrite)
  rw [run_modify_eq_ok.mp h]
  exact ⟨hcache, rfl, hsector, by rw [← hsector, ← hflushed]⟩

theorem tls_fls_fast_write_destroy_ok {s t : Fls} {u : Unit}
    (h : (tls_fls_fast_write_destroy env).run s = .ok (u, t)) : s.Destroyed t := by
  rw [tls_fls_fast_write_destroy, run_get_bind] at h
  cases hcache : s.gsflscache with
  | none =>
    simp only [hcache] at h
    obtain ⟨-, rfl⟩ := run_pure_eq_ok.mp h
    exact ⟨hcache, by rw [hcache]; rfl⟩
  | some cache =>
    simp only [hcache] at h
    obtain ⟨_, s₂, hflush, h⟩ := run_bind_eq_ok.mp h
    rw [run_modify_eq_ok.mp h]
    exact ⟨rfl, by rw [hcache]; exact (tls_fls_flush_sector_ok hflush).2.2.2⟩

theorem tls_fls_write_sameCache (addr : Nat) (buf : List UInt8) :
    Moves Fls.SameCache (tls_fls_write env addr buf) := by
  refine moves_ite (moves_pure _) (moves_bind acquireLock_sameCache fun _ => ?_)
  refine moves_bind tls_mem_alloc_sameCache fun ok => moves_ite (released_sameCache _) ?_
  exact moves_bind (writeSectors_sameCache _ _ _ _ _ _ _ _) fun err => released_sameCache err

/-- The sectors of the chip. -/
def CHIP_SECTORS : Nat := 256

/-- The sectors from `b` on, `count` of them, the last first. -/
def sectorsFrom (b : Nat) : Nat → List Nat
  | 0 => []
  | count + 1 => (b + count) :: sectorsFrom b count

theorem mem_sectorsFrom {b count k : Nat} : k ∈ sectorsFrom b count ↔ b ≤ k ∧ k < b + count := by
  induction count with
  | zero =>
    simp only [sectorsFrom, List.not_mem_nil, false_iff]
    omega
  | succ count ih =>
    simp only [sectorsFrom, List.mem_cons, ih]
    omega

/-- The cache after `n` bytes from the start of sector `b` on, when it had been
written to the sectors `old` before them. -/
structure Fls.At (b : Nat) (old : List Nat) (n : Nat) (s : Fls) : Prop where
  offset : s.gsSecOffset = n % SECTOR_SIZE
  sector : s.gsSector = b + n / SECTOR_SIZE
  flushed : s.flushed = sectorsFrom b (n / SECTOR_SIZE) ++ old

variable {b n : Nat} {old : List Nat} {s t : Fls} {u : Unit}

/-- One round of the copying loop, as far as the cache is concerned. -/
theorem cacheBytes_ok {offset len : Nat} {buf : List UInt8} (hoffset : s.gsSecOffset < SECTOR_SIZE)
    (hlen : len ≤ SECTOR_SIZE) (h : (cacheBytes env offset buf len).run s = .ok (u, t)) :
    ∃ cache cache', s.gsflscache = some cache ∧ cache.memcpy offset buf len = .ok cache' ∧
      t.gsflscache = some cache' ∧
      (SECTOR_SIZE ≤ s.gsSecOffset + len ∧ t.gsSecOffset = 0 ∧ t.gsSector = u32 (s.gsSector + 1) ∧
          t.flushed = s.gsSector :: s.flushed ∨
        s.gsSecOffset + len < SECTOR_SIZE ∧ t.gsSecOffset = s.gsSecOffset + len ∧ t.gsSector = s.gsSector ∧
          t.flushed = s.flushed ∧ t.flash = s.flash) := by
  have hsize : SECTOR_SIZE = 4096 := rfl
  rw [cacheBytes, run_get_bind] at h
  cases hcache : s.gsflscache with
  | none =>
    simp only [hcache] at h
    exact (run_throw_eq_ok.mp h).elim
  | some cache =>
    simp only [hcache] at h
    obtain ⟨cache', s₁, hcopy, h⟩ := run_bind_eq_ok.mp h
    obtain ⟨hcopied, hsame⟩ := run_lift_eq_ok.mp hcopy
    rw [hsame] at h
    obtain ⟨_, s₂, hset, h⟩ := run_bind_eq_ok.mp h
    obtain rfl := run_modify_eq_ok.mp hset
    rw [run_get_bind] at h
    have hsum : u32 (s.gsSecOffset + len) = s.gsSecOffset + len := u32_of_lt (by omega)
    rw [hsum] at h
    by_cases hfull : s.gsSecOffset + len ≥ SECTOR_SIZE
    · rw [if_pos hfull] at h
      obtain ⟨_, s₃, hflush, h⟩ := run_bind_eq_ok.mp h
      obtain ⟨hcache₃, hzero, hsector, hflushed⟩ := tls_fls_flush_sector_ok hflush
      rw [run_modify_eq_ok.mp h]
      exact ⟨cache, cache', rfl, hcopied, hcache₃, Or.inl ⟨hfull, hzero, congrArg (fun k => u32 (k + 1)) hsector,
        hflushed⟩⟩
    · rw [if_neg hfull] at h
      obtain ⟨-, rfl⟩ := run_pure_eq_ok.mp h
      exact ⟨cache, cache', rfl, hcopied, rfl, Or.inr ⟨Nat.lt_of_not_le hfull, rfl, rfl, rfl, rfl⟩⟩

theorem cacheBytes_at {offset len : Nat} {buf : List UInt8} (hs : s.At b old n)
    (hlen : n % SECTOR_SIZE + len ≤ SECTOR_SIZE) (hb : b + (n + len) / SECTOR_SIZE < 4294967296)
    (h : (cacheBytes env offset buf len).run s = .ok (u, t)) : t.At b old (n + len) := by
  obtain ⟨hoffset, hsector, hflushed⟩ := hs
  obtain ⟨-, -, -, -, -, ⟨hfull, hoffset', hsector', hflushed'⟩ | ⟨hless, hoffset', hsector', hflushed', -⟩⟩ :=
    cacheBytes_ok (by rw [hoffset]; exact Nat.mod_lt _ (by decide)) (Nat.le_trans (Nat.le_add_left ..) hlen) h
  · have hnext := @sector_full n len (by omega)
    refine ⟨hoffset'.trans hnext.1.symm, ?_, ?_⟩
    · rw [hsector', hsector, hnext.2, u32_of_lt (by omega), Nat.add_assoc]
    · rw [hflushed', hsector, hflushed, hnext.2]
      rfl
  · rw [hoffset] at hless hoffset'
    have hsame := @sector_within n len hless
    exact ⟨hoffset'.trans hsame.1.symm, by rw [hsector', hsector, hsame.2], by rw [hflushed', hflushed, hsame.2]⟩

theorem fastWriteLoop_at {fuel : Nat} {buf : List UInt8} (hs : s.At b old n) (hfuel : buf.length ≤ fuel)
    (hb : b + (n + buf.length) / SECTOR_SIZE < 4294967296)
    (h : (fastWriteLoop env fuel (n % SECTOR_SIZE) buf).run s = .ok (u, t)) : t.At b old (n + buf.length) := by
  have hsize : SECTOR_SIZE = 4096 := rfl
  induction fuel generalizing s n buf with
  | zero =>
    obtain ⟨-, rfl⟩ := run_pure_eq_ok.mp h
    rwa [Nat.le_zero.mp hfuel]
  | succ fuel ih =>
    rw [fastWriteLoop] at h
    by_cases hnil : buf.length = 0
    · rw [if_pos hnil] at h
      obtain ⟨-, rfl⟩ := run_pure_eq_ok.mp h
      rwa [hnil]
    · rw [if_neg hnil] at h
      have hmod : n % SECTOR_SIZE < SECTOR_SIZE := Nat.mod_lt _ (by decide)
      by_cases hlong : buf.length > SECTOR_SIZE - n % SECTOR_SIZE
      · simp only [if_pos hlong] at h
        obtain ⟨_, s₁, hround, h⟩ := run_bind_eq_ok.mp h
        have hlen : n % SECTOR_SIZE + (SECTOR_SIZE - n % SECTOR_SIZE) = SECTOR_SIZE := by omega
        have hround' : (n + (SECTOR_SIZE - n % SECTOR_SIZE)) / SECTOR_SIZE ≤ (n + buf.length) / SECTOR_SIZE :=
          Nat.div_le_div_right (by omega)
        have hs₁ := cacheBytes_at hs (Nat.le_of_eq hlen) (by omega) hround
        rw [← (sector_full hlen).1] at h
        have hrest : n + (SECTOR_SIZE - n % SECTOR_SIZE) + (buf.drop (SECTOR_SIZE - n % SECTOR_SIZE)).length =
            n + buf.length := by
          rw [List.length_drop]
          omega
        have ht := ih hs₁ (by rw [List.length_drop]; omega) (by rw [hrest]; exact hb) h
        rwa [hrest] at ht
      · simp only [if_neg hlong] at h
        obtain ⟨_, s₁, hround, h⟩ := run_bind_eq_ok.mp h
        have hs₁ := cacheBytes_at hs (by omega) hb hround
        rw [List.drop_length] at h
        cases fuel with
        | zero =>
          obtain ⟨-, rfl⟩ := run_pure_eq_ok.mp h
          exact hs₁
        | succ fuel =>
          rw [fastWriteLoop, if_pos List.length_nil] at h
          obtain ⟨-, rfl⟩ := run_pure_eq_ok.mp h
          exact hs₁

/-- The sector that the cache holds bytes of from before, when it is not the
sector `sector` that is about to be written. -/
def Fls.stale (s : Fls) (sector : Nat) : List Nat :=
  if sector ≠ s.gsSector ∧ s.gsSecOffset ≠ 0 then [s.gsSector] else []

theorem flushOther_ok {sector : Nat} (h : (flushOther env sector).run s = .ok (u, t)) :
    t.flushed = s.stale sector ++ s.flushed ∧
      t.gsSecOffset = (if sector ≠ s.gsSector then 0 else s.gsSecOffset) := by
  rw [flushOther, run_get_bind] at h
  rw [Fls.stale]
  by_cases hother : sector ≠ s.gsSector ∧ s.gsSecOffset ≠ 0
  · rw [if_pos hother] at h ⊢
    rw [if_pos hother.1]
    cases hcache : s.gsflscache with
    | none =>
      simp only [hcache] at h
      exact (run_throw_eq_ok.mp h).elim
    | some cache =>
      simp only [hcache] at h
      obtain ⟨-, hzero, -, hflushed⟩ := tls_fls_flush_sector_ok h
      exact ⟨hflushed, hzero⟩
  · rw [if_neg hother] at h ⊢
    obtain ⟨-, rfl⟩ := run_pure_eq_ok.mp h
    refine ⟨rfl, ?_⟩
    split
    · exact not_not.mp fun hne => hother ⟨‹_›, hne⟩
    · rfl

/-- A write to the chip, as far as the cache is concerned. -/
theorem tls_fls_fast_write_at {buf : List UInt8} {old : List Nat}
    (hold : s.stale (b + n / SECTOR_SIZE) ++ s.flushed = sectorsFrom b (n / SECTOR_SIZE) ++ old)
    (hoffset : b + n / SECTOR_SIZE = s.gsSector → s.gsSecOffset = n % SECTOR_SIZE)
    (hother : b + n / SECTOR_SIZE ≠ s.gsSector → n % SECTOR_SIZE = 0)
    (hb : b + (n + buf.length) / SECTOR_SIZE < 4294967296)
    (h : (tls_fls_fast_write env (b * SECTOR_SIZE + n) buf).run s = .ok (TLS_FLS_STATUS_OK, t)) :
    t.At b old (n + buf.length) := by
  rw [tls_fls_fast_write] at h
  split at h
  · exact absurd (run_pure_eq_ok.mp h).1 (fun h => by cases h)
  · have haddr : (b * SECTOR_SIZE + n) / SECTOR_SIZE = b + n / SECTOR_SIZE := by
      rw [Nat.mul_comm, Nat.mul_add_div (by decide)]
    have hmod : (b * SECTOR_SIZE + n) % SECTOR_SIZE = n % SECTOR_SIZE := by
      rw [Nat.mul_comm, Nat.mul_add_mod]
    rw [haddr, hmod] at h
    obtain ⟨_, s₁, hacquire, h⟩ := run_bind_eq_ok.mp h
    obtain ⟨_, s₂, hflush, h⟩ := run_bind_eq_ok.mp h
    obtain ⟨_, s₃, hset, h⟩ := run_bind_eq_ok.mp h
    obtain rfl := run_modify_eq_ok.mp hset
    obtain ⟨_, s₄, hloop, h⟩ := run_bind_eq_ok.mp h
    obtain ⟨_, s₅, hrelease, h⟩ := run_bind_eq_ok.mp h
    obtain ⟨-, rfl⟩ := run_pure_eq_ok.mp h
    obtain ⟨hcache₁, hoffset₁, hsector₁, hflushed₁⟩ := acquireLock_sameCache hacquire
    obtain ⟨-, hoffset₅, hsector₅, hflushed₅⟩ := releaseLock_sameCache hrelease
    obtain ⟨hflushed₂, hoffset₂⟩ := flushOther_ok hflush
    have hs₃ : Fls.At b old n { s₂ with gsSector := b + n / SECTOR_SIZE } := by
      refine ⟨hoffset₂.trans ?_, rfl, ?_⟩
      · rw [hsector₁, hoffset₁]
        split
        · exact (hother ‹_›).symm
        · exact hoffset (not_not.mp ‹_›)
      · rw [← hold]
        change s₂.flushed = _
        rw [hflushed₂, hflushed₁, Fls.stale, Fls.stale, hsector₁, hoffset₁]
    obtain ⟨hoffset₄, hsector₄, hflushed₄⟩ := fastWriteLoop_at hs₃ (Nat.le_refl _) hb hloop
    exact ⟨hoffset₅.trans hoffset₄, hsector₅.trans hsector₄, hflushed₅.trans hflushed₄⟩

/-- The first write of a session, which leaves another sector behind. -/
theorem tls_fls_fast_write_first {buf : List UInt8} (hclean : s.gsSecOffset = 0 ∨ s.gsSector ≠ b)
    (hb : b + buf.length / SECTOR_SIZE < 4294967296)
    (h : (tls_fls_fast_write env (b * SECTOR_SIZE) buf).run s = .ok (TLS_FLS_STATUS_OK, t)) :
    t.At b (s.stale b ++ s.flushed) buf.length := by
  rw [← Nat.add_zero (b * SECTOR_SIZE)] at h
  have hold : s.stale (b + 0 / SECTOR_SIZE) ++ s.flushed =
      sectorsFrom b (0 / SECTOR_SIZE) ++ (s.stale b ++ s.flushed) := by
    rw [Nat.zero_div]
    rfl
  have ht := tls_fls_fast_write_at hold (fun hsame => ?_) (fun _ => Nat.zero_mod _) (by rwa [Nat.zero_add]) h
  · rwa [Nat.zero_add] at ht
  · rw [Nat.zero_mod]
    rw [Nat.zero_div, Nat.add_zero] at hsame
    exact hclean.resolve_right fun hne => hne hsame.symm

/-- A write that goes on where the last one ended. -/
theorem tls_fls_fast_write_next {buf : List UInt8} (hs : s.At b old n)
    (hb : b + (n + buf.length) / SECTOR_SIZE < 4294967296)
    (h : (tls_fls_fast_write env (b * SECTOR_SIZE + n) buf).run s = .ok (TLS_FLS_STATUS_OK, t)) :
    t.At b old (n + buf.length) := by
  refine tls_fls_fast_write_at ?_ (fun _ => hs.offset) (fun hne => absurd hs.sector.symm hne) hb h
  rw [Fls.stale, if_neg (fun hne => hne.1 hs.sector.symm), hs.flushed]
  rfl

end ZCloud
