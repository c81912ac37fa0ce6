import ZCloud.Drivers.Cache
import ZCloud.Drivers.FlsLock

open Memory Program

namespace ZCloud

/-- The lock of the driver can be taken. -/
def Fls.Free (s : Fls) : Prop := s.fls_lock ≠ 0

/-- There is a sector cache. -/
def Fls.HasCache (s : Fls) : Prop := s.gsflscache.isSome = true

section

variable {env : FlsEnv} {s t : Fls} {addr len : Nat} {buf : List UInt8}

theorem nextIo_returns : Returns (nextIo env) := fun _ => ⟨_, _, rfl⟩

theorem gd25qxx_read_returns (addr len : Nat) (s : Fls) :
    ∃ r t, (gd25qxx_read env addr len).run s = .ok (r, t) ∧ r.2.length = len := by
  simp only [gd25qxx_read, nextIo, run_bind, run_get, ok_bind, run_set, run_pure]
  cases env.io s.operations <;> exact ⟨_, _, rfl, by rw [List.length_map, List.length_range]⟩

theorem gd25qxx_erase_returns (sector : Nat) : Returns (gd25qxx_erase env sector) := by
  refine returns_bind nextIo_returns fun r => ?_
  cases r <;> exact returns_bind (returns_modify _) fun _ => returns_pure _

theorem gd25qxx_page_write_returns (page : Nat) (buf : List UInt8) : Returns (gd25qxx_page_write env page buf) := by
  refine returns_bind nextIo_returns fun r => ?_
  cases r <;> exact returns_bind (returns_modify _) fun _ => returns_pure _

theorem writePages_returns (page count : Nat) (buf : List UInt8) : Returns (writePages env page count buf) := by
  induction count generalizing page buf with
  | zero => exact returns_pure _
  | succ count ih =>
    refine returns_bind (gd25qxx_page_write_returns _ _) fun err => ?_
    exact returns_ite (returns_pure _) (returns_bind (returns_pure _) fun _ => ih _ _)

theorem tls_fls_page_write_returns (page : Nat) (buf : List UInt8) (page_cnt : Nat) :
    Returns (tls_fls_page_write env page buf page_cnt) :=
  returns_ite (returns_pure _) (returns_bind (returns_pure _) fun _ => writePages_returns _ _ _)

theorem tls_fls_flush_sector_returns (cache : Mem SECTOR_SIZE) : Returns (tls_fls_flush_sector env cache) :=
  returns_get_bind fun _ => returns_bind (gd25qxx_erase_returns _) fun _ =>
    returns_bind (tls_fls_page_write_returns _ _ _) fun _ => returns_modify _

theorem tls_fls_fast_write_destroy_returns : Returns (tls_fls_fast_write_destroy env) := by
  refine returns_get_bind fun s => ?_
  cases s.gsflscache with
  | none => exact returns_pure _
  | some cache => exact returns_bind (tls_fls_flush_sector_returns _) fun _ => returns_modify _

theorem flushOther_hasCache (sector : Nat) : Ensures Fls.HasCache (flushOther env sector) Fls.HasCache := by
  intro s hs
  rw [flushOther, run_get_bind]
  split
  · obtain ⟨cache, hcache⟩ := Option.isSome_iff_exists.mp hs
    obtain ⟨_, t, hflush⟩ := @tls_fls_flush_sector_returns env cache s
    rw [hcache]
    exact ⟨_, t, hflush, (congrArg Option.isSome (tls_fls_flush_sector_ok hflush).1).trans hs⟩
  · exact ⟨(), s, rfl, hs⟩

/-- One round of the copying loop, which stays within the cache. -/
theorem cacheBytes_hasCache {offset : Nat} (hlen : len ≤ buf.length) (hfit : offset + len ≤ SECTOR_SIZE) :
    Ensures Fls.HasCache (cacheBytes env offset buf len) Fls.HasCache := by
  intro s hs
  obtain ⟨cache, hcache⟩ := Option.isSome_iff_exists.mp hs
  obtain ⟨cache', hcopy, -⟩ := @Mem.memcpy_spec _ cache _ _ _ hlen hfit
  rw [cacheBytes, run_get_bind, hcache]
  dsimp only
  rw [hcopy]
  have hflush : Ensures Fls.HasCache (tls_fls_flush_sector env cache') Fls.HasCache :=
    ensures_of_returns (tls_fls_flush_sector_returns cache') fun _ _ _ h hu =>
      (congrArg Option.isSome (tls_fls_flush_sector_ok h).1).trans hu
  have hnext (_ : Unit) : Ensures Fls.HasCache (modify fun s : Fls => { s with gsSector := u32 (s.gsSector + 1) }) Fls.HasCache :=
    fun u hu => ⟨(), _, rfl, hu⟩
  have hrest : Ensures Fls.HasCache (do
      if (← get).gsSecOffset ≥ SECTOR_SIZE then
        tls_fls_flush_sector env cache'
        modify fun s => { s with gsSector := u32 (s.gsSector + 1) }) Fls.HasCache := by
    intro u hu
    rw [run_get_bind]
    split
    · exact ensures_bind hflush hnext hu
    · exact ⟨(), u, rfl, hu⟩
  exact @hrest { s with gsflscache := some cache', gsSecOffset := u32 (s.gsSecOffset + len) } rfl

theorem fastWriteLoop_hasCache {offset : Nat} (fuel : Nat) (hoffset : offset < SECTOR_SIZE) :
    Ensures Fls.HasCache (fastWriteLoop env fuel offset buf) Fls.HasCache := by
  induction fuel generalizing offset buf with
  | zero => exact fun s hs => ⟨(), s, rfl, hs⟩
  | succ fuel ih =>
    rw [fastWriteLoop]
    split
    · exact fun s hs => ⟨(), s, rfl, hs⟩
    · refine ensures_bind (cacheBytes_hasCache ?_ ?_) fun _ => ih (by decide)
      · split <;> omega
      · split <;> omega

/-- With a sector cache a fast write never faults. -/
theorem tls_fls_fast_write_returns (hfree : s.Free) (hcache : s.HasCache) :
    ∃ r, (tls_fls_fast_write env addr buf).run s = .ok r := by
  rw [tls_fls_fast_write]
  dsimp only
  split
  · exact ⟨_, rfl⟩
  · have hstart (_ : Unit) : Ensures Fls.HasCache (modify fun s : Fls => { s with gsSector := addr / SECTOR_SIZE }) Fls.HasCache :=
      fun u hu => ⟨(), _, rfl, hu⟩
    have hend (_ : Unit) : Ensures Fls.HasCache (do releaseLock; return TLS_FLS_STATUS_OK) fun _ => True :=
      fun u _ => ⟨_, _, rfl, trivial⟩
    have hcopies := ensures_bind (@flushOther_hasCache env (addr / SECTOR_SIZE)) fun _ => ensures_bind (hstart ()) fun _ =>
      ensures_bind (@fastWriteLoop_hasCache env buf _ buf.length (Nat.mod_lt addr (by decide))) hend
    obtain ⟨st, t, hrun, -⟩ := @hcopies { s with fls_lock := s.fls_lock - 1 } hcache
    exact exists_run_bind (run_acquireLock hfree) ⟨_, hrun⟩

/-- Without one it writes through `NULL`. -/
theorem tls_fls_fast_write_null {st : TLS_FLS_STATUS} (haddr : addr < TOTAL_SIZE) (hbuf : buf ≠ [])
    (hnone : s.gsflscache = none) : (tls_fls_fast_write env addr buf).run s ≠ .ok (st, t) := by
  intro h
  have hlen : buf.length ≠ 0 := fun h => hbuf (List.length_eq_zero_iff.mp h)
  rw [tls_fls_fast_write] at h
  dsimp only at h
  rw [if_neg (by omega)] at h
  obtain ⟨_, s₁, hacquire, h⟩ := run_bind_eq_ok.mp h
  have hs₁ : s₁.gsflscache = none := (acquireLock_sameCache hacquire).1.trans hnone
  obtain ⟨_, s₂, hflush, h⟩ := run_bind_eq_ok.mp h
  have hs₂ : s₂.gsflscache = none := by
    rw [flushOther, run_get_bind, hs₁] at hflush
    split at hflush
    · exact (run_throw_eq_ok.mp hflush).elim
    · rw [(run_pure_eq_ok.mp hflush).2]
      exact hs₁
  obtain ⟨_, s₃, hset, h⟩ := run_bind_eq_ok.mp h
  obtain rfl := run_modify_eq_ok.mp hset
  obtain ⟨_, s₄, hloop, -⟩ := run_bind_eq_ok.mp h
  obtain ⟨fuel, hfuel⟩ := Nat.exists_eq_succ_of_ne_zero hlen
  rw [hfuel, fastWriteLoop, if_neg hlen] at hloop
  obtain ⟨_, s₅, hround, -⟩ := run_bind_eq_ok.mp hloop
  rw [cacheBytes, run_get_bind, hs₂] at hround
  exact run_throw_eq_ok.mp hround

theorem tls_fls_fast_write_returns_iff (hfree : s.Free) (hbuf : buf ≠ []) :
    (∃ r, (tls_fls_fast_write env addr buf).run s = .ok r) ↔ (addr < TOTAL_SIZE → s.HasCache) := by
  constructor
  · rintro ⟨⟨st, t⟩, hrun⟩ haddr
    refine Option.isSome_iff_ne_none.mpr fun hnone => tls_fls_fast_write_null haddr hbuf hnone hrun
  · intro h
    by_cases haddr : addr < TOTAL_SIZE
    · exact tls_fls_fast_write_returns hfree (h haddr)
    · refine ⟨(TLS_FLS_STATUS_EINVAL, s), ?_⟩
      rw [tls_fls_fast_write]
      dsimp only
      rw [if_pos (.inl (Nat.not_lt.mp haddr))]
      rfl

/-- What the start of fast writing leaves of the driver. -/
theorem run_fls_fast_write_init (s : Fls) : ∃ t, (tls_fls_fast_write_init env).run s = .ok ((), t) ∧
    t.flash = s.flash ∧ t.operations = s.operations ∧ t.fls_lock = s.fls_lock ∧
      (t.HasCache ↔ s.HasCache ∨ env.alloc s.allocations = true) := by
  rw [tls_fls_fast_write_init, run_get_bind]
  split
  · rename_i hcache
    exact ⟨s, rfl, rfl, rfl, rfl, iff_of_true hcache (.inl hcache)⟩
  · rename_i hcache
    have hrun : (tls_mem_alloc env).run s = .ok (env.alloc s.allocations, { s with allocations := s.allocations + 1 }) := rfl
    rw [run_bind_of_ok hrun]
    split
    · rename_i halloc
      exact ⟨_, rfl, rfl, rfl, rfl, iff_of_true rfl (.inr halloc)⟩
    · rename_i halloc
      exact ⟨_, rfl, rfl, rfl, rfl, iff_of_false hcache (not_or.mpr ⟨hcache, halloc⟩)⟩

theorem tls_fls_read_returns (hfree : s.Free) :
    ∃ st bytes t, (tls_fls_read env addr len).run s = .ok ((st, bytes), t) ∧ t.Free ∧ bytes.length ≤ len := by
  rw [tls_fls_read]
  split
  · exact ⟨_, _, s, rfl, hfree, Nat.zero_le _⟩
  · generalize hlen : (if u32 (addr + len) > TOTAL_SIZE then TOTAL_SIZE - addr else len) = n
    have hle : n ≤ len := by
      have hsum := Nat.mod_le (addr + len) 4294967296
      unfold u32 at hlen
      split at hlen <;> omega
    obtain ⟨⟨st, bytes⟩, t, hread, hbytes⟩ := @gd25qxx_read_returns env addr n { s with fls_lock := s.fls_lock - 1 }
    refine ⟨st, bytes, { t with fls_lock := t.fls_lock + 1 }, ?_, Nat.succ_ne_zero _, by rw [← hbytes] at hle; exact hle⟩
    exact (run_bind_of_ok (run_acquireLock hfree)).trans (run_bind_of_ok hread)

/-- A write within one sector never faults. -/
theorem tls_fls_write_returns (hfree : s.Free) (haddr : addr < TOTAL_SIZE) (hbuf : buf.length ≠ 0)
    (hsum : addr + buf.length < 4294967296) (hsector : lastByte addr buf.length / SECTOR_SIZE = addr / SECTOR_SIZE) :
    ∃ st t, (tls_fls_write env addr buf).run s = .ok (st, t) := by
  cases halloc : env.alloc s.allocations with
  | false => exact ⟨_, _, run_fls_write_no_cache hfree haddr hbuf halloc⟩
  | true =>
    exact ⟨_, _, run_fls_write_any env hfree haddr hbuf hsum halloc ((piecesFit_iff haddr hbuf hsum).mpr (.inl hsector))⟩

end

end ZCloud
