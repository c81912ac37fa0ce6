import ZCloud.Drivers.RandomWrite
import ZCloud.Lib.Runs

open Memory Program

namespace ZCloud

/-- The calls of the flash driver. -/
inductive FlsCall where
  | read (addr len : Nat)
  | write (addr : Nat) (buf : List UInt8)
  | erase (sector : Nat)
  | get_param (type : UInt8) (param : Option Nat)
  | fast_write_init
  | fast_write (addr : Nat) (buf : List UInt8)
  | fast_write_destroy

def FlsCall.handle (env : FlsEnv) : FlsCall → Prog Fls Unit
  | .read addr len => do
    let _ ← tls_fls_read env addr len
  | .write addr buf => do
    let _ ← tls_fls_write env addr buf
  | .erase sector => do
    let _ ← tls_fls_erase env sector
  | .get_param type param => do
    let _ ← tls_fls_get_param type param
  | .fast_write_init => tls_fls_fast_write_init env
  | .fast_write addr buf => do
    let _ ← tls_fls_fast_write env addr buf
  | .fast_write_destroy => tls_fls_fast_write_destroy env

/-- The status is the first error of the driver, if there is one: then it is from the
operation made last. -/
def FirstError (env : FlsEnv) (s t : Fls) (st : TLS_FLS_STATUS) : Prop :=
  (∀ j, s.operations ≤ j → j < t.operations → env.io j = none) ∧ st ≠ TLS_FLS_STATUS_EIO ∨
    ∃ n, s.operations ≤ n ∧ t.operations = n + 1 ∧ (∀ j, s.operations ≤ j → j < n → env.io j = none) ∧
      env.io n ≠ none ∧ st = TLS_FLS_STATUS_EIO

/-- `tls_fls_write` gives the lock back as often as it takes it, and returns the first error. -/
def Balanced (env : FlsEnv) (s : Fls) (addr : Nat) (buf : List UInt8) : Prop :=
  ∃ st t, (tls_fls_write env addr buf).run s = .ok (st, t) ∧ t.fls_lock = s.fls_lock ∧ FirstError env s t st

/-- A write around the end of the address space that ends in the sector before its first:
none is written. -/
def EndsBefore (addr len : Nat) : Prop :=
  4294967296 < addr + len ∧ (addr + len - 4294967297) / SECTOR_SIZE + 1 = addr / SECTOR_SIZE

/-- The loop over the sectors is not entered, or none of its operations fails and the last
piece fits its sector. -/
def Undisturbed (env : FlsEnv) (s : Fls) (addr len : Nat) : Prop :=
  TOTAL_SIZE ≤ addr ∨ len = 0 ∨ env.alloc s.allocations = false ∨ EndsBefore addr len ∨
    addr + len < 4294967296 ∧
      (lastByte addr len / SECTOR_SIZE = addr / SECTOR_SIZE ∨
        addr % SECTOR_SIZE + lastByte addr len % SECTOR_SIZE < SECTOR_SIZE) ∧
      ∀ j < 18 * (lastByte addr len / SECTOR_SIZE - addr / SECTOR_SIZE + 1), env.io (s.operations + j) = none

/-- No call is running: the lock can be taken, but not by a second one. -/
def Fls.Idle (s : Fls) : Prop :=
  s.fls_lock = 1 ∧ ∀ t, acquireLock.run s = .ok ((), t) → acquireLock.run t = .error .wait

/-- A write is undisturbed. -/
def FlsCall.guarded (env : FlsEnv) (s : Fls) : FlsCall → Prop
  | .write addr buf => buf.length < 4294967296 ∧ Undisturbed env s addr buf.length
  | _ => True

variable {env : FlsEnv} {s t : Fls} {addr : Nat} {buf : List UInt8}

theorem length_writeOps (flash : Nat → UInt8) (addr sector_addr sector_num left i : Nat) (buf : List UInt8) (write_bytes : Nat) :
    (writeOps flash addr sector_addr sector_num left i buf write_bytes).length = 18 * left := by
  induction left generalizing i buf write_bytes with
  | zero => rfl
  | succ left ih =>
    rw [writeOps, List.length_append, length_sectorRound, ih]
    omega

theorem sectorCount_eq_zero_iff {len : Nat} (haddr : addr < TOTAL_SIZE) (hmax : len < 4294967296)
    (hwrap : 4294967296 ≤ addr + len) : sectorCount addr len = 0 ↔ EndsBefore addr len := by
  have hsize : SECTOR_SIZE = 4096 := rfl
  have htotal : TOTAL_SIZE = 1048576 := rfl
  have hclip : clipped addr len = len := by
    rw [clipped, if_neg]
    unfold u32
    omega
  rw [sectorCount, hclip, EndsBefore, hsize]
  unfold u32Sub u32
  omega

/-- How a write ends that has its cache: without an error, or with the lock given back twice. -/
theorem fls_write_cases {st : TLS_FLS_STATUS} (hlock : s.fls_lock ≠ 0) (haddr : addr < TOTAL_SIZE) (hbuf : buf.length ≠ 0)
    (halloc : env.alloc s.allocations = true) (h : (tls_fls_write env addr buf).run s = .ok (st, t)) :
    st = TLS_FLS_STATUS_OK ∨ t.fls_lock = s.fls_lock + 1 := by
  rw [run_fls_write env hlock haddr hbuf halloc] at h
  cases hrun : (writeSectors env addr (addr / SECTOR_SIZE) (sectorCount addr buf.length) (sectorCount addr buf.length) 0
      (Mem.fill SECTOR_SIZE 0) buf (clipped addr buf.length)).run s.writing with
  | error e =>
    rw [hrun] at h
    cases h
  | ok r =>
    obtain ⟨st, u⟩ := r
    rw [hrun] at h
    cases h
    obtain ⟨hok, -⟩ | ⟨-, hreleased⟩ := writeSectors_cases hrun
    · exact .inl hok
    · refine .inr ?_
      have hgiven : s.writing.fls_lock + 1 = s.fls_lock := Nat.succ_pred_eq_of_pos (Nat.pos_of_ne_zero hlock)
      rw [hreleased, hgiven]

theorem undisturbed_of_balanced (hlock : s.fls_lock = 1) (hmax : buf.length < 4294967296) (h : Balanced env s addr buf) :
    Undisturbed env s addr buf.length := by
  obtain ⟨st, t, hrun, hsame, -⟩ := h
  have hfree : s.fls_lock ≠ 0 := by omega
  refine Classical.byContradiction fun hnot => ?_
  simp only [Undisturbed, not_or, Nat.not_le, Bool.not_eq_false] at hnot
  obtain ⟨haddr, hbuf, halloc, hends, hdisturbed⟩ := hnot
  obtain rfl : st = TLS_FLS_STATUS_OK :=
    (fls_write_cases hfree haddr hbuf halloc hrun).resolve_right (by omega)
  obtain ⟨-, hfits, hchip⟩ := fls_write_ok hfree haddr hbuf hrun
  by_cases hsum : addr + buf.length < 4294967296
  · refine hdisturbed ⟨hsum, (piecesFit_iff haddr hbuf hsum).mp hfits, ?_⟩
    rw [run_fls_write_any env hfree haddr hbuf hsum halloc hfits] at hrun
    obtain ⟨hcount, -, -⟩ := sectorCount_eq haddr hbuf hsum
    have hdone : (perform env (flsWriteOps s.flash addr buf) s.writing).1 = true := by
      have hst := (Prod.mk.inj (Except.ok.inj hrun)).1
      cases hcase : (perform env (flsWriteOps s.flash addr buf) s.writing).1 with
      | true => rfl
      | false =>
        rw [hcase] at hst
        cases hst
    have hall := perform_true_iff.mp hdone
    rwa [flsWriteOps, length_writeOps, hcount] at hall
  · have hwrap := Nat.not_lt.mp hsum
    exact sectorCount_of_wrap haddr hmax hwrap (fun hzero => hends ((sectorCount_eq_zero_iff haddr hmax hwrap).mp hzero))
      (hchip fun hzero => hends ((sectorCount_eq_zero_iff haddr hmax hwrap).mp hzero)) hfits

theorem balanced_of_undisturbed (hlock : s.fls_lock = 1) (hmax : buf.length < 4294967296)
    (h : Undisturbed env s addr buf.length) : Balanced env s addr buf := by
  have hfree : s.fls_lock ≠ 0 := by omega
  by_cases hvalid : addr ≥ TOTAL_SIZE ∨ buf.length = 0
  · refine ⟨TLS_FLS_STATUS_EINVAL, s, ?_, rfl, .inl ⟨fun j hj hlt => absurd hlt (by omega), (fun h => by cases h)⟩⟩
    rw [tls_fls_write]
    dsimp only
    rw [if_pos hvalid]
    rfl
  obtain ⟨haddr, hbuf⟩ := not_or.mp hvalid
  have haddr := Nat.not_le.mp haddr
  cases halloc : env.alloc s.allocations with
  | false =>
    exact ⟨_, _, run_fls_write_no_cache hfree haddr hbuf halloc, rfl, .inl ⟨fun j hj hlt => absurd hlt (Nat.not_lt.mpr hj), (fun h => by cases h)⟩⟩
  | true =>
    obtain hbad | hzero | hnone | hends | ⟨hsum, hplace, hall⟩ := h
    · omega
    · exact absurd hzero hbuf
    · rw [halloc] at hnone
      cases hnone
    · have hcount := (sectorCount_eq_zero_iff haddr hmax (Nat.le_of_lt hends.1)).mpr hends
      have hrun := run_fls_write env hfree haddr hbuf halloc
      rw [hcount] at hrun
      exact ⟨_, _, hrun, Nat.succ_pred_eq_of_pos (Nat.pos_of_ne_zero hfree),
        .inl ⟨fun j hj hlt => absurd hlt (Nat.not_lt.mpr hj), (fun h => by cases h)⟩⟩
    · have hrun := run_fls_write_any env hfree haddr hbuf hsum halloc ((piecesFit_iff haddr hbuf hsum).mpr hplace)
      obtain ⟨hcount, -, -⟩ := sectorCount_eq haddr hbuf hsum
      have hlen : (flsWriteOps s.flash addr buf).length =
          18 * (lastByte addr buf.length / SECTOR_SIZE - addr / SECTOR_SIZE + 1) := by
        rw [flsWriteOps, length_writeOps, hcount]
      rw [perform_of_none (by rw [hlen]; exact hall), hlen] at hrun
      refine ⟨_, _, hrun, rfl, .inl ⟨fun j hj hlt => ?_, (fun h => by cases h)⟩⟩
      have hio := hall (j - s.operations) (Nat.sub_lt_left_of_lt_add hj hlt)
      rwa [Nat.add_sub_cancel' hj] at hio

section

variable {α : Type}

/-- Code between a call that takes the lock and one that gives it back. -/
theorem locked_sameLock {x : Prog Fls α} (hx : Moves Fls.SameLock x) : Moves Fls.SameLock (do
    acquireLock
    let a ← x
    releaseLock
    return a) := by
  intro s a t h
  obtain ⟨_, s₁, hacquire, h⟩ := run_bind_eq_ok.mp h
  have hlock : s.fls_lock ≠ 0 := by
    intro hzero
    simp only [acquireLock, run_bind, run_get, ok_bind, if_pos hzero] at hacquire
    cases hacquire
  rw [run_acquireLock hlock] at hacquire
  cases hacquire
  obtain ⟨_, s₂, hrun, h⟩ := run_bind_eq_ok.mp h
  obtain ⟨_, s₃, hrelease, h⟩ := run_bind_eq_ok.mp h
  obtain ⟨-, rfl⟩ := run_pure_eq_ok.mp h
  rw [run_modify_eq_ok.mp hrelease]
  have hsame : s₂.fls_lock = s.fls_lock - 1 := hx hrun
  rw [Fls.SameLock, hsame]
  exact Nat.succ_pred_eq_of_ne_zero hlock

theorem tls_mem_alloc_sameLock : Moves Fls.SameLock (tls_mem_alloc env) := by
  refine moves_get_bind fun s a t h => ?_
  simp only [run_bind, run_set, ok_bind, run_pure] at h
  cases h
  rfl

theorem tls_fls_flush_sector_sameLock (cache : Mem SECTOR_SIZE) : Moves Fls.SameLock (tls_fls_flush_sector env cache) :=
  moves_bind moves_get fun _ => moves_bind (erase_sameLock _) fun _ => moves_bind (fls_page_write_sameLock _ _ _) fun _ =>
    moves_modify fun _ => rfl

theorem cacheBytes_sameLock (offset : Nat) (buf : List UInt8) (len : Nat) :
    Moves Fls.SameLock (cacheBytes env offset buf len) := by
  refine moves_bind moves_get fun s => ?_
  cases s.gsflscache with
  | none => exact moves_throw _
  | some cache =>
    refine moves_bind (moves_lift _) fun _ => moves_bind (moves_modify fun _ => rfl) fun _ => moves_bind moves_get fun _ => ?_
    exact moves_ite (moves_bind (tls_fls_flush_sector_sameLock _) fun _ => moves_modify fun _ => rfl) (moves_pure _)

theorem fastWriteLoop_sameLock (fuel offset : Nat) (buf : List UInt8) :
    Moves Fls.SameLock (fastWriteLoop env fuel offset buf) := by
  induction fuel generalizing offset buf with
  | zero => exact moves_pure _
  | succ fuel ih => exact moves_ite (moves_pure _) (moves_bind (cacheBytes_sameLock _ _ _) fun _ => ih _ _)

theorem flushOther_sameLock (sector : Nat) : Moves Fls.SameLock (flushOther env sector) := by
  refine moves_bind moves_get fun s => moves_ite ?_ (moves_pure _)
  cases s.gsflscache with
  | none => exact moves_throw _
  | some cache => exact tls_fls_flush_sector_sameLock _

theorem tls_fls_fast_write_init_sameLock : Moves Fls.SameLock (tls_fls_fast_write_init env) :=
  moves_bind moves_get fun _ => moves_ite (moves_pure _) <|
    moves_bind tls_mem_alloc_sameLock fun _ => moves_ite (moves_modify fun _ => rfl) (moves_pure _)

theorem tls_fls_fast_write_destroy_sameLock : Moves Fls.SameLock (tls_fls_fast_write_destroy env) := by
  refine moves_bind moves_get fun s => ?_
  cases s.gsflscache with
  | none => exact moves_pure _
  | some cache => exact moves_bind (tls_fls_flush_sector_sameLock _) fun _ => moves_modify fun _ => rfl

end

theorem tls_fls_read_sameLock (addr len : Nat) : Moves Fls.SameLock (tls_fls_read env addr len) :=
  moves_ite (moves_pure _) (locked_sameLock (read_sameLock _ _))

theorem tls_fls_erase_sameLock (sector : Nat) : Moves Fls.SameLock (tls_fls_erase env sector) :=
  moves_ite (moves_pure _) (locked_sameLock (erase_sameLock _))

theorem tls_fls_get_param_sameLock (type : UInt8) (param : Option Nat) : Moves Fls.SameLock (tls_fls_get_param type param) := by
  cases param with
  | none => exact moves_pure _
  | some old =>
    have hlocked := fun r : TLS_FLS_STATUS × Option Nat => @locked_sameLock _ (pure r) (moves_pure r)
    simp only [pure_bind] at hlocked
    exact hlocked _

theorem tls_fls_fast_write_sameLock (addr : Nat) (buf : List UInt8) :
    Moves Fls.SameLock (tls_fls_fast_write env addr buf) := by
  refine moves_ite (moves_pure _) ?_
  have hlocked := @locked_sameLock _ (do
    flushOther env (addr / SECTOR_SIZE)
    modify fun s => { s with gsSector := addr / SECTOR_SIZE }
    fastWriteLoop env buf.length (addr % SECTOR_SIZE) buf
    return TLS_FLS_STATUS_OK) (moves_bind (flushOther_sameLock _) fun _ => moves_bind (moves_modify fun _ => rfl) fun _ =>
      moves_bind (fastWriteLoop_sameLock _ _ _) fun _ => moves_pure _)
  simpa only [bind_assoc, pure_bind] using hlocked

theorem Fls.idle_of_lock (hlock : s.fls_lock = 1) : s.Idle := by
  refine ⟨hlock, fun t h => ?_⟩
  rw [run_acquireLock (by omega)] at h
  cases h
  have hzero : s.fls_lock - 1 = 0 := by omega
  simp only [acquireLock, run_bind, run_get, ok_bind, hzero, if_pos]
  rfl

theorem FlsCall.guarded_lock {call : FlsCall} (hlock : s.fls_lock = 1) (hguard : call.guarded env s)
    (h : (call.handle env).run s = .ok ((), t)) : t.fls_lock = 1 := by
  cases call with
  | read addr len =>
    obtain ⟨_, t', hread, h⟩ := run_bind_eq_ok.mp h
    obtain ⟨-, rfl⟩ := run_pure_eq_ok.mp h
    exact (tls_fls_read_sameLock _ _ hread).trans hlock
  | write addr buf =>
    obtain ⟨st, t', hwrite, h⟩ := run_bind_eq_ok.mp h
    obtain ⟨-, rfl⟩ := run_pure_eq_ok.mp h
    obtain ⟨st', u, hrun, hsame, -⟩ := balanced_of_undisturbed hlock hguard.1 hguard.2
    rw [hwrite] at hrun
    cases hrun
    exact hsame.trans hlock
  | erase sector =>
    obtain ⟨_, t', herase, h⟩ := run_bind_eq_ok.mp h
    obtain ⟨-, rfl⟩ := run_pure_eq_ok.mp h
    exact (tls_fls_erase_sameLock _ herase).trans hlock
  | get_param type param =>
    obtain ⟨_, t', hparam, h⟩ := run_bind_eq_ok.mp h
    obtain ⟨-, rfl⟩ := run_pure_eq_ok.mp h
    exact (tls_fls_get_param_sameLock _ _ hparam).trans hlock
  | fast_write_init => exact (tls_fls_fast_write_init_sameLock h).trans hlock
  | fast_write addr buf =>
    obtain ⟨st, t', hwrite, h⟩ := run_bind_eq_ok.mp h
    obtain ⟨-, rfl⟩ := run_pure_eq_ok.mp h
    exact (tls_fls_fast_write_sameLock _ _ hwrite).trans hlock
  | fast_write_destroy => exact (tls_fls_fast_write_destroy_sameLock h).trans hlock

/-- A write keeps the balance of the lock and returns the first error if and only if it is
undisturbed; and after every run of calls whose writes are undisturbed the driver is idle. -/
theorem lock_balanced (env : FlsEnv) :
    (∀ (s : Fls) (addr : Nat) (buf : List UInt8), s.fls_lock = 1 → buf.length < 4294967296 →
      (Balanced env s addr buf ↔ Undisturbed env s addr buf.length)) ∧
    ∀ s₀ s : Fls, s₀.fls_lock = 1 → Runs (FlsCall.handle env) (fun s call => call.guarded env s) s₀ s → s.Idle :=
  ⟨fun _ _ _ hlock hmax => ⟨undisturbed_of_balanced hlock hmax, balanced_of_undisturbed hlock hmax⟩,
    fun _ _ hlock hruns => Fls.idle_of_lock
      (hruns.invariant hlock fun _ _ _ ht hguard hrun => FlsCall.guarded_lock ht hguard hrun)⟩

theorem balanced_one_byte : Balanced soundDriver (Fls.installed fun _ => 0xff) 0 [1] ∧
    ∃ s : Fls, s.operations = 1 ∧ s.Idle :=
  ⟨((lock_balanced soundDriver).1 _ _ _ rfl (by decide)).mpr
      (.inr (.inr (.inr (.inr ⟨by decide, .inl (by decide), fun _ _ => rfl⟩)))),
    (Fls.installed fun _ => 0xff).withChip (fun _ => 0xff) 1, rfl,
    (lock_balanced soundDriver).2 (Fls.installed fun _ => 0xff) _ rfl
      (@Runs.step _ _ _ _ _ _ _ (.read 0 1) .refl trivial rfl)⟩

/-- The driver fails to read the sector. -/
theorem lock_released_twice : ¬ ∀ (env : FlsEnv) (s : Fls) (addr : Nat) (buf : List UInt8), s.fls_lock = 1 →
    buf.length < 4294967296 → Balanced env s addr buf := by
  intro h
  have hbalanced := h ⟨fun _ => some fun _ => 0, fun _ => true, fun _ => 0⟩ (Fls.installed fun _ => 0xff) 0 [1] rfl (by decide)
  obtain haddr | hlen | hnone | hends | ⟨-, -, hall⟩ := undisturbed_of_balanced rfl (by decide) hbalanced
  · exact absurd haddr (by decide)
  · cases hlen
  · cases hnone
  · exact absurd hends.1 (by decide)
  · cases hall 0 (Nat.mul_pos (by decide) (Nat.succ_pos _))

end ZCloud
