import ZCloud.Drivers.Cache

open Memory Program

namespace ZCloud

/-- Code that makes `count` driver operations, or fewer if one of them fails:
then it has made that one. -/
structure Fls.Did (io : Nat → Option (Nat → UInt8)) (count : Nat) (s t : Fls) : Prop where
  le : s.operations ≤ t.operations
  clean : (∀ j, s.operations ≤ j → j < s.operations + count → io j = none) →
    t.operations = s.operations + count
  done : (∀ j, s.operations ≤ j → j < t.operations → io j = none) → t.operations = s.operations + count

variable {env : FlsEnv} {io : Nat → Option (Nat → UInt8)} {s t u : Fls} {m n : Nat}

theorem Fls.Did.of_eq (h : t.operations = s.operations) : s.Did io 0 t :=
  ⟨Nat.le_of_eq h.symm, fun _ => h, fun _ => h⟩

theorem Fls.Did.trans (h₁ : s.Did io m u) (h₂ : u.Did io n t) : s.Did io (m + n) t where
  le := Nat.le_trans h₁.le h₂.le
  clean h := by
    have hu := h₁.clean fun j hj hlt => h j hj (by omega)
    have ht := h₂.clean fun j hj hlt => h j (by omega) (by omega)
    omega
  done h := by
    have hle := h₂.le
    have hu := h₁.done fun j hj hlt => h j hj (by omega)
    have ht := h₂.done fun j hj hlt => h j (by omega) hlt
    omega

/-- The operations are made without a failure if and only if those it would make
do not fail. -/
theorem Fls.Did.iff_clean (h : s.Did io n t) :
    (∀ j, s.operations ≤ j → j < t.operations → io j = none) ↔
      ∀ j, s.operations ≤ j → j < s.operations + n → io j = none := by
  constructor
  · intro hdone j hj hlt
    exact hdone j hj (by rw [h.done hdone]; exact hlt)
  · intro hclean j hj hlt
    exact hclean j hj (by rw [← h.clean hclean]; exact hlt)

/-- One operation. -/
theorem Fls.Did.one (h : t.operations = s.operations + 1) : s.Did io 1 t :=
  ⟨by omega, fun _ => h, fun _ => h⟩

theorem erase_did {sector : Nat} {err : TLS_FLS_STATUS}
    (h : (gd25qxx_erase env sector).run s = .ok (err, t)) : s.Did env.io 1 t ∧
      ∀ a, a / SECTOR_SIZE ≠ sector % CHIP_SECTORS → t.flash a = s.flash a := by
  have hkept : ∀ (f : Nat → UInt8) a, a / SECTOR_SIZE ≠ sector % CHIP_SECTORS →
      rewrite s.flash (sector * SECTOR_SIZE % TOTAL_SIZE) SECTOR_SIZE f a = s.flash a := by
    intro f a ha
    refine rewrite_of_not_mem ?_
    change ¬ (sector * 4096 % 1048576 ≤ a ∧ a < sector * 4096 % 1048576 + 4096)
    change a / 4096 ≠ sector % 256 at ha
    omega
  obtain ⟨r, s₁, hio, h⟩ := run_bind_eq_ok.mp h
  simp only [nextIo, run_bind, run_get, ok_bind, run_set, run_pure] at hio
  cases hio
  split at h
  · obtain ⟨_, s₂, hset, h⟩ := run_bind_eq_ok.mp h
    obtain ⟨-, rfl⟩ := run_pure_eq_ok.mp h
    rw [run_modify_eq_ok.mp hset]
    exact ⟨Fls.Did.one rfl, fun a ha => hkept _ a ha⟩
  · obtain ⟨_, s₂, hset, h⟩ := run_bind_eq_ok.mp h
    obtain ⟨-, rfl⟩ := run_pure_eq_ok.mp h
    rw [run_modify_eq_ok.mp hset]
    exact ⟨Fls.Did.one rfl, fun a ha => hkept (fun _ => 0xff) a ha⟩

theorem page_write_did {page : Nat} {buf : List UInt8} {err : TLS_FLS_STATUS}
    (h : (gd25qxx_page_write env page buf).run s = .ok (err, t)) : t.operations = s.operations + 1 ∧
      (err ≠ TLS_FLS_STATUS_OK → env.io s.operations ≠ none) ∧
      ∀ a, a / PAGE_SIZE ≠ page % (TOTAL_SIZE / PAGE_SIZE) → t.flash a = s.flash a := by
  have hkept : ∀ (f : Nat → UInt8) a, a / PAGE_SIZE ≠ page % (TOTAL_SIZE / PAGE_SIZE) →
      rewrite s.flash (page * PAGE_SIZE % TOTAL_SIZE) PAGE_SIZE f a = s.flash a := by
    intro f a ha
    refine rewrite_of_not_mem ?_
    change ¬ (page * 256 % 1048576 ≤ a ∧ a < page * 256 % 1048576 + 256)
    change a / 256 ≠ page % 4096 at ha
    omega
  obtain ⟨r, s₁, hio, h⟩ := run_bind_eq_ok.mp h
  simp only [nextIo, run_bind, run_get, ok_bind, run_set, run_pure] at hio
  cases hio
  cases hfail : env.io s.operations with
  | some left =>
    simp only [hfail] at h
    obtain ⟨_, s₂, hset, h⟩ := run_bind_eq_ok.mp h
    obtain ⟨-, rfl⟩ := run_pure_eq_ok.mp h
    rw [run_modify_eq_ok.mp hset]
    exact ⟨rfl, fun _ => Option.some_ne_none _, fun a ha => hkept _ a ha⟩
  | none =>
    simp only [hfail] at h
    obtain ⟨_, s₂, hset, h⟩ := run_bind_eq_ok.mp h
    obtain ⟨rfl, rfl⟩ := run_pure_eq_ok.mp h
    rw [run_modify_eq_ok.mp hset]
    exact ⟨rfl, fun h => absurd rfl h,
      fun a ha => hkept (fun i => s.flash (page * PAGE_SIZE % TOTAL_SIZE + i) &&& buf.getD i 0) a ha⟩

theorem writePages_did {page count : Nat} {buf : List UInt8} {err : TLS_FLS_STATUS}
    (hchip : page + count ≤ TOTAL_SIZE / PAGE_SIZE)
    (h : (writePages env page count buf).run s = .ok (err, t)) : s.Did env.io count t ∧
      ∀ a, ¬ (page ≤ a / PAGE_SIZE ∧ a / PAGE_SIZE < page + count) → t.flash a = s.flash a := by
  induction count generalizing page buf s with
  | zero =>
    obtain ⟨-, rfl⟩ := run_pure_eq_ok.mp h
    exact ⟨Fls.Did.of_eq rfl, fun _ _ => rfl⟩
  | succ count ih =>
    obtain ⟨err₁, s₁, hwrite, h⟩ := run_bind_eq_ok.mp h
    obtain ⟨hops, hfailed, hkept⟩ := page_write_did hwrite
    rw [Nat.mod_eq_of_lt (by omega)] at hkept
    split at h
    · obtain ⟨-, rfl⟩ := run_pure_eq_ok.mp h
      have hio := hfailed ‹_›
      refine ⟨⟨by omega, fun hclean => ?_, fun hdone => ?_⟩, fun a ha => hkept a (by omega)⟩
      · exact absurd (hclean _ (Nat.le_refl _) (by omega)) hio
      · exact absurd (hdone _ (Nat.le_refl _) (by omega)) hio
    · obtain ⟨hdid, hkept'⟩ := ih (by omega) h
      have := (Fls.Did.one hops).trans hdid
      rw [Nat.add_comm] at this
      exact ⟨this, fun a ha => (hkept' a (by omega)).trans (hkept a (by omega))⟩

/-- The driver operations it takes to write the cache to sector `sector`: none of
its pages is behind the chip. -/
def sectorOps (sector : Nat) : Nat := if sector < CHIP_SECTORS then 17 else 1

/-- The driver operations it takes to write the cache to the sectors. -/
def flushOps (sectors : List Nat) : Nat := (sectors.map sectorOps).sum

theorem flushOps_append (k l : List Nat) : flushOps (k ++ l) = flushOps k + flushOps l := by
  rw [flushOps, List.map_append, List.sum_append, flushOps, flushOps]

theorem tls_fls_flush_sector_did {cache : Mem SECTOR_SIZE} {a : Unit}
    (h : (tls_fls_flush_sector env cache).run s = .ok (a, t)) : s.Did env.io (sectorOps s.gsSector) t ∧
      ∀ a, a / SECTOR_SIZE ≠ s.gsSector % CHIP_SECTORS → t.flash a = s.flash a := by
  rw [tls_fls_flush_sector, run_get_bind] at h
  obtain ⟨_, s₂, herase, h⟩ := run_bind_eq_ok.mp h
  obtain ⟨hdid, hkept⟩ := erase_did herase
  obtain ⟨_, s₃, hwrite, h⟩ := run_bind_eq_ok.mp h
  rw [run_modify_eq_ok.mp h, sectorOps]
  have hpages : SECTOR_SIZE / PAGE_SIZE = 16 := rfl
  have htotal : TOTAL_SIZE / PAGE_SIZE = 4096 := rfl
  have hchip : CHIP_SECTORS = 256 := rfl
  rw [tls_fls_page_write, hpages, htotal] at hwrite
  by_cases hsector : s.gsSector < CHIP_SECTORS
  · rw [if_neg (by omega), if_neg (by omega)] at hwrite
    obtain ⟨hdid', hkept'⟩ := writePages_did (by omega) hwrite
    rw [if_pos hsector]
    obtain ⟨hle, hclean, hdone⟩ := hdid.trans hdid'
    refine ⟨⟨hle, hclean, hdone⟩, fun a ha => (hkept' a ?_).trans (hkept a ha)⟩
    change a / 4096 ≠ s.gsSector % 256 at ha
    change ¬ (s.gsSector * 16 ≤ a / 256 ∧ a / 256 < s.gsSector * 16 + 16)
    omega
  · rw [if_pos (by omega)] at hwrite
    obtain ⟨-, rfl⟩ := run_pure_eq_ok.mp hwrite
    rw [if_neg hsector]
    obtain ⟨hle, hclean, hdone⟩ := hdid
    exact ⟨⟨hle, hclean, hdone⟩, hkept⟩

/-- Code that changes the chip by writing the cache to sectors only. -/
def Fls.Flushes (env : FlsEnv) (s t : Fls) : Prop :=
  ∃ new, t.flushed = new ++ s.flushed ∧ s.Did env.io (flushOps new) t ∧
    ∀ a, (∀ k ∈ new, a / SECTOR_SIZE ≠ k % CHIP_SECTORS) → t.flash a = s.flash a

theorem Fls.Flushes.of_eq (hflushed : t.flushed = s.flushed) (hops : t.operations = s.operations)
    (hflash : t.flash = s.flash) : s.Flushes env t :=
  ⟨[], hflushed, Fls.Did.of_eq hops, fun _ _ => by rw [hflash]⟩

instance : Frame (Fls.Flushes env) where
  refl _ := Fls.Flushes.of_eq rfl rfl rfl
  trans := by
    rintro s u t ⟨new₁, hflushed₁, hdid₁, hkept₁⟩ ⟨new₂, hflushed₂, hdid₂, hkept₂⟩
    refine ⟨new₂ ++ new₁, by rw [hflushed₂, hflushed₁, List.append_assoc], ?_, fun a ha => ?_⟩
    · rw [flushOps_append, Nat.add_comm]
      exact hdid₁.trans hdid₂
    · rw [hkept₂ a fun k hk => ha k (List.mem_append_left _ hk),
        hkept₁ a fun k hk => ha k (List.mem_append_right _ hk)]

theorem tls_fls_flush_sector_flushes (cache : Mem SECTOR_SIZE) :
    Moves (Fls.Flushes env) (tls_fls_flush_sector env cache) := by
  intro s a t h
  obtain ⟨hdid, hkept⟩ := tls_fls_flush_sector_did h
  refine ⟨[s.gsSector], (tls_fls_flush_sector_ok h).2.2.2, hdid, fun a ha => hkept a (ha _ (List.mem_singleton.mpr rfl))⟩

theorem cacheBytes_flushes (offset : Nat) (buf : List UInt8) (len : Nat) :
    Moves (Fls.Flushes env) (cacheBytes env offset buf len) := by
  refine moves_bind moves_get fun s => ?_
  split
  · exact moves_throw _
  · refine moves_bind (moves_lift _) fun cache => ?_
    refine moves_bind (moves_modify fun _ => Fls.Flushes.of_eq rfl rfl rfl) fun _ => ?_
    refine moves_bind moves_get fun _ => moves_ite ?_ (moves_pure _)
    exact moves_bind (tls_fls_flush_sector_flushes _) fun _ => moves_modify fun _ => Fls.Flushes.of_eq rfl rfl rfl

theorem fastWriteLoop_flushes (fuel offset : Nat) (buf : List UInt8) :
    Moves (Fls.Flushes env) (fastWriteLoop env fuel offset buf) := by
  induction fuel generalizing offset buf with
  | zero => exact moves_pure _
  | succ fuel ih => exact moves_ite (moves_pure _) (moves_bind (cacheBytes_flushes _ _ _) fun _ => ih _ _)

theorem flushOther_flushes (sector : Nat) : Moves (Fls.Flushes env) (flushOther env sector) := by
  refine moves_bind moves_get fun s => moves_ite ?_ (moves_pure _)
  split
  · exact moves_throw _
  · exact tls_fls_flush_sector_flushes _

private theorem acquireLock_flushes : Moves (Fls.Flushes env) acquireLock := by
  refine moves_get_bind fun s a t h => ?_
  split at h
  · exact (run_throw_eq_ok.mp h).elim
  · rw [run_set_eq_ok.mp h]
    exact Fls.Flushes.of_eq rfl rfl rfl

theorem tls_fls_fast_write_flushes (addr : Nat) (buf : List UInt8) :
    Moves (Fls.Flushes env) (tls_fls_fast_write env addr buf) := by
  refine moves_ite (moves_pure _) (moves_bind acquireLock_flushes fun _ => ?_)
  refine moves_bind (flushOther_flushes _) fun _ => ?_
  refine moves_bind (moves_modify fun _ => Fls.Flushes.of_eq rfl rfl rfl) fun _ => ?_
  refine moves_bind (fastWriteLoop_flushes _ _ _) fun _ => ?_
  exact moves_bind (moves_modify fun _ => Fls.Flushes.of_eq rfl rfl rfl) fun _ => moves_pure _

theorem tls_fls_fast_write_destroy_flushes : Moves (Fls.Flushes env) (tls_fls_fast_write_destroy env) := by
  refine moves_bind moves_get fun s => ?_
  split
  · exact moves_pure _
  · exact moves_bind (tls_fls_flush_sector_flushes _) fun _ =>
      moves_modify fun _ => Fls.Flushes.of_eq rfl rfl rfl

/-- The flash with the outcomes `io` of the driver operations. -/
def FlsEnv.withIo (env : FlsEnv) (io : Nat → Option (Nat → UInt8)) : FlsEnv := { env with io := io }

section

variable {α β : Type}

/-- What `x` does with the outcomes `io` of the driver operations is what `x'` does
with the outcomes `io'`, when they agree on the operations that are made. -/
def Agrees (io io' : Nat → Option (Nat → UInt8)) (x x' : Prog Fls α) : Prop :=
  ∀ ⦃s a t⦄, x.run s = .ok (a, t) → s.operations ≤ t.operations ∧
    ((∀ j, s.operations ≤ j → j < t.operations → io j = io' j) → x'.run s = .ok (a, t))

instance : Frame fun s t : Fls => s.operations ≤ t.operations where
  refl _ := Nat.le_refl _
  trans := Nat.le_trans

variable {io' : Nat → Option (Nat → UInt8)}

theorem agrees_self {x : Prog Fls α} (h : Moves (fun s t : Fls => s.operations ≤ t.operations) x) :
    Agrees io io' x x := fun _ _ _ hrun => ⟨h hrun, fun _ => hrun⟩

theorem agrees_bind {x x' : Prog Fls α} {f f' : α → Prog Fls β} (hx : Agrees io io' x x')
    (hf : ∀ a, Agrees io io' (f a) (f' a)) : Agrees io io' (x >>= f) (x' >>= f') := by
  intro s b t h
  obtain ⟨a, u, hxs, hfu⟩ := run_bind_eq_ok.mp h
  obtain ⟨hle, hrun⟩ := hx hxs
  obtain ⟨hle', hrun'⟩ := hf a hfu
  refine ⟨Nat.le_trans hle hle', fun hio => run_bind_eq_ok.mpr ⟨a, u, ?_, ?_⟩⟩
  · exact hrun fun j hj hlt => hio j hj (Nat.lt_of_lt_of_le hlt hle')
  · exact hrun' fun j hj hlt => hio j (Nat.le_trans hle hj) hlt

theorem agrees_pure (a : α) : Agrees io io' (pure a : Prog Fls α) (pure a) := agrees_self (moves_pure a)

theorem agrees_ite {c : Prop} [Decidable c] {x x' y y' : Prog Fls α} (hx : Agrees io io' x x')
    (hy : Agrees io io' y y') : Agrees io io' (if c then x else y) (if c then x' else y') := by
  split <;> assumption

theorem agrees_get : Agrees io io' (get : Prog Fls Fls) get := agrees_self moves_get

theorem agrees_modify {f : Fls → Fls} (h : ∀ s, (f s).operations = s.operations) :
    Agrees io io' (modify f : Prog Fls PUnit) (modify f) :=
  agrees_self (moves_modify fun s => Nat.le_of_eq (h s).symm)

end

variable {io' : Nat → Option (Nat → UInt8)}

private theorem nextIo_agrees : Agrees io io' (nextIo (env.withIo io)) (nextIo (env.withIo io')) := by
  intro s a t h
  simp only [nextIo, run_bind, run_get, ok_bind, run_set, run_pure] at h ⊢
  cases h
  refine ⟨Nat.le_succ _, fun hio => ?_⟩
  have hsame : (env.withIo io).io s.operations = (env.withIo io').io s.operations :=
    hio _ (Nat.le_refl _) (Nat.lt_succ_self _)
  rw [hsame]

private theorem erase_agrees (sector : Nat) :
    Agrees io io' (gd25qxx_erase (env.withIo io) sector) (gd25qxx_erase (env.withIo io') sector) := by
  refine agrees_bind nextIo_agrees fun r => ?_
  cases r <;> exact agrees_bind (agrees_modify fun _ => rfl) fun _ => agrees_pure _

private theorem page_write_agrees (page : Nat) (buf : List UInt8) :
    Agrees io io' (gd25qxx_page_write (env.withIo io) page buf) (gd25qxx_page_write (env.withIo io') page buf) := by
  refine agrees_bind nextIo_agrees fun r => ?_
  cases r <;> exact agrees_bind (agrees_modify fun _ => rfl) fun _ => agrees_pure _

private theorem writePages_agrees (page count : Nat) (buf : List UInt8) :
    Agrees io io' (writePages (env.withIo io) page count buf) (writePages (env.withIo io') page count buf) := by
  induction count generalizing page buf with
  | zero => exact agrees_pure _
  | succ count ih =>
    refine agrees_bind (page_write_agrees _ _) fun err => ?_
    exact agrees_ite (agrees_pure _) (agrees_bind (agrees_pure _) fun _ => ih _ _)

private theorem flush_sector_agrees (cache : Mem SECTOR_SIZE) :
    Agrees io io' (tls_fls_flush_sector (env.withIo io) cache) (tls_fls_flush_sector (env.withIo io') cache) := by
  refine agrees_bind agrees_get fun s => agrees_bind (erase_agrees _) fun _ => ?_
  refine agrees_bind (agrees_ite (agrees_pure _) ?_) fun _ => agrees_modify fun _ => rfl
  exact agrees_bind (agrees_pure _) fun _ => writePages_agrees _ _ _

private theorem cacheBytes_agrees (offset : Nat) (buf : List UInt8) (len : Nat) :
    Agrees io io' (cacheBytes (env.withIo io) offset buf len) (cacheBytes (env.withIo io') offset buf len) := by
  refine agrees_bind agrees_get fun s => ?_
  split
  · exact agrees_self (moves_throw _)
  · refine agrees_bind (agrees_self (moves_lift _)) fun cache => ?_
    refine agrees_bind (agrees_modify fun _ => rfl) fun _ => ?_
    refine agrees_bind agrees_get fun _ => agrees_ite ?_ (agrees_pure _)
    exact agrees_bind (flush_sector_agrees _) fun _ => agrees_modify fun _ => rfl

private theorem fastWriteLoop_agrees (fuel offset : Nat) (buf : List UInt8) :
    Agrees io io' (fastWriteLoop (env.withIo io) fuel offset buf)
      (fastWriteLoop (env.withIo io') fuel offset buf) := by
  induction fuel generalizing offset buf with
  | zero => exact agrees_pure _
  | succ fuel ih => exact agrees_ite (agrees_pure _) (agrees_bind (cacheBytes_agrees _ _ _) fun _ => ih _ _)

private theorem acquireLock_agrees : Agrees io io' acquireLock acquireLock := by
  refine agrees_self (moves_get_bind fun s a t h => ?_)
  split at h
  · exact (run_throw_eq_ok.mp h).elim
  · obtain rfl := run_set_eq_ok.mp h
    exact Nat.le_refl _

private theorem flushOther_agrees (sector : Nat) :
    Agrees io io' (flushOther (env.withIo io) sector) (flushOther (env.withIo io') sector) := by
  refine agrees_bind agrees_get fun s => agrees_ite ?_ (agrees_pure _)
  split
  · exact agrees_self (moves_throw _)
  · exact flush_sector_agrees _

theorem tls_fls_fast_write_agrees (addr : Nat) (buf : List UInt8) :
    Agrees io io' (tls_fls_fast_write (env.withIo io) addr buf) (tls_fls_fast_write (env.withIo io') addr buf) := by
  refine agrees_ite (agrees_pure _) (agrees_bind acquireLock_agrees fun _ => ?_)
  refine agrees_bind (flushOther_agrees _) fun _ => agrees_bind (agrees_modify fun _ => rfl) fun _ => ?_
  refine agrees_bind (fastWriteLoop_agrees _ _ _) fun _ => ?_
  exact agrees_bind (agrees_modify fun _ => rfl) fun _ => agrees_pure _

theorem tls_fls_fast_write_destroy_agrees : Agrees io io' (tls_fls_fast_write_destroy (env.withIo io))
    (tls_fls_fast_write_destroy (env.withIo io')) := by
  refine agrees_bind agrees_get fun s => ?_
  split
  · exact agrees_pure _
  · exact agrees_bind (flush_sector_agrees _) fun _ => agrees_modify fun _ => rfl

theorem tls_fls_fast_write_init_agrees : Agrees io io' (tls_fls_fast_write_init (env.withIo io))
    (tls_fls_fast_write_init (env.withIo io')) := by
  refine agrees_bind agrees_get fun s => agrees_ite (agrees_pure _) ?_
  refine agrees_bind (agrees_self (moves_get_bind fun s a t h => ?_)) fun ok =>
    agrees_ite (agrees_modify fun _ => rfl) (agrees_pure _)
  simp only [run_bind, run_set, ok_bind, run_pure] at h
  cases h
  exact Nat.le_refl _

end ZCloud
