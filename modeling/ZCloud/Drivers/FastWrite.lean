import ZCloud.Drivers.Fls
import Mathlib.Data.List.GetD

open Memory Program

namespace ZCloud

/-- No driver operation fails. -/
def FlsEnv.Reliable (env : FlsEnv) : Prop := ∀ n, env.io n = none

/-- `s` with another content of the chip, after `operations` operations. -/
def Fls.withChip (s : Fls) (flash : Nat → UInt8) (operations : Nat) : Fls :=
  { s with flash := flash, operations := operations }

@[simp]
theorem Fls.flash_withChip (s : Fls) (f : Nat → UInt8) (n : Nat) : (s.withChip f n).flash = f := rfl

@[simp]
theorem Fls.withChip_withChip (s : Fls) (f g : Nat → UInt8) (n m : Nat) :
    (s.withChip f n).withChip g m = s.withChip g m := rfl

theorem rewrite_of_mem {flash f : Nat → UInt8} {addr len a : Nat} (h : addr ≤ a ∧ a < addr + len) :
    rewrite flash addr len f a = f (a - addr) := if_pos h

theorem rewrite_of_not_mem {flash f : Nat → UInt8} {addr len a : Nat} (h : ¬ (addr ≤ a ∧ a < addr + len)) :
    rewrite flash addr len f a = flash a := if_neg h

variable {env : FlsEnv}

theorem run_acquireLock {s : Fls} (hlock : s.fls_lock ≠ 0) :
    acquireLock.run s = .ok ((), { s with fls_lock := s.fls_lock - 1 }) := by
  simp only [acquireLock, run_bind, run_get, ok_bind, if_neg hlock]
  rfl

theorem run_nextIo (henv : env.Reliable) (s : Fls) :
    (nextIo env).run s = .ok (none, s.withChip s.flash (s.operations + 1)) := by
  simp only [nextIo, run_bind, run_get, ok_bind, run_set, run_pure]
  rw [henv]
  rfl

theorem run_page_write (henv : env.Reliable) (s : Fls) (page : Nat) (buf : List UInt8) :
    (gd25qxx_page_write env page buf).run s = .ok (TLS_FLS_STATUS_OK,
      s.withChip (rewrite s.flash (page * PAGE_SIZE % TOTAL_SIZE) PAGE_SIZE
        fun i => s.flash (page * PAGE_SIZE % TOTAL_SIZE + i) &&& buf.getD i 0) (s.operations + 1)) := by
  simp only [gd25qxx_page_write, run_bind, run_nextIo henv, ok_bind, run_modify, run_pure]
  rfl

theorem run_erase (henv : env.Reliable) (s : Fls) (sector : Nat) :
    (gd25qxx_erase env sector).run s = .ok (TLS_FLS_STATUS_OK,
      s.withChip (rewrite s.flash (sector * SECTOR_SIZE % TOTAL_SIZE) SECTOR_SIZE fun _ => 0xff)
        (s.operations + 1)) := by
  simp only [gd25qxx_erase, run_bind, run_nextIo henv, ok_bind, run_modify, run_pure]
  rfl

theorem run_gd25qxx_read (henv : env.Reliable) (s : Fls) {addr len : Nat}
    (hchip : addr + len ≤ TOTAL_SIZE) :
    (gd25qxx_read env addr len).run s = .ok ((TLS_FLS_STATUS_OK,
      (List.range len).map fun i => s.flash (addr + i)), s.withChip s.flash (s.operations + 1)) := by
  have hbytes : ((List.range len).map fun i => s.flash ((addr + i) % TOTAL_SIZE))
      = (List.range len).map fun i => s.flash (addr + i) := by
    refine List.map_congr_left fun i hi => ?_
    rw [Nat.mod_eq_of_lt (Nat.lt_of_lt_of_le (Nat.add_lt_add_left (List.mem_range.mp hi) _) hchip)]
  simp only [gd25qxx_read, run_bind, run_get, run_nextIo henv, ok_bind, run_pure, hbytes]

/-- Pages written one after another clear the bits of the bytes they cover. -/
theorem run_writePages (henv : env.Reliable) (page count : Nat) (buf : List UInt8) (s : Fls)
    (hchip : (page + count) * PAGE_SIZE ≤ TOTAL_SIZE) :
    ∃ ops, (writePages env page count buf).run s = .ok (TLS_FLS_STATUS_OK,
      s.withChip (rewrite s.flash (page * PAGE_SIZE) (count * PAGE_SIZE)
        fun i => s.flash (page * PAGE_SIZE + i) &&& buf.getD i 0) ops) := by
  induction count generalizing page buf s with
  | zero =>
    have hsame : rewrite s.flash (page * PAGE_SIZE) (0 * PAGE_SIZE)
        (fun i => s.flash (page * PAGE_SIZE + i) &&& buf.getD i 0) = s.flash := by
      funext a
      exact rewrite_of_not_mem (by omega)
    refine ⟨s.operations, ?_⟩
    rw [writePages, hsame]
    rfl
  | succ count ih =>
    have hpage : 0 < PAGE_SIZE := by decide
    have hnext : (page + 1) * PAGE_SIZE = page * PAGE_SIZE + PAGE_SIZE := Nat.succ_mul ..
    have hcount : (count + 1) * PAGE_SIZE = PAGE_SIZE + count * PAGE_SIZE := by
      rw [Nat.succ_mul, Nat.add_comm]
    have hsum : (page + (count + 1)) * PAGE_SIZE = page * PAGE_SIZE + PAGE_SIZE + count * PAGE_SIZE := by
      rw [Nat.add_mul, hcount, Nat.add_assoc]
    have hsum' : (page + 1 + count) * PAGE_SIZE = page * PAGE_SIZE + PAGE_SIZE + count * PAGE_SIZE := by
      rw [Nat.add_mul, hnext]
    have haddr : page * PAGE_SIZE % TOTAL_SIZE = page * PAGE_SIZE := Nat.mod_eq_of_lt (by omega)
    have hfirst := run_page_write henv s page (buf.take PAGE_SIZE)
    rw [haddr] at hfirst
    obtain ⟨ops, hrest⟩ := ih (page + 1) (buf.drop PAGE_SIZE) (s.withChip
      (rewrite s.flash (page * PAGE_SIZE) PAGE_SIZE fun i =>
        s.flash (page * PAGE_SIZE + i) &&& (buf.take PAGE_SIZE).getD i 0) (s.operations + 1)) (by omega)
    refine ⟨ops, ?_⟩
    rw [writePages, run_bind, hfirst, ok_bind, if_neg (by simp), hrest, Fls.withChip_withChip]
    refine congrArg (fun f => Except.ok (TLS_FLS_STATUS_OK, s.withChip f ops)) (funext fun a => ?_)
    rw [Fls.flash_withChip]
    by_cases hfst : page * PAGE_SIZE ≤ a ∧ a < page * PAGE_SIZE + PAGE_SIZE
    · rw [rewrite_of_not_mem (by omega), rewrite_of_mem hfst, rewrite_of_mem (by omega)]
      have htake : (buf.take PAGE_SIZE).getD (a - page * PAGE_SIZE) 0 = buf.getD (a - page * PAGE_SIZE) 0 := by
        simp only [List.getD_eq_getElem?_getD, List.getElem?_take]
        rw [if_pos (by omega)]
      rw [htake]
    · by_cases hsnd : (page + 1) * PAGE_SIZE ≤ a ∧ a < (page + 1) * PAGE_SIZE + count * PAGE_SIZE
      · have hoff : PAGE_SIZE + (a - (page + 1) * PAGE_SIZE) = a - page * PAGE_SIZE := by omega
        have hback : (page + 1) * PAGE_SIZE + (a - (page + 1) * PAGE_SIZE) = a := by omega
        have hback' : page * PAGE_SIZE + (a - page * PAGE_SIZE) = a := by omega
        have hdrop : (buf.drop PAGE_SIZE).getD (a - (page + 1) * PAGE_SIZE) 0
            = buf.getD (a - page * PAGE_SIZE) 0 := by
          simp only [List.getD_eq_getElem?_getD, List.getElem?_drop, hoff]
        rw [rewrite_of_mem hsnd, hdrop, hback, rewrite_of_not_mem hfst, rewrite_of_mem (by omega), hback']
      · rw [rewrite_of_not_mem hsnd, rewrite_of_not_mem hfst, rewrite_of_not_mem (by omega)]

/-- The chip after `cache` has been written to a sector. -/
def writtenSector (flash : Nat → UInt8) (sector : Nat) (cache : Mem SECTOR_SIZE) : Nat → UInt8 :=
  rewrite flash (sector * SECTOR_SIZE) SECTOR_SIZE fun i => cache.bytes.getD i 0

/-- An erased sector whose pages are written holds what was written. -/
theorem run_page_write_erased (henv : env.Reliable) {sector : Nat} (cache : Mem SECTOR_SIZE) (s : Fls)
    (hchip : sector * SECTOR_SIZE + SECTOR_SIZE ≤ TOTAL_SIZE) (n : Nat) :
    ∃ ops, (tls_fls_page_write env (sector * (SECTOR_SIZE / PAGE_SIZE)) cache.bytes
        (SECTOR_SIZE / PAGE_SIZE)).run
      (s.withChip (rewrite s.flash (sector * SECTOR_SIZE % TOTAL_SIZE) SECTOR_SIZE fun _ => 0xff) n) =
      .ok (TLS_FLS_STATUS_OK, s.withChip (writtenSector s.flash sector cache) ops) := by
  have hlt : sector * 4096 + 4096 ≤ 1048576 := hchip
  have haddr : sector * SECTOR_SIZE % TOTAL_SIZE = sector * SECTOR_SIZE :=
    Nat.mod_eq_of_lt (Nat.lt_of_lt_of_le (Nat.lt_add_of_pos_right (by decide)) hchip)
  have hpages : sector * (SECTOR_SIZE / PAGE_SIZE) * PAGE_SIZE = sector * SECTOR_SIZE := Nat.mul_assoc ..
  have hcount : SECTOR_SIZE / PAGE_SIZE * PAGE_SIZE = SECTOR_SIZE := rfl
  rw [haddr]
  obtain ⟨ops, hwrite⟩ := run_writePages henv (sector * (SECTOR_SIZE / PAGE_SIZE))
    (SECTOR_SIZE / PAGE_SIZE) cache.bytes
    (s.withChip (rewrite s.flash (sector * SECTOR_SIZE) SECTOR_SIZE fun _ => 0xff) n)
    (by rw [Nat.add_mul, hpages, hcount]; exact hchip)
  rw [hpages, hcount] at hwrite
  refine ⟨ops, ?_⟩
  have hvalid : ¬ (sector * (SECTOR_SIZE / PAGE_SIZE) ≥ TOTAL_SIZE / PAGE_SIZE ∨ SECTOR_SIZE / PAGE_SIZE = 0) := by
    change ¬ (sector * 16 ≥ 4096 ∨ 16 = 0)
    omega
  have hwhole : ¬ (sector * (SECTOR_SIZE / PAGE_SIZE) + SECTOR_SIZE / PAGE_SIZE > TOTAL_SIZE / PAGE_SIZE) := by
    change ¬ (sector * 16 + 16 > 4096)
    omega
  rw [tls_fls_page_write, if_neg hvalid, if_neg hwhole, hwrite, Fls.withChip_withChip]
  refine congrArg (fun f => Except.ok (TLS_FLS_STATUS_OK, s.withChip f ops)) (funext fun a => ?_)
  rw [Fls.flash_withChip, writtenSector]
  by_cases hin : sector * SECTOR_SIZE ≤ a ∧ a < sector * SECTOR_SIZE + SECTOR_SIZE
  · have hback : sector * SECTOR_SIZE + (a - sector * SECTOR_SIZE) = a := Nat.add_sub_cancel' hin.1
    rw [rewrite_of_mem hin, rewrite_of_mem hin, hback, rewrite_of_mem hin]
    exact (UInt8.and_comm _ _).trans UInt8.and_neg_one
  · rw [rewrite_of_not_mem hin, rewrite_of_not_mem hin, rewrite_of_not_mem hin]

theorem run_flush_sector (henv : env.Reliable) (cache : Mem SECTOR_SIZE) {s : Fls}
    (hchip : s.gsSector * SECTOR_SIZE + SECTOR_SIZE ≤ TOTAL_SIZE) :
    ∃ ops, (tls_fls_flush_sector env cache).run s =
      .ok ((), { s.withChip (writtenSector s.flash s.gsSector cache) ops with
        gsSecOffset := 0, flushed := s.gsSector :: s.flushed }) := by
  obtain ⟨ops, hwrite⟩ := run_page_write_erased henv cache s hchip (s.operations + 1)
  refine ⟨ops, ?_⟩
  simp only [tls_fls_flush_sector, run_bind, run_get, ok_bind, run_erase henv, hwrite, run_modify]
  rfl

theorem sector_within {n len : Nat} (h : n % SECTOR_SIZE + len < SECTOR_SIZE) :
    (n + len) % SECTOR_SIZE = n % SECTOR_SIZE + len ∧ (n + len) / SECTOR_SIZE = n / SECTOR_SIZE := by
  unfold SECTOR_SIZE at *
  omega

theorem sector_full {n len : Nat} (h : n % SECTOR_SIZE + len = SECTOR_SIZE) :
    (n + len) % SECTOR_SIZE = 0 ∧ (n + len) / SECTOR_SIZE = n / SECTOR_SIZE + 1 := by
  unfold SECTOR_SIZE at *
  omega

theorem sector_addr {base n : Nat} (hbase : base % SECTOR_SIZE = 0) :
    (base + n) / SECTOR_SIZE * SECTOR_SIZE = base + (n - n % SECTOR_SIZE) ∧
      (base + n) % SECTOR_SIZE = n % SECTOR_SIZE := by
  unfold SECTOR_SIZE at *
  omega

/-- The bytes of `d` that belong to sectors it fills, and those behind them. -/
def wholeSectors (d : List UInt8) : Nat := d.length - d.length % SECTOR_SIZE

def lastSector (d : List UInt8) : List UInt8 := d.drop (wholeSectors d)

theorem length_lastSector (d : List UInt8) : (lastSector d).length = d.length % SECTOR_SIZE := by
  have := Nat.mod_le d.length SECTOR_SIZE
  rw [lastSector, List.length_drop, wholeSectors]
  omega

/-- The bytes `d` have been written from address `base` on, those of the last
sector to the cache only. `flash` is what the chip held before. -/
structure Written (flash : Nat → UInt8) (base : Nat) (d : List UInt8) (s : Fls) : Prop where
  cache : ∃ m, s.gsflscache = some m ∧ m.bytes.take (lastSector d).length = lastSector d
  offset : s.gsSecOffset = d.length % SECTOR_SIZE
  sector : s.gsSecOffset = 0 ∨ s.gsSector = (base + d.length) / SECTOR_SIZE
  programmed : ∀ i < wholeSectors d, s.flash (base + i) = d.getD i 0
  kept : ∀ a, ¬ (base ≤ a ∧ a < base + wholeSectors d) → s.flash a = flash a

theorem Written.start {flash : Nat → UInt8} {s : Fls} {base : Nat} (hflash : s.flash = flash)
    (hcache : s.gsflscache.isSome) (hoffset : s.gsSecOffset = 0) : Written flash base [] s where
  cache := by
    obtain ⟨m, hm⟩ := Option.isSome_iff_exists.mp hcache
    exact ⟨m, hm, by simp [lastSector]⟩
  offset := hoffset
  sector := Or.inl hoffset
  programmed _ h := absurd h (Nat.not_lt_zero _)
  kept _ _ := by rw [hflash]

private theorem lastSector_append {d c : List UInt8}
    (h : d.length % SECTOR_SIZE + c.length < SECTOR_SIZE) :
    wholeSectors (d ++ c) = wholeSectors d ∧ lastSector (d ++ c) = lastSector d ++ c := by
  have hle := Nat.mod_le d.length SECTOR_SIZE
  have hwhole : wholeSectors (d ++ c) = wholeSectors d := by
    rw [wholeSectors, List.length_append, (sector_within h).1, wholeSectors]
    omega
  refine ⟨hwhole, ?_⟩
  have hdrop : wholeSectors d ≤ d.length := Nat.sub_le ..
  rw [lastSector, hwhole, List.drop_append_of_le_length hdrop]
  rfl

private theorem wholeSectors_append {d c : List UInt8}
    (h : d.length % SECTOR_SIZE + c.length = SECTOR_SIZE) :
    wholeSectors (d ++ c) = (d ++ c).length ∧ wholeSectors d + SECTOR_SIZE = (d ++ c).length := by
  have hle := Nat.mod_le d.length SECTOR_SIZE
  rw [wholeSectors, List.length_append, (sector_full h).1, wholeSectors]
  omega

/-- What the chip holds once a cache with the bytes of the last sector, and `c`
behind them, has been written to its sector. -/
private theorem flash_writtenSector {flash : Nat → UInt8} {base : Nat} {d c : List UInt8} {s : Fls}
    {m : Mem SECTOR_SIZE} (hbase : base % SECTOR_SIZE = 0) (hd : Written flash base d s)
    (hm : m.bytes.take (lastSector d ++ c).length = lastSector d ++ c)
    (hfit : (lastSector d ++ c).length ≤ SECTOR_SIZE) :
    (∀ i < (d ++ c).length,
      writtenSector s.flash ((base + d.length) / SECTOR_SIZE) m (base + i) = (d ++ c).getD i 0) ∧
    ∀ a, ¬ (base ≤ a ∧ a < base + (wholeSectors d + SECTOR_SIZE)) →
      writtenSector s.flash ((base + d.length) / SECTOR_SIZE) m a = flash a := by
  have haddr := (sector_addr (n := d.length) hbase).1
  have hle := Nat.mod_le d.length SECTOR_SIZE
  have hlast := length_lastSector d
  have hwhole : wholeSectors d = d.length - d.length % SECTOR_SIZE := rfl
  have hsplit : d ++ c = d.take (wholeSectors d) ++ (lastSector d ++ c) := by
    rw [lastSector, ← List.append_assoc, List.take_append_drop]
  have htake : (d.take (wholeSectors d)).length = wholeSectors d := by
    rw [List.length_take]
    omega
  simp only [List.length_append] at hfit hm ⊢
  constructor
  · intro i hi
    rw [writtenSector, haddr, ← hwhole]
    by_cases hlow : i < wholeSectors d
    · rw [rewrite_of_not_mem (by omega), hd.programmed i hlow, List.getD_append _ _ _ _ (by omega)]
    · rw [rewrite_of_mem (by omega), hsplit, List.getD_append_right _ _ _ _ (by omega), htake, ← hm]
      have hoff : base + i - (base + wholeSectors d) = i - wholeSectors d := by omega
      simp only [List.getD_eq_getElem?_getD, List.getElem?_take, hoff]
      rw [if_pos (by omega)]
  · intro a ha
    rw [writtenSector, haddr, ← hwhole, rewrite_of_not_mem (by omega)]
    exact hd.kept a (by omega)

theorem run_cacheBytes (henv : env.Reliable) {flash : Nat → UInt8} {base len : Nat} {d buf : List UInt8}
    {s : Fls} (hbase : base % SECTOR_SIZE = 0) (hd : Written flash base d s)
    (hsector : s.gsSector = (base + d.length) / SECTOR_SIZE) (hlen : len ≤ buf.length)
    (hroom : d.length % SECTOR_SIZE + len ≤ SECTOR_SIZE) (hchip : base + d.length + len ≤ TOTAL_SIZE) :
    ∃ s', (cacheBytes env (d.length % SECTOR_SIZE) buf len).run s = .ok ((), s') ∧
      Written flash base (d ++ buf.take len) s' ∧
      s'.gsSector = (base + (d ++ buf.take len).length) / SECTOR_SIZE ∧ s'.fls_lock = s.fls_lock := by
  have hsize : SECTOR_SIZE = 4096 := rfl
  have htotal : TOTAL_SIZE = 1048576 := rfl
  have hlast := length_lastSector d
  have haddr := (sector_addr (n := d.length) hbase).1
  have hmod := (sector_addr (n := d.length) hbase).2
  have hmodle := Nat.mod_le d.length SECTOR_SIZE
  obtain ⟨m, hm, htake⟩ := hd.cache
  have hclen : (buf.take len).length = len := by
    rw [List.length_take]
    omega
  obtain ⟨m', hcopy, htake', -⟩ := Mem.memcpy_part m (c := buf) htake hlen (by omega)
  rw [List.take_length_add_append, hlast] at htake'
  rw [hlast] at hcopy
  have hsum : u32 (s.gsSecOffset + len) = d.length % SECTOR_SIZE + len := by
    rw [hd.offset]
    exact u32_of_lt (by omega)
  simp only [cacheBytes, run_bind, run_get, ok_bind, hm, hcopy, run_lift_ok, run_modify, hsum]
  by_cases hfull : d.length % SECTOR_SIZE + len < SECTOR_SIZE
  · obtain ⟨hwhole, hlast'⟩ := lastSector_append (d := d) (c := buf.take len) (by rw [hclen]; exact hfull)
    have hmod' := @sector_within (base + d.length) len (by rw [hmod]; exact hfull)
    have hoff := sector_within hfull
    rw [if_neg (Nat.not_le.mpr hfull)]
    refine ⟨_, rfl, ?_, ?_, rfl⟩
    · refine ⟨⟨m', rfl, ?_⟩, ?_, Or.inr ?_, ?_, ?_⟩
      · rw [hlast', List.length_append, hlast, hclen]
        exact htake'
      · rw [List.length_append, hclen, hoff.1]
      · rw [List.length_append, hclen, ← Nat.add_assoc, hmod'.2]
        exact hsector
      · intro i hi
        rw [hwhole] at hi
        have hlt : i < d.length := Nat.lt_of_lt_of_le hi (Nat.sub_le ..)
        rw [List.getD_append _ _ _ _ hlt]
        exact hd.programmed i hi
      · intro a ha
        rw [hwhole] at ha
        exact hd.kept a ha
    · rw [List.length_append, hclen, ← Nat.add_assoc, hmod'.2]
      exact hsector
  · have hfull : d.length % SECTOR_SIZE + len = SECTOR_SIZE := by omega
    obtain ⟨hwhole, hnext⟩ := wholeSectors_append (d := d) (c := buf.take len) (by rw [hclen]; exact hfull)
    have hmod' := @sector_full (base + d.length) len (by rw [hmod]; exact hfull)
    have hoff := sector_full hfull
    have hlength : (d ++ buf.take len).length = d.length + len := by rw [List.length_append, hclen]
    have hin : s.gsSector * SECTOR_SIZE + SECTOR_SIZE ≤ TOTAL_SIZE := by
      rw [hsector, haddr]
      omega
    obtain ⟨ops, hflush⟩ := run_flush_sector henv m'
      (s := { s with gsflscache := some m', gsSecOffset := d.length % SECTOR_SIZE + len }) hin
    obtain ⟨hprogrammed, hkept⟩ := flash_writtenSector (c := buf.take len) (m := m') hbase hd
      (by rw [List.length_append, hlast, hclen]; exact htake')
      (by rw [List.length_append, hlast, hclen]; omega)
    have hsucc : u32 (s.gsSector + 1) = (base + (d ++ buf.take len).length) / SECTOR_SIZE := by
      rw [hlength, ← Nat.add_assoc, hmod'.2, ← hsector]
      refine u32_of_lt ?_
      rw [hsize] at hin
      omega
    rw [if_pos (by omega)]
    simp only [run_bind, hflush, ok_bind, run_modify]
    refine ⟨_, rfl, ?_, hsucc, rfl⟩
    refine ⟨⟨m', rfl, ?_⟩, ?_, Or.inl rfl, ?_, ?_⟩
    · have hnil : lastSector (d ++ buf.take len) = [] := by
        rw [lastSector, hwhole, List.drop_length]
      rw [hnil]
      rfl
    · rw [hlength, hoff.1]
    · intro i hi
      rw [hwhole] at hi
      have := hprogrammed i hi
      rwa [← hsector] at this
    · intro a ha
      have := hkept a (by rw [hnext]; rwa [hwhole] at ha)
      rwa [← hsector] at this

theorem run_fastWriteLoop (henv : env.Reliable) {flash : Nat → UInt8} {base fuel : Nat}
    {d buf : List UInt8} {s : Fls} (hbase : base % SECTOR_SIZE = 0) (hd : Written flash base d s)
    (hsector : s.gsSector = (base + d.length) / SECTOR_SIZE) (hfuel : buf.length ≤ fuel)
    (hchip : base + d.length + buf.length ≤ TOTAL_SIZE) :
    ∃ s', (fastWriteLoop env fuel (d.length % SECTOR_SIZE) buf).run s = .ok ((), s') ∧
      Written flash base (d ++ buf) s' ∧ s'.gsSector = (base + (d ++ buf).length) / SECTOR_SIZE ∧
      s'.fls_lock = s.fls_lock := by
  induction fuel generalizing d buf s with
  | zero =>
    obtain rfl := List.length_eq_zero_iff.mp (Nat.le_zero.mp hfuel)
    exact ⟨s, rfl, by rwa [List.append_nil], by rwa [List.append_nil], rfl⟩
  | succ fuel ih =>
    by_cases hnil : buf.length = 0
    · obtain rfl := List.length_eq_zero_iff.mp hnil
      exact ⟨s, rfl, by rwa [List.append_nil], by rwa [List.append_nil], rfl⟩
    · have hmodlt := Nat.mod_lt d.length (show SECTOR_SIZE > 0 by decide)
      simp only [fastWriteLoop, if_neg hnil]
      generalize hround : (if buf.length > SECTOR_SIZE - d.length % SECTOR_SIZE then
        SECTOR_SIZE - d.length % SECTOR_SIZE else buf.length) = len
      have hlen : 0 < len ∧ len ≤ buf.length ∧ d.length % SECTOR_SIZE + len ≤ SECTOR_SIZE ∧
          (len = buf.length ∨ d.length % SECTOR_SIZE + len = SECTOR_SIZE) := by
        split at hround <;> omega
      obtain ⟨hpos, hle, hroom, hend⟩ := hlen
      obtain ⟨s₁, hrun, hd₁, hsector₁, hlock₁⟩ := run_cacheBytes henv hbase hd hsector hle hroom (by omega)
      rw [run_bind, hrun, ok_bind]
      have hlength : (d ++ buf.take len).length = d.length + len := by
        rw [List.length_append, List.length_take]
        omega
      obtain hend | hend := hend
      · have hrest : buf.drop len = [] := by rw [hend, List.drop_length]
        have hwhole : buf.take len = buf := by rw [hend, List.take_length]
        rw [hwhole] at hd₁ hsector₁
        refine ⟨s₁, ?_, hd₁, hsector₁, hlock₁⟩
        rw [hrest]
        cases fuel <;> rfl
      · have hoff : (d ++ buf.take len).length % SECTOR_SIZE = 0 := by rw [hlength, (sector_full hend).1]
        obtain ⟨s', hrest, hd', hsector', hlock'⟩ := ih hd₁ hsector₁
          (show (buf.drop len).length ≤ fuel by rw [List.length_drop]; omega) (by rw [hlength, List.length_drop]; omega)
        rw [hoff] at hrest
        rw [List.append_assoc, List.take_append_drop] at hd' hsector'
        exact ⟨s', hrest, hd', hsector', hlock'.trans hlock₁⟩

/-- What the chip holds after the cache has been flushed to a sector. A sector
behind the end of the chip is erased all the same, at the address it wraps to. -/
def flushedSector (flash : Nat → UInt8) (sector : Nat) (cache : Mem SECTOR_SIZE) : Nat → UInt8 :=
  if sector * SECTOR_SIZE + SECTOR_SIZE ≤ TOTAL_SIZE then writtenSector flash sector cache
  else rewrite flash (sector * SECTOR_SIZE % TOTAL_SIZE) SECTOR_SIZE fun _ => 0xff

theorem run_flush_sector_any (henv : env.Reliable) (cache : Mem SECTOR_SIZE) (s : Fls) :
    ∃ t, (tls_fls_flush_sector env cache).run s = .ok ((), t) ∧
      t.flash = flushedSector s.flash s.gsSector cache ∧ t.gsflscache = s.gsflscache ∧
      t.gsSecOffset = 0 ∧ t.fls_lock = s.fls_lock := by
  by_cases hchip : s.gsSector * SECTOR_SIZE + SECTOR_SIZE ≤ TOTAL_SIZE
  · obtain ⟨ops, hrun⟩ := run_flush_sector henv cache hchip
    rw [flushedSector, if_pos hchip]
    exact ⟨_, hrun, rfl, rfl, rfl, rfl⟩
  · have hinvalid : s.gsSector * (SECTOR_SIZE / PAGE_SIZE) ≥ TOTAL_SIZE / PAGE_SIZE ∨
        SECTOR_SIZE / PAGE_SIZE = 0 := by
      change ¬ s.gsSector * 4096 + 4096 ≤ 1048576 at hchip
      change s.gsSector * 16 ≥ 4096 ∨ 16 = 0
      omega
    rw [flushedSector, if_neg hchip]
    refine ⟨{ s.withChip (rewrite s.flash (s.gsSector * SECTOR_SIZE % TOTAL_SIZE) SECTOR_SIZE
      fun _ => 0xff) (s.operations + 1) with
        gsSecOffset := 0, flushed := s.gsSector :: s.flushed }, ?_, rfl, rfl, rfl, rfl⟩
    simp only [tls_fls_flush_sector, run_bind, run_get, ok_bind, run_erase henv, tls_fls_page_write,
      if_pos hinvalid, run_pure, run_modify]
    rfl

/-- What the chip holds after `flushOther`. -/
def flushedFlash (sector : Nat) (s : Fls) : Nat → UInt8 :=
  match s.gsflscache with
  | none => s.flash
  | some cache =>
    if sector ≠ s.gsSector ∧ s.gsSecOffset ≠ 0 then flushedSector s.flash s.gsSector cache else s.flash

/-- The bytes `d` have been written with `tls_fls_fast_write` from address `base`
on, by a driver that was in state `s₀` before. -/
structure FastWritten (s₀ : Fls) (base : Nat) (d : List UInt8) (s : Fls) : Prop where
  lock : s.fls_lock = 1
  start : d = [] → s.flash = s₀.flash ∧ s.gsflscache = s₀.gsflscache ∧ s.gsSecOffset = s₀.gsSecOffset ∧
    s.gsSector = s₀.gsSector
  written : d ≠ [] → Written (flushedFlash (base / SECTOR_SIZE) s₀) base d s
  sector : d ≠ [] → s.gsSector = (base + d.length) / SECTOR_SIZE
  tail : d.length < SECTOR_SIZE → ∀ m₀, s₀.gsflscache = some m₀ →
    ∃ m, s.gsflscache = some m ∧ m.bytes = d ++ m₀.bytes.drop d.length

theorem FastWritten.entered {s₀ : Fls} {base : Nat} {s : Fls} (hlock : s.fls_lock = 1) (hflash : s.flash = s₀.flash)
    (hcache : s.gsflscache = s₀.gsflscache) (hoffset : s.gsSecOffset = s₀.gsSecOffset) (hsector : s.gsSector = s₀.gsSector) :
    FastWritten s₀ base [] s where
  lock := hlock
  start _ := ⟨hflash, hcache, hoffset, hsector⟩
  written h := absurd rfl h
  sector h := absurd rfl h
  tail _ m₀ hm₀ := ⟨m₀, hcache.trans hm₀, rfl⟩

/-- Before the first byte is written, a cache that holds bytes of another sector
is flushed, and from then on there is nothing to flush. -/
private theorem run_flushOther (henv : env.Reliable) {s₀ s : Fls} {base : Nat} {d : List UInt8}
    (hcache : s₀.gsflscache.isSome) (hclean : s₀.gsSecOffset = 0 ∨ s₀.gsSector ≠ base / SECTOR_SIZE)
    (hd : FastWritten s₀ base d s) :
    ∃ s', (flushOther env ((base + d.length) / SECTOR_SIZE)).run { s with fls_lock := 0 } = .ok ((), s') ∧
      Written (flushedFlash (base / SECTOR_SIZE) s₀) base d s' ∧ s'.fls_lock = 0 ∧ s'.gsflscache = s.gsflscache := by
  obtain ⟨m, hm⟩ := Option.isSome_iff_exists.mp hcache
  by_cases hnil : d = []
  · obtain ⟨hflash, hcache', hoffset, hsector⟩ := hd.start hnil
    subst hnil
    rw [hm] at hcache'
    rw [List.length_nil, Nat.add_zero]
    by_cases hstale : base / SECTOR_SIZE ≠ s.gsSector ∧ s.gsSecOffset ≠ 0
    · obtain ⟨t, hflush, hflash', hcache'', hoffset', hlock⟩ :=
        run_flush_sector_any henv m { s with fls_lock := 0 }
      have hflushed : flushedFlash (base / SECTOR_SIZE) s₀ = t.flash := by
        rw [hoffset, hsector] at hstale
        simp only [flushedFlash, hm]
        rw [if_pos hstale, hflash', hflash, hsector]
      refine ⟨t, ?_, Written.start hflushed.symm ?_ hoffset', hlock, hcache''⟩
      · rw [hcache'] at hflush
        simp only [flushOther, run_bind, run_get, ok_bind, hcache', if_pos hstale]
        exact hflush
      · exact Option.isSome_iff_exists.mpr ⟨m, hcache''.trans hcache'⟩
    · have hflushed : flushedFlash (base / SECTOR_SIZE) s₀ = s.flash := by
        rw [hoffset, hsector] at hstale
        simp only [flushedFlash, hm]
        rw [if_neg hstale, hflash]
      have hzero : s.gsSecOffset = 0 := by omega
      refine ⟨{ s with fls_lock := 0 }, ?_, Written.start hflushed.symm ?_ hzero, rfl, rfl⟩
      · simp only [flushOther, run_bind, run_get, ok_bind, if_neg hstale]
        rfl
      · exact Option.isSome_iff_exists.mpr ⟨m, hcache'⟩
  · have hw := hd.written hnil
    have hsame : ¬ ((base + d.length) / SECTOR_SIZE ≠ s.gsSector ∧ s.gsSecOffset ≠ 0) :=
      fun h => h.1 (hd.sector hnil).symm
    refine ⟨{ s with fls_lock := 0 }, ?_, ⟨hw.cache, hw.offset, hw.sector, hw.programmed, hw.kept⟩, rfl, rfl⟩
    simp only [flushOther, run_bind, run_get, ok_bind, if_neg hsame]
    rfl

/-- A round that does not fill the sector is the only one. -/
private theorem run_fastWriteLoop_short {s t : Fls} {offset fuel : Nat} {buf : List UInt8} {m : Mem SECTOR_SIZE}
    (hm : s.gsflscache = some m) (hoffset : s.gsSecOffset + buf.length < SECTOR_SIZE) (hbuf : buf ≠ [])
    (hroom : offset + buf.length < SECTOR_SIZE) (h : (fastWriteLoop env (fuel + 1) offset buf).run s = .ok ((), t)) :
    ∃ m', m.memcpy offset buf buf.length = .ok m' ∧ t.gsflscache = some m' := by
  have hsize : SECTOR_SIZE = 4096 := rfl
  have hne : ¬ buf.length = 0 := fun h => hbuf (List.length_eq_zero_iff.mp h)
  have hmax : ¬ buf.length > SECTOR_SIZE - offset := by omega
  have hsum : u32 (s.gsSecOffset + buf.length) = s.gsSecOffset + buf.length := u32_of_lt (by omega)
  obtain ⟨m', hcopy, -⟩ := @Mem.memcpy_spec _ m offset _ buf (Nat.le_refl _) (Nat.le_of_lt hroom)
  refine ⟨m', hcopy, ?_⟩
  simp only [fastWriteLoop, if_neg hne, if_neg hmax, cacheBytes, run_bind, run_get, ok_bind, hm, hcopy, run_lift_ok,
    run_modify, hsum, ge_iff_le, if_neg (Nat.not_le.mpr hoffset), run_pure, List.drop_length] at h
  cases fuel with
  | zero => cases h; rfl
  | succ fuel =>
    simp only [fastWriteLoop, List.length_nil, ↓reduceIte, run_pure] at h
    cases h
    rfl

/-- A write that goes on where the last one stopped. -/
theorem run_fast_write (henv : env.Reliable) {s₀ s : Fls} {base : Nat} {d buf : List UInt8}
    (hbase : base % SECTOR_SIZE = 0) (hcache : s₀.gsflscache.isSome)
    (hclean : s₀.gsSecOffset = 0 ∨ s₀.gsSector ≠ base / SECTOR_SIZE) (hd : FastWritten s₀ base d s)
    (hbuf : buf ≠ []) (hchip : base + d.length + buf.length ≤ TOTAL_SIZE) :
    ∃ s', (tls_fls_fast_write env (base + d.length) buf).run s = .ok (TLS_FLS_STATUS_OK, s') ∧
      FastWritten s₀ base (d ++ buf) s' := by
  have hpos := List.length_pos_iff.mpr hbuf
  have hmod := (sector_addr (n := d.length) hbase).2
  have hvalid : ¬ (base + d.length ≥ TOTAL_SIZE ∨ buf.length = 0) := by omega
  have hne : d ++ buf ≠ [] := by simp [hbuf]
  have hlock := hd.lock
  obtain ⟨s₁, hflush, hw, hlock₁, hcache₁⟩ := run_flushOther henv hcache hclean hd
  have hd₁ : Written (flushedFlash (base / SECTOR_SIZE) s₀) base d
      { s₁ with gsSector := (base + d.length) / SECTOR_SIZE } :=
    ⟨hw.cache, hw.offset, Or.inr rfl, hw.programmed, hw.kept⟩
  obtain ⟨s₂, hrun, hd₂, hsector₂, hlock₂⟩ := run_fastWriteLoop henv hbase hd₁ rfl
    (Nat.le_refl buf.length) hchip
  refine ⟨{ s₂ with fls_lock := s₂.fls_lock + 1 }, ?_, ?_⟩
  · have hacquire := run_acquireLock (s := s) (by omega)
    rw [hlock] at hacquire
    simp only [tls_fls_fast_write, if_neg hvalid, run_bind, hacquire, ok_bind, Nat.sub_self, hflush,
      run_modify, hmod, hrun, releaseLock, run_pure]
  · refine ⟨?_, fun h => absurd h hne,
      fun _ => ⟨hd₂.cache, hd₂.offset, hd₂.sector, hd₂.programmed, hd₂.kept⟩, fun _ => hsector₂, fun hshort m₀ hm₀ => ?_⟩
    · simp only [hlock₂, hlock₁]
    · rw [List.length_append] at hshort ⊢
      have hmodd : d.length % SECTOR_SIZE = d.length := Nat.mod_eq_of_lt (by omega)
      obtain ⟨m, hm, hbytes⟩ := hd.tail (by omega) m₀ hm₀
      obtain ⟨fuel, hfuel⟩ := Nat.exists_eq_succ_of_ne_zero (Nat.ne_of_gt hpos)
      have hoffset : s₁.gsSecOffset = d.length := hw.offset.trans hmodd
      rw [hmodd, hfuel] at hrun
      obtain ⟨m', hcopy, hm'⟩ := run_fastWriteLoop_short
        (s := { s₁ with gsSector := (base + d.length) / SECTOR_SIZE }) (hcache₁.trans hm)
        (show s₁.gsSecOffset + buf.length < SECTOR_SIZE by omega) hbuf (by omega) hrun
      obtain ⟨-, -, hpatch⟩ := Mem.memcpy_eq_ok_iff.mp hcopy
      refine ⟨m', hm', ?_⟩
      rw [hpatch, hbytes, List.take_length]
      simp [patch, List.drop_drop]

/-- Giving the cache back writes the bytes of the last sector to the chip. -/
theorem run_fast_write_destroy (henv : env.Reliable) {flash : Nat → UInt8} {base : Nat} {d : List UInt8}
    {s : Fls} (hbase : base % SECTOR_SIZE = 0) (hd : Written flash base d s)
    (hsector : s.gsSector = (base + d.length) / SECTOR_SIZE) (hchip : base + d.length < TOTAL_SIZE) :
    ∃ s', (tls_fls_fast_write_destroy env).run s = .ok ((), s') ∧
      (∀ i < d.length, s'.flash (base + i) = d.getD i 0) ∧
      (∀ a < base, s'.flash a = flash a) ∧ s'.fls_lock = s.fls_lock ∧
      ∀ m, s.gsflscache = some m → s'.flash = writtenSector s.flash s.gsSector m := by
  have hsize : SECTOR_SIZE = 4096 := rfl
  have htotal : TOTAL_SIZE = 1048576 := rfl
  obtain ⟨m, hm, htake⟩ := hd.cache
  have hroom := Nat.mod_lt d.length (show SECTOR_SIZE > 0 by decide)
  have hin : s.gsSector * SECTOR_SIZE + SECTOR_SIZE ≤ TOTAL_SIZE := by
    rw [hsector, hsize, htotal]
    omega
  obtain ⟨ops, hflush⟩ := run_flush_sector henv m hin
  obtain ⟨hprogrammed, hkept⟩ := flash_writtenSector (c := []) (m := m) hbase hd
    (by rwa [List.append_nil]) (by rw [List.append_nil, length_lastSector]; omega)
  rw [List.append_nil, ← hsector] at hprogrammed
  rw [← hsector] at hkept
  refine ⟨{ s.withChip (writtenSector s.flash s.gsSector m) ops with
    gsSecOffset := 0, gsflscache := none, flushed := s.gsSector :: s.flushed }, ?_, hprogrammed, fun a ha => hkept a (by omega), rfl,
    fun m' hm' => congrArg (writtenSector s.flash s.gsSector) (Option.some.inj (hm.symm.trans hm'))⟩
  simp only [tls_fls_fast_write_destroy, run_bind, run_get, ok_bind, hm, hflush, run_modify]

theorem run_fls_read (henv : env.Reliable) {s : Fls} (hlock : s.fls_lock = 1) {a n : Nat}
    (hlen : n ≠ 0) (hchip : a + n ≤ TOTAL_SIZE) :
    (tls_fls_read env a n).run s = .ok ((TLS_FLS_STATUS_OK,
      (List.range n).map fun i => s.flash (a + i)), s.withChip s.flash (s.operations + 1)) := by
  have htotal : TOTAL_SIZE = 1048576 := rfl
  have hvalid : ¬ (a ≥ TOTAL_SIZE ∨ n = 0) := by omega
  have hin : ¬ u32 (a + n) > TOTAL_SIZE := by
    rw [u32_of_lt (by omega)]
    omega
  obtain ⟨flash, cache, offset, sector, lock, ops, allocs, flushed⟩ := s
  cases hlock
  simp only [tls_fls_read, if_neg hvalid, if_neg hin, run_bind, ok_bind, run_pure,
    run_acquireLock (s := ⟨flash, cache, offset, sector, 1, ops, allocs, flushed⟩) (Nat.succ_ne_zero 0),
    run_gd25qxx_read henv _ hchip, releaseLock, run_modify]
  rfl

/-- A write from the start of a sector that ends inside it changes the bytes it covers. -/
theorem run_fls_write_sector (henv : env.Reliable) {s : Fls} {k : Nat} (halloc : env.alloc s.allocations = true)
    (hlock : s.fls_lock = 1) (hchip : k * SECTOR_SIZE + SECTOR_SIZE ≤ TOTAL_SIZE) {buf : List UInt8} (hbuf : buf ≠ [])
    (hfit : buf.length ≤ SECTOR_SIZE) :
    ∃ s', (tls_fls_write env (k * SECTOR_SIZE) buf).run s = .ok (TLS_FLS_STATUS_OK, s') ∧
      s'.flash = rewrite s.flash (k * SECTOR_SIZE) buf.length (fun i => buf.getD i 0) ∧ s'.fls_lock = 1 ∧
      s'.allocations = s.allocations + 1 := by
  have hpos := List.length_pos_iff.mpr hbuf
  have htotal : TOTAL_SIZE = 1048576 := rfl
  have hsize : SECTOR_SIZE = 4096 := rfl
  have hk : k < 256 := by
    rw [hsize, htotal] at hchip
    omega
  have hdiv : k * SECTOR_SIZE / SECTOR_SIZE = k := Nat.mul_div_cancel _ (by decide)
  have hmod : k * SECTOR_SIZE % SECTOR_SIZE = 0 := Nat.mul_mod_left _ _
  have hvalid : ¬ (k * SECTOR_SIZE ≥ TOTAL_SIZE ∨ buf.length = 0) := by omega
  have hin : ¬ u32 (k * SECTOR_SIZE + buf.length) > TOTAL_SIZE := by
    rw [u32_of_lt (by omega)]
    omega
  have hsectors : u32 (u32Sub (k * SECTOR_SIZE + buf.length) 1 / SECTOR_SIZE + 4294967296 - k + 1) = 1 := by
    have hlast : (k * SECTOR_SIZE + buf.length - 1) / SECTOR_SIZE = k := by
      rw [hsize] at hfit ⊢
      omega
    rw [u32Sub_of_le (by omega) (by omega), hlast]
    unfold u32
    omega
  have haddr : u32 ((k + 0) * SECTOR_SIZE) = k * SECTOR_SIZE := u32_of_lt (by rw [Nat.add_zero]; omega)
  obtain ⟨flash, cache, offset, sector, lock, ops, allocs, flushed⟩ := s
  cases hlock
  change env.alloc allocs = true at halloc
  generalize hbytes : ((List.range SECTOR_SIZE).map fun i => flash (k * SECTOR_SIZE + i)) = bytes
  have hlen : bytes.length = SECTOR_SIZE := by
    rw [← hbytes, List.length_map, List.length_range]
  have hread : (gd25qxx_read env (k * SECTOR_SIZE) SECTOR_SIZE).run
      ⟨flash, cache, offset, sector, 0, ops, allocs + 1, flushed⟩ = .ok ((TLS_FLS_STATUS_OK, bytes),
        ⟨flash, cache, offset, sector, 0, ops + 1, allocs + 1, flushed⟩) := by
    rw [← hbytes]
    exact run_gd25qxx_read henv ⟨flash, cache, offset, sector, 0, ops, allocs + 1, flushed⟩ hchip
  obtain ⟨m₁, hstore, hm₁⟩ := (Mem.fill SECTOR_SIZE 0).store_spec (show 0 + bytes.length ≤ SECTOR_SIZE by omega)
  obtain ⟨m₂, hcopy, hm₂⟩ := @Mem.memcpy_spec _ m₁ 0 _ buf (Nat.le_refl _) (by omega)
  have hcontent : m₂.bytes = buf ++ bytes.drop buf.length := by
    have hnil : (Mem.fill SECTOR_SIZE 0).bytes.drop SECTOR_SIZE = [] :=
      List.drop_eq_nil_of_le (Nat.le_of_eq (Mem.length_bytes _))
    rw [hm₂, hm₁, patch, patch]
    simp [hlen, hnil]
  obtain ⟨ops', hwrite⟩ := run_page_write_erased henv m₂
    ⟨flash, cache, offset, sector, 0, ops + 1, allocs + 1, flushed⟩ hchip (ops + 2)
  refine ⟨⟨writtenSector flash k m₂, cache, offset, sector, 1, ops', allocs + 1, flushed⟩, ?_, ?_, rfl, rfl⟩
  · simp only [tls_fls_write, if_neg hvalid, if_neg hin, run_bind, ok_bind, run_pure,
      run_acquireLock (s := ⟨flash, cache, offset, sector, 1, ops, allocs, flushed⟩) (Nat.succ_ne_zero 0),
      tls_mem_alloc, run_get, run_set, halloc, hsectors, writeSectors, Bool.not_true,
      Bool.false_eq_true, ↓reduceIte, hdiv, haddr, hread, ne_eq, not_true, hstore, run_lift_ok, Nat.sub_self,
      hmod, hcopy]
    simp only [and_false, ↓reduceIte, run_bind, run_lift_ok, ok_bind, run_pure, Nat.add_zero,
      run_erase henv, not_true]
    rw [hwrite]
    rfl
  · funext a
    change writtenSector flash k m₂ a = _
    rw [writtenSector]
    by_cases hsector : k * SECTOR_SIZE ≤ a ∧ a < k * SECTOR_SIZE + SECTOR_SIZE
    · rw [rewrite_of_mem hsector, hcontent]
      by_cases hwritten : k * SECTOR_SIZE ≤ a ∧ a < k * SECTOR_SIZE + buf.length
      · rw [rewrite_of_mem hwritten, List.getD_append _ _ _ _ (by omega)]
      · rw [rewrite_of_not_mem hwritten, List.getD_append_right _ _ _ _ (by omega), ← hbytes]
        simp only [List.getD_eq_getElem?_getD, List.getElem?_drop]
        rw [Nat.add_sub_cancel' (by omega), List.getElem?_map, List.getElem?_range (by omega)]
        exact congrArg flash (Nat.add_sub_cancel' hsector.1)
    · rw [rewrite_of_not_mem hsector, rewrite_of_not_mem (by omega)]

/-- A write inside the first sector changes the bytes it covers. -/
theorem run_fls_write_head (henv : env.Reliable) (halloc : ∀ n, env.alloc n = true) {s : Fls}
    (hlock : s.fls_lock = 1) (buf : List UInt8) (hbuf : buf ≠ []) (hfit : buf.length ≤ SECTOR_SIZE) :
    ∃ s', (tls_fls_write env 0 buf).run s = .ok (TLS_FLS_STATUS_OK, s') ∧
      (∀ a, s'.flash a = if a < buf.length then buf.getD a 0 else s.flash a) ∧ s'.fls_lock = 1 := by
  obtain ⟨s', hrun, hflash, hlock', -⟩ := @run_fls_write_sector _ henv _ 0 (halloc _) hlock (by decide) _ hbuf hfit
  rw [Nat.zero_mul] at hrun hflash
  refine ⟨s', hrun, fun a => ?_, hlock'⟩
  rw [hflash]
  simp [rewrite]

end ZCloud
