import ZCloud.Drivers.FastWrite

open Memory Program

namespace ZCloud

/-- The `len` bytes of the chip from `addr` on. -/
def chipBytes (flash : Nat → UInt8) (addr len : Nat) : List UInt8 := (List.range len).map fun i => flash (addr + i)

@[simp]
theorem length_chipBytes (flash : Nat → UInt8) (addr len : Nat) : (chipBytes flash addr len).length = len := by
  simp [chipBytes]

theorem take_chipBytes (flash : Nat → UInt8) (addr : Nat) {n len : Nat} (h : n ≤ len) :
    (chipBytes flash addr len).take n = chipBytes flash addr n := by
  rw [chipBytes, chipBytes, ← List.map_take, List.take_range, Nat.min_eq_left h]

theorem drop_chipBytes (flash : Nat → UInt8) (addr k len : Nat) :
    (chipBytes flash addr len).drop k = chipBytes flash (addr + k) (len - k) := by
  refine List.ext_getElem (by simp) fun i hi _ => ?_
  simp [chipBytes, Nat.add_assoc]

/-- What has been written is read back. -/
theorem chipBytes_rewrite (flash : Nat → UInt8) (addr : Nat) (buf : List UInt8) {len : Nat} (hlen : len ≤ buf.length) :
    chipBytes (rewrite flash addr buf.length fun i => buf.getD i 0) addr len = buf.take len := by
  refine List.ext_getElem (by simp [hlen]) fun i hi _ => ?_
  rw [length_chipBytes] at hi
  simp only [chipBytes, List.getElem_map, List.getElem_range, List.getElem_take]
  rw [rewrite_of_mem ⟨by omega, by omega⟩, Nat.add_sub_cancel_left, List.getD_eq_getElem _ _ (by omega)]

/-- A write leaves what lies outside of it. -/
theorem chipBytes_rewrite_of_disjoint {flash f : Nat → UInt8} {addr len addr' len' : Nat}
    (h : addr' + len' ≤ addr ∨ addr + len ≤ addr') :
    chipBytes (rewrite flash addr len f) addr' len' = chipBytes flash addr' len' := by
  refine List.map_congr_left fun i hi => ?_
  rw [List.mem_range] at hi
  exact rewrite_of_not_mem (by omega)

/-- What the driver of the chip is asked for. -/
inductive FlsOp where
  | read (addr len : Nat)
  | erase (sector : Nat)
  | page_write (page : Nat) (buf : List UInt8)

namespace FlsOp

/-- The chip after an operation. -/
def apply (flash : Nat → UInt8) : FlsOp → Nat → UInt8
  | .read _ _ => flash
  | .erase sector => rewrite flash (sector * SECTOR_SIZE % TOTAL_SIZE) SECTOR_SIZE fun _ => 0xff
  | .page_write page buf =>
    rewrite flash (page * PAGE_SIZE % TOTAL_SIZE) PAGE_SIZE fun i =>
      flash (page * PAGE_SIZE % TOTAL_SIZE + i) &&& buf.getD i 0

/-- The chip after an operation that fails, `left` in the bytes it was about. -/
def fail (flash left : Nat → UInt8) : FlsOp → Nat → UInt8
  | .read _ _ => flash
  | .erase sector => rewrite flash (sector * SECTOR_SIZE % TOTAL_SIZE) SECTOR_SIZE left
  | .page_write page _ => rewrite flash (page * PAGE_SIZE % TOTAL_SIZE) PAGE_SIZE left

end FlsOp

/-- Makes operations one after another until one fails: whether none does, and
the state it ends in. -/
def perform (env : FlsEnv) : List FlsOp → Fls → Bool × Fls
  | [], s => (true, s)
  | op :: ops, s =>
    match env.io s.operations with
    | none => perform env ops (s.withChip (op.apply s.flash) (s.operations + 1))
    | some left => (false, s.withChip (op.fail s.flash left) (s.operations + 1))

/-- A driver and a heap that never fail. -/
def soundDriver : FlsEnv := ⟨fun _ => none, fun _ => true, fun _ => 0⟩

/-- The driver once it has been installed. -/
def Fls.installed (flash : Nat → UInt8) : Fls := ⟨flash, none, 0, 0, 1, 0, 0, []⟩

/-- The status of operations of which none fails, or one. -/
def ioStatus (done : Bool) : TLS_FLS_STATUS := if done then TLS_FLS_STATUS_OK else TLS_FLS_STATUS_EIO

variable {env : FlsEnv} {s : Fls} {ops ops₁ ops₂ : List FlsOp}

theorem perform_append (env : FlsEnv) (ops₁ ops₂ : List FlsOp) (s : Fls) :
    perform env (ops₁ ++ ops₂) s =
      if (perform env ops₁ s).1 then perform env ops₂ (perform env ops₁ s).2 else perform env ops₁ s := by
  induction ops₁ generalizing s with
  | nil => rfl
  | cons op ops₁ ih =>
    rw [List.cons_append, perform, perform]
    cases env.io s.operations with
    | none => exact ih _
    | some left => rfl

/-- Operations change nothing but the chip. -/
theorem perform_eq_withChip (env : FlsEnv) (ops : List FlsOp) (s : Fls) :
    (perform env ops s).2 = s.withChip (perform env ops s).2.flash (perform env ops s).2.operations := by
  induction ops generalizing s with
  | nil => rfl
  | cons op ops ih =>
    rw [perform]
    cases env.io s.operations with
    | none => exact (ih _).trans (Fls.withChip_withChip ..)
    | some left => rfl

/-- The operations that are made when none of them fails. -/
theorem perform_of_none (h : ∀ j < ops.length, env.io (s.operations + j) = none) :
    perform env ops s = (true, s.withChip (ops.foldl FlsOp.apply s.flash) (s.operations + ops.length)) := by
  induction ops generalizing s with
  | nil => rfl
  | cons op ops ih =>
    have hfirst := h 0 (Nat.succ_pos _)
    have hrest : ∀ j < ops.length,
        env.io ((s.withChip (op.apply s.flash) (s.operations + 1)).operations + j) = none := by
      intro j hj
      have := h (j + 1) (Nat.succ_lt_succ hj)
      rwa [Nat.add_comm j, ← Nat.add_assoc] at this
    rw [Nat.add_zero] at hfirst
    rw [perform, hfirst]
    dsimp only
    rw [ih hrest, List.foldl_cons, List.length_cons, Nat.add_comm ops.length, ← Nat.add_assoc]
    rfl

/-- The operations that are made when `op` is the first that fails. -/
theorem perform_of_some {op : FlsOp} {left : Nat → UInt8} (h : ∀ j < ops₁.length, env.io (s.operations + j) = none)
    (hfail : env.io (s.operations + ops₁.length) = some left) :
    perform env (ops₁ ++ op :: ops₂) s =
      (false, s.withChip (op.fail (ops₁.foldl FlsOp.apply s.flash) left) (s.operations + ops₁.length + 1)) := by
  rw [perform_append, perform_of_none h]
  dsimp only
  rw [if_pos rfl, perform]
  change (match env.io (s.operations + ops₁.length) with | none => _ | some _ => _) = _
  rw [hfail]
  rfl

theorem perform_true_iff : (perform env ops s).1 = true ↔ ∀ j < ops.length, env.io (s.operations + j) = none := by
  constructor
  · induction ops generalizing s with
    | nil => exact fun _ j hj => absurd hj (Nat.not_lt_zero _)
    | cons op ops ih =>
      rw [perform]
      cases hio : env.io s.operations with
      | none =>
        intro h j hj
        cases j with
        | zero => exact hio
        | succ j =>
          have := ih h j (Nat.lt_of_succ_lt_succ hj)
          rwa [Nat.add_comm j, ← Nat.add_assoc]
      | some left => exact nofun
  · intro h
    rw [perform_of_none h]

/-- Reading makes one operation. -/
theorem run_read_any (env : FlsEnv) (s : Fls) {addr len : Nat} (hchip : addr + len ≤ TOTAL_SIZE) :
    (gd25qxx_read env addr len).run s = match env.io s.operations with
      | none => .ok ((TLS_FLS_STATUS_OK, chipBytes s.flash addr len), s.withChip s.flash (s.operations + 1))
      | some left => .ok (( TLS_FLS_STATUS_EIO, (List.range len).map left), s.withChip s.flash (s.operations + 1)) := by
  have hbytes : ((List.range len).map fun i => s.flash ((addr + i) % TOTAL_SIZE)) = chipBytes s.flash addr len := by
    refine List.map_congr_left fun i hi => ?_
    rw [Nat.mod_eq_of_lt (Nat.lt_of_lt_of_le (Nat.add_lt_add_left (List.mem_range.mp hi) _) hchip)]
  simp only [gd25qxx_read, nextIo, run_bind, run_get, run_set, ok_bind, run_pure, hbytes]
  cases env.io s.operations <;> rfl

/-- The operations of `writePages`. -/
def pageWrites (page : Nat) : Nat → List UInt8 → List FlsOp
  | 0, _ => []
  | count + 1, buf => .page_write page (buf.take PAGE_SIZE) :: pageWrites (page + 1) count (buf.drop PAGE_SIZE)

theorem length_pageWrites (page count : Nat) (buf : List UInt8) : (pageWrites page count buf).length = count := by
  induction count generalizing page buf with
  | zero => rfl
  | succ count ih => rw [pageWrites, List.length_cons, ih]

theorem take_pageWrites (page : Nat) {k count : Nat} (buf : List UInt8) (h : k ≤ count) :
    (pageWrites page count buf).take k = pageWrites page k buf := by
  induction k generalizing page count buf with
  | zero => rfl
  | succ k ih =>
    obtain ⟨count, rfl⟩ : ∃ n, count = n + 1 := ⟨count - 1, by omega⟩
    rw [pageWrites, List.take_succ_cons, ih _ _ (Nat.le_of_succ_le_succ h), pageWrites]

theorem run_writePages_any (env : FlsEnv) (page count : Nat) (buf : List UInt8) (s : Fls) :
    (writePages env page count buf).run s =
      .ok (ioStatus (perform env (pageWrites page count buf) s).1, (perform env (pageWrites page count buf) s).2) := by
  induction count generalizing page buf s with
  | zero => rfl
  | succ count ih =>
    simp only [writePages, pageWrites, perform, gd25qxx_page_write, nextIo, run_bind, run_get, run_set, ok_bind, run_pure]
    cases env.io s.operations with
    | none =>
      simp only [run_bind, run_modify, ok_bind, run_pure, ne_eq, not_true_eq_false, if_false]
      exact ih _ _ _
    | some left =>
      simp only [run_bind, run_modify, ok_bind, run_pure]
      rfl

/-- Pages of a sector programmed after it has been erased: the first `count` of them
hold what was to be written. -/
theorem foldl_pageWrites (page count : Nat) (buf : List UInt8) (flash : Nat → UInt8)
    (hchip : (page + count) * PAGE_SIZE ≤ TOTAL_SIZE) :
    (pageWrites page count buf).foldl FlsOp.apply flash =
      rewrite flash (page * PAGE_SIZE) (count * PAGE_SIZE) fun i => flash (page * PAGE_SIZE + i) &&& buf.getD i 0 := by
  obtain ⟨ops, hrun⟩ := @run_writePages soundDriver (fun _ => rfl) page count buf (Fls.installed flash) hchip
  have hall : ∀ j < (pageWrites page count buf).length,
      soundDriver.io ((Fls.installed flash).operations + j) = none := fun _ _ => rfl
  rw [run_writePages_any, perform_of_none hall] at hrun
  exact congrArg Fls.flash (congrArg Prod.snd (Except.ok.inj hrun))

/-- The operations by which `cache` gets to a sector. -/
def sectorWrites (sector : Nat) (cache : List UInt8) : List FlsOp :=
  .erase sector :: pageWrites (sector * (SECTOR_SIZE / PAGE_SIZE)) (SECTOR_SIZE / PAGE_SIZE) cache

/-- The operations of one round of the loop over the sectors. -/
def sectorRound (sector : Nat) (cache : List UInt8) : List FlsOp :=
  .read (sector * SECTOR_SIZE) SECTOR_SIZE :: sectorWrites sector cache

theorem length_sectorRound (sector : Nat) (cache : List UInt8) : (sectorRound sector cache).length = 18 := by
  rw [sectorRound, sectorWrites, List.length_cons, List.length_cons, length_pageWrites]
  rfl

theorem run_fls_page_write_any (env : FlsEnv) {sector : Nat} (hsector : sector < 256) (buf : List UInt8) (s : Fls) :
    (tls_fls_page_write env (sector * (SECTOR_SIZE / PAGE_SIZE)) buf (SECTOR_SIZE / PAGE_SIZE)).run s =
      (writePages env (sector * (SECTOR_SIZE / PAGE_SIZE)) (SECTOR_SIZE / PAGE_SIZE) buf).run s := by
  have hpages : SECTOR_SIZE / PAGE_SIZE = 16 := rfl
  have htotal : TOTAL_SIZE / PAGE_SIZE = 4096 := rfl
  rw [tls_fls_page_write, hpages, htotal, if_neg (by omega), if_neg (by omega)]

/-- A sector that has been erased and whose first pages have been programmed. -/
theorem foldl_sectorWrites_take {sector k : Nat} (hsector : sector < 256) (cache : List UInt8) (flash : Nat → UInt8)
    (hk : k ≤ SECTOR_SIZE / PAGE_SIZE) :
    ((sectorWrites sector cache).take (k + 1)).foldl FlsOp.apply flash =
      rewrite flash (sector * SECTOR_SIZE) SECTOR_SIZE fun i => if i < k * PAGE_SIZE then cache.getD i 0 else 0xff := by
  have hsize : SECTOR_SIZE = 4096 := rfl
  have hpage : PAGE_SIZE = 256 := rfl
  have htotal : TOTAL_SIZE = 1048576 := rfl
  have hpages : SECTOR_SIZE / PAGE_SIZE = 16 := rfl
  have haddr : sector * SECTOR_SIZE % TOTAL_SIZE = sector * SECTOR_SIZE := Nat.mod_eq_of_lt (by rw [hsize, htotal]; omega)
  have hdone : k * PAGE_SIZE ≤ SECTOR_SIZE := by
    rw [hpage, hsize]
    omega
  have hstart : sector * (SECTOR_SIZE / PAGE_SIZE) * PAGE_SIZE = sector * SECTOR_SIZE := Nat.mul_assoc ..
  rw [sectorWrites, List.take_succ_cons, take_pageWrites _ _ hk, List.foldl_cons,
    foldl_pageWrites _ _ _ _ (by rw [Nat.add_mul, hstart, hsize, hpage, htotal]; omega), hstart, FlsOp.apply, haddr]
  funext a
  by_cases hin : sector * SECTOR_SIZE ≤ a ∧ a < sector * SECTOR_SIZE + SECTOR_SIZE
  · have hback : sector * SECTOR_SIZE + (a - sector * SECTOR_SIZE) = a := Nat.add_sub_cancel' hin.1
    rw [@rewrite_of_mem flash _ _ _ _ hin]
    by_cases hpart : a - sector * SECTOR_SIZE < k * PAGE_SIZE
    · rw [rewrite_of_mem ⟨hin.1, by omega⟩, hback, rewrite_of_mem hin, if_pos hpart]
      exact (UInt8.and_comm _ _).trans UInt8.and_neg_one
    · rw [rewrite_of_not_mem (by omega), rewrite_of_mem hin, if_neg hpart]
  · rw [rewrite_of_not_mem (by omega), rewrite_of_not_mem hin, rewrite_of_not_mem hin]

/-- A sector after one round. -/
theorem foldl_sectorRound {sector : Nat} (hsector : sector < 256) (cache : List UInt8) (flash : Nat → UInt8) :
    (sectorRound sector cache).foldl FlsOp.apply flash =
      rewrite flash (sector * SECTOR_SIZE) SECTOR_SIZE fun i => cache.getD i 0 := by
  have hwhole : (sectorWrites sector cache).take (SECTOR_SIZE / PAGE_SIZE + 1) = sectorWrites sector cache :=
    List.take_of_length_le (Nat.le_of_eq (by rw [sectorWrites, List.length_cons, length_pageWrites]))
  have htake := foldl_sectorWrites_take hsector cache flash (Nat.le_refl _)
  rw [hwhole] at htake
  rw [sectorRound, List.foldl_cons]
  change (sectorWrites sector cache).foldl FlsOp.apply flash = _
  rw [htake]
  funext a
  by_cases hin : sector * SECTOR_SIZE ≤ a ∧ a < sector * SECTOR_SIZE + SECTOR_SIZE
  · rw [rewrite_of_mem hin, rewrite_of_mem hin, if_pos (by change _ < 4096; unfold SECTOR_SIZE at hin ⊢; omega)]
  · rw [rewrite_of_not_mem hin, rewrite_of_not_mem hin]

end ZCloud
