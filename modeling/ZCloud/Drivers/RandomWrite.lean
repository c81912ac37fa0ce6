import ZCloud.Drivers.Operations

open Memory Program

namespace ZCloud

/-- Where in its sector `tls_fls_write` puts what it writes to the sector `i`, and
how many of the `write_bytes` bytes that are left. -/
def piece (addr sector_num i write_bytes : Nat) : Nat × Nat :=
  if i = 0 ∧ i ≠ sector_num - 1 then (addr % SECTOR_SIZE, SECTOR_SIZE - addr % SECTOR_SIZE)
  else if i = sector_num - 1 then (addr % SECTOR_SIZE, write_bytes)
  else (0, SECTOR_SIZE)

/-- The bytes of a sector with a piece of `buf` in them. -/
def filled (flash : Nat → UInt8) (sector : Nat) (p : Nat × Nat) (buf : List UInt8) : List UInt8 :=
  patch (chipBytes flash (sector * SECTOR_SIZE) SECTOR_SIZE) p.1 (buf.take p.2)

/-- The operations of `writeSectors`. -/
def writeOps (flash : Nat → UInt8) (addr sector_addr sector_num : Nat) : (left i : Nat) → (buf : List UInt8) →
    (write_bytes : Nat) → List FlsOp
  | 0, _, _, _ => []
  | left + 1, i, buf, write_bytes =>
    let p := piece addr sector_num i write_bytes
    sectorRound (sector_addr + i) (filled flash (sector_addr + i) p buf) ++
      writeOps flash addr sector_addr sector_num left (i + 1) (buf.drop p.2) (write_bytes - p.2)

variable {env : FlsEnv} {s t : Fls} {addr sector_addr sector_num left i write_bytes : Nat} {cache : Mem SECTOR_SIZE}
  {buf : List UInt8}

theorem run_erase_any (env : FlsEnv) (sector : Nat) (s : Fls) :
    (gd25qxx_erase env sector).run s = match env.io s.operations with
      | none => .ok (TLS_FLS_STATUS_OK, s.withChip (FlsOp.apply s.flash (.erase sector)) (s.operations + 1))
      | some left => .ok ( TLS_FLS_STATUS_EIO, s.withChip (FlsOp.fail s.flash left (.erase sector)) (s.operations + 1)) := by
  simp only [gd25qxx_erase, nextIo, run_bind, run_get, run_set, ok_bind, run_pure]
  cases env.io s.operations <;> rfl

/-- The copy of a piece to the cache, whichever sector it is for. -/
theorem run_copyPiece {α : Type} (cache : Mem SECTOR_SIZE) (f : Mem SECTOR_SIZE × Nat → Prog Fls α) (s : Fls) :
    (if i = 0 ∧ i ≠ sector_num - 1 then do
        let m ← cache.memcpy (addr % SECTOR_SIZE) buf (SECTOR_SIZE - addr % SECTOR_SIZE)
        let r ← pure (m, SECTOR_SIZE - addr % SECTOR_SIZE)
        f r
      else if i = sector_num - 1 then do
        let m ← cache.memcpy (addr % SECTOR_SIZE) buf write_bytes
        let r ← pure (m, write_bytes)
        f r
      else do
        let m ← cache.memcpy 0 buf SECTOR_SIZE
        let r ← pure (m, SECTOR_SIZE)
        f r : Prog Fls α).run s =
      cache.memcpy (piece addr sector_num i write_bytes).1 buf (piece addr sector_num i write_bytes).2 >>= fun m =>
        (f (m, (piece addr sector_num i write_bytes).2)).run s := by
  have hbind : ∀ off len, (do
      let m ← cache.memcpy off buf len
      let r ← pure (m, len)
      f r : Prog Fls α).run s = cache.memcpy off buf len >>= fun m => (f (m, len)).run s := by
    intro off len
    cases cache.memcpy off buf len <;> rfl
  unfold piece
  split
  · exact hbind _ _
  · split
    · exact hbind _ _
    · exact hbind _ _

/-- The end of a round: the cache is written to its sector. -/
theorem run_writeCache (env : FlsEnv) {sector : Nat} (hsector : sector < 256) (cache : Mem SECTOR_SIZE)
    (next : Prog Fls TLS_FLS_STATUS) (s : Fls) :
    (do
      let err ← gd25qxx_erase env sector
      if err ≠ TLS_FLS_STATUS_OK then
        releaseLock
        pure err
      else do
        let err ← tls_fls_page_write env (sector * (SECTOR_SIZE / PAGE_SIZE)) cache.bytes (SECTOR_SIZE / PAGE_SIZE)
        if err ≠ TLS_FLS_STATUS_OK then
          releaseLock
          pure err
        else next : Prog Fls TLS_FLS_STATUS).run s =
      let r := perform env (sectorWrites sector cache.bytes) s
      if r.1 then next.run r.2 else .ok ( TLS_FLS_STATUS_EIO, { r.2 with fls_lock := r.2.fls_lock + 1 }) := by
  rw [run_bind, run_erase_any, sectorWrites, perform]
  cases env.io s.operations with
  | some left => rfl
  | none =>
    dsimp only
    rw [ok_bind]
    dsimp only
    rw [if_neg (fun h => h rfl), run_bind, run_fls_page_write_any env hsector, run_writePages_any, ok_bind]
    dsimp only
    cases (perform env (pageWrites (sector * (SECTOR_SIZE / PAGE_SIZE)) (SECTOR_SIZE / PAGE_SIZE) cache.bytes)
      (s.withChip (FlsOp.apply s.flash (.erase sector)) (s.operations + 1))).1 with
    | true => rfl
    | false => rfl

/-- One round of the loop over the sectors, for a piece that fits the sector. -/
theorem run_writeSectors_succ (env : FlsEnv) (s : Fls) (cache : Mem SECTOR_SIZE) (left : Nat)
    (hsector : sector_addr + i < 256) (hbuf : (piece addr sector_num i write_bytes).2 ≤ buf.length)
    (hfits : (piece addr sector_num i write_bytes).1 + (piece addr sector_num i write_bytes).2 ≤ SECTOR_SIZE) :
    ∃ cache', (writeSectors env addr sector_addr sector_num (left + 1) i cache buf write_bytes).run s =
      let r := perform env
        (sectorRound (sector_addr + i) (filled s.flash (sector_addr + i) (piece addr sector_num i write_bytes) buf)) s
      if r.1 then
        (writeSectors env addr sector_addr sector_num left (i + 1) cache'
          (buf.drop (piece addr sector_num i write_bytes).2) (write_bytes - (piece addr sector_num i write_bytes).2)).run r.2
      else .ok ( TLS_FLS_STATUS_EIO, { r.2 with fls_lock := r.2.fls_lock + 1 }) := by
  have hsize : SECTOR_SIZE = 4096 := rfl
  have htotal : TOTAL_SIZE = 1048576 := rfl
  have hsum : (sector_addr + i) * SECTOR_SIZE + SECTOR_SIZE ≤ TOTAL_SIZE := by
    rw [hsize, htotal]
    omega
  have haddr : u32 ((sector_addr + i) * SECTOR_SIZE) = (sector_addr + i) * SECTOR_SIZE := u32_of_lt (by omega)
  have hlen := length_chipBytes s.flash ((sector_addr + i) * SECTOR_SIZE) SECTOR_SIZE
  obtain ⟨m₁, hstore, hm₁⟩ := cache.store_spec (show 0 + (chipBytes s.flash ((sector_addr + i) * SECTOR_SIZE)
    SECTOR_SIZE).length ≤ SECTOR_SIZE by omega)
  have hm₁' : m₁.bytes = chipBytes s.flash ((sector_addr + i) * SECTOR_SIZE) SECTOR_SIZE := by
    have hnil : cache.bytes.drop (0 + SECTOR_SIZE) = [] := List.drop_eq_nil_of_le (by rw [cache.length_bytes]; omega)
    rw [hm₁, patch, hlen, hnil, List.take_zero, List.nil_append, List.append_nil]
  obtain ⟨m₂, hcopy, hm₂⟩ := m₁.memcpy_spec hbuf hfits
  rw [hm₁'] at hm₂
  refine ⟨m₂, ?_⟩
  rw [writeSectors, haddr, run_bind, run_read_any env s hsum, sectorRound, perform]
  cases hread : env.io s.operations with
  | some unread =>
    rw [ok_bind]
    rfl
  | none =>
    dsimp only
    rw [ok_bind]
    dsimp only
    rw [if_neg (fun h => h rfl), run_bind, hstore, run_lift_ok, ok_bind]
    dsimp only
    rw [run_copyPiece, hcopy, ok_bind]
    dsimp only
    rw [run_writeCache env hsector, filled, hm₂]
    rfl

/-- The pieces that are left, of a buffer with `len` bytes, fit their sectors. -/
def PiecesFit (addr sector_num : Nat) : (left i len write_bytes : Nat) → Prop
  | 0, _, _, _ => True
  | left + 1, i, len, write_bytes =>
    let p := piece addr sector_num i write_bytes
    p.2 ≤ len ∧ p.1 + p.2 ≤ SECTOR_SIZE ∧ PiecesFit addr sector_num left (i + 1) (len - p.2) (write_bytes - p.2)

/-- The operations depend on the sectors that are to be written only. -/
theorem writeOps_congr {flash flash' : Nat → UInt8}
    (h : ∀ a, (sector_addr + i) * SECTOR_SIZE ≤ a → flash a = flash' a) :
    writeOps flash addr sector_addr sector_num left i buf write_bytes =
      writeOps flash' addr sector_addr sector_num left i buf write_bytes := by
  induction left generalizing i buf write_bytes with
  | zero => rfl
  | succ left ih =>
    have hchip : chipBytes flash ((sector_addr + i) * SECTOR_SIZE) SECTOR_SIZE =
        chipBytes flash' ((sector_addr + i) * SECTOR_SIZE) SECTOR_SIZE :=
      List.map_congr_left fun k _ => h _ (Nat.le_add_right _ _)
    rw [writeOps, writeOps, ih fun a ha => h a ?_, filled, filled, hchip]
    rw [← Nat.add_assoc, Nat.add_mul] at ha
    omega

/-- The loop over the sectors makes its operations, and gives the lock back when one fails. -/
theorem run_writeSectors (env : FlsEnv) (s : Fls) (cache : Mem SECTOR_SIZE)
    (hfits : PiecesFit addr sector_num left i buf.length write_bytes) (hchip : sector_addr + i + left ≤ 256) :
    (writeSectors env addr sector_addr sector_num left i cache buf write_bytes).run s =
      let r := perform env (writeOps s.flash addr sector_addr sector_num left i buf write_bytes) s
      .ok (ioStatus r.1, if r.1 then r.2 else { r.2 with fls_lock := r.2.fls_lock + 1 }) := by
  induction left generalizing i cache buf write_bytes s with
  | zero => rfl
  | succ left ih =>
    obtain ⟨hbuf, hpiece, hrest⟩ := hfits
    have hsector : sector_addr + i < 256 := by omega
    obtain ⟨cache', hrun⟩ := run_writeSectors_succ env s cache left hsector hbuf hpiece
    rw [hrun, writeOps]
    dsimp only
    rw [perform_append]
    cases hdone : (perform env (sectorRound (sector_addr + i)
        (filled s.flash (sector_addr + i) (piece addr sector_num i write_bytes) buf)) s).1 with
    | false =>
      simp only [Bool.false_eq_true, if_false, hdone]
      rfl
    | true =>
      have hall := perform_of_none (perform_true_iff.mp hdone)
      rw [if_pos rfl, if_pos rfl, ih _ cache' (by rw [List.length_drop]; exact hrest) (by omega)]
      have hsame := @writeOps_congr addr sector_addr sector_num left (i + 1)
        (write_bytes - (piece addr sector_num i write_bytes).2) (buf.drop (piece addr sector_num i write_bytes).2)
        (perform env (sectorRound (sector_addr + i)
          (filled s.flash (sector_addr + i) (piece addr sector_num i write_bytes) buf)) s).2.flash s.flash
        (fun a ha => by
          rw [hall, Fls.flash_withChip, foldl_sectorRound hsector]
          rw [← Nat.add_assoc, Nat.succ_mul] at ha
          exact rewrite_of_not_mem (by omega))
      rw [hsame]

/-- The bytes that `tls_fls_write` takes from a buffer of `len` bytes. -/
def clipped (addr len : Nat) : Nat := if u32 (addr + len) > TOTAL_SIZE then TOTAL_SIZE - addr else len

/-- The number of sectors that it counts. -/
def sectorCount (addr len : Nat) : Nat :=
  u32 (u32Sub (addr + clipped addr len) 1 / SECTOR_SIZE + 4294967296 - addr / SECTOR_SIZE + 1)

/-- The sector of the last byte. -/
def lastByte (addr len : Nat) : Nat := addr + min len (TOTAL_SIZE - addr) - 1

theorem clipped_eq {len : Nat} (haddr : addr < TOTAL_SIZE) (hsum : addr + len < 4294967296) :
    clipped addr len = min len (TOTAL_SIZE - addr) := by
  rw [clipped, u32_of_lt hsum]
  split <;> omega

theorem sectorCount_eq {len : Nat} (haddr : addr < TOTAL_SIZE) (hlen : len ≠ 0) (hsum : addr + len < 4294967296) :
    sectorCount addr len = lastByte addr len / SECTOR_SIZE - addr / SECTOR_SIZE + 1 ∧
      addr / SECTOR_SIZE ≤ lastByte addr len / SECTOR_SIZE ∧ lastByte addr len / SECTOR_SIZE < 256 := by
  have hsize : SECTOR_SIZE = 4096 := rfl
  have htotal : TOTAL_SIZE = 1048576 := rfl
  have hlast : addr + min len (TOTAL_SIZE - addr) - 1 = lastByte addr len := rfl
  rw [sectorCount, clipped_eq haddr hsum, u32Sub_of_le (by omega) (by omega), hlast, hsize]
  refine ⟨?_, by omega, by omega⟩
  unfold u32
  omega

/-- Behind the first sector the pieces fit if and only if the last one does. -/
theorem piecesFit_behind_first {len : Nat} (hi : i ≠ 0) (hleft : left ≠ 0) (hsum : i + left = sector_num)
    (hlen : write_bytes ≤ len) (hmany : (left - 1) * SECTOR_SIZE ≤ write_bytes) :
    PiecesFit addr sector_num left i len write_bytes ↔
      addr % SECTOR_SIZE + (write_bytes - (left - 1) * SECTOR_SIZE) ≤ SECTOR_SIZE := by
  induction left generalizing i len write_bytes with
  | zero => exact absurd rfl hleft
  | succ left ih =>
    rw [PiecesFit, piece, if_neg fun h => hi h.1]
    cases left with
    | zero =>
      rw [if_pos (by omega), PiecesFit]
      simp only [and_true]
      rw [Nat.zero_add, Nat.sub_self, Nat.zero_mul, Nat.sub_zero]
      exact ⟨fun h => h.2, fun h => ⟨hlen, h⟩⟩
    | succ left =>
      have hnext : (left + 1 + 1 - 1) * SECTOR_SIZE = SECTOR_SIZE + (left + 1 - 1) * SECTOR_SIZE := by
        rw [Nat.add_sub_cancel, Nat.add_sub_cancel, Nat.succ_mul, Nat.add_comm]
      rw [if_neg (by omega)]
      dsimp only
      rw [ih (by omega) (by omega) (by omega) (by omega) (by omega), hnext, Nat.sub_add_eq]
      exact ⟨fun h => h.2.2, fun h => ⟨by omega, by omega, h⟩⟩

/-- The pieces of a write fit if and only if it stays in one sector, or ends in its
last sector no later than where it begins in the first one counted back from the end. -/
theorem piecesFit_iff {len : Nat} (haddr : addr < TOTAL_SIZE) (hlen : len ≠ 0) (hsum : addr + len < 4294967296) :
    PiecesFit addr (sectorCount addr len) (sectorCount addr len) 0 len (clipped addr len) ↔
      lastByte addr len / SECTOR_SIZE = addr / SECTOR_SIZE ∨
        addr % SECTOR_SIZE + lastByte addr len % SECTOR_SIZE < SECTOR_SIZE := by
  have hsize : SECTOR_SIZE = 4096 := rfl
  obtain ⟨hcount, hle, -⟩ := sectorCount_eq haddr hlen hsum
  have hlast : addr + min len (TOTAL_SIZE - addr) - 1 = lastByte addr len := rfl
  rw [clipped_eq haddr hsum, hcount]
  generalize hn : lastByte addr len / SECTOR_SIZE - addr / SECTOR_SIZE = n
  rw [PiecesFit, piece, Nat.add_sub_cancel]
  cases n with
  | zero =>
    rw [if_neg (fun h => h.2 rfl), if_pos rfl, PiecesFit]
    simp only [and_true]
    rw [hsize] at hle hn ⊢
    omega
  | succ n =>
    rw [if_pos ⟨rfl, by omega⟩]
    dsimp only
    have hpast : (n + 1 - 1) * SECTOR_SIZE = 4096 * n := by rw [Nat.add_sub_cancel, hsize, Nat.mul_comm]
    rw [hsize] at hle hn
    have hmany : 4096 * n ≤ min len (TOTAL_SIZE - addr) - (SECTOR_SIZE - addr % SECTOR_SIZE) := by
      rw [hsize]
      omega
    rw [piecesFit_behind_first (by omega) (by omega) (by omega) (by omega) (by rw [hpast]; exact hmany), hpast, hsize]
    rw [hsize] at hmany
    omega

/-- Code that leaves the lock as it is. -/
def Fls.SameLock (s t : Fls) : Prop := t.fls_lock = s.fls_lock

instance : Frame Fls.SameLock := ⟨fun _ => rfl, fun h₁ h₂ => h₂.trans h₁⟩

theorem nextIo_sameLock : Moves Fls.SameLock (nextIo env) := by
  refine moves_get_bind fun s a t h => ?_
  simp only [run_bind, run_set, ok_bind, run_pure] at h
  cases h
  rfl

theorem read_sameLock (addr len : Nat) : Moves Fls.SameLock (gd25qxx_read env addr len) := by
  refine moves_bind moves_get fun s => moves_bind nextIo_sameLock fun r => ?_
  cases r <;> exact moves_pure _

theorem erase_sameLock (sector : Nat) : Moves Fls.SameLock (gd25qxx_erase env sector) := by
  refine moves_bind nextIo_sameLock fun r => ?_
  cases r <;> exact moves_bind (moves_modify fun _ => rfl) fun _ => moves_pure _

theorem fls_page_write_sameLock (page : Nat) (buf : List UInt8) (page_cnt : Nat) :
    Moves Fls.SameLock (tls_fls_page_write env page buf page_cnt) := by
  intro s err t h
  rw [tls_fls_page_write] at h
  split at h
  · obtain ⟨-, rfl⟩ := run_pure_eq_ok.mp h
    rfl
  · rw [run_writePages_any] at h
    cases h
    rw [Fls.SameLock, perform_eq_withChip]
    rfl

/-- How the loop over the sectors ends: with the pieces in their sectors, none of them
behind the chip, or with an error and the lock given back. -/
theorem writeSectors_cases {st : TLS_FLS_STATUS}
    (h : (writeSectors env addr sector_addr sector_num left i cache buf write_bytes).run s = .ok (st, t)) :
    st = TLS_FLS_STATUS_OK ∧ PiecesFit addr sector_num left i buf.length write_bytes ∧
        (left ≠ 0 → sector_addr + i + left ≤ 256) ∨
      st ≠ TLS_FLS_STATUS_OK ∧ t.fls_lock = s.fls_lock + 1 := by
  induction left generalizing i cache buf write_bytes s with
  | zero =>
    obtain ⟨rfl, -⟩ := run_pure_eq_ok.mp h
    exact .inl ⟨rfl, trivial, fun h => absurd rfl h⟩
  | succ left ih =>
    have hreleased : ∀ {err : TLS_FLS_STATUS} {u : Fls}, err ≠ TLS_FLS_STATUS_OK → s.SameLock u →
        (do releaseLock; pure err : Prog Fls TLS_FLS_STATUS).run u = .ok (st, t) →
        st ≠ TLS_FLS_STATUS_OK ∧ t.fls_lock = s.fls_lock + 1 := by
      intro err u herr hlock hrun
      obtain ⟨_, _, hrelease, hrun⟩ := run_bind_eq_ok.mp hrun
      obtain rfl := run_modify_eq_ok.mp hrelease
      obtain ⟨rfl, rfl⟩ := run_pure_eq_ok.mp hrun
      exact ⟨herr, congrArg (· + 1) hlock⟩
    rw [writeSectors] at h
    obtain ⟨⟨err, bytes⟩, s₁, hread, hrest⟩ := run_bind_eq_ok.mp h
    have hlock₁ := read_sameLock _ _ hread
    dsimp only at hrest
    split at hrest
    · exact .inr (hreleased ‹_› hlock₁ hrest)
    · obtain ⟨m₁, s₂, hstore, hround⟩ := run_bind_eq_ok.mp hrest
      have hsame := (run_lift_eq_ok.mp hstore).2
      rw [run_copyPiece] at hround
      obtain ⟨m₂, hcopy, h⟩ := bind_eq_ok.mp hround
      rw [hsame] at h
      obtain ⟨hbuf, hfits, -⟩ := Mem.memcpy_eq_ok_iff.mp hcopy
      obtain ⟨err₂, s₃, herase, h⟩ := run_bind_eq_ok.mp h
      have hlock₂ := Frame.trans hlock₁ (erase_sameLock _ herase)
      split at h
      · exact .inr (hreleased ‹_› hlock₂ h)
      · obtain ⟨err₃, s₄, hwrite, h⟩ := run_bind_eq_ok.mp h
        have hlock₃ := Frame.trans hlock₂ (fls_page_write_sameLock _ _ _ hwrite)
        split at h
        · exact .inr (hreleased ‹_› hlock₃ h)
        · have hsector : sector_addr + i < 256 := by
            rw [tls_fls_page_write] at hwrite
            split at hwrite
            · obtain ⟨rfl, -⟩ := run_pure_eq_ok.mp hwrite
              exact absurd (fun h => by cases h) ‹¬ TLS_FLS_STATUS_EINVAL ≠ TLS_FLS_STATUS_OK›
            · have hpage : ¬ ((sector_addr + i) * 16 ≥ 4096 ∨ 16 = 0) := ‹_›
              omega
          obtain ⟨hok, hrest, hchip⟩ | ⟨herr, hlock⟩ := ih h
          · rw [List.length_drop] at hrest
            refine .inl ⟨hok, ⟨hbuf, hfits, hrest⟩, fun _ => ?_⟩
            cases left with
            | zero => omega
            | succ left =>
              have := hchip (Nat.succ_ne_zero _)
              omega
          · exact .inr ⟨herr, hlock.trans (congrArg (· + 1) hlock₃)⟩

/-- `tls_fls_write` holds the lock and has its cache. -/
def Fls.writing (s : Fls) : Fls := { s with fls_lock := s.fls_lock - 1, allocations := s.allocations + 1 }

/-- How `tls_fls_write` ends, once it has its cache. -/
theorem run_fls_write (env : FlsEnv) (hlock : s.fls_lock ≠ 0) (haddr : addr < TOTAL_SIZE) (hbuf : buf.length ≠ 0)
    (halloc : env.alloc s.allocations = true) :
    (tls_fls_write env addr buf).run s =
      ((writeSectors env addr (addr / SECTOR_SIZE) (sectorCount addr buf.length) (sectorCount addr buf.length) 0
        (Mem.fill SECTOR_SIZE 0) buf (clipped addr buf.length)).run s.writing).map fun (st, t) =>
          (st, { t with fls_lock := t.fls_lock + 1 }) := by
  have hvalid : ¬ (addr ≥ TOTAL_SIZE ∨ buf.length = 0) := by omega
  have hcache : (tls_mem_alloc env).run { s with fls_lock := s.fls_lock - 1 } = .ok (true, s.writing) := by
    rw [← halloc]
    rfl
  rw [tls_fls_write]
  dsimp only
  rw [if_neg hvalid, run_bind, run_acquireLock hlock, ok_bind]
  dsimp only
  rw [run_bind, hcache, ok_bind]
  dsimp only
  rw [if_neg (by decide), run_bind, ← clipped, ← sectorCount]
  cases (writeSectors env addr (addr / SECTOR_SIZE) (sectorCount addr buf.length) (sectorCount addr buf.length) 0
    (Mem.fill SECTOR_SIZE 0) buf (clipped addr buf.length)).run s.writing with
  | error e => rfl
  | ok r => rfl

/-- The operations of `tls_fls_write`. -/
def flsWriteOps (flash : Nat → UInt8) (addr : Nat) (buf : List UInt8) : List FlsOp :=
  writeOps flash addr (addr / SECTOR_SIZE) (sectorCount addr buf.length) (sectorCount addr buf.length) 0 buf
    (clipped addr buf.length)

/-- The write of a buffer whose pieces fit makes its operations; when one fails the lock
is given back twice. -/
theorem run_fls_write_any (env : FlsEnv) (hlock : s.fls_lock ≠ 0) (haddr : addr < TOTAL_SIZE) (hbuf : buf.length ≠ 0)
    (hsum : addr + buf.length < 4294967296) (halloc : env.alloc s.allocations = true)
    (hfits : PiecesFit addr (sectorCount addr buf.length) (sectorCount addr buf.length) 0 buf.length
      (clipped addr buf.length)) :
    (tls_fls_write env addr buf).run s =
      let r := perform env (flsWriteOps s.flash addr buf) s.writing
      .ok (ioStatus r.1, { r.2 with fls_lock := if r.1 then s.fls_lock else s.fls_lock + 1 }) := by
  obtain ⟨hcount, hle, hlast⟩ := sectorCount_eq haddr hbuf hsum
  rw [run_fls_write env hlock haddr hbuf halloc, run_writeSectors env _ _ hfits (by omega)]
  have hops : writeOps s.writing.flash addr (addr / SECTOR_SIZE) (sectorCount addr buf.length) (sectorCount addr buf.length) 0
    buf (clipped addr buf.length) = flsWriteOps s.flash addr buf := rfl
  have hlocked : (perform env (flsWriteOps s.flash addr buf) s.writing).2.fls_lock + 1 = s.fls_lock := by
    rw [perform_eq_withChip]
    exact Nat.succ_pred_eq_of_pos (Nat.pos_of_ne_zero hlock)
  rw [hops]
  generalize perform env (flsWriteOps s.flash addr buf) s.writing = r at hlocked
  obtain ⟨done, t⟩ := r
  cases done with
  | true => exact congrArg (fun lock => Except.ok (TLS_FLS_STATUS_OK, { t with fls_lock := lock })) hlocked
  | false => exact congrArg (fun lock => Except.ok ( TLS_FLS_STATUS_EIO, { t with fls_lock := lock + 1 })) hlocked

/-- The chip after one round of the loop. -/
theorem foldl_filled {flash : Nat → UInt8} {sector : Nat} {p : Nat × Nat} (hsector : sector < 256)
    (hbuf : p.2 ≤ buf.length) (hfits : p.1 + p.2 ≤ SECTOR_SIZE) :
    (sectorRound sector (filled flash sector p buf)).foldl FlsOp.apply flash =
      rewrite flash (sector * SECTOR_SIZE + p.1) p.2 fun i => buf.getD i 0 := by
  have hlen := length_chipBytes flash (sector * SECTOR_SIZE) SECTOR_SIZE
  have htake : (buf.take p.2).length = p.2 := by rw [List.length_take, Nat.min_eq_left hbuf]
  have hbefore : ((chipBytes flash (sector * SECTOR_SIZE) SECTOR_SIZE).take p.1).length = p.1 := by
    rw [List.length_take, hlen]
    omega
  rw [foldl_sectorRound hsector]
  funext a
  by_cases hin : sector * SECTOR_SIZE ≤ a ∧ a < sector * SECTOR_SIZE + SECTOR_SIZE
  · have hget : ∀ k < SECTOR_SIZE, (chipBytes flash (sector * SECTOR_SIZE) SECTOR_SIZE).getD k 0 =
        flash (sector * SECTOR_SIZE + k) := by
      intro k hk
      rw [List.getD_eq_getElem _ _ (by rw [hlen]; exact hk)]
      simp [chipBytes]
    have hback : sector * SECTOR_SIZE + (a - sector * SECTOR_SIZE) = a := Nat.add_sub_cancel' hin.1
    rw [rewrite_of_mem hin, filled, patch, htake]
    by_cases hfront : a - sector * SECTOR_SIZE < p.1
    · rw [rewrite_of_not_mem (by omega), List.append_assoc, List.getD_append _ _ _ _ (by omega)]
      have htaken : ((chipBytes flash (sector * SECTOR_SIZE) SECTOR_SIZE).take p.1).getD (a - sector * SECTOR_SIZE) 0 =
          (chipBytes flash (sector * SECTOR_SIZE) SECTOR_SIZE).getD (a - sector * SECTOR_SIZE) 0 := by
        simp only [List.getD_eq_getElem?_getD, List.getElem?_take]
        rw [if_pos hfront]
      rw [htaken, hget _ (by omega), hback]
    · by_cases hpiece : a - sector * SECTOR_SIZE < p.1 + p.2
      · rw [rewrite_of_mem (by omega), List.append_assoc, List.getD_append_right _ _ _ _ (by omega),
          List.getD_append _ _ _ _ (by omega), hbefore, Nat.sub_sub]
        simp only [List.getD_eq_getElem?_getD, List.getElem?_take]
        rw [if_pos (by omega)]
      · rw [rewrite_of_not_mem (by omega), List.getD_append_right _ _ _ _ (by rw [List.length_append]; omega),
          List.length_append, hbefore, htake]
        have hdropped : ((chipBytes flash (sector * SECTOR_SIZE) SECTOR_SIZE).drop (p.1 + p.2)).getD
            (a - sector * SECTOR_SIZE - (p.1 + p.2)) 0 =
              (chipBytes flash (sector * SECTOR_SIZE) SECTOR_SIZE).getD (a - sector * SECTOR_SIZE) 0 := by
          simp only [List.getD_eq_getElem?_getD, List.getElem?_drop]
          rw [Nat.add_sub_cancel' (by omega)]
        rw [hdropped, hget _ (by omega), hback]
  · rw [rewrite_of_not_mem hin, rewrite_of_not_mem (by omega)]

/-- Two writes one behind the other are one write. -/
theorem rewrite_rewrite (flash : Nat → UInt8) (a n m : Nat) (buf : List UInt8) :
    rewrite (rewrite flash a n fun i => buf.getD i 0) (a + n) m (fun i => (buf.drop n).getD i 0) =
      rewrite flash a (n + m) fun i => buf.getD i 0 := by
  funext b
  by_cases hfirst : a ≤ b ∧ b < a + n
  · rw [rewrite_of_not_mem (by omega), rewrite_of_mem hfirst, rewrite_of_mem (by omega)]
  · by_cases hsecond : a + n ≤ b ∧ b < a + n + m
    · rw [rewrite_of_mem hsecond, rewrite_of_mem (by omega)]
      simp only [List.getD_eq_getElem?_getD, List.getElem?_drop]
      have hoff : n + (b - (a + n)) = b - a := by omega
      rw [hoff]
    · rw [rewrite_of_not_mem hsecond, rewrite_of_not_mem hfirst, rewrite_of_not_mem (by omega)]

section

variable {flash : Nat → UInt8}

/-- What is left of the operations of a write after a round depends on the chip before it
as on the chip after it. -/
theorem writeOps_after_round {k n : Nat} {f : Nat → UInt8} (hk : k + n ≤ (sector_addr + (i + 1)) * SECTOR_SIZE) :
    writeOps flash addr sector_addr sector_num left (i + 1) buf write_bytes =
      writeOps (rewrite flash k n f) addr sector_addr sector_num left (i + 1) buf write_bytes :=
  writeOps_congr fun _ ha => (rewrite_of_not_mem (by omega)).symm

/-- From the start of a sector on, the bytes get to where they belong. -/
theorem foldl_writeOps_aligned (haddr : addr % SECTOR_SIZE = 0) (hsum : i + left = sector_num) (hleft : left ≠ 0)
    (hchip : sector_addr + i + left ≤ 256) (hmany : (left - 1) * SECTOR_SIZE ≤ write_bytes)
    (hfits : PiecesFit addr sector_num left i buf.length write_bytes) :
    (writeOps flash addr sector_addr sector_num left i buf write_bytes).foldl FlsOp.apply flash =
      rewrite flash ((sector_addr + i) * SECTOR_SIZE) write_bytes fun j => buf.getD j 0 := by
  induction left generalizing i buf write_bytes flash with
  | zero => exact absurd rfl hleft
  | succ left ih =>
    obtain ⟨hbuf, hpiece, hrest⟩ := hfits
    rw [writeOps, List.foldl_append, foldl_filled (by omega) hbuf hpiece]
    cases left with
    | zero =>
      have hlast : piece addr sector_num i write_bytes = (0, write_bytes) := by
        rw [piece, if_neg (by omega), if_pos (by omega), haddr]
      rw [hlast, writeOps, List.foldl_nil, Nat.add_zero]
    | succ left =>
      have hmiddle : piece addr sector_num i write_bytes = (0, SECTOR_SIZE) := by
        rw [piece, haddr, Nat.sub_zero, if_neg (c := i = sector_num - 1) (by omega)]
        split <;> rfl
      have hnext : (sector_addr + (i + 1)) * SECTOR_SIZE = (sector_addr + i) * SECTOR_SIZE + SECTOR_SIZE := by
        rw [← Nat.add_assoc, Nat.succ_mul]
      have hpast : (left + 1 + 1 - 1) * SECTOR_SIZE = (left + 1 - 1) * SECTOR_SIZE + SECTOR_SIZE := by
        rw [Nat.add_sub_cancel, Nat.add_sub_cancel, Nat.succ_mul]
      rw [hmiddle] at hrest ⊢
      dsimp only at hrest ⊢
      rw [hpast] at hmany
      rw [Nat.add_zero, writeOps_after_round (Nat.le_of_eq hnext.symm),
        ih (by omega) (by omega) (by omega) (by omega) (by rw [List.length_drop]; exact hrest), hnext, rewrite_rewrite,
        Nat.add_sub_cancel' (by omega)]

/-- Otherwise the first bytes of the last sector are not written to. -/
theorem foldl_writeOps_unaligned (haddr : addr % SECTOR_SIZE ≠ 0) (hsum : i + left = sector_num) (hleft : left ≠ 0)
    (hmany : sector_num ≠ 1) (hchip : sector_addr + i + left ≤ 256)
    (hfits : PiecesFit addr sector_num left i buf.length write_bytes) :
    (writeOps flash addr sector_addr sector_num left i buf write_bytes).foldl FlsOp.apply flash
        ((sector_addr + sector_num - 1) * SECTOR_SIZE) = flash ((sector_addr + sector_num - 1) * SECTOR_SIZE) := by
  have hsize : SECTOR_SIZE = 4096 := rfl
  induction left generalizing i buf write_bytes flash with
  | zero => exact absurd rfl hleft
  | succ left ih =>
    obtain ⟨hbuf, hpiece, hrest⟩ := hfits
    rw [writeOps, List.foldl_append, foldl_filled (by omega) hbuf hpiece]
    cases left with
    | zero =>
      have hlast : piece addr sector_num i write_bytes = (addr % SECTOR_SIZE, write_bytes) := by
        rw [piece, if_neg (by omega), if_pos (by omega)]
      have hsector : sector_addr + i = sector_addr + sector_num - 1 := by omega
      rw [hlast, hsector]
      exact rewrite_of_not_mem (by omega)
    | succ left =>
      have hnext : (sector_addr + i) * SECTOR_SIZE + (piece addr sector_num i write_bytes).1 +
          (piece addr sector_num i write_bytes).2 ≤ (sector_addr + (i + 1)) * SECTOR_SIZE := by
        rw [← Nat.add_assoc, Nat.succ_mul]
        omega
      rw [writeOps_after_round hnext, ih (by omega) (by omega) (by omega) (by rw [List.length_drop]; exact hrest)]
      refine rewrite_of_not_mem ?_
      rw [hsize] at hnext ⊢
      omega

end

/-- Whatever the chip holds and whatever is written, `tls_fls_write` of `len` bytes to
`addr` succeeds, and reading the chip then gives these bytes, up to the end of the chip,
and every other byte as it was. -/
def WritesExactly (env : FlsEnv) (s : Fls) (addr len : Nat) : Prop :=
  ∀ (flash : Nat → UInt8) (buf : List UInt8), buf.length = len →
    ∃ t u, (tls_fls_write env addr buf).run { s with flash := flash } = .ok (TLS_FLS_STATUS_OK, t) ∧
      (tls_fls_read env 0 TOTAL_SIZE).run t =
        .ok ((TLS_FLS_STATUS_OK, chipBytes (rewrite flash addr len fun i => buf.getD i 0) 0 TOTAL_SIZE), u)

theorem chipBytes_eq_iff {f g : Nat → UInt8} {len : Nat} :
    chipBytes f 0 len = chipBytes g 0 len ↔ ∀ a < len, f a = g a := by
  constructor
  · intro h a ha
    have hget := congrArg (fun l => l.getD a 0) h
    simpa [chipBytes, List.getD_eq_getElem?_getD, ha] using hget
  · intro h
    refine List.map_congr_left fun i hi => ?_
    rw [Nat.zero_add]
    exact h i (List.mem_range.mp hi)

/-- The address of a write that goes around the end of the address space: nothing is
written, or a piece does not fit, or a sector lies behind the chip. -/
theorem sectorCount_of_wrap {len : Nat} (haddr : addr < TOTAL_SIZE) (hlen : len < 4294967296)
    (hwrap : 4294967296 ≤ addr + len) (hcount : sectorCount addr len ≠ 0)
    (hchip : addr / SECTOR_SIZE + sectorCount addr len ≤ 256) :
    ¬ PiecesFit addr (sectorCount addr len) (sectorCount addr len) 0 len (clipped addr len) := by
  have hsize : SECTOR_SIZE = 4096 := rfl
  have htotal : TOTAL_SIZE = 1048576 := rfl
  have hclip : clipped addr len = len := by
    rw [clipped, if_neg]
    unfold u32
    omega
  have hone : sectorCount addr len = 1 := by
    rw [sectorCount, hclip, hsize] at hcount hchip ⊢
    unfold u32Sub u32 at hcount hchip ⊢
    omega
  rw [hone, hclip, PiecesFit, piece, if_neg (fun h => h.2 rfl), if_pos rfl]
  intro h
  have hpiece := h.2.1
  dsimp only at hpiece
  omega

/-- Without memory for its cache `tls_fls_write` changes nothing. -/
theorem run_fls_write_no_cache (hlock : s.fls_lock ≠ 0) (haddr : addr < TOTAL_SIZE) (hbuf : buf.length ≠ 0)
    (halloc : env.alloc s.allocations = false) :
    (tls_fls_write env addr buf).run s = .ok (TLS_FLS_STATUS_ENOMEM, { s with allocations := s.allocations + 1 }) := by
  have hvalid : ¬ (addr ≥ TOTAL_SIZE ∨ buf.length = 0) := by omega
  have hcache : (tls_mem_alloc env).run { s with fls_lock := s.fls_lock - 1 } = .ok (false, s.writing) := by
    rw [← halloc]
    rfl
  have hgiven : s.fls_lock - 1 + 1 = s.fls_lock := Nat.succ_pred_eq_of_pos (Nat.pos_of_ne_zero hlock)
  rw [tls_fls_write]
  dsimp only
  rw [if_neg hvalid, run_bind, run_acquireLock hlock, ok_bind]
  dsimp only
  rw [run_bind, hcache, ok_bind]
  dsimp only
  rw [if_pos (by decide)]
  exact congrArg (fun lock => Except.ok (TLS_FLS_STATUS_ENOMEM,
    { s with allocations := s.allocations + 1, fls_lock := lock })) hgiven

/-- A write that succeeds has its cache, and puts pieces that fit in sectors of the chip. -/
theorem fls_write_ok (hlock : s.fls_lock ≠ 0) (haddr : addr < TOTAL_SIZE) (hbuf : buf.length ≠ 0)
    (h : (tls_fls_write env addr buf).run s = .ok (TLS_FLS_STATUS_OK, t)) :
    env.alloc s.allocations = true ∧
      PiecesFit addr (sectorCount addr buf.length) (sectorCount addr buf.length) 0 buf.length (clipped addr buf.length) ∧
      (sectorCount addr buf.length ≠ 0 → addr / SECTOR_SIZE + sectorCount addr buf.length ≤ 256) := by
  cases halloc : env.alloc s.allocations with
  | false =>
    rw [run_fls_write_no_cache hlock haddr hbuf halloc] at h
    cases h
  | true =>
    rw [run_fls_write env hlock haddr hbuf halloc] at h
    cases hrun : (writeSectors env addr (addr / SECTOR_SIZE) (sectorCount addr buf.length) (sectorCount addr buf.length) 0
        (Mem.fill SECTOR_SIZE 0) buf (clipped addr buf.length)).run s.writing with
    | error e =>
      rw [hrun] at h
      cases h
    | ok r =>
      obtain ⟨st, u⟩ := r
      rw [hrun] at h
      cases h
      obtain ⟨-, hfits, hchip⟩ | ⟨herr, -⟩ := writeSectors_cases hrun
      · exact ⟨rfl, hfits, hchip⟩
      · exact absurd rfl herr

/-- What the operations of a write that starts with a sector, or stays in one, do to the chip. -/
theorem foldl_flsWriteOps {flash : Nat → UInt8} (haddr : addr < TOTAL_SIZE) (hbuf : buf.length ≠ 0)
    (hsum : addr + buf.length < 4294967296)
    (hplace : addr % SECTOR_SIZE = 0 ∨ lastByte addr buf.length / SECTOR_SIZE = addr / SECTOR_SIZE) :
    (flsWriteOps flash addr buf).foldl FlsOp.apply flash =
      rewrite flash addr (clipped addr buf.length) fun i => buf.getD i 0 := by
  have hsize : SECTOR_SIZE = 4096 := rfl
  obtain ⟨hcount, hle, hlast⟩ := sectorCount_eq haddr hbuf hsum
  have hclip := clipped_eq haddr hsum
  have hbyte : addr + min buf.length (TOTAL_SIZE - addr) - 1 = lastByte addr buf.length := rfl
  have hfits := (piecesFit_iff haddr hbuf hsum).mpr (by rw [hsize] at hplace ⊢; omega)
  rw [hsize] at hcount hle hlast
  rw [flsWriteOps]
  obtain haligned | hone := hplace
  · have hstart : (addr / SECTOR_SIZE + 0) * SECTOR_SIZE = addr := by
      rw [Nat.add_zero]
      exact Nat.div_mul_cancel (Nat.dvd_of_mod_eq_zero haligned)
    rw [foldl_writeOps_aligned haligned (Nat.zero_add _) (by omega) (by rw [hsize]; omega)
      (by rw [hsize] at haligned ⊢; omega) hfits, hstart]
  · have hcount : sectorCount addr buf.length = 0 + 1 := by
      rw [hsize] at hone
      omega
    rw [hcount] at hfits ⊢
    obtain ⟨hpiece, hsector, -⟩ := hfits
    have hp : piece addr (0 + 1) 0 (clipped addr buf.length) = (addr % SECTOR_SIZE, clipped addr buf.length) := by
      rw [piece, if_neg (fun h => h.2 rfl), if_pos rfl]
    have hstart : (addr / SECTOR_SIZE + 0) * SECTOR_SIZE + addr % SECTOR_SIZE = addr := by
      rw [Nat.add_zero, Nat.mul_comm]
      exact Nat.div_add_mod addr SECTOR_SIZE
    rw [writeOps, List.foldl_append, foldl_filled (by rw [hsize]; omega) hpiece hsector, writeOps, List.foldl_nil, hp, hstart]

/-- The run of a write whose pieces fit, when no operation fails. -/
theorem run_fls_write_reliable (henv : env.Reliable) (hlock : s.fls_lock = 1) (haddr : addr < TOTAL_SIZE)
    (hbuf : buf.length ≠ 0) (hsum : addr + buf.length < 4294967296) (halloc : env.alloc s.allocations = true)
    (hfits : PiecesFit addr (sectorCount addr buf.length) (sectorCount addr buf.length) 0 buf.length
      (clipped addr buf.length)) :
    ∃ t, (tls_fls_write env addr buf).run s = .ok (TLS_FLS_STATUS_OK, t) ∧ t.fls_lock = 1 ∧
      t.flash = (flsWriteOps s.flash addr buf).foldl FlsOp.apply s.flash := by
  have hrun := run_fls_write_any env (s := s) (by omega) haddr hbuf hsum halloc hfits
  rw [perform_of_none fun _ _ => henv _] at hrun
  exact ⟨_, hrun, hlock, rfl⟩

theorem writesExactly_of_place {len : Nat} (henv : env.Reliable) (hlock : s.fls_lock = 1) (haddr : addr < TOTAL_SIZE)
    (hlen : len ≠ 0) (halloc : env.alloc s.allocations = true) (hsum : addr + len < 4294967296)
    (hplace : addr % SECTOR_SIZE = 0 ∨ lastByte addr len / SECTOR_SIZE = addr / SECTOR_SIZE) :
    WritesExactly env s addr len := by
  rintro flash buf rfl
  have hfits := (piecesFit_iff haddr hlen hsum).mpr (by
    have hmod := Nat.mod_lt (lastByte addr buf.length) (show 0 < SECTOR_SIZE by decide)
    omega)
  obtain ⟨t, hrun, hlock', hflash⟩ := run_fls_write_reliable (s := { s with flash := flash }) henv hlock haddr hlen hsum
    halloc hfits
  have hread : (tls_fls_read env 0 TOTAL_SIZE).run t = .ok ((TLS_FLS_STATUS_OK, chipBytes t.flash 0 TOTAL_SIZE),
      t.withChip t.flash (t.operations + 1)) := run_fls_read henv hlock' (by decide) (Nat.le_of_eq (Nat.zero_add _))
  have hchip : chipBytes t.flash 0 TOTAL_SIZE =
      chipBytes (rewrite flash addr buf.length fun i => buf.getD i 0) 0 TOTAL_SIZE := by
    refine chipBytes_eq_iff.mpr fun a ha => ?_
    have hclip := clipped_eq haddr hsum
    rw [hflash, foldl_flsWriteOps haddr hlen hsum hplace]
    by_cases hin : addr ≤ a ∧ a < addr + buf.length
    · rw [rewrite_of_mem hin, rewrite_of_mem (by omega)]
    · rw [rewrite_of_not_mem hin, rewrite_of_not_mem (by omega)]
  rw [hchip] at hread
  exact ⟨t, _, hrun, hread⟩

/-- Ones written over zeros show a byte that is not written. -/
theorem not_writesExactly {len a : Nat} (henv : env.Reliable) (ha : addr ≤ a ∧ a < addr + len ∧ a < TOTAL_SIZE)
    (h : ∀ t, (tls_fls_write env addr (List.replicate len 1)).run { s with flash := fun _ => 0 } = .ok (TLS_FLS_STATUS_OK, t) →
      t.fls_lock = 1 ∧ t.flash a = 0) : ¬ WritesExactly env s addr len := by
  intro hexact
  obtain ⟨t, u, hrun, hread⟩ := hexact (fun _ => 0) (List.replicate len 1) List.length_replicate
  obtain ⟨hlock, hzero⟩ := h t hrun
  rw [run_fls_read henv hlock (by decide) (Nat.le_of_eq (Nat.zero_add _))] at hread
  have hbytes := (Prod.mk.inj (Prod.mk.inj (Except.ok.inj hread)).1).2
  have hone := chipBytes_eq_iff.mp hbytes a ha.2.2
  rw [rewrite_of_mem ⟨ha.1, ha.2.1⟩, hzero, List.getD_eq_getElem _ _ (by rw [List.length_replicate]; omega),
    List.getElem_replicate] at hone
  exact absurd hone (by decide)

theorem place_of_writesExactly {len : Nat} (henv : env.Reliable) (hlock : s.fls_lock = 1) (haddr : addr < TOTAL_SIZE)
    (hlen : len ≠ 0) (hmax : len < 4294967296) (h : WritesExactly env s addr len) :
    env.alloc s.allocations = true ∧ addr + len < 4294967296 ∧
      (addr % SECTOR_SIZE = 0 ∨ lastByte addr len / SECTOR_SIZE = addr / SECTOR_SIZE) := by
  have hsize : SECTOR_SIZE = 4096 := rfl
  have hcopy := h
  obtain ⟨t, u, hrun, -⟩ := hcopy (fun _ => 0) (List.replicate len 1) List.length_replicate
  have hbuf : (List.replicate len (1 : UInt8)).length ≠ 0 := by rwa [List.length_replicate]
  have hlock' : ({ s with flash := fun _ => 0 } : Fls).fls_lock ≠ 0 := by
    change s.fls_lock ≠ 0
    omega
  obtain ⟨halloc, hfits, hchip⟩ := fls_write_ok hlock' haddr hbuf hrun
  rw [List.length_replicate] at hfits hchip
  have hsum : addr + len < 4294967296 := by
    refine Nat.lt_of_not_le fun hwrap => ?_
    by_cases hcount : sectorCount addr len = 0
    · refine not_writesExactly henv (a := addr) ⟨Nat.le_refl _, by omega, haddr⟩ (fun t ht => ?_) h
      rw [run_fls_write env hlock' haddr hbuf halloc, List.length_replicate, hcount] at ht
      cases ht
      exact ⟨Nat.succ_pred_eq_of_pos (Nat.pos_of_ne_zero hlock') |>.trans hlock, rfl⟩
    · exact sectorCount_of_wrap haddr hmax hwrap hcount (hchip hcount) hfits
  refine ⟨halloc, hsum, ?_⟩
  by_cases haligned : addr % SECTOR_SIZE = 0
  · exact .inl haligned
  refine .inr (Classical.byContradiction fun hmany => ?_)
  -- the first byte of the last sector is not written
  have hsum' : addr + (List.replicate len (1 : UInt8)).length < 4294967296 := by rwa [List.length_replicate]
  obtain ⟨hcount, hle, hlast⟩ := sectorCount_eq haddr hlen hsum
  have hbyte : addr + min len (TOTAL_SIZE - addr) - 1 = lastByte addr len := rfl
  rw [hsize] at hcount hle hlast hmany
  refine not_writesExactly henv (a := (addr / SECTOR_SIZE + sectorCount addr len - 1) * SECTOR_SIZE) ?_
    (fun t ht => ?_) h
  · rw [hsize]
    omega
  · obtain ⟨t', ht', hlock₁, hflash⟩ := run_fls_write_reliable (s := { s with flash := fun _ => 0 }) henv hlock haddr hbuf
      hsum' halloc (by rwa [List.length_replicate])
    rw [ht] at ht'
    cases ht'
    refine ⟨hlock₁, ?_⟩
    rw [hflash, flsWriteOps, List.length_replicate]
    exact foldl_writeOps_unaligned haligned (Nat.zero_add _) (by omega) (by omega) (by rw [hsize]; omega)
      (by rwa [List.length_replicate])

/-- Exactly the writes that have a cache, do not go around the end of the address space,
and start with a sector or stay in one, write what they should. -/
theorem writesExactly_iff {len : Nat} (henv : env.Reliable) (hlock : s.fls_lock = 1) (haddr : addr < TOTAL_SIZE)
    (hlen : len ≠ 0) (hmax : len < 4294967296) :
    WritesExactly env s addr len ↔ env.alloc s.allocations = true ∧ addr + len < 4294967296 ∧
      (addr % SECTOR_SIZE = 0 ∨ lastByte addr len / SECTOR_SIZE = addr / SECTOR_SIZE) :=
  ⟨place_of_writesExactly henv hlock haddr hlen hmax,
    fun ⟨halloc, hsum, hplace⟩ => writesExactly_of_place henv hlock haddr hlen halloc hsum hplace⟩

/-- Three whole sectors. -/
theorem writesExactly_three_sectors : WritesExactly soundDriver (Fls.installed fun _ => 0xff) 8192 12288 :=
  (writesExactly_iff (fun _ => rfl) rfl (by decide) (by decide) (by decide)).mpr ⟨rfl, by decide, .inl (by decide)⟩

/-- A sector's worth of bytes from address 1 on. -/
theorem unaligned_write_misplaced :
    ¬ ∀ (s : Fls) (addr len : Nat), s.fls_lock = 1 → addr < TOTAL_SIZE → len ≠ 0 → len < 4294967296 →
      WritesExactly soundDriver s addr len := by
  intro h
  have hexact := h (Fls.installed fun _ => 0) 1 4096 rfl (by decide) (by decide) (by decide)
  obtain ⟨-, -, hplace⟩ := place_of_writesExactly (fun _ => rfl) rfl (by decide) (by decide) (by decide) hexact
  revert hplace
  decide

end ZCloud
