import ZCloud.Drivers.Flush

open Memory Program

namespace ZCloud

section

variable (env : FlsEnv)

/-- Writes pieces one behind another, from address `addr` on. -/
def writeAll (addr : Nat) : List (List UInt8) → Prog Fls (List TLS_FLS_STATUS)
  | [] => return []
  | piece :: pieces => do
    let st ← tls_fls_fast_write env addr piece
    return st :: (← writeAll (addr + piece.length) pieces)

/-- A session of the fast writes. -/
def fastSession (base : Nat) (pieces : List (List UInt8)) : Prog Fls (List TLS_FLS_STATUS) := do
  tls_fls_fast_write_init env
  let sts ← writeAll env base pieces
  tls_fls_fast_write_destroy env
  return sts

/-- Sector `k` has bytes of the `len` from address `base` on. -/
def Covers (base len k : Nat) : Prop := k * SECTOR_SIZE < base + len ∧ base < (k + 1) * SECTOR_SIZE

/-- A session that begins in state `s` writes the pieces to `base` and nothing
elsewhere, and says so if it could not. -/
def WritesPieces (s : Fls) (base : Nat) (pieces : List (List UInt8)) : Prop :=
  ∃ sts t, (fastSession env base pieces).run s = .ok (sts, t) ∧
    (∀ i < pieces.flatten.length, t.flash (base + i) = pieces.flatten.getD i 0) ∧
    (∃ new, t.flushed = new ++ s.flushed ∧
      ∀ k ∈ new, Covers base pieces.flatten.length (k % CHIP_SECTORS)) ∧
    ((∃ j, s.operations ≤ j ∧ j < t.operations ∧ env.io j ≠ none) → ∃ st ∈ sts, st ≠ TLS_FLS_STATUS_OK)

/-- What an earlier session may have left in the cache without harm to one that
writes `len` bytes from `base` on: nothing, bytes of another sector that is about
to be written anyway, or bytes of the first sector if that does not fill up. -/
def HarmlessCache (s : Fls) (base len : Nat) : Prop :=
  s.gsSecOffset = 0 ∨
    (s.gsSector = base / SECTOR_SIZE ∧ s.gsSecOffset + len < SECTOR_SIZE) ∨
    (s.gsSector ≠ base / SECTOR_SIZE ∧ Covers base len (s.gsSector % CHIP_SECTORS))

/-- The sectors that a session writes, the last first. -/
def sessionSectors (s : Fls) (base len : Nat) : List Nat :=
  (base / SECTOR_SIZE + len / SECTOR_SIZE) ::
    (sectorsFrom (base / SECTOR_SIZE) (len / SECTOR_SIZE) ++ s.stale (base / SECTOR_SIZE))

/-- The sessions that write any `len` bytes to `base` as they should, however
they are cut. There must be a cache, the bytes must not end where a sector does,
the cache must be harmless, and no operation of the driver may fail. -/
def Orderly (s : Fls) (base len : Nat) : Prop :=
  if len = 0 then s.gsflscache = none ∧ env.alloc s.allocations = false
  else (s.gsflscache.isSome ∨ env.alloc s.allocations = true) ∧ len % SECTOR_SIZE ≠ 0 ∧
    HarmlessCache s base len ∧
    ∀ j, s.operations ≤ j → j < s.operations + flushOps (sessionSectors s base len) → env.io j = none

end

/-- What holds of the driver between the calls of it. -/
structure Fls.Ready (s : Fls) : Prop where
  lock : s.fls_lock = 1
  offset : s.gsSecOffset < SECTOR_SIZE

variable {env : FlsEnv} {s t : Fls} {base : Nat}

/-- The driver that a session finds with a cache, or gives one. -/
structure Fls.Opened (s t : Fls) : Prop where
  flash : t.flash = s.flash
  gsSecOffset : t.gsSecOffset = s.gsSecOffset
  gsSector : t.gsSector = s.gsSector
  fls_lock : t.fls_lock = s.fls_lock
  operations : t.operations = s.operations
  flushed : t.flushed = s.flushed

theorem tls_fls_fast_write_init_ok {a : Unit} (h : (tls_fls_fast_write_init env).run s = .ok (a, t)) :
    s.Opened t ∧ (t.gsflscache.isSome ↔ s.gsflscache.isSome ∨ env.alloc s.allocations = true) := by
  rw [tls_fls_fast_write_init, run_get_bind] at h
  split at h
  · obtain ⟨-, rfl⟩ := run_pure_eq_ok.mp h
    exact ⟨⟨rfl, rfl, rfl, rfl, rfl, rfl⟩, by simp [*]⟩
  · have hnone := ‹¬ s.gsflscache.isSome = true›
    obtain ⟨ok, s₁, halloc, h⟩ := run_bind_eq_ok.mp h
    simp only [tls_mem_alloc, run_bind, run_get, ok_bind, run_set, run_pure] at halloc
    cases halloc
    split at h
    · rw [run_modify_eq_ok.mp h]
      exact ⟨⟨rfl, rfl, rfl, rfl, rfl, rfl⟩, by simp [*]⟩
    · obtain ⟨-, rfl⟩ := run_pure_eq_ok.mp h
      exact ⟨⟨rfl, rfl, rfl, rfl, rfl, rfl⟩, by simp [*]⟩

theorem run_fast_write_init (s : Fls) : ∃ t, (tls_fls_fast_write_init env).run s = .ok ((), t) := by
  cases hcache : s.gsflscache with
  | some cache =>
    refine ⟨s, ?_⟩
    simp only [tls_fls_fast_write_init, run_bind, run_get, ok_bind, hcache, Option.isSome_some, ↓reduceIte,
      run_pure]
  | none =>
    cases halloc : env.alloc s.allocations with
    | true =>
      refine ⟨{ s with
        allocations := s.allocations + 1
        gsflscache := some ⟨(List.range SECTOR_SIZE).map env.heap, by simp⟩ }, ?_⟩
      simp only [tls_fls_fast_write_init, run_bind, run_get, ok_bind, hcache, Option.isSome_none,
        Bool.false_eq_true, ↓reduceIte, tls_mem_alloc, run_set, run_pure, halloc, run_modify]
    | false =>
      refine ⟨{ s with allocations := s.allocations + 1 }, ?_⟩
      simp only [tls_fls_fast_write_init, run_bind, run_get, ok_bind, hcache, Option.isSome_none,
        Bool.false_eq_true, ↓reduceIte, tls_mem_alloc, run_set, run_pure, halloc]

theorem fastSession_ok {pieces : List (List UInt8)} {sts : List TLS_FLS_STATUS}
    (h : (fastSession env base pieces).run s = .ok (sts, t)) :
    ∃ s₁ s₂, (tls_fls_fast_write_init env).run s = .ok ((), s₁) ∧
      (writeAll env base pieces).run s₁ = .ok (sts, s₂) ∧
      (tls_fls_fast_write_destroy env).run s₂ = .ok ((), t) := by
  obtain ⟨_, s₁, hinit, h⟩ := run_bind_eq_ok.mp h
  obtain ⟨sts', s₂, hwrite, h⟩ := run_bind_eq_ok.mp h
  obtain ⟨_, s₃, hdestroy, h⟩ := run_bind_eq_ok.mp h
  obtain ⟨rfl, rfl⟩ := run_pure_eq_ok.mp h
  exact ⟨s₁, s₂, hinit, hwrite, hdestroy⟩

theorem run_fastSession {pieces : List (List UInt8)} {sts : List TLS_FLS_STATUS} {s₁ s₂ : Fls}
    (hinit : (tls_fls_fast_write_init env).run s = .ok ((), s₁))
    (hwrite : (writeAll env base pieces).run s₁ = .ok (sts, s₂))
    (hdestroy : (tls_fls_fast_write_destroy env).run s₂ = .ok ((), t)) :
    (fastSession env base pieces).run s = .ok (sts, t) := by
  simp only [fastSession, run_bind, hinit, ok_bind, hwrite, hdestroy, run_pure]

theorem writeAll_cons_ok {addr : Nat} {piece : List UInt8} {pieces : List (List UInt8)}
    {sts : List TLS_FLS_STATUS} (h : (writeAll env addr (piece :: pieces)).run s = .ok (sts, t)) :
    ∃ st sts' u, sts = st :: sts' ∧ (tls_fls_fast_write env addr piece).run s = .ok (st, u) ∧
      (writeAll env (addr + piece.length) pieces).run u = .ok (sts', t) := by
  obtain ⟨st, u, hfirst, h⟩ := run_bind_eq_ok.mp h
  obtain ⟨sts', v, hrest, h⟩ := run_bind_eq_ok.mp h
  obtain ⟨rfl, rfl⟩ := run_pure_eq_ok.mp h
  exact ⟨st, sts', u, rfl, hfirst, hrest⟩

theorem writeAll_flushes (addr : Nat) (pieces : List (List UInt8)) :
    Moves (Fls.Flushes env) (writeAll env addr pieces) := by
  induction pieces generalizing addr with
  | nil => exact moves_pure _
  | cons piece pieces ih =>
    exact moves_bind (tls_fls_fast_write_flushes _ _) fun _ => moves_bind (ih _) fun _ => moves_pure _

theorem tls_fls_fast_write_init_flushes : Moves (Fls.Flushes env) (tls_fls_fast_write_init env) := by
  intro s a t h
  obtain ⟨hopened, -⟩ := tls_fls_fast_write_init_ok h
  exact Fls.Flushes.of_eq hopened.flushed hopened.operations hopened.flash

/-- A session changes the chip only by writing the cache. -/
theorem fastSession_flushes (pieces : List (List UInt8)) :
    Moves (Fls.Flushes env) (fastSession env base pieces) :=
  moves_bind tls_fls_fast_write_init_flushes fun _ => moves_bind (writeAll_flushes _ _) fun _ =>
    moves_bind tls_fls_fast_write_destroy_flushes fun _ => moves_pure _

variable {io io' : Nat → Option (Nat → UInt8)}

theorem writeAll_agrees (addr : Nat) (pieces : List (List UInt8)) :
    Agrees io io' (writeAll (env.withIo io) addr pieces) (writeAll (env.withIo io') addr pieces) := by
  induction pieces generalizing addr with
  | nil => exact agrees_pure _
  | cons piece pieces ih =>
    exact agrees_bind (tls_fls_fast_write_agrees _ _) fun _ => agrees_bind (ih _) fun _ => agrees_pure _

theorem fastSession_agrees (pieces : List (List UInt8)) :
    Agrees io io' (fastSession (env.withIo io) base pieces) (fastSession (env.withIo io') base pieces) :=
  agrees_bind tls_fls_fast_write_init_agrees fun _ => agrees_bind (writeAll_agrees _ _) fun _ =>
    agrees_bind tls_fls_fast_write_destroy_agrees fun _ => agrees_pure _

/-- A write to the chip is accepted. -/
theorem tls_fls_fast_write_accepted {addr : Nat} {buf : List UInt8} {st : TLS_FLS_STATUS}
    (haddr : addr < TOTAL_SIZE) (hbuf : buf ≠ [])
    (h : (tls_fls_fast_write env addr buf).run s = .ok (st, t)) : st = TLS_FLS_STATUS_OK := by
  have hpos := List.length_pos_iff.mpr hbuf
  rw [tls_fls_fast_write, if_neg (by omega)] at h
  obtain ⟨_, s₁, -, h⟩ := run_bind_eq_ok.mp h
  obtain ⟨_, s₂, -, h⟩ := run_bind_eq_ok.mp h
  obtain ⟨_, s₃, -, h⟩ := run_bind_eq_ok.mp h
  obtain ⟨_, s₄, -, h⟩ := run_bind_eq_ok.mp h
  obtain ⟨_, s₅, -, h⟩ := run_bind_eq_ok.mp h
  exact (run_pure_eq_ok.mp h).1

/-- No write of a session in the chip reports anything. -/
theorem writeAll_accepted {addr : Nat} {pieces : List (List UInt8)} {sts : List TLS_FLS_STATUS}
    (hpieces : ∀ piece ∈ pieces, piece ≠ []) (hchip : addr + pieces.flatten.length ≤ TOTAL_SIZE)
    (h : (writeAll env addr pieces).run s = .ok (sts, t)) : ∀ st ∈ sts, st = TLS_FLS_STATUS_OK := by
  induction pieces generalizing addr s sts with
  | nil =>
    obtain ⟨rfl, -⟩ := run_pure_eq_ok.mp h
    exact nofun
  | cons piece pieces ih =>
    obtain ⟨st, sts', u, rfl, hfirst, hrest⟩ := writeAll_cons_ok h
    rw [List.flatten_cons, List.length_append] at hchip
    have hpiece := hpieces piece (List.mem_cons_self ..)
    have hpos := List.length_pos_iff.mpr hpiece
    intro st' hst'
    obtain rfl | hst' := List.mem_cons.mp hst'
    · exact tls_fls_fast_write_accepted (by omega) hpiece hfirst
    · exact ih (fun p hp => hpieces p (List.mem_cons_of_mem _ hp)) (by omega) hrest st' hst'

/-- What the cache is like after a session that went on from where it was. -/
theorem writeAll_at {b n : Nat} {old : List Nat} {pieces : List (List UInt8)} {sts : List TLS_FLS_STATUS}
    (hs : s.At b old n) (hb : b + (n + pieces.flatten.length) / SECTOR_SIZE < 4294967296)
    (hsts : ∀ st ∈ sts, st = TLS_FLS_STATUS_OK)
    (h : (writeAll env (b * SECTOR_SIZE + n) pieces).run s = .ok (sts, t)) :
    t.At b old (n + pieces.flatten.length) := by
  induction pieces generalizing n s sts with
  | nil =>
    obtain ⟨-, rfl⟩ := run_pure_eq_ok.mp h
    exact hs
  | cons piece pieces ih =>
    obtain ⟨st, sts', u, rfl, hfirst, hrest⟩ := writeAll_cons_ok h
    rw [List.flatten_cons, List.length_append, ← Nat.add_assoc] at hb ⊢
    obtain rfl := hsts st (List.mem_cons_self ..)
    have hle : (n + piece.length) / SECTOR_SIZE ≤ (n + piece.length + pieces.flatten.length) / SECTOR_SIZE :=
      Nat.div_le_div_right (Nat.le_add_right _ _)
    have hu := tls_fls_fast_write_next hs (by omega) hfirst
    rw [Nat.add_assoc] at hrest
    exact ih hu hb (fun st hst => hsts st (List.mem_cons_of_mem _ hst)) hrest

/-- What the cache is like after a session that left another sector behind. -/
theorem writeAll_first {b : Nat} {pieces : List (List UInt8)} {sts : List TLS_FLS_STATUS}
    (hclean : s.gsSecOffset = 0 ∨ s.gsSector ≠ b) (hne : pieces ≠ [])
    (hb : b + pieces.flatten.length / SECTOR_SIZE < 4294967296) (hsts : ∀ st ∈ sts, st = TLS_FLS_STATUS_OK)
    (h : (writeAll env (b * SECTOR_SIZE) pieces).run s = .ok (sts, t)) :
    t.At b (s.stale b ++ s.flushed) pieces.flatten.length := by
  cases pieces with
  | nil => exact absurd rfl hne
  | cons piece pieces =>
    obtain ⟨st, sts', u, rfl, hfirst, hrest⟩ := writeAll_cons_ok h
    rw [List.flatten_cons, List.length_append] at hb ⊢
    obtain rfl := hsts st (List.mem_cons_self ..)
    have hle : piece.length / SECTOR_SIZE ≤ (piece.length + pieces.flatten.length) / SECTOR_SIZE :=
      Nat.div_le_div_right (Nat.le_add_right _ _)
    have hu := tls_fls_fast_write_first hclean (by omega) hfirst
    exact writeAll_at hu hb (fun st hst => hsts st (List.mem_cons_of_mem _ hst)) hrest

theorem run_writeAll (henv : env.Reliable) {s₀ : Fls} {d : List UInt8} {pieces : List (List UInt8)}
    (hbase : base % SECTOR_SIZE = 0) (hcache : s₀.gsflscache.isSome)
    (hclean : s₀.gsSecOffset = 0 ∨ s₀.gsSector ≠ base / SECTOR_SIZE) (hd : FastWritten s₀ base d s)
    (hpieces : ∀ piece ∈ pieces, piece ≠ [])
    (hchip : base + d.length + pieces.flatten.length ≤ TOTAL_SIZE) :
    ∃ sts t, (writeAll env (base + d.length) pieces).run s = .ok (sts, t) ∧
      FastWritten s₀ base (d ++ pieces.flatten) t := by
  induction pieces generalizing d s with
  | nil =>
    rw [List.flatten_nil, List.append_nil]
    exact ⟨[], s, rfl, hd⟩
  | cons piece pieces ih =>
    rw [List.flatten_cons, List.length_append] at hchip
    have hpiece := hpieces piece (List.mem_cons_self ..)
    obtain ⟨u, hfirst, hu⟩ := run_fast_write henv hbase hcache hclean hd hpiece (by omega)
    obtain ⟨sts, t, hrest, ht⟩ := ih hu (fun p hp => hpieces p (List.mem_cons_of_mem _ hp))
      (by rw [List.length_append]; omega)
    rw [List.length_append, ← Nat.add_assoc] at hrest
    rw [List.append_assoc] at ht
    refine ⟨TLS_FLS_STATUS_OK :: sts, t, ?_, by rwa [List.flatten_cons]⟩
    simp only [writeAll, run_bind, hfirst, ok_bind, hrest, run_pure]

/-- The bytes `d` are in the cache, which held `left` bytes of the same sector
before, and they do not fill it up. -/
structure Within (base left : Nat) (d : List UInt8) (s : Fls) : Prop where
  lock : s.fls_lock = 1
  sector : s.gsSector = base / SECTOR_SIZE
  offset : s.gsSecOffset = left + d.length
  cache : ∃ m, s.gsflscache = some m ∧ m.bytes.take d.length = d

/-- A write that does not fill the cache up. -/
theorem run_fast_write_within {left : Nat} {d buf : List UInt8} (hbase : base % SECTOR_SIZE = 0)
    (hs : Within base left d s) (hbuf : buf ≠ []) (hroom : left + d.length + buf.length < SECTOR_SIZE)
    (hchip : base + d.length < TOTAL_SIZE) :
    ∃ t, (tls_fls_fast_write env (base + d.length) buf).run s = .ok (TLS_FLS_STATUS_OK, t) ∧
      Within base left (d ++ buf) t ∧ t.flash = s.flash ∧ t.flushed = s.flushed ∧
      t.operations = s.operations := by
  have hsize : SECTOR_SIZE = 4096 := rfl
  have hpos := List.length_pos_iff.mpr hbuf
  obtain ⟨hlock, hsector, hoffset, m, hm, htake⟩ := hs
  have hmod : (base + d.length) % SECTOR_SIZE = d.length := by
    change (base + d.length) % 4096 = d.length
    change base % 4096 = 0 at hbase
    omega
  have hdiv : (base + d.length) / SECTOR_SIZE = s.gsSector := by
    rw [hsector]
    change (base + d.length) / 4096 = base / 4096
    change base % 4096 = 0 at hbase
    omega
  obtain ⟨m', hcopy, hm'⟩ := @Mem.memcpy_spec _ m d.length buf.length buf (Nat.le_refl _) (by omega)
  have hvalid : ¬ (base + d.length ≥ TOTAL_SIZE ∨ buf.length = 0) := by omega
  have hlong : ¬ buf.length > SECTOR_SIZE - d.length := by omega
  have hsum : u32 (s.gsSecOffset + buf.length) = left + d.length + buf.length := by
    rw [hoffset]
    exact u32_of_lt (by omega)
  have hfull : ¬ left + d.length + buf.length ≥ SECTOR_SIZE := by omega
  have hsame : ¬ (s.gsSector ≠ s.gsSector ∧ s.gsSecOffset ≠ 0) := fun h => h.1 rfl
  have hacquire := run_acquireLock (s := s) (by omega)
  have hcacheBytes : (cacheBytes env d.length buf buf.length).run { s with fls_lock := s.fls_lock - 1 } =
      .ok ((), { s with
        fls_lock := s.fls_lock - 1
        gsflscache := some m'
        gsSecOffset := left + d.length + buf.length }) := by
    simp only [cacheBytes, run_bind, run_get, ok_bind, hm, hcopy, run_lift_ok, run_modify, hsum, if_neg hfull,
      run_pure]
  have hloop : (fastWriteLoop env buf.length d.length buf).run { s with fls_lock := s.fls_lock - 1 } =
      .ok ((), { s with
        fls_lock := s.fls_lock - 1
        gsflscache := some m'
        gsSecOffset := left + d.length + buf.length }) := by
    obtain ⟨fuel, hfuel⟩ : ∃ fuel, buf.length = fuel + 1 := ⟨buf.length - 1, by omega⟩
    have hrest : ∀ x : Fls, (fastWriteLoop env fuel 0 []).run x = .ok ((), x) := by
      intro x
      cases fuel <;> rfl
    rw [hfuel, fastWriteLoop, if_neg (by omega), ← hfuel]
    simp only [if_neg hlong, run_bind, hcacheBytes, ok_bind, List.drop_length, hrest]
  refine ⟨{ s with
    fls_lock := s.fls_lock - 1 + 1
    gsflscache := some m'
    gsSecOffset := left + d.length + buf.length }, ?_, ⟨?_, hsector, ?_, m', rfl, ?_⟩, rfl, rfl, rfl⟩
  · simp only [tls_fls_fast_write, if_neg hvalid, run_bind, hacquire, ok_bind, hdiv, hmod, flushOther, run_get,
      if_neg hsame, run_pure, run_modify, hloop, releaseLock]
  · change s.fls_lock - 1 + 1 = 1
    rw [hlock]
  · change left + d.length + buf.length = left + (d ++ buf).length
    rw [List.length_append, Nat.add_assoc]
  · have htake' : m.bytes.take d.length = d := htake
    rw [hm', List.take_length, patch, htake', List.length_append, List.take_append_of_le_length (by simp),
      List.take_of_length_le (by simp)]

theorem run_writeAll_within {left : Nat} {d : List UInt8} {pieces : List (List UInt8)}
    (hbase : base % SECTOR_SIZE = 0) (hs : Within base left d s) (hpieces : ∀ piece ∈ pieces, piece ≠ [])
    (hroom : left + d.length + pieces.flatten.length < SECTOR_SIZE)
    (hchip : base + d.length + pieces.flatten.length ≤ TOTAL_SIZE) :
    ∃ sts t, (writeAll env (base + d.length) pieces).run s = .ok (sts, t) ∧
      Within base left (d ++ pieces.flatten) t ∧ t.flash = s.flash ∧ t.flushed = s.flushed ∧
      t.operations = s.operations := by
  induction pieces generalizing d s with
  | nil =>
    rw [List.flatten_nil, List.append_nil]
    exact ⟨[], s, rfl, hs, rfl, rfl, rfl⟩
  | cons piece pieces ih =>
    rw [List.flatten_cons, List.length_append] at hchip hroom
    have hpiece := hpieces piece (List.mem_cons_self ..)
    have hpos := List.length_pos_iff.mpr hpiece
    obtain ⟨u, hfirst, hu, hflash, hflushed, hops⟩ :=
      @run_fast_write_within env _ _ _ _ _ hbase hs hpiece (by omega) (by omega)
    obtain ⟨sts, t, hrest, ht, hflash', hflushed', hops'⟩ := ih hu
      (fun p hp => hpieces p (List.mem_cons_of_mem _ hp)) (by rw [List.length_append]; omega)
      (by rw [List.length_append]; omega)
    rw [List.length_append, ← Nat.add_assoc] at hrest
    rw [List.append_assoc] at ht
    refine ⟨TLS_FLS_STATUS_OK :: sts, t, ?_, by rwa [List.flatten_cons], hflash'.trans hflash,
      hflushed'.trans hflushed, hops'.trans hops⟩
    simp only [writeAll, run_bind, hfirst, ok_bind, hrest, run_pure]

theorem Fls.Opened.stale {b : Nat} (h : s.Opened t) : t.stale b = s.stale b := by
  rw [Fls.stale, Fls.stale, h.gsSector, h.gsSecOffset]

/-- The sectors of a session that is in order have bytes of it. -/
theorem covers_sessionSectors {len : Nat} (hbase : base % SECTOR_SIZE = 0) (hchip : base + len ≤ TOTAL_SIZE)
    (hlen : len % SECTOR_SIZE ≠ 0) (hcache : HarmlessCache s base len) {k : Nat}
    (hk : k ∈ sessionSectors s base len) : Covers base len (k % CHIP_SECTORS) := by
  change base % 4096 = 0 at hbase
  change base + len ≤ 1048576 at hchip
  change len % 4096 ≠ 0 at hlen
  obtain rfl | hk := List.mem_cons.mp hk
  · change (base / 4096 + len / 4096) % 256 * 4096 < base + len ∧
      base < ((base / 4096 + len / 4096) % 256 + 1) * 4096
    omega
  obtain hk | hk := List.mem_append.mp hk
  · have hsector := mem_sectorsFrom.mp hk
    change base / 4096 ≤ k ∧ k < base / 4096 + len / 4096 at hsector
    change k % 256 * 4096 < base + len ∧ base < (k % 256 + 1) * 4096
    omega
  · rw [Fls.stale] at hk
    split at hk
    · obtain rfl := List.mem_singleton.mp hk
      obtain hzero | ⟨hsame, -⟩ | ⟨-, hcovers⟩ := hcache
      · exact absurd hzero ‹_ ∧ _›.2
      · exact absurd hsame.symm ‹_ ∧ _›.1
      · exact hcovers
    · cases hk

/-- A session that does what it should when no operation fails does it when none
of its operations does. -/
private theorem writesPieces_of_reliable {pieces : List (List UInt8)} {sts : List TLS_FLS_STATUS} {len : Nat}
    (hlen : pieces.flatten.length = len)
    (hio : ∀ j, s.operations ≤ j → j < s.operations + flushOps (sessionSectors s base len) → env.io j = none)
    (hcovers : ∀ k ∈ sessionSectors s base len, Covers base len (k % CHIP_SECTORS))
    (hrun : (fastSession (env.withIo fun _ => none) base pieces).run s = .ok (sts, t))
    (hwritten : ∀ i < pieces.flatten.length, t.flash (base + i) = pieces.flatten.getD i 0)
    (hflushed : t.flushed = sessionSectors s base len ++ s.flushed) : WritesPieces env s base pieces := by
  obtain ⟨new, hnew, hdid, -⟩ := fastSession_flushes _ hrun
  obtain rfl : new = sessionSectors s base len := List.append_cancel_right (hnew.symm.trans hflushed)
  have hops := hdid.clean fun _ _ _ => rfl
  have hclean : ∀ j, s.operations ≤ j → j < t.operations → none = env.io j :=
    fun j hj hlt => (hio j hj (by rw [← hops]; exact hlt)).symm
  refine ⟨sts, t, (fastSession_agrees pieces hrun).2 hclean, hwritten, ⟨_, hflushed, by rwa [hlen]⟩, ?_⟩
  rintro ⟨j, hj, hlt, hfail⟩
  exact absurd (hclean j hj hlt).symm hfail

/-- A session that is in order writes its bytes. -/
theorem writesPieces_of_orderly {pieces : List (List UInt8)} {len : Nat} (hs : s.Ready)
    (hbase : base % SECTOR_SIZE = 0) (hchip : base + len ≤ TOTAL_SIZE)
    (hpieces : ∀ piece ∈ pieces, piece ≠ []) (hlen : pieces.flatten.length = len)
    (h : Orderly env s base len) : WritesPieces env s base pieces := by
  rw [Orderly] at h
  split at h
  · have hzero : pieces.flatten.length = 0 := hlen.trans ‹len = 0›
    have hnil : pieces = [] := by
      cases pieces with
      | nil => rfl
      | cons piece pieces =>
        have hpos := List.length_pos_iff.mpr (hpieces piece (List.mem_cons_self ..))
        rw [List.flatten_cons, List.length_append] at hzero
        omega
    subst hnil
    obtain ⟨s₁, hinit⟩ := @run_fast_write_init env s
    obtain ⟨hopened, hsome⟩ := tls_fls_fast_write_init_ok hinit
    have hnone : s₁.gsflscache = none := by
      cases hcache : s₁.gsflscache with
      | none => rfl
      | some cache =>
        rw [hcache, h.1, h.2] at hsome
        simp at hsome
    have hdestroy : (tls_fls_fast_write_destroy env).run s₁ = .ok ((), s₁) := by
      simp only [tls_fls_fast_write_destroy, run_bind, run_get, ok_bind, hnone, run_pure]
    refine ⟨[], s₁, run_fastSession hinit rfl hdestroy, fun i hi => absurd hi (Nat.not_lt_zero i),
      ⟨[], hopened.flushed, by simp⟩, ?_⟩
    rintro ⟨j, hj, hlt, -⟩
    rw [hopened.operations] at hlt
    omega
  · obtain ⟨hsome, hend, hcache, hio⟩ := h
    have hne : pieces.flatten ≠ [] := List.length_pos_iff.mp (by omega)
    have hchip' : base + len < TOTAL_SIZE := by
      change base % 4096 = 0 at hbase
      change len % 4096 ≠ 0 at hend
      change base + len ≤ 1048576 at hchip
      change base + len < 1048576
      omega
    have henv : (env.withIo fun _ => none).Reliable := fun _ => rfl
    obtain ⟨s₁, hinit⟩ := @run_fast_write_init (env.withIo fun _ => none) s
    obtain ⟨hopened, hsome₁⟩ := tls_fls_fast_write_init_ok hinit
    have hsome' : s₁.gsflscache.isSome := hsome₁.mpr hsome
    have hcovers := fun k => covers_sessionSectors (k := k) hbase hchip hend hcache
    have hsector : base / SECTOR_SIZE * SECTOR_SIZE = base := by
      change base % 4096 = 0 at hbase
      change base / 4096 * 4096 = base
      omega
    by_cases hclean : s.gsSecOffset = 0 ∨ s.gsSector ≠ base / SECTOR_SIZE
    · have hclean₁ : s₁.gsSecOffset = 0 ∨ s₁.gsSector ≠ base / SECTOR_SIZE := by
        rwa [hopened.gsSecOffset, hopened.gsSector]
      have hstart : FastWritten s₁ base [] s₁ := .entered (hopened.fls_lock.trans hs.lock) rfl rfl rfl rfl
      obtain ⟨sts, s₂, hwrite, hs₂⟩ := run_writeAll henv hbase hsome' hclean₁ hstart hpieces
        (by rw [List.length_nil, hlen]; exact hchip)
      rw [List.nil_append] at hs₂
      obtain ⟨t, hdestroy, hwritten, -⟩ := run_fast_write_destroy henv hbase (hs₂.written hne) (hs₂.sector hne)
        (by rw [hlen]; exact hchip')
      refine writesPieces_of_reliable hlen hio hcovers (run_fastSession hinit hwrite hdestroy) hwritten ?_
      have haccepted := writeAll_accepted hpieces (by rw [hlen]; exact hchip) hwrite
      rw [List.length_nil, Nat.add_zero, ← hsector] at hwrite
      have hat := writeAll_first hclean₁ (by rintro rfl; exact hne rfl) (by
        rw [hlen]
        change base / 4096 + len / 4096 < 4294967296
        change base + len ≤ 1048576 at hchip
        omega) haccepted hwrite
      obtain ⟨cache, hcache₂, -⟩ := (hs₂.written hne).cache
      rw [(tls_fls_fast_write_destroy_ok hdestroy).flushed, hcache₂, Option.isSome_some, if_pos rfl, hat.sector,
        hat.flushed, hopened.stale, hopened.flushed, hlen, sessionSectors, List.cons_append, List.append_assoc]
    · obtain ⟨hsame, hroom⟩ : s.gsSector = base / SECTOR_SIZE ∧ s.gsSecOffset + len < SECTOR_SIZE := by
        obtain hzero | hwithin | ⟨hother, -⟩ := hcache
        · exact absurd (Or.inl hzero) hclean
        · exact hwithin
        · exact absurd (Or.inr hother) hclean
      obtain ⟨m, hm⟩ := Option.isSome_iff_exists.mp hsome'
      have hstart : Within base s.gsSecOffset [] s₁ :=
        ⟨hopened.fls_lock.trans hs.lock, hopened.gsSector.trans hsame, hopened.gsSecOffset, m, hm, rfl⟩
      obtain ⟨sts, s₂, hwrite, ⟨-, hsector₂, -, m₂, hm₂, htake⟩, -, hflushed₂, -⟩ :=
        @run_writeAll_within (env.withIo fun _ => none) _ _ _ _ _ hbase hstart hpieces
          (by rw [List.length_nil, hlen]; exact hroom) (by rw [List.length_nil, hlen]; exact hchip)
      rw [List.nil_append] at htake
      have hin : s₂.gsSector * SECTOR_SIZE + SECTOR_SIZE ≤ TOTAL_SIZE := by
        rw [hsector₂, hsector]
        change base % 4096 = 0 at hbase
        change base + len < 1048576 at hchip'
        change base + 4096 ≤ 1048576
        omega
      obtain ⟨ops, hflush⟩ := run_flush_sector henv m₂ hin
      have hdestroy : (tls_fls_fast_write_destroy (env.withIo fun _ => none)).run s₂ =
          .ok ((), { s₂.withChip (writtenSector s₂.flash s₂.gsSector m₂) ops with
            gsSecOffset := 0, gsflscache := none, flushed := s₂.gsSector :: s₂.flushed }) := by
        simp only [tls_fls_fast_write_destroy, run_bind, run_get, ok_bind, hm₂, hflush, run_modify]
      refine writesPieces_of_reliable hlen hio hcovers (run_fastSession hinit hwrite hdestroy) (fun i hi => ?_) ?_
      · change writtenSector s₂.flash s₂.gsSector m₂ (base + i) = _
        have hi' : i < SECTOR_SIZE := by omega
        have hget : pieces.flatten.getD i 0 = (m₂.bytes.take pieces.flatten.length).getD i 0 := by rw [htake]
        rw [writtenSector, hsector₂, hsector, rewrite_of_mem (by omega), Nat.add_sub_cancel_left, hget]
        simp only [List.getD_eq_getElem?_getD, List.getElem?_take]
        rw [if_pos hi]
      · change s₂.gsSector :: s₂.flushed = _
        have hzero : len / SECTOR_SIZE = 0 := Nat.div_eq_of_lt (by omega)
        have hstale : s.stale (base / SECTOR_SIZE) = [] := if_neg fun h => h.1 hsame.symm
        rw [hsector₂, hflushed₂, hopened.flushed, sessionSectors, hzero, hstale]
        rfl

end ZCloud
