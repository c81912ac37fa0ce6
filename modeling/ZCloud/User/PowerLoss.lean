import ZCloud.Drivers.RandomWrite
import ZCloud.User.UserFlash

open Memory Program

namespace ZCloud

/-- Where the bytes are that an operation is about. -/
def FlsOp.addr : FlsOp → Nat
  | .read addr _ => addr
  | .erase sector => sector * SECTOR_SIZE % TOTAL_SIZE
  | .page_write page _ => page * PAGE_SIZE % TOTAL_SIZE

/-- The operations of `UserSaveFlashInfo`: for each copy its sector is read and erased, and
its 16 pages are programmed. -/
def saveOps (flash : Nat → UInt8) (info : USER_FLASH_INFO) : List FlsOp :=
  flsWriteOps flash USER_FLASH_PARAM1_ADDR info.bytes ++ flsWriteOps flash USER_FLASH_PARAM2_ADDR info.bytes

/-- The chip after the first `n` of them. -/
def crashed (flash : Nat → UInt8) (info : USER_FLASH_INFO) (n : Nat) : Nat → UInt8 :=
  ((saveOps flash info).take n).foldl FlsOp.apply flash

/-- The driver when power is lost after `n` operations of `UserSaveFlashInfo`: every
operation from then on fails, and leaves the chip as it is. -/
def powerLost (u : UserFlash) (n : Nat) : FlsEnv where
  io m :=
    if m < u.fls.operations + n then none
    else some fun i => crashed u.fls.flash u.gstFlashInfo n
      ((((saveOps u.fls.flash u.gstFlashInfo).drop n).head?.elim 0 FlsOp.addr) + i)
  alloc _ := true
  heap _ := 0

/-- After a start with this chip `UserLoadFlashInfo` gives one of the tables, whatever there
is in memory, and leaves it in both copies. -/
def TableRecovers (T T' : USER_FLASH_INFO) (flash : Nat → UInt8) : Prop :=
  ∀ (env : FlsEnv) (u : UserFlash), env.Works → u.fls.flash = flash → u.fls.fls_lock = 1 →
    ∃ u', (UserLoadFlashInfo env).run u = .ok ((), u') ∧ (u'.gstFlashInfo = T ∨ u'.gstFlashInfo = T') ∧
      infoAt u'.fls.flash USER_FLASH_PARAM1_ADDR = u'.gstFlashInfo ∧
      infoAt u'.fls.flash USER_FLASH_PARAM2_ADDR = u'.gstFlashInfo

/-- A table of which only the first `pages` pages have been programmed. -/
def torn (info : USER_FLASH_INFO) (pages : Nat) : USER_FLASH_INFO where
  bytes := (List.range sizeof_USER_FLASH_INFO).map fun i => if i < pages * PAGE_SIZE then info.bytes.getD i 0 else 0xff
  size := by rw [List.length_map, List.length_range]

/-- The two tables hold the table `T`, and `T'` is about to be saved. -/
structure UserFlash.Saving (u : UserFlash) (T : USER_FLASH_INFO) : Prop where
  fls_lock : u.fls.fls_lock = 1
  first : infoAt u.fls.flash USER_FLASH_PARAM1_ADDR = T
  second : infoAt u.fls.flash USER_FLASH_PARAM2_ADDR = T
  good : T.good = true
  good' : u.gstFlashInfo.good = true

variable {env : FlsEnv} {u : UserFlash} {T info : USER_FLASH_INFO} {flash : Nat → UInt8}

theorem bytes_torn (info : USER_FLASH_INFO) (pages : Nat) : (torn info pages).bytes =
    (List.range sizeof_USER_FLASH_INFO).map fun i => if i < pages * PAGE_SIZE then info.bytes.getD i 0 else 0xff := by
  rw [torn]

theorem torn_whole {pages : Nat} (h : 4 ≤ pages) : torn info pages = info := by
  have hlen : info.bytes.length = sizeof_USER_FLASH_INFO := info.size
  refine Mem.ext_bytes (List.ext_getElem ?_ fun i hi _ => ?_)
  · rw [Mem.length_bytes, Mem.length_bytes]
  · rw [Mem.length_bytes] at hi
    have hpage : i < pages * PAGE_SIZE := by
      change i < 808 at hi
      change i < pages * 256
      omega
    simp only [bytes_torn, List.getElem_map, List.getElem_range]
    rw [if_pos hpage, List.getD_eq_getElem]

theorem good_of_take {info info' : USER_FLASH_INFO} (h : info.bytes.take 8 = info'.bytes.take 8) : info.good = info'.good := by
  have hfirst : info.bytes.take 4 = info'.bytes.take 4 := by
    have htake := congrArg (List.take 4) h
    rwa [List.take_take, List.take_take] at htake
  have hsecond : (info.bytes.drop 4).take 4 = (info'.bytes.drop 4).take 4 := by
    have hdrop := congrArg (List.drop 4) h
    rwa [List.drop_take, List.drop_take] at hdrop
  rw [USER_FLASH_INFO.good, USER_FLASH_INFO.good, USER_FLASH_INFO.id1, USER_FLASH_INFO.id1, USER_FLASH_INFO.id2,
    USER_FLASH_INFO.id2, hfirst, hsecond]

/-- The ids are in the first page. -/
theorem good_torn {pages : Nat} (hinfo : info.good = true) : (torn info pages).good = true ↔ pages ≠ 0 := by
  have hlen : info.bytes.length = sizeof_USER_FLASH_INFO := info.size
  cases pages with
  | zero =>
    have hbytes : (torn info 0).bytes = List.replicate sizeof_USER_FLASH_INFO 0xff := by
      rw [bytes_torn, Nat.zero_mul]
      simp only [Nat.not_lt_zero, if_false, List.map_const', List.length_range]
    have hbad : (torn info 0).good = false := by
      rw [USER_FLASH_INFO.good, USER_FLASH_INFO.id1, USER_FLASH_INFO.id2, hbytes]
      decide
    simp [hbad]
  | succ pages =>
    have htake : (torn info (pages + 1)).bytes.take 8 = info.bytes.take 8 := by
      refine List.ext_getElem ?_ fun i hi _ => ?_
      · rw [List.length_take, List.length_take, Mem.length_bytes, Mem.length_bytes]
      · rw [List.length_take, Mem.length_bytes] at hi
        have hpage : i < (pages + 1) * PAGE_SIZE := by
          change i < (pages + 1) * 256
          omega
        have hinfo : i < info.bytes.length := by omega
        simp only [bytes_torn, List.getElem_take, List.getElem_map, List.getElem_range]
        rw [if_pos hpage, List.getD_eq_getElem _ _ hinfo]
    rw [good_of_take htake]
    exact ⟨fun _ => Nat.succ_ne_zero _, fun _ => hinfo⟩

/-- The write of a table to a sector is one round of the loop over the sectors. -/
theorem flsWriteOps_info (flash : Nat → UInt8) {k : Nat} (hk : k < 256) (info : USER_FLASH_INFO) :
    flsWriteOps flash (k * SECTOR_SIZE) info.bytes =
      sectorRound k (filled flash k (0, sizeof_USER_FLASH_INFO) info.bytes) := by
  have hsize : SECTOR_SIZE = 4096 := rfl
  have htotal : TOTAL_SIZE = 1048576 := rfl
  have hlen : info.bytes.length = 808 := info.size
  have haddr : k * SECTOR_SIZE + 4096 ≤ 1048576 := by
    rw [hsize]
    omega
  have hclip : clipped (k * SECTOR_SIZE) info.bytes.length = 808 := by
    rw [clipped_eq (by omega) (by omega)]
    omega
  have hcount : sectorCount (k * SECTOR_SIZE) info.bytes.length = 1 := by
    obtain ⟨hcount, -, -⟩ := @sectorCount_eq (k * SECTOR_SIZE) info.bytes.length (by omega) (by omega) (by omega)
    rw [hcount, lastByte, hsize]
    omega
  have hp : piece (k * SECTOR_SIZE) 1 0 808 = (0, 808) := by
    rw [piece, if_neg (fun h => h.2 rfl), if_pos rfl, Nat.mul_mod_left]
  rw [flsWriteOps, hcount, hclip, writeOps, hp, Nat.mul_div_cancel _ (by decide), writeOps, List.append_nil, Nat.add_zero]
  rfl

/-- A sector with the start of the table and then the bytes of an erased chip holds a torn table. -/
theorem infoAt_torn (flash : Nat → UInt8) (k pages : Nat) (info : USER_FLASH_INFO) :
    infoAt (rewrite flash (k * SECTOR_SIZE) SECTOR_SIZE fun i => if i < pages * PAGE_SIZE then
        (filled flash k (0, sizeof_USER_FLASH_INFO) info.bytes).getD i 0 else 0xff) (k * SECTOR_SIZE) = torn info pages := by
  have hlen : info.bytes.length = sizeof_USER_FLASH_INFO := info.size
  have hsector : sizeof_USER_FLASH_INFO ≤ SECTOR_SIZE := by decide
  refine Mem.ext_bytes ?_
  rw [bytes_infoAt, bytes_torn, chipBytes]
  refine List.map_congr_left fun i hi => ?_
  have hi := List.mem_range.mp hi
  rw [rewrite_of_mem (by omega), Nat.add_sub_cancel_left, filled, patch, List.take_zero, List.nil_append,
    List.take_of_length_le (Nat.le_of_eq hlen), List.getD_append _ _ _ _ (by omega)]

/-- The chip after the first `m` operations that write a copy. -/
theorem foldl_round (flash : Nat → UInt8) {k : Nat} (hk : k < 256) (m : Nat) (info : USER_FLASH_INFO) :
    ((flsWriteOps flash (k * SECTOR_SIZE) info.bytes).take m).foldl FlsOp.apply flash =
      if m ≤ 1 then flash
      else rewrite flash (k * SECTOR_SIZE) SECTOR_SIZE fun i =>
        if i < min (m - 2) (SECTOR_SIZE / PAGE_SIZE) * PAGE_SIZE then
          (filled flash k (0, sizeof_USER_FLASH_INFO) info.bytes).getD i 0 else 0xff := by
  have hlen : (sectorWrites k (filled flash k (0, sizeof_USER_FLASH_INFO) info.bytes)).length = SECTOR_SIZE / PAGE_SIZE + 1 := by
    rw [sectorWrites, List.length_cons, length_pageWrites]
  rw [flsWriteOps_info flash hk, sectorRound]
  obtain _ | _ | pages := m
  · rfl
  · rfl
  · have hpages : pages + 1 + 1 - 2 = pages := rfl
    rw [if_neg (by omega), List.take_succ_cons, List.foldl_cons, hpages]
    change ((sectorWrites k _).take (pages + 1)).foldl FlsOp.apply flash = _
    by_cases hpages : pages ≤ SECTOR_SIZE / PAGE_SIZE
    · rw [foldl_sectorWrites_take hk _ _ hpages, Nat.min_eq_left hpages]
    · rw [Nat.min_eq_right (by omega), ← foldl_sectorWrites_take hk _ _ (Nat.le_refl _), List.take_of_length_le (by omega),
        List.take_of_length_le (by omega)]

/-- The copy then. -/
theorem infoAt_round (flash : Nat → UInt8) {k : Nat} (hk : k < 256) (m : Nat) (info : USER_FLASH_INFO) :
    infoAt (((flsWriteOps flash (k * SECTOR_SIZE) info.bytes).take m).foldl FlsOp.apply flash) (k * SECTOR_SIZE) =
      if m ≤ 1 then infoAt flash (k * SECTOR_SIZE) else torn info (m - 2) := by
  rw [foldl_round flash hk]
  split
  · rfl
  · rw [infoAt_torn]
    by_cases hpages : m - 2 ≤ SECTOR_SIZE / PAGE_SIZE
    · rw [Nat.min_eq_left hpages]
    · have hmany : 16 < m - 2 := Nat.not_le.mp hpages
      rw [Nat.min_eq_right (by omega), torn_whole (by decide), torn_whole (by omega)]

/-- The other sectors stay as they are. -/
theorem foldl_round_of_ne (flash : Nat → UInt8) {k a : Nat} (hk : k < 256) (m : Nat) (info : USER_FLASH_INFO)
    (ha : ¬ (k * SECTOR_SIZE ≤ a ∧ a < k * SECTOR_SIZE + SECTOR_SIZE)) :
    ((flsWriteOps flash (k * SECTOR_SIZE) info.bytes).take m).foldl FlsOp.apply flash a = flash a := by
  rw [foldl_round flash hk]
  split
  · rfl
  · exact rewrite_of_not_mem ha

theorem length_flsWriteOps_info (flash : Nat → UInt8) {k : Nat} (hk : k < 256) (info : USER_FLASH_INFO) :
    (flsWriteOps flash (k * SECTOR_SIZE) info.bytes).length = 18 := by
  rw [flsWriteOps_info flash hk, length_sectorRound]

/-- What is written to a sector depends on what is in it only. -/
theorem flsWriteOps_congr {flash flash' : Nat → UInt8} {k : Nat} (hk : k < 256) (info : USER_FLASH_INFO)
    (h : ∀ a, k * SECTOR_SIZE ≤ a → a < k * SECTOR_SIZE + SECTOR_SIZE → flash a = flash' a) :
    flsWriteOps flash (k * SECTOR_SIZE) info.bytes = flsWriteOps flash' (k * SECTOR_SIZE) info.bytes := by
  have hchip : chipBytes flash (k * SECTOR_SIZE) SECTOR_SIZE = chipBytes flash' (k * SECTOR_SIZE) SECTOR_SIZE :=
    List.map_congr_left fun i hi => h _ (by omega) (by have := List.mem_range.mp hi; omega)
  rw [flsWriteOps_info flash hk, flsWriteOps_info flash' hk, filled, filled, hchip]

/-- The operations on the second copy do not depend on those on the first. -/
theorem second_ops (flash : Nat → UInt8) (m : Nat) (info : USER_FLASH_INFO) :
    flsWriteOps (((flsWriteOps flash USER_FLASH_PARAM1_ADDR info.bytes).take m).foldl FlsOp.apply flash)
      USER_FLASH_PARAM2_ADDR info.bytes = flsWriteOps flash USER_FLASH_PARAM2_ADDR info.bytes := by
  refine @flsWriteOps_congr _ _ 0xF9 (by decide) info fun a ha _ => ?_
  have hsize : SECTOR_SIZE = 4096 := rfl
  exact @foldl_round_of_ne flash 0xF8 a (by decide) m info (by omega)

theorem crashed_eq (flash : Nat → UInt8) (info : USER_FLASH_INFO) (n : Nat) : crashed flash info n =
    ((flsWriteOps flash USER_FLASH_PARAM2_ADDR info.bytes).take (n - 18)).foldl FlsOp.apply
      (((flsWriteOps flash USER_FLASH_PARAM1_ADDR info.bytes).take n).foldl FlsOp.apply flash) := by
  have hlen : (flsWriteOps flash USER_FLASH_PARAM1_ADDR info.bytes).length = 18 :=
    @length_flsWriteOps_info flash 0xF8 (by decide) info
  rw [crashed, saveOps, List.take_append, hlen, List.foldl_append]

/-- The copies after the first `n` operations. -/
theorem infoAt_crashed_first (flash : Nat → UInt8) (info : USER_FLASH_INFO) (n : Nat) :
    infoAt (crashed flash info n) USER_FLASH_PARAM1_ADDR =
      if n ≤ 1 then infoAt flash USER_FLASH_PARAM1_ADDR else torn info (n - 2) := by
  have hsize : SECTOR_SIZE = 4096 := rfl
  have hother : infoAt (crashed flash info n) USER_FLASH_PARAM1_ADDR =
      infoAt (((flsWriteOps flash USER_FLASH_PARAM1_ADDR info.bytes).take n).foldl FlsOp.apply flash)
        USER_FLASH_PARAM1_ADDR := by
    refine Mem.ext_bytes ?_
    rw [bytes_infoAt, bytes_infoAt, crashed_eq, ← second_ops flash n info]
    refine List.map_congr_left fun i hi => @foldl_round_of_ne _ 0xF9 _ (by decide) _ info ?_
    have hi : i < 808 := List.mem_range.mp hi
    have haddr : USER_FLASH_PARAM1_ADDR = 0xF8 * 4096 := rfl
    omega
  rw [hother]
  exact @infoAt_round flash 0xF8 (by decide) n info

theorem infoAt_crashed_second (flash : Nat → UInt8) (info : USER_FLASH_INFO) (n : Nat) :
    infoAt (crashed flash info n) USER_FLASH_PARAM2_ADDR =
      if n ≤ 19 then infoAt flash USER_FLASH_PARAM2_ADDR else torn info (n - 20) := by
  have hsize : SECTOR_SIZE = 4096 := rfl
  have hbefore : infoAt (((flsWriteOps flash USER_FLASH_PARAM1_ADDR info.bytes).take n).foldl FlsOp.apply flash)
      USER_FLASH_PARAM2_ADDR = infoAt flash USER_FLASH_PARAM2_ADDR := by
    refine Mem.ext_bytes ?_
    rw [bytes_infoAt, bytes_infoAt]
    refine List.map_congr_left fun i hi => @foldl_round_of_ne _ 0xF8 _ (by decide) _ info ?_
    have haddr : USER_FLASH_PARAM2_ADDR = 0xF9 * 4096 := rfl
    omega
  rw [crashed_eq, ← second_ops flash n info]
  refine (@infoAt_round _ 0xF9 (by decide) (n - 18) info).trans ?_
  have hsplit : (n - 18 ≤ 1) = (n ≤ 19) := propext (by omega)
  simp only [hsplit]
  split
  · exact hbefore
  · rw [Nat.sub_sub]

/-- What a start makes of a chip. -/
theorem tableRecovers_iff {T T' : USER_FLASH_INFO} : TableRecovers T T' flash ↔ (loaded flash = T ∨ loaded flash = T') ∧
    ((infoAt flash USER_FLASH_PARAM2_ADDR).good = true → infoAt flash USER_FLASH_PARAM2_ADDR = loaded flash) := by
  constructor
  · intro h
    have hworks : soundDriver.Works := ⟨fun _ => rfl, fun _ => rfl⟩
    obtain ⟨u', hload, hone, -, hsecond⟩ := h soundDriver ⟨Fls.installed flash, T, none⟩ hworks rfl rfl
    obtain ⟨u'', hload', hinfo, -, -, hrepaired⟩ := run_UserLoadFlashInfo hworks.io (u := ⟨Fls.installed flash, T, none⟩) rfl
    have hflash := hrepaired (.inl ⟨hworks.alloc _, hworks.alloc _⟩)
    rw [hload] at hload'
    cases hload'
    change u'.gstFlashInfo = loaded flash at hinfo
    change u'.fls.flash = repaired flash at hflash
    rw [hinfo] at hone hsecond
    refine ⟨hone, fun hgood => ?_⟩
    rw [hflash, infoAt_repaired_second, if_pos hgood] at hsecond
    exact hsecond
  · rintro ⟨hone, hsecond⟩ env u henv rfl hlock
    obtain ⟨u', hload, hinfo, -, -, hrepaired⟩ := run_UserLoadFlashInfo henv.io hlock
    have hflash := hrepaired (.inl ⟨henv.alloc _, henv.alloc _⟩)
    refine ⟨u', hload, by rwa [hinfo], ?_, ?_⟩
    · rw [hflash, infoAt_repaired_first, hinfo]
    · rw [hflash, infoAt_repaired_second, hinfo]
      split
      · rename_i hgood
        exact hsecond hgood
      · rfl

/-- The points at which power may be lost: before the first copy is erased, or with it
erased only; when what has been programmed of it is the old table; with the second copy
erased only; and when what has been programmed of that is the new table. -/
def Survivable (T T' : USER_FLASH_INFO) (n : Nat) : Prop :=
  n ≤ 2 ∨ 3 ≤ n ∧ n ≤ 19 ∧ torn T' (n - 2) = T ∨ n = 20 ∨ 21 ≤ n ∧ torn T' (n - 20) = T'

theorem recovers_crashed_iff {T T' : USER_FLASH_INFO} (hfirst : infoAt flash USER_FLASH_PARAM1_ADDR = T)
    (hsecond : infoAt flash USER_FLASH_PARAM2_ADDR = T) (hT : T.good = true) (hT' : T'.good = true) (n : Nat) :
    TableRecovers T T' (crashed flash T' n) ↔ Survivable T T' n := by
  have hA := infoAt_crashed_first flash T' n
  have hB := infoAt_crashed_second flash T' n
  rw [hfirst] at hA
  rw [hsecond] at hB
  rw [tableRecovers_iff, loaded, hA, hB, Survivable]
  by_cases h₁ : n ≤ 1
  · simp [h₁, hT, Nat.le_trans h₁]
  by_cases h₂ : n = 2
  · have hbad : (torn T' 0).good = false := Bool.eq_false_iff.mpr fun h => (good_torn hT').mp h rfl
    subst h₂
    simp [hbad, hT]
  by_cases h₃ : n ≤ 19
  · have hgood : (torn T' (n - 2)).good = true := (good_torn hT').mpr (by omega)
    rw [if_neg h₁, if_pos hgood, if_pos h₃]
    constructor
    · rintro ⟨-, hsame⟩
      exact .inr (.inl ⟨by omega, h₃, (hsame hT).symm⟩)
    · rintro (h | ⟨-, -, hsame⟩ | h | ⟨h, -⟩)
      · omega
      · exact ⟨.inl hsame, fun _ => hsame.symm⟩
      · omega
      · omega
  have hwhole : torn T' (n - 2) = T' := torn_whole (by omega)
  rw [if_neg h₁, hwhole, if_pos hT', if_neg h₃]
  by_cases h₄ : n = 20
  · have hbad : (torn T' 0).good = false := Bool.eq_false_iff.mpr fun h => (good_torn hT').mp h rfl
    subst h₄
    simp [hbad]
  · have hgood : (torn T' (n - 20)).good = true := (good_torn hT').mpr (by omega)
    constructor
    · rintro ⟨-, hsame⟩
      exact .inr (.inr (.inr ⟨by omega, hsame hgood⟩))
    · rintro (h | ⟨-, h, -⟩ | h | ⟨-, hsame⟩)
      · omega
      · omega
      · omega
      · exact ⟨.inr rfl, fun _ => hsame⟩

theorem FlsOp.fail_self (op : FlsOp) (flash : Nat → UInt8) : op.fail flash (fun i => flash (op.addr + i)) = flash := by
  have hsame : ∀ addr len, rewrite flash addr len (fun i => flash (addr + i)) = flash := by
    intro addr len
    funext a
    by_cases hin : addr ≤ a ∧ a < addr + len
    · rw [rewrite_of_mem hin, Nat.add_sub_cancel' hin.1]
    · exact rewrite_of_not_mem hin
  cases op with
  | read addr len => rfl
  | erase sector => exact hsame _ _
  | page_write page buf => exact hsame _ _

/-- Operations of which the first `n` succeed and the next one fails and changes nothing. -/
theorem perform_lost {ops : List FlsOp} {s : Fls} {n : Nat} (hdone : ∀ j < n, env.io (s.operations + j) = none)
    (hlost : ∀ op, (ops.drop n).head? = some op → ∃ left, env.io (s.operations + n) = some left ∧
      op.fail ((ops.take n).foldl FlsOp.apply s.flash) left = (ops.take n).foldl FlsOp.apply s.flash) :
    (perform env ops s).2.flash = (ops.take n).foldl FlsOp.apply s.flash ∧
      (perform env ops s).2.operations = s.operations + min (n + 1) ops.length := by
  cases hrest : ops.drop n with
  | nil =>
    have hlen : ops.length ≤ n := List.drop_eq_nil_iff.mp hrest
    rw [perform_of_none fun j hj => hdone j (Nat.lt_of_lt_of_le hj hlen), List.take_of_length_le hlen,
      Nat.min_eq_right (by omega)]
    exact ⟨rfl, rfl⟩
  | cons op rest =>
    have hlen : (ops.take n).length = n := by
      have hdrop := congrArg List.length hrest
      rw [List.length_drop, List.length_cons] at hdrop
      rw [List.length_take]
      omega
    have hsplit : ops = ops.take n ++ op :: rest := by rw [← hrest, List.take_append_drop]
    have hmore : ops.length = n + (rest.length + 1) := by
      rw [hsplit, List.length_append, hlen, List.length_cons]
    obtain ⟨left, hfail, hsame⟩ := hlost op (by rw [hrest]; rfl)
    have hperform := @perform_of_some env s (ops.take n) rest op left (by rwa [hlen]) (by rwa [hlen])
    rw [← hsplit, hlen, hsame] at hperform
    rw [hperform, Nat.min_eq_left (by omega)]
    exact ⟨rfl, rfl⟩

/-- A copy is written as far as the driver goes. -/
theorem run_writeInfo_any (halloc : ∀ n, env.alloc n = true) {k : Nat} (hk : k < 256) (hlock : u.fls.fls_lock ≠ 0) :
    ∃ fls : Fls, (writeInfo env (k * SECTOR_SIZE)).run u = .ok ((), { u with fls := fls }) ∧ fls.fls_lock ≠ 0 ∧
      fls.flash = (perform env (flsWriteOps u.fls.flash (k * SECTOR_SIZE) u.gstFlashInfo.bytes) u.fls.writing).2.flash ∧
      fls.operations =
        (perform env (flsWriteOps u.fls.flash (k * SECTOR_SIZE) u.gstFlashInfo.bytes) u.fls.writing).2.operations := by
  have hsize : SECTOR_SIZE = 4096 := rfl
  have htotal : TOTAL_SIZE = 1048576 := rfl
  have hlen : u.gstFlashInfo.bytes.length = 808 := u.gstFlashInfo.size
  have haddr : k * SECTOR_SIZE + 4096 ≤ 1048576 := by
    rw [hsize]
    omega
  have hone : lastByte (k * SECTOR_SIZE) u.gstFlashInfo.bytes.length / SECTOR_SIZE = k * SECTOR_SIZE / SECTOR_SIZE := by
    rw [lastByte, hsize]
    omega
  have hfits := (@piecesFit_iff (k * SECTOR_SIZE) u.gstFlashInfo.bytes.length (by omega) (by omega) (by omega)).mpr (.inl hone)
  have hwrite := run_fls_write_any env hlock (by omega) (by omega) (by omega) (halloc _) hfits
  obtain ⟨r, hr⟩ : ∃ r, r = perform env (flsWriteOps u.fls.flash (k * SECTOR_SIZE) u.gstFlashInfo.bytes) u.fls.writing :=
    ⟨_, rfl⟩
  rw [← hr] at hwrite ⊢
  refine ⟨{ r.2 with fls_lock := if r.1 then u.fls.fls_lock else u.fls.fls_lock + 1 }, ?_, ?_, rfl, rfl⟩
  · rw [writeInfo, run_get_bind, run_bind, UserFlash.call, run_zoom hwrite]
    rfl
  · dsimp only
    split
    · exact hlock
    · exact Nat.succ_ne_zero _

/-- `UserSaveFlashInfo` with a loss of power after `n` of its operations. -/
theorem run_UserSaveFlashInfo_powerLost (hlock : u.fls.fls_lock = 1) (n : Nat) :
    ∃ u', (UserSaveFlashInfo (powerLost u n)).run u = .ok ((), u') ∧
      u'.fls.flash = crashed u.fls.flash u.gstFlashInfo n := by
  have hlen : ∀ flash, (flsWriteOps flash USER_FLASH_PARAM1_ADDR u.gstFlashInfo.bytes).length = 18 :=
    fun flash => @length_flsWriteOps_info flash 0xF8 (by decide) u.gstFlashInfo
  obtain ⟨fls₁, hfirst, hlock₁, hflash₁, hops₁⟩ :=
    @run_writeInfo_any (powerLost u n) u (fun _ => rfl) 0xF8 (by decide) (by omega)
  obtain ⟨fls₂, hsecond, -, hflash₂, -⟩ :=
    @run_writeInfo_any (powerLost u n) { u with fls := fls₁ } (fun _ => rfl) 0xF9 (by decide) hlock₁
  have haddr₁ : 0xF8 * SECTOR_SIZE = USER_FLASH_PARAM1_ADDR := rfl
  have haddr₂ : 0xF9 * SECTOR_SIZE = USER_FLASH_PARAM2_ADDR := rfl
  have hflash : u.fls.writing.flash = u.fls.flash := rfl
  have hflash' : fls₁.writing.flash = fls₁.flash := rfl
  rw [haddr₁] at hfirst hflash₁ hops₁
  rw [haddr₂] at hsecond hflash₂
  refine ⟨{ u with fls := fls₂, saved := some u.gstFlashInfo }, ?_, ?_⟩
  · simp only [UserSaveFlashInfo, run_bind, hfirst, ok_bind, hsecond, run_modify]
  · have hdone : ∀ m, m < u.fls.operations + n → (powerLost u n).io m = none := fun m hm => if_pos hm
    have hlost : ∀ m, u.fls.operations + n ≤ m → ∃ left, (powerLost u n).io m = some left ∧
        ∀ op, ((saveOps u.fls.flash u.gstFlashInfo).drop n).head? = some op →
          op.fail (crashed u.fls.flash u.gstFlashInfo n) left = crashed u.fls.flash u.gstFlashInfo n := by
      intro m hm
      refine ⟨_, if_neg (Nat.not_lt.mpr hm), fun op hop => ?_⟩
      rw [hop]
      exact op.fail_self _
    have hcrashed := crashed_eq u.fls.flash u.gstFlashInfo n
    obtain ⟨hchip₁, hcount₁⟩ := @perform_lost (powerLost u n)
      (flsWriteOps u.fls.flash USER_FLASH_PARAM1_ADDR u.gstFlashInfo.bytes) u.fls.writing n
      (fun j hj => hdone _ (Nat.add_lt_add_left hj _)) (fun op hop => by
        have hn : n < 18 := by
          rw [← hlen u.fls.flash]
          refine Nat.lt_of_not_le fun hle => ?_
          rw [List.drop_eq_nil_of_le hle] at hop
          cases hop
        obtain ⟨left, hfail, hsame⟩ := hlost (u.fls.operations + n) (Nat.le_refl _)
        have hbefore : n - 18 = 0 := by omega
        rw [hbefore, List.take_zero, List.foldl_nil] at hcrashed
        refine ⟨left, hfail, ?_⟩
        rw [hflash, ← hcrashed]
        refine hsame op ?_
        rw [saveOps, List.drop_append, List.head?_append, hop]
        rfl)
    rw [hlen] at hcount₁
    rw [hflash] at hchip₁
    have hchip₁ := hflash₁.trans hchip₁
    have hcount₁ := hops₁.trans hcount₁
    have hops₂ : flsWriteOps fls₁.flash USER_FLASH_PARAM2_ADDR u.gstFlashInfo.bytes =
        flsWriteOps u.fls.flash USER_FLASH_PARAM2_ADDR u.gstFlashInfo.bytes := by
      rw [hchip₁]
      exact second_ops u.fls.flash n u.gstFlashInfo
    obtain ⟨hchip₂, -⟩ := @perform_lost (powerLost u n)
      (flsWriteOps fls₁.flash USER_FLASH_PARAM2_ADDR u.gstFlashInfo.bytes) fls₁.writing (n - 18)
      (fun j hj => hdone _ (by
        change fls₁.operations + j < _
        rw [hcount₁]
        change u.fls.operations + _ + j < _
        omega)) (fun op hop => by
        obtain ⟨left, hfail, hsame⟩ := hlost (fls₁.operations + (n - 18)) (by
          rw [hcount₁]
          change _ ≤ u.fls.operations + _ + _
          omega)
        refine ⟨left, hfail, ?_⟩
        by_cases hn : n < 18
        · have hbefore : n - 18 = 0 := by omega
          have hread : ∃ addr len, op = .read addr len := by
            rw [hbefore, ← haddr₂, flsWriteOps_info _ (by decide)] at hop
            cases hop
            exact ⟨_, _, rfl⟩
          obtain ⟨addr, len, rfl⟩ := hread
          rfl
        · have hchip : (List.take (n - 18) (flsWriteOps fls₁.flash USER_FLASH_PARAM2_ADDR u.gstFlashInfo.bytes)).foldl
              FlsOp.apply fls₁.writing.flash = crashed u.fls.flash u.gstFlashInfo n := by
            rw [hops₂, hcrashed, hflash', hchip₁]
          rw [hchip]
          refine hsame op ?_
          rw [saveOps, List.drop_append, hlen, List.drop_eq_nil_of_le (by rw [hlen]; omega), List.nil_append, ← hops₂]
          exact hop)
    dsimp only at hflash₂ ⊢
    rw [hcrashed, hflash₂, hchip₂, hflash', hops₂, hchip₁]

/-- Power is lost after `n` operations of `UserSaveFlashInfo`, and the next start recovers. -/
def CrashConsistent (u : UserFlash) (T : USER_FLASH_INFO) (n : Nat) : Prop :=
  ∃ u', (UserSaveFlashInfo (powerLost u n)).run u = .ok ((), u') ∧ TableRecovers T u.gstFlashInfo u'.fls.flash

/-- Exactly the survivable points are survived. -/
theorem crashConsistent_iff (h : u.Saving T) (n : Nat) : CrashConsistent u T n ↔ Survivable T u.gstFlashInfo n := by
  obtain ⟨u₁, hsave, hflash⟩ := run_UserSaveFlashInfo_powerLost h.fls_lock n
  rw [← recovers_crashed_iff h.first h.second h.good h.good' n, ← hflash]
  constructor
  · rintro ⟨u', hsave', hrecovers⟩
    rw [hsave] at hsave'
    cases hsave'
    exact hrecovers
  · exact fun hrecovers => ⟨u₁, hsave, hrecovers⟩

/-- The empty table with one device added. -/
def oneDevice : USER_FLASH_INFO where
  bytes := bytesU32 USER_FLASH_ID1 ++ bytesU32 USER_FLASH_ID2 ++ (bytesU16 1 ++ [1, 2, 3, 4, 5, 6]) ++ List.replicate 792 0
  size := by
    rw [List.length_append, List.length_append, List.length_append, List.length_replicate]
    rfl

/-- The device is about to be saved. -/
def addingFirst : UserFlash where
  fls := Fls.installed (withInfo (withInfo (fun _ => 0xff) USER_FLASH_PARAM1_ADDR USER_FLASH_INFO.empty)
    USER_FLASH_PARAM2_ADDR USER_FLASH_INFO.empty)
  gstFlashInfo := oneDevice
  saved := none

theorem addingFirst_saving : addingFirst.Saving USER_FLASH_INFO.empty where
  fls_lock := rfl
  first := by
    change infoAt (withInfo _ _ _) _ = _
    rw [infoAt_withInfo_of_ne _ _ (by decide), infoAt_withInfo]
  second := infoAt_withInfo _ _ _
  good := empty_good
  good' := by decide

theorem erased_copy_survived : CrashConsistent addingFirst USER_FLASH_INFO.empty 2 ∧
    CrashConsistent addingFirst USER_FLASH_INFO.empty 20 :=
  ⟨(crashConsistent_iff addingFirst_saving 2).mpr (.inl (Nat.le_refl _)),
    (crashConsistent_iff addingFirst_saving 20).mpr (.inr (.inr (.inl rfl)))⟩

/-- Power is lost once the first page of the first copy has been programmed: the table that
is loaded is the page and erased bytes behind it. -/
theorem torn_table_loaded :
    ¬ ∀ (u : UserFlash) (T : USER_FLASH_INFO) (n : Nat), u.Saving T → CrashConsistent u T n := by
  intro h
  obtain ⟨u₁, hsave, hflash⟩ := run_UserSaveFlashInfo_powerLost addingFirst_saving.fls_lock 3
  obtain ⟨u', hsave', hrecovers⟩ := h addingFirst USER_FLASH_INFO.empty 3 addingFirst_saving
  rw [hsave] at hsave'
  cases hsave'
  rw [hflash, recovers_crashed_iff addingFirst_saving.first addingFirst_saving.second addingFirst_saving.good
    addingFirst_saving.good'] at hrecovers
  obtain hbad | ⟨-, -, hsame⟩ | hbad | ⟨hbad, -⟩ := hrecovers
  · omega
  · have hbyte := congrArg (fun info : USER_FLASH_INFO => info.bytes.getD 300 0) hsame
    revert hbyte
    decide +kernel
  · omega
  · omega

end ZCloud
