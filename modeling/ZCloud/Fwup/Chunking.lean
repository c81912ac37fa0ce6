import ZCloud.Fwup.Update

open Memory Program

namespace ZCloud

variable {env : FwupEnv} {src : tls_fwup_image_src} {fls : Fls} {hdr : tls_fwup_image_hdr}
  {session_id : Nat}

/-- The globals of an update in session `session_id` that has received the
header `hdr` and programmed the bytes `d` behind it, the driver having been in
state `fls`. -/
structure Programming (src : tls_fwup_image_src) (fls : Fls) (hdr : tls_fwup_image_hdr)
    (session_id : Nat) (busy : Bool) (received : Nat) (d : List UInt8) (s : Fwup) : Prop where
  fast : FastWritten fls (imageBase fls.flash hdr) d s.fls
  installed : s.installed = true
  src_eq : s.current_image_src = src
  session : s.current_session_id = session_id
  state : s.current_state = { TLS_FWUP_STATE.none with BUSY := busy }
  received_len : s.received_len = received
  total_len : s.total_len = hdr.file_len
  updated_len : s.updated_len = d.length
  program_base : s.program_base = imageBase fls.flash hdr
  program_offset : s.program_offset = d.length
  current_hdr : s.current_hdr = hdr
  running : s.resetting = false

/-- The sector cache is there and holds no bytes of an earlier session for the
first sector of the image. -/
structure CacheReady (fls : Fls) (hdr : tls_fwup_image_hdr) : Prop where
  cache : fls.gsflscache.isSome
  clean : fls.gsSecOffset = 0 ∨ fls.gsSector ≠ imageBase fls.flash hdr / SECTOR_SIZE

/-- The globals when a request has been handled and the device is reset. -/
def resetDone (s : Fwup) : Fwup :=
  { s with current_state := { s.current_state with BUSY := false }, resetting := true }

private theorem run_program (henv : env.Reliable) (hready : CacheReady fls hdr) {received : Nat}
    {d buffer : List UInt8} {s : Fwup} (hs : Programming src fls hdr session_id true received d s)
    (hbuffer : buffer ≠ [])
    (hchip : imageBase fls.flash hdr + d.length + buffer.length ≤ TOTAL_SIZE) :
    ∃ fls', (callFls (tls_fls_fast_write env.toFlsEnv (u32 (s.program_base + s.program_offset)) buffer)).run s =
        .ok (TLS_FLS_STATUS_OK, s.withFls fls') ∧
      u32 (s.program_offset + buffer.length) = (d ++ buffer).length ∧
      u32 (s.updated_len + buffer.length) = (d ++ buffer).length ∧
      FastWritten fls (imageBase fls.flash hdr) (d ++ buffer) fls' := by
  have htotal : TOTAL_SIZE = 1048576 := rfl
  obtain ⟨fls', hrun, hfast⟩ := run_fast_write henv.io (imageBase_mod _ _) hready.cache hready.clean
    hs.fast hbuffer hchip
  refine ⟨fls', ?_, ?_, ?_, hfast⟩
  · rw [hs.program_base, hs.program_offset, u32_of_lt (by omega)]
    exact run_callFls hrun
  · rw [hs.program_offset, List.length_append]
    exact u32_of_lt (by omega)
  · rw [hs.updated_len, List.length_append]
    exact u32_of_lt (by omega)

/-- A request that does not complete the image is programmed. -/
theorem run_programImage_more (henv : env.Reliable) (hready : CacheReady fls hdr) {received : Nat}
    {d buffer : List UInt8} {s : Fwup} (hs : Programming src fls hdr session_id true received d s)
    (hbuffer : buffer ≠ []) (hchip : imageBase fls.flash hdr + d.length + buffer.length ≤ TOTAL_SIZE)
    (hmore : (d ++ buffer).length < hdr.file_len) :
    ∃ s', (programImage env buffer).run s = .ok (TLS_FWUP_REQ_STATUS_SUCCESS, s') ∧
      Programming src fls hdr session_id true received (d ++ buffer) s' := by
  obtain ⟨fls', hrun, hoffset, hupdated, hfast⟩ := run_program henv hready hs hbuffer hchip
  have hpos := List.length_pos_iff.mpr hbuffer
  have hnot : ¬ (d ++ buffer).length ≥ (s.withFls fls').total_len := by
    rw [show (s.withFls fls').total_len = hdr.file_len from hs.total_len]
    omega
  refine ⟨{ s.withFls fls' with
      program_offset := (d ++ buffer).length, updated_len := (d ++ buffer).length }, ?_,
    ⟨hfast, hs.installed, hs.src_eq, hs.session, hs.state, hs.received_len, hs.total_len, rfl,
      hs.program_base, rfl, hs.current_hdr, hs.running⟩⟩
  have hoffset' : u32 ((s.withFls fls').program_offset + buffer.length) = (d ++ buffer).length := hoffset
  have hupdated' : u32 ((s.withFls fls').updated_len + buffer.length) = (d ++ buffer).length := hupdated
  simp only [programImage, gt_iff_lt, if_pos hpos, run_bind, run_get, ok_bind, hrun, ne_eq, not_true,
    ↓reduceIte, run_modify, hoffset', hupdated', if_neg hnot, run_pure]

/-- The globals of an update whose image the chip holds. -/
structure Programmed (hdr : tls_fwup_image_hdr) (base : Nat) (s : Fwup) : Prop where
  program_base : s.program_base = base
  total_len : s.total_len = hdr.file_len
  current_hdr : s.current_hdr = hdr
  state : s.current_state = { TLS_FWUP_STATE.none with BUSY := true }
  lock : s.fls.fls_lock = 1

theorem length_newFooter (base length image_checksum : Nat) :
    (newFooter base length image_checksum).toBytes.length = sizeof_tls_fwup_boot_footer := rfl

private theorem run_acceptImage (henv : env.Reliable) {base : Nat} {s : Fwup} {footer : List UInt8}
    (hs : Programmed hdr base s) (hfooter : footerBytes s.fls.flash = footer)
    (hfirmware : hdr.dest_specific = TLS_FWUP_DEST_SPECIFIC_FIRMWARE → TLS_FLASH_FIRMWARE1_ADDR ≤ base)
    {region : List UInt8} (hregion : flashBytes s.fls.flash base hdr.file_len = region) :
    ∃ status s', (acceptImage env (calculate_crc8 0 region) (imageChecksum region)).run s = .ok (status, s') ∧
      s'.updated_len = s.updated_len ∧ s'.total_len = s.total_len ∧
      outcome hdr base (resetDone s') = checkedOutcome hdr base footer region := by
  by_cases hcrc : hdr.crc8 ≠ calculate_crc8 0 region
  · refine ⟨TLS_FWUP_REQ_STATUS_FCRC, { s with
      current_state := { s.current_state with ERROR_CRC := true } }, ?_, rfl, rfl, ?_⟩
    · simp only [acceptImage, run_bind, run_get, ok_bind, hs.current_hdr, if_pos hcrc, setError, run_modify,
        run_pure]
    · rw [checkedOutcome, if_pos hcrc, ← hfooter, ← hregion]
      simp only [outcome, resetDone, hs.state, hs.current_hdr]
      rfl
  · by_cases hdest : hdr.dest_specific = TLS_FWUP_DEST_SPECIFIC_FIRMWARE
    · obtain ⟨fls', hwrite, hflash, -⟩ := run_fls_write_head henv.io henv.alloc hs.lock
        (newFooter base hdr.file_len (imageChecksum region)).toBytes
        (List.length_pos_iff.mp (by rw [length_newFooter]; decide)) (by rw [length_newFooter]; decide)
      rw [length_newFooter] at hflash
      have hcommit := run_callFls (s := s.commit (newFooter base hdr.file_len (imageChecksum region))) hwrite
      refine ⟨TLS_FWUP_REQ_STATUS_SUCCESS,
        { (s.commit (newFooter base hdr.file_len (imageChecksum region))).withFls fls' with
          current_state := { s.current_state with COMPLETE := true } }, ?_, rfl, rfl, ?_⟩
      · simp only [acceptImage, run_bind, run_get, ok_bind, hs.current_hdr, if_neg hcrc, if_pos hdest,
          hs.program_base, hs.total_len, TLS_FLASH_BOOT_FOOTER_ADDR, run_modify, hcommit, ne_eq, not_true,
          ↓reduceIte, setError, run_pure]
        rfl
      · have hbase : sizeof_tls_fwup_boot_footer ≤ base := Nat.le_trans (by decide) (hfirmware hdest)
        have hregion' : flashBytes fls'.flash base hdr.file_len = region := by
          rw [← hregion]
          refine flashBytes_congr fun i _ => ?_
          rw [hflash, if_neg (by omega)]
        have hbytes : footerBytes fls'.flash = (newFooter base hdr.file_len (imageChecksum region)).toBytes := by
          refine (flashBytes_eq_take ?_ (Nat.le_of_eq (length_newFooter ..).symm)).trans
            (List.take_of_length_le (Nat.le_of_eq (length_newFooter ..)))
          intro i hi
          rw [length_newFooter] at hi
          rw [show TLS_FLASH_BOOT_FOOTER_ADDR + i = i from Nat.zero_add i, hflash, if_pos hi]
        rw [checkedOutcome, if_neg hcrc, if_pos hdest, ← hbytes]
        generalize newFooter base hdr.file_len (imageChecksum region) = footer
        rw [← hregion']
        simp only [outcome, resetDone, hs.state]
        rw [show ((s.commit footer).withFls fls').current_hdr = hdr from hs.current_hdr]
        rfl
    · refine ⟨TLS_FWUP_REQ_STATUS_SUCCESS, { s with
        current_state := { s.current_state with COMPLETE := true } }, ?_, rfl, rfl, ?_⟩
      · simp only [acceptImage, run_bind, run_get, ok_bind, hs.current_hdr, if_neg hcrc, if_neg hdest,
          setError, run_modify, run_pure]
      · rw [checkedOutcome, if_neg hcrc, if_neg hdest, ← hfooter, ← hregion]
        simp only [outcome, resetDone, hs.state, hs.current_hdr]
        rfl

/-- The check of an image that the chip holds once the sector cache has been
given back. -/
private theorem run_verifyImage (henv : env.Reliable) {base : Nat} {s : Fwup} {fls' : Fls}
    (hs : Programmed hdr base (s.withFls fls'))
    (hdestroy : (tls_fls_fast_write_destroy env.toFlsEnv).run s.fls = .ok ((), fls'))
    (hchip : base + hdr.file_len ≤ TOTAL_SIZE)
    (hfirmware : hdr.dest_specific = TLS_FWUP_DEST_SPECIFIC_FIRMWARE → TLS_FLASH_FIRMWARE1_ADDR ≤ base) :
    ∃ status s', (verifyImage env).run s = .ok (status, s') ∧ s'.updated_len = s.updated_len ∧
      s'.total_len = s.total_len ∧ outcome hdr base (resetDone s') =
        checkedOutcome hdr base (footerBytes fls'.flash) (flashBytes fls'.flash base hdr.file_len) := by
  have halloc : (callFls (tls_mem_alloc env.toFlsEnv)).run (s.withFls fls') =
      .ok (true, s.withFls { fls' with allocations := fls'.allocations + 1 }) := by
    rw [← henv.alloc fls'.allocations]
    exact run_callFls rfl
  obtain ⟨s₁, hs₁⟩ : ∃ s₁, s₁ = s.withFls { fls' with allocations := fls'.allocations + 1 } := ⟨_, rfl⟩
  have hflash₁ : s₁.fls.flash = fls'.flash := by
    rw [hs₁]
    rfl
  have hp₁ : Programmed hdr base s₁ := by
    rw [hs₁]
    exact ⟨hs.program_base, hs.total_len, hs.current_hdr, hs.state, hs.lock⟩
  obtain ⟨ops, hloop⟩ := @run_verifyLoop env henv.io s₁ base hdr.file_len
    0 hdr.file_len 0 ⟨(List.range 1024).map env.heap, by simp⟩ hp₁.lock (by omega) (Nat.le_refl _)
    (Or.inl rfl) (fun h => absurd rfl h)
  rw [Nat.zero_add] at hloop
  obtain ⟨status, s', haccept, hupdated, htotal, houtcome⟩ := run_acceptImage henv
    (s := s₁.withFls (s₁.fls.withChip s₁.fls.flash ops))
    ⟨hp₁.program_base, hp₁.total_len, hp₁.current_hdr, hp₁.state, hp₁.lock⟩ rfl hfirmware rfl
  rw [← hflash₁]
  refine ⟨status, s', ?_, hupdated.trans (by rw [hs₁]; rfl), htotal.trans (by rw [hs₁]; rfl), houtcome⟩
  simp only [verifyImage, run_bind, run_callFls hdestroy, ok_bind, halloc, Bool.not_true,
    Bool.false_eq_true, ↓reduceIte, run_get, ← hs₁, hp₁.program_base, hp₁.total_len]
  have hstart : (verifyLoop env base hdr.file_len 0 hdr.file_len ⟨(List.range 1024).map env.heap, by simp⟩
      0 0 0).run s₁ = _ := hloop
  rw [hstart]
  exact haccept

/-- The place of the boot footer once the sector cache has been given back. -/
private theorem footerBytes_written {fls₁ fls₂ : Fls} {base : Nat} {d : List UInt8} (hbase : base % SECTOR_SIZE = 0)
    (hcache : fls.gsflscache.isSome) (hfast : FastWritten fls base d fls₁) (hne : d ≠ [])
    (hprogrammed : ∀ i < d.length, fls₂.flash (base + i) = d.getD i 0)
    (hkept : ∀ a < base, fls₂.flash a = flushedFlash (base / SECTOR_SIZE) fls a)
    (hflushed : ∀ m, fls₁.gsflscache = some m → fls₂.flash = writtenSector fls₁.flash fls₁.gsSector m) :
    footerBytes fls₂.flash = writtenFooter base fls d := by
  have hsize : SECTOR_SIZE = 4096 := rfl
  have hfooter : sizeof_tls_fwup_boot_footer = 44 := rfl
  by_cases hzero : base = 0
  · subst hzero
    rw [writtenFooter, if_pos rfl]
    refine List.map_congr_left fun i hi => ?_
    have hi' := List.mem_range.mp hi
    rw [show TLS_FLASH_BOOT_FOOTER_ADDR + i = 0 + i from rfl]
    split
    · exact hprogrammed i ‹_›
    · obtain ⟨m₀, hm₀⟩ := Option.isSome_iff_exists.mp hcache
      obtain ⟨m, hm, hbytes⟩ := hfast.tail (by omega) m₀ hm₀
      have hsector : fls₁.gsSector = 0 := by
        rw [hfast.sector hne, hsize]
        omega
      rw [hflushed m hm, hsector, writtenSector, rewrite_of_mem (by omega), hbytes,
        List.getD_append_right _ _ _ _ (by omega), Fls.cached, hm₀]
      simp only [List.getD_eq_getElem?_getD, List.getElem?_drop]
      rw [show d.length + (0 + i - 0 * SECTOR_SIZE - d.length) = i by omega]
  · rw [writtenFooter, if_neg hzero]
    refine flashBytes_congr fun i hi => hkept _ ?_
    rw [hsize] at hbase
    rw [show TLS_FLASH_BOOT_FOOTER_ADDR + i = i from Nat.zero_add i]
    omega

/-- The request that completes the image has it checked. -/
theorem run_programImage_last (henv : env.Reliable) (hready : CacheReady fls hdr) {received : Nat}
    {d buffer : List UInt8} {s : Fwup} (hs : Programming src fls hdr session_id true received d s)
    (hbuffer : buffer ≠ []) (hchip : imageBase fls.flash hdr + d.length + buffer.length < TOTAL_SIZE)
    (hlast : hdr.file_len ≤ (d ++ buffer).length) :
    ∃ status s', (programImage env buffer).run s = .ok (status, s') ∧ s'.updated_len ≥ s'.total_len ∧
      outcome hdr (imageBase fls.flash hdr) (resetDone s') =
        checkedOutcome hdr (imageBase fls.flash hdr) (writtenFooter (imageBase fls.flash hdr) fls (d ++ buffer))
          ((d ++ buffer).take hdr.file_len) := by
  obtain ⟨fls₁, hrun, hoffset, hupdated, hfast⟩ := run_program henv hready hs hbuffer (Nat.le_of_lt hchip)
  have htotal : TOTAL_SIZE = 1048576 := rfl
  have hpos := List.length_pos_iff.mpr hbuffer
  have hne : d ++ buffer ≠ [] := by simp [hbuffer]
  have hlen : (d ++ buffer).length = d.length + buffer.length := List.length_append
  obtain ⟨fls₂, hdestroy, hprogrammed, hkept, hlock, hflushed⟩ := run_fast_write_destroy henv.io (imageBase_mod _ _)
    (hfast.written hne) (hfast.sector hne) (by omega)
  rw [← flashBytes_eq_take hprogrammed hlast,
    ← footerBytes_written (imageBase_mod _ _) hready.cache hfast hne hprogrammed hkept hflushed]
  obtain ⟨status, s', hverify, hupdated', htotal', houtcome⟩ := run_verifyImage henv
    (s := { s.withFls fls₁ with
      program_offset := (d ++ buffer).length, updated_len := (d ++ buffer).length })
    ⟨hs.program_base, hs.total_len, hs.current_hdr, hs.state, hlock.trans hfast.lock⟩ hdestroy
    (by omega) (le_imageBase fls.flash)
  have hdone : (d ++ buffer).length ≥ (s.withFls fls₁).total_len := by
    rw [show (s.withFls fls₁).total_len = hdr.file_len from hs.total_len]
    exact hlast
  refine ⟨status, s', ?_, ?_, houtcome⟩
  · have hoffset' : u32 ((s.withFls fls₁).program_offset + buffer.length) = (d ++ buffer).length := hoffset
    have hupdated' : u32 ((s.withFls fls₁).updated_len + buffer.length) = (d ++ buffer).length := hupdated
    simp only [programImage, gt_iff_lt, if_pos hpos, run_bind, run_get, ok_bind, hrun, ne_eq, not_true,
      ↓reduceIte, run_modify, hoffset', hupdated', if_pos hdone]
    exact hverify
  · rw [hupdated', htotal']
    exact hdone

/-- The end of a request: the globals once `request_finish` has been passed. -/
def requestDone (s : Fwup) : Fwup :=
  if s.updated_len ≥ s.total_len then resetDone s
  else { s with current_state := { s.current_state with BUSY := false } }

theorem run_scheduler {data : List UInt8} {status : TLS_FWUP_REQ_STATUS} {s s' : Fwup}
    (h : (handleRequest env data).run { s with current_state := { s.current_state with BUSY := true } } =
      .ok (status, s')) : (fwup_scheduler env data).run s = .ok (status, requestDone s') := by
  by_cases hdone : s'.updated_len ≥ s'.total_len
  · rw [requestDone, if_pos hdone]
    simp only [fwup_scheduler, run_bind, ok_bind, h, setError, run_modify, run_get, if_pos hdone,
      tls_sys_reset, run_pure, resetDone]
  · rw [requestDone, if_neg hdone]
    simp only [fwup_scheduler, run_bind, ok_bind, h, setError, run_modify, run_get, if_neg hdone,
      run_pure]

theorem run_request_sync (henv : env.Reliable) {data : List UInt8} {r : TLS_FWUP_REQ_STATUS}
    {s t : Fwup} (hinstalled : s.installed = true) (hsession : s.current_session_id = session_id)
    (hdata : data ≠ [])
    (h : (handleRequest env data).run { s with
      semaphores := s.semaphores + 1, current_state := { s.current_state with BUSY := true } } =
        .ok (r, t)) :
    (tls_fwup_request_sync env session_id data).run s = .ok (r.result, requestDone t) := by
  have hlen : ¬ data.length = 0 := fun h => hdata (List.length_eq_zero_iff.mp h)
  have hscheduler := run_scheduler (s := { s with semaphores := s.semaphores + 1 }) h
  simp only [hinstalled, hsession] at hscheduler
  simp only [tls_fwup_request_sync, run_bind, run_get, ok_bind, hinstalled, hsession, Bool.not_true,
    Bool.false_eq_true, ↓reduceIte, ne_eq, not_true, hlen, run_set, henv.sem, hscheduler, run_pure]

/-- What the globals show of an update that has programmed part of an image. -/
theorem outcome_programming {received : Nat} {d : List UInt8} {s : Fwup}
    (hs : Programming src fls hdr session_id false received d s) (hmore : d.length < hdr.file_len) :
    outcome hdr (imageBase fls.flash hdr) s = bodyOutcome hdr fls d := by
  have hstate : s.current_state = TLS_FWUP_STATE.none := hs.state
  rw [bodyOutcome]
  by_cases hnil : d = []
  · have hzero : ¬ hdr.file_len = 0 := by omega
    rw [if_pos hnil, outcome, (hs.fast.start hnil).1, hs.current_hdr, hstate, hs.running,
      decide_eq_false hzero]
  · have hw := hs.fast.written hnil
    have hflash : s.fls.flash = rewrite (flushedFlash (imageBase fls.flash hdr / SECTOR_SIZE) fls)
        (imageBase fls.flash hdr) (wholeSectors d) fun i => d.getD i 0 := by
      funext a
      by_cases hin : imageBase fls.flash hdr ≤ a ∧ a < imageBase fls.flash hdr + wholeSectors d
      · have hat := hw.programmed (a - imageBase fls.flash hdr) (by omega)
        rw [Nat.add_sub_cancel' hin.1] at hat
        rw [rewrite_of_mem hin, hat]
      · rw [rewrite_of_not_mem hin, hw.kept a hin]
    rw [if_neg hnil, if_pos hmore, outcome, hflash, hs.current_hdr, hstate, hs.running]

/-- What becomes of the globals when a request brings the bytes `buffer` behind
the bytes `d` of an image. -/
theorem run_programImage (henv : env.Reliable) (hready : CacheReady fls hdr) {received : Nat}
    {d : List UInt8} (buffer : List UInt8) {s : Fwup} (hs : Programming src fls hdr session_id true received d s)
    (hchip : imageBase fls.flash hdr + d.length + buffer.length < TOTAL_SIZE)
    (hd : buffer = [] → d = []) :
    ∃ status s', (programImage env buffer).run s = .ok (status, s') ∧
      ((d ++ buffer).length < hdr.file_len →
        Programming src fls hdr session_id false received (d ++ buffer) (requestDone s')) ∧
      (hdr.file_len ≤ (d ++ buffer).length → (requestDone s').resetting = true ∧
        outcome hdr (imageBase fls.flash hdr) (requestDone s') = bodyOutcome hdr fls (d ++ buffer)) := by
  by_cases hnil : buffer = []
  · obtain rfl := hd hnil
    subst hnil
    refine ⟨TLS_FWUP_REQ_STATUS_SUCCESS, s, rfl, fun hmore => ?_, fun hlast => ?_⟩
    · have hnot : ¬ s.updated_len ≥ s.total_len := by
        rw [hs.updated_len, hs.total_len]
        exact Nat.not_le.mpr hmore
      rw [requestDone, if_neg hnot]
      exact ⟨hs.fast, hs.installed, hs.src_eq, hs.session, by rw [hs.state], hs.received_len, hs.total_len,
        hs.updated_len, hs.program_base, hs.program_offset, hs.current_hdr, hs.running⟩
    · have hdone : s.updated_len ≥ s.total_len := by
        rw [hs.updated_len, hs.total_len]
        exact hlast
      have hzero : hdr.file_len = 0 := Nat.le_zero.mp hlast
      rw [requestDone, if_pos hdone]
      refine ⟨rfl, ?_⟩
      rw [List.append_nil, bodyOutcome, if_pos rfl, decide_eq_true hzero]
      simp only [outcome, resetDone, hs.state, hs.current_hdr, (hs.fast.start rfl).1]
      rfl
  · by_cases hmore : (d ++ buffer).length < hdr.file_len
    · obtain ⟨s', hrun, hs'⟩ := run_programImage_more henv hready hs hnil (Nat.le_of_lt hchip) hmore
      refine ⟨_, s', hrun, fun _ => ?_, fun hlast => absurd hmore (Nat.not_lt.mpr hlast)⟩
      have hnot : ¬ s'.updated_len ≥ s'.total_len := by
        rw [hs'.updated_len, hs'.total_len]
        exact Nat.not_le.mpr hmore
      rw [requestDone, if_neg hnot]
      exact ⟨hs'.fast, hs'.installed, hs'.src_eq, hs'.session, by rw [hs'.state], hs'.received_len,
        hs'.total_len, hs'.updated_len, hs'.program_base, hs'.program_offset, hs'.current_hdr, hs'.running⟩
    · obtain ⟨status, s', hrun, hdone, houtcome⟩ := run_programImage_last henv hready hs hnil hchip
        (Nat.not_lt.mp hmore)
      refine ⟨status, s', hrun, fun h => absurd h hmore, fun _ => ?_⟩
      rw [requestDone, if_pos hdone]
      refine ⟨rfl, ?_⟩
      rw [houtcome, bodyOutcome, if_neg (by simp [hnil]), if_neg hmore]

theorem run_handleRequest {data : List UInt8} {s : Fwup}
    (hstate : s.current_state = { TLS_FWUP_STATE.none with BUSY := true })
    (hsrc : s.current_image_src ≠ TLS_FWUP_IMAGE_SRC_LUART) :
    (handleRequest env data).run s = (takeHeader env data).run s >>= fun r =>
      (match r.1 with
        | .error status => (return status : Prog Fwup TLS_FWUP_REQ_STATUS)
        | .ok buffer => programImage env buffer).run r.2 := by
  have herror : s.current_state.ERROR = none := by
    rw [hstate]
    rfl
  have hcomplete : s.current_state.COMPLETE = false := by rw [hstate]; rfl
  rw [handleRequest, run_bind, run_get, ok_bind]
  simp only [herror, hcomplete, Bool.false_eq_true, if_false, if_neg hsrc]
  exact run_bind _ _ _

/-- A request that brings more of the body of an image. -/
theorem run_request_body (henv : env.Reliable) (hready : CacheReady fls hdr)
    (hsrc : src ≠ TLS_FWUP_IMAGE_SRC_LUART) {d data : List UInt8} {s : Fwup}
    (hs : Programming src fls hdr session_id false (sizeof_tls_fwup_image_hdr + d.length) d s)
    (hdata : data ≠ []) (hchip : imageBase fls.flash hdr + d.length + data.length < TOTAL_SIZE) :
    ∃ st s', (tls_fwup_request_sync env session_id data).run s = .ok (st, s') ∧
      ((d ++ data).length < hdr.file_len →
        Programming src fls hdr session_id false (sizeof_tls_fwup_image_hdr + (d ++ data).length)
          (d ++ data) s') ∧
      (hdr.file_len ≤ (d ++ data).length → s'.resetting = true ∧
        outcome hdr (imageBase fls.flash hdr) s' = bodyOutcome hdr fls (d ++ data)) := by
  have htotal : TOTAL_SIZE = 1048576 := rfl
  have hsize : sizeof_tls_fwup_image_hdr = 16 := rfl
  have hreceived : u32 (s.received_len + data.length) =
      sizeof_tls_fwup_image_hdr + (d ++ data).length := by
    rw [hs.received_len, List.length_append, Nat.add_assoc]
    exact u32_of_lt (by omega)
  have hlong : ¬ s.received_len < sizeof_tls_fwup_image_hdr := by
    rw [hs.received_len]
    omega
  obtain ⟨status, s', hrun, hmore, hlast⟩ := run_programImage henv hready data
    (s := { s with
      semaphores := s.semaphores + 1
      current_state := { s.current_state with BUSY := true }
      received_len := sizeof_tls_fwup_image_hdr + (d ++ data).length })
    ⟨hs.fast, hs.installed, hs.src_eq, hs.session, by rw [hs.state], rfl, hs.total_len, hs.updated_len,
      hs.program_base, hs.program_offset, hs.current_hdr, hs.running⟩ hchip (fun h => absurd h hdata)
  refine ⟨status.result, requestDone s', run_request_sync henv hs.installed hs.session hdata ?_, hmore, hlast⟩
  rw [run_handleRequest (by simp only [hs.state]) (by simpa only [hs.src_eq] using hsrc)]
  simp only [takeHeader, run_bind, run_get, ok_bind, if_neg hlong, run_modify, hreceived, run_pure]
  exact hrun

/-- Submits requests in a session one after another, until the device is
reset. -/
def submit (env : FwupEnv) (session_id : Nat) : List (List UInt8) → Prog Fwup Unit
  | [] => return
  | data :: requests => do
    let _ ← tls_fwup_request_sync env session_id data
    if (← get).resetting then
      return
    submit env session_id requests

/-- What is programmed of the bytes `body` and those that the requests bring behind
them: the request that completes the image is the last one that is handled. -/
def programmedBody (file_len : Nat) : (body : List UInt8) → List (List UInt8) → List UInt8
  | body, [] => body
  | body, data :: requests =>
    if file_len ≤ body.length then body else programmedBody file_len (body ++ data) requests

theorem programmedBody_of_le {file_len : Nat} {body : List UInt8} (h : file_len ≤ body.length)
    (requests : List (List UInt8)) : programmedBody file_len body requests = body := by
  cases requests with
  | nil => rfl
  | cons data requests => exact if_pos h

/-- What is not programmed comes behind a complete image. -/
theorem programmedBody_append (file_len : Nat) (body : List UInt8) (requests : List (List UInt8)) :
    ∃ rest, programmedBody file_len body requests ++ rest = body ++ requests.flatten ∧
      (rest ≠ [] → file_len ≤ (programmedBody file_len body requests).length) := by
  induction requests generalizing body with
  | nil => exact ⟨[], rfl, fun h => absurd rfl h⟩
  | cons data requests ih =>
    by_cases hlast : file_len ≤ body.length
    · rw [programmedBody_of_le hlast]
      exact ⟨(data :: requests).flatten, rfl, fun _ => hlast⟩
    · obtain ⟨rest, hrest, hcomplete⟩ := ih (body ++ data)
      rw [programmedBody, if_neg hlast, List.flatten_cons, ← List.append_assoc]
      exact ⟨rest, hrest, hcomplete⟩

/-- However the rest of the body of an image is cut into requests, the outcome
is that of the bytes that are programmed. -/
theorem run_submit_body (henv : env.Reliable) (hready : CacheReady fls hdr)
    (hsrc : src ≠ TLS_FWUP_IMAGE_SRC_LUART) {d : List UInt8} {requests : List (List UInt8)} {s : Fwup}
    (hs : Programming src fls hdr session_id false (sizeof_tls_fwup_image_hdr + d.length) d s)
    (hmore : d.length < hdr.file_len) (hrequests : ∀ data ∈ requests, data ≠ [])
    (hchip : imageBase fls.flash hdr + (d ++ requests.flatten).length < TOTAL_SIZE) :
    ∃ s', (submit env session_id requests).run s = .ok ((), s') ∧
      outcome hdr (imageBase fls.flash hdr) s' = bodyOutcome hdr fls (programmedBody hdr.file_len d requests) := by
  induction requests generalizing d s with
  | nil => exact ⟨s, rfl, outcome_programming hs hmore⟩
  | cons data requests ih =>
    rw [List.flatten_cons, ← List.append_assoc] at hchip
    have hdata := hrequests data (List.mem_cons_self ..)
    have hlen : (d ++ data ++ requests.flatten).length = d.length + data.length + requests.flatten.length := by
      rw [List.length_append, List.length_append]
    obtain ⟨st, s₁, hrun, hnext, hlast⟩ := run_request_body henv hready hsrc hs hdata (by omega)
    rw [programmedBody, if_neg (Nat.not_le.mpr hmore)]
    by_cases hmore' : (d ++ data).length < hdr.file_len
    · have hs₁ := hnext hmore'
      obtain ⟨s', hrest, houtcome⟩ := ih hs₁ hmore' (fun r hr => hrequests r (List.mem_cons_of_mem _ hr)) hchip
      refine ⟨s', ?_, houtcome⟩
      simp only [submit, run_bind, hrun, ok_bind, run_get, hs₁.running, Bool.false_eq_true, ↓reduceIte]
      exact hrest
    · obtain ⟨hreset, houtcome⟩ := hlast (Nat.not_lt.mp hmore')
      refine ⟨s₁, ?_, ?_⟩
      · simp only [submit, run_bind, hrun, ok_bind, run_get, hreset, ↓reduceIte, run_pure]
      · rw [houtcome, programmedBody_of_le (Nat.not_lt.mp hmore')]

end ZCloud
