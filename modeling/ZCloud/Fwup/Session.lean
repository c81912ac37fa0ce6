import ZCloud.Fwup.Chunking

open Memory Program

namespace ZCloud

variable {env : FwupEnv} {src : tls_fwup_image_src} {fls : Fls} {session_id : Nat}

/-- The globals at the start of a session, the driver being in state `fls`. -/
structure Entered (src : tls_fwup_image_src) (fls : Fls) (session_id : Nat) (s : Fwup) : Prop where
  fls_eq : s.fls = fls
  lock : fls.fls_lock = 1
  installed : s.installed = true
  src_eq : s.current_image_src = src
  session : s.current_session_id = session_id
  state : s.current_state = TLS_FWUP_STATE.none
  received_len : s.received_len = 0
  total_len : s.total_len = 0
  updated_len : s.updated_len = 0
  program_offset : s.program_offset = 0
  current_hdr : s.current_hdr = Mem.fill sizeof_tls_fwup_image_hdr 0
  running : s.resetting = false

theorem copiedHeader_append {image : List UInt8} (h : sizeof_tls_fwup_image_hdr ≤ image.length)
    (rest : List UInt8) : copiedHeader (image ++ rest) = copiedHeader image := by
  refine Mem.ext_bytes ?_
  simp only [copiedHeader]
  rw [List.append_assoc, List.take_append_of_le_length h, List.take_append_of_le_length h]

theorem imageHeader_append {image : List UInt8} (h : sizeof_tls_fwup_image_hdr ≤ image.length)
    (rest : List UInt8) : imageHeader src (image ++ rest) = imageHeader src image := by
  rw [imageHeader, copiedHeader_append h, imageHeader]

/-- A request copied over an empty header. -/
theorem memcpy_header (data : List UInt8) :
    (Mem.fill sizeof_tls_fwup_image_hdr 0).memcpy 0 data
      (if data.length < sizeof_tls_fwup_image_hdr then data.length else sizeof_tls_fwup_image_hdr) =
      .ok (copiedHeader data) := by
  refine Mem.memcpy_eq_ok_iff.mpr ⟨by split <;> omega, by split <;> omega, ?_⟩
  simp only [copiedHeader, patch, Mem.fill, List.take_zero, List.nil_append, Nat.zero_add]
  split
  · rw [List.take_length, List.drop_replicate, List.take_append, List.take_of_length_le (by omega),
      List.take_replicate]
    congr 2
    omega
  · rw [List.take_append_of_le_length (by omega), List.drop_replicate, List.length_take,
      Nat.min_eq_left (by omega), Nat.sub_self, List.replicate_zero, List.append_nil]

/-- The globals once the header `hdr` of an image has been received. -/
theorem run_headerReceived (henv : env.Reliable) {s : Fwup} {image : List UInt8}
    (hsrc : s.current_image_src = src) (hcopied : s.current_hdr = copiedHeader image)
    (hlock : s.fls.fls_lock = 1) (hvalid : validMagic (imageHeader src image) = true) :
    ∃ ops, (headerReceived env).run s = .ok (none, { s.withFls (s.fls.withChip s.fls.flash ops) with
      current_hdr := imageHeader src image
      program_base := imageBase s.fls.flash (imageHeader src image)
      updated_len := 0
      total_len := (imageHeader src image).file_len }) := by
  have hheader : (if s.current_image_src = TLS_FWUP_IMAGE_SRC_WEB then swapHeader s.current_hdr
      else s.current_hdr) = imageHeader src image := by
    rw [hsrc, hcopied, imageHeader]
  have hread := run_callFls (s := { s with current_hdr := imageHeader src image })
    (run_fls_read henv.io hlock (a := TLS_FLASH_BOOT_FOOTER_ADDR) (n := sizeof_tls_fwup_boot_footer)
      (by decide) (by decide))
  by_cases hdest : (imageHeader src image).dest_specific = TLS_FWUP_DEST_SPECIFIC_FIRMWARE
  · refine ⟨s.fls.operations + 1, ?_⟩
    simp only [headerReceived, run_bind, run_get, ok_bind, hheader, run_modify, hvalid, Bool.not_true,
      Bool.false_eq_true, ↓reduceIte, if_pos hdest, hread, ne_eq, not_true, run_pure]
    rw [imageBase, if_pos hdest]
    rfl
  · refine ⟨s.fls.operations, ?_⟩
    simp only [headerReceived, run_bind, run_get, ok_bind, hheader, run_modify, hvalid, Bool.not_true,
      Bool.false_eq_true, ↓reduceIte, if_neg hdest, run_pure]
    rw [imageBase, if_neg hdest]
    rfl

theorem run_headerReceived_invalid {s : Fwup} {image : List UInt8}
    (hsrc : s.current_image_src = src) (hcopied : s.current_hdr = copiedHeader image)
    (hvalid : validMagic (imageHeader src image) = false) :
    (headerReceived env).run s = .ok (some TLS_FWUP_REQ_STATUS_FSIGNATURE, { s with
      current_hdr := imageHeader src image
      current_state := { s.current_state with ERROR_SIGNATURE := true } }) := by
  have hheader : (if s.current_image_src = TLS_FWUP_IMAGE_SRC_WEB then swapHeader s.current_hdr
      else s.current_hdr) = imageHeader src image := by
    rw [hsrc, hcopied, imageHeader]
  simp only [headerReceived, run_bind, run_get, ok_bind, hheader, run_modify, hvalid, Bool.not_false,
    ↓reduceIte, setError, run_pure]

/-- A first request with less than the header does not end the reception of it,
and the device is reset because no byte of the image is missing yet. -/
theorem run_request_short (henv : env.Reliable) (hsrc : src ≠ TLS_FWUP_IMAGE_SRC_LUART)
    {data : List UInt8} {s : Fwup} (hs : Entered src fls session_id s) (hdata : data ≠ [])
    (hshort : data.length < sizeof_tls_fwup_image_hdr) :
    ∃ st s', (tls_fwup_request_sync env session_id data).run s = .ok (st, s') ∧ s'.resetting = true ∧
      s'.fls = fls ∧ s'.current_hdr = copiedHeader data ∧ s'.current_state = TLS_FWUP_STATE.none := by
  have hcopy := memcpy_header data
  rw [if_pos hshort] at hcopy
  have hsize : sizeof_tls_fwup_image_hdr = 16 := rfl
  have hne : ¬ data.length = sizeof_tls_fwup_image_hdr := by omega
  refine ⟨_, _, run_request_sync henv hs.installed hs.session hdata (r := TLS_FWUP_REQ_STATUS_SUCCESS)
    (t := { s with
      semaphores := s.semaphores + 1
      current_state := { s.current_state with BUSY := true }
      current_hdr := copiedHeader data
      received_len := u32 (data.length + 0) }) ?_, ?_⟩
  · rw [run_handleRequest (by simp only [hs.state]) (by simpa only [hs.src_eq] using hsrc)]
    simp only [takeHeader, run_bind, run_get, ok_bind, hs.received_len, hs.current_hdr, Nat.sub_zero,
      if_pos hshort, hcopy, run_lift_ok, run_modify, Nat.zero_add, if_neg hne, run_pure, List.drop_length,
      List.length_nil, show (0 < sizeof_tls_fwup_image_hdr) = True from eq_true (by decide), ↓reduceIte]
    rfl
  · rw [requestDone, if_pos (by simp only [hs.updated_len, hs.total_len]; exact Nat.le_refl _)]
    exact ⟨rfl, hs.fls_eq, rfl, by simp only [resetDone, hs.state]; rfl⟩

/-- A first request that begins with a wrong header. -/
theorem run_request_invalid (henv : env.Reliable) (hsrc : src ≠ TLS_FWUP_IMAGE_SRC_LUART)
    {data : List UInt8} {s : Fwup} (hs : Entered src fls session_id s)
    (hlong : sizeof_tls_fwup_image_hdr ≤ data.length) (hvalid : validMagic (imageHeader src data) = false) :
    ∃ st s', (tls_fwup_request_sync env session_id data).run s = .ok (st, s') ∧ s'.resetting = true ∧
      s'.fls = fls ∧ s'.current_hdr = imageHeader src data ∧
      s'.current_state = { TLS_FWUP_STATE.none with ERROR_SIGNATURE := true } := by
  have hsize : sizeof_tls_fwup_image_hdr = 16 := rfl
  have hdata : data ≠ [] := List.length_pos_iff.mp (by omega)
  have hcopy := memcpy_header data
  rw [if_neg (Nat.not_lt.mpr hlong)] at hcopy
  have hheader := @run_headerReceived_invalid env src
    { s with
      semaphores := s.semaphores + 1
      current_state := { s.current_state with BUSY := true }
      current_hdr := copiedHeader data
      received_len := sizeof_tls_fwup_image_hdr } data hs.src_eq rfl hvalid
  refine ⟨_, _, run_request_sync henv hs.installed hs.session hdata
    (r := TLS_FWUP_REQ_STATUS_FSIGNATURE)
    (t := { s with
      semaphores := s.semaphores + 1
      current_state := { s.current_state with BUSY := true, ERROR_SIGNATURE := true }
      current_hdr := imageHeader src data
      received_len := sizeof_tls_fwup_image_hdr }) ?_, ?_⟩
  · rw [run_handleRequest (by simp only [hs.state]) (by simpa only [hs.src_eq] using hsrc)]
    simp only [takeHeader, run_bind, run_get, ok_bind, hs.received_len, hs.current_hdr, Nat.sub_zero,
      if_neg (Nat.not_lt.mpr hlong), hcopy, run_lift_ok, run_modify, Nat.zero_add, ↓reduceIte,
      show (0 < sizeof_tls_fwup_image_hdr) = True from eq_true (by decide), hheader, run_pure]
  · rw [requestDone, if_pos (by simp only [hs.updated_len, hs.total_len]; exact Nat.le_refl _)]
    exact ⟨rfl, hs.fls_eq, rfl, by simp only [resetDone, hs.state]; rfl⟩

/-- A first request that brings the whole header, and what it brings of the
body. -/
theorem run_request_first (henv : env.Reliable) (hsrc : src ≠ TLS_FWUP_IMAGE_SRC_LUART)
    {data : List UInt8} {s : Fwup} (hs : Entered src fls session_id s)
    (hready : CacheReady fls (imageHeader src data)) (hlong : sizeof_tls_fwup_image_hdr ≤ data.length)
    (hvalid : validMagic (imageHeader src data) = true)
    (hchip : imageBase fls.flash (imageHeader src data) + (data.drop sizeof_tls_fwup_image_hdr).length <
      TOTAL_SIZE) :
    ∃ st s', (tls_fwup_request_sync env session_id data).run s = .ok (st, s') ∧
      ((data.drop sizeof_tls_fwup_image_hdr).length < (imageHeader src data).file_len →
        Programming src fls (imageHeader src data) session_id false
          (sizeof_tls_fwup_image_hdr + (data.drop sizeof_tls_fwup_image_hdr).length)
          (data.drop sizeof_tls_fwup_image_hdr) s') ∧
      ((imageHeader src data).file_len ≤ (data.drop sizeof_tls_fwup_image_hdr).length →
        s'.resetting = true ∧
          outcome (imageHeader src data) (imageBase fls.flash (imageHeader src data)) s' =
            bodyOutcome (imageHeader src data) fls (data.drop sizeof_tls_fwup_image_hdr)) := by
  have hsize : sizeof_tls_fwup_image_hdr = 16 := rfl
  have htotal : TOTAL_SIZE = 1048576 := rfl
  have hdata : data ≠ [] := List.length_pos_iff.mp (by omega)
  have hcopy := memcpy_header data
  rw [if_neg (Nat.not_lt.mpr hlong)] at hcopy
  have hlock : s.fls.fls_lock = 1 := by rw [hs.fls_eq, hs.lock]
  generalize hbody : data.drop sizeof_tls_fwup_image_hdr = body at hchip ⊢
  have hreceived : u32 (sizeof_tls_fwup_image_hdr + body.length) = sizeof_tls_fwup_image_hdr + body.length :=
    u32_of_lt (by omega)
  obtain ⟨ops, hheader⟩ := @run_headerReceived env src henv
    { s with
      semaphores := s.semaphores + 1
      current_state := { s.current_state with BUSY := true }
      current_hdr := copiedHeader data
      received_len := sizeof_tls_fwup_image_hdr } data hs.src_eq rfl hlock hvalid
  obtain ⟨status, s', hrun, hmore, hlast⟩ := run_programImage henv hready body (d := [])
    (s := { s.withFls (s.fls.withChip s.fls.flash ops) with
      semaphores := s.semaphores + 1
      current_state := { s.current_state with BUSY := true }
      current_hdr := imageHeader src data
      program_base := imageBase s.fls.flash (imageHeader src data)
      updated_len := 0
      total_len := (imageHeader src data).file_len
      received_len := sizeof_tls_fwup_image_hdr + body.length })
    ⟨by rw [← hs.fls_eq]; exact .entered hlock rfl rfl rfl rfl,
      hs.installed, hs.src_eq, hs.session, by rw [hs.state], rfl, rfl, rfl, by rw [hs.fls_eq],
      hs.program_offset, rfl, hs.running⟩ hchip (fun _ => rfl)
  refine ⟨status.result, requestDone s', run_request_sync henv hs.installed hs.session hdata ?_, hmore, hlast⟩
  rw [run_handleRequest (by simp only [hs.state]) (by simpa only [hs.src_eq] using hsrc)]
  simp only [takeHeader, run_bind, run_get, ok_bind, hs.received_len, hs.current_hdr, Nat.sub_zero,
    if_neg (Nat.not_lt.mpr hlong), hcopy, run_lift_ok, run_modify, Nat.zero_add, ↓reduceIte,
    show (0 < sizeof_tls_fwup_image_hdr) = True from eq_true (by decide), hheader, hbody, run_pure]
  simp only [Fwup.withFls, hreceived] at hrun ⊢
  exact hrun

/-- Opens a session and submits the requests in it. -/
def updateSession (env : FwupEnv) (src : tls_fwup_image_src) (rand : { n : Nat // n ≠ 0 })
    (requests : List (List UInt8)) : Prog Fwup Unit := do
  let session_id ← tls_fwup_enter env src rand
  submit env session_id requests

/-- No session is open. -/
structure Idle (s : Fwup) : Prop where
  installed : s.installed = true
  busy : s.busy = false
  lock : s.fls.fls_lock = 1
  running : s.resetting = false

/-- The image `image` fits the chip behind the address it goes to, and the
sector cache holds no bytes for that address left over from a session before. -/
structure Fits (src : tls_fwup_image_src) (fls : Fls) (image : List UInt8) : Prop where
  chip : imageBase fls.flash (imageHeader src image) + (image.drop sizeof_tls_fwup_image_hdr).length <
    TOTAL_SIZE
  clean : fls.gsSecOffset = 0 ∨
    fls.gsSector ≠ imageBase fls.flash (imageHeader src image) / SECTOR_SIZE

/-- The first request brings the whole header of the image, and some of its body
if the header says that the body is empty and it is not. There is one other way
to cut an image: one that consists of a header for an empty body may be cut
where nothing but zeros follow. -/
def HeaderInFirst (src : tls_fwup_image_src) : List (List UInt8) → Prop
  | [] => True
  | data :: requests =>
    let image := data ++ requests.flatten
    let hdr := imageHeader src image
    sizeof_tls_fwup_image_hdr ≤ data.length ∧
        (validMagic hdr = true → hdr.file_len = 0 →
          sizeof_tls_fwup_image_hdr < data.length ∨ image.length = sizeof_tls_fwup_image_hdr) ∨
      data.length < sizeof_tls_fwup_image_hdr ∧ validMagic hdr = true ∧ hdr.file_len = 0 ∧
        image.length = sizeof_tls_fwup_image_hdr ∧ copiedHeader data = hdr

/-- What the image brings beyond the request that completes it is what the place of the
boot footer has there all the same: an image for the start of the chip is written over
it, and the rest of its sector is filled with what the sector cache holds. -/
def KeepsFooter (src : tls_fwup_image_src) (flash cached : Nat → UInt8) : List (List UInt8) → Prop
  | [] => True
  | data :: requests =>
    let image := data ++ requests.flatten
    let hdr := imageHeader src image
    validMagic hdr = true → imageBase flash hdr = 0 →
      FooterKept cached (programmedBody hdr.file_len (data.drop sizeof_tls_fwup_image_hdr) requests)
        (image.drop sizeof_tls_fwup_image_hdr)

/-- What the sector cache holds when a session begins: bytes of the session before, if
the cache has not been given back. -/
def sessionCache (env : FlsEnv) (fls : Fls) : Nat → UInt8 :=
  if fls.gsflscache.isSome then fls.cached else env.heap

private theorem run_fast_write_init_reliable (henv : env.Reliable) (s : Fls) :
    ∃ s', (tls_fls_fast_write_init env.toFlsEnv).run s = .ok ((), s') ∧ s'.gsflscache.isSome ∧
      s'.flash = s.flash ∧ s'.gsSecOffset = s.gsSecOffset ∧ s'.gsSector = s.gsSector ∧
      s'.fls_lock = s.fls_lock ∧ ∀ i < SECTOR_SIZE, s'.cached i = sessionCache env.toFlsEnv s i := by
  cases hcache : s.gsflscache with
  | some cache =>
    refine ⟨s, ?_, by rw [hcache]; rfl, rfl, rfl, rfl, rfl, fun i _ => by rw [sessionCache, hcache]; rfl⟩
    simp only [tls_fls_fast_write_init, run_bind, run_get, ok_bind, hcache, Option.isSome_some, ↓reduceIte,
      run_pure]
  | none =>
    refine ⟨{ s with
      allocations := s.allocations + 1
      gsflscache := some ⟨(List.range SECTOR_SIZE).map env.heap, by simp⟩ }, ?_, rfl, rfl, rfl, rfl, rfl,
      fun i hi => ?_⟩
    · simp only [tls_fls_fast_write_init, run_bind, run_get, ok_bind, hcache, Option.isSome_none,
        Bool.false_eq_true, ↓reduceIte, tls_mem_alloc, run_set, run_pure, henv.alloc, run_modify]
    · rw [sessionCache, hcache]
      simp [Fls.cached, hi]

theorem run_enter (henv : env.Reliable) {s : Fwup} (hs : Idle s) (rand : { n : Nat // n ≠ 0 }) :
    ∃ s', (tls_fwup_enter env src rand).run s = .ok (rand.val, s') ∧ Entered src s'.fls rand.val s' ∧
      s'.fls.gsflscache.isSome ∧ s'.fls.flash = s.fls.flash ∧ s'.fls.gsSecOffset = s.fls.gsSecOffset ∧
      s'.fls.gsSector = s.fls.gsSector ∧ ∀ i < SECTOR_SIZE, s'.fls.cached i = sessionCache env.toFlsEnv s.fls i := by
  have hfree : (!s.installed || s.busy) = false := by rw [hs.installed, hs.busy]; rfl
  obtain ⟨fls', hinit, hcache, hflash, hoffset, hsector, hlock, hcached⟩ := run_fast_write_init_reliable henv s.fls
  refine ⟨(s.enter src rand.val).withFls fls', ?_,
    ⟨rfl, hlock.trans hs.lock, hs.installed, rfl, rfl, rfl, rfl, rfl, rfl, rfl, rfl, hs.running⟩,
    hcache, hflash, hoffset, hsector, hcached⟩
  simp only [tls_fwup_enter, run_bind, run_get, ok_bind, hfree, Bool.false_eq_true, ↓reduceIte, run_set]
  rw [run_callFls (s := s.enter src rand.val) hinit]
  rfl

private theorem submit_cons {data : List UInt8} {requests : List (List UInt8)} {st : TLS_FWUP_STATUS}
    {s s' : Fwup} (h : (tls_fwup_request_sync env session_id data).run s = .ok (st, s')) :
    (submit env session_id (data :: requests)).run s =
      if s'.resetting then .ok ((), s') else (submit env session_id requests).run s' := by
  simp only [submit, run_bind, h, ok_bind, run_get]
  split <;> rfl

/-- The requests of an image whose header arrives in the first of them have the
outcome of an update if and only if they keep the footer. -/
private theorem run_submit (henv : env.Reliable) (hsrc : src ≠ TLS_FWUP_IMAGE_SRC_LUART)
    {requests : List (List UInt8)} {s : Fwup} (hs : Entered src fls session_id s)
    (hcache : fls.gsflscache.isSome) (hrequests : ∀ data ∈ requests, data ≠ [])
    (himage : sizeof_tls_fwup_image_hdr ≤ requests.flatten.length)
    (hfits : validMagic (imageHeader src requests.flatten) = true → Fits src fls requests.flatten)
    (hfirst : HeaderInFirst src requests) :
    ∃ s', (submit env session_id requests).run s = .ok ((), s') ∧
      (outcome (imageHeader src requests.flatten)
        (imageBase fls.flash (imageHeader src requests.flatten)) s' =
        updateOutcome src fls requests.flatten ↔ KeepsFooter src fls.flash fls.cached requests) := by
  cases requests with
  | nil => exact absurd himage (by decide)
  | cons data requests =>
    rw [List.flatten_cons] at himage hfits ⊢
    have hdata := hrequests data (List.mem_cons_self ..)
    obtain ⟨hlong, hempty⟩ | ⟨hshort, hvalid, hzero, hlen, hcopied⟩ := hfirst
    · have hheader := @imageHeader_append src _ hlong requests.flatten
      have hdrop : (data ++ requests.flatten).drop sizeof_tls_fwup_image_hdr =
          data.drop sizeof_tls_fwup_image_hdr ++ requests.flatten := List.drop_append_of_le_length hlong
      cases hvalid : validMagic (imageHeader src (data ++ requests.flatten)) with
      | false =>
        have hkeeps : KeepsFooter src fls.flash fls.cached (data :: requests) := by
          intro h
          rw [hvalid] at h
          cases h
        rw [hheader] at hvalid ⊢
        obtain ⟨st, s', hrun, hreset, hfls, hhdr, hstate⟩ := run_request_invalid henv hsrc hs hlong hvalid
        refine ⟨s', by rw [submit_cons hrun, hreset]; rfl, iff_of_true ?_ hkeeps⟩
        rw [updateOutcome, hheader, if_pos hvalid, outcome, hfls, hhdr, hstate, hreset]
      | true =>
        obtain ⟨hchip, hclean⟩ := hfits hvalid
        have hkeeps : KeepsFooter src fls.flash fls.cached (data :: requests) ↔
            (imageBase fls.flash (imageHeader src data) = 0 → FooterKept fls.cached
              (programmedBody (imageHeader src data).file_len (data.drop sizeof_tls_fwup_image_hdr) requests)
              (data.drop sizeof_tls_fwup_image_hdr ++ requests.flatten)) := by
          simp only [KeepsFooter, hvalid, forall_const]
          rw [hheader, hdrop]
        rw [hheader] at hvalid hchip hclean hempty ⊢
        rw [hdrop, List.length_append] at hchip
        rw [updateOutcome, hheader, if_neg (by rw [hvalid]; decide), hdrop, hkeeps]
        obtain ⟨st, s₁, hrun, hmore, hlast⟩ := run_request_first henv hsrc hs ⟨hcache, hclean⟩ hlong hvalid
          (by omega)
        rw [submit_cons hrun]
        generalize hbody : data.drop sizeof_tls_fwup_image_hdr = body at hchip hmore hlast ⊢
        by_cases hfull : (imageHeader src data).file_len ≤ body.length
        · obtain ⟨hreset, houtcome⟩ := hlast hfull
          refine ⟨s₁, by rw [hreset]; rfl, ?_⟩
          rw [houtcome, programmedBody_of_le hfull]
          refine bodyOutcome_append_iff fun hrest => ⟨fun hnil => hrest ?_, hfull⟩
          subst hnil
          have hexact := List.drop_eq_nil_iff.mp hbody
          have hlen := hempty hvalid (Nat.le_zero.mp hfull)
          rw [List.length_append] at hlen
          exact List.length_eq_zero_iff.mp (by omega)
        · have hs₁ := hmore (Nat.not_le.mp hfull)
          obtain ⟨s', hrest, houtcome⟩ := run_submit_body henv ⟨hcache, hclean⟩ hsrc hs₁
            (Nat.not_le.mp hfull) (fun r hr => hrequests r (List.mem_cons_of_mem _ hr))
            (by rw [List.length_append]; omega)
          obtain ⟨rest, happend, hcomplete⟩ :=
            programmedBody_append (imageHeader src data).file_len body requests
          refine ⟨s', by rw [hs₁.running]; exact hrest, ?_⟩
          rw [houtcome, ← happend]
          refine bodyOutcome_append_iff fun hne => ⟨List.length_pos_iff.mp ?_, hcomplete hne⟩
          have := hcomplete hne
          omega
    · obtain ⟨st, s', hrun, hreset, hfls, hhdr, hstate⟩ := run_request_short henv hsrc hs hdata hshort
      have hnil : (data ++ requests.flatten).drop sizeof_tls_fwup_image_hdr = [] :=
        List.drop_eq_nil_of_le (Nat.le_of_eq hlen)
      refine ⟨s', by rw [submit_cons hrun, hreset]; rfl, iff_of_true ?_ fun _ _ => ?_⟩
      · rw [updateOutcome, if_neg (by rw [hvalid]; decide), bodyOutcome, if_pos hnil, outcome, hfls, hhdr,
          hstate, hreset, hcopied, decide_eq_true hzero]
      · rw [hnil]
        exact fun i _ _ hi => absurd hi (Nat.not_lt_zero i)

/-- Without it, the device is reset before anything of the image is checked, and
the outcome is another one. -/
private theorem run_submit_cut (henv : env.Reliable) (hsrc : src ≠ TLS_FWUP_IMAGE_SRC_LUART)
    {requests : List (List UInt8)} {s : Fwup} (hs : Entered src fls session_id s)
    (hcache : fls.gsflscache.isSome) (hrequests : ∀ data ∈ requests, data ≠ [])
    (himage : sizeof_tls_fwup_image_hdr ≤ requests.flatten.length)
    (hfits : validMagic (imageHeader src requests.flatten) = true → Fits src fls requests.flatten)
    (hfirst : ¬ HeaderInFirst src requests) :
    ∃ s', (submit env session_id requests).run s = .ok ((), s') ∧
      outcome (imageHeader src requests.flatten)
        (imageBase fls.flash (imageHeader src requests.flatten)) s' ≠
        updateOutcome src fls requests.flatten := by
  cases requests with
  | nil => exact absurd trivial hfirst
  | cons data requests =>
    rw [List.flatten_cons] at hfits ⊢
    have hdata := hrequests data (List.mem_cons_self ..)
    have hfirst' := not_or.mp hfirst
    by_cases hshort : data.length < sizeof_tls_fwup_image_hdr
    · obtain ⟨st, s', hrun, hreset, hfls, hhdr, hstate⟩ := run_request_short henv hsrc hs hdata hshort
      refine ⟨s', by rw [submit_cons hrun, hreset]; rfl, fun h => ?_⟩
      have hstate' := congrArg FwupOutcome.current_state h
      have hreset' := congrArg FwupOutcome.reset h
      have hhdr' := congrArg FwupOutcome.current_hdr h
      simp only [outcome, hstate, hreset, hhdr] at hstate' hreset' hhdr'
      rw [updateOutcome] at hstate' hreset' hhdr'
      cases hvalid : validMagic (imageHeader src (data ++ requests.flatten)) with
      | false => simp [hvalid, TLS_FWUP_STATE.none] at hstate'
      | true =>
        rw [if_neg (by rw [hvalid]; decide)] at hstate' hreset' hhdr'
        obtain ⟨hnil, hzero, hhdr''⟩ := bodyOutcome_reset hstate'.symm hreset'.symm
        rw [hhdr''] at hhdr'
        have hlen := List.drop_eq_nil_iff.mp hnil
        rw [List.flatten_cons] at himage
        exact hfirst'.2 ⟨hshort, hvalid, hzero, Nat.le_antisymm hlen himage, hhdr'⟩
    · have hlong := Nat.not_lt.mp hshort
      have hheader := @imageHeader_append src _ hlong requests.flatten
      have hdrop : (data ++ requests.flatten).drop sizeof_tls_fwup_image_hdr =
          data.drop sizeof_tls_fwup_image_hdr ++ requests.flatten := List.drop_append_of_le_length hlong
      obtain ⟨hvalid, hzero, hexact, hmore⟩ : validMagic (imageHeader src (data ++ requests.flatten)) = true ∧
          (imageHeader src (data ++ requests.flatten)).file_len = 0 ∧
          ¬ sizeof_tls_fwup_image_hdr < data.length ∧
          ¬ (data ++ requests.flatten).length = sizeof_tls_fwup_image_hdr := by
        have h := hfirst'.1
        simp only [not_and] at h
        have h' := h hlong
        simp only [Classical.not_imp, not_or] at h'
        exact h'
      have hbody : data.drop sizeof_tls_fwup_image_hdr = [] := List.drop_eq_nil_of_le (Nat.not_lt.mp hexact)
      obtain ⟨hchip, hclean⟩ := hfits hvalid
      rw [hheader] at hvalid hzero hchip hclean ⊢
      rw [hdrop, List.length_append] at hchip
      rw [updateOutcome, hheader, if_neg (by rw [hvalid]; decide), hdrop]
      obtain ⟨st, s', hrun, -, hlast⟩ := run_request_first henv hsrc hs ⟨hcache, hclean⟩ hlong hvalid
        (by omega)
      rw [hbody] at hlast ⊢
      obtain ⟨hreset, houtcome⟩ := hlast (Nat.le_of_eq hzero)
      refine ⟨s', by rw [submit_cons hrun, hreset]; rfl, fun h => ?_⟩
      rw [houtcome, List.nil_append] at h
      have hstart : (bodyOutcome (imageHeader src data) fls []).current_state = TLS_FWUP_STATE.none := rfl
      have hend : (bodyOutcome (imageHeader src data) fls []).reset = true := decide_eq_true hzero
      rw [h] at hstart hend
      obtain ⟨hnil, -, -⟩ := bodyOutcome_reset hstart hend
      rw [List.length_append, hnil, List.length_nil] at hmore
      omega

/-- The requests have the same outcome as one request with all their bytes. -/
def SameOutcome (env : FwupEnv) (src : tls_fwup_image_src) (rand : { n : Nat // n ≠ 0 })
    (requests : List (List UInt8)) (s : Fwup) : Prop :=
  let image := requests.flatten
  let hdr := imageHeader src image
  let base := imageBase s.fls.flash hdr
  ∃ t u, (updateSession env src rand requests).run s = .ok ((), t) ∧
    (updateSession env src rand [image]).run s = .ok ((), u) ∧ outcome hdr base t = outcome hdr base u

theorem headerInFirst_singleton {image : List UInt8} (h : sizeof_tls_fwup_image_hdr ≤ image.length) :
    HeaderInFirst src [image] := by
  refine Or.inl ⟨h, fun _ _ => ?_⟩
  rw [List.flatten_nil, List.append_nil]
  omega

theorem keepsFooter_singleton (flash cached : Nat → UInt8) (image : List UInt8) :
    KeepsFooter src flash cached [image] := by
  intro _ _
  rw [List.flatten_nil, List.append_nil]
  exact footerKept_self _ _

theorem KeepsFooter.congr {flash f g : Nat → UInt8} {requests : List (List UInt8)} (h : KeepsFooter src flash f requests)
    (hfg : ∀ i < sizeof_tls_fwup_boot_footer, f i = g i) : KeepsFooter src flash g requests := by
  cases requests with
  | nil => trivial
  | cons data requests => exact fun hvalid hbase => (h hvalid hbase).congr hfg

variable {rand : { n : Nat // n ≠ 0 }} {s : Fwup}

/-- What a session makes of an image is what an update does, if and only if the
header of the image is in the first request and the footer is kept. -/
private theorem session_outcome (henv : env.Reliable) (hsrc : src ≠ TLS_FWUP_IMAGE_SRC_LUART) (hs : Idle s)
    {image : List UInt8} (himage : sizeof_tls_fwup_image_hdr ≤ image.length)
    (hfits : validMagic (imageHeader src image) = true → Fits src s.fls image) :
    ∃ fls, ∀ requests : List (List UInt8), (∀ data ∈ requests, data ≠ []) → requests.flatten = image →
      ∃ t, (updateSession env src rand requests).run s = .ok ((), t) ∧
        (outcome (imageHeader src image) (imageBase s.fls.flash (imageHeader src image)) t =
          updateOutcome src fls image ↔
            HeaderInFirst src requests ∧ KeepsFooter src s.fls.flash (sessionCache env.toFlsEnv s.fls) requests) := by
  obtain ⟨s', henter, hs', hcache, hflash, hoffset, hsector, hcached⟩ := @run_enter env src henv s hs rand
  refine ⟨s'.fls, ?_⟩
  rintro requests hrequests rfl
  have hfits' : validMagic (imageHeader src requests.flatten) = true → Fits src s'.fls requests.flatten := by
    intro hvalid
    obtain ⟨hchip, hclean⟩ := hfits hvalid
    exact ⟨by rw [hflash]; exact hchip, by rw [hflash, hoffset, hsector]; exact hclean⟩
  have hsession : ∀ {t : Fwup}, (submit env rand.val requests).run s' = .ok ((), t) →
      (updateSession env src rand requests).run s = .ok ((), t) := by
    intro t h
    rw [updateSession, run_bind, henter]
    exact h
  have hcached' : ∀ i < sizeof_tls_fwup_boot_footer, s'.fls.cached i = sessionCache env.toFlsEnv s.fls i :=
    fun i hi => hcached i (Nat.lt_trans hi (by decide))
  by_cases hfirst : HeaderInFirst src requests
  · obtain ⟨t, ht, hsame⟩ := run_submit henv hsrc hs' hcache hrequests himage hfits' hfirst
    rw [hflash] at hsame
    refine ⟨t, hsession ht, hsame.trans ⟨fun h => ⟨hfirst, h.congr hcached'⟩, fun h => ?_⟩⟩
    exact h.2.congr fun i hi => (hcached' i hi).symm
  · obtain ⟨t, ht, hother⟩ := run_submit_cut henv hsrc hs' hcache hrequests himage hfits' hfirst
    rw [hflash] at hother
    exact ⟨t, hsession ht, iff_of_false hother fun h => hfirst h.1⟩

private theorem sameOutcome_iff (henv : env.Reliable) (hsrc : src ≠ TLS_FWUP_IMAGE_SRC_LUART) (hs : Idle s)
    {requests : List (List UInt8)} (hrequests : ∀ data ∈ requests, data ≠ [])
    (himage : sizeof_tls_fwup_image_hdr ≤ requests.flatten.length)
    (hfits : validMagic (imageHeader src requests.flatten) = true → Fits src s.fls requests.flatten) :
    SameOutcome env src rand requests s ↔
      HeaderInFirst src requests ∧ KeepsFooter src s.fls.flash (sessionCache env.toFlsEnv s.fls) requests := by
  obtain ⟨fls, hsession⟩ := @session_outcome _ _ rand _ henv hsrc hs _ himage hfits
  obtain ⟨t, ht, houtcome⟩ := hsession requests hrequests rfl
  have hne : requests.flatten ≠ [] := List.length_pos_iff.mp (Nat.lt_of_lt_of_le (by decide) himage)
  obtain ⟨u, hu, hwhole⟩ := hsession [requests.flatten] (by simpa using hne) (by simp)
  have hu' := hwhole.mpr ⟨headerInFirst_singleton himage, keepsFooter_singleton _ _ _⟩
  constructor
  · rintro ⟨t', u', ht', hu'', hsame⟩
    rw [ht] at ht'
    rw [hu] at hu''
    cases ht'
    cases hu''
    exact houtcome.mp (hsame.trans hu')
  · intro hcut
    exact ⟨t, u, ht, hu, (houtcome.mpr hcut).trans hu'.symm⟩

/-- A machine with a blank flash that never fails. -/
def blankEnv : FwupEnv := ⟨⟨fun _ => none, fun _ => true, fun _ => 0⟩, fun _ => true⟩

theorem blankEnv_reliable : blankEnv.Reliable := ⟨fun _ => rfl, fun _ => rfl, fun _ => rfl⟩

def blankFwup : Fwup where
  fls := ⟨fun _ => 0xff, none, 0, 0, 1, 0, 0, []⟩
  installed := true
  busy := false
  current_image_src := TLS_FWUP_IMAGE_SRC_LUART
  current_state := TLS_FWUP_STATE.none
  current_session_id := 0
  received_len := 0
  total_len := 0
  updated_len := 0
  program_base := 0
  program_offset := 0
  current_hdr := Mem.fill sizeof_tls_fwup_image_hdr 0
  semaphores := 0
  resetting := false
  footers := []

theorem blankFwup_idle : Idle blankFwup := ⟨rfl, rfl, rfl, rfl⟩

/-- The header of a data image with four bytes for the sector at 0x10000. -/
def dataHeader : List UInt8 :=
  bytesU32 TLS_FWUP_IMAGE_SIGNATURE_WORD ++ [93, 1] ++ bytesU16 16 ++ bytesU32 4 ++ bytesU32 0

/-- The header of one for the sector at 0. -/
def startHeader : List UInt8 :=
  bytesU32 TLS_FWUP_IMAGE_SIGNATURE_WORD ++ [93, 1] ++ bytesU16 0 ++ bytesU32 4 ++ bytesU32 0

theorem dataImage_fits : Fits TLS_FWUP_IMAGE_SRC_HUART blankFwup.fls (dataHeader ++ [1, 2, 3, 4]) :=
  ⟨by decide, Or.inl rfl⟩

theorem startImage_fits : Fits TLS_FWUP_IMAGE_SRC_HUART blankFwup.fls (startHeader ++ [1, 2, 3, 4, 5]) :=
  ⟨by decide, Or.inl rfl⟩

end ZCloud
