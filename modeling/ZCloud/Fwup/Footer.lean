import ZCloud.Fwup.Request

open Memory Program

namespace ZCloud

/-- A footer that the boot loader can trust: it names the region that has just
been read back, and what was read back is the image of the header. -/
structure FooterWrite.Sound (w : FooterWrite) : Prop where
  crc8 : calculate_crc8 0 (flashBytes w.flash w.program_base w.total_len) = w.current_hdr.crc8
  base : w.footer.base = w.program_base
  length : w.footer.length = w.total_len
  image_checksum : w.footer.image_checksum =
    checksum (words (flashBytes w.flash w.program_base w.total_len)).sum
  error : w.current_state.ERROR = none

/-- Every footer written between `s` and `t` for an image that is not empty and
fits the chip is sound. -/
def SoundFooters (s t : Fwup) : Prop :=
  ∃ new, t.footers = new ++ s.footers ∧ ∀ w ∈ new, 0 < w.current_hdr.file_len →
    w.program_base + w.total_len ≤ TOTAL_SIZE → w.Sound

instance : Frame SoundFooters where
  refl _ := ⟨[], rfl, nofun⟩
  trans := by
    rintro s t u ⟨new₁, h₁, hsound₁⟩ ⟨new₂, h₂, hsound₂⟩
    refine ⟨new₂ ++ new₁, by rw [h₂, h₁, List.append_assoc], fun w hw => ?_⟩
    obtain hw | hw := List.mem_append.mp hw
    · exact hsound₂ w hw
    · exact hsound₁ w hw

theorem soundFooters_of_eq {s t : Fwup} (h : t.footers = s.footers) : SoundFooters s t :=
  ⟨[], h, nofun⟩

/-- What holds of the globals between the requests of a session: a header that
has been received has set the length of the image. -/
structure SessionInv (s : Fwup) : Prop where
  src : s.current_image_src ≠ TLS_FWUP_IMAGE_SRC_LUART
  parsed : sizeof_tls_fwup_image_hdr ≤ s.received_len → s.current_state.ERROR = none →
    s.total_len = s.current_hdr.file_len

/-- The same invariant and the footers of a step. An error once noted stays, and
while it does nothing is written. -/
structure SessionStep (s t : Fwup) : Prop where
  inv : SessionInv s → SessionInv t
  footers : SessionInv s → SoundFooters s t
  failed : s.current_state.ERROR ≠ none → t.current_state.ERROR ≠ none ∧ t.footers = s.footers

instance : Frame SessionStep where
  refl _ := ⟨id, fun _ => Frame.refl _, fun h => ⟨h, rfl⟩⟩
  trans h₁ h₂ :=
    ⟨h₂.inv ∘ h₁.inv, fun h => Frame.trans (h₁.footers h) (h₂.footers (h₁.inv h)), fun h =>
      have ht := h₁.failed h
      have hu := h₂.failed ht.1
      ⟨hu.1, hu.2.trans ht.2⟩⟩

variable {env : FwupEnv}

theorem Accepts.soundFooters {s t : Fwup} {crc8 : UInt8} {image_checksum : Nat} {status : TLS_FWUP_REQ_STATUS}
    (h : Accepts s crc8 image_checksum status t) (herror : s.current_state.ERROR = none)
    (htotal : s.total_len = s.current_hdr.file_len)
    (hcrc : s.program_base + s.total_len ≤ TOTAL_SIZE →
      crc8 = calculate_crc8 0 (flashBytes s.fls.flash s.program_base s.total_len))
    (hchecksum : s.program_base + s.total_len ≤ TOTAL_SIZE →
      image_checksum = imageChecksum (flashBytes s.fls.flash s.program_base s.total_len)) :
    SoundFooters s t := by
  -- the footer is committed before the write of it is tried
  have hcommit : s.current_hdr.crc8 = crc8 →
      SoundFooters s (s.commit (newFooter s.program_base s.total_len image_checksum)) := by
    refine fun hok => ⟨[_], rfl, fun w hw hlen hchip => ?_⟩
    obtain rfl := List.mem_singleton.mp hw
    have hne : flashBytes s.fls.flash s.program_base s.total_len ≠ [] := by
      intro hnil
      rw [flashBytes_eq_nil, htotal] at hnil
      exact absurd hnil (Nat.ne_of_gt hlen)
    refine ⟨?_, rfl, rfl, ?_, herror⟩
    · rw [← hcrc hchip]
      exact hok.symm
    · change image_checksum = _
      rw [hchecksum hchip, imageChecksum, if_neg hne]
  cases h with
  | crc => exact soundFooters_of_eq rfl
  | data => exact soundFooters_of_eq rfl
  | footer fls hok => exact hcommit hok
  | footerFailed fls hok => exact hcommit hok

theorem Verifies.soundFooters {s t : Fwup} {status : TLS_FWUP_REQ_STATUS} (h : Verifies s status t)
    (herror : s.current_state.ERROR = none) (htotal : s.total_len = s.current_hdr.file_len) :
    SoundFooters s t := by
  cases h with
  | memory => exact soundFooters_of_eq rfl
  | io => exact soundFooters_of_eq rfl
  | read fls crc8 image_checksum hcache hcrc hchecksum haccept =>
    exact haccept.soundFooters herror htotal hcrc hchecksum

theorem Programs.soundFooters {s t : Fwup} {buffer : List UInt8} {status : TLS_FWUP_REQ_STATUS}
    (h : Programs env s buffer status t) (herror : s.current_state.ERROR = none)
    (htotal : buffer ≠ [] → s.total_len = s.current_hdr.file_len) : SoundFooters s t := by
  cases h with
  | nothing => exact Frame.refl _
  | refused => exact soundFooters_of_eq rfl
  | more => exact soundFooters_of_eq rfl
  | last fls hbuffer hwrite hlast hverify => exact hverify.soundFooters herror (htotal hbuffer)

theorem ReceivesHeader.session {s t : Fwup} {hdr : tls_fwup_image_hdr} {failed : Option TLS_FWUP_REQ_STATUS}
    (h : ReceivesHeader env s hdr failed t) :
    t.current_image_src = s.current_image_src ∧ t.footers = s.footers ∧
      (failed = none → t.current_state = s.current_state ∧ t.total_len = t.current_hdr.file_len) ∧
      (failed ≠ none → t.current_state.ERROR ≠ none) := by
  cases h with
  | invalid =>
    refine ⟨rfl, rfl, nofun, fun _ h => ?_⟩
    cases (TLS_FWUP_STATE.ERROR_eq_none.mp h).2.1
  | io => exact ⟨rfl, rfl, nofun, fun _ h => nomatch (TLS_FWUP_STATE.ERROR_eq_none.mp h).1⟩
  | valid => exact ⟨rfl, rfl, fun _ => ⟨rfl, rfl⟩, fun h => absurd rfl h⟩

/-- The header part of a request writes no footer, and it either notes an error
or leaves the state bits as they are. -/
theorem TakesHeader.session {s t : Fwup} {data : List UInt8} {r : Except TLS_FWUP_REQ_STATUS (List UInt8)}
    (h : TakesHeader env s data r t) (hs : SessionInv s) (herror : s.current_state.ERROR = none) :
    SessionInv t ∧ t.footers = s.footers ∧
      ∀ buffer, r = .ok buffer → t.current_state = s.current_state ∧
        (buffer ≠ [] → t.total_len = t.current_hdr.file_len) := by
  cases h with
  | body hreceived =>
    have htotal := hs.parsed hreceived herror
    exact ⟨⟨hs.src, fun _ _ => htotal⟩, rfl, fun _ _ => ⟨rfl, fun _ => htotal⟩⟩
  | part hdr hpart =>
    refine ⟨⟨hs.src, fun h => absurd h (Nat.not_le.mpr hpart)⟩, rfl, fun buffer hr => ⟨rfl, fun hne => ?_⟩⟩
    cases hr
    exact absurd rfl hne
  | refused hdr hopen hwhole hcopy hheader =>
    obtain ⟨hsrc, hfooters, -, hfailed⟩ := hheader.session
    exact ⟨⟨by rw [hsrc]; exact hs.src, fun _ h => absurd h (hfailed nofun)⟩, hfooters, nofun⟩
  | whole hdr hopen hwhole hcopy hheader =>
    obtain ⟨hsrc, hfooters, hok, -⟩ := hheader.session
    obtain ⟨hstate, htotal⟩ := hok rfl
    exact ⟨⟨by rw [hsrc]; exact hs.src, fun _ _ => htotal⟩, hfooters, fun _ _ => ⟨hstate, fun _ => htotal⟩⟩

theorem requestDone_session {s : Fwup} (hs : SessionInv s) : SessionInv (requestDone s) := by
  rw [requestDone]
  split <;> exact ⟨hs.src, hs.parsed⟩

theorem Handles.sessionStep {s t : Fwup} {data : List UInt8} {status : TLS_FWUP_REQ_STATUS}
    (h : Handles env s data status t) : SessionStep s t := by
  cases h with
  | discarded herror => exact Frame.refl _
  | complete herror hcomplete => exact Frame.refl _
  | header herror hcomplete htake =>
    refine ⟨fun hs => (htake.session hs herror).1, fun hs => soundFooters_of_eq (htake.session hs herror).2.1,
      fun h => absurd herror h⟩
  | @body status buffer u t herror hcomplete htake hprogram =>
    refine ⟨fun hs => ?_, fun hs => ?_, fun h => absurd herror h⟩
    · obtain ⟨hu, -, hbody⟩ := htake.session hs herror
      obtain ⟨hstate, -⟩ := hbody _ rfl
      obtain ⟨hsrc, hreceived, htotal, hhdr⟩ := hprogram.keepsHeader
      refine ⟨by rw [hsrc]; exact hu.src, fun hlen _ => ?_⟩
      rw [htotal, hhdr]
      exact hu.parsed (by rwa [hreceived] at hlen) (by rw [hstate, herror])
    · obtain ⟨-, hfooters, hbody⟩ := htake.session hs herror
      obtain ⟨hstate, htotal⟩ := hbody _ rfl
      have := hprogram.soundFooters (by rw [hstate, herror]) htotal
      rwa [SoundFooters, hfooters] at this

/-- What one request does. -/
theorem tls_fwup_request_sync_step {s t : Fwup} {session_id : Nat} {data : List UInt8} {st : TLS_FWUP_STATUS}
    (hsrc : s.current_image_src ≠ TLS_FWUP_IMAGE_SRC_LUART)
    (h : (tls_fwup_request_sync env session_id data).run s = .ok (st, t)) : SessionStep s t := by
  obtain ⟨-, semaphores, rfl⟩ | ⟨-, -, status, u, -, hhandles, rfl⟩ := tls_fwup_request_sync_ok hsrc h
  · exact ⟨fun hs => ⟨hs.src, hs.parsed⟩, fun _ => soundFooters_of_eq rfl, fun h => ⟨h, rfl⟩⟩
  · obtain ⟨hinv, hfooters, hfailed⟩ := hhandles.sessionStep
    refine ⟨fun hs => requestDone_session (hinv ⟨hs.src, hs.parsed⟩), fun hs => ?_, fun h => ?_⟩
    · rw [SoundFooters, requestDone_footers]
      exact hfooters ⟨hs.src, hs.parsed⟩
    · rw [requestDone_footers, requestDone_ERROR]
      exact hfailed h

/-- What any number of requests do. -/
theorem requestAll_step {s t : Fwup} {session_id : Nat} {requests : List (List UInt8)}
    {sts : List TLS_FWUP_STATUS} (hs : SessionInv s)
    (h : (requestAll env session_id requests).run s = .ok (sts, t)) : SessionStep s t := by
  induction requests generalizing s sts with
  | nil =>
    obtain ⟨-, rfl⟩ := run_pure_eq_ok.mp h
    exact Frame.refl _
  | cons data requests ih =>
    obtain ⟨st, sts', u, -, hfirst, hrest⟩ := requestAll_cons_ok h
    have hstep := tls_fwup_request_sync_step hs.src hfirst
    exact Frame.trans hstep (ih (hstep.inv hs) hrest)

theorem tls_fwup_enter_session {s t : Fwup} {src : tls_fwup_image_src} {rand : { n : Nat // n ≠ 0 }}
    {session_id : Nat} (hsrc : src ≠ TLS_FWUP_IMAGE_SRC_LUART)
    (h : (tls_fwup_enter env src rand).run s = .ok (session_id, t)) (hopen : session_id ≠ 0) :
    SessionInv t ∧ t.footers = s.footers := by
  obtain ⟨-, -, fls, -, rfl⟩ := tls_fwup_enter_ok h hopen
  exact ⟨⟨hsrc, fun h => absurd h (Nat.not_le.mpr (Nat.zero_lt_succ 15))⟩, rfl⟩

/-- Whatever is requested in a session, every boot footer is sound at the moment
it is written, and none is written while an error is noted. -/
theorem fwup_scheduler_boot_footer {s s₁ u t : Fwup} {src : tls_fwup_image_src}
    {rand : { n : Nat // n ≠ 0 }} {session_id : Nat} {before after : List (List UInt8)}
    {sts sts' : List TLS_FWUP_STATUS} (hsrc : src ≠ TLS_FWUP_IMAGE_SRC_LUART)
    (henter : (tls_fwup_enter env src rand).run s = .ok (session_id, s₁)) (hopen : session_id ≠ 0)
    (hbefore : (requestAll env session_id before).run s₁ = .ok (sts, u))
    (hafter : (requestAll env session_id after).run u = .ok (sts', t)) :
    SoundFooters s u ∧ SoundFooters u t ∧
      (u.current_state.ERROR ≠ none → t.current_state.ERROR ≠ none ∧ t.footers = u.footers) := by
  obtain ⟨hs₁, hfooters⟩ := tls_fwup_enter_session hsrc henter hopen
  have hfirst := requestAll_step hs₁ hbefore
  have hsecond := requestAll_step (hfirst.inv hs₁) hafter
  refine ⟨Frame.trans (soundFooters_of_eq hfooters) (hfirst.footers hs₁), hsecond.footers (hfirst.inv hs₁),
    hsecond.failed⟩

/-- A firmware image of four bytes. -/
def firmwareImage : List UInt8 :=
  bytesU32 TLS_FWUP_IMAGE_SIGNATURE_WORD ++ [93, 0] ++ bytesU16 0 ++ bytesU32 4 ++ bytesU32 0 ++ [1, 2, 3, 4]

theorem firmwareImage_fits : Fits TLS_FWUP_IMAGE_SRC_HUART blankFwup.fls firmwareImage :=
  ⟨by decide, Or.inl rfl⟩

/-- A session in which a whole image is received exists. -/
theorem run_firmwareImage : ∃ s₁ st t,
    (tls_fwup_enter blankEnv TLS_FWUP_IMAGE_SRC_HUART ⟨1, by decide⟩).run blankFwup = .ok (1, s₁) ∧
      (requestAll blankEnv 1 [firmwareImage]).run s₁ = .ok ([st], t) := by
  obtain ⟨s₁, henter, hs₁, hcache, hflash, hoffset, -⟩ := @run_enter blankEnv TLS_FWUP_IMAGE_SRC_HUART blankEnv_reliable
    blankFwup blankFwup_idle ⟨1, by decide⟩
  obtain ⟨st, t, hrequest, -⟩ := run_request_first blankEnv_reliable (by decide) hs₁
    ⟨hcache, Or.inl (hoffset.trans rfl)⟩ (show sizeof_tls_fwup_image_hdr ≤ firmwareImage.length by decide) (by decide)
    (by rw [hflash]; exact firmwareImage_fits.chip)
  exact ⟨s₁, st, t, henter, run_bind_eq_ok.mpr ⟨st, t, hrequest, rfl⟩⟩

theorem fwup_scheduler_boot_footer_firmware : ∃ s₁ sts t,
    (requestAll blankEnv 1 [firmwareImage]).run s₁ = .ok (sts, t) ∧ SoundFooters s₁ t := by
  obtain ⟨s₁, st, t, henter, hrequest⟩ := run_firmwareImage
  exact ⟨s₁, [st], t, hrequest,
    (@fwup_scheduler_boot_footer _ _ _ _ _ _ _ _ [] _ _ _ (by decide) henter (by decide) rfl hrequest).2.1⟩

end ZCloud
