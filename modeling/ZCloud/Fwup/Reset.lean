import ZCloud.Fwup.Footer

open Memory Program

namespace ZCloud

/-- The bytes `image` are a header that is in order and at least the body it
announces. -/
structure WholeImage (src : tls_fwup_image_src) (image : List UInt8) : Prop where
  header : sizeof_tls_fwup_image_hdr ≤ image.length
  magic : validMagic (imageHeader src image) = true
  file_len : 0 < (imageHeader src image).file_len
  body : (imageHeader src image).file_len ≤ (image.drop sizeof_tls_fwup_image_hdr).length

section

variable (env : FwupEnv) (session_id : Nat)

/-- The bytes of a session that have been accepted once `data` has been answered
with `st`. -/
def accept (accepted data : List UInt8) (st : TLS_FWUP_STATUS) : List UInt8 :=
  if st = TLS_FWUP_STATUS_OK then accepted ++ data else accepted

/-- `P` holds of every request of a run from `s`, where it is submitted and the
bytes `accepted` have been accepted. -/
def Throughout (P : List UInt8 → Fwup → List UInt8 → Prop) : List UInt8 → Fwup → List (List UInt8) → Prop
  | _, _, [] => True
  | accepted, s, data :: rest => P accepted s data ∧ ∀ st t,
    (tls_fwup_request_sync env session_id data).run s = .ok (st, t) →
      Throughout P (accept accepted data st) t rest

/-- The request writes the boot footer or resets the device only when a whole
image has been programmed, and it does not reset it if it ends in an error. The
reset is one of this request: that of an earlier one is set aside. -/
def Commits (src : tls_fwup_image_src) (accepted : List UInt8) (s : Fwup) (data : List UInt8) : Prop :=
  ∀ st t, (tls_fwup_request_sync env session_id data).run { s with resetting := false } = .ok (st, t) →
    (t.resetting = true ∨ t.footers ≠ s.footers → WholeImage src (accepted ++ data)) ∧
      (t.resetting = true → st = TLS_FWUP_STATUS_OK)

/-- A request that brings a whole header, which is in order. -/
structure BringsHeader (src : tls_fwup_image_src) (s : Fwup) (data : List UInt8) : Prop where
  whole : sizeof_tls_fwup_image_hdr ≤ data.length
  magic : validMagic (imageHeader src data) = true
  file_len : 0 < (imageHeader src data).file_len
  footer : (imageHeader src data).dest_specific = TLS_FWUP_DEST_SPECIFIC_FIRMWARE →
    env.io s.fls.operations = none

/-- An image that is programmed without a failure and passes the check. -/
structure Passes (src : tls_fwup_image_src) (fls : Fls) (image : List UInt8) : Prop where
  reliable : env.Reliable
  lock : fls.fls_lock = 1
  fits : Fits src fls image
  crc8 : (imageHeader src image).crc8 =
    calculate_crc8 0 ((image.drop sizeof_tls_fwup_image_hdr).take (imageHeader src image).file_len)

/-- What keeps a request that the scheduler takes up from a wrong reset, in a
session that the driver began in state `fls`: the image is not complete yet, its
header comes in one request, and the request that completes it completes an image
that passes. -/
structure InOrder (src : tls_fwup_image_src) (fls : Fls) (accepted : List UInt8) (s : Fwup)
    (data : List UInt8) : Prop where
  more : s.current_state.COMPLETE = false
  length : s.received_len + data.length < 4294967296
  header : s.received_len < sizeof_tls_fwup_image_hdr → BringsHeader env src s data
  image : WholeImage src (accepted ++ data) →
    u32 (imageBase fls.flash (imageHeader src (accepted ++ data)) +
      (accepted.drop sizeof_tls_fwup_image_hdr).length) < TOTAL_SIZE → Passes env src fls (accepted ++ data)

/-- The condition on a request. One that is not taken up, and one that follows
an error, need not meet anything. -/
def Meets (src : tls_fwup_image_src) (fls : Fls) (accepted : List UInt8) (s : Fwup) (data : List UInt8) : Prop :=
  data ≠ [] → env.sem s.semaphores = true → s.current_state.ERROR = none →
    InOrder env src fls accepted s data

end

variable {env : FwupEnv} {src : tls_fwup_image_src} {fls : Fls} {session_id : Nat} {accepted data : List UInt8}

/-- The globals of a session that has received the header of `image` and
programmed the rest of it. -/
structure InBody (src : tls_fwup_image_src) (fls : Fls) (image : List UInt8) (s : Fwup) : Prop where
  long : sizeof_tls_fwup_image_hdr ≤ image.length
  magic : validMagic (imageHeader src image) = true
  file_len : 0 < (imageHeader src image).file_len
  current_hdr : s.current_hdr = imageHeader src image
  total_len : s.total_len = (imageHeader src image).file_len
  program_base : s.program_base = imageBase fls.flash (imageHeader src image)

/-- What the bytes accepted say about the globals, while no error has been noted
and the image is not complete. -/
inductive Progress (env : FwupEnv) (src : tls_fwup_image_src) (fls : Fls) (session_id : Nat) :
    List UInt8 → Fwup → Prop
  | start {s : Fwup} (hfls : s.fls = fls) (hinstalled : s.installed = true)
    (hsession : s.current_session_id = session_id) (hstate : s.current_state = TLS_FWUP_STATE.none)
    (hreceived : s.received_len = 0) (htotal : s.total_len = 0) (hupdated : s.updated_len = 0)
    (hoffset : s.program_offset = 0) (hhdr : s.current_hdr = Mem.fill sizeof_tls_fwup_image_hdr 0) :
    Progress env src fls session_id [] s
  | body {accepted : List UInt8} {s : Fwup} (hbody : InBody src fls accepted s)
    (hreceived : s.received_len = accepted.length)
    (hupdated : s.updated_len = (accepted.drop sizeof_tls_fwup_image_hdr).length)
    (hoffset : s.program_offset = (accepted.drop sizeof_tls_fwup_image_hdr).length)
    (hmore : s.updated_len < s.total_len)
    (hreliable : env.Reliable → fls.fls_lock = 1 → Fits src fls accepted →
      Programming src fls (imageHeader src accepted) session_id false accepted.length
        (accepted.drop sizeof_tls_fwup_image_hdr) s) : Progress env src fls session_id accepted s

/-- The invariant of a session whose requests are in order. -/
structure Receiving (env : FwupEnv) (src : tls_fwup_image_src) (fls : Fls) (session_id : Nat)
    (accepted : List UInt8) (s : Fwup) : Prop where
  src_eq : s.current_image_src = src
  cache : env.Reliable → fls.gsflscache.isSome
  failed : s.current_state.ERROR ≠ none → s.updated_len < s.total_len
  running : s.current_state.COMPLETE = false → s.resetting = false
  progress : s.current_state.ERROR = none → s.current_state.COMPLETE = false →
    Progress env src fls session_id accepted s

theorem Fits.of_append (h : Fits src fls (accepted ++ data))
    (hlong : sizeof_tls_fwup_image_hdr ≤ accepted.length) : Fits src fls accepted := by
  obtain ⟨hchip, hclean⟩ := h
  rw [imageHeader_append hlong] at hchip hclean
  rw [List.drop_append_of_le_length hlong, List.length_append] at hchip
  exact ⟨by omega, hclean⟩

/-- A request that is not taken up changes nothing that matters. -/
theorem Receiving.refused {s : Fwup} (hs : Receiving env src fls session_id accepted s) (semaphores : Nat) :
    Receiving env src fls session_id accepted { s with semaphores := semaphores } := by
  refine ⟨hs.src_eq, hs.cache, hs.failed, hs.running, fun herror hmore => ?_⟩
  cases hs.progress herror hmore with
  | start hfls hinstalled hsession hstate hreceived htotal hupdated hoffset hhdr =>
    exact Progress.start hfls hinstalled hsession hstate hreceived htotal hupdated hoffset hhdr
  | body hbody hreceived hupdated hoffset hmore hreliable =>
    obtain ⟨hlong, hmagic, hlen, hhdr, htotal, hbase⟩ := hbody
    refine Progress.body ⟨hlong, hmagic, hlen, hhdr, htotal, hbase⟩ hreceived hupdated hoffset hmore
      fun henv hlock hfits => ?_
    have h := hreliable henv hlock hfits
    exact ⟨h.fast, h.installed, h.src_eq, h.session, h.state, h.received_len, h.total_len, h.updated_len,
      h.program_base, h.program_offset, h.current_hdr, h.running⟩

/-- The header part of a request that is in order. -/
theorem TakesHeader.inOrder {s t : Fwup} {r : Except TLS_FWUP_REQ_STATUS (List UInt8)}
    (h : TakesHeader env s.taken data r t) (hs : Receiving env src fls session_id accepted s)
    (herror : s.current_state.ERROR = none) (hmeets : InOrder env src fls accepted s data) :
    ∃ buffer, r = .ok buffer ∧ InBody src fls (accepted ++ data) t ∧
      (accepted ++ data).drop sizeof_tls_fwup_image_hdr = accepted.drop sizeof_tls_fwup_image_hdr ++ buffer ∧
      (accepted ++ data).length < 4294967296 ∧ t.received_len = (accepted ++ data).length ∧
      t.current_state = s.taken.current_state ∧
      t.current_image_src = s.current_image_src ∧ t.resetting = s.resetting ∧ t.footers = s.footers ∧
      t.updated_len = (accepted.drop sizeof_tls_fwup_image_hdr).length ∧
      t.program_offset = (accepted.drop sizeof_tls_fwup_image_hdr).length ∧ t.updated_len < t.total_len := by
  have hsize : sizeof_tls_fwup_image_hdr = 16 := rfl
  have hlen := hmeets.length
  cases hs.progress herror hmeets.more with
  | start hfls hinstalled hsession hstate hreceived htotal hupdated hoffset hhdr =>
    obtain ⟨hwhole, hmagic, hfile, hfooter⟩ := hmeets.header (by omega)
    obtain ⟨failed, u, hheader, ⟨status, rfl, -, -⟩ | ⟨rfl, rfl, rfl⟩⟩ := h.first hreceived hhdr hwhole
    · rw [hs.src_eq] at hheader
      cases hheader with
      | invalid hinvalid =>
        rw [hmagic] at hinvalid
        cases hinvalid
      | io fls hdest hfailed => exact absurd (hfooter hdest) hfailed
    · rw [hs.src_eq] at hheader
      cases hheader with
      | valid fls' hvalid _ hreads =>
        refine ⟨_, rfl, ⟨hwhole, hmagic, hfile, rfl, rfl, ?_⟩, rfl, ?_, ?_, rfl, rfl, rfl, rfl, rfl, hoffset, hfile⟩
        · rw [← hfls]
          rfl
        · rw [List.nil_append]
          omega
        · exact u32_of_lt (by omega)
  | body hbody hreceived hupdated hoffset hmore hreliable =>
    have hlong := hbody.long
    have hheader := @imageHeader_append src _ hlong data
    obtain ⟨rfl, rfl⟩ := h.next (by omega)
    refine ⟨data, rfl, ⟨?_, ?_, ?_, ?_, ?_, ?_⟩, List.drop_append_of_le_length hlong, ?_, ?_, rfl, rfl, rfl, rfl,
      hupdated, hoffset, hmore⟩
    · rw [List.length_append]
      omega
    · rw [hheader]
      exact hbody.magic
    · rw [hheader]
      exact hbody.file_len
    · rw [hheader]
      exact hbody.current_hdr
    · rw [hheader]
      exact hbody.total_len
    · rw [hheader]
      exact hbody.program_base
    · rw [List.length_append]
      omega
    · change u32 (s.received_len + data.length) = _
      rw [u32_of_lt (by omega), hreceived, List.length_append]

/-- What a request that is in order does when nothing fails and the image
fits. -/
theorem run_request_inOrder (hsrc : src ≠ TLS_FWUP_IMAGE_SRC_LUART) {s : Fwup}
    (hs : Receiving env src fls session_id accepted s) (herror : s.current_state.ERROR = none)
    (hmeets : InOrder env src fls accepted s data) (hdata : data ≠ []) (henv : env.Reliable)
    (hlock : fls.fls_lock = 1) (hfits : Fits src fls (accepted ++ data)) :
    ∃ st t, (tls_fwup_request_sync env session_id data).run s = .ok (st, t) ∧
      (((accepted ++ data).drop sizeof_tls_fwup_image_hdr).length <
          (imageHeader src (accepted ++ data)).file_len →
        Programming src fls (imageHeader src (accepted ++ data)) session_id false (accepted ++ data).length
          ((accepted ++ data).drop sizeof_tls_fwup_image_hdr) t) ∧
      ((imageHeader src (accepted ++ data)).file_len ≤
          ((accepted ++ data).drop sizeof_tls_fwup_image_hdr).length →
        outcome (imageHeader src (accepted ++ data)) (imageBase fls.flash (imageHeader src (accepted ++ data))) t =
          bodyOutcome (imageHeader src (accepted ++ data)) fls
            ((accepted ++ data).drop sizeof_tls_fwup_image_hdr)) := by
  have hcache := hs.cache henv
  have hrunning := hs.running hmeets.more
  cases hs.progress herror hmeets.more with
  | start hfls hinstalled hsession hstate hreceived htotal hupdated hoffset hhdr =>
    obtain ⟨hwhole, hmagic, -, -⟩ := hmeets.header (by rw [hreceived]; decide)
    obtain ⟨st, t, hrun, hmore, hlast⟩ := run_request_first henv hsrc
      ⟨hfls, hlock, hinstalled, hs.src_eq, hsession, hstate, hreceived, htotal, hupdated, hoffset, hhdr, hrunning⟩
      ⟨hcache, hfits.clean⟩ hwhole hmagic hfits.chip
    refine ⟨st, t, hrun, fun h => ?_, fun h => (hlast h).2⟩
    have hlen : data.length = sizeof_tls_fwup_image_hdr + (data.drop sizeof_tls_fwup_image_hdr).length := by
      rw [List.length_drop, Nat.add_sub_cancel' hwhole]
    rw [List.nil_append, hlen]
    exact hmore h
  | body hbody hreceived hupdated hoffset hmore hreliable =>
    have hlong := hbody.long
    have hprogramming := hreliable henv hlock (hfits.of_append hlong)
    have hlen : accepted.length = sizeof_tls_fwup_image_hdr +
        (accepted.drop sizeof_tls_fwup_image_hdr).length := by
      rw [List.length_drop, Nat.add_sub_cancel' hlong]
    obtain ⟨hchip, hclean⟩ := hfits
    rw [imageHeader_append hlong, List.drop_append_of_le_length hlong] at hchip ⊢
    rw [imageHeader_append hlong] at hclean
    rw [List.length_append] at hchip
    rw [hlen] at hprogramming
    obtain ⟨st, t, hrun, hnext, hlast⟩ := run_request_body henv ⟨hcache, hclean⟩ hsrc hprogramming hdata (by omega)
    refine ⟨st, t, hrun, fun h => ?_, fun h => (hlast h).2⟩
    have hnext' := hnext h
    rwa [show sizeof_tls_fwup_image_hdr + (accepted.drop sizeof_tls_fwup_image_hdr ++ data).length =
      (accepted ++ data).length by rw [List.length_append, List.length_append, ← Nat.add_assoc, ← hlen]] at hnext'

/-- An image that passes the check is complete without an error. -/
theorem bodyOutcome_passes {hdr : tls_fwup_image_hdr} {body : List UInt8} (hlen : 0 < hdr.file_len)
    (hbody : hdr.file_len ≤ body.length) (hcrc : hdr.crc8 = calculate_crc8 0 (body.take hdr.file_len)) :
    (bodyOutcome hdr fls body).current_state = { TLS_FWUP_STATE.none with COMPLETE := true } := by
  have hne : body ≠ [] := List.length_pos_iff.mp (by omega)
  rw [bodyOutcome, if_neg hne, if_neg (Nat.not_lt.mpr hbody), checkedOutcome, if_neg (not_not_intro hcrc)]

theorem Accepts.status {s t : Fwup} {crc8 : UInt8} {image_checksum : Nat} {status : TLS_FWUP_REQ_STATUS}
    (h : Accepts s crc8 image_checksum status t) (herror : t.current_state.ERROR = none) :
    status = TLS_FWUP_REQ_STATUS_SUCCESS := by
  cases h with
  | crc => cases (TLS_FWUP_STATE.ERROR_eq_none.mp herror).2.2.2
  | data => rfl
  | footer => rfl
  | footerFailed => cases (TLS_FWUP_STATE.ERROR_eq_none.mp herror).1

/-- A check that notes no error is one that succeeds. -/
theorem Verifies.status {s t : Fwup} {status : TLS_FWUP_REQ_STATUS} (h : Verifies s status t)
    (herror : t.current_state.ERROR = none) : status = TLS_FWUP_REQ_STATUS_SUCCESS := by
  cases h with
  | memory => cases (TLS_FWUP_STATE.ERROR_eq_none.mp herror).2.2.1
  | io => cases (TLS_FWUP_STATE.ERROR_eq_none.mp herror).1
  | read fls crc8 image_checksum hcache hcrc hchecksum haccept => exact haccept.status herror

theorem tls_fls_fast_write_addr {s t : Fls} {addr : Nat} {buf : List UInt8}
    (h : (tls_fls_fast_write env.toFlsEnv addr buf).run s = .ok (TLS_FLS_STATUS_OK, t)) : addr < TOTAL_SIZE := by
  rw [tls_fls_fast_write] at h
  split at h
  · exact absurd (run_pure_eq_ok.mp h).1 (fun h => by cases h)
  · omega

/-- What a request that is in order does. -/
private theorem Handles.inOrder (hsrc : src ≠ TLS_FWUP_IMAGE_SRC_LUART) {s u : Fwup}
    {status : TLS_FWUP_REQ_STATUS} (h : Handles env s.taken data status u)
    (hrun : (tls_fwup_request_sync env session_id data).run s = .ok (status.result, requestDone u))
    (hs : Receiving env src fls session_id accepted s) (herror : s.current_state.ERROR = none)
    (hmeets : InOrder env src fls accepted s data) (hdata : data ≠ []) :
    Receiving env src fls session_id (accept accepted data status.result) (requestDone u) ∧
      ((requestDone u).resetting = true ∨ (requestDone u).footers ≠ s.footers →
        WholeImage src (accepted ++ data)) ∧
      ((requestDone u).resetting = true → status.result = TLS_FWUP_STATUS_OK) := by
  have hmore := hmeets.more
  cases h with
  | discarded hfailed =>
    change s.current_state.ERROR = _ at hfailed
    rw [herror] at hfailed
    cases hfailed
  | complete _ hcomplete =>
    change s.current_state.COMPLETE = true at hcomplete
    rw [hmore] at hcomplete
    cases hcomplete
  | header _ _ htake =>
    obtain ⟨buffer, hr, -⟩ := htake.inOrder hs herror hmeets
    cases hr
  | @body _ buffer u₁ _ _ _ htake hprogram =>
    obtain ⟨_, hr, hbody, hdrop, hlen, hreceived, hstate, hsrc₁, hresetting, hfooters, hupdated, hoffset, hopen⟩ :=
      htake.inOrder hs herror hmeets
    cases hr
    have hrunning : u₁.resetting = false := hresetting.trans (hs.running hmore)
    have hsrc₁' : u₁.current_image_src = src := hsrc₁.trans hs.src_eq
    obtain ⟨hlong, hmagic, hfile, hhdr, htotal, hbase⟩ := hbody
    have hprogramming : ∀ v, u = v → env.Reliable → fls.fls_lock = 1 → Fits src fls (accepted ++ data) →
        ((accepted ++ data).drop sizeof_tls_fwup_image_hdr).length <
          (imageHeader src (accepted ++ data)).file_len →
        Programming src fls (imageHeader src (accepted ++ data)) session_id false (accepted ++ data).length
          ((accepted ++ data).drop sizeof_tls_fwup_image_hdr) (requestDone v) := by
      rintro v rfl henv hlock hfits hless
      obtain ⟨st, t, hrun', hnext, -⟩ := run_request_inOrder hsrc hs herror hmeets hdata henv hlock hfits
      rw [hrun] at hrun'
      cases hrun'
      exact hnext hless
    have hsum : u₁.updated_len + buffer.length =
        ((accepted ++ data).drop sizeof_tls_fwup_image_hdr).length := by
      rw [hdrop, List.length_append, hupdated]
    have hbound : u32 (u₁.updated_len + buffer.length) = u₁.updated_len + buffer.length := by
      refine u32_of_lt ?_
      rw [hsum, List.length_drop]
      omega
    have herror₁ : u₁.current_state.ERROR = none := by
      rw [hstate]
      exact herror
    have hnew : ∀ {p : Prop}, u₁.resetting = true ∨ u₁.footers ≠ s.footers → p := by
      rintro p (h | h)
      · rw [hrunning] at h
        cases h
      · exact absurd hfooters h
    cases hprogram with
    | nothing hbuffer =>
      subst hbuffer
      rw [List.append_nil] at hdrop
      rw [requestDone_of_lt hopen]
      refine ⟨⟨hsrc₁', hs.cache, fun _ => hopen, fun _ => hrunning, fun _ _ => ?_⟩, hnew, fun _ => rfl⟩
      refine Progress.body ⟨hlong, hmagic, hfile, hhdr, htotal, hbase⟩ hreceived
        (hupdated.trans (congrArg List.length hdrop.symm)) (hoffset.trans (congrArg List.length hdrop.symm)) hopen fun henv hlock hfits => ?_
      have := hprogramming _ rfl henv hlock hfits (by rw [hdrop, ← hupdated, ← htotal]; exact hopen)
      rwa [requestDone_of_lt hopen] at this
    | refused hbuffer =>
      have hopen' : ({ u₁ with current_state := { u₁.current_state with ERROR_IO := true } } : Fwup).updated_len <
        ({ u₁ with current_state := { u₁.current_state with ERROR_IO := true } } : Fwup).total_len := hopen
      rw [requestDone_of_lt hopen']
      refine ⟨⟨hsrc₁', hs.cache, fun _ => hopen, fun _ => hrunning, fun h => ?_⟩, hnew, fun h => ?_⟩
      · cases (TLS_FWUP_STATE.ERROR_eq_none.mp h).1
      · exact hnew (Or.inl h)
    | more fls₁ hbuffer hwrite hless =>
      have hless' := hless
      rw [hbound, hsum, htotal] at hless'
      have hopen' : ({ u₁.withFls fls₁ with
          program_offset := u32 (u₁.program_offset + buffer.length)
          updated_len := u32 (u₁.updated_len + buffer.length) } : Fwup).updated_len <
        ({ u₁.withFls fls₁ with
          program_offset := u32 (u₁.program_offset + buffer.length)
          updated_len := u32 (u₁.updated_len + buffer.length) } : Fwup).total_len := hless
      have hprogrammed := hprogramming _ rfl
      rw [requestDone_of_lt hopen'] at hprogrammed ⊢
      refine ⟨⟨hsrc₁', hs.cache, fun _ => hless, fun _ => hrunning, fun _ _ => ?_⟩, hnew, fun _ => rfl⟩
      refine Progress.body ⟨hlong, hmagic, hfile, hhdr, htotal, hbase⟩ hreceived (hbound.trans hsum) ?_ hless
        fun henv hlock hfits => hprogrammed henv hlock hfits hless'
      change u32 (u₁.program_offset + buffer.length) = _
      rw [hoffset, ← hupdated, hbound, hsum]
      rfl
    | last fls₁ hbuffer hwrite hlast hverify =>
      have hlast' := hlast
      rw [hbound, hsum, htotal] at hlast'
      have hwhole : WholeImage src (accepted ++ data) := ⟨hlong, hmagic, hfile, hlast'⟩
      have haddr := tls_fls_fast_write_addr hwrite
      rw [hbase, hoffset] at haddr
      obtain ⟨henv, hlock, hfits, hcrc⟩ := hmeets.image hwhole haddr
      obtain ⟨st, t, hrun', -, hdone⟩ := run_request_inOrder hsrc hs herror hmeets hdata henv hlock hfits
      rw [hrun] at hrun'
      cases hrun'
      have hcomplete := congrArg FwupOutcome.current_state (hdone hlast')
      rw [bodyOutcome_passes hfile hlast' hcrc] at hcomplete
      change (requestDone u).current_state = _ at hcomplete
      have hnone : (requestDone u).current_state.ERROR = none := by
        rw [hcomplete]
        rfl
      rw [requestDone_ERROR] at hnone
      have hstatus := hverify.status hnone
      refine ⟨⟨?_, hs.cache, fun h => absurd (by rw [requestDone_ERROR, hnone]) h, fun h => ?_, fun _ h => ?_⟩, fun _ => hwhole,
        fun _ => by rw [hstatus]; rfl⟩
      · rw [requestDone_src, hverify.keepsHeader.src]
        exact hsrc₁'
      · rw [hcomplete] at h
        cases h
      · rw [hcomplete] at h
        cases h

theorem TLS_FWUP_STATE.result_of_ERROR {st : TLS_FWUP_STATE} {status : TLS_FWUP_REQ_STATUS}
    (h : st.ERROR = some status) : status.result ≠ TLS_FWUP_STATUS_OK := by
  simp only [TLS_FWUP_STATE.ERROR] at h
  intro hok
  cases status with
  | TLS_FWUP_REQ_STATUS_SUCCESS =>
    revert h
    cases st.ERROR_IO <;> cases st.ERROR_SIGNATURE <;> cases st.ERROR_MEM <;> cases st.ERROR_CRC <;> simp
  | _ => cases hok

/-- A request that follows an error is discarded. -/
theorem Handles.discards {s u : Fwup} {status : TLS_FWUP_REQ_STATUS} (h : Handles env s data status u)
    (herror : s.current_state.ERROR ≠ none) : u = s ∧ status.result ≠ TLS_FWUP_STATUS_OK := by
  cases h with
  | discarded hfailed => exact ⟨rfl, TLS_FWUP_STATE.result_of_ERROR hfailed⟩
  | complete hnone => exact absurd hnone herror
  | header hnone => exact absurd hnone herror
  | body hnone => exact absurd hnone herror

theorem accept_refused {st : TLS_FWUP_STATUS} (h : st ≠ TLS_FWUP_STATUS_OK) : accept accepted data st = accepted :=
  if_neg h

/-- A request that meets the condition keeps the invariant. -/
theorem Receiving.step (hsrc : src ≠ TLS_FWUP_IMAGE_SRC_LUART) {s t : Fwup} {st : TLS_FWUP_STATUS}
    (hs : Receiving env src fls session_id accepted s) (hmeets : Meets env src fls accepted s data)
    (hrun : (tls_fwup_request_sync env session_id data).run s = .ok (st, t)) :
    Receiving env src fls session_id (accept accepted data st) t := by
  obtain ⟨hst, semaphores, rfl⟩ | ⟨hdata, hsem, status, u, rfl, hhandles, rfl⟩ :=
    tls_fwup_request_sync_ok (by rw [hs.src_eq]; exact hsrc) hrun
  · rw [accept_refused hst]
    exact hs.refused semaphores
  · by_cases herror : s.current_state.ERROR = none
    · exact (Handles.inOrder hsrc hhandles hrun hs herror (hmeets hdata hsem herror) hdata).1
    · obtain ⟨rfl, hst⟩ := hhandles.discards herror
      have hopen := hs.failed herror
      rw [accept_refused hst, requestDone_of_lt (s := s.taken) hopen]
      exact ⟨hs.src_eq, hs.cache, fun _ => hopen, hs.running, fun h => absurd h herror⟩

/-- A request that meets the condition commits and resets as it should. -/
theorem Receiving.commits (hsrc : src ≠ TLS_FWUP_IMAGE_SRC_LUART) {s : Fwup}
    (hs : Receiving env src fls session_id accepted s) (hmeets : Meets env src fls accepted s data) :
    Commits env session_id src accepted s data := by
  intro st t hrun
  obtain ⟨hst, semaphores, rfl⟩ | ⟨hdata, hsem, status, u, rfl, hhandles, rfl⟩ :=
    tls_fwup_request_sync_ok (by exact hs.src_eq ▸ hsrc) hrun
  · exact ⟨fun h => h.elim nofun fun h => absurd rfl h, nofun⟩
  · by_cases herror : s.current_state.ERROR = none
    · have hmore := (hmeets hdata hsem herror).more
      have hsame : { s with resetting := false } = s := by rw [← hs.running hmore]
      rw [hsame] at hrun hhandles
      exact (Handles.inOrder hsrc hhandles hrun hs herror (hmeets hdata hsem herror) hdata).2
    · obtain ⟨rfl, hst⟩ := hhandles.discards herror
      have hopen := hs.failed herror
      rw [requestDone_of_lt (s := Fwup.taken { s with resetting := false }) hopen]
      exact ⟨fun h => h.elim nofun fun h => absurd rfl h, nofun⟩

theorem Receiving.throughout (hsrc : src ≠ TLS_FWUP_IMAGE_SRC_LUART) {s : Fwup} {requests : List (List UInt8)}
    (hs : Receiving env src fls session_id accepted s)
    (hmeets : Throughout env session_id (Meets env src fls) accepted s requests) :
    Throughout env session_id (Commits env session_id src) accepted s requests := by
  induction requests generalizing accepted s with
  | nil => trivial
  | cons data requests ih =>
    obtain ⟨hfirst, hrest⟩ := hmeets
    exact ⟨hs.commits hsrc hfirst, fun st t hrun => ih (hs.step hsrc hfirst hrun) (hrest st t hrun)⟩

theorem tls_fls_fast_write_init_isSome {s t : Fls} (halloc : ∀ n, env.alloc n = true)
    (h : (tls_fls_fast_write_init env.toFlsEnv).run s = .ok ((), t)) : t.gsflscache.isSome := by
  rw [tls_fls_fast_write_init, run_get_bind] at h
  split at h
  · rw [(run_pure_eq_ok.mp h).2]
    exact ‹s.gsflscache.isSome = true›
  · obtain ⟨ok, s₁, hacquire, h⟩ := run_bind_eq_ok.mp h
    split at h
    · rw [run_modify_eq_ok.mp h]
      rfl
    · rw [tls_mem_alloc, run_get_bind] at hacquire
      obtain ⟨_, s₂, -, hacquire⟩ := run_bind_eq_ok.mp hacquire
      rw [(run_pure_eq_ok.mp hacquire).1] at ‹¬ ok = true›
      exact absurd (halloc _) ‹_›

/-- In a session whose requests all meet the condition, the boot footer is
written and the device is reset only when a whole image has been programmed. -/
theorem fwup_scheduler_commits {rand : { n : Nat // n ≠ 0 }} {s s₁ : Fwup} {requests : List (List UInt8)}
    (hsrc : src ≠ TLS_FWUP_IMAGE_SRC_LUART) (hrunning : s.resetting = false)
    (henter : (tls_fwup_enter env src rand).run s = .ok (session_id, s₁)) (hopen : session_id ≠ 0)
    (hmeets : Throughout env session_id (Meets env src s₁.fls) [] s₁ requests) :
    Throughout env session_id (Commits env session_id src) [] s₁ requests := by
  obtain ⟨rfl, hinstalled, fls, hinit, rfl⟩ := tls_fwup_enter_ok henter hopen
  have hs₁ : Receiving env src fls rand.val [] ((s.enter src rand.val).withFls fls) := by
    refine ⟨rfl, fun henv => tls_fls_fast_write_init_isSome henv.alloc hinit, fun h => absurd rfl h,
      fun _ => hrunning, fun _ _ => ?_⟩
    exact Progress.start rfl hinstalled rfl rfl rfl rfl rfl rfl rfl
  exact hs₁.throughout hsrc hmeets

/-- A device that is idle, and a session from the first number drawn on. -/
theorem run_enter_blank : ∃ s₁,
    (tls_fwup_enter blankEnv TLS_FWUP_IMAGE_SRC_HUART ⟨1, by decide⟩).run blankFwup = .ok (1, s₁) ∧
      Entered TLS_FWUP_IMAGE_SRC_HUART s₁.fls 1 s₁ ∧ s₁.fls.flash = blankFwup.fls.flash ∧
      s₁.fls.gsSecOffset = 0 ∧ s₁.fls.gsflscache.isSome := by
  obtain ⟨s₁, henter, hs₁, hcache, hflash, hoffset, -⟩ := @run_enter blankEnv TLS_FWUP_IMAGE_SRC_HUART
    blankEnv_reliable blankFwup blankFwup_idle ⟨1, by decide⟩
  exact ⟨s₁, henter, hs₁, hflash, hoffset, hcache⟩

/-- The first eight bytes of a header reset the device. -/
theorem fwup_scheduler_resets_early : ∃ s₁,
    (tls_fwup_enter blankEnv TLS_FWUP_IMAGE_SRC_HUART ⟨1, by decide⟩).run blankFwup = .ok (1, s₁) ∧
      ¬ Throughout blankEnv 1 (Commits blankEnv 1 TLS_FWUP_IMAGE_SRC_HUART) [] s₁ [dataHeader.take 8] := by
  obtain ⟨s₁, henter, hs₁, -⟩ := run_enter_blank
  refine ⟨s₁, henter, fun hcommits => ?_⟩
  obtain ⟨st, t, hrun, hreset, -⟩ := @run_request_short blankEnv TLS_FWUP_IMAGE_SRC_HUART s₁.fls 1
    blankEnv_reliable (by decide) (dataHeader.take 8) s₁ hs₁ (by decide) (by decide)
  have hsame : { s₁ with resetting := false } = s₁ := by rw [← hs₁.running]
  have hwhole := (hcommits.1 st t (by rw [hsame]; exact hrun)).1 (Or.inl hreset)
  exact absurd hwhole.header (by decide)

/-- A firmware in one request meets the condition. -/
theorem fwup_scheduler_commits_firmware : ∃ s₁,
    (tls_fwup_enter blankEnv TLS_FWUP_IMAGE_SRC_HUART ⟨1, by decide⟩).run blankFwup = .ok (1, s₁) ∧
      Throughout blankEnv 1 (Commits blankEnv 1 TLS_FWUP_IMAGE_SRC_HUART) [] s₁ [firmwareImage] := by
  obtain ⟨s₁, henter, hs₁, hflash, hoffset, -⟩ := run_enter_blank
  refine ⟨s₁, henter, fwup_scheduler_commits (by decide) rfl henter (by decide) ⟨fun _ _ _ => ?_, fun _ _ _ => ?_⟩⟩
  · refine ⟨by rw [hs₁.state]; rfl, by rw [hs₁.received_len]; decide, fun _ => ?_, fun _ _ => ?_⟩
    · exact ⟨by decide, by decide, by decide, fun _ => rfl⟩
    · exact ⟨blankEnv_reliable, hs₁.lock, ⟨by rw [hflash]; decide, Or.inl hoffset⟩, by decide⟩
  · trivial

end ZCloud
