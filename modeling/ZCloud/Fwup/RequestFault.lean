import ZCloud.Drivers.FastFault
import ZCloud.Fwup.Request

open Memory Program

namespace ZCloud

/-- The header as the first bytes of `data` complete it. -/
def Fwup.completedHeader (s : Fwup) (data : List UInt8) : tls_fwup_image_hdr :=
  receivedHeader s.current_image_src
    ⟨patch s.current_hdr.bytes 0 (data.take (sizeof_tls_fwup_image_hdr - s.received_len)), by
      rw [length_patch, s.current_hdr.length_bytes]
      rw [Nat.zero_add, List.length_take, s.current_hdr.length_bytes]
      omega⟩

section

variable (env : FwupEnv)

/-- Where the image of a session goes once the request `data` has been looked at, if its
header is in order and the boot footer can be read. -/
def Fwup.targetBase (s : Fwup) (data : List UInt8) : Option Nat :=
  if sizeof_tls_fwup_image_hdr ≤ s.received_len then some s.program_base
  else
    let hdr := s.completedHeader data
    if validMagic hdr = true ∧
        (hdr.dest_specific = TLS_FWUP_DEST_SPECIFIC_FIRMWARE → env.io s.fls.operations = none) then
      some (imageBase s.fls.flash hdr)
    else none

/-- The request `data` brings bytes of an image that go to the chip: they are copied to
the sector cache. -/
structure Fwup.NeedsCache (s : Fwup) (session_id : Nat) (data : List UInt8) : Prop where
  installed : s.installed = true
  session_id_eq : session_id = s.current_session_id
  sem : env.sem s.semaphores = true
  error : s.current_state.ERROR = none
  incomplete : s.current_state.COMPLETE = false
  body : sizeof_tls_fwup_image_hdr - s.received_len < data.length
  target : ∃ base, s.targetBase env data = some base ∧ u32 (base + s.program_offset) < TOTAL_SIZE

end

section

variable {env : FwupEnv} {s t : Fwup} {data buffer : List UInt8}

/-- The lock of the driver can be taken. -/
def Fwup.Free (s : Fwup) : Prop := s.fls.Free

theorem Fwup.targetBase_withFls {fls : Fls} (hflash : fls.flash = s.fls.flash) (hoperations : fls.operations = s.fls.operations) :
    (s.withFls fls).targetBase env data = s.targetBase env data := by
  cases fls
  cases hflash
  cases hoperations
  rfl

theorem Fwup.needsCache_withFls {fls : Fls} {session_id : Nat} (hflash : fls.flash = s.fls.flash)
    (hoperations : fls.operations = s.fls.operations) :
    (s.withFls fls).NeedsCache env session_id data ↔ s.NeedsCache env session_id data := by
  have hbase := @Fwup.targetBase_withFls env s data fls hflash hoperations
  constructor
  · rintro ⟨hinstalled, hid, hsem, herror, hcomplete, hbody, htarget⟩
    rw [hbase] at htarget
    exact ⟨hinstalled, hid, hsem, herror, hcomplete, hbody, htarget⟩
  · rintro ⟨hinstalled, hid, hsem, herror, hcomplete, hbody, htarget⟩
    rw [← hbase] at htarget
    exact ⟨hinstalled, hid, hsem, herror, hcomplete, hbody, htarget⟩

theorem setError_free (f : TLS_FWUP_STATE → TLS_FWUP_STATE) : Ensures Fwup.Free (setError f) Fwup.Free :=
  fun _ hs => ⟨(), _, rfl, hs⟩

/-- A step that ends with an error. -/
theorem failed_free {α : Type} (f : TLS_FWUP_STATE → TLS_FWUP_STATE) (a : α) :
    Ensures Fwup.Free (do setError f; return a) Fwup.Free :=
  ensures_bind (setError_free f) fun _ s hs => ⟨a, s, rfl, hs⟩

theorem verifyLoop_free {base : Nat} (fuel offset left : Nat) (buffer_t : Mem 1024) (crc8 : UInt8) (sum image_checksum : Nat) :
    Ensures Fwup.Free (verifyLoop env base fuel offset left buffer_t crc8 sum image_checksum) Fwup.Free := by
  induction fuel generalizing offset left buffer_t crc8 sum image_checksum with
  | zero => exact fun s hs => ⟨_, s, rfl, hs⟩
  | succ fuel ih =>
    rw [verifyLoop]
    split
    · exact fun s hs => ⟨_, s, rfl, hs⟩
    · intro s hs
      generalize hround : (if left > 1024 then 1024 else left) = len
      have hlen : len ≤ 1024 := by
        split at hround <;> omega
      obtain ⟨err, bytes, fls, hread, hfree, hbytes⟩ :=
        @tls_fls_read_returns env.toFlsEnv s.fls (u32 (base + offset)) len hs
      dsimp only
      rw [run_bind_of_ok (run_callFls hread)]
      dsimp only
      split
      · exact failed_free _ _ hfree
      · obtain ⟨m, hstore, -⟩ := @Mem.store_spec _ buffer_t 0 bytes (by omega)
        exact ensures_lift_bind hstore (ih _ _ _ _ _ _) hfree

theorem acceptImage_returns (hfree : s.Free) (crc8 : UInt8) (image_checksum : Nat) :
    ∃ r, (acceptImage env crc8 image_checksum).run s = .ok r := by
  rw [acceptImage, run_get_bind]
  split
  · exact ⟨_, rfl⟩
  split
  · let footer := newFooter s.program_base s.total_len image_checksum
    have hlen : footer.toBytes.length = 44 := rfl
    obtain ⟨st, fls, hwrite⟩ := @tls_fls_write_returns env.toFlsEnv s.fls TLS_FLASH_BOOT_FOOTER_ADDR footer.toBytes hfree
      (by decide) (by rw [hlen]; decide) (by rw [hlen]; decide) (by rw [hlen]; decide)
    refine exists_run_bind (run_modify _ _) (exists_run_bind (run_callFls (s := s.commit footer) hwrite) ?_)
    split <;> exact ⟨_, rfl⟩
  · exact ⟨_, rfl⟩

theorem verifyImage_returns (hfree : s.Free) : ∃ r, (verifyImage env).run s = .ok r := by
  obtain ⟨_, fls, hdestroy⟩ := @tls_fls_fast_write_destroy_returns env.toFlsEnv s.fls
  have hfls : fls.Free := by
    rw [Fls.Free, tls_fls_fast_write_destroy_sameLock hdestroy]
    exact hfree
  have halloc : (tls_mem_alloc env.toFlsEnv).run fls =
      .ok (env.alloc fls.allocations, { fls with allocations := fls.allocations + 1 }) := rfl
  refine exists_run_bind (run_callFls hdestroy) (exists_run_bind (run_callFls (s := s.withFls fls) halloc) ?_)
  split
  · exact ⟨_, rfl⟩
  · rw [run_get_bind]
    obtain ⟨r, u, hloop, hu⟩ := @verifyLoop_free env s.program_base s.total_len 0 s.total_len
      ⟨(List.range 1024).map env.heap, by simp⟩ 0 0 0
      ((s.withFls fls).withFls { fls with allocations := fls.allocations + 1 }) hfls
    refine exists_run_bind hloop ?_
    cases r with
    | error status => exact ⟨_, rfl⟩
    | ok r => exact acceptImage_returns hu _ _

/-- Bytes of an image can be programmed exactly where there is a sector cache for those
that go to the chip. -/
theorem programImage_returns_iff (hfree : s.Free) : (∃ r, (programImage env buffer).run s = .ok r) ↔
    (buffer ≠ [] → u32 (s.program_base + s.program_offset) < TOTAL_SIZE → s.fls.HasCache) := by
  by_cases hbuffer : buffer = []
  · rw [hbuffer]
    exact iff_of_true ⟨_, rfl⟩ fun h => absurd rfl h
  have hpos : buffer.length > 0 := List.length_pos_iff.mpr hbuffer
  have hwrites := @tls_fls_fast_write_returns_iff env.toFlsEnv s.fls (u32 (s.program_base + s.program_offset)) _ hfree hbuffer
  rw [programImage, if_pos hpos]
  constructor
  · rintro ⟨⟨status, t⟩, hrun⟩ _
    rw [run_get_bind] at hrun
    obtain ⟨err, u, hwrite, -⟩ := run_bind_eq_ok.mp hrun
    obtain ⟨fls, hfls, -⟩ := callFls_ok hwrite
    exact hwrites.mp ⟨_, hfls⟩
  · intro h
    rw [run_get_bind]
    obtain ⟨⟨err, fls⟩, hwrite⟩ := hwrites.mpr (h hbuffer)
    refine exists_run_bind (run_callFls hwrite) ?_
    split
    · exact ⟨_, rfl⟩
    · rename_i hok
      have hlock : fls.Free := by
        rw [Fls.Free, tls_fls_fast_write_sameLock _ _ hwrite]
        exact hfree
      refine exists_run_bind (run_modify _ _) ?_
      rw [run_get_bind]
      split
      · exact verifyImage_returns hlock
      · exact ⟨_, rfl⟩

theorem headerReceived_free : Ensures Fwup.Free (headerReceived env) Fwup.Free := by
  intro s hs
  rw [headerReceived, run_get_bind]
  generalize (if s.current_image_src = TLS_FWUP_IMAGE_SRC_WEB then swapHeader s.current_hdr else s.current_hdr) = hdr
  have hend (base : Fwup → Nat) : Ensures Fwup.Free (do
      modify fun s => { s with program_base := base s }
      modify fun s => { s with updated_len := 0, total_len := hdr.file_len }
      return none : Prog Fwup (Option TLS_FWUP_REQ_STATUS)) Fwup.Free := fun u hu => ⟨_, _, rfl, hu⟩
  refine (ensures_bind (Q := Fwup.Free) (fun u hu => ⟨(), _, rfl, hu⟩) fun _ => ?_) hs
  split
  · exact failed_free _ _
  split
  · intro u hu
    obtain ⟨err, footer, fls, hread, hfree, -⟩ :=
      @tls_fls_read_returns env.toFlsEnv u.fls TLS_FLASH_BOOT_FOOTER_ADDR sizeof_tls_fwup_boot_footer hu
    dsimp only
    rw [run_bind_of_ok (run_callFls hread)]
    dsimp only
    split
    · exact failed_free _ _ hfree
    · exact hend _ hfree
  · exact hend _

theorem takeHeader_returns (hfree : s.Free) : ∃ r t, (takeHeader env data).run s = .ok (r, t) ∧ t.Free := by
  rw [takeHeader, run_get_bind]
  split
  · dsimp only
    generalize hlen : (if data.length < sizeof_tls_fwup_image_hdr - s.received_len then data.length
      else sizeof_tls_fwup_image_hdr - s.received_len) = len
    have hle : len ≤ data.length ∧ 0 + len ≤ sizeof_tls_fwup_image_hdr := by
      split at hlen <;> omega
    obtain ⟨hdr, hcopy, -⟩ := @Mem.memcpy_spec _ s.current_hdr 0 _ _ hle.1 hle.2
    rw [run_bind_of_ok (run_lift_eq_ok.mpr ⟨hcopy, rfl⟩), run_bind_of_ok (run_modify _ _), run_get_bind]
    split
    · refine ensures_bind headerReceived_free (fun failed u hu => ?_) hfree
      cases failed <;> exact ⟨_, _, rfl, hu⟩
    · exact ⟨_, _, rfl, hfree⟩
  · exact ⟨_, _, rfl, hfree⟩

theorem completedHeader_of_copy {hdr : tls_fwup_image_hdr}
    (h : s.current_hdr.memcpy 0 data (sizeof_tls_fwup_image_hdr - s.received_len) = .ok hdr) :
    receivedHeader s.current_image_src hdr = s.completedHeader data :=
  congrArg (receivedHeader s.current_image_src) (Mem.ext_bytes (Mem.memcpy_eq_ok_iff.mp h).2.2)

/-- A header that is refused gives the image no place. -/
theorem ReceivesHeader.targetBase_none {hdr : tls_fwup_image_hdr} {status : TLS_FWUP_REQ_STATUS}
    (hopen : s.received_len < sizeof_tls_fwup_image_hdr)
    (h : ReceivesHeader env { s with current_hdr := hdr, received_len := sizeof_tls_fwup_image_hdr } (s.completedHeader data)
      (some status) t) : s.targetBase env data = none ∧ t.fls.gsflscache = s.fls.gsflscache := by
  rw [Fwup.targetBase, if_neg (Nat.not_le.mpr hopen)]
  cases h with
  | invalid hmagic => exact ⟨if_neg fun hvalid => absurd (hmagic.symm.trans hvalid.1) (by decide), rfl⟩
  | io fls hdest hfailed hreads => exact ⟨if_neg fun hvalid => hfailed (hvalid.2 hdest), hreads.sameCache.1⟩

/-- One that is in order gives it the place where it goes to. -/
theorem ReceivesHeader.targetBase_some {hdr : tls_fwup_image_hdr} (hopen : s.received_len < sizeof_tls_fwup_image_hdr)
    (h : ReceivesHeader env { s with current_hdr := hdr, received_len := sizeof_tls_fwup_image_hdr } (s.completedHeader data)
      none t) :
    s.targetBase env data = some t.program_base ∧ t.program_offset = s.program_offset ∧
      t.fls.gsflscache = s.fls.gsflscache := by
  rw [Fwup.targetBase, if_neg (Nat.not_le.mpr hopen)]
  cases h with
  | valid fls hmagic hio hreads => exact ⟨if_pos ⟨hmagic, hio⟩, rfl, hreads.sameCache.1⟩

/-- The beginning of a request leaves bytes of an image for the chip exactly where the
header that they stand behind is in order. -/
theorem TakesHeader.target {r : Except TLS_FWUP_REQ_STATUS (List UInt8)} (h : TakesHeader env s data r t) :
    t.fls.gsflscache = s.fls.gsflscache ∧
      ((∃ buffer, r = .ok buffer ∧ buffer ≠ [] ∧ u32 (t.program_base + t.program_offset) < TOTAL_SIZE) ↔
        sizeof_tls_fwup_image_hdr - s.received_len < data.length ∧
          ∃ base, s.targetBase env data = some base ∧ u32 (base + s.program_offset) < TOTAL_SIZE) := by
  have hbuffer {data' : List UInt8} {base offset : Nat} : (∃ buffer, (Except.ok data' : Except TLS_FWUP_REQ_STATUS _) = .ok buffer ∧
      buffer ≠ [] ∧ u32 (base + offset) < TOTAL_SIZE) ↔
        0 < data'.length ∧ ∃ base', some base = some base' ∧ u32 (base' + offset) < TOTAL_SIZE := by
    simp [List.length_pos_iff]
  cases h with
  | body hreceived =>
    rw [Fwup.targetBase, if_pos hreceived, Nat.sub_eq_zero_of_le hreceived]
    exact ⟨rfl, hbuffer⟩
  | part hdr hpart =>
    refine ⟨rfl, iff_of_false ?_ fun h => ?_⟩
    · rintro ⟨_, hnil, hne, -⟩
      cases hnil
      exact hne rfl
    · omega
  | refused hdr hopen hwhole hcopy hheader =>
    rw [completedHeader_of_copy hcopy] at hheader
    obtain ⟨hnone, hcache⟩ := hheader.targetBase_none hopen
    refine ⟨hcache, iff_of_false (fun ⟨_, hok, _⟩ => by cases hok) ?_⟩
    rintro ⟨-, _, hbase, -⟩
    cases hnone.symm.trans hbase
  | whole hdr hopen hwhole hcopy hheader =>
    rw [completedHeader_of_copy hcopy] at hheader
    obtain ⟨hbase, hoffset, hcache⟩ := hheader.targetBase_some hopen
    have hbody : sizeof_tls_fwup_image_hdr - s.received_len < data.length ↔
        0 < (data.drop (sizeof_tls_fwup_image_hdr - s.received_len)).length := by
      rw [List.length_drop]
      omega
    rw [hbase, ← hoffset, hbody]
    exact ⟨hcache, hbuffer⟩

theorem handleRequest_returns_iff (hsrc : s.current_image_src ≠ TLS_FWUP_IMAGE_SRC_LUART) (hfree : s.Free) :
    (∃ r, (handleRequest env data).run s = .ok r) ↔
      (s.current_state.ERROR = none → s.current_state.COMPLETE = false →
        sizeof_tls_fwup_image_hdr - s.received_len < data.length →
        (∃ base, s.targetBase env data = some base ∧ u32 (base + s.program_offset) < TOTAL_SIZE) → s.fls.HasCache) := by
  rw [handleRequest, run_get_bind]
  cases herror : s.current_state.ERROR with
  | some status => exact iff_of_true ⟨_, rfl⟩ fun h => by cases h
  | none =>
    dsimp only
    cases hcomplete : s.current_state.COMPLETE with
    | true => exact iff_of_true ⟨_, rfl⟩ fun _ h => by cases h
    | false =>
      rw [if_neg (by decide), if_neg hsrc]
      obtain ⟨r, t, htake, ht⟩ := @takeHeader_returns env s data hfree
      obtain ⟨hcache, htarget⟩ := (takeHeader_ok htake).target
      rw [run_bind_of_ok htake, Fls.HasCache, ← hcache]
      cases r with
      | error status =>
        refine iff_of_true ⟨_, rfl⟩ fun _ _ hbody hbase => ?_
        obtain ⟨_, hok, -⟩ := htarget.mpr ⟨hbody, hbase⟩
        cases hok
      | ok buffer =>
        refine (programImage_returns_iff ht).trans ⟨fun h _ _ hbody hbase => ?_, fun h hne hchip => ?_⟩
        · obtain ⟨_, hbuffer, hne, hchip⟩ := htarget.mpr ⟨hbody, hbase⟩
          cases hbuffer
          exact h hne hchip
        · obtain ⟨hbody, hbase⟩ := htarget.mp ⟨buffer, rfl, hne, hchip⟩
          exact h rfl rfl hbody hbase

/-- A session is opened where none is open, and the start of fast writing with it. -/
theorem run_fwup_enter {image_src : tls_fwup_image_src} {rand : { n : Nat // n ≠ 0 }} {fls : Fls}
    (hinstalled : s.installed = true) (hidle : s.busy = false)
    (hinit : (tls_fls_fast_write_init env.toFlsEnv).run s.fls = .ok ((), fls)) :
    (tls_fwup_enter env image_src rand).run s = .ok ((rand : Nat), (s.enter image_src rand).withFls fls) := by
  rw [tls_fwup_enter, run_get_bind, if_neg (by rw [hinstalled, hidle]; decide), run_bind_of_ok (run_set _ _)]
  exact run_bind_of_ok (run_callFls hinit)

theorem run_fwup_enter_refused {image_src : tls_fwup_image_src} {rand : { n : Nat // n ≠ 0 }}
    (h : ¬ (s.installed = true ∧ s.busy = false)) : (tls_fwup_enter env image_src rand).run s = .ok (0, s) := by
  have hguard : (!s.installed || s.busy) = true := by
    cases hinstalled : s.installed <;> cases hbusy : s.busy <;> simp_all
  rw [tls_fwup_enter, run_get_bind, if_pos hguard]
  rfl

/-- What follows the handling of a request never faults. -/
theorem fwup_scheduler_returns_iff : (∃ r, (fwup_scheduler env data).run s = .ok r) ↔
    ∃ r, (handleRequest env data).run { s with current_state := { s.current_state with BUSY := true } } = .ok r := by
  rw [fwup_scheduler, setError, run_bind_of_ok (run_modify _ _)]
  exact exists_run_bind_iff fun status => returns_bind (returns_modify _) fun _ => returns_get_bind fun u =>
    returns_ite (returns_bind (returns_modify _) fun _ => returns_pure _) (returns_pure _)

/-- A request returns exactly where there is a sector cache for the bytes it brings for the
chip. -/
theorem tls_fwup_request_sync_returns_iff {session_id : Nat} (hsrc : s.current_image_src ≠ TLS_FWUP_IMAGE_SRC_LUART)
    (hfree : s.Free) :
    (∃ r, (tls_fwup_request_sync env session_id data).run s = .ok r) ↔ (s.NeedsCache env session_id data → s.fls.HasCache) := by
  rw [tls_fwup_request_sync, run_get_bind]
  split
  · rename_i hmissing
    refine iff_of_true ⟨_, rfl⟩ fun h => ?_
    rw [h.installed] at hmissing
    cases hmissing
  split
  · rename_i hother
    exact iff_of_true ⟨_, rfl⟩ fun h => absurd h.session_id_eq hother
  split
  · rename_i hempty
    refine iff_of_true ⟨_, rfl⟩ fun h => ?_
    have hbody := h.body
    omega
  rename_i hinstalled hsession hdata
  rw [run_bind_of_ok (run_set _ _)]
  split
  · rename_i hsem
    refine iff_of_true ⟨_, rfl⟩ fun h => ?_
    rw [h.sem] at hsem
    cases hsem
  rename_i hsem
  rw [exists_run_bind_iff fun _ => returns_pure _, fwup_scheduler_returns_iff]
  refine (@handleRequest_returns_iff env s.taken data hsrc hfree).trans ⟨fun h hneeds => ?_, fun h herror hcomplete hbody htarget => ?_⟩
  · exact h hneeds.error hneeds.incomplete hneeds.body hneeds.target
  · exact h ⟨by simpa using hinstalled, not_not.mp hsession, by simpa using hsem, herror, hcomplete, hbody, htarget⟩

end

end ZCloud
