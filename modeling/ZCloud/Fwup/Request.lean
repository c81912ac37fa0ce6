import ZCloud.Fwup.Session
import ZCloud.Drivers.Cache

open Memory Program

namespace ZCloud

section

variable {env : FlsEnv}

/-- Reading from the chip changes nothing but the count of the operations. -/
def Fls.Reads (s t : Fls) : Prop := t = s.withChip s.flash t.operations

instance : Frame Fls.Reads where
  refl _ := rfl
  trans {s t u} h₁ h₂ := by
    rw [Fls.Reads, h₂, h₁]
    rfl

theorem tls_fls_read_ok {s t : Fls} {addr len : Nat} {st : TLS_FLS_STATUS} {bytes : List UInt8}
    (h : (tls_fls_read env addr len).run s = .ok ((st, bytes), t)) :
    s.Reads t ∧ (st = TLS_FLS_STATUS_OK → addr + len ≤ TOTAL_SIZE → bytes = flashBytes s.flash addr len) ∧
      (addr < TOTAL_SIZE → len ≠ 0 → (st = TLS_FLS_STATUS_OK ↔ env.io s.operations = none)) := by
  unfold tls_fls_read at h
  split at h
  · obtain ⟨hr, rfl⟩ := run_pure_eq_ok.mp h
    cases hr
    refine ⟨rfl, (fun h => by cases h), fun haddr hlen => ?_⟩
    omega
  · obtain ⟨_, s₁, hacquire, h⟩ := run_bind_eq_ok.mp h
    have hlock : s.fls_lock ≠ 0 := by
      intro hzero
      simp only [acquireLock, run_bind, run_get, ok_bind, if_pos hzero] at hacquire
      cases hacquire
    rw [run_acquireLock hlock] at hacquire
    cases hacquire
    obtain ⟨r, s₂, hread, h⟩ := run_bind_eq_ok.mp h
    obtain ⟨_, s₃, hrelease, h⟩ := run_bind_eq_ok.mp h
    obtain rfl := run_modify_eq_ok.mp hrelease
    obtain ⟨rfl, rfl⟩ := run_pure_eq_ok.mp h
    have hback : s.fls_lock - 1 + 1 = s.fls_lock := by omega
    simp only [gd25qxx_read, nextIo, run_bind, run_get, ok_bind, run_set] at hread
    cases hio : env.io s.operations with
    | some left =>
      simp only [hio, run_pure, ok_bind] at hread
      cases hread
      refine ⟨?_, (fun h => by cases h), fun _ _ => iff_of_false (fun h => by cases h) (fun h => by cases h)⟩
      simp only [Fls.Reads, Fls.withChip, hback]
    | none =>
      simp only [hio, run_pure, ok_bind] at hread
      cases hread
      refine ⟨by simp only [Fls.Reads, Fls.withChip, hback], fun _ hchip => ?_, fun _ _ => iff_of_true rfl rfl⟩
      have hin : ¬ u32 (addr + len) > TOTAL_SIZE := by
        have htotal : TOTAL_SIZE = 1048576 := rfl
        rw [u32_of_lt (by omega)]
        omega
      rw [if_neg hin]
      refine List.map_congr_left fun i hi => ?_
      rw [Nat.mod_eq_of_lt (Nat.lt_of_lt_of_le (Nat.add_lt_add_left (List.mem_range.mp hi) _) hchip)]

theorem Fls.Reads.sameCache {s t : Fls} (h : s.Reads t) : s.SameCache t := by
  rw [Fls.Reads] at h
  rw [h]
  exact ⟨rfl, rfl, rfl, rfl⟩

end

theorem TLS_FWUP_STATE.ERROR_eq_none {st : TLS_FWUP_STATE} :
    st.ERROR = Option.none ↔ st.ERROR_IO = false ∧ st.ERROR_SIGNATURE = false ∧ st.ERROR_MEM = false ∧
      st.ERROR_CRC = false := by
  simp only [TLS_FWUP_STATE.ERROR]
  cases st.ERROR_IO <;> cases st.ERROR_SIGNATURE <;> cases st.ERROR_MEM <;> cases st.ERROR_CRC <;> simp

section

variable {env : FwupEnv}

theorem callFls_ok {α : Type} {x : Prog Fls α} {s t : Fwup} {a : α}
    (h : (callFls x).run s = .ok (a, t)) : ∃ fls, x.run s.fls = .ok (a, fls) ∧ t = s.withFls fls :=
  run_zoom_eq_ok.mp h

/-- A block that is read back is read through the buffer. -/
private theorem take_store {m m' : Mem 1024} {bytes : List UInt8} (h : m.store 0 bytes = .ok m') :
    m'.bytes.take bytes.length = bytes := by
  obtain ⟨-, hbytes⟩ := Mem.store_eq_ok_iff.mp h
  rw [hbytes, take_patch_zero]

/-- The loop that reads the image back only reads, and it either gets to the end
or notes the error that stopped it. -/
theorem verifyLoop_frame {s t : Fwup} {base fuel offset left sum image_checksum : Nat} {buffer_t : Mem 1024}
    {crc8 : UInt8} {r : Except TLS_FWUP_REQ_STATUS (UInt8 × Nat)}
    (h : (verifyLoop env base fuel offset left buffer_t crc8 sum image_checksum).run s = .ok (r, t)) :
    ∃ fls, s.fls.Reads fls ∧
      ((∃ v, r = .ok v) ∧ t = s.withFls fls ∨
        r = .error TLS_FWUP_REQ_STATUS_FIO ∧
          t = { s.withFls fls with current_state := { s.current_state with ERROR_IO := true } }) := by
  induction fuel generalizing offset left sum image_checksum buffer_t crc8 s with
  | zero =>
    obtain ⟨rfl, rfl⟩ := run_pure_eq_ok.mp h
    exact ⟨_, Frame.refl _, Or.inl ⟨⟨_, rfl⟩, rfl⟩⟩
  | succ fuel ih =>
    rw [verifyLoop] at h
    split at h
    · obtain ⟨rfl, rfl⟩ := run_pure_eq_ok.mp h
      exact ⟨_, Frame.refl _, Or.inl ⟨⟨_, rfl⟩, rfl⟩⟩
    · obtain ⟨⟨err, bytes⟩, s₁, hread, h⟩ := run_bind_eq_ok.mp h
      obtain ⟨fls₁, hfls, rfl⟩ := callFls_ok hread
      have hreads := (tls_fls_read_ok hfls).1
      simp only at h
      split at h
      · obtain ⟨_, s₂, hset, h⟩ := run_bind_eq_ok.mp h
        obtain rfl := run_modify_eq_ok.mp hset
        obtain ⟨rfl, rfl⟩ := run_pure_eq_ok.mp h
        exact ⟨fls₁, hreads, Or.inr ⟨rfl, rfl⟩⟩
      · obtain ⟨m, s₂, hstore, h⟩ := run_bind_eq_ok.mp h
        obtain ⟨-, rfl⟩ := run_lift_eq_ok.mp hstore
        obtain ⟨fls, hreads', hr⟩ := ih h
        exact ⟨fls, Frame.trans hreads hreads', hr⟩

/-- What the loop returns when it gets to the end of an image on the chip: the
CRC and the checksum of what the chip holds. -/
theorem verifyLoop_value {s t : Fwup} {base fuel offset left sum image_checksum k : Nat}
    {buffer_t : Mem 1024} {crc8 c : UInt8} (hfuel : left ≤ fuel) (hchip : base + (offset + left) ≤ TOTAL_SIZE)
    (h : (verifyLoop env base fuel offset left buffer_t crc8 sum image_checksum).run s = .ok (.ok (c, k), t)) :
    c = calculate_crc8 crc8 (flashBytes s.fls.flash (base + offset) left) ∧
      k = if left = 0 then image_checksum else
        checksum ((if offset = 0 then 0 else sum) + (words (flashBytes s.fls.flash (base + offset) left)).sum) := by
  induction fuel generalizing offset left sum image_checksum buffer_t crc8 s with
  | zero =>
    obtain rfl : left = 0 := Nat.le_zero.mp hfuel
    obtain ⟨hr, rfl⟩ := run_pure_eq_ok.mp h
    cases hr
    exact ⟨rfl, rfl⟩
  | succ fuel ih =>
    rw [verifyLoop] at h
    by_cases hleft : left = 0
    · subst hleft
      rw [if_pos rfl] at h
      obtain ⟨hr, rfl⟩ := run_pure_eq_ok.mp h
      cases hr
      exact ⟨rfl, rfl⟩
    · rw [if_neg hleft] at h
      have htotal : TOTAL_SIZE = 1048576 := rfl
      generalize hround : (if left > 1024 then 1024 else left) = len at h
      have hlen : 0 < len ∧ len ≤ left ∧ (len % 4 = 0 ∨ left - len = 0) := by
        split at hround <;> omega
      obtain ⟨hpos, hle, haligned⟩ := hlen
      obtain ⟨⟨err, bytes⟩, s₁, hread, h⟩ := run_bind_eq_ok.mp h
      obtain ⟨fls₁, hfls, rfl⟩ := callFls_ok hread
      rw [u32_of_lt (by omega)] at hfls
      obtain ⟨hreads, hvalue, -⟩ := tls_fls_read_ok hfls
      simp only at h
      by_cases herr : err = TLS_FLS_STATUS_OK
      · have hbytes := hvalue herr (by omega)
        rw [if_neg (not_not_intro herr)] at h
        obtain ⟨m, s₂, hstore, h⟩ := run_bind_eq_ok.mp h
        obtain ⟨hm, rfl⟩ := run_lift_eq_ok.mp hstore
        have htake := take_store hm
        rw [hbytes, length_flashBytes] at htake
        rw [htake] at h
        obtain ⟨hc, hk⟩ := ih (by omega) (by omega) h
        have hflash : (s.withFls fls₁).fls.flash = s.fls.flash := by
          change fls₁.flash = _
          rw [hreads]
          rfl
        have hsplit := flashBytes_add s.fls.flash (base + offset) len (left - len)
        rw [Nat.add_sub_cancel' hle] at hsplit
        rw [hflash, ← Nat.add_assoc] at hc hk
        rw [if_neg hleft, hsplit, calculate_crc8_append]
        refine ⟨hc, ?_⟩
        by_cases hlast : left - len = 0
        · rw [if_pos hlast] at hk
          rw [hlast, hk]
          simp [flashBytes]
        · rw [if_neg hlast, if_neg (by omega : ¬ offset + len = 0)] at hk
          rw [hk, words_append (by rw [length_flashBytes]; omega), List.sum_append, Nat.add_assoc]
      · rw [if_pos herr] at h
        obtain ⟨_, s₂, -, h⟩ := run_bind_eq_ok.mp h
        obtain ⟨hr, -⟩ := run_pure_eq_ok.mp h
        cases hr

/-- What the end of the check makes of the globals. -/
inductive Accepts (s : Fwup) (crc8 : UInt8) (image_checksum : Nat) : TLS_FWUP_REQ_STATUS → Fwup → Prop
  | crc (hcrc : s.current_hdr.crc8 ≠ crc8) :
    Accepts s crc8 image_checksum TLS_FWUP_REQ_STATUS_FCRC
      { s with current_state := { s.current_state with ERROR_CRC := true } }
  | data (hcrc : s.current_hdr.crc8 = crc8)
    (hdest : s.current_hdr.dest_specific ≠ TLS_FWUP_DEST_SPECIFIC_FIRMWARE) :
    Accepts s crc8 image_checksum TLS_FWUP_REQ_STATUS_SUCCESS
      { s with current_state := { s.current_state with COMPLETE := true } }
  | footer (fls : Fls) (hcrc : s.current_hdr.crc8 = crc8)
    (hdest : s.current_hdr.dest_specific = TLS_FWUP_DEST_SPECIFIC_FIRMWARE)
    (hcache : s.fls.SameCache fls) :
    Accepts s crc8 image_checksum TLS_FWUP_REQ_STATUS_SUCCESS
      { (s.commit (newFooter s.program_base s.total_len image_checksum)).withFls fls with
        current_state := { s.current_state with COMPLETE := true } }
  | footerFailed (fls : Fls) (hcrc : s.current_hdr.crc8 = crc8)
    (hdest : s.current_hdr.dest_specific = TLS_FWUP_DEST_SPECIFIC_FIRMWARE)
    (hcache : s.fls.SameCache fls) :
    Accepts s crc8 image_checksum TLS_FWUP_REQ_STATUS_FIO
      { (s.commit (newFooter s.program_base s.total_len image_checksum)).withFls fls with
        current_state := { s.current_state with ERROR_IO := true } }

theorem acceptImage_ok {s t : Fwup} {crc8 : UInt8} {image_checksum : Nat} {status : TLS_FWUP_REQ_STATUS}
    (h : (acceptImage env crc8 image_checksum).run s = .ok (status, t)) :
    Accepts s crc8 image_checksum status t := by
  rw [acceptImage, run_get_bind] at h
  split at h
  · obtain ⟨_, s₂, hset, h⟩ := run_bind_eq_ok.mp h
    obtain ⟨rfl, rfl⟩ := run_pure_eq_ok.mp h
    rw [run_modify_eq_ok.mp hset]
    exact Accepts.crc ‹_›
  · have hcrc := not_not.mp ‹_›
    split at h
    · obtain ⟨_, s₂, hcommit, h⟩ := run_bind_eq_ok.mp h
      obtain rfl := run_modify_eq_ok.mp hcommit
      obtain ⟨err, s₃, hwrite, h⟩ := run_bind_eq_ok.mp h
      obtain ⟨fls, hfls, rfl⟩ := callFls_ok hwrite
      have hcache := tls_fls_write_sameCache _ _ hfls
      split at h
      · obtain ⟨_, s₄, hset, h⟩ := run_bind_eq_ok.mp h
        obtain ⟨rfl, rfl⟩ := run_pure_eq_ok.mp h
        rw [run_modify_eq_ok.mp hset]
        exact Accepts.footerFailed fls hcrc ‹_› hcache
      · obtain ⟨_, s₄, hset, h⟩ := run_bind_eq_ok.mp h
        obtain ⟨rfl, rfl⟩ := run_pure_eq_ok.mp h
        rw [run_modify_eq_ok.mp hset]
        exact Accepts.footer fls hcrc ‹_› hcache
    · obtain ⟨_, s₄, hset, h⟩ := run_bind_eq_ok.mp h
      obtain ⟨rfl, rfl⟩ := run_pure_eq_ok.mp h
      rw [run_modify_eq_ok.mp hset]
      exact Accepts.data hcrc ‹_›

/-- What the check of an image makes of the globals. -/
inductive Verifies (s : Fwup) : TLS_FWUP_REQ_STATUS → Fwup → Prop
  | memory (fls : Fls) (hcache : s.fls.Destroyed fls) :
    Verifies s TLS_FWUP_REQ_STATUS_FMEM
      { s.withFls fls with current_state := { s.current_state with ERROR_MEM := true } }
  | io (fls : Fls) (hcache : s.fls.Destroyed fls) :
    Verifies s TLS_FWUP_REQ_STATUS_FIO
      { s.withFls fls with current_state := { s.current_state with ERROR_IO := true } }
  | read (fls : Fls) (crc8 : UInt8) (image_checksum : Nat) {status : TLS_FWUP_REQ_STATUS} {t : Fwup}
    (hcache : s.fls.Destroyed fls)
    (hcrc : s.program_base + s.total_len ≤ TOTAL_SIZE →
      crc8 = calculate_crc8 0 (flashBytes fls.flash s.program_base s.total_len))
    (hchecksum : s.program_base + s.total_len ≤ TOTAL_SIZE →
      image_checksum = imageChecksum (flashBytes fls.flash s.program_base s.total_len))
    (haccept : Accepts (s.withFls fls) crc8 image_checksum status t) : Verifies s status t

theorem flashBytes_eq_nil {flash : Nat → UInt8} {addr len : Nat} :
    flashBytes flash addr len = [] ↔ len = 0 := by
  rw [← List.length_eq_zero_iff, length_flashBytes]

theorem verifyImage_ok {s t : Fwup} {status : TLS_FWUP_REQ_STATUS}
    (h : (verifyImage env).run s = .ok (status, t)) : Verifies s status t := by
  rw [verifyImage] at h
  obtain ⟨_, s₁, hdestroy, h⟩ := run_bind_eq_ok.mp h
  obtain ⟨fls₁, hfls₁, rfl⟩ := callFls_ok hdestroy
  have hcache₁ := tls_fls_fast_write_destroy_ok hfls₁
  obtain ⟨ok, s₂, halloc, h⟩ := run_bind_eq_ok.mp h
  obtain ⟨fls₂, hfls₂, rfl⟩ := callFls_ok halloc
  have hcache₂ := hcache₁.trans_sameCache (tls_mem_alloc_sameCache hfls₂)
  split at h
  · obtain ⟨_, s₃, hset, h⟩ := run_bind_eq_ok.mp h
    obtain ⟨rfl, rfl⟩ := run_pure_eq_ok.mp h
    rw [run_modify_eq_ok.mp hset]
    exact Verifies.memory fls₂ hcache₂
  · rw [run_get_bind] at h
    obtain ⟨r, s₅, hloop, h⟩ := run_bind_eq_ok.mp h
    obtain ⟨fls, hreads, hr⟩ := verifyLoop_frame hloop
    have hcache := hcache₂.trans_sameCache hreads.sameCache
    obtain ⟨⟨⟨crc8, image_checksum⟩, rfl⟩, rfl⟩ | ⟨rfl, rfl⟩ := hr
    · have hflash : fls.flash = fls₂.flash := by
        rw [hreads]
        rfl
      have hvalue := fun hchip : s.program_base + (0 + s.total_len) ≤ TOTAL_SIZE =>
        verifyLoop_value (Nat.le_refl _) hchip hloop
      rw [Nat.zero_add] at hvalue
      refine Verifies.read fls crc8 image_checksum hcache (fun hchip => ?_) (fun hchip => ?_)
        (acceptImage_ok h)
      · rw [hflash]
        exact (hvalue hchip).1
      · rw [hflash, imageChecksum, (hvalue hchip).2]
        simp only [flashBytes_eq_nil, Nat.zero_add, ↓reduceIte]
        rfl
    · obtain ⟨rfl, rfl⟩ := run_pure_eq_ok.mp h
      exact Verifies.io fls hcache

variable (env) in
/-- What programming the bytes `buffer` of an image makes of the globals. -/
inductive Programs (s : Fwup) (buffer : List UInt8) : TLS_FWUP_REQ_STATUS → Fwup → Prop
  | nothing (hbuffer : buffer = []) : Programs s buffer TLS_FWUP_REQ_STATUS_SUCCESS s
  | refused (hbuffer : buffer ≠ []) :
    Programs s buffer TLS_FWUP_REQ_STATUS_FIO
      { s with current_state := { s.current_state with ERROR_IO := true } }
  | more (fls : Fls) (hbuffer : buffer ≠ [])
    (hwrite : (tls_fls_fast_write env.toFlsEnv (u32 (s.program_base + s.program_offset)) buffer).run s.fls =
      .ok (TLS_FLS_STATUS_OK, fls))
    (hmore : u32 (s.updated_len + buffer.length) < s.total_len) :
    Programs s buffer TLS_FWUP_REQ_STATUS_SUCCESS { s.withFls fls with
      program_offset := u32 (s.program_offset + buffer.length)
      updated_len := u32 (s.updated_len + buffer.length) }
  | last (fls : Fls) {status : TLS_FWUP_REQ_STATUS} {t : Fwup} (hbuffer : buffer ≠ [])
    (hwrite : (tls_fls_fast_write env.toFlsEnv (u32 (s.program_base + s.program_offset)) buffer).run s.fls =
      .ok (TLS_FLS_STATUS_OK, fls))
    (hlast : s.total_len ≤ u32 (s.updated_len + buffer.length))
    (hverify : Verifies { s.withFls fls with
      program_offset := u32 (s.program_offset + buffer.length)
      updated_len := u32 (s.updated_len + buffer.length) } status t) : Programs s buffer status t

/-- A write that is refused leaves the driver as it was. -/
theorem tls_fls_fast_write_refused {s t : Fls} {addr : Nat} {buf : List UInt8} {err : TLS_FLS_STATUS}
    (h : (tls_fls_fast_write env.toFlsEnv addr buf).run s = .ok (err, t)) (herr : err ≠ TLS_FLS_STATUS_OK) :
    t = s := by
  rw [tls_fls_fast_write] at h
  split at h
  · exact (run_pure_eq_ok.mp h).2
  · obtain ⟨_, s₁, -, h⟩ := run_bind_eq_ok.mp h
    obtain ⟨_, s₂, -, h⟩ := run_bind_eq_ok.mp h
    obtain ⟨_, s₃, -, h⟩ := run_bind_eq_ok.mp h
    obtain ⟨_, s₄, -, h⟩ := run_bind_eq_ok.mp h
    obtain ⟨_, s₅, -, h⟩ := run_bind_eq_ok.mp h
    exact absurd (run_pure_eq_ok.mp h).1 herr

theorem programImage_ok {s t : Fwup} {buffer : List UInt8} {status : TLS_FWUP_REQ_STATUS}
    (h : (programImage env buffer).run s = .ok (status, t)) : Programs env s buffer status t := by
  rw [programImage] at h
  split at h
  · have hbuffer := List.length_pos_iff.mp ‹_›
    rw [run_get_bind] at h
    obtain ⟨err, s₁, hwrite, h⟩ := run_bind_eq_ok.mp h
    obtain ⟨fls, hfls, rfl⟩ := callFls_ok hwrite
    split at h
    · obtain rfl := tls_fls_fast_write_refused hfls ‹_›
      obtain ⟨_, s₂, hset, h⟩ := run_bind_eq_ok.mp h
      obtain ⟨rfl, rfl⟩ := run_pure_eq_ok.mp h
      rw [run_modify_eq_ok.mp hset]
      exact Programs.refused hbuffer
    · obtain rfl := not_not.mp ‹¬ err ≠ TLS_FLS_STATUS_OK›
      obtain ⟨_, s₂, hset, h⟩ := run_bind_eq_ok.mp h
      obtain rfl := run_modify_eq_ok.mp hset
      rw [run_get_bind] at h
      split at h
      · exact Programs.last fls hbuffer hfls ‹_› (verifyImage_ok h)
      · obtain ⟨rfl, rfl⟩ := run_pure_eq_ok.mp h
        exact Programs.more fls hbuffer hfls (Nat.lt_of_not_le ‹_›)
  · obtain ⟨rfl, rfl⟩ := run_pure_eq_ok.mp h
    exact Programs.nothing (List.length_eq_zero_iff.mp (by omega))

/-- A header as it is understood once its last byte has been copied. -/
def receivedHeader (src : tls_fwup_image_src) (hdr : tls_fwup_image_hdr) : tls_fwup_image_hdr :=
  if src = TLS_FWUP_IMAGE_SRC_WEB then swapHeader hdr else hdr

/-- What the end of the header makes of the globals. -/
inductive ReceivesHeader (env : FwupEnv) (s : Fwup) (hdr : tls_fwup_image_hdr) : Option TLS_FWUP_REQ_STATUS → Fwup → Prop
  | invalid (hmagic : validMagic hdr = false) :
    ReceivesHeader env s hdr (some TLS_FWUP_REQ_STATUS_FSIGNATURE)
      { s with
        current_hdr := hdr
        current_state := { s.current_state with ERROR_SIGNATURE := true } }
  | io (fls : Fls) (hdest : hdr.dest_specific = TLS_FWUP_DEST_SPECIFIC_FIRMWARE)
    (hfailed : env.io s.fls.operations ≠ none) (hreads : s.fls.Reads fls) :
    ReceivesHeader env s hdr (some TLS_FWUP_REQ_STATUS_FIO)
      { s.withFls fls with
        current_hdr := hdr
        current_state := { s.current_state with ERROR_IO := true } }
  | valid (fls : Fls) (hmagic : validMagic hdr = true)
    (hio : hdr.dest_specific = TLS_FWUP_DEST_SPECIFIC_FIRMWARE → env.io s.fls.operations = none) (hreads : s.fls.Reads fls) :
    ReceivesHeader env s hdr none
      { s.withFls fls with
        current_hdr := hdr
        program_base := imageBase s.fls.flash hdr
        updated_len := 0
        total_len := hdr.file_len }

theorem headerReceived_ok {s t : Fwup} {failed : Option TLS_FWUP_REQ_STATUS}
    (h : (headerReceived env).run s = .ok (failed, t)) :
    ReceivesHeader env s (receivedHeader s.current_image_src s.current_hdr) failed t := by
  rw [headerReceived, run_get_bind] at h
  rw [receivedHeader]
  generalize (if s.current_image_src = TLS_FWUP_IMAGE_SRC_WEB then swapHeader s.current_hdr
    else s.current_hdr) = hdr at h ⊢
  obtain ⟨_, s₁, hset, h⟩ := run_bind_eq_ok.mp h
  obtain rfl := run_modify_eq_ok.mp hset
  cases hmagic : validMagic hdr with
  | false =>
    rw [hmagic, if_pos (by rfl)] at h
    obtain ⟨_, s₂, hset, h⟩ := run_bind_eq_ok.mp h
    obtain ⟨rfl, rfl⟩ := run_pure_eq_ok.mp h
    rw [run_modify_eq_ok.mp hset]
    exact ReceivesHeader.invalid hmagic
  | true =>
    simp only [hmagic, Bool.not_true, Bool.false_eq_true, ↓reduceIte] at h
    by_cases hdest : hdr.dest_specific = TLS_FWUP_DEST_SPECIFIC_FIRMWARE
    · rw [if_pos hdest] at h
      obtain ⟨⟨err, footer⟩, s₂, hread, h⟩ := run_bind_eq_ok.mp h
      obtain ⟨fls, hfls, rfl⟩ := callFls_ok hread
      obtain ⟨hreads, hvalue, hread⟩ := tls_fls_read_ok hfls
      simp only at h
      by_cases herr : err = TLS_FLS_STATUS_OK
      · rw [if_neg (not_not_intro herr)] at h
        obtain ⟨_, s₃, hset, h⟩ := run_bind_eq_ok.mp h
        obtain rfl := run_modify_eq_ok.mp hset
        obtain ⟨_, s₄, hset, h⟩ := run_bind_eq_ok.mp h
        obtain ⟨rfl, rfl⟩ := run_pure_eq_ok.mp h
        rw [run_modify_eq_ok.mp hset, hvalue herr (by decide)]
        have hbase : imageBase s.fls.flash hdr = if footerSignature (flashBytes s.fls.flash
            TLS_FLASH_BOOT_FOOTER_ADDR sizeof_tls_fwup_boot_footer) = TLS_FWUP_BOOT_IMAGE_SIGNATURE_WORD then
            firmwareBase (flashBytes s.fls.flash TLS_FLASH_BOOT_FOOTER_ADDR sizeof_tls_fwup_boot_footer)
            else TLS_FLASH_FIRMWARE1_ADDR := if_pos hdest
        have := @ReceivesHeader.valid env s _ fls hmagic (fun _ => (hread (by decide) (by decide)).mp herr) hreads
        rw [hbase] at this
        exact this
      · rw [if_pos herr] at h
        obtain ⟨_, s₃, hset, h⟩ := run_bind_eq_ok.mp h
        obtain ⟨rfl, rfl⟩ := run_pure_eq_ok.mp h
        rw [run_modify_eq_ok.mp hset]
        exact ReceivesHeader.io fls hdest (herr ∘ (hread (by decide) (by decide)).mpr) hreads
    · rw [if_neg hdest] at h
      obtain ⟨_, s₃, hset, h⟩ := run_bind_eq_ok.mp h
      obtain rfl := run_modify_eq_ok.mp hset
      obtain ⟨_, s₄, hset, h⟩ := run_bind_eq_ok.mp h
      obtain ⟨rfl, rfl⟩ := run_pure_eq_ok.mp h
      rw [run_modify_eq_ok.mp hset]
      have hbase : imageBase s.fls.flash hdr = hdr.dest_offset * 0x1000 := if_neg hdest
      have := @ReceivesHeader.valid env s _ s.fls hmagic (fun h => absurd h hdest) (Frame.refl _)
      rw [hbase] at this
      exact this

/-- What the beginning of a request makes of the globals. -/
inductive TakesHeader (env : FwupEnv) (s : Fwup) (data : List UInt8) :
    Except TLS_FWUP_REQ_STATUS (List UInt8) → Fwup → Prop
  | body (hreceived : sizeof_tls_fwup_image_hdr ≤ s.received_len) :
    TakesHeader env s data (.ok data) { s with received_len := u32 (s.received_len + data.length) }
  | part (hdr : tls_fwup_image_hdr) (hpart : s.received_len + data.length < sizeof_tls_fwup_image_hdr) :
    TakesHeader env s data (.ok [])
      { s with current_hdr := hdr, received_len := s.received_len + data.length }
  | refused (hdr : tls_fwup_image_hdr) {status : TLS_FWUP_REQ_STATUS} {t : Fwup}
    (hopen : s.received_len < sizeof_tls_fwup_image_hdr)
    (hwhole : sizeof_tls_fwup_image_hdr ≤ s.received_len + data.length)
    (hcopy : s.current_hdr.memcpy 0 data (sizeof_tls_fwup_image_hdr - s.received_len) = .ok hdr)
    (hheader : ReceivesHeader env { s with current_hdr := hdr, received_len := sizeof_tls_fwup_image_hdr }
      (receivedHeader s.current_image_src hdr) (some status) t) : TakesHeader env s data (.error status) t
  | whole (hdr : tls_fwup_image_hdr) {t : Fwup}
    (hopen : s.received_len < sizeof_tls_fwup_image_hdr)
    (hwhole : sizeof_tls_fwup_image_hdr ≤ s.received_len + data.length)
    (hcopy : s.current_hdr.memcpy 0 data (sizeof_tls_fwup_image_hdr - s.received_len) = .ok hdr)
    (hheader : ReceivesHeader env { s with current_hdr := hdr, received_len := sizeof_tls_fwup_image_hdr }
      (receivedHeader s.current_image_src hdr) none t) :
    TakesHeader env s data (.ok (data.drop (sizeof_tls_fwup_image_hdr - s.received_len)))
      { t with received_len := u32 (sizeof_tls_fwup_image_hdr +
        (data.drop (sizeof_tls_fwup_image_hdr - s.received_len)).length) }

theorem takeHeader_ok {s t : Fwup} {data : List UInt8} {r : Except TLS_FWUP_REQ_STATUS (List UInt8)}
    (h : (takeHeader env data).run s = .ok (r, t)) : TakesHeader env s data r t := by
  have hsize : sizeof_tls_fwup_image_hdr = 16 := rfl
  rw [takeHeader, run_get_bind] at h
  split at h
  · have hopen := ‹s.received_len < sizeof_tls_fwup_image_hdr›
    by_cases hwhole : data.length < sizeof_tls_fwup_image_hdr - s.received_len
    · simp only [if_pos hwhole] at h
      obtain ⟨hdr, s₁, hcopy, h⟩ := run_bind_eq_ok.mp h
      obtain ⟨-, hsame⟩ := run_lift_eq_ok.mp hcopy
      rw [hsame] at h
      obtain ⟨_, s₂, hset, h⟩ := run_bind_eq_ok.mp h
      obtain rfl := run_modify_eq_ok.mp hset
      rw [run_get_bind] at h
      have hpart : ¬ s.received_len + data.length = sizeof_tls_fwup_image_hdr := by omega
      simp only [if_neg hpart, pure_bind] at h
      obtain ⟨_, s₃, hset, h⟩ := run_bind_eq_ok.mp h
      obtain ⟨rfl, rfl⟩ := run_pure_eq_ok.mp h
      rw [run_modify_eq_ok.mp hset]
      have hlen : u32 (s.received_len + data.length + 0) = s.received_len + data.length :=
        u32_of_lt (by omega)
      simp only [List.drop_length, List.length_nil, hlen]
      exact TakesHeader.part hdr (by omega)
    · simp only [if_neg hwhole] at h
      obtain ⟨hdr, s₁, hcopy, h⟩ := run_bind_eq_ok.mp h
      obtain ⟨hcopy', hsame⟩ := run_lift_eq_ok.mp hcopy
      rw [hsame] at h
      obtain ⟨_, s₂, hset, h⟩ := run_bind_eq_ok.mp h
      obtain rfl := run_modify_eq_ok.mp hset
      rw [run_get_bind] at h
      have hend : s.received_len + (sizeof_tls_fwup_image_hdr - s.received_len) =
          sizeof_tls_fwup_image_hdr := by omega
      simp only [hend, ↓reduceIte] at h
      obtain ⟨failed, s₃, hheader, h⟩ := run_bind_eq_ok.mp h
      have hreceives := headerReceived_ok hheader
      cases failed with
      | some status =>
        obtain ⟨rfl, rfl⟩ := run_pure_eq_ok.mp h
        exact TakesHeader.refused hdr hopen (by omega) hcopy' hreceives
      | none =>
        obtain ⟨_, s₄, hset, h⟩ := run_bind_eq_ok.mp h
        obtain ⟨rfl, rfl⟩ := run_pure_eq_ok.mp h
        rw [run_modify_eq_ok.mp hset]
        have hreceived : s₃.received_len = sizeof_tls_fwup_image_hdr := by
          cases hreceives
          rfl
        rw [hreceived]
        exact TakesHeader.whole hdr hopen (by omega) hcopy' hreceives
  · obtain ⟨_, s₁, hset, h⟩ := run_bind_eq_ok.mp h
    obtain ⟨rfl, rfl⟩ := run_pure_eq_ok.mp h
    rw [run_modify_eq_ok.mp hset]
    exact TakesHeader.body (Nat.not_lt.mp ‹_›)

variable (env) in
/-- What a request makes of the globals up to `request_finish`. -/
inductive Handles (s : Fwup) (data : List UInt8) : TLS_FWUP_REQ_STATUS → Fwup → Prop
  | discarded {status : TLS_FWUP_REQ_STATUS} (herror : s.current_state.ERROR = some status) :
    Handles s data status s
  | complete (herror : s.current_state.ERROR = none) (hcomplete : s.current_state.COMPLETE = true) :
    Handles s data TLS_FWUP_REQ_STATUS_FCOMPLETE s
  | header {status : TLS_FWUP_REQ_STATUS} {t : Fwup} (herror : s.current_state.ERROR = none)
    (hcomplete : s.current_state.COMPLETE = false) (htake : TakesHeader env s data (.error status) t) :
    Handles s data status t
  | body {status : TLS_FWUP_REQ_STATUS} {buffer : List UInt8} {u t : Fwup}
    (herror : s.current_state.ERROR = none) (hcomplete : s.current_state.COMPLETE = false)
    (htake : TakesHeader env s data (.ok buffer) u) (hprogram : Programs env u buffer status t) :
    Handles s data status t

theorem handleRequest_ok {s t : Fwup} {data : List UInt8} {status : TLS_FWUP_REQ_STATUS}
    (hsrc : s.current_image_src ≠ TLS_FWUP_IMAGE_SRC_LUART)
    (h : (handleRequest env data).run s = .ok (status, t)) : Handles env s data status t := by
  rw [handleRequest, run_get_bind] at h
  cases herror : s.current_state.ERROR with
  | some err =>
    simp only [herror] at h
    obtain ⟨rfl, rfl⟩ := run_pure_eq_ok.mp h
    exact Handles.discarded herror
  | none =>
    simp only [herror] at h
    cases hcomplete : s.current_state.COMPLETE with
    | true =>
      rw [if_pos hcomplete] at h
      obtain ⟨rfl, rfl⟩ := run_pure_eq_ok.mp h
      exact Handles.complete herror hcomplete
    | false =>
      rw [hcomplete, if_neg (by simp), if_neg hsrc] at h
      obtain ⟨taken, s₁, htake, h⟩ := run_bind_eq_ok.mp h
      have htakes := takeHeader_ok htake
      cases taken with
      | error err =>
        obtain ⟨rfl, rfl⟩ := run_pure_eq_ok.mp h
        exact Handles.header herror hcomplete htakes
      | ok buffer => exact Handles.body herror hcomplete htakes (programImage_ok h)

theorem fwup_scheduler_ok {s t : Fwup} {data : List UInt8} {status : TLS_FWUP_REQ_STATUS}
    (hsrc : s.current_image_src ≠ TLS_FWUP_IMAGE_SRC_LUART)
    (h : (fwup_scheduler env data).run s = .ok (status, t)) :
    ∃ u, Handles env { s with current_state := { s.current_state with BUSY := true } } data status u ∧
      t = requestDone u := by
  rw [fwup_scheduler] at h
  obtain ⟨_, s₁, hset, h⟩ := run_bind_eq_ok.mp h
  obtain rfl := run_modify_eq_ok.mp hset
  obtain ⟨st, u, hhandle, h⟩ := run_bind_eq_ok.mp h
  refine ⟨u, ?_, ?_⟩
  · obtain ⟨_, s₂, hset, h⟩ := run_bind_eq_ok.mp h
    rw [run_get_bind] at h
    split at h
    · obtain ⟨_, s₃, -, h⟩ := run_bind_eq_ok.mp h
      obtain ⟨rfl, -⟩ := run_pure_eq_ok.mp h
      exact handleRequest_ok hsrc hhandle
    · obtain ⟨rfl, -⟩ := run_pure_eq_ok.mp h
      exact handleRequest_ok hsrc hhandle
  · obtain ⟨_, s₂, hset, h⟩ := run_bind_eq_ok.mp h
    obtain rfl := run_modify_eq_ok.mp hset
    rw [run_get_bind] at h
    split at h
    · obtain ⟨_, s₃, hreset, h⟩ := run_bind_eq_ok.mp h
      rw [(run_pure_eq_ok.mp h).2, run_modify_eq_ok.mp hreset, requestDone, if_pos ‹_›, resetDone]
    · rw [(run_pure_eq_ok.mp h).2, requestDone, if_neg ‹_›]

/-- What a step that the end of a request follows keeps of the header. -/
structure KeepsHeader (s t : Fwup) : Prop where
  src : t.current_image_src = s.current_image_src
  received_len : t.received_len = s.received_len
  total_len : t.total_len = s.total_len
  current_hdr : t.current_hdr = s.current_hdr

theorem Accepts.keepsHeader {s t : Fwup} {crc8 : UInt8} {image_checksum : Nat} {status : TLS_FWUP_REQ_STATUS}
    (h : Accepts s crc8 image_checksum status t) : KeepsHeader s t := by
  cases h <;> exact ⟨rfl, rfl, rfl, rfl⟩

theorem Verifies.keepsHeader {s t : Fwup} {status : TLS_FWUP_REQ_STATUS} (h : Verifies s status t) :
    KeepsHeader s t := by
  cases h with
  | memory => exact ⟨rfl, rfl, rfl, rfl⟩
  | io => exact ⟨rfl, rfl, rfl, rfl⟩
  | read fls crc8 image_checksum hcache hcrc hchecksum haccept =>
    obtain ⟨hsrc, hreceived, htotal, hhdr⟩ := haccept.keepsHeader
    exact ⟨hsrc, hreceived, htotal, hhdr⟩

theorem Programs.keepsHeader {s t : Fwup} {buffer : List UInt8} {status : TLS_FWUP_REQ_STATUS}
    (h : Programs env s buffer status t) : KeepsHeader s t := by
  cases h with
  | nothing => exact ⟨rfl, rfl, rfl, rfl⟩
  | refused => exact ⟨rfl, rfl, rfl, rfl⟩
  | more => exact ⟨rfl, rfl, rfl, rfl⟩
  | last fls hbuffer hwrite hlast hverify =>
    obtain ⟨hsrc, hreceived, htotal, hhdr⟩ := hverify.keepsHeader
    exact ⟨hsrc, hreceived, htotal, hhdr⟩

@[simp]
theorem requestDone_ERROR (s : Fwup) : (requestDone s).current_state.ERROR = s.current_state.ERROR := by
  rw [requestDone]
  split <;> rfl

@[simp]
theorem requestDone_footers (s : Fwup) : (requestDone s).footers = s.footers := by
  rw [requestDone]
  split <;> rfl

@[simp]
theorem requestDone_src (s : Fwup) : (requestDone s).current_image_src = s.current_image_src := by
  rw [requestDone]
  split <;> rfl

@[simp]
theorem requestDone_fls (s : Fwup) : (requestDone s).fls = s.fls := by
  rw [requestDone]
  split <;> rfl

@[simp]
theorem requestDone_COMPLETE (s : Fwup) :
    (requestDone s).current_state.COMPLETE = s.current_state.COMPLETE := by
  rw [requestDone]
  split <;> rfl

theorem requestDone_of_lt {s : Fwup} (h : s.updated_len < s.total_len) :
    requestDone s = { s with current_state := { s.current_state with BUSY := false } } :=
  if_neg (Nat.not_le.mpr h)

theorem tls_fwup_enter_ok {s t : Fwup} {src : tls_fwup_image_src} {rand : { n : Nat // n ≠ 0 }} {session_id : Nat}
    (h : (tls_fwup_enter env src rand).run s = .ok (session_id, t)) (hopen : session_id ≠ 0) :
    session_id = rand ∧ s.installed = true ∧ ∃ fls,
      (tls_fls_fast_write_init env.toFlsEnv).run s.fls = .ok ((), fls) ∧
        t = (s.enter src rand).withFls fls := by
  rw [tls_fwup_enter, run_get_bind] at h
  split at h
  · exact absurd (run_pure_eq_ok.mp h).1 hopen
  · have hfree := ‹¬ (!s.installed || s.busy) = true›
    obtain ⟨_, s₁, hset, h⟩ := run_bind_eq_ok.mp h
    obtain rfl := run_set_eq_ok.mp hset
    obtain ⟨_, s₂, hinit, h⟩ := run_bind_eq_ok.mp h
    obtain ⟨fls, hfls, rfl⟩ := callFls_ok hinit
    obtain ⟨rfl, rfl⟩ := run_pure_eq_ok.mp h
    refine ⟨rfl, ?_, fls, hfls, rfl⟩
    cases hinstalled : s.installed with
    | true => rfl
    | false => simp [hinstalled] at hfree

/-- The globals when the scheduler takes up a request. -/
def Fwup.taken (s : Fwup) : Fwup :=
  { s with
    semaphores := s.semaphores + 1
    current_state := { s.current_state with BUSY := true } }

/-- The first request of a session, if it brings the whole header. -/
theorem TakesHeader.first {s t : Fwup} {data : List UInt8} {r : Except TLS_FWUP_REQ_STATUS (List UInt8)}
    (h : TakesHeader env s.taken data r t) (hreceived : s.received_len = 0)
    (hhdr : s.current_hdr = Mem.fill sizeof_tls_fwup_image_hdr 0)
    (hwhole : sizeof_tls_fwup_image_hdr ≤ data.length) :
    ∃ failed u, ReceivesHeader env { s.taken with
        current_hdr := copiedHeader data, received_len := sizeof_tls_fwup_image_hdr }
        (imageHeader s.current_image_src data) failed u ∧
      ((∃ status, failed = some status ∧ r = .error status ∧ t = u) ∨
        failed = none ∧ r = .ok (data.drop sizeof_tls_fwup_image_hdr) ∧
          t = { u with received_len := u32 data.length }) := by
  have hsize : sizeof_tls_fwup_image_hdr = 16 := rfl
  have hcopied := memcpy_header data
  rw [if_neg (Nat.not_lt.mpr hwhole)] at hcopied
  have hrest : sizeof_tls_fwup_image_hdr - s.taken.received_len = sizeof_tls_fwup_image_hdr := by
    change sizeof_tls_fwup_image_hdr - s.received_len = _
    rw [hreceived, Nat.sub_zero]
  have hcopy : ∀ hdr, s.taken.current_hdr.memcpy 0 data (sizeof_tls_fwup_image_hdr - s.taken.received_len) =
      .ok hdr → hdr = copiedHeader data := by
    intro hdr hcopy
    rw [hrest, show s.taken.current_hdr = _ from hhdr, hcopied] at hcopy
    cases hcopy
    rfl
  cases h with
  | body hlong => exact absurd hlong (by change ¬ 16 ≤ s.received_len; omega)
  | part hdr hpart => exact absurd hpart (by change ¬ s.received_len + data.length < 16; omega)
  | refused hdr hopen hlong hcopied' hheader =>
    obtain rfl := hcopy _ hcopied'
    exact ⟨_, _, hheader, Or.inl ⟨_, rfl, rfl, rfl⟩⟩
  | whole hdr hopen hlong hcopied' hheader =>
    obtain rfl := hcopy _ hcopied'
    refine ⟨_, _, hheader, Or.inr ⟨rfl, by rw [hrest], ?_⟩⟩
    rw [hrest, List.length_drop, Nat.add_sub_cancel' hwhole]

/-- A request that follows the header. -/
theorem TakesHeader.next {s t : Fwup} {data : List UInt8} {r : Except TLS_FWUP_REQ_STATUS (List UInt8)}
    (h : TakesHeader env s.taken data r t) (hreceived : sizeof_tls_fwup_image_hdr ≤ s.received_len) :
    r = .ok data ∧ t = { s.taken with received_len := u32 (s.received_len + data.length) } := by
  have hnot : ¬ s.taken.received_len < sizeof_tls_fwup_image_hdr := Nat.not_lt.mpr hreceived
  cases h with
  | body => exact ⟨rfl, rfl⟩
  | part hdr hpart => exact absurd (Nat.lt_of_le_of_lt (Nat.le_add_right _ _) hpart) hnot
  | refused hdr hopen => exact absurd hopen hnot
  | whole hdr hopen => exact absurd hopen hnot

/-- What a request makes of the globals: it is refused and only a semaphore may
be gone, or the scheduler handles it. -/
theorem tls_fwup_request_sync_ok {s t : Fwup} {session_id : Nat} {data : List UInt8} {st : TLS_FWUP_STATUS}
    (hsrc : s.current_image_src ≠ TLS_FWUP_IMAGE_SRC_LUART)
    (h : (tls_fwup_request_sync env session_id data).run s = .ok (st, t)) :
    (st ≠ TLS_FWUP_STATUS_OK ∧ ∃ semaphores, t = { s with semaphores := semaphores }) ∨
      data ≠ [] ∧ env.sem s.semaphores = true ∧ ∃ status u, st = status.result ∧
        Handles env s.taken data status u ∧ t = requestDone u := by
  rw [tls_fwup_request_sync, run_get_bind] at h
  split at h
  · obtain ⟨rfl, rfl⟩ := run_pure_eq_ok.mp h
    exact Or.inl ⟨by decide, _, rfl⟩
  split at h
  · obtain ⟨rfl, rfl⟩ := run_pure_eq_ok.mp h
    exact Or.inl ⟨by decide, _, rfl⟩
  split at h
  · obtain ⟨rfl, rfl⟩ := run_pure_eq_ok.mp h
    exact Or.inl ⟨by decide, _, rfl⟩
  have hdata : data ≠ [] := fun hnil => ‹¬ data.length = 0› (by rw [hnil]; rfl)
  obtain ⟨_, s₁, hset, h⟩ := run_bind_eq_ok.mp h
  obtain rfl := run_set_eq_ok.mp hset
  split at h
  · obtain ⟨rfl, rfl⟩ := run_pure_eq_ok.mp h
    exact Or.inl ⟨by decide, _, rfl⟩
  have hsem : env.sem s.semaphores = true := by simpa using ‹¬ (!env.sem s.semaphores) = true›
  obtain ⟨status, s₂, hrun, h⟩ := run_bind_eq_ok.mp h
  obtain ⟨rfl, rfl⟩ := run_pure_eq_ok.mp h
  obtain ⟨u, hhandles, ht⟩ := fwup_scheduler_ok (by exact hsrc) hrun
  exact Or.inr ⟨hdata, hsem, status, u, rfl, hhandles, ht⟩

variable (env) in
/-- Submits requests in a session one after another. -/
def requestAll (session_id : Nat) : List (List UInt8) → Prog Fwup (List TLS_FWUP_STATUS)
  | [] => return []
  | data :: rest => do
    let st ← tls_fwup_request_sync env session_id data
    return st :: (← requestAll session_id rest)

theorem requestAll_cons_ok {s t : Fwup} {session_id : Nat} {data : List UInt8} {rest : List (List UInt8)}
    {sts : List TLS_FWUP_STATUS} (h : (requestAll env session_id (data :: rest)).run s = .ok (sts, t)) :
    ∃ st sts' u, sts = st :: sts' ∧ (tls_fwup_request_sync env session_id data).run s = .ok (st, u) ∧
      (requestAll env session_id rest).run u = .ok (sts', t) := by
  obtain ⟨st, u, hfirst, h⟩ := run_bind_eq_ok.mp h
  obtain ⟨sts', v, hrest, h⟩ := run_bind_eq_ok.mp h
  obtain ⟨rfl, rfl⟩ := run_pure_eq_ok.mp h
  exact ⟨st, sts', u, rfl, hfirst, hrest⟩

end

end ZCloud
