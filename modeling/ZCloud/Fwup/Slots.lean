import ZCloud.Fwup.Reset

open Memory Program

namespace ZCloud

/-- The size of [0x3000, 0x4e000) and of [0x4e000, 0x99000). -/
def FIRMWARE_SLOT_SIZE : Nat := 0x4b000

/-- Sector `k` lies in the firmware slot that begins at `slot`. -/
def InSlot (slot k : Nat) : Prop :=
  slot ≤ k * SECTOR_SIZE ∧ (k + 1) * SECTOR_SIZE ≤ slot + FIRMWARE_SLOT_SIZE

/-- The boot footer on the chip. -/
def bootFooter (flash : Nat → UInt8) : List UInt8 :=
  flashBytes flash TLS_FLASH_BOOT_FOOTER_ADDR sizeof_tls_fwup_boot_footer

/-- The slot with the running image, if the boot footer names one. -/
def IsActive (flash : Nat → UInt8) (slot : Nat) : Prop :=
  (slot = TLS_FLASH_FIRMWARE1_ADDR ∨ slot = TLS_FLASH_FIRMWARE2_ADDR) ∧
    number ((bootFooter flash).take 4) = slot

/-- Sector `k` may be written for an image with header `hdr`: for a firmware it
lies in the slot that the boot footer does not name, for any other image neither
in the slot that it names nor before both of them. -/
def MayTouch (flash : Nat → UInt8) (hdr : tls_fwup_image_hdr) (k : Nat) : Prop :=
  if hdr.dest_specific = TLS_FWUP_DEST_SPECIFIC_FIRMWARE then InSlot (firmwareBase (bootFooter flash)) k
  else TLS_FLASH_FIRMWARE1_ADDR ≤ k * SECTOR_SIZE ∧ ∀ slot, IsActive flash slot → ¬ InSlot slot k

/-- The image of `hdr` fits the place it is for. -/
def FitsTarget (flash : Nat → UInt8) (hdr : tls_fwup_image_hdr) : Prop :=
  if hdr.dest_specific = TLS_FWUP_DEST_SPECIFIC_FIRMWARE then hdr.file_len ≤ FIRMWARE_SLOT_SIZE
  else hdr.dest_offset * SECTOR_SIZE + hdr.file_len ≤ TOTAL_SIZE ∧
    ∀ k, hdr.dest_offset ≤ k → k * SECTOR_SIZE < hdr.dest_offset * SECTOR_SIZE + hdr.file_len →
      MayTouch flash hdr k

section

variable (env : FwupEnv) (session_id : Nat)

/-- The request writes no sector that is out of bounds for the image, and none
for an image that does not fit. `fls` is the flash when the session begins. -/
def Spares (src : tls_fwup_image_src) (fls : Fls) (accepted : List UInt8) (s : Fwup) (data : List UInt8) : Prop :=
  ∀ st t, (tls_fwup_request_sync env session_id data).run s = .ok (st, t) →
    ∃ new, t.fls.flushed = new ++ s.fls.flushed ∧
      ∀ k ∈ new, FitsTarget fls.flash (imageHeader src (accepted ++ data)) ∧
        MayTouch fls.flash (imageHeader src (accepted ++ data)) (k % CHIP_SECTORS)

end

/-- The sectors that `len` bytes of an image with header `hdr` are written to: those
they fill, the one they end in once they are all, and the one that the cache
held bytes of before. -/
def touchedSectors (fls : Fls) (hdr : tls_fwup_image_hdr) (len : Nat) : List Nat :=
  let b := imageBase fls.flash hdr / SECTOR_SIZE
  if len = 0 then []
  else (if hdr.file_len ≤ len then [b + len / SECTOR_SIZE] else []) ++
    (sectorsFrom b (len / SECTOR_SIZE) ++ fls.stale b)

/-- The sector cache holds no bytes left over for the first sector of `image`,
and the image fits with all sectors that its bytes so far are written to. Nothing
is asked of an address that is not on the chip: there nothing is written. -/
def TargetInPlace (src : tls_fwup_image_src) (fls : Fls) (accepted image : List UInt8) : Prop :=
  let hdr := imageHeader src image
  let len := (image.drop sizeof_tls_fwup_image_hdr).length
  u32 (imageBase fls.flash hdr + (accepted.drop sizeof_tls_fwup_image_hdr).length) < TOTAL_SIZE →
    (len ≠ 0 → fls.gsSecOffset = 0 ∨ fls.gsSector ≠ imageBase fls.flash hdr / SECTOR_SIZE) ∧
      ∀ k ∈ touchedSectors fls hdr len, FitsTarget fls.flash hdr ∧ MayTouch fls.flash hdr (k % CHIP_SECTORS)

/-- What keeps a request to the place of its image: it brings a whole header if
none has been received, and its writes are in place if the header is valid. -/
structure InPlace (src : tls_fwup_image_src) (fls : Fls) (accepted : List UInt8) (s : Fwup)
    (data : List UInt8) : Prop where
  header : s.received_len < sizeof_tls_fwup_image_hdr → sizeof_tls_fwup_image_hdr ≤ data.length
  target : validMagic (imageHeader src (accepted ++ data)) = true →
    TargetInPlace src fls accepted (accepted ++ data)

/-- The condition on a request. One that is not taken up, and one that follows
the end of the update, need not meet anything. -/
def StaysInPlace (env : FwupEnv) (src : tls_fwup_image_src) (fls : Fls) (accepted : List UInt8) (s : Fwup)
    (data : List UInt8) : Prop :=
  data ≠ [] → env.sem s.semaphores = true → s.current_state.ERROR = none →
    s.current_state.COMPLETE = false → InPlace src fls accepted s data

variable {env : FwupEnv} {src : tls_fwup_image_src} {fls : Fls} {session_id : Nat} {accepted data : List UInt8}

/-- Sector 0 holds the boot footer. -/
theorem not_mayTouch_zero (flash : Nat → UInt8) (hdr : tls_fwup_image_hdr) : ¬ MayTouch flash hdr 0 := by
  rw [MayTouch]
  split
  · rintro ⟨hslot, -⟩
    rw [firmwareBase] at hslot
    split at hslot <;> exact absurd hslot (by decide)
  · rintro ⟨hslot, -⟩
    exact absurd hslot (by decide)

/-- Bytes that stay in place are no more than the chip has. -/
theorem lt_chip_of_touchedSectors {hdr : tls_fwup_image_hdr} {len : Nat}
    (h : ∀ k ∈ touchedSectors fls hdr len, MayTouch fls.flash hdr (k % CHIP_SECTORS)) :
    len / SECTOR_SIZE < CHIP_SECTORS := by
  refine Nat.lt_of_not_le fun hlong => ?_
  have hlen : len ≠ 0 := by
    rintro rfl
    exact absurd hlong (by decide)
  have hchip : CHIP_SECTORS = 256 := rfl
  obtain ⟨b, hb⟩ : ∃ b, imageBase fls.flash hdr / SECTOR_SIZE = b := ⟨_, rfl⟩
  -- one of 256 sectors in a row is the first of the chip
  have hmem : b + (256 - b % 256) % 256 ∈ touchedSectors fls hdr len := by
    simp only [touchedSectors, hb, if_neg hlen]
    refine List.mem_append_right _ (List.mem_append_left _ (mem_sectorsFrom.mpr ⟨by omega, by omega⟩))
  have hzero := h _ hmem
  rw [hchip, show (b + (256 - b % 256) % 256) % 256 = 0 by omega] at hzero
  exact not_mayTouch_zero _ _ hzero

/-- What the bytes accepted say about the globals and the sector cache, while
the update goes on. -/
inductive Placing (src : tls_fwup_image_src) (fls : Fls) : List UInt8 → Fwup → Prop
  | start {s : Fwup} (hfls : s.fls = fls) (hreceived : s.received_len = 0)
    (hoffset : s.program_offset = 0) (hhdr : s.current_hdr = Mem.fill sizeof_tls_fwup_image_hdr 0) :
    Placing src fls [] s
  | body {accepted : List UInt8} {s : Fwup} (hlong : sizeof_tls_fwup_image_hdr ≤ accepted.length)
    (hmagic : validMagic (imageHeader src accepted) = true)
    (htotal : s.total_len = (imageHeader src accepted).file_len)
    (hbase : s.program_base = imageBase fls.flash (imageHeader src accepted))
    (hreceived : s.received_len = accepted.length)
    (hupdated : s.updated_len = (accepted.drop sizeof_tls_fwup_image_hdr).length)
    (hoffset : s.program_offset = (accepted.drop sizeof_tls_fwup_image_hdr).length)
    (hstart : (accepted.drop sizeof_tls_fwup_image_hdr).length = 0 → s.fls.SameCache fls)
    (hat : (accepted.drop sizeof_tls_fwup_image_hdr).length ≠ 0 →
      s.fls.At (imageBase fls.flash (imageHeader src accepted) / SECTOR_SIZE)
        (fls.stale (imageBase fls.flash (imageHeader src accepted) / SECTOR_SIZE) ++ fls.flushed)
        (accepted.drop sizeof_tls_fwup_image_hdr).length) : Placing src fls accepted s

/-- The invariant of a session that stays in place. -/
structure InSession (src : tls_fwup_image_src) (fls : Fls) (accepted : List UInt8) (s : Fwup) : Prop where
  src_eq : s.current_image_src = src
  placing : s.current_state.ERROR = none → s.current_state.COMPLETE = false → Placing src fls accepted s

/-- The end of an image ends the update. -/
theorem Verifies.ends {s t : Fwup} {status : TLS_FWUP_REQ_STATUS} (h : Verifies s status t)
    (herror : t.current_state.ERROR = none) : t.current_state.COMPLETE = true := by
  cases h with
  | memory => cases (TLS_FWUP_STATE.ERROR_eq_none.mp herror).2.2.1
  | io => cases (TLS_FWUP_STATE.ERROR_eq_none.mp herror).1
  | read fls crc8 image_checksum hcache hcrc hchecksum haccept =>
    cases haccept with
    | crc => cases (TLS_FWUP_STATE.ERROR_eq_none.mp herror).2.2.2
    | data => rfl
    | footer => rfl
    | footerFailed => cases (TLS_FWUP_STATE.ERROR_eq_none.mp herror).1

theorem Fls.Destroyed.flushed_cons {s t : Fls} (h : s.Destroyed t) :
    ∃ last, (∀ k ∈ last, k = s.gsSector) ∧ t.flushed = last ++ s.flushed := by
  have hflushed := h.flushed
  split at hflushed
  · exact ⟨[s.gsSector], fun k hk => List.mem_singleton.mp hk, hflushed⟩
  · exact ⟨[], nofun, hflushed⟩

/-- Of the sectors that the cache is written to, the check of an image writes the
one it ends in. -/
theorem Verifies.flushed {s t : Fwup} {status : TLS_FWUP_REQ_STATUS} (h : Verifies s status t) :
    ∃ last, (∀ k ∈ last, k = s.fls.gsSector) ∧ t.fls.flushed = last ++ s.fls.flushed := by
  cases h with
  | memory fls hcache => exact hcache.flushed_cons
  | io fls hcache => exact hcache.flushed_cons
  | read fls crc8 image_checksum hcache hcrc hchecksum haccept =>
    obtain ⟨last, hlast, hflushed⟩ := hcache.flushed_cons
    refine ⟨last, hlast, Eq.trans ?_ hflushed⟩
    cases haccept with
    | crc => rfl
    | data => rfl
    | footer fls' hok hdest hsame => exact hsame.2.2.2
    | footerFailed fls' hok hdest hsame => exact hsame.2.2.2

theorem sectorsFrom_add (b m k : Nat) : ∃ new, sectorsFrom b (m + k) = new ++ sectorsFrom b m ∧
    ∀ i ∈ new, i ∈ sectorsFrom b (m + k) := by
  induction k with
  | zero => exact ⟨[], rfl, nofun⟩
  | succ k ih =>
    obtain ⟨new, hnew, hmem⟩ := ih
    refine ⟨(b + (m + k)) :: new, by rw [← Nat.add_assoc, sectorsFrom, hnew]; rfl, fun i hi => ?_⟩
    rw [← Nat.add_assoc, sectorsFrom]
    obtain rfl | hi := List.mem_cons.mp hi
    · exact List.mem_cons_self ..
    · exact List.mem_cons_of_mem _ (hmem i hi)

/-- The sectors that a write of an image goes to. -/
theorem tls_fls_fast_write_sectors {f f' : Fls} {b n : Nat} {buffer : List UInt8}
    (hstart : n = 0 → f.SameCache fls) (hat : n ≠ 0 → f.At b (fls.stale b ++ fls.flushed) n)
    (hclean : fls.gsSecOffset = 0 ∨ fls.gsSector ≠ b)
    (hb : b + (n + buffer.length) / SECTOR_SIZE < 4294967296)
    (h : (tls_fls_fast_write env.toFlsEnv (b * SECTOR_SIZE + n) buffer).run f = .ok (TLS_FLS_STATUS_OK, f')) :
    f'.At b (fls.stale b ++ fls.flushed) (n + buffer.length) ∧ ∃ new, f'.flushed = new ++ f.flushed ∧
      ∀ k ∈ new, k ∈ sectorsFrom b ((n + buffer.length) / SECTOR_SIZE) ++ fls.stale b := by
  by_cases hn : n = 0
  · obtain ⟨-, hoffset, hsector, hflushed⟩ := hstart hn
    subst hn
    rw [Nat.zero_add] at hb
    rw [Nat.add_zero] at h
    have hf' := tls_fls_fast_write_first (by rwa [← hoffset, ← hsector]) hb h
    rw [Fls.stale, ← hoffset, ← hsector, ← hflushed, ← Fls.stale] at hf'
    rw [Nat.zero_add]
    refine ⟨hf', _, ?_, fun k hk => hk⟩
    rw [hf'.flushed, ← hflushed, List.append_assoc]
  · have hf := hat hn
    have hf' := tls_fls_fast_write_next hf hb h
    obtain ⟨new, hnew, hmem⟩ := sectorsFrom_add b (n / SECTOR_SIZE)
      ((n + buffer.length) / SECTOR_SIZE - n / SECTOR_SIZE)
    rw [Nat.add_sub_cancel' (Nat.div_le_div_right (Nat.le_add_right _ _))] at hnew hmem
    refine ⟨hf', new, ?_, fun k hk => List.mem_append_left _ (hmem k hk)⟩
    rw [hf'.flushed, hnew, hf.flushed, List.append_assoc]

theorem imageBase_lt (flash : Nat → UInt8) (hdr : tls_fwup_image_hdr) : imageBase flash hdr < 268435456 := by
  simp only [imageBase, firmwareBase]
  split
  · split
    · split <;> decide
    · decide
  · have hlen : ((hdr.bytes.drop 6).take 2).length = 2 := by
      rw [List.length_take, List.length_drop, hdr.size]
      rfl
    have h := number_lt ((hdr.bytes.drop 6).take 2)
    rw [hlen] at h
    have : hdr.dest_offset < 65536 := h
    omega

/-- The globals once the header of `image` has been received, before its bytes
`buffer` are programmed; those of `accepted` have been. -/
structure Located (src : tls_fwup_image_src) (fls : Fls) (accepted image buffer : List UInt8) (s : Fwup) :
    Prop where
  src_eq : s.current_image_src = src
  long : sizeof_tls_fwup_image_hdr ≤ image.length
  magic : validMagic (imageHeader src image) = true
  total_len : s.total_len = (imageHeader src image).file_len
  program_base : s.program_base = imageBase fls.flash (imageHeader src image)
  body : image.drop sizeof_tls_fwup_image_hdr = accepted.drop sizeof_tls_fwup_image_hdr ++ buffer
  received_len : s.received_len = u32 image.length
  updated_len : s.updated_len = (accepted.drop sizeof_tls_fwup_image_hdr).length
  program_offset : s.program_offset = (accepted.drop sizeof_tls_fwup_image_hdr).length
  start : (accepted.drop sizeof_tls_fwup_image_hdr).length = 0 → s.fls.SameCache fls
  at' : (accepted.drop sizeof_tls_fwup_image_hdr).length ≠ 0 →
    s.fls.At (imageBase fls.flash (imageHeader src image) / SECTOR_SIZE)
      (fls.stale (imageBase fls.flash (imageHeader src image) / SECTOR_SIZE) ++ fls.flushed)
      (accepted.drop sizeof_tls_fwup_image_hdr).length

/-- The header part of a request that stays in place. -/
theorem TakesHeader.inPlace {s t : Fwup} {r : Except TLS_FWUP_REQ_STATUS (List UInt8)}
    (h : TakesHeader env s.taken data r t) (hs : Placing src fls accepted s)
    (hsrc : s.current_image_src = src)
    (hheader : s.received_len < sizeof_tls_fwup_image_hdr → sizeof_tls_fwup_image_hdr ≤ data.length) :
    t.current_image_src = src ∧ s.fls.SameCache t.fls ∧
      ((∃ status, r = .error status ∧ t.current_state.ERROR ≠ none) ∨
        ∃ buffer, r = .ok buffer ∧ Located src fls accepted (accepted ++ data) buffer t) := by
  cases hs with
  | start hfls hreceived hoffset hhdr =>
    have hwhole := hheader (by rw [hreceived]; decide)
    obtain ⟨failed, u, hreceives, ⟨status, rfl, rfl, rfl⟩ | ⟨rfl, rfl, rfl⟩⟩ := h.first hreceived hhdr hwhole
    · refine ⟨hreceives.session.1.trans hsrc, ?_, Or.inl ⟨status, rfl, hreceives.session.2.2.2 nofun⟩⟩
      cases hreceives with
      | invalid => exact Frame.refl _
      | io fls' _ _ hreads => exact hreads.sameCache
    · rw [hsrc] at hreceives
      cases hreceives with
      | valid fls' hmagic _ hreads =>
        refine ⟨hsrc, hreads.sameCache, Or.inr ⟨_, rfl, hsrc, hwhole, hmagic, rfl, ?_, rfl, rfl, rfl, hoffset,
          fun _ => ?_, fun hne => absurd rfl hne⟩⟩
        · rw [← hfls]
          rfl
        · obtain ⟨hcache, hoff, hsector, hflushed⟩ := hreads.sameCache
          rw [← hfls]
          exact ⟨hcache.symm, hoff.symm, hsector.symm, hflushed.symm⟩
  | body hlong hmagic htotal hbase hreceived hupdated hoffset hstart hat =>
    obtain ⟨rfl, rfl⟩ := h.next (by rw [hreceived]; exact hlong)
    refine ⟨hsrc, Frame.refl _, Or.inr ⟨data, rfl, hsrc, ?_, ?_, ?_, ?_, List.drop_append_of_le_length hlong, ?_,
      hupdated, hoffset, hstart, ?_⟩⟩
    · rw [List.length_append]
      exact Nat.le_add_right_of_le hlong
    · rw [imageHeader_append hlong]
      exact hmagic
    · rw [imageHeader_append hlong]
      exact htotal
    · rw [imageHeader_append hlong]
      exact hbase
    · rw [List.length_append, ← hreceived]
    · rw [imageHeader_append hlong]
      exact hat

theorem Placing.requestDone {s : Fwup} (hs : Placing src fls accepted s) :
    Placing src fls accepted (requestDone s) := by
  rw [ZCloud.requestDone]
  split
  · cases hs with
    | start hfls hreceived hoffset hhdr => exact Placing.start hfls hreceived hoffset hhdr
    | body hlong hmagic htotal hbase hreceived hupdated hoffset hstart hat =>
      exact Placing.body hlong hmagic htotal hbase hreceived hupdated hoffset hstart hat
  · cases hs with
    | start hfls hreceived hoffset hhdr => exact Placing.start hfls hreceived hoffset hhdr
    | body hlong hmagic htotal hbase hreceived hupdated hoffset hstart hat =>
      exact Placing.body hlong hmagic htotal hbase hreceived hupdated hoffset hstart hat

/-- A write of bytes that stay in place. -/
theorem Located.written {s : Fwup} {image buffer : List UInt8} {f : Fls}
    (hs : Located src fls accepted image buffer s) (htarget : TargetInPlace src fls accepted image)
    (hbuffer : buffer ≠ [])
    (hwrite : (tls_fls_fast_write env.toFlsEnv (u32 (s.program_base + s.program_offset)) buffer).run s.fls =
      .ok (TLS_FLS_STATUS_OK, f)) :
    image.length < 4294967296 ∧
      f.At (imageBase fls.flash (imageHeader src image) / SECTOR_SIZE)
        (fls.stale (imageBase fls.flash (imageHeader src image) / SECTOR_SIZE) ++ fls.flushed)
        (image.drop sizeof_tls_fwup_image_hdr).length ∧
      (∃ new, f.flushed = new ++ s.fls.flushed ∧
        ∀ k ∈ new, k ∈ touchedSectors fls (imageHeader src image) (image.drop sizeof_tls_fwup_image_hdr).length) ∧
      ∀ k ∈ touchedSectors fls (imageHeader src image) (image.drop sizeof_tls_fwup_image_hdr).length,
        FitsTarget fls.flash (imageHeader src image) ∧ MayTouch fls.flash (imageHeader src image) (k % CHIP_SECTORS) := by
  have hsize : sizeof_tls_fwup_image_hdr = 16 := rfl
  have hsector : SECTOR_SIZE = 4096 := rfl
  have haddr := tls_fls_fast_write_addr hwrite
  rw [hs.program_base, hs.program_offset] at haddr
  obtain ⟨hclean, htouched⟩ := htarget haddr
  have hpos := List.length_pos_iff.mpr hbuffer
  have hlen := congrArg List.length hs.body
  rw [List.length_append] at hlen
  have hne : (image.drop sizeof_tls_fwup_image_hdr).length ≠ 0 := by omega
  have hchip : (image.drop sizeof_tls_fwup_image_hdr).length / SECTOR_SIZE < 256 :=
    lt_chip_of_touchedSectors fun k hk => (htouched k hk).2
  have hbase := imageBase_lt fls.flash (imageHeader src image)
  have hmod := imageBase_mod fls.flash (imageHeader src image)
  have hshort := hchip
  rw [List.length_drop] at hshort
  rw [hsector] at hchip hshort hmod
  rw [hs.program_base, hs.program_offset, u32_of_lt (by omega)] at hwrite
  rw [show imageBase fls.flash (imageHeader src image) =
    imageBase fls.flash (imageHeader src image) / SECTOR_SIZE * SECTOR_SIZE by rw [hsector]; omega] at hwrite
  obtain ⟨hat, new, hnew, hmem⟩ := tls_fls_fast_write_sectors hs.start hs.at' (hclean hne)
    (by rw [← hlen, hsector]; omega) hwrite
  rw [← hlen] at hat hmem
  refine ⟨by omega, hat, ⟨new, hnew, fun k hk => ?_⟩, htouched⟩
  rw [touchedSectors, if_neg hne]
  exact List.mem_append_right _ (hmem k hk)

/-- What programming the bytes of a request that stays in place does. -/
theorem Programs.inPlace {s u : Fwup} {buffer : List UInt8} {status : TLS_FWUP_REQ_STATUS}
    (h : Programs env s buffer status u) (hdata : data ≠ [])
    (hs : Located src fls accepted (accepted ++ data) buffer s)
    (htarget : TargetInPlace src fls accepted (accepted ++ data)) :
    (u.current_state.ERROR = none → u.current_state.COMPLETE = false →
      status.result = TLS_FWUP_STATUS_OK ∧ Placing src fls (accepted ++ data) u) ∧
    ∃ new, u.fls.flushed = new ++ s.fls.flushed ∧
      ∀ k ∈ new, FitsTarget fls.flash (imageHeader src (accepted ++ data)) ∧
        MayTouch fls.flash (imageHeader src (accepted ++ data)) (k % CHIP_SECTORS) := by
  have hsize : sizeof_tls_fwup_image_hdr = 16 := rfl
  have hlen := congrArg List.length hs.body
  have hpos := List.length_pos_iff.mpr hdata
  have hlong := hs.long
  have happend : (accepted ++ data).length = accepted.length + data.length := List.length_append
  cases h with
  | nothing hbuffer =>
    subst hbuffer
    have hbody := hs.body
    rw [List.append_nil] at hbody
    rw [List.append_nil, List.length_drop, List.length_drop] at hlen
    have hexact : (accepted ++ data).length = 16 := by omega
    refine ⟨fun _ _ => ⟨rfl, Placing.body hlong hs.magic hs.total_len hs.program_base ?_
      (hs.updated_len.trans (congrArg List.length hbody.symm))
      (hs.program_offset.trans (congrArg List.length hbody.symm)) ?_ ?_⟩, [], rfl, nofun⟩
    · rw [hs.received_len, hexact]
      rfl
    · rw [hbody]
      exact hs.start
    · rw [hbody]
      exact hs.at'
  | refused hbuffer =>
    refine ⟨fun h => ?_, [], rfl, fun _ hk => nomatch hk⟩
    cases (TLS_FWUP_STATE.ERROR_eq_none.mp h).1
  | more fls₁ hbuffer hwrite hless =>
    obtain ⟨hbound, hat, ⟨new, hnew, hmem⟩, htouched⟩ := hs.written htarget hbuffer hwrite
    rw [List.length_append, ← hs.updated_len] at hlen
    have hsum : u32 (s.updated_len + buffer.length) =
        ((accepted ++ data).drop sizeof_tls_fwup_image_hdr).length := by
      rw [← hlen]
      refine u32_of_lt ?_
      rw [List.length_drop]
      omega
    refine ⟨fun _ _ => ⟨rfl, Placing.body hlong hs.magic hs.total_len hs.program_base ?_ hsum ?_ (fun hnil => ?_)
      (fun _ => hat)⟩, new, hnew, fun k hk => htouched k (hmem k hk)⟩
    · change s.received_len = _
      rw [hs.received_len, u32_of_lt hbound]
    · change u32 (s.program_offset + buffer.length) = _
      rw [hs.program_offset, ← hs.updated_len, hsum]
    · rw [hs.body] at hnil
      exact absurd (List.append_eq_nil_iff.mp (List.length_eq_zero_iff.mp hnil)).2 hbuffer
  | last fls₁ hbuffer hwrite hlast hverify =>
    obtain ⟨hbound, hat, ⟨new, hnew, hmem⟩, htouched⟩ := hs.written htarget hbuffer hwrite
    rw [List.length_append, ← hs.updated_len] at hlen
    have hsum : u32 (s.updated_len + buffer.length) =
        ((accepted ++ data).drop sizeof_tls_fwup_image_hdr).length := by
      rw [← hlen]
      refine u32_of_lt ?_
      rw [List.length_drop]
      omega
    obtain ⟨last, hsector, hflushed⟩ := hverify.flushed
    refine ⟨fun herror hmore => ?_, last ++ new, ?_, fun k hk => ?_⟩
    · rw [hverify.ends herror] at hmore
      cases hmore
    · rw [hflushed, List.append_assoc]
      exact congrArg (last ++ ·) hnew
    · obtain hk | hk := List.mem_append.mp hk
      · refine htouched k ?_
        rw [hsum, hs.total_len] at hlast
        have hne : ((accepted ++ data).drop sizeof_tls_fwup_image_hdr).length ≠ 0 := by
          have := List.length_pos_iff.mpr hbuffer
          omega
        rw [touchedSectors, if_neg hne, if_pos hlast]
        refine List.mem_append_left _ (List.mem_singleton.mpr ?_)
        rw [hsector k hk]
        exact hat.sector
      · exact htouched k (hmem k hk)

/-- What a request that stays in place does. -/
private theorem Handles.inPlace {s u : Fwup} {status : TLS_FWUP_REQ_STATUS}
    (h : Handles env s.taken data status u) (hs : InSession src fls accepted s) (hdata : data ≠ [])
    (hmeets : s.current_state.ERROR = none → s.current_state.COMPLETE = false →
      InPlace src fls accepted s data) :
    InSession src fls (accept accepted data status.result) (requestDone u) ∧
      ∃ new, u.fls.flushed = new ++ s.fls.flushed ∧
        ∀ k ∈ new, FitsTarget fls.flash (imageHeader src (accepted ++ data)) ∧
          MayTouch fls.flash (imageHeader src (accepted ++ data)) (k % CHIP_SECTORS) := by
  cases h with
  | discarded herror =>
    rw [accept_refused (TLS_FWUP_STATE.result_of_ERROR herror)]
    refine ⟨⟨(requestDone_src _).trans hs.src_eq, fun hnone => ?_⟩, [], rfl, fun _ hk => nomatch hk⟩
    rw [requestDone_ERROR, herror] at hnone
    cases hnone
  | complete herror hcomplete =>
    rw [@accept_refused _ _ TLS_FWUP_REQ_STATUS_FCOMPLETE.result (by decide)]
    refine ⟨⟨(requestDone_src _).trans hs.src_eq, fun _ hmore => ?_⟩, [], rfl, fun _ hk => nomatch hk⟩
    rw [requestDone_COMPLETE, hcomplete] at hmore
    cases hmore
  | header herror hmore htake =>
    obtain ⟨hsrc, hsame, ⟨_, -, hfailed⟩ | ⟨_, hr, -⟩⟩ :=
      htake.inPlace (hs.placing herror hmore) hs.src_eq (hmeets herror hmore).header
    · refine ⟨⟨(requestDone_src u).trans hsrc, fun hnone => ?_⟩, [], hsame.2.2.2, fun _ hk => nomatch hk⟩
      rw [requestDone_ERROR] at hnone
      exact absurd hnone hfailed
    · cases hr
  | @body _ buffer u₁ _ herror hmore htake hprogram =>
    obtain ⟨hsrc, hsame, ⟨_, hr, -⟩ | ⟨_, hr, hlocated⟩⟩ :=
      htake.inPlace (hs.placing herror hmore) hs.src_eq (hmeets herror hmore).header
    · cases hr
    · cases hr
      obtain ⟨hgoes, new, hnew, hmem⟩ := hprogram.inPlace hdata hlocated
        ((hmeets herror hmore).target hlocated.magic)
      refine ⟨⟨(requestDone_src u).trans (hprogram.keepsHeader.src.trans hsrc), fun hnone hopen => ?_⟩, new, ?_, hmem⟩
      · rw [requestDone_ERROR] at hnone
        rw [requestDone_COMPLETE] at hopen
        obtain ⟨hok, hplacing⟩ := hgoes hnone hopen
        rw [accept, if_pos hok]
        exact hplacing.requestDone
      · rw [hnew, hsame.2.2.2]

theorem Placing.refused {s : Fwup} (hs : Placing src fls accepted s) (semaphores : Nat) :
    Placing src fls accepted { s with semaphores := semaphores } := by
  cases hs with
  | start hfls hreceived hoffset hhdr => exact Placing.start hfls hreceived hoffset hhdr
  | body hlong hmagic htotal hbase hreceived hupdated hoffset hstart hat =>
    exact Placing.body hlong hmagic htotal hbase hreceived hupdated hoffset hstart hat

/-- A request that meets the condition keeps the invariant and stays in place. -/
theorem InSession.step (hsrc : src ≠ TLS_FWUP_IMAGE_SRC_LUART) {s : Fwup} (hs : InSession src fls accepted s)
    (hmeets : StaysInPlace env src fls accepted s data) :
    Spares env session_id src fls accepted s data ∧ ∀ st t,
      (tls_fwup_request_sync env session_id data).run s = .ok (st, t) →
        InSession src fls (accept accepted data st) t := by
  have hstep : ∀ st t, (tls_fwup_request_sync env session_id data).run s = .ok (st, t) →
      InSession src fls (accept accepted data st) t ∧ ∃ new, t.fls.flushed = new ++ s.fls.flushed ∧
        ∀ k ∈ new, FitsTarget fls.flash (imageHeader src (accepted ++ data)) ∧
          MayTouch fls.flash (imageHeader src (accepted ++ data)) (k % CHIP_SECTORS) := by
    intro st t hrun
    obtain ⟨hst, semaphores, rfl⟩ | ⟨hdata, hsem, status, u, rfl, hhandles, rfl⟩ :=
      tls_fwup_request_sync_ok (by rw [hs.src_eq]; exact hsrc) hrun
    · rw [accept_refused hst]
      exact ⟨⟨hs.src_eq, fun herror hmore => (hs.placing herror hmore).refused semaphores⟩, [], rfl,
        fun _ hk => nomatch hk⟩
    · rw [requestDone_fls]
      exact hhandles.inPlace hs hdata (hmeets hdata hsem)
  exact ⟨fun st t hrun => (hstep st t hrun).2, fun st t hrun => (hstep st t hrun).1⟩

theorem InSession.throughout (hsrc : src ≠ TLS_FWUP_IMAGE_SRC_LUART) {s : Fwup} {requests : List (List UInt8)}
    (hs : InSession src fls accepted s)
    (hmeets : Throughout env session_id (StaysInPlace env src fls) accepted s requests) :
    Throughout env session_id (Spares env session_id src fls) accepted s requests := by
  induction requests generalizing accepted s with
  | nil => trivial
  | cons data requests ih =>
    obtain ⟨hfirst, hrest⟩ := hmeets
    have hstep := @InSession.step _ _ _ session_id _ _ hsrc _ hs hfirst
    exact ⟨hstep.1, fun st t hrun => ih (hstep.2 st t hrun) (hrest st t hrun)⟩

/-- In a session whose requests all meet the condition, the running image and
the sectors before it are spared. -/
theorem fwup_scheduler_spares_active {rand : { n : Nat // n ≠ 0 }} {s s₁ : Fwup} {requests : List (List UInt8)}
    (hsrc : src ≠ TLS_FWUP_IMAGE_SRC_LUART)
    (henter : (tls_fwup_enter env src rand).run s = .ok (session_id, s₁)) (hopen : session_id ≠ 0)
    (hmeets : Throughout env session_id (StaysInPlace env src s₁.fls) [] s₁ requests) :
    Throughout env session_id (Spares env session_id src s₁.fls) [] s₁ requests := by
  obtain ⟨rfl, -, fls, -, rfl⟩ := tls_fwup_enter_ok henter hopen
  exact InSession.throughout hsrc ⟨rfl, fun _ _ => Placing.start rfl rfl rfl rfl⟩ hmeets

/-- The header of a data image with 8192 bytes for the sector of the boot
footer. -/
def footerHeader : List UInt8 :=
  bytesU32 TLS_FWUP_IMAGE_SIGNATURE_WORD ++ [0, 1] ++ bytesU16 0 ++ bytesU32 8192 ++ bytesU32 0

/-- The first half of it, with its header. -/
def footerRequest : List UInt8 := footerHeader ++ List.replicate 4096 0

theorem imageHeader_footerRequest :
    imageHeader TLS_FWUP_IMAGE_SRC_HUART footerRequest = imageHeader TLS_FWUP_IMAGE_SRC_HUART footerHeader :=
  imageHeader_append (by decide) _

/-- A data image that names the sector of the boot footer is written there. -/
theorem fwup_scheduler_overwrites_footer : ∃ s₁,
    (tls_fwup_enter blankEnv TLS_FWUP_IMAGE_SRC_HUART ⟨1, by decide⟩).run blankFwup = .ok (1, s₁) ∧
      ¬ Throughout blankEnv 1 (Spares blankEnv 1 TLS_FWUP_IMAGE_SRC_HUART s₁.fls) [] s₁ [footerRequest] := by
  obtain ⟨s₁, henter, hs₁, hflash, hoffset, hcache⟩ := run_enter_blank
  have hsize : sizeof_tls_fwup_image_hdr = 16 := rfl
  have hbase : imageBase s₁.fls.flash (imageHeader TLS_FWUP_IMAGE_SRC_HUART footerRequest) = 0 := by
    rw [imageHeader_footerRequest, hflash]
    decide
  have hlen : (imageHeader TLS_FWUP_IMAGE_SRC_HUART footerRequest).file_len = 8192 := by
    rw [imageHeader_footerRequest]
    decide
  have hbody : (footerRequest.drop sizeof_tls_fwup_image_hdr).length = 4096 := by
    rw [footerRequest, List.length_drop, List.length_append, List.length_replicate]
    rfl
  have hlong : sizeof_tls_fwup_image_hdr ≤ footerRequest.length := by
    rw [List.length_drop] at hbody
    omega
  refine ⟨s₁, henter, fun hspares => ?_⟩
  obtain ⟨st, t, hrun, hmore, -⟩ := run_request_first blankEnv_reliable (by decide) hs₁
    ⟨hcache, Or.inl hoffset⟩ hlong (by rw [imageHeader_footerRequest]; decide) (by rw [hbase, hbody]; decide)
  have ht := hmore (by rw [hbody, hlen]; decide)
  obtain ⟨new, hnew, hmem⟩ := hspares.1 st t hrun
  rw [List.nil_append] at hmem
  have herror : t.current_state.ERROR = none := by rw [ht.state]; rfl
  obtain ⟨-, semaphores, rfl⟩ | ⟨-, -, status, u, -, hhandles, rfl⟩ :=
    tls_fwup_request_sync_ok (by rw [hs₁.src_eq]; decide) hrun
  · have hreceived := hs₁.received_len.symm.trans ht.received_len
    rw [hbody] at hreceived
    exact absurd hreceived (by decide)
  · rw [requestDone_ERROR] at herror
    rw [requestDone_fls] at hnew
    cases hhandles with
    | discarded hfailed => exact absurd herror (by rw [hfailed]; nofun)
    | complete _ hcomplete =>
      change s₁.current_state.COMPLETE = true at hcomplete
      rw [hs₁.state] at hcomplete
      cases hcomplete
    | header _ _ htake =>
      obtain ⟨-, -, ⟨_, -, hfailed⟩ | ⟨_, hr, -⟩⟩ := @TakesHeader.inPlace _ _ s₁.fls _ _ _ _ _ htake
        (Placing.start rfl hs₁.received_len hs₁.program_offset hs₁.current_hdr) hs₁.src_eq fun _ => hlong
      · exact hfailed herror
      · cases hr
    | @body _ buffer u₁ _ _ _ htake hprogram =>
      obtain ⟨-, hsame, ⟨_, hr, -⟩ | ⟨_, hr, hlocated⟩⟩ := @TakesHeader.inPlace _ _ s₁.fls _ _ _ _ _ htake
        (Placing.start rfl hs₁.received_len hs₁.program_offset hs₁.current_hdr) hs₁.src_eq fun _ => hlong
      · cases hr
      cases hr
      have hbuffer := congrArg List.length hlocated.body
      rw [List.nil_append, hbody, List.length_append, List.length_drop, List.length_nil, Nat.zero_sub,
        Nat.zero_add] at hbuffer
      have hupdated : u₁.updated_len = 0 := hlocated.updated_len
      cases hprogram with
      | nothing hnil =>
        rw [hnil] at hbuffer
        cases hbuffer
      | refused => cases (TLS_FWUP_STATE.ERROR_eq_none.mp herror).1
      | more f _ hwrite =>
        have haddr : u32 (u₁.program_base + u₁.program_offset) = 0 * SECTOR_SIZE := by
          rw [hlocated.program_base, hlocated.program_offset, List.nil_append, hbase]
          rfl
        rw [haddr] at hwrite
        have hat := tls_fls_fast_write_first (Or.inl (hsame.2.1.trans hoffset)) (by rw [← hbuffer]; decide) hwrite
        have hflushed := hat.flushed
        rw [← hbuffer] at hflushed
        rw [← hsame.2.2.2] at hnew
        rw [show u₁.fls.stale 0 = [] from if_neg fun h => h.2 (hsame.2.1.trans hoffset)] at hflushed
        have hzero : 0 ∈ new := by
          have happend := hnew.symm.trans hflushed
          rw [List.nil_append] at happend
          rw [List.append_cancel_right happend]
          decide
        exact not_mayTouch_zero _ _ (hmem 0 hzero).2
      | last f _ _ hlast =>
        rw [hlocated.total_len, List.nil_append, hlen, hupdated, ← hbuffer] at hlast
        exact absurd hlast (by decide)

/-- A firmware in one request stays in its slot. -/
theorem fwup_scheduler_spares_active_firmware : ∃ s₁,
    (tls_fwup_enter blankEnv TLS_FWUP_IMAGE_SRC_HUART ⟨1, by decide⟩).run blankFwup = .ok (1, s₁) ∧
      Throughout blankEnv 1 (Spares blankEnv 1 TLS_FWUP_IMAGE_SRC_HUART s₁.fls) [] s₁ [firmwareImage] := by
  obtain ⟨s₁, henter, hs₁, hflash, hoffset, -⟩ := run_enter_blank
  refine ⟨s₁, henter, fwup_scheduler_spares_active (by decide) henter (by decide)
    ⟨fun _ _ _ _ => ⟨fun _ => by decide, fun _ _ => ⟨fun _ => Or.inl hoffset, fun k hk => ?_⟩⟩, fun _ _ _ => trivial⟩⟩
  have hstale : ∀ b, s₁.fls.stale b = [] := fun _ => if_neg fun h => h.2 hoffset
  have hk3 : k = 3 := by
    simp only [touchedSectors, hstale, hflash] at hk
    clear hstale
    revert k
    decide
  rw [hflash, hk3]
  refine ⟨?_, ?_⟩
  · rw [FitsTarget, if_pos (by decide)]
    decide
  · rw [MayTouch, if_pos (by decide)]
    exact ⟨by decide, by decide⟩

end ZCloud
