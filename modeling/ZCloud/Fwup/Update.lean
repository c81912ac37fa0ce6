import ZCloud.Fwup.Scheduler
import ZCloud.Drivers.FastWrite

open Memory Program

namespace ZCloud

/-- The flash never fails, and there is memory and a semaphore whenever one is
needed. -/
structure FwupEnv.Reliable (env : FwupEnv) : Prop where
  io : env.toFlsEnv.Reliable
  alloc : ∀ n, env.alloc n = true
  sem : ∀ n, env.sem n = true

/-- The bytes of the chip from address `addr` on. -/
def flashBytes (flash : Nat → UInt8) (addr len : Nat) : List UInt8 :=
  (List.range len).map fun i => flash (addr + i)

@[simp]
theorem length_flashBytes (flash : Nat → UInt8) (addr len : Nat) : (flashBytes flash addr len).length = len := by
  rw [flashBytes, List.length_map, List.length_range]

theorem flashBytes_add (flash : Nat → UInt8) (addr m n : Nat) :
    flashBytes flash addr (m + n) = flashBytes flash addr m ++ flashBytes flash (addr + m) n := by
  simp only [flashBytes, List.range_add, List.map_append, List.map_map]
  congr 1
  refine List.map_congr_left fun i _ => ?_
  rw [Function.comp_apply, Nat.add_assoc]

theorem flashBytes_congr {f g : Nat → UInt8} {addr len : Nat}
    (h : ∀ i < len, f (addr + i) = g (addr + i)) : flashBytes f addr len = flashBytes g addr len :=
  List.map_congr_left fun i hi => h i (List.mem_range.mp hi)

theorem words_append {a b : List UInt8} (h : a.length % 4 = 0) : words (a ++ b) = words a ++ words b := by
  induction a using words.induct with
  | case1 => rfl
  | case2 w x y z bytes ih =>
    simp only [List.length_cons] at h
    simp only [List.cons_append, words, ih (by omega)]
  | case3 bytes hnil hshort =>
    match bytes, hnil, hshort with
    | [], hnil, _ => exact absurd rfl hnil
    | [_], _, _ => simp at h
    | [_, _], _, _ => simp at h
    | [_, _, _], _, _ => simp at h
    | w :: x :: y :: z :: bytes, _, hshort => exact absurd rfl (hshort w x y z bytes)

/-- The checksum of an image as the boot loader takes it. -/
def imageChecksum (image : List UInt8) : Nat :=
  if image = [] then 0 else checksum (words image).sum

/-- The part of a firmware image that a request may start with, copied over a
header of zeros. -/
def copiedHeader (image : List UInt8) : tls_fwup_image_hdr where
  bytes := (image ++ List.replicate sizeof_tls_fwup_image_hdr 0).take sizeof_tls_fwup_image_hdr
  size := by simp

/-- The header of an image. -/
def imageHeader (src : tls_fwup_image_src) (image : List UInt8) : tls_fwup_image_hdr :=
  if src = TLS_FWUP_IMAGE_SRC_WEB then swapHeader (copiedHeader image) else copiedHeader image

/-- Where an image goes, when the chip holds `flash`. -/
def imageBase (flash : Nat → UInt8) (hdr : tls_fwup_image_hdr) : Nat :=
  let footer := flashBytes flash TLS_FLASH_BOOT_FOOTER_ADDR sizeof_tls_fwup_boot_footer
  if hdr.dest_specific = TLS_FWUP_DEST_SPECIFIC_FIRMWARE then
    if footerSignature footer = TLS_FWUP_BOOT_IMAGE_SIGNATURE_WORD then firmwareBase footer
    else TLS_FLASH_FIRMWARE1_ADDR
  else hdr.dest_offset * 0x1000

/-- What an update leaves: the target region, the header, the bytes of the boot
footer, the state bits, and whether the device has been reset. -/
structure FwupOutcome where
  region : List UInt8
  current_hdr : tls_fwup_image_hdr
  boot_footer : List UInt8
  current_state : TLS_FWUP_STATE
  reset : Bool

def footerBytes (flash : Nat → UInt8) : List UInt8 :=
  flashBytes flash TLS_FLASH_BOOT_FOOTER_ADDR sizeof_tls_fwup_boot_footer

/-- The outcome of an update with an image whose header is `hdr` and which goes
to address `base`, as the globals show it. -/
def outcome (hdr : tls_fwup_image_hdr) (base : Nat) (s : Fwup) : FwupOutcome where
  region := flashBytes s.fls.flash base hdr.file_len
  current_hdr := s.current_hdr
  boot_footer := footerBytes s.fls.flash
  current_state := s.current_state
  reset := s.resetting

/-- The outcome of an update that has programmed `region` to address `base` and
left `footer` in the place of the boot footer: the image is checked and, if it is a
firmware, entered there. -/
def checkedOutcome (hdr : tls_fwup_image_hdr) (base : Nat) (footer region : List UInt8) : FwupOutcome :=
  if hdr.crc8 ≠ calculate_crc8 0 region then
    ⟨region, hdr, footer, { TLS_FWUP_STATE.none with ERROR_CRC := true }, true⟩
  else
    ⟨region, hdr,
      if hdr.dest_specific = TLS_FWUP_DEST_SPECIFIC_FIRMWARE then
        (newFooter base hdr.file_len (imageChecksum region)).toBytes
      else footer,
      { TLS_FWUP_STATE.none with COMPLETE := true }, true⟩

/-- What the sector cache holds. -/
def Fls.cached (fls : Fls) (i : Nat) : UInt8 :=
  match fls.gsflscache with
  | none => 0
  | some cache => cache.bytes.getD i 0

/-- The place of the boot footer when `body` has been written from address `base` on
and the sector cache has been given back. An image for the start of the chip is written
over it, and behind the end of a short one stands what the cache held before. -/
def writtenFooter (base : Nat) (fls : Fls) (body : List UInt8) : List UInt8 :=
  if base = 0 then
    (List.range sizeof_tls_fwup_boot_footer).map fun i => if i < body.length then body.getD i 0 else fls.cached i
  else footerBytes (flushedFlash (base / SECTOR_SIZE) fls)

/-- The outcome of an update with an image whose header `hdr` is in order: what
there is of its body is programmed, and checked when it is complete. -/
def bodyOutcome (hdr : tls_fwup_image_hdr) (fls : Fls) (body : List UInt8) : FwupOutcome :=
  let base := imageBase fls.flash hdr
  let flash := rewrite (flushedFlash (base / SECTOR_SIZE) fls) base (wholeSectors body) fun i => body.getD i 0
  if body = [] then
    ⟨flashBytes fls.flash base hdr.file_len, hdr, footerBytes fls.flash, TLS_FWUP_STATE.none,
      decide (hdr.file_len = 0)⟩
  else if body.length < hdr.file_len then
    ⟨flashBytes flash base hdr.file_len, hdr, footerBytes flash, TLS_FWUP_STATE.none, false⟩
  else checkedOutcome hdr base (writtenFooter base fls body) (body.take hdr.file_len)

theorem le_imageBase (flash : Nat → UInt8) {hdr : tls_fwup_image_hdr}
    (h : hdr.dest_specific = TLS_FWUP_DEST_SPECIFIC_FIRMWARE) :
    TLS_FLASH_FIRMWARE1_ADDR ≤ imageBase flash hdr := by
  simp only [imageBase, firmwareBase, if_pos h]
  split
  · split <;> decide
  · exact Nat.le_refl _

/-- What `whole` has behind `body`, its beginning, does not show in the place of the
boot footer: the sector cache holds the same. -/
def FooterKept (cached : Nat → UInt8) (body whole : List UInt8) : Prop :=
  ∀ i, body.length ≤ i → i < sizeof_tls_fwup_boot_footer → i < whole.length → whole.getD i 0 = cached i

theorem FooterKept.congr {f g : Nat → UInt8} {body whole : List UInt8} (h : FooterKept f body whole)
    (hfg : ∀ i < sizeof_tls_fwup_boot_footer, f i = g i) : FooterKept g body whole :=
  fun i hlow hfooter hi => (h i hlow hfooter hi).trans (hfg i hfooter)

theorem footerKept_self (cached : Nat → UInt8) (body : List UInt8) : FooterKept cached body body :=
  fun _ hlow _ hi => absurd hi (Nat.not_lt.mpr hlow)

theorem writtenFooter_append_iff {base : Nat} {fls : Fls} {body : List UInt8} (rest : List UInt8) :
    writtenFooter base fls (body ++ rest) = writtenFooter base fls body ↔
      (base = 0 → FooterKept fls.cached body (body ++ rest)) := by
  by_cases hbase : base = 0
  · rw [writtenFooter, if_pos hbase, writtenFooter, if_pos hbase]
    constructor
    · intro h _ i hlow hfooter hi
      have hat := List.map_inj_left.mp h i (List.mem_range.mpr hfooter)
      rwa [if_pos hi, if_neg (Nat.not_lt.mpr hlow)] at hat
    · intro h
      refine List.map_congr_left fun i hi => ?_
      by_cases hlow : i < body.length
      · rw [if_pos hlow, if_pos (by rw [List.length_append]; omega), List.getD_append _ _ _ _ hlow]
      · rw [if_neg hlow]
        split
        · exact h hbase i (Nat.not_lt.mp hlow) (List.mem_range.mp hi) ‹_›
        · rfl
  · rw [writtenFooter, if_neg hbase, writtenFooter, if_neg hbase]
    exact iff_of_true rfl fun h => absurd h hbase

/-- Bytes behind a complete image matter where they show in the place of the boot
footer only. -/
theorem bodyOutcome_append_iff {hdr : tls_fwup_image_hdr} {fls : Fls} {body rest : List UInt8}
    (hlast : rest ≠ [] → body ≠ [] ∧ hdr.file_len ≤ body.length) :
    bodyOutcome hdr fls body = bodyOutcome hdr fls (body ++ rest) ↔
      (imageBase fls.flash hdr = 0 → FooterKept fls.cached body (body ++ rest)) := by
  by_cases hnil : rest = []
  · rw [hnil, List.append_nil]
    exact iff_of_true rfl fun _ => footerKept_self _ _
  obtain ⟨hne, hlast⟩ := hlast hnil
  have hne' : body ++ rest ≠ [] := by simp [hne]
  have hmore : ¬ (body ++ rest).length < hdr.file_len := by
    rw [List.length_append]
    omega
  rw [bodyOutcome, if_neg hne, if_neg (Nat.not_lt.mpr hlast), bodyOutcome, if_neg hne', if_neg hmore,
    List.take_append_of_le_length hlast, ← writtenFooter_append_iff]
  constructor
  · intro h
    have hfooter := congrArg FwupOutcome.boot_footer h
    by_cases hfirmware : hdr.dest_specific = TLS_FWUP_DEST_SPECIFIC_FIRMWARE
    · -- a firmware does not go to the start of the chip
      have hbase := le_imageBase fls.flash hfirmware
      refine (writtenFooter_append_iff rest).mpr fun hzero => ?_
      rw [hzero] at hbase
      exact absurd hbase (by decide)
    · simp only [checkedOutcome] at hfooter
      split at hfooter
      · exact hfooter.symm
      · simpa only [if_neg hfirmware] using hfooter.symm
  · intro h
    rw [h]

/-- A device that is reset without having checked the image has got a header for
an empty body, and nothing behind it. -/
theorem bodyOutcome_reset {hdr : tls_fwup_image_hdr} {fls : Fls} {body : List UInt8}
    (hstate : (bodyOutcome hdr fls body).current_state = TLS_FWUP_STATE.none)
    (hreset : (bodyOutcome hdr fls body).reset = true) :
    body = [] ∧ hdr.file_len = 0 ∧ (bodyOutcome hdr fls body).current_hdr = hdr := by
  rw [bodyOutcome] at hstate hreset ⊢
  by_cases hnil : body = []
  · rw [if_pos hnil] at hreset ⊢
    exact ⟨hnil, of_decide_eq_true hreset, rfl⟩
  · rw [if_neg hnil] at hstate hreset
    by_cases hmore : body.length < hdr.file_len
    · rw [if_pos hmore] at hreset
      cases hreset
    · rw [if_neg hmore, checkedOutcome] at hstate
      split at hstate <;> cases hstate

/-- What an update from source `src` with `image` does, when the driver is in
state `fls`. An image with a wrong magic is refused. -/
def updateOutcome (src : tls_fwup_image_src) (fls : Fls) (image : List UInt8) : FwupOutcome :=
  let hdr := imageHeader src image
  if validMagic hdr = false then
    ⟨flashBytes fls.flash (imageBase fls.flash hdr) hdr.file_len, hdr, footerBytes fls.flash,
      { TLS_FWUP_STATE.none with ERROR_SIGNATURE := true }, true⟩
  else bodyOutcome hdr fls (image.drop sizeof_tls_fwup_image_hdr)

variable {env : FwupEnv}

theorem run_callFls {α : Type} {x : Prog Fls α} {s : Fwup} {a : α} {fls : Fls}
    (h : x.run s.fls = .ok (a, fls)) : (callFls x).run s = .ok (a, s.withFls fls) :=
  run_zoom h

/-- Reading back gives the CRC and the checksum of what the chip holds. -/
theorem run_verifyLoop (henv : env.toFlsEnv.Reliable) {s : Fwup} {base fuel : Nat} (offset left sum : Nat)
    (buffer_t : Mem 1024) (hlock : s.fls.fls_lock = 1) (hchip : base + (offset + left) ≤ TOTAL_SIZE)
    (hfuel : left ≤ fuel) (hoffset : offset % 1024 = 0 ∨ left = 0)
    (hsum : offset ≠ 0 → sum = (words (flashBytes s.fls.flash base offset)).sum) :
    ∃ ops, (verifyLoop env base fuel offset left buffer_t
        (calculate_crc8 0 (flashBytes s.fls.flash base offset)) sum
        (imageChecksum (flashBytes s.fls.flash base offset))).run s =
      .ok (.ok (calculate_crc8 0 (flashBytes s.fls.flash base (offset + left)),
        imageChecksum (flashBytes s.fls.flash base (offset + left))),
        s.withFls (s.fls.withChip s.fls.flash ops)) := by
  induction fuel generalizing offset left sum buffer_t s with
  | zero =>
    obtain rfl : left = 0 := by omega
    exact ⟨s.fls.operations, rfl⟩
  | succ fuel ih =>
    by_cases hleft : left = 0
    · subst hleft
      exact ⟨s.fls.operations, rfl⟩
    · have htotal : TOTAL_SIZE = 1048576 := rfl
      generalize hround : (if left > 1024 then 1024 else left) = len
      have hlen : 0 < len ∧ len ≤ left ∧ len ≤ 1024 ∧ (len = 1024 ∨ left - len = 0) := by
        split at hround <;> omega
      obtain ⟨hpos, hle, hmax, hend⟩ := hlen
      have hread := run_callFls (s := s) (run_fls_read henv hlock (a := base + offset)
        (Nat.ne_of_gt hpos) (by omega))
      have haddr : u32 (base + offset) = base + offset := u32_of_lt (by omega)
      change _ = Except.ok ((TLS_FLS_STATUS_OK, flashBytes s.fls.flash (base + offset) len), _) at hread
      obtain ⟨m, hstore, hm⟩ := @Mem.store_spec _ buffer_t 0
        (flashBytes s.fls.flash (base + offset) len) (by rw [length_flashBytes]; omega)
      have htake : m.bytes.take len = flashBytes s.fls.flash (base + offset) len := by
        have := take_patch_zero buffer_t.bytes (flashBytes s.fls.flash (base + offset) len)
        rwa [← hm, length_flashBytes] at this
      have happend := flashBytes_add s.fls.flash base offset len
      have hwords : (words (flashBytes s.fls.flash base (offset + len))).sum =
          (if offset = 0 then 0 else sum) + (words (flashBytes s.fls.flash (base + offset) len)).sum := by
        rw [happend, words_append (by rw [length_flashBytes]; omega), List.sum_append]
        split
        · subst offset
          rfl
        · rw [hsum ‹_›]
      have hne : flashBytes s.fls.flash base (offset + len) ≠ [] := by
        intro h
        have := congrArg List.length h
        rw [length_flashBytes, List.length_nil] at this
        omega
      have hchecksum : checksum (words (flashBytes s.fls.flash base (offset + len))).sum =
          imageChecksum (flashBytes s.fls.flash base (offset + len)) := by
        rw [imageChecksum, if_neg hne]
      obtain ⟨ops, hrest⟩ := ih (offset + len) (left - len)
        (words (flashBytes s.fls.flash base (offset + len))).sum m
        (s := s.withFls (s.fls.withChip s.fls.flash (s.fls.operations + 1))) hlock (by omega)
        (by omega) (by omega) (fun _ => rfl)
      refine ⟨ops, ?_⟩
      simp only [verifyLoop, if_neg hleft, hround, run_bind, haddr, hread, ok_bind, ne_eq, not_true,
        ↓reduceIte, hstore, run_lift_ok, htake, hchecksum, ← hwords, ← calculate_crc8_append, ← happend]
      rw [Nat.add_assoc, Nat.add_sub_cancel' hle] at hrest
      exact hrest

theorem flashBytes_eq_take {flash : Nat → UInt8} {base len : Nat} {d : List UInt8}
    (h : ∀ i < d.length, flash (base + i) = d.getD i 0) (hlen : len ≤ d.length) :
    flashBytes flash base len = d.take len := by
  refine List.ext_getElem (by simp [hlen]) fun i hi _ => ?_
  rw [length_flashBytes] at hi
  have hid : i < d.length := Nat.lt_of_lt_of_le hi hlen
  simp [flashBytes, h i hid, List.getD_eq_getElem?_getD, List.getElem?_eq_getElem hid]

theorem imageBase_mod (flash : Nat → UInt8) (hdr : tls_fwup_image_hdr) :
    imageBase flash hdr % SECTOR_SIZE = 0 := by
  simp only [imageBase, firmwareBase]
  split
  · split
    · split <;> rfl
    · rfl
  · exact Nat.mul_mod_left ..

end ZCloud
