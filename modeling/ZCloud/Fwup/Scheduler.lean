import ZCloud.Crc
import ZCloud.Drivers.Fls

open Memory Program

namespace ZCloud

inductive TLS_FWUP_STATUS where
  | TLS_FWUP_STATUS_OK
  | TLS_FWUP_STATUS_EINVALID
  | TLS_FWUP_STATUS_EMEM
  | TLS_FWUP_STATUS_EPERM
  | TLS_FWUP_STATUS_EBUSY
  | TLS_FWUP_STATUS_ESESSIONID
  | TLS_FWUP_STATUS_EIO
  | TLS_FWUP_STATUS_ESIGNATURE
  | TLS_FWUP_STATUS_ECRC
  | TLS_FWUP_STATUS_EUNDEF
deriving DecidableEq, Repr

export TLS_FWUP_STATUS (TLS_FWUP_STATUS_OK TLS_FWUP_STATUS_EINVALID TLS_FWUP_STATUS_EMEM
  TLS_FWUP_STATUS_EPERM TLS_FWUP_STATUS_EBUSY TLS_FWUP_STATUS_ESESSIONID TLS_FWUP_STATUS_EIO
  TLS_FWUP_STATUS_ESIGNATURE TLS_FWUP_STATUS_ECRC TLS_FWUP_STATUS_EUNDEF)

/-- The `int` that stands for a status. -/
def TLS_FWUP_STATUS.code : TLS_FWUP_STATUS → Int
  | TLS_FWUP_STATUS_OK => 0
  | TLS_FWUP_STATUS_EINVALID => 1
  | TLS_FWUP_STATUS_EMEM => 2
  | TLS_FWUP_STATUS_EPERM => 3
  | TLS_FWUP_STATUS_EBUSY => 4
  | TLS_FWUP_STATUS_ESESSIONID => 5
  | TLS_FWUP_STATUS_EIO => 6
  | TLS_FWUP_STATUS_ESIGNATURE => 7
  | TLS_FWUP_STATUS_ECRC => 8
  | TLS_FWUP_STATUS_EUNDEF => 9

/-- What the scheduler makes of a request. -/
inductive TLS_FWUP_REQ_STATUS where
  | TLS_FWUP_REQ_STATUS_SUCCESS
  | TLS_FWUP_REQ_STATUS_FIO
  | TLS_FWUP_REQ_STATUS_FSIGNATURE
  | TLS_FWUP_REQ_STATUS_FMEM
  | TLS_FWUP_REQ_STATUS_FCRC
  | TLS_FWUP_REQ_STATUS_FCOMPLETE
deriving DecidableEq, Repr

export TLS_FWUP_REQ_STATUS (TLS_FWUP_REQ_STATUS_SUCCESS TLS_FWUP_REQ_STATUS_FIO
  TLS_FWUP_REQ_STATUS_FSIGNATURE TLS_FWUP_REQ_STATUS_FMEM TLS_FWUP_REQ_STATUS_FCRC
  TLS_FWUP_REQ_STATUS_FCOMPLETE)

/-- What `tls_fwup_request_sync` returns for a request that has been handled. -/
def TLS_FWUP_REQ_STATUS.result : TLS_FWUP_REQ_STATUS → TLS_FWUP_STATUS
  | TLS_FWUP_REQ_STATUS_SUCCESS => TLS_FWUP_STATUS_OK
  | TLS_FWUP_REQ_STATUS_FIO => TLS_FWUP_STATUS_EIO
  | TLS_FWUP_REQ_STATUS_FSIGNATURE => TLS_FWUP_STATUS_ESIGNATURE
  | TLS_FWUP_REQ_STATUS_FMEM => TLS_FWUP_STATUS_EMEM
  | TLS_FWUP_REQ_STATUS_FCRC => TLS_FWUP_STATUS_ECRC
  | TLS_FWUP_REQ_STATUS_FCOMPLETE => TLS_FWUP_STATUS_EIO

inductive tls_fwup_image_src where
  | TLS_FWUP_IMAGE_SRC_LUART
  | TLS_FWUP_IMAGE_SRC_HUART
  | TLS_FWUP_IMAGE_SRC_HSPI
  | TLS_FWUP_IMAGE_SRC_WEB
deriving DecidableEq, Repr

export tls_fwup_image_src (TLS_FWUP_IMAGE_SRC_LUART TLS_FWUP_IMAGE_SRC_HUART
  TLS_FWUP_IMAGE_SRC_HSPI TLS_FWUP_IMAGE_SRC_WEB)

/-- The bits of `current_state`. -/
structure TLS_FWUP_STATE where
  BUSY : Bool
  COMPLETE : Bool
  ERROR_IO : Bool
  ERROR_SIGNATURE : Bool
  ERROR_MEM : Bool
  ERROR_CRC : Bool
deriving DecidableEq, Repr

def TLS_FWUP_STATE.none : TLS_FWUP_STATE := ⟨false, false, false, false, false, false⟩

/-- The request status for the first error bit that is set. -/
def TLS_FWUP_STATE.ERROR (s : TLS_FWUP_STATE) : Option TLS_FWUP_REQ_STATUS :=
  if s.ERROR_IO then some TLS_FWUP_REQ_STATUS_FIO
  else if s.ERROR_SIGNATURE then some TLS_FWUP_REQ_STATUS_FSIGNATURE
  else if s.ERROR_MEM then some TLS_FWUP_REQ_STATUS_FMEM
  else if s.ERROR_CRC then some TLS_FWUP_REQ_STATUS_FCRC
  else Option.none

def TLS_FWUP_BOOT_IMAGE_SIGNATURE_WORD : Nat := 0xa0ffff9f
def TLS_FWUP_IMAGE_SIGNATURE_WORD : Nat := 0x64365577
def TLS_FWUP_IMAGE_SIGNATURE_WORD_B : Nat := 0x62161900
def TLS_FWUP_BLK_SIZE : Nat := 512
def TLS_FWUP_DEST_SPECIFIC_FIRMWARE : UInt8 := 0
def TLS_FLASH_BOOT_FOOTER_ADDR : Nat := 0
def TLS_FLASH_FIRMWARE1_ADDR : Nat := 0x3000
def TLS_FLASH_FIRMWARE2_ADDR : Nat := 0x4e000
def TLS_SRAM_FIRMWARE_EXEC_ADDR : Nat := 0x400

def sizeof_tls_fwup_image_hdr : Nat := 16

/-- `struct tls_fwup_image_hdr`, as its bytes. -/
abbrev tls_fwup_image_hdr := Mem sizeof_tls_fwup_image_hdr

namespace tls_fwup_image_hdr

def magic (hdr : tls_fwup_image_hdr) : Nat := number (hdr.bytes.take 4)
def crc8 (hdr : tls_fwup_image_hdr) : UInt8 := hdr.bytes.getD 4 0
def dest_specific (hdr : tls_fwup_image_hdr) : UInt8 := hdr.bytes.getD 5 0
def dest_offset (hdr : tls_fwup_image_hdr) : Nat := number ((hdr.bytes.drop 6).take 2)
def file_len (hdr : tls_fwup_image_hdr) : Nat := number ((hdr.bytes.drop 8).take 4)

end tls_fwup_image_hdr

def swap_16 (v : Nat) : Nat := v % 256 * 256 + v / 256 % 256

def swap_32 (v : Nat) : Nat :=
  v % 256 * 16777216 + v / 256 % 256 * 65536 + v / 65536 % 256 * 256 + v / 16777216 % 256

structure tls_fwup_boot_footer where
  base : Nat
  length : Nat
  load_address : Nat
  exec_address : Nat
  name : List UInt8
  signature : Nat
  type : Nat
  image_checksum : Nat

def sizeof_tls_fwup_boot_footer : Nat := 44

/-- `"cuckoo"`, filled up with zeros. -/
def footerName : List UInt8 :=
  [0x63, 0x75, 0x63, 0x6b, 0x6f, 0x6f, 0, 0, 0, 0, 0, 0, 0, 0, 0, 0]

def tls_fwup_boot_footer.toBytes (footer : tls_fwup_boot_footer) : List UInt8 :=
  bytesU32 footer.base ++ bytesU32 footer.length ++ bytesU32 footer.load_address ++
    bytesU32 footer.exec_address ++ footer.name ++ bytesU32 footer.signature ++
    bytesU32 footer.type ++ bytesU32 footer.image_checksum

/-- What the memory allocator and the operating system do for an update:
`sem n` says whether the `n`-th semaphore can be created. -/
structure FwupEnv extends FlsEnv where
  sem : Nat → Bool

/-- A write of the boot footer, with what the chip and the update were like when
it began. -/
structure FooterWrite where
  footer : tls_fwup_boot_footer
  flash : Nat → UInt8
  program_base : Nat
  total_len : Nat
  current_hdr : tls_fwup_image_hdr
  current_state : TLS_FWUP_STATE

/-- The globals of the firmware update. `installed` is false while `fwup` is
`NULL`, `resetting` is set by `tls_sys_reset`, and `footers` are the writes of
the boot footer, the last first. -/
structure Fwup where
  fls : Fls
  installed : Bool
  busy : Bool
  current_image_src : tls_fwup_image_src
  current_state : TLS_FWUP_STATE
  current_session_id : Nat
  received_len : Nat
  total_len : Nat
  updated_len : Nat
  program_base : Nat
  program_offset : Nat
  current_hdr : tls_fwup_image_hdr
  semaphores : Nat
  resetting : Bool
  footers : List FooterWrite

def Fwup.withFls (s : Fwup) (fls : Fls) : Fwup := { s with fls := fls }

/-- Notes that the boot footer is about to be written. -/
def Fwup.commit (s : Fwup) (footer : tls_fwup_boot_footer) : Fwup :=
  { s with
    footers :=
      ⟨footer, s.fls.flash, s.program_base, s.total_len, s.current_hdr, s.current_state⟩ :: s.footers }

/-- Calls of the flash driver. -/
def callFls {α : Type} (x : Prog Fls α) : Prog Fwup α := zoom Fwup.fls Fwup.withFls x

def setError (f : TLS_FWUP_STATE → TLS_FWUP_STATE) : Prog Fwup Unit :=
  modify fun s => { s with current_state := f s.current_state }

/-- Arms the watchdog. -/
def tls_sys_reset : Prog Fwup Unit :=
  modify fun s => { s with resetting := true }

section

variable (env : FwupEnv)

/-- Where a firmware goes: to the area that the boot footer does not name. -/
def firmwareBase (footer : List UInt8) : Nat :=
  if number (footer.take 4) = TLS_FLASH_FIRMWARE1_ADDR then TLS_FLASH_FIRMWARE2_ADDR
  else TLS_FLASH_FIRMWARE1_ADDR

/-- The signature of a boot footer. -/
def footerSignature (footer : List UInt8) : Nat := number ((footer.drop 32).take 4)

/-- The first block of an image from the low speed UART, which has no header:
one is made up. -/
def firstBlock (data : List UInt8) : Prog Fwup (Option TLS_FWUP_REQ_STATUS) := do
  let (err, footer) ← callFls (tls_fls_read env.toFlsEnv TLS_FLASH_BOOT_FOOTER_ADDR
    sizeof_tls_fwup_boot_footer)
  if err ≠ TLS_FLS_STATUS_OK then
    setError fun st => { st with ERROR_IO := true }
    return some TLS_FWUP_REQ_STATUS_FIO
  let total_len := (← loadU16 data 2) * TLS_FWUP_BLK_SIZE
  let hdr ← (Mem.fill sizeof_tls_fwup_image_hdr 0).store 8 (bytesU32 total_len)
  modify fun s => { s with
    program_base := firmwareBase footer, total_len := total_len, updated_len := 0, current_hdr := hdr }
  return none

/-- The beginning of a request from the low speed UART, a block of the image. -/
def takeBlock (data : List UInt8) : Prog Fwup (Except TLS_FWUP_REQ_STATUS (List UInt8)) := do
  match ← if (← loadU16 data 0) = 0 then firstBlock env data else pure none with
  | some status => return .error status
  | none =>
    modify fun s => { s with received_len := u32 (s.received_len + data.length) }
    let buffer ← load data 4 TLS_FWUP_BLK_SIZE
    let hdr := (← get).current_hdr
    let hdr ← hdr.store 4 [calculate_crc8 (tls_fwup_image_hdr.crc8 hdr) buffer]
    modify fun s => { s with current_hdr := hdr }
    return .ok buffer

/-- The fields of a header from the web server are in network order. -/
def swapHeader (hdr : tls_fwup_image_hdr) : tls_fwup_image_hdr where
  bytes := bytesU32 (swap_32 hdr.magic) ++ (hdr.bytes.drop 4).take 2 ++ bytesU16 (swap_16 hdr.dest_offset) ++
    bytesU32 (swap_32 hdr.file_len) ++ hdr.bytes.drop 12
  size := by simp [sizeof_tls_fwup_image_hdr]

def validMagic (hdr : tls_fwup_image_hdr) : Bool :=
  hdr.magic = TLS_FWUP_IMAGE_SIGNATURE_WORD || hdr.magic = TLS_FWUP_IMAGE_SIGNATURE_WORD_B

/-- What follows the reception of the last byte of the header. -/
def headerReceived : Prog Fwup (Option TLS_FWUP_REQ_STATUS) := do
  let s ← get
  let hdr := if s.current_image_src = TLS_FWUP_IMAGE_SRC_WEB then swapHeader s.current_hdr
    else s.current_hdr
  modify fun s => { s with current_hdr := hdr }
  if !validMagic hdr then
    setError fun st => { st with ERROR_SIGNATURE := true }
    return some TLS_FWUP_REQ_STATUS_FSIGNATURE
  if hdr.dest_specific = TLS_FWUP_DEST_SPECIFIC_FIRMWARE then
    let (err, footer) ← callFls (tls_fls_read env.toFlsEnv TLS_FLASH_BOOT_FOOTER_ADDR
      sizeof_tls_fwup_boot_footer)
    if err ≠ TLS_FLS_STATUS_OK then
      setError fun st => { st with ERROR_IO := true }
      return some TLS_FWUP_REQ_STATUS_FIO
    modify fun s => { s with
      program_base := if footerSignature footer = TLS_FWUP_BOOT_IMAGE_SIGNATURE_WORD
        then firmwareBase footer else TLS_FLASH_FIRMWARE1_ADDR }
  else
    modify fun s => { s with program_base := hdr.dest_offset * 0x1000 }
  modify fun s => { s with updated_len := 0, total_len := hdr.file_len }
  return none

/-- The beginning of a request from any other source: the header of the image,
if it has not been received, is copied to the start of `current_hdr`. -/
def takeHeader (data : List UInt8) : Prog Fwup (Except TLS_FWUP_REQ_STATUS (List UInt8)) := do
  let s ← get
  if s.received_len < sizeof_tls_fwup_image_hdr then
    let len := sizeof_tls_fwup_image_hdr - s.received_len
    let len := if data.length < len then data.length else len
    let hdr ← s.current_hdr.memcpy 0 data len
    modify fun s => { s with current_hdr := hdr, received_len := s.received_len + len }
    let failed ← if (← get).received_len = sizeof_tls_fwup_image_hdr then headerReceived env
      else pure none
    match failed with
    | some status => return .error status
    | none =>
      let buffer := data.drop len
      modify fun s => { s with received_len := u32 (s.received_len + buffer.length) }
      return .ok buffer
  else
    modify fun s => { s with received_len := u32 (s.received_len + data.length) }
    return .ok data

/-- The loop that reads back what has been programmed: the CRC, and the
checksum of the words read so far, of which `sum` is the sum. -/
def verifyLoop (program_base : Nat) : (fuel offset left : Nat) → (buffer_t : Mem 1024) →
    (crc8 : UInt8) → (sum image_checksum : Nat) →
    Prog Fwup (Except TLS_FWUP_REQ_STATUS (UInt8 × Nat))
  | 0, _, _, _, crc8, _, image_checksum => return .ok (crc8, image_checksum)
  | fuel + 1, offset, left, buffer_t, crc8, sum, image_checksum => do
    if left = 0 then
      return .ok (crc8, image_checksum)
    let len := if left > 1024 then 1024 else left
    let (err, bytes) ← callFls (tls_fls_read env.toFlsEnv (u32 (program_base + offset)) len)
    if err ≠ TLS_FLS_STATUS_OK then
      setError fun st => { st with ERROR_IO := true }
      return .error TLS_FWUP_REQ_STATUS_FIO
    let buffer_t ← buffer_t.store 0 bytes
    let sum := (if offset = 0 then 0 else sum) + (words (buffer_t.bytes.take len)).sum
    verifyLoop program_base fuel (offset + len) (left - len) buffer_t
      (calculate_crc8 crc8 (buffer_t.bytes.take len)) sum (checksum sum)

/-- The footer that makes the boot loader start the new firmware. -/
def newFooter (base length image_checksum : Nat) : tls_fwup_boot_footer where
  base := base
  length := length
  load_address := TLS_SRAM_FIRMWARE_EXEC_ADDR
  exec_address := TLS_SRAM_FIRMWARE_EXEC_ADDR
  name := footerName
  signature := TLS_FWUP_BOOT_IMAGE_SIGNATURE_WORD
  type := 4
  image_checksum := image_checksum

/-- The end of the check, given the CRC and the checksum of what has been read
back. -/
def acceptImage (crc8 : UInt8) (image_checksum : Nat) : Prog Fwup TLS_FWUP_REQ_STATUS := do
  let s ← get
  if s.current_hdr.crc8 ≠ crc8 then
    setError fun st => { st with ERROR_CRC := true }
    return TLS_FWUP_REQ_STATUS_FCRC
  if s.current_hdr.dest_specific = TLS_FWUP_DEST_SPECIFIC_FIRMWARE then
    let footer := newFooter s.program_base s.total_len image_checksum
    modify fun s => s.commit footer
    let err ← callFls (tls_fls_write env.toFlsEnv TLS_FLASH_BOOT_FOOTER_ADDR footer.toBytes)
    if err ≠ TLS_FLS_STATUS_OK then
      setError fun st => { st with ERROR_IO := true }
      return TLS_FWUP_REQ_STATUS_FIO
  setError fun st => { st with COMPLETE := true }
  return TLS_FWUP_REQ_STATUS_SUCCESS

/-- What follows the programming of the last byte of the image. -/
def verifyImage : Prog Fwup TLS_FWUP_REQ_STATUS := do
  callFls (tls_fls_fast_write_destroy env.toFlsEnv)
  if !(← callFls (tls_mem_alloc env.toFlsEnv)) then
    setError fun st => { st with ERROR_MEM := true }
    return TLS_FWUP_REQ_STATUS_FMEM
  let s ← get
  match ← verifyLoop env s.program_base s.total_len 0 s.total_len
      ⟨(List.range 1024).map env.heap, by simp⟩ 0 0 0 with
  | .error status => return status
  | .ok (crc8, image_checksum) => acceptImage env crc8 image_checksum

/-- Programs the bytes `buffer` of the image. -/
def programImage (buffer : List UInt8) : Prog Fwup TLS_FWUP_REQ_STATUS := do
  if buffer.length > 0 then
    let s ← get
    let err ← callFls (tls_fls_fast_write env.toFlsEnv (u32 (s.program_base + s.program_offset)) buffer)
    if err ≠ TLS_FLS_STATUS_OK then
      setError fun st => { st with ERROR_IO := true }
      return TLS_FWUP_REQ_STATUS_FIO
    modify fun s => { s with
      program_offset := u32 (s.program_offset + buffer.length)
      updated_len := u32 (s.updated_len + buffer.length) }
    let s ← get
    if s.updated_len ≥ s.total_len then
      return ← verifyImage env
  return TLS_FWUP_REQ_STATUS_SUCCESS

/-- The body of the scheduler's loop, up to `request_finish`. -/
def handleRequest (data : List UInt8) : Prog Fwup TLS_FWUP_REQ_STATUS := do
  let s ← get
  match s.current_state.ERROR with
  | some status => return status
  | none =>
    if s.current_state.COMPLETE then
      return TLS_FWUP_REQ_STATUS_FCOMPLETE
    let taken ← if s.current_image_src = TLS_FWUP_IMAGE_SRC_LUART then takeBlock env data
      else takeHeader env data
    match taken with
    | .error status => return status
    | .ok buffer => programImage env buffer

/-- Handles the only request in the list. -/
def fwup_scheduler (data : List UInt8) : Prog Fwup TLS_FWUP_REQ_STATUS := do
  setError fun st => { st with BUSY := true }
  let status ← handleRequest env data
  setError fun st => { st with BUSY := false }
  let s ← get
  if s.updated_len ≥ s.total_len then
    tls_sys_reset
  return status

/-- Hands a request to the scheduler and waits for it to be completed. -/
def tls_fwup_request_sync (session_id : Nat) (data : List UInt8) : Prog Fwup TLS_FWUP_STATUS := do
  let s ← get
  if !s.installed then
    return TLS_FWUP_STATUS_EPERM
  if session_id ≠ s.current_session_id then
    return TLS_FWUP_STATUS_ESESSIONID
  if data.length = 0 then
    return TLS_FWUP_STATUS_EINVALID
  set { s with semaphores := s.semaphores + 1 }
  if !env.sem s.semaphores then
    return TLS_FWUP_STATUS_EMEM
  return (← fwup_scheduler env data).result

/-- The globals as `tls_fwup_enter` sets them. -/
def Fwup.enter (s : Fwup) (image_src : tls_fwup_image_src) (session_id : Nat) : Fwup :=
  { s with
    current_hdr := Mem.fill sizeof_tls_fwup_image_hdr 0
    current_state := TLS_FWUP_STATE.none
    current_image_src := image_src
    received_len := 0
    total_len := 0
    updated_len := 0
    program_base := 0
    program_offset := 0
    current_session_id := session_id
    busy := true }

/-- Opens a session. `rand` is the first number drawn that is not zero. -/
def tls_fwup_enter (image_src : tls_fwup_image_src) (rand : { n : Nat // n ≠ 0 }) : Prog Fwup Nat := do
  let s ← get
  if !s.installed || s.busy then
    return 0
  set (s.enter image_src rand)
  callFls (tls_fls_fast_write_init env.toFlsEnv)
  return rand

def tls_fwup_exit (session_id : Nat) : Prog Fwup TLS_FWUP_STATUS := do
  let s ← get
  if !s.installed || !s.busy then
    return TLS_FWUP_STATUS_EPERM
  if session_id ≠ s.current_session_id then
    return TLS_FWUP_STATUS_ESESSIONID
  if s.current_state.BUSY then
    return TLS_FWUP_STATUS_EBUSY
  set { s with
    current_hdr := Mem.fill sizeof_tls_fwup_image_hdr 0
    current_state := TLS_FWUP_STATE.none
    received_len := 0
    total_len := 0
    updated_len := 0
    program_base := 0
    program_offset := 0
    current_session_id := 0
    busy := false }
  return TLS_FWUP_STATUS_OK

/-- A change that only the owner of the session may make, and only while no request is
handled. -/
def changeSession (session_id : Nat) (change : Fwup → Fwup) : Prog Fwup TLS_FWUP_STATUS := do
  let s ← get
  if !s.installed || !s.busy then
    return TLS_FWUP_STATUS_EPERM
  if session_id ≠ s.current_session_id then
    return TLS_FWUP_STATUS_ESESSIONID
  if s.current_state.BUSY then
    return TLS_FWUP_STATUS_EBUSY
  set (change s)
  return TLS_FWUP_STATUS_OK

/-- Begins the update anew in the same session. -/
def tls_fwup_reset (session_id : Nat) : Prog Fwup TLS_FWUP_STATUS :=
  changeSession session_id fun s =>
    { s with
      current_hdr := Mem.fill sizeof_tls_fwup_image_hdr 0
      current_state := TLS_FWUP_STATE.none
      received_len := 0
      total_len := 0
      updated_len := 0
      program_base := 0
      program_offset := 0 }

def tls_fwup_clear_error (session_id : Nat) : Prog Fwup TLS_FWUP_STATUS :=
  changeSession session_id fun s =>
    { s with current_state :=
      { s.current_state with ERROR_IO := false, ERROR_SIGNATURE := false, ERROR_MEM := false, ERROR_CRC := false } }

end

end ZCloud
