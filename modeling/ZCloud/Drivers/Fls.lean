import ZCloud.Common

open Memory Program

namespace ZCloud

/-- The status codes of the flash driver. -/
inductive TLS_FLS_STATUS where
  | TLS_FLS_STATUS_OK
  | TLS_FLS_STATUS_EINVAL
  | TLS_FLS_STATUS_EPERM
  | TLS_FLS_STATUS_ENOMEM
  | TLS_FLS_STATUS_EIO
deriving DecidableEq, Repr

export TLS_FLS_STATUS (TLS_FLS_STATUS_OK TLS_FLS_STATUS_EINVAL TLS_FLS_STATUS_EPERM
  TLS_FLS_STATUS_ENOMEM TLS_FLS_STATUS_EIO)

/-- The GD25Q80 chip. -/
def TOTAL_SIZE : Nat := 0x100000
def PAGE_SIZE : Nat := 256
def PROGRAM_SIZE : Nat := 256
def SECTOR_SIZE : Nat := 4096
def FLASH_PID : Nat := 0x13C8

/-- What the driver and the heap do. `io n` is the outcome of the `n`-th driver
operation: success, or `EIO` and what the bytes it was about then hold. `alloc n`
says whether the `n`-th allocation succeeds and `heap n` what the memory holds. -/
structure FlsEnv where
  io : Nat → Option (Nat → UInt8)
  alloc : Nat → Bool
  heap : Nat → UInt8

/-- The chip and the state of the flash driver once it has been installed.
`operations` and `allocations` count the driver operations and allocations
made, and `flushed` are the sectors that the sector cache has been written to,
the last first. -/
structure Fls where
  flash : Nat → UInt8
  gsflscache : Option (Mem SECTOR_SIZE)
  gsSecOffset : Nat
  gsSector : Nat
  fls_lock : Nat
  operations : Nat
  allocations : Nat
  flushed : List Nat

/-- Takes the lock, if it is free. -/
def acquireLock : Prog Fls Unit := do
  let s ← get
  if s.fls_lock = 0 then throw .wait
  set { s with fls_lock := s.fls_lock - 1 }

def releaseLock : Prog Fls Unit :=
  modify fun s => { s with fls_lock := s.fls_lock + 1 }

/-- The chip with `f` in place of the `len` bytes from address `addr` on. -/
def rewrite (flash : Nat → UInt8) (addr len : Nat) (f : Nat → UInt8) : Nat → UInt8 :=
  fun a => if addr ≤ a ∧ a < addr + len then f (a - addr) else flash a

section

variable (env : FlsEnv)

/-- The outcome of the next driver operation. -/
def nextIo : Prog Fls (Option (Nat → UInt8)) := do
  let s ← get
  set { s with operations := s.operations + 1 }
  return env.io s.operations

def tls_mem_alloc : Prog Fls Bool := do
  let s ← get
  set { s with allocations := s.allocations + 1 }
  return env.alloc s.allocations

def gd25qxx_read (addr len : Nat) : Prog Fls (TLS_FLS_STATUS × List UInt8) := do
  let s ← get
  match ← nextIo env with
  | some left => return ( TLS_FLS_STATUS_EIO, (List.range len).map left)
  | none => return (TLS_FLS_STATUS_OK, (List.range len).map fun i => s.flash ((addr + i) % TOTAL_SIZE))

/-- Programming clears bits of a page and sets none. -/
def gd25qxx_page_write (page : Nat) (buf : List UInt8) : Prog Fls TLS_FLS_STATUS := do
  let addr := page * PAGE_SIZE % TOTAL_SIZE
  match ← nextIo env with
  | some left =>
    modify fun s => { s with flash := rewrite s.flash addr PAGE_SIZE left }
    return TLS_FLS_STATUS_EIO
  | none =>
    modify fun s =>
      { s with flash := rewrite s.flash addr PAGE_SIZE fun i => s.flash (addr + i) &&& buf.getD i 0 }
    return TLS_FLS_STATUS_OK

/-- Erasing sets every bit of a sector. -/
def gd25qxx_erase (sector : Nat) : Prog Fls TLS_FLS_STATUS := do
  let addr := sector * SECTOR_SIZE % TOTAL_SIZE
  match ← nextIo env with
  | some left =>
    modify fun s => { s with flash := rewrite s.flash addr SECTOR_SIZE left }
    return TLS_FLS_STATUS_EIO
  | none =>
    modify fun s => { s with flash := rewrite s.flash addr SECTOR_SIZE fun _ => 0xff }
    return TLS_FLS_STATUS_OK

def tls_fls_read (addr len : Nat) : Prog Fls (TLS_FLS_STATUS × List UInt8) := do
  if addr ≥ TOTAL_SIZE ∨ len = 0 then
    return (TLS_FLS_STATUS_EINVAL, [])
  acquireLock
  let read_bytes := if u32 (addr + len) > TOTAL_SIZE then TOTAL_SIZE - addr else len
  let r ← gd25qxx_read env addr read_bytes
  releaseLock
  return r

/-- Writes the pages of `buf` from page `page` on, `count` of them, until one
fails. -/
def writePages (page : Nat) : Nat → List UInt8 → Prog Fls TLS_FLS_STATUS
  | 0, _ => return TLS_FLS_STATUS_OK
  | count + 1, buf => do
    let err ← gd25qxx_page_write env page (buf.take PAGE_SIZE)
    if err ≠ TLS_FLS_STATUS_OK then
      return err
    writePages (page + 1) count (buf.drop PAGE_SIZE)

def tls_fls_page_write (page : Nat) (buf : List UInt8) (page_cnt : Nat) :
    Prog Fls TLS_FLS_STATUS := do
  if page ≥ TOTAL_SIZE / PAGE_SIZE ∨ page_cnt = 0 then
    return TLS_FLS_STATUS_EINVAL
  let write_pages :=
    if page + page_cnt > TOTAL_SIZE / PAGE_SIZE then TOTAL_SIZE / PAGE_SIZE - page else page_cnt
  writePages env page write_pages buf

/-- The sectors of a write: `i` of the `sector_num` have been written and `buf`,
of which `write_bytes` bytes count, is still to be. -/
def writeSectors (addr sector_addr sector_num : Nat) : (left i : Nat) → (cache : Mem SECTOR_SIZE) →
    (buf : List UInt8) → (write_bytes : Nat) → Prog Fls TLS_FLS_STATUS
  | 0, _, _, _, _ => return TLS_FLS_STATUS_OK
  | left + 1, i, cache, buf, write_bytes => do
    let (err, bytes) ← gd25qxx_read env (u32 ((sector_addr + i) * SECTOR_SIZE)) SECTOR_SIZE
    if err ≠ TLS_FLS_STATUS_OK then
      releaseLock
      return err
    let cache ← cache.store 0 bytes
    let off := addr % SECTOR_SIZE
    let (cache, used) ←
      if i = 0 ∧ i ≠ sector_num - 1 then
        pure (← cache.memcpy off buf (SECTOR_SIZE - off), SECTOR_SIZE - off)
      else if i = sector_num - 1 then
        pure (← cache.memcpy off buf write_bytes, write_bytes)
      else
        pure (← cache.memcpy 0 buf SECTOR_SIZE, SECTOR_SIZE)
    let err ← gd25qxx_erase env (sector_addr + i)
    if err ≠ TLS_FLS_STATUS_OK then
      releaseLock
      return err
    let err ← tls_fls_page_write env ((sector_addr + i) * (SECTOR_SIZE / PAGE_SIZE)) cache.bytes
      (SECTOR_SIZE / PAGE_SIZE)
    if err ≠ TLS_FLS_STATUS_OK then
      releaseLock
      return err
    writeSectors addr sector_addr sector_num left (i + 1) cache (buf.drop used) (write_bytes - used)

def tls_fls_write (addr : Nat) (buf : List UInt8) : Prog Fls TLS_FLS_STATUS := do
  let len := buf.length
  if addr ≥ TOTAL_SIZE ∨ len = 0 then
    return TLS_FLS_STATUS_EINVAL
  acquireLock
  let write_bytes := if u32 (addr + len) > TOTAL_SIZE then TOTAL_SIZE - addr else len
  let sector_addr := addr / SECTOR_SIZE
  let sector_num := u32 (u32Sub (addr + write_bytes) 1 / SECTOR_SIZE + 4294967296 - sector_addr + 1)
  if !(← tls_mem_alloc env) then
    releaseLock
    return TLS_FLS_STATUS_ENOMEM
  -- an error inside the loop has released the lock already
  let err ← writeSectors env addr sector_addr sector_num sector_num 0 (Mem.fill SECTOR_SIZE 0) buf
    write_bytes
  releaseLock
  return err

/-- Writes the sector cache to the chip, whatever comes of it. -/
def tls_fls_flush_sector (cache : Mem SECTOR_SIZE) : Prog Fls Unit := do
  let s ← get
  let _ ← gd25qxx_erase env s.gsSector
  let _ ← tls_fls_page_write env (s.gsSector * (SECTOR_SIZE / PAGE_SIZE)) cache.bytes
    (SECTOR_SIZE / PAGE_SIZE)
  modify fun s => { s with gsSecOffset := 0, flushed := s.gsSector :: s.flushed }

def tls_fls_fast_write_init : Prog Fls Unit := do
  if (← get).gsflscache.isSome then
    return
  if ← tls_mem_alloc env then
    modify fun s => { s with gsflscache := some ⟨(List.range SECTOR_SIZE).map env.heap, by simp⟩ }

def tls_fls_fast_write_destroy : Prog Fls Unit := do
  match (← get).gsflscache with
  | none => return
  | some cache =>
    tls_fls_flush_sector env cache
    modify fun s => { s with gsflscache := none }

/-- One round of the copying loop: `len` bytes go to the sector cache, which is
written to the chip when it has taken as many bytes as a sector has. -/
def cacheBytes (offset : Nat) (buf : List UInt8) (len : Nat) : Prog Fls Unit := do
  match (← get).gsflscache with
  | none => throw .null
  | some cache =>
    let cache ← cache.memcpy offset buf len
    modify fun s => { s with gsflscache := some cache, gsSecOffset := u32 (s.gsSecOffset + len) }
    if (← get).gsSecOffset ≥ SECTOR_SIZE then
      tls_fls_flush_sector env cache
      modify fun s => { s with gsSector := u32 (s.gsSector + 1) }

/-- The copying loop of `tls_fls_fast_write`, for at most `fuel` rounds. Every
round but the first begins at the start of a sector. -/
def fastWriteLoop : (fuel : Nat) → (offset : Nat) → (buf : List UInt8) → Prog Fls Unit
  | 0, _, _ => return
  | fuel + 1, offset, buf => do
    if buf.length = 0 then
      return
    let maxlen := SECTOR_SIZE - offset
    let len := if buf.length > maxlen then maxlen else buf.length
    cacheBytes env offset buf len
    fastWriteLoop fuel 0 (buf.drop len)

/-- Writes the cache to the chip if it holds bytes of a sector other than
`sector`. -/
def flushOther (sector : Nat) : Prog Fls Unit := do
  let s ← get
  if sector ≠ s.gsSector ∧ s.gsSecOffset ≠ 0 then
    match s.gsflscache with
    | none => throw .null
    | some cache => tls_fls_flush_sector env cache

def tls_fls_fast_write (addr : Nat) (buf : List UInt8) : Prog Fls TLS_FLS_STATUS := do
  let length := buf.length
  if addr ≥ TOTAL_SIZE ∨ length = 0 then
    return TLS_FLS_STATUS_EINVAL
  acquireLock
  let sector := addr / SECTOR_SIZE
  flushOther env sector
  modify fun s => { s with gsSector := sector }
  fastWriteLoop env length (addr % SECTOR_SIZE) buf
  releaseLock
  return TLS_FLS_STATUS_OK

def tls_fls_erase (sector : Nat) : Prog Fls TLS_FLS_STATUS := do
  if sector ≥ TOTAL_SIZE / SECTOR_SIZE then
    return TLS_FLS_STATUS_EINVAL
  acquireLock
  let err ← gd25qxx_erase env sector
  releaseLock
  return err

end

/-- The parameters of the chip, by their types. -/
def flsParam (type : UInt8) : Option Nat := [FLASH_PID, TOTAL_SIZE, PAGE_SIZE, PROGRAM_SIZE, SECTOR_SIZE][type.toNat]?

/-- What `param` points to, if it points to anything, is overwritten for a type that there is. -/
def tls_fls_get_param (type : UInt8) (param : Option Nat) : Prog Fls (TLS_FLS_STATUS × Option Nat) := do
  match param with
  | none => return (TLS_FLS_STATUS_EINVAL, none)
  | some old =>
    acquireLock
    let r := match flsParam type with
      | some value => (TLS_FLS_STATUS_OK, some value)
      | none => (TLS_FLS_STATUS_EINVAL, some old)
    releaseLock
    return r

end ZCloud
