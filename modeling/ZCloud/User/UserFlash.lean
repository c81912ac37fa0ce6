import ZCloud.Drivers.RandomWrite
import ZCloud.HfAdpter.Reboot

open Memory Program

namespace ZCloud

def USER_FLASH_ID1 : Nat := 0xAA555253
def USER_FLASH_ID2 : Nat := 0xC98980FF
def USER_DEVICE_NUM : Nat := 100

def sizeof_FLASH_MAC_INFO : Nat := 8
def sizeof_USER_FLASH_INFO : Nat := 808

/-- `USER_FLASH_INFO`, as its bytes: two ids, then the devices, each `valid` and its `mac`. -/
abbrev USER_FLASH_INFO := Mem sizeof_USER_FLASH_INFO

namespace USER_FLASH_INFO

def id1 (info : USER_FLASH_INFO) : Nat := number (info.bytes.take 4)
def id2 (info : USER_FLASH_INFO) : Nat := number ((info.bytes.drop 4).take 4)

/-- Where the device `i` is. -/
def device (i : Fin USER_DEVICE_NUM) : Nat := 8 + sizeof_FLASH_MAC_INFO * i

def valid (info : USER_FLASH_INFO) (i : Fin USER_DEVICE_NUM) : Nat := number ((info.bytes.drop (device i)).take 2)
def mac (info : USER_FLASH_INFO) (i : Fin USER_DEVICE_NUM) : List UInt8 := (info.bytes.drop (device i + 2)).take 6

/-- Whether a table has the two ids. -/
def good (info : USER_FLASH_INFO) : Bool := info.id1 = USER_FLASH_ID1 ∧ info.id2 = USER_FLASH_ID2

/-- The table without any device. -/
def empty : USER_FLASH_INFO where
  bytes := bytesU32 USER_FLASH_ID1 ++ bytesU32 USER_FLASH_ID2 ++ List.replicate 800 0
  size := by rw [List.length_append, List.length_append, List.length_replicate]; rfl

end USER_FLASH_INFO

/-- The chip and the globals of the table of devices; `saved` is the table that
`UserSaveFlashInfo` has written last. -/
structure UserFlash where
  fls : Fls
  gstFlashInfo : USER_FLASH_INFO
  saved : Option USER_FLASH_INFO

section

variable (env : FlsEnv)

/-- The two writes of `UserSaveFlashInfo` get the memory for their caches. -/
def UserFlash.Allocates (u : UserFlash) : Prop :=
  env.alloc u.fls.allocations = true ∧ env.alloc (u.fls.allocations + 1) = true

def UserFlash.call {α : Type} (x : Prog Fls α) : Prog UserFlash α := zoom UserFlash.fls (fun s fls => { s with fls := fls }) x

/-- Reads the table at `addr`. -/
def readInfo (addr : Nat) : Prog UserFlash Unit := do
  let (_, bytes) ← UserFlash.call (tls_fls_read env addr sizeof_USER_FLASH_INFO)
  let gstFlashInfo ← (← get).gstFlashInfo.store 0 bytes
  modify fun s => { s with gstFlashInfo := gstFlashInfo }

/-- Writes the table to `addr`. -/
def writeInfo (addr : Nat) : Prog UserFlash Unit := do
  let _ ← UserFlash.call (tls_fls_write env addr (← get).gstFlashInfo.bytes)

/-- The id at `addr`. -/
def readId (addr : Nat) : Prog UserFlash Nat := do
  let (_, bytes) ← UserFlash.call (tls_fls_read env addr 4)
  return number bytes

def UserLoadFlashInfo : Prog UserFlash Unit := do
  readInfo env USER_FLASH_PARAM1_ADDR
  if !(← get).gstFlashInfo.good then
    readInfo env USER_FLASH_PARAM2_ADDR
    if !(← get).gstFlashInfo.good then
      modify fun s => { s with gstFlashInfo := USER_FLASH_INFO.empty }
      writeInfo env USER_FLASH_PARAM1_ADDR
      writeInfo env USER_FLASH_PARAM2_ADDR
    else
      writeInfo env USER_FLASH_PARAM1_ADDR
  else
    let id1 ← readId env USER_FLASH_PARAM2_ADDR
    let id2 ← readId env (USER_FLASH_PARAM2_ADDR + 4)
    if id1 ≠ USER_FLASH_ID1 ∨ id2 ≠ USER_FLASH_ID2 then
      writeInfo env USER_FLASH_PARAM2_ADDR

def UserSaveFlashInfo : Prog UserFlash Unit := do
  writeInfo env USER_FLASH_PARAM1_ADDR
  writeInfo env USER_FLASH_PARAM2_ADDR
  modify fun s => { s with saved := some s.gstFlashInfo }

/-- The first free place. -/
def freePlace (info : USER_FLASH_INFO) : Option (Fin USER_DEVICE_NUM) :=
  (List.finRange USER_DEVICE_NUM).find? fun i => info.valid i = 0

/-- The first device with an address. -/
def placeOf (info : USER_FLASH_INFO) (mac : Mem 6) : Option (Fin USER_DEVICE_NUM) :=
  (List.finRange USER_DEVICE_NUM).find? fun i => info.mac i = mac.bytes

/-- Writes `valid` and `mac` of the device at a place, if there is one, and saves the table. -/
def saveDevice (place : Option (Fin USER_DEVICE_NUM)) (entry : List UInt8) : Prog UserFlash Int := do
  match place with
  | none => return -1
  | some i =>
    let gstFlashInfo ← (← get).gstFlashInfo.store (USER_FLASH_INFO.device i) entry
    modify fun s => { s with gstFlashInfo := gstFlashInfo }
    UserSaveFlashInfo env
    return 0

def UserAddFlashInfo (mac : Mem 6) : Prog UserFlash Int := do
  saveDevice env (freePlace (← get).gstFlashInfo) (bytesU16 1 ++ mac.bytes)

def UserDelFlashInfo (mac : Mem 6) : Prog UserFlash Int := do
  saveDevice env (placeOf (← get).gstFlashInfo mac) (bytesU16 0 ++ List.replicate 6 0)

end

/-- The device and the table of devices, with what has been written last of the
configuration, of the register information and of the table. -/
structure Stores where
  device : Device
  gstFlashInfo : USER_FLASH_INFO
  config : Option ZC_ConfigDB
  register : Option ZC_RegisterInfo
  saved : Option USER_FLASH_INFO

/-- The operations on what lies in flash, and what else the device does. -/
inductive StoreInput where
  | load
  | add (mac : Mem 6)
  | del (mac : Mem 6)
  | writeConfig (db : ZC_ConfigDB)
  | wakeUp
  | elsewhere (x : Prog Device Unit)

namespace Stores

/-- What the table of devices has to do with. -/
def user (s : Stores) : UserFlash := ⟨s.device.fwup.fls, s.gstFlashInfo, s.saved⟩

def withUser (s : Stores) (u : UserFlash) : Stores :=
  { s with
    device := s.device.withFwup (s.device.fwup.withFls u.fls)
    gstFlashInfo := u.gstFlashInfo
    saved := u.saved }

def onUser {α : Type} (x : Prog UserFlash α) : Prog Stores α := zoom user withUser x

def onDevice {α : Type} (x : Prog Device α) : Prog Stores α := zoom Stores.device (fun s d => { s with device := d }) x

def handle (env : Env) : StoreInput → Prog Stores Unit
  | .load => onUser (UserLoadFlashInfo env.toFlsEnv)
  | .add mac => do
    let _ ← onUser (UserAddFlashInfo env.toFlsEnv mac)
  | .del mac => do
    let _ ← onUser (UserDelFlashInfo env.toFlsEnv mac)
  | .writeConfig db => do
    onDevice (HF_WriteDataToFlash env db.toBytes)
    modify fun s => { s with config := some db }
  | .wakeUp => do
    onDevice (HF_WakeUp env)
    modify fun s => { s with register := some (builtInfo env) }
  | .elsewhere x => onDevice x

/-- A configuration that is written is a valid one, and what else is done leaves the chip
as it is. -/
def enabled : StoreInput → Prop
  | .writeConfig db => db.Fits ∧ db.u32MagicFlag = ZC_MAGIC_FLAG
  | .elsewhere x => Keeps (fun d : Device => (d.fwup.fls.flash, d.fwup.fls.fls_lock)) x
  | _ => True

/-- Neither a configuration nor a register information has been written. -/
def Unwritten (s : Stores) : Prop := s.config = none ∧ s.register = none

/-- A table may be saved: it has been loaded, nothing else has been written, and there is
memory for both writes. -/
structure Saveable (env : Env) (s : Stores) : Prop where
  unwritten : s.Unwritten
  good : s.gstFlashInfo.good = true
  allocates : s.user.Allocates env.toFlsEnv

/-- The table of devices is loaded and saved only as long as nothing else has been written,
and saved only when it has been loaded; after it has been saved, one of the configuration
and the register information is not written. What is written gets the memory for it. -/
def guarded (env : Env) (s : Stores) : StoreInput → Prop
  | .load => s.Unwritten
  | .add _ => (freePlace s.gstFlashInfo).isSome → s.Saveable env
  | .del mac => (placeOf s.gstFlashInfo mac).isSome → s.Saveable env
  | .writeConfig _ => (s.saved = none ∨ s.register = none) ∧ s.device.Allocates env
  | .wakeUp => (s.saved = none ∨ s.config = none) ∧ s.device.Allocates env
  | .elsewhere _ => True

/-- Nothing has been written yet. -/
structure Fresh (s : Stores) : Prop where
  fls_lock : s.device.fwup.fls.fls_lock = 1
  config : s.config = none
  register : s.register = none
  saved : s.saved = none

/-- What has been written last is what is read next, whatever there is in memory. -/
structure Kept (env : Env) (s : Stores) : Prop where
  config : ∀ db, s.config = some db → ∀ memory, ∃ d',
    (HF_ReadDataFromFlash env).run { s.device with g_struZcConfigDb := memory } = .ok ((), d') ∧
      d'.g_struZcConfigDb = db
  register : ∀ info, s.register = some info → ∀ memory, ∃ d',
    (HF_ReadRegisterInfoFromFlash env).run { s.device with g_struRegisterInfo := memory } = .ok ((), d') ∧
      d'.g_struRegisterInfo = info
  table : ∀ info, s.saved = some info → ∀ memory, ∃ u',
    (UserLoadFlashInfo env.toFlsEnv).run { s.user with gstFlashInfo := memory } = .ok ((), u') ∧ u'.gstFlashInfo = info

end Stores

/-- The bytes of the chip from `addr` on, as a table. -/
def infoAt (flash : Nat → UInt8) (addr : Nat) : USER_FLASH_INFO :=
  ⟨chipBytes flash addr sizeof_USER_FLASH_INFO, length_chipBytes _ _ _⟩

theorem bytes_infoAt (flash : Nat → UInt8) (addr : Nat) :
    (infoAt flash addr).bytes = chipBytes flash addr sizeof_USER_FLASH_INFO := by
  rw [infoAt]

/-- The table that `UserLoadFlashInfo` gives. -/
def loaded (flash : Nat → UInt8) : USER_FLASH_INFO :=
  if (infoAt flash USER_FLASH_PARAM1_ADDR).good then infoAt flash USER_FLASH_PARAM1_ADDR
  else if (infoAt flash USER_FLASH_PARAM2_ADDR).good then infoAt flash USER_FLASH_PARAM2_ADDR
  else USER_FLASH_INFO.empty

/-- The chip with a table written to a sector. -/
def withInfo (flash : Nat → UInt8) (addr : Nat) (info : USER_FLASH_INFO) : Nat → UInt8 :=
  rewrite flash addr info.bytes.length fun i => info.bytes.getD i 0

theorem infoAt_withInfo (flash : Nat → UInt8) (addr : Nat) (info : USER_FLASH_INFO) :
    infoAt (withInfo flash addr info) addr = info := by
  have hlen : info.bytes.length = sizeof_USER_FLASH_INFO := info.size
  refine Mem.ext_bytes ?_
  rw [bytes_infoAt, withInfo, chipBytes_rewrite _ _ _ (Nat.le_of_eq hlen.symm),
    List.take_of_length_le (Nat.le_of_eq hlen)]

/-- A table in one sector leaves the other sector as it is. -/
theorem infoAt_withInfo_of_ne (flash : Nat → UInt8) {addr addr' : Nat} (info : USER_FLASH_INFO)
    (h : addr' + sizeof_USER_FLASH_INFO ≤ addr ∨ addr + sizeof_USER_FLASH_INFO ≤ addr') :
    infoAt (withInfo flash addr info) addr' = infoAt flash addr' := by
  have hlen : info.bytes.length = sizeof_USER_FLASH_INFO := info.size
  refine Mem.ext_bytes ?_
  rw [bytes_infoAt, bytes_infoAt, withInfo]
  exact chipBytes_rewrite_of_disjoint (by rw [hlen]; exact h)

theorem empty_good : USER_FLASH_INFO.empty.good = true := by decide

/-- The chip that `UserLoadFlashInfo` leaves: the table it gives is in each copy that was not good. -/
def repaired (flash : Nat → UInt8) : Nat → UInt8 :=
  let first :=
    if (infoAt flash USER_FLASH_PARAM1_ADDR).good then flash else withInfo flash USER_FLASH_PARAM1_ADDR (loaded flash)
  if (infoAt flash USER_FLASH_PARAM2_ADDR).good then first else withInfo first USER_FLASH_PARAM2_ADDR (loaded flash)

theorem loaded_good (flash : Nat → UInt8) : (loaded flash).good = true := by
  rw [loaded]
  split
  · assumption
  · split
    · assumption
    · exact empty_good

/-- The first copy is then the table that is loaded. -/
theorem infoAt_repaired_first (flash : Nat → UInt8) : infoAt (repaired flash) USER_FLASH_PARAM1_ADDR = loaded flash := by
  have hfirst : infoAt (if (infoAt flash USER_FLASH_PARAM1_ADDR).good then flash
      else withInfo flash USER_FLASH_PARAM1_ADDR (loaded flash)) USER_FLASH_PARAM1_ADDR = loaded flash := by
    split
    · rename_i hgood
      rw [loaded, if_pos hgood]
    · exact infoAt_withInfo _ _ _
  rw [repaired]
  split
  · exact hfirst
  · rw [infoAt_withInfo_of_ne _ _ (by decide), hfirst]

/-- The second one is what it was if that was good. -/
theorem infoAt_repaired_second (flash : Nat → UInt8) : infoAt (repaired flash) USER_FLASH_PARAM2_ADDR =
    if (infoAt flash USER_FLASH_PARAM2_ADDR).good then infoAt flash USER_FLASH_PARAM2_ADDR else loaded flash := by
  rw [repaired]
  split
  · split
    · rfl
    · exact infoAt_withInfo_of_ne _ _ (by decide)
  · exact infoAt_withInfo _ _ _

theorem repaired_of_good {flash : Nat → UInt8} (hfirst : (infoAt flash USER_FLASH_PARAM1_ADDR).good = true)
    (hsecond : (infoAt flash USER_FLASH_PARAM2_ADDR).good = true) : repaired flash = flash := by
  rw [repaired, if_pos hsecond, if_pos hfirst]

section

variable {env : FlsEnv} (henv : env.Reliable) {u : UserFlash}

include henv

theorem run_user_read {addr len : Nat} (hlock : u.fls.fls_lock = 1) (hlen : len ≠ 0) (hchip : addr + len ≤ TOTAL_SIZE) :
    ∃ fls : Fls, fls.flash = u.fls.flash ∧ fls.fls_lock = 1 ∧ fls.allocations = u.fls.allocations ∧
      (UserFlash.call (tls_fls_read env addr len)).run u =
        .ok ((TLS_FLS_STATUS_OK, chipBytes u.fls.flash addr len), { u with fls := fls }) :=
  ⟨u.fls.withChip u.fls.flash (u.fls.operations + 1), rfl, hlock, rfl, run_zoom (run_fls_read henv hlock hlen hchip)⟩

theorem run_readInfo {addr : Nat} (hlock : u.fls.fls_lock = 1) (hchip : addr + sizeof_USER_FLASH_INFO ≤ TOTAL_SIZE) :
    ∃ fls : Fls, fls.flash = u.fls.flash ∧ fls.fls_lock = 1 ∧ fls.allocations = u.fls.allocations ∧
      (readInfo env addr).run u = .ok ((), { u with fls := fls, gstFlashInfo := infoAt u.fls.flash addr }) := by
  obtain ⟨fls, hflash, hlock', hcount, hread⟩ := run_user_read henv hlock (by decide) hchip
  rw [← bytes_infoAt] at hread
  have hlen : (infoAt u.fls.flash addr).bytes.length = sizeof_USER_FLASH_INFO := Mem.size _
  obtain ⟨m, hstore, hm⟩ := @Mem.store_spec _ u.gstFlashInfo 0 (infoAt u.fls.flash addr).bytes (by omega)
  have hsame : m = infoAt u.fls.flash addr := by
    refine Mem.ext_bytes ?_
    rw [hm, patch, hlen, List.drop_eq_nil_of_le (by rw [u.gstFlashInfo.size]; omega)]
    simp
  refine ⟨fls, hflash, hlock', hcount, ?_⟩
  simp only [readInfo, run_bind, hread, ok_bind, run_get, hstore, run_lift_ok, run_modify, hsame]

/-- A copy of the table is written if there is memory for it. -/
theorem run_writeInfo {k : Nat} (hlock : u.fls.fls_lock = 1) (hchip : k * SECTOR_SIZE + SECTOR_SIZE ≤ TOTAL_SIZE) :
    ∃ fls : Fls, (writeInfo env (k * SECTOR_SIZE)).run u = .ok ((), { u with fls := fls }) ∧ fls.fls_lock = 1 ∧
      fls.allocations = u.fls.allocations + 1 ∧
      (env.alloc u.fls.allocations = true → fls.flash = withInfo u.fls.flash (k * SECTOR_SIZE) u.gstFlashInfo) := by
  have hlen : u.gstFlashInfo.bytes.length = sizeof_USER_FLASH_INFO := u.gstFlashInfo.size
  have hsize : sizeof_USER_FLASH_INFO = 808 := rfl
  have hne : u.gstFlashInfo.bytes ≠ [] := List.length_pos_iff.mp (by omega)
  have hwritten {status : TLS_FLS_STATUS} {fls : Fls}
      (h : (tls_fls_write env (k * SECTOR_SIZE) u.gstFlashInfo.bytes).run u.fls = .ok (status, fls)) :
      (writeInfo env (k * SECTOR_SIZE)).run u = .ok ((), { u with fls := fls }) := by
    simp only [writeInfo, run_bind, run_get, ok_bind, UserFlash.call, run_zoom h]
    rfl
  cases halloc : env.alloc u.fls.allocations with
  | true =>
    obtain ⟨fls, hwrite, hflash, hlock', hcount⟩ := run_fls_write_sector henv halloc hlock hchip hne (by rw [hlen]; decide)
    exact ⟨fls, hwritten hwrite, hlock', hcount, fun _ => hflash⟩
  | false =>
    have hsector : SECTOR_SIZE = 4096 := rfl
    have hwrite := @run_fls_write_no_cache env u.fls (k * SECTOR_SIZE) u.gstFlashInfo.bytes (by omega) (by omega)
      (by omega) halloc
    exact ⟨_, hwritten hwrite, hlock, rfl, nofun⟩

theorem run_writeInfo_first (hlock : u.fls.fls_lock = 1) :
    ∃ fls : Fls, (writeInfo env USER_FLASH_PARAM1_ADDR).run u = .ok ((), { u with fls := fls }) ∧ fls.fls_lock = 1 ∧
      fls.allocations = u.fls.allocations + 1 ∧
      (env.alloc u.fls.allocations = true → fls.flash = withInfo u.fls.flash USER_FLASH_PARAM1_ADDR u.gstFlashInfo) :=
  @run_writeInfo _ henv u 0xF8 hlock (by decide)

theorem run_writeInfo_second (hlock : u.fls.fls_lock = 1) :
    ∃ fls : Fls, (writeInfo env USER_FLASH_PARAM2_ADDR).run u = .ok ((), { u with fls := fls }) ∧ fls.fls_lock = 1 ∧
      fls.allocations = u.fls.allocations + 1 ∧
      (env.alloc u.fls.allocations = true → fls.flash = withInfo u.fls.flash USER_FLASH_PARAM2_ADDR u.gstFlashInfo) :=
  @run_writeInfo _ henv u 0xF9 hlock (by decide)

theorem run_readId {addr : Nat} (hlock : u.fls.fls_lock = 1) (hchip : addr + 4 ≤ TOTAL_SIZE) :
    ∃ fls : Fls, fls.flash = u.fls.flash ∧ fls.fls_lock = 1 ∧ fls.allocations = u.fls.allocations ∧
      (readId env addr).run u = .ok (number (chipBytes u.fls.flash addr 4), { u with fls := fls }) := by
  obtain ⟨fls, hflash, hlock', hcount, hread⟩ := run_user_read henv hlock (by decide) hchip
  refine ⟨fls, hflash, hlock', hcount, ?_⟩
  simp only [readId, run_bind, hread, ok_bind, run_pure]

omit henv in
theorem good_infoAt (flash : Nat → UInt8) (addr : Nat) :
    (infoAt flash addr).good = true ↔
      number (chipBytes flash addr 4) = USER_FLASH_ID1 ∧ number (chipBytes flash (addr + 4) 4) = USER_FLASH_ID2 := by
  rw [USER_FLASH_INFO.good, USER_FLASH_INFO.id1, USER_FLASH_INFO.id2, bytes_infoAt, drop_chipBytes,
    take_chipBytes _ _ (by decide), take_chipBytes _ _ (by decide), decide_eq_true_iff]

/-- What `UserLoadFlashInfo` does: it gives the first copy of the table that is good, or an
empty table, and writes it over every copy that is not, as far as there is memory for that. -/
theorem run_UserLoadFlashInfo (hlock : u.fls.fls_lock = 1) : ∃ u',
    (UserLoadFlashInfo env).run u = .ok ((), u') ∧ u'.gstFlashInfo = loaded u.fls.flash ∧ u'.saved = u.saved ∧
      u'.fls.fls_lock = 1 ∧
      (u.Allocates env ∨ (infoAt u.fls.flash USER_FLASH_PARAM1_ADDR).good = true ∧
        (infoAt u.fls.flash USER_FLASH_PARAM2_ADDR).good = true → u'.fls.flash = repaired u.fls.flash) := by
  obtain ⟨fls₁, hflash₁, hlock₁, hcount₁, hfirst⟩ := @run_readInfo _ henv u USER_FLASH_PARAM1_ADDR hlock (by decide)
  rw [UserLoadFlashInfo, run_bind, hfirst, ok_bind, run_get_bind, repaired, loaded]
  cases hgood : (infoAt u.fls.flash USER_FLASH_PARAM1_ADDR).good with
  | false =>
    obtain ⟨fls₂, hflash₂, hlock₂, hcount₂, hsecond⟩ := @run_readInfo _ henv
      { u with fls := fls₁, gstFlashInfo := infoAt u.fls.flash USER_FLASH_PARAM1_ADDR } USER_FLASH_PARAM2_ADDR hlock₁
      (by decide)
    simp only [hflash₁, hcount₁] at hflash₂ hsecond hcount₂
    simp only [Bool.not_false, ↓reduceIte, run_bind, hsecond, ok_bind, run_get]
    cases hgood' : (infoAt u.fls.flash USER_FLASH_PARAM2_ADDR).good with
    | false =>
      obtain ⟨fls₃, hwrite₃, hlock₃, hcount₃, hflash₃⟩ := @run_writeInfo_first _ henv
        { u with fls := fls₂, gstFlashInfo := USER_FLASH_INFO.empty } hlock₂
      obtain ⟨fls₄, hwrite₄, hlock₄, -, hflash₄⟩ := @run_writeInfo_second _ henv
        { u with fls := fls₃, gstFlashInfo := USER_FLASH_INFO.empty } hlock₃
      refine ⟨{ u with fls := fls₄, gstFlashInfo := USER_FLASH_INFO.empty }, ?_, rfl, rfl, hlock₄, fun h => ?_⟩
      · simp only [Bool.not_false, ↓reduceIte, run_bind, run_modify, ok_bind, hwrite₃, hwrite₄]
      · obtain ⟨halloc₁, halloc₂⟩ := h.resolve_right fun h => Bool.noConfusion h.1
        simp only [hcount₂, hcount₃] at hcount₃ hflash₃ hflash₄
        rw [hflash₄ halloc₂, hflash₃ halloc₁, hflash₂]
        rfl
    | true =>
      obtain ⟨fls₃, hwrite₃, hlock₃, -, hflash₃⟩ := @run_writeInfo_first _ henv
        { u with fls := fls₂, gstFlashInfo := infoAt u.fls.flash USER_FLASH_PARAM2_ADDR } hlock₂
      refine ⟨{ u with fls := fls₃, gstFlashInfo := infoAt u.fls.flash USER_FLASH_PARAM2_ADDR }, ?_, rfl, rfl, hlock₃,
        fun h => ?_⟩
      · simp only [Bool.not_true, Bool.false_eq_true, ↓reduceIte, hwrite₃]
      · have halloc := (h.resolve_right fun h => Bool.noConfusion h.1).1
        rw [hflash₃ (by rw [hcount₂]; exact halloc), hflash₂]
        rfl
  | true =>
    obtain ⟨fls₂, hflash₂, hlock₂, hcount₂, hid₁⟩ := @run_readId _ henv
      { u with fls := fls₁, gstFlashInfo := infoAt u.fls.flash USER_FLASH_PARAM1_ADDR } USER_FLASH_PARAM2_ADDR hlock₁
      (by decide)
    obtain ⟨fls₃, hflash₃, hlock₃, hcount₃, hid₂⟩ := @run_readId _ henv
      { u with fls := fls₂, gstFlashInfo := infoAt u.fls.flash USER_FLASH_PARAM1_ADDR } (USER_FLASH_PARAM2_ADDR + 4) hlock₂
      (by decide)
    simp only [hflash₁, hcount₁] at hflash₂ hid₁ hcount₂
    simp only [hflash₂, hcount₂] at hflash₃ hid₂ hcount₃
    simp only [Bool.not_true, Bool.false_eq_true, ↓reduceIte, run_bind, hid₁, ok_bind, hid₂]
    by_cases hsecond : (infoAt u.fls.flash USER_FLASH_PARAM2_ADDR).good = true
    · have hids := (good_infoAt _ _).mp hsecond
      rw [if_neg (by simp [hids.1, hids.2]), if_pos hsecond]
      exact ⟨_, rfl, rfl, rfl, hlock₃, fun _ => hflash₃⟩
    · obtain ⟨fls₄, hwrite₄, hlock₄, -, hflash₄⟩ := @run_writeInfo_second _ henv
        { u with fls := fls₃, gstFlashInfo := infoAt u.fls.flash USER_FLASH_PARAM1_ADDR } hlock₃
      have hids := mt (good_infoAt u.fls.flash USER_FLASH_PARAM2_ADDR).mpr hsecond
      rw [if_pos (not_and_or.mp hids), hwrite₄, if_neg hsecond]
      refine ⟨_, rfl, rfl, rfl, hlock₄, fun h => ?_⟩
      have halloc := (h.resolve_right fun h => hsecond h.2).1
      rw [hflash₄ (by rw [hcount₃]; exact halloc), hflash₃]

/-- `UserSaveFlashInfo` leaves two copies of the table, if there is memory for them. -/
theorem run_UserSaveFlashInfo (hlock : u.fls.fls_lock = 1) : ∃ fls : Fls,
    (UserSaveFlashInfo env).run u = .ok ((), { u with fls := fls, saved := some u.gstFlashInfo }) ∧ fls.fls_lock = 1 ∧
      (u.Allocates env → infoAt fls.flash USER_FLASH_PARAM1_ADDR = u.gstFlashInfo ∧
        infoAt fls.flash USER_FLASH_PARAM2_ADDR = u.gstFlashInfo) := by
  obtain ⟨fls₁, hwrite₁, hlock₁, hcount₁, hflash₁⟩ := run_writeInfo_first henv hlock
  obtain ⟨fls₂, hwrite₂, hlock₂, -, hflash₂⟩ := @run_writeInfo_second _ henv { u with fls := fls₁ } hlock₁
  refine ⟨fls₂, ?_, hlock₂, fun halloc => ?_⟩
  · simp only [UserSaveFlashInfo, run_bind, hwrite₁, ok_bind, hwrite₂, run_modify]
  · have hchip₁ := hflash₁ halloc.1
    have hchip₂ := hflash₂ (by rw [hcount₁]; exact halloc.2)
    rw [hchip₂, infoAt_withInfo, infoAt_withInfo_of_ne _ _ (by decide)]
    change infoAt fls₁.flash USER_FLASH_PARAM1_ADDR = u.gstFlashInfo ∧ _
    rw [hchip₁, infoAt_withInfo]
    exact ⟨rfl, rfl⟩

/-- A change of a device leaves the ids of the table. -/
theorem run_saveDevice {place : Option (Fin USER_DEVICE_NUM)} {entry : List UInt8} {u' : UserFlash} {r : Int}
    (hlock : u.fls.fls_lock = 1) (h : (saveDevice env place entry).run u = .ok (r, u')) :
    (place = none ∧ u' = u) ∨ (place.isSome ∧ u'.fls.fls_lock = 1 ∧ u'.gstFlashInfo.good = u.gstFlashInfo.good ∧
      u'.saved = some u'.gstFlashInfo ∧
      (u.Allocates env → infoAt u'.fls.flash USER_FLASH_PARAM1_ADDR = u'.gstFlashInfo ∧
        infoAt u'.fls.flash USER_FLASH_PARAM2_ADDR = u'.gstFlashInfo)) := by
  cases place with
  | none => exact .inl ⟨rfl, (run_pure_eq_ok.mp h).2⟩
  | some i =>
    rw [saveDevice, run_get_bind] at h
    obtain ⟨info, u₁, hstore, hrest⟩ := run_bind_eq_ok.mp h
    obtain ⟨hstore, rfl⟩ := run_lift_eq_ok.mp hstore
    obtain ⟨_, u₂, hmodify, hrest⟩ := run_bind_eq_ok.mp hrest
    obtain rfl := run_modify_eq_ok.mp hmodify
    obtain ⟨_, u₃, hsave, hpure⟩ := run_bind_eq_ok.mp hrest
    obtain ⟨-, rfl⟩ := run_pure_eq_ok.mp hpure
    obtain ⟨fls, hrun, hlock', hcopies⟩ := @run_UserSaveFlashInfo _ henv { u₁ with gstFlashInfo := info } hlock
    rw [hrun] at hsave
    cases hsave
    obtain ⟨hfits, hbytes⟩ := Mem.store_eq_ok_iff.mp hstore
    have hbelow : info.bytes.take 8 = u₁.gstFlashInfo.bytes.take 8 := by
      rw [hbytes]
      refine take_patch_of_le ?_ ?_
      · exact Nat.le_add_right _ _
      · rw [u₁.gstFlashInfo.size]
        omega
    refine .inr ⟨rfl, hlock', ?_, rfl, hcopies⟩
    have htake : ∀ m : USER_FLASH_INFO, m.bytes.take 4 = (m.bytes.take 8).take 4 := fun m => by simp [List.take_take]
    have hdrop : ∀ m : USER_FLASH_INFO, (m.bytes.drop 4).take 4 = (m.bytes.take 8).drop 4 := fun m => by
      rw [List.drop_take]
    simp only [USER_FLASH_INFO.good, USER_FLASH_INFO.id1, USER_FLASH_INFO.id2, htake info, htake u₁.gstFlashInfo, hdrop info,
      hdrop u₁.gstFlashInfo, hbelow]

end

section

variable {env : Env} {d d' : Device}

theorem untimed_fwup : Untimed Device.fwup := fun _ _ _ _ _ _ _ => rfl

theorem fwup_of_unsent (h : d'.unsent = d.unsent) : d'.fwup = d.fwup := by
  have hfwup := congrArg Device.fwup h
  exact hfwup

theorem PCT_WakeUp_fwup : Keeps Device.fwup (PCT_WakeUp env) := by
  have hnotify (u8NotifyCode : ZC_MsgCode) : Keeps Device.fwup (PCT_SendNotifyMsg env u8NotifyCode) :=
    moves_mono (PCT_SendNotifyMsg_aside env (P := fun _ => True) trivial) fun h => fwup_of_unsent h.view_eq
  exact moves_bind (moves_bind moves_get fun _ => moves_pure _) fun _ => moves_ite
    (moves_bind (HF_SetTimer_keeps untimed_fwup env _ _) fun _ => moves_bind (hnotify _) fun _ => moves_modify fun _ => rfl)
    (moves_pure _)

theorem length_registerInfo_pos (info : ZC_RegisterInfo) : info.toBytes ≠ [] := by
  intro h
  have hlen := length_registerInfo info
  rw [h] at hlen
  exact absurd hlen (by decide)

theorem run_HF_ReadRegisterInfoFromFlash (henv : env.toFlsEnv.Reliable) (hlock : d.fwup.fls.fls_lock = 1)
    {info : ZC_RegisterInfo} (hinfo : chipBytes d.fwup.fls.flash USER_FLASH_PARAM2_ADDR sizeof_ZC_RegisterInfo = info.toBytes) :
    ∃ fwup : Fwup, fwup.fls.flash = d.fwup.fls.flash ∧ fwup.fls.fls_lock = 1 ∧
      (HF_ReadRegisterInfoFromFlash env).run d = .ok ((), { d.withFwup fwup with g_struRegisterInfo := info }) := by
  obtain ⟨fwup, hflash, hlock', hread⟩ := @run_read _ henv d USER_FLASH_PARAM2_ADDR sizeof_ZC_RegisterInfo hlock (by decide)
    (by decide)
  refine ⟨fwup, hflash, hlock', ?_⟩
  simp only [HF_ReadRegisterInfoFromFlash, run_bind, hread, ok_bind, hinfo, ZC_RegisterInfo.ofBytes_toBytes, run_lift_ok,
    run_modify]

/-- The second half of `HF_WakeUp`, which writes the register information. -/
theorem writeRegister_chip (henv : env.toFlsEnv.Reliable) (h : (do
      modify fun d : Device => { d with g_struRegisterInfo := builtInfo env }
      let _ ← callFwup (callFls (tls_fls_write env.toFlsEnv USER_FLASH_PARAM2_ADDR (builtInfo env).toBytes))
      HF_ReadRegisterInfoFromFlash env
      HF_ReadRegisterInfoFromFlash env
      setMainState PCT_STATE_ACCESS_NET).run d = .ok ((), d')) (halloc : d.Allocates env) (hlock : d.fwup.fls.fls_lock = 1) :
    d'.fwup.fls.fls_lock = 1 ∧ d'.fwup.fls.flash = rewrite d.fwup.fls.flash USER_FLASH_PARAM2_ADDR
      (builtInfo env).toBytes.length fun i => (builtInfo env).toBytes.getD i 0 := by
  have hlen := length_registerInfo (builtInfo env)
  obtain ⟨_, d₁, hinfo, h⟩ := run_bind_eq_ok.mp h
  obtain rfl := run_modify_eq_ok.mp hinfo
  obtain ⟨_, d₂, hwrite, h⟩ := run_bind_eq_ok.mp h
  obtain ⟨fwup₂, hflash₂, hlock₂, hrun₂⟩ := @run_write _ henv { d with g_struRegisterInfo := builtInfo env } 0xF9
    (builtInfo env).toBytes halloc hlock (by decide) (length_registerInfo_pos _) (by rw [hlen]; decide)
  change (callFwup (callFls (tls_fls_write env.toFlsEnv USER_FLASH_PARAM2_ADDR (builtInfo env).toBytes))).run _ = _ at hrun₂
  rw [hrun₂] at hwrite
  cases hwrite
  have hwritten : chipBytes fwup₂.fls.flash USER_FLASH_PARAM2_ADDR sizeof_ZC_RegisterInfo = (builtInfo env).toBytes := by
    rw [hflash₂]
    exact (chipBytes_rewrite _ _ _ (Nat.le_of_eq hlen.symm)).trans (List.take_of_length_le (Nat.le_of_eq hlen))
  obtain ⟨_, d₃, hread, h⟩ := run_bind_eq_ok.mp h
  obtain ⟨fwup₃, hflash₃, hlock₃, hrun₃⟩ := run_HF_ReadRegisterInfoFromFlash henv
    (d := { d with g_struRegisterInfo := builtInfo env }.withFwup fwup₂) hlock₂ hwritten
  rw [hrun₃] at hread
  cases hread
  obtain ⟨_, d₄, hread, h⟩ := run_bind_eq_ok.mp h
  have hflash₃ : fwup₃.fls.flash = fwup₂.fls.flash := hflash₃
  obtain ⟨fwup₄, hflash₄, hlock₄, hrun₄⟩ := @run_HF_ReadRegisterInfoFromFlash env
    { { d with g_struRegisterInfo := builtInfo env }.withFwup fwup₃ with g_struRegisterInfo := builtInfo env } henv hlock₃
    (builtInfo env) ((congrArg (fun flash => chipBytes flash _ _) hflash₃).trans hwritten)
  have hread := hrun₄.symm.trans hread
  cases hread
  obtain rfl := run_modify_eq_ok.mp h
  exact ⟨hlock₄, hflash₄.trans (hflash₃.trans hflash₂)⟩

/-- What `HF_WakeUp` does to the chip. -/
theorem HF_WakeUp_chip (henv : env.toFlsEnv.Reliable) (halloc : d.Allocates env) (hlock : d.fwup.fls.fls_lock = 1)
    (h : (HF_WakeUp env).run d = .ok ((), d')) :
    d'.fwup.fls.fls_lock = 1 ∧ d'.fwup.fls.flash = rewrite d.fwup.fls.flash USER_FLASH_PARAM2_ADDR
      (builtInfo env).toBytes.length fun i => (builtInfo env).toBytes.getD i 0 := by
  obtain ⟨_, d₁, hwake, h⟩ := run_bind_eq_ok.mp h
  have hfwup₁ := PCT_WakeUp_fwup hwake
  obtain ⟨c, _, hget, h⟩ := run_bind_eq_ok.mp h
  obtain ⟨rfl, hsame⟩ : c = d₁.g_struProtocolController ∧ _ := run_pure_eq_ok.mp hget
  rw [hsame] at h
  split at h
  · obtain ⟨_, d₂, hstop, h⟩ := run_bind_eq_ok.mp h
    obtain ⟨_, d₃, hclear, h⟩ := run_bind_eq_ok.mp h
    obtain rfl := run_modify_eq_ok.mp hclear
    have hfwup₂ := TIMER_StopTimer_keeps untimed_fwup _ hstop
    rw [← hfwup₁, ← hfwup₂] at hlock ⊢
    rw [Device.Allocates, ← hfwup₁, ← hfwup₂] at halloc
    have hchip := writeRegister_chip henv h halloc hlock
    exact hchip
  · rw [← hfwup₁] at hlock ⊢
    rw [Device.Allocates, ← hfwup₁] at halloc
    exact writeRegister_chip henv h halloc hlock

end

namespace Stores

/-- The invariant of the stores. After a table has been saved, its copies stay as long as
nothing else is written over them. -/
structure Sound (env : Env) (s : Stores) : Prop where
  fls_lock : s.device.fwup.fls.fls_lock = 1
  config : ∀ db, s.config = some db → db.Fits ∧ db.u32MagicFlag = ZC_MAGIC_FLAG ∧
    chipBytes s.device.fwup.fls.flash USER_FLASH_PARAM1_ADDR sizeof_ZC_ConfigDB = db.toBytes
  register : ∀ info, s.register = some info →
    chipBytes s.device.fwup.fls.flash USER_FLASH_PARAM2_ADDR sizeof_ZC_RegisterInfo = info.toBytes
  good : ∀ info, s.saved = some info → info.good = true
  first : ∀ info, s.saved = some info → s.config = none → infoAt s.device.fwup.fls.flash USER_FLASH_PARAM1_ADDR = info
  second : ∀ info, s.saved = some info → s.register = none →
    infoAt s.device.fwup.fls.flash USER_FLASH_PARAM2_ADDR = info
  one : ∀ info, s.saved = some info → s.config = none ∨ s.register = none

variable {env : Env} {s t : Stores}

theorem Fresh.sound (h : s.Fresh) : s.Sound env := by
  obtain ⟨hlock, hconfig, hregister, hsaved⟩ := h
  exact ⟨hlock, by simp [hconfig], by simp [hregister], by simp [hsaved], by simp [hsaved], by simp [hsaved], by simp [hsaved]⟩

/-- What leaves the chip as it is. -/
theorem Sound.of_chip (h : s.Sound env) (hflash : t.device.fwup.fls.flash = s.device.fwup.fls.flash)
    (hlock : t.device.fwup.fls.fls_lock = 1) (hlast : (t.config, t.register, t.saved) = (s.config, s.register, s.saved)) :
    t.Sound env := by
  simp only [Prod.mk.injEq] at hlast
  obtain ⟨hconfig, hregister, hsaved⟩ := hlast
  obtain ⟨-, h₁, h₂, h₃, h₄, h₅, h₆⟩ := h
  refine ⟨hlock, ?_, ?_, ?_, ?_, ?_, ?_⟩
  · rwa [hconfig, hflash]
  · rwa [hregister, hflash]
  · rwa [hsaved]
  · rwa [hsaved, hconfig, hflash]
  · rwa [hsaved, hregister, hflash]
  · rwa [hsaved, hconfig, hregister]

theorem Sound.load (henv : env.toFlsEnv.Reliable) (h : s.Sound env) (hguard : s.Unwritten)
    (hrun : (handle env .load).run s = .ok ((), t)) : t.Sound env := by
  obtain ⟨u, hload, rfl⟩ := run_zoom_eq_ok.mp hrun
  obtain ⟨u', hrun', -, hsaved, hlock, hflash'⟩ := run_UserLoadFlashInfo henv (u := s.user) h.fls_lock
  rw [hrun'] at hload
  cases hload
  obtain ⟨hconfig, hregister⟩ := hguard
  cases hlast : s.saved with
  | none =>
    have hnone : u.saved = none := hsaved.trans hlast
    exact ⟨hlock, by simp [withUser, hconfig], by simp [withUser, hregister], by simp [withUser, hnone],
      by simp [withUser, hnone], by simp [withUser, hnone], by simp [withUser, hnone]⟩
  | some info =>
    have hfirst := h.first info hlast hconfig
    have hsecond := h.second info hlast hregister
    have hgood := h.good info hlast
    have hgood₁ : (infoAt s.user.fls.flash USER_FLASH_PARAM1_ADDR).good = true := by rw [user, hfirst]; exact hgood
    have hgood₂ : (infoAt s.user.fls.flash USER_FLASH_PARAM2_ADDR).good = true := by rw [user, hsecond]; exact hgood
    have hflash := (hflash' (.inr ⟨hgood₁, hgood₂⟩)).trans (repaired_of_good hgood₁ hgood₂)
    refine h.of_chip hflash hlock ?_
    rw [withUser, hsaved]
    rfl

/-- A change of a device saves the table, unless the device has no place. -/
theorem Sound.saveDevice (henv : env.toFlsEnv.Reliable) (h : s.Sound env) {place : USER_FLASH_INFO → Option (Fin USER_DEVICE_NUM)}
    {entry : List UInt8} (hguard : (place s.gstFlashInfo).isSome → s.Saveable env)
    (hrun : (do
      let _ ← onUser (do ZCloud.saveDevice env.toFlsEnv (place (← get).gstFlashInfo) entry) : Prog Stores Unit).run s =
        .ok ((), t)) : t.Sound env := by
  obtain ⟨_, t', hsave, hpure⟩ := run_bind_eq_ok.mp hrun
  obtain ⟨-, rfl⟩ := run_pure_eq_ok.mp hpure
  obtain ⟨u, hchange, rfl⟩ := run_zoom_eq_ok.mp hsave
  rw [run_get_bind] at hchange
  obtain ⟨-, rfl⟩ | ⟨hplace, hlock, hgood, hsaved, hcopies⟩ := run_saveDevice henv (u := s.user) h.fls_lock hchange
  · exact h
  · obtain ⟨⟨hconfig, hregister⟩, hbefore, halloc⟩ := hguard hplace
    obtain ⟨hfirst, hsecond⟩ := hcopies halloc
    have hlast : ∀ info, (s.withUser u).saved = some info → info = u.gstFlashInfo := fun info hinfo =>
      Option.some.inj (hinfo.symm.trans hsaved)
    refine ⟨hlock, by simp [withUser, hconfig], by simp [withUser, hregister], fun info hinfo => ?_, fun info hinfo _ => ?_,
      fun info hinfo _ => ?_, fun _ _ => .inl hconfig⟩
    · rw [hlast info hinfo, hgood]
      exact hbefore
    · rw [hlast info hinfo]
      exact hfirst
    · rw [hlast info hinfo]
      exact hsecond

theorem Sound.writeConfig (henv : env.toFlsEnv.Reliable) (h : s.Sound env) {db : ZC_ConfigDB}
    (henabled : enabled (.writeConfig db)) (hguard : s.guarded env (.writeConfig db))
    (hrun : (handle env (.writeConfig db)).run s = .ok ((), t)) : t.Sound env := by
  obtain ⟨_, t', hcall, hlast⟩ := run_bind_eq_ok.mp hrun
  obtain ⟨d, hwrite, rfl⟩ := run_zoom_eq_ok.mp hcall
  obtain rfl := run_modify_eq_ok.mp hlast
  obtain ⟨fwup, hflash, hlock, hrun'⟩ := run_HF_WriteDataToFlash henv (d := s.device) db hguard.2 h.fls_lock
  rw [hrun'] at hwrite
  cases hwrite
  have hlen := length_configDB db
  have hother : ∀ n, chipBytes fwup.fls.flash USER_FLASH_PARAM2_ADDR n =
      chipBytes s.device.fwup.fls.flash USER_FLASH_PARAM2_ADDR n := by
    intro n
    rw [hflash]
    exact chipBytes_rewrite_of_disjoint (.inr (by rw [hlen]; decide))
  refine ⟨hlock, fun db' hdb => ?_, fun info hinfo => ?_, h.good, fun info _ hnone => absurd hnone nofun,
    fun info hinfo hnone => ?_, fun info hinfo => .inr ?_⟩
  · obtain rfl := Option.some.inj hdb
    refine ⟨henabled.1, henabled.2, ?_⟩
    change chipBytes fwup.fls.flash USER_FLASH_PARAM1_ADDR sizeof_ZC_ConfigDB = db.toBytes
    rw [hflash, chipBytes_written]
  · exact (hother _).trans (h.register info hinfo)
  · refine Mem.ext_bytes ?_
    have hsecond := h.second info hinfo hnone
    rw [← hsecond, bytes_infoAt, bytes_infoAt]
    exact hother _
  · exact hguard.1.resolve_left fun hnone => absurd (hnone.symm.trans hinfo) nofun

theorem Sound.wakeUp (henv : env.toFlsEnv.Reliable) (h : s.Sound env) (hguard : s.guarded env .wakeUp)
    (hrun : (handle env .wakeUp).run s = .ok ((), t)) : t.Sound env := by
  obtain ⟨_, t', hcall, hlast⟩ := run_bind_eq_ok.mp hrun
  obtain ⟨d, hwake, rfl⟩ := run_zoom_eq_ok.mp hcall
  obtain rfl := run_modify_eq_ok.mp hlast
  obtain ⟨hlock, hflash⟩ := HF_WakeUp_chip henv hguard.2 h.fls_lock hwake
  have hlen := length_registerInfo (builtInfo env)
  have hother : ∀ n ≤ SECTOR_SIZE, chipBytes d.fwup.fls.flash USER_FLASH_PARAM1_ADDR n =
      chipBytes s.device.fwup.fls.flash USER_FLASH_PARAM1_ADDR n := by
    intro n hn
    rw [hflash]
    exact chipBytes_rewrite_of_disjoint (.inl (Nat.add_le_add_left hn _))
  refine ⟨hlock, fun db hdb => ?_, fun info hinfo => ?_, h.good, fun info hinfo hnone => ?_,
    fun info _ hnone => absurd hnone nofun, fun info hinfo => .inl ?_⟩
  · obtain ⟨hfits, hmagic, hbytes⟩ := h.config db hdb
    exact ⟨hfits, hmagic, (hother _ (by decide)).trans hbytes⟩
  · obtain rfl := Option.some.inj hinfo
    change chipBytes d.fwup.fls.flash USER_FLASH_PARAM2_ADDR sizeof_ZC_RegisterInfo = (builtInfo env).toBytes
    rw [hflash, chipBytes_rewrite _ _ _ (Nat.le_of_eq hlen.symm), List.take_of_length_le (Nat.le_of_eq hlen)]
  · refine Mem.ext_bytes ?_
    have hfirst := h.first info hinfo hnone
    rw [← hfirst, bytes_infoAt, bytes_infoAt]
    exact hother _ (by decide)
  · exact hguard.1.resolve_left fun hnone => absurd (hnone.symm.trans hinfo) nofun

theorem Sound.step (henv : env.toFlsEnv.Reliable) (h : s.Sound env) {input : StoreInput} (henabled : enabled input)
    (hguard : s.guarded env input) (hrun : (handle env input).run s = .ok ((), t)) : t.Sound env := by
  cases input with
  | load => exact h.load henv hguard hrun
  | add mac => exact @Sound.saveDevice _ _ _ henv h freePlace _ hguard hrun
  | del mac => exact @Sound.saveDevice _ _ _ henv h (fun info => placeOf info mac) _ hguard hrun
  | writeConfig db => exact h.writeConfig henv henabled hguard hrun
  | wakeUp => exact h.wakeUp henv hguard hrun
  | elsewhere x =>
    have hcall : (onDevice x).run s = .ok ((), t) := hrun
    obtain ⟨d, hx, rfl⟩ := run_zoom_eq_ok.mp hcall
    have hchip := henabled hx
    simp only [Prod.mk.injEq] at hchip
    exact h.of_chip hchip.1 (hchip.2.trans h.fls_lock) rfl

/-- A configuration begins with a number that is not the id of a table. -/
theorem Sound.not_good (h : s.Sound env) {db : ZC_ConfigDB} (hdb : s.config = some db) :
    (infoAt s.device.fwup.fls.flash USER_FLASH_PARAM1_ADDR).good = false := by
  obtain ⟨-, hmagic, hbytes⟩ := h.config db hdb
  rw [Bool.eq_false_iff]
  intro hgood
  have hid := ((good_infoAt _ _).mp hgood).1
  rw [← take_chipBytes _ _ (show 4 ≤ sizeof_ZC_ConfigDB by decide), hbytes, take_toBytes hmagic] at hid
  exact absurd hid (by decide)

theorem Sound.kept (henv : env.toFlsEnv.Reliable) (h : s.Sound env) : s.Kept env := by
  refine ⟨fun db hdb memory => ?_, fun info hinfo memory => ?_, fun info hinfo memory => ?_⟩
  · obtain ⟨hfits, hmagic, hbytes⟩ := h.config db hdb
    obtain ⟨fwup, -, -, hrun⟩ := run_HF_ReadDataFromFlash henv (d := { s.device with g_struZcConfigDb := memory }) h.fls_lock
    rw [hrun, configAt_of_bytes hfits hmagic hbytes]
    exact ⟨_, rfl, rfl⟩
  · obtain ⟨fwup, -, -, hrun⟩ := @run_HF_ReadRegisterInfoFromFlash env { s.device with g_struRegisterInfo := memory } henv
      h.fls_lock info (h.register info hinfo)
    exact ⟨_, hrun, rfl⟩
  · obtain ⟨u', hrun, hloaded, -⟩ := run_UserLoadFlashInfo henv (u := { s.user with gstFlashInfo := memory }) h.fls_lock
    refine ⟨u', hrun, hloaded.trans ?_⟩
    have hgood := h.good info hinfo
    change loaded s.device.fwup.fls.flash = info
    rw [loaded]
    cases hconfig : s.config with
    | none =>
      rw [h.first info hinfo hconfig, if_pos hgood]
    | some db =>
      have hregister := (h.one info hinfo).resolve_left (by rw [hconfig]; exact nofun)
      rw [if_neg (by rw [h.not_good hconfig]; exact nofun), h.second info hinfo hregister, if_pos hgood]

/-- In every run in which the table of devices is loaded and saved only before anything else
is written, not both the configuration and the register information are written after it
has been saved, and no write lacks memory, what has been written last is what is read
next. -/
theorem kept_of_runs {s₀ : Stores} (henv : env.toFlsEnv.Reliable) (hfresh : s₀.Fresh)
    (h : Runs (handle env) (fun s input => enabled input ∧ s.guarded env input) s₀ s) : s.Kept env :=
  (h.invariant hfresh.sound fun _ _ _ ht hallowed hrun => ht.step henv hallowed.1 hallowed.2 hrun).kept henv

/-- The device after its first start. -/
theorem exists_fresh : ∃ s : Stores, s.Fresh ∧ s.device.Saved soundEnv := by
  obtain ⟨d, hboot⟩ : ∃ d, Device.boot soundEnv blankFwup = some d := Option.isSome_iff_exists.mp (by decide +kernel)
  have hsaved := Started.saved soundEnv_works.io (started_of_boot hboot)
  exact ⟨⟨d, USER_FLASH_INFO.empty, none, none, none⟩, ⟨hsaved.fls_lock, rfl, rfl, rfl⟩, hsaved⟩

/-- The run of `HF_WriteDataToFlash`, after which the configuration is the one written last. -/
theorem run_writeConfig (henv : env.toFlsEnv.Reliable) (halloc : s.device.Allocates env) (hlock : s.device.fwup.fls.fls_lock = 1) (db : ZC_ConfigDB) : ∃ t,
    (handle env (.writeConfig db)).run s = .ok ((), t) ∧ t.config = some db ∧ t.device.fwup.fls.fls_lock = 1 := by
  obtain ⟨fwup, -, hlock', hrun⟩ := run_HF_WriteDataToFlash henv (d := s.device) db halloc hlock
  refine ⟨{ s with device := s.device.withFwup fwup, config := some db }, ?_, rfl, hlock'⟩
  simp only [handle, run_bind, onDevice, run_zoom hrun, ok_bind, run_modify]

theorem kept_of_writeConfig : ∃ s : Stores, s.config ≠ none ∧ s.Kept soundEnv := by
  obtain ⟨s, hfresh, hsaved⟩ := exists_fresh
  obtain ⟨t, hrun, hconfig, -⟩ := run_writeConfig soundEnv_works.io (soundEnv_works.alloc _) hfresh.fls_lock
    s.device.g_struZcConfigDb
  have hguard : s.guarded soundEnv (.writeConfig s.device.g_struZcConfigDb) :=
    ⟨Or.inl hfresh.saved, soundEnv_works.alloc _⟩
  refine ⟨t, by rw [hconfig]; exact nofun, kept_of_runs soundEnv_works.io hfresh (.step .refl ⟨?_, hguard⟩ hrun)⟩
  exact ⟨hsaved.fits, hsaved.u32MagicFlag⟩

/-- The configuration is written, and the table of devices is loaded: the sector of the
configuration is written over. -/
theorem load_forgets_config : ¬ ∀ s₀ s : Stores, s₀.Fresh → Runs (handle soundEnv) (fun _ input => enabled input) s₀ s →
    s.Kept soundEnv := by
  intro h
  obtain ⟨s, hfresh, hsaved⟩ := exists_fresh
  obtain ⟨t, hwrite, hconfig, hlock⟩ := run_writeConfig soundEnv_works.io (soundEnv_works.alloc _) hfresh.fls_lock
    s.device.g_struZcConfigDb
  obtain ⟨u, hload, -, -, hlock', hflash⟩ := run_UserLoadFlashInfo soundEnv_works.io (u := t.user) hlock
  have hgood : (infoAt u.fls.flash USER_FLASH_PARAM1_ADDR).good = true := by
    rw [hflash (.inl ⟨soundEnv_works.alloc _, soundEnv_works.alloc _⟩), infoAt_repaired_first]
    exact loaded_good _
  have hload : (handle soundEnv .load).run t = .ok ((), t.withUser u) := run_zoom hload
  have hruns : Runs (handle soundEnv) (fun _ input => enabled input) s (t.withUser u) := by
    refine .step (.step .refl ?_ hwrite) ?_ hload
    · exact ⟨hsaved.fits, hsaved.u32MagicFlag⟩
    · trivial
  obtain ⟨d', hread, hdb⟩ := (h s _ hfresh hruns).config _ hconfig ZC_ConfigDB.zero
  obtain ⟨fwup, -, -, hrun⟩ := run_HF_ReadDataFromFlash soundEnv_works.io
    (d := { (t.withUser u).device with g_struZcConfigDb := ZC_ConfigDB.zero }) hlock'
  have hid : number (chipBytes u.fls.flash USER_FLASH_PARAM1_ADDR 4) = USER_FLASH_ID1 := ((good_infoAt _ _).mp hgood).1
  have hnone : configAt u.fls.flash ZC_ConfigDB.zero = .ok ZC_ConfigDB.zero := by
    rw [configAt, hid, if_neg (by decide)]
  have hzero : d'.g_struZcConfigDb = ZC_ConfigDB.zero := by
    change _ = (configAt u.fls.flash ZC_ConfigDB.zero).map _ at hrun
    rw [hnone, hread] at hrun
    cases hrun
    rfl
  have hmagic := hsaved.u32MagicFlag
  rw [← hdb, hzero] at hmagic
  exact absurd hmagic (by decide)

end Stores

end ZCloud
