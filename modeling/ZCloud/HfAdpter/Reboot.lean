import ZCloud.Drivers.Operations
import ZCloud.HfAdpter.System
import ZCloud.ProtocolController.Aside

open Memory Program

namespace ZCloud

/-- Neither the chip nor an allocation fails. -/
structure FlsEnv.Works (env : FlsEnv) : Prop where
  io : env.Reliable
  alloc : ∀ n, env.alloc n = true

/-- The firmware update after a loss of power: only the content of the chip is left. -/
def Fwup.reboot (s : Fwup) : Fwup :=
  { blankFwup with
    fls :=
      { blankFwup.fls with
        flash := s.fls.flash
        operations := s.fls.operations
        allocations := s.fls.allocations
        flushed := s.fls.flushed } }

/-- A start of the program gives the configuration that is in memory. -/
def Device.Survives (env : Env) (d : Device) : Prop :=
  ∃ d', (powerOn env).run (Device.zero d.fwup.reboot) = .ok ((), d') ∧ d'.g_struZcConfigDb = d.g_struZcConfigDb

/-- The configuration, the chip and the lock of its driver. -/
def Device.store (d : Device) : ZC_ConfigDB × (Nat → UInt8) × Nat :=
  (d.g_struZcConfigDb, d.fwup.fls.flash, d.fwup.fls.fls_lock)

/-- The next write to the chip gets the memory for its cache. -/
def Device.Allocates (env : Env) (d : Device) : Prop := env.alloc d.fwup.fls.allocations = true

def ZC_StoreConnectionInfo (env : Env) (pu8Ssid pu8Password : List UInt8) : Prog Device Unit := do
  let u8Ssid ← loadMem pu8Ssid 0 ZC_SSID_MAX_LEN
  let u8Password ← loadMem pu8Password 0 ZC_PASSWORD_MAX_LEN
  modifyConfig fun db => { db with struConnection := ⟨ZC_MAGIC_FLAG, u8Ssid, u8Password⟩ }
  writeConfig env

/-- What can change the configuration, and what else the device does. -/
inductive ConfigEvent where
  /-- The module has sent a `ZC_CODE_CONFIG`. -/
  | config (pu8Payload : List UInt8)
  /-- The cloud has sent a `ZC_CODE_TOKEN_SET`. -/
  | tokenSet (view : List UInt8)
  /-- The cloud has answered the handshake, as with a `ZC_CODE_ACCESS_POINT_RSP`. -/
  | accessPoint (view : List UInt8)
  /-- The cloud has sent a `ZC_CODE_RESET_NETWORK`. -/
  | resetNetwork (view : List UInt8)
  /-- The network that is to be joined is stored. -/
  | connectionInfo (pu8Ssid pu8Password : List UInt8)
  /-- Something else is done. -/
  | elsewhere (x : Prog Device Unit)

namespace ConfigEvent

def handle (env : Env) : ConfigEvent → Prog Device Unit
  | .config pu8Payload => ZC_ConfigPara env pu8Payload
  | .tokenSet view => PCT_SetTokenKey env view
  | .accessPoint view => acceptMsg2 env view
  | .resetNetwork view => PCT_ResetNetWork env view
  | .connectionInfo pu8Ssid pu8Password => ZC_StoreConnectionInfo env pu8Ssid pu8Password
  | .elsewhere x => x

/-- What else is done changes neither the configuration nor the chip. -/
def enabled : ConfigEvent → Prop
  | .elsewhere x => Keeps Device.store x
  | _ => True

/-- A reset of the network finds the configuration as it would leave it, and what writes
the configuration gets the memory for it. -/
def guarded (env : Env) (d : Device) : ConfigEvent → Prop
  | .resetNetwork _ => ZC_ConfigInitPara d.g_struZcConfigDb = d.g_struZcConfigDb
  | .elsewhere _ => True
  | _ => d.Allocates env

end ConfigEvent

section

variable (env : Env)

/-- The configuration that `HF_Init` makes of untouched memory. -/
def initialConfig : ZC_ConfigDB :=
  let db := ZC_ConfigInitPara ZC_ConfigDB.zero
  { db with
    struCloudInfo :=
      { db.struCloudInfo with
        u8CloudAddr := ⟨testCloudAddr ++ [env.stack 0, env.stack 1], rfl⟩ }
    struSwitchInfo :=
      { db.struSwitchInfo with u32SecSwitch := 0, u32TraceSwitch := 0, u32WifiConfig := 0, u32ServerAddrConfig := 0 } }

/-- The configuration that `HF_ReadDataFromFlash` gives, when there is `memory` in memory. -/
def configAt (flash : Nat → UInt8) (memory : ZC_ConfigDB) : Except Fault ZC_ConfigDB :=
  if number (chipBytes flash USER_FLASH_PARAM1_ADDR 4) = ZC_MAGIC_FLAG then
    ZC_ConfigDB.ofBytes (chipBytes flash USER_FLASH_PARAM1_ADDR sizeof_ZC_ConfigDB)
  else .ok memory

/-- The configuration that the start of the program gives. -/
def restored (flash : Nat → UInt8) : Except Fault ZC_ConfigDB := configAt flash (initialConfig env)

theorem run_HF_Init (fwup : Fwup) : ∃ d, (HF_Init env).run (Device.zero fwup) = .ok ((), d) ∧
    d.g_struZcConfigDb = initialConfig env ∧ d.fwup = fwup :=
  ⟨_, rfl, rfl, rfl⟩

end

theorem toBytes_ne_nil (db : ZC_ConfigDB) : db.toBytes ≠ [] := by
  intro h
  have hlen := length_configDB db
  rw [h] at hlen
  exact absurd hlen (by decide)

section

variable {env : Env} (henv : env.toFlsEnv.Reliable) {d d' : Device}

include henv

/-- A read of the chip by the device. -/
theorem run_read {addr len : Nat} (hlock : d.fwup.fls.fls_lock = 1) (hlen : len ≠ 0) (hchip : addr + len ≤ TOTAL_SIZE) :
    ∃ fwup : Fwup, fwup.fls.flash = d.fwup.fls.flash ∧ fwup.fls.fls_lock = 1 ∧
      (callFwup (callFls (tls_fls_read env.toFlsEnv addr len))).run d =
        .ok ((TLS_FLS_STATUS_OK, chipBytes d.fwup.fls.flash addr len), d.withFwup fwup) :=
  ⟨d.fwup.withFls (d.fwup.fls.withChip d.fwup.fls.flash (d.fwup.fls.operations + 1)), rfl, hlock,
    run_callFwup (run_callFls (run_fls_read henv hlock hlen hchip))⟩

/-- A write of the device to one of the last sectors of the chip. -/
theorem run_write {k : Nat} {buf : List UInt8} (halloc : d.Allocates env) (hlock : d.fwup.fls.fls_lock = 1)
    (hchip : k * SECTOR_SIZE + SECTOR_SIZE ≤ TOTAL_SIZE) (hbuf : buf ≠ []) (hfit : buf.length ≤ SECTOR_SIZE) :
    ∃ fwup : Fwup, fwup.fls.flash = rewrite d.fwup.fls.flash (k * SECTOR_SIZE) buf.length (fun i => buf.getD i 0) ∧
      fwup.fls.fls_lock = 1 ∧
      (callFwup (callFls (tls_fls_write env.toFlsEnv (k * SECTOR_SIZE) buf))).run d =
        .ok (TLS_FLS_STATUS_OK, d.withFwup fwup) := by
  obtain ⟨fls, hrun, hflash, hlock', -⟩ := run_fls_write_sector henv halloc hlock hchip hbuf hfit
  exact ⟨d.fwup.withFls fls, hflash, hlock', run_callFwup (run_callFls hrun)⟩

theorem run_HF_WriteDataToFlash (db : ZC_ConfigDB) (halloc : d.Allocates env) (hlock : d.fwup.fls.fls_lock = 1) :
    ∃ fwup : Fwup, fwup.fls.flash = rewrite d.fwup.fls.flash USER_FLASH_PARAM1_ADDR db.toBytes.length
        (fun i => db.toBytes.getD i 0) ∧
      fwup.fls.fls_lock = 1 ∧ (HF_WriteDataToFlash env db.toBytes).run d = .ok ((), d.withFwup fwup) := by
  obtain ⟨fwup, hflash, hlock', hrun⟩ := @run_write _ henv d 0xF8 db.toBytes halloc hlock (by decide) (toBytes_ne_nil db)
    (by rw [length_configDB]; decide)
  refine ⟨fwup, hflash, hlock', ?_⟩
  rw [HF_WriteDataToFlash, run_bind]
  change (callFwup (callFls (tls_fls_write env.toFlsEnv USER_FLASH_PARAM1_ADDR db.toBytes))).run d = _ at hrun
  rw [hrun]
  rfl

end

theorem take_toBytes {db : ZC_ConfigDB} (hmagic : db.u32MagicFlag = ZC_MAGIC_FLAG) :
    db.toBytes.take 4 = bytesU32 ZC_MAGIC_FLAG := by
  rw [ZC_ConfigDB.toBytes, hmagic]
  rfl

/-- A configuration that is in flash is read. -/
theorem configAt_of_bytes {db memory : ZC_ConfigDB} (hfits : db.Fits) (hmagic : db.u32MagicFlag = ZC_MAGIC_FLAG)
    {flash : Nat → UInt8} (h : chipBytes flash USER_FLASH_PARAM1_ADDR sizeof_ZC_ConfigDB = db.toBytes) :
    configAt flash memory = .ok db := by
  have hflag : chipBytes flash USER_FLASH_PARAM1_ADDR 4 = bytesU32 ZC_MAGIC_FLAG := by
    rw [← take_chipBytes _ _ (show 4 ≤ sizeof_ZC_ConfigDB by decide), h, take_toBytes hmagic]
  rw [configAt, hflag, number_bytesU32 (by decide), if_pos rfl, h, ZC_ConfigDB.ofBytes_toBytes hfits]

/-- A configuration that has been written is in flash. -/
theorem chipBytes_written (db : ZC_ConfigDB) (flash : Nat → UInt8) :
    chipBytes (rewrite flash USER_FLASH_PARAM1_ADDR db.toBytes.length fun i => db.toBytes.getD i 0) USER_FLASH_PARAM1_ADDR
      sizeof_ZC_ConfigDB = db.toBytes := by
  have hlen := Nat.le_of_eq (length_configDB db)
  rw [chipBytes_rewrite _ _ _ (Nat.le_of_eq (length_configDB db).symm), List.take_of_length_le hlen]

theorem initialConfig_fits (env : Env) : (initialConfig env).Fits :=
  ⟨show ZC_MAGIC_FLAG < _ by decide, show 0xFFFFFFFF < _ by decide, show 0 < _ by decide, show 0 < _ by decide,
    show 0 < _ by decide, show 0 < _ by decide, show 0 < _ by decide, show ZC_CLOUD_PORT < _ by decide,
    show 0 < _ by decide⟩

theorem restored_fits {env : Env} {flash : Nat → UInt8} {db : ZC_ConfigDB} (h : restored env flash = .ok db) :
    db.Fits ∧ db.u32MagicFlag = ZC_MAGIC_FLAG := by
  rw [restored, configAt] at h
  split at h
  · rename_i hmagic
    obtain ⟨hfits, hflag⟩ := ofBytes_fits h
    refine ⟨hfits, ?_⟩
    have hload : loadU32 (chipBytes flash USER_FLASH_PARAM1_ADDR sizeof_ZC_ConfigDB) 0 =
        .ok (number (chipBytes flash USER_FLASH_PARAM1_ADDR 4)) := by
      rw [loadU32, load_of_le (by rw [length_chipBytes]; decide)]
      rfl
    rw [← hmagic]
    exact Except.ok.inj (hflag.symm.trans hload)
  · obtain rfl := Except.ok.inj h
    exact ⟨initialConfig_fits env, rfl⟩

/-- The configuration is one that the start of the program gives. -/
structure Device.Saved (env : Env) (d : Device) : Prop where
  fls_lock : d.fwup.fls.fls_lock = 1
  fits : d.g_struZcConfigDb.Fits
  u32MagicFlag : d.g_struZcConfigDb.u32MagicFlag = ZC_MAGIC_FLAG
  restored : restored env d.fwup.fls.flash = .ok d.g_struZcConfigDb

section

variable {env : Env} (henv : env.toFlsEnv.Reliable) {d d' : Device}

include henv

theorem run_HF_ReadDataFromFlash (hlock : d.fwup.fls.fls_lock = 1) :
    ∃ fwup : Fwup, fwup.fls.flash = d.fwup.fls.flash ∧ fwup.fls.fls_lock = 1 ∧
      (HF_ReadDataFromFlash env).run d = (configAt d.fwup.fls.flash d.g_struZcConfigDb).map fun db =>
        ((), { d.withFwup fwup with g_struZcConfigDb := db }) := by
  obtain ⟨fwup₁, hflash₁, hlock₁, hread₁⟩ := @run_read _ henv d USER_FLASH_PARAM1_ADDR 4 hlock (by decide) (by decide)
  obtain ⟨fwup₂, hflash₂, hlock₂, hread₂⟩ := @run_read _ henv (d.withFwup fwup₁) USER_FLASH_PARAM1_ADDR sizeof_ZC_ConfigDB
    hlock₁ (by decide) (by decide)
  have hsame : (d.withFwup fwup₁).fwup.fls.flash = d.fwup.fls.flash := hflash₁
  rw [hsame] at hread₂ hflash₂
  by_cases hmagic : number (chipBytes d.fwup.fls.flash USER_FLASH_PARAM1_ADDR 4) = ZC_MAGIC_FLAG
  · refine ⟨fwup₂, hflash₂, hlock₂, ?_⟩
    simp only [HF_ReadDataFromFlash, run_bind, hread₁, ok_bind, hmagic, ↓reduceIte, hread₂, configAt]
    cases ZC_ConfigDB.ofBytes (chipBytes d.fwup.fls.flash USER_FLASH_PARAM1_ADDR sizeof_ZC_ConfigDB) with
    | error e => rfl
    | ok db => rfl
  · refine ⟨fwup₁, hflash₁, hlock₁, ?_⟩
    simp only [HF_ReadDataFromFlash, run_bind, hread₁, ok_bind, hmagic, ↓reduceIte, configAt]
    rfl

/-- The start of the program ends if the configuration can be restored, and gives that one. -/
theorem run_powerOn {fwup : Fwup} (hlock : fwup.fls.fls_lock = 1) : ∃ d : Device,
    d.fwup.fls.flash = fwup.fls.flash ∧ d.fwup.fls.fls_lock = 1 ∧
      (powerOn env).run (Device.zero fwup) = (restored env fwup.fls.flash).map fun db =>
        ((), { d with g_struZcConfigDb := db }) := by
  obtain ⟨d₁, hinit, hconfig, rfl⟩ := run_HF_Init env fwup
  obtain ⟨fwup₂, hflash, hlock₂, hread⟩ := run_HF_ReadDataFromFlash henv hlock
  refine ⟨d₁.withFwup fwup₂, hflash, hlock₂, ?_⟩
  rw [powerOn, run_bind, hinit, ok_bind, hread, hconfig, restored]

theorem survives_iff : d.Survives env ↔ restored env d.fwup.fls.flash = .ok d.g_struZcConfigDb := by
  obtain ⟨d₁, -, -, hrun⟩ := @run_powerOn _ henv d.fwup.reboot rfl
  have hflash : d.fwup.reboot.fls.flash = d.fwup.fls.flash := rfl
  rw [Device.Survives, hrun, hflash]
  cases restored env d.fwup.fls.flash with
  | error e =>
    constructor
    · rintro ⟨d', hd', -⟩
      cases hd'
    · intro h
      cases h
  | ok db =>
    constructor
    · rintro ⟨d', hd', hsame⟩
      cases hd'
      exact congrArg _ hsame
    · intro h
      exact ⟨_, rfl, Except.ok.inj h⟩

theorem Started.saved (h : d.Started env) : d.Saved env := by
  obtain ⟨fwup, -, -, hlock, hrun⟩ := h
  obtain ⟨d₁, hflash, hlock₁, hpower⟩ := run_powerOn henv hlock
  rw [hpower] at hrun
  cases hrestored : restored env fwup.fls.flash with
  | error e =>
    rw [hrestored] at hrun
    cases hrun
  | ok db =>
    rw [hrestored] at hrun
    cases hrun
    obtain ⟨hfits, hmagic⟩ := restored_fits hrestored
    exact ⟨hlock₁, hfits, hmagic, (congrArg _ hflash).trans hrestored⟩

theorem Device.Saved.survives (h : d.Saved env) : d.Survives env := (survives_iff henv).mpr h.restored

omit henv in
/-- What changes neither the configuration nor the chip. -/
theorem Device.Saved.of_store (h : d.Saved env) (hstore : d'.store = d.store) : d'.Saved env := by
  obtain ⟨hconfig, hflash, hlock⟩ : d'.g_struZcConfigDb = d.g_struZcConfigDb ∧ d'.fwup.fls.flash = d.fwup.fls.flash ∧
      d'.fwup.fls.fls_lock = d.fwup.fls.fls_lock := by simpa [Device.store] using hstore
  exact ⟨hlock.trans h.fls_lock, hconfig ▸ h.fits, hconfig ▸ h.u32MagicFlag, by rw [hflash, hconfig]; exact h.restored⟩

/-- Once the configuration is written, it is the one that is restored. -/
theorem writeConfig_saved (h : (writeConfig env).run d = .ok ((), d')) (halloc : d.Allocates env)
    (hlock : d.fwup.fls.fls_lock = 1) (hfits : d.g_struZcConfigDb.Fits)
    (hmagic : d.g_struZcConfigDb.u32MagicFlag = ZC_MAGIC_FLAG) : d'.Saved env := by
  obtain ⟨fwup, hflash, hlock', hrun⟩ := run_HF_WriteDataToFlash henv d.g_struZcConfigDb halloc hlock
  rw [writeConfig, run_get_bind, hrun] at h
  cases h
  refine ⟨hlock', hfits, hmagic, ?_⟩
  change restored env fwup.fls.flash = .ok d.g_struZcConfigDb
  rw [hflash]
  exact configAt_of_bytes hfits hmagic (chipBytes_written _ _)

theorem ZC_ConfigPara_saved {pu8Data : List UInt8} (halloc : d.Allocates env) (hd : d.Saved env)
    (h : (ZC_ConfigPara env pu8Data).run d = .ok ((), d')) : d'.Saved env := by
  rw [ZC_ConfigPara, run_get_bind] at h
  obtain ⟨db, d₁, hdb, hrest⟩ := run_bind_eq_ok.mp h
  obtain ⟨hconfigured, rfl⟩ := run_lift_eq_ok.mp hdb
  obtain ⟨_, d₂, hmodify, hwrite⟩ := run_bind_eq_ok.mp hrest
  obtain rfl := run_modify_eq_ok.mp hmodify
  obtain ⟨hfits, hmagic⟩ := configured_fits hd.fits hconfigured
  exact writeConfig_saved henv hwrite halloc hd.fls_lock hfits (hmagic.trans hd.u32MagicFlag)

theorem ZC_StoreTokenKey_saved {pu8Data : List UInt8} (halloc : d.Allocates env) (hd : d.Saved env)
    (h : (ZC_StoreTokenKey env pu8Data).run d = .ok ((), d')) : d'.Saved env := by
  obtain ⟨key, d₁, hkey, hrest⟩ := run_bind_eq_ok.mp h
  obtain ⟨-, rfl⟩ := run_lift_eq_ok.mp hkey
  obtain ⟨_, d₂, hmodify, hwrite⟩ := run_bind_eq_ok.mp hrest
  obtain rfl := run_modify_eq_ok.mp hmodify
  have hfits := hd.fits
  exact writeConfig_saved henv hwrite halloc hd.fls_lock
    ⟨hfits.1, hfits.2, hfits.3, hfits.4, hfits.5, hfits.6, hfits.7, hfits.8, hfits.9⟩ hd.u32MagicFlag

theorem ZC_StoreAccessInfo_saved {ip port : Nat} (hip : ip < 4294967296) (hport : port < 65536)
    (halloc : d.Allocates env) (hd : d.Saved env)
    (h : (ZC_StoreAccessInfo env ip port).run d = .ok ((), d')) : d'.Saved env := by
  obtain ⟨_, d₂, hmodify, hwrite⟩ := run_bind_eq_ok.mp h
  obtain rfl := run_modify_eq_ok.mp hmodify
  have hfits := hd.fits
  exact writeConfig_saved henv hwrite halloc hd.fls_lock
    ⟨hfits.1, show ZC_MAGIC_FLAG < _ by decide, hfits.3, hfits.4, hfits.5, show 1 < _ by decide, hip, hport, hfits.9⟩
    hd.u32MagicFlag

theorem ZC_StoreConnectionInfo_saved {pu8Ssid pu8Password : List UInt8} (halloc : d.Allocates env) (hd : d.Saved env)
    (h : (ZC_StoreConnectionInfo env pu8Ssid pu8Password).run d = .ok ((), d')) : d'.Saved env := by
  obtain ⟨ssid, d₁, hssid, hrest⟩ := run_bind_eq_ok.mp h
  obtain ⟨-, rfl⟩ := run_lift_eq_ok.mp hssid
  obtain ⟨password, d₂, hpassword, hstore⟩ := run_bind_eq_ok.mp hrest
  obtain ⟨-, rfl⟩ := run_lift_eq_ok.mp hpassword
  obtain ⟨_, d₃, hmodify, hwrite⟩ := run_bind_eq_ok.mp hstore
  obtain rfl := run_modify_eq_ok.mp hmodify
  have hfits := hd.fits
  exact writeConfig_saved henv hwrite halloc hd.fls_lock
    ⟨hfits.1, show ZC_MAGIC_FLAG < _ by decide, hfits.3, hfits.4, hfits.5, hfits.6, hfits.7, hfits.8, hfits.9⟩
    hd.u32MagicFlag

omit henv in
theorem store_of_unsent (h : d'.unsent = d.unsent) : d'.store = d.store := by
  have := congrArg Device.store h
  exact this

end

section

variable (env : Env)

theorem sendEmpty_store (u8MsgId u8SecType : UInt8) : Keeps Device.store (PCT_SendEmptyMsg env u8MsgId u8SecType) :=
  moves_mono (PCT_SendEmptyMsg_aside env u8MsgId u8SecType) fun h => store_of_unsent h.view_eq

theorem sendAck_store (u8MsgId : UInt8) : Keeps Device.store (PCT_SendAckToCloud env u8MsgId) :=
  moves_mono (PCT_SendAckToCloud_aside env u8MsgId) fun h => store_of_unsent h.view_eq

theorem notify_store (u8NotifyCode : ZC_MsgCode) : Keeps Device.store (PCT_SendNotifyMsg env u8NotifyCode) :=
  moves_mono (PCT_SendNotifyMsg_aside env (P := fun _ => True) trivial) fun h => store_of_unsent h.view_eq

theorem PCT_DisConnectCloud_store : Keeps Device.store (PCT_DisConnectCloud env) :=
  moves_bind (moves_modify fun _ => rfl) fun _ => moves_bind (moves_modify fun _ => rfl) fun _ =>
    moves_bind (moves_modify fun _ => rfl) fun _ => notify_store env _

theorem draw_store {α : Type} (answer : Nat → α) : Keeps Device.store (draw answer) := by
  intro d a d' h
  obtain ⟨-, rfl⟩ := run_draw_eq_ok.mp h
  rfl

theorem drawBytes_store (stack : Nat → UInt8) (len : Nat) : Keeps Device.store (drawBytes stack len) := by
  induction len with
  | zero => exact moves_pure _
  | succ len ih => exact moves_bind (draw_store _) fun _ => moves_bind ih fun _ => moves_pure _

theorem untimed_store : Untimed Device.store := fun _ _ _ _ _ _ _ => rfl

theorem PCT_SendCloudAccessMsg3_store : Keeps Device.store (PCT_SendCloudAccessMsg3 env) := by
  have hbuild : ∀ payload, Keeps Device.store (buildMsg ZC_CODE_HANDSHAKE_3 1 payload) := fun payload =>
    moves_mono (@buildMsg_aside (fun _ => True) _ _ payload) fun h => store_of_unsent h.view_eq
  have hsend : ∀ msg, Keeps Device.store (sendBuilt env ZC_SEC_ALG_AES msg) := fun msg =>
    moves_mono (sendBuilt_aside env _ msg) fun h => store_of_unsent h.view_eq
  exact moves_bind (drawBytes_store _ _) fun _ => moves_bind moves_get fun _ =>
    moves_bind (moves_modify fun _ => rfl) fun _ => moves_bind (hbuild _) fun _ => moves_bind (hsend _) fun _ =>
      moves_bind (moves_modify fun _ => rfl) fun _ => moves_bind (HF_SetTimer_keeps untimed_store env _ _) fun _ => moves_pure _

end

section

variable {env : Env} {d d' : Device}

theorem PCT_SetTokenKey_saved (henv : env.toFlsEnv.Reliable) {view : List UInt8} (halloc : d.Allocates env)
    (hd : d.Saved env) (h : (PCT_SetTokenKey env view).run d = .ok ((), d')) : d'.Saved env := by
  obtain ⟨_, d₁, hstore, hrest⟩ := run_bind_eq_ok.mp h
  have hsaved := ZC_StoreTokenKey_saved henv halloc hd hstore
  have hkeeps := moves_bind (moves_lift (pstruMsgId view)) fun MsgId =>
    moves_bind (sendEmpty_store env MsgId ZC_SEC_ALG_AES) fun _ => sendAck_store env MsgId
  exact hsaved.of_store (hkeeps hrest)

theorem acceptMsg2_saved (henv : env.toFlsEnv.Reliable) {view : List UInt8} (halloc : d.Allocates env)
    (hd : d.Saved env) (h : (acceptMsg2 env view).run d = .ok ((), d')) : d'.Saved env := by
  -- the timer is stopped before anything is written
  obtain ⟨_, d₁, hstop, hrest⟩ := run_bind_eq_ok.mp h
  have hfwup : d₁.fwup = d.fwup := @TIMER_StopTimer_keeps _ Device.fwup (fun _ _ _ _ _ _ _ => rfl) _ _ _ _ hstop
  have hsaved := hd.of_store (TIMER_StopTimer_keeps untimed_store _ hstop)
  have halloc₁ : d₁.Allocates env := by rwa [Device.Allocates, hfwup]
  obtain ⟨rand, _, hload, h₁⟩ := run_bind_eq_ok.mp hrest
  obtain ⟨-, rfl⟩ := run_lift_eq_ok.mp hload
  obtain ⟨c, _, hget, h₂⟩ := run_bind_eq_ok.mp h₁
  obtain ⟨-, rfl⟩ := run_pure_eq_ok.mp hget
  split at h₂
  · obtain ⟨code, _, hload, h₃⟩ := run_bind_eq_ok.mp h₂
    obtain ⟨-, rfl⟩ := run_lift_eq_ok.mp hload
    split at h₃
    · obtain ⟨key, _, hload, h₄⟩ := run_bind_eq_ok.mp h₃
      obtain ⟨-, rfl⟩ := run_lift_eq_ok.mp hload
      obtain ⟨_, d₂, hmodify, h₅⟩ := run_bind_eq_ok.mp h₄
      obtain rfl := run_modify_eq_ok.mp hmodify
      have hsent := PCT_SendCloudAccessMsg3_store env h₅
      exact hsaved.of_store hsent
    · obtain ⟨addr, _, hload, h₄⟩ := run_bind_eq_ok.mp h₃
      obtain ⟨-, rfl⟩ := run_lift_eq_ok.mp hload
      obtain ⟨port, _, hload, h₅⟩ := run_bind_eq_ok.mp h₄
      obtain ⟨-, rfl⟩ := run_lift_eq_ok.mp hload
      obtain ⟨_, d₂, hstore, h₆⟩ := run_bind_eq_ok.mp h₅
      have hstored := ZC_StoreAccessInfo_saved henv (ZC_HTONL_lt _) (ZC_HTONS_lt _) halloc₁ hsaved hstore
      exact hstored.of_store (PCT_DisConnectCloud_store env h₆)
  · exact hsaved.of_store (PCT_DisConnectCloud_store env h₂)

/-- A reset of the network leaves the flash as it is. -/
theorem PCT_ResetNetWork_store {view : List UInt8} (h : (PCT_ResetNetWork env view).run d = .ok ((), d')) :
    d'.store = (ZC_ConfigInitPara d.g_struZcConfigDb, d.fwup.fls.flash, d.fwup.fls.fls_lock) := by
  obtain ⟨_, d₁, hinit, hrest⟩ := run_bind_eq_ok.mp h
  obtain rfl := run_modify_eq_ok.mp hinit
  have hkeeps := moves_bind (PCT_DisConnectCloud_store env) fun _ => moves_bind (moves_lift (pstruMsgId view)) fun MsgId =>
    moves_bind (sendEmpty_store env MsgId ZC_SEC_ALG_AES) fun _ => sendAck_store env MsgId
  exact hkeeps hrest

theorem ConfigEvent.saves (henv : env.toFlsEnv.Reliable) {event : ConfigEvent} (hd : d.Saved env) (henabled : event.enabled)
    (hguard : event.guarded env d) (h : (event.handle env).run d = .ok ((), d')) : d'.Saved env := by
  cases event with
  | config pu8Payload => exact ZC_ConfigPara_saved henv hguard hd h
  | tokenSet view => exact PCT_SetTokenKey_saved henv hguard hd h
  | accessPoint view => exact acceptMsg2_saved henv hguard hd h
  | resetNetwork view =>
    refine hd.of_store ((PCT_ResetNetWork_store h).trans ?_)
    rw [hguard]
    rfl
  | connectionInfo pu8Ssid pu8Password => exact ZC_StoreConnectionInfo_saved henv hguard hd h
  | elsewhere x => exact hd.of_store (henabled h)

/-- A reset of the network is forgotten, if it changes anything. -/
theorem Device.Saved.reset_iff (henv : env.toFlsEnv.Reliable) {view : List UInt8} (hd : d.Saved env)
    (h : (PCT_ResetNetWork env view).run d = .ok ((), d')) :
    d'.Survives env ↔ ZC_ConfigInitPara d.g_struZcConfigDb = d.g_struZcConfigDb := by
  have hstore := PCT_ResetNetWork_store h
  simp only [Device.store, Prod.mk.injEq] at hstore
  rw [survives_iff henv, hstore.1, hstore.2.1, hd.restored, Except.ok.injEq, eq_comm]

/-- In every run in which no reset of the network changes the configuration, and no write
of it lacks memory, it survives a loss of power at any time; a reset that does change it
is forgotten. -/
theorem configuration_survives {d₀ : Device} (henv : env.toFlsEnv.Reliable) (hstarted : d₀.Started env)
    (h : Runs (ConfigEvent.handle env) (fun d event => event.enabled ∧ event.guarded env d) d₀ d) :
    d.Survives env ∧ ∀ view d', (PCT_ResetNetWork env view).run d = .ok ((), d') →
      (d'.Survives env ↔ ConfigEvent.guarded env d (.resetNetwork view)) := by
  have hsaved := h.invariant (Started.saved henv hstarted) fun _ _ _ ht hallowed hrun =>
    ConfigEvent.saves henv ht hallowed.1 hallowed.2 hrun
  exact ⟨hsaved.survives henv, fun view d' hrun => hsaved.reset_iff henv hrun⟩

theorem soundEnv_works : soundEnv.toFlsEnv.Works := ⟨fun _ => rfl, fun _ => rfl⟩

theorem started_of_boot {d : Device} (h : Device.boot soundEnv blankFwup = some d) : d.Started soundEnv :=
  Device.boot_started ⟨rfl, rfl, rfl⟩ h

/-- A network is stored, and power is lost. -/
theorem configuration_survives_connection : ∃ d : Device,
    d.g_struZcConfigDb.struConnection.u32MagicFlag = ZC_MAGIC_FLAG ∧ d.Survives soundEnv := by
  obtain ⟨d₀, hboot⟩ : ∃ d₀, Device.boot soundEnv blankFwup = some d₀ := Option.isSome_iff_exists.mp (by decide +kernel)
  have hstarted := started_of_boot hboot
  have hsaved := Started.saved soundEnv_works.io hstarted
  let db : ZC_ConfigDB :=
    { d₀.g_struZcConfigDb with struConnection := ⟨ZC_MAGIC_FLAG, Mem.fill _ 0, Mem.fill _ 0⟩ }
  obtain ⟨fwup, -, -, hwrite⟩ := @run_HF_WriteDataToFlash _ soundEnv_works.io { d₀ with g_struZcConfigDb := db } db
    (soundEnv_works.alloc _) hsaved.fls_lock
  have hrun : (ConfigEvent.handle soundEnv (.connectionInfo (List.replicate 32 0) (List.replicate 64 0))).run d₀ =
      .ok ((), { d₀ with g_struZcConfigDb := db }.withFwup fwup) := hwrite
  exact ⟨_, rfl, (configuration_survives soundEnv_works.io hstarted (.step .refl (by exact ⟨trivial, soundEnv_works.alloc _⟩) hrun)).1⟩

/-- A reset of the network after the first start: it is only done in memory. -/
theorem reset_forgotten : ¬ ∀ d₀ d : Device, d₀.Started soundEnv →
    Runs (ConfigEvent.handle soundEnv) (fun _ event => event.enabled) d₀ d → d.Survives soundEnv := by
  intro h
  have hrun : (Device.boot soundEnv blankFwup).map (fun d =>
      (((PCT_ResetNetWork soundEnv (List.replicate 8 0)).run d).isOk, d.g_struZcConfigDb.struSwitchInfo.u32SecSwitch)) =
        some (true, 0) := by decide +kernel
  obtain ⟨d₀, hboot, hview⟩ := Option.map_eq_some_iff.mp hrun
  simp only [Prod.mk.injEq] at hview
  have hstarted := started_of_boot hboot
  cases hreset : (PCT_ResetNetWork soundEnv (List.replicate 8 0)).run d₀ with
  | error e =>
    rw [hreset] at hview
    cases hview.1
  | ok r =>
    have hsurvives := h d₀ r.2 hstarted (@Runs.step _ _ _ _ _ _ _ (.resetNetwork (List.replicate 8 0)) .refl trivial hreset)
    have hsame := ((Started.saved soundEnv_works.io hstarted).reset_iff soundEnv_works.io hreset).mp hsurvives
    have hswitch := congrArg (fun db => db.struSwitchInfo.u32SecSwitch) hsame
    exact absurd (hswitch.trans hview.2) Nat.one_ne_zero

end

end ZCloud
