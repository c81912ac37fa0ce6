import ZCloud.Common

open Memory

namespace ZCloud

def ZC_HS_MSG_LEN : Nat := 32
def ZC_HS_DEVICE_ID_LEN : Nat := 16
def ZC_HS_SESSION_KEY_LEN : Nat := 16
def ZC_MODULE_KEY_LEN : Nat := 112
def ZC_DOMAIN_LEN : Nat := 8
def ZC_EQVERSION_LEN : Nat := 4
def ZC_SSID_MAX_LEN : Nat := 32
def ZC_PASSWORD_MAX_LEN : Nat := 64
def ZC_CLOUD_ADDR_MAX_LEN : Nat := 20
def ZC_CLOUD_KEY_MAX_LEN : Nat := 36
def ZC_MAGIC_FLAG : Nat := 0x04083207
def ZC_CLOUD_PORT : Nat := 9100

structure ZC_SwitchInfo where
  u32TraceSwitch : Nat
  u32SecSwitch : Nat
  u32WifiConfig : Nat
  u32ServerAddrConfig : Nat
  u8Ssid : Mem ZC_SSID_MAX_LEN
  u8Password : Mem ZC_PASSWORD_MAX_LEN
  u32ServerIp : Nat
  u16ServerPort : Nat
  u16Pad : Nat

structure ZC_CloudInfo where
  u8CloudKey : Mem ZC_CLOUD_KEY_MAX_LEN
  u8CloudAddr : Mem ZC_CLOUD_ADDR_MAX_LEN
  u8TokenKey : Mem ZC_HS_SESSION_KEY_LEN

structure ZC_ConnectionInfo where
  u32MagicFlag : Nat
  u8Ssid : Mem ZC_SSID_MAX_LEN
  u8Password : Mem ZC_PASSWORD_MAX_LEN

structure ZC_ConfigDB where
  u32MagicFlag : Nat
  struConnection : ZC_ConnectionInfo
  struCloudInfo : ZC_CloudInfo
  struSwitchInfo : ZC_SwitchInfo

/-- The configuration as it lies in memory and in flash. -/
def ZC_ConfigDB.toBytes (db : ZC_ConfigDB) : List UInt8 :=
  bytesU32 db.u32MagicFlag ++
    (bytesU32 db.struConnection.u32MagicFlag ++ db.struConnection.u8Ssid.bytes ++
      db.struConnection.u8Password.bytes) ++
    (db.struCloudInfo.u8CloudKey.bytes ++ db.struCloudInfo.u8CloudAddr.bytes ++
      db.struCloudInfo.u8TokenKey.bytes) ++
    (bytesU32 db.struSwitchInfo.u32TraceSwitch ++ bytesU32 db.struSwitchInfo.u32SecSwitch ++
      bytesU32 db.struSwitchInfo.u32WifiConfig ++ bytesU32 db.struSwitchInfo.u32ServerAddrConfig ++
      db.struSwitchInfo.u8Ssid.bytes ++ db.struSwitchInfo.u8Password.bytes ++
      bytesU32 db.struSwitchInfo.u32ServerIp ++ bytesU16 db.struSwitchInfo.u16ServerPort ++
      bytesU16 db.struSwitchInfo.u16Pad)

structure ZC_RegisterInfo where
  u8PrivateKey : Mem ZC_MODULE_KEY_LEN
  u8DeviciId : Mem (ZC_HS_DEVICE_ID_LEN + ZC_DOMAIN_LEN)
  u8EqVersion : Mem ZC_EQVERSION_LEN

def ZC_RegisterInfo.toBytes (info : ZC_RegisterInfo) : List UInt8 :=
  info.u8PrivateKey.bytes ++ info.u8DeviciId.bytes ++ info.u8EqVersion.bytes

def sizeof_ZC_RegisterInfo : Nat := 140

def g_u8DefaultCloudKey : Mem ZC_CLOUD_KEY_MAX_LEN where
  bytes :=
    [ 0xb8, 0xd9, 0x35, 0xe4, 0xd6, 0xd8, 0xf2, 0xd6, 0xc8, 0x28, 0x2f, 0x9f,
      0xd9, 0x62, 0x48, 0xc7, 0x96, 0xa9, 0xed, 0x5b, 0x5a, 0x1a, 0x95, 0x59,
      0xd2, 0x3c, 0xbb, 0x5f, 0x1b, 0x03, 0x07, 0x3f, 0x01, 0x00, 0x01, 0x00 ]
  size := rfl

def g_u8DefaultTokenKey : Mem ZC_HS_SESSION_KEY_LEN where
  bytes :=
    [ 0x01, 0x02, 0x03, 0x04, 0x05, 0x05, 0x05, 0x05,
      0x05, 0x05, 0x05, 0x05, 0x05, 0x05, 0x05, 0x05 ]
  size := rfl

/-- `"device.ablecloud.cn"`, with its zero. -/
def defaultCloudAddr : Mem ZC_CLOUD_ADDR_MAX_LEN where
  bytes :=
    [ 0x64, 0x65, 0x76, 0x69, 0x63, 0x65, 0x2e, 0x61, 0x62, 0x6c,
      0x65, 0x63, 0x6c, 0x6f, 0x75, 0x64, 0x2e, 0x63, 0x6e, 0x00 ]
  size := rfl

/-- `"test.ablecloud.cn"`, with its zero: two bytes less than are copied from it. -/
def testCloudAddr : List UInt8 :=
  [ 0x74, 0x65, 0x73, 0x74, 0x2e, 0x61, 0x62, 0x6c, 0x65,
    0x63, 0x6c, 0x6f, 0x75, 0x64, 0x2e, 0x63, 0x6e, 0x00 ]

def ZC_ConfigInitPara (db : ZC_ConfigDB) : ZC_ConfigDB where
  u32MagicFlag := ZC_MAGIC_FLAG
  struConnection := { db.struConnection with u32MagicFlag := 0xFFFFFFFF }
  struCloudInfo :=
    { u8CloudKey := g_u8DefaultCloudKey
      u8CloudAddr := defaultCloudAddr
      u8TokenKey := g_u8DefaultTokenKey }
  struSwitchInfo :=
    { db.struSwitchInfo with
      u32SecSwitch := 1
      u32TraceSwitch := 0
      u32WifiConfig := 0
      u32ServerAddrConfig := 0
      u16ServerPort := ZC_CLOUD_PORT }

/-- The configuration with what the `ZC_Configuration` at the start of the
object `view` holds. -/
def ZC_ConfigDB.configured (db : ZC_ConfigDB) (view : List UInt8) : Except Fault ZC_ConfigDB := do
  let u32TraceSwitch := ZC_HTONL (← loadU32 view 0)
  let u32SecSwitch := ZC_HTONL (← loadU32 view 4)
  let u32WifiConfig := ZC_HTONL (← loadU32 view 8)
  let u32ServerAddrConfig := ZC_HTONL (← loadU32 view 12)
  let u8Ssid ← loadMem view 16 ZC_SSID_MAX_LEN
  let u8Password ← loadMem view 48 ZC_PASSWORD_MAX_LEN
  let u32ServerIp := ZC_HTONL (← loadU32 view 112)
  let u8CloudAddr ← loadMem view 116 ZC_CLOUD_ADDR_MAX_LEN
  let u8CloudKey ← loadMem view 136 ZC_CLOUD_KEY_MAX_LEN
  let u16ServerPort := ZC_HTONS (← loadU16 view 172)
  return { db with
    struCloudInfo := { db.struCloudInfo with u8CloudAddr := u8CloudAddr, u8CloudKey := u8CloudKey }
    struSwitchInfo := { db.struSwitchInfo with
      u32TraceSwitch := u32TraceSwitch
      u32SecSwitch := u32SecSwitch
      u32WifiConfig := u32WifiConfig
      u32ServerAddrConfig := u32ServerAddrConfig
      u8Ssid := u8Ssid
      u8Password := u8Password
      u32ServerIp := u32ServerIp
      u16ServerPort := u16ServerPort } }

/-- The register information in the `ZC_RegisterReq` at the start of the object
`view`. -/
def registerInfo (view : List UInt8) : Except Fault ZC_RegisterInfo := do
  let u8ModuleKey ← loadMem view 4 ZC_MODULE_KEY_LEN
  let u8DeviceId ← loadMem view 124 ZC_HS_DEVICE_ID_LEN
  let u8Domain ← loadMem view 116 ZC_DOMAIN_LEN
  let u8EqVersion ← loadMem view 0 ZC_EQVERSION_LEN
  return { u8PrivateKey := u8ModuleKey
           u8DeviciId := Mem.append u8DeviceId u8Domain
           u8EqVersion := u8EqVersion }

/-- The configuration in bytes of memory. -/
def ZC_ConfigDB.ofBytes (bytes : List UInt8) : Except Fault ZC_ConfigDB := do
  let struConnection : ZC_ConnectionInfo :=
    { u32MagicFlag := ← loadU32 bytes 4
      u8Ssid := ← loadMem bytes 8 ZC_SSID_MAX_LEN
      u8Password := ← loadMem bytes 40 ZC_PASSWORD_MAX_LEN }
  let struCloudInfo : ZC_CloudInfo :=
    { u8CloudKey := ← loadMem bytes 104 ZC_CLOUD_KEY_MAX_LEN
      u8CloudAddr := ← loadMem bytes 140 ZC_CLOUD_ADDR_MAX_LEN
      u8TokenKey := ← loadMem bytes 160 ZC_HS_SESSION_KEY_LEN }
  let struSwitchInfo : ZC_SwitchInfo :=
    { u32TraceSwitch := ← loadU32 bytes 176
      u32SecSwitch := ← loadU32 bytes 180
      u32WifiConfig := ← loadU32 bytes 184
      u32ServerAddrConfig := ← loadU32 bytes 188
      u8Ssid := ← loadMem bytes 192 ZC_SSID_MAX_LEN
      u8Password := ← loadMem bytes 224 ZC_PASSWORD_MAX_LEN
      u32ServerIp := ← loadU32 bytes 288
      u16ServerPort := ← loadU16 bytes 292
      u16Pad := ← loadU16 bytes 294 }
  return ⟨← loadU32 bytes 0, struConnection, struCloudInfo, struSwitchInfo⟩

def sizeof_ZC_ConfigDB : Nat := 296

/-- The register information in bytes of memory. -/
def ZC_RegisterInfo.ofBytes (bytes : List UInt8) : Except Fault ZC_RegisterInfo := do
  let u8PrivateKey ← loadMem bytes 0 ZC_MODULE_KEY_LEN
  let u8DeviciId ← loadMem bytes 112 (ZC_HS_DEVICE_ID_LEN + ZC_DOMAIN_LEN)
  let u8EqVersion ← loadMem bytes 136 ZC_EQVERSION_LEN
  return ⟨u8PrivateKey, u8DeviciId, u8EqVersion⟩

theorem length_registerInfo (info : ZC_RegisterInfo) : info.toBytes.length = sizeof_ZC_RegisterInfo := by
  simp only [ZC_RegisterInfo.toBytes, List.length_append, Mem.length_bytes]
  rfl

theorem length_configDB (db : ZC_ConfigDB) : db.toBytes.length = sizeof_ZC_ConfigDB := by
  simp only [ZC_ConfigDB.toBytes, List.length_append, Mem.length_bytes, length_bytesU32, length_bytesU16]
  rfl

/-- Every field has a value that its type can hold. -/
structure ZC_ConfigDB.Fits (db : ZC_ConfigDB) : Prop where
  u32MagicFlag : db.u32MagicFlag < 4294967296
  connectionMagic : db.struConnection.u32MagicFlag < 4294967296
  u32TraceSwitch : db.struSwitchInfo.u32TraceSwitch < 4294967296
  u32SecSwitch : db.struSwitchInfo.u32SecSwitch < 4294967296
  u32WifiConfig : db.struSwitchInfo.u32WifiConfig < 4294967296
  u32ServerAddrConfig : db.struSwitchInfo.u32ServerAddrConfig < 4294967296
  u32ServerIp : db.struSwitchInfo.u32ServerIp < 4294967296
  u16ServerPort : db.struSwitchInfo.u16ServerPort < 65536
  u16Pad : db.struSwitchInfo.u16Pad < 65536

theorem ZC_ConfigDB.Fits.switched {db : ZC_ConfigDB} (h : db.Fits) {connection : ZC_ConnectionInfo} (cloud : ZC_CloudInfo)
    (ssid : Mem ZC_SSID_MAX_LEN) (password : Mem ZC_PASSWORD_MAX_LEN) {trace sec wifi addr ip port : Nat}
    (hconnection : connection.u32MagicFlag < 4294967296) (htrace : trace < 4294967296) (hsec : sec < 4294967296)
    (hwifi : wifi < 4294967296) (haddr : addr < 4294967296) (hip : ip < 4294967296) (hport : port < 65536) :
    ZC_ConfigDB.Fits ⟨db.u32MagicFlag, connection, cloud,
      ⟨trace, sec, wifi, addr, ssid, password, ip, port, db.struSwitchInfo.u16Pad⟩⟩ :=
  ⟨h.u32MagicFlag, hconnection, htrace, hsec, hwifi, haddr, hip, hport, h.u16Pad⟩

theorem configured_fits {db db' : ZC_ConfigDB} {view : List UInt8} (h : db.Fits) (hrun : db.configured view = .ok db') :
    db'.Fits ∧ db'.u32MagicFlag = db.u32MagicFlag := by
  unfold ZC_ConfigDB.configured at hrun
  obtain ⟨trace, -, hrun⟩ := bind_eq_ok.mp hrun
  obtain ⟨sec, -, hrun⟩ := bind_eq_ok.mp hrun
  obtain ⟨wifi, -, hrun⟩ := bind_eq_ok.mp hrun
  obtain ⟨addr, -, hrun⟩ := bind_eq_ok.mp hrun
  obtain ⟨ssid, -, hrun⟩ := bind_eq_ok.mp hrun
  obtain ⟨password, -, hrun⟩ := bind_eq_ok.mp hrun
  obtain ⟨ip, -, hrun⟩ := bind_eq_ok.mp hrun
  obtain ⟨cloudAddr, -, hrun⟩ := bind_eq_ok.mp hrun
  obtain ⟨cloudKey, -, hrun⟩ := bind_eq_ok.mp hrun
  obtain ⟨port, -, hrun⟩ := bind_eq_ok.mp hrun
  obtain rfl := Except.ok.inj hrun
  have hfits := h.switched { db.struCloudInfo with u8CloudAddr := cloudAddr, u8CloudKey := cloudKey } ssid password
    h.connectionMagic (ZC_HTONL_lt trace) (ZC_HTONL_lt sec) (ZC_HTONL_lt wifi) (ZC_HTONL_lt addr) (ZC_HTONL_lt ip)
    (ZC_HTONS_lt port)
  exact ⟨hfits, rfl⟩

theorem ofBytes_fits {bytes : List UInt8} {db : ZC_ConfigDB} (h : ZC_ConfigDB.ofBytes bytes = .ok db) :
    db.Fits ∧ loadU32 bytes 0 = .ok db.u32MagicFlag := by
  unfold ZC_ConfigDB.ofBytes at h
  simp only [bind_eq_ok] at h
  obtain ⟨_, hmagic, _, -, _, -, _, -, _, -, _, -, _, htrace, _, hsec, _, hwifi, _, haddr, _, -, _, -, _, hip, _, hport,
    _, hpad, _, hflag, hdb⟩ := h
  cases hdb
  exact ⟨⟨loadU32_lt hflag, loadU32_lt hmagic, loadU32_lt htrace, loadU32_lt hsec, loadU32_lt hwifi, loadU32_lt haddr,
    loadU32_lt hip, loadU16_lt hport, loadU16_lt hpad⟩, hflag⟩

theorem ZC_ConfigDB.ofBytes_toBytes {db : ZC_ConfigDB} (h : db.Fits) : ZC_ConfigDB.ofBytes db.toBytes = .ok db := by
  have hssid (m : Mem ZC_SSID_MAX_LEN) : m.bytes.length = 32 := m.size
  have hpassword (m : Mem ZC_PASSWORD_MAX_LEN) : m.bytes.length = 64 := m.size
  have hkey (m : Mem ZC_CLOUD_KEY_MAX_LEN) : m.bytes.length = 36 := m.size
  have haddr (m : Mem ZC_CLOUD_ADDR_MAX_LEN) : m.bytes.length = 20 := m.size
  have htoken (m : Mem ZC_HS_SESSION_KEY_LEN) : m.bytes.length = 16 := m.size
  rw [← List.append_nil db.toBytes]
  simp only [ZC_ConfigDB.toBytes, List.append_assoc, ZC_ConfigDB.ofBytes]
  -- every field is reached by leaving out those before it
  simp (disch := simp -implicitDefEqProofs [hssid, hpassword, hkey, haddr, htoken, h.u32MagicFlag, h.connectionMagic,
      h.u32TraceSwitch, h.u32SecSwitch, h.u32WifiConfig, h.u32ServerAddrConfig, h.u32ServerIp, h.u16ServerPort,
      h.u16Pad]) only
    [loadU32_append_of_le, loadU16_append_of_le, loadMem_append_of_le, length_bytesU32, length_bytesU16, hssid, hpassword,
      hkey, haddr, htoken, Nat.reduceSub, loadMem_append_zero, loadU32_append_zero, loadU16_append_zero, ok_bind]
  rfl

theorem ZC_RegisterInfo.ofBytes_toBytes (info : ZC_RegisterInfo) : ZC_RegisterInfo.ofBytes info.toBytes = .ok info := by
  have hkey (m : Mem ZC_MODULE_KEY_LEN) : m.bytes.length = 112 := m.size
  have hid (m : Mem (ZC_HS_DEVICE_ID_LEN + ZC_DOMAIN_LEN)) : m.bytes.length = 24 := m.size
  rw [← List.append_nil info.toBytes]
  simp only [ZC_RegisterInfo.toBytes, List.append_assoc, ZC_RegisterInfo.ofBytes]
  simp (disch := simp -implicitDefEqProofs [hkey, hid]) only
    [loadMem_append_of_le, hkey, hid, Nat.reduceSub, loadMem_append_zero, ok_bind]
  rfl

end ZCloud
