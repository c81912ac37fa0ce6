import ZCloud.Lib.Program

open Memory

namespace ZCloud

/-- The result codes `ZC_RET_OK` and `ZC_RET_ERROR`. -/
inductive ZC_RET where
  | ZC_RET_OK
  | ZC_RET_ERROR
deriving DecidableEq, Repr

export ZC_RET (ZC_RET_OK ZC_RET_ERROR)

/-- Conversion of a number to `u8`, `u16` and `u32`. -/
def u8 (n : Nat) : UInt8 := UInt8.ofNat n
def u16 (n : Nat) : Nat := n % 65536
def u32 (n : Nat) : Nat := n % 4294967296

/-- Subtraction of two `u32`. -/
def u32Sub (a b : Nat) : Nat := u32 (a + 4294967296 - b)

/-- The byte orders `ZC_HTONS` and `ZC_HTONL` swap, on the little-endian core. -/
def ZC_HTONS (n : Nat) : Nat := n % 256 * 256 + n / 256 % 256

def ZC_HTONL (n : Nat) : Nat :=
  n / 16777216 % 256 + n / 65536 % 256 * 256 + n / 256 % 256 * 65536 + n % 256 * 16777216

/-- The bytes of a `u16` and of a `u32` in memory. -/
def bytesU16 (n : Nat) : List UInt8 := [u8 n, u8 (n / 256)]

def bytesU32 (n : Nat) : List UInt8 := [u8 n, u8 (n / 256), u8 (n / 65536), u8 (n / 16777216)]

/-- The number that bytes in memory stand for. -/
def number : List UInt8 → Nat
  | [] => 0
  | b :: bytes => b.toNat + 256 * number bytes

/-- Reads of one field of a struct at offset `off` of the object `view`. -/
def loadU8 (view : List UInt8) (off : Nat) : Except Fault UInt8 :=
  return (← load view off 1).headD 0

def loadU16 (view : List UInt8) (off : Nat) : Except Fault Nat :=
  return number (← load view off 2)

def loadU32 (view : List UInt8) (off : Nat) : Except Fault Nat :=
  return number (← load view off 4)

theorem ZC_HTONS_lt (n : Nat) : ZC_HTONS n < 65536 := by
  unfold ZC_HTONS
  omega

theorem ZC_HTONS_ZC_HTONS {n : Nat} (h : n < 65536) : ZC_HTONS (ZC_HTONS n) = n := by
  have hlow : ZC_HTONS n % 256 = n / 256 := by
    unfold ZC_HTONS
    omega
  have hhigh : ZC_HTONS n / 256 = n % 256 := by
    unfold ZC_HTONS
    omega
  change ZC_HTONS n % 256 * 256 + ZC_HTONS n / 256 % 256 = n
  rw [hlow, hhigh]
  omega

theorem ZC_HTONL_lt (n : Nat) : ZC_HTONL n < 4294967296 := by
  unfold ZC_HTONL
  omega

theorem ZC_HTONL_of_bytes {a b c d : Nat} (ha : a < 256) (hb : b < 256) (hc : c < 256) (hd : d < 256) :
    ZC_HTONL (a + b * 256 + c * 65536 + d * 16777216) = d + c * 256 + b * 65536 + a * 16777216 := by
  unfold ZC_HTONL
  omega

theorem ZC_HTONL_ZC_HTONL {n : Nat} (h : n < 4294967296) : ZC_HTONL (ZC_HTONL n) = n := by
  have hbyte (k : Nat) : k % 256 < 256 := Nat.mod_lt k (by decide)
  rw [ZC_HTONL.eq_def n, ZC_HTONL_of_bytes (hbyte _) (hbyte _) (hbyte _) (hbyte _)]
  omega

theorem u16_of_lt {n : Nat} (h : n < 65536) : u16 n = n := Nat.mod_eq_of_lt h

theorem u32_of_lt {n : Nat} (h : n < 4294967296) : u32 n = n := Nat.mod_eq_of_lt h

theorem u32Sub_of_le {a b : Nat} (hba : b ≤ a) (ha : a < 4294967296) : u32Sub a b = a - b := by
  unfold u32Sub u32
  omega

theorem u16_lt (n : Nat) : u16 n < 65536 := Nat.mod_lt _ (by decide)

@[simp]
theorem length_bytesU16 (n : Nat) : (bytesU16 n).length = 2 := rfl

@[simp]
theorem length_bytesU32 (n : Nat) : (bytesU32 n).length = 4 := rfl

theorem toNat_u8 (n : Nat) : (u8 n).toNat = n % 256 := UInt8.toNat_ofNat'

theorem number_bytesU16 {n : Nat} (h : n < 65536) : number (bytesU16 n) = n := by
  simp only [bytesU16, number, toNat_u8]
  omega

theorem number_bytesU32 {n : Nat} (h : n < 4294967296) : number (bytesU32 n) = n := by
  simp only [bytesU32, number, toNat_u8]
  omega

theorem number_lt (bytes : List UInt8) : number bytes < 256 ^ bytes.length := by
  induction bytes with
  | nil => decide
  | cons b bytes ih =>
    have hb := b.toNat_lt
    simp only [number, List.length_cons, Nat.pow_succ]
    omega

theorem loadU16_lt {view : List UInt8} {off n : Nat} (h : loadU16 view off = .ok n) :
    n < 65536 := by
  unfold loadU16 at h
  cases hload : load view off 2 with
  | error e => simp [hload, bind, Except.bind] at h
  | ok bytes =>
    have hlen := number_lt bytes
    rw [length_of_load hload] at hlen
    simp only [hload, bind, Except.bind, pure, Except.pure, Except.ok.injEq] at h
    omega

theorem loadU32_lt {view : List UInt8} {off n : Nat} (h : loadU32 view off = .ok n) : n < 4294967296 := by
  unfold loadU32 at h
  cases hload : load view off 4 with
  | error e => simp [hload, bind, Except.bind] at h
  | ok bytes =>
    have hlen := number_lt bytes
    rw [length_of_load hload] at hlen
    simp only [hload, bind, Except.bind, pure, Except.pure, Except.ok.injEq] at h
    omega

theorem exists_loadU8 {view : List UInt8} {off : Nat} (h : off < view.length) : ∃ b, loadU8 view off = .ok b := by
  rw [loadU8, load_of_le (Nat.succ_le_of_lt h)]
  exact ⟨_, rfl⟩

theorem exists_loadU32 {view : List UInt8} {off : Nat} (h : off + 4 ≤ view.length) : ∃ n, loadU32 view off = .ok n := by
  rw [loadU32, load_of_le h]
  exact ⟨_, rfl⟩

theorem loadU32_append_zero {n : Nat} {b : List UInt8} (h : n < 4294967296) : loadU32 (bytesU32 n ++ b) 0 = .ok n := by
  rw [loadU32, load_append_zero (length_bytesU32 n), ok_bind, number_bytesU32 h]
  rfl

theorem loadU16_append_zero {n : Nat} {b : List UInt8} (h : n < 65536) : loadU16 (bytesU16 n ++ b) 0 = .ok n := by
  rw [loadU16, load_append_zero (length_bytesU16 n), ok_bind, number_bytesU16 h]
  rfl

theorem loadU8_append {a : List UInt8} {off : Nat} {n : UInt8} (b : List UInt8) (h : loadU8 a off = .ok n) :
    loadU8 (a ++ b) off = .ok n := by
  obtain ⟨bytes, hload, hbyte⟩ := bind_eq_ok.mp h
  rw [loadU8, load_append hload, ok_bind]
  exact hbyte

theorem loadU32_append_of_le {a b : List UInt8} {off : Nat} (h : a.length ≤ off) :
    loadU32 (a ++ b) off = loadU32 b (off - a.length) := by
  rw [loadU32, load_append_of_le h, loadU32]

theorem loadU16_append_of_le {a b : List UInt8} {off : Nat} (h : a.length ≤ off) :
    loadU16 (a ++ b) off = loadU16 b (off - a.length) := by
  rw [loadU16, load_append_of_le h, loadU16]

/-- The message codes of the protocol. -/
inductive ZC_MsgCode where
  | ZC_CODE_EQ_BEGIN | ZC_CODE_EQ_DONE | ZC_CODE_WIFI_CONNECTED | ZC_CODE_WIFI_DISCONNECTED
  | ZC_CODE_CLOUD_CONNECTED | ZC_CODE_CLOUD_DISCONNECTED | ZC_CODE_CONFIG | ZC_CODE_REGSITER
  | ZC_CODE_REST | ZC_CODE_HANDSHAKE_1 | ZC_CODE_HANDSHAKE_2 | ZC_CODE_HANDSHAKE_3
  | ZC_CODE_HANDSHAKE_4 | ZC_CODE_HEARTBEAT | ZC_CODE_EMPTY | ZC_CODE_ACK | ZC_CODE_ERR
  | ZC_CODE_OTA_BEGIN | ZC_CODE_OTA_FILE_BEGIN | ZC_CODE_OTA_FILE_CHUNK | ZC_CODE_OTA_FILE_END
  | ZC_CODE_OTA_END | ZC_CODE_ZOTA_BEGIN | ZC_CODE_ZOTA_FILE_BEGIN | ZC_CODE_ZOTA_FILE_CHUNK
  | ZC_CODE_ZOTA_FILE_END | ZC_CODE_ZOTA_END | ZC_CODE_BC_INFO | ZC_CODE_CLIENT_ACCESS_REQ
  | ZC_CODE_CLIENT_ACCESS_RSP | ZC_CODE_CLIENT_QUERY_REQ | ZC_CODE_CLIENT_QUERY_RSP
  | ZC_CODE_TOKEN_SET | ZC_CODE_ACCESS_POINT_RSP | ZC_CODE_RESET_NETWORK
deriving DecidableEq, Repr

export ZC_MsgCode (ZC_CODE_EQ_BEGIN ZC_CODE_EQ_DONE ZC_CODE_WIFI_CONNECTED
  ZC_CODE_WIFI_DISCONNECTED ZC_CODE_CLOUD_CONNECTED ZC_CODE_CLOUD_DISCONNECTED ZC_CODE_CONFIG
  ZC_CODE_REGSITER ZC_CODE_REST ZC_CODE_HANDSHAKE_1 ZC_CODE_HANDSHAKE_2 ZC_CODE_HANDSHAKE_3
  ZC_CODE_HANDSHAKE_4 ZC_CODE_HEARTBEAT ZC_CODE_EMPTY ZC_CODE_ACK ZC_CODE_ERR ZC_CODE_OTA_BEGIN
  ZC_CODE_OTA_FILE_BEGIN ZC_CODE_OTA_FILE_CHUNK ZC_CODE_OTA_FILE_END ZC_CODE_OTA_END
  ZC_CODE_ZOTA_BEGIN ZC_CODE_ZOTA_FILE_BEGIN ZC_CODE_ZOTA_FILE_CHUNK ZC_CODE_ZOTA_FILE_END
  ZC_CODE_ZOTA_END ZC_CODE_BC_INFO ZC_CODE_CLIENT_ACCESS_REQ ZC_CODE_CLIENT_ACCESS_RSP
  ZC_CODE_CLIENT_QUERY_REQ ZC_CODE_CLIENT_QUERY_RSP ZC_CODE_TOKEN_SET ZC_CODE_ACCESS_POINT_RSP
  ZC_CODE_RESET_NETWORK)

/-- The code byte of a message. -/
def ZC_MsgCode.code : ZC_MsgCode → UInt8
  | ZC_CODE_EQ_BEGIN => 0
  | ZC_CODE_EQ_DONE => 1
  | ZC_CODE_WIFI_CONNECTED => 2
  | ZC_CODE_WIFI_DISCONNECTED => 3
  | ZC_CODE_CLOUD_CONNECTED => 4
  | ZC_CODE_CLOUD_DISCONNECTED => 5
  | ZC_CODE_CONFIG => 6
  | ZC_CODE_REGSITER => 7
  | ZC_CODE_REST => 8
  | ZC_CODE_HANDSHAKE_1 => 9
  | ZC_CODE_HANDSHAKE_2 => 10
  | ZC_CODE_HANDSHAKE_3 => 11
  | ZC_CODE_HANDSHAKE_4 => 12
  | ZC_CODE_HEARTBEAT => 13
  | ZC_CODE_EMPTY => 14
  | ZC_CODE_ACK => 15
  | ZC_CODE_ERR => 16
  | ZC_CODE_OTA_BEGIN => 17
  | ZC_CODE_OTA_FILE_BEGIN => 18
  | ZC_CODE_OTA_FILE_CHUNK => 19
  | ZC_CODE_OTA_FILE_END => 20
  | ZC_CODE_OTA_END => 21
  | ZC_CODE_ZOTA_BEGIN => 22
  | ZC_CODE_ZOTA_FILE_BEGIN => 23
  | ZC_CODE_ZOTA_FILE_CHUNK => 24
  | ZC_CODE_ZOTA_FILE_END => 25
  | ZC_CODE_ZOTA_END => 26
  | ZC_CODE_BC_INFO => 27
  | ZC_CODE_CLIENT_ACCESS_REQ => 28
  | ZC_CODE_CLIENT_ACCESS_RSP => 29
  | ZC_CODE_CLIENT_QUERY_REQ => 30
  | ZC_CODE_CLIENT_QUERY_RSP => 31
  | ZC_CODE_TOKEN_SET => 32
  | ZC_CODE_ACCESS_POINT_RSP => 33
  | ZC_CODE_RESET_NETWORK => 34

/-- The message code that a byte stands for, if any. -/
def ZC_MsgCode.ofByte (b : UInt8) : Option ZC_MsgCode :=
  match b.toNat with
  | 0 => some ZC_CODE_EQ_BEGIN
  | 1 => some ZC_CODE_EQ_DONE
  | 2 => some ZC_CODE_WIFI_CONNECTED
  | 3 => some ZC_CODE_WIFI_DISCONNECTED
  | 4 => some ZC_CODE_CLOUD_CONNECTED
  | 5 => some ZC_CODE_CLOUD_DISCONNECTED
  | 6 => some ZC_CODE_CONFIG
  | 7 => some ZC_CODE_REGSITER
  | 8 => some ZC_CODE_REST
  | 9 => some ZC_CODE_HANDSHAKE_1
  | 10 => some ZC_CODE_HANDSHAKE_2
  | 11 => some ZC_CODE_HANDSHAKE_3
  | 12 => some ZC_CODE_HANDSHAKE_4
  | 13 => some ZC_CODE_HEARTBEAT
  | 14 => some ZC_CODE_EMPTY
  | 15 => some ZC_CODE_ACK
  | 16 => some ZC_CODE_ERR
  | 17 => some ZC_CODE_OTA_BEGIN
  | 18 => some ZC_CODE_OTA_FILE_BEGIN
  | 19 => some ZC_CODE_OTA_FILE_CHUNK
  | 20 => some ZC_CODE_OTA_FILE_END
  | 21 => some ZC_CODE_OTA_END
  | 22 => some ZC_CODE_ZOTA_BEGIN
  | 23 => some ZC_CODE_ZOTA_FILE_BEGIN
  | 24 => some ZC_CODE_ZOTA_FILE_CHUNK
  | 25 => some ZC_CODE_ZOTA_FILE_END
  | 26 => some ZC_CODE_ZOTA_END
  | 27 => some ZC_CODE_BC_INFO
  | 28 => some ZC_CODE_CLIENT_ACCESS_REQ
  | 29 => some ZC_CODE_CLIENT_ACCESS_RSP
  | 30 => some ZC_CODE_CLIENT_QUERY_REQ
  | 31 => some ZC_CODE_CLIENT_QUERY_RSP
  | 32 => some ZC_CODE_TOKEN_SET
  | 33 => some ZC_CODE_ACCESS_POINT_RSP
  | 34 => some ZC_CODE_RESET_NETWORK
  | _ => none

@[simp]
theorem ZC_MsgCode.ofByte_code (c : ZC_MsgCode) : ZC_MsgCode.ofByte c.code = some c := by
  cases c <;> rfl

theorem ZC_MsgCode.code_injective {c d : ZC_MsgCode} (h : c.code = d.code) : c = d := by
  have := congrArg ZC_MsgCode.ofByte h
  simpa using this

/-- The security algorithms `u8SecType` names. -/
def ZC_SEC_ALG_NONE : UInt8 := 0
def ZC_SEC_ALG_RSA : UInt8 := 1
def ZC_SEC_ALG_AES : UInt8 := 2

/-- `ZC_SecHead`: the length of what follows, in network order, and its algorithm. -/
structure ZC_SecHead where
  u16TotalMsg : Nat
  u8SecType : UInt8
  u8Resver : UInt8
deriving DecidableEq, Repr

def sizeof_ZC_SecHead : Nat := 4

def ZC_SecHead.toBytes (h : ZC_SecHead) : List UInt8 :=
  bytesU16 h.u16TotalMsg ++ [h.u8SecType, h.u8Resver]

@[simp]
theorem ZC_SecHead.length_toBytes (h : ZC_SecHead) : h.toBytes.length = 4 := rfl

/-- `ZC_MessageHead`, with `Payloadlen` in network order. -/
structure ZC_MessageHead where
  Version : UInt8
  MsgId : UInt8
  MsgCode : UInt8
  OptNum : UInt8
  Payloadlen : Nat
  TotalMsgCrc : UInt8 × UInt8
deriving DecidableEq, Repr

def sizeof_ZC_MessageHead : Nat := 8

def ZC_MessageHead.toBytes (h : ZC_MessageHead) : List UInt8 :=
  [h.Version, h.MsgId, h.MsgCode, h.OptNum] ++ bytesU16 h.Payloadlen ++
    [h.TotalMsgCrc.1, h.TotalMsgCrc.2]

@[simp]
theorem ZC_MessageHead.length_toBytes (h : ZC_MessageHead) : h.toBytes.length = 8 := rfl

end ZCloud
