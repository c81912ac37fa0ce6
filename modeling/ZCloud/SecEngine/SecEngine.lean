import ZCloud.Device
import ZCloud.Lib.Cbc

open Memory Program

namespace ZCloud

def ZC_SEC_AES_BLOCK_SIZE : Nat := 16

/-- The length of an RSA key in bytes, `ZC_SEC_RSA_KEY_LEN >> 3`. -/
def ZC_SEC_RSA_LEN : Nat := 32

/-- The length of an RSA key less what the padding of a block takes. -/
def ZC_SEC_RSA_TEXT_LEN : Nat := ZC_SEC_RSA_LEN - 11

/-- The algorithm that is applied to a message of type `u8SecType`. -/
def u8SecFlag (u32SecSwitch : Nat) (u8SecType : UInt8) : UInt8 :=
  if u32SecSwitch = 0 then ZC_SEC_ALG_NONE
  else if u32SecSwitch = 2 then
    if u8SecType = ZC_SEC_ALG_RSA then ZC_SEC_ALG_NONE else u8SecType
  else u8SecType

/-- The length of the padding that `SEC_Encrypt` is expected to add. -/
def SEC_PaddingCheck (u32SecSwitch : Nat) (u8SecType : UInt8) (u16PlainLen : Nat) : Nat :=
  let flag := u8SecFlag u32SecSwitch u8SecType
  if flag = ZC_SEC_ALG_AES then
    let LastBlockSize := u16PlainLen % ZC_SEC_AES_BLOCK_SIZE
    if LastBlockSize > 0 then ZC_SEC_AES_BLOCK_SIZE - LastBlockSize else ZC_SEC_AES_BLOCK_SIZE
  else if flag = ZC_SEC_ALG_RSA then
    let LastBlockSize := u16PlainLen % ZC_SEC_RSA_LEN
    if LastBlockSize > 0 then ZC_SEC_RSA_LEN - LastBlockSize else 0
  else 0

section

variable (c : Cipher)

/-- `AES_cbc_core` for encryption: the last block is filled up with padding. -/
def AES_CBC_Encrypt (PlainText Key IV : List UInt8) : List UInt8 :=
  Cbc.encrypt ZC_SEC_AES_BLOCK_SIZE (c.AES_encrypt Key) (PlainText.length / ZC_SEC_AES_BLOCK_SIZE + 1) IV
    (Cbc.pad ZC_SEC_AES_BLOCK_SIZE PlainText)

/-- `AES_cbc_core` for decryption: what it writes, and the length that it takes
from the last byte of it. When it writes nothing, that byte is the one before
the plain text in memory. -/
def AES_CBC_Decrypt (CipherText : List UInt8) (CipherTextLength : Nat) (Key IV : List UInt8)
    (before : UInt8) : Except Fault (List UInt8 × Nat) := do
  let n := CipherTextLength / ZC_SEC_AES_BLOCK_SIZE
  let len := CipherTextLength % ZC_SEC_AES_BLOCK_SIZE
  let whole ← load CipherText 0 (ZC_SEC_AES_BLOCK_SIZE * n)
  let out := Cbc.decrypt ZC_SEC_AES_BLOCK_SIZE (c.AES_decrypt Key) n IV whole
  let iv := if n = 0 then IV else whole.drop (ZC_SEC_AES_BLOCK_SIZE * (n - 1))
  let out ← if len = 0 then pure out else do
    let tail ← load CipherText (ZC_SEC_AES_BLOCK_SIZE * n) ZC_SEC_AES_BLOCK_SIZE
    pure (out ++ (Cbc.xor (c.AES_decrypt Key tail) iv).take len)
  return (out, u32Sub CipherTextLength (out.getLastD before).toNat)

/-- What follows the first zero. -/
def afterZero : List UInt8 → Option (List UInt8)
  | [] => none
  | b :: rest => if b = 0 then some rest else afterZero rest

/-- The text in an RSA block, without its padding. -/
def rsaUnpad : List UInt8 → Option (List UInt8)
  | b₀ :: b₁ :: rest => if b₀ ≠ 0 ∨ b₁ ≠ 2 then none else afterZero rest
  | _ => none

/-- Decrypts one block of `input`, to at most `output_max_len` bytes. -/
def rsa_pkcs1_decrypt (key input : List UInt8) (output_max_len : Nat) :
    Except Fault (Option (List UInt8)) := do
  let block ← load input 0 ZC_SEC_RSA_LEN
  return do
    let text ← rsaUnpad (← c.rsa_private key block)
    if text.length > output_max_len then none else some text

/-- What `SEC_DecryptTextByRsa` keeps count of: whether the last block could be
decrypted, how much has been read, the length of the last text, the length of
all texts, and the build buffer. -/
structure RsaDecrypt (n : Nat) where
  s32Ret : Bool
  u16ReadLen : Nat
  s32len : Nat
  u16PlainLen : Nat
  build : Mem n

/-- Decrypts the block at `u16ReadLen` and appends its text. -/
def rsaDecryptBlock {n : Nat} (key pu8CiperBuf : List UInt8) (u16Len : Nat) (s : RsaDecrypt n) :
    Except Fault (RsaDecrypt n) := do
  match ← rsa_pkcs1_decrypt c key (pu8CiperBuf.drop s.u16ReadLen) u16Len with
  | none => return { s with s32Ret := false }
  | some text =>
    let build ← s.build.store s.u16PlainLen text
    return { s with s32Ret := true, s32len := text.length, build := build }

/-- The loop over the whole blocks, until one fails. -/
def rsaDecryptLoop {n : Nat} (key pu8CiperBuf : List UInt8) (u16Len : Nat) :
    (count : Nat) → RsaDecrypt n → Except Fault (RsaDecrypt n)
  | 0, s => return s
  | count + 1, s => do
    let s ← rsaDecryptBlock c key pu8CiperBuf u16Len s
    if s.s32Ret then
      rsaDecryptLoop key pu8CiperBuf u16Len count
        { s with u16ReadLen := s.u16ReadLen + ZC_SEC_RSA_LEN, u16PlainLen := u16 (s.u16PlainLen + s.s32len) }
    else return s

/-- Decrypts a text block by block. `s` holds what the variables hold that are
not initialised. -/
def SEC_DecryptTextByRsa {n : Nat} (key pu8CiperBuf : List UInt8) (u16Len : Nat) (s : RsaDecrypt n) :
    Except Fault (ZC_RET × RsaDecrypt n) := do
  let s ←
    if u16Len > ZC_SEC_RSA_LEN then do
      let s ← rsaDecryptLoop c key pu8CiperBuf u16Len (u16Len / ZC_SEC_RSA_LEN)
        { s with u16PlainLen := 0, u16ReadLen := 0 }
      if s.u16ReadLen < u16Len then do
        let s ← rsaDecryptBlock c key pu8CiperBuf u16Len s
        pure { s with u16PlainLen := u16 (s.u16PlainLen + s.s32len) }
      else pure s
    else do
      let s ← rsaDecryptBlock c key pu8CiperBuf u16Len { s with u16PlainLen := 0, u16ReadLen := 0 }
      pure { s with u16PlainLen := u16 s.s32len }
  return (if s.s32Ret then ZC_RET_OK else ZC_RET_ERROR, s)

end

section

variable (env : Env)

def SEC_AesEncrypt (pu8Plainbuf : List UInt8) : Prog Device (ZC_RET × List UInt8) := do
  let pstruCon ← getController
  if pstruCon.u8keyRecv ≠ PCT_KEY_RECVED then
    return (ZC_RET_ERROR, [])
  return (ZC_RET_OK, AES_CBC_Encrypt env.toCipher pu8Plainbuf pstruCon.u8SessionKey.bytes pstruCon.IvSend.bytes)

/-- Decrypts to the build buffer. On failure the length stays what it was. -/
def SEC_AesDecrypt (pu8CiperBuf : List UInt8) (u16Len u16PlainLen : Nat) : Prog Device (ZC_RET × Nat) := do
  let pstruCon ← getController
  if pstruCon.u8keyRecv ≠ PCT_KEY_RECVED then
    return (ZC_RET_ERROR, u16PlainLen)
  let before ← draw env.stack
  let (out, u32OutLen) ← AES_CBC_Decrypt env.toCipher pu8CiperBuf u16Len pstruCon.u8SessionKey.bytes
    pstruCon.IvRecv.bytes before
  storeBuild 0 out
  return (ZC_RET_OK, u16 u32OutLen)

/-- `len` bytes that are not zero. -/
def drawPadding : Nat → Prog Device (List UInt8)
  | 0 => return []
  | len + 1 => return (← draw env.padding).val :: (← drawPadding len)

/-- Encrypts one text with padding. What it leaves where the block is to go is
the block, or the padded text when the operation fails. -/
def rsa_pkcs1_encrypt (key input : List UInt8) : Prog Device (Bool × List UInt8) := do
  if ZC_SEC_RSA_LEN < input.length + 11 then
    return (false, [])
  let padding ← drawPadding env (ZC_SEC_RSA_LEN - 3 - input.length)
  let block := [0, 2] ++ padding ++ [0] ++ input
  match env.rsa_public key block with
  | none => return (false, block)
  | some out => return (true, out)

/-- What `SEC_EncryptTextByRsa` keeps count of. -/
structure RsaEncrypt (n : Nat) where
  s32Ret : Bool
  u16ReadLen : Nat
  u16CiperLen : Nat
  out : Mem n

/-- Encrypts `len` bytes of the text from `u16ReadLen` on, behind what has been
encrypted so far. -/
def rsaEncryptBlock {n : Nat} (key pu8Plainbuf : List UInt8) (off len : Nat) (s : RsaEncrypt n) :
    Prog Device (RsaEncrypt n) := do
  let text ← load pu8Plainbuf s.u16ReadLen len
  let (s32Ret, bytes) ← rsa_pkcs1_encrypt env key text
  let out ← s.out.store (off + s.u16CiperLen) bytes
  return { s with s32Ret := s32Ret, out := out }

/-- The loop over the whole texts, until one fails. -/
def rsaEncryptLoop {n : Nat} (key pu8Plainbuf : List UInt8) (off : Nat) : (count : Nat) → RsaEncrypt n →
    Prog Device (RsaEncrypt n)
  | 0, s => return s
  | count + 1, s => do
    let s ← rsaEncryptBlock env key pu8Plainbuf off ZC_SEC_RSA_TEXT_LEN s
    if s.s32Ret then
      rsaEncryptLoop key pu8Plainbuf off count
        { s with
          u16ReadLen := s.u16ReadLen + ZC_SEC_RSA_TEXT_LEN
          u16CiperLen := u16 (s.u16CiperLen + ZC_SEC_RSA_LEN) }
    else return s

/-- Encrypts the first `u16Len` bytes of a text to offset `off` of `out`. -/
def SEC_EncryptTextByRsa {n : Nat} (pu8Plainbuf : List UInt8) (u16Len off : Nat) (out : Mem n) :
    Prog Device (ZC_RET × Nat × Mem n) := do
  let key := (← get).g_struZcConfigDb.struCloudInfo.u8CloudKey.bytes
  let s ←
    if u16Len + 11 > ZC_SEC_RSA_LEN then do
      let s ← rsaEncryptLoop env key pu8Plainbuf off (u16Len / ZC_SEC_RSA_TEXT_LEN) ⟨true, 0, 0, out⟩
      if s.u16ReadLen < u16Len then do
        let s ← rsaEncryptBlock env key pu8Plainbuf off (u16Len - s.u16ReadLen) s
        pure { s with u16CiperLen := u16 (s.u16CiperLen + ZC_SEC_RSA_LEN) }
      else pure s
    else do
      let s ← rsaEncryptBlock env key pu8Plainbuf off u16Len ⟨true, 0, 0, out⟩
      pure { s with u16CiperLen := ZC_SEC_RSA_LEN }
  return (if s.s32Ret then ZC_RET_OK else ZC_RET_ERROR, s.u16CiperLen, s.out)

/-- Encrypts the message of `u16Len` bytes at the start of `pu8PlainBuf` to
offset `off` of `out`. -/
def SEC_Encrypt (u8SecType : UInt8) (pu8PlainBuf : List UInt8) (u16Len off : Nat)
    (out : Mem MSG_BUFFER_MAXLEN) : Prog Device (ZC_RET × Nat × Mem MSG_BUFFER_MAXLEN) := do
  let flag := u8SecFlag (← get).g_struZcConfigDb.struSwitchInfo.u32SecSwitch u8SecType
  if flag = ZC_SEC_ALG_NONE then
    return (ZC_RET_OK, u16Len, ← out.memcpy off pu8PlainBuf u16Len)
  else if flag = ZC_SEC_ALG_RSA then
    SEC_EncryptTextByRsa env pu8PlainBuf u16Len off out
  else if flag = ZC_SEC_ALG_AES then
    let (u32RetVal, cipher) ← SEC_AesEncrypt env (← load pu8PlainBuf 0 u16Len)
    return (u32RetVal, u16 cipher.length, ← out.store off cipher)
  else return (ZC_RET_ERROR, u16Len, out)

/-- Decrypts the frame at the start of `view` to the build buffer.
`u16PlainLen` is what the length holds before it. -/
def SEC_Decrypt (view : List UInt8) (u16PlainLen : Nat) : Prog Device (ZC_RET × Nat) := do
  let u16TotalMsg := ZC_HTONS (← loadU16 view 0)
  let u8SecType ← loadU8 view 2
  let pu8CiperBuf := view.drop sizeof_ZC_SecHead
  let d ← get
  let flag := u8SecFlag d.g_struZcConfigDb.struSwitchInfo.u32SecSwitch u8SecType
  if flag = ZC_SEC_ALG_NONE then
    storeBuild 0 (← load pu8CiperBuf 0 u16TotalMsg)
    return (ZC_RET_OK, u16TotalMsg)
  else if flag = ZC_SEC_ALG_RSA then
    let s32len := number (← drawBytes env.stack 4)
    let d ← get
    let (u32RetVal, s) ← SEC_DecryptTextByRsa env.toCipher d.g_struRegisterInfo.u8PrivateKey.bytes
      pu8CiperBuf u16TotalMsg ⟨false, 0, s32len, u16PlainLen, d.g_u8MsgBuildBuffer⟩
    modify fun d => { d with g_u8MsgBuildBuffer := s.build }
    return (u32RetVal, s.u16PlainLen)
  else if flag = ZC_SEC_ALG_AES then
    SEC_AesDecrypt env pu8CiperBuf u16TotalMsg u16PlainLen
  else return (ZC_RET_ERROR, u16PlainLen)

/-- Collects a chunk from the cloud. A frame that is complete is decrypted, its
text copied over it, and the buffer pushed to the queue. -/
def MSG_RecvDataFromCloud (pu8Data : List UInt8) : Prog Device Unit := do
  let u16PlainLen := number (← drawBytes env.stack 2)
  let beyond ← draw env.beyond
  let d ← get
  let (u32RetVal, buffer) ← MSG_RecvData d.g_struRecvBuffer pu8Data
  set { d with g_struRecvBuffer := buffer }
  if u32RetVal = ZC_RET_OK ∧ buffer.u8Status = MSG_BUFFER_FULL then
    let (u32RetVal, u16PlainLen) ← SEC_Decrypt env (buffer.u8MsgBuffer.bytes ++ beyond) u16PlainLen
    let d ← get
    let m ← buffer.u8MsgBuffer.memcpy 0 d.g_u8MsgBuildBuffer.bytes u16PlainLen
    logEvent (.stored u16PlainLen)
    modify fun d => { d with g_struRecvBuffer := { buffer with u8MsgBuffer := m, u32Len := u16PlainLen } }
    if u32RetVal = ZC_RET_OK then
      let (pushed, queue) := MSG_PushMsg d.g_struRecvQueue .g_struRecvBuffer
      modify fun d => { d with g_struRecvQueue := queue }
      if pushed = ZC_RET_OK then
        logEvent (.pushed (m.bytes.take u16PlainLen))

end

end ZCloud
