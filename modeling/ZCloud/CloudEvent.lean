import ZCloud.Crc
import ZCloud.Device

open Memory Program

namespace ZCloud

def ZC_VERSION : UInt8 := 1

/-- The head of a message with the given payload. -/
def messageHead (u8MsgCode : ZC_MsgCode) (u8MsgId : UInt8) (pu8Payload : List UInt8) : ZC_MessageHead where
  Version := ZC_VERSION
  MsgId := u8MsgId
  MsgCode := u8MsgCode.code
  OptNum := 0
  Payloadlen := ZC_HTONS pu8Payload.length
  TotalMsgCrc := crcBytes (crc16_ccitt pu8Payload)

/-- The bytes of a message without options. -/
def EVENT_BuildMsg (u8MsgCode : ZC_MsgCode) (u8MsgId : UInt8) (pu8Payload : List UInt8) : List UInt8 :=
  (messageHead u8MsgCode u8MsgId pu8Payload).toBytes ++ pu8Payload

def EVENT_BuildEmptyMsg (u8MsgId : UInt8) : List UInt8 := EVENT_BuildMsg ZC_CODE_EMPTY u8MsgId []

def EVENT_BuildHeartMsg : List UInt8 := EVENT_BuildMsg ZC_CODE_HEARTBEAT 0 []

def ZC_OPT_TRANSPORT : Nat := 0
def ZC_OPT_SSESSION : Nat := 1
def sizeof_ZC_MessageOptHead : Nat := 4
def sizeof_ZC_TransportInfo : Nat := 16
def sizeof_ZC_SsessionInfo : Nat := 4

/-- Where in a message the options are. -/
structure ZC_OptList where
  pstruTransportInfo : Option Nat
  pstruSsession : Option Nat
deriving DecidableEq, Repr

/-- The loop of `EVENT_ParseOption` over the `count` options from offset `off`
of the message on. -/
def parseOptions (view : List UInt8) : (count off u16OptLen : Nat) → ZC_OptList →
    Except Fault (ZC_OptList × Nat)
  | 0, _, u16OptLen, opts => return (opts, u16OptLen)
  | count + 1, off, u16OptLen, opts => do
    let OptCode := ZC_HTONS (← loadU16 view off)
    let opts :=
      if OptCode = ZC_OPT_TRANSPORT then
        { opts with pstruTransportInfo := some (off + sizeof_ZC_MessageOptHead) }
      else if OptCode = ZC_OPT_SSESSION then
        { opts with pstruSsession := some (off + sizeof_ZC_MessageOptHead) }
      else opts
    let OptLen := ZC_HTONS (← loadU16 view (off + 2))
    parseOptions view count (off + sizeof_ZC_MessageOptHead + OptLen)
      (u16 (u16OptLen + sizeof_ZC_MessageOptHead + OptLen)) opts

/-- The options of the message at the start of `view`, and their length. -/
def EVENT_ParseOption (view : List UInt8) (opts : ZC_OptList) : Except Fault (ZC_OptList × Nat) := do
  let OptNum ← loadU8 view 3
  parseOptions view OptNum.toNat sizeof_ZC_MessageHead 0 opts

/-- An option head in memory. -/
def optHead (OptCode OptLen : Nat) : List UInt8 :=
  bytesU16 (ZC_HTONS OptCode) ++ bytesU16 (ZC_HTONS OptLen)

/-- Writes the options of the message `view` that `opts` names to the build
buffer at offset `off`, and returns their number and length. -/
def EVENT_BuildOption (view : List UInt8) (opts : ZC_OptList) (off : Nat) : Prog Device (Nat × Nat) := do
  let (transportNum, transportLen) ← match opts.pstruTransportInfo with
    | none => pure (0, 0)
    | some pstruTransportInfo => do
      let info ← load view pstruTransportInfo sizeof_ZC_TransportInfo
      storeBuild off (optHead ZC_OPT_TRANSPORT sizeof_ZC_TransportInfo ++ info)
      pure (1, sizeof_ZC_MessageOptHead + sizeof_ZC_TransportInfo)
  let (sessionNum, sessionLen) ← match opts.pstruSsession with
    | none => pure (0, 0)
    | some pstruSsession => do
      let info ← load view pstruSsession sizeof_ZC_SsessionInfo
      storeBuild off (optHead ZC_OPT_SSESSION sizeof_ZC_SsessionInfo ++ info)
      pure (1, sizeof_ZC_MessageOptHead + sizeof_ZC_SsessionInfo)
  return (transportNum + sessionNum, transportLen + sessionLen)

end ZCloud
