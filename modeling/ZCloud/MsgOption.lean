import ZCloud.ProtocolController.Send

open Memory Program

namespace ZCloud

/-- An option of a message. -/
structure MsgOption where
  OptCode : Nat
  body : List UInt8
  code_lt : OptCode < 65536
  length_lt : body.length < 65536

namespace MsgOption

def bytes (o : MsgOption) : List UInt8 := optHead o.OptCode o.body.length ++ o.body

@[simp]
theorem length_bytes (o : MsgOption) : o.bytes.length = sizeof_ZC_MessageOptHead + o.body.length := by
  rw [bytes, List.length_append]
  rfl

theorem loadU16_code (o : MsgOption) (rest : List UInt8) : loadU16 (o.bytes ++ rest) 0 = .ok (ZC_HTONS o.OptCode) := by
  rw [bytes, optHead, List.append_assoc, List.append_assoc, loadU16_append_zero (ZC_HTONS_lt _)]

theorem loadU16_length (o : MsgOption) (rest : List UInt8) :
    loadU16 (o.bytes ++ rest) 2 = .ok (ZC_HTONS o.body.length) := by
  rw [bytes, optHead, List.append_assoc, List.append_assoc, loadU16_append_of_le (by simp)]
  exact loadU16_append_zero (ZC_HTONS_lt _)

end MsgOption

/-- Options one behind the other. -/
def optionBytes (os : List MsgOption) : List UInt8 := os.flatMap MsgOption.bytes

@[simp]
theorem optionBytes_cons (o : MsgOption) (os : List MsgOption) : optionBytes (o :: os) = o.bytes ++ optionBytes os := rfl

@[simp]
theorem optionBytes_append (os os' : List MsgOption) : optionBytes (os ++ os') = optionBytes os ++ optionBytes os' :=
  List.flatMap_append

/-- Where the body of the last option with code `OptCode` is, of options from offset
`off` on. -/
def lastOption (OptCode : Nat) : (off : Nat) → List MsgOption → Option Nat
  | _, [] => none
  | off, o :: os =>
    (lastOption OptCode (off + o.bytes.length) os).or
      (if o.OptCode = OptCode then some (off + sizeof_ZC_MessageOptHead) else none)

/-- What is found of options from offset `off` on. -/
def foundOptions (off : Nat) (os : List MsgOption) : ZC_OptList where
  pstruTransportInfo := lastOption ZC_OPT_TRANSPORT off os
  pstruSsession := lastOption ZC_OPT_SSESSION off os

theorem lastOption_eq_none {OptCode off : Nat} {os : List MsgOption} (h : ∀ o ∈ os, o.OptCode ≠ OptCode) :
    lastOption OptCode off os = none := by
  induction os generalizing off with
  | nil => rfl
  | cons o os ih =>
    rw [lastOption, ih fun o' ho' => h o' (List.mem_cons_of_mem _ ho'), if_neg (h o List.mem_cons_self)]
    rfl

theorem lastOption_append {OptCode off : Nat} {os os' : List MsgOption} :
    lastOption OptCode off (os ++ os') =
      (lastOption OptCode (off + (optionBytes os).length) os').or (lastOption OptCode off os) := by
  induction os generalizing off with
  | nil => rw [List.nil_append, lastOption, Option.or_none]; rfl
  | cons o os ih =>
    rw [List.cons_append, lastOption, ih, lastOption, Option.or_assoc, optionBytes_cons, List.length_append, Nat.add_assoc]

theorem lastOption_of_last {OptCode off : Nat} {o : MsgOption} {pre post : List MsgOption} (ho : o.OptCode = OptCode)
    (hpost : ∀ o' ∈ post, o'.OptCode ≠ OptCode) :
    lastOption OptCode off (pre ++ o :: post) = some (off + (optionBytes pre).length + sizeof_ZC_MessageOptHead) := by
  rw [lastOption_append, lastOption, lastOption_eq_none hpost, if_pos ho]
  rfl

theorem load_option {o : MsgOption} {pre post : List MsgOption} {a b : List UInt8} :
    load (a ++ (optionBytes (pre ++ o :: post) ++ b)) (a.length + (optionBytes pre).length + sizeof_ZC_MessageOptHead)
      o.body.length = .ok o.body := by
  have hsplit : a ++ (optionBytes (pre ++ o :: post) ++ b) =
      a ++ optionBytes pre ++ optHead o.OptCode o.body.length ++ (o.body ++ (optionBytes post ++ b)) := by
    simp [MsgOption.bytes]
  have hlen : (a ++ optionBytes pre ++ optHead o.OptCode o.body.length).length =
      a.length + (optionBytes pre).length + sizeof_ZC_MessageOptHead := by
    rw [List.length_append, List.length_append]
    rfl
  rw [hsplit, load_append_of_le (Nat.le_of_eq hlen), hlen, Nat.sub_self, load_append_zero rfl]

/-- What is found last, and else what has been found before. -/
def ZC_OptList.or (found opts : ZC_OptList) : ZC_OptList where
  pstruTransportInfo := found.pstruTransportInfo.or opts.pstruTransportInfo
  pstruSsession := found.pstruSsession.or opts.pstruSsession

@[simp]
theorem ZC_OptList.or_none (found : ZC_OptList) : found.or ⟨none, none⟩ = found := by
  rw [ZC_OptList.or, Option.or_none, Option.or_none]

theorem foundOptions_cons {off : Nat} {o : MsgOption} {os : List MsgOption} {opts : ZC_OptList} :
    (foundOptions off (o :: os)).or opts =
      (foundOptions (off + o.bytes.length) os).or
        (if o.OptCode = ZC_OPT_TRANSPORT then
          { opts with pstruTransportInfo := some (off + sizeof_ZC_MessageOptHead) }
        else if o.OptCode = ZC_OPT_SSESSION then
          { opts with pstruSsession := some (off + sizeof_ZC_MessageOptHead) }
        else opts) := by
  have hne : ZC_OPT_TRANSPORT ≠ ZC_OPT_SSESSION := by decide
  simp only [ZC_OptList.or, foundOptions, lastOption, Option.or_assoc]
  by_cases htransport : o.OptCode = ZC_OPT_TRANSPORT
  · simp [htransport, hne]
  · by_cases hsession : o.OptCode = ZC_OPT_SSESSION
    · simp [hsession, hne.symm]
    · simp [htransport, hsession]

/-- The parser goes through options that are one behind the other. -/
theorem parseOptions_append {os : List MsgOption} {count : Nat} {a b : List UInt8} {u16OptLen : Nat} {opts : ZC_OptList}
    (hlen : u16OptLen < 65536) :
    parseOptions (a ++ (optionBytes os ++ b)) (os.length + count) a.length u16OptLen opts =
      parseOptions (a ++ (optionBytes os ++ b)) count (a.length + (optionBytes os).length)
        (u16 (u16OptLen + (optionBytes os).length)) ((foundOptions a.length os).or opts) := by
  induction os generalizing a u16OptLen opts with
  | nil =>
    change parseOptions _ (0 + count) _ _ opts = parseOptions _ count (a.length + 0) (u16 (u16OptLen + 0)) opts
    rw [Nat.zero_add, Nat.add_zero, Nat.add_zero, u16_of_lt hlen]
  | cons o os ih =>
    have hview : a ++ (optionBytes (o :: os) ++ b) = a ++ o.bytes ++ (optionBytes os ++ b) := by simp
    have hcode : loadU16 (a ++ (optionBytes (o :: os) ++ b)) a.length = .ok (ZC_HTONS o.OptCode) := by
      rw [loadU16_append_of_le (Nat.le_refl _), Nat.sub_self, optionBytes_cons, List.append_assoc, o.loadU16_code]
    have hbody : loadU16 (a ++ (optionBytes (o :: os) ++ b)) (a.length + 2) = .ok (ZC_HTONS o.body.length) := by
      rw [loadU16_append_of_le (Nat.le_add_right _ _), Nat.add_sub_cancel_left, optionBytes_cons, List.append_assoc,
        o.loadU16_length]
    have hoff : a.length + sizeof_ZC_MessageOptHead + o.body.length = (a ++ o.bytes).length := by
      rw [List.length_append, o.length_bytes, Nat.add_assoc]
    have hend : (a ++ o.bytes).length + (optionBytes os).length = a.length + (optionBytes (o :: os)).length := by
      rw [optionBytes_cons, List.length_append, List.length_append, Nat.add_assoc]
    have hsum : u16 (u16 (u16OptLen + sizeof_ZC_MessageOptHead + o.body.length) + (optionBytes os).length) =
        u16 (u16OptLen + (optionBytes (o :: os)).length) := by
      rw [optionBytes_cons, List.length_append, o.length_bytes]
      unfold u16
      omega
    rw [List.length_cons, Nat.add_right_comm, parseOptions, hcode, ok_bind, hbody, ok_bind, ZC_HTONS_ZC_HTONS o.code_lt,
      ZC_HTONS_ZC_HTONS o.length_lt]
    dsimp only
    rw [hoff, hview, ih (u16_lt _), hsum, hend, foundOptions_cons, List.length_append]

theorem parseOptions_optionBytes {os : List MsgOption} {a b : List UInt8} {u16OptLen : Nat} {opts : ZC_OptList}
    (hlen : u16OptLen < 65536) :
    parseOptions (a ++ (optionBytes os ++ b)) os.length a.length u16OptLen opts =
      .ok ((foundOptions a.length os).or opts, u16 (u16OptLen + (optionBytes os).length)) :=
  @parseOptions_append os 0 a b u16OptLen opts hlen

namespace ZC_MessageHead

variable (h : ZC_MessageHead) (b : List UInt8)

theorem loadU8_Version : loadU8 (h.toBytes ++ b) 0 = .ok h.Version := loadU8_append b rfl

theorem loadU8_MsgId : loadU8 (h.toBytes ++ b) 1 = .ok h.MsgId := loadU8_append b rfl

theorem loadU8_MsgCode : loadU8 (h.toBytes ++ b) 2 = .ok h.MsgCode := loadU8_append b rfl

theorem loadU8_OptNum : loadU8 (h.toBytes ++ b) 3 = .ok h.OptNum := loadU8_append b rfl

theorem pstruPayloadlen_toBytes {len : Nat} (hlen : len < 65536) (hPayloadlen : h.Payloadlen = ZC_HTONS len) :
    pstruPayloadlen (h.toBytes ++ b) = .ok len := by
  have hsplit : h.toBytes ++ b = [h.Version, h.MsgId, h.MsgCode, h.OptNum] ++
      (bytesU16 h.Payloadlen ++ ([h.TotalMsgCrc.1, h.TotalMsgCrc.2] ++ b)) := by simp [toBytes]
  have hload : loadU16 (h.toBytes ++ b) 4 = .ok (ZC_HTONS len) := by
    rw [hsplit, loadU16_append_of_le (Nat.le_refl 4), hPayloadlen]
    exact loadU16_append_zero (ZC_HTONS_lt len)
  rw [pstruPayloadlen, hload, ok_bind, ZC_HTONS_ZC_HTONS hlen]
  rfl

end ZC_MessageHead

theorem crcBytes_toNat {crc : Nat} (h : crc < 65536) :
    (crcBytes crc).1.toNat * 256 + (crcBytes crc).2.toNat = crc := by
  simp only [crcBytes, toNat_u8]
  omega

theorem crcBytes_injective {a b : Nat} (ha : a < 65536) (hb : b < 65536) (h : crcBytes a = crcBytes b) : a = b := by
  rw [← crcBytes_toNat ha, ← crcBytes_toNat hb, h]

/-- What the receiver of a message finds of its checksum. -/
theorem checkMsgCrc_toBytes {h : ZC_MessageHead} {body rest : List UInt8} (hlen : body.length < 65536)
    (hPayloadlen : h.Payloadlen = ZC_HTONS body.length) :
    checkMsgCrc (h.toBytes ++ body ++ rest) =
      .ok (if crc16_ccitt body = h.TotalMsgCrc.1.toNat * 256 + h.TotalMsgCrc.2.toNat then ZC_RET_OK else ZC_RET_ERROR) := by
  have hdrop : (h.toBytes ++ body ++ rest).drop sizeof_ZC_MessageHead = body ++ rest := by
    rw [List.append_assoc]
    rfl
  have hcrc₁ : loadU8 ((h.toBytes ++ body ++ rest).drop 6) 0 = .ok h.TotalMsgCrc.1 := by
    rw [List.append_assoc]
    exact loadU8_append _ (a := [h.TotalMsgCrc.1, h.TotalMsgCrc.2]) rfl
  have hcrc₂ : loadU8 ((h.toBytes ++ body ++ rest).drop 6) 1 = .ok h.TotalMsgCrc.2 := by
    rw [List.append_assoc]
    exact loadU8_append _ (a := [h.TotalMsgCrc.1, h.TotalMsgCrc.2]) rfl
  rw [checkMsgCrc, List.append_assoc, h.pstruPayloadlen_toBytes _ hlen hPayloadlen, ← List.append_assoc, ok_bind, PCT_CheckCrc,
    hdrop, load_append_zero rfl, ok_bind, hcrc₁, ok_bind, hcrc₂]
  rfl

/-- A message, as its sender means it. -/
structure Message where
  Version : UInt8
  MsgId : UInt8
  MsgCode : UInt8
  options : List MsgOption
  payload : List UInt8
  num_lt : options.length < 256
  length_lt : (optionBytes options ++ payload).length < 65536

namespace Message

/-- What follows the head of a message. -/
def body (m : Message) : List UInt8 := optionBytes m.options ++ m.payload

def head (m : Message) : ZC_MessageHead where
  Version := m.Version
  MsgId := m.MsgId
  MsgCode := m.MsgCode
  OptNum := u8 m.options.length
  Payloadlen := ZC_HTONS m.body.length
  TotalMsgCrc := crcBytes (crc16_ccitt m.body)

def bytes (m : Message) : List UInt8 := m.head.toBytes ++ m.body

variable (m : Message) (rest : List UInt8)

@[simp]
theorem length_bytes : m.bytes.length = sizeof_ZC_MessageHead + m.body.length := List.length_append

theorem length_body_lt : m.body.length < 65536 := m.length_lt

theorem pstruPayloadlen_bytes : pstruPayloadlen (m.bytes ++ rest) = .ok m.body.length := by
  rw [bytes, List.append_assoc]
  exact m.head.pstruPayloadlen_toBytes _ m.length_body_lt rfl

theorem checkMsgCrc_bytes : checkMsgCrc (m.bytes ++ rest) = .ok ZC_RET_OK := by
  have hcrc : crc16_ccitt m.body = m.head.TotalMsgCrc.1.toNat * 256 + m.head.TotalMsgCrc.2.toNat :=
    (crcBytes_toNat (crc16_ccitt_lt _)).symm
  rw [bytes, checkMsgCrc_toBytes m.length_body_lt rfl, if_pos hcrc]

theorem parseOption_bytes {opts : ZC_OptList} :
    EVENT_ParseOption (m.bytes ++ rest) opts =
      .ok ((foundOptions sizeof_ZC_MessageHead m.options).or opts, (optionBytes m.options).length) := by
  have hnum : (u8 m.options.length).toNat = m.options.length := by rw [toNat_u8, Nat.mod_eq_of_lt m.num_lt]
  have hlen := m.length_lt
  rw [List.length_append] at hlen
  rw [bytes, List.append_assoc, EVENT_ParseOption, m.head.loadU8_OptNum, ok_bind]
  change parseOptions _ (u8 m.options.length).toNat m.head.toBytes.length 0 opts = _
  rw [hnum, body, List.append_assoc, parseOptions_optionBytes (by decide), Nat.zero_add, u16_of_lt (by omega)]
  rfl

end Message

end ZCloud
