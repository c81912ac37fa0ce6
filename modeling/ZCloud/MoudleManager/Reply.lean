import ZCloud.ClientManager.Session
import ZCloud.MsgOption
import ZCloud.SecEngine.Aes

open Memory Program

namespace ZCloud

/-- The bytes that `EVENT_BuildOption` writes for a transport option. -/
def rebuiltOption (view : List UInt8) : (pstruTransportInfo : Option Nat) → Except Fault (List UInt8)
  | none => return []
  | some pstruTransportInfo =>
    return optHead ZC_OPT_TRANSPORT sizeof_ZC_TransportInfo ++ (← load view pstruTransportInfo sizeof_ZC_TransportInfo)

/-- The length of the options that `EVENT_BuildOption` writes without a session option. -/
def rebuiltLength (opts : ZC_OptList) : Nat :=
  if opts.pstruTransportInfo.isSome then sizeof_ZC_MessageOptHead + sizeof_ZC_TransportInfo else 0

theorem length_of_rebuiltOption {view options : List UInt8} {opts : ZC_OptList}
    (h : rebuiltOption view opts.pstruTransportInfo = .ok options) : options.length = rebuiltLength opts := by
  rw [rebuiltLength]
  cases hinfo : opts.pstruTransportInfo with
  | none =>
    rw [hinfo] at h
    obtain rfl := Except.ok.inj h
    rfl
  | some pstruTransportInfo =>
    rw [hinfo] at h
    obtain ⟨info, hload, hbytes⟩ := bind_eq_ok.mp h
    obtain rfl := Except.ok.inj hbytes
    rw [List.length_append, length_of_load hload]
    rfl

/-- The option can be rebuilt where its body can be read. -/
theorem exists_rebuiltOption {view : List UInt8} {pstruTransportInfo : Option Nat} :
    (∃ options, rebuiltOption view pstruTransportInfo = .ok options) ↔
      ∀ t ∈ pstruTransportInfo, t + sizeof_ZC_TransportInfo ≤ view.length := by
  cases pstruTransportInfo with
  | none => exact iff_of_true ⟨[], rfl⟩ nofun
  | some t =>
    constructor
    · rintro ⟨options, h⟩ _ ⟨⟩
      obtain ⟨info, hinfo, -⟩ := bind_eq_ok.mp h
      exact (load_eq_ok_iff.mp hinfo).1
    · intro h
      refine ⟨optHead ZC_OPT_TRANSPORT sizeof_ZC_TransportInfo ++ (view.drop t).take sizeof_ZC_TransportInfo, ?_⟩
      rw [rebuiltOption, load_of_le (h t rfl)]
      rfl

/-- What `EVENT_BuildOption` leaves without a session option. -/
theorem run_BuildOption_eq_ok {view : List UInt8} {pstruTransportInfo : Option Nat} {off : Nat} {r : Nat × Nat}
    {d d' : Device} (hoff : off ≤ MSG_BULID_BUFFER_MAXLEN) :
    (EVENT_BuildOption view ⟨pstruTransportInfo, none⟩ off).run d = .ok (r, d') ↔
      ∃ options m, rebuiltOption view pstruTransportInfo = .ok options ∧
        d.g_u8MsgBuildBuffer.store off options = .ok m ∧ d' = d.withBuild m ∧
        r = (pstruTransportInfo.toList.length, options.length) := by
  cases pstruTransportInfo with
  | none =>
    constructor
    · intro h
      obtain ⟨rfl, rfl⟩ := run_pure_eq_ok.mp h
      exact ⟨[], _, rfl, Mem.store_nil hoff, rfl, rfl⟩
    · rintro ⟨options, m, hoptions, hstore, rfl, rfl⟩
      obtain rfl := Except.ok.inj hoptions
      obtain rfl := Except.ok.inj ((Mem.store_nil hoff).symm.trans hstore)
      rfl
  | some pstruTransportInfo =>
    constructor
    · intro h
      obtain ⟨info, _, hload, h₁⟩ := run_bind_eq_ok.mp h
      obtain ⟨hinfo, rfl⟩ := run_lift_eq_ok.mp hload
      obtain ⟨_, _, hstore, h₂⟩ := run_bind_eq_ok.mp h₁
      obtain ⟨m, hm, rfl⟩ := run_storeBuild_eq_ok hstore
      obtain ⟨rfl, rfl⟩ := run_pure_eq_ok.mp h₂
      refine ⟨_, m, ?_, hm, rfl, ?_⟩
      · rw [rebuiltOption, hinfo]
        rfl
      · rw [List.length_append, length_of_load hinfo]
        rfl
    · rintro ⟨options, m, hoptions, hstore, rfl, rfl⟩
      obtain ⟨info, hinfo, hbytes⟩ := bind_eq_ok.mp hoptions
      obtain rfl := Except.ok.inj hbytes
      have hlen : (optHead ZC_OPT_TRANSPORT sizeof_ZC_TransportInfo ++ info).length = 20 := by
        rw [List.length_append, length_of_load hinfo]
        rfl
      rw [hlen]
      exact run_bind_eq_ok.mpr ⟨info, d, run_lift_eq_ok.mpr ⟨hinfo, rfl⟩, run_bind_eq_ok.mpr ⟨(), _, run_storeBuild hstore, rfl⟩⟩

/-- The checksum of a reply is taken four bytes too early. -/
def replyCrc (build : Mem MSG_BULID_BUFFER_MAXLEN) (body : List UInt8) : Nat :=
  crc16_ccitt (((build.bytes.drop 8).take 4 ++ body).take body.length)

/-- Everything that the reply with head `h`, to the message at the start of `view`, is
made from can be read, and the reply fits the build buffer: `options` is its transport
option, and `payload` is at offset `off` of the message. -/
structure Replies (d : Device) (view : List UInt8) (pstruTransportInfo : Option Nat) (off : Nat) (h : ZC_MessageHead)
    (options payload : List UInt8) : Prop where
  version : loadU8 view 0 = .ok h.Version
  msgId : pstruMsgId view = .ok h.MsgId
  msgCode : pstruMsgCode view = .ok h.MsgCode
  optNum : h.OptNum = u8 pstruTransportInfo.toList.length
  view_len : pstruPayloadlen view = .ok (8 + (options ++ payload).length)
  payloadlen : h.Payloadlen = ZC_HTONS (options ++ payload).length
  options_eq : rebuiltOption view pstruTransportInfo = .ok options
  payload_eq : load view off payload.length = .ok payload
  crc : h.TotalMsgCrc = crcBytes (replyCrc d.g_u8MsgBuildBuffer (options ++ payload))
  fits : (options ++ payload).length < 584

/-- The frame of a message to a client. -/
def replyFrame (env : Env) (d : Device) (text : List UInt8) : List UInt8 :=
  let pu8Key := d.g_struZcConfigDb.struCloudInfo.u8TokenKey.bytes
  let cipher := AES_CBC_Encrypt env.toCipher text pu8Key pu8Key
  ZC_SecHead.toBytes ⟨ZC_HTONS (u16 cipher.length), ZC_SEC_ALG_AES, env.stack d.clock⟩ ++ cipher

section

variable {env : Env} {view : List UInt8} {opts : ZC_OptList} {pstruSsession off : Nat} {d d' : Device}
  {h : ZC_MessageHead} {options payload : List UInt8}

theorem length_replyFrame {text : List UInt8} :
    (replyFrame env d text).length = 4 + 16 * (text.length / 16 + 1) := by
  rw [replyFrame, List.length_append, length_AES_CBC_Encrypt]
  rfl

/-- What the checksum of a reply is taken over. -/
theorem load_reply {build m : Mem MSG_BULID_BUFFER_MAXLEN} {body : List UInt8} (hm : build.store 12 body = .ok m) :
    load m.bytes 8 body.length = .ok (((build.bytes.drop 8).take 4 ++ body).take body.length) := by
  obtain ⟨hfits, hbytes⟩ := Mem.store_eq_ok_iff.mp hm
  have hsize : build.bytes.length = 600 := build.size
  have hmax : MSG_BULID_BUFFER_MAXLEN = 600 := rfl
  have hm600 : m.bytes.length = 600 := m.size
  have hdrop : m.bytes.drop 8 = (build.bytes.drop 8).take 4 ++ body ++ build.bytes.drop (12 + body.length) := by
    rw [hbytes, patch, List.append_assoc, List.drop_append_of_le_length (by rw [List.length_take]; omega), List.drop_take,
      List.append_assoc]
  rw [load_of_le (by omega), hdrop, List.take_append_of_le_length (by rw [List.length_append]; omega)]

variable (env) in
/-- A reply whose parts can be read is sent. -/
theorem run_ZC_DealSessionOpt {n : Nat} (hsession : loadU32 view pstruSsession = .ok n)
    (hconnected : d.g_struClientInfo.connected (ZC_HTONL n) = true)
    (hreply : Replies d view opts.pstruTransportInfo off h options payload) :
    ∃ m : Mem MSG_BULID_BUFFER_MAXLEN,
      m.bytes.take (replyFrame env d (h.toBytes ++ (options ++ payload))).length =
        replyFrame env d (h.toBytes ++ (options ++ payload)) ∧
      (ZC_DealSessionOpt env view opts pstruSsession off).run d = .ok ((), { (d.tick.withBuild m).log (.tcpSend (ZC_HTONL n)
        ((replyFrame env d (h.toBytes ++ (options ++ payload))).take
          (u8 (replyFrame env d (h.toBytes ++ (options ++ payload))).length).toNat)) with g_u8ClientSendLen := 0 }) := by
  obtain ⟨hversion, hid, hcode, hnum, hviewlen, hlen, hoptions, hpayload, hcrc, hfits⟩ := hreply
  have hmax : MSG_BULID_BUFFER_MAXLEN = 600 := rfl
  have hbody : (options ++ payload).length = options.length + payload.length := List.length_append
  have htextLen : (h.toBytes ++ (options ++ payload)).length = 8 + (options ++ payload).length := List.length_append
  have hframeLen := @length_replyFrame env d (h.toBytes ++ (options ++ payload))
  rw [htextLen] at hframeLen
  have hreal : u16 (8 + (options ++ payload).length + 65536 - (sizeof_ZC_MessageOptHead + sizeof_ZC_SsessionInfo)) =
      (options ++ payload).length := by
    unfold u16 sizeof_ZC_MessageOptHead sizeof_ZC_SsessionInfo
    omega
  have hsub : u32Sub (options ++ payload).length options.length = payload.length := by
    rw [u32Sub_of_le (by omega) (by omega)]
    omega
  obtain ⟨m₁, hm₁, -⟩ := d.g_u8MsgBuildBuffer.store_spec (show 12 + options.length ≤ MSG_BULID_BUFFER_MAXLEN by omega)
  obtain ⟨m₂, hm₂, -⟩ := m₁.store_spec (show 12 + options.length + payload.length ≤ MSG_BULID_BUFFER_MAXLEN by omega)
  obtain ⟨m₃, hm₃, -⟩ := m₂.store_spec (show 4 + h.toBytes.length ≤ MSG_BULID_BUFFER_MAXLEN from Nat.le_of_ble_eq_true rfl)
  have hcrcData := load_reply (Mem.store_behind hm₁ hm₂)
  have htext : load m₃.bytes 4 (8 + (options ++ payload).length) = .ok (h.toBytes ++ (options ++ payload)) := by
    rw [← htextLen]
    exact Mem.load_before (Mem.store_behind hm₁ hm₂) hm₃
  rw [replyFrame] at hframeLen ⊢
  generalize hcipher : AES_CBC_Encrypt env.toCipher (h.toBytes ++ (options ++ payload))
    d.g_struZcConfigDb.struCloudInfo.u8TokenKey.bytes d.g_struZcConfigDb.struCloudInfo.u8TokenKey.bytes = cipher at hframeLen ⊢
  dsimp only at hframeLen ⊢
  generalize hsechead : ZC_SecHead.toBytes ⟨ZC_HTONS (u16 cipher.length), ZC_SEC_ALG_AES, env.stack d.clock⟩ = sechead
    at hframeLen ⊢
  have hsecheadLen : sechead.length = 4 := by rw [← hsechead]; rfl
  rw [List.length_append, hsecheadLen] at hframeLen
  obtain ⟨m₄, hm₄, -⟩ := m₃.store_spec (show 4 + cipher.length ≤ MSG_BULID_BUFFER_MAXLEN by omega)
  obtain ⟨m₅, hm₅, -⟩ := m₄.store_spec (show 0 + sechead.length ≤ MSG_BULID_BUFFER_MAXLEN by omega)
  have hframe : load m₅.bytes 0 (sechead ++ cipher).length = .ok (sechead ++ cipher) :=
    Mem.load_before (by rw [hsecheadLen]; exact hm₄) hm₅
  obtain ⟨hin, hframeEq⟩ := load_eq_ok_iff.mp hframe
  have hlength : (sechead ++ cipher).length = cipher.length + sizeof_ZC_SecHead := by
    rw [List.length_append, hsecheadLen, Nat.add_comm]
    rfl
  have hle : (u8 (cipher.length + sizeof_ZC_SecHead)).toNat ≤ (sechead ++ cipher).length := by
    rw [toNat_u8, hlength]
    exact Nat.mod_le _ _
  have hsent : load m₅.bytes 0 (u8 (cipher.length + sizeof_ZC_SecHead)).toNat =
      .ok ((sechead ++ cipher).take (u8 (sechead ++ cipher).length).toNat) := by
    have htake := congrArg (List.take (u8 (cipher.length + sizeof_ZC_SecHead)).toNat) hframeEq
    rw [List.take_take, Nat.min_eq_left hle] at htake
    rw [load_of_le (by omega), hlength, htake]
  refine ⟨m₅, hframeEq.symm, ?_⟩
  have hoff : 12 = sizeof_ZC_SecHead + sizeof_ZC_MessageHead := rfl
  have hsecheadSize : 4 = sizeof_ZC_SecHead := rfl
  rw [hoff] at hm₁ hm₂
  rw [hsecheadSize] at hm₃ hm₄ htext
  refine run_bind_eq_ok.mpr ⟨n, d, run_lift_eq_ok.mpr ⟨hsession, rfl⟩, run_bind_eq_ok.mpr ⟨d, d, rfl, ?_⟩⟩
  simp only [hconnected, Bool.not_true, Bool.false_eq_true, if_false]
  refine run_bind_eq_ok.mpr ⟨(_, _), d.withBuild m₁, (run_BuildOption_eq_ok (by decide)).mpr ⟨options, m₁, hoptions, hm₁, rfl, rfl⟩, ?_⟩
  refine run_bind_eq_ok.mpr ⟨_, _, run_lift_eq_ok.mpr ⟨hviewlen, rfl⟩, ?_⟩
  dsimp only
  rw [hreal, hsub]
  refine run_bind_eq_ok.mpr ⟨payload, _, run_lift_eq_ok.mpr ⟨hpayload, rfl⟩, ?_⟩
  refine run_bind_eq_ok.mpr ⟨(), (d.withBuild m₁).withBuild m₂, run_storeBuild hm₂, ?_⟩
  refine run_bind_eq_ok.mpr ⟨_, (d.withBuild m₁).withBuild m₂, rfl, ?_⟩
  refine run_bind_eq_ok.mpr ⟨_, _, run_lift_eq_ok.mpr ⟨hcrcData, rfl⟩, ?_⟩
  refine run_bind_eq_ok.mpr ⟨_, _, run_lift_eq_ok.mpr ⟨hversion, rfl⟩, ?_⟩
  refine run_bind_eq_ok.mpr ⟨_, _, run_lift_eq_ok.mpr ⟨hid, rfl⟩, ?_⟩
  refine run_bind_eq_ok.mpr ⟨_, _, run_lift_eq_ok.mpr ⟨hcode, rfl⟩, ?_⟩
  have hhead : (⟨h.Version, h.MsgId, h.MsgCode, u8 opts.pstruTransportInfo.toList.length, ZC_HTONS (options ++ payload).length,
      crcBytes (crc16_ccitt (((d.g_u8MsgBuildBuffer.bytes.drop 8).take 4 ++ (options ++ payload)).take
        (options ++ payload).length))⟩ : ZC_MessageHead) = h := by
    rw [← hnum, ← hlen]
    exact congrArg (ZC_MessageHead.mk _ _ _ _ _) hcrc.symm
  rw [hhead]
  refine run_bind_eq_ok.mpr ⟨(), (d.withBuild m₁).withBuild m₃, run_storeBuild hm₃, ?_⟩
  refine run_bind_eq_ok.mpr ⟨_, (d.withBuild m₁).withBuild m₃, rfl, ?_⟩
  rw [Nat.add_comm] at htext
  refine run_bind_eq_ok.mpr ⟨_, (d.withBuild m₁).withBuild m₃, run_lift_eq_ok.mpr ⟨htext, rfl⟩, ?_⟩
  obtain rfl := hcipher
  obtain rfl := hsechead
  refine run_bind_eq_ok.mpr ⟨(), (d.withBuild m₃).withBuild m₄, run_storeBuild hm₄, ?_⟩
  refine run_bind_eq_ok.mpr ⟨_, ((d.withBuild m₃).withBuild m₄).tick, run_draw_eq_ok.mpr ⟨rfl, rfl⟩, ?_⟩
  refine run_bind_eq_ok.mpr ⟨(), (d.tick.withBuild m₄).withBuild m₅, run_storeBuild hm₅, ?_⟩
  refine run_bind_eq_ok.mpr ⟨_, (d.tick.withBuild m₄).withBuild m₅, rfl, ?_⟩
  exact run_bind_eq_ok.mpr ⟨_, (d.tick.withBuild m₄).withBuild m₅, run_lift_eq_ok.mpr ⟨hsent, rfl⟩, rfl⟩

/-- Lengths that do not fit together do not fit the build buffer either. -/
theorem reply_lengths {PL ol pl : Nat} (hPL : PL < 65536) (hpl : pl = u32Sub (u16 (PL + 65536 - 8)) ol)
    (hbuild : 12 + ol + pl ≤ 600) (hcipher : 4 + 16 * ((u16 (PL + 65536 - 8) + 8) / 16 + 1) ≤ 600) :
    PL = 8 + (ol + pl) ∧ ol + pl < 584 := by
  unfold u16 u32Sub u32 at *
  omega

/-- Where no reply can be made, the run does not end. -/
theorem replies_of_run {n : Nat} {u : Unit} (hsession : loadU32 view pstruSsession = .ok n)
    (hconnected : d.g_struClientInfo.connected (ZC_HTONL n) = true)
    (hrun : (ZC_DealSessionOpt env view opts pstruSsession off).run d = .ok (u, d')) :
    ∃ h options payload, Replies d view opts.pstruTransportInfo off h options payload := by
  obtain ⟨n', _, hload, h₁⟩ := run_bind_eq_ok.mp hrun
  obtain ⟨hn', rfl⟩ := run_lift_eq_ok.mp hload
  obtain rfl : n = n' := Except.ok.inj (hsession.symm.trans hn')
  obtain ⟨_, _, hget, h₂⟩ := run_bind_eq_ok.mp h₁
  obtain ⟨rfl, rfl⟩ := run_get_eq_ok.mp hget
  simp only [hconnected, Bool.not_true, Bool.false_eq_true, if_false] at h₂
  obtain ⟨r, _, hbuild, h₃⟩ := run_bind_eq_ok.mp h₂
  obtain ⟨options, m₁, hoptions, hm₁, rfl, rfl⟩ := (run_BuildOption_eq_ok (by decide)).mp hbuild
  obtain ⟨PL, _, hload, h₄⟩ := run_bind_eq_ok.mp h₃
  obtain ⟨hPL, rfl⟩ := run_lift_eq_ok.mp hload
  obtain ⟨payload, _, hload, h₅⟩ := run_bind_eq_ok.mp h₄
  obtain ⟨hpayload, rfl⟩ := run_lift_eq_ok.mp hload
  obtain ⟨_, _, hstore, h₆⟩ := run_bind_eq_ok.mp h₅
  obtain ⟨m₂, hm₂, rfl⟩ := run_storeBuild_eq_ok hstore
  obtain ⟨_, _, hget, h₇⟩ := run_bind_eq_ok.mp h₆
  obtain ⟨rfl, rfl⟩ := run_get_eq_ok.mp hget
  obtain ⟨crcData, _, hload, h₈⟩ := run_bind_eq_ok.mp h₇
  obtain ⟨-, rfl⟩ := run_lift_eq_ok.mp hload
  obtain ⟨Version, _, hload, h₉⟩ := run_bind_eq_ok.mp h₈
  obtain ⟨hversion, rfl⟩ := run_lift_eq_ok.mp hload
  obtain ⟨MsgId, _, hload, h₁₀⟩ := run_bind_eq_ok.mp h₉
  obtain ⟨hid, rfl⟩ := run_lift_eq_ok.mp hload
  obtain ⟨MsgCode, _, hload, h₁₁⟩ := run_bind_eq_ok.mp h₁₀
  obtain ⟨hcode, rfl⟩ := run_lift_eq_ok.mp hload
  obtain ⟨_, _, hstore, h₁₂⟩ := run_bind_eq_ok.mp h₁₁
  obtain ⟨m₃, hm₃, rfl⟩ := run_storeBuild_eq_ok hstore
  obtain ⟨_, _, hget, h₁₃⟩ := run_bind_eq_ok.mp h₁₂
  obtain ⟨rfl, rfl⟩ := run_get_eq_ok.mp hget
  obtain ⟨text, _, hload, h₁₄⟩ := run_bind_eq_ok.mp h₁₃
  obtain ⟨htext, rfl⟩ := run_lift_eq_ok.mp hload
  obtain ⟨_, _, hstore, h₁₅⟩ := run_bind_eq_ok.mp h₁₄
  obtain ⟨m₄, hm₄, -⟩ := run_storeBuild_eq_ok hstore
  obtain ⟨hfits₂, -⟩ := Mem.store_eq_ok_iff.mp hm₂
  obtain ⟨hfits₄, -⟩ := Mem.store_eq_ok_iff.mp hm₄
  rw [length_AES_CBC_Encrypt, length_of_load htext] at hfits₄
  have hpayloadLen := length_of_load hpayload
  obtain ⟨rfl, hfits⟩ := reply_lengths (pstruPayloadlen_lt hPL) hpayloadLen hfits₂ hfits₄
  rw [← List.length_append] at hPL hfits
  refine ⟨⟨Version, MsgId, MsgCode, _, _, _⟩, options, payload, hversion, hid, hcode, rfl, hPL, rfl, hoptions, ?_, rfl, hfits⟩
  rw [hpayloadLen]
  exact hpayload

end

/-- What a client makes of a frame. -/
def decrypted (c : Cipher) (pu8Key frame : List UInt8) : Except Fault (List UInt8) := do
  let u16TotalMsg := ZC_HTONS (← loadU16 frame 0)
  let (out, len) ← AES_CBC_Decrypt c (frame.drop sizeof_ZC_SecHead) u16TotalMsg pu8Key pu8Key 0
  load out 0 len

/-- A frame announces the length of what follows its head. -/
theorem replyFrame_announces {env : Env} {d : Device} {text : List UInt8} (rest : List UInt8) (htext : text.length < 65520) :
    ∃ u16TotalMsg, loadU16 (replyFrame env d text ++ rest) 0 = .ok u16TotalMsg ∧
      sizeof_ZC_SecHead + ZC_HTONS u16TotalMsg = (replyFrame env d text).length := by
  have hlen := length_AES_CBC_Encrypt env.toCipher text d.g_struZcConfigDb.struCloudInfo.u8TokenKey.bytes
    d.g_struZcConfigDb.struCloudInfo.u8TokenKey.bytes
  have hsize : ZC_SEC_AES_BLOCK_SIZE = 16 := rfl
  refine ⟨ZC_HTONS (u16 (AES_CBC_Encrypt env.toCipher text d.g_struZcConfigDb.struCloudInfo.u8TokenKey.bytes
    d.g_struZcConfigDb.struCloudInfo.u8TokenKey.bytes).length), ?_, ?_⟩
  · rw [replyFrame, ZC_SecHead.toBytes, List.append_assoc, List.append_assoc, loadU16_append_zero (ZC_HTONS_lt _)]
  · rw [ZC_HTONS_ZC_HTONS (u16_lt _), u16_of_lt (by rw [hlen, hsize]; omega), replyFrame, List.length_append]
    rfl

theorem decrypted_replyFrame {env : Env} {d : Device} {text rest : List UInt8} (hinv : env.toCipher.AesInverse)
    (htext : text.length < 65520) :
    decrypted env.toCipher d.g_struZcConfigDb.struCloudInfo.u8TokenKey.bytes (replyFrame env d text ++ rest) = .ok text := by
  obtain ⟨u16TotalMsg, htotal, hannounced⟩ := @replyFrame_announces env d text rest htext
  have hiv : d.g_struZcConfigDb.struCloudInfo.u8TokenKey.bytes.length = ZC_SEC_AES_BLOCK_SIZE := Mem.size _
  have hdrop : (replyFrame env d text ++ rest).drop sizeof_ZC_SecHead = AES_CBC_Encrypt env.toCipher text
      d.g_struZcConfigDb.struCloudInfo.u8TokenKey.bytes d.g_struZcConfigDb.struCloudInfo.u8TokenKey.bytes ++ rest := by
    rw [replyFrame, List.append_assoc]
    rfl
  have hcipher : ZC_HTONS u16TotalMsg = (AES_CBC_Encrypt env.toCipher text
      d.g_struZcConfigDb.struCloudInfo.u8TokenKey.bytes d.g_struZcConfigDb.struCloudInfo.u8TokenKey.bytes).length := by
    rw [replyFrame, List.length_append, ZC_SecHead.length_toBytes] at hannounced
    exact Nat.add_left_cancel hannounced
  rw [decrypted, htotal, ok_bind, hdrop, hcipher]
  dsimp only
  rw [AES_CBC_Decrypt_encrypt hinv hiv (by omega)]
  exact load_append_zero rfl

theorem ZC_MessageHead.toBytes_append_inj {h h' : ZC_MessageHead} {a b : List UInt8}
    (heq : h.toBytes ++ a = h'.toBytes ++ b) :
    h.OptNum = h'.OptNum ∧ h.TotalMsgCrc = h'.TotalMsgCrc ∧ a = b := by
  obtain ⟨hhead, hrest⟩ := List.append_inj heq rfl
  simp only [ZC_MessageHead.toBytes, List.cons_append, List.nil_append, bytesU16, List.cons.injEq] at hhead
  exact ⟨hhead.2.2.2.1, Prod.ext hhead.2.2.2.2.2.2.1 hhead.2.2.2.2.2.2.2.1, hrest⟩

/-- The message `m` without its option `o`. -/
def Message.without (m : Message) {pre post : List MsgOption} {o : MsgOption} (h : m.options = pre ++ o :: post) : Message where
  Version := m.Version
  MsgId := m.MsgId
  MsgCode := m.MsgCode
  options := pre ++ post
  payload := m.payload
  num_lt := by
    have hnum := m.num_lt
    rw [h, List.length_append, List.length_cons] at hnum
    rw [List.length_append]
    omega
  length_lt := by
    have hlen := m.length_lt
    rw [h] at hlen
    simp only [optionBytes_append, optionBytes_cons, List.length_append] at hlen ⊢
    omega

/-- The options that `EVENT_BuildOption` writes as they were: none, or one transport
option. -/
def Rebuildable (os : List MsgOption) : Prop :=
  os = [] ∨ ∃ t : MsgOption, os = [t] ∧ t.OptCode = ZC_OPT_TRANSPORT ∧ t.body.length = sizeof_ZC_TransportInfo

/-- The reply to the message at the start of `view` leaves a frame in the build
buffer that a client decrypts to `text`. -/
def RepliesWith (env : Env) (d : Device) (view text : List UInt8) : Prop :=
  ∃ opts u16OptLen pstruSsession d', EVENT_ParseOption view ⟨none, none⟩ = .ok (opts, u16OptLen) ∧
    opts.pstruSsession = some pstruSsession ∧
    (ZC_DealSessionOpt env view opts pstruSsession (u16OptLen + sizeof_ZC_MessageHead)).run d = .ok ((), d') ∧
    decrypted env.toCipher d.g_struZcConfigDb.struCloudInfo.u8TokenKey.bytes d'.g_u8MsgBuildBuffer.bytes = .ok text

section

variable {env : Env} {d : Device} {m : Message} {pre post : List MsgOption} {o : MsgOption} {rest : List UInt8}

theorem bytes_append : m.bytes ++ rest = m.head.toBytes ++ (optionBytes m.options ++ (m.payload ++ rest)) := by
  rw [Message.bytes, Message.body, List.append_assoc, List.append_assoc]

theorem session_found (h : m.options = pre ++ o :: post) (ho : o.OptCode = ZC_OPT_SSESSION)
    (hpost : ∀ o' ∈ post, o'.OptCode ≠ ZC_OPT_SSESSION) :
    (foundOptions sizeof_ZC_MessageHead m.options).pstruSsession =
      some (sizeof_ZC_MessageHead + (optionBytes pre).length + sizeof_ZC_MessageOptHead) := by
  rw [foundOptions, h]
  exact lastOption_of_last ho hpost

theorem load_found (h : m.options = pre ++ o :: post) :
    load (m.bytes ++ rest) (sizeof_ZC_MessageHead + (optionBytes pre).length + sizeof_ZC_MessageOptHead) o.body.length =
      .ok o.body := by
  rw [bytes_append, h]
  exact @load_option o pre post m.head.toBytes (m.payload ++ rest)

theorem load_payload :
    load (m.bytes ++ rest) ((optionBytes m.options).length + sizeof_ZC_MessageHead) m.payload.length = .ok m.payload := by
  have hlen : (m.head.toBytes ++ optionBytes m.options).length = (optionBytes m.options).length + sizeof_ZC_MessageHead := by
    rw [List.length_append, Nat.add_comm]
    rfl
  rw [bytes_append, ← List.append_assoc, load_append_of_le (Nat.le_of_eq hlen), hlen, Nat.sub_self, load_append_zero rfl]

/-- The transport option that is found, if all other options but the session option
are rebuilt as they were. -/
theorem rebuilt_found (h : m.options = pre ++ o :: post) (ho : o.OptCode = ZC_OPT_SSESSION)
    (hrebuild : Rebuildable (pre ++ post)) :
    rebuiltOption (m.bytes ++ rest) (foundOptions sizeof_ZC_MessageHead m.options).pstruTransportInfo =
        .ok (optionBytes (pre ++ post)) ∧
      (foundOptions sizeof_ZC_MessageHead m.options).pstruTransportInfo.toList.length = (pre ++ post).length := by
  have hne : o.OptCode ≠ ZC_OPT_TRANSPORT := by
    rw [ho]
    decide
  obtain hnone | ⟨t, ht, hcode, hlen⟩ := hrebuild
  · obtain ⟨rfl, rfl⟩ := List.append_eq_nil_iff.mp hnone
    have hfound : (foundOptions sizeof_ZC_MessageHead m.options).pstruTransportInfo = none := by
      rw [foundOptions, h]
      exact lastOption_eq_none (by simpa using hne)
    rw [hfound]
    exact ⟨rfl, rfl⟩
  · have hat {pre' post' : List MsgOption} (h' : m.options = pre' ++ t :: post')
        (hpost' : ∀ o' ∈ post', o'.OptCode ≠ ZC_OPT_TRANSPORT) :
        rebuiltOption (m.bytes ++ rest) (foundOptions sizeof_ZC_MessageHead m.options).pstruTransportInfo =
            .ok (optionBytes [t]) ∧
          (foundOptions sizeof_ZC_MessageHead m.options).pstruTransportInfo.toList.length = 1 := by
      have hfound : (foundOptions sizeof_ZC_MessageHead m.options).pstruTransportInfo =
          some (sizeof_ZC_MessageHead + (optionBytes pre').length + sizeof_ZC_MessageOptHead) := by
        rw [foundOptions, h']
        exact lastOption_of_last hcode hpost'
      have hload := @load_found m pre' post' t rest h'
      rw [hlen] at hload
      rw [hfound, rebuiltOption, hload]
      refine ⟨?_, rfl⟩
      rw [ok_bind, optionBytes, List.flatMap_singleton, MsgOption.bytes, hcode, hlen]
      rfl
    rw [ht]
    obtain ⟨rfl, rfl⟩ | ⟨rfl, rfl⟩ := List.append_eq_singleton_iff.mp ht
    · exact @hat [o] [] h (fun o' ho' => by cases ho')
    · exact @hat [] [o] h (by simpa using hne)

theorem length_body (h : m.options = pre ++ o :: post) (hlen : o.body.length = sizeof_ZC_SsessionInfo) :
    m.body.length = 8 + (m.without h).body.length := by
  have hsize : sizeof_ZC_MessageOptHead = 4 ∧ sizeof_ZC_SsessionInfo = 4 := ⟨rfl, rfl⟩
  simp only [Message.body, Message.without, h, optionBytes_append, optionBytes_cons, List.length_append,
    MsgOption.length_bytes, hlen]
  omega

theorem loadU32_found (h : m.options = pre ++ o :: post) (hlen : o.body.length = sizeof_ZC_SsessionInfo) :
    loadU32 (m.bytes ++ rest) (sizeof_ZC_MessageHead + (optionBytes pre).length + sizeof_ZC_MessageOptHead) =
      .ok (number o.body) := by
  have hload := @load_found m pre post o rest h
  rw [hlen] at hload
  rw [loadU32]
  change (do pure (number (← load _ _ sizeof_ZC_SsessionInfo))) = _
  rw [hload]
  rfl

/-- What a reply is made from, where the options that are left are rebuilt as they were. -/
theorem replies_of_rebuildable (h : m.options = pre ++ o :: post) (ho : o.OptCode = ZC_OPT_SSESSION)
    (hlen : o.body.length = sizeof_ZC_SsessionInfo) (hfits : m.body.length < 592) (hrebuild : Rebuildable (pre ++ post)) :
    Replies d (m.bytes ++ rest) (foundOptions sizeof_ZC_MessageHead m.options).pstruTransportInfo
      ((optionBytes m.options).length + sizeof_ZC_MessageHead)
      { (m.without h).head with TotalMsgCrc := crcBytes (replyCrc d.g_u8MsgBuildBuffer (m.without h).body) }
      (optionBytes (pre ++ post)) m.payload := by
  obtain ⟨hoptions, hnum⟩ := @rebuilt_found m pre post o rest h ho hrebuild
  have hbody := length_body h hlen
  have hview := m.pstruPayloadlen_bytes rest
  rw [hbody] at hview
  refine ⟨?_, ?_, ?_, ?_, hview, rfl, hoptions, load_payload, rfl, ?_⟩
  · rw [bytes_append]
    exact m.head.loadU8_Version _
  · rw [bytes_append]
    exact m.head.loadU8_MsgId _
  · rw [bytes_append]
    exact m.head.loadU8_MsgCode _
  · rw [hnum]
    rfl
  · change (m.without h).body.length < 584
    omega

/-- The frame of a reply that can be made. -/
theorem run_reply (h : m.options = pre ++ o :: post) (ho : o.OptCode = ZC_OPT_SSESSION)
    (hlen : o.body.length = sizeof_ZC_SsessionInfo) (hpost : ∀ o' ∈ post, o'.OptCode ≠ ZC_OPT_SSESSION)
    (hconnected : d.g_struClientInfo.connected (ZC_HTONL (number o.body)) = true) (hinv : env.toCipher.AesInverse) {text : List UInt8} :
    RepliesWith env d (m.bytes ++ rest) text ↔
      ∃ h options payload, text = h.toBytes ++ (options ++ payload) ∧
        Replies d (m.bytes ++ rest) (foundOptions sizeof_ZC_MessageHead m.options).pstruTransportInfo
          ((optionBytes m.options).length + sizeof_ZC_MessageHead) h options payload := by
  have hload := @loadU32_found m pre post o rest h hlen
  have hdec {d' : Device} {h options payload}
      (hreply : Replies d (m.bytes ++ rest) (foundOptions sizeof_ZC_MessageHead m.options).pstruTransportInfo
        ((optionBytes m.options).length + sizeof_ZC_MessageHead) h options payload)
      (hrun : (ZC_DealSessionOpt env (m.bytes ++ rest) (foundOptions sizeof_ZC_MessageHead m.options)
        (sizeof_ZC_MessageHead + (optionBytes pre).length + sizeof_ZC_MessageOptHead)
        ((optionBytes m.options).length + sizeof_ZC_MessageHead)).run d = .ok ((), d')) :
      decrypted env.toCipher d.g_struZcConfigDb.struCloudInfo.u8TokenKey.bytes d'.g_u8MsgBuildBuffer.bytes =
        .ok (h.toBytes ++ (options ++ payload)) := by
    obtain ⟨m₅, htake, hrun'⟩ := run_ZC_DealSessionOpt env hload hconnected hreply
    obtain ⟨-, rfl⟩ := Prod.mk.inj (Except.ok.inj (hrun.symm.trans hrun'))
    have hfits := hreply.fits
    have hsplit := List.take_append_drop (replyFrame env d (h.toBytes ++ (options ++ payload))).length m₅.bytes
    rw [htake] at hsplit
    change decrypted _ _ m₅.bytes = _
    rw [← hsplit, decrypted_replyFrame hinv]
    rw [List.length_append, h.length_toBytes]
    omega
  constructor
  · rintro ⟨opts, u16OptLen, pstruSsession, d', hparse, hsession, hrun, htext⟩
    rw [m.parseOption_bytes, ZC_OptList.or_none] at hparse
    obtain ⟨rfl, rfl⟩ := Prod.mk.inj (Except.ok.inj hparse)
    obtain rfl := Option.some.inj ((session_found h ho hpost).symm.trans hsession)
    obtain ⟨h', options, payload, hreply⟩ := replies_of_run hload hconnected hrun
    exact ⟨h', options, payload, Except.ok.inj (htext.symm.trans (hdec hreply hrun)), hreply⟩
  · rintro ⟨h', options, payload, rfl, hreply⟩
    obtain ⟨m₅, -, hrun⟩ := run_ZC_DealSessionOpt env hload hconnected hreply
    refine ⟨_, _, _, _, ?_, session_found h ho hpost, hrun, hdec hreply hrun⟩
    rw [m.parseOption_bytes, ZC_OptList.or_none]

theorem u8_injective {a b : Nat} (ha : a < 256) (hb : b < 256) (h : u8 a = u8 b) : a = b := by
  have hab := congrArg UInt8.toNat h
  rwa [toNat_u8, toNat_u8, Nat.mod_eq_of_lt ha, Nat.mod_eq_of_lt hb] at hab

/-- The number of options that are left, and the head of the first, show which they are. -/
theorem rebuildable_of_replies {view : List UInt8} {off : Nat} {h' : ZC_MessageHead} {options payload : List UInt8}
    (h : m.options = pre ++ o :: post) (ho : o.OptCode = ZC_OPT_SSESSION)
    (hreply : Replies d view (foundOptions sizeof_ZC_MessageHead m.options).pstruTransportInfo off h' options payload)
    (hnum : h'.OptNum = (m.without h).head.OptNum) (hbody : options ++ payload = (m.without h).body) :
    Rebuildable (pre ++ post) := by
  obtain ⟨-, -, -, hoptNum, -, -, hoptions, -, -, -⟩ := hreply
  have hlength : (foundOptions sizeof_ZC_MessageHead m.options).pstruTransportInfo.toList.length = (pre ++ post).length := by
    refine u8_injective ?_ (m.without h).num_lt (hoptNum.symm.trans hnum)
    cases (foundOptions sizeof_ZC_MessageHead m.options).pstruTransportInfo with
    | none => decide
    | some _ => exact Nat.lt_of_sub_eq_succ rfl
  cases hfound : (foundOptions sizeof_ZC_MessageHead m.options).pstruTransportInfo with
  | none =>
    rw [hfound] at hlength
    exact .inl (List.length_eq_zero_iff.mp hlength.symm)
  | some pstruTransportInfo =>
    rw [hfound] at hlength hoptions
    obtain ⟨t, ht⟩ := List.length_eq_one_iff.mp hlength.symm
    have hcode : t.OptCode = ZC_OPT_TRANSPORT := by
      refine Decidable.byContradiction fun hcode => ?_
      have hnone : (foundOptions sizeof_ZC_MessageHead m.options).pstruTransportInfo = none := by
        refine lastOption_eq_none fun o' ho' => ?_
        rw [h, List.mem_append, List.mem_cons, or_left_comm, ← List.mem_append, ht, List.mem_singleton] at ho'
        obtain rfl | rfl := ho'
        · rw [ho]
          decide
        · exact hcode
      rw [hnone] at hfound
      cases hfound
    obtain ⟨info, -, hbytes⟩ := bind_eq_ok.mp hoptions
    obtain rfl := Except.ok.inj hbytes
    have hleft : loadU16 ((optHead ZC_OPT_TRANSPORT sizeof_ZC_TransportInfo ++ info) ++ payload) 2 =
        .ok (ZC_HTONS sizeof_ZC_TransportInfo) := by
      rw [optHead, List.append_assoc, List.append_assoc, loadU16_append_of_le (by decide)]
      exact loadU16_append_zero (ZC_HTONS_lt _)
    have hright : loadU16 (m.without h).body 2 = .ok (ZC_HTONS t.body.length) := by
      rw [Message.body]
      change loadU16 (optionBytes (pre ++ post) ++ m.payload) 2 = _
      rw [ht, optionBytes, List.flatMap_singleton, t.loadU16_length]
    rw [← hbody] at hright
    have hhtons := Except.ok.inj (hleft.symm.trans hright)
    have hlen := congrArg ZC_HTONS hhtons
    rw [ZC_HTONS_ZC_HTONS (by decide), ZC_HTONS_ZC_HTONS t.length_lt] at hlen
    exact .inr ⟨t, ht, hcode, hlen.symm⟩

theorem crc_of_replies {view : List UInt8} {pstruTransportInfo : Option Nat} {off : Nat} {h' : ZC_MessageHead}
    {options payload : List UInt8} {m' : Message} (hreply : Replies d view pstruTransportInfo off h' options payload)
    (htext : m'.bytes = h'.toBytes ++ (options ++ payload)) :
    replyCrc d.g_u8MsgBuildBuffer m'.body = crc16_ccitt m'.body := by
  obtain ⟨-, hcrc, hbody⟩ := ZC_MessageHead.toBytes_append_inj htext
  rw [hreply.crc, ← hbody] at hcrc
  exact (crcBytes_injective (crc16_ccitt_lt _) (crc16_ccitt_lt _) hcrc).symm

/-- What is sent to the client `u32Fd` is the frame in the build buffer, as long as its
head says. -/
def SentWhole (u32Fd : Nat) (d d' : Device) : Prop :=
  ∃ u16TotalMsg frame, loadU16 d'.g_u8MsgBuildBuffer.bytes 0 = .ok u16TotalMsg ∧
    load d'.g_u8MsgBuildBuffer.bytes 0 (sizeof_ZC_SecHead + ZC_HTONS u16TotalMsg) = .ok frame ∧
    d'.trace = .tcpSend u32Fd frame :: d.trace

/-- The length of a frame is kept in a byte. -/
theorem sentWhole_iff {view : List UInt8} {opts : ZC_OptList} {pstruSsession off n PL : Nat} {d' : Device}
    (hsession : loadU32 view pstruSsession = .ok n) (hconnected : d.g_struClientInfo.connected (ZC_HTONL n) = true)
    (hPL : pstruPayloadlen view = .ok PL)
    (hrun : (ZC_DealSessionOpt env view opts pstruSsession off).run d = .ok ((), d')) :
    SentWhole (ZC_HTONL n) d d' ↔ PL < 240 := by
  obtain ⟨h, options, payload, hreply⟩ := replies_of_run hsession hconnected hrun
  obtain ⟨m₅, htake, hrun'⟩ := run_ZC_DealSessionOpt env hsession hconnected hreply
  obtain ⟨-, rfl⟩ := Prod.mk.inj (Except.ok.inj (hrun.symm.trans hrun'))
  obtain rfl := Except.ok.inj (hPL.symm.trans hreply.view_len)
  have hfits := hreply.fits
  have hlen := @length_replyFrame env d (h.toBytes ++ (options ++ payload))
  rw [List.length_append, h.length_toBytes] at hlen
  obtain ⟨u16TotalMsg, htotal, hannounced⟩ := @replyFrame_announces env d (h.toBytes ++ (options ++ payload))
    (m₅.bytes.drop (replyFrame env d (h.toBytes ++ (options ++ payload))).length)
    (by rw [List.length_append, h.length_toBytes]; omega)
  generalize hframe : replyFrame env d (h.toBytes ++ (options ++ payload)) = frame at *
  have hsplit : frame ++ m₅.bytes.drop frame.length = m₅.bytes := by
    have hsplit := List.take_append_drop frame.length m₅.bytes
    rwa [htake] at hsplit
  have hload : load m₅.bytes 0 frame.length = .ok frame := by
    rw [← hsplit]
    exact load_append_zero rfl
  rw [hsplit] at htotal
  have hwhole : (u8 frame.length).toNat < frame.length ↔ ¬ 8 + (options ++ payload).length < 240 := by
    rw [toNat_u8]
    omega
  constructor
  · rintro ⟨total', frame', htotal', hload', htrace⟩
    obtain rfl := Except.ok.inj (htotal.symm.trans htotal')
    rw [hannounced] at hload'
    obtain rfl := Except.ok.inj (hload.symm.trans hload')
    have hsent := congrArg List.length (Event.tcpSend.inj (List.cons.inj htrace).1).2
    rw [List.length_take] at hsent
    refine Decidable.byContradiction fun hlong => ?_
    have hshort := hwhole.mpr hlong
    omega
  · intro hshort
    refine ⟨u16TotalMsg, frame, htotal, by rw [hannounced]; exact hload, ?_⟩
    have hall : frame.take (u8 frame.length).toNat = frame :=
      List.take_of_length_le (Nat.le_of_not_lt fun hlt => hwhole.mp hlt hshort)
    change Event.tcpSend _ _ :: d.trace = _
    rw [hall]

variable (env) in
/-- A reply that fits, to a message of which the other options are rebuilt as they were,
is sent. -/
theorem exists_run_reply (h : m.options = pre ++ o :: post) (ho : o.OptCode = ZC_OPT_SSESSION)
    (hlen : o.body.length = sizeof_ZC_SsessionInfo)
    (hconnected : d.g_struClientInfo.connected (ZC_HTONL (number o.body)) = true) (hrebuild : Rebuildable (pre ++ post))
    (hfits : m.body.length < 592) :
    ∃ d', (ZC_DealSessionOpt env (m.bytes ++ rest) (foundOptions sizeof_ZC_MessageHead m.options)
      (sizeof_ZC_MessageHead + (optionBytes pre).length + sizeof_ZC_MessageOptHead)
      ((optionBytes m.options).length + sizeof_ZC_MessageHead)).run d = .ok ((), d') := by
  obtain ⟨m₅, -, hrun⟩ := run_ZC_DealSessionOpt env (loadU32_found h hlen) hconnected
    (replies_of_rebuildable h ho hlen hfits hrebuild)
  exact ⟨_, hrun⟩

/-- Everything can be read that a reply to the message `m` is made from, with `rest`
behind it: the body of the transport option that is found, however short it is, and
behind all options as many bytes as are left for the payload. -/
structure Message.Answerable (m : Message) (rest : List UInt8) : Prop where
  counted : 8 + rebuiltLength (foundOptions sizeof_ZC_MessageHead m.options) ≤ m.body.length
  transport (t : Nat) (ht : t ∈ (foundOptions sizeof_ZC_MessageHead m.options).pstruTransportInfo) :
    t + sizeof_ZC_TransportInfo ≤ (m.bytes ++ rest).length
  payload : (optionBytes m.options).length ≤
    8 + rebuiltLength (foundOptions sizeof_ZC_MessageHead m.options) + rest.length

theorem length_view : (m.bytes ++ rest).length = sizeof_ZC_MessageHead + m.body.length + rest.length := by
  rw [List.length_append, m.length_bytes]

theorem answerable_of_replies {h' : ZC_MessageHead} {options payload : List UInt8}
    (hreply : Replies d (m.bytes ++ rest) (foundOptions sizeof_ZC_MessageHead m.options).pstruTransportInfo
      ((optionBytes m.options).length + sizeof_ZC_MessageHead) h' options payload) : m.Answerable rest := by
  have hlen := Except.ok.inj ((m.pstruPayloadlen_bytes rest).symm.trans hreply.view_len)
  have hread := (load_eq_ok_iff.mp hreply.payload_eq).1
  rw [List.length_append, length_of_rebuiltOption hreply.options_eq] at hlen
  rw [length_view] at hread
  exact ⟨by omega, exists_rebuiltOption.mp ⟨options, hreply.options_eq⟩, by omega⟩

theorem replies_of_answerable (hanswer : m.Answerable rest) (hfits : m.body.length < 592) :
    ∃ h' options payload, Replies d (m.bytes ++ rest) (foundOptions sizeof_ZC_MessageHead m.options).pstruTransportInfo
      ((optionBytes m.options).length + sizeof_ZC_MessageHead) h' options payload := by
  obtain ⟨options, hoptions⟩ := exists_rebuiltOption.mpr hanswer.transport
  have hlen := length_of_rebuiltOption hoptions
  have hcounted := hanswer.counted
  have hpayload := hanswer.payload
  have hview := @length_view m rest
  rw [← hlen] at hcounted hpayload
  have hload := @load_of_le (m.bytes ++ rest) ((optionBytes m.options).length + sizeof_ZC_MessageHead)
    (m.body.length - 8 - options.length) (by omega)
  have hloaded := length_of_load hload
  generalize ((m.bytes ++ rest).drop ((optionBytes m.options).length + sizeof_ZC_MessageHead)).take
    (m.body.length - 8 - options.length) = payload at hload hloaded
  have hboth : 8 + (options ++ payload).length = m.body.length := by
    rw [List.length_append]
    omega
  refine ⟨⟨m.Version, m.MsgId, m.MsgCode, _, _, _⟩, options, payload, ?_, ?_, ?_, rfl, ?_, rfl, hoptions, ?_, rfl, ?_⟩
  · rw [bytes_append]
    exact m.head.loadU8_Version _
  · rw [bytes_append]
    exact m.head.loadU8_MsgId _
  · rw [bytes_append]
    exact m.head.loadU8_MsgCode _
  · rw [m.pstruPayloadlen_bytes, hboth]
  · rwa [hloaded]
  · omega

end

def sessionTo7 : MsgOption := ⟨ZC_OPT_SSESSION, bytesU32 (ZC_HTONL 7), by decide, by decide⟩

/-- A message of the module to the client `7`. -/
def messageTo7 (payload : List UInt8) (h : payload.length < 65000) : Message where
  Version := 1
  MsgId := 5
  MsgCode := 40
  options := [sessionTo7]
  payload := payload
  num_lt := by decide
  length_lt := by
    rw [List.length_append]
    exact Nat.lt_of_lt_of_le (Nat.add_lt_add_left h 8) (by decide)

theorem options_messageTo7 {payload : List UInt8} {h : payload.length < 65000} :
    (messageTo7 payload h).options = [] ++ sessionTo7 :: [] := rfl

theorem exists_messageTo7 (n : Nat) (h : n < 65000) :
    ∃ m : Message, m.body.length = 8 + n ∧ m.options = [] ++ sessionTo7 :: [] := by
  refine ⟨messageTo7 (List.replicate n 1) (by rwa [List.length_replicate]), ?_, rfl⟩
  rw [Message.body, List.length_append]
  exact congrArg (8 + ·) List.length_replicate

/-- The client `7` is connected. -/
theorem exists_connected7 : ∃ d : Device, d.Reachable soundEnv (fun _ _ => True) ∧
    d.g_struClientInfo.connected 7 = true ∧ (d.g_u8MsgBuildBuffer.bytes.drop 8).take 4 = [0, 0, 0, 0] := by
  have hview : ((Device.boot soundEnv blankFwup).bind (Device.replay soundEnv connected7)).map
      (fun d => (d.g_struClientInfo.connected 7, (d.g_u8MsgBuildBuffer.bytes.drop 8).take 4)) =
        some (true, [0, 0, 0, 0]) := by decide +kernel
  obtain ⟨d, hreachable, hview⟩ := Device.reachable_of_replay ⟨rfl, rfl, rfl⟩ (fun _ _ _ => trivial) hview
  exact ⟨d, hreachable, (Prod.mk.inj hview).1, (Prod.mk.inj hview).2⟩

end ZCloud
