import ZCloud.ClientManager.Session
import ZCloud.MsgOption

open Memory Program

namespace ZCloud

/-- The options of a message, as the module's own code has them. -/
structure AC_OptList where
  pstruTransportInfo : Option (Mem sizeof_ZC_TransportInfo)
  pstruSsession : Option (Mem sizeof_ZC_SsessionInfo)
deriving DecidableEq

/-- Writes the options to the array `m` at offset `off`, and returns their number and
length. -/
def AC_BuildOption {n : Nat} (opts : AC_OptList) (m : Mem n) (off : Nat) : Except Fault (Mem n × Nat × Nat) := do
  let (m, transportNum, transportLen) ← match opts.pstruTransportInfo with
    | none => pure (m, 0, 0)
    | some info => do
      let m ← m.store off (optHead ZC_OPT_TRANSPORT sizeof_ZC_TransportInfo ++ info.bytes)
      pure (m, 1, sizeof_ZC_MessageOptHead + sizeof_ZC_TransportInfo)
  let (m, sessionNum, sessionLen) ← match opts.pstruSsession with
    | none => pure (m, 0, 0)
    | some info => do
      let m ← m.store off (optHead ZC_OPT_SSESSION sizeof_ZC_SsessionInfo ++ info.bytes)
      pure (m, 1, sizeof_ZC_MessageOptHead + sizeof_ZC_SsessionInfo)
  return (m, transportNum + sessionNum, transportLen + sessionLen)

/-- Builds a message in the array `m`, and returns its length. -/
def AC_BuildMessage {n : Nat} (u8MsgCode u8MsgId : UInt8) (pu8Payload : List UInt8) (u16PayloadLen : Nat)
    (opts : AC_OptList) (m : Mem n) : Except Fault (Mem n × Nat) := do
  let m ← m.store 0 [0, u8MsgId, u8MsgCode]
  let (m, OptNum, u16OptLen) ← AC_BuildOption opts m sizeof_ZC_MessageHead
  let m ← m.store 3 [u8 OptNum]
  let m ← m.memcpy (sizeof_ZC_MessageHead + u16OptLen) pu8Payload u16PayloadLen
  let m ← m.store 4 (bytesU16 (ZC_HTONS (u16 (u16PayloadLen + u16OptLen))))
  let crc := crcBytes (crc16_ccitt (← load m.bytes sizeof_ZC_MessageHead (u16PayloadLen + u16OptLen)))
  let m ← m.store 6 [crc.1, crc.2]
  return (m, u16 (sizeof_ZC_MessageHead + u16PayloadLen + u16OptLen))

/-- The body of an option that has been found. -/
def optionBody (view : List UInt8) (n : Nat) : Option Nat → Except Fault (Option (Mem n))
  | none => return none
  | some off => return some (← loadMem view off n)

/-- The parser finds the options `opts` in the message at the start of `view`, takes
them to be `u16OptLen` bytes, and leaves `pu8Payload` behind them. -/
def Recovers (parse : List UInt8 → ZC_OptList → Except Fault (ZC_OptList × Nat)) (view : List UInt8) (opts : AC_OptList)
    (u16OptLen : Nat) (pu8Payload : List UInt8) : Prop :=
  ∃ found Payloadlen, parse view ⟨none, none⟩ = .ok (found, u16OptLen) ∧
    optionBody view sizeof_ZC_TransportInfo found.pstruTransportInfo = .ok opts.pstruTransportInfo ∧
    optionBody view sizeof_ZC_SsessionInfo found.pstruSsession = .ok opts.pstruSsession ∧
    pstruPayloadlen view = .ok Payloadlen ∧
    load view (sizeof_ZC_MessageHead + u16OptLen) (Payloadlen - u16OptLen) = .ok pu8Payload

def transportOption (info : Mem sizeof_ZC_TransportInfo) : MsgOption :=
  ⟨ZC_OPT_TRANSPORT, info.bytes, by decide, by rw [info.size]; decide⟩

theorem ssession_code_lt : ZC_OPT_SSESSION < 65536 := by decide

def ssessionOption (info : Mem sizeof_ZC_SsessionInfo) : MsgOption :=
  ⟨ZC_OPT_SSESSION, info.bytes, ssession_code_lt, by rw [info.size]; decide⟩

theorem bytes_transportOption (info : Mem sizeof_ZC_TransportInfo) :
    (transportOption info).bytes = optHead ZC_OPT_TRANSPORT sizeof_ZC_TransportInfo ++ info.bytes := by
  rw [MsgOption.bytes, transportOption, info.size]

theorem bytes_ssessionOption (info : Mem sizeof_ZC_SsessionInfo) :
    (ssessionOption info).bytes = optHead ZC_OPT_SSESSION sizeof_ZC_SsessionInfo ++ info.bytes := by
  rw [MsgOption.bytes, ssessionOption, info.size]

theorem length_transportOption (info : Mem sizeof_ZC_TransportInfo) : (transportOption info).bytes.length = 20 := by
  rw [bytes_transportOption, List.length_append, info.size]
  rfl

theorem length_ssessionOption (info : Mem sizeof_ZC_SsessionInfo) : (ssessionOption info).bytes.length = 8 := by
  rw [bytes_ssessionOption, List.length_append, info.size]
  rfl

namespace AC_OptList

/-- The options, one behind the other. -/
def options (opts : AC_OptList) : List MsgOption :=
  (opts.pstruTransportInfo.map transportOption).toList ++ (opts.pstruSsession.map ssessionOption).toList

theorem length_two {info : Mem sizeof_ZC_TransportInfo} {id : Mem sizeof_ZC_SsessionInfo} :
    (optionBytes (options ⟨some info, some id⟩)).length = 28 := by
  change ((transportOption info).bytes ++ ((ssessionOption id).bytes ++ [])).length = 28
  rw [List.append_nil, List.length_append, length_transportOption, length_ssessionOption]

theorem length_options (opts : AC_OptList) : opts.options.length ≤ 2 ∧ (optionBytes opts.options).length ≤ 28 := by
  obtain ⟨transport, session⟩ := opts
  cases transport with
  | none =>
    cases session with
    | none => exact ⟨Nat.zero_le 2, Nat.zero_le 28⟩
    | some id =>
      refine ⟨Nat.le_succ 1, ?_⟩
      change ((ssessionOption id).bytes ++ []).length ≤ 28
      rw [List.append_nil, length_ssessionOption]
      decide
  | some info =>
    cases session with
    | none =>
      refine ⟨Nat.le_succ 1, ?_⟩
      change ((transportOption info).bytes ++ []).length ≤ 28
      rw [List.append_nil, length_transportOption]
      decide
    | some id => exact ⟨Nat.le_refl 2, Nat.le_of_eq length_two⟩

/-- What is written of the options over bytes that end in `stale`: of two, the session
option is written over the start of the transport option. -/
def written (stale : List UInt8) : AC_OptList → List UInt8
  | ⟨some info, some id⟩ => (ssessionOption id).bytes ++ (info.bytes.drop 4 ++ stale)
  | opts => optionBytes opts.options

/-- The two options do not overlap, or what is left of the transport option happens to
be the option again. -/
def Separate (stale : List UInt8) : AC_OptList → Prop
  | ⟨some info, some _⟩ =>
    (info.bytes.drop 4).take 4 = optHead ZC_OPT_TRANSPORT sizeof_ZC_TransportInfo ∧ info.bytes = info.bytes.drop 8 ++ stale
  | _ => True

end AC_OptList

/-- The payload behind `len` bytes of options is found where the sum of the lengths is
a 16-bit number. -/
theorem load_payload_iff {a payload rest : List UInt8} {off len : Nat} (hoff : a.length = off)
    (hlt : len < 65536) :
    load (a ++ (payload ++ rest)) off (u16 (len + payload.length) - len) = .ok payload ↔ len + payload.length < 65536 := by
  rw [load_append_of_le (Nat.le_of_eq hoff), hoff, Nat.sub_self]
  constructor
  · intro h
    have hlen := length_of_load h
    unfold u16 at hlen
    omega
  · intro h
    rw [u16_of_lt h, Nat.add_sub_cancel_left, load_append_zero rfl]

theorem optionBody_of_load {n : Nat} {view : List UInt8} {off : Nat} {info : Mem n} (h : load view off n = .ok info.bytes) :
    optionBody view n (some off) = .ok (some info) := by
  obtain ⟨hin, hbytes⟩ := load_eq_ok_iff.mp h
  rw [optionBody, loadMem_eq_ok_iff.mpr ⟨hin, hbytes⟩]
  rfl

theorem eq_of_length_four {l : List UInt8} (hl : l.length = 4) : ∃ a b c d, l = [a, b, c, d] := by
  obtain _ | ⟨a, _ | ⟨b, _ | ⟨c, _ | ⟨d, _ | ⟨e, l⟩⟩⟩⟩⟩ := l
  all_goals first
    | exact ⟨_, _, _, _, rfl⟩
    | simp at hl

theorem loadU16_pair (x y : UInt8) (rest : List UInt8) :
    loadU16 ([x, y] ++ rest) 0 = .ok (number [x, y]) := by
  rw [loadU16, load_append_zero (show [x, y].length = 2 from rfl)]
  rfl

theorem ZC_HTONS_pair (x y : UInt8) : ZC_HTONS (number [x, y]) = x.toNat * 256 + y.toNat := by
  have hx := x.toNat_lt
  have hy := y.toNat_lt
  simp only [number, ZC_HTONS]
  omega

namespace AC_OptList

variable {opts : AC_OptList} {stale payload rest : List UInt8} {h : ZC_MessageHead}

/-- The bodies of options that do not overlap are found. -/
theorem optionBody_options (hone : opts.pstruTransportInfo = none ∨ opts.pstruSsession = none) {a b : List UInt8} :
    optionBody (a ++ (optionBytes opts.options ++ b)) sizeof_ZC_TransportInfo
        (foundOptions a.length opts.options).pstruTransportInfo = .ok opts.pstruTransportInfo ∧
      optionBody (a ++ (optionBytes opts.options ++ b)) sizeof_ZC_SsessionInfo
        (foundOptions a.length opts.options).pstruSsession = .ok opts.pstruSsession := by
  obtain ⟨transport, session⟩ := opts
  have hload (o : MsgOption) := @load_option o [] [] a b
  cases transport with
  | none =>
    cases session with
    | none => exact ⟨rfl, rfl⟩
    | some id =>
      have hid := hload (ssessionOption id)
      rw [ssessionOption, id.size] at hid
      exact ⟨rfl, optionBody_of_load hid⟩
  | some info =>
    obtain rfl : session = none := hone.resolve_left nofun
    have hinfo := hload (transportOption info)
    rw [transportOption, info.size] at hinfo
    exact ⟨optionBody_of_load hinfo, rfl⟩

/-- What is found of options that do not overlap. -/
theorem recovers_of_one (hone : opts.pstruTransportInfo = none ∨ opts.pstruSsession = none)
    (hnum : h.OptNum = u8 opts.options.length)
    (hPayloadlen : h.Payloadlen = ZC_HTONS (u16 ((optionBytes opts.options).length + payload.length))) :
    Recovers EVENT_ParseOption (h.toBytes ++ (optionBytes opts.options ++ (payload ++ rest))) opts
        (optionBytes opts.options).length payload ↔
      (optionBytes opts.options).length + payload.length < 65536 := by
  obtain ⟨hcount, hlength⟩ := opts.length_options
  have hparse : EVENT_ParseOption (h.toBytes ++ (optionBytes opts.options ++ (payload ++ rest))) ⟨none, none⟩ =
      .ok (foundOptions sizeof_ZC_MessageHead opts.options, (optionBytes opts.options).length) := by
    rw [EVENT_ParseOption, h.loadU8_OptNum, ok_bind, hnum, toNat_u8, Nat.mod_eq_of_lt (by omega)]
    refine (parseOptions_optionBytes (by decide)).trans ?_
    rw [ZC_OptList.or_none, Nat.zero_add, u16_of_lt (by omega)]
    rfl
  have hPL := h.pstruPayloadlen_toBytes (optionBytes opts.options ++ (payload ++ rest)) (u16_lt _) hPayloadlen
  obtain ⟨hinfo, hid⟩ := @optionBody_options opts hone h.toBytes (payload ++ rest)
  have hload := @load_payload_iff (h.toBytes ++ optionBytes opts.options) payload rest
    (sizeof_ZC_MessageHead + (optionBytes opts.options).length) (optionBytes opts.options).length List.length_append (by omega)
  rw [List.append_assoc] at hload
  rw [← hload]
  constructor
  · rintro ⟨found, PL, hfound, -, -, hPL', hpayload⟩
    obtain rfl := Except.ok.inj (hPL.symm.trans hPL')
    exact hpayload
  · exact fun hpayload => ⟨_, _, hparse, hinfo, hid, hPL, hpayload⟩

/-- What the parser makes of the rest of a transport option, of which `a`, `b`, `c` and
`d` are the first bytes, behind a session option. -/
theorem parseOption_two {id : Mem sizeof_ZC_SsessionInfo} {a b c d : UInt8} (hnum : h.OptNum = u8 2) :
    EVENT_ParseOption (h.toBytes ++ ((ssessionOption id).bytes ++ ([a, b, c, d] ++ rest))) ⟨none, none⟩ =
      .ok ((if a.toNat * 256 + b.toNat = ZC_OPT_TRANSPORT then ⟨some 20, some 12⟩
          else if a.toNat * 256 + b.toNat = ZC_OPT_SSESSION then ⟨none, some 20⟩ else ⟨none, some 12⟩ : ZC_OptList),
        u16 (12 + (c.toNat * 256 + d.toNat))) := by
  have hlen : (h.toBytes ++ (ssessionOption id).bytes).length = 16 := by
    rw [List.length_append, length_ssessionOption]
    rfl
  have hview : h.toBytes ++ ((ssessionOption id).bytes ++ ([a, b, c, d] ++ rest)) =
      h.toBytes ++ (ssessionOption id).bytes ++ ([a, b] ++ ([c, d] ++ rest)) := by simp
  have hcode : loadU16 (h.toBytes ++ ((ssessionOption id).bytes ++ ([a, b, c, d] ++ rest))) 16 = .ok (number [a, b]) := by
    rw [hview, loadU16_append_of_le (Nat.le_of_eq hlen), hlen]
    exact loadU16_pair a b _
  have hbody : loadU16 (h.toBytes ++ ((ssessionOption id).bytes ++ ([a, b, c, d] ++ rest))) (16 + 2) =
      .ok (number [c, d]) := by
    rw [hview, loadU16_append_of_le (by omega), hlen, loadU16_append_of_le (Nat.le_refl 2)]
    exact loadU16_pair c d _
  have hfirst := @parseOptions_append [ssessionOption id] 1 h.toBytes ([a, b, c, d] ++ rest) 0 ⟨none, none⟩ (by decide)
  have hbytes : optionBytes [ssessionOption id] = (ssessionOption id).bytes := List.append_nil _
  rw [hbytes, length_ssessionOption] at hfirst
  rw [EVENT_ParseOption, h.loadU8_OptNum, ok_bind, hnum]
  refine hfirst.trans ?_
  change parseOptions _ 1 16 8 ⟨none, some 12⟩ = _
  rw [parseOptions, hcode, ok_bind, hbody, ok_bind, ZC_HTONS_pair, ZC_HTONS_pair]
  dsimp only
  rw [parseOptions, sizeof_ZC_MessageOptHead, Nat.add_assoc 8 4, ← Nat.add_assoc 8 4]
  rfl

/-- Of two options, what is left of the first is taken for the transport option only
where it happens to be the same. -/
theorem recovers_of_two {info : Mem sizeof_ZC_TransportInfo} {id : Mem sizeof_ZC_SsessionInfo} (hstale : stale.length = 8)
    (hnum : h.OptNum = u8 2) (hPayloadlen : h.Payloadlen = ZC_HTONS (u16 (28 + payload.length))) :
    Recovers EVENT_ParseOption (h.toBytes ++ (written stale ⟨some info, some id⟩ ++ (payload ++ rest)))
        ⟨some info, some id⟩ 28 payload ↔
      Separate stale ⟨some info, some id⟩ ∧ 28 + payload.length < 65536 := by
  obtain ⟨a, b, c, d, habcd⟩ := @eq_of_length_four ((info.bytes.drop 4).take 4) (by
    rw [List.length_take, List.length_drop, info.size]; decide)
  have hsplit : info.bytes.drop 4 = [a, b, c, d] ++ info.bytes.drop 8 := by
    have hdrop := (List.take_append_drop 4 (info.bytes.drop 4)).symm
    rwa [habcd, List.drop_drop] at hdrop
  have hview : h.toBytes ++ (written stale ⟨some info, some id⟩ ++ (payload ++ rest)) =
      h.toBytes ++ ((ssessionOption id).bytes ++ ([a, b, c, d] ++ (info.bytes.drop 8 ++ (stale ++ (payload ++ rest))))) := by
    rw [written, hsplit]
    simp only [List.append_assoc]
  have hwritten : (written stale ⟨some info, some id⟩).length = 28 := by
    rw [written, List.length_append, List.length_append, length_ssessionOption, List.length_drop, info.size, hstale]
    rfl
  have hPL := h.pstruPayloadlen_toBytes (written stale ⟨some info, some id⟩ ++ (payload ++ rest)) (u16_lt _) hPayloadlen
  have hload := @load_payload_iff (h.toBytes ++ written stale ⟨some info, some id⟩) payload rest
    (sizeof_ZC_MessageHead + 28) 28 (by rw [List.length_append, hwritten]; rfl) (by decide)
  rw [List.append_assoc] at hload
  have hhead : optHead ZC_OPT_TRANSPORT sizeof_ZC_TransportInfo = [0, 0, 0, 16] := by decide
  have hdrop8 : (info.bytes.drop 8).length = 8 := by
    rw [List.length_drop, info.size]
    rfl
  have hbody : load (h.toBytes ++ (written stale ⟨some info, some id⟩ ++ (payload ++ rest))) 20 16 =
      .ok (info.bytes.drop 8 ++ stale) := by
    have hassoc : h.toBytes ++ ((ssessionOption id).bytes ++ ([a, b, c, d] ++ (info.bytes.drop 8 ++
        (stale ++ (payload ++ rest))))) =
        h.toBytes ++ (ssessionOption id).bytes ++ [a, b, c, d] ++ ((info.bytes.drop 8 ++ stale) ++ (payload ++ rest)) := by
      simp only [List.append_assoc]
    have hlen : (h.toBytes ++ (ssessionOption id).bytes ++ [a, b, c, d]).length = 20 := by
      rw [List.length_append, List.length_append, length_ssessionOption]
      rfl
    rw [hview, hassoc, load_append_of_le (Nat.le_of_eq hlen), hlen]
    exact load_append_zero (by rw [List.length_append, hdrop8, hstale])
  have hid : load (h.toBytes ++ (written stale ⟨some info, some id⟩ ++ (payload ++ rest))) 12 sizeof_ZC_SsessionInfo =
      .ok id.bytes := by
    have hload := @load_option (ssessionOption id) [] [] h.toBytes ([a, b, c, d] ++ (info.bytes.drop 8 ++
      (stale ++ (payload ++ rest))))
    have hbytes : optionBytes ([] ++ [ssessionOption id]) = (ssessionOption id).bytes := List.append_nil _
    rw [hbytes, ssessionOption, id.size] at hload
    rw [hview]
    exact hload
  have hparse := @parseOption_two (info.bytes.drop 8 ++ (stale ++ (payload ++ rest))) h id a b c d hnum
  rw [← hview] at hparse
  rw [← hload]
  constructor
  · rintro ⟨found, PL, hfound, hinfo, -, hPL', hpayload⟩
    obtain rfl := Except.ok.inj (hPL.symm.trans hPL')
    obtain ⟨rfl, hlen⟩ := Prod.mk.inj (Except.ok.inj (hparse.symm.trans hfound))
    have ha := a.toNat_lt
    have hb := b.toNat_lt
    have hc := c.toNat_lt
    have hd := d.toNat_lt
    have hcode : a.toNat * 256 + b.toNat = ZC_OPT_TRANSPORT := by
      refine Decidable.byContradiction fun hcode => ?_
      rw [if_neg hcode] at hinfo
      split at hinfo <;> cases hinfo
    rw [if_pos hcode] at hinfo
    obtain ⟨info', hload', hsame⟩ := bind_eq_ok.mp hinfo
    obtain rfl := Option.some.inj (Except.ok.inj hsame)
    obtain ⟨-, hbytes⟩ := loadMem_eq_ok_iff.mp hload'
    obtain ⟨-, hbytes'⟩ := load_eq_ok_iff.mp hbody
    unfold ZC_OPT_TRANSPORT at hcode
    unfold u16 at hlen
    obtain rfl : a = 0 := UInt8.toNat_inj.mp (show a.toNat = 0 by omega)
    obtain rfl : b = 0 := UInt8.toNat_inj.mp (show b.toNat = 0 by omega)
    obtain rfl : c = 0 := UInt8.toNat_inj.mp (show c.toNat = 0 by omega)
    obtain rfl : d = 16 := UInt8.toNat_inj.mp (show d.toNat = 16 by omega)
    exact ⟨⟨habcd.trans hhead.symm, hbytes.trans hbytes'.symm⟩, hpayload⟩
  · rintro ⟨⟨hsame, hinfo⟩, hpayload⟩
    rw [habcd, hhead] at hsame
    simp only [List.cons.injEq, and_true] at hsame
    obtain ⟨rfl, rfl, rfl, rfl⟩ := hsame
    refine ⟨_, _, hparse, ?_, optionBody_of_load hid, hPL, hpayload⟩
    exact optionBody_of_load (hinfo ▸ hbody)

theorem length_written (hstale : (optionBytes opts.options).length = 28 → stale.length = 8) :
    (written stale opts).length = (optionBytes opts.options).length := by
  obtain ⟨transport, session⟩ := opts
  cases transport with
  | none => rfl
  | some info =>
    cases session with
    | none => rfl
    | some id =>
      change _ = ((transportOption info).bytes ++ ((ssessionOption id).bytes ++ [])).length
      rw [written, List.append_nil, List.length_append, List.length_append, List.length_append, length_ssessionOption,
        length_transportOption, List.length_drop, info.size, hstale length_two]
      rfl

/-- The options are recovered exactly where they do not overlap, and their length and that
of the payload together are a 16-bit number. -/
theorem recovers_iff (hstale : (optionBytes opts.options).length = 28 → stale.length = 8) (hnum : h.OptNum = u8 opts.options.length)
    (hPayloadlen : h.Payloadlen = ZC_HTONS (u16 ((optionBytes opts.options).length + payload.length))) :
    Recovers EVENT_ParseOption (h.toBytes ++ (written stale opts ++ (payload ++ rest))) opts
        (optionBytes opts.options).length payload ↔
      Separate stale opts ∧ (optionBytes opts.options).length + payload.length < 65536 := by
  obtain ⟨transport, session⟩ := opts
  cases transport with
  | none =>
    rw [Separate.eq_def, true_and]
    exact recovers_of_one (.inl rfl) hnum hPayloadlen
  | some info =>
    cases session with
    | none =>
      rw [Separate.eq_def, true_and]
      exact recovers_of_one (.inr rfl) hnum hPayloadlen
    | some id =>
      rw [length_two] at hPayloadlen ⊢
      exact recovers_of_two (hstale length_two) hnum hPayloadlen

end AC_OptList

/-- What the builder writes over the bytes from offset `off` on. -/
theorem AC_BuildOption_spec {n off : Nat} {opts : AC_OptList} {m : Mem n}
    (hfits : off + (optionBytes opts.options).length ≤ n) :
    ∃ m', AC_BuildOption opts m off = .ok (m', opts.options.length, (optionBytes opts.options).length) ∧
      m'.bytes = patch m.bytes off (opts.written ((m.bytes.drop (off + 20)).take 8)) := by
  obtain ⟨transport, session⟩ := opts
  cases transport with
  | none =>
    cases session with
    | none => exact ⟨m, rfl, (patch_nil _ _).symm⟩
    | some id =>
      have hbytes : optionBytes (AC_OptList.options ⟨none, some id⟩) = (ssessionOption id).bytes := List.append_nil _
      rw [hbytes] at hfits ⊢
      obtain ⟨m', hm', hpatch⟩ := m.store_spec hfits
      rw [bytes_ssessionOption] at hm'
      refine ⟨m', ?_, ?_⟩
      · simp only [AC_BuildOption, pure_bind, hm', ok_bind, length_ssessionOption]
        rfl
      · rw [hpatch, AC_OptList.written, hbytes]
        nofun
  | some info =>
    cases session with
    | none =>
      have hbytes : optionBytes (AC_OptList.options ⟨some info, none⟩) = (transportOption info).bytes := List.append_nil _
      rw [hbytes] at hfits ⊢
      obtain ⟨m', hm', hpatch⟩ := m.store_spec hfits
      rw [bytes_transportOption] at hm'
      refine ⟨m', ?_, ?_⟩
      · simp only [AC_BuildOption, pure_bind, hm', ok_bind, length_transportOption]
        rfl
      · rw [hpatch, AC_OptList.written, hbytes]
        nofun
    | some id =>
      have hsize := m.length_bytes
      have hlenT := length_transportOption info
      have hlenS := length_ssessionOption id
      rw [AC_OptList.length_two] at hfits ⊢
      obtain ⟨m₁, hm₁, hpatch₁⟩ := m.store_spec (show off + (transportOption info).bytes.length ≤ n by omega)
      obtain ⟨m₂, hm₂, hpatch₂⟩ := m₁.store_spec (show off + (ssessionOption id).bytes.length ≤ n by omega)
      have hdrop : (transportOption info).bytes.drop (ssessionOption id).bytes.length = info.bytes.drop 4 := by
        rw [hlenS, bytes_transportOption]
        rfl
      rw [bytes_transportOption] at hm₁
      rw [bytes_ssessionOption] at hm₂
      refine ⟨m₂, ?_, ?_⟩
      · simp only [AC_BuildOption, hm₁, ok_bind, pure_bind, hm₂]
        rfl
      · have hboth : ((ssessionOption id).bytes ++ info.bytes.drop 4).length = 20 := by
          rw [List.length_append, hlenS, List.length_drop, info.size]
          rfl
        rw [hpatch₂, hpatch₁, patch_patch_start (by omega) (by omega), hdrop, AC_OptList.written, ← List.append_assoc, ← hboth,
          patch_append_same (by omega)]

theorem load_of_optionBody {n : Nat} {view : List UInt8} {off : Nat} {info : Mem n}
    (h : optionBody view n (some off) = .ok (some info)) : load view off n = .ok info.bytes := by
  obtain ⟨info', hload, hsame⟩ := bind_eq_ok.mp h
  obtain rfl := Option.some.inj (Except.ok.inj hsame)
  exact load_eq_ok_iff.mpr (loadMem_eq_ok_iff.mp hload)

theorem eq_none_of_optionBody {n : Nat} {view : List UInt8} {off : Option Nat}
    (h : optionBody view n off = .ok none) : off = none := by
  cases off with
  | none => rfl
  | some off =>
    obtain ⟨_, -, hsame⟩ := bind_eq_ok.mp h
    cases hsame

theorem exists_of_optionBody {n : Nat} {view : List UInt8} {off : Option Nat} {info : Mem n}
    (h : optionBody view n off = .ok (some info)) : ∃ at', off = some at' ∧ load view at' n = .ok info.bytes := by
  cases off with
  | none => cases h
  | some off => exact ⟨off, rfl, load_of_optionBody h⟩

/-- The gateway's builder writes what the module's builder writes. -/
theorem run_EVENT_BuildOption {view : List UInt8} {found : ZC_OptList} {opts : AC_OptList} {off : Nat} {r : Nat × Nat}
    {d : Device} {m : Mem MSG_BULID_BUFFER_MAXLEN}
    (htransport : optionBody view sizeof_ZC_TransportInfo found.pstruTransportInfo = .ok opts.pstruTransportInfo)
    (hsession : optionBody view sizeof_ZC_SsessionInfo found.pstruSsession = .ok opts.pstruSsession)
    (h : AC_BuildOption opts d.g_u8MsgBuildBuffer off = .ok (m, r)) :
    (EVENT_BuildOption view found off).run d = .ok (r, d.withBuild m) := by
  obtain ⟨transport, session⟩ := opts
  obtain ⟨pstruTransportInfo, pstruSsession⟩ := found
  cases transport with
  | none =>
    obtain rfl := eq_none_of_optionBody htransport
    cases session with
    | none =>
      obtain rfl := eq_none_of_optionBody hsession
      obtain ⟨rfl, rfl⟩ := Prod.mk.inj (Except.ok.inj h)
      rfl
    | some id =>
      obtain ⟨_, rfl, hid⟩ := exists_of_optionBody hsession
      simp only [AC_BuildOption, pure_bind] at h
      obtain ⟨m', hm', hr⟩ := bind_eq_ok.mp h
      obtain ⟨rfl, rfl⟩ := Prod.mk.inj (Except.ok.inj hr)
      refine run_bind_eq_ok.mpr ⟨(0, 0), d, rfl, run_bind_eq_ok.mpr ⟨_, d, run_lift_eq_ok.mpr ⟨hid, rfl⟩, ?_⟩⟩
      exact run_bind_eq_ok.mpr ⟨(), _, run_storeBuild hm', rfl⟩
  | some info =>
    obtain ⟨_, rfl, hinfo⟩ := exists_of_optionBody htransport
    cases session with
    | none =>
      obtain rfl := eq_none_of_optionBody hsession
      simp only [AC_BuildOption, pure_bind] at h
      obtain ⟨m', hm', hr⟩ := bind_eq_ok.mp h
      obtain ⟨rfl, rfl⟩ := Prod.mk.inj (Except.ok.inj hr)
      refine run_bind_eq_ok.mpr ⟨_, d, run_lift_eq_ok.mpr ⟨hinfo, rfl⟩, ?_⟩
      exact run_bind_eq_ok.mpr ⟨(), _, run_storeBuild hm', rfl⟩
    | some id =>
      obtain ⟨_, rfl, hid⟩ := exists_of_optionBody hsession
      simp only [AC_BuildOption, pure_bind] at h
      obtain ⟨m', hm', h₁⟩ := bind_eq_ok.mp h
      obtain ⟨m'', hm'', hr⟩ := bind_eq_ok.mp h₁
      obtain ⟨rfl, rfl⟩ := Prod.mk.inj (Except.ok.inj hr)
      refine run_bind_eq_ok.mpr ⟨_, d, run_lift_eq_ok.mpr ⟨hinfo, rfl⟩, ?_⟩
      refine run_bind_eq_ok.mpr ⟨(), d.withBuild m', run_storeBuild hm', run_bind_eq_ok.mpr ⟨(1, 20), _, rfl, ?_⟩⟩
      refine run_bind_eq_ok.mpr ⟨_, _, run_lift_eq_ok.mpr ⟨hid, rfl⟩, ?_⟩
      exact run_bind_eq_ok.mpr ⟨(), (d.withBuild m').withBuild m'', run_storeBuild hm'', rfl⟩

/-- The writes to the head of a message. -/
theorem patch_head {head : List UInt8} (hlen : head.length = sizeof_ZC_MessageHead) (Version MsgId MsgCode OptNum : UInt8)
    (Payloadlen : Nat) (crc : UInt8 × UInt8) :
    patch (patch (patch (patch head 0 [Version, MsgId, MsgCode]) 3 [OptNum]) 4 (bytesU16 Payloadlen)) 6 [crc.1, crc.2] =
      ZC_MessageHead.toBytes ⟨Version, MsgId, MsgCode, OptNum, Payloadlen, crc⟩ := by
  obtain ⟨a, b, c, d, hfirst⟩ := @eq_of_length_four (head.take 4) (by rw [List.length_take, hlen]; rfl)
  obtain ⟨e, f, g, h, hsecond⟩ := @eq_of_length_four (head.drop 4) (by rw [List.length_drop, hlen]; rfl)
  rw [← List.take_append_drop 4 head, hfirst, hsecond]
  rfl

/-- What the module's builder leaves in the array: a message with what it has written of
the options. -/
theorem AC_BuildMessage_spec {n : Nat} {u8MsgCode u8MsgId : UInt8} {pu8Payload : List UInt8} {opts : AC_OptList} {m : Mem n}
    (hfits : sizeof_ZC_MessageHead + (optionBytes opts.options).length + pu8Payload.length ≤ n) :
    ∃ m' u16Len rest, ∃ h : ZC_MessageHead, AC_BuildMessage u8MsgCode u8MsgId pu8Payload pu8Payload.length opts m = .ok (m', u16Len) ∧
      m'.bytes = h.toBytes ++ (opts.written ((m.bytes.drop 28).take 8) ++ (pu8Payload ++ rest)) ∧
      h.OptNum = u8 opts.options.length ∧
      h.Payloadlen = ZC_HTONS (u16 ((optionBytes opts.options).length + pu8Payload.length)) := by
  have hsize := m.length_bytes
  have hhead : sizeof_ZC_MessageHead = 8 := rfl
  have hstale : (optionBytes opts.options).length = 28 → ((m.bytes.drop 28).take 8).length = 8 := by
    intro hlen
    rw [List.length_take, List.length_drop]
    omega
  have hwritten := AC_OptList.length_written hstale
  generalize hw : opts.written ((m.bytes.drop 28).take 8) = w at hwritten ⊢
  generalize hlen : (optionBytes opts.options).length = len at hfits hwritten ⊢
  have hH : (m.bytes.take 8).length = 8 := by
    rw [List.length_take]
    omega
  obtain ⟨m₀, hm₀, hbytes₀⟩ := m.store_spec (show 0 + [0, u8MsgId, u8MsgCode].length ≤ n by simp; omega)
  have hdrop₀ : m₀.bytes.drop 28 = m.bytes.drop 28 := by rw [hbytes₀, drop_patch_of_le (Nat.zero_le _) (Nat.le_of_ble_eq_true rfl)]
  rw [← List.take_append_drop 8 m.bytes, patch_append (by rw [hH]; exact Nat.le_of_ble_eq_true rfl)] at hbytes₀
  have hH₀ := length_patch (show 0 + [0, u8MsgId, u8MsgCode].length ≤ (m.bytes.take 8).length by
    rw [hH]
    exact Nat.le_of_ble_eq_true rfl)
  obtain ⟨m₁, hm₁, hbytes₁⟩ := @AC_BuildOption_spec n sizeof_ZC_MessageHead opts m₀ (by omega)
  change m₁.bytes = patch m₀.bytes 8 (opts.written ((m₀.bytes.drop 28).take 8)) at hbytes₁
  rw [hdrop₀, hw, hbytes₀] at hbytes₁
  generalize hhead₀ : patch (m.bytes.take 8) 0 [0, u8MsgId, u8MsgCode] = head₀ at hbytes₁ hH₀
  rw [hH] at hH₀
  have hright (b data : List UInt8) (off : Nat) : patch (head₀ ++ b) (8 + off) data = head₀ ++ patch b off data := by
    rw [← hH₀, patch_append_right]
  have hbytes₁ : m₁.bytes = head₀ ++ patch (m.bytes.drop 8) 0 w := by
    rw [hbytes₁]
    exact hright _ _ 0
  have hbody : (m.bytes.drop 8).length = n - 8 := by rw [List.length_drop, hsize]
  obtain ⟨m₂, hm₂, hbytes₂⟩ := m₁.store_spec (show 3 + [u8 opts.options.length].length ≤ n by simp; omega)
  rw [hbytes₁, patch_append (by rw [hH₀]; exact Nat.le_of_ble_eq_true rfl)] at hbytes₂
  have hH₂ := length_patch (show 3 + [u8 opts.options.length].length ≤ head₀.length by
    rw [hH₀]
    exact Nat.le_of_ble_eq_true rfl)
  obtain ⟨m₃, hm₃, hbytes₃⟩ := @Mem.memcpy_spec n m₂ (sizeof_ZC_MessageHead + len) pu8Payload.length pu8Payload
    (Nat.le_refl _) (by omega)
  have hbytes₃ : m₃.bytes = patch head₀ 3 [u8 opts.options.length] ++ patch (m.bytes.drop 8) 0 (w ++ pu8Payload) := by
    have hoff : sizeof_ZC_MessageHead + len = (patch head₀ 3 [u8 opts.options.length]).length + (0 + w.length) := by
      rw [hH₂, hH₀, hwritten, Nat.zero_add]
      rfl
    rw [hbytes₃, hbytes₂, List.take_length, hoff, patch_append_right, patch_patch_behind (Nat.zero_le _)]
  have hpatch : patch (m.bytes.drop 8) 0 (w ++ pu8Payload) =
      (w ++ pu8Payload) ++ (m.bytes.drop 8).drop (w ++ pu8Payload).length := by
    rw [patch, List.take_zero, List.nil_append, Nat.zero_add]
  generalize (m.bytes.drop 8).drop (w ++ pu8Payload).length = rest at hpatch
  rw [hpatch] at hbytes₃
  obtain ⟨m₄, hm₄, hbytes₄⟩ := m₃.store_spec (show 4 + (bytesU16 (ZC_HTONS (u16 (pu8Payload.length + len)))).length ≤ n by
    rw [length_bytesU16]; omega)
  rw [hbytes₃, patch_append (by rw [hH₂, hH₀]; exact Nat.le_of_ble_eq_true rfl)] at hbytes₄
  have hH₄ := length_patch (show 4 + (bytesU16 (ZC_HTONS (u16 (pu8Payload.length + len)))).length ≤
    (patch head₀ 3 [u8 opts.options.length]).length by
      rw [hH₂, hH₀]
      exact Nat.le_of_ble_eq_true rfl)
  rw [hH₂, hH₀] at hH₄
  have hload : load m₄.bytes sizeof_ZC_MessageHead (pu8Payload.length + len) = .ok (w ++ pu8Payload) := by
    rw [hbytes₄, hhead, load_append_of_le (Nat.le_of_eq hH₄), hH₄]
    exact load_append_zero (by rw [List.length_append, hwritten, Nat.add_comm])
  generalize hcrc : crcBytes (crc16_ccitt (w ++ pu8Payload)) = crc
  obtain ⟨m₅, hm₅, hbytes₅⟩ := m₄.store_spec (show 6 + [crc.1, crc.2].length ≤ n by simp; omega)
  rw [hbytes₄, patch_append (by rw [hH₄]; exact Nat.le_of_ble_eq_true rfl), ← hhead₀, patch_head hH, List.append_assoc] at hbytes₅
  refine ⟨m₅, u16 (sizeof_ZC_MessageHead + pu8Payload.length + len), rest, _, ?_, hbytes₅, rfl, by rw [Nat.add_comm]⟩
  rw [AC_BuildMessage, hm₀, ok_bind, hm₁, ok_bind, hlen]
  dsimp only
  rw [hm₂, ok_bind, hm₃, ok_bind, hm₄, ok_bind, hload, ok_bind, hcrc, hm₅]
  rfl

/-- The options that the gateway's builder writes, behind any head that counts them. -/
theorem recovers_EVENT_BuildOption {d : Device} {view : List UInt8} {found : ZC_OptList} {opts : AC_OptList} {off : Nat}
    (htransport : optionBody view sizeof_ZC_TransportInfo found.pstruTransportInfo = .ok opts.pstruTransportInfo)
    (hsession : optionBody view sizeof_ZC_SsessionInfo found.pstruSsession = .ok opts.pstruSsession)
    (hfits : off + (optionBytes opts.options).length ≤ MSG_BULID_BUFFER_MAXLEN) :
    ∃ OptNum u16OptLen d', (EVENT_BuildOption view found off).run d = .ok ((OptNum, u16OptLen), d') ∧
      ∀ (h : ZC_MessageHead) (pu8Payload rest : List UInt8), h.OptNum = u8 OptNum →
        h.Payloadlen = ZC_HTONS (u16 (u16OptLen + pu8Payload.length)) →
        (Recovers EVENT_ParseOption
            (h.toBytes ++ ((d'.g_u8MsgBuildBuffer.bytes.drop off).take u16OptLen ++ (pu8Payload ++ rest))) opts u16OptLen
            pu8Payload ↔
          opts.Separate ((d.g_u8MsgBuildBuffer.bytes.drop (off + 20)).take 8) ∧ u16OptLen + pu8Payload.length < 65536) := by
  have hsize := d.g_u8MsgBuildBuffer.length_bytes
  obtain ⟨m, hm, hbytes⟩ := AC_BuildOption_spec hfits
  have hstale : (optionBytes opts.options).length = 28 →
      ((d.g_u8MsgBuildBuffer.bytes.drop (off + 20)).take 8).length = 8 := by
    intro hlen
    rw [List.length_take, List.length_drop]
    omega
  have hwritten := AC_OptList.length_written hstale
  refine ⟨_, _, d.withBuild m, run_EVENT_BuildOption htransport hsession hm, fun h pu8Payload rest hnum hPayloadlen => ?_⟩
  have hload := load_patch (show off + (opts.written ((d.g_u8MsgBuildBuffer.bytes.drop (off + 20)).take 8)).length ≤
    d.g_u8MsgBuildBuffer.bytes.length by omega)
  rw [← hbytes, hwritten] at hload
  change Recovers _ (h.toBytes ++ ((m.bytes.drop off).take _ ++ _)) _ _ _ ↔ _
  rw [← (load_eq_ok_iff.mp hload).2, AC_OptList.recovers_iff hstale hnum hPayloadlen]

/-- The options of a message that the module's builder makes. -/
theorem recovers_AC_BuildMessage {parse : List UInt8 → ZC_OptList → Except Fault (ZC_OptList × Nat)} {n : Nat}
    {u8MsgCode u8MsgId : UInt8} {pu8Payload : List UInt8} {opts : AC_OptList} {m : Mem n}
    (hparse : parse = EVENT_ParseOption ∨ parse = AC_ParseOption)
    (hfits : sizeof_ZC_MessageHead + (optionBytes opts.options).length + pu8Payload.length ≤ n) :
    ∃ m' u16Len, AC_BuildMessage u8MsgCode u8MsgId pu8Payload pu8Payload.length opts m = .ok (m', u16Len) ∧
      (Recovers parse m'.bytes opts (optionBytes opts.options).length pu8Payload ↔
        opts.Separate ((m.bytes.drop 28).take 8) ∧ (optionBytes opts.options).length + pu8Payload.length < 65536) := by
  have hsize := m.length_bytes
  have hhead : sizeof_ZC_MessageHead = 8 := rfl
  have hstale : (optionBytes opts.options).length = 28 → ((m.bytes.drop 28).take 8).length = 8 := by
    intro hlen
    rw [List.length_take, List.length_drop]
    omega
  obtain ⟨m', u16Len, rest, h, hrun, hbytes, hnum, hPayloadlen⟩ := @AC_BuildMessage_spec n u8MsgCode u8MsgId pu8Payload opts m
    hfits
  refine ⟨m', u16Len, hrun, ?_⟩
  rw [hbytes]
  obtain rfl | rfl := hparse
  · exact AC_OptList.recovers_iff hstale hnum hPayloadlen
  · exact AC_OptList.recovers_iff hstale hnum hPayloadlen

/-- Both encoders and both decoders agree on the options and the payload exactly where the
transport option and the session option are not written over each other. -/
theorem option_round_trip (opts : AC_OptList) :
    (∀ (d : Device) (view : List UInt8) (found : ZC_OptList) (off : Nat),
      optionBody view sizeof_ZC_TransportInfo found.pstruTransportInfo = .ok opts.pstruTransportInfo →
      optionBody view sizeof_ZC_SsessionInfo found.pstruSsession = .ok opts.pstruSsession →
      off + (optionBytes opts.options).length ≤ MSG_BULID_BUFFER_MAXLEN →
      ∃ OptNum u16OptLen d', (EVENT_BuildOption view found off).run d = .ok ((OptNum, u16OptLen), d') ∧
        ∀ (h : ZC_MessageHead) (pu8Payload rest : List UInt8), h.OptNum = u8 OptNum →
          h.Payloadlen = ZC_HTONS (u16 (u16OptLen + pu8Payload.length)) →
          (Recovers EVENT_ParseOption
              (h.toBytes ++ ((d'.g_u8MsgBuildBuffer.bytes.drop off).take u16OptLen ++ (pu8Payload ++ rest))) opts u16OptLen
              pu8Payload ↔
            opts.Separate ((d.g_u8MsgBuildBuffer.bytes.drop (off + 20)).take 8) ∧ u16OptLen + pu8Payload.length < 65536)) ∧
    (∀ parse, (parse = EVENT_ParseOption ∨ parse = AC_ParseOption) → ∀ (n : Nat) (u8MsgCode u8MsgId : UInt8)
      (pu8Payload : List UInt8) (m : Mem n),
      sizeof_ZC_MessageHead + (optionBytes opts.options).length + pu8Payload.length ≤ n →
      ∃ m' u16Len, AC_BuildMessage u8MsgCode u8MsgId pu8Payload pu8Payload.length opts m = .ok (m', u16Len) ∧
        (Recovers parse m'.bytes opts (optionBytes opts.options).length pu8Payload ↔
          opts.Separate ((m.bytes.drop 28).take 8) ∧ (optionBytes opts.options).length + pu8Payload.length < 65536)) :=
  ⟨fun _ _ _ _ htransport hsession hfits => recovers_EVENT_BuildOption htransport hsession hfits,
    fun _ hparse _ _ _ _ _ hfits => recovers_AC_BuildMessage hparse hfits⟩

/-- A message with a session option and three bytes of payload. -/
theorem session_round_trip : ∃ (m' : Mem 64) (u16Len : Nat),
    AC_BuildMessage 40 5 [1, 2, 3] 3 ⟨none, some (Mem.fill _ 7)⟩ (Mem.fill 64 0) = .ok (m', u16Len) ∧
      Recovers AC_ParseOption m'.bytes ⟨none, some (Mem.fill _ 7)⟩ 8 [1, 2, 3] := by
  obtain ⟨m', u16Len, hrun, hiff⟩ := (option_round_trip ⟨none, some (Mem.fill _ 7)⟩).2 AC_ParseOption (.inr rfl) 64 40 5
    [1, 2, 3] (Mem.fill 64 0) (by decide)
  exact ⟨m', u16Len, hrun, hiff.mpr ⟨trivial, by decide⟩⟩

/-- A message with both options, and neither decoder finds the transport option again. -/
theorem two_options_lost : ¬ ∀ (n : Nat) (u8MsgCode u8MsgId : UInt8) (pu8Payload : List UInt8) (opts : AC_OptList)
    (m m' : Mem n) (u16Len : Nat), pu8Payload.length < 60000 →
    AC_BuildMessage u8MsgCode u8MsgId pu8Payload pu8Payload.length opts m = .ok (m', u16Len) →
    Recovers EVENT_ParseOption m'.bytes opts (optionBytes opts.options).length pu8Payload := by
  intro h
  obtain ⟨m', u16Len, hrun, hiff⟩ := @recovers_AC_BuildMessage EVENT_ParseOption 64 40 5 [1, 2, 3]
    ⟨some (Mem.fill _ 0), some (Mem.fill _ 7)⟩ (Mem.fill 64 0) (.inl rfl) (by decide)
  have hseparate := (hiff.mp (h 64 40 5 [1, 2, 3] _ _ m' u16Len (by decide) hrun)).1
  exact absurd hseparate.1 (by decide)

end ZCloud
