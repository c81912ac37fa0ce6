import ZCloud.MoudleManager.Reply
import ZCloud.OptionCodec

open Memory Program

namespace ZCloud

/-- Where `EVENT_ParseOption` reads the heads of `count` options from offset `off` on, and
where the last of them ends. -/
def optionHeads (view : List UInt8) : (count off : Nat) → Except Fault (List Nat × Nat)
  | 0, off => return ([], off)
  | count + 1, off => do
    let OptLen := ZC_HTONS (← loadU16 view (off + 2))
    let (heads, last) ← optionHeads view count (off + sizeof_ZC_MessageOptHead + OptLen)
    return (off :: heads, last)

/-- The parser reads option heads and returns option bodies only inside the payload, reports
the length of the options as it is and not above that of the payload, and neither length
that a reply is made with is below zero. -/
def StaysInside (view : List UInt8) : Prop :=
  ∃ OptNum Payloadlen heads last opts u16OptLen, loadU8 view 3 = .ok OptNum ∧ pstruPayloadlen view = .ok Payloadlen ∧
    optionHeads view OptNum.toNat sizeof_ZC_MessageHead = .ok (heads, last) ∧
    EVENT_ParseOption view ⟨none, none⟩ = .ok (opts, u16OptLen) ∧
    (∀ off ∈ heads, off + sizeof_ZC_MessageOptHead ≤ sizeof_ZC_MessageHead + Payloadlen) ∧
    (∀ off, opts.pstruTransportInfo = some off → off + sizeof_ZC_TransportInfo ≤ sizeof_ZC_MessageHead + Payloadlen) ∧
    (∀ off, opts.pstruSsession = some off → off + sizeof_ZC_SsessionInfo ≤ sizeof_ZC_MessageHead + Payloadlen) ∧
    last = sizeof_ZC_MessageHead + u16OptLen ∧ u16OptLen ≤ Payloadlen ∧
    (opts.pstruSsession.isSome →
      sizeof_ZC_MessageOptHead + sizeof_ZC_SsessionInfo + rebuiltLength opts ≤ Payloadlen)

/-- The bodies that the options of a message are taken to have lie inside it, and the
message has room for the options of its reply. -/
structure Message.Sound (m : Message) : Prop where
  transport : ∀ off, (foundOptions sizeof_ZC_MessageHead m.options).pstruTransportInfo = some off →
    off + sizeof_ZC_TransportInfo ≤ sizeof_ZC_MessageHead + m.body.length
  session : ∀ off, (foundOptions sizeof_ZC_MessageHead m.options).pstruSsession = some off →
    off + sizeof_ZC_SsessionInfo ≤ sizeof_ZC_MessageHead + m.body.length
  reply : (foundOptions sizeof_ZC_MessageHead m.options).pstruSsession.isSome →
    sizeof_ZC_MessageOptHead + sizeof_ZC_SsessionInfo + rebuiltLength (foundOptions sizeof_ZC_MessageHead m.options) ≤
      m.body.length

/-- The heads of options that are one behind the other. -/
theorem optionHeads_optionBytes {os : List MsgOption} {a b : List UInt8} :
    ∃ heads, optionHeads (a ++ (optionBytes os ++ b)) os.length a.length = .ok (heads, a.length + (optionBytes os).length) ∧
      ∀ off ∈ heads, off + sizeof_ZC_MessageOptHead ≤ a.length + (optionBytes os).length := by
  induction os generalizing a with
  | nil => exact ⟨[], rfl, nofun⟩
  | cons o os ih =>
    have hview : a ++ (optionBytes (o :: os) ++ b) = a ++ o.bytes ++ (optionBytes os ++ b) := by simp
    have hbody : loadU16 (a ++ (optionBytes (o :: os) ++ b)) (a.length + 2) = .ok (ZC_HTONS o.body.length) := by
      rw [loadU16_append_of_le (Nat.le_add_right _ _), Nat.add_sub_cancel_left, optionBytes_cons, List.append_assoc,
        o.loadU16_length]
    have hoff : a.length + sizeof_ZC_MessageOptHead + o.body.length = (a ++ o.bytes).length := by
      rw [List.length_append, o.length_bytes, Nat.add_assoc]
    obtain ⟨heads, hheads, hin⟩ := @ih (a ++ o.bytes)
    have hend : (a ++ o.bytes).length + (optionBytes os).length = a.length + (optionBytes (o :: os)).length := by
      rw [optionBytes_cons, List.length_append, List.length_append, Nat.add_assoc]
    rw [hend] at hheads hin
    refine ⟨a.length :: heads, ?_, ?_⟩
    · rw [List.length_cons, optionHeads, hbody, ok_bind, ZC_HTONS_ZC_HTONS o.length_lt]
      dsimp only
      rw [hoff, hview, hheads]
      rfl
    · intro off hmem
      obtain rfl | hmem := List.mem_cons.mp hmem
      · rw [optionBytes_cons, List.length_append, o.length_bytes]
        omega
      · exact hin off hmem

theorem bytesU16_pair (a b : UInt8) : bytesU16 (number [a, b]) = [a, b] := by
  have ha := a.toNat_lt
  have hb := b.toNat_lt
  have hlow : u8 (number [a, b]) = a := by
    refine UInt8.toNat_inj.mp ?_
    rw [toNat_u8, number, number, number]
    omega
  have hhigh : u8 (number [a, b] / 256) = b := by
    refine UInt8.toNat_inj.mp ?_
    rw [toNat_u8, number, number, number]
    omega
  rw [bytesU16, hlow, hhigh]

theorem drop_four {view : List UInt8} {off : Nat} (h : off + 4 ≤ view.length) :
    ∃ a b c d, view.drop off = [a, b, c, d] ++ view.drop (off + 4) := by
  obtain ⟨a, b, c, d, habcd⟩ := @eq_of_length_four ((view.drop off).take 4) (by
    rw [List.length_take, List.length_drop]
    omega)
  refine ⟨a, b, c, d, ?_⟩
  rw [← habcd, ← List.drop_drop, List.take_append_drop]

/-- Heads that end inside the memory of the message are those of options. -/
theorem options_of_heads {view : List UInt8} {count off last : Nat} {heads : List Nat}
    (h : optionHeads view count off = .ok (heads, last)) (hlast : last ≤ view.length) :
    ∃ os : List MsgOption, os.length = count ∧ off + (optionBytes os).length = last ∧
      view.drop off = optionBytes os ++ view.drop last := by
  induction count generalizing off heads with
  | zero =>
    obtain ⟨rfl, rfl⟩ := Prod.mk.inj (Except.ok.inj h)
    exact ⟨[], rfl, rfl, rfl⟩
  | succ count ih =>
    obtain ⟨OptLen, hlen, h₁⟩ := bind_eq_ok.mp h
    obtain ⟨⟨heads', last'⟩, hrest, h₂⟩ := bind_eq_ok.mp h₁
    obtain ⟨rfl, rfl⟩ := Prod.mk.inj (Except.ok.inj h₂)
    obtain ⟨os, hcount, hend, hbytes⟩ := ih hrest
    have hsize : sizeof_ZC_MessageOptHead = 4 := rfl
    obtain ⟨a, b, c, d, habcd⟩ := @drop_four view off (by omega)
    obtain rfl : OptLen = number [c, d] := by
      have hview : view = view.take off ++ ([a, b] ++ ([c, d] ++ view.drop (off + 4))) := by
        rw [← List.append_assoc [a, b]]
        change view = view.take off ++ ([a, b, c, d] ++ _)
        rw [← habcd, List.take_append_drop]
      have htake : (view.take off).length = off := by
        rw [List.length_take]
        omega
      rw [hview, loadU16_append_of_le (by omega), htake, Nat.add_sub_cancel_left, loadU16_append_of_le (Nat.le_refl 2)] at hlen
      exact Except.ok.inj (hlen.symm.trans (loadU16_pair c d _))
    have hnumber (x y : UInt8) : number [x, y] < 65536 := by simpa using number_lt [x, y]
    have hlt := ZC_HTONS_lt (number [c, d])
    generalize hbody : (view.drop (off + 4)).take (ZC_HTONS (number [c, d])) = body
    have hbodyLen : body.length = ZC_HTONS (number [c, d]) := by
      rw [← hbody, List.length_take, List.length_drop]
      omega
    let o : MsgOption := ⟨ZC_HTONS (number [a, b]), body, ZC_HTONS_lt _, by rw [hbodyLen]; exact hlt⟩
    have ho : o.bytes = [a, b, c, d] ++ body := by
      change bytesU16 (ZC_HTONS (ZC_HTONS (number [a, b]))) ++ bytesU16 (ZC_HTONS body.length) ++ body = _
      rw [hbodyLen, ZC_HTONS_ZC_HTONS (hnumber a b), ZC_HTONS_ZC_HTONS (hnumber c d), bytesU16_pair, bytesU16_pair]
      rfl
    refine ⟨o :: os, congrArg Nat.succ hcount, ?_, ?_⟩
    · have hoLen : o.bytes.length = 4 + body.length := o.length_bytes
      rw [optionBytes_cons, List.length_append, hoLen]
      omega
    · have hsplit := List.take_append_drop (ZC_HTONS (number [c, d])) (view.drop (off + 4))
      rw [List.drop_drop, hbody] at hsplit
      rw [optionBytes_cons, ho, List.append_assoc, ← hbytes, List.append_assoc, habcd]
      exact congrArg ([a, b, c, d] ++ ·) hsplit.symm

theorem crcBytes_pair {a b : UInt8} {crc : Nat} (h : crc = a.toNat * 256 + b.toNat) : crcBytes crc = (a, b) := by
  have ha := a.toNat_lt
  have hb := b.toNat_lt
  refine Prod.ext (UInt8.toNat_inj.mp ?_) (UInt8.toNat_inj.mp ?_)
  · change (u8 (crc / 256)).toNat = a.toNat
    rw [toNat_u8, h]
    omega
  · change (u8 crc).toNat = b.toNat
    rw [toNat_u8, h]
    omega

/-- A message with a valid checksum, whose options end inside its payload, is one that a
sender can mean. -/
theorem message_of_heads {view : List UInt8} {OptNum : UInt8} {Payloadlen last : Nat} {heads : List Nat}
    (hcrc : checkMsgCrc view = .ok ZC_RET_OK) (hnum : loadU8 view 3 = .ok OptNum) (hPL : pstruPayloadlen view = .ok Payloadlen)
    (hheads : optionHeads view OptNum.toNat sizeof_ZC_MessageHead = .ok (heads, last))
    (hlast : last ≤ sizeof_ZC_MessageHead + Payloadlen) :
    ∃ (m : Message) (rest : List UInt8), view = m.bytes ++ rest ∧ m.body.length = Payloadlen := by
  have hhead : sizeof_ZC_MessageHead = 8 := rfl
  have hPLlt := pstruPayloadlen_lt hPL
  obtain ⟨PL', hPL', h₁⟩ := bind_eq_ok.mp hcrc
  obtain rfl : Payloadlen = PL' := Except.ok.inj (hPL.symm.trans hPL')
  obtain ⟨body, hbody, h₂⟩ := bind_eq_ok.mp h₁
  obtain ⟨crc₁, hcrc₁, h₃⟩ := bind_eq_ok.mp h₂
  obtain ⟨crc₂, hcrc₂, h₄⟩ := bind_eq_ok.mp h₃
  obtain ⟨hin, hbodyEq⟩ := load_eq_ok_iff.mp hbody
  rw [List.length_drop, hhead] at hin
  obtain ⟨len, hlen, hPLeq⟩ := bind_eq_ok.mp hPL
  have hviewLen : 8 ≤ view.length := by
    obtain ⟨bytes, hload, -⟩ := bind_eq_ok.mp hcrc₂
    have hbound := (load_eq_ok_iff.mp hload).1
    rw [List.length_drop] at hbound
    omega
  obtain ⟨v₀, v₁, v₂, v₃, hfirst⟩ := @drop_four view 0 (by omega)
  obtain ⟨v₄, v₅, v₆, v₇, hsecond⟩ := @drop_four view 4 (by omega)
  rw [List.drop_zero, Nat.zero_add, hsecond] at hfirst
  obtain ⟨os, hcount, hend, hos⟩ := options_of_heads hheads (by omega)
  rw [hhead] at hos hend
  generalize hafter : view.drop 8 = after at hos hsecond hfirst
  have hnum' : loadU8 view 3 = .ok v₃ := by
    rw [hfirst]
    exact loadU8_append _ rfl
  have hlen' : loadU16 view 4 = .ok (number [v₄, v₅]) := by
    rw [hfirst, loadU16_append_of_le (Nat.le_refl 4)]
    exact loadU16_pair v₄ v₅ ([v₆, v₇] ++ after)
  have hdrop₆ : view.drop 6 = [v₆, v₇] ++ after := by
    rw [hfirst]
    rfl
  rw [hdrop₆] at hcrc₁ hcrc₂
  obtain rfl := Except.ok.inj (hnum.symm.trans hnum')
  obtain rfl := Except.ok.inj (hlen.symm.trans hlen')
  obtain rfl : ZC_HTONS (number [v₄, v₅]) = Payloadlen := Except.ok.inj hPLeq
  obtain rfl : crc₁ = v₆ := Except.ok.inj (hcrc₁.symm.trans (loadU8_append after rfl))
  obtain rfl : crc₂ = v₇ := Except.ok.inj (hcrc₂.symm.trans (loadU8_append after rfl))
  rw [hhead, hafter, List.drop_zero] at hbodyEq
  generalize hPLname : ZC_HTONS (number [v₄, v₅]) = Payloadlen at *
  have hbodyLen : body.length = Payloadlen := length_of_load hbody
  have hsplit : body = optionBytes os ++ (view.drop last).take (Payloadlen - (optionBytes os).length) := by
    rw [hbodyEq, hos, List.take_append, List.take_of_length_le (by omega)]
  have hcrcEq : crc16_ccitt body = crc₁.toNat * 256 + crc₂.toNat := by
    refine Decidable.byContradiction fun hne => ?_
    have hwrong := Except.ok.inj h₄
    rw [if_neg hne] at hwrong
    cases hwrong
  let m : Message :=
    { Version := v₀
      MsgId := v₁
      MsgCode := v₂
      options := os
      payload := (view.drop last).take (Payloadlen - (optionBytes os).length)
      num_lt := by rw [hcount]; exact OptNum.toNat_lt
      length_lt := by rw [← hsplit, hbodyLen]; exact hPLlt }
  have hbodyName : m.body = body := hsplit.symm
  have hm : m.head.toBytes = [v₀, v₁, v₂, OptNum] ++ [v₄, v₅] ++ [crc₁, crc₂] := by
    have hn : u8 os.length = OptNum := by
      rw [hcount]
      exact UInt8.ofNat_toNat
    have hnumber : number [v₄, v₅] < 65536 := by simpa using number_lt [v₄, v₅]
    have hlenBytes : bytesU16 (ZC_HTONS m.body.length) = [v₄, v₅] := by
      rw [hbodyName, hbodyLen, ← hPLname, ZC_HTONS_ZC_HTONS hnumber, bytesU16_pair]
    have hcrcBytes : crcBytes (crc16_ccitt m.body) = (crc₁, crc₂) := by rw [hbodyName, crcBytes_pair hcrcEq]
    change [v₀, v₁, v₂, u8 os.length] ++ bytesU16 (ZC_HTONS m.body.length) ++
      [(crcBytes (crc16_ccitt m.body)).1, (crcBytes (crc16_ccitt m.body)).2] = _
    rw [hn, hlenBytes, hcrcBytes]
  refine ⟨m, after.drop Payloadlen, ?_, by rw [hbodyName, hbodyLen]⟩
  have hrest : after = m.body ++ after.drop Payloadlen := by rw [hbodyName, hbodyEq, List.take_append_drop]
  rw [Message.bytes, hm, List.append_assoc _ m.body, ← hrest, hfirst]
  rfl

theorem Message.staysInside {m : Message} (h : m.Sound) (rest : List UInt8) : StaysInside (m.bytes ++ rest) := by
  have hnum : (u8 m.options.length).toNat = m.options.length := by rw [toNat_u8, Nat.mod_eq_of_lt m.num_lt]
  have hbody : (optionBytes m.options).length ≤ m.body.length := by
    rw [body, List.length_append]
    exact Nat.le_add_right _ _
  obtain ⟨heads, hheads, hin⟩ := @optionHeads_optionBytes m.options m.head.toBytes (m.payload ++ rest)
  have hview : m.bytes ++ rest = m.head.toBytes ++ (optionBytes m.options ++ (m.payload ++ rest)) := by
    rw [bytes, body, List.append_assoc, List.append_assoc]
  rw [← hview] at hheads
  refine ⟨u8 m.options.length, m.body.length, heads, sizeof_ZC_MessageHead + (optionBytes m.options).length, _, _, ?_,
    m.pstruPayloadlen_bytes rest, ?_, m.parseOption_bytes rest, ?_, ?_, ?_, rfl, hbody, ?_⟩
  · rw [hview]
    exact m.head.loadU8_OptNum _
  · rw [hnum]
    exact hheads
  · exact fun off hoff => Nat.le_trans (hin off hoff) (Nat.add_le_add_left hbody _)
  · rw [ZC_OptList.or_none]
    exact h.transport
  · rw [ZC_OptList.or_none]
    exact h.session
  · rw [ZC_OptList.or_none]
    exact h.reply

theorem message_of_staysInside {view : List UInt8} (hcrc : checkMsgCrc view = .ok ZC_RET_OK) (h : StaysInside view) :
    ∃ (m : Message) (rest : List UInt8), view = m.bytes ++ rest ∧ m.Sound := by
  obtain ⟨OptNum, Payloadlen, heads, last, opts, u16OptLen, hnum, hPL, hheads, hparse, -, htransport, hsession, hlast, hle,
    hreply⟩ := h
  obtain ⟨m, rest, rfl, hlen⟩ := message_of_heads hcrc hnum hPL hheads (by omega)
  rw [m.parseOption_bytes, ZC_OptList.or_none] at hparse
  obtain ⟨rfl, -⟩ := Prod.mk.inj (Except.ok.inj hparse)
  exact ⟨m, rest, rfl, by rw [hlen]; exact htransport, by rw [hlen]; exact hsession, by rw [hlen]; exact hreply⟩

/-- A message with a valid checksum is never refused. -/
theorem run_RecvDataFromMoudle_ok {env : Env} {view : List UInt8} {u16DataLen : Nat} {d d' : Device} {r : ZC_RET}
    (hlen : u16DataLen ≠ 0) (hcrc : checkMsgCrc view = .ok ZC_RET_OK)
    (h : (ZC_RecvDataFromMoudle env view u16DataLen).run d = .ok (r, d')) : r = ZC_RET_OK := by
  obtain ⟨_, _, -, h₁⟩ := run_bind_eq_ok.mp h
  rw [if_neg hlen] at h₁
  obtain ⟨_, _, -, h₂⟩ := run_bind_eq_ok.mp h₁
  obtain ⟨ret, _, hload, h₃⟩ := run_bind_eq_ok.mp h₂
  obtain ⟨hret, rfl⟩ := run_lift_eq_ok.mp hload
  obtain rfl := Except.ok.inj (hcrc.symm.trans hret)
  rw [if_neg (by decide)] at h₃
  obtain ⟨⟨opts, u16OptLen⟩, _, -, h₄⟩ := run_bind_eq_ok.mp h₃
  dsimp only at h₄
  split at h₄
  · obtain ⟨_, _, -, h₅⟩ := run_bind_eq_ok.mp h₄
    exact (run_pure_eq_ok.mp h₅).1
  · obtain ⟨_, _, -, h₅⟩ := run_bind_eq_ok.mp h₄
    exact (run_pure_eq_ok.mp h₅).1

/-- The options of a message are refused or stay inside it exactly where they are options
that its sender can mean, with the bodies that they are taken to have. -/
theorem option_bounds {env : Env} {d : Device} {view : List UInt8} {u16DataLen : Nat} (hlen : u16DataLen ≠ 0)
    (hcrc : checkMsgCrc view = .ok ZC_RET_OK) :
    (∃ d', (ZC_RecvDataFromMoudle env view u16DataLen).run d = .ok (ZC_RET_ERROR, d')) ∨ StaysInside view ↔
      ∃ (m : Message) (rest : List UInt8), view = m.bytes ++ rest ∧ m.Sound := by
  constructor
  · rintro (⟨d', hrun⟩ | h)
    · cases run_RecvDataFromMoudle_ok hlen hcrc hrun
    · exact message_of_staysInside hcrc h
  · rintro ⟨m, rest, rfl, hsound⟩
    exact .inr (Message.staysInside hsound rest)

theorem sound_messageTo7 : (messageTo7 [1] (by decide)).Sound where
  transport _ h := nomatch h
  session off h := by
    obtain rfl : 12 = off := Option.some.inj h
    decide
  reply _ := by decide

theorem option_bounds_to_7 : ∃ d : Device,
    (∃ d', (ZC_RecvDataFromMoudle soundEnv ((messageTo7 [1] (by decide)).bytes ++ []) 17).run d = .ok (ZC_RET_ERROR, d')) ∨
      StaysInside ((messageTo7 [1] (by decide)).bytes ++ []) := by
  obtain ⟨d, -, -, -⟩ := exists_connected7
  refine ⟨d, (option_bounds (by decide) ?_).mpr ⟨_, _, rfl, sound_messageTo7⟩⟩
  exact Message.checkMsgCrc_bytes _ _

/-- A message without payload that announces an option: the head of the option is read
behind the message. -/
theorem option_behind_message : ¬ ∀ (d : Device) (view : List UInt8) (u16DataLen : Nat),
    d.Reachable soundEnv (fun _ _ => True) → u16DataLen ≠ 0 → checkMsgCrc view = .ok ZC_RET_OK →
    (∃ d', (ZC_RecvDataFromMoudle soundEnv view u16DataLen).run d = .ok (ZC_RET_ERROR, d')) ∨ StaysInside view := by
  intro h
  obtain ⟨d, hreachable, -, -⟩ := exists_connected7
  have hcrc : checkMsgCrc [1, 5, 40, 1, 0, 0, 0, 0, 0, 2, 0, 0] = .ok ZC_RET_OK := by decide +kernel
  obtain ⟨d', hrun⟩ | hinside := h d [1, 5, 40, 1, 0, 0, 0, 0, 0, 2, 0, 0] 8 hreachable (by decide) hcrc
  · cases run_RecvDataFromMoudle_ok (by decide) hcrc hrun
  · obtain ⟨OptNum, Payloadlen, heads, last, opts, u16OptLen, hnum, hPL, hheads, -, hin, -⟩ := hinside
    have hnum' : loadU8 [1, 5, 40, 1, 0, 0, 0, 0, 0, 2, 0, 0] 3 = .ok 1 := rfl
    have hPL' : pstruPayloadlen [1, 5, 40, 1, 0, 0, 0, 0, 0, 2, 0, 0] = .ok 0 := by decide +kernel
    have hheads' : optionHeads [1, 5, 40, 1, 0, 0, 0, 0, 0, 2, 0, 0] 1 8 = .ok ([8], 12) := by decide +kernel
    obtain rfl := Except.ok.inj (hnum'.symm.trans hnum)
    obtain rfl := Except.ok.inj (hPL'.symm.trans hPL)
    obtain ⟨rfl, -⟩ := Prod.mk.inj (Except.ok.inj (hheads'.symm.trans hheads))
    exact absurd (hin 8 List.mem_cons_self) (by decide)

end ZCloud
