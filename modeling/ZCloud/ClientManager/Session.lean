import ZCloud.HfAdpter.System

open Memory Program

namespace ZCloud

/-- The module's own copy of `EVENT_ParseOption`, with the same loop. -/
def AC_ParseOption (view : List UInt8) (opts : ZC_OptList) : Except Fault (ZC_OptList × Nat) :=
  EVENT_ParseOption view opts

/-- The number that a session option at `pstruSsession` holds, if there is one. -/
def ssession (view : List UInt8) : (pstruSsession : Option Nat) → Except Fault (Option Nat)
  | none => return none
  | some pstruSsession => return some (ZC_HTONL (← loadU32 view pstruSsession))

/-- The client that `parse` takes the message at the start of `view` to come from. -/
def u32SsessionId (parse : List UInt8 → ZC_OptList → Except Fault (ZC_OptList × Nat)) (view : List UInt8) :
    Except Fault (Option Nat) := do
  ssession view (← parse view ⟨none, none⟩).1.pstruSsession

/-- Where the last session option of `count` options from offset `off` on is. -/
def lastSsession (view : List UInt8) : (count off : Nat) → Except Fault (Option Nat)
  | 0, _ => return none
  | count + 1, off => do
    let OptCode := ZC_HTONS (← loadU16 view off)
    let OptLen := ZC_HTONS (← loadU16 view (off + 2))
    let later ← lastSsession view count (off + sizeof_ZC_MessageOptHead + OptLen)
    return later.or (if OptCode = ZC_OPT_SSESSION then some (off + sizeof_ZC_MessageOptHead) else none)

section

variable {α : Type} {a b : List UInt8} {count off : Nat}

/-- Of several session options the parser keeps the last one. -/
theorem parseOptions_ssession {view : List UInt8} {u16OptLen : Nat} {opts : ZC_OptList} (f : Option Nat → Except Fault α) :
    (do f (← parseOptions view count off u16OptLen opts).1.pstruSsession) =
      (do f ((← lastSsession view count off).or opts.pstruSsession)) := by
  induction count generalizing off u16OptLen opts with
  | zero => rfl
  | succ count ih =>
    rw [parseOptions, lastSsession]
    cases hcode : loadU16 view off with
    | error e => rfl
    | ok OptCode =>
      cases hlen : loadU16 view (off + 2) with
      | error e => rfl
      | ok OptLen =>
        simp only [ok_bind]
        rw [ih]
        cases hlater : lastSsession view count (off + sizeof_ZC_MessageOptHead + ZC_HTONS OptLen) with
        | error e => rfl
        | ok later =>
          simp only [ok_bind]
          change f _ = f _
          congr 1
          by_cases htransport : ZC_HTONS OptCode = ZC_OPT_TRANSPORT
          · rw [if_pos htransport, if_neg (by rw [htransport]; decide), Option.or_none]
          · rw [if_neg htransport]
            by_cases hsession : ZC_HTONS OptCode = ZC_OPT_SSESSION
            · rw [if_pos hsession, if_pos hsession]
              cases later <;> rfl
            · rw [if_neg hsession, if_neg hsession, Option.or_none]

/-- What comes before the options moves them, and changes nothing else. -/
theorem lastSsession_append (f : Option Nat → Except Fault α) :
    (do f (← lastSsession (a ++ b) count (a.length + off))) =
      (do f ((← lastSsession b count off).map (a.length + ·))) := by
  induction count generalizing off f with
  | zero => rfl
  | succ count ih =>
    have hcode := loadU16_append_of_le (Nat.le_add_right a.length off) (b := b)
    have hlen := loadU16_append_of_le (Nat.le_add_right a.length (off + 2)) (b := b)
    rw [Nat.add_sub_cancel_left] at hcode hlen
    rw [lastSsession, lastSsession, hcode, Nat.add_assoc, hlen]
    cases loadU16 b off with
    | error e => rfl
    | ok OptCode =>
      cases loadU16 b (off + 2) with
      | error e => rfl
      | ok OptLen =>
        simp only [ok_bind, bind_assoc, pure_bind]
        rw [Nat.add_assoc a.length, Nat.add_assoc a.length, ih]
        cases lastSsession b count (off + sizeof_ZC_MessageOptHead + ZC_HTONS OptLen) with
        | error e => rfl
        | ok later =>
          simp only [ok_bind]
          congr 1
          by_cases hsession : ZC_HTONS OptCode = ZC_OPT_SSESSION
          · rw [if_pos hsession, if_pos hsession]
            cases later <;> rfl
          · rw [if_neg hsession, if_neg hsession, Option.or_none, Option.or_none]

theorem some_getD (x : Except Fault Nat) (f : Nat → Nat) (n : Nat) :
    (do return some ((← (do return some (f (← x)) : Except Fault (Option Nat))).getD n)) =
      (do return some (f (← x)) : Except Fault (Option Nat)) := by
  cases x <;> rfl

theorem ssession_append (pstruSsession : Option Nat) :
    ssession (a ++ b) (pstruSsession.map (a.length + ·)) = ssession b pstruSsession := by
  cases pstruSsession with
  | none => rfl
  | some pstruSsession =>
    change (do pure (some (ZC_HTONL (← loadU32 (a ++ b) (a.length + pstruSsession))))) = _
    rw [loadU32_append_of_le (Nat.le_add_right _ _), Nat.add_sub_cancel_left]
    rfl

end

/-- The client that the options behind a message head name. -/
theorem u32SsessionId_append {head b : List UInt8} {OptNum : UInt8} (hhead : head.length = sizeof_ZC_MessageHead)
    (hnum : loadU8 (head ++ b) 3 = .ok OptNum) :
    u32SsessionId EVENT_ParseOption (head ++ b) = (do ssession b (← lastSsession b OptNum.toNat 0)) := by
  have hlast := @lastSsession_append _ head b OptNum.toNat 0 (ssession (head ++ b))
  simp only [ssession_append, Nat.add_zero] at hlast
  rw [hhead] at hlast
  rw [u32SsessionId, EVENT_ParseOption, hnum, ok_bind, parseOptions_ssession (f := ssession (head ++ b))]
  simpa only [Option.or_none] using hlast

/-- The option that names the client of a message. -/
def sessionOption (ClientId : Nat) : List UInt8 :=
  optHead ZC_OPT_SSESSION sizeof_ZC_SsessionInfo ++ bytesU32 (ZC_HTONL ClientId)

@[simp]
theorem length_sessionOption (ClientId : Nat) : (sessionOption ClientId).length = 8 := rfl

theorem ssession_sessionOption {ClientId : Nat} {b : List UInt8} (hid : ClientId < 4294967296) :
    ssession (sessionOption ClientId ++ b) (some sizeof_ZC_MessageOptHead) = .ok (some ClientId) := by
  have hload : loadU32 (optHead ZC_OPT_SSESSION sizeof_ZC_SsessionInfo ++ (bytesU32 (ZC_HTONL ClientId) ++ b))
      sizeof_ZC_MessageOptHead = .ok (ZC_HTONL ClientId) :=
    (loadU32_append_of_le (by decide)).trans (loadU32_append_zero (ZC_HTONL_lt ClientId))
  rw [ssession, sessionOption, List.append_assoc, hload, ok_bind, ZC_HTONL_ZC_HTONL hid]
  rfl

/-- The option that the gateway puts first is found where no later one is. -/
theorem lastSsession_sessionOption {ClientId count : Nat} {b : List UInt8} :
    lastSsession (sessionOption ClientId ++ b) (count + 1) 0 =
      (do
        let later ← lastSsession (sessionOption ClientId ++ b) count 8
        return later.or (some sizeof_ZC_MessageOptHead)) := by
  have hcode : ∀ rest, loadU16 (optHead ZC_OPT_SSESSION sizeof_ZC_SsessionInfo ++ rest) 0 = .ok (ZC_HTONS ZC_OPT_SSESSION) :=
    fun rest => by rw [optHead, List.append_assoc, loadU16_append_zero (ZC_HTONS_lt _)]
  have hlen : ∀ rest, loadU16 (optHead ZC_OPT_SSESSION sizeof_ZC_SsessionInfo ++ rest) 2 =
      .ok (ZC_HTONS sizeof_ZC_SsessionInfo) := fun rest => by
    rw [optHead, List.append_assoc, loadU16_append_of_le (by decide)]
    exact loadU16_append_zero (ZC_HTONS_lt _)
  rw [lastSsession, sessionOption, List.append_assoc, hcode, ok_bind, hlen, ok_bind, ZC_HTONS_ZC_HTONS (by decide),
    ZC_HTONS_ZC_HTONS (by decide)]
  rfl

theorem toNat_succ {n : UInt8} (h : n ≠ 255) : (n + 1).toNat = n.toNat + 1 := by
  have hlt := n.toNat_lt
  have hne : n.toNat ≠ 255 := fun hn => h (UInt8.toNat_inj.mp hn)
  have hone : (1 : UInt8).toNat = 1 := rfl
  rw [UInt8.toNat_add, hone]
  omega

/-- The option of the gateway counts only where the message has none of its own, and
none counts where the number of options overflows. -/
theorem u32SsessionId_sessionOption {ClientId : Nat} {head head' b : List UInt8} {OptNum : UInt8}
    (hid : ClientId < 4294967296) (hhead : head.length = sizeof_ZC_MessageHead)
    (hhead' : head'.length = sizeof_ZC_MessageHead) (hnum : loadU8 head 3 = .ok OptNum)
    (hnum' : loadU8 head' 3 = .ok (OptNum + 1)) :
    u32SsessionId EVENT_ParseOption (head' ++ (sessionOption ClientId ++ b)) =
      if OptNum = 255 then .ok none
      else (do return some ((← u32SsessionId EVENT_ParseOption (head ++ b)).getD ClientId)) := by
  rw [u32SsessionId_append hhead' (loadU8_append _ hnum'), u32SsessionId_append hhead (loadU8_append _ hnum)]
  by_cases hwrap : OptNum = 255
  · have hzero : ((255 : UInt8) + 1).toNat = 0 := by decide
    rw [if_pos hwrap, hwrap, hzero]
    rfl
  · have happend := @lastSsession_append _ (sessionOption ClientId) b OptNum.toNat 0
      (fun later => ssession (sessionOption ClientId ++ b) (later.or (some sizeof_ZC_MessageOptHead)))
    rw [length_sessionOption] at happend
    rw [if_neg hwrap, toNat_succ hwrap, lastSsession_sessionOption]
    simp only [bind_assoc, pure_bind]
    refine happend.trans (bind_congr fun later => ?_)
    cases later with
    | none => exact ssession_sessionOption hid
    | some later =>
      rw [Option.map_some, Option.some_or]
      refine (@ssession_append _ _ (some later)).trans ?_
      exact (some_getD (loadU32 b later) ZC_HTONL ClientId).symm

/-- Three parts written one behind the other, and the end of the first one once more. -/
theorem take_of_stores {n : Nat} {m₀ m₁ m₂ m₃ m₄ : Mem n} {head option body crc : List UInt8} {off : Nat}
    (h₁ : m₀.store 0 head = .ok m₁) (h₂ : m₁.store head.length option = .ok m₂)
    (h₃ : m₂.store (head.length + option.length) body = .ok m₃) (h₄ : m₃.store off crc = .ok m₄)
    (hoff : off + crc.length ≤ head.length) :
    m₄.bytes.take (head.length + option.length + body.length) = patch head off crc ++ option ++ body := by
  obtain ⟨-, h₁⟩ := Mem.store_eq_ok_iff.mp h₁
  obtain ⟨-, h₂⟩ := Mem.store_eq_ok_iff.mp h₂
  obtain ⟨hfits, h₃⟩ := Mem.store_eq_ok_iff.mp h₃
  obtain ⟨-, h₄⟩ := Mem.store_eq_ok_iff.mp h₄
  have hhead : m₁.bytes.take head.length = head := by rw [h₁, take_patch_zero]
  have hoption : m₂.bytes.take (head ++ option).length = head ++ option := by
    rw [h₂, List.length_append, take_patch_append hhead]
  have hbody : m₃.bytes.take (head.length + option.length + body.length) = head ++ option ++ body := by
    rw [← List.length_append] at h₃ ⊢
    rw [h₃, take_patch_append hoption]
  rw [h₄, take_patch (by omega) (by rw [m₃.length_bytes]; exact hfits), hbody, patch_append
    (by rw [List.length_append]; omega), patch_append hoff]

section

variable {env : Env} {ClientId Payloadlen : Nat} {d d' : Device}

/-- The writes that make up a run of `insertSession`. -/
theorem insertSession_stores {u : Unit} (h : (insertSession env ClientId Payloadlen).run d = .ok (u, d')) :
    ∃ n build beyond head body crc m₁ m₂ m₃,
      loadU8 d.g_u8MsgBuildBuffer.bytes 3 = .ok n ∧ d.g_u8MsgBuildBuffer.store 3 [n + 1] = .ok build ∧
      load (build.bytes ++ beyond) 0 sizeof_ZC_MessageHead = .ok head ∧
      load (build.bytes ++ beyond) sizeof_ZC_MessageHead (u32Sub Payloadlen 8) = .ok body ∧
      d.g_struClientBuffer.u8MsgBuffer.store 0 head = .ok m₁ ∧
      m₁.store sizeof_ZC_MessageHead (sessionOption ClientId) = .ok m₂ ∧
      m₂.store (sizeof_ZC_MessageHead + 8) body = .ok m₃ ∧
      m₃.store 6 [(crcBytes crc).1, (crcBytes crc).2] = .ok d'.g_struClientBuffer.u8MsgBuffer ∧
      d'.g_struClientBuffer.u32Len = sizeof_ZC_MessageHead + Payloadlen ∧ d'.trace = d.trace := by
  obtain ⟨_, d, hget, h₁⟩ := run_bind_eq_ok.mp h
  obtain ⟨rfl, rfl⟩ := run_get_eq_ok.mp hget
  obtain ⟨n', d, hload, h₂⟩ := run_bind_eq_ok.mp h₁
  obtain ⟨hn', rfl⟩ := run_lift_eq_ok.mp hload
  obtain ⟨_, _, hinc, h₃⟩ := run_bind_eq_ok.mp h₂
  obtain ⟨build, hbuild, rfl⟩ := run_storeBuild_eq_ok hinc
  obtain ⟨_, _, hget, h₄⟩ := run_bind_eq_ok.mp h₃
  obtain ⟨rfl, rfl⟩ := run_get_eq_ok.mp hget
  obtain ⟨beyond, _, hbeyond, h₅⟩ := run_bind_eq_ok.mp h₄
  obtain ⟨-, rfl⟩ := run_draw_eq_ok.mp hbeyond
  obtain ⟨head, _, hload, h₆⟩ := run_bind_eq_ok.mp h₅
  obtain ⟨hhead, rfl⟩ := run_lift_eq_ok.mp hload
  obtain ⟨_, _, hstore, h₇⟩ := run_bind_eq_ok.mp h₆
  obtain ⟨m₁, hm₁, rfl⟩ := run_storeClient_eq_ok hstore
  obtain ⟨_, _, hstore, h₈⟩ := run_bind_eq_ok.mp h₇
  obtain ⟨m₂, hm₂, rfl⟩ := run_storeClient_eq_ok hstore
  obtain ⟨body, _, hload, h₉⟩ := run_bind_eq_ok.mp h₈
  obtain ⟨hbody, rfl⟩ := run_lift_eq_ok.mp hload
  obtain ⟨_, _, hstore, h₁₀⟩ := run_bind_eq_ok.mp h₉
  obtain ⟨m₃, hm₃, rfl⟩ := run_storeClient_eq_ok hstore
  obtain ⟨_, _, hmodify, h₁₁⟩ := run_bind_eq_ok.mp h₁₀
  obtain rfl := run_modify_eq_ok.mp hmodify
  obtain ⟨_, _, hget, h₁₂⟩ := run_bind_eq_ok.mp h₁₁
  obtain ⟨rfl, rfl⟩ := run_get_eq_ok.mp hget
  obtain ⟨_, _, hload, h₁₃⟩ := run_bind_eq_ok.mp h₁₂
  obtain ⟨-, rfl⟩ := run_lift_eq_ok.mp hload
  obtain ⟨m₄, hm₄, rfl⟩ := run_storeClient_eq_ok h₁₃
  exact ⟨n', build, beyond, head, body, _, m₁, m₂, m₃, hn', hbuild, hhead, hbody, hm₁, hm₂, hm₃, hm₄, rfl, rfl⟩

theorem insertSession_le {u : Unit}
    (h : (insertSession env ClientId Payloadlen).run d = .ok (u, d')) : 8 ≤ Payloadlen := by
  obtain ⟨_, _, _, _, body, _, _, _, _, -, -, -, hbody, -, -, hm₃, -⟩ := insertSession_stores h
  have hbodyLen := length_of_load hbody
  obtain ⟨hfits, -⟩ := Mem.store_eq_ok_iff.mp hm₃
  rw [hbodyLen] at hfits
  refine Nat.le_of_not_lt fun hshort => ?_
  have hsub : u32Sub Payloadlen 8 = Payloadlen + 4294967296 - 8 := u32_of_lt (by omega)
  rw [hsub] at hfits
  have hmax : MSG_BUFFER_MAXLEN = 600 := rfl
  omega

/-- What `insertSession` leaves in the buffer of the clients: the message that the
build buffer begins with, with one more option. -/
theorem run_insertSession {n : UInt8} {u : Unit} (hlen : 8 ≤ Payloadlen ∧ Payloadlen ≤ MSG_BULID_BUFFER_MAXLEN)
    (hnum : loadU8 d.g_u8MsgBuildBuffer.bytes 3 = .ok n)
    (h : (insertSession env ClientId Payloadlen).run d = .ok (u, d')) :
    ∃ head, head.length = sizeof_ZC_MessageHead ∧ loadU8 head 3 = .ok (n + 1) ∧
      d'.g_struClientBuffer.u32Len = sizeof_ZC_MessageHead + Payloadlen ∧ d'.trace = d.trace ∧
      d'.g_struClientBuffer.u8MsgBuffer.bytes.take (sizeof_ZC_MessageHead + Payloadlen) =
        head ++ sessionOption ClientId ++ (d.g_u8MsgBuildBuffer.bytes.take Payloadlen).drop sizeof_ZC_MessageHead := by
  obtain ⟨n', build, beyond, head, body, crc, m₁, m₂, m₃, hn', hbuild, hhead, hbody, hm₁, hm₂, hm₃, hm₄, hlen', htrace⟩ :=
    insertSession_stores h
  have hsize : d.g_u8MsgBuildBuffer.bytes.length = 600 := d.g_u8MsgBuildBuffer.size
  have hbuildSize : build.bytes.length = 600 := build.size
  have hmax : MSG_BULID_BUFFER_MAXLEN = 600 := rfl
  have hmsghead : sizeof_ZC_MessageHead = 8 := rfl
  obtain rfl : n = n' := Except.ok.inj (hnum.symm.trans hn')
  obtain ⟨-, hbytes⟩ := Mem.store_eq_ok_iff.mp hbuild
  have hheadLen := length_of_load hhead
  have hbodyLen := length_of_load hbody
  rw [u32Sub_of_le hlen.1 (by omega)] at hbody hbodyLen
  obtain ⟨-, hheadEq⟩ := load_eq_ok_iff.mp hhead
  obtain ⟨-, hbodyEq⟩ := load_eq_ok_iff.mp hbody
  have hcrc : 6 + [(crcBytes crc).1, (crcBytes crc).2].length ≤ head.length := by
    rw [hheadLen]
    exact Nat.le_refl 8
  have hstored := take_of_stores hm₁ (by rw [hheadLen]; exact hm₂) (by rw [hheadLen]; exact hm₃) hm₄ hcrc
  refine ⟨patch head 6 [(crcBytes crc).1, (crcBytes crc).2], by rw [length_patch hcrc, hheadLen], ?_, hlen', htrace, ?_⟩
  · have hinc : load (patch d.g_u8MsgBuildBuffer.bytes 3 [n + 1]) 3 1 = .ok [n + 1] :=
      load_patch (by rw [hsize, List.length_singleton]; omega)
    rw [loadU8, load_patch_of_le (by decide) hcrc, hheadEq, List.drop_zero, load_take (by decide)
      (by rw [List.length_append]; omega), hbytes, load_append hinc]
    rfl
  · have hbody : body = (d.g_u8MsgBuildBuffer.bytes.take Payloadlen).drop sizeof_ZC_MessageHead := by
      rw [hbodyEq, List.drop_append_of_le_length (by omega), List.take_append_of_le_length
        (by rw [List.length_drop]; omega), hbytes, drop_patch_of_le (by omega)
        (by rw [List.length_singleton]; decide), List.drop_take, hmsghead]
    have htotal : head.length + (sessionOption ClientId).length + body.length = sizeof_ZC_MessageHead + Payloadlen := by
      rw [hheadLen, hbodyLen, length_sessionOption]
      omega
    rw [← htotal, hstored, hbody]

/-- The message of a client that the frame in `g_struClientBuffer` is decrypted to. -/
def clientMessage (env : Env) : Prog Device (List UInt8) := do
  let d ← get
  let pstruHead := d.g_struClientBuffer.u8MsgBuffer.bytes ++ (← draw env.beyond)
  let u16TotalMsg := ZC_HTONS (← loadU16 pstruHead 0)
  let pu8Key := d.g_struZcConfigDb.struCloudInfo.u8TokenKey.bytes
  let before ← draw env.stack
  let (out, _) ← AES_CBC_Decrypt env.toCipher (pstruHead.drop sizeof_ZC_SecHead) u16TotalMsg pu8Key pu8Key before
  storeBuild 0 out
  let pstruMsg := (← get).g_u8MsgBuildBuffer.bytes ++ (← draw env.beyond)
  load pstruMsg 0 (sizeof_ZC_MessageHead + (← pstruPayloadlen pstruMsg))

/-- The parts of a message that has been forwarded: its own head, the option that
names its client, and the rest of it. -/
structure Forwarded (ClientId : Nat) (msg data : List UInt8) : Prop where
  head_le : sizeof_ZC_MessageHead ≤ msg.length
  data_eq : ∃ head OptNum, head.length = sizeof_ZC_MessageHead ∧ loadU8 msg 3 = .ok OptNum ∧
    loadU8 head 3 = .ok (OptNum + 1) ∧ data = head ++ sessionOption ClientId ++ msg.drop sizeof_ZC_MessageHead

theorem pstruPayloadlen_lt {view : List UInt8} {PL : Nat} (h : pstruPayloadlen view = .ok PL) : PL < 65536 := by
  obtain ⟨len, -, hlen⟩ := bind_eq_ok.mp h
  rw [← Except.ok.inj hlen]
  exact ZC_HTONS_lt len

/-- The steps of a run of `forwardClient` that gives a message to the module. -/
theorem forwardClient_stages {u : Unit} {data : List UInt8} (h : (forwardClient env ClientId).run d = .ok (u, d'))
    (hsent : d'.trace = .toMoudle (.client ClientId) data :: d.trace) :
    ∃ total out len m m' PL d₁,
      loadU16 (d.g_struClientBuffer.u8MsgBuffer.bytes ++ env.beyond d.clock) 0 = .ok total ∧
      AES_CBC_Decrypt env.toCipher
        ((d.g_struClientBuffer.u8MsgBuffer.bytes ++ env.beyond d.clock).drop sizeof_ZC_SecHead) (ZC_HTONS total)
        d.g_struZcConfigDb.struCloudInfo.u8TokenKey.bytes d.g_struZcConfigDb.struCloudInfo.u8TokenKey.bytes
        (env.stack d.tick.clock) = .ok (out, len) ∧
      d.g_u8MsgBuildBuffer.store 0 out = .ok m ∧
      pstruPayloadlen (m.bytes ++ env.beyond d.tick.tick.clock) = .ok PL ∧
      m.store 4 (bytesU16 (ZC_HTONS (u16 (PL + 8)))) = .ok m' ∧ u16 (PL + 8) ≤ MSG_BULID_BUFFER_MAXLEN ∧
      (insertSession env ClientId (u16 (PL + 8))).run ((d.tick.tick.withBuild m).tick.withBuild m') = .ok ((), d₁) ∧
      load d₁.g_struClientBuffer.u8MsgBuffer.bytes 0 (u16 d₁.g_struClientBuffer.u32Len) = .ok data := by
  have hno : ∀ {e : Event}, d.trace ≠ e :: d.trace := fun he => by
    have := congrArg List.length he
    simp at this
  obtain ⟨_, d, hget, h₁⟩ := run_bind_eq_ok.mp h
  obtain ⟨rfl, rfl⟩ := run_get_eq_ok.mp hget
  obtain ⟨beyond, _, hbeyond, h₂⟩ := run_bind_eq_ok.mp h₁
  obtain ⟨rfl, rfl⟩ := run_draw_eq_ok.mp hbeyond
  obtain ⟨total, _, hload, h₃⟩ := run_bind_eq_ok.mp h₂
  obtain ⟨htotal, rfl⟩ := run_lift_eq_ok.mp hload
  dsimp only at h₃
  split at h₃
  · obtain ⟨-, rfl⟩ := run_pure_eq_ok.mp h₃
    exact absurd hsent hno
  obtain ⟨before, _, hbefore, h₄⟩ := run_bind_eq_ok.mp h₃
  obtain ⟨rfl, rfl⟩ := run_draw_eq_ok.mp hbefore
  obtain ⟨⟨out, len⟩, _, hdecrypt, h₅⟩ := run_bind_eq_ok.mp h₄
  obtain ⟨hout, rfl⟩ := run_lift_eq_ok.mp hdecrypt
  obtain ⟨_, _, hstore, h₆⟩ := run_bind_eq_ok.mp h₅
  obtain ⟨m, hm, rfl⟩ := run_storeBuild_eq_ok hstore
  obtain ⟨_, _, hget, h₇⟩ := run_bind_eq_ok.mp h₆
  obtain ⟨rfl, rfl⟩ := run_get_eq_ok.mp hget
  obtain ⟨after, _, hafter, h₈⟩ := run_bind_eq_ok.mp h₇
  obtain ⟨rfl, rfl⟩ := run_draw_eq_ok.mp hafter
  obtain ⟨crc, _, hcrc, h₉⟩ := run_bind_eq_ok.mp h₈
  obtain ⟨-, rfl⟩ := run_lift_eq_ok.mp hcrc
  split at h₉
  · obtain ⟨-, rfl⟩ := run_pure_eq_ok.mp h₉
    exact absurd hsent hno
  obtain ⟨PL, _, hload, h₁₀⟩ := run_bind_eq_ok.mp h₉
  obtain ⟨hPL, rfl⟩ := run_lift_eq_ok.mp hload
  obtain ⟨_, _, hstore, h₁₁⟩ := run_bind_eq_ok.mp h₁₀
  obtain ⟨m', hm', rfl⟩ := run_storeBuild_eq_ok hstore
  split at h₁₁
  · obtain ⟨-, rfl⟩ := run_pure_eq_ok.mp h₁₁
    exact absurd hsent hno
  obtain ⟨_, d₁, hinsert, h₁₂⟩ := run_bind_eq_ok.mp h₁₁
  obtain ⟨_, _, hget, h₁₃⟩ := run_bind_eq_ok.mp h₁₂
  obtain ⟨rfl, rfl⟩ := run_get_eq_ok.mp hget
  obtain ⟨_, _, htraceData, h₁₄⟩ := run_bind_eq_ok.mp h₁₃
  obtain rfl := ZC_TraceData_eq htraceData
  obtain ⟨-, sent, hsentLoad, rfl⟩ := run_HF_SendDataToMoudle_eq_ok env h₁₄
  obtain rfl : sent = data := (Event.toMoudle.inj (List.cons.inj hsent).1).2
  exact ⟨total, out, len, m, m', PL, _, htotal, hout, hm, hPL, hm', Nat.le_of_not_lt ‹_›, hinsert, hsentLoad⟩

/-- The message that goes to the module is the one that the client has sent, with the
option of the gateway. -/
theorem run_forwardClient {u : Unit} {data : List UInt8} (h : (forwardClient env ClientId).run d = .ok (u, d'))
    (hsent : d'.trace = .toMoudle (.client ClientId) data :: d.trace) :
    ∃ msg d₁, (clientMessage env).run d = .ok (msg, d₁) ∧ Forwarded ClientId msg data := by
  obtain ⟨total, out, len, m, m', PL, d₁, htotal, hout, hm, hPL, hm', hmax, hinsert, hdata⟩ := forwardClient_stages h hsent
  have hmsghead : sizeof_ZC_MessageHead = 8 := rfl
  have hsize : m.bytes.length = 600 := m.size
  have hmaxLen : MSG_BULID_BUFFER_MAXLEN = 600 := rfl
  have hmin := insertSession_le hinsert
  have hPLlt := pstruPayloadlen_lt hPL
  have hlen : u16 (PL + 8) = PL + 8 := by
    unfold u16 at hmin hmax ⊢
    omega
  rw [hlen] at hmin hmax hinsert hm'
  obtain ⟨-, hbytes⟩ := Mem.store_eq_ok_iff.mp hm'
  obtain ⟨OptNum, hOptNum⟩ : ∃ OptNum, loadU8 m.bytes 3 = .ok OptNum :=
    ⟨_, by rw [loadU8, load_of_le (by omega)]; rfl⟩
  have hfits : 4 + (bytesU16 (ZC_HTONS (PL + 8))).length ≤ m.bytes.length := by
    rw [length_bytesU16]
    omega
  have hnum : loadU8 m'.bytes 3 = .ok OptNum := by
    rw [loadU8, hbytes, load_patch_of_le (by decide) hfits]
    exact hOptNum
  obtain ⟨head, hhead, hinc, hbufferLen, -, hbuffer⟩ := run_insertSession ⟨hmin, hmax⟩ hnum hinsert
  refine ⟨m.bytes.take (PL + 8), (d.tick.tick.withBuild m).tick, ?_, ?_, head, OptNum, hhead, ?_, hinc, ?_⟩
  · have hmsg : load (m.bytes ++ env.beyond d.tick.tick.clock) 0 (8 + PL) = .ok (m.bytes.take (PL + 8)) := by
      rw [load_append (load_of_le (by omega)), List.drop_zero, Nat.add_comm]
    refine run_bind_eq_ok.mpr ⟨d, d, rfl, run_bind_eq_ok.mpr ⟨_, d.tick, rfl, ?_⟩⟩
    refine run_bind_eq_ok.mpr ⟨total, d.tick, run_lift_eq_ok.mpr ⟨htotal, rfl⟩, ?_⟩
    refine run_bind_eq_ok.mpr ⟨_, d.tick.tick, rfl, ?_⟩
    refine run_bind_eq_ok.mpr ⟨(out, len), d.tick.tick, run_lift_eq_ok.mpr ⟨hout, rfl⟩, ?_⟩
    refine run_bind_eq_ok.mpr ⟨(), d.tick.tick.withBuild m, run_storeBuild hm, ?_⟩
    refine run_bind_eq_ok.mpr ⟨_, d.tick.tick.withBuild m, rfl, run_bind_eq_ok.mpr ⟨_, _, rfl, ?_⟩⟩
    refine run_bind_eq_ok.mpr ⟨PL, _, run_lift_eq_ok.mpr ⟨hPL, rfl⟩, run_lift_eq_ok.mpr ⟨hmsg, rfl⟩⟩
  · rw [List.length_take]
    omega
  · rw [loadU8, load_take (by omega) (by omega)]
    exact hOptNum
  · obtain ⟨-, hdataEq⟩ := load_eq_ok_iff.mp hdata
    have hdrop : (m'.bytes.take (PL + 8)).drop sizeof_ZC_MessageHead = (m.bytes.take (PL + 8)).drop sizeof_ZC_MessageHead := by
      rw [List.drop_take, List.drop_take, hbytes, drop_patch_of_le (by omega) (by rw [length_bytesU16]; decide)]
    rw [hdataEq, List.drop_zero, hbufferLen, u16_of_lt (by omega), hbuffer]
    exact congrArg (head ++ sessionOption ClientId ++ ·) hdrop

/-- The message that the chunk `pu8Data` of a client completes. -/
def receivedMessage (env : Env) (ClientId : Nat) (pu8Data : List UInt8) : Prog Device (List UInt8) := do
  ZC_SetClientBusy ClientId
  let (_, buffer) ← MSG_RecvData (← get).g_struClientBuffer pu8Data
  modifyClientBuffer fun _ => buffer
  clientMessage env

theorem refuseClient_trace {u : Unit} (h : (refuseClient env ClientId).run d = .ok (u, d')) :
    ∃ data, d'.trace = .tcpSend ClientId data :: d.trace := by
  obtain ⟨_, d, hget, h₁⟩ := run_bind_eq_ok.mp h
  obtain ⟨rfl, rfl⟩ := run_get_eq_ok.mp hget
  obtain ⟨_, _, hstore, h₂⟩ := run_bind_eq_ok.mp h₁
  obtain ⟨_, -, rfl⟩ := run_storeBuild_eq_ok hstore
  obtain ⟨_, _, hstore, h₃⟩ := run_bind_eq_ok.mp h₂
  obtain ⟨_, -, rfl⟩ := run_storeBuild_eq_ok hstore
  obtain ⟨_, _, hstore, h₄⟩ := run_bind_eq_ok.mp h₃
  obtain ⟨_, -, rfl⟩ := run_storeBuild_eq_ok hstore
  obtain ⟨_, _, hstore, h₅⟩ := run_bind_eq_ok.mp h₄
  obtain ⟨_, -, rfl⟩ := run_storeBuild_eq_ok hstore
  obtain ⟨_, _, hget, h₆⟩ := run_bind_eq_ok.mp h₅
  obtain ⟨rfl, rfl⟩ := run_get_eq_ok.mp hget
  obtain ⟨data, _, hload, h₇⟩ := run_bind_eq_ok.mp h₆
  obtain ⟨-, rfl⟩ := run_lift_eq_ok.mp hload
  obtain rfl := run_modify_eq_ok.mp h₇
  exact ⟨data, rfl⟩

theorem run_ZC_RecvDataFromClient {pu8Data data : List UInt8}
    (h : (ZC_RecvDataFromClient env ClientId pu8Data).run d = .ok ((), d'))
    (hsent : d'.trace = .toMoudle (.client ClientId) data :: d.trace) :
    ∃ msg d₁, (receivedMessage env ClientId pu8Data).run d = .ok (msg, d₁) ∧ Forwarded ClientId msg data := by
  obtain ⟨_, d, hget, h₁⟩ := run_bind_eq_ok.mp h
  obtain ⟨rfl, rfl⟩ := run_get_eq_ok.mp hget
  split at h₁
  · obtain ⟨_, _, hrefuse, h₂⟩ := run_bind_eq_ok.mp h₁
    obtain ⟨-, rfl⟩ := run_pure_eq_ok.mp h₂
    obtain ⟨_, htrace⟩ := refuseClient_trace hrefuse
    cases htrace.symm.trans hsent
  obtain ⟨_, _, hbusy, h₂⟩ := run_bind_eq_ok.mp h₁
  obtain rfl := run_modify_eq_ok.mp hbusy
  obtain ⟨_, _, hget, h₃⟩ := run_bind_eq_ok.mp h₂
  obtain ⟨rfl, rfl⟩ := run_get_eq_ok.mp hget
  obtain ⟨⟨u32RetVal, buffer⟩, _, hrecv, h₄⟩ := run_bind_eq_ok.mp h₃
  obtain ⟨hbuffer, rfl⟩ := run_lift_eq_ok.mp hrecv
  obtain ⟨_, _, hmodify, h₅⟩ := run_bind_eq_ok.mp h₄
  obtain rfl := run_modify_eq_ok.mp hmodify
  dsimp only at h₅
  split at h₅
  · obtain ⟨_, d₁, hforward, h₆⟩ := run_bind_eq_ok.mp h₅
    obtain ⟨_, _, hmodify, h₇⟩ := run_bind_eq_ok.mp h₆
    obtain rfl := run_modify_eq_ok.mp hmodify
    obtain rfl := run_modify_eq_ok.mp h₇
    obtain ⟨msg, d₂, hmsg, hforwarded⟩ := run_forwardClient hforward hsent
    refine ⟨msg, d₂, ?_, hforwarded⟩
    refine run_bind_eq_ok.mpr ⟨(), _, rfl, run_bind_eq_ok.mpr ⟨_, _, rfl, ?_⟩⟩
    exact run_bind_eq_ok.mpr ⟨(u32RetVal, buffer), _, run_lift_eq_ok.mpr ⟨hbuffer, rfl⟩, run_bind_eq_ok.mpr ⟨(), _, rfl, hmsg⟩⟩
  · obtain ⟨-, rfl⟩ := run_pure_eq_ok.mp h₅
    exact absurd (congrArg List.length hsent) (by simp)

/-- A message, followed in memory by `rest`, whose own options name no other client
than `ClientId`, and leave room for one more. -/
def Unspoofed (ClientId : Nat) (msg rest : List UInt8) : Prop :=
  loadU8 msg 3 ≠ .ok 255 ∧
    (u32SsessionId EVENT_ParseOption (msg ++ rest) = .ok none ∨
      u32SsessionId EVENT_ParseOption (msg ++ rest) = .ok (some ClientId))

theorem Forwarded.session_iff {msg data rest : List UInt8} (h : Forwarded ClientId msg data) (hid : ClientId < 4294967296) :
    u32SsessionId EVENT_ParseOption (data ++ rest) = .ok (some ClientId) ↔ Unspoofed ClientId msg rest := by
  obtain ⟨hle, head, OptNum, hhead, hnum, hinc, rfl⟩ := h
  have hown : loadU8 (msg.take sizeof_ZC_MessageHead) 3 = .ok OptNum := by
    rw [loadU8, load_take (by decide) hle]
    exact hnum
  have hsplit : msg ++ rest = msg.take sizeof_ZC_MessageHead ++ (msg.drop sizeof_ZC_MessageHead ++ rest) := by
    rw [← List.append_assoc, List.take_append_drop]
  rw [Unspoofed, hnum, hsplit, List.append_assoc, List.append_assoc, u32SsessionId_sessionOption hid
    (by rw [List.length_take, Nat.min_eq_left hle]) hhead hown hinc]
  by_cases hwrap : OptNum = 255
  · rw [if_pos hwrap, hwrap]
    simp
  · rw [if_neg hwrap]
    cases u32SsessionId EVENT_ParseOption (msg.take sizeof_ZC_MessageHead ++ (msg.drop sizeof_ZC_MessageHead ++ rest)) with
    | error e => simp
    | ok id => cases id <;> simp [hwrap, pure, Except.pure]

/-- The module takes a request to come from the client that has sent it exactly where
the request does not say otherwise itself. -/
theorem session_authentic {pu8Data data : List UInt8}
    {parse : List UInt8 → ZC_OptList → Except Fault (ZC_OptList × Nat)}
    (hparse : parse = EVENT_ParseOption ∨ parse = AC_ParseOption) (hid : ClientId < 4294967296)
    (h : (ZC_RecvDataFromClient env ClientId pu8Data).run d = .ok ((), d'))
    (hsent : d'.trace = .toMoudle (.client ClientId) data :: d.trace) :
    ∃ msg d₁, (receivedMessage env ClientId pu8Data).run d = .ok (msg, d₁) ∧
      ∀ rest, u32SsessionId parse (data ++ rest) = .ok (some ClientId) ↔ Unspoofed ClientId msg rest := by
  obtain ⟨msg, d₁, hmsg, hforwarded⟩ := run_ZC_RecvDataFromClient h hsent
  refine ⟨msg, d₁, hmsg, fun rest => ?_⟩
  obtain rfl | rfl := hparse
  · exact hforwarded.session_iff hid
  · exact hforwarded.session_iff hid

end

/-- A request with the given options and option count. -/
def clientRequest (OptNum : UInt8) (options : List UInt8) : List UInt8 :=
  ZC_MessageHead.toBytes ⟨1, 5, 40, OptNum, ZC_HTONS options.length, crcBytes (crc16_ccitt options)⟩ ++ options

/-- A transport option. -/
def plainOption : List UInt8 := optHead ZC_OPT_TRANSPORT sizeof_ZC_TransportInfo ++ List.replicate sizeof_ZC_TransportInfo 3

/-- The frame that a client sends a message in. -/
def clientFrame (msg : List UInt8) : List UInt8 :=
  let key := g_u8DefaultTokenKey.bytes
  let cipher := AES_CBC_Encrypt soundEnv.toCipher msg key key
  ZC_SecHead.toBytes ⟨ZC_HTONS cipher.length, ZC_SEC_ALG_AES, 0⟩ ++ cipher

/-- What the module is given by the client `7`, in a run that begins with its connection. -/
def sentBy7 (msg : List UInt8) (d : Device) : Option (List UInt8) :=
  match (ZC_RecvDataFromClient soundEnv 7 (clientFrame msg)).run d with
  | .ok (_, d') =>
    match d'.trace with
    | .toMoudle (.client 7) data :: trace => if trace = d.trace then some data else none
    | _ => none
  | .error _ => none

theorem sentBy7_eq_some {msg data : List UInt8} {d : Device} (h : sentBy7 msg d = some data) :
    ∃ d', (ZC_RecvDataFromClient soundEnv 7 (clientFrame msg)).run d = .ok ((), d') ∧
      d'.trace = .toMoudle (.client 7) data :: d.trace := by
  rw [sentBy7] at h
  split at h
  · rename_i d' hrun
    split at h
    · rename_i sent trace htrace
      split at h
      · rename_i hsame
        obtain rfl := Option.some.inj h
        exact ⟨d', hrun, by rw [htrace, hsame]⟩
      · cases h
    · cases h
  · cases h

def connected7 : List Input := [.wakeUp, .listen, .clientConnect 7]

theorem reachable_of_sent {α : Type} {view : List UInt8 → α} {msg : List UInt8} {a : α}
    (h : ((Device.boot soundEnv blankFwup).bind (Device.replay soundEnv connected7)).map
      (fun d => (sentBy7 msg d).map view) = some (some a)) :
    ∃ d d' data, d.Reachable soundEnv (fun _ _ => True) ∧
      (ZC_RecvDataFromClient soundEnv 7 (clientFrame msg)).run d = .ok ((), d') ∧
      d'.trace = .toMoudle (.client 7) data :: d.trace ∧ view data = a := by
  obtain ⟨d, hreachable, hview⟩ := Device.reachable_of_replay ⟨rfl, rfl, rfl⟩ (fun _ _ _ => trivial) h
  obtain ⟨data, hsent, hdata⟩ := Option.map_eq_some_iff.mp hview
  obtain ⟨d', hrun, htrace⟩ := sentBy7_eq_some hsent
  exact ⟨d, d', data, hreachable, hrun, htrace, hdata⟩

/-- A request with a transport option is taken to come from its client. -/
theorem session_of_client : ∃ d d' msg data, d.Reachable soundEnv (fun _ _ => True) ∧
    (ZC_RecvDataFromClient soundEnv 7 (clientFrame (clientRequest 1 plainOption))).run d = .ok ((), d') ∧
    d'.trace = .toMoudle (.client 7) data :: d.trace ∧ u32SsessionId AC_ParseOption data = .ok (some 7) ∧
    ∀ rest, u32SsessionId AC_ParseOption (data ++ rest) = .ok (some 7) ↔ Unspoofed 7 msg rest := by
  obtain ⟨d, d', data, hreachable, hrun, hsent, hown⟩ := @reachable_of_sent _ (u32SsessionId AC_ParseOption)
    (clientRequest 1 plainOption) (.ok (some 7)) (by decide +kernel)
  obtain ⟨msg, -, -, hiff⟩ := session_authentic (.inr rfl) (by decide) hrun hsent
  exact ⟨d, d', msg, data, hreachable, hrun, hsent, hown, hiff⟩

/-- A client that puts the number of another one into its request is taken for that one. -/
theorem session_spoofed : ¬ ∀ (d d' : Device) (msg data : List UInt8), d.Reachable soundEnv (fun _ _ => True) →
    (ZC_RecvDataFromClient soundEnv 7 (clientFrame msg)).run d = .ok ((), d') →
    d'.trace = .toMoudle (.client 7) data :: d.trace →
    u32SsessionId EVENT_ParseOption data = .ok (some 7) := by
  intro h
  obtain ⟨d, d', data, hreachable, hrun, hsent, hspoofed⟩ := @reachable_of_sent _ (u32SsessionId EVENT_ParseOption)
    (clientRequest 1 (sessionOption 9)) (.ok (some 9)) (by decide +kernel)
  have hown := h d d' _ data hreachable hrun hsent
  rw [hspoofed] at hown
  cases hown

end ZCloud
