import ZCloud.User.UserFlash
import ZCloud.Lib.Bag
import ZCloud.Lib.Machine

open Memory Program

namespace ZCloud

/-- An operation on the table of devices. -/
abbrev TableOperation := Bag.Operation (Mem 6)

/-- The address that is nothing but zeros. -/
def zeroMac : Mem 6 := Mem.fill 6 0

/-- What is returned when an operation succeeds and when it does not. -/
def tableAnswer (done : Bool) : Int := if done then 0 else -1

section

variable (env : FlsEnv)

def TableOperation.call : TableOperation → Prog UserFlash Int
  | .add mac => UserAddFlashInfo env mac
  | .del mac => UserDelFlashInfo env mac

/-- Operations one after the other, and what each returns. -/
def callAll : List TableOperation → Prog UserFlash (List Int)
  | [] => return []
  | operation :: operations => do
    let r ← TableOperation.call env operation
    return r :: (← callAll operations)

end

namespace USER_FLASH_INFO

theorem device_le (i : Fin USER_DEVICE_NUM) : device i + sizeof_FLASH_MAC_INFO ≤ sizeof_USER_FLASH_INFO := by
  have hi := i.isLt
  simp only [device, USER_DEVICE_NUM, sizeof_FLASH_MAC_INFO, sizeof_USER_FLASH_INFO] at hi ⊢
  omega

/-- The address of a device. -/
def macOf (info : USER_FLASH_INFO) (i : Fin USER_DEVICE_NUM) : Mem 6 where
  bytes := info.mac i
  size := by
    have hle := device_le i
    simp only [sizeof_FLASH_MAC_INFO] at hle
    rw [mac, List.length_take, List.length_drop, info.size]
    omega

/-- Whether a device is a valid one. -/
def used (info : USER_FLASH_INFO) (i : Fin USER_DEVICE_NUM) : Bool := decide (info.valid i ≠ 0)

/-- The addresses of the valid devices. -/
def held (info : USER_FLASH_INFO) : Multiset (Mem 6) := Bag.held info.used info.macOf

/-- No device is valid, and no address is left. -/
def Blank (info : USER_FLASH_INFO) : Prop := ∀ i, info.valid i = 0 ∧ info.macOf i = zeroMac

/-- The device `i` is set to `entry`, the others are as they were. -/
structure SetTo (info info' : USER_FLASH_INFO) (i : Fin USER_DEVICE_NUM) (valid : Nat) (mac : Mem 6) : Prop where
  valid_eq : info'.valid i = valid
  mac_eq : info'.macOf i = mac
  other : ∀ j, j ≠ i → info'.valid j = info.valid j ∧ info'.macOf j = info.macOf j

theorem slice_patch {bytes data : List UInt8} {off k len : Nat} (hapart : k + len ≤ off ∨ off + data.length ≤ k)
    (hoff : off ≤ bytes.length) : ((patch bytes off data).drop k).take len = (bytes.drop k).take len := by
  rcases hapart with h | h
  · rw [List.take_drop, List.take_drop, take_patch_of_le h hoff]
  · rw [drop_patch_of_le hoff h]

theorem setTo_of_store {info info' : USER_FLASH_INFO} {i : Fin USER_DEVICE_NUM} {valid : Nat} (hvalid : valid < 65536) {mac : Mem 6}
    (h : info.store (device i) (bytesU16 valid ++ mac.bytes) = .ok info') : info.SetTo info' i valid mac := by
  obtain ⟨-, hbytes⟩ := Mem.store_eq_ok_iff.mp h
  have hlen : (bytesU16 valid ++ mac.bytes).length = 8 := by rw [List.length_append, length_bytesU16, mac.size]
  have hi : device i + 8 ≤ 808 := device_le i
  have hsize : info.bytes.length = 808 := info.size
  have hdrop : info'.bytes.drop (device i) = bytesU16 valid ++ mac.bytes ++ info.bytes.drop (device i + 8) := by
    have htake : (info.bytes.take (device i)).length = device i := by
      rw [List.length_take]
      omega
    rw [hbytes, patch, List.append_assoc, List.drop_left' htake, hlen]
  refine ⟨?_, ?_, fun j hj => ?_⟩
  · rw [USER_FLASH_INFO.valid, hdrop, List.append_assoc, List.take_left' (length_bytesU16 valid), number_bytesU16 hvalid]
  · refine Mem.ext_bytes ?_
    change (info'.bytes.drop (device i + 2)).take 6 = mac.bytes
    rw [← List.drop_drop, hdrop, List.append_assoc, List.drop_left' (length_bytesU16 valid), List.take_left' mac.size]
  · have hne : j.val ≠ i.val := fun h => hj (Fin.ext h)
    have hapart (k len : Nat) (hk : k + len ≤ 8) :
        device j + k + len ≤ device i ∨ device i + (bytesU16 valid ++ mac.bytes).length ≤ device j + k := by
      rw [hlen]
      simp only [device, sizeof_FLASH_MAC_INFO]
      omega
    have hvalid := hapart 0 2 (by decide)
    rw [Nat.add_zero] at hvalid
    refine ⟨?_, Mem.ext_bytes ?_⟩
    · rw [USER_FLASH_INFO.valid, USER_FLASH_INFO.valid, hbytes, slice_patch hvalid (by omega)]
    · change (info'.bytes.drop (device j + 2)).take 6 = (info.bytes.drop (device j + 2)).take 6
      rw [hbytes, slice_patch (hapart 2 6 (by decide)) (by omega)]

/-- A device that is not valid has no address. -/
def Wiped (info : USER_FLASH_INFO) : Prop := ∀ i, info.valid i = 0 → info.macOf i = zeroMac

theorem used_eq_false_iff (info : USER_FLASH_INFO) (i : Fin USER_DEVICE_NUM) : info.used i = false ↔ info.valid i = 0 := by
  simp [used]

theorem used_eq_true_iff (info : USER_FLASH_INFO) (i : Fin USER_DEVICE_NUM) : info.used i = true ↔ info.valid i ≠ 0 := by
  simp [used]

variable {info info' : USER_FLASH_INFO} {i : Fin USER_DEVICE_NUM} {mac : Mem 6}

theorem SetTo.held_add (h : info.SetTo info' i 1 mac) (hfree : info.valid i = 0) : info'.held = mac ::ₘ info.held := by
  have hheld := @Bag.held_add _ _ info.used info.macOf info'.used info'.macOf _
    ((used_eq_false_iff _ _).mpr hfree) ((used_eq_true_iff _ _).mpr (by rw [h.valid_eq]; decide))
    fun j hj => ⟨by rw [used, used, (h.other j hj).1], (h.other j hj).2⟩
  rw [held, hheld, h.mac_eq, held]

theorem SetTo.held_del (h : info.SetTo info' i 0 zeroMac) (hused : info.valid i ≠ 0) :
    info'.held = info.held.erase (info.macOf i) :=
  Bag.held_del ((used_eq_true_iff _ _).mpr hused) ((used_eq_false_iff _ _).mpr h.valid_eq)
    fun j hj => ⟨by rw [used, used, (h.other j hj).1], (h.other j hj).2⟩

theorem SetTo.wiped {valid : Nat} (h : info.SetTo info' i valid mac) (hinfo : info.Wiped) (hzero : valid = 0 → mac = zeroMac) :
    info'.Wiped := by
  intro j hj
  by_cases hji : j = i
  · subst hji
    rw [h.valid_eq] at hj
    rw [h.mac_eq, hzero hj]
  · rw [(h.other j hji).1] at hj
    rw [(h.other j hji).2, hinfo j hj]

theorem freePlace_spec (info : USER_FLASH_INFO) :
    (∃ i, freePlace info = some i ∧ info.valid i = 0 ∧ info.held.card < USER_DEVICE_NUM) ∨
      freePlace info = none ∧ ¬ info.held.card < USER_DEVICE_NUM := by
  have hcard := @Bag.card_held_lt_iff _ _ info.used info.macOf
  cases hplace : freePlace info with
  | none =>
    refine Or.inr ⟨rfl, fun hlt => ?_⟩
    obtain ⟨i, hi⟩ := hcard.mp hlt
    have hnone := List.find?_eq_none.mp hplace i (List.mem_finRange i)
    exact absurd ((used_eq_false_iff _ _).mp hi) (by simpa using hnone)
  | some i =>
    have hfree : info.valid i = 0 := by simpa using List.find?_some hplace
    exact Or.inl ⟨i, rfl, hfree, hcard.mpr ⟨i, (used_eq_false_iff _ _).mpr hfree⟩⟩

/-- An address other than zero is found where it is held, and only there. -/
theorem placeOf_spec (hinfo : info.Wiped) (hmac : mac ≠ zeroMac) :
    (∃ i, placeOf info mac = some i ∧ info.valid i ≠ 0 ∧ info.macOf i = mac ∧ mac ∈ info.held) ∨
      placeOf info mac = none ∧ mac ∉ info.held := by
  cases hplace : placeOf info mac with
  | none =>
    refine Or.inr ⟨rfl, fun hmem => ?_⟩
    obtain ⟨i, -, hi⟩ := Bag.mem_held.mp hmem
    have hnone := List.find?_eq_none.mp hplace i (List.mem_finRange i)
    have hbytes : info.mac i = mac.bytes := congrArg Mem.bytes hi
    exact hnone (by simpa using hbytes)
  | some i =>
    have hbytes : info.mac i = mac.bytes := by simpa using List.find?_some hplace
    have hi : info.macOf i = mac := Mem.ext_bytes hbytes
    have hvalid : info.valid i ≠ 0 := fun hzero => hmac (hi.symm.trans (hinfo i hzero))
    exact Or.inl ⟨i, rfl, hvalid, hi, Bag.mem_held.mpr ⟨i, (used_eq_true_iff _ _).mpr hvalid, hi⟩⟩

end USER_FLASH_INFO

section

variable {env : FlsEnv} {u u' : UserFlash} {r : Int}

theorem writeInfo_table (addr : Nat) : Keeps UserFlash.gstFlashInfo (writeInfo env addr) := by
  intro u a u' h
  rw [writeInfo, run_get_bind] at h
  obtain ⟨_, t, hcall, hpure⟩ := run_bind_eq_ok.mp h
  obtain ⟨fls, -, rfl⟩ := run_zoom_eq_ok.mp hcall
  obtain ⟨-, rfl⟩ := run_pure_eq_ok.mp hpure
  rfl

/-- What a call changes in the table, and what it returns. -/
theorem saveDevice_spec {place : Option (Fin USER_DEVICE_NUM)} {valid : Nat} (hvalid : valid < 65536) {mac : Mem 6}
    (h : (saveDevice env place (bytesU16 valid ++ mac.bytes)).run u = .ok (r, u')) :
    (place = none ∧ r = -1 ∧ u'.gstFlashInfo = u.gstFlashInfo) ∨
      ∃ i, place = some i ∧ r = 0 ∧ u.gstFlashInfo.SetTo u'.gstFlashInfo i valid mac := by
  cases place with
  | none =>
    obtain ⟨rfl, rfl⟩ := run_pure_eq_ok.mp h
    exact Or.inl ⟨rfl, rfl, rfl⟩
  | some i =>
    rw [saveDevice, run_get_bind] at h
    obtain ⟨info, u₁, hstore, hrest⟩ := run_bind_eq_ok.mp h
    obtain ⟨hstore, rfl⟩ := run_lift_eq_ok.mp hstore
    obtain ⟨_, u₂, hmodify, hrest⟩ := run_bind_eq_ok.mp hrest
    obtain rfl := run_modify_eq_ok.mp hmodify
    obtain ⟨_, u₃, hsave, hpure⟩ := run_bind_eq_ok.mp hrest
    obtain ⟨rfl, rfl⟩ := run_pure_eq_ok.mp hpure
    obtain ⟨_, u₄, hfirst, hsave⟩ := run_bind_eq_ok.mp hsave
    obtain ⟨_, u₅, hsecond, hmodify⟩ := run_bind_eq_ok.mp hsave
    obtain rfl := run_modify_eq_ok.mp hmodify
    have htable : u₅.gstFlashInfo = info := (writeInfo_table _ hsecond).trans (writeInfo_table _ hfirst)
    exact Or.inr ⟨i, rfl, rfl, by rw [htable]; exact USER_FLASH_INFO.setTo_of_store hvalid hstore⟩

/-- One operation does to the addresses held what it does to a bag, unless it is
to take out the address that is nothing but zeros. -/
theorem call_spec {operation : TableOperation} (hinfo : u.gstFlashInfo.Wiped) (hmac : operation ≠ .del zeroMac)
    (h : (TableOperation.call env operation).run u = .ok (r, u')) :
    (∃ done, Bag.step USER_DEVICE_NUM operation u.gstFlashInfo.held = (done, u'.gstFlashInfo.held) ∧ r = tableAnswer done) ∧
      u'.gstFlashInfo.Wiped := by
  cases operation with
  | add mac =>
    rw [TableOperation.call, UserAddFlashInfo, run_get_bind] at h
    rw [Bag.step]
    rcases saveDevice_spec (by decide) h with ⟨hplace, rfl, htable⟩ | ⟨i, hplace, rfl, hset⟩
    · rcases USER_FLASH_INFO.freePlace_spec u.gstFlashInfo with ⟨i, hi, -⟩ | ⟨-, hfull⟩
      · cases hplace.symm.trans hi
      · rw [if_neg hfull, htable]
        exact ⟨⟨_, rfl, rfl⟩, hinfo⟩
    · rcases USER_FLASH_INFO.freePlace_spec u.gstFlashInfo with ⟨j, hj, hfree, hlt⟩ | ⟨hnone, -⟩
      · obtain rfl := Option.some.inj (hplace.symm.trans hj)
        rw [if_pos hlt, hset.held_add hfree]
        exact ⟨⟨_, rfl, rfl⟩, hset.wiped hinfo nofun⟩
      · cases hplace.symm.trans hnone
  | del mac =>
    have hne : mac ≠ zeroMac := fun heq => hmac (congrArg _ heq)
    have hzero : bytesU16 0 ++ List.replicate 6 0 = bytesU16 0 ++ zeroMac.bytes := rfl
    rw [TableOperation.call, UserDelFlashInfo, run_get_bind, hzero] at h
    rw [Bag.step]
    rcases saveDevice_spec (by decide) h with ⟨hplace, rfl, htable⟩ | ⟨i, hplace, rfl, hset⟩
    · rcases USER_FLASH_INFO.placeOf_spec hinfo hne with ⟨i, hi, -⟩ | ⟨-, hnot⟩
      · cases hplace.symm.trans hi
      · rw [if_neg hnot, htable]
        exact ⟨⟨_, rfl, rfl⟩, hinfo⟩
    · rcases USER_FLASH_INFO.placeOf_spec hinfo hne with ⟨j, hj, hused, hmacOf, hmem⟩ | ⟨hnone, -⟩
      · obtain rfl := Option.some.inj (hplace.symm.trans hj)
        rw [if_pos hmem, hset.held_del hused, hmacOf]
        exact ⟨⟨_, rfl, rfl⟩, hset.wiped hinfo fun _ => rfl⟩
      · cases hplace.symm.trans hnone

theorem callAll_spec {operations : List TableOperation} {answers : List Int} (hinfo : u.gstFlashInfo.Wiped)
    (hmac : ∀ operation ∈ operations, operation ≠ .del zeroMac)
    (h : (callAll env operations).run u = .ok (answers, u')) :
    (∃ done, Machine.run (Bag.step USER_DEVICE_NUM) operations u.gstFlashInfo.held = (done, u'.gstFlashInfo.held) ∧
      answers = done.map tableAnswer) ∧ u'.gstFlashInfo.Wiped := by
  induction operations generalizing u answers with
  | nil =>
    obtain ⟨rfl, rfl⟩ := run_pure_eq_ok.mp h
    exact ⟨⟨[], rfl, rfl⟩, hinfo⟩
  | cons operation operations ih =>
    obtain ⟨r, u₁, hcall, hrest⟩ := run_bind_eq_ok.mp h
    obtain ⟨rs, u₂, hall, hpure⟩ := run_bind_eq_ok.mp hrest
    obtain ⟨rfl, rfl⟩ := run_pure_eq_ok.mp hpure
    obtain ⟨⟨done, hstep, rfl⟩, hinfo₁⟩ := call_spec hinfo (hmac operation (List.mem_cons_self ..)) hcall
    obtain ⟨⟨dones, hrun, rfl⟩, hinfo₂⟩ := ih hinfo₁ (fun o ho => hmac o (List.mem_cons_of_mem _ ho)) hall
    refine ⟨⟨done :: dones, ?_, rfl⟩, hinfo₂⟩
    simp only [Machine.run]
    rw [hstep, hrun]

theorem saveDevice_returns (henv : env.Works) (hlock : u.fls.fls_lock = 1) (place : Option (Fin USER_DEVICE_NUM)) (valid : Nat)
    (mac : Mem 6) : ∃ r u', (saveDevice env place (bytesU16 valid ++ mac.bytes)).run u = .ok (r, u') ∧ u'.fls.fls_lock = 1 := by
  cases place with
  | none => exact ⟨_, _, rfl, hlock⟩
  | some i =>
    have hlen : (bytesU16 valid ++ mac.bytes).length = sizeof_FLASH_MAC_INFO := by
      rw [List.length_append, length_bytesU16, mac.size]
      rfl
    have hfits : USER_FLASH_INFO.device i + (bytesU16 valid ++ mac.bytes).length ≤ sizeof_USER_FLASH_INFO := by
      rw [hlen]
      exact USER_FLASH_INFO.device_le i
    obtain ⟨info, hstore, -⟩ := @Mem.store_spec _ u.gstFlashInfo _ _ hfits
    obtain ⟨fls, hsave, hlock', -⟩ := @run_UserSaveFlashInfo _ henv.io { u with gstFlashInfo := info } hlock
    refine ⟨0, { u with fls := fls, gstFlashInfo := info, saved := some info }, ?_, hlock'⟩
    rw [saveDevice, run_get_bind]
    simp only [run_bind, hstore, run_lift_ok, ok_bind, run_modify, hsave, run_pure]

theorem call_returns (henv : env.Works) (hlock : u.fls.fls_lock = 1) (operation : TableOperation) :
    ∃ r u', (TableOperation.call env operation).run u = .ok (r, u') ∧ u'.fls.fls_lock = 1 := by
  cases operation with
  | add mac => exact saveDevice_returns henv hlock _ 1 mac
  | del mac => exact saveDevice_returns henv hlock _ 0 zeroMac

theorem callAll_returns (henv : env.Works) (hlock : u.fls.fls_lock = 1) (operations : List TableOperation) :
    ∃ answers u', (callAll env operations).run u = .ok (answers, u') := by
  induction operations generalizing u with
  | nil => exact ⟨[], u, rfl⟩
  | cons operation operations ih =>
    obtain ⟨r, u₁, hcall, hlock₁⟩ := call_returns henv hlock operation
    obtain ⟨rs, u', hall⟩ := ih hlock₁
    exact ⟨r :: rs, u', by simp only [callAll, run_bind, hcall, ok_bind, hall, run_pure]⟩

end

theorem USER_FLASH_INFO.Blank.wiped {info : USER_FLASH_INFO} (h : info.Blank) : info.Wiped := fun i _ => (h i).2

theorem USER_FLASH_INFO.Blank.held_eq {info : USER_FLASH_INFO} (h : info.Blank) : info.held = 0 :=
  Bag.held_eq_zero fun i => (info.used_eq_false_iff i).mpr (h i).1

/-- From an empty table, adds of any address and deletes of any address but the
one that is nothing but zeros answer what they answer on a bag of a hundred
addresses, and the valid devices hold the addresses in the bag. -/
theorem device_table_bag {env : FlsEnv} {u : UserFlash} {operations : List TableOperation} (hblank : u.gstFlashInfo.Blank)
    (hmac : ∀ operation ∈ operations, operation ≠ .del zeroMac) :
    (env.Works → u.fls.fls_lock = 1 → ∃ answers u', (callAll env operations).run u = .ok (answers, u')) ∧
      ∀ answers u', (callAll env operations).run u = .ok (answers, u') →
        (∃ done, Machine.run (Bag.step USER_DEVICE_NUM) operations 0 = (done, u'.gstFlashInfo.held) ∧
          answers = done.map tableAnswer) ∧ u'.gstFlashInfo.held.card ≤ USER_DEVICE_NUM := by
  refine ⟨fun henv hlock => callAll_returns henv hlock operations, fun answers u' hrun => ⟨?_, Bag.card_held_le⟩⟩
  rw [← hblank.held_eq]
  exact (callAll_spec hblank.wiped hmac hrun).1

/-- The chip of a blank device and an empty table. -/
def emptyTable : UserFlash := ⟨blankFwup.fls, USER_FLASH_INFO.empty, none⟩

theorem emptyTable_blank : emptyTable.gstFlashInfo.Blank := by
  unfold USER_FLASH_INFO.Blank
  decide +kernel

/-- The address of the examples. -/
def someMac : Mem 6 := ⟨[2, 0, 0, 0, 0, 1], rfl⟩

theorem device_table_bag_short : ∃ answers u',
    (callAll soundEnv.toFlsEnv [.add zeroMac, .add someMac, .del someMac]).run emptyTable = .ok (answers, u') ∧
      ∃ done, Machine.run (Bag.step USER_DEVICE_NUM) [.add zeroMac, .add someMac, .del someMac] 0 =
        (done, u'.gstFlashInfo.held) ∧ answers = done.map tableAnswer := by
  obtain ⟨hreturns, hbag⟩ := @device_table_bag soundEnv.toFlsEnv emptyTable
    [.add zeroMac, .add someMac, .del someMac] emptyTable_blank (by decide)
  obtain ⟨answers, u', hrun⟩ := hreturns soundEnv_works rfl
  exact ⟨answers, u', hrun, (hbag answers u' hrun).1⟩

/-- An address that has been added twice is still there when it has been deleted. -/
theorem device_table_twice : ∃ u',
    (callAll soundEnv.toFlsEnv [.add someMac, .add someMac, .del someMac]).run emptyTable = .ok ([0, 0, 0], u') ∧
      someMac ∈ u'.gstFlashInfo.held := by
  obtain ⟨answers, u', hrun⟩ := @callAll_returns _ emptyTable soundEnv_works rfl [.add someMac, .add someMac, .del someMac]
  obtain ⟨⟨done, hbag, hanswers⟩, -⟩ := callAll_spec emptyTable_blank.wiped (by decide) hrun
  rw [emptyTable_blank.held_eq] at hbag
  have hheld : u'.gstFlashInfo.held = {someMac} := congrArg Prod.snd hbag.symm
  obtain rfl : done = [true, true, true] := congrArg Prod.fst hbag.symm
  subst hanswers
  refine ⟨u', hrun, ?_⟩
  rw [hheld]
  exact Multiset.mem_singleton_self _

end ZCloud
