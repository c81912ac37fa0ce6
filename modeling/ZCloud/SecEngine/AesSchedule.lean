import ZCloud.SecEngine.AesCore
import Mathlib.Data.List.GetD
import Mathlib.Tactic.SplitIfs

open BigEndian Rijndael

namespace ZCloud

theorem length_expand (ukey : List UInt32) (n : Nat) : (expand box ukey n).length = ukey.length + n := by
  induction n with
  | zero => rfl
  | succ n ih => simp [expand, ih, Nat.add_assoc]

/-- The first words of the key are its schedule, up to `n` words after those of
`ukey`, which are `nk`. -/
structure AES_KEY.Filled (key : AES_KEY) (ukey : List UInt32) (nk n : Nat) : Prop where
  length : ukey.length = nk
  pos : 0 < nk
  room : nk + n ≤ 60
  rk : ∀ i < nk + n, key.rk i = (expand box ukey n).getD i 0

namespace AES_KEY.Filled

variable {key : AES_KEY} {ukey : List UInt32} {nk n i : Nat}

theorem getLastD_expand (h : key.Filled ukey nk n) : (expand box ukey n).getLastD 0 = key.rk (n + nk - 1) := by
  have hpos := h.pos
  have hlen := length_expand ukey n
  rw [h.rk _ (by omega), List.getLastD_eq_getLast?, List.getLast?_eq_getElem?, hlen, h.length,
    List.getD_eq_getElem?_getD, Nat.add_comm]

/-- The word that is put after the words so far. -/
theorem put (h : key.Filled ukey nk n) (hroom : nk + n < 60) {w : UInt32} (hw : w = nextWord box nk (expand box ukey n)) :
    (key.put (n + nk) w).Filled ukey nk (n + 1) where
  length := h.length
  pos := h.pos
  room := hroom
  rk := by
    intro i hi
    have hlen := length_expand ukey n
    rw [h.length] at hlen
    rw [AES_KEY.rk_put _ (by omega), expand, h.length]
    by_cases hlast : i = n + nk
    · rw [if_pos hlast, List.getD_append_right _ _ _ _ (by omega), hlen, hw]
      simp [show i - (nk + n) = 0 by omega]
    · rw [if_neg hlast, List.getD_append _ _ _ _ (by omega)]
      exact h.rk i (by omega)

/-- The word that `nextWord` starts from. -/
theorem back (h : key.Filled ukey nk n) : (expand box ukey n).getD ((expand box ukey n).length - nk) 0 = key.rk n := by
  have hpos := h.pos
  rw [h.rk n (by omega), length_expand, h.length, Nat.add_sub_cancel_left]

theorem xorWord (h : key.Filled ukey nk n) (hroom : nk + n < 60) (hfirst : n % nk ≠ 0) (hfourth : nk ≤ 6 ∨ n % nk ≠ 4) :
    (ZCloud.xorWord nk n key).Filled ukey nk (n + 1) := by
  refine h.put hroom ?_
  have hmod : (expand box ukey n).length % nk = n % nk := by rw [length_expand, h.length, Nat.add_mod_left]
  rw [nextWord, h.back, h.getLastD_expand, hmod, if_neg hfirst, if_neg (by omega)]

theorem rconWord (h : key.Filled ukey nk (nk * i)) (hroom : nk + nk * i < 60) (hi : i < 10) :
    (ZCloud.rconWord nk i (nk * i) key).Filled ukey nk (nk * i + 1) := by
  refine h.put hroom ?_
  have hlen : (expand box ukey (nk * i)).length = nk * (i + 1) := by
    rw [length_expand, h.length, Nat.mul_add_one, Nat.add_comm]
  have hmod : (expand box ukey (nk * i)).length % nk = 0 := by rw [hlen, Nat.mul_mod_right]
  have hdiv : (expand box ukey (nk * i)).length / nk = i + 1 := by rw [hlen, Nat.mul_div_cancel_left _ h.pos]
  have hrcon : ∀ i < 10, ZCloud.rcon[i]?.getD 0 = Rijndael.rcon (i + 1) := by decide
  rw [nextWord, h.back, h.getLastD_expand, if_pos hmod, hdiv, hrcon i hi, lastColumn_eq Te4_entry, ← UInt32.xor_assoc]
  simp [subWord, mapBytes, rotWord, box]

theorem subWord4 (h : key.Filled ukey nk n) (hroom : nk + n < 60) (hnk : 6 < nk) (hfourth : n % nk = 4) :
    (ZCloud.subWord4 nk n key).Filled ukey nk (n + 1) := by
  refine h.put hroom ?_
  have hmod : (expand box ukey n).length % nk = n % nk := by rw [length_expand, h.length, Nat.add_mod_left]
  rw [nextWord, h.back, h.getLastD_expand, hmod, if_neg (by omega), if_pos ⟨hnk, hfourth⟩, lastColumn_eq Te4_entry]
  rfl

/-- The four words that each part starts with. -/
theorem fourWords (h : key.Filled ukey nk (nk * i)) (hnk : 4 ≤ nk) (hroom : nk + nk * i + 4 ≤ 60) (hi : i < 10) :
    (ZCloud.xorWord nk (nk * i + 3) (ZCloud.xorWord nk (nk * i + 2) (ZCloud.xorWord nk (nk * i + 1)
      (ZCloud.rconWord nk i (nk * i) key)))).Filled ukey nk (nk * i + 4) := by
  have hmod (k : Nat) (hk : k < nk) : (nk * i + k) % nk = k := by rw [Nat.mul_add_mod, Nat.mod_eq_of_lt hk]
  have h1 := h.rconWord (by omega) hi
  have h2 := h1.xorWord (by omega) (by rw [hmod 1 (by omega)]; omega) (by rw [hmod 1 (by omega)]; omega)
  have h3 := h2.xorWord (by omega) (by rw [hmod 2 (by omega)]; omega) (by rw [hmod 2 (by omega)]; omega)
  exact h3.xorWord (by omega) (by rw [hmod 3 (by omega)]; omega) (by rw [hmod 3 (by omega)]; omega)

theorem expand128 {fuel : Nat} (h : key.Filled ukey 4 (4 * i)) (hi : i + fuel + 1 = 10) :
    (ZCloud.expand128 (fuel + 1) i (4 * i) key).Filled ukey 4 40 := by
  induction fuel generalizing i key with
  | zero =>
    have hi : i = 9 := by omega
    subst hi
    exact h.fourWords (by omega) (by omega) (by omega)
  | succ fuel ih =>
    have hfour := h.fourWords (by omega) (by omega) (by omega)
    rw [ZCloud.expand128, if_neg (by omega)]
    exact ih hfour (by omega)

theorem expand192 {fuel : Nat} (h : key.Filled ukey 6 (6 * i)) (hi : i + fuel + 1 = 8) :
    (ZCloud.expand192 (fuel + 1) i (6 * i) key).Filled ukey 6 46 := by
  induction fuel generalizing i key with
  | zero =>
    have hi : i = 7 := by omega
    subst hi
    exact h.fourWords (by omega) (by omega) (by omega)
  | succ fuel ih =>
    have hfour := h.fourWords (by omega) (by omega) (by omega)
    have hfive := hfour.xorWord (by omega) (by omega) (by omega)
    have hsix := hfive.xorWord (by omega) (by omega) (by omega)
    rw [ZCloud.expand192, if_neg (by omega)]
    exact ih hsix (by omega)

theorem expand256 {fuel : Nat} (h : key.Filled ukey 8 (8 * i)) (hi : i + fuel + 1 = 7) :
    (ZCloud.expand256 (fuel + 1) i (8 * i) key).Filled ukey 8 52 := by
  induction fuel generalizing i key with
  | zero =>
    have hi : i = 6 := by omega
    subst hi
    exact h.fourWords (by omega) (by omega) (by omega)
  | succ fuel ih =>
    have hfour := h.fourWords (by omega) (by omega) (by omega)
    have hfive := hfour.subWord4 (by omega) (by omega) (by omega)
    have hsix := hfive.xorWord (by omega) (by omega) (by omega)
    have hseven := hsix.xorWord (by omega) (by omega) (by omega)
    have height := hseven.xorWord (by omega) (by omega) (by omega)
    rw [ZCloud.expand256, if_neg (by omega)]
    exact ih height (by omega)

end AES_KEY.Filled

/-! ## The schedules -/

/-- The words of a key of `n` words. -/
def keyWords (userKey : List UInt8) (n : Nat) : List UInt32 := (List.range n).map fun k => GETU32 userKey (4 * k)

@[simp]
theorem length_keyWords (userKey : List UInt8) (n : Nat) : (keyWords userKey n).length = n := by
  simp [keyWords]

theorem rk_loadKey (userKey : List UInt8) (key : AES_KEY) {n : Nat} (hn : n ≤ 60) (i : Nat) :
    (loadKey userKey n key).rk i = if i < n then GETU32 userKey (4 * i) else key.rk i := by
  induction n with
  | zero => simp [loadKey]
  | succ n ih =>
    rw [loadKey, List.range_succ, List.foldl_append, List.foldl_cons, List.foldl_nil, AES_KEY.rk_put _ (by omega),
      ← loadKey, ih (by omega)]
    by_cases hi : i = n
    · subst hi
      simp
    · rw [if_neg hi]
      exact if_congr (by omega) rfl rfl

theorem filled_loadKey (userKey : List UInt8) (key : AES_KEY) {n : Nat} (hn : 0 < n) (hroom : n ≤ 60) :
    (loadKey userKey n key).Filled (keyWords userKey n) n 0 where
  length := length_keyWords userKey n
  pos := hn
  room := hroom
  rk := by
    intro i hi
    have hi : i < n := hi
    rw [rk_loadKey _ _ hroom, if_pos hi, expand, List.getD_eq_getElem?_getD]
    simp [keyWords, hi]

/-- The lengths of a key in bits that there is a schedule for. -/
def aesBits (bits : Nat) : Prop := bits = 128 ∨ bits = 192 ∨ bits = 256

/-- A key that holds the schedule of a key of `nk` words. -/
structure AES_KEY.Scheduled (key : AES_KEY) (ukey : List UInt32) : Prop where
  rounds : key.rounds = Rijndael.rounds ukey.length
  room : 4 * (key.rounds + 1) ≤ 60
  even : ∃ r, key.rounds = 2 * (r + 1)
  rk : ∀ i < 4 * (key.rounds + 1), key.rk i = (schedule box ukey).getD i 0

theorem AES_KEY.Filled.scheduled {key : AES_KEY} {ukey : List UInt32} {nk n : Nat} (h : key.Filled ukey nk n)
    (hrounds : key.rounds = nk + 6) (hn : nk + n = 4 * (nk + 6 + 1)) (heven : 2 ∣ nk) : key.Scheduled ukey where
  rounds := by rw [hrounds, Rijndael.rounds, h.length]
  room := by
    have hroom := h.room
    omega
  even := ⟨nk / 2 + 2, by omega⟩
  rk := by
    have hwords : 4 * (Rijndael.rounds nk + 1) - nk = n := by
      rw [Rijndael.rounds]
      omega
    intro i hi
    rw [schedule, h.length, hwords]
    exact h.rk i (by omega)

theorem rounds_loadKey (userKey : List UInt8) (n : Nat) (key : AES_KEY) : (loadKey userKey n key).rounds = key.rounds := by
  induction n with
  | zero => rfl
  | succ n ih =>
    rw [loadKey, List.range_succ, List.foldl_append, List.foldl_cons, List.foldl_nil, AES_KEY.rounds_put]
    exact ih

@[simp]
theorem rounds_xorWord (n rk : Nat) (key : AES_KEY) : (xorWord n rk key).rounds = key.rounds := rfl

@[simp]
theorem rounds_rconWord (n i rk : Nat) (key : AES_KEY) : (rconWord n i rk key).rounds = key.rounds := rfl

@[simp]
theorem rounds_subWord4 (n rk : Nat) (key : AES_KEY) : (subWord4 n rk key).rounds = key.rounds := rfl

theorem rounds_expand128 (fuel i rk : Nat) (key : AES_KEY) : (expand128 fuel i rk key).rounds = key.rounds := by
  induction fuel generalizing i rk key with
  | zero => rfl
  | succ fuel ih =>
    rw [expand128]
    split
    · simp
    · simp [ih]

theorem rounds_expand192 (fuel i rk : Nat) (key : AES_KEY) : (expand192 fuel i rk key).rounds = key.rounds := by
  induction fuel generalizing i rk key with
  | zero => rfl
  | succ fuel ih =>
    rw [expand192]
    split
    · simp
    · simp [ih]

theorem rounds_expand256 (fuel i rk : Nat) (key : AES_KEY) : (expand256 fuel i rk key).rounds = key.rounds := by
  induction fuel generalizing i rk key with
  | zero => rfl
  | succ fuel ih =>
    rw [expand256]
    split
    · simp
    · simp [ih]

/-- The loops write the schedule of the key that the standard describes. -/
theorem AES_set_encrypt_key_spec (userKey : List UInt8) {bits : Nat} (hbits : aesBits bits) (key : AES_KEY) :
    ∃ ek, AES_set_encrypt_key (some userKey) bits (some key) = .ok ek ∧ ek.Scheduled (keyWords userKey (bits / 32)) := by
  obtain rfl | rfl | rfl := hbits
  · have hkey : AES_set_encrypt_key (some userKey) 128 (some key) =
        .ok (expand128 10 0 0 (loadKey userKey 4 { key with rounds := 10 })) := by simp [AES_set_encrypt_key]
    have hfilled := filled_loadKey userKey { key with rounds := 10 } (n := 4) (by omega) (by omega)
    have hloop := @AES_KEY.Filled.expand128 _ _ 0 9 hfilled rfl
    refine ⟨_, hkey, hloop.scheduled ?_ (by omega) ⟨2, rfl⟩⟩
    rw [rounds_expand128, rounds_loadKey]
  · have hkey : AES_set_encrypt_key (some userKey) 192 (some key) =
        .ok (expand192 8 0 0 (loadKey userKey 6 { key with rounds := 12 })) := by simp [AES_set_encrypt_key]
    have hfilled := filled_loadKey userKey { key with rounds := 12 } (n := 6) (by omega) (by omega)
    have hloop := @AES_KEY.Filled.expand192 _ _ 0 7 hfilled rfl
    refine ⟨_, hkey, hloop.scheduled ?_ (by omega) ⟨3, rfl⟩⟩
    rw [rounds_expand192, rounds_loadKey]
  · have hkey : AES_set_encrypt_key (some userKey) 256 (some key) =
        .ok (expand256 7 0 0 (loadKey userKey 8 { key with rounds := 14 })) := by simp [AES_set_encrypt_key]
    have hfilled := filled_loadKey userKey { key with rounds := 14 } (n := 8) (by omega) (by omega)
    have hloop := @AES_KEY.Filled.expand256 _ _ 0 6 hfilled rfl
    refine ⟨_, hkey, hloop.scheduled ?_ (by omega) ⟨4, rfl⟩⟩
    rw [rounds_expand256, rounds_loadKey]

/-! ## The schedule for decryption -/

/-- Where the word at `x` comes from when `i` and `j` are swapped. -/
def swapped (i j x : Nat) : Nat := if x = j then i else if x = i then j else x

theorem swapped_block (p q m t : Nat) : swapped (4 * p + t) (4 * q + t) (4 * m + t) = 4 * swapped p q m + t := by
  unfold swapped
  split_ifs
  all_goals omega

theorem swapped_of_ne {s t : Nat} (hs : s < 4) (ht : t < 4) (hne : s ≠ t) (p q m : Nat) :
    swapped (4 * p + s) (4 * q + s) (4 * m + t) = 4 * m + t := by
  unfold swapped
  split_ifs
  all_goals omega

theorem rk_swapWords (key : AES_KEY) {i j : Nat} (hi : i < 60) (hj : j < 60) (x : Nat) :
    (swapWords key i j).rk x = key.rk (swapped i j x) := by
  rw [swapWords, AES_KEY.rk_put _ hj, AES_KEY.rk_put _ hi, swapped]
  split
  · rfl
  · split <;> rfl

@[simp]
theorem rounds_swapWords (key : AES_KEY) (i j : Nat) : (swapWords key i j).rounds = key.rounds := rfl

/-- The round keys `p` and `q` swapped. -/
def swapBlock (key : AES_KEY) (p q : Nat) : AES_KEY :=
  swapWords (swapWords (swapWords (swapWords key (4 * p) (4 * q)) (4 * p + 1) (4 * q + 1)) (4 * p + 2) (4 * q + 2))
    (4 * p + 3) (4 * q + 3)

theorem words_swapBlock (key : AES_KEY) {p q : Nat} (hpq : p < q) (hq : 4 * (q + 1) ≤ 60) (m : Nat) :
    (swapBlock key p q).words (4 * m) = key.words (4 * swapped p q m) := by
  have hrk (t : Nat) (ht : t < 4) : (swapBlock key p q).rk (4 * m + t) = key.rk (4 * swapped p q m + t) := by
    rw [swapBlock, rk_swapWords _ (by omega) (by omega), rk_swapWords _ (by omega) (by omega),
      rk_swapWords _ (by omega) (by omega), rk_swapWords _ (by omega) (by omega)]
    congr 1
    have hblock := swapped_block p q
    have hne {s : Nat} (hs : s < 4) (hst : s ≠ t) := swapped_of_ne hs ht hst p q
    -- only the swap of the words at `t` moves a word at `t`
    obtain rfl | rfl | rfl | rfl : t = 0 ∨ t = 1 ∨ t = 2 ∨ t = 3 := by omega
    · rw [hne (by omega) (by omega), hne (by omega) (by omega), hne (by omega) (by omega)]
      exact hblock m 0
    · rw [hne (by omega) (by omega), hne (by omega) (by omega), hblock]
      exact hne (s := 0) (by omega) (by omega) _
    · rw [hne (by omega) (by omega), hblock, hne (by omega) (by omega)]
      exact hne (s := 0) (by omega) (by omega) _
    · rw [hblock, hne (by omega) (by omega), hne (by omega) (by omega)]
      exact hne (s := 0) (by omega) (by omega) _
  simp only [AES_KEY.words]
  rw [← hrk 1 (by omega), ← hrk 2 (by omega), ← hrk 3 (by omega)]
  exact congrArg (fun w => (⟨w, _, _, _⟩ : State)) (hrk 0 (by omega))

theorem rounds_swapBlock (key : AES_KEY) (p q : Nat) : (swapBlock key p q).rounds = key.rounds := by
  simp [swapBlock]

theorem swapRoundKeys_succ (fuel i j : Nat) (key : AES_KEY) :
    swapRoundKeys (fuel + 1) (4 * i) (4 * j) key =
      if i < j then swapRoundKeys fuel (4 * (i + 1)) (4 * (j - 1)) (swapBlock key i j) else key := by
  rw [swapRoundKeys]
  refine if_congr (by omega) ?_ rfl
  rw [Nat.mul_sub, Nat.mul_add]
  rfl

/-- The loop turns the round keys from `i` to `j` around. -/
theorem words_swapRoundKeys (fuel : Nat) {i j : Nat} (hfuel : j ≤ i + 2 * fuel) (key : AES_KEY) (hj : 4 * (j + 1) ≤ 60) (m : Nat) :
    (swapRoundKeys fuel (4 * i) (4 * j) key).words (4 * m) =
      key.words (4 * if i ≤ m ∧ m ≤ j then i + j - m else m) := by
  induction fuel generalizing i j key with
  | zero =>
    rw [swapRoundKeys]
    congr 2
    split
    · omega
    · rfl
  | succ fuel ih =>
    rw [swapRoundKeys_succ]
    split
    · rename_i hlt
      rw [ih (by omega) _ (by omega), words_swapBlock key hlt hj]
      congr 2
      unfold swapped
      split_ifs
      all_goals omega
    · congr 2
      split
      · omega
      · rfl

theorem rounds_swapRoundKeys (fuel i j : Nat) (key : AES_KEY) :
    (swapRoundKeys fuel (4 * i) (4 * j) key).rounds = key.rounds := by
  induction fuel generalizing i j key with
  | zero => rfl
  | succ fuel ih =>
    rw [swapRoundKeys_succ]
    split
    · rw [ih, rounds_swapBlock]
    · rfl

theorem rk_mixWord (key : AES_KEY) {k : Nat} (hk : k < 60) (j : Nat) :
    (mixWord k key).rk j = if j = k then invMix (key.rk j) else key.rk j := by
  rw [mixWord, AES_KEY.rk_put _ hk]
  split
  · rename_i heq
    rw [heq]
  · rfl

/-- The round key `i` transformed. -/
def mixBlock (i : Nat) (key : AES_KEY) : AES_KEY :=
  mixWord (4 * i + 3) (mixWord (4 * i + 2) (mixWord (4 * i + 1) (mixWord (4 * i) key)))

theorem rounds_mixWord (k : Nat) (key : AES_KEY) : (mixWord k key).rounds = key.rounds := rfl

theorem rounds_mixBlock (i : Nat) (key : AES_KEY) : (mixBlock i key).rounds = key.rounds := by
  simp [mixBlock, rounds_mixWord]

theorem rk_mixBlock (key : AES_KEY) {i : Nat} (hi : 4 * (i + 1) ≤ 60) (k : Nat) :
    (mixBlock i key).rk k = if k / 4 = i then invMix (key.rk k) else key.rk k := by
  rw [mixBlock, rk_mixWord _ (by omega), rk_mixWord _ (by omega), rk_mixWord _ (by omega), rk_mixWord _ (by omega)]
  split_ifs
  all_goals first | rfl | omega

theorem words_mixBlock (key : AES_KEY) {i : Nat} (hi : 4 * (i + 1) ≤ 60) (m : Nat) :
    (mixBlock i key).words (4 * m) = if m = i then (key.words (4 * m)).map invMix else key.words (4 * m) := by
  simp only [AES_KEY.words, rk_mixBlock key hi]
  have hdiv : 4 * m / 4 = m ∧ (4 * m + 1) / 4 = m ∧ (4 * m + 2) / 4 = m ∧ (4 * m + 3) / 4 = m := by omega
  rw [hdiv.1, hdiv.2.1, hdiv.2.2.1, hdiv.2.2.2]
  split <;> rfl

theorem mixRoundKeys_succ (fuel i : Nat) (key : AES_KEY) :
    mixRoundKeys (fuel + 1) i key = if i < key.rounds then mixRoundKeys fuel (i + 1) (mixBlock i key) else key := rfl

/-- The loop transforms the round keys from `i` on, but for the last one. -/
theorem words_mixRoundKeys (fuel : Nat) {i : Nat} (key : AES_KEY) (hfuel : key.rounds ≤ i + fuel)
    (hroom : 4 * (key.rounds + 1) ≤ 60) (m : Nat) :
    (mixRoundKeys fuel i key).words (4 * m) =
      if i ≤ m ∧ m < key.rounds then (key.words (4 * m)).map invMix else key.words (4 * m) := by
  induction fuel generalizing i key with
  | zero => rw [mixRoundKeys, if_neg (by omega)]
  | succ fuel ih =>
    rw [mixRoundKeys_succ]
    split
    · rename_i hlt
      rw [ih (mixBlock i key) (by rw [rounds_mixBlock]; omega) hroom, words_mixBlock _ (by omega), rounds_mixBlock]
      split_ifs
      all_goals first | rfl | omega
    · rw [if_neg (by omega)]

theorem rounds_mixRoundKeys (fuel i : Nat) (key : AES_KEY) : (mixRoundKeys fuel i key).rounds = key.rounds := by
  induction fuel generalizing i key with
  | zero => rfl
  | succ fuel ih =>
    rw [mixRoundKeys_succ]
    split
    · rw [ih, rounds_mixBlock]
    · rfl

/-- The key for decryption has the round keys of the one for encryption in the
other order, and those in the middle transformed. -/
theorem AES_set_decrypt_key_eq {userKey : Option (List UInt8)} {bits : Nat} {key : Option AES_KEY} {ek : AES_KEY}
    (h : AES_set_encrypt_key userKey bits key = .ok ek) (hroom : 4 * (ek.rounds + 1) ≤ 60) :
    ∃ dk, AES_set_decrypt_key userKey bits key = .ok dk ∧ dk.rounds = ek.rounds ∧
      ∀ m ≤ ek.rounds, dk.words (4 * m) =
        if 1 ≤ m ∧ m < ek.rounds then (ek.words (4 * (ek.rounds - m))).map mixColumnInv else ek.words (4 * (ek.rounds - m)) := by
  have hrounds : (swapRoundKeys ek.rounds 0 (4 * ek.rounds) ek).rounds = ek.rounds := rounds_swapRoundKeys ek.rounds 0 _ ek
  refine ⟨_, by rw [AES_set_decrypt_key, h]; rfl, ?_, fun m hm => ?_⟩
  · rw [rounds_mixRoundKeys, hrounds]
  · have hswap := words_swapRoundKeys ek.rounds (i := 0) (j := ek.rounds) (by omega) ek hroom m
    rw [Nat.mul_zero, if_pos ⟨Nat.zero_le m, hm⟩, Nat.zero_add] at hswap
    have hmix : invMix = mixColumnInv := funext invMix_eq
    rw [words_mixRoundKeys _ _ (by omega) (by omega), hrounds, hswap, hmix]

end ZCloud
