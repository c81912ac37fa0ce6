import ZCloud.SecEngine.AesTables

open BigEndian Rijndael

namespace ZCloud

/-- `AES_KEY`, with the `4 * (AES_MAXNR + 1)` words of `rd_key`. -/
structure AES_KEY where
  rd_key : Vector UInt32 60
  rounds : Nat

namespace AES_KEY

/-- `rd_key[i]`. -/
def rk (key : AES_KEY) (i : Nat) : UInt32 := key.rd_key[i]?.getD 0

/-- `rd_key[i] = w;` -/
def put (key : AES_KEY) (i : Nat) (w : UInt32) : AES_KEY := { key with rd_key := key.rd_key.setIfInBounds i w }

/-- The four words from `rd_key[i]` on. -/
def words (key : AES_KEY) (i : Nat) : State := ⟨key.rk i, key.rk (i + 1), key.rk (i + 2), key.rk (i + 3)⟩

@[simp]
theorem rounds_put (key : AES_KEY) (i : Nat) (w : UInt32) : (key.put i w).rounds = key.rounds := rfl

theorem rk_put {i : Nat} (key : AES_KEY) (hi : i < 60) (w : UInt32) (j : Nat) :
    (key.put i w).rk j = if j = i then w else key.rk j := by
  unfold rk put
  by_cases h : j = i
  · subst h
    simp [hi]
  · rw [if_neg h]
    simp [Ne.symm h]

end AES_KEY

/-- `GETU32(pt + k)`. -/
def GETU32 (pt : List UInt8) (k : Nat) : UInt32 :=
  (pt.getD k 0).toUInt32 <<< 24 ^^^ (pt.getD (k + 1) 0).toUInt32 <<< 16 ^^^
    (pt.getD (k + 2) 0).toUInt32 <<< 8 ^^^ (pt.getD (k + 3) 0).toUInt32

/-- The bytes that `PUTU32` writes. -/
def PUTU32 (st : UInt32) : List UInt8 := bytes st

def rcon : Vector UInt32 10 := #v[
  0x01000000, 0x02000000, 0x04000000, 0x08000000, 0x10000000, 0x20000000, 0x40000000, 0x80000000,
  0x1B000000, 0x36000000]

/-- `(Te4[b0] & 0xff000000) ^ (Te4[b1] & 0x00ff0000) ^ (Te4[b2] & 0x0000ff00) ^ (Te4[b3] & 0x000000ff)`,
and the same for `Td4`. -/
def lastColumn (T4 : Table) (b0 b1 b2 b3 : UInt8) : UInt32 :=
  (T4[b0] &&& 0xff000000) ^^^ (T4[b1] &&& 0x00ff0000) ^^^ (T4[b2] &&& 0x0000ff00) ^^^ (T4[b3] &&& 0x000000ff)

/-- `rk[n] = rk[0] ^ rk[n - 1];` -/
def xorWord (n rk : Nat) (key : AES_KEY) : AES_KEY :=
  key.put (rk + n) (key.rk rk ^^^ key.rk (rk + n - 1))

/-- `temp = rk[n - 1]; rk[n] = rk[0] ^ .. ^ rcon[i];` -/
def rconWord (n i rk : Nat) (key : AES_KEY) : AES_KEY :=
  let temp := key.rk (rk + n - 1)
  key.put (rk + n)
    (key.rk rk ^^^ lastColumn Te4 (byte temp 1) (byte temp 2) (byte temp 3) (byte temp 0) ^^^ rcon[i]?.getD 0)

/-- `temp = rk[n - 1]; rk[n] = rk[0] ^ ..;` -/
def subWord4 (n rk : Nat) (key : AES_KEY) : AES_KEY :=
  let temp := key.rk (rk + n - 1)
  key.put (rk + n) (key.rk rk ^^^ lastColumn Te4 (byte temp 0) (byte temp 1) (byte temp 2) (byte temp 3))

/-- The loop for keys of 128 bits, which ends when `i` is 10. -/
def expand128 : (fuel i rk : Nat) → AES_KEY → AES_KEY
  | 0, _, _, key => key
  | fuel + 1, i, rk, key =>
    let key := rconWord 4 i rk key
    let key := xorWord 4 (rk + 1) key
    let key := xorWord 4 (rk + 2) key
    let key := xorWord 4 (rk + 3) key
    if i + 1 = 10 then key else expand128 fuel (i + 1) (rk + 4) key

/-- The loop for keys of 192 bits, which ends in the middle when `i` is 8. -/
def expand192 : (fuel i rk : Nat) → AES_KEY → AES_KEY
  | 0, _, _, key => key
  | fuel + 1, i, rk, key =>
    let key := rconWord 6 i rk key
    let key := xorWord 6 (rk + 1) key
    let key := xorWord 6 (rk + 2) key
    let key := xorWord 6 (rk + 3) key
    if i + 1 = 8 then key
    else
      let key := xorWord 6 (rk + 4) key
      let key := xorWord 6 (rk + 5) key
      expand192 fuel (i + 1) (rk + 6) key

/-- The loop for keys of 256 bits, which ends in the middle when `i` is 7. -/
def expand256 : (fuel i rk : Nat) → AES_KEY → AES_KEY
  | 0, _, _, key => key
  | fuel + 1, i, rk, key =>
    let key := rconWord 8 i rk key
    let key := xorWord 8 (rk + 1) key
    let key := xorWord 8 (rk + 2) key
    let key := xorWord 8 (rk + 3) key
    if i + 1 = 7 then key
    else
      let key := subWord4 8 (rk + 4) key
      let key := xorWord 8 (rk + 5) key
      let key := xorWord 8 (rk + 6) key
      let key := xorWord 8 (rk + 7) key
      expand256 fuel (i + 1) (rk + 8) key

/-- `rk[k] = GETU32(userKey + 4 * k);` for the first `n` words. -/
def loadKey (userKey : List UInt8) (n : Nat) (key : AES_KEY) : AES_KEY :=
  (List.range n).foldl (fun key k => key.put k (GETU32 userKey (4 * k))) key

/-- The key schedule for encryption, or the status when there is none. -/
def AES_set_encrypt_key (userKey : Option (List UInt8)) (bits : Nat) (key : Option AES_KEY) : Except Int AES_KEY :=
  match userKey, key with
  | some userKey, some key =>
    if bits ≠ 128 ∧ bits ≠ 192 ∧ bits ≠ 256 then .error (-2)
    else
      let key := { key with rounds := if bits = 128 then 10 else if bits = 192 then 12 else 14 }
      if bits = 128 then .ok (expand128 10 0 0 (loadKey userKey 4 key))
      else if bits = 192 then .ok (expand192 8 0 0 (loadKey userKey 6 key))
      else .ok (expand256 7 0 0 (loadKey userKey 8 key))
  | _, _ => .error (-1)

/-- `temp = rk[i]; rk[i] = rk[j]; rk[j] = temp;` -/
def swapWords (key : AES_KEY) (i j : Nat) : AES_KEY := (key.put i (key.rk j)).put j (key.rk i)

/-- The loop that inverts the order of the round keys. -/
def swapRoundKeys : (fuel i j : Nat) → AES_KEY → AES_KEY
  | 0, _, _, key => key
  | fuel + 1, i, j, key =>
    if i < j then
      let key := swapWords key i j
      let key := swapWords key (i + 1) (j + 1)
      let key := swapWords key (i + 2) (j + 2)
      let key := swapWords key (i + 3) (j + 3)
      swapRoundKeys fuel (i + 4) (j - 4) key
    else key

/-- The inverse transform of a column of a round key. -/
def invMix (w : UInt32) : UInt32 :=
  Td0[byte Te4[byte w 0] 3] ^^^ Td1[byte Te4[byte w 1] 3] ^^^ Td2[byte Te4[byte w 2] 3] ^^^ Td3[byte Te4[byte w 3] 3]

/-- `rk[k] = Td0[Te4[rk[k] >> 24] & 0xff] ^ ..;` -/
def mixWord (k : Nat) (key : AES_KEY) : AES_KEY := key.put k (invMix (key.rk k))

/-- The loop that transforms the round keys from round `i` on. -/
def mixRoundKeys : (fuel i : Nat) → AES_KEY → AES_KEY
  | 0, _, key => key
  | fuel + 1, i, key =>
    if i < key.rounds then
      let rk := 4 * i
      let key := mixWord rk key
      let key := mixWord (rk + 1) key
      let key := mixWord (rk + 2) key
      let key := mixWord (rk + 3) key
      mixRoundKeys fuel (i + 1) key
    else key

/-- The key schedule for decryption, or the status when there is none. -/
def AES_set_decrypt_key (userKey : Option (List UInt8)) (bits : Nat) (key : Option AES_KEY) : Except Int AES_KEY := do
  let key ← AES_set_encrypt_key userKey bits key
  let key := swapRoundKeys key.rounds 0 (4 * key.rounds) key
  return mixRoundKeys key.rounds 1 key

/-- A round of `AES_encrypt`, with the round key `k`. -/
def encryptRound (s k : State) : State where
  s0 := Te0[byte s.s0 0] ^^^ Te1[byte s.s1 1] ^^^ Te2[byte s.s2 2] ^^^ Te3[byte s.s3 3] ^^^ k.s0
  s1 := Te0[byte s.s1 0] ^^^ Te1[byte s.s2 1] ^^^ Te2[byte s.s3 2] ^^^ Te3[byte s.s0 3] ^^^ k.s1
  s2 := Te0[byte s.s2 0] ^^^ Te1[byte s.s3 1] ^^^ Te2[byte s.s0 2] ^^^ Te3[byte s.s1 3] ^^^ k.s2
  s3 := Te0[byte s.s3 0] ^^^ Te1[byte s.s0 1] ^^^ Te2[byte s.s1 2] ^^^ Te3[byte s.s2 3] ^^^ k.s3

def encryptLast (t k : State) : State where
  s0 := lastColumn Te4 (byte t.s0 0) (byte t.s1 1) (byte t.s2 2) (byte t.s3 3) ^^^ k.s0
  s1 := lastColumn Te4 (byte t.s1 0) (byte t.s2 1) (byte t.s3 2) (byte t.s0 3) ^^^ k.s1
  s2 := lastColumn Te4 (byte t.s2 0) (byte t.s3 1) (byte t.s0 2) (byte t.s1 3) ^^^ k.s2
  s3 := lastColumn Te4 (byte t.s3 0) (byte t.s0 1) (byte t.s1 2) (byte t.s2 3) ^^^ k.s3

/-- A round of `AES_decrypt`, with the round key `k`. -/
def decryptRound (s k : State) : State where
  s0 := Td0[byte s.s0 0] ^^^ Td1[byte s.s3 1] ^^^ Td2[byte s.s2 2] ^^^ Td3[byte s.s1 3] ^^^ k.s0
  s1 := Td0[byte s.s1 0] ^^^ Td1[byte s.s0 1] ^^^ Td2[byte s.s3 2] ^^^ Td3[byte s.s2 3] ^^^ k.s1
  s2 := Td0[byte s.s2 0] ^^^ Td1[byte s.s1 1] ^^^ Td2[byte s.s0 2] ^^^ Td3[byte s.s3 3] ^^^ k.s2
  s3 := Td0[byte s.s3 0] ^^^ Td1[byte s.s2 1] ^^^ Td2[byte s.s1 2] ^^^ Td3[byte s.s0 3] ^^^ k.s3

def decryptLast (t k : State) : State where
  s0 := lastColumn Td4 (byte t.s0 0) (byte t.s3 1) (byte t.s2 2) (byte t.s1 3) ^^^ k.s0
  s1 := lastColumn Td4 (byte t.s1 0) (byte t.s0 1) (byte t.s3 2) (byte t.s2 3) ^^^ k.s1
  s2 := lastColumn Td4 (byte t.s2 0) (byte t.s1 1) (byte t.s0 2) (byte t.s3 3) ^^^ k.s2
  s3 := lastColumn Td4 (byte t.s3 0) (byte t.s2 1) (byte t.s1 2) (byte t.s0 3) ^^^ k.s3

/-- The loop over the full rounds, two at a time but for the last one, and where
it leaves `rk`. -/
def fullRounds (round : State → State → State) (key : AES_KEY) : (r rk : Nat) → State → State × Nat
  | 0, rk, s => (s, rk)
  | r + 1, rk, s =>
    let t := round s (key.words (rk + 4))
    let rk := rk + 8
    if r = 0 then (t, rk) else fullRounds round key r rk (round t (key.words rk))

/-- The state in the bytes of a block. -/
def getBlock (pt : List UInt8) : State := ⟨GETU32 pt 0, GETU32 pt 4, GETU32 pt 8, GETU32 pt 12⟩

def putBlock (s : State) : List UInt8 := PUTU32 s.s0 ++ PUTU32 s.s1 ++ PUTU32 s.s2 ++ PUTU32 s.s3

/-- What `AES_encrypt` writes to `out`, which may overlap `input`. -/
def AES_encrypt (input : List UInt8) (key : AES_KEY) : List UInt8 :=
  let s := (getBlock input).add (key.words 0)
  let (t, rk) := fullRounds encryptRound key (key.rounds / 2) 0 s
  putBlock (encryptLast t (key.words rk))

/-- What `AES_decrypt` writes to `out`, which may overlap `input`. -/
def AES_decrypt (input : List UInt8) (key : AES_KEY) : List UInt8 :=
  let s := (getBlock input).add (key.words 0)
  let (t, rk) := fullRounds decryptRound key (key.rounds / 2) 0 s
  putBlock (decryptLast t (key.words rk))

/-! ## The tables do the steps of a round at once -/

theorem lastColumn_eq {T4 : Table} {f : UInt8 → UInt8} (h : ∀ a : UInt8, T4[a] = splat (f a)) (a b c d : UInt8) :
    lastColumn T4 a b c d = ofBytes (f a) (f b) (f c) (f d) := by
  have hfirst : (0xff000000 : UInt32) = ofBytes 0xff 0 0 0 := by decide
  have hsecond : (0x00ff0000 : UInt32) = ofBytes 0 0xff 0 0 := by decide
  have hthird : (0x0000ff00 : UInt32) = ofBytes 0 0 0xff 0 := by decide
  have hfourth : (0x000000ff : UInt32) = ofBytes 0 0 0 0xff := by decide
  have hfull (x : UInt8) : x &&& 0xff = x := UInt8.and_neg_one
  simp only [lastColumn, h, splat, hfirst, hsecond, hthird, hfourth, ofBytes_and, ofBytes_xor, hfull,
    UInt8.and_zero, UInt8.xor_zero, UInt8.zero_xor]

theorem encryptColumn_eq (a b c d : UInt8) :
    Te0[a] ^^^ Te1[b] ^^^ Te2[c] ^^^ Te3[d] = mixColumn (ofBytes (S a) (S b) (S c) (S d)) := by
  simp [Te0_entry, Te1_entry, Te2_entry, Te3_entry, Te4_entry, products_splat, ofBytes_xor, mul_by_one, mixColumn]

theorem decryptColumn_eq (a b c d : UInt8) :
    Td0[a] ^^^ Td1[b] ^^^ Td2[c] ^^^ Td3[d] = mixColumnInv (ofBytes (Si a) (Si b) (Si c) (Si d)) := by
  simp [Td0_entry, Td1_entry, Td2_entry, Td3_entry, Td4_entry, products_splat, ofBytes_xor, mixColumnInv]

theorem encryptRound_eq (s k : State) : encryptRound s k = (spn box).round s k := by
  simp only [encryptRound, encryptColumn_eq]
  simp [Spn.round, spn, State.add, State.map, State.shiftRows, subWord, mapBytes, box]

theorem encryptLast_eq (s k : State) : encryptLast s k = (spn box).lastRound s k := by
  simp only [encryptLast, lastColumn_eq Te4_entry]
  simp [Spn.lastRound, spn, State.add, State.map, State.shiftRows, subWord, mapBytes, box]

theorem decryptRound_eq (s k : State) : decryptRound s k = (spn box).invRound s k := by
  simp only [decryptRound, decryptColumn_eq]
  simp [Spn.invRound, spn, State.add, State.map, State.shiftRowsInv, subWordInv, mapBytes, box]

theorem decryptLast_eq (s k : State) : decryptLast s k = (spn box).invLastRound s k := by
  simp only [decryptLast, lastColumn_eq Td4_entry]
  simp [Spn.invLastRound, spn, State.add, State.map, State.shiftRowsInv, subWordInv, mapBytes, box]

theorem invMix_eq (w : UInt32) : invMix w = mixColumnInv w := by
  simp only [invMix, decryptColumn_eq]
  simp [Te4_entry, splat, Si_S]

/-! ## The rounds -/

/-- The loop over the full rounds goes through the round keys in order. -/
theorem fullRounds_eq (round : State → State → State) (key : AES_KEY) (r rk : Nat) (s : State) :
    fullRounds round key (r + 1) rk s =
      (((List.range' 1 (2 * r + 1)).map fun i => key.words (rk + 4 * i)).foldl round s, rk + 8 * (r + 1)) := by
  induction r generalizing rk s with
  | zero => rfl
  | succ r ih =>
    have hrange : List.range' 1 (2 * (r + 1) + 1) = 1 :: 2 :: List.range' 3 (2 * r + 1) := rfl
    have hkeys : (List.range' 3 (2 * r + 1)).map (fun i => key.words (rk + 4 * i)) =
        (List.range' 1 (2 * r + 1)).map fun i => key.words (rk + 8 + 4 * i) := by
      have hshift : List.range' 3 (2 * r + 1) = (List.range' 1 (2 * r + 1)).map (2 + ·) :=
        (@List.map_add_range' 2 1 (2 * r + 1) 1).symm
      rw [hshift, List.map_map]
      refine List.map_congr_left fun i _ => congrArg key.words ?_
      dsimp only [Function.comp]
      omega
    rw [fullRounds, if_neg (Nat.succ_ne_zero r), ih, hrange, List.map_cons, List.map_cons, List.foldl_cons, List.foldl_cons,
      hkeys]
    congr 1
    omega

end ZCloud
