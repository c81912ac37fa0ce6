import ZCloud.Lib.BigEndian
import ZCloud.Lib.Spn
import Mathlib.Logic.Function.Iterate
import Mathlib.Data.Nat.Bitwise

/-! The block cipher Rijndael for blocks of four words, as its standard states
it: bytes are elements of a field with 256 elements, and the columns of the
state are words. -/

open BigEndian

namespace Rijndael

/-- The product of a polynomial over the bits with `x`, reduced. -/
def xtime (a : Nat) : Nat := (a <<< 1) ^^^ bif a.testBit 7 then 0x11b else 0

/-- The product with the last `n` bits of `a`. -/
def mulBits : (n : Nat) → Nat → Nat → Nat
  | 0, _, _ => 0
  | n + 1, a, b => (bif a.testBit 0 then b else 0) ^^^ mulBits n (a / 2) (xtime b)

/-- The product in the field of bytes. -/
def mul (a b : UInt8) : UInt8 := UInt8.ofNat (mulBits 8 a.toNat b.toNat)

/-- `b` is the inverse of `a` in the field, and 0 for 0. -/
def IsInverse (a b : UInt8) : Prop := if a = 0 then b = 0 else mul a b = 1

instance (a b : UInt8) : Decidable (IsInverse a b) := inferInstanceAs (Decidable (ite _ _ _))

/-- The bits of `a`, `n` places further up, and around. -/
def rotate (a n : UInt8) : UInt8 := (a <<< n) ||| (a >>> (8 - n))

def affine (a : UInt8) : UInt8 := a ^^^ rotate a 1 ^^^ rotate a 2 ^^^ rotate a 3 ^^^ rotate a 4 ^^^ 0x63

/-- The substitution of bytes, which takes the inverse in the field and an affine
map of it, and the substitution that undoes it. -/
structure SBox where
  sub : UInt8 → UInt8
  subInv : UInt8 → UInt8
  sub_eq : ∀ a, ∃ b, IsInverse a b ∧ sub a = affine b
  subInv_sub : ∀ a, subInv (sub a) = a

theorem forall_byte {p : UInt8 → Prop} (h : ∀ n < 256, p (UInt8.ofNat n)) (a : UInt8) : p a := by
  have hbyte := h a.toNat a.toNat_lt
  rwa [UInt8.ofNat_toNat] at hbyte

theorem xtime_xor (a b : Nat) : xtime (a ^^^ b) = xtime a ^^^ xtime b := by
  have hcond (p q : Bool) : (bif p ^^ q then 0x11b else 0) = (bif p then 0x11b else 0) ^^^ bif q then 0x11b else 0 := by
    cases p <;> cases q <;> rfl
  rw [xtime, Nat.shiftLeft_xor_distrib, Nat.testBit_xor, hcond, xtime, xtime]
  ac_rfl

theorem mulBits_xor (n a b c : Nat) : mulBits n a (b ^^^ c) = mulBits n a b ^^^ mulBits n a c := by
  induction n generalizing a b c with
  | zero => simp [mulBits]
  | succ n ih =>
    rw [mulBits, xtime_xor, ih, mulBits, mulBits]
    cases a.testBit 0
    · simp
    · simp only [cond_true]
      ac_rfl

/-- A product is linear in its second factor. -/
theorem mul_xor (a b c : UInt8) : mul a (b ^^^ c) = mul a b ^^^ mul a c := by
  rw [mul, UInt8.toNat_xor, mulBits_xor, UInt8.ofNat_xor, mul, mul]

/-! ## Linear maps -/

/-- The powers of `x`. -/
def powers : List UInt8 := (List.range 8).map fun i => UInt8.ofNat (2 ^ i)

/-- A byte is the sum of its bits. -/
theorem foldr_powers (a : UInt8) : powers.foldr (fun k sum => (a &&& k) ^^^ sum) 0 = a := by
  apply forall_byte (p := fun a => powers.foldr (fun k sum => (a &&& k) ^^^ sum) 0 = a)
  decide +kernel

theorem and_power (a : UInt8) {k : UInt8} (hk : k ∈ powers) : a &&& k = 0 ∨ a &&& k = k := by
  obtain ⟨i, hi, rfl⟩ := List.mem_map.mp hk
  have hpow : (UInt8.ofNat (2 ^ i)).toNat = 2 ^ i := by
    rw [UInt8.toNat_ofNat']
    exact Nat.mod_eq_of_lt (Nat.pow_lt_pow_right (by omega) (List.mem_range.mp hi))
  have hand : (a &&& UInt8.ofNat (2 ^ i)).toNat = (a.toNat.testBit i).toNat * 2 ^ i := by
    rw [UInt8.toNat_and, hpow, Nat.and_two_pow]
  cases hbit : a.toNat.testBit i with
  | false =>
    left
    apply UInt8.toNat_inj.mp
    rw [hand, hbit]
    simp
  | true =>
    right
    apply UInt8.toNat_inj.mp
    rw [hand, hbit, hpow]
    simp

def Linear (f : UInt8 → UInt8) : Prop := ∀ a b, f (a ^^^ b) = f a ^^^ f b

namespace Linear

variable {f g : UInt8 → UInt8}

theorem zero (hf : Linear f) : f 0 = 0 := by
  have h := hf 0 0
  rwa [UInt8.xor_self, UInt8.xor_self] at h

theorem id : Linear fun a => a := fun _ _ => rfl

theorem const_zero : Linear fun _ => 0 := fun _ _ => UInt8.xor_self.symm

theorem mul (c : UInt8) : Linear (Rijndael.mul c) := mul_xor c

theorem comp (hf : Linear f) (hg : Linear g) : Linear fun a => f (g a) := by
  intro a b
  dsimp only
  rw [hg, hf]

theorem add (hf : Linear f) (hg : Linear g) : Linear fun a => f a ^^^ g a := by
  intro a b
  dsimp only
  rw [hf, hg]
  ac_rfl

/-- A linear map is given by what it does to the powers of `x`. -/
theorem ext (hf : Linear f) (hg : Linear g) (h : ∀ k ∈ powers, f k = g k) (a : UInt8) : f a = g a := by
  have hsum (ks : List UInt8) (hks : ∀ k ∈ ks, k ∈ powers) :
      f (ks.foldr (fun k sum => (a &&& k) ^^^ sum) 0) = g (ks.foldr (fun k sum => (a &&& k) ^^^ sum) 0) := by
    induction ks with
    | nil => rw [List.foldr_nil, hf.zero, hg.zero]
    | cons k ks ih =>
      have hk := hks k List.mem_cons_self
      rw [List.foldr_cons, hf, hg, ih fun k' hk' => hks k' (List.mem_cons_of_mem k hk')]
      obtain hzero | hone := and_power a hk
      · rw [hzero, hf.zero, hg.zero]
      · rw [hone, h k hk]
  have hpowers := hsum powers fun k hk => hk
  rwa [foldr_powers] at hpowers

end Linear

theorem mul_by_one (a : UInt8) : mul 1 a = a := (Linear.mul 1).ext .id (by decide +kernel) a

/-! ## Columns -/

/-- `f` applied to each byte of a column. -/
def mapBytes (f : UInt8 → UInt8) (w : UInt32) : UInt32 :=
  ofBytes (f (byte w 0)) (f (byte w 1)) (f (byte w 2)) (f (byte w 3))

def subWord (b : SBox) : UInt32 → UInt32 := mapBytes b.sub

def subWordInv (b : SBox) : UInt32 → UInt32 := mapBytes b.subInv

def rotWord (w : UInt32) : UInt32 := ofBytes (byte w 1) (byte w 2) (byte w 3) (byte w 0)

/-- The product of a column with the polynomial `3x³ + x² + x + 2`. -/
def mixColumn (w : UInt32) : UInt32 :=
  let (a, b, c, d) := (byte w 0, byte w 1, byte w 2, byte w 3)
  ofBytes (mul 2 a ^^^ mul 3 b ^^^ c ^^^ d) (a ^^^ mul 2 b ^^^ mul 3 c ^^^ d)
    (a ^^^ b ^^^ mul 2 c ^^^ mul 3 d) (mul 3 a ^^^ b ^^^ c ^^^ mul 2 d)

/-- The product of a column with the polynomial `11x³ + 13x² + 9x + 14`. -/
def mixColumnInv (w : UInt32) : UInt32 :=
  let (a, b, c, d) := (byte w 0, byte w 1, byte w 2, byte w 3)
  ofBytes (mul 14 a ^^^ mul 11 b ^^^ mul 13 c ^^^ mul 9 d) (mul 9 a ^^^ mul 14 b ^^^ mul 11 c ^^^ mul 13 d)
    (mul 13 a ^^^ mul 9 b ^^^ mul 14 c ^^^ mul 11 d) (mul 11 a ^^^ mul 13 b ^^^ mul 9 c ^^^ mul 14 d)

theorem mixColumnInv_xor (v w : UInt32) : mixColumnInv (v ^^^ w) = mixColumnInv v ^^^ mixColumnInv w := by
  simp only [mixColumnInv, byte_xor, mul_xor, ofBytes_xor]
  congr 1
  all_goals ac_rfl

/-- The first row of the product of the two polynomials. -/
theorem mix_row (a b c d : UInt8) :
    mul 14 (mul 2 a ^^^ mul 3 b ^^^ c ^^^ d) ^^^ mul 11 (a ^^^ mul 2 b ^^^ mul 3 c ^^^ d) ^^^
      mul 13 (a ^^^ b ^^^ mul 2 c ^^^ mul 3 d) ^^^ mul 9 (mul 3 a ^^^ b ^^^ c ^^^ mul 2 d) = a := by
  have hcheck (p q r s p' q' r' s' : UInt8) :
      Linear fun a => mul p (mul p' a) ^^^ mul q (mul q' a) ^^^ mul r (mul r' a) ^^^ mul s (mul s' a) :=
    ((((Linear.mul p).comp (.mul p')).add ((Linear.mul q).comp (.mul q'))).add ((Linear.mul r).comp (.mul r'))).add
      ((Linear.mul s).comp (.mul s'))
  have hone := (hcheck 14 11 13 9 2 1 1 3).ext .id (by decide +kernel) a
  have htwo := (hcheck 14 11 13 9 3 2 1 1).ext .const_zero (by decide +kernel) b
  have hthree := (hcheck 14 11 13 9 1 3 2 1).ext .const_zero (by decide +kernel) c
  have hfour := (hcheck 14 11 13 9 1 1 3 2).ext .const_zero (by decide +kernel) d
  simp only [mul_by_one] at hone htwo hthree hfour
  calc
    _ = (mul 14 (mul 2 a) ^^^ mul 11 a ^^^ mul 13 a ^^^ mul 9 (mul 3 a)) ^^^
        (mul 14 (mul 3 b) ^^^ mul 11 (mul 2 b) ^^^ mul 13 b ^^^ mul 9 b) ^^^
        (mul 14 c ^^^ mul 11 (mul 3 c) ^^^ mul 13 (mul 2 c) ^^^ mul 9 c) ^^^
        (mul 14 d ^^^ mul 11 d ^^^ mul 13 (mul 3 d) ^^^ mul 9 (mul 2 d)) := by
      simp only [mul_xor]
      ac_rfl
    _ = a := by rw [hone, htwo, hthree, hfour, UInt8.xor_zero, UInt8.xor_zero, UInt8.xor_zero]

theorem mixColumnInv_mixColumn (w : UInt32) : mixColumnInv (mixColumn w) = w := by
  refine (eq_ofBytes_iff.mpr ⟨?_, ?_, ?_, ?_⟩).trans (ofBytes_byte w)
  all_goals simp only [mixColumnInv, mixColumn, byte_ofBytes_zero, byte_ofBytes_one, byte_ofBytes_two, byte_ofBytes_three]
  -- the other rows are the first one, with the bytes in another order
  · exact mix_row ..
  · refine Eq.trans ?_ (mix_row (byte w 1) (byte w 2) (byte w 3) (byte w 0))
    ac_rfl
  · refine Eq.trans ?_ (mix_row (byte w 2) (byte w 3) (byte w 0) (byte w 1))
    ac_rfl
  · refine Eq.trans ?_ (mix_row (byte w 3) (byte w 0) (byte w 1) (byte w 2))
    ac_rfl

/-! ## The state and the rounds -/

/-- The state, as four columns. -/
@[ext]
structure State where
  s0 : UInt32
  s1 : UInt32
  s2 : UInt32
  s3 : UInt32
deriving DecidableEq

namespace State

def map (f : UInt32 → UInt32) (s : State) : State := ⟨f s.s0, f s.s1, f s.s2, f s.s3⟩

def add (s k : State) : State := ⟨s.s0 ^^^ k.s0, s.s1 ^^^ k.s1, s.s2 ^^^ k.s2, s.s3 ^^^ k.s3⟩

/-- Row `i` of the state moves `i` places to the left. -/
def shiftRows (s : State) : State where
  s0 := ofBytes (byte s.s0 0) (byte s.s1 1) (byte s.s2 2) (byte s.s3 3)
  s1 := ofBytes (byte s.s1 0) (byte s.s2 1) (byte s.s3 2) (byte s.s0 3)
  s2 := ofBytes (byte s.s2 0) (byte s.s3 1) (byte s.s0 2) (byte s.s1 3)
  s3 := ofBytes (byte s.s3 0) (byte s.s0 1) (byte s.s1 2) (byte s.s2 3)

def shiftRowsInv (s : State) : State where
  s0 := ofBytes (byte s.s0 0) (byte s.s3 1) (byte s.s2 2) (byte s.s1 3)
  s1 := ofBytes (byte s.s1 0) (byte s.s0 1) (byte s.s3 2) (byte s.s2 3)
  s2 := ofBytes (byte s.s2 0) (byte s.s1 1) (byte s.s0 2) (byte s.s3 3)
  s3 := ofBytes (byte s.s3 0) (byte s.s2 1) (byte s.s1 2) (byte s.s0 3)

theorem add_add_cancel (s k : State) : (s.add k).add k = s := by
  simp only [add, UInt32.xor_assoc, UInt32.xor_self, UInt32.xor_zero]

theorem map_map_cancel {f g : UInt32 → UInt32} (h : ∀ w, g (f w) = w) (s : State) : (s.map f).map g = s := by
  simp [map, h]

theorem map_add {f : UInt32 → UInt32} (h : ∀ v w, f (v ^^^ w) = f v ^^^ f w) (s k : State) :
    (s.add k).map f = (s.map f).add (k.map f) := by
  simp [map, add, h]

theorem shiftRowsInv_shiftRows (s : State) : s.shiftRows.shiftRowsInv = s := by
  simp [shiftRows, shiftRowsInv]

theorem shiftRowsInv_mapBytes (f : UInt8 → UInt8) (s : State) :
    (s.map (mapBytes f)).shiftRowsInv = s.shiftRowsInv.map (mapBytes f) := by
  simp [map, mapBytes, shiftRowsInv]

end State

theorem mapBytes_cancel {f g : UInt8 → UInt8} (h : ∀ a, g (f a) = a) (w : UInt32) : mapBytes g (mapBytes f w) = w := by
  simp [mapBytes, h]

section

variable (b : SBox)

/-- The rounds of the cipher. -/
def spn : Spn State where
  add := State.add
  sub := State.map (subWord b)
  subInv := State.map (subWordInv b)
  perm := State.shiftRows
  permInv := State.shiftRowsInv
  mix := State.map mixColumn
  mixInv := State.map mixColumnInv
  add_add_cancel := State.add_add_cancel
  subInv_sub := State.map_map_cancel (mapBytes_cancel b.subInv_sub)
  permInv_perm := State.shiftRowsInv_shiftRows
  mixInv_mix := State.map_map_cancel mixColumnInv_mixColumn
  mixInv_add := State.map_add mixColumnInv_xor
  permInv_subInv := State.shiftRowsInv_mapBytes b.subInv

/-! ## The key schedule -/

/-- The constant of round `i` of the key schedule, the power `i - 1` of `x`. -/
def rcon (i : Nat) : UInt32 := ofBytes (UInt8.ofNat (xtime^[i - 1] 1)) 0 0 0

/-- The word that follows the words of a key schedule for a key of `nk` words. -/
def nextWord (nk : Nat) (words : List UInt32) : UInt32 :=
  let temp := words.getLastD 0
  let i := words.length
  words.getD (i - nk) 0 ^^^
    if i % nk = 0 then subWord b (rotWord temp) ^^^ rcon (i / nk)
    else if 6 < nk ∧ i % nk = 4 then subWord b temp
    else temp

/-- The key schedule, `n` words after those of the key. -/
def expand (key : List UInt32) : (n : Nat) → List UInt32
  | 0 => key
  | n + 1 =>
    let words := expand key n
    words ++ [nextWord b key.length words]

/-- How many rounds there are for a key of `nk` words. -/
def rounds (nk : Nat) : Nat := nk + 6

/-- The key of a round. -/
def roundKey (words : List UInt32) (i : Nat) : State :=
  ⟨words.getD (4 * i) 0, words.getD (4 * i + 1) 0, words.getD (4 * i + 2) 0, words.getD (4 * i + 3) 0⟩

/-- The keys of the rounds between the first and the last one. -/
def innerKeys (words : List UInt32) (nr : Nat) : List State := (List.range' 1 (nr - 1)).map (roundKey words)

/-- All words of the key schedule. -/
def schedule (key : List UInt32) : List UInt32 := expand b key (4 * (rounds key.length + 1) - key.length)

def encrypt (key : List UInt32) (s : State) : State :=
  let nr := rounds key.length
  let words := schedule b key
  (spn b).encrypt (roundKey words 0) (innerKeys words nr) (roundKey words nr) s

def decrypt (key : List UInt32) (s : State) : State :=
  let nr := rounds key.length
  let words := schedule b key
  (spn b).decrypt (roundKey words 0) (innerKeys words nr) (roundKey words nr) s

theorem decrypt_encrypt (key : List UInt32) (s : State) : decrypt b key (encrypt b key s) = s :=
  (spn b).decrypt_encrypt ..

end

end Rijndael
