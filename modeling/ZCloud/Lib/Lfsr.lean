import Mathlib.Algebra.Ring.Nat
import Mathlib.Logic.Function.Iterate

/-! Division of a string of bits by a polynomial over the field of two elements,
in a register of `w` bits. The coefficient of the highest power stands in the
highest bit, and comes first in the string. -/

namespace Lfsr

variable {w : Nat} (poly : BitVec w)

/-- Multiplies the remainder in the register by the unknown. -/
def shift (c : BitVec w) : BitVec w := if c.msb then c <<< 1 ^^^ poly else c <<< 1

/-- Brings one more bit into the register. -/
def feed (c : BitVec w) (b : Bool) : BitVec w := if b then shift poly c ^^^ poly else shift poly c

/-- The register whose highest bits are `bits`. -/
def top : List Bool → BitVec w
  | [] => 0#w
  | b :: bits => (if b then BitVec.twoPow w (w - 1) else 0#w) ^^^ top bits >>> 1

private theorem xor_cancel (x y : BitVec w) : x ^^^ poly ^^^ (y ^^^ poly) = x ^^^ y := by
  rw [BitVec.xor_comm y, BitVec.xor_assoc, ← BitVec.xor_assoc poly, BitVec.xor_self, BitVec.zero_xor]

theorem shift_xor (a b : BitVec w) : shift poly (a ^^^ b) = shift poly a ^^^ shift poly b := by
  unfold shift
  rw [BitVec.msb_xor, BitVec.shiftLeft_xor_distrib]
  cases a.msb <;> cases b.msb
  · rfl
  · exact BitVec.xor_assoc _ _ _
  · simp only [Bool.xor_false, if_true, Bool.false_eq_true, if_false]
    rw [BitVec.xor_assoc, BitVec.xor_assoc, BitVec.xor_comm poly]
  · exact (xor_cancel poly _ _).symm

@[simp]
theorem shift_zero : shift poly 0#w = 0#w := by simp [shift]

theorem iterate_shift_xor (n : Nat) (a b : BitVec w) :
    (shift poly)^[n] (a ^^^ b) = (shift poly)^[n] a ^^^ (shift poly)^[n] b := by
  induction n generalizing a b with
  | zero => rfl
  | succ n ih => rw [Function.iterate_succ_apply, Function.iterate_succ_apply, Function.iterate_succ_apply, shift_xor, ih]

/-- A polynomial with a constant term divides no multiple of the unknown that is
not a multiple of it already. -/
theorem shift_ne_zero (hodd : poly.getLsbD 0 = true) {c : BitVec w} (hc : c ≠ 0#w) :
    shift poly c ≠ 0#w := by
  intro hzero
  cases hmsb : c.msb with
  | true =>
    rw [shift, if_pos hmsb] at hzero
    have hbit := congrArg (BitVec.getLsbD · 0) hzero
    simp [hodd] at hbit
  | false =>
    rw [shift, if_neg (by simp [hmsb])] at hzero
    refine hc (BitVec.eq_of_toNat_eq ?_)
    have hlt := BitVec.msb_eq_false_iff_two_mul_lt.mp hmsb
    have hnat := congrArg BitVec.toNat hzero
    rw [BitVec.toNat_shiftLeft, Nat.shiftLeft_eq, Nat.pow_one, Nat.mod_eq_of_lt (by omega), BitVec.toNat_ofNat,
      Nat.zero_mod] at hnat
    rw [BitVec.toNat_ofNat, Nat.zero_mod]
    omega

theorem iterate_shift_ne_zero (hodd : poly.getLsbD 0 = true) (n : Nat) {c : BitVec w} (hc : c ≠ 0#w) :
    (shift poly)^[n] c ≠ 0#w := by
  induction n generalizing c with
  | zero => exact hc
  | succ n ih =>
    rw [Function.iterate_succ_apply]
    exact ih (shift_ne_zero poly hodd hc)

/-- As long as no bit leaves the register the polynomial does not come in. -/
theorem iterate_shift_of_lt {n : Nat} (hn : n ≤ w) {c : BitVec w} (hc : c.toNat < 2 ^ (w - n)) :
    (shift poly)^[n] c = c <<< n := by
  induction n generalizing c with
  | zero => exact (BitVec.shiftLeft_zero c).symm
  | succ n ih =>
    have hpow : 2 ^ (w - n) = 2 * 2 ^ (w - (n + 1)) := by
      rw [show w - n = w - (n + 1) + 1 by omega, Nat.pow_succ, Nat.mul_comm]
    have hle : 2 ^ (w - n) ≤ 2 ^ w := Nat.pow_le_pow_right (by decide) (Nat.sub_le ..)
    have hmsb : c.msb = false := BitVec.msb_eq_false_iff_two_mul_lt.mpr (by omega)
    have hshift : shift poly c = c <<< 1 := by
      rw [shift, if_neg (by simp [hmsb])]
    have hnat : (c <<< 1).toNat = 2 * c.toNat := by
      rw [BitVec.toNat_shiftLeft, Nat.shiftLeft_eq, Nat.pow_one, Nat.mul_comm, Nat.mod_eq_of_lt (by omega)]
    rw [Function.iterate_succ_apply, hshift, ih (by omega) (by omega), ← BitVec.shiftLeft_add, Nat.add_comm]

/-- `n` shifts carry the `n` highest bits out and move the others up. -/
theorem iterate_shift_eq {n : Nat} (hn : n ≤ w) (c : BitVec w) :
    (shift poly)^[n] c = (shift poly)^[n] (c >>> (w - n) <<< (w - n)) ^^^ c <<< n := by
  have hlow : (c &&& BitVec.ofNat w (2 ^ (w - n) - 1)).toNat < 2 ^ (w - n) := by
    rw [BitVec.toNat_and]
    exact Nat.lt_of_le_of_lt Nat.and_le_right (Nat.lt_of_le_of_lt (Nat.mod_le ..)
      (Nat.sub_lt (Nat.two_pow_pos _) Nat.one_pos))
  have hsplit : c = c >>> (w - n) <<< (w - n) ^^^ (c &&& BitVec.ofNat w (2 ^ (w - n) - 1)) := by
    refine BitVec.eq_of_getLsbD_eq fun i hi => ?_
    simp only [BitVec.getLsbD_xor, BitVec.getLsbD_shiftLeft, BitVec.getLsbD_ushiftRight, BitVec.getLsbD_and,
      BitVec.getLsbD_ofNat, Nat.testBit_two_pow_sub_one]
    by_cases hlt : i < w - n
    · simp [hlt, hi]
    · simp [hlt, hi, Nat.add_sub_cancel' (Nat.not_lt.mp hlt)]
  have hmove : (c &&& BitVec.ofNat w (2 ^ (w - n) - 1)) <<< n = c <<< n := by
    refine BitVec.eq_of_getLsbD_eq fun i hi => ?_
    simp only [BitVec.getLsbD_shiftLeft, BitVec.getLsbD_and, BitVec.getLsbD_ofNat, Nat.testBit_two_pow_sub_one]
    by_cases hlt : i < n
    · simp [hlt]
    · simp [hlt, show i - n < w by omega, show i - n < w - n by omega]
  conv => lhs; rw [hsplit]
  rw [iterate_shift_xor, iterate_shift_of_lt poly hn hlow, hmove]

theorem shift_twoPow (hw : 0 < w) : shift poly (BitVec.twoPow w (w - 1)) = poly := by
  have hzero : BitVec.twoPow w (w - 1) <<< 1 = 0#w := by
    refine BitVec.eq_of_getLsbD_eq fun i hi => ?_
    simp only [BitVec.getLsbD_shiftLeft, BitVec.getLsbD_twoPow]
    by_cases hi' : i < 1
    · simp [hi']
    · simp [show ¬ w - 1 = i - 1 by omega]
  have hmsb : (BitVec.twoPow w (w - 1)).msb = true := by
    rw [BitVec.msb_twoPow]
    simp
    omega
  rw [shift, if_pos hmsb, hzero, BitVec.zero_xor]

theorem feed_eq (hw : 0 < w) (c : BitVec w) (b : Bool) :
    feed poly c b = shift poly (c ^^^ if b then BitVec.twoPow w (w - 1) else 0#w) := by
  rw [shift_xor, feed]
  cases b with
  | true => rw [if_pos rfl, if_pos rfl, shift_twoPow poly hw]
  | false =>
    rw [if_neg (by decide), if_neg (by decide), shift_zero]
    exact (BitVec.xor_zero).symm

theorem getMsbD_top {bits : List Bool} {i : Nat} (hi : i < w) :
    (top bits : BitVec w).getMsbD i = bits.getD i false := by
  induction bits generalizing i with
  | nil => simp [top]
  | cons b bits ih =>
    have hfirst : (if b then BitVec.twoPow w (w - 1) else 0#w).getMsbD i = (decide (i = 0) && b) := by
      cases b with
      | true =>
        rw [if_pos rfl, BitVec.getMsbD_twoPow]
        by_cases hzero : i = 0
        · simp [hzero]
          omega
        · simp [hzero]
          omega
      | false => simp
    rw [top, BitVec.getMsbD_xor, hfirst, BitVec.getMsbD_ushiftRight]
    cases i with
    | zero => simp
    | succ i =>
      rw [Nat.add_sub_cancel, ih (Nat.lt_of_succ_lt hi)]
      simp [hi]

/-- The `n` low bits of a number, the highest first. -/
def lowBits (n v : Nat) : List Bool := (List.range n).map fun i => v.testBit (n - 1 - i)

theorem top_lowBits {n : Nat} (hn : n ≤ w) (v : Nat) : top (lowBits n v) = BitVec.ofNat w v <<< (w - n) := by
  refine BitVec.eq_of_getMsbD_eq fun i hi => ?_
  rw [getMsbD_top hi, BitVec.getMsbD_shiftLeft, BitVec.getMsbD_eq_getLsbD, BitVec.getLsbD_ofNat, List.getD_eq_getElem?_getD]
  by_cases hlt : i < n
  · have hfit : i + (w - n) < w := by omega
    simp [lowBits, hlt, hfit, show w - 1 - (i + (w - n)) = n - 1 - i by omega, show n - 1 - i < w by omega]
  · simp [lowBits, hlt]
    omega

/-- Bits that fit into the register can as well be put there at once. -/
theorem foldl_feed {bits : List Bool} (h : bits.length ≤ w) (c : BitVec w) :
    bits.foldl (feed poly) c = (shift poly)^[bits.length] (c ^^^ top bits) := by
  induction bits generalizing c with
  | nil =>
    rw [top]
    exact (BitVec.xor_zero).symm
  | cons b bits ih =>
    rw [List.length_cons] at h
    have hlast : (top bits : BitVec w).getLsbD 0 = false := by
      have hbit := @getMsbD_top w bits (w - 1) (by omega)
      rw [BitVec.getMsbD_eq_getLsbD, List.getD_eq_getElem?_getD, List.getElem?_eq_none (by omega)] at hbit
      simpa [show 0 < w by omega, show w - 1 < w by omega] using hbit
    have hback : shift poly (top bits >>> 1) = top bits := by
      have hmsb : (top bits >>> 1 : BitVec w).msb = false := by
        rw [BitVec.msb_ushiftRight]
        rfl
      rw [shift, if_neg (by simp [hmsb])]
      refine BitVec.eq_of_getLsbD_eq fun i hi => ?_
      rw [BitVec.getLsbD_shiftLeft, BitVec.getLsbD_ushiftRight]
      cases i with
      | zero => simp [hlast]
      | succ i => simp [hi, Nat.add_comm 1 i]
    rw [List.foldl_cons, ih (by omega), List.length_cons, Function.iterate_succ_apply, top, ← BitVec.xor_assoc,
      shift_xor, hback, feed_eq poly (by omega)]

/-- The step of a table-driven division: the bits that leave the register, with
those that come in, say what is added. -/
theorem foldl_feed_lowBits {n : Nat} (hn : n ≤ w) (c : BitVec w) (v : Nat) :
    (lowBits n v).foldl (feed poly) c =
      (shift poly)^[n] ((c >>> (w - n) ^^^ BitVec.ofNat w v) <<< (w - n)) ^^^ c <<< n := by
  have hlen : (lowBits n v).length = n := by simp [lowBits]
  rw [foldl_feed poly (by rwa [hlen]), hlen, top_lowBits hn, iterate_shift_xor, iterate_shift_eq poly hn c,
    BitVec.xor_assoc, BitVec.xor_comm (c <<< n), ← BitVec.xor_assoc, ← iterate_shift_xor, BitVec.shiftLeft_xor_distrib]

theorem feed_xor (c d : BitVec w) (x y : Bool) : feed poly (c ^^^ d) (x ^^ y) = feed poly c x ^^^ feed poly d y := by
  have hswap (u v : BitVec w) : u ^^^ v ^^^ poly = u ^^^ poly ^^^ v := by
    rw [BitVec.xor_assoc, BitVec.xor_comm v, BitVec.xor_assoc]
  unfold feed
  rw [shift_xor]
  cases x <;> cases y
  · rfl
  · exact BitVec.xor_assoc _ _ _
  · exact hswap _ _
  · simp only [Bool.xor_self, if_true, Bool.false_eq_true, if_false]
    exact (xor_cancel poly _ _).symm

/-- The remainder of a sum is the sum of the remainders. -/
theorem foldl_feed_xor {a b : List Bool} (h : a.length = b.length) (c d : BitVec w) :
    (List.zipWith xor a b).foldl (feed poly) (c ^^^ d) = a.foldl (feed poly) c ^^^ b.foldl (feed poly) d := by
  induction a generalizing b c d with
  | nil =>
    obtain rfl := List.length_eq_zero_iff.mp h.symm
    rfl
  | cons x a ih =>
    obtain ⟨y, b, rfl⟩ := List.exists_cons_of_length_eq_add_one h.symm
    rw [List.zipWith_cons_cons, List.foldl_cons, List.foldl_cons, List.foldl_cons, feed_xor]
    exact ih (Nat.succ.inj h) _ _

theorem foldl_feed_false {bits : List Bool} (h : ∀ b ∈ bits, b = false) (c : BitVec w) :
    bits.foldl (feed poly) c = (shift poly)^[bits.length] c := by
  induction bits generalizing c with
  | nil => rfl
  | cons b bits ih =>
    rw [List.foldl_cons, h b (List.mem_cons_self ..), ih fun b hb => h b (List.mem_cons_of_mem _ hb)]
    rfl

theorem iterate_shift_zero (n : Nat) : (shift poly)^[n] 0#w = 0#w := by
  induction n with
  | zero => rfl
  | succ n ih => rw [Function.iterate_succ_apply, shift_zero, ih]

/-- Bits that are set in some place, and in no two places that are `w` apart or
more: all of them come from place `p` on. -/
structure Burst (w : Nat) (bits : List Bool) (p : Nat) : Prop where
  nonzero : true ∈ bits
  span : ∀ q, bits[q]? = some true → p ≤ q ∧ q < p + w

theorem eq_false_of_not_getElem? {bits : List Bool} (h : ∀ q : Nat, bits[q]? ≠ some true) : ∀ b ∈ bits, b = false := by
  intro b hb
  obtain ⟨q, hq⟩ := List.mem_iff_getElem?.mp hb
  cases b with
  | false => rfl
  | true => exact absurd hq (h q)

/-- No burst that fits into the register is a multiple of the polynomial. -/
theorem foldl_feed_ne_zero (hodd : poly.getLsbD 0 = true) {bits : List Bool} {p : Nat} (h : Burst w bits p) :
    bits.foldl (feed poly) 0#w ≠ 0#w := by
  have hbefore : ∀ b ∈ bits.take p, b = false := by
    refine eq_false_of_not_getElem? fun q hq => ?_
    rw [List.getElem?_take] at hq
    split at hq
    · have := (h.span q hq).1
      omega
    · cases hq
  have hafter : ∀ b ∈ bits.drop (p + w), b = false := by
    refine eq_false_of_not_getElem? fun q hq => ?_
    rw [List.getElem?_drop] at hq
    have := (h.span _ hq).2
    omega
  have hcut : bits = bits.take p ++ ((bits.drop p).take w ++ bits.drop (p + w)) := by
    rw [← List.drop_drop, List.take_append_drop, List.take_append_drop]
  have hlen : ((bits.drop p).take w).length ≤ w := List.length_take_le ..
  -- the bits of the burst, once they are all in the register, are not all zero
  have htop : (top ((bits.drop p).take w) : BitVec w) ≠ 0#w := by
    intro hzero
    have hmid : ∀ b ∈ (bits.drop p).take w, b = false := by
      refine eq_false_of_not_getElem? fun q hq => ?_
      have hlt : q < w := by
        have := (List.getElem?_eq_some_iff.mp hq).1
        omega
      have hbit := @getMsbD_top _ ((bits.drop p).take w) _ hlt
      rw [hzero, List.getD_eq_getElem?_getD, hq] at hbit
      simp at hbit
    rw [hcut] at h
    rcases List.mem_append.mp h.nonzero with hb | hb
    · cases hbefore _ hb
    · rcases List.mem_append.mp hb with hb | hb
      · cases hmid _ hb
      · cases hafter _ hb
  rw [hcut, List.foldl_append, List.foldl_append, foldl_feed_false poly hbefore, iterate_shift_zero, foldl_feed poly hlen,
    foldl_feed_false poly hafter, BitVec.zero_xor]
  exact iterate_shift_ne_zero poly hodd _ (iterate_shift_ne_zero poly hodd _ htop)

/-- Two maps that keep sums are the same once they agree on the single bits. -/
theorem linear_ext {v : Nat} {f g : BitVec v → BitVec w} (hf : ∀ a b, f (a ^^^ b) = f a ^^^ f b)
    (hg : ∀ a b, g (a ^^^ b) = g a ^^^ g b) (hbit : ∀ i < v, f (BitVec.twoPow v i) = g (BitVec.twoPow v i)) (x : BitVec v) :
    f x = g x := by
  have hzero {f : BitVec v → BitVec w} (hf : ∀ a b, f (a ^^^ b) = f a ^^^ f b) : f 0#v = 0#w := by
    have h := hf 0#v 0#v
    rwa [BitVec.xor_self, BitVec.xor_self] at h
  -- by induction on how many of the low bits are in use
  have hlow (k : Nat) (hk : k ≤ v) : ∀ x : BitVec v, (∀ i, k ≤ i → x.getLsbD i = false) → f x = g x := by
    induction k with
    | zero =>
      intro x hx
      have hx0 : x = 0#v := BitVec.eq_of_getLsbD_eq fun i _ => by simp [hx i (Nat.zero_le i)]
      rw [hx0, hzero hf, hzero hg]
    | succ k ih =>
      intro x hx
      cases hbitk : x.getLsbD k with
      | false =>
        refine ih (by omega) x fun i hi => ?_
        rcases Nat.eq_or_lt_of_le hi with rfl | hlt
        · exact hbitk
        · exact hx i hlt
      | true =>
        have hrest : f (x ^^^ BitVec.twoPow v k) = g (x ^^^ BitVec.twoPow v k) := by
          refine ih (by omega) _ fun i hi => ?_
          rw [BitVec.getLsbD_xor, BitVec.getLsbD_twoPow]
          rcases Nat.eq_or_lt_of_le hi with rfl | hlt
          · simp [hbitk]
            omega
          · simp [hx i hlt]
            omega
        have hsplit : x = x ^^^ BitVec.twoPow v k ^^^ BitVec.twoPow v k := by
          rw [BitVec.xor_assoc, BitVec.xor_self, BitVec.xor_zero]
        rw [hsplit, hf, hg, hrest, hbit k (by omega)]
  exact hlow v (Nat.le_refl _) x fun i hi => BitVec.getLsbD_of_ge x i hi

/-- `shift` in a register that holds the coefficient of the highest power in the
lowest bit. -/
def shiftReflected (c : BitVec w) : BitVec w := if c.getLsbD 0 then c >>> 1 ^^^ poly.reverse else c >>> 1

theorem reverse_xor (a b : BitVec w) : (a ^^^ b).reverse = a.reverse ^^^ b.reverse := by
  refine BitVec.eq_of_getLsbD_eq fun i _ => ?_
  rw [BitVec.getLsbD_xor, BitVec.getLsbD_reverse, BitVec.getLsbD_reverse, BitVec.getLsbD_reverse, BitVec.getMsbD_xor]

theorem reverse_shift (c : BitVec w) : (shift poly c).reverse = shiftReflected poly c.reverse := by
  have hmove : (c <<< 1).reverse = c.reverse >>> 1 := by
    refine BitVec.eq_of_getLsbD_eq fun i hi => ?_
    rw [BitVec.getLsbD_reverse, BitVec.getMsbD_shiftLeft, BitVec.getLsbD_ushiftRight, BitVec.getLsbD_reverse, Nat.add_comm]
  have hbit : c.reverse.getLsbD 0 = c.msb := by
    rw [BitVec.getLsbD_reverse, BitVec.msb_eq_getMsbD_zero]
  unfold shift shiftReflected
  rw [hbit]
  cases c.msb with
  | true => rw [if_pos rfl, if_pos rfl, reverse_xor, hmove]
  | false => exact hmove

/-- The reflected register takes the bits in at its other end. -/
theorem reverse_foldl_feed {bits : List Bool} (h : bits.length ≤ w) (c : BitVec w) :
    (bits.foldl (feed poly) c).reverse = (shiftReflected poly)^[bits.length] (c.reverse ^^^ (top bits).reverse) := by
  have hshifts (n : Nat) (c : BitVec w) : ((shift poly)^[n] c).reverse = (shiftReflected poly)^[n] c.reverse := by
    induction n generalizing c with
    | zero => rfl
    | succ n ih => rw [Function.iterate_succ_apply, ih, reverse_shift, Function.iterate_succ_apply]
  rw [foldl_feed poly h, hshifts, reverse_xor]

end Lfsr
