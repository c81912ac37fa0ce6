import ZCloud.Lib.Limbs
import ZCloud.Lib.Memory
import Mathlib.Data.Int.Order.Basic
import Mathlib.Data.Nat.Size

open Memory Limbs

namespace ZCloud

def MAX_BIGNUM_DIGITS : Nat := 20

theorem one_le_digits : 1 ≤ MAX_BIGNUM_DIGITS := Nat.succ_le_succ (Nat.zero_le 19)

/-- The number of bytes of a limb. -/
def ciL : Nat := 4

/-- The number of bits of a limb. -/
def biL : Nat := ciL <<< 3

def TROPICSSL_ERR_MPI_NEGATIVE_VALUE : Int := -0x000A

/-- How an operation fails: with a status, or with an access outside the limbs. -/
inductive MpiError where
  | status (ret : Int)
  | fault (f : Fault)
deriving DecidableEq

@[simp]
theorem mpi_ok_bind {α β : Type} (a : α) (f : α → Except MpiError β) : (Except.ok a >>= f) = f a := rfl

/-- A number: its sign and its `n` limbs. What the array has room for past these
is zero, and is not kept here. -/
structure mpi where
  s : Int
  p : List UInt32
  length_le : p.length ≤ MAX_BIGNUM_DIGITS
deriving DecidableEq

namespace mpi

def n (X : mpi) : Nat := X.p.length

/-- The number without its sign. -/
def abs (X : mpi) : Nat := Limbs.val X.p

/-- The number. -/
def val (X : mpi) : Int := X.s * X.abs

/-- The sign is one of those that the code compares with. -/
def Signed (X : mpi) : Prop := X.s = 1 ∨ X.s = -1

/-- The limbs replaced by as many others. -/
def setLimbs (X : mpi) (p : List UInt32) (h : p.length = X.n) : mpi :=
  ⟨X.s, p, Nat.le_trans (Nat.le_of_eq h) X.length_le⟩

theorem n_le (X : mpi) : X.n ≤ MAX_BIGNUM_DIGITS := X.length_le

@[simp]
theorem setLimbs_p (X : mpi) (p : List UInt32) (h : p.length = X.n) : (X.setLimbs p h).p = p := rfl

theorem Signed.mul {X Y : mpi} (hX : X.Signed) (hY : Y.Signed) : X.s * Y.s = 1 ∨ X.s * Y.s = -1 := by
  rcases hX with h | h <;> rcases hY with h' | h' <;> simp [h, h']

end mpi

def mpi_init : mpi := ⟨1, [], Nat.zero_le _⟩

def mpi_grow (X : mpi) (nblimbs : Nat) : Except MpiError mpi :=
  if h : MAX_BIGNUM_DIGITS < nblimbs then .error (.status 1)
  else if X.n < nblimbs then
    .ok ⟨X.s, X.p ++ List.replicate (nblimbs - X.n) 0, by
      have hle := X.length_le
      rw [List.length_append, List.length_replicate, mpi.n]
      omega⟩
  else .ok X

theorem mpi_grow_ok {X : mpi} {nblimbs : Nat} (h : nblimbs ≤ MAX_BIGNUM_DIGITS) :
    ∃ X', mpi_grow X nblimbs = .ok X' ∧ X'.s = X.s ∧ X'.p = X.p ++ List.replicate (nblimbs - X.n) 0 := by
  rw [mpi_grow, dif_neg (Nat.not_lt.mpr h)]
  by_cases hn : X.n < nblimbs
  · exact ⟨_, if_pos hn, rfl, rfl⟩
  · rw [if_neg hn, Nat.sub_eq_zero_of_le (Nat.le_of_not_lt hn)]
    exact ⟨X, rfl, rfl, by simp⟩

section

variable {X X' : mpi} {k : Nat}

theorem n_of_grown (h : X'.p = X.p ++ List.replicate (k - X.n) 0) : X'.n = max X.n k := by
  have hn : X.n = X.p.length := rfl
  rw [mpi.n, h, List.length_append, List.length_replicate]
  omega

theorem abs_of_grown (h : X'.p = X.p ++ List.replicate (k - X.n) 0) : X'.abs = X.abs := by
  rw [mpi.abs, h, val_append_zeros]
  rfl

end

/-- The loop down from limb `i - 1` to the last one that is not zero: one more
than its index. -/
def topLimb (p : List UInt32) : (i : Nat) → Nat
  | 0 => 0
  | i + 1 => if p.getD i 0 ≠ 0 then i + 1 else topLimb p i

theorem topLimb_le (p : List UInt32) (i : Nat) : topLimb p i ≤ i := by
  induction i with
  | zero => exact Nat.le_refl 0
  | succ i ih =>
    rw [topLimb]
    split
    · exact Nat.le_refl _
    · exact Nat.le_succ_of_le ih

theorem val_take_topLimb (p : List UInt32) (i : Nat) : Limbs.val (p.take (topLimb p i)) = Limbs.val (p.take i) := by
  induction i with
  | zero => rfl
  | succ i ih =>
    rw [topLimb]
    split
    · rfl
    · rename_i h
      rw [ih, val_take_succ, Decidable.not_not.mp h]
      rfl

/-- The limb that the loop stops at is not zero. -/
theorem le_val_of_topLimb {p : List UInt32} {i j : Nat} (h : topLimb p i = j + 1) : 4294967296 ^ j ≤ Limbs.val (p.take (j + 1)) := by
  induction i with
  | zero => cases h
  | succ i ih =>
    rw [topLimb] at h
    split at h
    · rename_i hne
      obtain rfl : i = j := Nat.succ.inj h
      have hpos : 1 ≤ (p.getD i 0).toNat := Nat.one_le_iff_ne_zero.mpr fun hzero => hne (UInt32.toNat_inj.mp hzero)
      rw [val_take_succ]
      calc 4294967296 ^ i = 4294967296 ^ i * 1 := (Nat.mul_one _).symm
        _ ≤ 4294967296 ^ i * (p.getD i 0).toNat := Nat.mul_le_mul_left _ hpos
        _ ≤ _ := Nat.le_add_left _ _
    · exact ih h

namespace mpi

variable {X : mpi} {j : Nat}

/-- The limbs of a number up to the last one that is not zero. -/
def top (X : mpi) : Nat := topLimb X.p X.n

@[simp]
theorem val_take_n (X : mpi) : Limbs.val (X.p.take X.n) = X.abs := by
  rw [n, List.take_length, abs]

theorem top_le (X : mpi) : X.top ≤ X.n := topLimb_le X.p X.n

theorem val_take_top (X : mpi) : Limbs.val (X.p.take X.top) = X.abs := by
  rw [top, val_take_topLimb, val_take_n]

theorem abs_lt_top (X : mpi) : X.abs < 4294967296 ^ X.top := by
  rw [← val_take_top]
  exact val_lt_of_length_le (List.length_take_le _ _)

theorem le_abs_of_top (h : X.top = j + 1) : 4294967296 ^ j ≤ X.abs := by
  rw [← val_take_top, h]
  exact le_val_of_topLimb h

theorem top_le_of_abs_lt (h : X.abs < 4294967296 ^ j) : X.top ≤ j := by
  rcases Nat.eq_zero_or_pos X.top with hzero | hpos
  · omega
  · obtain ⟨i, hi⟩ := Nat.exists_eq_succ_of_ne_zero (Nat.ne_of_gt hpos)
    have hlt := (Nat.pow_lt_pow_iff_right (by decide)).mp (Nat.lt_of_le_of_lt (le_abs_of_top hi) h)
    omega

theorem top_eq_zero_iff : X.top = 0 ↔ X.abs = 0 := by
  constructor
  · intro h
    have hlt := X.abs_lt_top
    rw [h] at hlt
    omega
  · intro h
    exact Nat.le_zero.mp (top_le_of_abs_lt (by rw [h]; exact Nat.one_pos))

theorem abs_lt_of_top_lt {Y : mpi} (h : X.top < Y.top) : X.abs < Y.abs := by
  obtain ⟨j, hj⟩ := Nat.exists_eq_succ_of_ne_zero (Nat.ne_zero_of_lt h)
  calc X.abs < 4294967296 ^ X.top := X.abs_lt_top
    _ ≤ 4294967296 ^ j := Nat.pow_le_pow_right (by decide) (by omega)
    _ ≤ Y.abs := le_abs_of_top hj

end mpi

/-- The number of limbs that are copied: at least one, when there is one. -/
def mpi.used (X : mpi) : Nat := if X.n = 0 then 0 else max 1 X.top

theorem mpi.used_le (X : mpi) : X.used ≤ X.n := by
  have htop := X.top_le
  rw [used]
  split
  · exact Nat.zero_le _
  · omega

theorem mpi.top_le_used (X : mpi) : X.top ≤ X.used := by
  have htop := X.top_le
  rw [used]
  split
  · omega
  · exact Nat.le_max_right 1 _

theorem mpi.used_le_of_abs_lt {X : mpi} {k : Nat} (hk : 0 < k) (h : X.abs < 4294967296 ^ k) : X.used ≤ k := by
  have htop := top_le_of_abs_lt h
  rw [used]
  split
  · exact Nat.zero_le _
  · omega

theorem mpi.val_take_used (X : mpi) : Limbs.val (X.p.take X.used) = X.abs :=
  val_take_of_lt (Nat.lt_of_lt_of_le X.abs_lt_top (Nat.pow_le_pow_right (by decide) X.top_le_used))

/-- The limbs that count fit into any number, so that growing `X` never fails. -/
def mpi_copy (X Y : mpi) : mpi :=
  ⟨Y.s, Y.p.take Y.used ++ List.replicate (X.n - Y.used) 0, by
    have hX := X.n_le
    have hY := Y.n_le
    have hused := Y.used_le
    rw [mpi.n] at hY hused
    rw [List.length_append, List.length_take, List.length_replicate]
    omega⟩

theorem mpi_copy_n (X Y : mpi) : (mpi_copy X Y).n = max X.n Y.used := by
  have hused := Y.used_le
  rw [mpi.n] at hused
  rw [mpi.n, mpi_copy, List.length_append, List.length_take, List.length_replicate]
  omega

@[simp]
theorem mpi_copy_abs (X Y : mpi) : (mpi_copy X Y).abs = Y.abs := by
  rw [mpi.abs, mpi_copy, val_append_zeros, mpi.val_take_used]

def mpi_lset (X : mpi) (z : Int) : mpi :=
  ⟨if z < 0 then -1 else 1, UInt32.ofNat z.natAbs :: List.replicate (X.n - 1) 0, by
    have hX := X.n_le
    have hdigits : MAX_BIGNUM_DIGITS = 20 := rfl
    rw [List.length_cons, List.length_replicate]
    omega⟩

theorem mpi_lset_n (X : mpi) (z : Int) : (mpi_lset X z).n = max X.n 1 := by
  rw [mpi.n, mpi_lset, List.length_cons, List.length_replicate]
  omega

theorem mpi_lset_abs (X : mpi) {z : Int} (h : z.natAbs < 4294967296) : (mpi_lset X z).abs = z.natAbs := by
  rw [mpi.abs, mpi_lset, val_cons, val_replicate_zero, UInt32.toNat_ofNat_of_lt' h]
  rfl

/-- The loop down from bit `j - 1` to the last one that is set: one more than its
index. -/
def topBit (x : UInt32) : (j : Nat) → Nat
  | 0 => 0
  | j + 1 => if (x >>> UInt32.ofNat j) &&& 1 ≠ 0 then j + 1 else topBit x j

theorem bit_ne_zero_iff (x : UInt32) {j : Nat} (hj : j < 32) :
    (x >>> UInt32.ofNat j) &&& 1 ≠ 0 ↔ x.toNat / 2 ^ j % 2 = 1 := by
  have hplace : (UInt32.ofNat j).toNat % 32 = j := by
    rw [UInt32.toNat_ofNat_of_lt' (Nat.lt_trans hj (by decide))]
    exact Nat.mod_eq_of_lt hj
  rw [Ne, ← UInt32.toNat_inj, UInt32.toNat_and, UInt32.toNat_shiftRight, hplace, UInt32.toNat_one, Nat.and_one_is_mod,
    Nat.shiftRight_eq_div_pow, UInt32.toNat_zero]
  omega

/-- The loop finds the size of what the bits below `j` make. -/
theorem topBit_eq (x : UInt32) {j : Nat} (hj : j ≤ 32) : topBit x j = (x.toNat % 2 ^ j).size := by
  induction j with
  | zero => simp [topBit, Nat.mod_one]
  | succ j ih =>
    have hlt := Nat.mod_lt x.toNat (Nat.two_pow_pos j)
    rw [topBit, Nat.mod_pow_succ]
    by_cases hbit : x.toNat / 2 ^ j % 2 = 1
    · rw [if_pos ((bit_ne_zero_iff x hj).mpr hbit), hbit, Nat.mul_one]
      apply Nat.le_antisymm
      · exact Nat.lt_size.mpr (Nat.le_add_left _ _)
      · rw [Nat.size_le, Nat.pow_succ]
        omega
    · have hzero : x.toNat / 2 ^ j % 2 = 0 := by omega
      rw [if_neg (mt (bit_ne_zero_iff x hj).mp hbit), ih (Nat.le_of_succ_le hj), hzero]
      simp

theorem size_add_two_pow_mul {low k x : Nat} (hlow : low < 2 ^ k) (hx : 0 < x) : (low + 2 ^ k * x).size = k + x.size := by
  obtain ⟨m, hm⟩ := Nat.exists_eq_succ_of_ne_zero (Nat.ne_of_gt (Nat.size_pos.mpr hx))
  have hlt := Nat.lt_size_self x
  have hge := Nat.lt_size.mp (Nat.lt_of_lt_of_eq (Nat.lt_succ_self m) hm.symm)
  apply Nat.le_antisymm
  · rw [Nat.size_le, Nat.pow_add]
    exact add_mul_lt hlow hlt
  · rw [hm, Nat.add_succ, Nat.succ_le_iff, Nat.lt_size, Nat.pow_add]
    exact Nat.le_trans (Nat.mul_le_mul_left _ hge) (Nat.le_add_left _ _)

/-- Without limbs, the limb before the first one is read. -/
def mpi_msb (X : mpi) : Except MpiError Nat :=
  if X.n = 0 then .error (.fault .read)
  else .ok ((X.used - 1) * biL + topBit (X.p.getD (X.used - 1) 0) biL)

/-- The number of bits of a number that has limbs. -/
theorem mpi_msb_eq {X : mpi} (h : X.n ≠ 0) : mpi_msb X = .ok X.abs.size := by
  obtain ⟨j, hj⟩ : ∃ j, X.used = j + 1 := by
    rw [mpi.used, if_neg h]
    exact Nat.exists_eq_succ_of_ne_zero (by omega)
  have hused := X.val_take_used
  have hlow := val_lt_of_length_le (List.length_take_le j X.p)
  have hpow : (4294967296 : Nat) ^ j = 2 ^ (j * 32) := by
    rw [Nat.mul_comm, Nat.pow_mul]
  have hmsb : topBit (X.p.getD j 0) biL = (X.p.getD j 0).toNat.size := by
    rw [biL, ciL, topBit_eq _ (by decide)]
    exact congrArg Nat.size (Nat.mod_eq_of_lt (X.p.getD j 0).toNat_lt)
  rw [hj, val_take_succ, hpow] at hused
  rw [hpow] at hlow
  rw [mpi_msb, if_neg h, hj, Nat.add_sub_cancel, hmsb, ← hused]
  rcases Nat.eq_zero_or_pos (X.p.getD j 0).toNat with hzero | hpos
  · -- only the lowest limb may be zero
    have htop : X.top ≤ j := by
      apply mpi.top_le_of_abs_lt
      rw [← hused, hzero, hpow]
      simpa using hlow
    have hfirst : j = 0 := by
      rw [mpi.used, if_neg h] at hj
      omega
    subst hfirst
    simp
  · rw [size_add_two_pow_mul hlow hpos]
    rfl

/-- The loop that compares limb by limb, down from limb `i - 1`. -/
def cmpLimbs (p q : List UInt32) (greater less : Int) : (i : Nat) → Int
  | 0 => 0
  | i + 1 =>
    if p.getD i 0 > q.getD i 0 then greater
    else if p.getD i 0 < q.getD i 0 then less
    else cmpLimbs p q greater less i

theorem cmpLimbs_eq (p q : List UInt32) (greater less : Int) (i : Nat) : cmpLimbs p q greater less i =
    if Limbs.val (q.take i) < Limbs.val (p.take i) then greater
    else if Limbs.val (p.take i) < Limbs.val (q.take i) then less
    else 0 := by
  induction i with
  | zero => simp [cmpLimbs]
  | succ i ih =>
    have hp := val_lt_of_length_le (List.length_take_le i p)
    have hq := val_lt_of_length_le (List.length_take_le i q)
    have hstep {a b low : Nat} (high : Nat) (hlow : low < 4294967296 ^ i) (hab : a < b) :
        low + 4294967296 ^ i * a < high + 4294967296 ^ i * b :=
      Nat.lt_of_lt_of_le (add_mul_lt hlow hab) (Nat.le_add_left _ _)
    rw [cmpLimbs, val_take_succ, val_take_succ]
    by_cases hgt : p.getD i 0 > q.getD i 0
    · rw [if_pos hgt, if_pos (hstep _ hq (UInt32.lt_iff_toNat_lt.mp hgt))]
    · rw [if_neg hgt]
      by_cases hlt : p.getD i 0 < q.getD i 0
      · have hless := hstep (Limbs.val (q.take i)) hp (UInt32.lt_iff_toNat_lt.mp hlt)
        rw [if_pos hlt, if_neg (Nat.lt_asymm hless), if_pos hless]
      · have heq : (p.getD i 0).toNat = (q.getD i 0).toNat := by
          rw [gt_iff_lt, UInt32.lt_iff_toNat_lt] at hgt
          rw [UInt32.lt_iff_toNat_lt] at hlt
          omega
        simp only [if_neg hlt, ih, heq, Nat.add_lt_add_iff_right]

def mpi_cmp_abs (X Y : mpi) : Int :=
  let i := X.top
  let j := Y.top
  if i = 0 ∧ j = 0 then 0
  else if i > j then 1
  else if j > i then -1
  else cmpLimbs X.p Y.p 1 (-1) i

theorem mpi.cmpLimbs_top {X Y : mpi} (h : X.top = Y.top) (greater less : Int) : cmpLimbs X.p Y.p greater less X.top =
    if Y.abs < X.abs then greater else if X.abs < Y.abs then less else 0 := by
  rw [cmpLimbs_eq, val_take_top, h, val_take_top]

theorem mpi_cmp_abs_eq (X Y : mpi) : mpi_cmp_abs X Y = Int.sign (X.abs - Y.abs) := by
  dsimp only [mpi_cmp_abs]
  split
  · rename_i h
    rw [mpi.top_eq_zero_iff.mp h.1, mpi.top_eq_zero_iff.mp h.2]
    rfl
  · split
    · rename_i hgt
      have habs := mpi.abs_lt_of_top_lt hgt
      exact (Int.sign_eq_one_of_pos (by omega)).symm
    · split
      · rename_i hlt
        have habs := mpi.abs_lt_of_top_lt hlt
        exact (Int.sign_eq_neg_one_of_neg (by omega)).symm
      · rw [mpi.cmpLimbs_top (by omega)]
        split
        · exact (Int.sign_eq_one_of_pos (by omega)).symm
        · split
          · exact (Int.sign_eq_neg_one_of_neg (by omega)).symm
          · have hzero : (X.abs : Int) - Y.abs = 0 := by omega
            rw [hzero, Int.sign_zero]

theorem mpi_cmp_abs_nonneg_iff (X Y : mpi) : mpi_cmp_abs X Y ≥ 0 ↔ Y.abs ≤ X.abs := by
  rw [mpi_cmp_abs_eq, ge_iff_le, Int.sign_nonneg_iff]
  omega

/-- When `Y` has more limbs that count, the sign of `X` decides, whatever that of
`Y` is. -/
def mpi_cmp_mpi (X Y : mpi) : Int :=
  let i := X.top
  let j := Y.top
  if i = 0 ∧ j = 0 then 0
  else if i > j then X.s
  else if j > i then -X.s
  else if X.s > 0 ∧ Y.s < 0 then 1
  else if Y.s > 0 ∧ X.s < 0 then -1
  else cmpLimbs X.p Y.p X.s (-X.s) i

section

variable {X Y : mpi}

/-- The number that is further from zero decides the sign of a difference. -/
theorem mpi.sign_sub_of_abs_lt (hX : X.Signed) (hY : Y.Signed) (h : X.abs < Y.abs) : Int.sign (X.val - Y.val) = -Y.s := by
  rw [val, val]
  rcases hY with ht | ht
  · rw [ht]
    rcases hX with hs | hs
    all_goals
      rw [hs]
      exact Int.sign_eq_neg_one_of_neg (by omega)
  · rw [ht]
    rcases hX with hs | hs
    all_goals
      rw [hs]
      exact Int.sign_eq_one_of_pos (by omega)

theorem mpi.sign_sub_of_lt_abs (hX : X.Signed) (hY : Y.Signed) (h : Y.abs < X.abs) : Int.sign (X.val - Y.val) = X.s := by
  rw [← Int.neg_sub, Int.sign_neg, sign_sub_of_abs_lt hY hX h, Int.neg_neg]

theorem mpi_cmp_mpi_of_top_lt (h : X.top < Y.top) : mpi_cmp_mpi X Y = -X.s := by
  rw [mpi_cmp_mpi]
  simp only [gt_iff_lt, if_neg (Nat.lt_asymm h), if_pos h, if_neg (show ¬ (X.top = 0 ∧ Y.top = 0) by omega)]

theorem mpi_cmp_mpi_of_top_le (hX : X.Signed) (hY : Y.Signed) (h : Y.top ≤ X.top) :
    mpi_cmp_mpi X Y = Int.sign (X.val - Y.val) := by
  dsimp only [mpi_cmp_mpi]
  split
  · rename_i hzero
    rw [mpi.val, mpi.val, mpi.top_eq_zero_iff.mp hzero.1, mpi.top_eq_zero_iff.mp hzero.2]
    simp
  · rename_i hzero
    split
    · rename_i hgt
      exact (mpi.sign_sub_of_lt_abs hX hY (mpi.abs_lt_of_top_lt hgt)).symm
    · have htop : X.top = Y.top := by omega
      have hpos : X.abs ≠ 0 := fun h0 => hzero ⟨mpi.top_eq_zero_iff.mpr h0, by rw [← htop, mpi.top_eq_zero_iff.mpr h0]⟩
      have hpos' : Y.abs ≠ 0 := fun h0 => hzero ⟨by rw [htop, mpi.top_eq_zero_iff.mpr h0], mpi.top_eq_zero_iff.mpr h0⟩
      rw [if_neg (by omega), mpi.cmpLimbs_top htop]
      -- the signs decide when they differ, and the limbs when they are the same
      rcases Nat.lt_trichotomy X.abs Y.abs with hlt | heq | hgt
      · rw [mpi.sign_sub_of_abs_lt hX hY hlt, if_neg (Nat.lt_asymm hlt), if_pos hlt]
        rcases hX with hs | hs <;> rcases hY with ht | ht <;> simp [hs, ht]
      · have hpos'' : Int.sign ((Y.abs : Int) + Y.abs) = 1 := Int.sign_eq_one_of_pos (by omega)
        have hneg : Int.sign (-(Y.abs : Int) - Y.abs) = -1 := Int.sign_eq_neg_one_of_neg (by omega)
        rw [mpi.val, mpi.val, heq, if_neg (Nat.lt_irrefl _), if_neg (Nat.lt_irrefl _)]
        rcases hX with hs | hs <;> rcases hY with ht | ht <;> simp [hs, ht, hpos'', hneg]
      · rw [mpi.sign_sub_of_lt_abs hX hY hgt, if_pos hgt]
        rcases hX with hs | hs <;> rcases hY with ht | ht <;> simp [hs, ht]

/-- The comparison is that of the numbers, except where `Y` has more limbs that
count and a sign of its own. -/
theorem mpi_cmp_mpi_eq_iff (hX : X.Signed) (hY : Y.Signed) :
    mpi_cmp_mpi X Y = Int.sign (X.val - Y.val) ↔ (X.top < Y.top → X.s = Y.s) := by
  by_cases h : X.top < Y.top
  · rw [mpi_cmp_mpi_of_top_lt h, mpi.sign_sub_of_abs_lt hX hY (mpi.abs_lt_of_top_lt h), Int.neg_inj]
    exact ⟨fun heq _ => heq, fun himp => himp h⟩
  · exact ⟨fun _ hlt => absurd hlt h, fun _ => mpi_cmp_mpi_of_top_le hX hY (Nat.le_of_not_lt h)⟩

/-- A number below zero that has two limbs, next to which 1 is taken for the
smaller one. -/
theorem mpi_cmp_mpi_mixed : mpi_cmp_mpi ⟨1, [1], one_le_digits⟩ ⟨-1, [0, 1], by decide⟩ ≠
    Int.sign (mpi.val ⟨1, [1], one_le_digits⟩ - mpi.val ⟨-1, [0, 1], by decide⟩) :=
  mt (mpi_cmp_mpi_eq_iff (Or.inl rfl) (Or.inr rfl)).mp (by decide)

end

/-- The number of one limb that an `int` is turned into. -/
def mpi.ofInt (z : Int) : mpi := ⟨if z < 0 then -1 else 1, [UInt32.ofNat z.natAbs], one_le_digits⟩

end ZCloud
