import ZCloud.Tropicssl.Mul
import Mathlib.Data.Nat.Bitwise
import Mathlib.Data.Nat.ModEq
import Mathlib.Data.Nat.Prime.Basic

open Memory Limbs

namespace ZCloud

/-- `-1 / N` modulo the radix, from an inverse for four bits that each step makes
one for twice as many. -/
def mpi_montg_init (N : mpi) : UInt32 :=
  let m0 := N.p.getD 0 0
  let x := m0
  let x := x + (((m0 + 2) &&& 4) <<< 1)
  let x := x * (2 - m0 * x)
  let x := x * (2 - m0 * x)
  let x := x * (2 - m0 * x)
  ~~~x + 1

section

variable (B N : mpi) (mm : UInt32)

/-- A turn of the loop of `mpi_montmul`, where `d` is what `T` holds from its
pointer on: the limb that the pointer moves past is the one that is cleared. -/
def montTurn (u0 : UInt32) (d : List UInt32) : Except MpiError (List UInt32) := do
  let m := if B.n < N.n then B.n else N.n
  let u1 := (d.getD 0 0 + u0 * B.p.getD 0 0) * mm
  let d ← mpi_mul_hlp m B.p d u0
  let d ← mpi_mul_hlp N.n N.p d u1
  let d := d.tail
  if N.n + 1 < d.length then return d.set (N.n + 1) 0 else throw (.fault .write)

/-- The loop over limbs of `A`: what the pointer has moved past in `T`, and the rest
of it. -/
def montLoop : (a low d : List UInt32) → Except MpiError (List UInt32 × List UInt32)
  | [], low, d => .ok (low, d)
  | u0 :: a, low, d => do
    let d ← montTurn B N mm u0 d
    montLoop a (low ++ [u0]) d

end

theorem length_memcpy {A : mpi} {d : List UInt32} {k : Nat} (h : k ≤ A.n ∧ k ≤ d.length) :
    (d.take k ++ A.p.drop k).length = A.n := by
  rw [mpi.n] at h ⊢
  rw [List.length_append, List.length_take, List.length_drop]
  omega

theorem abs_memcpy {A : mpi} {d : List UInt32} {k : Nat} (h : k ≤ A.n ∧ k ≤ d.length) (hA : A.abs < 4294967296 ^ k)
    (hd : Limbs.val d < 4294967296 ^ k) : (A.setLimbs (d.take k ++ A.p.drop k) (length_memcpy h)).abs = Limbs.val d := by
  have htake : (d.take k).length = k := by
    rw [List.length_take]
    exact Nat.min_eq_left h.2
  rw [mpi.abs, mpi.setLimbs_p, val_append, htake, val_drop, val_take_of_lt hd, ← mpi.abs, Nat.div_eq_of_lt hA]
  simp

/-- The product of `A` and `B`, divided by the radix as often as `N` has limbs, and
what `T` holds afterwards. -/
def mpi_montmul (A B N : mpi) (mm : UInt32) (T : mpi) : Except MpiError (mpi × List UInt32) := do
  let (low, d) ← montLoop B N mm (A.p.take N.n) [] (List.replicate T.n 0)
  if h : N.n + 1 ≤ A.n ∧ N.n + 1 ≤ d.length then
    let A := A.setLimbs (d.take (N.n + 1) ++ A.p.drop (N.n + 1)) (length_memcpy h)
    if mpi_cmp_abs A N ≥ 0 then
      let p ← mpi_sub_hlp N.n N.p A.p
      if h : p.length = A.n then return (A.setLimbs p h, low ++ d)
      else throw (.fault .write)
    else
      -- the same work, on a number that is not used
      let p ← mpi_sub_hlp N.n A.p (low ++ d)
      return (A, p)
  else throw (.fault .write)

def mpi_montred (A N : mpi) (mm : UInt32) (T : mpi) : Except MpiError (mpi × List UInt32) :=
  mpi_montmul A ⟨1, [1], one_le_digits⟩ N mm T

section

variable {m : UInt32}

theorem seed_case {Q r c e : UInt32} (hm : m = 16 * Q + r) (hr : r * (r + c) = 1 + 16 * e) : ∃ y, m * (m + c) = 1 + 16 * y := by
  refine ⟨16 * Q * Q + Q * (2 * r + c) + e, ?_⟩
  calc m * (m + c) = 16 * (16 * Q * Q + Q * (2 * r + c)) + r * (r + c) := by rw [hm]; grind
    _ = 16 * (16 * Q * Q + Q * (2 * r + c)) + (1 + 16 * e) := by rw [hr]
    _ = 1 + 16 * (16 * Q * Q + Q * (2 * r + c) + e) := by grind

theorem toNat_seed (m : UInt32) : ((m + 2) &&& 4).toNat = (m.toNat + 2) / 4 % 2 * 4 := by
  rw [UInt32.toNat_and, UInt32.toNat_add]
  change (m.toNat + 2) % 4294967296 &&& 2 ^ 2 = _
  rw [Nat.and_two_pow, Nat.testBit_eq_decide_div_mod_eq]
  by_cases hbit : (m.toNat + 2) / 4 % 2 = 1
  · have hbit' : (m.toNat + 2) % 4294967296 / 4 % 2 = 1 := by omega
    simp [hbit, hbit']
  · have hbit' : (m.toNat + 2) % 4294967296 / 4 % 2 = 0 := by omega
    have hzero : (m.toNat + 2) / 4 % 2 = 0 := by omega
    simp [hbit', hzero]

/-- An inverse for the lowest four bits of an odd word. -/
theorem seed_inverse (h : m.toNat % 2 = 1) : ∃ y, m * (m + (((m + 2) &&& 4) <<< 1)) = 1 + 16 * y := by
  have hm : m = 16 * UInt32.ofNat (m.toNat / 16) + UInt32.ofNat (m.toNat % 16) := by
    calc m = UInt32.ofNat (16 * (m.toNat / 16) + m.toNat % 16) := by rw [Nat.div_add_mod, UInt32.ofNat_toNat]
      _ = _ := by rw [UInt32.ofNat_add, UInt32.ofNat_mul]; rfl
  have hclear (hbit : (m.toNat + 2) / 4 % 2 = 0) : ((m + 2) &&& 4) <<< 1 = 0 := by
    have hand : (m + 2) &&& 4 = 0 := UInt32.toNat_inj.mp (by rw [toNat_seed, hbit]; rfl)
    rw [hand]
    rfl
  have hset (hbit : (m.toNat + 2) / 4 % 2 = 1) : ((m + 2) &&& 4) <<< 1 = 8 := by
    have hand : (m + 2) &&& 4 = 4 := UInt32.toNat_inj.mp (by rw [toNat_seed, hbit]; rfl)
    rw [hand]
    rfl
  obtain hr | hr | hr | hr | hr | hr | hr | hr : m.toNat % 16 = 1 ∨ m.toNat % 16 = 3 ∨ m.toNat % 16 = 5 ∨ m.toNat % 16 = 7 ∨
      m.toNat % 16 = 9 ∨ m.toNat % 16 = 11 ∨ m.toNat % 16 = 13 ∨ m.toNat % 16 = 15 := by
    omega
  all_goals rw [hr] at hm
  · rw [hclear (by omega)]
    exact seed_case (e := 0) hm rfl
  · rw [hset (by omega)]
    exact seed_case (e := 2) hm rfl
  · rw [hset (by omega)]
    exact seed_case (e := 4) hm rfl
  · rw [hclear (by omega)]
    exact seed_case (e := 3) hm rfl
  · rw [hclear (by omega)]
    exact seed_case (e := 5) hm rfl
  · rw [hset (by omega)]
    exact seed_case (e := 13) hm rfl
  · rw [hset (by omega)]
    exact seed_case (e := 17) hm rfl
  · rw [hclear (by omega)]
    exact seed_case (e := 14) hm rfl

theorem mul_montg_init {N : mpi} (h : N.abs % 2 = 1) : N.p.getD 0 0 * mpi_montg_init N = -1 := by
  have hodd : (N.p.getD 0 0).toNat % 2 = 1 := by
    rw [← ofNat_val, UInt32.toNat_ofNat', ← mpi.abs]
    omega
  obtain ⟨y, hy⟩ := seed_inverse hodd
  have hinv := newton_step (newton_step (newton_step hy))
  have hradix : (16 * 16 * (16 * 16) * (16 * 16 * (16 * 16)) : UInt32) = 0 := rfl
  rw [hradix, UInt32.zero_mul, UInt32.add_zero] at hinv
  rw [mpi_montg_init]
  rw [← UInt32.neg_eq_not_add, UInt32.mul_neg, hinv]

end

section

variable {B N : mpi} {mm : UInt32}

/-- The multiple of `N` that a turn adds clears the lowest limb. -/
theorem clears_lowest (hmm : N.p.getD 0 0 * mm = -1) (d : List UInt32) (u0 : UInt32) :
    UInt32.ofNat (Limbs.val d + u0.toNat * B.abs + ((d.getD 0 0 + u0 * B.p.getD 0 0) * mm).toNat * N.abs) = 0 := by
  rw [UInt32.ofNat_add, UInt32.ofNat_add, UInt32.ofNat_mul, UInt32.ofNat_mul, UInt32.ofNat_toNat, UInt32.ofNat_toNat,
    ofNat_val, mpi.abs, ofNat_val, mpi.abs, ofNat_val]
  grind

/-- A turn divides by the radix, once a multiple of `N` has been added that clears
the lowest limb. -/
theorem montTurn_ok {u0 : UInt32} {d : List UInt32} (hmm : N.p.getD 0 0 * mm = -1) (hB : B.abs ≤ N.abs)
    (hlen : N.n + 3 ≤ d.length) (hd : Limbs.val d < 2 * N.abs) :
    ∃ q u1, montTurn B N mm u0 d = .ok q ∧ q.length + 1 = d.length ∧ Limbs.val q < 2 * N.abs ∧
      4294967296 * Limbs.val q = Limbs.val d + u0.toNat * B.abs + u1 * N.abs := by
  have hN : N.abs < 4294967296 ^ N.n := val_lt N.p
  have hnext : 4294967296 ^ (N.n + 1) = 4294967296 ^ N.n * 4294967296 := pow_succ _ _
  have hroom : 4294967296 ^ (N.n + 1) * 4294967296 ≤ 4294967296 ^ d.length :=
    Nat.le_trans (Nat.le_of_eq (pow_succ _ _).symm) (Nat.pow_le_pow_right (by decide) (by omega))
  obtain ⟨m, hm⟩ : ∃ m, m = if B.n < N.n then B.n else N.n := ⟨_, rfl⟩
  have hmB : m ≤ B.n ∧ m ≤ N.n := by
    rw [hm]
    split <;> omega
  have htakeB : Limbs.val (B.p.take m) = B.abs := by
    rw [hm]
    split
    · exact B.val_take_n
    · exact val_take_of_lt (Nat.lt_of_le_of_lt hB hN)
  have hu₀ := u0.toNat_lt
  have hprod₀ : u0.toNat * B.abs ≤ 4294967295 * N.abs := Nat.mul_le_mul (by omega) hB
  obtain ⟨d₁, h₁, hval₁, hlen₁⟩ := @mpi_mul_hlp_ok u0 m B.p d hmB.1 (by omega) (by rw [htakeB]; omega)
  obtain ⟨u1, hu⟩ : ∃ u1, u1 = (d.getD 0 0 + u0 * B.p.getD 0 0) * mm := ⟨_, rfl⟩
  have hu₁ := u1.toNat_lt
  have hprod₁ : u1.toNat * N.abs ≤ 4294967295 * N.abs := Nat.mul_le_mul_right _ (by omega)
  rw [htakeB] at hval₁
  obtain ⟨d₂, h₂, hval₂, hlen₂⟩ := @mpi_mul_hlp_ok u1 N.n N.p d₁ (Nat.le_refl _) (by omega) (by
    rw [N.val_take_n, hval₁, hlen₁]
    omega)
  rw [N.val_take_n, hval₁] at hval₂
  have hclear := @clears_lowest B N mm hmm d u0
  rw [← hu, ← hval₂, ofNat_val] at hclear
  cases d₂ with
  | nil =>
    rw [List.length_nil] at hlen₂
    omega
  | cons x q =>
    rw [List.length_cons] at hlen₂
    rw [List.getD_cons_zero] at hclear
    rw [val_cons, hclear, UInt32.toNat_zero, Nat.zero_add] at hval₂
    have hsmall : Limbs.val q < 2 * N.abs := by omega
    have hset : q.set (N.n + 1) 0 = q := set_zero_of_val_lt (by omega)
    refine ⟨q, u1.toNat, ?_, by omega, hsmall, hval₂⟩
    rw [montTurn]
    dsimp only
    rw [← hm, ← hu, h₁, mpi_ok_bind, h₂, mpi_ok_bind, List.tail_cons, if_pos (by omega), hset]
    rfl

theorem montLoop_ok {a low d : List UInt32} (hmm : N.p.getD 0 0 * mm = -1) (hB : B.abs ≤ N.abs)
    (hlen : N.n + 2 + a.length ≤ d.length) (hd : Limbs.val d < 2 * N.abs) :
    ∃ r q, montLoop B N mm a low d = .ok (low ++ a, r) ∧ r.length + a.length = d.length ∧ Limbs.val r < 2 * N.abs ∧
      4294967296 ^ a.length * Limbs.val r = Limbs.val d + Limbs.val a * B.abs + q * N.abs := by
  induction a generalizing low d with
  | nil => exact ⟨d, 0, by simp [montLoop], rfl, hd, by simp⟩
  | cons u0 a ih =>
    rw [List.length_cons] at hlen
    obtain ⟨d₁, u1, h₁, hlen₁, hsmall, hval⟩ := @montTurn_ok B N mm u0 d hmm hB (by omega) hd
    obtain ⟨r, q, hr, hlen', hsmall', hval'⟩ := @ih (low ++ [u0]) d₁ (by omega) hsmall
    refine ⟨r, u1 + 4294967296 * q, ?_, ?_, hsmall', ?_⟩
    · rw [montLoop, h₁, mpi_ok_bind, hr, List.append_assoc]
      rfl
    · rw [List.length_cons]
      omega
    · rw [List.length_cons, val_cons, Nat.pow_succ]
      calc 4294967296 ^ a.length * 4294967296 * Limbs.val r
        _ = 4294967296 * (4294967296 ^ a.length * Limbs.val r) := by ring
        _ = 4294967296 * Limbs.val d₁ + 4294967296 * (Limbs.val a * B.abs + q * N.abs) := by rw [hval']; ring
        _ = _ := by rw [hval]; ring

/-- Montgomery's product of reduced numbers is reduced, and is their product
divided by the power of the radix that `N` has limbs for. -/
theorem mpi_montmul_ok {A T : mpi} (hN : N.abs % 2 = 1) (hA : A.abs < N.abs) (hB : B.abs ≤ N.abs)
    (hAn : N.n + 1 ≤ A.n) (hTn : 2 * (N.n + 1) ≤ T.n) :
    ∃ A' t, mpi_montmul A B N (mpi_montg_init N) T = .ok (A', t) ∧ A'.s = A.s ∧ A'.n = A.n ∧ A'.abs < N.abs ∧
      A'.abs * 4294967296 ^ N.n ≡ A.abs * B.abs [MOD N.abs] := by
  have hlt : N.abs < 4294967296 ^ N.n := val_lt N.p
  have hnext : 4294967296 ^ (N.n + 1) = 4294967296 ^ N.n * 4294967296 := pow_succ _ _
  have htakeA : Limbs.val (A.p.take N.n) = A.abs := val_take_of_lt (Nat.lt_trans hA hlt)
  have hlenA : (A.p.take N.n).length = N.n := by
    rw [List.length_take]
    exact Nat.min_eq_left (Nat.le_of_succ_le hAn)
  obtain ⟨r, q, hloop, hlen, hsmall, hval⟩ := @montLoop_ok B N (mpi_montg_init N) (A.p.take N.n) [] (List.replicate T.n 0)
    (mul_montg_init hN) hB (by rw [hlenA, List.length_replicate]; omega) (by rw [val_replicate_zero]; omega)
  rw [hlenA, val_replicate_zero, htakeA, Nat.zero_add] at hval
  rw [hlenA, List.length_replicate] at hlen
  have hfits : N.n + 1 ≤ A.n ∧ N.n + 1 ≤ r.length := by omega
  have hcopied := abs_memcpy hfits (by omega) (show Limbs.val r < 4294967296 ^ (N.n + 1) by omega)
  rw [mpi_montmul, hloop, mpi_ok_bind]
  dsimp only
  rw [dif_pos hfits]
  generalize hA₁ : A.setLimbs (r.take (N.n + 1) ++ A.p.drop (N.n + 1)) (length_memcpy hfits) = A₁ at *
  have hn₁ : A₁.n = A.n := by
    rw [← hA₁]
    exact length_memcpy hfits
  have hs₁ : A₁.s = A.s := by
    rw [← hA₁]
    rfl
  rw [List.nil_append]
  by_cases hge : N.abs ≤ A₁.abs
  · obtain ⟨p, hp, hpval, hplen⟩ := @mpi_sub_hlp_ok N.n N.p A₁.p (by rw [← mpi.n]; omega) (by rwa [N.val_take_n, ← mpi.abs])
    change p.length = A₁.n at hplen
    rw [N.val_take_n, ← mpi.abs, hcopied] at hpval
    refine ⟨A₁.setLimbs p hplen, A.p.take N.n ++ r, ?_, hs₁, hplen.trans hn₁, ?_, ?_⟩
    · rw [if_pos ((mpi_cmp_abs_nonneg_iff A₁ N).mpr hge), hp, mpi_ok_bind, dif_pos hplen]
      rfl
    · rw [mpi.abs, mpi.setLimbs_p]
      omega
    · have hsum : Limbs.val p * 4294967296 ^ N.n + 4294967296 ^ N.n * N.abs = A.abs * B.abs + q * N.abs := by
        rw [← hval, ← hpval]
        ring
      change Limbs.val p * 4294967296 ^ N.n % N.abs = A.abs * B.abs % N.abs
      calc Limbs.val p * 4294967296 ^ N.n % N.abs
        _ = (Limbs.val p * 4294967296 ^ N.n + 4294967296 ^ N.n * N.abs) % N.abs := (Nat.add_mul_mod_self_right _ _ _).symm
        _ = (A.abs * B.abs + q * N.abs) % N.abs := by rw [hsum]
        _ = A.abs * B.abs % N.abs := Nat.add_mul_mod_self_right _ _ _
  · obtain ⟨p, hp, -, -⟩ := @mpi_sub_hlp_ok N.n A₁.p (A.p.take N.n ++ r) (by rw [List.length_append]; omega) (by
      rw [val_append, hlenA, val_take, ← mpi.abs, hcopied]
      calc Limbs.val r % 4294967296 ^ N.n ≤ Limbs.val r := Nat.mod_le _ _
        _ ≤ 4294967296 ^ N.n * Limbs.val r := Nat.le_mul_of_pos_left _ (Nat.pow_pos (by decide))
        _ ≤ _ := Nat.le_add_left _ _)
    refine ⟨A₁, p, ?_, hs₁, hn₁, by omega, ?_⟩
    · rw [if_neg (mt (mpi_cmp_abs_nonneg_iff A₁ N).mp hge), hp]
      rfl
    · rw [hcopied, Nat.mul_comm, hval]
      exact Nat.add_mul_mod_self_right _ _ _

theorem mpi_montred_ok {A T : mpi} (hN : N.abs % 2 = 1) (hA : A.abs < N.abs) (hAn : N.n + 1 ≤ A.n) (hTn : 2 * (N.n + 1) ≤ T.n) :
    ∃ A' t, mpi_montred A N (mpi_montg_init N) T = .ok (A', t) ∧ A'.s = A.s ∧ A'.n = A.n ∧ A'.abs < N.abs ∧
      A'.abs * 4294967296 ^ N.n ≡ A.abs [MOD N.abs] := by
  have hone : (⟨1, [1], one_le_digits⟩ : mpi).abs = 1 := rfl
  obtain ⟨A', t, hrun, hs, hn, hlt, hval⟩ := @mpi_montmul_ok ⟨1, [1], one_le_digits⟩ N A T hN hA (by omega) hAn hTn
  rw [hone, Nat.mul_one] at hval
  exact ⟨A', t, hrun, hs, hn, hlt, hval⟩

theorem coprime_radix (hN : N.abs % 2 = 1) : Nat.gcd N.abs (4294967296 ^ N.n) = 1 := by
  have htwo : Nat.Coprime N.abs 2 := Nat.coprime_two_right.mpr (Nat.odd_iff.mpr hN)
  exact Nat.Coprime.pow_right N.n (Nat.Coprime.pow_right 32 htwo)

/-- Below the modulus, the product and the reduction divide by the power of the
radix that `N` has limbs for, and stay below the modulus. -/
theorem montgomery_division {A T : mpi} (hN : N.abs % 2 = 1) (hA : A.abs < N.abs) (hB : B.abs ≤ N.abs)
    (hAn : N.n + 1 ≤ A.n) (hTn : 2 * (N.n + 1) ≤ T.n) :
    (∃ P t, mpi_montmul A B N (mpi_montg_init N) T = .ok (P, t) ∧ P.s = A.s ∧ P.n = A.n ∧ P.abs < N.abs ∧
      P.abs * 4294967296 ^ N.n ≡ A.abs * B.abs [MOD N.abs]) ∧
      ∃ R t, mpi_montred A N (mpi_montg_init N) T = .ok (R, t) ∧ R.s = A.s ∧ R.n = A.n ∧ R.abs < N.abs ∧
        R.abs * 4294967296 ^ N.n ≡ A.abs [MOD N.abs] :=
  ⟨mpi_montmul_ok hN hA hB hAn hTn, mpi_montred_ok hN hA hAn hTn⟩

theorem montgomery_division_short :
    (∃ P t, mpi_montmul ⟨1, [5, 7, 0], by decide⟩ ⟨1, [9], one_le_digits⟩ ⟨1, [4294967295, 4294967295], by decide⟩
        (mpi_montg_init ⟨1, [4294967295, 4294967295], by decide⟩) ⟨1, List.replicate 6 0, by decide⟩ = .ok (P, t) ∧ P.s = 1 ∧
      P.n = 3 ∧ P.abs < 18446744073709551615 ∧
      P.abs * 4294967296 ^ 2 ≡ 30064771077 * 9 [MOD 18446744073709551615]) ∧
      ∃ R t, mpi_montred ⟨1, [5, 7, 0], by decide⟩ ⟨1, [4294967295, 4294967295], by decide⟩
          (mpi_montg_init ⟨1, [4294967295, 4294967295], by decide⟩) ⟨1, List.replicate 6 0, by decide⟩ = .ok (R, t) ∧ R.s = 1 ∧
        R.n = 3 ∧ R.abs < 18446744073709551615 ∧ R.abs * 4294967296 ^ 2 ≡ 30064771077 [MOD 18446744073709551615] :=
  @montgomery_division ⟨1, [9], one_le_digits⟩ ⟨1, [4294967295, 4294967295], by decide⟩ ⟨1, [5, 7, 0], by decide⟩
    ⟨1, List.replicate 6 0, by decide⟩ (by decide) (by decide) (by decide) (by decide) (by decide)

/-- The product with `RR`, the square of the power of the radix, is Montgomery's
form of `A`: its product with `B` is the product of `A` and `B` modulo `N`, and its
reduction is `A`. -/
theorem montgomery_round_trip {A RR T : mpi} (hN : N.abs % 2 = 1) (hA : A.abs < N.abs) (hRR : RR.abs < N.abs)
    (hsquare : RR.abs ≡ 4294967296 ^ N.n * 4294967296 ^ N.n [MOD N.abs]) (hAn : N.n + 1 ≤ A.n) (hTn : 2 * (N.n + 1) ≤ T.n) :
    ∃ W t, mpi_montmul A RR N (mpi_montg_init N) T = .ok (W, t) ∧
      (∀ B : mpi, B.abs < N.abs → ∃ P t, mpi_montmul W B N (mpi_montg_init N) T = .ok (P, t) ∧ P.abs = A.abs * B.abs % N.abs) ∧
      ∃ A' t, mpi_montred W N (mpi_montg_init N) T = .ok (A', t) ∧ A'.abs = A.abs := by
  obtain ⟨W, t, hW, -, hWn, hWlt, hWval⟩ := mpi_montmul_ok (T := T) hN hA (Nat.le_of_lt hRR) hAn hTn
  -- `W` is `A` times the power of the radix
  have hform : W.abs ≡ A.abs * 4294967296 ^ N.n [MOD N.abs] := by
    apply Nat.ModEq.cancel_right_of_coprime (coprime_radix hN)
    rw [Nat.mul_assoc]
    exact hWval.trans (hsquare.mul_left A.abs)
  have hroom : N.n + 1 ≤ W.n := by
    rw [hWn]
    exact hAn
  refine ⟨W, t, hW, fun B hB => ?_, ?_⟩
  · obtain ⟨P, t', hP, -, -, hPlt, hPval⟩ := mpi_montmul_ok (T := T) hN hWlt (Nat.le_of_lt hB) hroom hTn
    have hprod : P.abs ≡ A.abs * B.abs [MOD N.abs] := by
      apply Nat.ModEq.cancel_right_of_coprime (coprime_radix hN)
      rw [Nat.mul_right_comm]
      exact hPval.trans (hform.mul_right B.abs)
    exact ⟨P, t', hP, (Nat.mod_eq_of_lt hPlt).symm.trans hprod⟩
  · obtain ⟨A', t', hA', -, -, hlt, hval⟩ := mpi_montred_ok (T := T) hN hWlt hroom hTn
    have hback : A'.abs ≡ A.abs [MOD N.abs] := Nat.ModEq.cancel_right_of_coprime (coprime_radix hN) (hval.trans hform)
    exact ⟨A', t', hA', hback.eq_of_lt_of_lt hlt hA⟩

/-- A modulus that both the power of the radix and its square leave 1 for. -/
theorem montgomery_round_trip_short :
    ∃ W t, mpi_montmul ⟨1, [5, 7, 0], by decide⟩ ⟨1, [1], one_le_digits⟩ ⟨1, [4294967295, 4294967295], by decide⟩
        (mpi_montg_init ⟨1, [4294967295, 4294967295], by decide⟩) ⟨1, List.replicate 6 0, by decide⟩ = .ok (W, t) ∧
      (∀ B : mpi, B.abs < 18446744073709551615 → ∃ P t, mpi_montmul W B ⟨1, [4294967295, 4294967295], by decide⟩
        (mpi_montg_init ⟨1, [4294967295, 4294967295], by decide⟩) ⟨1, List.replicate 6 0, by decide⟩ = .ok (P, t) ∧
          P.abs = 30064771077 * B.abs % 18446744073709551615) ∧
      ∃ A' t, mpi_montred W ⟨1, [4294967295, 4294967295], by decide⟩ (mpi_montg_init ⟨1, [4294967295, 4294967295], by decide⟩)
        ⟨1, List.replicate 6 0, by decide⟩ = .ok (A', t) ∧ A'.abs = 30064771077 :=
  @montgomery_round_trip ⟨1, [4294967295, 4294967295], by decide⟩ ⟨1, [5, 7, 0], by decide⟩ ⟨1, [1], one_le_digits⟩
    ⟨1, List.replicate 6 0, by decide⟩ (by decide) (by decide) (by decide) (by decide) (by decide) (by decide)

end

end ZCloud
