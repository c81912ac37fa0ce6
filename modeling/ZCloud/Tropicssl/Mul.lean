import ZCloud.Tropicssl.AddSub

open Memory Limbs

namespace ZCloud

/-- Half the number of bits of a limb. -/
def biH : UInt32 := 16

/-- `MULADDC_CORE`: the product of `s` and `b`, to which `c` and `d` are added, as
its low word and its high word. -/
def MULADDC_CORE (s b c d : UInt32) : UInt32 × UInt32 :=
  let b0 := (b <<< biH) >>> biH
  let b1 := b >>> biH
  let s0 := (s <<< biH) >>> biH
  let s1 := s >>> biH
  let rx := s0 * b1
  let r0 := s0 * b0
  let ry := s1 * b0
  let r1 := s1 * b1
  let r1 := r1 + (rx >>> biH)
  let r1 := r1 + (ry >>> biH)
  let rx := rx <<< biH
  let ry := ry <<< biH
  let r1 := r1 + carry r0 rx
  let r0 := r0 + rx
  let r1 := r1 + carry r0 ry
  let r0 := r0 + ry
  let r1 := r1 + carry r0 c
  let r0 := r0 + c
  let r1 := r1 + carry r0 d
  let r0 := r0 + d
  (r0, r1)

/-- Where the loops of `mpi_mul_hlp` are: what is left of the source, what has been
written of the destination and what is left of it, and what is carried. -/
structure Row where
  s : List UInt32
  written : List UInt32
  d : List UInt32
  c : UInt32

section

variable (b : UInt32)

/-- `MULADDC_CORE`, `k` times in a row. -/
def cores : (k : Nat) → Row → Except MpiError Row
  | 0, r => .ok r
  | k + 1, r =>
    match r.s, r.d with
    | s :: ss, d :: ds =>
      let (r0, r1) := MULADDC_CORE s b r.c d
      cores k ⟨ss, r.written ++ [r0], ds, r1⟩
    | [], _ => .error (.fault .read)
    | _ :: _, [] => .error (.fault .write)

/-- A loop of `times` turns, each of which takes `step` limbs. -/
def unrolled (step : Nat) : (times : Nat) → Row → Except MpiError Row
  | 0, r => .ok r
  | times + 1, r => do
    let r ← cores b step r
    unrolled step times r

end

/-- The loop that adds what is carried, to one limb at least. -/
def carryInto : (d : List UInt32) → (c : UInt32) → Except MpiError (List UInt32)
  | [], _ => .error (.fault .write)
  | d :: ds, c =>
    if carry d c ≠ 0 then do
      let rest ← carryInto ds (carry d c)
      return (d + c) :: rest
    else .ok ((d + c) :: ds)

/-- Adds `b` times the first `i` limbs of `s` to `d`. -/
def mpi_mul_hlp (i : Nat) (s d : List UInt32) (b : UInt32) : Except MpiError (List UInt32) := do
  let r ← unrolled b 16 (i / 16) ⟨s, [], d, 0⟩
  let r ← unrolled b 8 (i % 16 / 8) r
  let r ← unrolled b 1 (i % 16 % 8) r
  let d ← carryInto r.d r.c
  return r.written ++ d

/-- The loop over the limbs of `B`, down from limb `j - 1`. -/
def mulRows (A B : List UInt32) (i : Nat) : (j : Nat) → (p : List UInt32) → Except MpiError (List UInt32)
  | 0, p => .ok p
  | j + 1, p => do
    let d ← mpi_mul_hlp i A (p.drop j) (B.getD j 0)
    mulRows A B i j (p.take j ++ d)

def mpi_mul_mpi (X : Dest) (A B : mpi) : Except MpiError mpi := do
  let X ← mpi_grow (X.held A B) (A.top + B.top)
  let X := mpi_lset X 0
  let p ← mulRows A.p B.p A.top B.top X.p
  if h : p.length = X.n then return { X.setLimbs p h with s := A.s * B.s }
  else throw (.fault .write)

section

variable {s b c d : UInt32}

theorem toNat_low (x : UInt32) : ((x <<< biH) >>> biH).toNat = x.toNat % 65536 := by
  have hx := x.toNat_lt
  rw [biH, UInt32.toNat_shiftRight, UInt32.toNat_shiftLeft]
  simp only [Nat.shiftLeft_eq, Nat.shiftRight_eq_div_pow]
  change x.toNat * 65536 % 4294967296 / 65536 = _
  omega

theorem toNat_high (x : UInt32) : (x >>> biH).toNat = x.toNat / 65536 := by
  rw [biH, UInt32.toNat_shiftRight, Nat.shiftRight_eq_div_pow]
  rfl

theorem toNat_raised (x : UInt32) : (x <<< biH).toNat = x.toNat % 65536 * 65536 := by
  have hx := x.toNat_lt
  rw [biH, UInt32.toNat_shiftLeft, Nat.shiftLeft_eq]
  change x.toNat * 65536 % 4294967296 = _
  omega

theorem toNat_mul_half {x y : UInt32} (hx : x.toNat < 65536) (hy : y.toNat < 65536) : (x * y).toNat = x.toNat * y.toNat := by
  have hmul := Nat.mul_le_mul (Nat.le_of_lt_succ hx) (Nat.le_of_lt_succ hy)
  rw [UInt32.toNat_mul]
  exact Nat.mod_eq_of_lt (by omega)

theorem toNat_add_of_lt {x y : UInt32} (h : x.toNat + y.toNat < 4294967296) : (x + y).toNat = x.toNat + y.toNat := by
  rw [UInt32.toNat_add]
  exact Nat.mod_eq_of_lt h

/-- Words of half the size give the product of the words, with no carry lost. -/
theorem MULADDC_CORE_eq (s b c d : UInt32) : (MULADDC_CORE s b c d).1.toNat + 4294967296 * (MULADDC_CORE s b c d).2.toNat =
    s.toNat * b.toNat + c.toNat + d.toNat := by
  have hs := s.toNat_lt
  have hb := b.toNat_lt
  have hc := c.toNat_lt
  have hd := d.toNat_lt
  have hs₀ := toNat_low s
  have hs₁ := toNat_high s
  have hb₀ := toNat_low b
  have hb₁ := toNat_high b
  rw [MULADDC_CORE]
  generalize (s <<< biH) >>> biH = s0 at *
  generalize s >>> biH = s1 at *
  generalize (b <<< biH) >>> biH = b0 at *
  generalize b >>> biH = b1 at *
  have hr₀ : (s0 * b0).toNat = _ := toNat_mul_half (by omega) (by omega)
  have hrx : (s0 * b1).toNat = _ := toNat_mul_half (by omega) (by omega)
  have hry : (s1 * b0).toNat = _ := toNat_mul_half (by omega) (by omega)
  have hr₁ : (s1 * b1).toNat = _ := toNat_mul_half (by omega) (by omega)
  have hprod : s.toNat * b.toNat = s0.toNat * b0.toNat + 65536 * (s0.toNat * b1.toNat) + 65536 * (s1.toNat * b0.toNat) +
      4294967296 * (s1.toNat * b1.toNat) := by
    have hs' : s.toNat = s0.toNat + 65536 * s1.toNat := by omega
    have hb' : b.toNat = b0.toNat + 65536 * b1.toNat := by omega
    rw [hs', hb']
    ring
  rw [← hr₀, ← hrx, ← hry, ← hr₁] at hprod
  have hbound := Nat.mul_le_mul (Nat.le_of_lt_succ hs) (Nat.le_of_lt_succ hb)
  generalize s0 * b0 = r0 at *
  generalize s0 * b1 = rx at *
  generalize s1 * b0 = ry at *
  generalize s1 * b1 = r1 at *
  have hxh := toNat_high rx
  have hyh := toNat_high ry
  have hxl := toNat_raised rx
  have hyl := toNat_raised ry
  dsimp only
  generalize rx >>> biH = xh at *
  generalize ry >>> biH = yh at *
  generalize rx <<< biH = xl at *
  generalize ry <<< biH = yl at *
  have h₁ := add_carry r0 xl
  have h₂ := add_carry (r0 + xl) yl
  have h₃ := add_carry (r0 + xl + yl) c
  have h₄ := add_carry (r0 + xl + yl + c) d
  -- the high words and the carries are as large as the product has room for
  have hsum : (r0 + xl + yl + c + d).toNat + 4294967296 * (r1.toNat + xh.toNat + yh.toNat + (carry r0 xl).toNat +
      (carry (r0 + xl) yl).toNat + (carry (r0 + xl + yl) c).toNat + (carry (r0 + xl + yl + c) d).toNat) =
      s.toNat * b.toNat + c.toNat + d.toNat := by
    omega
  have e₁ : (r1 + xh).toNat = _ := toNat_add_of_lt (by omega)
  have e₂ : (r1 + xh + yh).toNat = _ := toNat_add_of_lt (by omega)
  have e₃ : (r1 + xh + yh + carry r0 xl).toNat = _ := toNat_add_of_lt (by omega)
  have e₄ : (r1 + xh + yh + carry r0 xl + carry (r0 + xl) yl).toNat = _ := toNat_add_of_lt (by omega)
  have e₅ : (r1 + xh + yh + carry r0 xl + carry (r0 + xl) yl + carry (r0 + xl + yl) c).toNat = _ := toNat_add_of_lt (by omega)
  have e₆ : (r1 + xh + yh + carry r0 xl + carry (r0 + xl) yl + carry (r0 + xl + yl) c + carry (r0 + xl + yl + c) d).toNat = _ :=
    toNat_add_of_lt (by omega)
  rw [e₆, e₅, e₄, e₃, e₂, e₁]
  exact hsum

end

section

variable {b : UInt32}

theorem cores_add (k l : Nat) (r : Row) : cores b (k + l) r = (cores b k r >>= cores b l) := by
  induction k generalizing r with
  | zero => rw [Nat.zero_add, cores, mpi_ok_bind]
  | succ k ih =>
    obtain ⟨s, written, d, c⟩ := r
    rw [Nat.succ_add]
    cases s with
    | nil => rfl
    | cons s ss =>
      cases d with
      | nil => rfl
      | cons d ds => exact ih _

theorem unrolled_eq (step times : Nat) (r : Row) : unrolled b step times r = cores b (step * times) r := by
  induction times generalizing r with
  | zero => rfl
  | succ times ih =>
    rw [unrolled, Nat.mul_succ, Nat.add_comm, cores_add]
    exact congrArg (cores b step r >>= ·) (funext ih)

/-- The loops of several turns at a time do what the loop of single turns does. -/
theorem mpi_mul_hlp_eq (i : Nat) (s d : List UInt32) (b : UInt32) : mpi_mul_hlp i s d b = (do
    let r ← cores b i ⟨s, [], d, 0⟩
    let d ← carryInto r.d r.c
    return r.written ++ d) := by
  have hi : i = 16 * (i / 16) + (8 * (i % 16 / 8) + 1 * (i % 16 % 8)) := by omega
  rw [mpi_mul_hlp]
  conv => rhs; rw [hi, cores_add]
  simp only [unrolled_eq, cores_add, bind_assoc]

theorem cores_ok {k : Nat} {s d w : List UInt32} {c : UInt32} (hs : k ≤ s.length) (hd : k ≤ d.length) :
    ∃ q c', cores b k ⟨s, w, d, c⟩ = .ok ⟨s.drop k, w ++ q, d.drop k, c'⟩ ∧ q.length = k ∧
      Limbs.val q + 4294967296 ^ k * c'.toNat = Limbs.val (d.take k) + b.toNat * Limbs.val (s.take k) + c.toNat := by
  induction k generalizing s d w c with
  | zero => exact ⟨[], c, by simp [cores], rfl, by simp⟩
  | succ k ih =>
    cases s with
    | nil => cases hs
    | cons s ss =>
      cases d with
      | nil => cases hd
      | cons d ds =>
        have hcore := MULADDC_CORE_eq s b c d
        obtain ⟨q, c', hrun, hlen, hval⟩ := @ih ss ds (w ++ [(MULADDC_CORE s b c d).1]) (MULADDC_CORE s b c d).2
          (Nat.le_of_succ_le_succ hs) (Nat.le_of_succ_le_succ hd)
        refine ⟨(MULADDC_CORE s b c d).1 :: q, c', ?_, congrArg Nat.succ hlen, ?_⟩
        · rw [List.append_assoc] at hrun
          exact hrun
        · rw [val_cons, List.take_succ_cons, List.take_succ_cons, val_cons, val_cons, Nat.pow_succ]
          generalize MULADDC_CORE s b c d = core at hcore hval ⊢
          generalize Limbs.val (ds.take k) = dval at hval ⊢
          generalize Limbs.val (ss.take k) = sval at hval ⊢
          calc core.1.toNat + 4294967296 * Limbs.val q + 4294967296 ^ k * 4294967296 * c'.toNat
            _ = core.1.toNat + 4294967296 * (Limbs.val q + 4294967296 ^ k * c'.toNat) := by ring
            _ = core.1.toNat + 4294967296 * core.2.toNat + 4294967296 * (dval + b.toNat * sval) := by rw [hval]; ring
            _ = d.toNat + 4294967296 * dval + b.toNat * (s.toNat + 4294967296 * sval) + c.toNat := by rw [hcore]; ring

theorem carryInto_ok {d : List UInt32} {c : UInt32} (hd : 0 < d.length) (h : Limbs.val d + c.toNat < 4294967296 ^ d.length) :
    ∃ q, carryInto d c = .ok q ∧ Limbs.val q = Limbs.val d + c.toNat ∧ q.length = d.length := by
  induction d generalizing c with
  | nil => cases hd
  | cons d ds ih =>
    have hadd := add_carry d c
    have hw := (d + c).toNat_lt
    by_cases hc : carry d c = 0
    · refine ⟨(d + c) :: ds, ?_, ?_, rfl⟩
      · rw [carryInto, if_neg (by simpa using hc)]
      · rw [hc, UInt32.toNat_zero] at hadd
        rw [val_cons, val_cons]
        omega
    · have hpos : (carry d c).toNat ≠ 0 := fun hzero => hc (UInt32.toNat_inj.mp hzero)
      rw [List.length_cons, Nat.pow_succ, val_cons] at h
      have hds : 0 < ds.length := by
        rcases Nat.eq_zero_or_pos ds.length with hnil | hnil
        · rw [hnil, Nat.pow_zero] at h
          omega
        · exact hnil
      obtain ⟨q, hq, hval, hlen⟩ := @ih (carry d c) hds (by omega)
      refine ⟨(d + c) :: q, ?_, ?_, congrArg Nat.succ hlen⟩
      · rw [carryInto, if_pos hc, hq]
        rfl
      · rw [val_cons, val_cons]
        omega

/-- The product with one limb is added, when there is room for the sum and for one
limb more than there are in the factor. -/
theorem mpi_mul_hlp_ok {i : Nat} {s d : List UInt32} (hs : i ≤ s.length) (hd : i < d.length)
    (hroom : Limbs.val d + b.toNat * Limbs.val (s.take i) < 4294967296 ^ d.length) :
    ∃ q, mpi_mul_hlp i s d b = .ok q ∧ Limbs.val q = Limbs.val d + b.toNat * Limbs.val (s.take i) ∧ q.length = d.length := by
  obtain ⟨w, c, hrun, hlen, hval⟩ := @cores_ok b i s d [] 0 hs (Nat.le_of_lt hd)
  have hsplit := val_take_add_drop d i
  have hpow := pow_mul_pow_sub 4294967296 (Nat.le_of_lt hd)
  have htotal : Limbs.val w + 4294967296 ^ i * (Limbs.val (d.drop i) + c.toNat) = Limbs.val d + b.toNat * Limbs.val (s.take i) := by
    rw [Nat.mul_add]
    change Limbs.val w + _ = Limbs.val (d.take i) + _ + 0 at hval
    omega
  obtain ⟨q, hq, hqval, hqlen⟩ := @carryInto_ok (d.drop i) c (by rw [List.length_drop]; omega) (by
    rw [List.length_drop]
    apply Nat.lt_of_mul_lt_mul_left
    rw [hpow]
    exact Nat.lt_of_le_of_lt (Nat.le_trans (Nat.le_add_left _ _) (Nat.le_of_eq htotal)) hroom)
  refine ⟨w ++ q, ?_, ?_, ?_⟩
  · rw [mpi_mul_hlp_eq, hrun, mpi_ok_bind, List.nil_append]
    dsimp only
    rw [hq]
    rfl
  · rw [val_append, hlen, hqval, htotal]
  · rw [List.length_append, hlen, hqlen, List.length_drop]
    omega

end

/-- The rows that are left add what is left of the product. -/
theorem mulRows_ok {A B p : List UInt32} {i j : Nat} (hi : i ≤ A.length) (hlen : i + j ≤ p.length)
    (hroom : Limbs.val p + Limbs.val (A.take i) * Limbs.val (B.take j) < 4294967296 ^ p.length) :
    ∃ q, mulRows A B i j p = .ok q ∧ Limbs.val q = Limbs.val p + Limbs.val (A.take i) * Limbs.val (B.take j) ∧
      q.length = p.length := by
  induction j generalizing p with
  | zero => exact ⟨p, rfl, by simp, rfl⟩
  | succ j ih =>
    have hdrop : (p.drop j).length = p.length - j := List.length_drop
    have htake : (p.take j).length = j := by
      rw [List.length_take]
      omega
    rw [val_take_succ] at hroom ⊢
    -- the row of limb `j` adds its product `j` limbs further up
    have hrow : Limbs.val (p.take j) + 4294967296 ^ j * (Limbs.val (p.drop j) + (B.getD j 0).toNat * Limbs.val (A.take i)) =
        Limbs.val p + 4294967296 ^ j * ((B.getD j 0).toNat * Limbs.val (A.take i)) := by
      rw [← val_take_add_drop p j]
      ring
    have htotal : Limbs.val p + 4294967296 ^ j * ((B.getD j 0).toNat * Limbs.val (A.take i)) +
        Limbs.val (A.take i) * Limbs.val (B.take j) =
        Limbs.val p + Limbs.val (A.take i) * (Limbs.val (B.take j) + 4294967296 ^ j * (B.getD j 0).toNat) := by
      ring
    have hpow : 4294967296 ^ j * 4294967296 ^ (p.length - j) = 4294967296 ^ p.length := pow_mul_pow_sub _ (by omega)
    obtain ⟨d, hd, hdval, hdlen⟩ := @mpi_mul_hlp_ok (B.getD j 0) i A (p.drop j) hi (by omega) (by
      rw [hdrop]
      apply Nat.lt_of_mul_lt_mul_left
      rw [hpow]
      omega)
    have hval' : Limbs.val (p.take j ++ d) = Limbs.val p + 4294967296 ^ j * ((B.getD j 0).toNat * Limbs.val (A.take i)) := by
      rw [val_append, htake, hdval, hrow]
    have hlen' : (p.take j ++ d).length = p.length := by
      rw [List.length_append, htake, hdlen]
      omega
    obtain ⟨q, hq, hqval, hqlen⟩ := @ih (p.take j ++ d) (by omega) (by rwa [hval', hlen', htotal])
    refine ⟨q, ?_, ?_, hqlen.trans hlen'⟩
    · rw [mulRows, hd, mpi_ok_bind]
      exact hq
    · rw [hqval, hval', htotal]

/-- The product of numbers with a sign, wherever it goes to. -/
theorem mpi_mul_mpi_ok {A B : mpi} {k : Nat} (X : Dest) (hA : A.Signed) (hB : B.Signed) (hpos : 0 < k)
    (hk : k ≤ MAX_BIGNUM_DIGITS) (htop : A.top + B.top ≤ k) :
    ∃ X', mpi_mul_mpi X A B = .ok X' ∧ X'.Signed ∧ X.Fits A B k X' ∧ X'.val = A.val * B.val := by
  obtain ⟨G, hgrow, -, hp⟩ := @mpi_grow_ok (X.held A B) (A.top + B.top) (Nat.le_trans htop hk)
  have hG := n_of_grown hp
  have hn := mpi_lset_n G 0
  have habs : (mpi_lset G 0).abs = 0 := mpi_lset_abs G (by decide)
  have htopA := A.val_take_top
  have htopB := B.val_take_top
  have hroom : A.abs * B.abs < 4294967296 ^ (mpi_lset G 0).n :=
    calc A.abs * B.abs < 4294967296 ^ A.top * 4294967296 ^ B.top := Nat.mul_lt_mul'' A.abs_lt_top B.abs_lt_top
      _ = 4294967296 ^ (A.top + B.top) := (Nat.pow_add ..).symm
      _ ≤ 4294967296 ^ (mpi_lset G 0).n := Nat.pow_le_pow_right (by decide) (by omega)
  generalize hL : mpi_lset G 0 = L at *
  obtain ⟨q, hq, hval, hlength⟩ := @mulRows_ok A.p B.p L.p A.top B.top A.top_le (by rw [← mpi.n]; omega) (by
    rw [htopA, htopB, ← mpi.abs, habs, Nat.zero_add]
    exact hroom)
  rw [htopA, htopB, ← mpi.abs, habs, Nat.zero_add] at hval
  change q.length = L.n at hlength
  refine ⟨{ L.setLimbs q hlength with s := A.s * B.s }, ?_, hA.mul hB, ?_, ?_⟩
  · rw [mpi_mul_mpi, hgrow, mpi_ok_bind]
    dsimp only
    rw [hL, hq, mpi_ok_bind, dif_pos hlength]
    rfl
  · change (X.held A B).n ≤ q.length ∧ q.length ≤ max (X.held A B).n k
    omega
  · change A.s * B.s * (Limbs.val q : Int) = A.s * A.abs * (B.s * B.abs)
    rw [hval]
    push_cast
    ring

/-- A product of two limbs, which replaces the left operand. -/
theorem mpi_mul_mpi_ok_left : ∃ X', mpi_mul_mpi .left (mpi.ofInt 4294967295) (mpi.ofInt (-4294967295)) = .ok X' ∧ X'.Signed ∧
    Dest.left.Fits (mpi.ofInt 4294967295) (mpi.ofInt (-4294967295)) 2 X' ∧
    X'.val = (mpi.ofInt 4294967295).val * (mpi.ofInt (-4294967295)).val :=
  mpi_mul_mpi_ok .left (Or.inl rfl) (Or.inr rfl) (by decide) (by decide) (by decide)

end ZCloud
