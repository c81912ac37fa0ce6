import ZCloud.Tropicssl.Mpi

open Memory Limbs

namespace ZCloud

/-- Where a result goes: to one of the operands, or to a number of its own, that
holds something before. -/
inductive Dest where
  | left
  | right
  | own (X : mpi)

/-- The same place, when the operands change places. -/
def Dest.swap : Dest → Dest
  | left => right
  | right => left
  | own X => own X

/-- What the place holds before. -/
def Dest.held (A B : mpi) : Dest → mpi
  | left => A
  | right => B
  | own X => X

/-- What the place holds when the left operand has been copied to it. -/
def Dest.copied (A B : mpi) : Dest → mpi
  | left => A
  | right => mpi_copy B A
  | own X => mpi_copy X A

@[simp]
theorem Dest.copied_abs (X : Dest) (A B : mpi) : (X.copied A B).abs = A.abs := by
  cases X with
  | left => rfl
  | right => exact mpi_copy_abs B A
  | own X => exact mpi_copy_abs X A

/-- A result takes the limbs that its place had, or `k` of them. -/
def Dest.Fits (A B : mpi) (k : Nat) (X : Dest) (R : mpi) : Prop :=
  (X.held A B).n ≤ R.n ∧ R.n ≤ max (X.held A B).n k

theorem Dest.fits_copied {A B : mpi} {k : Nat} (X : Dest) (hk : 0 < k) (hA : A.abs < 4294967296 ^ k) :
    X.Fits A B k (X.copied A B) := by
  have hused := mpi.used_le_of_abs_lt hk hA
  cases X with
  | left => exact ⟨Nat.le_refl _, Nat.le_max_left _ _⟩
  | right =>
    rw [Fits, copied, held, mpi_copy_n]
    omega
  | own X =>
    rw [Fits, copied, held, mpi_copy_n]
    omega

theorem Dest.fits_swap {A B : mpi} {k : Nat} {X : Dest} {R : mpi} : X.swap.Fits B A k R ↔ X.Fits A B k R := by
  cases X <;> exact Iff.rfl

/-- The loop that passes on what is carried, and grows the number when its limbs
are at an end. The pointer `p` moves only then, to the limb that is new: as long as
there are limbs left, the round counter `i` moves alone. -/
def carryLoop : (fuel : Nat) → (X : List UInt32) → (p i : Nat) → (c : UInt32) → List UInt32
  | 0, X, _, _, _ => X
  | fuel + 1, X, p, i, c =>
    if c = 0 then X
    else if X.length ≤ i then
      let X := X ++ List.replicate (i + 1 - X.length) 0
      carryLoop fuel (X.set i (X.getD i 0 + c)) i (i + 1) (carry (X.getD i 0) c)
    else carryLoop fuel (X.set p (X.getD p 0 + c)) p (i + 1) (carry (X.getD p 0) c)

/-- Two rounds are enough. -/
def carryLimbs (X : List UInt32) (c : UInt32) : List UInt32 := carryLoop 2 X 0 0 c

/-- The loop that adds the limbs `o`. -/
def addLimbs : (o p : List UInt32) → (c : UInt32) → Except MpiError (List UInt32)
  | [], p, c => .ok (carryLimbs p c)
  | _ :: _, [], _ => .error (.fault .write)
  | o :: os, p :: ps, c => do
    let rest ← addLimbs os ps (carry p c + carry (p + c) o)
    return (p + c + o) :: rest

@[simp]
theorem carryLoop_zero (fuel : Nat) (X : List UInt32) (p i : Nat) : carryLoop fuel X p i 0 = X := by
  cases fuel with
  | zero => rfl
  | succ fuel => exact if_pos rfl

/-- Zero limbs carry nothing. -/
theorem carry_zero_left (c : UInt32) : carry 0 c = 0 := by
  simp [carry]

/-- The second word that is added to a limb that has overflowed carries nothing. -/
theorem carry_carry (x c : UInt32) : carry (x + c) (carry x c) = 0 := by
  have hadd := add_carry x c
  have hadd' := add_carry (x + c) (carry x c)
  have hle := toNat_carry_le x c
  have hx := x.toNat_lt
  have hc := c.toNat_lt
  have hw := (x + c).toNat_lt
  apply UInt32.toNat_inj.mp
  rw [UInt32.toNat_zero]
  omega

section

variable {x y c : UInt32} {xs : List UInt32}

theorem carryLoop_nil (fuel : Nat) (hc : c ≠ 0) : carryLoop (fuel + 1) [] 0 0 c = [c] := by
  rw [carryLoop, if_neg hc, List.length_nil, if_pos (Nat.le_refl 0)]
  simp [carry_zero_left]

/-- The last limb: what it carries makes a new one. -/
theorem carryLoop_last (fuel : Nat) (hc : c ≠ 0) :
    carryLoop (fuel + 2) [x] 0 0 c = if carry x c = 0 then [x + c] else [x + c, carry x c] := by
  rw [carryLoop, if_neg hc, List.length_cons, if_neg (Nat.not_le.mpr (Nat.succ_pos _))]
  by_cases hcarry : carry x c = 0
  · simp [hcarry]
  · rw [if_neg hcarry]
    simp [carryLoop, hcarry, carry_zero_left]

/-- Any other limb takes what it carries itself. -/
theorem carryLoop_cons (fuel : Nat) (hc : c ≠ 0) :
    carryLoop (fuel + 2) (x :: y :: xs) 0 0 c = (x + c + carry x c) :: y :: xs := by
  rw [carryLoop, if_neg hc, List.length_cons, if_neg (Nat.not_le.mpr (Nat.succ_pos _))]
  by_cases hcarry : carry x c = 0
  · simp [hcarry]
  · simp [carryLoop, hcarry, carry_carry]

end

/-- The rounds past the second one find nothing to carry. -/
theorem carryLoop_fuel (fuel : Nat) (X : List UInt32) (c : UInt32) :
    carryLoop (fuel + 2) X 0 0 c = carryLimbs X c := by
  rw [carryLimbs]
  by_cases hc : c = 0
  · rw [hc, carryLoop_zero, carryLoop_zero]
  · match X with
    | [] => rw [carryLoop_nil _ hc, carryLoop_nil _ hc]
    | [x] => rw [carryLoop_last _ hc, carryLoop_last 0 hc]
    | x :: y :: xs => rw [carryLoop_cons _ hc, carryLoop_cons 0 hc]

/-- The loop is left with limbs that do not hold the sum of `X`, the limbs `o` and
`c`: where `o` ends, something is carried into a limb that overflows, and that is
not the last one. -/
def LosesCarry (X o : List UInt32) (c : UInt32) : Prop :=
  X.getD o.length 0 = 0xFFFFFFFF ∧ o.length + 1 < X.length ∧
    4294967296 ^ o.length ≤ Limbs.val (X.take o.length) + Limbs.val o + c.toNat

theorem carry_eq_one_iff {x c : UInt32} (hc : c.toNat ≤ 1) : (carry x c).toNat = 1 ↔ x = 0xFFFFFFFF ∧ c.toNat = 1 := by
  have hadd := add_carry x c
  have hsum := (x + c).toNat_lt
  have hx := x.toNat_lt
  have hle := toNat_carry_le x c
  have hmax : (0xFFFFFFFF : UInt32).toNat = 4294967295 := UInt32.toNat_ofNat_of_lt (by decide)
  rw [← UInt32.toNat_inj, hmax]
  omega

/-- The limbs are one more only where there is no room for the sum. -/
theorem carryLimbs_ok (X : List UInt32) {c : UInt32} (hc : c.toNat ≤ 1) :
    (Limbs.val (carryLimbs X c) = Limbs.val X + c.toNat ↔ ¬ LosesCarry X [] c) ∧
      ((carryLimbs X c).length = X.length ∨
        (carryLimbs X c).length = X.length + 1 ∧ 4294967296 ^ X.length ≤ Limbs.val X + c.toNat) := by
  by_cases hzero : c = 0
  · simp [hzero, carryLimbs, LosesCarry]
  have hpos : c.toNat = 1 := by
    have hne : c.toNat ≠ 0 := fun h => hzero (UInt32.toNat_inj.mp h)
    omega
  match X with
  | [] =>
    rw [carryLimbs, carryLoop_nil _ hzero]
    simp [LosesCarry, hpos]
  | [x] =>
    have hadd := add_carry x c
    rw [carryLimbs, carryLoop_last 0 hzero]
    by_cases hcarry : carry x c = 0
    · rw [if_pos hcarry]
      rw [hcarry, UInt32.toNat_zero] at hadd
      simpa [LosesCarry] using hadd
    · rw [if_neg hcarry]
      have hone := toNat_carry_le x c
      have hne : (carry x c).toNat ≠ 0 := fun h => hcarry (UInt32.toNat_inj.mp h)
      refine ⟨?_, Or.inr ⟨rfl, ?_⟩⟩
      · simp only [LosesCarry, List.length_nil, List.length_cons, val_cons, val_nil]
        omega
      · simp only [List.length_nil, List.length_cons, val_cons, val_nil]
        omega
  | x :: y :: xs =>
    have hadd := add_carry x c
    have hadd' := add_carry (x + c) (carry x c)
    have hiff := @carry_eq_one_iff x c hc
    have hone := toNat_carry_le x c
    rw [carry_carry, UInt32.toNat_zero] at hadd'
    rw [carryLimbs, carryLoop_cons 0 hzero]
    refine ⟨?_, Or.inl rfl⟩
    have hlost : LosesCarry (x :: y :: xs) [] c ↔ (carry x c).toNat = 1 := by
      rw [hiff]
      simp [LosesCarry, hpos]
    rw [hlost, val_cons, val_cons (x := x)]
    omega

/-- The limbs hold the sum, unless what is carried is lost. -/
theorem addLimbs_ok {o p : List UInt32} {c : UInt32} (hlen : o.length ≤ p.length) (hc : c.toNat ≤ 1) :
    ∃ q, addLimbs o p c = .ok q ∧ (Limbs.val q = Limbs.val p + Limbs.val o + c.toNat ↔ ¬ LosesCarry p o c) ∧
      (q.length = p.length ∨
        q.length = p.length + 1 ∧ 4294967296 ^ p.length ≤ Limbs.val p + Limbs.val o + c.toNat) := by
  induction o generalizing p c with
  | nil => exact ⟨_, rfl, carryLimbs_ok p hc⟩
  | cons o os ih =>
    cases p with
    | nil => cases hlen
    | cons p ps =>
      have h₁ := add_carry p c
      have h₂ := add_carry (p + c) o
      have hc₁ := toNat_carry_le p c
      have hc₂ := toNat_carry_le (p + c) o
      have hp := p.toNat_lt
      have ho := o.toNat_lt
      have hw := (p + c + o).toNat_lt
      have hsum : (carry p c + carry (p + c) o).toNat = (carry p c).toNat + (carry (p + c) o).toNat := by
        rw [UInt32.toNat_add]
        omega
      obtain ⟨q, hq, hval, hlength⟩ := @ih ps (carry p c + carry (p + c) o) (Nat.le_of_succ_le_succ hlen) (by omega)
      have hlost : LosesCarry (p :: ps) (o :: os) c ↔ LosesCarry ps os (carry p c + carry (p + c) o) := by
        rw [LosesCarry, LosesCarry, List.length_cons, List.getD_cons_succ, List.take_succ_cons, List.length_cons,
          Nat.pow_succ, val_cons, val_cons, hsum]
        refine and_congr_right fun _ => and_congr ?_ ?_ <;> omega
      refine ⟨(p + c + o) :: q, ?_, ?_, ?_⟩
      · rw [addLimbs, hq]
        rfl
      · rw [hlost, ← hval, val_cons, val_cons, val_cons, hsum]
        omega
      · rw [List.length_cons, List.length_cons, Nat.pow_succ, val_cons, val_cons]
        rcases hlength with hlength | ⟨hlength, hle⟩
        · exact Or.inl (congrArg Nat.succ hlength)
        · exact Or.inr ⟨congrArg Nat.succ hlength, by omega⟩

/-- Adds `|B|` to `X`. -/
def mpi.addTo (X B : mpi) : Except MpiError mpi := do
  let X ← mpi_grow X B.top
  let p ← addLimbs (B.p.take B.top) X.p 0
  if h : p.length ≤ MAX_BIGNUM_DIGITS then return ⟨X.s, p, h⟩
  else throw (.status 1)

/-- `|B|` cannot be added to `X`: what is carried past the limbs of `B` is lost. -/
def mpi.LosesCarry (X B : mpi) : Prop := ZCloud.LosesCarry X.p (B.p.take B.top) 0

/-- The limbs that are new when a number grows lose nothing. -/
theorem losesCarry_append_zeros {X o : List UInt32} {c : UInt32} {n : Nat} (hn : n ≤ o.length - X.length) :
    LosesCarry (X ++ List.replicate n 0) o c ↔ LosesCarry X o c := by
  rcases Nat.lt_or_ge o.length X.length with hlt | hle
  · obtain rfl : n = 0 := by omega
    rw [List.replicate_zero, List.append_nil]
  · rw [LosesCarry, LosesCarry, List.length_append, List.length_replicate]
    constructor <;> rintro ⟨-, hlen, -⟩ <;> omega

/-- The sum, when `k` limbs have room for it. -/
theorem mpi.addTo_ok {X B : mpi} {k : Nat} (hk : k ≤ MAX_BIGNUM_DIGITS) (hsum : X.abs + B.abs < 4294967296 ^ k) :
    ∃ X', X.addTo B = .ok X' ∧ (X'.abs = X.abs + B.abs ↔ ¬ X.LosesCarry B) ∧ X.n ≤ X'.n ∧ X'.n ≤ max X.n k := by
  have htop : B.top ≤ k := top_le_of_abs_lt (Nat.lt_of_le_of_lt (Nat.le_add_left _ _) hsum)
  have hB := B.top_le
  obtain ⟨G, hgrow, hs, hp⟩ := @mpi_grow_ok X B.top (Nat.le_trans htop hk)
  have hn := n_of_grown hp
  have habs := abs_of_grown hp
  have hused : (B.p.take B.top).length = B.top := by
    rw [List.length_take, ← n]
    omega
  rw [n] at hn
  obtain ⟨q, hq, hval, hlength⟩ := @addLimbs_ok (B.p.take B.top) G.p 0 (by omega) (by decide)
  rw [val_take_top, ← abs, habs, UInt32.toNat_zero, Nat.add_zero] at hval hlength
  rw [hp, losesCarry_append_zeros (by rw [hused, n]), ← LosesCarry] at hval
  have hroom : X.n ≤ q.length ∧ q.length ≤ max X.n k := by
    rcases hlength with hlength | ⟨hlength, hle⟩
    · omega
    · have hsmall := (Nat.pow_lt_pow_iff_right (by decide)).mp (Nat.lt_of_le_of_lt hle hsum)
      omega
  have hX := X.n_le
  have hfits : q.length ≤ MAX_BIGNUM_DIGITS := by omega
  refine ⟨⟨G.s, q, hfits⟩, ?_, hval, hroom⟩
  rw [addTo, hgrow, mpi_ok_bind, hq, mpi_ok_bind, dif_pos hfits]
  rfl

def mpi_add_abs (X : Dest) (A B : mpi) : Except MpiError mpi :=
  match X with
  | .right => B.addTo A
  | X => (X.copied A B).addTo B

/-- What is carried is lost in the place that the result goes to, once it holds the
left operand, or the right one if it is that one already. -/
def Dest.LosesCarry (A B : mpi) : Dest → Prop
  | right => B.LosesCarry A
  | X => (X.copied A B).LosesCarry B

theorem mpi_add_abs_ok {A B : mpi} {k : Nat} (X : Dest) (hpos : 0 < k) (hk : k ≤ MAX_BIGNUM_DIGITS)
    (hsum : A.abs + B.abs < 4294967296 ^ k) :
    ∃ X', mpi_add_abs X A B = .ok X' ∧ (X'.abs = A.abs + B.abs ↔ ¬ X.LosesCarry A B) ∧ X.Fits A B k X' := by
  cases X with
  | left => exact @mpi.addTo_ok A B k hk hsum
  | right =>
    rw [Nat.add_comm] at hsum
    obtain ⟨X', h, habs, hn⟩ := @mpi.addTo_ok B A k hk hsum
    exact ⟨X', h, by rwa [Nat.add_comm], hn⟩
  | own X =>
    obtain ⟨X', h, habs, hle, hge⟩ := @mpi.addTo_ok (mpi_copy X A) B k hk (by rwa [mpi_copy_abs])
    obtain ⟨hfits, hfits'⟩ := (Dest.own X).fits_copied (B := B) hpos (Nat.lt_of_le_of_lt (Nat.le_add_right _ _) hsum)
    rw [mpi_copy_abs] at habs
    refine ⟨X', h, habs, Nat.le_trans hfits hle, ?_⟩
    exact Nat.le_trans hge (Nat.max_le.mpr ⟨hfits', Nat.le_max_right _ _⟩)

/-- The loop that passes on what is borrowed. -/
def borrowLimbs : (d : List UInt32) → (c : UInt32) → Except MpiError (List UInt32)
  | [], c => if c = 0 then .ok [] else .error (.fault .write)
  | d :: ds, c =>
    if c = 0 then .ok (d :: ds)
    else do
      let rest ← borrowLimbs ds (borrow d c)
      return (d - c) :: rest

/-- The loop that subtracts the limbs `s`. -/
def subLimbs : (s d : List UInt32) → (c : UInt32) → Except MpiError (List UInt32)
  | [], d, c => borrowLimbs d c
  | _ :: _, [], _ => .error (.fault .write)
  | s :: ss, d :: ds, c => do
    let rest ← subLimbs ss ds (borrow (d - c) s + borrow d c)
    return (d - c - s) :: rest

theorem borrowLimbs_ok {d : List UInt32} {c : UInt32} (h : c.toNat ≤ Limbs.val d) :
    ∃ q, borrowLimbs d c = .ok q ∧ Limbs.val q + c.toNat = Limbs.val d ∧ q.length = d.length := by
  induction d generalizing c with
  | nil =>
    have hc : c = 0 := UInt32.toNat_inj.mp (Nat.le_zero.mp h)
    exact ⟨[], if_pos hc, by simp [hc], rfl⟩
  | cons d ds ih =>
    by_cases hc : c = 0
    · exact ⟨d :: ds, if_pos hc, by simp [hc], rfl⟩
    · have hsub := sub_borrow d c
      have hb := toNat_borrow_le d c
      have hw := (d - c).toNat_lt
      rw [val_cons] at h
      obtain ⟨q, hq, hval, hlen⟩ := @ih (borrow d c) (by omega)
      refine ⟨(d - c) :: q, ?_, ?_, congrArg Nat.succ hlen⟩
      · rw [borrowLimbs, if_neg hc, hq]
        rfl
      · rw [val_cons, val_cons]
        omega

/-- The limbs hold the difference, when it is not negative. -/
theorem subLimbs_ok {s d : List UInt32} {c : UInt32} (hlen : s.length ≤ d.length) (hc : c.toNat ≤ 1)
    (hle : Limbs.val s + c.toNat ≤ Limbs.val d) :
    ∃ q, subLimbs s d c = .ok q ∧ Limbs.val q + Limbs.val s + c.toNat = Limbs.val d ∧ q.length = d.length := by
  induction s generalizing d c with
  | nil => exact borrowLimbs_ok (by simpa using hle)
  | cons s ss ih =>
    cases d with
    | nil => cases hlen
    | cons d ds =>
      have h₁ := sub_borrow d c
      have h₂ := sub_borrow (d - c) s
      have hb₁ := toNat_borrow_le d c
      have hb₂ := toNat_borrow_le (d - c) s
      have hw := (d - c - s).toNat_lt
      have hw' := (d - c).toNat_lt
      have hs := s.toNat_lt
      have hd := d.toNat_lt
      have hsum : (borrow (d - c) s + borrow d c).toNat = (borrow (d - c) s).toNat + (borrow d c).toNat := by
        rw [UInt32.toNat_add]
        omega
      rw [val_cons, val_cons] at hle
      obtain ⟨q, hq, hval, hlength⟩ := @ih ds (borrow (d - c) s + borrow d c) (Nat.le_of_succ_le_succ hlen) (by omega) (by omega)
      refine ⟨(d - c - s) :: q, ?_, ?_, congrArg Nat.succ hlength⟩
      · rw [subLimbs, hq]
        rfl
      · rw [val_cons, val_cons, val_cons]
        omega

def mpi_sub_hlp (n : Nat) (s d : List UInt32) : Except MpiError (List UInt32) := subLimbs (s.take n) d 0

def mpi_sub_abs (X : Dest) (A B : mpi) : Except MpiError mpi := do
  if mpi_cmp_abs A B < 0 then throw (.status TROPICSSL_ERR_MPI_NEGATIVE_VALUE)
  let X := X.copied A B
  let p ← mpi_sub_hlp B.top B.p X.p
  if h : p.length = X.n then return X.setLimbs p h
  else throw (.fault .write)

theorem mpi_sub_hlp_ok {n : Nat} {s d : List UInt32} (hn : n ≤ d.length) (hle : Limbs.val (s.take n) ≤ Limbs.val d) :
    ∃ q, mpi_sub_hlp n s d = .ok q ∧ Limbs.val q + Limbs.val (s.take n) = Limbs.val d ∧ q.length = d.length :=
  subLimbs_ok (Nat.le_trans (List.length_take_le n s) hn) (by decide) hle

theorem Dest.le_n_copied (X : Dest) (A B : mpi) : A.top ≤ (X.copied A B).n := by
  cases X with
  | left => exact A.top_le
  | right =>
    rw [copied, mpi_copy_n]
    exact Nat.le_trans A.top_le_used (Nat.le_max_right _ _)
  | own X =>
    rw [copied, mpi_copy_n]
    exact Nat.le_trans A.top_le_used (Nat.le_max_right _ _)

theorem mpi.top_le_top {X Y : mpi} (h : X.abs ≤ Y.abs) : X.top ≤ Y.top :=
  top_le_of_abs_lt (Nat.lt_of_le_of_lt h Y.abs_lt_top)

theorem mpi_sub_abs_ok {A B : mpi} (X : Dest) (h : B.abs ≤ A.abs) :
    ∃ X', mpi_sub_abs X A B = .ok X' ∧ X'.abs = A.abs - B.abs ∧ X'.n = (X.copied A B).n := by
  have hcmp : ¬ mpi_cmp_abs A B < 0 := Int.not_lt.mpr ((mpi_cmp_abs_nonneg_iff A B).mpr h)
  have hlen : B.top ≤ (X.copied A B).p.length := Nat.le_trans (mpi.top_le_top h) (X.le_n_copied A B)
  have hB := B.val_take_top
  have hcopied := X.copied_abs A B
  rw [mpi.abs] at hcopied
  obtain ⟨q, hq, hval, hlength⟩ := @mpi_sub_hlp_ok B.top B.p (X.copied A B).p hlen (by rwa [hB, hcopied])
  change q.length = (X.copied A B).n at hlength
  refine ⟨(X.copied A B).setLimbs q hlength, ?_, ?_, hlength⟩
  · rw [mpi_sub_abs, if_neg hcmp]
    dsimp only
    rw [hq, mpi_ok_bind, dif_pos hlength]
    rfl
  · rw [mpi.abs, mpi.setLimbs_p]
    omega

/-- The operation on numbers with a sign: the absolute values are subtracted when
`subtract` says so, the smaller one from the larger one, and added otherwise. -/
def addSigned (subtract : Prop) [Decidable subtract] (X : Dest) (A B : mpi) : Except MpiError mpi := do
  let s := A.s
  if subtract then
    if mpi_cmp_abs A B ≥ 0 then
      let X ← mpi_sub_abs X A B
      return { X with s := s }
    else
      let X ← mpi_sub_abs X.swap B A
      return { X with s := -s }
  else
    let X ← mpi_add_abs X A B
    return { X with s := s }

def mpi_add_mpi (X : Dest) (A B : mpi) : Except MpiError mpi := addSigned (A.s * B.s < 0) X A B

def mpi_sub_mpi (X : Dest) (A B : mpi) : Except MpiError mpi := addSigned (A.s * B.s > 0) X A B

theorem addSigned_ok {A B : mpi} {k : Nat} {subtract : Prop} [Decidable subtract] (X : Dest) (hA : A.Signed)
    (hpos : 0 < k) (hk : k ≤ MAX_BIGNUM_DIGITS) (hsum : A.abs + B.abs < 4294967296 ^ k) :
    ∃ X', addSigned subtract X A B = .ok X' ∧ X'.Signed ∧ X.Fits A B k X' ∧
      (X'.val = A.val + (if subtract then -A.s else A.s) * B.abs ↔ (¬ subtract → ¬ X.LosesCarry A B)) := by
  have hcmp := mpi_cmp_abs_nonneg_iff A B
  rw [addSigned]
  by_cases hsub : subtract
  · have hkept : ¬ subtract → ¬ X.LosesCarry A B := fun h => absurd hsub h
    rw [if_pos hsub, if_pos hsub]
    by_cases hle : B.abs ≤ A.abs
    · obtain ⟨X', h, habs, hn⟩ := mpi_sub_abs_ok X hle
      have hfits := X.fits_copied (B := B) hpos (Nat.lt_of_le_of_lt (Nat.le_add_right _ _) hsum)
      rw [Dest.Fits, ← hn] at hfits
      refine ⟨{ X' with s := A.s }, ?_, hA, hfits, iff_of_true ?_ hkept⟩
      · rw [if_pos (hcmp.mpr hle), h]
        rfl
      · change A.s * (X'.abs : Int) = A.s * A.abs + -A.s * B.abs
        rcases hA with hs | hs <;> rw [hs] <;> omega
    · obtain ⟨X', h, habs, hn⟩ := @mpi_sub_abs_ok B A X.swap (by omega)
      have hfits := X.swap.fits_copied (B := A) hpos (Nat.lt_of_le_of_lt (Nat.le_add_left _ _) hsum)
      rw [Dest.Fits, ← hn] at hfits
      refine ⟨{ X' with s := -A.s }, ?_, ?_, Dest.fits_swap.mp hfits, iff_of_true ?_ hkept⟩
      · rw [if_neg (mt hcmp.mp hle), h]
        rfl
      · exact hA.symm.imp (fun hs => by simp [hs]) (fun hs => by simp [hs])
      · change -A.s * (X'.abs : Int) = A.s * A.abs + -A.s * B.abs
        rcases hA with hs | hs <;> rw [hs] <;> omega
  · rw [if_neg hsub, if_neg hsub]
    obtain ⟨X', h, habs, hfits⟩ := mpi_add_abs_ok X hpos hk hsum
    refine ⟨{ X' with s := A.s }, ?_, hA, hfits, ?_⟩
    · rw [h]
      rfl
    · rw [imp_iff_right hsub, ← habs]
      change A.s * (X'.abs : Int) = A.s * A.abs + A.s * B.abs ↔ _
      rcases hA with hs | hs <;> rw [hs] <;> omega

section

variable {A B : mpi} {k : Nat} (X : Dest) (hA : A.Signed) (hB : B.Signed) (hpos : 0 < k) (hk : k ≤ MAX_BIGNUM_DIGITS)
  (hsum : A.abs + B.abs < 4294967296 ^ k)

include hA hB hpos hk hsum

/-- The sum of numbers with a sign, wherever it goes to. -/
theorem mpi_add_mpi_ok : ∃ X', mpi_add_mpi X A B = .ok X' ∧ X'.Signed ∧ X.Fits A B k X' ∧
    (X'.val = A.val + B.val ↔ (A.s = B.s → ¬ X.LosesCarry A B)) := by
  obtain ⟨X', h, hs, hfits, hval⟩ := @addSigned_ok A B k (A.s * B.s < 0) _ X hA hpos hk hsum
  refine ⟨X', h, hs, hfits, ?_⟩
  rw [mpi.val.eq_def B]
  rcases hA with hs | hs <;> rcases hB with ht | ht <;> simpa [hs, ht] using hval

theorem mpi_sub_mpi_ok : ∃ X', mpi_sub_mpi X A B = .ok X' ∧ X'.Signed ∧ X.Fits A B k X' ∧
    (X'.val = A.val - B.val ↔ (A.s = -B.s → ¬ X.LosesCarry A B)) := by
  obtain ⟨X', h, hs, hfits, hval⟩ := @addSigned_ok A B k (A.s * B.s > 0) _ X hA hpos hk hsum
  refine ⟨X', h, hs, hfits, ?_⟩
  rw [mpi.val.eq_def B, Int.sub_eq_add_neg]
  rcases hA with hs | hs <;> rcases hB with ht | ht <;> simpa [hs, ht] using hval

end

/-- Addition and subtraction, whatever the signs are and wherever the result goes
to, as long as `k` limbs have room for the absolute values: the result is exact
where the absolute values are subtracted, and where they are added as long as
nothing that is carried is lost. -/
theorem mpi_sum_difference {A B : mpi} {k : Nat} (X : Dest) (hA : A.Signed) (hB : B.Signed) (hpos : 0 < k)
    (hk : k ≤ MAX_BIGNUM_DIGITS) (hsum : A.abs + B.abs < 4294967296 ^ k) :
    (∃ S, mpi_add_mpi X A B = .ok S ∧ S.Signed ∧ X.Fits A B k S ∧
        (S.val = A.val + B.val ↔ (A.s = B.s → ¬ X.LosesCarry A B))) ∧
      ∃ D, mpi_sub_mpi X A B = .ok D ∧ D.Signed ∧ X.Fits A B k D ∧
        (D.val = A.val - B.val ↔ (A.s = -B.s → ¬ X.LosesCarry A B)) :=
  ⟨mpi_add_mpi_ok X hA hB hpos hk hsum, mpi_sub_mpi_ok X hA hB hpos hk hsum⟩

/-- Limbs of which the lowest two overflow when one is added. -/
def carried : mpi := ⟨1, [0xFFFFFFFF, 0xFFFFFFFF, 5], by decide⟩

/-- What is carried out of the second limb goes back into it, and the sum is wrong;
the difference is exact. -/
theorem mpi_sum_difference_carried :
    (∃ S, mpi_add_mpi .left carried (mpi.ofInt 1) = .ok S ∧ S.Signed ∧ Dest.left.Fits carried (mpi.ofInt 1) 3 S ∧
        S.val ≠ carried.val + (mpi.ofInt 1).val) ∧
      ∃ D, mpi_sub_mpi .left carried (mpi.ofInt 1) = .ok D ∧ D.Signed ∧ Dest.left.Fits carried (mpi.ofInt 1) 3 D ∧
        D.val = carried.val - (mpi.ofInt 1).val := by
  have hlost : Dest.left.LosesCarry carried (mpi.ofInt 1) := ⟨by decide, by decide, by decide⟩
  obtain ⟨⟨S, hS, hsS, hfitsS, hvalS⟩, D, hD, hsD, hfitsD, hvalD⟩ :=
    @mpi_sum_difference carried (mpi.ofInt 1) 3 .left (Or.inl rfl) (Or.inl rfl) (by decide) (by decide) (by decide)
  refine ⟨⟨S, hS, hsS, hfitsS, fun h => hvalS.mp h rfl hlost⟩, D, hD, hsD, hfitsD, hvalD.mpr fun h => ?_⟩
  cases h

end ZCloud
