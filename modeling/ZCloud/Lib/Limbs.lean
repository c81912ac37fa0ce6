import Mathlib.Algebra.Ring.Nat
import Mathlib.Data.Nat.Digits.Defs
import Mathlib.Tactic.Ring

/-! Natural numbers as lists of words of 32 bits, the least significant one
first. -/

namespace Limbs

/-- What is below the place `k` does not reach the next value there. -/
theorem add_mul_lt {low k x y : Nat} (hlow : low < k) (h : x < y) : low + k * x < k * y :=
  calc low + k * x < k + k * x := Nat.add_lt_add_right hlow _
    _ = k * (x + 1) := by rw [Nat.mul_add_one, Nat.add_comm]
    _ ≤ k * y := Nat.mul_le_mul_left _ h

section

variable {b : Nat} {l : List Nat}

/-- The digit `i`, from the number. -/
theorem getD_of_ofDigits (h : ∀ d ∈ l, d < b) (i : Nat) : l.getD i 0 = Nat.ofDigits b l / b ^ i % b := by
  induction l generalizing i with
  | nil => simp
  | cons d l ih =>
    have hd := h d List.mem_cons_self
    rw [Nat.ofDigits_cons]
    cases i with
    | zero =>
      rw [Nat.pow_zero, Nat.div_one, Nat.add_mul_mod_self_left, Nat.mod_eq_of_lt hd, List.getD_cons_zero]
    | succ i =>
      rw [Nat.pow_succ', ← Nat.div_div_eq_div_mul, Nat.add_mul_div_left _ _ (Nat.zero_lt_of_lt hd), Nat.div_eq_of_lt hd,
        Nat.zero_add, List.getD_cons_succ]
      exact ih (fun e he => h e (List.mem_cons_of_mem _ he)) i

/-- What another digit at `i` makes of the number. -/
theorem ofDigits_set_add (x : Nat) {i : Nat} (hi : i < l.length) :
    Nat.ofDigits b (l.set i x) + b ^ i * l.getD i 0 = Nat.ofDigits b l + b ^ i * x := by
  induction l generalizing i with
  | nil => cases hi
  | cons d l ih =>
    cases i with
    | zero =>
      simp only [List.set_cons_zero, List.getD_cons_zero, Nat.ofDigits_cons, Nat.pow_zero, Nat.one_mul]
      omega
    | succ i =>
      have hstep := congrArg (b * ·) (ih (Nat.lt_of_succ_lt_succ hi))
      simp only [Nat.mul_add, ← Nat.mul_assoc, ← Nat.pow_succ', Nat.succ_eq_add_one] at hstep
      simp only [List.set_cons_succ, List.getD_cons_succ, Nat.ofDigits_cons]
      omega

end

/-- The number that the limbs stand for. -/
def val (xs : List UInt32) : Nat := Nat.ofDigits 4294967296 (xs.map UInt32.toNat)

section

variable {xs : List UInt32} {n : Nat}

@[simp]
theorem val_nil : val [] = 0 := rfl

@[simp]
theorem val_cons (x : UInt32) (xs : List UInt32) : val (x :: xs) = x.toNat + 4294967296 * val xs := Nat.ofDigits_cons

theorem val_append (xs ys : List UInt32) : val (xs ++ ys) = val xs + 4294967296 ^ xs.length * val ys := by
  rw [val, List.map_append, Nat.ofDigits_append, List.length_map]
  rfl

@[simp]
theorem val_replicate_zero (n : Nat) : val (List.replicate n 0) = 0 := by
  simp [val]

@[simp]
theorem val_append_zeros (xs : List UInt32) (n : Nat) : val (xs ++ List.replicate n 0) = val xs := by
  simp [val_append]

theorem toNat_lt_of_mem (h : n ∈ xs.map UInt32.toNat) : n < 4294967296 := by
  obtain ⟨x, -, rfl⟩ := List.mem_map.mp h
  exact x.toNat_lt

theorem val_lt (xs : List UInt32) : val xs < 4294967296 ^ xs.length := by
  have hlt := Nat.ofDigits_lt_base_pow_length (by decide) fun n (h : n ∈ xs.map UInt32.toNat) => toNat_lt_of_mem h
  rwa [List.length_map] at hlt

theorem val_lt_of_length_le (h : xs.length ≤ n) : val xs < 4294967296 ^ n :=
  Nat.lt_of_lt_of_le (val_lt xs) (Nat.pow_le_pow_right (by decide) h)

theorem val_take (xs : List UInt32) (n : Nat) : val (xs.take n) = val xs % 4294967296 ^ n := by
  rw [val, List.map_take, val, Nat.ofDigits_mod_pow_eq_ofDigits_take n (by decide) _ fun _ h => toNat_lt_of_mem h]

theorem val_drop (xs : List UInt32) (n : Nat) : val (xs.drop n) = val xs / 4294967296 ^ n := by
  rw [val, List.map_drop, val, Nat.ofDigits_div_pow_eq_ofDigits_drop n (by decide) _ fun _ h => toNat_lt_of_mem h]

theorem val_take_add_drop (xs : List UInt32) (n : Nat) : val (xs.take n) + 4294967296 ^ n * val (xs.drop n) = val xs := by
  rw [val_take, val_drop, Nat.mod_add_div]

theorem val_take_of_lt (h : val xs < 4294967296 ^ n) : val (xs.take n) = val xs := by
  rw [val_take, Nat.mod_eq_of_lt h]

theorem getD_map_toNat (xs : List UInt32) (i : Nat) : (xs.map UInt32.toNat).getD i 0 = (xs.getD i 0).toNat := by
  rw [List.getD_eq_getElem?_getD, List.getD_eq_getElem?_getD, List.getElem?_map]
  cases xs[i]? <;> rfl

/-- The limb `i`, from the number. -/
theorem toNat_getD (xs : List UInt32) (i : Nat) : (xs.getD i 0).toNat = val xs / 4294967296 ^ i % 4294967296 := by
  rw [← getD_map_toNat, getD_of_ofDigits (fun _ => toNat_lt_of_mem) i]
  rfl

/-- The limb `i` on top of those below it. -/
theorem val_take_succ (xs : List UInt32) (i : Nat) :
    val (xs.take (i + 1)) = val (xs.take i) + 4294967296 ^ i * (xs.getD i 0).toNat := by
  by_cases h : i < xs.length
  · have hlen : (xs.take i).length = i := by
      rw [List.length_take]
      omega
    rw [List.take_succ_eq_append_getElem h, val_append, hlen]
    simp [h]
  · have hle : xs.length ≤ i := Nat.le_of_not_lt h
    rw [List.take_of_length_le (Nat.le_succ_of_le hle), List.take_of_length_le hle]
    simp [hle]

/-- A limb past the number is zero already. -/
theorem set_zero_of_val_lt {i : Nat} (h : val xs < 4294967296 ^ i) : xs.set i 0 = xs := by
  have hzero : (xs.getD i 0).toNat = 0 := by
    rw [toNat_getD, Nat.div_eq_of_lt h]
  refine List.ext_getElem List.length_set fun j hj hj' => ?_
  rw [List.getElem_set]
  split
  · rename_i heq
    subst heq
    apply UInt32.toNat_inj.mp
    simpa [hj'] using hzero.symm
  · rfl

/-- The lowest limb is what is left of the number modulo the radix. -/
theorem ofNat_val (xs : List UInt32) : UInt32.ofNat (val xs) = xs.getD 0 0 := by
  cases xs with
  | nil => rfl
  | cons x xs =>
    apply UInt32.toNat_inj.mp
    have hx := x.toNat_lt
    rw [UInt32.toNat_ofNat', val_cons, List.getD_cons_zero]
    omega

end

/-- From an inverse modulo `k`, Newton's step makes one modulo the square of it. -/
theorem newton_step {m x y k : UInt32} (h : m * x = 1 + k * y) : m * (x * (2 - m * x)) = 1 + k * k * (-(y * y)) := by
  grind

/-- What one carries when `y` is added. -/
def carry (x y : UInt32) : UInt32 := if x + y < y then 1 else 0

/-- What one borrows when `y` is subtracted. -/
def borrow (x y : UInt32) : UInt32 := if x < y then 1 else 0

theorem toNat_carry_le (x y : UInt32) : (carry x y).toNat ≤ 1 := by
  rw [carry]
  split <;> simp

theorem toNat_borrow_le (x y : UInt32) : (borrow x y).toNat ≤ 1 := by
  rw [borrow]
  split <;> simp

/-- A sum of words and what is carried make the sum. -/
theorem add_carry (x y : UInt32) : (x + y).toNat + 4294967296 * (carry x y).toNat = x.toNat + y.toNat := by
  have hx := x.toNat_lt
  have hy := y.toNat_lt
  have hsum : (x + y).toNat = (x.toNat + y.toNat) % 4294967296 := UInt32.toNat_add x y
  by_cases h : x.toNat + y.toNat < 4294967296
  · have hnot : ¬ x + y < y := by
      rw [UInt32.lt_iff_toNat_lt]
      omega
    rw [carry, if_neg hnot, hsum]
    simp [Nat.mod_eq_of_lt h]
  · have hlt : x + y < y := by
      rw [UInt32.lt_iff_toNat_lt]
      omega
    rw [carry, if_pos hlt, hsum, UInt32.toNat_one]
    omega

/-- A difference of words and what is borrowed make the difference. -/
theorem sub_borrow (x y : UInt32) : (x - y).toNat + y.toNat = x.toNat + 4294967296 * (borrow x y).toNat := by
  have hx := x.toNat_lt
  have hy := y.toNat_lt
  have hsub : (x - y).toNat = (4294967296 - y.toNat + x.toNat) % 4294967296 := UInt32.toNat_sub x y
  by_cases h : x < y
  · have hlt := UInt32.lt_iff_toNat_lt.mp h
    rw [borrow, if_pos h, hsub, UInt32.toNat_one]
    omega
  · have hle : ¬ x.toNat < y.toNat := fun hlt => h (UInt32.lt_iff_toNat_lt.mpr hlt)
    rw [borrow, if_neg h, hsub, UInt32.toNat_zero]
    omega

end Limbs
