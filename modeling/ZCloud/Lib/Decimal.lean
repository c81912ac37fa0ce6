import Mathlib.Algebra.Ring.Nat

/-! Decimal numbers as strings of bytes. -/

namespace Decimal

/-- The character is a decimal digit. -/
def IsDigit (ch : UInt8) : Prop := 48 ≤ ch.toNat ∧ ch.toNat ≤ 57

instance : DecidablePred IsDigit := fun _ => inferInstanceAs (Decidable (_ ∧ _))

/-- The number that the digits stand for. -/
def value (digits : List UInt8) : Nat := digits.foldl (fun n ch => n * 10 + (ch.toNat - 48)) 0

/-- The decimal digits of a number. -/
def digits (n : Nat) : List UInt8 := (Nat.toDigits 10 n).map fun c => c.toNat.toUInt8

private theorem toNat_toUInt8_of_isDigit {c : Char} (h : c.isDigit) : c.toNat.toUInt8.toNat = c.toNat := by
  have hle : c.toNat ≤ 57 := by
    simp only [Char.isDigit, Bool.and_eq_true, decide_eq_true_eq] at h
    exact h.2
  exact UInt8.toNat_ofNat_of_lt (Nat.lt_of_le_of_lt hle (by decide))

theorem isDigit_of_mem_digits {n : Nat} {ch : UInt8} (h : ch ∈ digits n) : IsDigit ch := by
  obtain ⟨c, hc, rfl⟩ := List.mem_map.mp h
  have hdigit := Nat.isDigit_of_mem_toDigits (by decide) (by decide) hc
  rw [IsDigit, toNat_toUInt8_of_isDigit hdigit]
  simp only [Char.isDigit, Bool.and_eq_true, decide_eq_true_eq] at hdigit
  exact hdigit

theorem digits_ne_nil (n : Nat) : digits n ≠ [] := by
  simp [digits, Nat.toDigits_ne_nil]

/-- The digits of a number stand for it. -/
theorem value_digits (n : Nat) : value (digits n) = n := by
  have hfold : ∀ (cs : List Char) (m : Nat), (∀ c ∈ cs, c.isDigit) →
      (cs.map fun c => c.toNat.toUInt8).foldl (fun n ch => n * 10 + (ch.toNat - 48)) m = Nat.ofDigitChars 10 cs m := by
    intro cs
    induction cs with
    | nil => simp
    | cons c cs ih =>
      intro m hcs
      rw [List.map_cons, List.foldl_cons, ih _ fun c hc => hcs c (List.mem_cons_of_mem _ hc), Nat.ofDigitChars_cons,
        toNat_toUInt8_of_isDigit (hcs c List.mem_cons_self), Nat.mul_comm]
      rfl
  rw [value, digits, hfold _ _ fun c hc => Nat.isDigit_of_mem_toDigits (by decide) (by decide) hc]
  exact Nat.ofDigitChars_ten_toDigits

/-- A number that is wrapped around at each digit is that of the digits, wrapped around. -/
theorem foldl_bmod (m : Nat) (digit : UInt8 → Int) (chs : List UInt8) (x : Int) :
    chs.foldl (fun dd ch => Int.bmod (dd * 10 + digit ch) m) (Int.bmod x m) =
      Int.bmod (chs.foldl (fun dd ch => dd * 10 + digit ch) x) m := by
  induction chs generalizing x with
  | nil => rfl
  | cons ch chs ih =>
    have hstep : Int.bmod (Int.bmod x m * 10 + digit ch) m = Int.bmod (x * 10 + digit ch) m := by
      rw [← Int.bmod_add_bmod, Int.bmod_mul_bmod, Int.bmod_add_bmod]
    rw [List.foldl_cons, List.foldl_cons, hstep, ih]

theorem foldl_cast {chs : List UInt8} (h : ∀ ch ∈ chs, IsDigit ch) (n : Nat) :
    chs.foldl (fun dd ch => dd * 10 + ((ch.toNat : Int) - 48)) (n : Int) =
      ((chs.foldl (fun n ch => n * 10 + (ch.toNat - 48)) n : Nat) : Int) := by
  induction chs generalizing n with
  | nil => rfl
  | cons ch chs ih =>
    have hch := (h ch List.mem_cons_self).1
    have hstep : (n : Int) * 10 + ((ch.toNat : Int) - 48) = ((n * 10 + (ch.toNat - 48) : Nat) : Int) := by omega
    rw [List.foldl_cons, List.foldl_cons, hstep, ih fun ch hch => h ch (List.mem_cons_of_mem _ hch)]

end Decimal
