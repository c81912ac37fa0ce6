import Mathlib.Data.Finset.Card
import Mathlib.Data.Fintype.Card

/-! A bag that holds a bounded number of entries, and its representation by
places that are in use or free. -/

namespace Bag

variable {α : Type} [DecidableEq α]

inductive Operation (α : Type) where
  | add (a : α)
  | del (a : α)
deriving DecidableEq

/-- Whether the operation succeeds, and the entries after it. -/
def step (capacity : Nat) : Operation α → Multiset α → Bool × Multiset α
  | .add a, entries => if entries.card < capacity then (true, a ::ₘ entries) else (false, entries)
  | .del a, entries => if a ∈ entries then (true, entries.erase a) else (false, entries)

section

variable {n : Nat} (used : Fin n → Bool) (entry : Fin n → α)

/-- The entries in the places that are in use. -/
def held : Multiset α := (Finset.univ.filter fun i => used i = true).val.map entry

variable {used entry} {used' : Fin n → Bool} {entry' : Fin n → α} {i : Fin n}

omit [DecidableEq α] in
theorem card_held : (held used entry).card = (Finset.univ.filter fun i => used i = true).card := Multiset.card_map ..

omit [DecidableEq α] in
theorem card_held_le : (held used entry).card ≤ n := by
  rw [card_held]
  exact (Finset.card_le_univ _).trans_eq (Fintype.card_fin n)

omit [DecidableEq α] in
theorem mem_held {a : α} : a ∈ held used entry ↔ ∃ i, used i = true ∧ entry i = a := by
  simp [held]

omit [DecidableEq α] in
theorem held_eq_zero (h : ∀ i, used i = false) : held used entry = 0 := by
  refine Multiset.eq_zero_of_forall_notMem fun a ha => ?_
  obtain ⟨i, hi, -⟩ := mem_held.mp ha
  rw [h i] at hi
  cases hi

omit [DecidableEq α] in
/-- No place is free when and only when as many entries are held as there are
places. -/
theorem card_held_lt_iff : (held used entry).card < n ↔ ∃ i, used i = false := by
  have hcard := Finset.card_lt_iff_ne_univ (Finset.univ.filter fun i : Fin n => used i = true)
  rw [Fintype.card_fin] at hcard
  rw [card_held, hcard, ne_eq, Finset.filter_eq_self]
  simp

omit [DecidableEq α] in
/-- A place that was free and comes into use adds its entry. -/
theorem held_add (hfree : used i = false) (hused : used' i = true)
    (hother : ∀ j, j ≠ i → used' j = used j ∧ entry' j = entry j) : held used' entry' = entry' i ::ₘ held used entry := by
  have hnot : i ∉ Finset.univ.filter fun j => used j = true := by simp [hfree]
  have hset : (Finset.univ.filter fun j => used' j = true) = (Finset.univ.filter fun j => used j = true).cons i hnot := by
    ext j
    by_cases hj : j = i
    · simp [hj, hused]
    · simp [hj, (hother j hj).1]
  rw [held, hset, Finset.cons_val, Multiset.map_cons, held]
  congr 1
  refine Multiset.map_congr rfl fun j hj => ?_
  have hne : j ≠ i := by
    rintro rfl
    exact hnot hj
  exact (hother j hne).2

/-- A place that is given up takes its entry away. -/
theorem held_del (hused : used i = true) (hfree : used' i = false)
    (hother : ∀ j, j ≠ i → used' j = used j ∧ entry' j = entry j) : held used' entry' = (held used entry).erase (entry i) := by
  have hback := @held_add _ _ used' entry' used entry _ hfree hused
    fun j hj => ⟨(hother j hj).1.symm, (hother j hj).2.symm⟩
  rw [hback, Multiset.erase_cons_head]

end

end Bag
