import Mathlib.Data.Nat.ModEq

/-! A ring of `n` cells, of which some in a row are occupied. -/

namespace Ring

variable {α : Type} {n : Nat} {cell cell' : Nat → α}

/-- What is in the `count` cells from `tail` on. -/
def contents (n : Nat) (cell : Nat → α) (tail count : Nat) : List α :=
  (List.range count).map fun i => cell ((tail + i) % n)

@[simp]
theorem length_contents (tail count : Nat) : (contents n cell tail count).length = count := by
  simp [contents]

theorem contents_add (tail j k : Nat) :
    contents n cell tail (j + k) = contents n cell tail j ++ contents n cell ((tail + j) % n) k := by
  simp only [contents, List.range_add, List.map_append, List.map_map, Function.comp_def, Nat.mod_add_mod, Nat.add_assoc]

/-- The first occupied cell, and what is behind it. -/
theorem contents_succ {tail : Nat} (htail : tail < n) (count : Nat) :
    contents n cell tail (count + 1) = cell tail :: contents n cell ((tail + 1) % n) count := by
  rw [Nat.add_comm count 1, contents_add]
  simp [contents, Nat.mod_eq_of_lt htail]

/-- The cells behind the occupied ones are others, as long as the ring is not
full. -/
theorem cell_ne {tail i j : Nat} (hij : i < j) (hroom : j < i + n) : (tail + i) % n ≠ (tail + j) % n := by
  intro h
  have hdvd : n ∣ (tail + j) - (tail + i) := (Nat.modEq_iff_dvd' (by omega)).mp h
  have hle := Nat.le_of_dvd (by omega) hdvd
  omega

/-- Cells that are filled behind the occupied ones, without going around, add
their contents. -/
theorem contents_fill {tail count head : Nat} {data : List α} (hhead : head = (tail + count) % n)
    (hroom : count + data.length ≤ n) (hend : head + data.length ≤ n)
    (hdata : ∀ k (hk : k < data.length), cell' (head + k) = data[k])
    (hother : ∀ k, k < head ∨ head + data.length ≤ k → cell' k = cell k) :
    contents n cell' tail (count + data.length) = contents n cell tail count ++ data := by
  have hplace (k : Nat) (hk : k < data.length) : (tail + (count + k)) % n = head + k := by
    rw [← Nat.add_assoc, Nat.add_mod, ← hhead, Nat.add_mod_mod, Nat.mod_eq_of_lt (by omega)]
  have hold : contents n cell' tail count = contents n cell tail count := by
    refine List.map_congr_left fun i hi => hother _ ?_
    have hi' : i < count := List.mem_range.mp hi
    -- A filled cell that is occupied would be `n` cells behind itself.
    by_contra hinside
    have hk : (tail + i) % n - head < data.length := by omega
    refine @cell_ne n tail i (count + ((tail + i) % n - head)) (by omega) (by omega) ?_
    rw [hplace _ hk]
    omega
  have hnew : contents n cell' head data.length = data := by
    refine List.ext_getElem (length_contents ..) fun k _ hk => ?_
    have hmod : (head + k) % n = head + k := Nat.mod_eq_of_lt (by omega)
    simp [contents, hmod, hdata k hk]
  rw [contents_add, ← hhead, hold, hnew]

end Ring
