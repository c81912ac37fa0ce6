import Mathlib.Data.List.Basic

/-- A memory of bytes in which the objects of a program may overlap. -/
abbrev Ram : Type := Nat → UInt8

namespace Ram

def set (m : Ram) (p : Nat) (b : UInt8) : Ram := fun a => if a = p then b else m a

/-- The `n` bytes from address `p` on. -/
def bytes (m : Ram) (p n : Nat) : List UInt8 := (List.range n).map fun k => m (p + k)

/-- Writes `data` from address `p` on. -/
def write (m : Ram) (p : Nat) (data : List UInt8) : Ram :=
  fun a => if p ≤ a ∧ a < p + data.length then data.getD (a - p) 0 else m a

/-- A loop over `count` places from `start` on, which writes place `k` of the
object at `p` with what `f` finds in memory then. -/
def loop (p : Nat) (f : Ram → Nat → UInt8) : (start count : Nat) → Ram → Ram
  | _, 0, m => m
  | start, count + 1, m => loop p f (start + 1) count (m.set (p + start) (f m start))

/-- The memories agree outside of the `n` bytes from `p` on. -/
def Frame (m m' : Ram) (p n : Nat) : Prop := ∀ a, a < p ∨ p + n ≤ a → m' a = m a

variable {m m' : Ram} {p q n k : Nat}

@[simp]
theorem length_bytes (m : Ram) (p n : Nat) : (m.bytes p n).length = n := by simp [bytes]

theorem bytes_congr (h : ∀ k < n, m (p + k) = m' (q + k)) : m.bytes p n = m'.bytes q n :=
  List.map_congr_left fun k hk => h k (List.mem_range.mp hk)

theorem get_of_bytes_eq (h : m.bytes p n = m'.bytes q n) (hk : k < n) : m (p + k) = m' (q + k) := by
  have hget := congrArg (·[k]?) h
  simpa [bytes, hk] using hget

theorem bytes_add (m : Ram) (p j n : Nat) : m.bytes p (j + n) = m.bytes p j ++ m.bytes (p + j) n := by
  simp only [bytes, List.range_add, List.map_append, List.map_map, Function.comp_def, Nat.add_assoc]

theorem bytes_write (m : Ram) (p : Nat) (data : List UInt8) : (m.write p data).bytes p data.length = data := by
  refine List.ext_getElem? fun k => ?_
  by_cases hk : k < data.length
  · simp [bytes, write, hk]
  · simp [bytes, hk]

theorem frame_write (m : Ram) (p : Nat) (data : List UInt8) : m.Frame (m.write p data) p data.length := by
  intro a ha
  exact if_neg (by omega)

theorem Frame.trans {m'' : Ram} (h : m.Frame m' p n) (h' : m'.Frame m'' p n) : m.Frame m'' p n :=
  fun a ha => (h' a ha).trans (h a ha)

theorem Frame.mono {p' n' : Nat} (h : m.Frame m' p' n') (hlo : p ≤ p') (hhi : p' + n' ≤ p + n) : m.Frame m' p n :=
  fun a ha => h a (by omega)

/-- Bytes that lie apart from the frame are as before. -/
theorem Frame.bytes_eq (h : m.Frame m' p n) (hapart : q + k ≤ p ∨ p + n ≤ q) : m'.bytes q k = m.bytes q k :=
  bytes_congr fun i hi => h (q + i) (by omega)

/-- A loop whose rounds read nothing that an earlier round has written does what
all rounds do at once. -/
theorem loop_eq {f : Ram → Nat → UInt8} {start count : Nat}
    (hf : ∀ k, start ≤ k → k < start + count → ∀ m' : Ram, (∀ a, a < p + start ∨ p + k ≤ a → m' a = m a) → f m' k = f m k) :
    loop p f start count m = fun a => if p + start ≤ a ∧ a < p + start + count then f m (a - p) else m a := by
  induction count generalizing start m with
  | zero =>
    funext a
    rw [loop, if_neg (by omega)]
  | succ count ih =>
    have hset {a : Nat} (ha : a ≠ p + start) : m.set (p + start) (f m start) a = m a := if_neg ha
    have hnext : ∀ k, start + 1 ≤ k → k < start + 1 + count → f (m.set (p + start) (f m start)) k = f m k :=
      fun k hlo hhi => hf k (by omega) (by omega) _ fun a ha => hset (by omega)
    rw [loop, ih]
    · funext a
      by_cases ha : p + (start + 1) ≤ a ∧ a < p + (start + 1) + count
      · rw [if_pos ha, if_pos (by omega), hnext _ (by omega) (by omega)]
      · rw [if_neg ha]
        by_cases hat : a = p + start
        · rw [hat, if_pos (by omega), Nat.add_sub_cancel_left]
          exact if_pos rfl
        · rw [hset hat, if_neg (by omega)]
    · intro k hlo hhi m' hm'
      rw [hnext k hlo hhi]
      refine hf k (by omega) (by omega) m' fun a ha => ?_
      rw [hm' a (by omega), hset (by omega)]

end Ram
