import Mathlib.Algebra.Ring.Nat

namespace Memory

/-- What keeps a piece of C code from returning: a read or a write outside its
object, the use of a null pointer, or a wait for a semaphore that is not free. -/
inductive Fault where
  | read
  | write
  | null
  | wait
deriving DecidableEq, Repr

@[simp]
theorem ok_bind {α β : Type} (a : α) (f : α → Except Fault β) : (Except.ok a >>= f) = f a := rfl

@[simp]
theorem error_bind {α β : Type} (e : Fault) (f : α → Except Fault β) :
    ((Except.error e : Except Fault α) >>= f) = Except.error e := rfl

theorem bind_eq_ok {α β : Type} {x : Except Fault α} {f : α → Except Fault β} {b : β} :
    x >>= f = .ok b ↔ ∃ a, x = .ok a ∧ f a = .ok b := by
  cases x with
  | error e => simp
  | ok a => simp

/-- A static array of `n` bytes. -/
structure Mem (n : Nat) where
  bytes : List UInt8
  size : bytes.length = n
deriving DecidableEq

/-- The array of `n` equal bytes. -/
def Mem.fill (n : Nat) (value : UInt8) : Mem n :=
  ⟨List.replicate n value, List.length_replicate⟩

/-- The `len` bytes from offset `off` of the object `view`, provided that all
of them belong to it. -/
def load (view : List UInt8) (off len : Nat) : Except Fault (List UInt8) :=
  if off + len ≤ view.length then .ok ((view.drop off).take len) else .error .read

/-- `bytes` with `data` written over it from offset `off`. -/
def patch (bytes : List UInt8) (off : Nat) (data : List UInt8) : List UInt8 :=
  bytes.take off ++ data ++ bytes.drop (off + data.length)

theorem length_patch {bytes data : List UInt8} {off : Nat}
    (hfits : off + data.length ≤ bytes.length) :
    (patch bytes off data).length = bytes.length := by
  simp only [patch, List.length_append, List.length_take, List.length_drop]
  omega

/-- Writes `data` at offset `off` of the array, provided that it fits. -/
def Mem.store {n : Nat} (m : Mem n) (off : Nat) (data : List UInt8) : Except Fault (Mem n) :=
  if h : off + data.length ≤ n then
    .ok ⟨patch m.bytes off data, (length_patch (by rw [m.size]; exact h)).trans m.size⟩
  else .error .write

/-- `memcpy` of the first `len` bytes of `src` to offset `off` of the array. -/
def Mem.memcpy {n : Nat} (m : Mem n) (off : Nat) (src : List UInt8) (len : Nat) :
    Except Fault (Mem n) := do
  m.store off (← load src 0 len)

/-- Fills an array of `n` bytes from offset `off` of the object `view`. -/
def loadMem (view : List UInt8) (off n : Nat) : Except Fault (Mem n) :=
  if h : off + n ≤ view.length then
    .ok ⟨(view.drop off).take n, by rw [List.length_take, List.length_drop]; omega⟩
  else .error .read

/-- Where one array follows another in memory. -/
def Mem.append {m n : Nat} (a : Mem m) (b : Mem n) : Mem (m + n) :=
  ⟨a.bytes ++ b.bytes, by rw [List.length_append, a.size, b.size]⟩

@[simp]
theorem Mem.length_bytes {n : Nat} (m : Mem n) : m.bytes.length = n := m.size

theorem Mem.ext_bytes {n : Nat} {a b : Mem n} (h : a.bytes = b.bytes) : a = b := by
  cases a
  cases b
  cases h
  rfl

theorem load_eq_ok_iff {view : List UInt8} {off len : Nat} {out : List UInt8} :
    load view off len = .ok out ↔ off + len ≤ view.length ∧ out = (view.drop off).take len := by
  unfold load
  split
  · simpa [*] using eq_comm
  · simp [*]

theorem load_of_le {view : List UInt8} {off len : Nat} (h : off + len ≤ view.length) :
    load view off len = .ok ((view.drop off).take len) :=
  if_pos h

theorem load_eq_error_iff {view : List UInt8} {off len : Nat} {e : Fault} :
    load view off len = .error e ↔ view.length < off + len ∧ e = .read := by
  unfold load
  split
  · simp
    omega
  · simp [eq_comm]
    omega

theorem length_of_load {view : List UInt8} {off len : Nat} {out : List UInt8}
    (h : load view off len = .ok out) : out.length = len := by
  obtain ⟨hbound, rfl⟩ := load_eq_ok_iff.mp h
  simp only [List.length_take, List.length_drop]
  omega

theorem loadMem_eq_ok_iff {view : List UInt8} {off n : Nat} {m : Mem n} :
    loadMem view off n = .ok m ↔ off + n ≤ view.length ∧ m.bytes = (view.drop off).take n := by
  unfold loadMem
  split
  · constructor
    · rintro ⟨⟩
      exact ⟨by assumption, rfl⟩
    · rintro ⟨-, hbytes⟩
      exact congrArg _ (Mem.ext_bytes hbytes.symm)
  · simp [*]

theorem exists_loadMem {view : List UInt8} {off n : Nat} (h : off + n ≤ view.length) : ∃ m : Mem n, loadMem view off n = .ok m :=
  ⟨_, dif_pos h⟩

theorem Mem.store_eq_ok_iff {n : Nat} {m m' : Mem n} {off : Nat} {data : List UInt8} :
    m.store off data = .ok m' ↔ off + data.length ≤ n ∧ m'.bytes = patch m.bytes off data := by
  unfold Mem.store
  split
  · constructor
    · rintro ⟨⟩
      exact ⟨by assumption, rfl⟩
    · rintro ⟨-, hbytes⟩
      exact congrArg _ (Mem.ext_bytes hbytes.symm)
  · simp [*]

/-- A store that fits succeeds, and what it leaves is the patched array. -/
theorem Mem.store_spec {n : Nat} (m : Mem n) {off : Nat} {data : List UInt8}
    (h : off + data.length ≤ n) :
    ∃ m', m.store off data = .ok m' ∧ m'.bytes = patch m.bytes off data :=
  ⟨⟨patch m.bytes off data, (length_patch (by rw [m.size]; exact h)).trans m.size⟩,
    dif_pos h, rfl⟩

theorem Mem.memcpy_eq_ok_iff {n : Nat} {m m' : Mem n} {off len : Nat} {src : List UInt8} :
    m.memcpy off src len = .ok m' ↔
      len ≤ src.length ∧ off + len ≤ n ∧ m'.bytes = patch m.bytes off (src.take len) := by
  unfold Mem.memcpy
  by_cases hsrc : len ≤ src.length
  · have hload : load src 0 len = .ok (src.take len) := by
      simpa using load_of_le (show 0 + len ≤ src.length by omega)
    have hlen : (src.take len).length = len := by
      rw [List.length_take]
      omega
    simp [hload, bind, Except.bind, Mem.store_eq_ok_iff, hsrc]
  · have hload : load src 0 len = .error .read := load_eq_error_iff.mpr ⟨by omega, rfl⟩
    simp [hload, bind, Except.bind, hsrc]

/-- A copy that reads and writes inside its objects succeeds. -/
theorem Mem.memcpy_spec {n : Nat} (m : Mem n) {off len : Nat} {src : List UInt8}
    (hsrc : len ≤ src.length) (hdst : off + len ≤ n) :
    ∃ m', m.memcpy off src len = .ok m' ∧ m'.bytes = patch m.bytes off (src.take len) := by
  have hfits : off + (src.take len).length ≤ n := by
    rw [List.length_take]
    omega
  obtain ⟨m', -, hbytes⟩ := m.store_spec hfits
  exact ⟨m', Mem.memcpy_eq_ok_iff.mpr ⟨hsrc, hdst, hbytes⟩, hbytes⟩

/-- Reading back a write at the start of an array gives the data written. -/
theorem take_patch_zero (bytes data : List UInt8) :
    (patch bytes 0 data).take data.length = data := by
  simp [patch]

/-- Appending at the end of the filled part of an array extends it. -/
theorem take_patch_append {bytes done data : List UInt8} (hdone : bytes.take done.length = done) :
    (patch bytes done.length data).take (done.length + data.length) = done ++ data := by
  have hlen : (bytes.take done.length ++ data).length = done.length + data.length := by
    rw [hdone, List.length_append]
  rw [patch, ← hlen, List.take_left', hdone]
  rfl

/-- A write leaves everything below it as it was. -/
theorem take_patch_of_le {bytes data : List UInt8} {off k : Nat} (hk : k ≤ off)
    (hoff : off ≤ bytes.length) : (patch bytes off data).take k = bytes.take k := by
  rw [patch, List.append_assoc, List.take_append_of_le_length, List.take_take, Nat.min_eq_left hk]
  rw [List.length_take]
  omega

/-- A write leaves everything behind it as it was. -/
theorem drop_patch_of_le {bytes data : List UInt8} {off k : Nat} (hoff : off ≤ bytes.length) (hk : off + data.length ≤ k) :
    (patch bytes off data).drop k = bytes.drop k := by
  have hlen : (bytes.take off ++ data).length = off + data.length := by
    rw [List.length_append, List.length_take, Nat.min_eq_left hoff]
  rw [patch, List.drop_append, List.drop_eq_nil_of_le (by omega), List.nil_append, List.drop_drop, hlen]
  congr 1
  omega

/-- A write inside the first of two parts leaves the second one. -/
theorem patch_append {a b data : List UInt8} {off : Nat} (hfits : off + data.length ≤ a.length) :
    patch (a ++ b) off data = patch a off data ++ b := by
  rw [patch, patch, List.take_append_of_le_length (by omega), List.drop_append_of_le_length hfits, List.append_assoc,
    List.append_assoc, List.append_assoc]

/-- A write inside the second of two parts leaves the first one. -/
theorem patch_append_right (a b data : List UInt8) (off : Nat) :
    patch (a ++ b) (a.length + off) data = a ++ patch b off data := by
  rw [patch, patch, List.take_length_add_append, List.drop_append, List.drop_eq_nil_of_le (by omega), List.nil_append,
    Nat.add_assoc, Nat.add_sub_cancel_left, List.append_assoc, List.append_assoc, List.append_assoc]

/-- A write over the start of another one. -/
theorem patch_patch_start {bytes a b : List UInt8} {off : Nat} (hoff : off ≤ bytes.length) (hlen : b.length ≤ a.length) :
    patch (patch bytes off a) off b = patch bytes off (b ++ a.drop b.length) := by
  have htake : (bytes.take off).length = off := by rw [List.length_take, Nat.min_eq_left hoff]
  have hlength : (b ++ a.drop b.length).length = a.length := by
    rw [List.length_append, List.length_drop]
    omega
  have hdrop : (patch bytes off a).drop (off + b.length) = a.drop b.length ++ bytes.drop (off + a.length) := by
    rw [patch, List.append_assoc, List.drop_append, List.drop_eq_nil_of_le (by omega), List.nil_append, htake,
      Nat.add_sub_cancel_left, List.drop_append_of_le_length hlen]
  rw [patch, take_patch_of_le (Nat.le_refl _) hoff, hdrop, patch, hlength, List.append_assoc, List.append_assoc,
    List.append_assoc]

/-- Writing what is there already changes nothing. -/
theorem patch_append_same {bytes a : List UInt8} {off k : Nat} (hfits : off + a.length + k ≤ bytes.length) :
    patch bytes off (a ++ (bytes.drop (off + a.length)).take k) = patch bytes off a := by
  have hlength : ((bytes.drop (off + a.length)).take k).length = k := by
    rw [List.length_take, List.length_drop]
    omega
  have hdrop : bytes.drop (off + a.length + k) = (bytes.drop (off + a.length)).drop k := by rw [List.drop_drop]
  rw [patch, List.length_append, hlength, ← Nat.add_assoc, hdrop, patch, List.append_assoc, List.append_assoc,
    List.take_append_drop, List.append_assoc]

/-- Of two writes one behind the other it does not matter which comes first. -/
theorem patch_patch_behind {bytes a b : List UInt8} {off : Nat} (hoff : off ≤ bytes.length) :
    patch (patch bytes off a) (off + a.length) b = patch bytes off (a ++ b) := by
  have htake : (patch bytes off a).take (off + a.length) = bytes.take off ++ a := by
    rw [patch, List.take_left' (by rw [List.length_append, List.length_take, Nat.min_eq_left hoff])]
  rw [patch, htake, drop_patch_of_le hoff (by omega), patch, List.length_append, Nat.add_assoc, List.append_assoc _ a b]

theorem patch_patch_before {bytes a b : List UInt8} {off : Nat} (hoff : off + a.length ≤ bytes.length) :
    patch (patch bytes (off + a.length) b) off a = patch bytes off (a ++ b) := by
  have hdrop : (patch bytes (off + a.length) b).drop (off + a.length) = b ++ bytes.drop (off + a.length + b.length) := by
    rw [patch, List.append_assoc, List.drop_left' (by rw [List.length_take, Nat.min_eq_left hoff])]
  rw [patch, take_patch_of_le (by omega) hoff, hdrop, patch, List.length_append, Nat.add_assoc, List.append_assoc,
    List.append_assoc, List.append_assoc]

theorem take_patch {bytes data : List UInt8} {off k : Nat} (hk : off + data.length ≤ k) (hlen : k ≤ bytes.length) :
    (patch bytes off data).take k = patch (bytes.take k) off data := by
  have htake : (bytes.take k).length = k := by rw [List.length_take, Nat.min_eq_left hlen]
  have hsplit : patch bytes off data = patch (bytes.take k) off data ++ bytes.drop k := by
    rw [← patch_append (by omega), List.take_append_drop]
  rw [hsplit, List.take_left' (by rw [length_patch (by omega), htake])]

/-- Copying the first `k` bytes of `c` behind the filled part `p` of an array
extends that part. -/
theorem Mem.memcpy_part {n : Nat} (m : Mem n) {p c : List UInt8} {k : Nat}
    (hp : m.bytes.take p.length = p) (hk : k ≤ c.length) (hfit : p.length + k ≤ n) :
    ∃ m', m.memcpy p.length c k = .ok m' ∧
      m'.bytes.take (p.length + k) = (p ++ c).take (p.length + k) ∧
      m'.bytes.take p.length = p := by
  obtain ⟨m', hcopy, hbytes⟩ := m.memcpy_spec hk hfit
  have hlen : (c.take k).length = k := by
    rw [List.length_take]
    omega
  have htake := @take_patch_append _ _ (c.take k) hp
  rw [hlen, ← hbytes] at htake
  refine ⟨m', hcopy, ?_, ?_⟩
  · rw [htake, List.take_length_add_append]
  · rw [hbytes, take_patch_of_le (Nat.le_refl _) (by rw [m.length_bytes]; omega), hp]

theorem load_take {view : List UInt8} {off len k : Nat} (hk : off + len ≤ k) (hlen : k ≤ view.length) :
    load (view.take k) off len = load view off len := by
  rw [load_of_le (by rw [List.length_take]; omega), load_of_le (by omega), List.drop_take, List.take_take,
    Nat.min_eq_left (by omega)]

theorem load_patch_of_le {bytes data : List UInt8} {off k len : Nat} (hk : k + len ≤ off)
    (hfits : off + data.length ≤ bytes.length) : load (patch bytes off data) k len = load bytes k len := by
  have hlen := length_patch hfits
  rw [← load_take hk (by omega), take_patch_of_le (Nat.le_refl _) (by omega), load_take hk (by omega)]

theorem load_append {a b : List UInt8} {off len : Nat} {out : List UInt8} (h : load a off len = .ok out) :
    load (a ++ b) off len = .ok out := by
  obtain ⟨hbound, rfl⟩ := load_eq_ok_iff.mp h
  rw [load_of_le (by rw [List.length_append]; omega), List.drop_append_of_le_length (by omega),
    List.take_append_of_le_length (by rw [List.length_drop]; omega)]

theorem load_append_of_le {a b : List UInt8} {off len : Nat} (h : a.length ≤ off) :
    load (a ++ b) off len = load b (off - a.length) len := by
  unfold load
  rw [List.length_append, List.drop_append, List.drop_eq_nil_of_le h, List.nil_append]
  by_cases hfits : off + len ≤ a.length + b.length
  · rw [if_pos hfits, if_pos (by omega)]
  · rw [if_neg hfits, if_neg (by omega)]

theorem load_append_zero {a b : List UInt8} {len : Nat} (h : a.length = len) : load (a ++ b) 0 len = .ok a := by
  rw [load_of_le (by rw [List.length_append]; omega), List.drop_zero, ← h, List.take_left']
  rfl

@[simp]
theorem patch_nil (bytes : List UInt8) (off : Nat) : patch bytes off [] = bytes := by
  rw [patch, List.append_nil, List.length_nil, Nat.add_zero, List.take_append_drop]

theorem Mem.store_nil {n off : Nat} {m : Mem n} (hoff : off ≤ n) : m.store off [] = .ok m :=
  Mem.store_eq_ok_iff.mpr ⟨hoff, (patch_nil _ _).symm⟩

/-- What has been written can be read. -/
theorem load_patch {bytes data : List UInt8} {off : Nat} (hfits : off + data.length ≤ bytes.length) :
    load (patch bytes off data) off data.length = .ok data := by
  have htake : (bytes.take off).length = off := by
    rw [List.length_take]
    omega
  rw [patch, List.append_assoc, load_append_of_le (by omega), htake, Nat.sub_self, load_append_zero rfl]

/-- Two writes one behind the other are one write. -/
theorem Mem.store_behind {n : Nat} {m m₁ m₂ : Mem n} {a b : List UInt8} {off : Nat} (h₁ : m.store off a = .ok m₁)
    (h₂ : m₁.store (off + a.length) b = .ok m₂) : m.store off (a ++ b) = .ok m₂ := by
  obtain ⟨hfits₁, hbytes₁⟩ := Mem.store_eq_ok_iff.mp h₁
  obtain ⟨hfits₂, hbytes₂⟩ := Mem.store_eq_ok_iff.mp h₂
  refine Mem.store_eq_ok_iff.mpr ⟨by rw [List.length_append]; omega, ?_⟩
  rw [hbytes₂, hbytes₁, patch_patch_behind (by rw [m.length_bytes]; omega)]

/-- A write before another one, and what both leave. -/
theorem Mem.load_before {n : Nat} {m m₁ m₂ : Mem n} {a b : List UInt8} {off : Nat}
    (h₁ : m.store (off + a.length) b = .ok m₁) (h₂ : m₁.store off a = .ok m₂) :
    load m₂.bytes off (a ++ b).length = .ok (a ++ b) := by
  obtain ⟨hfits₁, hbytes₁⟩ := Mem.store_eq_ok_iff.mp h₁
  obtain ⟨hfits₂, hbytes₂⟩ := Mem.store_eq_ok_iff.mp h₂
  rw [hbytes₂, hbytes₁, patch_patch_before (by rw [m.length_bytes]; omega)]
  exact load_patch (by rw [m.length_bytes, List.length_append]; omega)

theorem loadMem_append_of_le {a b : List UInt8} {off n : Nat} (h : a.length ≤ off) :
    loadMem (a ++ b) off n = loadMem b (off - a.length) n := by
  unfold loadMem
  have hdrop : (a ++ b).drop off = b.drop (off - a.length) := by
    rw [List.drop_append, List.drop_eq_nil_of_le h, List.nil_append]
  simp only [hdrop, List.length_append]
  by_cases hfits : off + n ≤ a.length + b.length
  · rw [dif_pos hfits, dif_pos (by omega)]
  · rw [dif_neg hfits, dif_neg (by omega)]

theorem loadMem_append_zero {n : Nat} {b : List UInt8} (m : Mem n) : loadMem (m.bytes ++ b) 0 n = .ok m := by
  refine loadMem_eq_ok_iff.mpr ⟨by simp, ?_⟩
  rw [List.drop_zero, List.take_left' m.length_bytes]

theorem getD_patch {bytes data : List UInt8} {off k : Nat} (hoff : off ≤ bytes.length) (hk : k < data.length) :
    (patch bytes off data).getD (off + k) 0 = data[k] := by
  have htake : (bytes.take off).length = off := by rw [List.length_take, Nat.min_eq_left hoff]
  rw [patch, List.append_assoc, List.getD_eq_getElem?_getD, List.getElem?_append_right (by omega), htake,
    Nat.add_sub_cancel_left, List.getElem?_append_left hk, List.getElem?_eq_getElem hk, Option.getD_some]

theorem getD_patch_of_outside {bytes data : List UInt8} {off k : Nat} (hfits : off + data.length ≤ bytes.length)
    (hk : k < off ∨ off + data.length ≤ k) : (patch bytes off data).getD k 0 = bytes.getD k 0 := by
  have htake : (bytes.take off ++ data).length = off + data.length := by
    rw [List.length_append, List.length_take, Nat.min_eq_left (by omega)]
  rw [patch, List.getD_eq_getElem?_getD, List.getD_eq_getElem?_getD]
  rcases hk with hk | hk
  · rw [List.append_assoc, List.getElem?_append_left (by rw [List.length_take]; omega), List.getElem?_take_of_lt hk]
  · rw [List.getElem?_append_right (by omega), htake, List.getElem?_drop, Nat.add_sub_of_le hk]

end Memory
