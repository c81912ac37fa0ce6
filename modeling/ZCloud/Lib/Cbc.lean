import Mathlib.Algebra.Ring.Nat

namespace Cbc

variable (size : Nat) (E D : List UInt8 → List UInt8)

/-- Bytewise exclusive or. -/
def xor (a b : List UInt8) : List UInt8 := List.zipWith (· ^^^ ·) a b

/-- Cipher block chaining of `n` blocks of `data` under the block function `E`. -/
def encrypt : Nat → List UInt8 → List UInt8 → List UInt8
  | 0, _, _ => []
  | n + 1, iv, data =>
    E (xor (data.take size) iv) ++ encrypt n (E (xor (data.take size) iv)) (data.drop size)

/-- The inverse, for `n` blocks of `data` under the block function `D`. -/
def decrypt : Nat → List UInt8 → List UInt8 → List UInt8
  | 0, _, _ => []
  | n + 1, iv, data =>
    xor (D (data.take size)) iv ++ decrypt n (data.take size) (data.drop size)

/-- How many bytes are added to a text of length `len`: at least one, and as
many as make the length a multiple of the block size. -/
def padding (len : Nat) : Nat := size - len % size

/-- A text with its padding, each byte of which is the length of the padding. -/
def pad (data : List UInt8) : List UInt8 :=
  data ++ List.replicate (padding size data.length) (UInt8.ofNat (padding size data.length))

/-- The length of the padding that a text ends with, by its last byte. -/
def padLen (plain : List UInt8) : Nat :=
  match plain.getLast? with
  | none => 0
  | some b => b.toNat

/-- The text ends with padding. -/
def Padded (plain : List UInt8) : Prop :=
  0 < padLen plain ∧ padLen plain ≤ size ∧ padLen plain ≤ plain.length ∧
    plain.drop (plain.length - padLen plain) =
      List.replicate (padLen plain) (UInt8.ofNat (padLen plain))

instance (plain : List UInt8) : Decidable (Padded size plain) := by
  unfold Padded
  infer_instance

variable {size E D}

@[simp]
theorem length_xor (a b : List UInt8) : (xor a b).length = min a.length b.length :=
  List.length_zipWith

theorem xor_xor_cancel {a b : List UInt8} (h : a.length = b.length) : xor (xor a b) b = a := by
  induction a generalizing b with
  | nil => rfl
  | cons x a ih =>
    cases b with
    | nil => cases h
    | cons y b =>
      have hbyte : x ^^^ y ^^^ y = x := by rw [UInt8.xor_assoc, UInt8.xor_self, UInt8.xor_zero]
      have hrest := ih (b := b) (by simpa using h)
      simpa [xor, hbyte] using hrest

theorem padding_pos (hsize : 0 < size) (len : Nat) : 0 < padding size len := by
  have := Nat.mod_lt len hsize
  unfold padding
  omega

theorem padding_le (len : Nat) : padding size len ≤ size := Nat.sub_le ..

theorem padLen_pad (hsize : 0 < size) (hbyte : size < 256) (data : List UInt8) :
    padLen (pad size data) = padding size data.length := by
  have hpos := padding_pos hsize data.length
  have hle := @padding_le size data.length
  have hlast : (pad size data).getLast? = some (UInt8.ofNat (padding size data.length)) := by
    rw [pad, List.getLast?_append, List.getLast?_replicate, if_neg (by omega)]
    rfl
  simp only [padLen, hlast]
  rw [UInt8.toNat_ofNat', Nat.mod_eq_of_lt (by omega)]

/-- What the encryptor pads is padded. -/
theorem padded_pad (hsize : 0 < size) (hbyte : size < 256) (data : List UInt8) :
    Padded size (pad size data) := by
  have hlen : (pad size data).length = data.length + padding size data.length := by simp [pad]
  rw [Padded, padLen_pad hsize hbyte, hlen, Nat.add_sub_cancel]
  exact ⟨padding_pos hsize _, padding_le _, Nat.le_add_left .., by rw [pad, List.drop_left]⟩

/-- The padding comes after the whole blocks. -/
theorem pad_append_block {block : List UInt8} (hblock : block.length = size) (data : List UInt8) :
    pad size (block ++ data) = block ++ pad size data := by
  have hlen : padding size (block ++ data).length = padding size data.length := by
    rw [padding, List.length_append, hblock, Nat.add_mod_left, padding]
  rw [pad, hlen, List.append_assoc, pad]

theorem size_dvd_length_pad (data : List UInt8) (hsize : 0 < size) :
    (pad size data).length % size = 0 := by
  have hmod := Nat.mod_lt data.length hsize
  have hdiv := Nat.div_add_mod data.length size
  have hsum : data.length + padding size data.length = size * (data.length / size + 1) := by
    rw [Nat.mul_add, Nat.mul_one]
    unfold padding
    omega
  rw [pad, List.length_append, List.length_replicate, hsum, Nat.mul_mod_right]

theorem length_decrypt (hD : ∀ b, (D b).length = size) {n : Nat} {iv data : List UInt8}
    (hiv : iv.length = size) (hdata : size * n ≤ data.length) :
    (decrypt size D n iv data).length = size * n := by
  induction n generalizing iv data with
  | zero => rfl
  | succ n ih =>
    rw [Nat.mul_succ] at hdata ⊢
    have htake : (data.take size).length = size := by
      rw [List.length_take]
      omega
    rw [decrypt, List.length_append, length_xor, hD, hiv, Nat.min_self,
      ih htake (by rw [List.length_drop]; omega)]
    omega

theorem length_encrypt (hE : ∀ b, (E b).length = size) (n : Nat) (iv data : List UInt8) :
    (encrypt size E n iv data).length = size * n := by
  induction n generalizing iv data with
  | zero => rfl
  | succ n ih =>
    rw [encrypt, List.length_append, hE, ih, Nat.mul_succ]
    omega

/-- Decryption undoes encryption when the block functions are inverse. -/
theorem decrypt_encrypt (hE : ∀ b, (E b).length = size)
    (hinv : ∀ b : List UInt8, b.length = size → D (E b) = b) {n : Nat} {iv data : List UInt8}
    (hiv : iv.length = size) (hdata : size * n ≤ data.length) :
    decrypt size D n iv (encrypt size E n iv data) = data.take (size * n) := by
  induction n generalizing iv data with
  | zero => simp [decrypt]
  | succ n ih =>
    rw [Nat.mul_succ] at hdata
    have htake : (data.take size).length = size := by
      rw [List.length_take]
      omega
    have hblock : (xor (data.take size) iv).length = size := by
      rw [length_xor, htake, hiv, Nat.min_self]
    have hlen := hE (xor (data.take size) iv)
    rw [encrypt, decrypt, List.take_left' hlen, List.drop_left' hlen, hinv _ hblock,
      xor_xor_cancel (by rw [htake, hiv]), ih hlen (by rw [List.length_drop]; omega), Nat.mul_succ,
      Nat.add_comm, List.take_add]

end Cbc
