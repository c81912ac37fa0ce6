import Mathlib.Data.List.Basic

/-! Words of 32 bits as four bytes, the most significant one first. -/

namespace BigEndian

/-- The byte `i` of a word. -/
def byte (w : UInt32) (i : Nat) : UInt8 := (w >>> UInt32.ofNat ((3 - i) * 8)).toUInt8

def bytes (w : UInt32) : List UInt8 := [byte w 0, byte w 1, byte w 2, byte w 3]

/-- The bytes are put into the word from place `i` on. -/
def pack (i : Nat) : List UInt8 → UInt32 → UInt32
  | [], w => w
  | b :: bs, w => pack (i + 1) bs (w ||| b.toUInt32 <<< UInt32.ofNat ((3 - i) * 8))

variable {i j k : Nat}

theorem getLsbD_byte (w : UInt32) (hk : k < 8) : (byte w i).toBitVec.getLsbD k = w.toBitVec.getLsbD ((3 - i) * 8 + k) := by
  have hmod : (3 - i) * 8 % 4294967296 % 32 = (3 - i) * 8 := by omega
  simp [byte, hk, hmod]

theorem getLsbD_shift (b : UInt8) (i k : Nat) : (b.toUInt32 <<< UInt32.ofNat ((3 - i) * 8)).toBitVec.getLsbD k =
    (decide (k < 32) && decide ((3 - i) * 8 ≤ k) && b.toBitVec.getLsbD (k - (3 - i) * 8)) := by
  have hmod : (3 - i) * 8 % 4294967296 % 32 = (3 - i) * 8 := by omega
  have hnot : (!decide (k < (3 - i) * 8)) = decide ((3 - i) * 8 ≤ k) := by
    rw [← decide_not, decide_eq_decide]
    exact Nat.not_lt
  by_cases hk : k < 32
  · simp [hmod, hk, hnot]
  · simp [hmod, hk]

/-- A byte at one place leaves the other ones alone. -/
theorem byte_or (w : UInt32) (b : UInt8) (hi : i < 4) (hj : j < 4) :
    byte (w ||| b.toUInt32 <<< UInt32.ofNat ((3 - i) * 8)) j = if i = j then byte w j ||| b else byte w j := by
  apply UInt8.toBitVec_inj.mp
  apply BitVec.eq_of_getLsbD_eq
  intro k hk
  rw [getLsbD_byte _ hk, UInt32.toBitVec_or, BitVec.getLsbD_or, getLsbD_shift]
  by_cases hij : i = j
  · subst hij
    have hlt : (3 - i) * 8 + k < 32 := by omega
    rw [if_pos rfl, UInt8.toBitVec_or, BitVec.getLsbD_or, getLsbD_byte _ hk]
    simp [hlt]
  · rw [if_neg hij, getLsbD_byte _ hk]
    by_cases hle : (3 - i) * 8 ≤ (3 - j) * 8 + k
    · have hge : 8 ≤ (3 - j) * 8 + k - (3 - i) * 8 := by omega
      simp [BitVec.getLsbD_of_ge _ _ hge]
    · simp [hle]

@[simp]
theorem length_bytes (w : UInt32) : (bytes w).length = 4 := rfl

theorem length_flatMap_bytes (words : List UInt32) : (words.flatMap bytes).length = words.length * 4 := by
  induction words with
  | nil => rfl
  | cons w words ih =>
    rw [List.flatMap_cons, List.length_append, ih, List.length_cons, length_bytes]
    omega

theorem getElem_bytes (w : UInt32) (hi : i < 4) : (bytes w).get ⟨i, by simpa using hi⟩ = byte w i := by
  obtain rfl | rfl | rfl | rfl : i = 0 ∨ i = 1 ∨ i = 2 ∨ i = 3 := by omega
  all_goals rfl

/-- What is packed into the empty places of a word can be taken out of it. -/
theorem byte_pack {bs : List UInt8} {w : UInt32} (hlen : i + bs.length ≤ 4) (hempty : ∀ j, i ≤ j → j < 4 → byte w j = 0) (hj : j < 4) :
    byte (pack i bs w) j = if h : i ≤ j ∧ j - i < bs.length then bs.get ⟨j - i, h.2⟩ else byte w j := by
  induction bs generalizing i w with
  | nil => simp [pack]
  | cons b bs ih =>
    rw [List.length_cons] at hlen
    have hi : i < 4 := by omega
    rw [pack, ih (by omega) fun j' hle hlt => by rw [byte_or w b hi hlt, if_neg (by omega), hempty j' (by omega) hlt]]
    by_cases hij : i = j
    · subst hij
      rw [dif_neg (by omega), byte_or w b hi hj, if_pos rfl, hempty i (Nat.le_refl i) hj, UInt8.zero_or]
      simp
    · by_cases hmem : i + 1 ≤ j ∧ j - (i + 1) < bs.length
      · have hsub : j - i = j - (i + 1) + 1 := by omega
        have hmem' : i ≤ j ∧ j - i < (b :: bs).length := by
          rw [List.length_cons]
          omega
        rw [dif_pos hmem, dif_pos hmem']
        simp [hsub]
      · have hmem' : ¬ (i ≤ j ∧ j - i < (b :: bs).length) := by
          rw [List.length_cons]
          omega
        rw [dif_neg hmem, dif_neg hmem', byte_or w b hi hj, if_neg hij]

theorem take_bytes_pack {bs : List UInt8} (hlen : bs.length ≤ 4) : (bytes (pack 0 bs 0)).take bs.length = bs := by
  refine List.ext_getElem (by simp [hlen]) fun j hj hj' => ?_
  rw [List.getElem_take]
  refine (getElem_bytes _ (by omega)).trans ?_
  rw [byte_pack (by omega) (fun j _ _ => by simp [byte]) (by omega)]
  simp [hj']

/-- The word with these bytes. -/
def ofBytes (a b c d : UInt8) : UInt32 := pack 0 [a, b, c, d] 0

/-- A word is determined by its bytes. -/
theorem byte_inj {v w : UInt32} (h : ∀ i < 4, byte v i = byte w i) : v = w := by
  apply UInt32.toBitVec_inj.mp
  apply BitVec.eq_of_getLsbD_eq
  intro k hk
  have hlt : k % 8 < 8 := Nat.mod_lt k (by omega)
  have hplace : (3 - (3 - k / 8)) * 8 + k % 8 = k := by omega
  have hbit := congrArg (fun b : UInt8 => b.toBitVec.getLsbD (k % 8)) (h (3 - k / 8) (by omega))
  simpa only [getLsbD_byte _ hlt, hplace] using hbit

theorem byte_xor (v w : UInt32) (i : Nat) : byte (v ^^^ w) i = byte v i ^^^ byte w i := by
  simp [byte, UInt32.shiftRight_xor]

theorem byte_and (v w : UInt32) (i : Nat) : byte (v &&& w) i = byte v i &&& byte w i := by
  simp [byte, UInt32.shiftRight_and]

theorem byte_ofBytes (a b c d : UInt8) (hi : i < 4) : byte (ofBytes a b c d) i = [a, b, c, d].get ⟨i, hi⟩ := by
  rw [ofBytes, byte_pack (Nat.le_refl 4) (fun j _ _ => by simp [byte]) hi, dif_pos ⟨Nat.zero_le i, hi⟩]
  rfl

section

variable (a b c d : UInt8)

@[simp]
theorem byte_ofBytes_zero : byte (ofBytes a b c d) 0 = a := byte_ofBytes a b c d (by omega)

@[simp]
theorem byte_ofBytes_one : byte (ofBytes a b c d) 1 = b := byte_ofBytes a b c d (by omega)

@[simp]
theorem byte_ofBytes_two : byte (ofBytes a b c d) 2 = c := byte_ofBytes a b c d (by omega)

@[simp]
theorem byte_ofBytes_three : byte (ofBytes a b c d) 3 = d := byte_ofBytes a b c d (by omega)

end

theorem eq_ofBytes_iff {w : UInt32} {a b c d : UInt8} :
    w = ofBytes a b c d ↔ byte w 0 = a ∧ byte w 1 = b ∧ byte w 2 = c ∧ byte w 3 = d := by
  constructor
  · rintro rfl
    simp
  · rintro ⟨rfl, rfl, rfl, rfl⟩
    apply byte_inj
    intro i hi
    obtain rfl | rfl | rfl | rfl : i = 0 ∨ i = 1 ∨ i = 2 ∨ i = 3 := by omega
    all_goals simp

@[simp]
theorem ofBytes_byte (w : UInt32) : ofBytes (byte w 0) (byte w 1) (byte w 2) (byte w 3) = w :=
  (eq_ofBytes_iff.mpr ⟨rfl, rfl, rfl, rfl⟩).symm

theorem ofBytes_xor (a b c d a' b' c' d' : UInt8) :
    ofBytes a b c d ^^^ ofBytes a' b' c' d' = ofBytes (a ^^^ a') (b ^^^ b') (c ^^^ c') (d ^^^ d') := by
  simp [eq_ofBytes_iff, byte_xor]

theorem ofBytes_and (a b c d a' b' c' d' : UInt8) :
    ofBytes a b c d &&& ofBytes a' b' c' d' = ofBytes (a &&& a') (b &&& b') (c &&& c') (d &&& d') := by
  simp [eq_ofBytes_iff, byte_and]
end BigEndian
