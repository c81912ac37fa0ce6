import ZCloud.SecEngine.SecEngine
import ZCloud.Lib.Ram
import Mathlib.Logic.Function.Iterate

open Memory

namespace ZCloud

def AES_BLOCK_SIZE : Nat := 16

/-- A pointer to an object of its own, such as `tempiv`, or to an address that
may lie in the data. -/
inductive Pointer where
  | object (bytes : List UInt8)
  | address (p : Nat)

def Pointer.get (m : Ram) : Pointer → Nat → UInt8
  | .object bytes, n => bytes.getD n 0
  | .address p, n => m (p + n)

/-- The block that a pointer points to. -/
def Pointer.block (v : Pointer) (m : Ram) : List UInt8 := (List.range AES_BLOCK_SIZE).map (v.get m)

/-- What `AES_encrypt` and `AES_decrypt` do in memory: the block is read before
the result is written. -/
def blockOp (f : List UInt8 → List UInt8) (m : Ram) (input output : Nat) : Ram :=
  m.write output (f (m.bytes input AES_BLOCK_SIZE))

/-- The variables of the loops of `AES_cbc_core`. -/
structure CbcVars where
  ram : Ram
  len : Nat
  input : Nat
  output : Nat
  iv : Pointer

/-- `len -= AES_BLOCK_SIZE; in += AES_BLOCK_SIZE; out += AES_BLOCK_SIZE;` -/
def CbcVars.advance (s : CbcVars) (ram : Ram) (iv : Pointer) : CbcVars :=
  ⟨ram, s.len - AES_BLOCK_SIZE, s.input + AES_BLOCK_SIZE, s.output + AES_BLOCK_SIZE, iv⟩

/-- A loop of `AES_cbc_core`, which goes on while there is a whole block. -/
def whileBlocks (step : CbcVars → CbcVars) : (fuel : Nat) → CbcVars → CbcVars
  | 0, s => s
  | fuel + 1, s => if AES_BLOCK_SIZE ≤ s.len then whileBlocks step fuel (step s) else s

section

variable (E D : List UInt8 → List UInt8)

def cbcEncryptStep (s : CbcVars) : CbcVars :=
  let ram := Ram.loop s.output (fun m n => m (s.input + n) ^^^ s.iv.get m n) 0 AES_BLOCK_SIZE s.ram
  let ram := blockOp E ram s.output s.output
  s.advance ram (.address s.output)

/-- The last block, filled up with padding, and the length of the padding. -/
def cbcEncryptLast (s : CbcVars) : Ram × Nat :=
  if s.len ≠ 0 then
    let paddingLen := AES_BLOCK_SIZE - s.len
    let ram := Ram.loop s.output (fun m n => m (s.input + n) ^^^ s.iv.get m n) 0 s.len s.ram
    let ram := Ram.loop s.output (fun m n => u8 paddingLen ^^^ s.iv.get m n) s.len (AES_BLOCK_SIZE - s.len) ram
    (blockOp E ram s.output s.output, paddingLen)
  else
    let paddingLen := AES_BLOCK_SIZE
    let ram := Ram.loop s.output (fun m n => u8 paddingLen ^^^ s.iv.get m n) 0 AES_BLOCK_SIZE s.ram
    (blockOp E ram s.output s.output, paddingLen)

/-- A round of the loop that decrypts to another place. -/
def cbcDecryptStep (s : CbcVars) : CbcVars :=
  let ram := blockOp D s.ram s.input s.output
  let ram := Ram.loop s.output (fun m n => m (s.output + n) ^^^ s.iv.get m n) 0 AES_BLOCK_SIZE ram
  s.advance ram (.address s.input)

/-- A round of the loop that decrypts in place; `iv` is the object at `ivec`. -/
def cbcDecryptStepInPlace (s : CbcVars) : CbcVars :=
  let tmp := s.ram.bytes s.input AES_BLOCK_SIZE
  let ram := blockOp D s.ram s.input s.output
  let ram := Ram.loop s.output (fun m n => m (s.output + n) ^^^ s.iv.get m n) 0 AES_BLOCK_SIZE ram
  s.advance ram (.object tmp)

/-- What is left of a text that is not made of whole blocks. -/
def cbcDecryptLast (s : CbcVars) : Ram :=
  let tmp := D (s.ram.bytes s.input AES_BLOCK_SIZE)
  Ram.loop s.output (fun m n => tmp.getD n 0 ^^^ s.iv.get m n) 0 s.len s.ram

def cbcDecryptLastInPlace (s : CbcVars) : Ram :=
  let tmp := s.ram.bytes s.input AES_BLOCK_SIZE
  let ram := s.ram.write s.output (D tmp)
  let ram := Ram.loop s.output (fun m n => m (s.output + n) ^^^ s.iv.get m n) 0 s.len ram
  Ram.loop s.output (fun _ n => tmp.getD n 0) s.len (AES_BLOCK_SIZE - s.len) ram

/-- The memory and the block at `ivec` that it leaves, and `*outlength`. `E` and
`D` are the block functions under `key`; the block at `ivec` lies apart from the
data. -/
def AES_cbc_core (m : Ram) (input output length : Nat) (ivec : List UInt8) (enc : Bool) :
    Ram × List UInt8 × Nat :=
  let s : CbcVars := ⟨m, length, input, output, .object ivec⟩
  if enc then
    let (ram, paddingLen) := cbcEncryptLast E (whileBlocks (cbcEncryptStep E) length s)
    (ram, ivec, u32 (length + paddingLen))
  else if input ≠ output then
    let s := whileBlocks (cbcDecryptStep D) length s
    let ram := if s.len ≠ 0 then cbcDecryptLast D s else s.ram
    (ram, ivec, u32Sub length (ram (s.output + s.len - 1)).toNat)
  else
    let s := whileBlocks (cbcDecryptStepInPlace D) length s
    let ram := if s.len ≠ 0 then cbcDecryptLastInPlace D s else s.ram
    let ivec := if s.len ≠ 0 then s.ram.bytes s.input AES_BLOCK_SIZE else s.iv.block s.ram
    (ram, ivec, u32Sub length (ram (s.output + s.len - 1)).toNat)

end

/-- The block that a pointer points to is none of those from address `lo` on and
before `hi`. -/
def Pointer.Outside (lo hi : Nat) : Pointer → Prop
  | .object _ => True
  | .address p => p + AES_BLOCK_SIZE ≤ lo ∨ hi ≤ p

theorem Pointer.Outside.get_eq {v : Pointer} {lo hi n k : Nat} {m m' : Ram} (h : v.Outside lo hi)
    (hm : ∀ a, a < lo ∨ lo + k ≤ a → m' a = m a) (hk : lo + k ≤ hi) (hn : n < AES_BLOCK_SIZE) : v.get m' n = v.get m n := by
  cases v with
  | object => rfl
  | address p =>
    refine hm (p + n) ?_
    rcases h with h | h
    · exact Or.inl (by omega)
    · exact Or.inr (by omega)

theorem Pointer.Outside.block_eq {v : Pointer} {lo hi k : Nat} {m m' : Ram} (h : v.Outside lo hi)
    (hm : m.Frame m' lo k) (hk : lo + k ≤ hi) : v.block m' = v.block m :=
  List.map_congr_left fun _ hn => h.get_eq hm hk (List.mem_range.mp hn)

theorem xor_map_range (f g : Nat → UInt8) (n : Nat) :
    Cbc.xor ((List.range n).map f) ((List.range n).map g) = (List.range n).map fun k => f k ^^^ g k := by
  refine List.ext_getElem? fun k => ?_
  by_cases hk : k < n
  · simp [Cbc.xor, hk]
  · simp [Cbc.xor, hk]

/-- A loop that adds the block at `iv` to bytes that it does not change before
it reads them. -/
theorem xorLoop_eq {m : Ram} {p hi start count : Nat} {g : Ram → Nat → UInt8} {iv : Pointer} (hiv : iv.Outside p hi)
    (hhi : p + AES_BLOCK_SIZE ≤ hi) (hcount : start + count ≤ AES_BLOCK_SIZE)
    (hg : ∀ k, start ≤ k → k < start + count → ∀ m' : Ram, (∀ a, a < p + start ∨ p + k ≤ a → m' a = m a) → g m' k = g m k) :
    Ram.loop p (fun m n => g m n ^^^ iv.get m n) start count m =
      fun a => if p + start ≤ a ∧ a < p + start + count then g m (a - p) ^^^ iv.get m (a - p) else m a := by
  refine Ram.loop_eq fun k hlo hlt m' hm' => ?_
  have hget : iv.get m' k = iv.get m k := hiv.get_eq (k := k) (fun a ha => hm' a (by omega)) (by omega) (by omega)
  rw [hg k hlo hlt m' hm', hget]

theorem xorLoop_block {m : Ram} {p hi : Nat} {g : Ram → Nat → UInt8} {iv : Pointer} (hiv : iv.Outside p hi)
    (hhi : p + AES_BLOCK_SIZE ≤ hi)
    (hg : ∀ k < AES_BLOCK_SIZE, ∀ m' : Ram, (∀ a, a < p ∨ p + k ≤ a → m' a = m a) → g m' k = g m k) :
    (Ram.loop p (fun m n => g m n ^^^ iv.get m n) 0 AES_BLOCK_SIZE m).bytes p AES_BLOCK_SIZE =
        Cbc.xor ((List.range AES_BLOCK_SIZE).map (g m)) (iv.block m) ∧
      m.Frame (Ram.loop p (fun m n => g m n ^^^ iv.get m n) 0 AES_BLOCK_SIZE m) p AES_BLOCK_SIZE := by
  rw [xorLoop_eq hiv hhi (by omega) fun k _ hk m' hm' => hg k (by omega) m' hm', Pointer.block, xor_map_range]
  constructor
  · refine List.map_congr_left fun k hk => ?_
    have hlt := List.mem_range.mp hk
    dsimp only
    rw [if_pos (by omega), Nat.add_sub_cancel_left]
  · intro a ha
    exact if_neg (by omega)

/-- Where the data and the result lie: at one place, or the result where no data
is that is still to be read. `hi` is the end of the result. -/
structure CbcVars.Placed (s : CbcVars) (hi : Nat) : Prop where
  iv_outside : s.iv.Outside s.output hi
  apart : s.input = s.output ∨ s.input + s.len ≤ s.output ∨ hi ≤ s.input

theorem CbcVars.Placed.advance {s : CbcVars} {hi : Nat} {ram : Ram} {iv : Pointer} (h : s.Placed hi) (hlen : AES_BLOCK_SIZE ≤ s.len)
    (hiv : iv.Outside (s.output + AES_BLOCK_SIZE) hi) : (s.advance ram iv).Placed hi where
  iv_outside := hiv
  apart := by
    have hapart := h.apart
    simp only [CbcVars.advance]
    omega

theorem blockOp_spec {f : List UInt8 → List UInt8} (hf : ∀ b, (f b).length = AES_BLOCK_SIZE) (m : Ram) (input output : Nat) :
    (blockOp f m input output).bytes output AES_BLOCK_SIZE = f (m.bytes input AES_BLOCK_SIZE) ∧
      m.Frame (blockOp f m input output) output AES_BLOCK_SIZE := by
  have hbytes := Ram.bytes_write m output (f (m.bytes input AES_BLOCK_SIZE))
  have hframe := Ram.frame_write m output (f (m.bytes input AES_BLOCK_SIZE))
  rw [hf] at hbytes hframe
  exact ⟨hbytes, hframe⟩

/-- The rounds that a loop does. -/
theorem whileBlocks_of_lt {step : CbcVars → CbcVars} {fuel : Nat} {s : CbcVars} (h : s.len < AES_BLOCK_SIZE) :
    whileBlocks step fuel s = s := by
  cases fuel with
  | zero => rfl
  | succ fuel => exact if_neg (Nat.not_le.mpr h)

theorem whileBlocks_succ {step : CbcVars → CbcVars} {fuel : Nat} {s : CbcVars} (h : AES_BLOCK_SIZE ≤ s.len) :
    whileBlocks step (fuel + 1) s = whileBlocks step fuel (step s) :=
  if_pos h

section

variable {E : List UInt8 → List UInt8}

theorem cbcEncryptStep_spec (hE : ∀ b, (E b).length = AES_BLOCK_SIZE) {s : CbcVars} {hi : Nat} (h : s.Placed hi)
    (hlen : AES_BLOCK_SIZE ≤ s.len) (hhi : s.output + AES_BLOCK_SIZE ≤ hi) :
    ∃ ram, cbcEncryptStep E s = s.advance ram (.address s.output) ∧
      ram.bytes s.output AES_BLOCK_SIZE = E (Cbc.xor (s.ram.bytes s.input AES_BLOCK_SIZE) (s.iv.block s.ram)) ∧
      s.ram.Frame ram s.output AES_BLOCK_SIZE := by
  have hapart := h.apart
  obtain ⟨hbytes, hframe⟩ := xorLoop_block (m := s.ram) (g := fun m n => m (s.input + n)) h.iv_outside hhi
    fun k hk m' hm' => hm' _ (by omega)
  obtain ⟨hbytes', hframe'⟩ := blockOp_spec hE
    (Ram.loop s.output (fun m n => m (s.input + n) ^^^ s.iv.get m n) 0 AES_BLOCK_SIZE s.ram) s.output s.output
  exact ⟨_, rfl, hbytes'.trans (congrArg E hbytes), hframe.trans hframe'⟩

/-- A text that is shorter than a block, with its padding. -/
theorem pad_bytes {m : Ram} {p len : Nat} (hlen : len < AES_BLOCK_SIZE) :
    Cbc.pad AES_BLOCK_SIZE (m.bytes p len) =
      (List.range AES_BLOCK_SIZE).map fun k => if k < len then m (p + k) else u8 (AES_BLOCK_SIZE - len) := by
  have hpadding : Cbc.padding AES_BLOCK_SIZE len = AES_BLOCK_SIZE - len := by rw [Cbc.padding, Nat.mod_eq_of_lt hlen]
  have hlow : (List.range len).map (fun k => if k < len then m (p + k) else u8 (AES_BLOCK_SIZE - len)) = m.bytes p len :=
    List.map_congr_left fun k hk => if_pos (List.mem_range.mp hk)
  have hhigh : (List.range (AES_BLOCK_SIZE - len)).map
      ((fun k => if k < len then m (p + k) else u8 (AES_BLOCK_SIZE - len)) ∘ (len + ·)) =
        List.replicate (AES_BLOCK_SIZE - len) (u8 (AES_BLOCK_SIZE - len)) := by
    refine List.ext_getElem? fun k => ?_
    by_cases hk : k < AES_BLOCK_SIZE - len
    · simp [hk, show ¬ len + k < len by omega]
    · simp [hk]
  have hsplit : AES_BLOCK_SIZE = len + (AES_BLOCK_SIZE - len) := by omega
  rw [Cbc.pad, Ram.length_bytes, hpadding]
  conv => rhs; rw [hsplit, List.range_add, List.map_append, List.map_map, ← hsplit, hlow, hhigh]
  rfl

theorem cbcEncryptLast_spec (hE : ∀ b, (E b).length = AES_BLOCK_SIZE) {s : CbcVars} {hi : Nat} (h : s.Placed hi)
    (hlen : s.len < AES_BLOCK_SIZE) (hhi : s.output + AES_BLOCK_SIZE ≤ hi) :
    (cbcEncryptLast E s).1.bytes s.output AES_BLOCK_SIZE =
        E (Cbc.xor (Cbc.pad AES_BLOCK_SIZE (s.ram.bytes s.input s.len)) (s.iv.block s.ram)) ∧
      s.ram.Frame (cbcEncryptLast E s).1 s.output AES_BLOCK_SIZE ∧
      (cbcEncryptLast E s).2 = Cbc.padding AES_BLOCK_SIZE s.len := by
  have hapart := h.apart
  have hpadding : Cbc.padding AES_BLOCK_SIZE s.len = AES_BLOCK_SIZE - s.len := by
    rw [Cbc.padding, Nat.mod_eq_of_lt hlen]
  rw [pad_bytes hlen, Pointer.block, xor_map_range, hpadding]
  unfold cbcEncryptLast
  split
  · rename_i hpos
    -- the bytes of the text first, then those of the padding
    dsimp only
    generalize hram₁ : Ram.loop s.output (fun m n => m (s.input + n) ^^^ s.iv.get m n) 0 s.len s.ram = ram₁
    rw [xorLoop_eq (g := fun m n => m (s.input + n)) h.iv_outside hhi (by omega)
      fun k _ hk m' hm' => hm' _ (by omega)] at hram₁
    generalize hram₂ : Ram.loop s.output (fun m n => u8 (AES_BLOCK_SIZE - s.len) ^^^ s.iv.get m n) s.len
      (AES_BLOCK_SIZE - s.len) ram₁ = ram₂
    rw [xorLoop_eq (g := fun _ _ => u8 (AES_BLOCK_SIZE - s.len)) h.iv_outside hhi (by omega)
      fun _ _ _ _ _ => rfl] at hram₂
    have hframe₁ : s.ram.Frame ram₁ s.output AES_BLOCK_SIZE := by
      intro a ha
      rw [← hram₁]
      exact if_neg (by omega)
    have hframe₂ : s.ram.Frame ram₂ s.output AES_BLOCK_SIZE := by
      intro a ha
      rw [← hram₂, ← hframe₁ a ha]
      exact if_neg (by omega)
    obtain ⟨hbytes, hframe⟩ := blockOp_spec hE ram₂ s.output s.output
    refine ⟨hbytes.trans (congrArg E (List.map_congr_left fun k hk => ?_)), hframe₂.trans hframe, rfl⟩
    have hk' := List.mem_range.mp hk
    have hget : s.iv.get ram₁ k = s.iv.get s.ram k := h.iv_outside.get_eq hframe₁ hhi hk'
    rw [← hram₂]
    dsimp only
    by_cases hlt : k < s.len
    · rw [if_neg (by omega), if_pos hlt, ← hram₁]
      dsimp only
      rw [if_pos (by omega), Nat.add_sub_cancel_left]
    · rw [if_pos (by omega), if_neg hlt, Nat.add_sub_cancel_left, hget]
  · rename_i hzero
    have hzero : s.len = 0 := by omega
    obtain ⟨hbytes, hframe⟩ := xorLoop_block (m := s.ram) (g := fun _ _ => u8 AES_BLOCK_SIZE) h.iv_outside hhi
      fun _ _ _ _ => rfl
    obtain ⟨hbytes', hframe'⟩ := blockOp_spec hE
      (Ram.loop s.output (fun m n => u8 AES_BLOCK_SIZE ^^^ s.iv.get m n) 0 AES_BLOCK_SIZE s.ram) s.output s.output
    refine ⟨hbytes'.trans (congrArg E (hbytes.trans ?_)), hframe.trans hframe', by rw [hzero]; rfl⟩
    rw [Pointer.block, xor_map_range, hzero]
    exact List.map_congr_left fun k _ => by rw [if_neg (Nat.not_lt_zero k)]; rfl

/-- The loop and the last block, on a text with `n` whole blocks. -/
theorem cbcEncrypt_spec (hE : ∀ b, (E b).length = AES_BLOCK_SIZE) {n fuel hi : Nat} {s : CbcVars} (h : s.Placed hi)
    (hlo : AES_BLOCK_SIZE * n ≤ s.len) (hlt : s.len < AES_BLOCK_SIZE * (n + 1)) (hfuel : n ≤ fuel)
    (hhi : s.output + AES_BLOCK_SIZE * (n + 1) ≤ hi) :
    (cbcEncryptLast E (whileBlocks (cbcEncryptStep E) fuel s)).1.bytes s.output (AES_BLOCK_SIZE * (n + 1)) =
        Cbc.encrypt AES_BLOCK_SIZE E (n + 1) (s.iv.block s.ram) (Cbc.pad AES_BLOCK_SIZE (s.ram.bytes s.input s.len)) ∧
      s.ram.Frame (cbcEncryptLast E (whileBlocks (cbcEncryptStep E) fuel s)).1 s.output (AES_BLOCK_SIZE * (n + 1)) ∧
      (cbcEncryptLast E (whileBlocks (cbcEncryptStep E) fuel s)).2 = Cbc.padding AES_BLOCK_SIZE s.len := by
  have hsize : AES_BLOCK_SIZE = 16 := rfl
  induction n generalizing fuel s with
  | zero =>
    rw [Nat.mul_one] at hlt hhi
    have hlen : s.len < AES_BLOCK_SIZE := hlt
    have hpad : (Cbc.pad AES_BLOCK_SIZE (s.ram.bytes s.input s.len)).length ≤ AES_BLOCK_SIZE := by
      refine Nat.le_of_eq ?_
      rw [pad_bytes hlen, List.length_map, List.length_range]
    obtain ⟨hbytes, hframe, hpadding⟩ := cbcEncryptLast_spec hE h hlen hhi
    rw [whileBlocks_of_lt hlen, Cbc.encrypt, Cbc.encrypt, List.append_nil, List.take_of_length_le hpad]
    exact ⟨hbytes, hframe, hpadding⟩
  | succ n ih =>
    have hmul := Nat.mul_add_one AES_BLOCK_SIZE n
    have hmul' := Nat.mul_add_one AES_BLOCK_SIZE (n + 1)
    obtain ⟨fuel, rfl⟩ : ∃ k, fuel = k + 1 := ⟨fuel - 1, by omega⟩
    have hlen : AES_BLOCK_SIZE ≤ s.len := by omega
    have hapart := h.apart
    obtain ⟨ram, hstep, hblock, hframe⟩ := cbcEncryptStep_spec hE h hlen (by omega)
    obtain ⟨hbytes, hframe', hpadding⟩ := @ih fuel (s.advance ram (.address s.output))
      (h.advance hlen (Or.inl (Nat.le_refl _))) (by simp only [CbcVars.advance]; omega)
      (by simp only [CbcVars.advance]; omega) (by omega) (by simp only [CbcVars.advance]; omega)
    simp only [CbcVars.advance] at hbytes hframe' hpadding
    have htext : s.ram.bytes s.input s.len =
        s.ram.bytes s.input AES_BLOCK_SIZE ++ s.ram.bytes (s.input + AES_BLOCK_SIZE) (s.len - AES_BLOCK_SIZE) := by
      rw [← Ram.bytes_add, Nat.add_sub_cancel' hlen]
    have hrest : ram.bytes (s.input + AES_BLOCK_SIZE) (s.len - AES_BLOCK_SIZE) =
        s.ram.bytes (s.input + AES_BLOCK_SIZE) (s.len - AES_BLOCK_SIZE) := hframe.bytes_eq (by omega)
    have hiv : (Pointer.address s.output).block ram = ram.bytes s.output AES_BLOCK_SIZE := rfl
    rw [whileBlocks_succ hlen, hstep]
    simp only [CbcVars.advance]
    generalize cbcEncryptLast E (whileBlocks (cbcEncryptStep E) fuel _) = r at hbytes hframe' hpadding ⊢
    have hfirst : r.1.bytes s.output AES_BLOCK_SIZE = ram.bytes s.output AES_BLOCK_SIZE := hframe'.bytes_eq (by omega)
    refine ⟨?_, (hframe.mono (Nat.le_refl _) (by omega)).trans (hframe'.mono (by omega) (by omega)), ?_⟩
    · rw [hmul', Nat.add_comm, Ram.bytes_add, hbytes, hfirst, hiv, hrest, htext,
        Cbc.pad_append_block (Ram.length_bytes ..), Cbc.encrypt.eq_def _ _ (n + 1 + 1)]
      dsimp only
      rw [List.take_left' (Ram.length_bytes ..), List.drop_left' (Ram.length_bytes ..), hblock]
    · rw [hpadding, Cbc.padding, Cbc.padding, ← Nat.mod_eq_sub_mod hlen]

end

section

variable {D : List UInt8 → List UInt8}

/-- What a round of decryption does, where `P` says whether it is in place. -/
def DecryptRound (D : List UInt8 → List UInt8) (P : CbcVars → Prop) (step : CbcVars → CbcVars) : Prop :=
  ∀ (s : CbcVars) (hi : Nat), s.Placed hi → P s → AES_BLOCK_SIZE ≤ s.len → s.output + AES_BLOCK_SIZE ≤ hi →
    ∃ ram iv, step s = s.advance ram iv ∧ P (s.advance ram iv) ∧
      ram.bytes s.output AES_BLOCK_SIZE = Cbc.xor (D (s.ram.bytes s.input AES_BLOCK_SIZE)) (s.iv.block s.ram) ∧
      s.ram.Frame ram s.output AES_BLOCK_SIZE ∧ iv.block ram = s.ram.bytes s.input AES_BLOCK_SIZE ∧
      iv.Outside (s.output + AES_BLOCK_SIZE) hi

/-- The block function, and the loop that adds the block at `iv`. -/
theorem decryptBlock_spec (hD : ∀ b, (D b).length = AES_BLOCK_SIZE) {s : CbcVars} {hi : Nat} (h : s.Placed hi)
    (hhi : s.output + AES_BLOCK_SIZE ≤ hi) :
    (Ram.loop s.output (fun m n => m (s.output + n) ^^^ s.iv.get m n) 0 AES_BLOCK_SIZE
        (blockOp D s.ram s.input s.output)).bytes s.output AES_BLOCK_SIZE =
        Cbc.xor (D (s.ram.bytes s.input AES_BLOCK_SIZE)) (s.iv.block s.ram) ∧
      s.ram.Frame (Ram.loop s.output (fun m n => m (s.output + n) ^^^ s.iv.get m n) 0 AES_BLOCK_SIZE
        (blockOp D s.ram s.input s.output)) s.output AES_BLOCK_SIZE := by
  obtain ⟨hbytes, hframe⟩ := blockOp_spec hD s.ram s.input s.output
  obtain ⟨hbytes', hframe'⟩ := xorLoop_block (m := blockOp D s.ram s.input s.output)
    (g := fun m n => m (s.output + n)) h.iv_outside hhi fun k _ m' hm' => hm' _ (by omega)
  refine ⟨?_, hframe.trans hframe'⟩
  rw [hbytes', h.iv_outside.block_eq hframe hhi, ← hbytes]
  rfl

theorem cbcDecryptStep_round (hD : ∀ b, (D b).length = AES_BLOCK_SIZE) :
    DecryptRound D (fun s => s.input ≠ s.output) (cbcDecryptStep D) := by
  intro s hi h hne hlen hhi
  have hapart := h.apart
  obtain ⟨hbytes, hframe⟩ := decryptBlock_spec hD h hhi
  refine ⟨_, .address s.input, rfl, ?_, hbytes, hframe, hframe.bytes_eq (by omega), ?_⟩
  · simp only [CbcVars.advance]
    omega
  · simp only [Pointer.Outside]
    omega

theorem cbcDecryptStepInPlace_round (hD : ∀ b, (D b).length = AES_BLOCK_SIZE) :
    DecryptRound D (fun s => s.input = s.output) (cbcDecryptStepInPlace D) := by
  intro s hi h heq hlen hhi
  obtain ⟨hbytes, hframe⟩ := decryptBlock_spec hD h hhi
  refine ⟨_, .object (s.ram.bytes s.input AES_BLOCK_SIZE), rfl, ?_, hbytes, hframe, ?_, trivial⟩
  · simp only [CbcVars.advance]
    omega
  · exact List.map_congr_left fun k hk => by simp [Pointer.get, Ram.bytes, List.mem_range.mp hk]

/-- The loop, on `n` whole blocks. -/
theorem cbcDecrypt_spec {P : CbcVars → Prop} {step : CbcVars → CbcVars} (hround : DecryptRound D P step) {n fuel hi : Nat}
    {s : CbcVars} (h : s.Placed hi) (hP : P s) (hlen : s.len = AES_BLOCK_SIZE * n) (hfuel : n ≤ fuel)
    (hhi : s.output + AES_BLOCK_SIZE * n ≤ hi) :
    (whileBlocks step fuel s).ram.bytes s.output (AES_BLOCK_SIZE * n) =
        Cbc.decrypt AES_BLOCK_SIZE D n (s.iv.block s.ram) (s.ram.bytes s.input (AES_BLOCK_SIZE * n)) ∧
      s.ram.Frame (whileBlocks step fuel s).ram s.output (AES_BLOCK_SIZE * n) ∧
      (whileBlocks step fuel s).len = 0 ∧ (whileBlocks step fuel s).output = s.output + AES_BLOCK_SIZE * n := by
  have hsize : AES_BLOCK_SIZE = 16 := rfl
  induction n generalizing fuel s with
  | zero =>
    rw [whileBlocks_of_lt (by omega)]
    exact ⟨rfl, fun _ _ => rfl, hlen, rfl⟩
  | succ n ih =>
    have hmul := Nat.mul_add_one AES_BLOCK_SIZE n
    obtain ⟨fuel, rfl⟩ : ∃ k, fuel = k + 1 := ⟨fuel - 1, by omega⟩
    have hle : AES_BLOCK_SIZE ≤ s.len := by omega
    have hapart := h.apart
    obtain ⟨ram, iv, hstep, hP', hblock, hframe, hiv, hout⟩ := hround s hi h hP hle (by omega)
    obtain ⟨hbytes, hframe', hlen', houtput⟩ := @ih fuel (s.advance ram iv) (h.advance hle hout) hP'
      (by simp only [CbcVars.advance]; omega) (by omega) (by simp only [CbcVars.advance]; omega)
    have hrest : ram.bytes (s.input + AES_BLOCK_SIZE) (AES_BLOCK_SIZE * n) =
        s.ram.bytes (s.input + AES_BLOCK_SIZE) (AES_BLOCK_SIZE * n) := hframe.bytes_eq (by omega)
    rw [whileBlocks_succ hle, hstep]
    simp only [CbcVars.advance] at hbytes hframe' hlen' houtput ⊢
    generalize whileBlocks step fuel _ = t at hbytes hframe' hlen' houtput ⊢
    have hfirst : t.ram.bytes s.output AES_BLOCK_SIZE = ram.bytes s.output AES_BLOCK_SIZE := hframe'.bytes_eq (by omega)
    refine ⟨?_, (hframe.mono (Nat.le_refl _) (by omega)).trans (hframe'.mono (by omega) (by omega)), hlen', by omega⟩
    rw [hmul, Nat.add_comm, Ram.bytes_add, Ram.bytes_add, hbytes, hfirst, hblock, hiv, hrest, Cbc.decrypt,
      List.take_left' (Ram.length_bytes ..), List.drop_left' (Ram.length_bytes ..)]

end

/-- The length of a text of length `len` once it is encrypted. -/
def paddedLen (len : Nat) : Nat := AES_BLOCK_SIZE * (len / AES_BLOCK_SIZE + 1)

theorem add_padding (len : Nat) : len + Cbc.padding AES_BLOCK_SIZE len = paddedLen len := by
  have hdiv := Nat.div_add_mod len AES_BLOCK_SIZE
  have hmod := Nat.mod_lt len (show 0 < AES_BLOCK_SIZE by decide)
  rw [paddedLen, Nat.mul_add_one, Cbc.padding]
  omega

theorem object_block {ivec : List UInt8} (hivec : ivec.length = AES_BLOCK_SIZE) (m : Ram) :
    (Pointer.object ivec).block m = ivec := by
  refine List.ext_getElem? fun k => ?_
  by_cases hk : k < AES_BLOCK_SIZE
  · simp [Pointer.block, Pointer.get, hk, hivec]
  · simp [Pointer.block, hk, hivec]

section

variable {E D : List UInt8 → List UInt8} {m : Ram} {input output : Nat} {ivec : List UInt8}

/-- Encryption, whether the result goes to the place of the text or elsewhere. -/
theorem AES_cbc_core_encrypt (hE : ∀ b, (E b).length = AES_BLOCK_SIZE) {length : Nat} (hivec : ivec.length = AES_BLOCK_SIZE)
    (hplace : input = output ∨ input + length ≤ output ∨ output + paddedLen length ≤ input) :
    (AES_cbc_core E D m input output length ivec true).1.bytes output (paddedLen length) =
        Cbc.encrypt AES_BLOCK_SIZE E (length / AES_BLOCK_SIZE + 1) ivec (Cbc.pad AES_BLOCK_SIZE (m.bytes input length)) ∧
      (AES_cbc_core E D m input output length ivec true).2.2 = u32 (paddedLen length) := by
  have hlo : AES_BLOCK_SIZE * (length / AES_BLOCK_SIZE) ≤ length := Nat.mul_div_le ..
  have hlt : length < AES_BLOCK_SIZE * (length / AES_BLOCK_SIZE + 1) := Nat.lt_mul_div_succ length (by decide)
  obtain ⟨hbytes, -, hpadding⟩ := @cbcEncrypt_spec _ hE _ length (output + paddedLen length)
    ⟨m, length, input, output, .object ivec⟩ ⟨trivial, hplace⟩ hlo hlt (Nat.div_le_self ..) (Nat.le_refl _)
  rw [object_block hivec] at hbytes
  rw [AES_cbc_core, if_pos rfl]
  refine ⟨hbytes, ?_⟩
  change u32 (length + (cbcEncryptLast E _).2) = _
  rw [hpadding, add_padding]

/-- Decryption of `n` blocks, whether the result goes to the place of the text
or elsewhere. -/
theorem AES_cbc_core_decrypt (hD : ∀ b, (D b).length = AES_BLOCK_SIZE) {n : Nat} (hivec : ivec.length = AES_BLOCK_SIZE)
    (hn : 0 < n)
    (hplace : input = output ∨ input + AES_BLOCK_SIZE * n ≤ output ∨ output + AES_BLOCK_SIZE * n ≤ input) :
    (AES_cbc_core E D m input output (AES_BLOCK_SIZE * n) ivec false).1.bytes output (AES_BLOCK_SIZE * n) =
        Cbc.decrypt AES_BLOCK_SIZE D n ivec (m.bytes input (AES_BLOCK_SIZE * n)) ∧
      (AES_cbc_core E D m input output (AES_BLOCK_SIZE * n) ivec false).2.2 = u32Sub (AES_BLOCK_SIZE * n)
        (((AES_cbc_core E D m input output (AES_BLOCK_SIZE * n) ivec false).1
          (output + (AES_BLOCK_SIZE * n - 1))).toNat) := by
  have hfuel : n ≤ AES_BLOCK_SIZE * n := Nat.le_mul_of_pos_left n (by decide)
  have hpos : 0 < AES_BLOCK_SIZE * n := Nat.mul_pos (by decide) hn
  have hrun {P : CbcVars → Prop} {step : CbcVars → CbcVars} (hround : DecryptRound D P step)
      (hP : P ⟨m, AES_BLOCK_SIZE * n, input, output, .object ivec⟩) :=
    @cbcDecrypt_spec _ _ _ hround _ _ (output + AES_BLOCK_SIZE * n) ⟨m, AES_BLOCK_SIZE * n, input, output, .object ivec⟩
      ⟨trivial, hplace⟩ hP rfl hfuel (Nat.le_refl _)
  rw [AES_cbc_core, if_neg (by decide)]
  dsimp only
  split
  · rename_i hne
    obtain ⟨hbytes, -, hlen, hout⟩ := hrun (cbcDecryptStep_round hD) hne
    rw [object_block hivec] at hbytes
    rw [if_neg (not_not.mpr hlen), hout, hlen, Nat.add_zero, Nat.add_sub_assoc hpos]
    exact ⟨hbytes, rfl⟩
  · rename_i heq
    obtain ⟨hbytes, -, hlen, hout⟩ := hrun (cbcDecryptStepInPlace_round hD) (not_not.mp heq)
    rw [object_block hivec] at hbytes
    rw [if_neg (not_not.mpr hlen), hout, hlen, Nat.add_zero, Nat.add_sub_assoc hpos]
    exact ⟨hbytes, rfl⟩

end

/-- On the same text, `AES_cbc_core` gives in place what it gives elsewhere: the
text encrypted, of any length, and the text decrypted, of any number of whole
blocks. -/
theorem AES_cbc_core_inPlace {E D : List UInt8 → List UInt8} (hE : ∀ b, (E b).length = AES_BLOCK_SIZE)
    (hD : ∀ b, (D b).length = AES_BLOCK_SIZE) {ivec : List UInt8} (hivec : ivec.length = AES_BLOCK_SIZE)
    {m m' : Ram} {p input output : Nat} :
    (∀ length, m.bytes p length = m'.bytes input length →
      (input + length ≤ output ∨ output + paddedLen length ≤ input) →
        (AES_cbc_core E D m p p length ivec true).1.bytes p (paddedLen length) =
            (AES_cbc_core E D m' input output length ivec true).1.bytes output (paddedLen length) ∧
          (AES_cbc_core E D m p p length ivec true).2.2 = (AES_cbc_core E D m' input output length ivec true).2.2 ∧
          (AES_cbc_core E D m p p length ivec true).2.2 = u32 (paddedLen length)) ∧
    ∀ n, 0 < n → m.bytes p (AES_BLOCK_SIZE * n) = m'.bytes input (AES_BLOCK_SIZE * n) →
      (input + AES_BLOCK_SIZE * n ≤ output ∨ output + AES_BLOCK_SIZE * n ≤ input) →
        (AES_cbc_core E D m p p (AES_BLOCK_SIZE * n) ivec false).1.bytes p (AES_BLOCK_SIZE * n) =
            (AES_cbc_core E D m' input output (AES_BLOCK_SIZE * n) ivec false).1.bytes output (AES_BLOCK_SIZE * n) ∧
          (AES_cbc_core E D m p p (AES_BLOCK_SIZE * n) ivec false).2.2 =
            (AES_cbc_core E D m' input output (AES_BLOCK_SIZE * n) ivec false).2.2 := by
  constructor
  · intro length hsame hapart
    obtain ⟨hbytes, hlen⟩ := @AES_cbc_core_encrypt _ D m p p _ hE _ hivec (Or.inl rfl)
    obtain ⟨hbytes', hlen'⟩ := @AES_cbc_core_encrypt _ D m' input output _ hE _ hivec (Or.inr hapart)
    exact ⟨by rw [hbytes, hbytes', hsame], by rw [hlen, hlen'], hlen⟩
  · intro n hn hsame hapart
    obtain ⟨hbytes, hlen⟩ := @AES_cbc_core_decrypt E _ m p p _ hD _ hivec hn (Or.inl rfl)
    obtain ⟨hbytes', hlen'⟩ := @AES_cbc_core_decrypt E _ m' input output _ hD _ hivec hn (Or.inr hapart)
    have hplain : (AES_cbc_core E D m p p (AES_BLOCK_SIZE * n) ivec false).1.bytes p (AES_BLOCK_SIZE * n) =
        (AES_cbc_core E D m' input output (AES_BLOCK_SIZE * n) ivec false).1.bytes output (AES_BLOCK_SIZE * n) := by
      rw [hbytes, hbytes', hsame]
    have hlast := Ram.get_of_bytes_eq hplain
      (Nat.sub_lt (Nat.mul_pos (show 0 < AES_BLOCK_SIZE by decide) hn) Nat.one_pos)
    exact ⟨hplain, by rw [hlen, hlen', hlast]⟩

/-- A block function that copies, and a text of three bytes. -/
theorem AES_cbc_core_inPlace_short :
    (AES_cbc_core (fun b => (b ++ List.replicate 16 0).take 16) (fun b => (b ++ List.replicate 16 0).take 16) (fun _ => 7) 0 0 3
        (List.replicate 16 1) true).1.bytes 0 (paddedLen 3) =
      (AES_cbc_core (fun b => (b ++ List.replicate 16 0).take 16) (fun b => (b ++ List.replicate 16 0).take 16) (fun _ => 7) 0 3 3
        (List.replicate 16 1) true).1.bytes 3 (paddedLen 3) := by
  have hlen : ∀ b : List UInt8, ((b ++ List.replicate 16 0).take 16).length = AES_BLOCK_SIZE := by
    intro b
    rw [List.length_take, List.length_append, List.length_replicate]
    exact Nat.min_eq_left (Nat.le_add_left ..)
  exact ((@AES_cbc_core_inPlace _ _ hlen hlen (List.replicate 16 1) rfl _ _ _ _ _).1 3 rfl (Or.inl (by decide))).1

/-- What the functions that work on whole texts say is what `AES_cbc_core` leaves
in memory. -/
theorem AES_CBC_Encrypt_eq_core (c : Cipher) (key : List UInt8) {m : Ram} {input output length : Nat} {ivec : List UInt8}
    (hivec : ivec.length = AES_BLOCK_SIZE)
    (hplace : input = output ∨ input + length ≤ output ∨ output + paddedLen length ≤ input) :
    (AES_cbc_core (c.AES_encrypt key) (c.AES_decrypt key) m input output length ivec true).1.bytes output (paddedLen length) =
      AES_CBC_Encrypt c (m.bytes input length) key ivec := by
  rw [(AES_cbc_core_encrypt (c.length_encrypt key) hivec hplace).1, AES_CBC_Encrypt, Ram.length_bytes]
  rfl

end ZCloud
