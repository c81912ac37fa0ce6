import Mathlib.Data.List.Induction

/-! Ciphers that are made of rounds, each of which substitutes, permutes and
mixes the state and adds a key to it. -/

/-- What a round is made of. Adding a key twice does nothing, the permutation
does not depend on what it moves, and mixing is linear. -/
structure Spn (S : Type) where
  add : S → S → S
  sub : S → S
  subInv : S → S
  perm : S → S
  permInv : S → S
  mix : S → S
  mixInv : S → S
  add_add_cancel : ∀ x k, add (add x k) k = x
  subInv_sub : ∀ x, subInv (sub x) = x
  permInv_perm : ∀ x, permInv (perm x) = x
  mixInv_mix : ∀ x, mixInv (mix x) = x
  mixInv_add : ∀ x k, mixInv (add x k) = add (mixInv x) (mixInv k)
  permInv_subInv : ∀ x, permInv (subInv x) = subInv (permInv x)

namespace Spn

variable {S : Type} (c : Spn S)

def round (x k : S) : S := c.add (c.mix (c.perm (c.sub x))) k

/-- The last round does not mix. -/
def lastRound (x k : S) : S := c.add (c.perm (c.sub x)) k

/-- A key is added, then there is a round for each of `keys` and the last one. -/
def encrypt (first : S) (keys : List S) (last : S) (x : S) : S :=
  c.lastRound (keys.foldl c.round (c.add x first)) last

/-- A round with the inverse parts, in the order of the round itself. -/
def invRound (x k : S) : S := c.add (c.mixInv (c.permInv (c.subInv x))) k

def invLastRound (x k : S) : S := c.add (c.permInv (c.subInv x)) k

/-- The rounds with the inverse parts. The keys come in the other order, and
those in the middle are mixed. -/
def decrypt (first : S) (keys : List S) (last : S) (x : S) : S :=
  c.invLastRound ((keys.reverse.map c.mixInv).foldl c.invRound (c.add x last)) first

theorem permInv_subInv_perm_sub (x : S) : c.permInv (c.subInv (c.perm (c.sub x))) = x := by
  rw [c.permInv_subInv, c.permInv_perm, c.subInv_sub]

/-- What an inverse round does to the state before the mixing of a round. -/
theorem invRound_perm_sub_round (x k : S) :
    c.invRound (c.perm (c.sub (c.round x k))) (c.mixInv k) = c.perm (c.sub x) := by
  rw [invRound, permInv_subInv_perm_sub, ← c.mixInv_add, round, c.add_add_cancel, c.mixInv_mix]

theorem foldl_invRound (keys : List S) (x : S) :
    (keys.reverse.map c.mixInv).foldl c.invRound (c.perm (c.sub (keys.foldl c.round x))) = c.perm (c.sub x) := by
  induction keys using List.reverseRecOn with
  | nil => rfl
  | append_singleton keys k ih =>
    rw [List.foldl_append, List.reverse_append, List.reverse_singleton, List.singleton_append, List.map_cons,
      List.foldl_cons, List.foldl_cons, List.foldl_nil, invRound_perm_sub_round]
    exact ih

theorem decrypt_encrypt (first : S) (keys : List S) (last x : S) :
    c.decrypt first keys last (c.encrypt first keys last x) = x := by
  rw [decrypt, encrypt, lastRound, c.add_add_cancel, foldl_invRound, invLastRound, permInv_subInv_perm_sub,
    c.add_add_cancel]

end Spn
