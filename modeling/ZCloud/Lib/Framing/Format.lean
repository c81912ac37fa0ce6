import Mathlib.Algebra.Ring.Nat

namespace Framing

/-- A framing of a byte stream: a header of fixed length that says whether it
is acceptable and how long the whole frame is, header included. -/
structure Format (β : Type) where
  head : Nat
  accept : List β → Bool
  total : List β → Nat
  head_pos : 0 < head
  accept_take : ∀ p, head ≤ p.length → accept (p.take head) = accept p
  total_take : ∀ p, head ≤ p.length → total (p.take head) = total p
  head_le_total : ∀ p, head ≤ p.length → head ≤ total p

/-- What becomes of the bytes collected so far once a chunk has been added. -/
inductive Outcome (β : Type) where
  | pending (bytes : List β)
  | complete (frame rest : List β)
  | reject
deriving DecidableEq

namespace Format

variable {β : Type} (F : Format β)

/-- A whole acceptable frame and nothing else. -/
structure IsFrame (f : List β) : Prop where
  head_le : F.head ≤ f.length
  accepted : F.accept f = true
  length_eq : f.length = F.total f

/-- Bytes that are still short of a frame. -/
def Open (p : List β) : Prop :=
  p.length < F.head ∨ (F.accept p = true ∧ p.length < F.total p)

/-- Adds the chunk `c` to the bytes `p` collected so far. -/
def absorb (p c : List β) : Outcome β :=
  if (p ++ c).length < F.head then .pending (p ++ c)
  else if F.accept (p ++ c) = false then .reject
  else if F.total (p ++ c) ≤ (p ++ c).length then
    .complete ((p ++ c).take (F.total (p ++ c))) ((p ++ c).drop (F.total (p ++ c)))
  else .pending (p ++ c)

variable {F}

theorem accept_append {p q : List β} (h : F.head ≤ p.length) : F.accept (p ++ q) = F.accept p := by
  rw [← F.accept_take (p ++ q) (by simp; omega), List.take_append_of_le_length h, F.accept_take p h]

theorem total_append {p q : List β} (h : F.head ≤ p.length) : F.total (p ++ q) = F.total p := by
  rw [← F.total_take (p ++ q) (by simp; omega), List.take_append_of_le_length h, F.total_take p h]

theorem open_nil : F.Open [] := Or.inl F.head_pos

theorem IsFrame.length_pos {f : List β} (hf : F.IsFrame f) : 0 < f.length :=
  Nat.lt_of_lt_of_le F.head_pos hf.head_le

/-- The four ways in which a chunk is taken in. -/
theorem absorb_cases (p c : List β) :
    (p ++ c).length < F.head ∧ F.absorb p c = .pending (p ++ c) ∨
    (F.head ≤ (p ++ c).length ∧ F.accept (p ++ c) = false) ∧ F.absorb p c = .reject ∨
    (F.head ≤ (p ++ c).length ∧ F.accept (p ++ c) = true ∧ F.total (p ++ c) ≤ (p ++ c).length) ∧
      F.absorb p c =
        .complete ((p ++ c).take (F.total (p ++ c))) ((p ++ c).drop (F.total (p ++ c))) ∨
    (F.head ≤ (p ++ c).length ∧ F.accept (p ++ c) = true ∧ (p ++ c).length < F.total (p ++ c)) ∧
      F.absorb p c = .pending (p ++ c) := by
  unfold absorb
  by_cases hhead : (p ++ c).length < F.head
  · exact Or.inl ⟨hhead, if_pos hhead⟩
  · rw [if_neg hhead]
    cases haccept : F.accept (p ++ c) with
    | false => exact Or.inr (Or.inl ⟨⟨by omega, rfl⟩, if_pos rfl⟩)
    | true =>
      rw [if_neg (by decide)]
      by_cases htotal : F.total (p ++ c) ≤ (p ++ c).length
      · exact Or.inr (Or.inr (Or.inl ⟨⟨by omega, rfl, htotal⟩, if_pos htotal⟩))
      · exact Or.inr (Or.inr (Or.inr ⟨⟨by omega, rfl, by omega⟩, if_neg htotal⟩))

/-- What `absorb` leaves pending is everything collected, and is short of a
frame. -/
theorem absorb_pending {p c q : List β} (h : F.absorb p c = .pending q) :
    q = p ++ c ∧ F.Open q := by
  unfold absorb at h
  split at h
  · cases h
    exact ⟨rfl, Or.inl ‹_›⟩
  · split at h
    · cases h
    · split at h
      · cases h
      · cases h
        exact ⟨rfl, Or.inr ⟨by simpa using ‹¬ F.accept _ = false›, by omega⟩⟩

/-- A completed frame and the bytes after it are together everything
collected. -/
theorem absorb_complete {p c f rest : List β} (h : F.absorb p c = .complete f rest) :
    f ++ rest = p ++ c ∧ F.IsFrame f := by
  unfold absorb at h
  split at h
  · cases h
  · split at h
    · cases h
    · split at h
      · cases h
        have hhead : F.head ≤ (p ++ c).length := by omega
        have htotal := F.head_le_total (p ++ c) hhead
        have hlen : ((p ++ c).take (F.total (p ++ c))).length = F.total (p ++ c) := by
          rw [List.length_take]
          omega
        have hle : F.head ≤ ((p ++ c).take (F.total (p ++ c))).length := by omega
        refine ⟨List.take_append_drop _ _, hle, ?_, ?_⟩
        · rw [← accept_append (q := (p ++ c).drop (F.total (p ++ c))) hle, List.take_append_drop]
          simpa using ‹¬ F.accept _ = false›
        · rw [hlen, ← total_append (q := (p ++ c).drop (F.total (p ++ c))) hle,
            List.take_append_drop]
      · cases h

/-- Part of a frame, extended by more of it but not by all, stays pending. -/
theorem absorb_within {f p c d : List β} (hf : F.IsFrame f) (hsplit : f = p ++ c ++ d)
    (hd : d ≠ []) : F.absorb p c = .pending (p ++ c) := by
  have hlt : (p ++ c).length < f.length := by
    have := List.length_pos_iff.mpr hd
    simp only [hsplit, List.length_append]
    omega
  unfold absorb
  split
  · rfl
  · have hhead : F.head ≤ (p ++ c).length := by omega
    have haccept : F.accept (p ++ c) = true := by
      rw [← accept_append (q := d) hhead, ← hsplit]
      exact hf.accepted
    have htotal : F.total (p ++ c) = f.length := by
      rw [← total_append (q := d) hhead, ← hsplit]
      exact hf.length_eq.symm
    rw [if_neg (by simp [haccept]), if_neg (by omega)]

/-- Part of a frame, extended by the rest of it and by whatever follows,
completes it. -/
theorem absorb_finish {f p c rest : List β} (hf : F.IsFrame f) (hsplit : p ++ c = f ++ rest) :
    F.absorb p c = .complete f rest := by
  have hhead : F.head ≤ (f ++ rest).length := by
    have := hf.head_le
    rw [List.length_append]
    omega
  have haccept : F.accept (f ++ rest) = true := by
    rw [accept_append hf.head_le]
    exact hf.accepted
  have htotal : F.total (f ++ rest) = f.length := by
    rw [total_append hf.head_le]
    exact hf.length_eq.symm
  unfold absorb
  rw [hsplit, if_neg (by omega), if_neg (by simp [haccept]), htotal,
    if_pos (by rw [List.length_append]; omega), List.take_left, List.drop_left]

/-- Bytes that come in two parts: what the first part leaves pending is
collected with the second one, -/
theorem absorb_append_of_pending {p c d q : List β} (h : F.absorb p c = .pending q) :
    F.absorb p (c ++ d) = F.absorb q d := by
  rw [(absorb_pending h).1]
  unfold absorb
  rw [List.append_assoc]

/-- and a frame that the first part completes, or a head that is rejected, is
so with the second one too. -/
theorem absorb_append_of_complete {p c f rest : List β} (d : List β) (h : F.absorb p c = .complete f rest) :
    F.absorb p (c ++ d) = .complete f (rest ++ d) := by
  obtain ⟨hcut, hf⟩ := absorb_complete h
  refine absorb_finish hf ?_
  rw [← List.append_assoc, ← hcut, List.append_assoc]

theorem absorb_append_of_reject {p c : List β} (d : List β) (h : F.absorb p c = .reject) :
    F.absorb p (c ++ d) = .reject := by
  unfold absorb at h
  split at h
  · cases h
  · rename_i hhead
    split at h
    · rename_i hreject
      unfold absorb
      rw [← List.append_assoc, if_neg (by rw [List.length_append]; omega), accept_append (by omega), if_pos hreject]
    · split at h <;> cases h

end Format

end Framing
