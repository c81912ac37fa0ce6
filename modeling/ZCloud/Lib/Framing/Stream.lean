import ZCloud.Lib.Framing.Slot

namespace Framing

variable {β : Type}

/-- The frames that the first `n` bytes of a stream complete, those that are
left, and how many bytes of the first of these have arrived. -/
def advance : List (List β) → Nat → List (List β) × List (List β) × Nat
  | [], _ => ([], [], 0)
  | f :: frames, n =>
    if n < f.length then ([], f :: frames, n)
    else
      let (done, left, k) := advance frames (n - f.length)
      (f :: done, left, k)

theorem advance_of_lt {f : List β} {frames : List (List β)} {n : Nat} (h : n < f.length) :
    advance (f :: frames) n = ([], f :: frames, n) :=
  if_pos h

theorem advance_of_le {f : List β} {frames : List (List β)} {n : Nat} (h : f.length ≤ n) :
    advance (f :: frames) n = (f :: (advance frames (n - f.length)).1,
      (advance frames (n - f.length)).2) :=
  if_neg (Nat.not_lt.mpr h)

variable {F : Format β}

theorem advance_zero {frames : List (List β)} (hframes : ∀ f ∈ frames, F.IsFrame f) :
    advance frames 0 = ([], frames, 0) := by
  cases frames with
  | nil => rfl
  | cons f frames => exact advance_of_lt (hframes f (List.mem_cons_self ..)).length_pos

/-- The frames completed and the frames left are the frames of the stream. -/
theorem advance_append (frames : List (List β)) (n : Nat) :
    (advance frames n).1 ++ (advance frames n).2.1 = frames := by
  induction frames generalizing n with
  | nil => rfl
  | cons f frames ih =>
    by_cases h : n < f.length
    · rw [advance_of_lt h, List.nil_append]
    · rw [advance_of_le (by omega), List.cons_append, ih]

/-- The bytes that have arrived of the first frame left are fewer than it. -/
theorem advance_lt {frames : List (List β)} {n : Nat} {f : List β} {rest : List (List β)}
    (h : (advance frames n).2.1 = f :: rest) : (advance frames n).2.2 < f.length := by
  induction frames generalizing n with
  | nil => cases h
  | cons g frames ih =>
    by_cases hlt : n < g.length
    · rw [advance_of_lt hlt] at h ⊢
      cases h
      exact hlt
    · rw [advance_of_le (by omega)] at h ⊢
      exact ih h

theorem advance_nil {frames : List (List β)} {n : Nat} (h : (advance frames n).2.1 = []) :
    (advance frames n).2.2 = 0 := by
  induction frames generalizing n with
  | nil => rfl
  | cons g frames ih =>
    by_cases hlt : n < g.length
    · rw [advance_of_lt hlt] at h
      cases h
    · rw [advance_of_le (by omega)] at h ⊢
      exact ih h

/-- What a stream still has to bring after its first bytes `c`. -/
theorem advance_drop {frames : List (List β)} {c tail : List β} (hcut : c ++ tail = frames.flatten) :
    tail = ((advance frames c.length).2.1).flatten.drop (advance frames c.length).2.2 := by
  induction frames generalizing c with
  | nil =>
    simp only [List.flatten_nil, List.append_eq_nil_iff] at hcut
    simp [hcut.2, advance]
  | cons f frames ih =>
    rw [List.flatten_cons] at hcut
    by_cases hlt : c.length < f.length
    · rw [advance_of_lt hlt, List.flatten_cons, ← hcut, List.drop_left]
    · obtain ⟨extra, hsplit, hlater⟩ := Slot.take_finish (k := 0) (by simpa using hcut)
        (Nat.zero_le _) (by omega)
      rw [List.take_zero, List.nil_append] at hsplit
      have hlen : c.length - f.length = extra.length := by
        rw [hsplit, List.length_append]
        omega
      rw [advance_of_le (by omega), hlen]
      exact ih hlater

section

variable [DecidableEq β] (mark : List β)

/-- At how many places of a stream `mark` begins. -/
def marks : List β → Nat
  | [] => 0
  | b :: l => (if (b :: l).take mark.length = mark then 1 else 0) + marks l

variable {mark}

theorem marks_le_append (p l : List β) : marks mark l ≤ marks mark (p ++ l) := by
  induction p with
  | nil => exact Nat.le_refl _
  | cons b p ih => exact Nat.le_trans ih (Nat.le_add_left ..)

/-- Leaving out the beginning of a stream that begins with `mark` leaves out a
place where `mark` begins. -/
theorem marks_lt_append {p l : List β} (hne : p ≠ []) (hmark : (p ++ l).take mark.length = mark) :
    marks mark l < marks mark (p ++ l) := by
  obtain ⟨b, p, rfl⟩ := List.exists_cons_of_ne_nil hne
  have hrest := @marks_le_append _ _ mark p l
  rw [List.cons_append] at hmark ⊢
  rw [marks, if_pos hmark]
  omega

theorem marks_cons_of_ne {b : β} {l : List β} (hmark : (b :: l).take mark.length ≠ mark) :
    marks mark (b :: l) = marks mark l := by
  rw [marks, if_neg hmark, Nat.zero_add]

/-- A part of a stream in which `mark` does not begin adds nothing. -/
theorem marks_append_of_ne {p l : List β}
    (hmark : ∀ i < p.length, (p.drop i ++ l).take mark.length ≠ mark) :
    marks mark (p ++ l) = marks mark l := by
  induction p with
  | nil => rfl
  | cons b p ih =>
    have hhead := hmark 0 (Nat.zero_lt_succ _)
    rw [List.drop_zero, List.cons_append] at hhead
    rw [List.cons_append, marks_cons_of_ne hhead]
    exact ih fun i hi => hmark (i + 1) (Nat.succ_lt_succ hi)

end

end Framing
