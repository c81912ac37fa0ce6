import ZCloud.Lib.Framing.Format

namespace Framing

variable {β : Type}

/-- What happens to a receiver: a chunk of the stream arrives, or the consumer
takes the message that is waiting. -/
inductive Step (β : Type) where
  | chunk (bytes : List β)
  | consume
deriving DecidableEq

/-- The chunks among the steps, in order. -/
def chunks : List (Step β) → List (List β)
  | [] => []
  | .chunk c :: steps => c :: chunks steps
  | .consume :: steps => chunks steps

/-- A receiver with room for one message. While a message waits it takes no
bytes, and what follows a frame in the chunk that completes it is dropped. -/
structure Slot (β : Type) where
  pending : List β
  waiting : Bool
  delivered : List (List β)

namespace Slot

variable (F : Format β)

/-- The receiver before any byte has arrived. -/
def init : Slot β := ⟨[], false, []⟩

def step (s : Slot β) : Step β → Slot β
  | .consume => { s with waiting := false }
  | .chunk c =>
    if s.waiting then s
    else match F.absorb s.pending c with
      | .pending q => { s with pending := q }
      | .complete f _ => ⟨[], true, s.delivered ++ [f]⟩
      | .reject => { s with pending := [] }

def run (s : Slot β) (steps : List (Step β)) : Slot β := steps.foldl (step F) s

/-- The steps bring the frames one by one: no chunk goes past the end of a
frame, and none arrives while the frame before it still waits. `k` bytes of the
first frame have arrived already. -/
def Separate : List (List β) → Nat → Bool → List (Step β) → Prop
  | _, _, _, [] => True
  | frames, k, _, .consume :: steps => Separate frames k false steps
  | [], _, _, .chunk _ :: _ => False
  | f :: frames, k, waiting, .chunk c :: steps =>
    waiting = false ∧
      (k + c.length < f.length ∧ Separate (f :: frames) (k + c.length) false steps ∨
        k + c.length = f.length ∧ Separate frames 0 true steps)

instance decidableSeparate : (frames : List (List β)) → (k : Nat) → (waiting : Bool) →
    (steps : List (Step β)) → Decidable (Separate frames k waiting steps)
  | _, _, _, [] => .isTrue trivial
  | frames, k, _, .consume :: steps => decidableSeparate frames k false steps
  | [], _, _, .chunk _ :: _ => .isFalse id
  | f :: frames, k, waiting, .chunk c :: steps =>
    have := decidableSeparate (f :: frames) (k + c.length) false steps
    have := decidableSeparate frames 0 true steps
    inferInstanceAs (Decidable (waiting = false ∧ (_ ∧ _ ∨ _ ∧ _)))

variable {F}

/-- How many bytes a receiver has accounted for. -/
def weight (s : Slot β) : Nat := s.delivered.flatten.length + s.pending.length

/-- No step accounts for more bytes than it brings. -/
theorem weight_step_le (s : Slot β) (e : Step β) :
    (s.step F e).weight ≤ s.weight + (chunks [e]).flatten.length := by
  cases e with
  | consume => exact Nat.le_refl _
  | chunk c =>
    simp only [step, chunks, List.flatten_cons, List.flatten_nil, List.append_nil]
    split
    · exact Nat.le_add_right _ _
    · cases hout : F.absorb s.pending c with
      | pending q =>
        obtain ⟨rfl, -⟩ := Format.absorb_pending hout
        simp only [weight, List.length_append]
        omega
      | complete f rest =>
        have hlen := congrArg List.length (Format.absorb_complete hout).1
        simp only [List.length_append] at hlen
        simp only [weight, List.flatten_append, List.flatten_singleton, List.length_append,
          List.length_nil]
        omega
      | reject =>
        simp only [weight, List.length_nil]
        omega

theorem chunks_cons (e : Step β) (steps : List (Step β)) :
    chunks (e :: steps) = chunks [e] ++ chunks steps := by
  cases e <;> rfl

theorem weight_run_le (s : Slot β) (steps : List (Step β)) :
    (s.run F steps).weight ≤ s.weight + (chunks steps).flatten.length := by
  induction steps generalizing s with
  | nil => exact Nat.le_add_right _ _
  | cons e steps ih =>
    have hstep := weight_step_le (F := F) s e
    have hrest := ih (s.step F e)
    rw [chunks_cons, List.flatten_append, List.length_append]
    change ((s.step F e).run F steps).weight ≤ _
    omega

theorem chunks_length_pos {c : List β} {steps : List (Step β)}
    (h : ∀ c' ∈ chunks (.chunk c :: steps), c' ≠ []) : 0 < c.length :=
  List.length_pos_iff.mpr (h c (List.mem_cons_self ..))

/-- A chunk that ends inside a frame extends the part of it that has arrived. -/
theorem take_within {f c tail later : List β} {k : Nat} (hcut : c ++ tail = f.drop k ++ later)
    (hin : k + c.length < f.length) :
    f.take (k + c.length) = f.take k ++ c ∧ tail = f.drop (k + c.length) ++ later := by
  have hc : (f.drop k ++ later).take c.length = c := by rw [← hcut, List.take_left]
  have ht : (f.drop k ++ later).drop c.length = tail := by rw [← hcut, List.drop_left]
  have hle : c.length ≤ (f.drop k).length := by
    rw [List.length_drop]
    omega
  rw [List.take_append_of_le_length hle] at hc
  rw [List.drop_append_of_le_length hle, List.drop_drop] at ht
  exact ⟨by rw [List.take_add, hc], ht.symm⟩

/-- A chunk that reaches the end of a frame is the rest of it and the beginning
of what comes later. -/
theorem take_finish {f c tail later : List β} {k : Nat} (hcut : c ++ tail = f.drop k ++ later)
    (hk : k ≤ f.length) (hend : f.length ≤ k + c.length) :
    ∃ extra, f.take k ++ c = f ++ extra ∧ extra ++ tail = later := by
  have hle : (f.drop k).length ≤ c.length := by
    rw [List.length_drop]
    omega
  obtain ⟨extra, rfl⟩ : ∃ extra, c = f.drop k ++ extra := by
    refine ⟨c.drop (f.drop k).length, ?_⟩
    have h := congrArg (List.take (f.drop k).length) hcut
    rw [List.take_left, List.take_append_of_le_length hle] at h
    exact (List.take_append_drop _ _).symm.trans (by rw [h])
  refine ⟨extra, by rw [← List.append_assoc, List.take_append_drop], ?_⟩
  rw [List.append_assoc] at hcut
  exact List.append_cancel_left hcut

theorem step_within {f c d : List β} {k : Nat} {s : Slot β} (hf : F.IsFrame f)
    (hin : k + c.length < f.length) (hsplit : f.take (k + c.length) = f.take k ++ c)
    (hd : d = f.drop (k + c.length)) (hs : s.pending = f.take k) (hw : s.waiting = false) :
    s.step F (.chunk c) = { s with pending := f.take (k + c.length) } := by
  have habsorb : F.absorb (f.take k) c = .pending (f.take k ++ c) := by
    refine Format.absorb_within hf (d := d) ?_ ?_
    · rw [← hsplit, hd, List.take_append_drop]
    · rintro rfl
      have := List.drop_eq_nil_iff.mp hd.symm
      omega
  simp [step, hw, hs, habsorb, hsplit]

theorem step_finish {f c extra : List β} {k : Nat} {s : Slot β} (hf : F.IsFrame f)
    (hsplit : f.take k ++ c = f ++ extra) (hs : s.pending = f.take k) (hw : s.waiting = false) :
    s.step F (.chunk c) = ⟨[], true, s.delivered ++ [f]⟩ := by
  have habsorb := Format.absorb_finish hf hsplit
  simp [step, hw, hs, habsorb]

/-- When the steps bring the frames one by one, each is delivered. -/
theorem delivered_of_separate {frames : List (List β)} {k : Nat} {steps : List (Step β)}
    {s : Slot β} (hframes : ∀ f ∈ frames, F.IsFrame f)
    (hchunks : ∀ c ∈ chunks steps, c ≠ [])
    (hcut : (chunks steps).flatten = frames.flatten.drop k)
    (hk : ∀ f rest, frames = f :: rest → k < f.length) (hnil : frames = [] → k = 0)
    (hs : s.pending = frames.flatten.take k) (hsep : Separate frames k s.waiting steps) :
    (s.run F steps).delivered = s.delivered ++ frames := by
  induction steps generalizing frames k s with
  | nil =>
    cases frames with
    | nil => exact (List.append_nil _).symm
    | cons f frames =>
      have hlt := hk f frames rfl
      have hdrop := List.drop_eq_nil_iff.mp hcut.symm
      simp only [List.flatten_cons, List.length_append] at hdrop
      omega
  | cons e steps ih =>
    cases e with
    | consume => exact ih (s := { s with waiting := false }) hframes hchunks hcut hk hnil hs hsep
    | chunk c =>
      cases frames with
      | nil => exact hsep.elim
      | cons f frames =>
        have hlt := hk f frames rfl
        have hf := hframes f (List.mem_cons_self ..)
        have htail : ∀ c' ∈ chunks steps, c' ≠ [] :=
          fun c' h => hchunks c' (List.mem_cons_of_mem _ h)
        rw [List.flatten_cons, List.take_append_of_le_length (Nat.le_of_lt hlt)] at hs
        rw [List.flatten_cons, List.drop_append_of_le_length (Nat.le_of_lt hlt)] at hcut
        simp only [chunks, List.flatten_cons] at hcut
        obtain ⟨hw, ⟨hin, hsep⟩ | ⟨hend, hsep⟩⟩ := hsep
        · obtain ⟨hsplit, htl⟩ := take_within hcut hin
          change ((s.step F (.chunk c)).run F steps).delivered = _
          rw [step_within hf hin hsplit rfl hs hw]
          refine ih (s := { s with pending := f.take (k + c.length) }) hframes htail ?_ ?_ ?_ ?_
            (by simpa [hw] using hsep)
          · rw [List.flatten_cons, List.drop_append_of_le_length (Nat.le_of_lt hin)]
            exact htl
          · rintro f' rest ⟨⟩
            exact hin
          · rintro ⟨⟩
          · rw [List.flatten_cons, List.take_append_of_le_length (Nat.le_of_lt hin)]
        · obtain ⟨extra, hsplit, hlater⟩ := take_finish hcut (Nat.le_of_lt hlt) (Nat.le_of_eq hend.symm)
          have hextra : extra = [] := by
            have := congrArg List.length hsplit
            simp only [List.length_append, List.length_take] at this
            exact List.length_eq_zero_iff.mp (by omega)
          subst hextra
          change ((s.step F (.chunk c)).run F steps).delivered = _
          rw [step_finish hf hsplit hs hw, List.append_cons s.delivered f frames]
          refine ih (s := ⟨[], true, s.delivered ++ [f]⟩)
            (fun g hg => hframes g (List.mem_cons_of_mem _ hg)) htail ?_ ?_ ?_ ?_ hsep
          · simpa using hlater
          · rintro g rest rfl
            exact (hframes g (by simp)).length_pos
          · exact fun _ => rfl
          · rfl

/-- When the steps do not bring the frames one by one, bytes are dropped, so
the messages delivered are shorter altogether than the frames sent. -/
theorem weight_lt_of_not_separate {frames : List (List β)} {k : Nat} {steps : List (Step β)}
    {s : Slot β} (hframes : ∀ f ∈ frames, F.IsFrame f)
    (hchunks : ∀ c ∈ chunks steps, c ≠ [])
    (hcut : (chunks steps).flatten = frames.flatten.drop k)
    (hk : ∀ f rest, frames = f :: rest → k < f.length) (hnil : frames = [] → k = 0)
    (hs : s.pending = frames.flatten.take k) (hsep : ¬ Separate frames k s.waiting steps) :
    (s.run F steps).weight < s.weight + (chunks steps).flatten.length := by
  induction steps generalizing frames k s with
  | nil => exact (hsep trivial).elim
  | cons e steps ih =>
    cases e with
    | consume => exact ih (s := { s with waiting := false }) hframes hchunks hcut hk hnil hs hsep
    | chunk c =>
      have hpos := chunks_length_pos hchunks
      cases frames with
      | nil =>
        simp only [chunks, List.flatten_cons, List.flatten_nil, List.drop_nil,
          List.append_eq_nil_iff] at hcut
        simp [hcut.1] at hpos
      | cons f frames =>
        have hlt := hk f frames rfl
        have hf := hframes f (List.mem_cons_self ..)
        have htail : ∀ c' ∈ chunks steps, c' ≠ [] :=
          fun c' h => hchunks c' (List.mem_cons_of_mem _ h)
        rw [List.flatten_cons, List.take_append_of_le_length (Nat.le_of_lt hlt)] at hs
        rw [List.flatten_cons, List.drop_append_of_le_length (Nat.le_of_lt hlt)] at hcut
        simp only [chunks, List.flatten_cons] at hcut ⊢
        rw [List.length_append]
        change ((s.step F (.chunk c)).run F steps).weight < _
        cases hw : s.waiting with
        | true =>
          have hrest := weight_run_le (F := F) s steps
          have hskip : s.step F (.chunk c) = s := if_pos hw
          rw [hskip]
          omega
        | false =>
          by_cases hin : k + c.length < f.length
          · obtain ⟨hsplit, htl⟩ := take_within hcut hin
            have hweight : s.weight + c.length
                = ({ s with pending := f.take (k + c.length) } : Slot β).weight := by
              simp only [weight, hs, List.length_take]
              omega
            rw [step_within hf hin hsplit rfl hs hw, ← Nat.add_assoc, hweight]
            refine ih (s := { s with pending := f.take (k + c.length) }) (k := k + c.length)
              hframes htail ?_ ?_ ?_ ?_ ?_
            · rw [List.flatten_cons, List.drop_append_of_le_length (Nat.le_of_lt hin)]
              exact htl
            · rintro f' rest ⟨⟩
              exact hin
            · rintro ⟨⟩
            · rw [List.flatten_cons, List.take_append_of_le_length (Nat.le_of_lt hin)]
            · intro h
              exact hsep ⟨hw, Or.inl ⟨hin, by simpa [hw] using h⟩⟩
          · obtain ⟨extra, hsplit, hlater⟩ := take_finish hcut (Nat.le_of_lt hlt) (by omega)
            have hlen := congrArg List.length hsplit
            simp only [List.length_append, List.length_take] at hlen
            have hsw : s.weight = s.delivered.flatten.length + k := by
              simp only [weight, hs, List.length_take]
              omega
            have hfw : (⟨[], true, s.delivered ++ [f]⟩ : Slot β).weight
                = s.delivered.flatten.length + f.length := by
              simp [weight]
            rw [step_finish hf hsplit hs hw]
            by_cases hend : k + c.length = f.length
            · have hextra : extra = [] := List.length_eq_zero_iff.mp (by omega)
              subst hextra
              have hrest := @ih frames 0 ⟨[], true, s.delivered ++ [f]⟩
                (fun g hg => hframes g (List.mem_cons_of_mem _ hg)) htail (by simpa using hlater)
                (by rintro g rest rfl; exact (hframes g (by simp)).length_pos) (fun _ => rfl) rfl
                (fun h => hsep ⟨hw, Or.inr ⟨hend, h⟩⟩)
              omega
            · have hrest := weight_run_le (F := F) ⟨[], true, s.delivered ++ [f]⟩ steps
              omega

/-- What is delivered are frames. -/
theorem isFrame_of_delivered {s : Slot β} (hs : ∀ f ∈ s.delivered, F.IsFrame f) (steps : List (Step β)) :
    ∀ f ∈ (s.run F steps).delivered, F.IsFrame f := by
  induction steps generalizing s with
  | nil => exact hs
  | cons e steps ih =>
    refine ih (s := s.step F e) ?_
    cases e with
    | consume => exact hs
    | chunk c =>
      rw [step]
      split
      · exact hs
      · split
        · exact hs
        · rename_i f rest hout
          intro g hg
          rcases List.mem_append.mp hg with hg | hg
          · exact hs g hg
          · rw [List.mem_singleton.mp hg]
            exact (Format.absorb_complete hout).2
        · exact hs

/-- A receiver with room for one message delivers exactly the frames of a
stream if and only if the steps bring them one by one. -/
theorem delivered_iff_separate {frames : List (List β)} {steps : List (Step β)}
    (hframes : ∀ f ∈ frames, F.IsFrame f) (hchunks : ∀ c ∈ chunks steps, c ≠ [])
    (hcut : (chunks steps).flatten = frames.flatten) :
    ((init : Slot β).run F steps).delivered = frames ↔ Separate frames 0 false steps := by
  have hk : ∀ f rest, frames = f :: rest → 0 < f.length := by
    rintro f rest rfl
    exact (hframes f (List.mem_cons_self ..)).length_pos
  constructor
  · intro h
    refine Decidable.byContradiction fun hsep => ?_
    have hlt := weight_lt_of_not_separate (s := init) hframes hchunks (by simpa using hcut) hk
      (fun _ => rfl) rfl hsep
    rw [weight, h, hcut] at hlt
    simp only [weight, init, List.flatten_nil, List.length_nil] at hlt
    omega
  · intro hsep
    simpa [init] using delivered_of_separate (s := init) hframes hchunks (by simpa using hcut) hk
      (fun _ => rfl) rfl hsep

end Slot

end Framing
