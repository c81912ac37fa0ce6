import ZCloud.Lib.Program

open Memory

namespace Program

variable {σ ι : Type}

/-- The runs of a system from state `s` on: the globals `t` they lead to. Every
step handles an input that is allowed where it comes. -/
inductive Runs (step : ι → Prog σ Unit) (allowed : σ → ι → Prop) (s : σ) : σ → Prop where
  | refl : Runs step allowed s s
  | step {t u : σ} {input : ι} (h : Runs step allowed s t) (hallowed : allowed t input)
    (hrun : (step input).run t = .ok ((), u)) : Runs step allowed s u

variable {step : ι → Prog σ Unit} {allowed allowed' : σ → ι → Prop} {s t u : σ}

/-- What every allowed step keeps holds after every run. -/
theorem Runs.invariant {I : σ → Prop} (h : Runs step allowed s t) (hs : I s)
    (hstep : ∀ ⦃t u input⦄, I t → allowed t input → (step input).run t = .ok ((), u) → I u) : I t := by
  induction h with
  | refl => exact hs
  | step _ hallowed hrun ih => exact hstep ih hallowed hrun

theorem Runs.mono (h : Runs step allowed s t) (hle : ∀ ⦃t input⦄, allowed t input → allowed' t input) :
    Runs step allowed' s t := by
  induction h with
  | refl => exact .refl
  | step _ hallowed hrun ih => exact .step ih (hle hallowed) hrun

theorem Runs.trans (h₁ : Runs step allowed s t) (h₂ : Runs step allowed t u) : Runs step allowed s u := by
  induction h₂ with
  | refl => exact h₁
  | step _ hallowed hrun ih => exact .step ih hallowed hrun

/-- Where these inputs lead. -/
def Leads (step : ι → Prog σ Unit) (allowed : σ → ι → Prop) : List ι → σ → σ → Prop
  | [], s, t => s = t
  | input :: inputs, s, t => allowed s input ∧ ∃ u, (step input).run s = .ok ((), u) ∧ Leads step allowed inputs u t

theorem Leads.invariant {I : σ → Prop} {inputs : List ι} (h : Leads step allowed inputs s t) (hs : I s)
    (hstep : ∀ ⦃s u input⦄, I s → allowed s input → (step input).run s = .ok ((), u) → I u) : I t := by
  induction inputs generalizing s with
  | nil =>
    obtain rfl := h
    exact hs
  | cons input inputs ih =>
    obtain ⟨hallowed, u, hrun, hleads⟩ := h
    exact ih hleads (hstep hs hallowed hrun)

/-- Something is not pending any more when as many inputs have come as the rank says, of those that lower it. -/
theorem Leads.rank {I pending : σ → Prop} {rank : σ → Nat} {lowers : ι → Bool} {inputs : List ι}
    (h : Leads step allowed inputs s t) (hs : I s) (ht : pending t) (hstep : ∀ ⦃s u input⦄, I s → allowed s input →
      (step input).run s = .ok ((), u) → I u ∧ (pending u → pending s) ∧ (pending s → rank u + (if lowers input then 1 else 0) ≤ rank s)) :
    pending s ∧ rank t + inputs.countP lowers ≤ rank s := by
  induction inputs generalizing s with
  | nil =>
    obtain rfl := h
    exact ⟨ht, Nat.le_refl _⟩
  | cons input inputs ih =>
    obtain ⟨hallowed, u, hrun, hleads⟩ := h
    obtain ⟨hu, hback, hrank⟩ := hstep hs hallowed hrun
    obtain ⟨hpending, hle⟩ := ih hleads hu
    refine ⟨hback hpending, ?_⟩
    have hlower := hrank (hback hpending)
    rw [List.countP_cons]
    omega

/-- Where a list of inputs leads, if each is found to be allowed and none ends in a fault. -/
def replay (step : ι → Prog σ Unit) (check : σ → ι → Bool) : List ι → σ → Option σ
  | [], s => some s
  | input :: inputs, s =>
    if check s input then
      match (step input).run s with
      | .ok (_, t) => replay step check inputs t
      | .error _ => none
    else none

theorem runs_of_replay {check : σ → ι → Bool} {inputs : List ι} (hcheck : ∀ s input, check s input = true → allowed s input)
    (h : replay step check inputs s = some t) : Runs step allowed s t := by
  induction inputs generalizing s with
  | nil =>
    obtain rfl := Option.some.inj h
    exact .refl
  | cons input inputs ih =>
    rw [replay] at h
    split at h
    · rename_i hallowed
      split at h
      · rename_i u t hrun
        exact (Runs.step .refl (hcheck s input hallowed) hrun).trans (ih h)
      · cases h
    · cases h

end Program
