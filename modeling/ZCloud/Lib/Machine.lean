import Mathlib.Data.List.Basic

/-- What a machine answers to a list of inputs, and the state it ends in. -/
def Machine.run {ι σ ο : Type} (step : ι → σ → ο × σ) : List ι → σ → List ο × σ
  | [], s => ([], s)
  | input :: inputs, s =>
    let (output, t) := step input s
    let (outputs, u) := Machine.run step inputs t
    (output :: outputs, u)

namespace Machine

variable {ι σ τ ο : Type} {step : ι → σ → ο × σ} {step' : ι → τ → ο × τ} {abs : σ → τ}

/-- A machine whose every allowed step does, where the invariant holds, what the
abstract machine does on the abstract state answers every list of allowed inputs
as that one does. -/
theorem run_of_refines {I : σ → Prop} {allowed : ι → Prop} (hI : ∀ input s, I s → allowed input → I (step input s).2)
    (h : ∀ input s, I s → allowed input → step' input (abs s) = ((step input s).1, abs (step input s).2))
    {inputs : List ι} (hinputs : ∀ input ∈ inputs, allowed input) {s : σ} (hs : I s) :
    run step' inputs (abs s) = ((run step inputs s).1, abs (run step inputs s).2) := by
  induction inputs generalizing s with
  | nil => rfl
  | cons input inputs ih =>
    have hinput := hinputs input (List.mem_cons_self ..)
    simp only [run]
    rw [h input s hs hinput, ih (fun input h => hinputs input (List.mem_cons_of_mem _ h)) (hI input s hs hinput)]

end Machine
