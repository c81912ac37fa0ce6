import ZCloud.Lib.Memory

open Memory

namespace Program

variable {σ α β : Type}

/-- A piece of C code over the globals `σ`: it either ends in a fault or returns
a value and the globals it leaves. -/
abbrev Prog (σ α : Type) := StateT σ (Except Fault) α

@[simp]
theorem run_bind (x : Prog σ α) (f : α → Prog σ β) (s : σ) :
    (x >>= f).run s = x.run s >>= fun r => (f r.1).run r.2 := rfl

@[simp]
theorem run_pure (a : α) (s : σ) : (pure a : Prog σ α).run s = .ok (a, s) := rfl

@[simp]
theorem run_get (s : σ) : (get : Prog σ σ).run s = .ok (s, s) := rfl

@[simp]
theorem run_set (s s' : σ) : (set s' : Prog σ PUnit).run s = .ok (⟨⟩, s') := rfl

@[simp]
theorem run_modify (f : σ → σ) (s : σ) : (modify f : Prog σ PUnit).run s = .ok (⟨⟩, f s) := rfl

@[simp]
theorem run_lift_ok (a : α) (s : σ) : (liftM (Except.ok a : Except Fault α) : Prog σ α).run s = .ok (a, s) := rfl

theorem lift_ok (a : α) : (liftM (Except.ok a : Except Fault α) : Prog σ α) = pure a := rfl

theorem run_bind_of_ok {x : Prog σ α} {f : α → Prog σ β} {s t : σ} {a : α} (h : x.run s = .ok (a, t)) :
    (x >>= f).run s = (f a).run t := by
  rw [run_bind, h]
  rfl

theorem exists_run_bind {x : Prog σ α} {f : α → Prog σ β} {s t : σ} {a : α} (h : x.run s = .ok (a, t))
    (hf : ∃ r, (f a).run t = .ok r) : ∃ r, (x >>= f).run s = .ok r := by
  rwa [run_bind_of_ok h]

theorem run_get_bind (f : σ → Prog σ β) (s : σ) : (get >>= f).run s = (f s).run s := rfl

theorem run_bind_eq_ok {x : Prog σ α} {f : α → Prog σ β} {s t : σ} {b : β} :
    (x >>= f).run s = .ok (b, t) ↔
      ∃ a u, x.run s = .ok (a, u) ∧ (f a).run u = .ok (b, t) := by
  rw [StateT.run_bind]
  cases hx : x.run s with
  | error e => simp [bind, Except.bind]
  | ok r =>
    obtain ⟨a, u⟩ := r
    simp only [bind, Except.bind, Except.ok.injEq, Prod.mk.injEq]
    constructor
    · exact fun h => ⟨a, u, ⟨rfl, rfl⟩, h⟩
    · rintro ⟨_, _, ⟨rfl, rfl⟩, h⟩
      exact h

theorem run_pure_eq_ok {s t : σ} {a b : α} :
    (pure a : Prog σ α).run s = .ok (b, t) ↔ b = a ∧ t = s := by
  rw [StateT.run_pure]
  simp [pure, Except.pure, eq_comm]

theorem run_get_eq_ok {s t u : σ} :
    (get : Prog σ σ).run s = .ok (u, t) ↔ u = s ∧ t = s := by
  rw [StateT.run_get]
  simp [pure, Except.pure, eq_comm]

theorem run_modify_eq_ok {f : σ → σ} {s t : σ} {u : PUnit} :
    (modify f : Prog σ PUnit).run s = .ok (u, t) ↔ t = f s := by
  rw [StateT.run_modify]
  simp [pure, Except.pure, eq_comm]

theorem run_set_eq_ok {s s' t : σ} {u : PUnit} :
    (set s' : Prog σ PUnit).run s = .ok (u, t) ↔ t = s' := by
  rw [StateT.run_set]
  simp [pure, Except.pure, eq_comm]

theorem run_lift_eq_ok {x : Except Fault α} {s t : σ} {a : α} :
    (liftM x : Prog σ α).run s = .ok (a, t) ↔ x = .ok a ∧ t = s := by
  cases x with
  | error e => simp [liftM, monadLift, MonadLift.monadLift, StateT.lift, StateT.run, bind, Except.bind]
  | ok v =>
    simp [liftM, monadLift, MonadLift.monadLift, StateT.lift, StateT.run, bind, Except.bind,
      pure, Except.pure, eq_comm]

theorem run_throw_eq_ok {e : Fault} {s t : σ} {a : α} :
    (throw e : Prog σ α).run s = .ok (a, t) ↔ False := by
  simp [throw, throwThe, MonadExceptOf.throw, StateT.run, StateT.lift, bind, Except.bind]

/-- Code over part of the globals, as code over all of them. -/
def zoom {τ : Type} (view : σ → τ) (update : σ → τ → σ) (x : Prog τ α) : Prog σ α := do
  let s ← get
  let (a, t) ← (x.run (view s) : Except Fault (α × τ))
  set (update s t)
  return a

theorem run_zoom {τ : Type} {view : σ → τ} {update : σ → τ → σ} {x : Prog τ α} {s : σ} {a : α} {t : τ}
    (h : x.run (view s) = .ok (a, t)) : (zoom view update x).run s = .ok (a, update s t) := by
  simp only [zoom, run_bind, run_get, ok_bind, h, run_lift_ok, run_set, run_pure]

theorem run_zoom_eq_ok {τ : Type} {view : σ → τ} {update : σ → τ → σ} {x : Prog τ α} {s t : σ} {a : α} :
    (zoom view update x).run s = .ok (a, t) ↔ ∃ u, x.run (view s) = .ok (a, u) ∧ t = update s u := by
  simp only [zoom, run_bind_eq_ok, run_get_eq_ok, run_lift_eq_ok, run_set_eq_ok, run_pure_eq_ok]
  constructor
  · rintro ⟨_, _, ⟨rfl, rfl⟩, ⟨b, u⟩, _, ⟨hrun, rfl⟩, _, _, rfl, rfl, rfl⟩
    exact ⟨u, hrun, rfl⟩
  · rintro ⟨u, hrun, rfl⟩
    exact ⟨s, s, ⟨rfl, rfl⟩, (a, u), s, ⟨hrun, rfl⟩, ⟨⟩, _, rfl, rfl, rfl⟩

/-- A relation between the globals before and after a piece of code that holds
of doing nothing and of doing one thing after another. -/
class Frame (R : σ → σ → Prop) : Prop where
  refl : ∀ s, R s s
  trans : ∀ {s t u}, R s t → R t u → R s u

instance {view : σ → β} : Frame fun s t => view t = view s where
  refl _ := rfl
  trans h₁ h₂ := h₂.trans h₁

instance {I : σ → Prop} : Frame fun s t => I s → I t where
  refl _ := id
  trans h₁ h₂ := h₂ ∘ h₁

/-- Every terminating run of `x` moves the globals along `R`. With
`R s t := view t = view s` this is a frame condition, with
`R s t := I s → I t` it is the preservation of an invariant. -/
def Moves (R : σ → σ → Prop) (x : Prog σ α) : Prop :=
  ∀ ⦃s a t⦄, x.run s = .ok (a, t) → R s t

/-- `x` leaves what `view` shows of the globals as it was. -/
abbrev Keeps (view : σ → β) (x : Prog σ α) : Prop :=
  Moves (fun s t => view t = view s) x

variable {R : σ → σ → Prop}

theorem moves_pure [Frame R] (a : α) : Moves R (pure a : Prog σ α) := by
  intro s b t h
  obtain ⟨-, rfl⟩ := run_pure_eq_ok.mp h
  exact Frame.refl _

theorem moves_get [Frame R] : Moves R (get : Prog σ σ) := by
  intro s b t h
  obtain ⟨-, rfl⟩ := run_get_eq_ok.mp h
  exact Frame.refl _

theorem moves_lift [Frame R] (x : Except Fault α) : Moves R (liftM x : Prog σ α) := by
  intro s b t h
  obtain ⟨-, rfl⟩ := run_lift_eq_ok.mp h
  exact Frame.refl _

theorem moves_throw (e : Fault) : Moves R (throw e : Prog σ α) :=
  fun _ _ _ h => (run_throw_eq_ok.mp h).elim

theorem moves_modify {f : σ → σ} (h : ∀ s, R s (f s)) : Moves R (modify f : Prog σ PUnit) := by
  intro s b t hrun
  obtain rfl := run_modify_eq_ok.mp hrun
  exact h s

theorem moves_bind [Frame R] {x : Prog σ α} {f : α → Prog σ β} (hx : Moves R x)
    (hf : ∀ a, Moves R (f a)) : Moves R (x >>= f) := by
  intro s b t h
  obtain ⟨a, u, hxs, hfu⟩ := run_bind_eq_ok.mp h
  exact Frame.trans (hx hxs) (hf a hfu)

/-- Code that begins by looking at the globals. -/
theorem moves_get_bind {f : σ → Prog σ β} (h : ∀ ⦃s b t⦄, (f s).run s = .ok (b, t) → R s t) :
    Moves R (get >>= f) := by
  intro s b t hrun
  rw [run_get_bind] at hrun
  exact h hrun

theorem moves_ite {c : Prop} [Decidable c] {x y : Prog σ α} (hx : Moves R x)
    (hy : Moves R y) : Moves R (if c then x else y) := by
  split <;> assumption

/-- `x` never ends in a fault. -/
def Returns (x : Prog σ α) : Prop := ∀ s, ∃ a t, x.run s = .ok (a, t)

theorem returns_pure (a : α) : Returns (pure a : Prog σ α) := fun s => ⟨a, s, rfl⟩

theorem returns_modify (f : σ → σ) : Returns (modify f : Prog σ PUnit) := fun s => ⟨⟨⟩, f s, rfl⟩

theorem returns_set (s : σ) : Returns (set s : Prog σ PUnit) := fun _ => ⟨⟨⟩, s, rfl⟩

theorem returns_get_bind {f : σ → Prog σ β} (h : ∀ s, Returns (f s)) : Returns (get >>= f) := fun s => h s s

theorem returns_bind {x : Prog σ α} {f : α → Prog σ β} (hx : Returns x) (hf : ∀ a, Returns (f a)) :
    Returns (x >>= f) := by
  intro s
  obtain ⟨a, t, hrun⟩ := hx s
  obtain ⟨b, u, hrest⟩ := hf a t
  exact ⟨b, u, run_bind_eq_ok.mpr ⟨a, t, hrun, hrest⟩⟩

theorem exists_run_bind_iff {x : Prog σ α} {f : α → Prog σ β} {s : σ} (hf : ∀ a, Returns (f a)) :
    (∃ r, (x >>= f).run s = .ok r) ↔ ∃ r, x.run s = .ok r := by
  constructor
  · rintro ⟨⟨b, t⟩, hrun⟩
    obtain ⟨a, u, hx, -⟩ := run_bind_eq_ok.mp hrun
    exact ⟨_, hx⟩
  · rintro ⟨⟨a, t⟩, hx⟩
    obtain ⟨b, u, hrest⟩ := hf a t
    exact exists_run_bind hx ⟨_, hrest⟩

theorem returns_ite {c : Prop} [Decidable c] {x y : Prog σ α} (hx : Returns x) (hy : Returns y) :
    Returns (if c then x else y) := by
  split <;> assumption

/-- Where `P` holds, `x` returns, and then `Q` holds. -/
def Ensures (P : σ → Prop) (x : Prog σ α) (Q : σ → Prop) : Prop :=
  ∀ ⦃s⦄, P s → ∃ a t, x.run s = .ok (a, t) ∧ Q t

variable {P Q S : σ → Prop}

theorem ensures_bind {x : Prog σ α} {f : α → Prog σ β} (hx : Ensures P x Q) (hf : ∀ a, Ensures Q (f a) S) :
    Ensures P (x >>= f) S := by
  intro s hs
  obtain ⟨a, t, hrun, ht⟩ := hx hs
  obtain ⟨b, u, hrest, hu⟩ := hf a ht
  exact ⟨b, u, run_bind_eq_ok.mpr ⟨a, t, hrun, hrest⟩, hu⟩

/-- Code that never ends in a fault, and keeps an invariant. -/
theorem ensures_of_returns {x : Prog σ α} (hx : Returns x) (hkeeps : Moves (fun s t => P s → P t) x) :
    Ensures P x P := by
  intro s hs
  obtain ⟨a, t, hrun⟩ := hx s
  exact ⟨a, t, hrun, hkeeps hrun hs⟩

/-- What is kept besides. -/
theorem ensures_and {x : Prog σ α} (hx : Ensures P x Q) (hkeeps : Moves (fun s t => S s → S t) x) :
    Ensures (fun s => P s ∧ S s) x (fun t => Q t ∧ S t) := by
  rintro s ⟨hs, hkept⟩
  obtain ⟨a, t, hrun, ht⟩ := hx hs
  exact ⟨a, t, hrun, ht, hkeeps hrun hkept⟩

theorem ensures_lift_bind {x : Except Fault α} {f : α → Prog σ β} {a : α} (hx : x = .ok a) (hf : Ensures P (f a) Q) :
    Ensures P ((liftM x : Prog σ α) >>= f) Q := by
  intro s hs
  obtain ⟨b, t, hrun, ht⟩ := hf hs
  exact ⟨b, t, run_bind_eq_ok.mpr ⟨a, s, run_lift_eq_ok.mpr ⟨hx, rfl⟩, hrun⟩, ht⟩

/-- `x` returns only where `P` holds. -/
def Requires (P : σ → Prop) (x : Prog σ α) : Prop := ∀ ⦃s a t⦄, x.run s = .ok (a, t) → P s

theorem requires_bind {x : Prog σ α} {f : α → Prog σ β} (hx : Requires P x) : Requires P (x >>= f) := by
  intro s b t h
  obtain ⟨a, u, hrun, -⟩ := run_bind_eq_ok.mp h
  exact hx hrun

theorem requires_bind_right {x : Prog σ α} {f : α → Prog σ β} (hkeeps : Moves (fun s t => P t → P s) x)
    (hf : ∀ a, Requires P (f a)) : Requires P (x >>= f) := by
  intro s b t h
  obtain ⟨a, u, hrun, hrest⟩ := run_bind_eq_ok.mp h
  exact hkeeps hrun (hf a hrest)

end Program
