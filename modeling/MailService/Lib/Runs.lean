import Mathlib.Tactic.Common
/-!
# Runs of a labelled transition system

A history is the list of the steps taken so far, newest first, each with the
state it led to. Facts about every run come from what one step keeps; facts
about every moment of a run come from splitting its history there.
-/

namespace Runs

variable {σ α : Type*} {init : σ → Prop} {step : σ → α → σ → Prop}

/-- The runs of a system, with their histories. -/
inductive Run (init : σ → Prop) (step : σ → α → σ → Prop) : List (α × σ) → σ → Prop
  | start {s : σ} : init s → Run init step [] s
  | next {h : List (α × σ)} {s s' : σ} {a : α} : Run init step h s → step s a s' →
      Run init step ((a, s') :: h) s'

/-- The steps that can follow one another, oldest first. -/
inductive Steps (step : σ → α → σ → Prop) : σ → σ → Prop
  | refl {s : σ} : Steps step s s
  | tail {s s' s'' : σ} {a : α} : Steps step s s' → step s' a s'' → Steps step s s''

/-- What holds at the start and is kept by every step holds of every run and its
history. -/
theorem Run.induct {P : List (α × σ) → σ → Prop} (h0 : ∀ s, init s → P [] s)
    (hs : ∀ h s a s', Run init step h s → P h s → step s a s' → P ((a, s') :: h) s')
    {h : List (α × σ)} {s : σ} (hr : Run init step h s) : P h s := by
  induction hr with
  | start h => exact h0 _ h
  | next hr hstep ih => exact hs _ _ _ _ hr ih hstep

/-- The same for a property of the state alone. -/
theorem Run.invariant {P : σ → Prop} (h0 : ∀ s, init s → P s) (hs : ∀ s a s', P s → step s a s' → P s')
    {h : List (α × σ)} {s : σ} (hr : Run init step h s) : P s :=
  hr.induct (P := fun _ s => P s) h0 fun _ _ _ _ _ hp hstep => hs _ _ _ hp hstep

/-- A reflexive and transitive relation that holds across every step holds
across any number of steps. -/
theorem Steps.lift {R : σ → σ → Prop} (hrefl : ∀ s, R s s) (htrans : ∀ s t u, R s t → R t u → R s u)
    (hs : ∀ s a s', step s a s' → R s s') {s s' : σ} (h : Steps step s s') : R s s' := by
  induction h with
  | refl => exact hrefl _
  | tail _ hstep ih => exact htrans _ _ _ ih (hs _ _ _ hstep)

/-- A system whose every step is matched by at most one step of another: the runs of
the other match all of its runs. -/
theorem Run.simulate {τ β : Type*} {init' : τ → Prop} {step' : τ → β → τ → Prop} {R : σ → τ → Prop}
    (h0 : ∀ s, init s → ∃ t, init' t ∧ R s t)
    (hs : ∀ s a s' t, R s t → step s a s' → R s' t ∨ ∃ b t', step' t b t' ∧ R s' t')
    {h : List (α × σ)} {s : σ} (hr : Run init step h s) : ∃ h' t, Run init' step' h' t ∧ R s t := by
  induction hr with
  | start hinit =>
    obtain ⟨t, ht, hR⟩ := h0 _ hinit
    exact ⟨[], t, .start ht, hR⟩
  | next _ hstep ih =>
    obtain ⟨h', t, hr', hR⟩ := ih
    rcases hs _ _ _ _ hR hstep with hR' | ⟨b, t', hstep', hR'⟩
    · exact ⟨h', t, hr', hR'⟩
    · exact ⟨(b, t') :: h', t', hr'.next hstep', hR'⟩

/-- The same where `f` names the matching step: the matching run takes the named steps, in their order. -/
theorem Run.refine {τ β : Type*} {init' : τ → Prop} {step' : τ → β → τ → Prop}
    {R : σ → τ → Prop} {f : α → Option β} (h0 : ∀ s, init s → ∃ t, init' t ∧ R s t)
    (hs : ∀ s a s' t, R s t → step s a s' →
      (f a = none ∧ R s' t) ∨ ∃ b t', f a = some b ∧ step' t b t' ∧ R s' t')
    {h : List (α × σ)} {s : σ} (hr : Run init step h s) :
    ∃ h' t, Run init' step' h' t ∧ R s t ∧ h'.map Prod.fst = h.filterMap fun entry => f entry.1 := by
  induction hr with
  | start hinit =>
    obtain ⟨t, ht, hR⟩ := h0 _ hinit
    exact ⟨[], t, .start ht, hR, rfl⟩
  | next _ hstep ih =>
    obtain ⟨h', t, hr', hR, hactions⟩ := ih
    rcases hs _ _ _ _ hR hstep with ⟨hnone, hR'⟩ | ⟨b, t', hsome, hstep', hR'⟩
    · refine ⟨h', t, hr', hR', ?_⟩
      simp only [hactions, List.filterMap_cons, hnone]
    · refine ⟨(b, t') :: h', t', hr'.next hstep', hR', ?_⟩
      simp only [List.map_cons, hactions, List.filterMap_cons, hsome]

/-- The last step of a run. -/
theorem Run.uncons {h : List (α × σ)} {a : α} {s s' : σ} (hr : Run init step ((a, s') :: h) s) :
    s' = s ∧ ∃ s₀, Run init step h s₀ ∧ step s₀ a s' := by
  cases hr with
  | next hr hstep => exact ⟨rfl, _, hr, hstep⟩

/-- The moment of a step in a run: the run up to it, the step, and what followed. -/
theorem Run.split {newer older : List (α × σ)} {a : α} {s s' : σ}
    (hr : Run init step (newer ++ (a, s') :: older) s) :
    ∃ s₀, Run init step older s₀ ∧ step s₀ a s' ∧ Steps step s' s := by
  induction newer generalizing s with
  | nil =>
    cases hr with
    | next hr hstep => exact ⟨_, hr, hstep, .refl⟩
  | cons e newer ih =>
    cases hr with
    | next hr hstep =>
      obtain ⟨s₀, hr₀, hstep₀, hs⟩ := ih hr
      exact ⟨s₀, hr₀, hstep₀, hs.tail hstep⟩

/-- A reflexive and transitive relation that holds across every step of a run holds between the
state after any step and the last one. -/
theorem Run.across {R : σ → σ → Prop} (hrefl : ∀ s, R s s) (htrans : ∀ s t u, R s t → R t u → R s u)
    (hs : ∀ h s a s', Run init step h s → step s a s' → R s s')
    {newer older : List (α × σ)} {a : α} {s s' : σ} (hr : Run init step (newer ++ (a, s') :: older) s) :
    R s' s := by
  induction newer generalizing s with
  | nil =>
    cases hr
    exact hrefl _
  | cons entry newer ih =>
    cases hr with
    | next hr hstep => exact htrans _ _ _ (ih hr) (hs _ _ _ _ hr hstep)

end Runs
