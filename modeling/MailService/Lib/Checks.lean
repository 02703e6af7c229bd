import Mathlib.Tactic.Common
/-!
# Fallible steps

Go code that returns on the first error, as a chain of steps in `Except`. The
lemmas take such a chain apart: it succeeds exactly when every step does.
-/

namespace Checks

variable {ε ε' α β : Type}

/-- `if !p { return e }`. -/
def check (p : Prop) [Decidable p] (e : ε) : Except ε Unit := if p then .ok () else .error e

@[simp] theorem check_eq_ok {p : Prop} [Decidable p] {e : ε} {u : Unit} : check p e = .ok u ↔ p := by
  simp [check]

@[simp] theorem check_eq_error {p : Prop} [Decidable p] {e e' : ε} :
    check p e = .error e' ↔ ¬ p ∧ e = e' := by
  unfold check; split <;> simp_all

theorem bind_eq_ok {x : Except ε α} {f : α → Except ε β} {b : β} :
    (x >>= f) = .ok b ↔ ∃ a, x = .ok a ∧ f a = .ok b := by
  cases x <;> simp [bind, Except.bind]

theorem bind_eq_error {x : Except ε α} {f : α → Except ε β} {e : ε} :
    (x >>= f) = .error e ↔ x = .error e ∨ ∃ a, x = .ok a ∧ f a = .error e := by
  cases x <;> simp [bind, Except.bind]

theorem unit_bind_eq_ok {x : Except ε Unit} {f : Unit → Except ε β} {b : β} :
    (x >>= f) = .ok b ↔ x = .ok () ∧ f () = .ok b := by
  cases x <;> simp [bind, Except.bind]

@[simp] theorem pure_eq_ok {a b : α} : (pure a : Except ε α) = .ok b ↔ a = b := by simp [pure, Except.pure]

@[simp] theorem pure_eq_error {a : α} {e : ε} : (pure a : Except ε α) = .error e ↔ False := by
  simp [pure, Except.pure]

@[simp] theorem throw_eq_ok {e : ε} {b : α} : (throw e : Except ε α) = .ok b ↔ False := by
  simp [throw, throwThe, MonadExceptOf.throw]

@[simp] theorem throw_eq_error {e e' : ε} : (throw e : Except ε α) = .error e' ↔ e = e' := by
  simp [throw, throwThe, MonadExceptOf.throw]

@[simp] theorem check_bind_eq_ok {p : Prop} [Decidable p] {e : ε} {f : Unit → Except ε β} {b : β} :
    (check p e >>= f) = .ok b ↔ p ∧ f () = .ok b := by
  unfold check; split <;> simp_all [bind, Except.bind]

@[simp] theorem check_bind_eq_error {p : Prop} [Decidable p] {e e' : ε} {f : Unit → Except ε β} :
    (check p e >>= f) = .error e' ↔ (¬ p ∧ e = e') ∨ p ∧ f () = .error e' := by
  unfold check; split <;> simp_all [bind, Except.bind]

@[simp] theorem ok_bind {a : α} {f : α → Except ε β} : ((Except.ok a : Except ε α) >>= f) = f a := rfl

@[simp] theorem error_bind {e : ε} {f : α → Except ε β} :
    ((Except.error e : Except ε α) >>= f) = .error e := rfl

@[simp] theorem check_bind {p : Prop} [Decidable p] {e : ε} {f : Unit → Except ε β} (h : p) :
    (check p e >>= f) = f () := by
  simp [check, h]

/-- What every step of a fold keeps, the fold keeps. -/
theorem foldlM_invariant {f : β → α → Except ε β} {P : β → Prop} {l : List α} {b b' : β}
    (hstep : ∀ b, ∀ x ∈ l, ∀ b', P b → f b x = .ok b' → P b') (hb : P b) (h : l.foldlM f b = .ok b') :
    P b' := by
  induction l generalizing b with
  | nil =>
    rw [List.foldlM_nil, pure_eq_ok] at h
    exact h ▸ hb
  | cons x l ih =>
    rw [List.foldlM_cons, bind_eq_ok] at h
    obtain ⟨b₁, hx, hl⟩ := h
    exact ih (fun b y hy => hstep b y (List.mem_cons_of_mem x hy)) (hstep b x List.mem_cons_self b₁ hb hx) hl

/-- Two chains that begin alike, where the second's result is mapped. -/
theorem bind_map_congr {x : Except ε α} {f : α → Except ε γ} {g : α → Except ε β} {k : β → γ}
    (h : ∀ a, x = .ok a → f a = (g a).map k) : (x >>= f) = (x >>= g).map k := by
  cases x with
  | error e => rfl
  | ok a => exact h a rfl

@[simp] theorem mapError_ok_iff {x : Except ε α} {f : ε → ε'} {a : α} : x.mapError f = .ok a ↔ x = .ok a := by
  cases x <;> simp [Except.mapError]

theorem map_eq_ok {x : Except ε α} {f : α → β} {b : β} : x.map f = .ok b ↔ ∃ a, x = .ok a ∧ f a = b := by
  cases x <;> simp [Except.map]

/-- A step over a list whose results are known: it returns them all, and each element
met what the step requires. -/
theorem mapM_eq_ok {f : α → Except ε β} {g : α → β} {P : α → Prop} (hf : ∀ x y, f x = .ok y → y = g x ∧ P x)
    {l : List α} {ys : List β} (h : l.mapM f = .ok ys) : ys = l.map g ∧ ∀ x ∈ l, P x := by
  induction l generalizing ys with
  | nil =>
    simp only [List.mapM_nil, pure_eq_ok] at h
    simp [← h]
  | cons x l ih =>
    simp only [List.mapM_cons, bind_eq_ok, pure_eq_ok] at h
    obtain ⟨y, hy, rest, hrest, rfl⟩ := h
    obtain ⟨rfl, hx⟩ := hf x y hy
    obtain ⟨rfl, hl⟩ := ih hrest
    exact ⟨rfl, by simpa using ⟨hx, hl⟩⟩

/-- A step that succeeds on every element succeeds on the list. -/
theorem mapM_of_forall {f : α → Except ε β} {g : α → β} {l : List α} (hf : ∀ x ∈ l, f x = .ok (g x)) :
    l.mapM f = .ok (l.map g) := by
  induction l with
  | nil => rfl
  | cons x l ih =>
    have hrest := ih fun y hy => hf y (List.mem_cons_of_mem x hy)
    rw [List.mapM_cons, hf x List.mem_cons_self, ok_bind, hrest, ok_bind]
    rfl

/-- A check of a list is the check of every element. -/
theorem forM_eq_ok {f : α → Except ε PUnit} {l : List α} : l.forM f = .ok () ↔ ∀ x ∈ l, f x = .ok () := by
  induction l with
  | nil => simp [List.forM]
  | cons x l ih =>
    unfold List.forM
    rw [unit_bind_eq_ok, ih, List.forall_mem_cons]

/-! ## Which errors a step can end in -/

/-- Every error of `x` satisfies `P`. -/
def Fails (P : ε → Prop) (x : Except ε α) : Prop := ∀ e, x = .error e → P e

variable {P : ε → Prop}

@[simp] theorem fails_ok {a : α} : Fails P (.ok a : Except ε α) := fun _ h => by cases h

@[simp] theorem fails_pure {a : α} : Fails P (pure a : Except ε α) := fails_ok

@[simp] theorem fails_error {e : ε} : Fails P (.error e : Except ε α) ↔ P e :=
  ⟨fun h => h e rfl, fun h _ he => by cases he; exact h⟩

@[simp] theorem fails_throw {e : ε} : Fails P (throw e : Except ε α) ↔ P e := fails_error

@[simp] theorem fails_check {p : Prop} [Decidable p] {e : ε} : Fails P (check p e) ↔ p ∨ P e := by
  unfold check
  split <;> simp_all

@[simp] theorem fails_mapError {x : Except ε' α} {f : ε' → ε} : Fails P (x.mapError f) ↔ Fails (P ∘ f) x := by
  cases x <;> simp [Except.mapError]

@[simp] theorem fails_map {x : Except ε α} {f : α → β} : Fails P (x.map f) ↔ Fails P x := by
  cases x <;> simp [Except.map]

theorem Fails.bind {x : Except ε α} {f : α → Except ε β} (hx : Fails P x)
    (hf : ∀ a, x = .ok a → Fails P (f a)) :
    Fails P (x >>= f) := fun e he => by
  rcases bind_eq_error.1 he with h | ⟨a, ha, h⟩
  · exact hx e h
  · exact hf a ha e h

theorem fails_bind {x : Except ε α} {f : α → Except ε β} :
    Fails P (x >>= f) ↔ Fails P x ∧ ∀ a, x = .ok a → Fails P (f a) := by
  constructor
  · intro h
    exact ⟨fun e he => h e (bind_eq_error.2 (.inl he)),
      fun a ha e he => h e (bind_eq_error.2 (.inr ⟨a, ha, he⟩))⟩
  · rintro ⟨hx, hf⟩
    exact hx.bind hf

theorem fails_mapM {f : α → Except ε β} (h : ∀ x, Fails P (f x)) {l : List α} : Fails P (l.mapM f) := by
  induction l with
  | nil => simp
  | cons x l ih =>
    rw [List.mapM_cons]
    exact (h x).bind fun _ _ => ih.bind fun _ _ => fails_pure

theorem fails_foldlM {f : β → α → Except ε β} (h : ∀ b x, Fails P (f b x)) {l : List α} {b : β} :
    Fails P (l.foldlM f b) := by
  induction l generalizing b with
  | nil => exact fails_pure
  | cons x l ih =>
    rw [List.foldlM_cons]
    exact (h b x).bind fun _ _ => ih

theorem fails_forM {f : α → Except ε PUnit} (h : ∀ x, Fails P (f x)) {l : List α} : Fails P (l.forM f) := by
  induction l with
  | nil => exact fails_pure
  | cons x l ih => exact (h x).bind fun _ _ => ih

theorem Fails.mono {Q : ε → Prop} {x : Except ε α} (hx : Fails P x) (h : ∀ e, P e → Q e) : Fails Q x :=
  fun e he => h e (hx e he)

end Checks
