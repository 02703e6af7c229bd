import Mathlib.Logic.Function.Basic
import Mathlib.Data.List.Basic
/-!
# Unique indexes and open transactions

An insert waits for every open transaction that holds a row it clashes with, and
is refused by the committed rows. So the rows of open transactions never clash
with committed rows or with one another, whatever the order of the commits.
-/

namespace Unique

variable {ρ ι : Type*} {clash : ρ → ρ → Prop} {committed : List ρ} {rows : ι → List ρ} {i : ι}

/-- The rows of open transactions clash with no committed row and with no row of another transaction. -/
structure Separate (clash : ρ → ρ → Prop) (committed : List ρ) (rows : ι → List ρ) : Prop where
  stored : ∀ i, ∀ r ∈ rows i, ∀ x ∈ committed, ¬ clash x r
  others : ∀ i j, i ≠ j → ∀ r ∈ rows i, ∀ x ∈ rows j, ¬ clash x r

namespace Separate

variable [DecidableEq ι]

/-- The rows of one transaction are replaced by rows that met no clash. -/
theorem insert (h : Separate clash committed rows) (hsymm : ∀ x r, clash x r → clash r x) {new : List ρ}
    (hstored : ∀ r ∈ new, ∀ x ∈ committed, ¬ clash x r)
    (hothers : ∀ j, j ≠ i → ∀ r ∈ new, ∀ x ∈ rows j, ¬ clash x r) :
    Separate clash committed (Function.update rows i new) := by
  constructor
  · intro j r hr
    by_cases hj : j = i
    · subst hj
      rw [Function.update_self] at hr
      exact hstored r hr
    · rw [Function.update_of_ne hj] at hr
      exact h.stored j r hr
  · intro j k hjk r hr x hx
    by_cases hj : j = i
    · subst hj
      rw [Function.update_self] at hr
      rw [Function.update_of_ne hjk.symm] at hx
      exact hothers k hjk.symm r hr x hx
    · rw [Function.update_of_ne hj] at hr
      by_cases hk : k = i
      · subst hk
        rw [Function.update_self] at hx
        exact fun hclash => hothers j hj x hx r hr (hsymm x r hclash)
      · rw [Function.update_of_ne hk] at hx
        exact h.others j k hjk r hr x hx

/-- A transaction ends: its rows are committed, or they are gone. -/
theorem close (h : Separate clash committed rows) (hsymm : ∀ x r, clash x r → clash r x) (i : ι) :
    Separate clash committed (Function.update rows i []) :=
  h.insert hsymm (fun _ hr => absurd hr List.not_mem_nil) fun _ _ _ hr => absurd hr List.not_mem_nil

theorem commit (h : Separate clash committed rows) (hsymm : ∀ x r, clash x r → clash r x) (i : ι) :
    Separate clash (committed ++ rows i) (Function.update rows i []) := by
  refine ⟨fun j r hr x hx => ?_, (h.close hsymm i).others⟩
  rcases List.mem_append.1 hx with hx | hx
  · exact (h.close hsymm i).stored j r hr x hx
  · by_cases hj : j = i
    · subst hj
      rw [Function.update_self] at hr
      cases hr
    · rw [Function.update_of_ne hj] at hr
      exact h.others j i hj r hr x hx

omit [DecidableEq ι] in
/-- Updates of committed rows that keep what the index compares. -/
theorem change (h : Separate clash committed rows) {committed' : List ρ}
    (hfrom : ∀ x' ∈ committed', ∃ x ∈ committed, ∀ r, clash x' r → clash x r) :
    Separate clash committed' rows := by
  refine ⟨fun i r hr x' hx' hclash => ?_, h.others⟩
  obtain ⟨x, hx, hkeeps⟩ := hfrom x' hx'
  exact h.stored i r hr x hx (hkeeps r hclash)

end Separate

end Unique
