import Mathlib.Data.List.Nodup
import Mathlib.Logic.Function.Basic
/-!
# Pools of exclusive resources

Resources are numbered. Each is free or held by one holder; a holder takes a free one
and gives it back.
-/

namespace Pools

/-- Every resource below `n` is free once or held once. -/
structure Exclusive (n : Nat) (free : List Nat) (held : Nat → Option Nat) : Prop where
  nodup : free.Nodup
  bound : ∀ r ∈ free, r < n
  apart : ∀ i r, held i = some r → r < n ∧ r ∉ free
  single : ∀ i j r, held i = some r → held j = some r → i = j
  all : ∀ r < n, r ∈ free ∨ ∃ i, held i = some r

variable {n i r : Nat} {free : List Nat} {held : Nat → Option Nat}

theorem Exclusive.start (n : Nat) : Exclusive n (List.range n) fun _ => none :=
  ⟨List.nodup_range, fun _ hr => List.mem_range.1 hr, nofun, nofun, fun _ hr => .inl (List.mem_range.2 hr)⟩

theorem Exclusive.take (h : Exclusive n (r :: free) held) (hi : held i = none) :
    Exclusive n free (Function.update held i (some r)) := by
  obtain ⟨hr, hfree⟩ := List.nodup_cons.1 h.nodup
  have hother {j s : Nat} (hj : j ≠ i) (hs : Function.update held i (some r) j = some s) :
      held j = some s := by
    rwa [Function.update_of_ne hj] at hs
  refine ⟨hfree, fun s hs => h.bound s (List.mem_cons_of_mem _ hs), ?_, ?_, ?_⟩
  · intro j s hs
    by_cases hj : j = i
    · obtain rfl : r = s := by simpa [hj] using hs
      exact ⟨h.bound r List.mem_cons_self, hr⟩
    · obtain ⟨hlt, hmem⟩ := h.apart j s (hother hj hs)
      exact ⟨hlt, fun hs => hmem (List.mem_cons_of_mem _ hs)⟩
  · intro j k s hj hk
    -- what another holder has was not free
    have hnot {j : Nat} (hji : j ≠ i) (hj : Function.update held i (some r) j = some s)
        (hsr : Function.update held i (some r) i = some s) : False := by
      obtain rfl : r = s := by simpa using hsr
      exact (h.apart j r (hother hji hj)).2 List.mem_cons_self
    by_cases hji : j = i
    · by_cases hki : k = i
      · rw [hji, hki]
      · exact (hnot hki hk (hji ▸ hj)).elim
    · by_cases hki : k = i
      · exact (hnot hji hj (hki ▸ hk)).elim
      · exact h.single j k s (hother hji hj) (hother hki hk)
  · intro s hs
    rcases h.all s hs with hmem | ⟨j, hj⟩
    · rcases List.mem_cons.1 hmem with rfl | hmem
      · exact .inr ⟨i, Function.update_self _ _ _⟩
      · exact .inl hmem
    · refine .inr ⟨j, ?_⟩
      rw [Function.update_of_ne]
      · exact hj
      · rintro rfl
        rw [hi] at hj
        cases hj

theorem Exclusive.giveBack (h : Exclusive n free held) (hi : held i = some r) :
    Exclusive n (free ++ [r]) (Function.update held i none) := by
  obtain ⟨hlt, hr⟩ := h.apart i r hi
  have hother {j s : Nat} (hs : Function.update held i none j = some s) : j ≠ i ∧ held j = some s := by
    by_cases hj : j = i
    · simp [hj] at hs
    · exact ⟨hj, by rwa [Function.update_of_ne hj] at hs⟩
  refine ⟨?_, ?_, ?_, ?_, ?_⟩
  · rw [List.nodup_append]
    refine ⟨h.nodup, by simp, ?_⟩
    rintro a ha b hb rfl
    exact hr (List.mem_singleton.1 hb ▸ ha)
  · intro s hs
    rcases List.mem_append.1 hs with hs | hs
    · exact h.bound s hs
    · exact List.mem_singleton.1 hs ▸ hlt
  · intro j s hs
    obtain ⟨hj, hs⟩ := hother hs
    obtain ⟨hlt, hmem⟩ := h.apart j s hs
    refine ⟨hlt, fun hs' => ?_⟩
    rcases List.mem_append.1 hs' with hs' | hs'
    · exact hmem hs'
    · obtain rfl := List.mem_singleton.1 hs'
      exact hj (h.single j i s hs hi)
  · intro j k s hj hk
    exact h.single j k s (hother hj).2 (hother hk).2
  · intro s hs
    rcases h.all s hs with hmem | ⟨j, hj⟩
    · exact .inl (List.mem_append_left _ hmem)
    · by_cases hji : j = i
      · obtain rfl : s = r := by simpa [hji, hi] using hj.symm
        exact .inl (by simp)
      · exact .inr ⟨j, by rwa [Function.update_of_ne hji]⟩

end Pools
