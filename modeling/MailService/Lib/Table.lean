import Mathlib.Data.List.Nodup
/-!
# Tables

A table is the list of its rows, and a key is a column without repetitions. An
update that selects a row by its key exchanges that row and keeps the others.
-/

namespace Table

variable {α β κ : Type*}

/-- The table with one row exchanged. -/
def exchange [DecidableEq α] (l : List α) (a b : α) : List α := l.map fun x => if x = a then b else x

theorem mem_exchange [DecidableEq α] {l : List α} {a b x : α} (ha : a ∈ l) :
    x ∈ exchange l a b ↔ x = b ∨ x ∈ l ∧ x ≠ a := by
  simp only [exchange, List.mem_map]
  constructor
  · rintro ⟨y, hy, rfl⟩
    split
    · exact .inl rfl
    · exact .inr ⟨hy, by assumption⟩
  · rintro (rfl | ⟨hx, hne⟩)
    · exact ⟨a, ha, by simp⟩
    · exact ⟨x, hx, by simp [hne]⟩

/-- An exchange that keeps a column leaves that column of the table as it was. -/
theorem map_exchange [DecidableEq α] (f : α → β) (l : List α) {a b : α} (h : f b = f a) :
    (exchange l a b).map f = l.map f := by
  simp only [exchange, List.map_map]
  refine List.map_congr_left fun x _ => ?_
  simp only [Function.comp]
  split
  · simp_all
  · rfl

theorem exchange_of_notMem [DecidableEq α] {l : List α} {a b : α} (ha : a ∉ l) : exchange l a b = l := by
  conv_rhs => rw [← List.map_id l]
  refine List.map_congr_left fun x hx => ?_
  have : x ≠ a := fun he => ha (he ▸ hx)
  simp [this]

/-- An exchange that stays within a selection can be made after selecting. -/
theorem filter_exchange [DecidableEq α] (p : α → Bool) (l : List α) {a b : α} (h : p b = p a) :
    (exchange l a b).filter p = exchange (l.filter p) a b := by
  simp only [exchange, List.filter_map]
  congr 1
  refine List.filter_congr fun x _ => ?_
  simp only [Function.comp]
  split
  · simp_all
  · rfl

/-- An update that selects one row by its key is an exchange of that row. -/
theorem map_if_eq_exchange [DecidableEq α] {key : α → κ} {l : List α} {a : α} (f : α → α)
    (p : α → Prop) [DecidablePred p] (hn : (l.map key).Nodup) (ha : a ∈ l) (hp : p a)
    (hkey : ∀ x, p x → key x = key a) : (l.map fun x => if p x then f x else x) = exchange l a (f a) := by
  refine List.map_congr_left fun x hx => ?_
  by_cases hpx : p x
  · obtain rfl : x = a := List.inj_on_of_nodup_map hn hx ha (hkey x hpx)
    simp [hpx]
  · have : x ≠ a := fun he => hpx (he ▸ hp)
    simp [hpx, this]

/-- A query that selects by a key finds the row with that key, wherever it stands. -/
theorem find?_eq_some_iff [DecidableEq κ] {key : α → κ} {l : List α} {a : α} (p : α → Bool)
    (hn : (l.map key).Nodup) (hkey : ∀ x y, p x = true → p y = true → key x = key y) :
    l.find? p = some a ↔ a ∈ l ∧ p a = true := by
  constructor
  · intro h
    exact ⟨List.mem_of_find?_eq_some h, List.find?_some h⟩
  · rintro ⟨ha, hp⟩
    cases hf : l.find? p with
    | none => exact absurd hp (by simpa using List.find?_eq_none.1 hf a ha)
    | some b =>
      have hb := List.mem_of_find?_eq_some hf
      rw [List.inj_on_of_nodup_map hn hb ha (hkey b a (List.find?_some hf) hp)]

/-- A query that selects by a key returns one row. -/
theorem filter_key_eq [DecidableEq κ] {key : α → κ} {l : List α} {a : α}
    (hn : (l.map key).Nodup) (ha : a ∈ l) :
    (l.filter fun x => key x = key a) = [a] := by
  induction l with
  | nil => simp at ha
  | cons b l ih =>
    obtain ⟨hb, hl⟩ := List.nodup_cons.1 (show (key b :: l.map key).Nodup from hn)
    rcases List.mem_cons.1 ha with rfl | ha
    · have hrest : (l.filter fun x => key x = key a) = [] :=
        List.filter_eq_nil_iff.2 fun x hx hkey => hb (List.mem_map.2 ⟨x, hx, by simpa using hkey⟩)
      simp [hrest]
    · have hne : key b ≠ key a := fun he => hb (List.mem_map.2 ⟨a, ha, he.symm⟩)
      simp [hne, ih hl ha]

/-- Of the rows that were made for the elements of a list, a query by the key of one finds
those that were made for it. -/
theorem filter_flatMap_key [DecidableEq κ] {key : α → κ} {tag : β → κ} {g : α → List β} {l : List α}
    {a : α} (p : β → Bool) (hn : (l.map key).Nodup) (ha : a ∈ l)
    (hg : ∀ x ∈ l, ∀ y ∈ g x, tag y = key x) :
    ((l.flatMap g).filter fun y => tag y = key a ∧ p y) = (g a).filter p := by
  have hother {x : α} (hx : x ∈ l) (hne : key x ≠ key a) :
      ((g x).filter fun y => tag y = key a ∧ p y) = [] := by
    refine List.filter_eq_nil_iff.2 fun y hy hq => hne ?_
    rw [decide_eq_true_eq] at hq
    exact (hg x hx y hy).symm.trans hq.1
  have hself : ((g a).filter fun y => tag y = key a ∧ p y) = (g a).filter p := by
    refine List.filter_congr fun y hy => ?_
    simp [hg a ha y hy]
  rw [List.filter_flatMap]
  clear hg
  induction l with
  | nil => simp at ha
  | cons b l ih =>
    obtain ⟨hb, hl⟩ := List.nodup_cons.1 (show (key b :: l.map key).Nodup from hn)
    rw [List.flatMap_cons]
    rcases List.mem_cons.1 ha with rfl | ha
    · have hrest : (l.flatMap fun x => (g x).filter fun y => tag y = key a ∧ p y) = [] := by
        refine List.flatMap_eq_nil_iff.2 fun x hx => hother (List.mem_cons_of_mem a hx) fun he => hb ?_
        exact List.mem_map.2 ⟨x, hx, he⟩
      rw [hrest, List.append_nil, hself]
    · have hne : key b ≠ key a := fun he => hb (List.mem_map.2 ⟨a, ha, he.symm⟩)
      rw [hother List.mem_cons_self hne, List.nil_append]
      exact ih hl ha fun hx => hother (List.mem_cons_of_mem b hx)

/-- Rows whose keys are neither in the table nor repeated among them. -/
structure Fresh (key : α → κ) (table new : List α) : Prop where
  absent : ∀ a ∈ new, ∀ r ∈ table, key r ≠ key a
  nodup : (new.map key).Nodup

namespace Fresh

variable {key : α → κ} {table new : List α} {a : α}

theorem head (h : Fresh key table (a :: new)) : ∀ r ∈ table, key r ≠ key a := h.absent a (by simp)

/-- After the first row is appended the others are still fresh. -/
theorem tail (h : Fresh key table (a :: new)) : Fresh key (table ++ [a]) new := by
  have hn := h.nodup
  simp only [List.map_cons, List.nodup_cons, List.mem_map, not_exists, not_and] at hn
  refine ⟨fun b hb r hr => ?_, hn.2⟩
  rcases List.mem_append.1 hr with hr | hr
  · exact h.absent b (by simp [hb]) r hr
  · rw [List.mem_singleton.1 hr]
    exact fun he => hn.1 b hb he.symm

theorem cons (ha : ∀ r ∈ table, key r ≠ key a) (h : Fresh key (table ++ [a]) new) :
    Fresh key table (a :: new) := by
  refine ⟨fun b hb r hr => ?_, ?_⟩
  · rcases List.mem_cons.1 hb with rfl | hb
    · exact ha r hr
    · exact h.absent b hb r (List.mem_append_left _ hr)
  · rw [List.map_cons, List.nodup_cons]
    refine ⟨fun hmem => ?_, h.nodup⟩
    obtain ⟨b, hb, he⟩ := List.mem_map.1 hmem
    exact h.absent b hb a (by simp) he.symm

/-- Rows appended in two parts. -/
theorem split {more : List α} (h : Fresh key table (new ++ more)) :
    Fresh key table new ∧ Fresh key (table ++ new) more := by
  induction new generalizing table with
  | nil => exact ⟨⟨by simp, by simp⟩, by simpa using h⟩
  | cons b new ih =>
    obtain ⟨h₁, h₂⟩ := ih h.tail
    refine ⟨⟨fun c hc => h.absent c (by simp at hc ⊢; tauto), ?_⟩, by simpa using h₂⟩
    have hn := h.nodup
    rw [List.cons_append, List.map_cons, List.map_append, List.nodup_cons] at hn
    rw [List.map_cons, List.nodup_cons]
    exact ⟨fun hmem => hn.1 (List.mem_append_left _ hmem), h₁.nodup⟩

/-- A key stays a key. -/
theorem nodup_append (h : Fresh key table new) (hn : (table.map key).Nodup) :
    ((table ++ new).map key).Nodup := by
  rw [List.map_append, List.nodup_append]
  refine ⟨hn, h.nodup, ?_⟩
  rintro x hx y hy rfl
  obtain ⟨r, hr, hrx⟩ := List.mem_map.1 hx
  obtain ⟨b, hb, hbx⟩ := List.mem_map.1 hy
  exact h.absent b hb r hr (hrx.trans hbx.symm)

end Fresh

end Table
