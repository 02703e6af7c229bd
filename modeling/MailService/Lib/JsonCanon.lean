import MailService.Lib.JsonRoundTrip
import Mathlib.Order.Basic
/-!
# Canonical values

`canon` lists an object's members by name, the last of each name. It is
idempotent, keeps values writable and commutes with writing and reading: a text
that was written from a canonical value is canonical again.
-/
open Text

namespace Json

/-! ## Ordered members -/

section
variable {α : Type*} {cmp : String → String → Ordering}

/-- The names are in strictly increasing order. -/
def Sorted (cmp : String → String → Ordering) (members : List (String × α)) : Prop :=
  members.Pairwise fun a b => cmp a.1 b.1 = .lt

theorem mem_upsert {k : String} {v : α} {members : List (String × α)} {m : String × α}
    (h : m ∈ upsert cmp k v members) : m = (k, v) ∨ m ∈ members := by
  induction members with
  | nil => simpa [upsert] using h
  | cons head members ih =>
    obtain ⟨l, w⟩ := head
    simp only [upsert] at h
    split at h
    · simpa using h
    · simp only [List.mem_cons] at h ⊢; tauto
    · simp only [List.mem_cons] at h ⊢; tauto

theorem mem_sortMembers {members : List (String × α)} {m : String × α} (h : m ∈ sortMembers cmp members) :
    m ∈ members := by
  have go (members acc : List (String × α))
      (h : m ∈ members.foldl (fun sorted m => upsert cmp m.1 m.2 sorted) acc) : m ∈ acc ∨ m ∈ members := by
    induction members generalizing acc with
    | nil => exact .inl h
    | cons head members ih =>
      obtain h | h := ih _ h
      · exact (mem_upsert h).elim (fun h => .inr (by simp [h])) .inl
      · exact .inr (by simp [h])
  exact (go members [] h).resolve_left (by simp)

/-- A name above all the others goes last. -/
theorem upsert_last [Std.OrientedCmp cmp] {k : String} {v : α} {members : List (String × α)}
    (h : ∀ m ∈ members, cmp m.1 k = .lt) : upsert cmp k v members = members ++ [(k, v)] := by
  induction members with
  | nil => rfl
  | cons head members ih =>
    obtain ⟨l, w⟩ := head
    have hgt : cmp k l = .gt := Std.OrientedCmp.gt_iff_lt.2 (h (l, w) (by simp))
    simp [upsert, hgt, ih fun m hm => h m (by simp [hm])]

theorem sortMembers_of_sorted [Std.OrientedCmp cmp] {members : List (String × α)} (h : Sorted cmp members) :
    sortMembers cmp members = members := by
  have go (members acc : List (String × α)) (h : Sorted cmp (acc ++ members)) :
      members.foldl (fun sorted m => upsert cmp m.1 m.2 sorted) acc = acc ++ members := by
    induction members generalizing acc with
    | nil => simp
    | cons head members ih =>
      obtain ⟨k, v⟩ := head
      have hlast : upsert cmp k v acc = acc ++ [(k, v)] :=
        upsert_last fun m hm => (List.pairwise_append.1 h).2.2 m hm (k, v) (by simp)
      rw [List.foldl_cons, hlast, ih _ (by simpa using h), List.append_assoc, List.singleton_append]
  exact go members [] h

theorem sorted_upsert [Std.TransCmp cmp] [Std.LawfulEqCmp cmp] {k : String} {v : α}
    {members : List (String × α)} (h : Sorted cmp members) : Sorted cmp (upsert cmp k v members) := by
  induction members with
  | nil => simp [upsert, Sorted]
  | cons head members ih =>
    obtain ⟨l, w⟩ := head
    obtain ⟨hl, hs⟩ := List.pairwise_cons.1 h
    simp only [upsert]
    split
    · rename_i hlt
      refine List.pairwise_cons.2 ⟨fun m hm => ?_, h⟩
      obtain rfl | hm := List.mem_cons.1 hm
      · exact hlt
      · exact Std.TransCmp.lt_trans hlt (hl m hm)
    · rename_i heq
      obtain rfl := Std.LawfulEqCmp.eq_of_compare heq
      exact List.pairwise_cons.2 ⟨fun m hm => hl m hm, hs⟩
    · rename_i hgt
      refine List.pairwise_cons.2 ⟨fun m hm => ?_, ih hs⟩
      obtain rfl | hm := mem_upsert hm
      · exact Std.OrientedCmp.gt_iff_lt.1 hgt
      · exact hl m hm

theorem sorted_sortMembers [Std.TransCmp cmp] [Std.LawfulEqCmp cmp] (members : List (String × α)) :
    Sorted cmp (sortMembers cmp members) := by
  have go (members acc : List (String × α)) (h : Sorted cmp acc) :
      Sorted cmp (members.foldl (fun sorted m => upsert cmp m.1 m.2 sorted) acc) := by
    induction members generalizing acc with
    | nil => exact h
    | cons head members ih => exact ih _ (sorted_upsert h)
  exact go members [] List.Pairwise.nil

/-- A new name is one more member, somewhere. -/
theorem upsert_perm {k : String} {v : α} {members : List (String × α)} (h : ∀ m ∈ members, cmp k m.1 ≠ .eq) :
    (upsert cmp k v members).Perm ((k, v) :: members) := by
  induction members with
  | nil => exact .refl _
  | cons head members ih =>
    obtain ⟨l, w⟩ := head
    simp only [upsert]
    split
    · exact .refl _
    · rename_i heq
      exact absurd heq (h (l, w) (by simp))
    · exact ((ih fun m hm => h m (by simp [hm])).cons (l, w)).trans (.swap _ _ _)

/-- Members without a repeated name are only put in another order. -/
theorem sortMembers_perm [Std.LawfulEqCmp cmp] {members : List (String × α)}
    (h : (members.map Prod.fst).Nodup) :
    (sortMembers cmp members).Perm members := by
  have go (members acc : List (String × α)) (h : ((acc ++ members).map Prod.fst).Nodup) :
      (members.foldl (fun sorted m => upsert cmp m.1 m.2 sorted) acc).Perm (acc ++ members) := by
    induction members generalizing acc with
    | nil => simp
    | cons head members ih =>
      obtain ⟨k, v⟩ := head
      have hnew : ∀ m ∈ acc, cmp k m.1 ≠ .eq := by
        intro m hm heq
        rw [List.map_append, List.nodup_append] at h
        exact h.2.2 m.1 (List.mem_map_of_mem hm) k (by simp) (Std.LawfulEqCmp.eq_of_compare heq).symm
      have hp : (upsert cmp k v acc ++ members).Perm (acc ++ (k, v) :: members) :=
        ((upsert_perm hnew).append_right members).trans List.perm_middle.symm
      exact (ih _ (((hp.map Prod.fst).nodup_iff).2 h)).trans hp
  exact go members [] (by simpa using h)

/-- The order in which members without a repeated name come does not matter. -/
theorem sortMembers_congr [Std.TransCmp cmp] [Std.LawfulEqCmp cmp] {l₁ l₂ : List (String × α)}
    (hn : (l₁.map Prod.fst).Nodup) (h : l₁.Perm l₂) : sortMembers cmp l₁ = sortMembers cmp l₂ := by
  have hp : (sortMembers cmp l₁).Perm (sortMembers cmp l₂) :=
    ((sortMembers_perm hn).trans h).trans (sortMembers_perm (((h.map Prod.fst).nodup_iff).1 hn)).symm
  refine hp.eq_of_pairwise (fun a b _ _ hab hba => ?_) (sorted_sortMembers l₁) (sorted_sortMembers l₂)
  have hgt := Std.OrientedCmp.gt_iff_lt.2 hab
  rw [hba] at hgt
  cases hgt

end

instance : Std.LawfulEqCmp jsonbOrder where
  compare_self := by simp [jsonbOrder, compareLex, compareOn]
  eq_of_compare h := compare_eq_iff_eq.1 (compareLex_eq_eq.1 h).2

instance : Std.TransCmp goOrder := inferInstanceAs (Std.TransCmp (compare : String → String → Ordering))

instance : Std.LawfulEqCmp goOrder := inferInstanceAs (Std.LawfulEqCmp (compare : String → String → Ordering))

/-! ## Idempotence -/

variable {cmp : String → String → Ordering}

theorem wfMembers_iff {members : List (String × Value)} :
    wfMembers members = true ↔ ∀ m ∈ members, wf m.2 = true := by
  induction members with
  | nil => simp [wfMembers]
  | cons m members ih => obtain ⟨k, v⟩ := m; simp [wfMembers, ih]

theorem canonMembers_eq_map (members : List (String × Value)) :
    canonMembers cmp members = members.map fun m => (m.1, canon cmp m.2) := by
  induction members with
  | nil => simp [canonMembers]
  | cons m members ih => obtain ⟨k, v⟩ := m; simp [canonMembers, ih]

theorem canonItems_eq_map (items : List Value) : canonItems cmp items = items.map (canon cmp) := by
  induction items with
  | nil => simp [canonItems]
  | cons v items ih => simp [canonItems, ih]

mutual
theorem wf_canon : ∀ v : Value, wf v = true → wf (canon cmp v) = true
  | .null, h | .bool _, h | .num _, h | .str _, h => by simpa [canon] using h
  | .arr items, h => by simpa [canon, wf] using wf_canonItems items (by simpa [wf] using h)
  | .obj members, h => by
    simp only [canon, wf, wfMembers_iff] at h ⊢
    exact fun m hm => wf_canonMembers members (wfMembers_iff.2 h) m (mem_sortMembers hm)

theorem wf_canonItems : ∀ items : List Value, wfItems items = true → wfItems (canonItems cmp items) = true
  | [], _ => rfl
  | v :: items, h => by
    simp only [wfItems, Bool.and_eq_true] at h
    simp [canonItems, wfItems, wf_canon v h.1, wf_canonItems items h.2]

theorem wf_canonMembers : ∀ members : List (String × Value), wfMembers members = true →
    ∀ m ∈ canonMembers cmp members, wf m.2 = true
  | [], _ => by simp [canonMembers]
  | (k, v) :: members, h => by
    simp only [wfMembers, Bool.and_eq_true] at h
    simp only [canonMembers, List.mem_cons, forall_eq_or_imp]
    exact ⟨wf_canon v h.1, wf_canonMembers members h.2⟩
end

mutual
theorem canon_canon [Std.TransCmp cmp] [Std.LawfulEqCmp cmp] : ∀ v : Value,
    canon cmp (canon cmp v) = canon cmp v
  | .null | .bool _ | .num _ | .str _ => by simp [canon]
  | .arr items => by
    have h := canonItems_fixed items
    simp only [canon, Value.arr.injEq]
    rw [canonItems_eq_map (canonItems cmp items)]
    exact List.map_congr_left (g := id) h |>.trans (List.map_id _)
  | .obj members => by
    have h := canonMembers_fixed members
    simp only [canon, Value.obj.injEq]
    have hfix : canonMembers cmp (sortMembers cmp (canonMembers cmp members)) =
        sortMembers cmp (canonMembers cmp members) := by
      rw [canonMembers_eq_map (sortMembers cmp _)]
      exact (List.map_congr_left (g := id) fun m hm => by rw [h m (mem_sortMembers hm)]; rfl).trans
        (List.map_id _)
    rw [hfix, sortMembers_of_sorted (sorted_sortMembers _)]

theorem canonItems_fixed [Std.TransCmp cmp] [Std.LawfulEqCmp cmp] : ∀ items : List Value,
    ∀ v ∈ canonItems cmp items, canon cmp v = v
  | [] => by simp [canonItems]
  | v :: items => by
    simp only [canonItems, List.mem_cons, forall_eq_or_imp]
    exact ⟨canon_canon v, canonItems_fixed items⟩

theorem canonMembers_fixed [Std.TransCmp cmp] [Std.LawfulEqCmp cmp] : ∀ members : List (String × Value),
    ∀ m ∈ canonMembers cmp members, canon cmp m.2 = m.2
  | [] => by simp [canonMembers]
  | (k, v) :: members => by
    simp only [canonMembers, List.mem_cons, forall_eq_or_imp]
    exact ⟨canon_canon v, canonMembers_fixed members⟩
end

/-! ## How long a text can be

A bound on the bytes of a value's text in every style: no character is written with
more than six bytes for each of its own. -/

mutual
def cost : Value → Nat
  | .null => 4
  | .bool _ => 5
  | .num literal => len literal
  | .str s => 6 * len s + 2
  | .arr items => costItems items
  | .obj members => costMembers members

def costItems : List Value → Nat
  | [] => 2
  | v :: items => cost v + 2 + costItems items

def costMembers : List (String × Value) → Nat
  | [] => 2
  | (k, v) :: members => 6 * len k + cost v + 6 + costMembers members
end

theorem utf8Len_hex4 (n : Nat) : String.utf8Len (hex4 n) = 4 := by
  simp [hex4, String.utf8Len_cons, (hexDigit_ascii _).2]

theorem utf8Len_escapeChar (st : Style) (c : Char) : String.utf8Len (escapeChar st c) ≤ 6 * c.utf8Size := by
  have hpos := c.utf8Size_pos
  unfold escapeChar
  split
  · rename_i letter hl
    have hascii : ∀ p ∈ shortEscapes, p.2.utf8Size = 1 := by decide
    obtain ⟨before, after, htable, -⟩ := List.lookup_eq_some_iff.1 hl
    have hletter := hascii (c, letter) (by rw [htable]; simp)
    have hslash : '\\'.utf8Size = 1 := by decide
    simp only [String.utf8Len_cons, hletter, hslash, String.utf8Len_nil]
    omega
  · split
    · have hslash : '\\'.utf8Size = 1 ∧ 'u'.utf8Size = 1 := by decide
      simp only [String.utf8Len_cons, utf8Len_hex4, hslash]
      omega
    · simp only [String.utf8Len_cons, String.utf8Len_nil]
      omega

theorem utf8Len_quote (st : Style) (s : String) : String.utf8Len (quote st s) ≤ 6 * len s + 2 := by
  have hescape (cs : List Char) : String.utf8Len (escape st cs) ≤ 6 * String.utf8Len cs := by
    induction cs with
    | nil => simp [escape]
    | cons c cs ih =>
      have := utf8Len_escapeChar st c
      rw [escape, List.flatMap_cons, String.utf8Len_append, ← escape, String.utf8Len_cons]
      omega
  have := hescape s.toList
  have hquote : '"'.utf8Size = 1 := by decide
  simp only [quote, String.utf8Len_cons, String.utf8Len_append, String.utf8Len_nil, hquote, len_eq_utf8Len]
  omega

/-- Characters that need no escape are written as they are. -/
theorem escape_eq_self {st : Style} {cs : List Char} (h : ∀ c ∈ cs, escapeChar st c = [c]) :
    escape st cs = cs := by
  induction cs with
  | nil => rfl
  | cons c cs ih =>
    rw [escape, List.flatMap_cons, h c List.mem_cons_self, ← escape,
      ih fun x hx => h x (List.mem_cons_of_mem c hx)]
    rfl

theorem utf8Len_separator (st : Style) {c : Char} (h : c.utf8Size = 1) :
    String.utf8Len (separator st c) ≤ 2 := by
  have hblank : ' '.utf8Size = 1 := by decide
  unfold separator blank
  split <;> simp [String.utf8Len_cons, h, hblank]

mutual
theorem utf8Len_render (st : Style) : ∀ v : Value, String.utf8Len (render st v) ≤ cost v
  | .null => (by decide : String.utf8Len "null".toList ≤ 4)
  | .bool true => (by decide : String.utf8Len "true".toList ≤ 5)
  | .bool false => (by decide : String.utf8Len "false".toList ≤ 5)
  | .num literal => by simp [render, cost, len_eq_utf8Len]
  | .str s => utf8Len_quote st s
  | .arr items => by
    have := utf8Len_renderItems st items
    have hopen : '['.utf8Size = 1 := by decide
    simp only [render, cost, String.utf8Len_cons, hopen]
    omega
  | .obj members => by
    have := utf8Len_renderMembers st members
    have hopen : '{'.utf8Size = 1 := by decide
    simp only [render, cost, String.utf8Len_cons, hopen]
    omega

theorem utf8Len_renderItems (st : Style) : ∀ items : List Value,
    String.utf8Len (renderItems st items) + 1 ≤ costItems items
  | [] => (by decide : String.utf8Len [']'] + 1 ≤ 2)
  | [v] => by
    have := utf8Len_render st v
    have hclose : ']'.utf8Size = 1 := by decide
    simp only [renderItems, costItems, String.utf8Len_append, String.utf8Len_cons, String.utf8Len_nil, hclose]
    omega
  | v :: w :: items => by
    have := utf8Len_render st v
    have := utf8Len_renderItems st (w :: items)
    have := utf8Len_separator st (c := ',') (by decide)
    rw [renderItems, costItems, String.utf8Len_append, String.utf8Len_append]
    omega

theorem utf8Len_renderMembers (st : Style) : ∀ members : List (String × Value),
    String.utf8Len (renderMembers st members) + 1 ≤ costMembers members
  | [] => (by decide : String.utf8Len ['}'] + 1 ≤ 2)
  | [(k, v)] => by
    have := utf8Len_quote st k
    have := utf8Len_render st v
    have := utf8Len_separator st (c := ':') (by decide)
    have hclose : '}'.utf8Size = 1 := by decide
    simp only [renderMembers, costMembers, String.utf8Len_append, String.utf8Len_cons,
      String.utf8Len_nil, hclose]
    omega
  | (k, v) :: m :: members => by
    have := utf8Len_quote st k
    have := utf8Len_render st v
    have := utf8Len_separator st (c := ':') (by decide)
    have := utf8Len_separator st (c := ',') (by decide)
    have := utf8Len_renderMembers st (m :: members)
    rw [renderMembers, costMembers, String.utf8Len_append, String.utf8Len_append, String.utf8Len_append,
      String.utf8Len_append]
    omega
end

/-- The length of an object whose names and values all have the same length. -/
theorem utf8Len_renderMembers_uniform (st : Style) {name value : Nat} :
    ∀ members : List (String × Value), members ≠ [] →
    (∀ m ∈ members, String.utf8Len (quote st m.1) = name ∧ String.utf8Len (render st m.2) = value) →
    String.utf8Len (renderMembers st members) + String.utf8Len (separator st ',') =
      members.length * (name + String.utf8Len (separator st ':') + value + String.utf8Len
        (separator st ',')) + 1
  | [], hne, _ => absurd rfl hne
  | [(k, v)], _, h => by
    obtain ⟨hk, hv⟩ := h (k, v) List.mem_cons_self
    have hbrace : String.utf8Len ['}'] = 1 := by decide
    simp only [renderMembers, String.utf8Len_append, hk, hv, hbrace, List.length_singleton]
    omega
  | (k, v) :: m :: members, _, h => by
    obtain ⟨hk, hv⟩ := h (k, v) List.mem_cons_self
    have hrest := utf8Len_renderMembers_uniform st (m :: members) (List.cons_ne_nil _ _)
      fun x hx => h x (List.mem_cons_of_mem _ hx)
    simp only [renderMembers, String.utf8Len_append, hk, hv, List.length_cons] at hrest ⊢
    rw [Nat.succ_mul]
    omega

theorem len_marshal_le (st : Style) (v : Value) : len (marshal st v) ≤ cost v := by
  rw [marshal, len_ofList]
  exact utf8Len_render st v

/-- A bound from what each member can take. -/
theorem costMembers_le {members : List (String × Value)} {name value : Nat}
    (h : ∀ m ∈ members, len m.1 ≤ name ∧ cost m.2 ≤ value) :
    costMembers members ≤ members.length * (6 * name + value + 6) + 2 := by
  induction members with
  | nil => simp [costMembers]
  | cons m members ih =>
    obtain ⟨k, v⟩ := m
    have hm := h (k, v) (by simp)
    have ih := ih fun m hm => h m (by simp [hm])
    have hlength := Nat.add_one_mul members.length (6 * name + value + 6)
    simp only [costMembers, List.length_cons] at hm ⊢
    omega

/-! Putting an object's members in order can only drop some of them. -/

theorem costMembers_upsert_le (k : String) (v : Value) (members : List (String × Value)) :
    costMembers (upsert cmp k v members) ≤ 6 * len k + cost v + 6 + costMembers members := by
  induction members with
  | nil => simp [upsert, costMembers]
  | cons m members ih =>
    obtain ⟨l, w⟩ := m
    simp only [upsert]
    split <;> simp only [costMembers] <;> omega

theorem costMembers_sortMembers_le (members : List (String × Value)) :
    costMembers (sortMembers cmp members) ≤ costMembers members := by
  have go (members acc : List (String × Value)) :
      costMembers (members.foldl (fun sorted m => upsert cmp m.1 m.2 sorted) acc) + 2 ≤
        costMembers acc + costMembers members := by
    induction members generalizing acc with
    | nil => simp [costMembers]
    | cons m members ih =>
      obtain ⟨k, v⟩ := m
      have hstep := ih (upsert cmp k v acc)
      have hupsert : costMembers (upsert cmp k v acc) ≤ 6 * len k + cost v + 6 + costMembers acc :=
        costMembers_upsert_le k v acc
      simp only [List.foldl_cons, costMembers]
      omega
  have h := go members []
  simp only [costMembers] at h
  unfold sortMembers
  omega

mutual
theorem cost_canon_le : ∀ v : Value, cost (canon cmp v) ≤ cost v
  | .null | .bool _ | .num _ | .str _ => by simp [canon]
  | .arr items => by simpa [canon, cost] using costItems_canon_le items
  | .obj members => by
    simp only [canon, cost]
    exact (costMembers_sortMembers_le _).trans (costMembers_canon_le members)

theorem costItems_canon_le : ∀ items : List Value, costItems (canonItems cmp items) ≤ costItems items
  | [] => by simp [canonItems]
  | v :: items => by
    have := cost_canon_le v
    have := costItems_canon_le items
    simp only [canonItems, costItems]
    omega

theorem costMembers_canon_le : ∀ members : List (String × Value),
    costMembers (canonMembers cmp members) ≤ costMembers members
  | [] => by simp [canonMembers]
  | (k, v) :: members => by
    have := cost_canon_le v
    have := costMembers_canon_le members
    simp only [canonMembers, costMembers]
    omega
end

end Json
