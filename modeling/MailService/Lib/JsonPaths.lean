import MailService.Lib.JsonCanon
import Mathlib.Data.List.Nodup
import Mathlib.Order.Bounds.Defs
/-!
# What a value denotes

An object denotes a map: of the members with one name the last one counts, and their
order does not. Two values denote the same if they agree along every path (`Same`). The
canonical value is the one representative of what it denotes, and its depth is the
largest number of containers on a path.
-/

namespace Json

/-! ## Paths -/

inductive Key
  | name (k : String)
  | index (i : Nat)
  deriving DecidableEq, Repr

/-- What stands at the end of a path. -/
inductive Node
  | null
  | bool (b : Bool)
  | num (literal : String)
  | str (s : String)
  | arr (length : Nat)
  | obj
  deriving DecidableEq, Repr

def Value.node : Value → Node
  | .null => .null
  | .bool b => .bool b
  | .num literal => .num literal
  | .str s => .str s
  | .arr items => .arr items.length
  | .obj _ => .obj

def Node.isContainer : Node → Bool
  | .arr _ | .obj => true
  | _ => false

/-- The value under a name: that of the last member with it. -/
def lookup {α : Type*} (k : String) : List (String × α) → Option α
  | [] => none
  | (l, v) :: members => (lookup k members).or (if l = k then some v else none)

def Value.child : Value → Key → Option Value
  | .arr items, .index i => items[i]?
  | .obj members, .name k => lookup k members
  | _, _ => none

def Value.nodeAt : Value → List Key → Option Node
  | v, [] => some v.node
  | v, key :: path => (v.child key).bind fun w => w.nodeAt path

/-- The values denote the same. -/
def Same (v w : Value) : Prop := ∀ path, v.nodeAt path = w.nodeAt path

/-- Along some path of the value there are `n` objects and arrays inside each other. -/
def Nests (v : Value) (n : Nat) : Prop :=
  ∃ path node, v.nodeAt path = some node ∧ n = path.length + if node.isContainer then 1 else 0

/-! ## Members -/

section Members

variable {α β : Type*} {cmp : String → String → Ordering} {k : String}

theorem lookup_map (f : α → β) (members : List (String × α)) :
    lookup k (members.map fun m => (m.1, f m.2)) = (lookup k members).map f := by
  induction members with
  | nil => rfl
  | cons m members ih =>
    simp only [List.map_cons, lookup, ih]
    cases lookup k members <;> split <;> rfl

theorem mem_of_lookup {members : List (String × α)} {v : α} (h : lookup k members = some v) :
    (k, v) ∈ members := by
  induction members with
  | nil => cases h
  | cons m members ih =>
    obtain ⟨l, w⟩ := m
    rw [lookup, Option.or_eq_some_iff] at h
    rcases h with h | ⟨-, h⟩
    · exact List.mem_cons_of_mem _ (ih h)
    · obtain ⟨rfl, hw⟩ := Option.ite_none_right_eq_some.1 h
      rw [Option.some.inj hw]
      exact List.mem_cons_self

theorem lookup_of_mem {members : List (String × α)} {v : α} (hn : (members.map Prod.fst).Nodup)
    (h : (k, v) ∈ members) :
    lookup k members = some v := by
  induction members with
  | nil => cases h
  | cons m members ih =>
    obtain ⟨hm, hn⟩ := List.nodup_cons.1 (show (m.1 :: members.map Prod.fst).Nodup from hn)
    rcases List.mem_cons.1 h with rfl | h
    · have hnone : lookup k members = none := by
        cases hl : lookup k members with
        | none => rfl
        | some w => exact absurd (List.mem_map_of_mem (mem_of_lookup hl)) hm
      simp [lookup, hnone]
    · rw [lookup, ih hn h, Option.some_or]

/-- Setting a name changes what is under it and nothing else. -/
theorem lookup_upsert [Std.LawfulEqCmp cmp] [Std.TransCmp cmp] {l : String} {v : α}
    {members : List (String × α)} (hs : Sorted cmp members) :
    lookup k (upsert cmp l v members) = if l = k then some v else lookup k members := by
  induction members with
  | nil => simp [upsert, lookup]
  | cons m members ih =>
    obtain ⟨l', w⟩ := m
    obtain ⟨hhead, htail⟩ := List.pairwise_cons.1 hs
    -- the names after `l'` are above it
    have habsent (hle : cmp k l' ≠ .gt) : lookup k members = none := by
      cases hl : lookup k members with
      | none => rfl
      | some x =>
        have hlt : cmp l' k = .lt := hhead _ (mem_of_lookup hl)
        exact absurd (Std.OrientedCmp.gt_iff_lt.2 hlt) hle
    unfold upsert
    split
    · rename_i hlt
      by_cases hk : l = k
      · subst hk
        have hne : l' ≠ l := by
          rintro rfl
          exact absurd (hlt.symm.trans Std.ReflCmp.compare_self) (by decide)
        simp [lookup, habsent (by rw [hlt]; decide), hne]
      · simp [lookup, hk]
    · rename_i heq
      obtain rfl := Std.LawfulEqCmp.eq_of_compare heq
      by_cases hk : l = k
      · subst hk
        simp [lookup, habsent (by rw [heq]; decide)]
      · simp [lookup, hk]
    · rename_i hgt
      rw [lookup, ih htail]
      by_cases hk : l = k
      · simp [hk]
      · simp [lookup, hk]

/-- Putting the members in order keeps what is under each name. -/
theorem lookup_sortMembers [Std.LawfulEqCmp cmp] [Std.TransCmp cmp] (members : List (String × α)) :
    lookup k (sortMembers cmp members) = lookup k members := by
  have go (members acc : List (String × α)) (hs : Sorted cmp acc) :
      lookup k (members.foldl (fun sorted m => upsert cmp m.1 m.2 sorted) acc) =
        (lookup k members).or (lookup k acc) := by
    induction members generalizing acc with
    | nil => rfl
    | cons m members ih =>
      rw [List.foldl_cons, ih _ (sorted_upsert hs), lookup_upsert hs, lookup, Option.or_assoc]
      split <;> simp
  rw [sortMembers, go members [] List.Pairwise.nil]
  simp [lookup]

theorem nodup_of_sorted [Std.ReflCmp cmp] {members : List (String × α)} (hs : Sorted cmp members) :
    (members.map Prod.fst).Nodup := by
  refine List.pairwise_map.2 (hs.imp fun {a b} hlt heq => ?_)
  rw [heq] at hlt
  exact absurd (hlt.symm.trans Std.ReflCmp.compare_self) (by decide)

/-- Members in order are determined by what is under each name. -/
theorem eq_of_lookup [Std.LawfulEqCmp cmp] [Std.TransCmp cmp] {l₁ l₂ : List (String × α)} (h₁ : Sorted cmp l₁)
    (h₂ : Sorted cmp l₂) (h : ∀ k, lookup k l₁ = lookup k l₂) : l₁ = l₂ := by
  have hn₁ := nodup_of_sorted h₁
  have hn₂ := nodup_of_sorted h₂
  have hperm : l₁.Perm l₂ := by
    refine (List.perm_ext_iff_of_nodup (List.Nodup.of_map _ hn₁) (List.Nodup.of_map _ hn₂)).2 fun m => ?_
    constructor
    · exact fun hm => mem_of_lookup ((h m.1).symm.trans (lookup_of_mem hn₁ hm))
    · exact fun hm => mem_of_lookup ((h m.1).trans (lookup_of_mem hn₂ hm))
  rw [← sortMembers_of_sorted h₁, ← sortMembers_of_sorted h₂]
  exact sortMembers_congr hn₁ hperm

end Members

/-! ## Canonical values -/

/-- Induction over a value: what holds of everything directly inside a container holds of the container. -/
theorem Value.induct {P : Value → Prop} (null : P .null) (bool : ∀ b, P (.bool b))
    (num : ∀ literal, P (.num literal)) (str : ∀ s, P (.str s))
    (arr : ∀ items, (∀ v ∈ items, P v) → P (.arr items))
    (obj : ∀ members, (∀ m ∈ members, P m.2) → P (.obj members)) (v : Value) : P v := by
  cases v with
  | null => exact null
  | bool b => exact bool b
  | num literal => exact num literal
  | str s => exact str s
  | arr items => exact arr items fun v _ => Value.induct null bool num str arr obj v
  | obj members =>
    refine obj members fun m hm => ?_
    have : sizeOf m.2 < 1 + sizeOf members := by
      have hlt := List.sizeOf_lt_of_mem hm
      obtain ⟨k, v⟩ := m
      simp only [Prod.mk.sizeOf_spec] at hlt ⊢
      omega
    exact Value.induct null bool num str arr obj m.2

section Canon

variable {cmp : String → String → Ordering} [Std.TransCmp cmp] [Std.LawfulEqCmp cmp]

theorem child_canon (v : Value) (key : Key) : (canon cmp v).child key = (v.child key).map (canon cmp) := by
  cases v with
  | arr items =>
    cases key with
    | name k => rfl
    | index i => simp [canon, canonItems_eq_map, Value.child]
  | obj members =>
    cases key with
    | name k => simp only [canon, Value.child, lookup_sortMembers, canonMembers_eq_map, lookup_map]
    | index i => rfl
  | _ => cases key <;> rfl

/-- The canonical value denotes what the value does. -/
theorem nodeAt_canon (v : Value) (path : List Key) : (canon cmp v).nodeAt path = v.nodeAt path := by
  induction path generalizing v with
  | nil => cases v <;> simp [Value.nodeAt, Value.node, canon, canonItems_eq_map]
  | cons key path ih =>
    rw [Value.nodeAt, Value.nodeAt, child_canon]
    cases v.child key with
    | none => rfl
    | some w => exact ih w

theorem canon_items {items : List Value} (h : canon cmp (.arr items) = .arr items) :
    ∀ v ∈ items, canon cmp v = v := by
  rw [canon, canonItems_eq_map, Value.arr.injEq] at h
  intro v hv
  rw [← h] at hv
  obtain ⟨w, -, rfl⟩ := List.mem_map.1 hv
  exact canon_canon w

theorem canon_members {members : List (String × Value)} (h : canon cmp (.obj members) = .obj members) :
    Sorted cmp members ∧ ∀ m ∈ members, canon cmp m.2 = m.2 := by
  rw [canon, Value.obj.injEq] at h
  constructor
  · rw [← h]
    exact sorted_sortMembers _
  · intro m hm
    rw [← h] at hm
    exact canonMembers_fixed members m (mem_sortMembers hm)

/-- Canonical values that denote the same are equal. -/
theorem eq_of_same : ∀ {v w : Value}, canon cmp v = v → canon cmp w = w → Same v w → v = w := by
  intro v
  induction v using Value.induct with
  | arr items ih =>
    intro w hv hw hsame
    have hnode := hsame []
    cases w with
    | arr items' =>
      have hlength : items.length = items'.length := by simpa [Value.nodeAt, Value.node] using hnode
      congr 1
      refine List.ext_getElem hlength fun i hi hi' => ?_
      refine ih _ (List.getElem_mem hi) (canon_items hv _ (List.getElem_mem hi))
        (canon_items hw _ (List.getElem_mem hi')) fun path => ?_
      simpa [Value.nodeAt, Value.child, hi, hi'] using hsame (.index i :: path)
    | _ => cases hnode
  | obj members ih =>
    intro w hv hw hsame
    have hnode := hsame []
    cases w with
    | obj members' =>
      obtain ⟨hsorted, hcanon⟩ := canon_members hv
      obtain ⟨hsorted', hcanon'⟩ := canon_members hw
      congr 1
      refine eq_of_lookup hsorted hsorted' fun k => ?_
      have hchild : ∀ path,
          (lookup k members).bind (·.nodeAt path) = (lookup k members').bind (·.nodeAt path) :=
        fun path => hsame (.name k :: path)
      cases hl : lookup k members with
      | none =>
        cases hl' : lookup k members' with
        | none => rfl
        | some x' => simpa [hl, hl', Value.nodeAt] using hchild []
      | some x =>
        cases hl' : lookup k members' with
        | none => simpa [hl, hl', Value.nodeAt] using hchild []
        | some x' =>
          have hm := mem_of_lookup hl
          have hm' := mem_of_lookup hl'
          refine congrArg some (ih _ hm (hcanon _ hm) (hcanon' _ hm') fun path => ?_)
          simpa [hl, hl'] using hchild path
    | _ => cases hnode
  | _ =>
    intro w _ _ hsame
    have hnode := hsame []
    cases w <;> simp_all [Value.nodeAt, Value.node]

/-- There is one canonical value for what values denote. -/
theorem canon_eq_iff {v w : Value} : canon cmp v = canon cmp w ↔ Same v w := by
  constructor
  · intro h path
    rw [← @nodeAt_canon cmp, h, nodeAt_canon]
  · intro h
    refine eq_of_same (canon_canon v) (canon_canon w) fun path => ?_
    rw [nodeAt_canon, nodeAt_canon, h path]

end Canon

/-! ## Depth -/

theorem depthItems_le {items : List Value} {v : Value} (h : v ∈ items) : 1 + depth v ≤ depthItems items := by
  induction items with
  | nil => cases h
  | cons w items ih =>
    rw [depthItems]
    rcases List.mem_cons.1 h with rfl | h
    · exact le_max_left _ _
    · exact (ih h).trans (le_max_right _ _)

theorem depthMembers_le {members : List (String × Value)} {m : String × Value} (h : m ∈ members) :
    1 + depth m.2 ≤ depthMembers members := by
  induction members with
  | nil => cases h
  | cons w members ih =>
    obtain ⟨k, v⟩ := w
    rw [depthMembers]
    rcases List.mem_cons.1 h with rfl | h
    · exact le_max_left _ _
    · exact (ih h).trans (le_max_right _ _)

theorem one_le_depthItems (items : List Value) : 1 ≤ depthItems items := by
  cases items with
  | nil => exact le_rfl
  | cons v items => exact le_trans (by omega) (le_max_left _ _)

theorem one_le_depthMembers (members : List (String × Value)) : 1 ≤ depthMembers members := by
  cases members with
  | nil => exact le_rfl
  | cons m members => exact le_trans (by omega) (le_max_left _ _)

/-- The depth of an array is that of its deepest item and one more. -/
theorem depthItems_eq (items : List Value) :
    depthItems items = 1 ∨ ∃ (i : Nat) (v : Value), items[i]? = some v ∧ depthItems items = 1 + depth v := by
  induction items with
  | nil => exact .inl rfl
  | cons v items ih =>
    rw [depthItems]
    rcases le_total (depthItems items) (1 + depth v) with hle | hle
    · exact .inr ⟨0, v, rfl, max_eq_left hle⟩
    · rw [max_eq_right hle]
      refine ih.imp_right fun ⟨i, w, hi, hw⟩ => ⟨i + 1, w, hi, hw⟩

theorem depthMembers_eq (members : List (String × Value)) :
    depthMembers members = 1 ∨ ∃ m ∈ members, depthMembers members = 1 + depth m.2 := by
  induction members with
  | nil => exact .inl rfl
  | cons m members ih =>
    obtain ⟨k, v⟩ := m
    rw [depthMembers]
    rcases le_total (depthMembers members) (1 + depth v) with hle | hle
    · exact .inr ⟨(k, v), List.mem_cons_self, max_eq_left hle⟩
    · rw [max_eq_right hle]
      exact ih.imp_right fun ⟨m, hm, hdepth⟩ => ⟨m, List.mem_cons_of_mem _ hm, hdepth⟩

theorem depth_child {v w : Value} {key : Key} (h : v.child key = some w) : 1 + depth w ≤ depth v := by
  cases v with
  | arr items =>
    cases key with
    | name k => cases h
    | index i => exact depthItems_le (List.mem_of_getElem? h)
  | obj members =>
    cases key with
    | name k => exact depthMembers_le (mem_of_lookup h)
    | index i => cases h
  | _ => cases key <;> cases h

theorem container_le_depth (v : Value) : (if v.node.isContainer then 1 else 0) ≤ depth v := by
  cases v with
  | arr items => exact one_le_depthItems items
  | obj members => exact one_le_depthMembers members
  | _ => exact Nat.zero_le _

theorem Nests.le_depth {v : Value} {n : Nat} (h : Nests v n) : n ≤ depth v := by
  obtain ⟨path, node, hnode, rfl⟩ := h
  induction path generalizing v with
  | nil =>
    obtain rfl := Option.some.inj hnode
    rw [List.length_nil, Nat.zero_add]
    exact container_le_depth v
  | cons key path ih =>
    obtain ⟨w, hw, hnode⟩ := Option.bind_eq_some_iff.1 hnode
    have hchild := depth_child hw
    have hrest := ih hnode
    rw [List.length_cons]
    omega

theorem Nests.of_child {v w : Value} {key : Key} {n : Nat} (hc : v.child key = some w) (h : Nests w n) :
    Nests v (1 + n) := by
  obtain ⟨path, node, hnode, rfl⟩ := h
  refine ⟨key :: path, node, ?_, by rw [List.length_cons]; omega⟩
  rw [Value.nodeAt, hc]
  exact hnode

section Canon

variable {cmp : String → String → Ordering} [Std.TransCmp cmp] [Std.LawfulEqCmp cmp]

theorem nests_depth : ∀ {v : Value}, canon cmp v = v → Nests v (depth v) := by
  intro v
  induction v using Value.induct with
  | arr items ih =>
    intro hv
    rw [depth]
    rcases depthItems_eq items with hone | ⟨i, w, hi, hdepth⟩
    · exact ⟨[], .arr items.length, rfl, hone⟩
    · have hmem := List.mem_of_getElem? hi
      rw [hdepth]
      exact @Nests.of_child _ _ (.index i) _ hi (ih w hmem (canon_items hv w hmem))
  | obj members ih =>
    intro hv
    obtain ⟨hsorted, hcanon⟩ := canon_members hv
    rw [depth]
    rcases depthMembers_eq members with hone | ⟨m, hm, hdepth⟩
    · exact ⟨[], .obj, rfl, hone⟩
    · rw [hdepth]
      exact @Nests.of_child _ _ (.name m.1) _ (lookup_of_mem (nodup_of_sorted hsorted) hm)
        (ih m hm (hcanon m hm))
  | _ => exact fun _ => ⟨[], _, rfl, rfl⟩

theorem nests_canon {v : Value} {n : Nat} : Nests (canon cmp v) n ↔ Nests v n := by
  simp only [Nests, nodeAt_canon]

/-- The depth of what a value denotes is the largest number of containers on a path. -/
theorem isGreatest_depth (v : Value) : IsGreatest {n | Nests v n} (depth (canon cmp v)) := by
  constructor
  · exact nests_canon.1 (nests_depth (canon_canon v))
  · intro n hn
    exact (nests_canon.2 hn).le_depth

/-- Members that a later one of their name replaces can only add to the depth. -/
theorem depth_canon_le (v : Value) : depth (canon cmp v) ≤ depth v :=
  (isGreatest_depth v).1.le_depth

end Canon

end Json
