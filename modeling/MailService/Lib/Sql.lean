import Mathlib.Logic.Function.Basic
import Mathlib.Tactic.Common
/-!
# Statements with numbered parameters

A row has a value for each column, and NULL is one of the values. A statement names
its columns in a list and takes its arguments in another: the two go together by
position. What a column does not hold as it is given, it converts or refuses.
Conditions have three values, and a CHECK constraint refuses a row only if its
condition is false.
-/

namespace Sql

inductive Value
  | null
  | text (s : String)
  | bytes (b : List UInt8)
  | int2 (n : Int16)
  | int4 (n : Int32)
  | int8 (n : Int64)
  | time (t : Nat)
  | bool (b : Bool)
  deriving DecidableEq, Repr

/-- The number in an integer column. -/
def Value.number : Value → Option Int
  | .int2 n => some n.toInt
  | .int4 n => some n.toInt
  | .int8 n => some n.toInt
  | _ => none

/-! ## Conditions -/

/-- The value of a condition; NULL is `none`. -/
abbrev Cond := Option Bool

namespace Cond

def or : Cond → Cond → Cond
  | some true, _ => some true
  | _, some true => some true
  | some false, some false => some false
  | _, _ => none

def and : Cond → Cond → Cond
  | some false, _ => some false
  | _, some false => some false
  | some true, some true => some true
  | _, _ => none

def not : Cond → Cond
  | some b => some !b
  | none => none

/-- A chain of `AND`. -/
def all (conditions : List Cond) : Cond := conditions.foldr and (some true)

/-- How a CHECK constraint takes its condition. -/
def Passes (c : Cond) : Prop := c ≠ some false

instance (c : Cond) : Decidable c.Passes := inferInstanceAs (Decidable (_ ≠ _))

@[simp] theorem or_some (a b : Bool) : or (some a) (some b) = some (a || b) := by cases a <;> cases b <;> rfl

@[simp] theorem or_true_left (c : Cond) : or (some true) c = some true := rfl

@[simp] theorem or_true_right (c : Cond) : or c (some true) = some true := by rcases c with _ | _ | _ <;> rfl

@[simp] theorem and_some (a b : Bool) :
    and (some a) (some b) = some (a && b) := by cases a <;> cases b <;> rfl

@[simp] theorem and_false_left (c : Cond) : and (some false) c = some false := rfl

@[simp] theorem not_some (b : Bool) : not (some b) = some !b := rfl

@[simp] theorem passes_some {b : Bool} : Passes (some b) ↔ b = true := by cases b <;> simp [Passes]

end Cond

namespace Value

/-- `v IS NULL`. -/
def isNull (v : Value) : Cond := some (decide (v = .null))

/-- `v < w`. -/
def less : Value → Value → Cond
  | .int2 a, .int2 b => some (decide (a.toInt < b.toInt))
  | .int4 a, .int4 b => some (decide (a.toInt < b.toInt))
  | .int8 a, .int8 b => some (decide (a.toInt < b.toInt))
  | .time a, .time b => some (decide (a < b))
  | _, _ => none

/-- `v <= w`. -/
def atMost : Value → Value → Cond
  | .int2 a, .int2 b => some (decide (a.toInt ≤ b.toInt))
  | .int4 a, .int4 b => some (decide (a.toInt ≤ b.toInt))
  | .int8 a, .int8 b => some (decide (a.toInt ≤ b.toInt))
  | .time a, .time b => some (decide (a ≤ b))
  | _, _ => none

/-- `v IN (…)`. -/
def oneOf : Value → List String → Cond
  | .text s, options => some (decide (s ∈ options))
  | _, _ => none

/-- A condition on the text of a value. -/
def ofText (p : String → Bool) : Value → Cond
  | .text s => some (p s)
  | _ => none

/-- A condition on `octet_length(v)`. -/
def octetLength (p : Nat → Bool) : Value → Cond
  | .bytes b => some (p b.length)
  | _ => none

end Value

/-! ## Parameters -/

section Rows

variable {γ : Type} [DecidableEq γ]

abbrev Row (γ : Type) := γ → Value

def select (columns : List γ) (row : Row γ) : List Value := columns.map row

/-- `column = $n` for each column of the list. -/
def assign : List γ → List Value → Row γ → Row γ
  | c :: columns, v :: values, row => Function.update (assign columns values row) c v
  | _, _, row => row

/-- The values that the columns hold for these arguments, where each can be stored and none is missing. -/
def storeAll (store : γ → Value → Option Value) : List γ → List Value → Option (List Value)
  | c :: columns, v :: values => do
    let stored ← store c v
    let rest ← storeAll store columns values
    some (stored :: rest)
  | [], [] => some []
  | _, _ => none

variable {columns : List γ} {c : γ} {f g row : Row γ} {store : γ → Value → Option Value} {values : List Value}

/-- Arguments in the order of the columns reach their columns. -/
theorem assign_select (hc : c ∈ columns) : assign columns (select columns f) row c = f c := by
  induction columns with
  | nil => cases hc
  | cons d columns ih =>
    by_cases hd : c = d
    · subst hd
      rw [select, List.map_cons, assign, Function.update_self]
    · have hrest : c ∈ columns := (List.mem_cons.1 hc).resolve_left hd
      exact (Function.update_of_ne hd _ _).trans (ih hrest)

theorem assign_of_notMem (hc : c ∉ columns) : assign columns values row c = row c := by
  induction columns generalizing values with
  | nil => rfl
  | cons d columns ih =>
    cases values with
    | nil => rfl
    | cons v values =>
      have hd : c ≠ d := fun h => hc (h ▸ List.mem_cons_self)
      exact (Function.update_of_ne hd _ _).trans (ih fun h => hc (List.mem_cons_of_mem d h))

omit [DecidableEq γ] in
/-- Arguments in the order of the columns are stored column by column. -/
theorem storeAll_select : storeAll store columns (select columns f) = some values ↔
    ∃ g : Row γ, (∀ c ∈ columns, store c (f c) = some (g c)) ∧ values = select columns g := by
  constructor
  · intro h
    -- the row of what each column made of its own argument
    refine ⟨fun c => (store c (f c)).getD .null, ?_⟩
    induction columns generalizing values with
    | nil =>
      simp only [select, List.map_nil, storeAll, Option.some.injEq] at h
      simp [← h, select]
    | cons d columns ih =>
      simp only [select, List.map_cons, storeAll, Option.bind_eq_bind, Option.bind_eq_some_iff,
        Option.some.injEq] at h
      obtain ⟨stored, hstored, rest, hrest, rfl⟩ := h
      obtain ⟨heach, hvalues⟩ := ih hrest
      refine ⟨fun c hc => ?_, ?_⟩
      · rcases List.mem_cons.1 hc with rfl | hc
        · simp [hstored]
        · exact heach c hc
      · rw [hvalues, select, select, List.map_cons, hstored]
        rfl
  · rintro ⟨g, h, rfl⟩
    induction columns with
    | nil => rfl
    | cons d columns ih =>
      have hhead := h d List.mem_cons_self
      have hrest : storeAll store columns (columns.map f) = some (columns.map g) :=
        ih fun c hc => h c (List.mem_cons_of_mem d hc)
      simp only [select, List.map_cons, storeAll, hhead, hrest, Option.bind_eq_bind, Option.bind_some]

end Rows

end Sql
