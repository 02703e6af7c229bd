import MailService.Lib.JsonRoundTrip
import Mathlib.Data.Nat.Digits.Defs
/-!
# Decoding into a struct

`json.Decoder.Decode` into a struct: each member of the object goes to the field
with its name, or else to one whose name differs only in case; a field that
appears more than once keeps its last value, and `null` leaves a scalar field as
it was.
-/
open Text

namespace Json

/-- One representative for the characters that `encoding/json` folds together. -/
def foldChar (c : Char) : Char :=
  if c = '\u017f' then 'S' else if c = '\u212a' then 'K' else c.toUpper

def foldName (s : String) : List Char := s.toList.map foldChar

/-- The field a member's name selects. -/
def fieldNamed (names : List String) (key : String) : Option String :=
  if key ∈ names then some key else names.find? fun name => foldName name = foldName key

/-- `Decode`: the members of a text's first value with the fields they go to, and what
follows the value. `strict` is `DisallowUnknownFields`. -/
def decodeMembers (names : List String) (strict : Bool) (s : String) :
    Option (List (String × String) × List Char) :=
  match parseValue (fuelFor s.toList) s.toList with
  | some (.null, rest) => some ([], rest)
  | _ =>
    match rawMembers s with
    | none => none
    | some (members, rest) =>
      if strict && members.any fun (key, _) => (fieldNamed names key).isNone then none
      else some (members.filterMap fun (key, raw) => (fieldNamed names key).map (·, raw), rest)

/-- A second `Decode` finds the end of the text. -/
def atEOF (rest : List Char) : Bool := skip rest = []

/-- The members of a text that is one value. -/
def structMembers (names : List String) (strict : Bool) (s : String) : Option (List (String × String)) :=
  match decodeMembers names strict s with
  | some (members, rest) => if atEOF rest then some members else none
  | none => none

/-- The values of one field in order, each decoded by `f` unless it is `null`. -/
def fieldValues {α : Type} (f : Value → Option α) (name : String) : List (String × String) → Option (List α)
  | [] => some []
  | (key, raw) :: members =>
    if key ≠ name then fieldValues f name members
    else match parse raw with
    | none => none
    | some .null => fieldValues f name members
    | some v =>
      match f v, fieldValues f name members with
      | some a, some as => some (a :: as)
      | _, _ => none

/-- A field's value, `zero` if the document does not set it. -/
def field {α : Type} (f : Value → Option α) (zero : α) (name : String)
    (members : List (String × String)) : Option α :=
  (fieldValues f name members).map fun values => values.getLast?.getD zero

/-- A `json.RawMessage` field. -/
def rawField (name : String) (members : List (String × String)) : Option String :=
  ((members.filter (·.1 = name)).getLast?).map Prod.snd

/-- A pointer field, which `null` sets to nil. -/
def pointerField {α : Type} (f : Value → Option α) (name : String) (members : List (String × String)) :
    Option (Option α) :=
  let values := (members.filter (·.1 = name)).mapM fun member =>
    match parse member.2 with
    | none => none
    | some .null => some none
    | some v => (f v).map some
  values.map fun values => values.getLast?.join

def asString : Value → Option String
  | .str s => some s
  | _ => none

def digitsValue (cs : List Char) : Option Nat :=
  if cs ≠ [] ∧ cs.all Char.isDigit then
    some (cs.foldl (fun n c => 10 * n + (c.toNat - '0'.toNat)) 0) else none

/-- An unsigned integer below `bound`. -/
def asUint (bound : Nat) : Value → Option Nat
  | .num literal => (digitsValue literal.toList).filter (· < bound)
  | _ => none

/-! ## Decoding what an encoder wrote -/

section Members

variable {names : List String} {members : List (String × Value)} {name : String} {α : Type}
  {f : Value → Option α}

/-- The members of an object's text that go to a field of the struct. -/
def fieldTexts (st : Style) (names : List String) (members : List (String × Value)) :
    List (String × String) :=
  members.filterMap fun m => (fieldNamed names m.1).map (·, marshal st m.2)

theorem structMembers_eq_some {strict : Bool} {s : String} {texts : List (String × String)} :
    structMembers names strict s = some texts ↔
      ∃ rest, decodeMembers names strict s = some (texts, rest) ∧ atEOF rest = true := by
  unfold structMembers
  split
  · rename_i members' rest hdecode
    simp [hdecode, and_comm]
  · rename_i hnone
    simp [hnone]

/-- Nothing follows what an encoder wrote. -/
theorem decodeMembers_marshal (st : Style) (names : List String) (h : wfMembers members = true) :
    decodeMembers names false (marshal st (.obj members)) = some (fieldTexts st names members, []) := by
  have hparse := parseValue_marshal st (v := .obj members) (by simpa [wf] using h)
  simp only [decodeMembers, hparse, rawMembers_marshal st h, Bool.false_and, Bool.false_eq_true,
    if_false, fieldTexts, List.filterMap_map]
  rfl

theorem structMembers_marshal (st : Style) (names : List String) (h : wfMembers members = true) :
    structMembers names false (marshal st (.obj members)) = some (fieldTexts st names members) :=
  structMembers_eq_some.2 ⟨[], decodeMembers_marshal st names h, rfl⟩

theorem fieldValues_absent (st : Style) (h : ∀ m ∈ members, fieldNamed names m.1 ≠ some name) :
    fieldValues f name (fieldTexts st names members) = some [] := by
  induction members with
  | nil => rfl
  | cons m members ih =>
    have hm := h m (by simp)
    have ih := ih fun m hm => h m (by simp [hm])
    rw [fieldTexts, List.filterMap_cons]
    cases hk : fieldNamed names m.1 with
    | none => exact ih
    | some key =>
      have hne : key ≠ name := fun he => hm (by rw [hk, he])
      simp only [Option.map_some, fieldValues, ne_eq, hne, not_false_eq_true, if_true]
      exact ih

/-- The one member that goes to a field gives its value. -/
theorem field_marshal (st : Style) {zero a : α} {v : Value} (hwf : wfMembers members = true)
    (hkeys : (members.map Prod.fst).Nodup) (hnames : name ∈ names) (hmem : (name, v) ∈ members)
    (hone : ∀ m ∈ members, fieldNamed names m.1 = some name → m.1 = name) (hnull : v ≠ .null)
    (hf : f v = some a) :
    field f zero name (fieldTexts st names members) = some a := by
  have hname : fieldNamed names name = some name := by simp [fieldNamed, hnames]
  have hvalues : fieldValues f name (fieldTexts st names members) = some [a] := by
    induction members with
    | nil => cases hmem
    | cons m members ih =>
      obtain ⟨k, w⟩ := m
      simp only [wfMembers, Bool.and_eq_true] at hwf
      rw [List.map_cons, List.nodup_cons] at hkeys
      rw [fieldTexts, List.filterMap_cons]
      by_cases hk : k = name
      · subst hk
        -- the name does not come again
        have hv : v = w := by
          rcases List.mem_cons.1 hmem with he | he
          · exact (Prod.mk.inj he).2
          · exact absurd (List.mem_map_of_mem he) hkeys.1
        subst hv
        have hrest : fieldValues f k (fieldTexts st names members) = some [] :=
          fieldValues_absent st fun m hm he => by
            have hfst : m.1 ∈ members.map Prod.fst := List.mem_map_of_mem hm
            rw [hone m (by simp [hm]) he] at hfst
            exact hkeys.1 hfst
        rw [fieldTexts] at hrest
        simp only [hname, Option.map_some, fieldValues, ne_eq, not_true_eq_false, if_false,
          parse_marshal st hwf.1, hf, hrest]
      · have hrest := ih hwf.2 hkeys.2
          ((List.mem_cons.1 hmem).resolve_left fun he => hk (Prod.mk.inj he).1.symm)
          fun m hm => hone m (by simp [hm])
        cases hkey : fieldNamed names k with
        | none => exact hrest
        | some key =>
          have hne : key ≠ name := fun he => hk (hone (k, w) (by simp) (by rw [hkey, he]))
          simp only [Option.map_some, fieldValues, ne_eq, hne, not_false_eq_true, if_true]
          exact hrest
  simp [field, hvalues]

theorem field_absent (st : Style) (zero : α) (h : ∀ m ∈ members, fieldNamed names m.1 ≠ some name) :
    field f zero name (fieldTexts st names members) = some zero := by
  simp [field, fieldValues_absent st h]

/-! An object all of whose members are fields of the struct. -/

section Known

variable (hknown : ∀ m ∈ members, m.1 ∈ names)

include hknown

theorem fieldTexts_of_known (st : Style) :
    fieldTexts st names members = members.map fun m => (m.1, marshal st m.2) := by
  rw [fieldTexts, ← List.filterMap_eq_map]
  refine List.filterMap_congr fun m hm => ?_
  simp [fieldNamed, hknown m hm]

theorem structMembers_of_known (st : Style) (strict : Bool) (h : wfMembers members = true) :
    structMembers names strict (marshal st (.obj members)) = some (fieldTexts st names members) := by
  refine structMembers_eq_some.2 ⟨[], ?_, rfl⟩
  have hparse := parseValue_marshal st (v := .obj members) (by simpa [wf] using h)
  simp only [decodeMembers, hparse, rawMembers_marshal st h]
  rw [if_neg]
  · simp only [fieldTexts, List.filterMap_map]
    rfl
  · -- no member is unknown
    simp only [List.any_map, Bool.and_eq_true, List.any_eq_true, Function.comp_apply,
      Option.isNone_iff_eq_none, not_and, not_exists]
    intro _ m hm
    simp [fieldNamed, hknown m hm]

/-- The texts that go to a field of a struct when each name comes once. -/
theorem filter_fieldTexts (st : Style) (hkeys : (members.map Prod.fst).Nodup) {v : Value}
    (hmem : (name, v) ∈ members) :
    (fieldTexts st names members).filter (·.1 = name) = [(name, marshal st v)] := by
  rw [fieldTexts_of_known hknown st]
  obtain ⟨before, after, rfl⟩ := List.append_of_mem hmem
  simp only [List.map_append, List.map_cons, List.nodup_append, List.nodup_cons] at hkeys
  have hbefore : ∀ m ∈ before, m.1 ≠ name := fun m hm he =>
    hkeys.2.2 m.1 (List.mem_map_of_mem hm) name List.mem_cons_self he
  have hafter : ∀ m ∈ after, m.1 ≠ name := fun m hm he => hkeys.2.1.1 (he ▸ List.mem_map_of_mem hm)
  simp only [List.map_append, List.map_cons, List.filter_append, List.filter_map]
  rw [List.filter_eq_nil_iff.2 (by simpa using hbefore), List.filter_cons_of_pos (by simp),
    List.filter_map, List.filter_eq_nil_iff.2 (by simpa using hafter)]
  rfl

theorem rawField_marshal (st : Style) (hkeys : (members.map Prod.fst).Nodup) {v : Value}
    (hmem : (name, v) ∈ members) :
    rawField name (fieldTexts st names members) = some (marshal st v) := by
  simp [rawField, filter_fieldTexts hknown st hkeys hmem]

theorem pointerField_marshal (st : Style) (hkeys : (members.map Prod.fst).Nodup) {v : Value} {a : α}
    (hmem : (name, v) ∈ members) (hwf : wf v = true) (hnull : v ≠ .null) (hf : f v = some a) :
    pointerField f name (fieldTexts st names members) = some (some a) := by
  have hvalue : (match parse (marshal st v) with
      | none => none
      | some .null => some none
      | some v => (f v).map some : Option (Option α)) = some (some a) := by
    rw [parse_marshal st hwf]
    cases v <;> simp_all
  simp only [pointerField, filter_fieldTexts hknown st hkeys hmem, List.mapM_cons, List.mapM_nil, hvalue]
  rfl

theorem pointerField_absent (st : Style) (h : ∀ m ∈ members, m.1 ≠ name) :
    pointerField f name (fieldTexts st names members) = some none := by
  have hnone : (fieldTexts st names members).filter (·.1 = name) = [] := by
    rw [fieldTexts_of_known hknown st, List.filter_eq_nil_iff]
    intro text htext
    obtain ⟨m, hm, rfl⟩ := List.mem_map.1 htext
    simpa using h m hm
  simp only [pointerField, hnone, List.mapM_nil]
  rfl

end Known

end Members

/-! ## Natural numbers -/

theorem isDigit_of_mem_toDigits {n : Nat} {c : Char} (h : c ∈ Nat.toDigits 10 n) : c.isDigit = true :=
  Nat.isDigit_of_mem_toDigits (by omega) (by omega) h

/-- The decimal digits of a number other than 0 do not begin with 0. -/
theorem head_toDigits {n : Nat} (h : n ≠ 0) : ∃ c cs, Nat.toDigits 10 n = c :: cs ∧ c ≠ '0' := by
  induction n using Nat.strongRecOn with
  | ind n ih =>
    by_cases hn : n < 10
    · refine ⟨_, _, Nat.toDigits_of_lt_base hn, ?_⟩
      have : ∀ d : Fin 10, d.val ≠ 0 → Nat.digitChar d ≠ '0' := by decide
      exact this ⟨n, hn⟩ h
    · obtain ⟨c, cs, hc, h0⟩ := ih (n / 10) (by omega) (by omega)
      exact ⟨c, cs ++ [Nat.digitChar
        (n % 10)], by rw [Nat.toDigits_of_base_le (by omega) (by omega), hc]; rfl, h0⟩

theorem validNumber_toString (n : Nat) : validNumber (toString n).toList = true := by
  rw [toList_toString_nat]
  have hall : ∀ c ∈ Nat.toDigits 10 n, c.isDigit = true := fun c hc => isDigit_of_mem_toDigits hc
  have hunsigned : validUnsigned (Nat.toDigits 10 n) = true := by
    have htake : (Nat.toDigits 10 n).takeWhile Char.isDigit = Nat.toDigits 10 n :=
      List.takeWhile_eq_self_iff.2 hall
    have hdrop : (Nat.toDigits 10 n).dropWhile Char.isDigit = [] := List.dropWhile_eq_nil_iff.2 hall
    simp only [validUnsigned, htake, hdrop]
    by_cases h0 : n = 0
    · subst h0; rfl
    · obtain ⟨c, cs, hc, hne⟩ := head_toDigits h0
      rw [hc]
      split
      · simp_all
      · simp [validFraction, validExponent]
      · rename_i hcons
        obtain ⟨rfl, -⟩ := List.cons.inj hcons
        simp [hne, validFraction, validExponent]
  have hchars : (Nat.toDigits 10 n).all numberChar = true := by
    rw [List.all_eq_true]
    exact fun c hc => by simp [numberChar, hall c hc]
  have hsign : ∀ cs, Nat.toDigits 10 n ≠ '-' :: cs := fun cs hc =>
    absurd (hall '-' (by rw [hc]; simp)) (by decide)
  unfold validNumber
  rw [hchars, Bool.true_and]
  split
  · rename_i cs hc
    exact absurd hc (hsign cs)
  · exact hunsigned

/-- A number written in decimal is read back. -/
theorem asUint_toString {n bound : Nat} (h : n < bound) : asUint bound (.num (toString n)) = some n := by
  have hall : (Nat.toDigits 10 n).all Char.isDigit = true := by
    rw [List.all_eq_true]
    exact fun c hc => isDigit_of_mem_toDigits hc
  have hvalue : digitsValue (toString n).toList = some n := by
    rw [toList_toString_nat, digitsValue, if_pos ⟨Nat.toDigits_ne_nil, hall⟩]
    exact congrArg some Nat.ofDigitChars_ten_toDigits
  simp only [asUint, hvalue, Option.filter, decide_eq_true_eq, h, if_true]

end Json
