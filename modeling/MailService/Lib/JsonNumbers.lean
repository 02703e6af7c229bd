import MailService.Lib.JsonDecode
/-!
# Numbers of `jsonb`

`jsonb` keeps a number as a `numeric` and prints that: without an exponent, with as many
digits after the point as the literal asks for, and without the sign of a zero. A literal
out of range is refused. Runs of digits come back as they are.
-/
open Text

namespace Json

/-! ## Printing a literal -/

structure Literal where
  negative : Bool
  whole : List Char
  fraction : List Char
  exponent : Int

def digitsNat (cs : List Char) : Nat := cs.foldl (fun n c => 10 * n + (c.toNat - '0'.toNat)) 0

def readExponent : List Char → Int
  | 'e' :: '+' :: cs | 'E' :: '+' :: cs => digitsNat cs
  | 'e' :: '-' :: cs | 'E' :: '-' :: cs => -digitsNat cs
  | 'e' :: cs | 'E' :: cs => digitsNat cs
  | _ => 0

/-- The digits after a point, and what follows them. -/
def readFraction : List Char → List Char × List Char
  | '.' :: cs => (cs.takeWhile Char.isDigit, cs.dropWhile Char.isDigit)
  | cs => ([], cs)

def readLiteral (cs : List Char) : Literal :=
  let unsigned := cs.dropWhile (· = '-')
  let fraction := readFraction (unsigned.dropWhile Char.isDigit)
  ⟨cs.head? = some '-', unsigned.takeWhile Char.isDigit, fraction.1, readExponent fraction.2⟩

/-- The digits before and after the point once the exponent has moved it. -/
def Literal.shifted (l : Literal) : List Char × List Char :=
  match l.exponent with
  -- to the right: digits of the fraction move over, and zeros where it has no more
  | .ofNat places =>
    (l.whole ++ l.fraction.take places ++ List.replicate (places - l.fraction.length) '0',
      l.fraction.drop places)
  -- to the left: the last digits of the whole part become the first of the fraction
  | .negSucc places =>
    let kept := l.whole.length - (places + 1)
    (l.whole.take kept, List.replicate (places + 1 - l.whole.length) '0' ++ l.whole.drop kept ++ l.fraction)

/-- The limits of `numeric_in`: the exponent, the digits before the point and those after it. -/
def maxExponent : Nat := 1073741823

def maxWhole : Nat := 131072

def maxFraction : Nat := 16383

/-- A number as it is printed: the digits before the point have no leading zero. -/
def printNumber (negative : Bool) (whole fraction : List Char) : List Char :=
  (if negative && (whole ++ fraction).any (· ≠ '0') then ['-'] else []) ++
    ((if whole.isEmpty then ['0'] else whole) ++ (if fraction.isEmpty then [] else '.' :: fraction))

/-- The text of a literal's `numeric`. -/
def numericText (literal : List Char) : Option (List Char) :=
  let l := readLiteral literal
  let whole := l.shifted.1.dropWhile (· = '0')
  if l.exponent.natAbs < maxExponent ∧ whole.length ≤ maxWhole ∧ l.shifted.2.length ≤ maxFraction then
    some (printNumber l.negative whole l.shifted.2)
  else none

example : (["1e5", "-1.50e1", "100e-2", "1e-3", "-0.0", "12.50"].map fun s => numericText s.toList) =
    ["100000", "-15.0", "1.00", "0.001", "0.0", "12.50"].map fun s => some s.toList := by decide

mutual
/-- The value with its numbers as `jsonb` prints them. -/
def numeric : Value → Option Value
  | .num literal => (numericText literal.toList).map fun text => .num (.ofList text)
  | .arr items => (numericItems items).map .arr
  | .obj members => (numericMembers members).map .obj
  | v => some v

def numericItems : List Value → Option (List Value)
  | [] => some []
  | v :: items =>
    match numeric v, numericItems items with
    | some v, some items => some (v :: items)
    | _, _ => none

def numericMembers : List (String × Value) → Option (List (String × Value))
  | [] => some []
  | (k, v) :: members =>
    match numeric v, numericMembers members with
    | some v, some members => some ((k, v) :: members)
    | _, _ => none
end

/-! ## What is printed is a number -/

theorem isDigit_zero : Char.isDigit '0' = true := by decide

theorem numberChar_of_isDigit {c : Char} (h : c.isDigit = true) : numberChar c = true := by
  simp [numberChar, h]

theorem all_isDigit_takeWhile (cs : List Char) : ∀ c ∈ cs.takeWhile Char.isDigit, c.isDigit = true :=
  fun _ hc => List.mem_takeWhile_imp hc

theorem readFraction_digits (cs : List Char) : ∀ c ∈ (readFraction cs).1, c.isDigit = true := by
  unfold readFraction
  split
  · exact all_isDigit_takeWhile _
  · intro c hc
    cases hc

theorem Literal.shifted_digits {l : Literal} (hwhole : ∀ c ∈ l.whole, c.isDigit = true)
    (hfraction : ∀ c ∈ l.fraction, c.isDigit = true) :
    (∀ c ∈ l.shifted.1, c.isDigit = true) ∧ ∀ c ∈ l.shifted.2, c.isDigit = true := by
  have hzeros : ∀ n, ∀ c ∈ List.replicate n '0', c.isDigit = true := fun n c hc =>
    (List.eq_of_mem_replicate hc).symm ▸ isDigit_zero
  unfold shifted
  split
  · refine ⟨fun c hc => ?_, fun c hc => hfraction c (List.mem_of_mem_drop hc)⟩
    rcases List.mem_append.1 hc with hc | hc
    · rcases List.mem_append.1 hc with hc | hc
      · exact hwhole c hc
      · exact hfraction c (List.mem_of_mem_take hc)
    · exact hzeros _ c hc
  · refine ⟨fun c hc => hwhole c (List.mem_of_mem_take hc), fun c hc => ?_⟩
    rcases List.mem_append.1 hc with hc | hc
    · rcases List.mem_append.1 hc with hc | hc
      · exact hzeros _ c hc
      · exact hwhole c (List.mem_of_mem_drop hc)
    · exact hfraction c hc

theorem validFraction_print {fraction : List Char} (h : ∀ c ∈ fraction, c.isDigit = true) :
    validFraction (if fraction.isEmpty then [] else '.' :: fraction) = true := by
  cases fraction with
  | nil => rfl
  | cons d ds =>
    have htake : (d :: ds).takeWhile Char.isDigit = d :: ds := List.takeWhile_eq_self_iff.2 h
    have hdrop : (d :: ds).dropWhile Char.isDigit = [] := List.dropWhile_eq_nil_iff.2 h
    simp only [List.isEmpty_cons, Bool.false_eq_true, if_false, validFraction, htake, hdrop]
    rfl

/-- Digits without a leading zero, or a zero, and perhaps a fraction. -/
theorem validUnsigned_print {whole fraction : List Char} (hwhole : ∀ c ∈ whole, c.isDigit = true)
    (hzero : whole.head? ≠ some '0') (hfraction : ∀ c ∈ fraction, c.isDigit = true) :
    validUnsigned ((if whole.isEmpty then ['0'] else whole) ++
      (if fraction.isEmpty then [] else '.' :: fraction)) =
      true := by
  have hpoint : ∀ c ∈ (if fraction.isEmpty then [] else '.' :: fraction).head?, c.isDigit = false := by
    cases fraction with
    | nil => simp
    | cons d ds =>
      rintro c hc
      obtain rfl := Option.mem_some_iff.1 hc
      decide
  have hsplit : ∀ digits : List Char, (∀ c ∈ digits, c.isDigit = true) →
      (digits ++ (if fraction.isEmpty then [] else '.' :: fraction)).takeWhile Char.isDigit = digits ∧
      (digits ++ (if fraction.isEmpty then [] else '.' :: fraction)).dropWhile Char.isDigit =
        if fraction.isEmpty then [] else '.' :: fraction := by
    intro digits hdigits
    generalize (if fraction.isEmpty then [] else '.' :: fraction) = rest at hpoint
    rw [List.takeWhile_append_of_pos hdigits, List.dropWhile_append_of_pos hdigits]
    cases rest with
    | nil => exact ⟨List.append_nil _, rfl⟩
    | cons c cs =>
      have hc : c.isDigit = false := hpoint c rfl
      exact ⟨by rw [List.takeWhile_cons_of_neg (by simp [hc]), List.append_nil],
        List.dropWhile_cons_of_neg (by simp [hc])⟩
  cases whole with
  | nil =>
    obtain ⟨htake, hdrop⟩ := hsplit ['0'] (by simp [isDigit_zero])
    simp only [List.isEmpty_nil, if_true, validUnsigned, htake, hdrop]
    exact validFraction_print hfraction
  | cons c cs =>
    obtain ⟨htake, hdrop⟩ := hsplit (c :: cs) hwhole
    have hc : c ≠ '0' := fun heq => hzero (by rw [heq]; rfl)
    simp only [List.isEmpty_cons, Bool.false_eq_true, if_false, validUnsigned, htake, hdrop]
    split
    · rename_i hnil
      cases hnil
    · rename_i hone
      exact absurd (List.cons.inj hone).1 hc
    · rename_i heq
      obtain rfl := (List.cons.inj heq).1
      simp only [ne_eq, hc, not_false_eq_true, decide_true, Bool.true_and]
      exact validFraction_print hfraction

theorem validNumber_print (negative : Bool) {whole fraction : List Char}
    (hwhole : ∀ c ∈ whole, c.isDigit = true) (hzero : whole.head? ≠ some '0')
    (hfraction : ∀ c ∈ fraction, c.isDigit = true) :
    validNumber (printNumber negative whole fraction) = true := by
  have hunsigned := validUnsigned_print hwhole hzero hfraction
  have hchars : ((if whole.isEmpty then ['0'] else whole) ++
    (if fraction.isEmpty then [] else '.' :: fraction)).all
      numberChar = true := by
    have hdigits : ∀ cs : List Char, (∀ c ∈ cs, c.isDigit = true) → cs.all numberChar = true := fun cs hcs =>
      List.all_eq_true.2 fun c hc => numberChar_of_isDigit (hcs c hc)
    rw [List.all_append, Bool.and_eq_true]
    refine ⟨?_, ?_⟩
    · split
      · decide
      · exact hdigits whole hwhole
    · split
      · rfl
      · rw [List.all_cons, hdigits fraction hfraction]
        decide
  unfold printNumber
  generalize (if whole.isEmpty then ['0'] else whole) ++
    (if fraction.isEmpty then [] else '.' :: fraction) = text at *
  split
  · have hminus : numberChar '-' = true := by decide
    simp only [List.singleton_append, validNumber, List.all_cons, hminus, hchars,
      Bool.and_self, Bool.true_and]
    exact hunsigned
  · rw [List.nil_append, validNumber, hchars, Bool.true_and]
    · exact hunsigned
    · -- a number without a sign begins with a digit
      rintro cs rfl
      exact absurd hunsigned (by simp [validUnsigned])

theorem validNumber_numericText {literal text : List Char} (h : numericText literal = some text) :
    validNumber text = true := by
  simp only [numericText, Option.ite_none_right_eq_some, Option.some.injEq] at h
  obtain ⟨-, rfl⟩ := h
  obtain ⟨hwhole, hfraction⟩ := @Literal.shifted_digits (readLiteral literal) (all_isDigit_takeWhile _)
    (readFraction_digits _)
  refine validNumber_print _ (fun c hc => hwhole c ((List.dropWhile_sublist _).subset hc))
    (fun hhead => ?_) hfraction
  have hne := List.head?_dropWhile_not (· = '0') (readLiteral literal).shifted.1
  rw [hhead] at hne
  simp at hne

mutual
theorem wf_numeric : ∀ {v v' : Value}, numeric v = some v' → wf v = true → wf v' = true
  | .num literal, v', h, _ => by
    simp only [numeric, Option.map_eq_some_iff] at h
    obtain ⟨text, htext, rfl⟩ := h
    rw [wf, String.toList_ofList]
    exact validNumber_numericText htext
  | .arr items, v', h, hwf => by
    simp only [numeric, Option.map_eq_some_iff] at h
    obtain ⟨items', hitems, rfl⟩ := h
    exact wf_numericItems hitems hwf
  | .obj members, v', h, hwf => by
    simp only [numeric, Option.map_eq_some_iff] at h
    obtain ⟨members', hmembers, rfl⟩ := h
    exact wf_numericMembers hmembers hwf
  | .null, v', h, _ => by cases h; rfl
  | .bool _, v', h, _ => by cases h; rfl
  | .str _, v', h, _ => by cases h; rfl

theorem wf_numericItems :
    ∀ {items items' : List Value}, numericItems items = some items' → wfItems items = true →
    wfItems items' = true
  | [], items', h, _ => by cases h; rfl
  | v :: items, items', h, hwf => by
    simp only [wfItems, Bool.and_eq_true] at hwf
    simp only [numericItems] at h
    split at h
    · rename_i v₁ items₁ hv hitems
      cases h
      rw [wfItems, wf_numeric hv hwf.1, wf_numericItems hitems hwf.2]
      rfl
    · cases h

theorem wf_numericMembers :
    ∀ {members members' : List (String × Value)}, numericMembers members = some members' →
    wfMembers members = true → wfMembers members' = true
  | [], members', h, _ => by cases h; rfl
  | (k, v) :: members, members', h, hwf => by
    simp only [wfMembers, Bool.and_eq_true] at hwf
    simp only [numericMembers] at h
    split at h
    · rename_i v₁ members₁ hv hmembers
      cases h
      rw [wfMembers, wf_numeric hv hwf.1, wf_numericMembers hmembers hwf.2]
      rfl
    · cases h
end

/-! ## Values that are printed as they are -/

theorem readLiteral_digits {cs : List Char} (h : ∀ c ∈ cs, c.isDigit = true) :
    readLiteral cs = ⟨false, cs, [], 0⟩ := by
  have hsign : ∀ c ∈ cs, c ≠ '-' := fun c hc heq => absurd (heq ▸ h c hc) (by decide)
  have hhead : cs.head? ≠ some '-' := fun hhead => hsign _ (List.mem_of_mem_head? hhead) rfl
  have hunsigned : cs.dropWhile (· = '-') = cs := by
    cases cs with
    | nil => rfl
    | cons c cs => exact List.dropWhile_cons_of_neg (by simpa using hsign c List.mem_cons_self)
  simp only [readLiteral, hunsigned, List.takeWhile_eq_self_iff.2 h,
    List.dropWhile_eq_nil_iff.2 h, readFraction, readExponent, hhead, decide_false]

/-- A natural number comes back as it is, or has too many digits. -/
theorem numericText_toString (n : Nat) : numericText (toString n).toList =
    if ((toString n).toList.dropWhile (· = '0')).length ≤ maxWhole then
      some (toString n).toList else none := by
  rw [toList_toString_nat]
  have hdigits : ∀ c ∈ Nat.toDigits 10 n, c.isDigit = true := fun c hc => isDigit_of_mem_toDigits hc
  have hprint : printNumber false ((Nat.toDigits 10 n).dropWhile (· = '0')) [] = Nat.toDigits 10 n := by
    by_cases hzero : n = 0
    · subst hzero
      rfl
    · obtain ⟨c, cs, hcs, hne⟩ := head_toDigits hzero
      rw [hcs, List.dropWhile_cons_of_neg (by simpa using hne)]
      simp [printNumber]
  have hlimits : (0 : Int).natAbs < maxExponent ∧ ([] : List Char).length ≤ maxFraction := by decide
  simp only [numericText, readLiteral_digits hdigits, Literal.shifted, List.take_nil,
    List.append_nil, List.drop_nil, List.length_nil, Nat.sub_zero, List.replicate_zero, hprint,
    hlimits.1, Nat.zero_le, true_and, and_true]

theorem numeric_natural {n : Nat} {v : Value} (h : numeric (.num (toString n)) = some v) :
    v = .num (toString n) := by
  simp only [numeric, numericText_toString, Option.map_eq_some_iff, Option.ite_none_right_eq_some,
    Option.some.injEq] at h
  obtain ⟨text, ⟨-, rfl⟩, rfl⟩ := h
  rw [String.ofList_toList]

theorem numeric_natural_eq {n : Nat} (h : (toString n).toList.length ≤ maxWhole) :
    numeric (.num (toString n)) = some (.num (toString n)) := by
  have hlength : ((toString n).toList.dropWhile (· = '0')).length ≤ (toString n).toList.length :=
    (List.dropWhile_sublist _).length_le
  rw [numeric, numericText_toString, if_pos (hlength.trans h), Option.map_some, String.ofList_toList]

theorem numericMembers_eq_self {members : List (String × Value)} (h : ∀ m ∈ members, numeric m.2 = some m.2) :
    numericMembers members = some members := by
  induction members with
  | nil => rfl
  | cons m members ih =>
    obtain ⟨k, v⟩ := m
    have hv : numeric v = some v := h (k, v) List.mem_cons_self
    simp only [numericMembers, hv, ih fun m hm => h m (List.mem_cons_of_mem _ hm)]

/-- Members that either come back as they are or are refused. -/
theorem numericMembers_stable {members members' : List (String × Value)}
    (hm : numericMembers members = some members')
    (h : ∀ m ∈ members, ∀ v, numeric m.2 = some v → v = m.2) : members' = members := by
  induction members generalizing members' with
  | nil =>
    cases hm
    rfl
  | cons m members ih =>
    obtain ⟨k, v⟩ := m
    simp only [numericMembers] at hm
    split at hm
    · rename_i v₁ members₁ hv hmembers
      cases hm
      rw [h (k, v) List.mem_cons_self v₁ hv, ih hmembers fun m hm => h m (List.mem_cons_of_mem _ hm)]
    · cases hm

end Json
