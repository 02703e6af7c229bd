import Mathlib.Data.List.DropRight
import Mathlib.Data.String.Basic
import Mathlib.Tactic.Common
/-!
# Go strings

The string functions the service calls, on Lean strings: a `String` is valid
UTF-8 text, as protobuf and PostgreSQL guarantee, `len` counts its bytes and
`runeCount` its code points.
-/
namespace Text

/-- `len(s)`. -/
def len (s : String) : Nat := s.utf8ByteSize

/-- `utf8.RuneCountInString(s)`. -/
def runeCount (s : String) : Nat := s.length

/-- `unicode.IsSpace`: the code points with the White_Space property. -/
def isSpace (c : Char) : Bool :=
  c.toNat ∈ [0x09, 0x0a, 0x0b, 0x0c, 0x0d, 0x20, 0x85, 0xa0, 0x1680, 0x2028, 0x2029,
    0x202f, 0x205f, 0x3000] ||
    (0x2000 ≤ c.toNat && c.toNat ≤ 0x200a)

/-- `strings.TrimSpace`. -/
def trimSpace (s : String) : String :=
  .ofList ((s.toList.dropWhile isSpace).rdropWhile isSpace)

/-- `strings.ContainsAny(s, chars)`. -/
def containsAny (s : String) (chars : List Char) : Bool := s.toList.any (· ∈ chars)

/-- The text before and after the last `sep`, when there is one
(`strings.LastIndexByte`). -/
def splitLast (sep : Char) : List Char → Option (List Char × List Char)
  | [] => none
  | c :: cs =>
    match splitLast sep cs with
    | some (before, after) => some (c :: before, after)
    | none => if c = sep then some ([], cs) else none

instance neZero_sixteen : @NeZero Nat Zero.ofOfNat0 16 := ⟨by decide⟩

def hexDigit (d : Fin 16) : Char := Nat.digitChar d

/-- The value of a hexadecimal digit in either case. -/
def hexValue (c : Char) : Option (Fin 16) :=
  if '0' ≤ c ∧ c ≤ '9' then some (Fin.ofNat 16 (c.toNat - '0'.toNat))
  else if 'a' ≤ c ∧ c ≤ 'f' then some (Fin.ofNat 16 (c.toNat - 'a'.toNat + 10))
  else if 'A' ≤ c ∧ c ≤ 'F' then some (Fin.ofNat 16 (c.toNat - 'A'.toNat + 10))
  else none

theorem hexDigit_ascii : ∀ d : Fin 16, isSpace (hexDigit d) = false ∧ (hexDigit d).utf8Size = 1 := by decide

theorem hexValue_hexDigit : ∀ d : Fin 16, hexValue (hexDigit d) = some d := by decide

@[simp] theorem len_append (a b : String) : len (a ++ b) = len a + len b := String.utf8ByteSize_append

theorem len_ofList (cs : List Char) : len (.ofList cs) = String.utf8Len cs := String.utf8ByteSize_ofList cs

theorem len_eq_utf8Len (s : String) : len s = String.utf8Len s.toList := by
  rw [← len_ofList, String.ofList_toList]

theorem trimSpace_of_none_space {s : String} (h : ∀ c ∈ s.toList, isSpace c = false) : trimSpace s = s := by
  have hd : s.toList.dropWhile isSpace = s.toList := by
    cases hs : s.toList with
    | nil => rfl
    | cons c cs => simp [h c (by simp [hs])]
  rw [trimSpace, hd, List.rdropWhile_eq_self_iff.2 (fun hl => by simp [h _ (List.getLast_mem hl)]),
    String.ofList_toList]

theorem trimSpace_ne_empty {s : String} {c : Char} (hc : c ∈ s.toList) (hs : isSpace c = false) :
    trimSpace s ≠ "" := by
  intro h
  have hl : ((s.toList.dropWhile isSpace).rdropWhile isSpace) = [] := by
    rw [← String.toList_ofList (l := List.rdropWhile isSpace (s.toList.dropWhile isSpace))]
    exact congrArg String.toList h
  have hall : ∀ d ∈ s.toList.dropWhile isSpace, isSpace d = true := List.rdropWhile_eq_nil_iff.1 hl
  -- nothing is dropped at the front that is not a space, so `c` is still there
  have hmem : c ∈ s.toList.takeWhile isSpace ++ s.toList.dropWhile isSpace := by
    rwa [List.takeWhile_append_dropWhile]
  rcases List.mem_append.1 hmem with h | h
  · simp [List.mem_takeWhile_imp h] at hs
  · simp [hall c h] at hs

/-- A trimmed text does not begin with a space. -/
theorem dropWhile_of_trimSpace {s : String} (h : trimSpace s = s) :
    s.toList.dropWhile isSpace = s.toList := by
  have hlist : (s.toList.dropWhile isSpace).rdropWhile isSpace = s.toList := by
    rw [← String.toList_ofList (l := (s.toList.dropWhile isSpace).rdropWhile isSpace)]
    exact congrArg String.toList h
  have hpart := List.rdropWhile_prefix isSpace (s.toList.dropWhile isSpace)
  rw [hlist] at hpart
  exact (List.dropWhile_suffix isSpace).eq_of_length_le hpart.length_le

/-- A trimmed text stays trimmed when visible characters follow it. -/
theorem trimSpace_append {s t : String} (hs : trimSpace s = s) (hne : s ≠ "") (ht : t ≠ "")
    (hvisible : ∀ c ∈ t.toList, isSpace c = false) : trimSpace (s ++ t) = s ++ t := by
  have hfront : (s ++ t).toList.dropWhile isSpace = (s ++ t).toList := by
    have hdrop := dropWhile_of_trimSpace hs
    cases hlist : s.toList with
    | nil => exact absurd (String.toList_eq_nil_iff.1 hlist) hne
    | cons c cs =>
      rw [hlist, List.dropWhile_cons] at hdrop
      have hc : isSpace c = false := by
        by_contra hspace
        rw [if_pos (by simpa using hspace)] at hdrop
        have hshort := (List.dropWhile_suffix isSpace (l := cs)).length_le
        rw [hdrop, List.length_cons] at hshort
        omega
      simp [hlist, hc]
  have hback : (s ++ t).toList.rdropWhile isSpace = (s ++ t).toList := by
    refine List.rdropWhile_eq_self_iff.2 fun hl => ?_
    have hlast : (s ++ t).toList.getLast hl ∈ t.toList := by
      have hne' : t.toList ≠ [] := fun h => ht (String.toList_eq_nil_iff.1 h)
      simp only [String.toList_append]
      rw [List.getLast_append_of_ne_nil _ hne']
      exact List.getLast_mem hne'
    rw [hvisible _ hlast]
    exact Bool.false_ne_true
  rw [trimSpace, hfront, hback, String.ofList_toList]

/-- A text that is not blank has a character that is not a space. -/
theorem exists_notSpace {s : String} (h : trimSpace s ≠ "") : ∃ c ∈ s.toList, isSpace c = false := by
  by_contra hall
  simp only [not_exists, not_and, Bool.not_eq_false] at hall
  refine h ?_
  rw [trimSpace, List.dropWhile_eq_nil_iff.2 hall]
  rfl

theorem runeCount_le_len (s : String) : runeCount s ≤ len s := by
  have h (cs : List Char) : cs.length ≤ String.utf8Len cs := by
    induction cs with
    | nil => simp
    | cons c cs ih =>
      have := c.utf8Size_pos
      simp only [String.utf8Len_cons, List.length_cons]
      omega
  rw [len_eq_utf8Len, runeCount, ← String.length_toList]
  exact h s.toList

theorem len_le_four_mul_runeCount (s : String) : len s ≤ 4 * runeCount s := by
  have h (cs : List Char) : String.utf8Len cs ≤ 4 * cs.length := by
    induction cs with
    | nil => simp
    | cons c cs ih =>
      have := c.utf8Size_le_four
      simp only [String.utf8Len_cons, List.length_cons]
      omega
  rw [len_eq_utf8Len, runeCount, ← String.length_toList]
  exact h s.toList

theorem toList_toString_nat (n : Nat) : (toString n).toList = Nat.toDigits 10 n := by
  rw [Nat.toString_eq_ofList_toDigits, String.toList_ofList]

theorem splitLast_some {sep : Char} {l before after : List Char}
    (h : splitLast sep l = some (before, after)) :
    l = before ++ sep :: after := by
  induction l generalizing before after with
  | nil => simp [splitLast] at h
  | cons c cs ih =>
    simp only [splitLast] at h
    split at h
    · rename_i b a hs
      simp only [Option.some.injEq, Prod.mk.injEq] at h
      obtain ⟨rfl, rfl⟩ := h
      simp [ih hs]
    · split at h <;> simp_all

end Text
