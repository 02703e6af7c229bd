import MailService.Lib.Text
import Mathlib.Algebra.GroupWithZero.Nat
/-!
# UUID texts

A UUID as its 32 hexadecimal digits, its canonical text, and the two readers
that accept more texts than that one: `uuid.Parse` of google/uuid and the input
function of PostgreSQL's `uuid` type. Which spellings each of them accepts decides
what a tenant can be called, so both are written out; they state what is assumed
of the package and of the database.
-/
open Text

/-- The 32 digits, most significant first. -/
structure Uuid where
  digits : List (Fin 16)
  length_digits : digits.length = 32
  deriving DecidableEq

namespace Uuid

/-- The hexadecimal digits in order, without hyphens. -/
def chars (u : Uuid) : List Char := u.digits.map hexDigit

/-- A hyphen after each of the groups; the rest has none. -/
def hyphenate : List Nat → List Char → List Char
  | [], cs => cs
  | n :: groups, cs => cs.take n ++ '-' :: hyphenate groups (cs.drop n)

/-- The canonical text: lower case, hyphens after 8, 12, 16 and 20 digits
(`UUID.String`, and what a `uuid` column returns). -/
def text (u : Uuid) : String := .ofList (hyphenate [8, 4, 4, 4] u.chars)

/-- The text without the hyphens that `hyphenate` puts in, when they are there. -/
def unhyphenate : List Nat → List Char → Option (List Char)
  | [], cs => some cs
  | n :: groups, cs =>
    match cs.drop n with
    | '-' :: rest => (unhyphenate groups rest).map (cs.take n ++ ·)
    | _ => none

/-- A UUID from exactly 32 digits. -/
def ofChars (cs : List Char) : Option Uuid :=
  match cs.mapM hexValue with
  | some ds => if h : ds.length = 32 then some ⟨ds, h⟩ else none
  | none => none

/-- The 36-byte form, the only part of a longer text that `parse` examines. -/
def ofHyphenated (cs : List Char) : Option Uuid := (unhyphenate [8, 4, 4, 4] cs).bind ofChars

/-- `uuid.Parse`: the canonical form, `urn:uuid:` before it, any byte on each
side of it, or the bare digits. -/
def parse (s : String) : Option Uuid :=
  let cs := s.toList
  if len s ≠ cs.length then none
  else if cs.length = 36 then ofHyphenated cs
  else if cs.length = 45 then
    if (cs.take 9).map Char.toLower = "urn:uuid:".toList then ofHyphenated (cs.drop 9) else none
  else if cs.length = 38 then ofHyphenated ((cs.drop 1).take 36)
  else if cs.length = 32 then ofChars cs
  else none

/-- Four digits at a time, each group but the last followed by an optional hyphen. -/
def postgresDigits : Nat → List Char → Option (List Char × List Char)
  | 0, cs => some ([], cs)
  | n + 1, a :: b :: c :: d :: cs =>
    let cs := if n ≠ 0 ∧ cs.head? = some '-' then cs.tail else cs
    (postgresDigits n cs).map fun (digits, rest) => (a :: b :: c :: d :: digits, rest)
  | _ + 1, _ => none

/-- The input function of PostgreSQL's `uuid` type. -/
def postgresIn (s : String) : Option Uuid :=
  match s.toList with
  | '{' :: cs =>
    match postgresDigits 8 cs with
    | some (digits, ['}']) => ofChars digits
    | _ => none
  | cs =>
    match postgresDigits 8 cs with
    | some (digits, []) => ofChars digits
    | _ => none

/-! ## The canonical text -/

theorem hexDigit_ne : ∀ d : Fin 16, hexDigit d ≠ '-' ∧ hexDigit d ≠ '{' ∧ hexDigit d ≠ '/' := by decide

@[simp] theorem length_chars (u : Uuid) : u.chars.length = 32 := by simp [chars, u.length_digits]

theorem ofChars_chars (u : Uuid) : ofChars u.chars = some u := by
  have h (ds : List (Fin 16)) : (ds.map hexDigit).mapM hexValue = some ds := by
    induction ds with
    | nil => rfl
    | cons d ds ih => simp [hexValue_hexDigit, ih]
  simp [ofChars, chars, h, u.length_digits]

theorem unhyphenate_hyphenate (groups : List Nat) (cs : List Char) (h : groups.sum ≤ cs.length) :
    unhyphenate groups (hyphenate groups cs) = some cs := by
  induction groups generalizing cs with
  | nil => rfl
  | cons n groups ih =>
    simp only [List.sum_cons] at h
    have hlen : (cs.take n).length = n := by simp; omega
    have hdrop : (cs.take n ++ '-' :: hyphenate groups (cs.drop n)).drop n = '-' ::
        hyphenate groups (cs.drop n) := by
      rw [List.drop_append_of_le_length (by omega), List.drop_eq_nil_of_le (by omega), List.nil_append]
    have htake : (cs.take n ++ '-' :: hyphenate groups (cs.drop n)).take n = cs.take n := by
      rw [List.take_append_of_le_length (by omega), List.take_of_length_le (by omega)]
    simp [hyphenate, unhyphenate, hdrop, htake, ih (cs.drop n) (by simp; omega)]

theorem length_hyphenate (groups : List Nat) (cs : List Char) :
    (hyphenate groups cs).length = cs.length + groups.length := by
  induction groups generalizing cs with
  | nil => rfl
  | cons n groups ih => simp [hyphenate, ih]; omega

theorem mem_hyphenate {groups : List Nat} {cs : List Char} {c : Char} (h : c ∈ hyphenate groups cs) :
    c = '-' ∨ c ∈ cs := by
  induction groups generalizing cs with
  | nil => exact .inr h
  | cons n groups ih =>
    simp only [hyphenate, List.mem_append, List.mem_cons] at h
    obtain h | rfl | h := h
    · exact .inr (List.mem_of_mem_take h)
    · exact .inl rfl
    · exact (ih h).imp_right List.mem_of_mem_drop

/-- The characters of a canonical text: hyphens and lower-case digits. -/
theorem mem_text {u : Uuid} {c : Char} (h : c ∈ u.text.toList) : c = '-' ∨ ∃ d, c = hexDigit d := by
  rw [text, String.toList_ofList] at h
  refine (mem_hyphenate h).imp_right fun hc => ?_
  obtain ⟨d, -, rfl⟩ := List.mem_map.1 hc
  exact ⟨d, rfl⟩

theorem slash_notMem_text (u : Uuid) : '/' ∉ u.text.toList := fun h => by
  obtain h | ⟨d, h⟩ := mem_text h
  · exact absurd h (by decide)
  · exact (hexDigit_ne d).2.2 h.symm

@[simp] theorem length_text (u : Uuid) : u.text.toList.length = 36 := by
  rw [text, String.toList_ofList, length_hyphenate, length_chars]; rfl

theorem utf8Len_eq_length {cs : List Char} (h : ∀ c ∈ cs, c.utf8Size = 1) :
    String.utf8Len cs = cs.length := by
  induction cs with
  | nil => rfl
  | cons c cs ih =>
    simp only [String.utf8Len_cons, List.length_cons, h c (by simp), ih fun c' hc' => h c' (by simp [hc'])]

@[simp] theorem len_text (u : Uuid) : len u.text = 36 := by
  rw [len_eq_utf8Len, utf8Len_eq_length, length_text]
  intro c hc
  obtain rfl | ⟨d, rfl⟩ := mem_text hc
  · decide
  · exact (hexDigit_ascii d).2

@[simp] theorem trimSpace_text (u : Uuid) : trimSpace u.text = u.text := by
  refine trimSpace_of_none_space fun c hc => ?_
  obtain rfl | ⟨d, rfl⟩ := mem_text hc
  · decide
  · exact (hexDigit_ascii d).1

@[simp] theorem text_ne_empty (u : Uuid) : u.text ≠ "" := fun h => by
  have := u.len_text
  rw [h] at this
  exact absurd this (by decide)

@[simp] theorem parse_text (u : Uuid) : parse u.text = some u := by
  have h : unhyphenate [8, 4, 4, 4] u.text.toList = some u.chars := by
    rw [text, String.toList_ofList, unhyphenate_hyphenate _ _ (by simp)]
  simp only [parse, len_text, length_text, ofHyphenated, h, Option.bind_some, ofChars_chars]
  rfl

/-- No text that is accepted is longer than the one with `urn:uuid:`. -/
theorem len_le_of_parse {s : String} (h : (parse s).isSome = true) : len s ≤ 64 := by
  unfold parse at h
  dsimp only at h
  split at h
  · simp at h
  · rename_i hlen
    split at h
    · omega
    split at h
    · omega
    split at h
    · omega
    split at h
    · omega
    · simp at h

theorem text_injective : Function.Injective text := fun u v h => by
  have := parse_text u
  rw [h, parse_text] at this
  exact (Option.some.inj this).symm

theorem cons_four_of_length {α : Type*} {l : List α} {n : Nat} (h : l.length = n + 4) :
    ∃ a b c d t, l = a :: b :: c :: d :: t ∧ t.length = n := by
  match l, h with
  | a :: b :: c :: d :: t, h => exact ⟨a, b, c, d, t, rfl, by simpa using h⟩

@[simp] theorem postgresIn_text (u : Uuid) : postgresIn u.text = some u := by
  have hu := ofChars_chars u
  obtain ⟨ds, hds⟩ := u
  obtain ⟨a0, b0, c0, d0, ds, rfl, h0⟩ := cons_four_of_length hds
  obtain ⟨a1, b1, c1, d1, ds, rfl, h1⟩ := cons_four_of_length h0
  obtain ⟨a2, b2, c2, d2, ds, rfl, h2⟩ := cons_four_of_length h1
  obtain ⟨a3, b3, c3, d3, ds, rfl, h3⟩ := cons_four_of_length h2
  obtain ⟨a4, b4, c4, d4, ds, rfl, h4⟩ := cons_four_of_length h3
  obtain ⟨a5, b5, c5, d5, ds, rfl, h5⟩ := cons_four_of_length h4
  obtain ⟨a6, b6, c6, d6, ds, rfl, h6⟩ := cons_four_of_length h5
  obtain ⟨a7, b7, c7, d7, ds, rfl, h7⟩ := cons_four_of_length h6
  obtain rfl := List.length_eq_zero_iff.1 h7
  simp only [chars, List.map_cons, List.map_nil] at hu
  simp only [postgresIn, text, chars, List.map_cons, List.map_nil, String.toList_ofList,
    hyphenate, List.take_succ_cons, List.take_zero, List.drop_succ_cons, List.drop_zero,
    List.cons_append, List.nil_append]
  split
  · rename_i h
    exact absurd (List.cons.inj h).1 (hexDigit_ne a0).2.1
  · simp [postgresDigits, (hexDigit_ne _).1, hu]

/-! ## The two readers agree

Both return the hexadecimal digits of the text in their order, so on a text that both
accept they return the same UUID. -/

/-- The values of the hexadecimal digits among the characters. -/
def digitsIn (cs : List Char) : List (Fin 16) := cs.filterMap hexValue

theorem digitsIn_of_mapM {cs : List Char} {ds : List (Fin 16)} (h : cs.mapM hexValue = some ds) :
    digitsIn cs = ds := by
  induction cs generalizing ds with
  | nil => simpa [digitsIn] using h
  | cons c cs ih =>
    simp only [List.mapM_cons, Option.bind_eq_bind, Option.bind_eq_some_iff, Option.pure_def,
      Option.some.injEq] at h
    obtain ⟨d, hd, rest, hrest, rfl⟩ := h
    rw [digitsIn, List.filterMap_cons, hd]
    exact congrArg _ (ih hrest)

theorem digitsIn_of_ofChars {cs : List Char} {u : Uuid} (h : ofChars cs = some u) :
    digitsIn cs = u.digits := by
  unfold ofChars at h
  split at h
  · rename_i ds hds
    split at h
    · cases h
      exact digitsIn_of_mapM hds
    · cases h
  · cases h

theorem digitsIn_of_unhyphenate {groups : List Nat} {cs ds : List Char}
    (h : unhyphenate groups cs = some ds) :
    digitsIn cs = digitsIn ds := by
  induction groups generalizing cs ds with
  | nil => cases h; rfl
  | cons n groups ih =>
    simp only [unhyphenate] at h
    split at h
    · rename_i rest hdrop
      obtain ⟨ds, hds, rfl⟩ := Option.map_eq_some_iff.1 h
      conv_lhs => rw [← List.take_append_drop n cs, hdrop]
      have hhyphen : hexValue '-' = none := by decide
      simp only [digitsIn, List.filterMap_append, List.filterMap_cons, hhyphen]
      exact congrArg _ (ih hds)
    · cases h

theorem digitsIn_of_postgresDigits {n : Nat} {cs ds rest : List Char}
    (h : postgresDigits n cs = some (ds, rest)) : digitsIn cs = digitsIn (ds ++ rest) := by
  induction n generalizing cs ds with
  | zero => cases h; rfl
  | succ n ih =>
    match cs, h with
    | a :: b :: c :: d :: cs, h =>
      simp only [postgresDigits, Option.map_eq_some_iff, Prod.exists, Prod.mk.injEq] at h
      obtain ⟨ds, rest, hrec, rfl, rfl⟩ := h
      -- the hyphen that may be skipped is no digit
      have hskip : digitsIn (if n ≠ 0 ∧ cs.head? = some '-' then cs.tail else cs) = digitsIn cs := by
        split
        · rename_i hh
          obtain ⟨rest, rfl⟩ := List.head?_eq_some_iff.1 hh.2
          have hhyphen : hexValue '-' = none := by decide
          simp [digitsIn, hhyphen]
        · rfl
      have := (hskip.symm.trans (ih hrec))
      simp only [digitsIn, List.filterMap_cons, List.cons_append] at this ⊢
      rw [this]

theorem digitsIn_of_postgresIn {s : String} {u : Uuid} (h : postgresIn s = some u) :
    digitsIn s.toList = u.digits := by
  unfold postgresIn at h
  split at h
  · rename_i cs hs
    split at h
    · rename_i ds hds
      have hbrace : hexValue '{' = none ∧ hexValue '}' = none := by decide
      have := digitsIn_of_postgresDigits hds
      rw [hs, ← digitsIn_of_ofChars h]
      simp only [digitsIn, List.filterMap_cons, List.filterMap_append, List.filterMap_nil, hbrace,
        List.append_nil] at this ⊢
      exact this
    · cases h
  · split at h
    · rename_i ds hds
      rw [digitsIn_of_postgresDigits hds, List.append_nil, digitsIn_of_ofChars h]
    · cases h

/-- What the reader of digits passes over. -/
theorem mem_postgresDigits {n : Nat} {cs digits rest : List Char}
    (h : postgresDigits n cs = some (digits, rest)) :
    ∀ x ∈ cs, x ∈ digits ∨ x = '-' ∨ x ∈ rest := by
  induction n generalizing cs digits rest with
  | zero =>
    simp only [postgresDigits, Option.some.injEq, Prod.mk.injEq] at h
    obtain ⟨rfl, rfl⟩ := h
    exact fun x hx => .inr (.inr hx)
  | succ n ih =>
    obtain _ | ⟨a, _ | ⟨b, _ | ⟨c, _ | ⟨d, cs⟩⟩⟩⟩ := cs <;> simp only [postgresDigits, reduceCtorEq] at h
    obtain ⟨⟨digits', rest'⟩, hdigits, hrest⟩ := Option.map_eq_some_iff.1 h
    simp only [Prod.mk.injEq] at hrest
    obtain ⟨rfl, rfl⟩ := hrest
    have hcs : ∀ x ∈ cs, x ∈ digits' ∨ x = '-' ∨ x ∈ rest' := by
      intro x hx
      split at hdigits
      · rename_i hhyphen
        cases cs with
        | nil => cases hx
        | cons y cs =>
          obtain rfl : y = '-' := by simpa using hhyphen.2
          rcases List.mem_cons.1 hx with rfl | hx
          · exact .inr (.inl rfl)
          · exact ih hdigits x hx
      · exact ih hdigits x hx
    intro x hx
    simp only [List.mem_cons] at hx ⊢
    rcases hx with rfl | rfl | rfl | rfl | hx
    · simp
    · simp
    · simp
    · simp
    · rcases hcs x hx with hx | hx
      · simp [hx]
      · exact .inr hx

theorem hexValue_of_ofChars {cs : List Char} {u : Uuid} (h : ofChars cs = some u) :
    ∀ c ∈ cs, (hexValue c).isSome = true := by
  have hmapM {cs : List Char} : ∀ {ds : List (Fin 16)}, cs.mapM hexValue = some ds →
      ∀ c ∈ cs, (hexValue c).isSome = true := by
    induction cs with
    | nil => exact fun _ c hc => absurd hc List.not_mem_nil
    | cons c cs ih =>
      intro ds hds x hx
      simp only [List.mapM_cons, Option.bind_eq_bind, Option.bind_eq_some_iff] at hds
      obtain ⟨d, hd, rest, hrest, -⟩ := hds
      rcases List.mem_cons.1 hx with rfl | hx
      · rw [hd]
        rfl
      · exact ih hrest x hx
  unfold ofChars at h
  split at h
  · rename_i ds hds
    exact hmapM hds
  · cases h

/-- The characters of a text that PostgreSQL reads as a UUID. -/
theorem chars_of_postgresIn {s : String} {u : Uuid} (h : postgresIn s = some u) :
    ∀ c ∈ s.toList, (hexValue c).isSome = true ∨ c ∈ ['-', '{', '}'] := by
  have hread {cs digits rest : List Char} (hdigits : postgresDigits 8 cs = some (digits, rest))
    (hu : ofChars digits = some u)
      (hrest : ∀ c ∈ rest, c ∈ ['-', '{', '}']) :
        ∀ c ∈ cs, (hexValue c).isSome = true ∨ c ∈ ['-', '{', '}'] := by
    intro c hc
    rcases mem_postgresDigits hdigits c hc with hdigit | rfl | hrest'
    · exact .inl (hexValue_of_ofChars hu c hdigit)
    · exact .inr (by simp)
    · exact .inr (hrest c hrest')
  unfold postgresIn at h
  split at h
  · rename_i cs hs
    split at h
    · rename_i digits hdigits
      intro c hc
      rw [hs] at hc
      rcases List.mem_cons.1 hc with rfl | hc
      · exact .inr (by simp)
      · exact hread hdigits h (by simp) c hc
    · cases h
  · split at h
    · rename_i digits hdigits
      exact hread hdigits h fun c hc => absurd hc List.not_mem_nil
    · cases h

/-- `parse` looks at a part of the text, and takes the digits of that part. -/
theorem sublist_digitsIn_of_parse {s : String} {u : Uuid} (h : parse s = some u) :
    u.digits.Sublist (digitsIn s.toList) := by
  have hyphenated {cs : List Char} (hc : cs.Sublist s.toList) (hu : ofHyphenated cs = some u) :
      u.digits.Sublist (digitsIn s.toList) := by
    obtain ⟨ds, hds, hofs⟩ := Option.bind_eq_some_iff.1 hu
    rw [← digitsIn_of_ofChars hofs, ← digitsIn_of_unhyphenate hds]
    exact hc.filterMap _
  simp only [parse] at h
  split_ifs at h
  · exact hyphenated (List.Sublist.refl _) h
  · exact hyphenated (List.drop_sublist _ _) h
  · exact hyphenated ((List.take_sublist _ _).trans (List.drop_sublist _ _)) h
  · rw [← digitsIn_of_ofChars h]

theorem eq_of_parse_of_postgresIn {s : String} {u v : Uuid} (hu : parse s = some u)
    (hv : postgresIn s = some v) :
    v = u := by
  have hsub := sublist_digitsIn_of_parse hu
  rw [digitsIn_of_postgresIn hv] at hsub
  have heq := hsub.eq_of_length (by rw [u.length_digits, v.length_digits])
  cases u
  cases v
  simp_all

end Uuid
