import MailService.Lib.Json
/-!
# Reading back what was written

Every encoder's text parses to the value it was written for (`parse_marshal`),
and the members of an encoded object come back one by one as the texts of their
values (`rawMembers_marshal`). The proofs follow the parser: a lemma for each
kind of token, then one induction over the value for each of its three mutually
recursive functions.
-/
open Text

namespace Json

/-! ## Strings -/

theorem unhex4_hex4 {n : Nat} (h : n < 0x10000) :
    unhex4 (hexDigit (Fin.ofNat 16 (n / 4096))) (hexDigit (Fin.ofNat 16 (n / 256)))
      (hexDigit (Fin.ofNat 16 (n / 16)))
      (hexDigit (Fin.ofNat 16 n)) = some n := by
  simp only [unhex4, hexValue_hexDigit, Fin.ofNat, Option.some.injEq]
  omega

theorem not_surrogate (c : Char) : isHighSurrogate c.toNat = false ∧ isLowSurrogate c.toNat = false := by
  have h := c.valid
  simp only [isHighSurrogate, isLowSurrogate, Bool.and_eq_false_iff, decide_eq_false_iff_not]
  have : c.toNat = c.val.toNat := rfl
  rcases h with h | h <;> omega

theorem lexFrom_plain {c : Char} {cs : List Char} (hq : c ≠ '"') (hb : c ≠ '\\') (hc : ¬ c.toNat < 0x20) :
    lexFrom none (c :: cs) = emit [c] (lexFrom none cs) := by
  simp [lexFrom, hb, hc, flush]

theorem lexFrom_escapeChar (st : Style) (c : Char) (cs : List Char) :
    lexFrom none (escapeChar st c ++ cs) = emit [c] (lexFrom none cs) := by
  unfold escapeChar
  split
  · rename_i letter h
    obtain ⟨before, after, heq, -⟩ := List.lookup_eq_some_iff.1 h
    have hc : (c, letter) ∈ shortEscapes := by rw [heq]; simp
    simp only [shortEscapes, List.mem_cons, Prod.mk.injEq, List.not_mem_nil, or_false] at hc
    rcases hc with ⟨rfl, rfl⟩ | ⟨rfl, rfl⟩ | ⟨rfl, rfl⟩ | ⟨rfl, rfl⟩ | ⟨rfl, rfl⟩ |
      ⟨rfl, rfl⟩ | ⟨rfl, rfl⟩ <;>
      simp [lexFrom, unescapeLetter, flush]
  · rename_i h
    have hq : c ≠ '"' := by rintro rfl; simp [shortEscapes] at h
    have hb : c ≠ '\\' := by
      rintro rfl
      have hescape : shortEscapes.lookup '\\' = some '\\' := by decide
      rw [hescape] at h
      cases h
    split
    · rename_i hc
      have hlt : c.toNat < 0x10000 := hc.elim (fun h => by omega) (st.escaped_lt c)
      simp only [hex4, List.cons_append, List.nil_append, lexFrom, unhex4_hex4 hlt, not_surrogate c]
      simp [flush]
    · rename_i hc
      exact lexFrom_plain hq hb (fun h => hc (.inl h))

theorem lexString_escape (st : Style) (s rest : List Char) :
    lexString (escape st s ++ '"' :: rest) = some (s, rest) := by
  induction s with
  | nil => simp [escape, lexString, lexFrom, flush]
  | cons c s ih =>
    simp only [lexString, escape, List.flatMap_cons, List.append_assoc, lexFrom_escapeChar] at ih ⊢
    rw [ih]
    simp [emit]

/-! ## Values -/

mutual
/-- Every number of the value is written as JSON allows. -/
def wf : Value → Bool
  | .num literal => validNumber literal.toList
  | .arr items => wfItems items
  | .obj members => wfMembers members
  | _ => true

def wfItems : List Value → Bool
  | [] => true
  | v :: items => wf v && wfItems items

def wfMembers : List (String × Value) → Bool
  | [] => true
  | (_, v) :: members => wf v && wfMembers members
end

mutual
/-- The fuel that reading the value back takes. -/
def size : Value → Nat
  | .arr items => 1 + sizeItems items
  | .obj members => 1 + sizeMembers members
  | _ => 1

def sizeItems : List Value → Nat
  | [] => 0
  | v :: items => 1 + size v + sizeItems items

def sizeMembers : List (String × Value) → Nat
  | [] => 0
  | (_, v) :: members => 1 + size v + sizeMembers members
end

/-- What follows a value does not prolong a number. -/
def Follow (rest : List Char) : Prop := ∀ c ∈ rest.head?, numberChar c = false

theorem skip_cons {c : Char} (h : isBlank c = false) (cs : List Char) : skip (c :: cs) = c :: cs := by
  simp [skip, h]

@[simp] theorem skip_blank (st : Style) (cs : List Char) : skip (blank st ++ cs) = skip cs := by
  unfold blank
  split <;> simp [skip, isBlank]

theorem parseValue_blank (st : Style) (fuel : Nat) (cs : List Char) :
    parseValue fuel (blank st ++ cs) = parseValue fuel cs := by
  cases fuel <;> simp [parseValue]

theorem numberChar_ne {c : Char} (h : numberChar c = true) :
    isBlank c = false ∧ c ≠ '"' ∧ c ≠ '[' ∧ c ≠ ']' ∧ c ≠ '{' ∧ c ≠ '}' ∧ c ≠ 'n' ∧ c ≠ 't' ∧ c ≠ 'f' := by
  refine ⟨?_, ?_, ?_, ?_, ?_, ?_, ?_, ?_, ?_⟩
  · rw [Bool.eq_false_iff]
    intro hb
    simp only [isBlank, decide_eq_true_eq] at hb
    rcases hb with rfl | rfl | rfl | rfl <;> exact absurd h (by decide)
  all_goals rintro rfl; exact absurd h (by decide)

theorem head_of_validNumber {cs : List Char} (h : validNumber cs = true) :
    ∃ c t, cs = c :: t ∧ numberChar c = true := by
  cases cs with
  | nil => exact absurd h (by decide)
  | cons c t =>
    simp only [validNumber, List.all_cons, Bool.and_eq_true] at h
    exact ⟨c, t, rfl, h.1.1⟩

theorem lexNumber_append {cs rest : List Char} (h : validNumber cs = true) (hr : Follow rest) :
    lexNumber (cs ++ rest) = some (cs, rest) := by
  have hall : ∀ c ∈ cs, numberChar c = true := by
    simp only [validNumber, Bool.and_eq_true, List.all_eq_true] at h
    exact h.1
  have hrest : rest.takeWhile numberChar = [] ∧ rest.dropWhile numberChar = rest := by
    cases rest with
    | nil => simp
    | cons c t => simp [hr c (by simp)]
  simp [lexNumber, List.takeWhile_append_of_pos hall, List.dropWhile_append_of_pos hall, hrest, h]

theorem parseValue_number {cs rest : List Char} (fuel : Nat) (h : validNumber cs = true) (hr : Follow rest) :
    parseValue (fuel + 1) (cs ++ rest) = some (.num (.ofList cs), rest) := by
  obtain ⟨c, t, rfl, hc⟩ := head_of_validNumber h
  have hl := lexNumber_append h hr
  obtain ⟨hb, h1, h2, -, h3, -, h4, h5, h6⟩ := numberChar_ne hc
  simp only [List.cons_append] at hl
  simp [parseValue, skip_cons hb, h1, h2, h3, h4, h5, h6, hl]

theorem parseValue_quote (st : Style) (fuel : Nat) (s : String) (rest : List Char) :
    parseValue (fuel + 1) (quote st s ++ rest) = some (.str s, rest) := by
  simp [parseValue, quote, skip_cons (c := '"') (by decide), lexString_escape]

theorem parseName_quote (st : Style) (k : String) (rest : List Char) :
    parseName (quote st k ++ (separator st ':' ++ rest)) = some (k, blank st ++ rest) := by
  simp [parseName, quote, separator, skip_cons (c := '"') (by decide), skip_cons (c := ':') (by decide),
    lexString_escape]

/-- A value's text starts with neither a blank nor a closing bracket. -/
theorem render_head (st : Style) (v : Value) (h : wf v = true) :
    ∃ c t, render st v = c :: t ∧ isBlank c = false ∧ c ≠ ']' := by
  cases v with
  | null => exact ⟨'n', "ull".toList, by simp [render], by decide, by decide⟩
  | bool b =>
    cases b
    · exact ⟨'f', "alse".toList, by simp [render], by decide, by decide⟩
    · exact ⟨'t', "rue".toList, by simp [render], by decide, by decide⟩
  | num literal =>
    obtain ⟨c, t, hc, hn⟩ := head_of_validNumber h
    exact ⟨c, t, by simpa [render] using hc, (numberChar_ne hn).1, (numberChar_ne hn).2.2.2.1⟩
  | str s => exact ⟨'"', escape st s.toList ++ ['"'], by simp [render, quote], by decide, by decide⟩
  | arr items => exact ⟨'[', renderItems st items, by simp [render], by decide, by decide⟩
  | obj members => exact ⟨'{', renderMembers st members, by simp [render], by decide, by decide⟩

theorem follow_separator (st : Style) {c : Char} (h : numberChar c = false) (cs : List Char) :
    Follow (separator st c ++ cs) := by
  simp [Follow, separator, h]

theorem follow_cons {c : Char} (h : numberChar c = false) (cs : List Char) : Follow (c :: cs) := by
  simp [Follow, h]

theorem skip_separator (st : Style) {c : Char} (h : isBlank c = false) (cs : List Char) :
    skip (separator st c ++ cs) = c :: (blank st ++ cs) := by
  simp [separator, skip_cons h]

mutual
/-- The parser reads back what an encoder writes, whatever follows it. -/
theorem parseValue_render (st : Style) : ∀ (v : Value) (fuel : Nat) (rest : List Char), wf v = true →
    size v ≤ fuel → Follow rest → parseValue fuel (render st v ++ rest) = some (v, rest)
  | .null, fuel + 1, rest, _, _, _ => by simp [render, parseValue, skip, isBlank]
  | .bool true, fuel + 1, rest, _, _, _ => by simp [render, parseValue, skip, isBlank]
  | .bool false, fuel + 1, rest, _, _, _ => by simp [render, parseValue, skip, isBlank]
  | .num literal, fuel + 1, rest, hv, _, hr => by
    rw [render, parseValue_number fuel hv hr, String.ofList_toList]
  | .str s, fuel + 1, rest, _, _, _ => by rw [render, parseValue_quote]
  | .arr [], fuel + 1, rest, _, _, _ => by simp [render, renderItems, parseValue, skip, isBlank]
  | .arr (v :: items), fuel + 1, rest, hv, hf, hr => by
    have hi := parseItems_render st v items fuel rest hv (by simp only [size, sizeItems] at hf ⊢; omega)
    obtain ⟨c, t, hc, hb, hne⟩ : ∃ c t, renderItems st (v :: items) = c :: t ∧
        isBlank c = false ∧ c ≠ ']' := by
      obtain ⟨c, t, hc, h⟩ :=
        render_head st v (by simp only [wf, wfItems, Bool.and_eq_true] at hv; exact hv.1)
      cases items <;> exact ⟨c, _, by rw [renderItems, hc, List.cons_append], h⟩
    rw [hc] at hi
    simp only [List.cons_append] at hi
    simp [render, parseValue, skip_cons (c := '[') (by decide), hc, skip_cons hb, hne, hi]
  | .obj [], fuel + 1, rest, _, _, _ => by simp [render, renderMembers, parseValue, skip, isBlank]
  | .obj ((k, v) :: members), fuel + 1, rest, hv, hf, hr => by
    have hi := parseMembers_render st k v members fuel rest hv
      (by simp only [size, sizeMembers] at hf ⊢; omega)
    obtain ⟨t, hc⟩ : ∃ t, renderMembers st ((k, v) :: members) = '"' :: t := by
      cases members <;> exact ⟨_, by rw [renderMembers, quote, List.cons_append]⟩
    rw [hc] at hi
    simp only [List.cons_append] at hi
    simp [render, parseValue, skip_cons (c := '{') (by decide), skip_cons (c := '"') (by decide), hc, hi]
  | v, 0, _, _, hf, _ => by cases v <;> simp [size] at hf

theorem parseItems_render (st : Style) : ∀ (v : Value) (items : List Value) (fuel : Nat) (rest : List Char),
    wfItems (v :: items) = true → sizeItems (v :: items) ≤ fuel →
    parseItems fuel (renderItems st (v :: items) ++ rest) = some (v :: items, rest)
  | v, [], fuel + 1, rest, hv, hf => by
    simp only [wfItems, Bool.and_eq_true] at hv
    have h := parseValue_render st v fuel (']' :: rest) hv.1 (by simp only [sizeItems] at hf; omega)
      (follow_cons (by decide) _)
    simp [renderItems, parseItems, h, skip_cons (c := ']') (by decide)]
  | v, w :: items, fuel + 1, rest, hv, hf => by
    simp only [wfItems, Bool.and_eq_true] at hv
    have h := parseValue_render st v fuel (separator st ',' ++ (renderItems st (w :: items) ++ rest)) hv.1
      (by simp only [sizeItems] at hf; omega) (follow_separator st (by decide) _)
    have hi := parseItems_render st w items fuel rest (by simp [wfItems, hv.2])
      (by simp only [sizeItems] at hf ⊢; omega)
    have hb : parseItems fuel (blank st ++ (renderItems st (w :: items) ++ rest)) =
        some (w :: items, rest) := by
      cases fuel with
      | zero => simp [parseItems] at hi
      | succ fuel => rw [← hi]; simp [parseItems, parseValue_blank]
    simp [renderItems, parseItems, h, skip_separator st (c := ',') (by decide), hb]
  | v, items, 0, _, _, hf => by simp [sizeItems] at hf

theorem parseMembers_render (st : Style) :
    ∀ (k : String) (v : Value) (members : List (String × Value)) (fuel : Nat)
    (rest : List Char), wfMembers ((k, v) :: members) = true → sizeMembers ((k, v) :: members) ≤ fuel →
    parseMembers fuel (renderMembers st ((k, v) :: members) ++ rest) = some ((k, v) :: members, rest)
  | k, v, [], fuel + 1, rest, hv, hf => by
    simp only [wfMembers, Bool.and_eq_true] at hv
    have h := parseValue_render st v fuel ('}' :: rest) hv.1 (by simp only [sizeMembers] at hf; omega)
      (follow_cons (by decide) _)
    simp [renderMembers, parseMembers, parseName_quote, parseValue_blank, h, skip_cons (c := '}') (by decide)]
  | k, v, (l, w) :: members, fuel + 1, rest, hv, hf => by
    simp only [wfMembers, Bool.and_eq_true] at hv
    have h := parseValue_render st v fuel
      (separator st ',' ++ (renderMembers st ((l, w) :: members) ++ rest)) hv.1
      (by simp only [sizeMembers] at hf; omega) (follow_separator st (by decide) _)
    have hi := parseMembers_render st l w members fuel rest (by simp [wfMembers, hv.2])
      (by simp only [sizeMembers] at hf ⊢; omega)
    have hb : parseMembers fuel (blank st ++ (renderMembers st ((l, w) :: members) ++ rest)) =
        some ((l, w) :: members, rest) := by
      cases fuel with
      | zero => simp [parseMembers] at hi
      | succ fuel => rw [← hi]; simp [parseMembers, parseName]
    simp [renderMembers, parseMembers, parseName_quote, parseValue_blank, h,
        skip_separator st (c := ',') (by decide), hb]
  | k, v, members, 0, _, _, hf => by simp [sizeMembers] at hf
end

mutual
theorem size_le_render (st : Style) : ∀ v : Value, wf v = true → size v ≤ 2 * (render st v).length
  | .null, _ => by simp [size, render]
  | .bool true, _ => by simp [size, render]
  | .bool false, _ => by simp [size, render]
  | .num literal, h => by
    obtain ⟨c, t, hc, -⟩ := head_of_validNumber h
    simp only [size, render, hc, List.length_cons]
    omega
  | .str s, _ => by simp [size, render, quote]; omega
  | .arr items, h => by
    have := sizeItems_le_render st items h
    simp only [size, render, List.length_cons]
    omega
  | .obj members, h => by
    have := sizeMembers_le_render st members h
    simp only [size, render, List.length_cons]
    omega

theorem sizeItems_le_render (st : Style) : ∀ items : List Value, wfItems items = true →
    sizeItems items ≤ 2 * (renderItems st items).length
  | [], _ => by simp [sizeItems]
  | [v], h => by
    simp only [wfItems, Bool.and_true] at h
    have := size_le_render st v h
    simp only [sizeItems, renderItems, List.length_append, List.length_singleton]
    omega
  | v :: w :: items, h => by
    simp only [wfItems, Bool.and_eq_true] at h
    have := size_le_render st v h.1
    have := sizeItems_le_render st (w :: items) (by simp [wfItems, h.2])
    simp only [sizeItems, renderItems, List.length_append, separator, List.length_cons] at this ⊢
    omega

theorem sizeMembers_le_render (st : Style) : ∀ members : List (String × Value), wfMembers members = true →
    sizeMembers members ≤ 2 * (renderMembers st members).length
  | [], _ => by simp [sizeMembers]
  | [(k, v)], h => by
    simp only [wfMembers, Bool.and_true] at h
    have := size_le_render st v h
    simp only [sizeMembers, renderMembers, List.length_append, List.length_singleton]
    omega
  | (k, v) :: (l, w) :: members, h => by
    simp only [wfMembers, Bool.and_eq_true] at h
    have := size_le_render st v h.1
    have := sizeMembers_le_render st ((l, w) :: members) (by simp [wfMembers, h.2])
    simp only [sizeMembers, renderMembers, List.length_append, separator, List.length_cons] at this ⊢
    omega
end

/-- Decoding an encoder's text gives the value it was written for. -/
theorem parseValue_marshal (st : Style) {v : Value} (h : wf v = true) :
    parseValue (fuelFor (marshal st v).toList) (marshal st v).toList = some (v, []) := by
  have hs := size_le_render st v h
  have hread := parseValue_render st v (fuelFor (render st v)) [] h
    (by simp only [fuelFor]; omega) (by simp [Follow])
  rw [List.append_nil] at hread
  rw [marshal, String.toList_ofList]
  exact hread

theorem parse_marshal (st : Style) {v : Value} (h : wf v = true) : parse (marshal st v) = some v := by
  simp [parse, parseValue_marshal st h, skip]

/-- The text of the first member. -/
theorem renderMembers_head (st : Style) (k : String) (v : Value) (members : List (String × Value)) :
    ∃ rest, renderMembers st ((k, v) :: members) =
      quote st k ++ (separator st ':' ++ (render st v ++ rest)) := by
  cases members <;> exact ⟨_, rfl⟩

/-- An object with a member is never written alike with blanks and without. -/
theorem marshal_ne_of_spaced {st st' : Style} (hcompact : st.spaced = false)
    (hspaced : st'.spaced = true) {k k' : String} {v v' : Value}
    {members members' : List (String × Value)} (h : wf v = true) :
    marshal st (.obj ((k, v) :: members)) ≠ marshal st' (.obj ((k', v') :: members')) := by
  intro heq
  obtain ⟨rest, hrest⟩ := renderMembers_head st k v members
  obtain ⟨rest', hrest'⟩ := renderMembers_head st' k' v' members'
  rw [marshal, marshal, render, render, hrest, hrest', String.ofList_inj, List.cons.injEq] at heq
  have hname := parseName_quote st k (render st v ++ rest)
  rw [heq.2, parseName_quote, blank, blank, hcompact, hspaced] at hname
  -- what follows the colon is a blank in one text and the value in the other
  obtain ⟨c, cs, hc, hblank, -⟩ := render_head st v h
  simp only [Option.some.injEq, Prod.mk.injEq, if_true, Bool.false_eq_true, if_false, hc, List.cons_append,
    List.nil_append, List.cons.injEq] at hname
  rw [← hname.2.1] at hblank
  exact absurd hblank (by decide)

theorem parseRawMembers_render (st : Style) (k : String) (v : Value)
    (members : List (String × Value)) (fuel : Nat) (rest : List Char)
    (hv : wfMembers ((k, v) :: members) = true) (hf : sizeMembers ((k, v) :: members) ≤ fuel) :
    parseRawMembers fuel (renderMembers st ((k, v) :: members) ++ rest) =
      some (((k, v) :: members).map fun (k, v) => (k, marshal st v), rest) := by
  -- the text of a value is what lies between its start and the rest that the parser leaves
  have raw (v : Value) (after : List Char) (hv : wf v = true) :
      (skip (render st v ++ after)).take
        ((skip (render st v ++ after)).length - after.length) = render st v := by
    obtain ⟨c, t, hc, hb, -⟩ := render_head st v hv
    rw [hc, List.cons_append, skip_cons hb, ← List.cons_append, List.length_append, Nat.add_sub_cancel,
      List.take_left]
  induction members generalizing k v fuel with
  | nil =>
    cases fuel with
    | zero => simp [sizeMembers] at hf
    | succ fuel =>
      simp only [wfMembers, Bool.and_true] at hv
      have h := parseValue_render st v fuel ('}' :: rest) hv (by simp only [sizeMembers] at hf; omega)
        (follow_cons (by decide) _)
      have hraw := raw v ('}' :: rest) hv
      simp only [renderMembers, List.append_assoc, parseRawMembers, parseName_quote,
        parseValue_blank, skip_blank, List.singleton_append, h, skip_cons (c := '}') (by decide), hraw,
        marshal, List.map_cons, List.map_nil]
  | cons m members ih =>
    obtain ⟨l, w⟩ := m
    cases fuel with
    | zero => simp [sizeMembers] at hf
    | succ fuel =>
      simp only [wfMembers, Bool.and_eq_true] at hv
      have h := parseValue_render st v fuel
        (separator st ',' ++ (renderMembers st ((l, w) :: members) ++ rest)) hv.1
        (by simp only [sizeMembers] at hf; omega) (follow_separator st (by decide) _)
      have hraw := raw v (separator st ',' ++ (renderMembers st ((l, w) :: members) ++ rest)) hv.1
      have hi := ih l w fuel (by simp [wfMembers, hv.2]) (by simp only [sizeMembers] at hf ⊢; omega)
      have hb : parseRawMembers fuel (blank st ++ (renderMembers st ((l, w) :: members) ++ rest)) =
          parseRawMembers fuel (renderMembers st ((l, w) :: members) ++ rest) := by
        cases fuel <;> simp [parseRawMembers, parseName]
      simp only [renderMembers, List.append_assoc, parseRawMembers, parseName_quote,
        parseValue_blank, skip_blank, h, skip_separator st (c := ',') (by decide), hraw, hb, hi, marshal,
        List.map_cons, Option.map_some]

/-- The members of an encoded object, each as the text of its value. -/
theorem rawMembers_marshal (st : Style) {members : List (String × Value)} (h : wfMembers members = true) :
    rawMembers (marshal st (.obj members)) = some (members.map fun (k, v) => (k, marshal st v), []) := by
  cases members with
  | nil => simp [rawMembers, marshal, render, renderMembers, skip, isBlank]
  | cons m members =>
    obtain ⟨k, v⟩ := m
    have hs := sizeMembers_le_render st _ h
    have hr := parseRawMembers_render st k v members (fuelFor (render st (.obj ((k, v) :: members)))) [] h
      (by simp only [fuelFor, render, List.length_cons]; omega)
    obtain ⟨t, hc⟩ : ∃ t, renderMembers st ((k, v) :: members) = '"' :: t := by
      cases members <;> exact ⟨_, by rw [renderMembers, quote, List.cons_append]⟩
    simp only [List.append_nil, render, hc] at hr
    have htext : (marshal st (.obj ((k, v) :: members))).toList = '{' :: '"' :: t := by
      rw [marshal, String.toList_ofList, render, hc]
    simp only [rawMembers, htext, skip_cons (c := '{') (by decide), skip_cons (c := '"') (by decide)]
    simp [hr]

/-! ## What the parser accepts -/

theorem validNumber_of_lexNumber {cs literal rest : List Char} (h : lexNumber cs = some (literal, rest)) :
    validNumber literal = true := by
  simp only [lexNumber] at h
  split at h
  · simp only [Option.some.injEq, Prod.mk.injEq] at h
    rw [← h.1]; assumption
  · simp at h

/-- Every value the parser returns can be written. -/
theorem wf_of_parse (fuel : Nat) :
    (∀ cs v rest, parseValue fuel cs = some (v, rest) → wf v = true) ∧
    (∀ cs items rest, parseItems fuel cs = some (items, rest) → wfItems items = true) ∧
    (∀ cs members rest, parseMembers fuel cs = some (members, rest) → wfMembers members = true) := by
  induction fuel with
  | zero => simp [parseValue, parseItems, parseMembers]
  | succ fuel ih =>
    obtain ⟨ihv, ihi, ihm⟩ := ih
    refine ⟨fun cs v rest h => ?_, fun cs items rest h => ?_, fun cs members rest h => ?_⟩
    · simp only [parseValue] at h
      split at h
      · obtain ⟨p, -, hp⟩ := Option.map_eq_some_iff.1 h
        cases hp; rfl
      · split at h
        · cases h; rfl
        · obtain ⟨p, hp, he⟩ := Option.map_eq_some_iff.1 h
          cases he
          simpa [wf] using ihi _ _ _ hp
      · split at h
        · cases h; rfl
        · obtain ⟨p, hp, he⟩ := Option.map_eq_some_iff.1 h
          cases he
          simpa [wf] using ihm _ _ _ hp
      · cases h; rfl
      · cases h; rfl
      · cases h; rfl
      · obtain ⟨p, hp, he⟩ := Option.map_eq_some_iff.1 h
        cases he
        simpa [wf] using validNumber_of_lexNumber hp
    · simp only [parseItems] at h
      split at h
      · simp at h
      · rename_i v rest' hv
        split at h
        · cases h; simp [wfItems, ihv _ _ _ hv]
        · obtain ⟨p, hp, he⟩ := Option.map_eq_some_iff.1 h
          cases he
          simp [wfItems, ihv _ _ _ hv, ihi _ _ _ hp]
        · simp at h
    · simp only [parseMembers] at h
      split at h
      · simp at h
      · split at h
        · simp at h
        · rename_i v rest' hv
          split at h
          · cases h; simp [wfMembers, ihv _ _ _ hv]
          · obtain ⟨p, hp, he⟩ := Option.map_eq_some_iff.1 h
            cases he
            simp [wfMembers, ihv _ _ _ hv, ihm _ _ _ hp]
          · simp at h

theorem wf_of_parse_eq {s : String} {v : Value} (h : parse s = some v) : wf v = true := by
  simp only [parse] at h
  split at h
  · rename_i w rest hw
    split at h
    · cases h; exact (wf_of_parse _).1 _ _ _ hw
    · simp at h
  · simp at h

end Json
