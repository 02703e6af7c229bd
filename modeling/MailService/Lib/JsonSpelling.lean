import MailService.Lib.JsonRoundTrip
/-!
# Every way to write a value

The JSON grammar: blanks before and after every token, and for each character of a string
the character itself, a short escape, a `\u` escape or a pair of them. Whatever the
spelling, the parser reads the value that was spelled (`parse_spelled`).
-/

namespace Json

/-! ## Tokens -/

def Blank (cs : List Char) : Prop := ∀ c ∈ cs, isBlank c = true

inductive SpellsChar : Char → List Char → Prop
  | plain {c : Char} (quote : c ≠ '"') (slash : c ≠ '\\') (printable : ¬ c.toNat < 0x20) : SpellsChar c [c]
  | letter {c l : Char} (h : unescapeLetter l = some c) : SpellsChar c ['\\', l]
  | unicode {ch a b c d : Char} (h : unhex4 a b c d = some ch.toNat) : SpellsChar ch ['\\', 'u', a, b, c, d]
  /-- A character beyond U+FFFF, as two surrogates. -/
  | pair {a b c d a' b' c' d' : Char} {high low : Nat} (h : unhex4 a b c d = some high)
      (h' : unhex4 a' b' c' d' = some low) (isHigh : isHighSurrogate high = true)
      (isLow : isLowSurrogate low = true) :
      SpellsChar (Char.ofNat (0x10000 + (high - 0xd800) * 0x400 + (low - 0xdc00)))
        ['\\', 'u', a, b, c, d, '\\', 'u', a', b', c', d']

inductive SpellsChars : List Char → List Char → Prop
  | nil : SpellsChars [] []
  | cons {c : Char} {s t cs : List Char} (head : SpellsChar c t) (tail : SpellsChars s cs) :
      SpellsChars (c :: s) (t ++ cs)

def SpellsString (s : String) (t : List Char) : Prop := ∃ cs, SpellsChars s.toList cs ∧
    t = '"' :: (cs ++ ['"'])

mutual
/-- A text of the value, without blanks around it. -/
def Spells : Value → List Char → Prop
  | .null, t => t = "null".toList
  | .bool true, t => t = "true".toList
  | .bool false, t => t = "false".toList
  | .num literal, t => validNumber literal.toList = true ∧ t = literal.toList
  | .str s, t => SpellsString s t
  | .arr items, t => ∃ body, SpellsItems items body ∧ t = '[' :: body
  | .obj members, t => ∃ body, SpellsMembers members body ∧ t = '{' :: body

def SpellsItems : List Value → List Char → Prop
  | [], t => ∃ before, Blank before ∧ t = before ++ [']']
  | [v], t => ∃ before text after, Blank before ∧ Blank after ∧ Spells v text ∧
      t = before ++ (text ++ (after ++ [']']))
  | v :: w :: items, t => ∃ before text after rest, Blank before ∧ Blank after ∧ Spells v text ∧
      SpellsItems (w :: items) rest ∧ t = before ++ (text ++ (after ++ ',' :: rest))

def SpellsMembers : List (String × Value) → List Char → Prop
  | [], t => ∃ before, Blank before ∧ t = before ++ ['}']
  | [(k, v)], t => ∃ before name colon value text after, Blank before ∧ Blank colon ∧
      Blank value ∧ Blank after ∧
      SpellsString k name ∧ Spells v text ∧
      t = before ++ (name ++ (colon ++ ':' :: (value ++ (text ++ (after ++ ['}'])))))
  | (k, v) :: m :: members, t => ∃ before name colon value text after rest, Blank before ∧
      Blank colon ∧ Blank value ∧
      Blank after ∧ SpellsString k name ∧ Spells v text ∧ SpellsMembers (m :: members) rest ∧
      t = before ++ (name ++ (colon ++ ':' :: (value ++ (text ++ (after ++ ',' :: rest)))))
end

/-- A whole text of the value. -/
def Spelled (v : Value) (s : String) : Prop :=
  ∃ before text after, Blank before ∧ Blank after ∧ Spells v text ∧ s.toList = before ++ (text ++ after)

/-! ## Reading tokens -/

theorem skip_of_blank {ws cs : List Char} (h : Blank ws) : skip (ws ++ cs) = skip cs := by
  induction ws with
  | nil => rfl
  | cons c ws ih =>
    have hc := h c List.mem_cons_self
    rw [List.cons_append, skip, List.dropWhile_cons_of_pos hc]
    exact ih fun x hx => h x (List.mem_cons_of_mem c hx)

theorem parseValue_of_blank {ws cs : List Char} (h : Blank ws) (fuel : Nat) :
    parseValue fuel (ws ++ cs) = parseValue fuel cs := by
  cases fuel with
  | zero => rfl
  | succ fuel => simp only [parseValue, skip_of_blank h]

theorem parseName_of_blank {ws cs : List Char} (h : Blank ws) : parseName (ws ++ cs) = parseName cs := by
  simp only [parseName, skip_of_blank h]

theorem follow_of_blank {ws cs : List Char} (h : Blank ws) (hc : Follow cs) : Follow (ws ++ cs) := by
  cases ws with
  | nil => exact hc
  | cons c ws =>
    refine follow_cons ?_ _
    rw [Bool.eq_false_iff]
    intro hn
    exact absurd (h c List.mem_cons_self) (by simp [(numberChar_ne hn).1])

theorem lexFrom_spells {c : Char} {t : List Char} (h : SpellsChar c t) (cs : List Char) :
    lexFrom none (t ++ cs) = emit [c] (lexFrom none cs) := by
  cases h with
  | plain quote slash printable => exact lexFrom_plain quote slash printable
  | letter h =>
    unfold unescapeLetter at h
    split at h <;> cases h <;> simp [lexFrom, unescapeLetter, flush]
  | unicode h =>
    have hc := not_surrogate c
    simp only [List.cons_append, List.nil_append, lexFrom, h, hc, Char.ofNat_toNat]
    simp [flush]
  | @pair _ _ _ _ _ _ _ _ high low h h' isHigh isLow =>
    have hnotLow : isLowSurrogate high = false := by
      rw [isHighSurrogate, Bool.and_eq_true, decide_eq_true_eq, decide_eq_true_eq] at isHigh
      rw [isLowSurrogate, Bool.and_eq_false_iff, decide_eq_false_iff_not]
      exact .inl (by omega)
    simp only [List.cons_append, List.nil_append, lexFrom, h, h', isHigh, isLow, hnotLow]
    simp [flush, emit, Option.map_map, Function.comp_def]

theorem lexString_spells {s t : List Char} (h : SpellsChars s t) (rest : List Char) :
    lexString (t ++ '"' :: rest) = some (s, rest) := by
  induction h with
  | nil => simp [lexString, lexFrom, flush]
  | cons head tail ih =>
    rw [lexString] at ih ⊢
    rw [List.append_assoc, lexFrom_spells head, ih]
    rfl

theorem parseValue_string {s : String} {t : List Char} (h : SpellsString s t)
    (fuel : Nat) (rest : List Char) :
    parseValue (fuel + 1) (t ++ rest) = some (.str s, rest) := by
  obtain ⟨cs, hcs, rfl⟩ := h
  have hquote : isBlank '"' = false := by decide
  simp [parseValue, skip_cons hquote, lexString_spells hcs]

theorem parseName_string {k : String} {t ws : List Char} (h : SpellsString k t)
    (hws : Blank ws) (rest : List Char) :
    parseName (t ++ (ws ++ ':' :: rest)) = some (k, rest) := by
  obtain ⟨cs, hcs, rfl⟩ := h
  have hquote : isBlank '"' = false := by decide
  have hcolon : isBlank ':' = false := by decide
  simp [parseName, skip_cons hquote, lexString_spells hcs, skip_of_blank hws, skip_cons hcolon]

/-- A text starts with neither a blank nor a closing bracket. -/
theorem spells_head {v : Value} {t : List Char} (h : Spells v t) :
    ∃ c cs, t = c :: cs ∧ isBlank c = false ∧ c ≠ ']' := by
  cases v with
  | null => exact ⟨'n', "ull".toList, by simpa [Spells] using h, by decide, by decide⟩
  | bool b =>
    cases b
    · exact ⟨'f', "alse".toList, by simpa [Spells] using h, by decide, by decide⟩
    · exact ⟨'t', "rue".toList, by simpa [Spells] using h, by decide, by decide⟩
  | num literal =>
    obtain ⟨hvalid, rfl⟩ : validNumber literal.toList = true ∧ t = literal.toList := by simpa [Spells] using h
    obtain ⟨c, cs, hc, hn⟩ := head_of_validNumber hvalid
    exact ⟨c, cs, hc, (numberChar_ne hn).1, (numberChar_ne hn).2.2.2.1⟩
  | str s =>
    obtain ⟨cs, -, rfl⟩ : SpellsString s t := by simpa [Spells] using h
    exact ⟨'"', _, rfl, by decide, by decide⟩
  | arr items =>
    obtain ⟨body, -, rfl⟩ : ∃ body, SpellsItems items body ∧ t = '[' :: body := by simpa [Spells] using h
    exact ⟨'[', body, rfl, by decide, by decide⟩
  | obj members =>
    obtain ⟨body, -, rfl⟩ : ∃ body, SpellsMembers members body ∧ t = '{' :: body := by simpa [Spells] using h
    exact ⟨'{', body, rfl, by decide, by decide⟩

/-! ## Reading values -/

theorem skip_skip (cs : List Char) : skip (skip cs) = skip cs := List.dropWhile_idempotent _ cs

theorem parseItems_skip (fuel : Nat) (cs : List Char) : parseItems fuel (skip cs) = parseItems fuel cs := by
  have hvalue (fuel : Nat) : parseValue fuel (skip cs) = parseValue fuel cs := by
    cases fuel <;> simp only [parseValue, skip_skip]
  cases fuel <;> simp only [parseItems, hvalue]

theorem parseMembers_skip (fuel : Nat) (cs : List Char) :
    parseMembers fuel (skip cs) = parseMembers fuel cs := by
  have hname : parseName (skip cs) = parseName cs := by simp only [parseName, skip_skip]
  cases fuel <;> simp only [parseMembers, hname]

theorem spellsItems_head {v : Value} {items : List Value} {t : List Char}
    (h : SpellsItems (v :: items) t) (rest : List Char) :
    ∃ c cs, skip (t ++ rest) = c :: cs ∧ c ≠ ']' := by
  obtain ⟨before, text, tail, hbefore, htext, rfl⟩ : ∃ before text tail, Blank before ∧ Spells v text ∧
      t = before ++ (text ++ tail) := by
    cases items with
    | nil =>
      rw [SpellsItems] at h
      obtain ⟨before, text, after, hbefore, -, htext, rfl⟩ := h
      exact ⟨before, text, _, hbefore, htext, rfl⟩
    | cons w items =>
      rw [SpellsItems] at h
      obtain ⟨before, text, after, tail, hbefore, -, htext, -, rfl⟩ := h
      exact ⟨before, text, _, hbefore, htext, rfl⟩
  obtain ⟨c, cs, rfl, hblank, hbracket⟩ := spells_head htext
  refine ⟨c, cs ++ (tail ++ rest), ?_, hbracket⟩
  simp [skip_of_blank hbefore, skip_cons hblank]

theorem spellsMembers_head {m : String × Value} {members : List (String × Value)} {t : List Char}
    (h : SpellsMembers (m :: members) t) (rest : List Char) : ∃ cs, skip (t ++ rest) = '"' :: cs := by
  obtain ⟨k, v⟩ := m
  obtain ⟨before, name, tail, hbefore, ⟨cs, -, rfl⟩, rfl⟩ : ∃ before name tail, Blank before ∧
    SpellsString k name ∧
      t = before ++ (name ++ tail) := by
    cases members with
    | nil =>
      rw [SpellsMembers] at h
      obtain ⟨before, name, colon, value, text, after, hbefore, -, -, -, hname, -, rfl⟩ := h
      exact ⟨before, name, _, hbefore, hname, rfl⟩
    | cons m members =>
      rw [SpellsMembers] at h
      obtain ⟨before, name, colon, value, text, after, tail, hbefore, -, -, -, hname, -, -, rfl⟩ := h
      exact ⟨before, name, _, hbefore, hname, rfl⟩
  have hquote : isBlank '"' = false := by decide
  exact ⟨cs ++ ('"' :: (tail ++ rest)), by simp [skip_of_blank hbefore, skip_cons hquote]⟩

mutual
/-- The parser reads a value from each of its texts, whatever follows. -/
theorem parseValue_spells :
    ∀ (v : Value) (fuel : Nat) (t rest : List Char), Spells v t → size v ≤ fuel → Follow rest →
    parseValue fuel (t ++ rest) = some (v, rest)
  | v, 0, _, _, _, hf, _ => by cases v <;> simp [size] at hf
  | .null, fuel + 1, _, rest, h, _, _ => by
    rw [Spells] at h
    rw [h]
    simp [parseValue, skip, isBlank]
  | .bool true, fuel + 1, _, rest, h, _, _ => by
    rw [Spells] at h
    rw [h]
    simp [parseValue, skip, isBlank]
  | .bool false, fuel + 1, _, rest, h, _, _ => by
    rw [Spells] at h
    rw [h]
    simp [parseValue, skip, isBlank]
  | .num literal, fuel + 1, _, rest, h, _, hr => by
    rw [Spells] at h
    rw [h.2, parseValue_number fuel h.1 hr, String.ofList_toList]
  | .str s, fuel + 1, _, rest, h, _, _ => by
    rw [Spells] at h
    exact parseValue_string h fuel rest
  | .arr [], fuel + 1, _, rest, h, _, _ => by
    simp only [Spells, SpellsItems] at h
    obtain ⟨_, ⟨before, hbefore, rfl⟩, rfl⟩ := h
    simp [parseValue, skip_cons (c := '[') (by decide), skip_of_blank hbefore,
        skip_cons (c := ']') (by decide)]
  | .arr (v :: items), fuel + 1, _, rest, h, hf, _ => by
    rw [Spells] at h
    obtain ⟨body, hbody, rfl⟩ := h
    have hitems := parseItems_spells v items fuel body rest hbody (by simp only [size] at hf; omega)
    obtain ⟨c, cs, hc, hbracket⟩ := spellsItems_head hbody rest
    rw [← parseItems_skip, hc] at hitems
    simp [parseValue, skip_cons (c := '[') (by decide), hc, hbracket, hitems]
  | .obj [], fuel + 1, _, rest, h, _, _ => by
    simp only [Spells, SpellsMembers] at h
    obtain ⟨_, ⟨before, hbefore, rfl⟩, rfl⟩ := h
    simp [parseValue, skip_cons (c := '{') (by decide), skip_of_blank hbefore,
        skip_cons (c := '}') (by decide)]
  | .obj (m :: members), fuel + 1, _, rest, h, hf, _ => by
    rw [Spells] at h
    obtain ⟨body, hbody, rfl⟩ := h
    have hmembers := parseMembers_spells m members fuel body rest hbody (by simp only [size] at hf; omega)
    obtain ⟨cs, hc⟩ := spellsMembers_head hbody rest
    rw [← parseMembers_skip, hc] at hmembers
    simp [parseValue, skip_cons (c := '{') (by decide), hc, hmembers]

theorem parseItems_spells : ∀ (v : Value) (items : List Value) (fuel : Nat) (t rest : List Char),
    SpellsItems (v :: items) t → sizeItems (v :: items) ≤ fuel →
    parseItems fuel (t ++ rest) = some (v :: items, rest)
  | v, items, 0, _, _, _, hf => by simp [sizeItems] at hf
  | v, [], fuel + 1, _, rest, h, hf => by
    rw [SpellsItems] at h
    obtain ⟨before, text, after, hbefore, hafter, htext, rfl⟩ := h
    have hvalue := parseValue_spells v fuel text (after ++ ']' :: rest) htext
      (by simp only [sizeItems] at hf; omega) (follow_of_blank hafter (follow_cons (by decide) _))
    simp [parseItems, parseValue_of_blank hbefore, hvalue, skip_of_blank hafter,
        skip_cons (c := ']') (by decide)]
  | v, w :: items, fuel + 1, _, rest, h, hf => by
    rw [SpellsItems] at h
    obtain ⟨before, text, after, tail, hbefore, hafter, htext, htail, rfl⟩ := h
    have hvalue := parseValue_spells v fuel text (after ++ ',' :: (tail ++ rest)) htext
      (by simp only [sizeItems] at hf; omega) (follow_of_blank hafter (follow_cons (by decide) _))
    have hitems := parseItems_spells w items fuel tail rest htail (by simp only [sizeItems] at hf ⊢; omega)
    simp [parseItems, parseValue_of_blank hbefore, hvalue, skip_of_blank hafter,
        skip_cons (c := ',') (by decide), hitems]

theorem parseMembers_spells :
    ∀ (m : String × Value) (members : List (String × Value)) (fuel : Nat) (t rest : List Char),
    SpellsMembers (m :: members) t → sizeMembers (m :: members) ≤ fuel →
    parseMembers fuel (t ++ rest) = some (m :: members, rest)
  | m, members, 0, _, _, _, hf => by simp [sizeMembers] at hf
  | (k, v), [], fuel + 1, _, rest, h, hf => by
    rw [SpellsMembers] at h
    obtain ⟨before, name, colon, value, text, after, hbefore, hcolon, hvalue, hafter, hname, htext, rfl⟩ := h
    have hparse := parseValue_spells v fuel text (after ++ '}' :: rest) htext
      (by simp only [sizeMembers] at hf; omega) (follow_of_blank hafter (follow_cons (by decide) _))
    simp [parseMembers, parseName_of_blank hbefore, parseName_string hname hcolon,
      parseValue_of_blank hvalue, hparse, skip_of_blank hafter, skip_cons (c := '}') (by decide)]
  | (k, v), m :: members, fuel + 1, _, rest, h, hf => by
    rw [SpellsMembers] at h
    obtain ⟨before, name, colon, value, text, after, tail, hbefore, hcolon, hvalue, hafter, hname,
        htext, htail, rfl⟩ := h
    have hparse := parseValue_spells v fuel text (after ++ ',' :: (tail ++ rest)) htext
      (by simp only [sizeMembers] at hf; omega) (follow_of_blank hafter (follow_cons (by decide) _))
    have hmembers := parseMembers_spells m members fuel tail rest htail
      (by simp only [sizeMembers] at hf ⊢; omega)
    simp [parseMembers, parseName_of_blank hbefore, parseName_string hname hcolon,
      parseValue_of_blank hvalue, hparse, skip_of_blank hafter,
      skip_cons (c := ',') (by decide), hmembers]
end

mutual
theorem size_le_spells : ∀ (v : Value) (t : List Char), Spells v t → size v ≤ 2 * t.length
  | .arr items, _, h => by
    rw [Spells] at h
    obtain ⟨body, hbody, rfl⟩ := h
    have := sizeItems_le_spells items body hbody
    simp only [size, List.length_cons]
    omega
  | .obj members, _, h => by
    rw [Spells] at h
    obtain ⟨body, hbody, rfl⟩ := h
    have := sizeMembers_le_spells members body hbody
    simp only [size, List.length_cons]
    omega
  | .null, t, h | .bool _, t, h | .num _, t, h | .str _, t, h => by
    obtain ⟨c, cs, rfl, -⟩ := spells_head h
    simp only [size, List.length_cons]
    omega

theorem sizeItems_le_spells : ∀ (items : List Value) (t : List Char), SpellsItems items t →
    sizeItems items ≤ 2 * t.length
  | [], _, _ => by simp [sizeItems]
  | [v], _, h => by
    rw [SpellsItems] at h
    obtain ⟨before, text, after, -, -, htext, rfl⟩ := h
    have := size_le_spells v text htext
    simp only [sizeItems, List.length_append, List.length_singleton]
    omega
  | v :: w :: items, _, h => by
    rw [SpellsItems] at h
    obtain ⟨before, text, after, tail, -, -, htext, htail, rfl⟩ := h
    have := size_le_spells v text htext
    have := sizeItems_le_spells (w :: items) tail htail
    simp only [sizeItems, List.length_append, List.length_cons] at this ⊢
    omega

theorem sizeMembers_le_spells : ∀ (members : List (String × Value)) (t : List Char), SpellsMembers members t →
    sizeMembers members ≤ 2 * t.length
  | [], _, _ => by simp [sizeMembers]
  | [(k, v)], _, h => by
    rw [SpellsMembers] at h
    obtain ⟨before, name, colon, value, text, after, -, -, -, -, -, htext, rfl⟩ := h
    have := size_le_spells v text htext
    simp only [sizeMembers, List.length_append, List.length_cons]
    omega
  | (k, v) :: m :: members, _, h => by
    rw [SpellsMembers] at h
    obtain ⟨before, name, colon, value, text, after, tail, -, -, -, -, -, htext, htail, rfl⟩ := h
    have := size_le_spells v text htext
    have := sizeMembers_le_spells (m :: members) tail htail
    simp only [sizeMembers, List.length_append, List.length_cons] at this ⊢
    omega
end

/-- Every text of a value is read as that value. -/
theorem parse_spelled {v : Value} {s : String} (h : Spelled v s) : parse s = some v := by
  obtain ⟨before, text, after, hbefore, hafter, htext, hs⟩ := h
  have hsize := size_le_spells v text htext
  have hfollow : Follow after := by
    have := @follow_of_blank after [] hafter (by simp [Follow])
    rwa [List.append_nil] at this
  have hend : skip after = [] := by
    have := @skip_of_blank after [] hafter
    rwa [List.append_nil] at this
  have hfuel : size v ≤ fuelFor s.toList := by
    rw [fuelFor, hs, List.length_append, List.length_append]
    omega
  rw [parse, hs, parseValue_of_blank hbefore, ← hs, parseValue_spells v _ text after htext hfuel hfollow]
  simp [hend]

end Json
