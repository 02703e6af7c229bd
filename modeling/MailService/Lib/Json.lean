import MailService.Lib.Text
import Mathlib.Order.Basic
/-!
# JSON texts

Values, the texts that encoders write for them and the parser that reads them
back. An encoder is a `Style`: which characters it escapes beyond those it must,
and whether a blank follows `,` and `:`. Go's `encoding/json` and PostgreSQL's
`jsonb` output are two of them. A number keeps its literal (`json.Number`), and
an object keeps its members in order, repeated names included.
-/
open Text

namespace Json

inductive Value
  | null
  | bool (b : Bool)
  | num (literal : String)
  | str (s : String)
  | arr (items : List Value)
  | obj (members : List (String × Value))
  deriving Repr

def Value.isObject : Value → Bool
  | .obj _ => true
  | _ => false

/-! ## Writing -/

structure Style where
  /-- Characters written as `\u` escapes although JSON allows them as they are. -/
  escaped : Char → Bool
  spaced : Bool
  escaped_lt : ∀ c, escaped c = true → c.toNat < 0x10000

/-- `json.Marshal`: compact, with the HTML characters escaped. -/
def Style.go : Style where
  escaped c := c.toNat ∈ [0x3c, 0x3e, 0x26, 0x2028, 0x2029]
  spaced := false
  escaped_lt c h := by
    have h := of_decide_eq_true h
    simp only [List.mem_cons, List.not_mem_nil, or_false] at h
    omega

/-- The text of a `jsonb` value. -/
def Style.jsonb : Style where
  escaped _ := false
  spaced := true
  escaped_lt _ h := by simp at h

def hex4 (n : Nat) : List Char :=
  [hexDigit (Fin.ofNat 16 (n / 4096)), hexDigit (Fin.ofNat 16 (n / 256)), hexDigit (Fin.ofNat 16 (n / 16)),
    hexDigit (Fin.ofNat 16 n)]

/-- The characters that a short escape names, with the letter that names them. -/
def shortEscapes : List (Char × Char) :=
  [('"', '"'), ('\\', '\\'), ('\x08', 'b'), ('\x0c', 'f'), ('\n', 'n'), ('\r', 'r'), ('\t', 't')]

def escapeChar (st : Style) (c : Char) : List Char :=
  match shortEscapes.lookup c with
  | some letter => ['\\', letter]
  | none => if c.toNat < 0x20 ∨ st.escaped c = true then '\\' :: 'u' :: hex4 c.toNat else [c]

def escape (st : Style) (s : List Char) : List Char := s.flatMap (escapeChar st)

def quote (st : Style) (s : String) : List Char := '"' :: (escape st s.toList ++ ['"'])

def blank (st : Style) : List Char := if st.spaced then [' '] else []

def separator (st : Style) (c : Char) : List Char := c :: blank st

mutual
def render (st : Style) : Value → List Char
  | .null => "null".toList
  | .bool true => "true".toList
  | .bool false => "false".toList
  | .num literal => literal.toList
  | .str s => quote st s
  | .arr items => '[' :: renderItems st items
  | .obj members => '{' :: renderMembers st members

/-- The items and the closing bracket. -/
def renderItems (st : Style) : List Value → List Char
  | [] => [']']
  | [v] => render st v ++ [']']
  | v :: w :: items => render st v ++ (separator st ',' ++ renderItems st (w :: items))

/-- The members and the closing brace. -/
def renderMembers (st : Style) : List (String × Value) → List Char
  | [] => ['}']
  | [(k, v)] => quote st k ++ (separator st ':' ++ (render st v ++ ['}']))
  | (k, v) :: m :: members =>
    quote st k ++ (separator st ':' ++ (render st v ++ (separator st ',' ++ renderMembers st (m :: members))))
end

/-- The encoder's text for a value. -/
def marshal (st : Style) (v : Value) : String := .ofList (render st v)

/-! ## Reading -/

def isBlank (c : Char) : Bool := c = ' ' ∨ c = '\t' ∨ c = '\n' ∨ c = '\r'

def skip (cs : List Char) : List Char := cs.dropWhile isBlank

def unhex4 (a b c d : Char) : Option Nat :=
  match hexValue a, hexValue b, hexValue c, hexValue d with
  | some a, some b, some c, some d => some (((a * 16 + b : Nat) * 16 + c) * 16 + d)
  | _, _, _, _ => none

def unescapeLetter : Char → Option Char
  | '"' => some '"'
  | '\\' => some '\\'
  | '/' => some '/'
  | 'b' => some '\x08'
  | 'f' => some '\x0c'
  | 'n' => some '\n'
  | 'r' => some '\r'
  | 't' => some '\t'
  | _ => none

def isHighSurrogate (n : Nat) : Bool := 0xd800 ≤ n && n < 0xdc00

def isLowSurrogate (n : Nat) : Bool := 0xdc00 ≤ n && n < 0xe000

/-- A high surrogate that got no partner reads as U+FFFD. -/
def flush (pending : Option Nat) : List Char := if pending.isSome then ['\ufffd'] else []

def emit (s : List Char) (r : Option (List Char × List Char)) : Option (List Char × List Char) :=
  r.map fun (t, rest) => (s ++ t, rest)

/-- The rest of a string after a high surrogate that waits for its partner, or
after no such. -/
def lexFrom (pending : Option Nat) : List Char → Option (List Char × List Char)
  | '"' :: cs => some (flush pending, cs)
  | '\\' :: 'u' :: a :: b :: c :: d :: cs =>
    match unhex4 a b c d with
    | none => none
    | some n =>
      if isLowSurrogate n then
        match pending with
        | some high => emit [Char.ofNat (0x10000 + (high - 0xd800) * 0x400 + (n - 0xdc00))] (lexFrom none cs)
        | none => emit ['\ufffd'] (lexFrom none cs)
      else if isHighSurrogate n then emit (flush pending) (lexFrom (some n) cs)
      else emit (flush pending ++ [Char.ofNat n]) (lexFrom none cs)
  | '\\' :: letter :: cs =>
    match unescapeLetter letter with
    | some c => emit (flush pending ++ [c]) (lexFrom none cs)
    | none => none
  | c :: cs => if c.toNat < 0x20 ∨ c = '\\' then none else emit (flush pending ++ [c]) (lexFrom none cs)
  | [] => none

/-- The content of a string whose opening quote has been read, and what follows
its closing quote. -/
def lexString (cs : List Char) : Option (List Char × List Char) := lexFrom none cs

def numberChar (c : Char) : Bool := c.isDigit || c ∈ ['-', '+', '.', 'e', 'E']

def exponentDigits (cs : List Char) : Bool := !cs.isEmpty && cs.all Char.isDigit

def validExponent : List Char → Bool
  | [] => true
  | 'e' :: '+' :: cs | 'E' :: '+' :: cs | 'e' :: '-' :: cs | 'E' :: '-' :: cs => exponentDigits cs
  | 'e' :: cs | 'E' :: cs => exponentDigits cs
  | _ => false

def validFraction : List Char → Bool
  | '.' :: cs => !(cs.takeWhile Char.isDigit).isEmpty && validExponent (cs.dropWhile Char.isDigit)
  | cs => validExponent cs

def validUnsigned (cs : List Char) : Bool :=
  match cs.takeWhile Char.isDigit with
  | [] => false
  | ['0'] => validFraction (cs.dropWhile Char.isDigit)
  | c :: _ => c ≠ '0' && validFraction (cs.dropWhile Char.isDigit)

def validNumber (cs : List Char) : Bool :=
  cs.all numberChar &&
    match cs with
    | '-' :: cs => validUnsigned cs
    | cs => validUnsigned cs

/-- The longest run of number characters. No value may follow a number without
a separator, so a run that is no number has no number before it either. -/
def lexNumber (cs : List Char) : Option (List Char × List Char) :=
  if validNumber (cs.takeWhile numberChar) then
    some (cs.takeWhile numberChar, cs.dropWhile numberChar) else none

/-- A member's name and its colon. -/
def parseName (cs : List Char) : Option (String × List Char) :=
  match skip cs with
  | '"' :: cs =>
    match lexString cs with
    | none => none
    | some (k, rest) =>
      match skip rest with
      | ':' :: rest => some (.ofList k, rest)
      | _ => none
  | _ => none

mutual
def parseValue : Nat → List Char → Option (Value × List Char)
  | 0, _ => none
  | fuel + 1, cs =>
    match skip cs with
    | '"' :: cs => (lexString cs).map fun (s, rest) => (.str (.ofList s), rest)
    | '[' :: cs =>
      match skip cs with
      | ']' :: rest => some (.arr [], rest)
      | cs => (parseItems fuel cs).map fun (items, rest) => (.arr items, rest)
    | '{' :: cs =>
      match skip cs with
      | '}' :: rest => some (.obj [], rest)
      | cs => (parseMembers fuel cs).map fun (members, rest) => (.obj members, rest)
    | 'n' :: 'u' :: 'l' :: 'l' :: rest => some (.null, rest)
    | 't' :: 'r' :: 'u' :: 'e' :: rest => some (.bool true, rest)
    | 'f' :: 'a' :: 'l' :: 's' :: 'e' :: rest => some (.bool false, rest)
    | cs => (lexNumber cs).map fun (literal, rest) => (.num (.ofList literal), rest)

/-- One or more items, through the closing bracket. -/
def parseItems : Nat → List Char → Option (List Value × List Char)
  | 0, _ => none
  | fuel + 1, cs =>
    match parseValue fuel cs with
    | none => none
    | some (v, rest) =>
      match skip rest with
      | ']' :: rest => some ([v], rest)
      | ',' :: rest => (parseItems fuel rest).map fun (items, rest) => (v :: items, rest)
      | _ => none

/-- One or more members, through the closing brace. -/
def parseMembers : Nat → List Char → Option (List (String × Value) × List Char)
  | 0, _ => none
  | fuel + 1, cs =>
    match parseName cs with
    | none => none
    | some (k, rest) =>
      match parseValue fuel rest with
      | none => none
      | some (v, rest) =>
        match skip rest with
        | '}' :: rest => some ([(k, v)], rest)
        | ',' :: rest => (parseMembers fuel rest).map fun (members, rest) => ((k, v) :: members, rest)
        | _ => none
end

/-- Enough fuel for every text: a nested value costs two units and a character. -/
def fuelFor (cs : List Char) : Nat := 2 * cs.length + 2

/-- The value of a whole text; `json.Valid` is that there is one. -/
def parse (s : String) : Option Value :=
  match parseValue (fuelFor s.toList) s.toList with
  | some (v, rest) => if skip rest = [] then some v else none
  | none => none

/-- The members of an object with each value left as the text it was read from. -/
def parseRawMembers : Nat → List Char → Option (List (String × String) × List Char)
  | 0, _ => none
  | fuel + 1, cs =>
    match parseName cs with
    | none => none
    | some (k, value) =>
      match parseValue fuel value with
      | none => none
      | some (_, rest) =>
        let raw := .ofList ((skip value).take ((skip value).length - rest.length))
        match skip rest with
        | '}' :: rest => some ([(k, raw)], rest)
        | ',' :: rest => (parseRawMembers fuel rest).map fun (members, rest) => ((k, raw) :: members, rest)
        | _ => none

/-- The first value of a text if it is an object, as its members' names and
`json.RawMessage`s, and what follows it. -/
def rawMembers (s : String) : Option (List (String × String) × List Char) :=
  match skip s.toList with
  | '{' :: cs =>
    match skip cs with
    | '}' :: rest => some ([], rest)
    | cs => parseRawMembers (fuelFor s.toList) cs
  | _ => none

/-! ## Canonical order -/

/-- The member with name `k` set to `v` in an ordered object. -/
def upsert {α : Type*} (cmp : String → String → Ordering) (k : String) (v : α) : List (String × α) →
    List (String × α)
  | [] => [(k, v)]
  | (l, w) :: members =>
    match cmp k l with
    | .lt => (k, v) :: (l, w) :: members
    | .eq => (k, v) :: members
    | .gt => (l, w) :: upsert cmp k v members

/-- The members in the order of their names, the last of each name. -/
def sortMembers {α : Type*} (cmp : String → String → Ordering) (members : List (String × α)) :
    List (String × α) :=
  members.foldl (fun sorted m => upsert cmp m.1 m.2 sorted) []

mutual
/-- The value as a map from names to values, listed in the order of the names. -/
def canon (cmp : String → String → Ordering) : Value → Value
  | .arr items => .arr (canonItems cmp items)
  | .obj members => .obj (sortMembers cmp (canonMembers cmp members))
  | v => v

def canonItems (cmp : String → String → Ordering) : List Value → List Value
  | [] => []
  | v :: items => canon cmp v :: canonItems cmp items

def canonMembers (cmp : String → String → Ordering) : List (String × Value) → List (String × Value)
  | [] => []
  | (k, v) :: members => (k, canon cmp v) :: canonMembers cmp members
end

/-- Go lists the keys of a map in byte order. -/
def goOrder : String → String → Ordering := compare

/-- A `jsonb` object lists shorter keys first, then by bytes. -/
def jsonbOrder : String → String → Ordering := compareLex (compareOn len) compare

mutual
/-- Some name or string of the value satisfies `p`. -/
def anyString (p : String → Bool) : Value → Bool
  | .str s => p s
  | .arr items => anyStringItems p items
  | .obj members => anyStringMembers p members
  | _ => false

def anyStringItems (p : String → Bool) : List Value → Bool
  | [] => false
  | v :: items => anyString p v || anyStringItems p items

def anyStringMembers (p : String → Bool) : List (String × Value) → Bool
  | [] => false
  | (k, v) :: members => p k || anyString p v || anyStringMembers p members
end

mutual
/-- The nesting of objects and arrays; a scalar has none. -/
def depth : Value → Nat
  | .arr items => depthItems items
  | .obj members => depthMembers members
  | _ => 0

def depthItems : List Value → Nat
  | [] => 1
  | v :: items => max (1 + depth v) (depthItems items)

def depthMembers : List (String × Value) → Nat
  | [] => 1
  | (_, v) :: members => max (1 + depth v) (depthMembers members)
end

/-- `encoding/json` reads no text that nests deeper. -/
def maxNestingDepth : Nat := 10000

end Json
