import MailService.Lib.Text
/-!
# Bare mail addresses

When `mail.ParseAddress` reads a text as one address without a display name
whose printed form is the text itself: a dot-atom, one `@`, and a dot-atom or an
IP address in brackets. A quoted local part does not print as it was written.
-/

namespace Mail

/-- `isAtext` with the dot allowed. -/
def isAtext (c : Char) : Bool :=
  if c ∈ ['(', ')', '<', '>', '[', ']', ':', ';', '@', '\\', ',', '"'] then false
  else ('!' ≤ c && c ≤ '~') || 0x80 ≤ c.toNat

def hasDoubleDot : List Char → Bool
  | '.' :: '.' :: _ => true
  | _ :: cs => hasDoubleDot cs
  | [] => false

def isDotAtom (cs : List Char) : Bool :=
  !cs.isEmpty && cs.all isAtext && cs.head? ≠ some '.' && cs.getLast? ≠ some '.' && !hasDoubleDot cs

/-! ## Domain literals -/

/-- A field of an IPv4 address: at most 255, without a leading zero. -/
def isOctet (cs : List Char) : Bool :=
  match cs with
  | [] => false
  | ['0'] => true
  | c :: _ => c ≠ '0' && cs.length ≤ 3 && cs.all Char.isDigit &&
      cs.foldl (fun n c => 10 * n + (c.toNat - '0'.toNat)) 0 ≤ 255

def isIPv4 (cs : List Char) : Bool :=
  let fields := cs.splitOn '.'
  fields.length = 4 && fields.all isOctet

/-- The loop of `parseIPv6` with `groups` still to fill, after an ellipsis or not. An IPv4
address takes the last two groups, and an ellipsis stands for one group at least. -/
def isIPv6From (groups : Nat) (ellipsis : Bool) (cs : List Char) : Bool :=
  match groups with
  | 0 => false
  | groups + 1 =>
    let digits := cs.takeWhile fun c => (Text.hexValue c).isSome
    let rest := cs.dropWhile fun c => (Text.hexValue c).isSome
    if digits.isEmpty then false
    else match rest with
    | '.' :: _ => (groups = 1 || ellipsis && 1 < groups) && isIPv4 cs
    | rest => digits.length ≤ 4 &&
      match rest with
      | [] => if groups = 0 then !ellipsis else ellipsis
      | [':', ':'] => !ellipsis && groups ≠ 0
      | ':' :: ':' :: rest => !ellipsis && isIPv6From groups true rest
      | ':' :: rest => !rest.isEmpty && isIPv6From groups ellipsis rest
      | _ => false

def isIPv6 (cs : List Char) : Bool :=
  match cs with
  | [':', ':'] => true
  | ':' :: ':' :: rest => isIPv6From 8 true rest
  | cs => isIPv6From 8 false cs

/-- `net.ParseIP` succeeds; it takes no zone. -/
def isIP (cs : List Char) : Bool :=
  match cs.find? fun c => c ∈ ['.', ':', '%'] with
  | some '.' => isIPv4 cs
  | some ':' => isIPv6 cs
  | _ => false

/-- An IP address in brackets. -/
def isDomainLiteral (cs : List Char) : Bool :=
  match cs with
  | '[' :: cs => cs.getLast? = some ']' && isIP cs.dropLast
  | _ => false

def isBareAddress (s : String) : Bool :=
  match s.toList.span (· ≠ '@') with
  | (localPart, '@' :: domain) => isDotAtom localPart && (isDotAtom domain || isDomainLiteral domain)
  | _ => false

example : ["a.b@example.com", "a@[192.0.2.1]", "a@[2001:db8::1]", "a@[::ffff:1.2.3.4]", "a@[::]"].all
    isBareAddress = true ∧
    ["a@[256.0.0.1]", "a@[01.2.3.4]", "a@[1:2:3:4:5:6:7::8]", "a@[fe80::1%eth0]"].any isBareAddress =
      false := by
  decide

end Mail
