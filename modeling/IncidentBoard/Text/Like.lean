import IncidentBoard.Json.Octets

/-!
# Patterns

Patterns of a search: a percent sign stands for any text, an underscore for any one character, and
an escape character takes the special meaning from the character behind it. ASCII letters match
without regard to case, and two codes are taken for another one. The texts that are searched are
lists of codes, for octets may be searched that are no text.

## Main definitions

* `Like.Token`, `Like.tokens` — the parts of a pattern.
* `Like.folded`, `Like.seen` — what a pattern sees of a code and of a character.
* `Like.codesOf` — the codes that are read from octets.
* `Like.isMatch` — whether a text matches a pattern.
* `Like.containing` — the pattern of the texts that hold a term.
-/

namespace IncidentBoard.Like

/-- The part of a pattern. -/
inductive Token where
  | anyText
  | anyChar
  | char (c : Char)
  deriving DecidableEq, Repr

/-- The character that takes the special meaning from the one behind it. -/
def escape : Char := '/'

/-- The parts of a pattern; an escape at its end stands for a character that no text has. -/
def tokens : List Char → Option (List Token)
  | [] => some []
  | c :: rest =>
    if c = escape then
      match rest with
      | [] => none
      | d :: rest => (tokens rest).map (.char d :: ·)
    else if c = '%' then (tokens rest).map (.anyText :: ·)
    else if c = '_' then (tokens rest).map (.anyChar :: ·)
    else (tokens rest).map (.char c :: ·)

/-- What a pattern sees of a code: an ASCII letter in lower case, and the replacement character in
place of the last two codes of the first plane. -/
def folded (code : Nat) : Nat :=
  if 65 ≤ code ∧ code ≤ 90 then code + 32
  else if code = 0xFFFE ∨ code = 0xFFFF then 0xFFFD
  else code

/-- What a pattern sees of a character. -/
def seen (c : Char) : Nat := folded c.toNat

/-- Whether a text matches the parts of a pattern. -/
def matchTokens : List Token → List Nat → Bool
  | [], s => s.isEmpty
  | .anyText :: p, s =>
    matchTokens p s || (match s with
      | [] => false
      | _ :: rest => matchTokens (.anyText :: p) rest)
  | .anyChar :: p, s =>
    match s with
    | [] => false
    | _ :: rest => matchTokens p rest
  | .char c :: p, s =>
    match s with
    | [] => false
    | code :: rest => seen c == folded code && matchTokens p rest
  termination_by p s => (p.length, s.length)

/-- Whether a text matches a pattern; both end at their first NUL. -/
def isMatch (pattern : List Char) (text : List Nat) : Bool :=
  match tokens (pattern.takeWhile (· ≠ '\x00')) with
  | some p => matchTokens p (text.takeWhile (· ≠ 0))
  | none => false

def escaped (term : List Char) : List Char :=
  term.flatMap fun c => if c = escape ∨ c = '%' ∨ c = '_' then [escape, c] else [c]

/-- The pattern of the texts that hold a term. -/
def containing (term : List Char) : List Char := '%' :: escaped term ++ ['%']

/-! ## Octets -/

/-- The bits of a code that the first octet of several gives. -/
def leadBits (octet : Nat) : Nat :=
  if octet < 0xE0 then octet - 0xC0
  else if octet < 0xF0 then octet - 0xE0
  else if octet < 0xF8 then octet - 0xF0
  else if octet < 0xFC then octet - 0xF8
  else if octet < 0xFE then octet - 0xFC
  else 0

/-- The code of several octets; one that needs fewer octets, or is half of a pair, is replaced. -/
def wideCode (code : Nat) : Nat := if code < 0x80 ∨ Text.isHalf code then 0xFFFD else code

/-- The codes that are read from octets, behind the bits of a code that has begun. A code takes all
octets that continue one, and octets that should continue a code stand for themselves elsewhere. -/
def codesBehind : Option Nat → List Nat → List Nat
  | begun, [] => begun.toList.map wideCode
  | begun, octet :: rest =>
    match begun, Octets.isTail octet with
    | some bits, true => codesBehind (some ((bits * 0x40 + Octets.tailBits octet) % 2 ^ 32)) rest
    | _, _ =>
      let ended := begun.toList.map wideCode
      if octet < 0xC0 then ended ++ octet :: codesBehind none rest
      else ended ++ codesBehind (some (leadBits octet)) rest

/-- The codes that are read from octets, whether they are a text or not. -/
def codesOf (octets : List UInt8) : List Nat := codesBehind none (octets.map UInt8.toNat)

end IncidentBoard.Like
