import IncidentBoard.Json.Octets

/-!
# Percent encoding

Octets of a text written as a percent sign and two hexadecimal digits. Forms keep letters, digits
and four marks, and write a space as a plus sign; other places of an address keep more.

## Main definitions

* `Percent.encode` — a text with the characters of a set kept.
* `Percent.form` — a text in a form.
* `Percent.decode` — the text that an encoded text stands for.
-/

namespace IncidentBoard.Percent

def hexDigit (n : Nat) : Char := if n < 10 then Char.ofNat (48 + n) else Char.ofNat (55 + n)

/-- An octet as a percent sign and two digits. -/
def octet (n : Nat) : List Char := ['%', hexDigit (n / 16), hexDigit (n % 16)]

def octetsOf (c : Char) : List Nat :=
  (String.utf8EncodeChar c).map (·.toNat)

/-- A text in which all but the kept characters are encoded. -/
def encode (keep : Char → Bool) (s : String) : String :=
  String.ofList (s.toList.flatMap fun c => if keep c then [c] else (octetsOf c).flatMap octet)

def isUnreserved (c : Char) : Bool :=
  c.isAlphanum || c == '-' || c == '.' || c == '_' || c == '~'

def form (s : String) : String :=
  String.ofList (s.toList.flatMap fun c =>
    if c = ' ' then ['+'] else if isUnreserved c then [c] else (octetsOf c).flatMap octet)

def formPairs (pairs : List (String × String)) : String :=
  String.intercalate "&" (pairs.map fun (k, v) => form k ++ "=" ++ form v)

/-- The octets that an encoded text stands for. -/
def decodeOctets : List Char → List Nat
  | [] => []
  | '%' :: a :: b :: rest =>
    match Json.hexDigit? a, Json.hexDigit? b with
    | some x, some y => (x * 16 + y) :: decodeOctets rest
    | _, _ => 0x25 :: decodeOctets (a :: b :: rest)
  | c :: rest => octetsOf c ++ decodeOctets rest

/-- The text that an encoded text stands for; octets that are no text are replaced as a whole. -/
def decode (s : String) : String :=
  match Octets.utf8? (decodeOctets s.toList) with
  | some cs => String.ofList cs
  | none => String.ofList ((decodeOctets s.toList).map fun n =>
      if n < 0x80 then Char.ofNat n else Char.ofNat 0xFFFD)

end IncidentBoard.Percent
