import IncidentBoard.Json.Reader

/-!
# JSON from octets

The encoding of a body is told from its first octets: a byte order mark, or the place of zeros
around the first character, and UTF-8 otherwise.

## Main definitions

* `Octets.Encoding`, `Octets.encodingOf` — the encodings, and the one of a body.
* `Octets.decode?` — the characters of a body.
* `Octets.text?` — the text whose UTF-8 octets are.
* `Json.ofOctets?` — the value of a body.
* `Json.asText?` — the text that a value stands for.
-/

namespace IncidentBoard

namespace Octets

/-- How characters are laid out in octets. -/
inductive Encoding where
  | utf8
  | utf16 (bigEndian : Bool)
  | utf32 (bigEndian : Bool)
  deriving DecidableEq, Repr

/-- The encoding of a body, and the length of its byte order mark. -/
def encodingOf : List Nat → Encoding × Nat
  | 0x00 :: 0x00 :: 0xFE :: 0xFF :: _ => (.utf32 true, 4)
  | 0xFF :: 0xFE :: 0x00 :: 0x00 :: _ => (.utf32 false, 4)
  | 0xFE :: 0xFF :: _ => (.utf16 true, 2)
  | 0xFF :: 0xFE :: _ => (.utf16 false, 2)
  | 0xEF :: 0xBB :: 0xBF :: _ => (.utf8, 3)
  | a :: b :: c :: d :: _ =>
    if a = 0 then (if b = 0 then .utf32 true else .utf16 true, 0)
    else if b = 0 then (if c = 0 ∧ d = 0 then .utf32 false else .utf16 false, 0)
    else (.utf8, 0)
  | [a, b] =>
    if a = 0 then (.utf16 true, 0) else if b = 0 then (.utf16 false, 0) else (.utf8, 0)
  | _ => (.utf8, 0)

def isTail (b : Nat) : Bool := 0x80 ≤ b && b ≤ 0xBF

/-- The six bits of an octet that continues a character. -/
def tailBits (b : Nat) : Nat := b - 0x80

def utf8? : List Nat → Option (List Char)
  | [] => some []
  | a :: rest =>
    if a < 0x80 then (utf8? rest).map (Char.ofNat a :: ·)
    else
      match rest with
      | [] => none
      | b :: rest =>
        if !isTail b then none
        else if 0xC2 ≤ a ∧ a ≤ 0xDF then
          (utf8? rest).map (Char.ofNat ((a - 0xC0) * 0x40 + tailBits b) :: ·)
        else
          match rest with
          | [] => none
          | c :: rest =>
            if !isTail c then none
            else if 0xE0 ≤ a ∧ a ≤ 0xEF then
              if a = 0xE0 ∧ b < 0xA0 then none
              else
                (utf8? rest).map
                  (Text.charOfCode ((a - 0xE0) * 0x1000 + tailBits b * 0x40 + tailBits c) :: ·)
            else
              match rest with
              | [] => none
              | d :: rest =>
                if !isTail d then none
                else if 0xF0 ≤ a ∧ a ≤ 0xF4 then
                  if (a = 0xF0 ∧ b < 0x90) ∨ (a = 0xF4 ∧ 0x8F < b) then none
                  else
                    (utf8? rest).map
                      (Char.ofNat ((a - 0xF0) * 0x40000 + tailBits b * 0x1000 +
                        tailBits c * 0x40 + tailBits d) :: ·)
                else none

def units16? (bigEndian : Bool) : List Nat → Option (List Nat)
  | [] => some []
  | a :: b :: rest =>
    (units16? bigEndian rest).map ((if bigEndian then a * 0x100 + b else b * 0x100 + a) :: ·)
  | [_] => none

/-- The characters of 16-bit units; a half without its other half is replaced. -/
def utf16 : List Nat → List Char
  | [] => []
  | u :: rest =>
    if 0xD800 ≤ u ∧ u < 0xDC00 then
      match rest with
      | v :: more =>
        if 0xDC00 ≤ v ∧ v < 0xE000 then
          Char.ofNat (0x10000 + (u - 0xD800) * 0x400 + (v - 0xDC00)) :: utf16 more
        else Text.charOfCode u :: utf16 (v :: more)
      | [] => [Text.charOfCode u]
    else Text.charOfCode u :: utf16 rest

def utf32? (bigEndian : Bool) : List Nat → Option (List Char)
  | [] => some []
  | a :: b :: c :: d :: rest =>
    let code := if bigEndian then ((a * 0x100 + b) * 0x100 + c) * 0x100 + d
      else ((d * 0x100 + c) * 0x100 + b) * 0x100 + a
    if 0x10FFFF < code then none else (utf32? bigEndian rest).map (Text.charOfCode code :: ·)
  | _ => none

def decode? (body : List Nat) : Option (List Char) :=
  let (encoding, mark) := encodingOf body
  let body := body.drop mark
  match encoding with
  | .utf8 => utf8? body
  | .utf16 bigEndian => (units16? bigEndian body).map utf16
  | .utf32 bigEndian => utf32? bigEndian body

/-- The text that octets are in UTF-8. Halves of pairs are read above but never written, so octets
are a text only if it is written as them. -/
def text? (os : List UInt8) : Option String :=
  match utf8? (os.map UInt8.toNat) with
  | some cs => if cs.flatMap String.utf8EncodeChar = os then some (String.ofList cs) else none
  | none => none

end Octets

/-- The text that a value stands for: itself with halves of pairs replaced, or that of octets. -/
def Json.asText? : Json → Option String
  | .text s => some s
  | .loose t => some t.replaced
  | .bytes os => Octets.text? os
  | _ => none

/-- The value of a body, if it is JSON. -/
def Json.ofOctets? (body : List Nat) : Option Json :=
  match Octets.decode? body with
  | none => none
  | some cs =>
    match Json.parseChars cs with
    | .ok v => some v
    | .error _ => none

end IncidentBoard
