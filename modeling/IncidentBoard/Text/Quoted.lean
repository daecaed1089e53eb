import IncidentBoard.Text.Hidden
import IncidentBoard.Text.Loose

/-!
# Quoted text

Text between quotes as messages show it. Single quotes, unless the text holds one and no double
quote; the quote in use, backslashes and hidden characters are escaped. Octets are shown like text,
with a mark before the quotes.

## Main definitions

* `Text.quoted` — the quoted form of a text.
* `Text.quotedLoose`, `Text.quotedOctets` — those of loose text and of octets.
-/

namespace IncidentBoard.Text

/-- A natural in hexadecimal, padded with zeros to a width. -/
def hex (width n : Nat) : String :=
  let ds := Nat.toDigits 16 n
  String.ofList (List.replicate (width - ds.length) '0' ++ ds)

/-- A character between quotes of the given kind. -/
def quotedChar (quote c : Char) : String :=
  if c = quote ∨ c = '\\' then String.ofList ['\\', c]
  else if c = '\n' then "\\n"
  else if c = '\t' then "\\t"
  else if c = '\r' then "\\r"
  else if isHidden c then
    let n := c.toNat
    if n ≤ 0xFF then "\\x" ++ hex 2 n
    else if n ≤ 0xFFFF then "\\u" ++ hex 4 n
    else "\\U" ++ hex 8 n
  else c.toString

/-- The quote around a text: double exactly where that spares an escape. -/
def quoteFor (s : String) : Char :=
  if s.toList.contains '\'' && !s.toList.contains '"' then '"' else '\''

def quoted (s : String) : String :=
  let quote := quoteFor s
  quote.toString ++ String.join (s.toList.map (quotedChar quote)) ++ quote.toString

def quotedLoose (t : LooseText) : String :=
  let quote := quoteFor t.replaced
  let shown := t.codes.map fun code =>
    if isHalf code then "\\u" ++ hex 4 code else quotedChar quote (charOfCode code)
  quote.toString ++ String.join shown ++ quote.toString

def quotedOctets (os : List UInt8) : String :=
  let cs := os.map fun o => Char.ofNat o.toNat
  let quote := quoteFor (String.ofList cs)
  let shown := cs.map fun c => if c.toNat < 0x7F then quotedChar quote c else "\\x" ++ hex 2 c.toNat
  "b" ++ quote.toString ++ String.join shown ++ quote.toString

end IncidentBoard.Text
