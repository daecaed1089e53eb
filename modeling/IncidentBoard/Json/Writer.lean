import IncidentBoard.Json
import IncidentBoard.Binary64.Shortest

/-!
# Writing JSON text

The compact written form of a value: no blanks, every field in its place, controls escaped.

## Main definitions

* `Json.write` — the written form.
-/

namespace IncidentBoard.Json

def writeChar (c : Char) : String :=
  if c = '"' then "\\\""
  else if c = '\\' then "\\\\"
  else if c.toNat < 0x20 then
    let ds := Nat.toDigits 16 c.toNat
    "\\u" ++ String.ofList (List.replicate (4 - ds.length) '0' ++ ds)
  else c.toString

def writeText (s : String) : String :=
  s.foldl (fun out c => out ++ writeChar c) "\"" ++ "\""

/-- Loose text: half of a pair is written as its escape. -/
def writeLoose (t : LooseText) : String :=
  let written := t.codes.map fun code =>
    if Text.isHalf code then "\\u" ++ String.ofList (Nat.toDigits 16 code)
    else writeChar (Text.charOfCode code)
  "\"" ++ String.join written ++ "\""

/-- A number; the words for numbers that are not finite are those that are read. -/
def writeReal : Binary64 → String
  | .nan => "NaN"
  | .infinite s => if s then "-Infinity" else "Infinity"
  | x => x.text

mutual

def write : Json → String
  | .null => "null"
  | .bool b => if b then "true" else "false"
  | .int n => toString n
  | .real x => writeReal x
  | .text s => writeText s
  | .loose t => writeLoose t
  -- octets have no written form of their own
  | .bytes _ => "null"
  | .list xs => "[" ++ String.intercalate "," (writeItems xs) ++ "]"
  | .object fs => "\x7b" ++ String.intercalate "," (writeFields fs) ++ "\x7d"

/-- The written forms of the items of a list. -/
def writeItems : List Json → List String
  | [] => []
  | x :: xs => write x :: writeItems xs

/-- The written forms of the fields of an object. -/
def writeFields : List (String × Json) → List String
  | [] => []
  | (k, v) :: fs => (writeText k ++ ":" ++ write v) :: writeFields fs

end

end IncidentBoard.Json
