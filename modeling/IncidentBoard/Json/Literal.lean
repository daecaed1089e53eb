import IncidentBoard.Json
import IncidentBoard.Binary64.Shortest
import IncidentBoard.Text.Quoted

/-!
# Values in messages

How a value is shown inside a message: text in quotes, lists in brackets, objects in braces, the
three words `None`, `True` and `False`.

## Main definitions

* `Json.literal` — the form in which a value is shown.
* `Json.plain` — the same, but text that stands alone has no quotes.
-/

namespace IncidentBoard.Json

mutual

/-- The form in which a value is shown. -/
def literal : Json → String
  | .null => "None"
  | .bool true => "True"
  | .bool false => "False"
  | .int n => toString n
  | .real x => x.text
  | .text s => Text.quoted s
  | .loose t => Text.quotedLoose t
  | .bytes os => Text.quotedOctets os
  | .list xs => "[" ++ String.intercalate ", " (literals xs) ++ "]"
  | .object fs => "\x7b" ++ String.intercalate ", " (fieldLiterals fs) ++ "\x7d"

/-- The forms of the items of a list. -/
def literals : List Json → List String
  | [] => []
  | x :: xs => literal x :: literals xs

/-- The forms of the fields of an object. -/
def fieldLiterals : List (String × Json) → List String
  | [] => []
  | (k, v) :: fs => (Text.quoted k ++ ": " ++ literal v) :: fieldLiterals fs

end

/-- A value as running text: text itself, every other value in the form it is shown in. -/
def plain : Json → String
  | .text s => s
  | .loose t => t.replaced
  | v => literal v

end IncidentBoard.Json
