import IncidentBoard.Binary64
import IncidentBoard.Text.Loose

/-!
# JSON values

Values of the data that providers, stores and scenarios hand over. Objects keep the order in
which their names were first given; a name given again replaces the value in place. Two kinds of
values stand beside those of JSON: text that no encoding takes, which an escape may leave behind,
and octets, which a store keeps.

## Main definitions

* `Json` — a value; `Json.ofCodes` — the text of codes.
* `Json.truthy` — whether a value counts as given: not null, false, zero or empty.
* `Json.Fields.put`, `Json.Fields.get?` — writing and reading a name of an object.
* `Json.typeWord` — the word that messages use for the type of a value.
-/

namespace IncidentBoard

/-- A JSON value; whole and other numbers are told apart as written. -/
inductive Json where
  | null
  | bool (value : Bool)
  | int (value : Int)
  | real (value : Binary64)
  | text (value : String)
  | loose (value : LooseText)
  | bytes (value : List UInt8)
  | list (items : List Json)
  | object (fields : List (String × Json))
  deriving Repr, Inhabited, BEq

namespace Json

/-- The names of an object with their values. -/
abbrev Fields := List (String × Json)

namespace Fields

def get? : Fields → String → Option Json
  | [], _ => none
  | (k, v) :: rest, name => if k = name then some v else get? rest name

/-- Write a name: in place where it is there already, else at the end. -/
def put : Fields → String → Json → Fields
  | [], name, value => [(name, value)]
  | (k, v) :: rest, name, value =>
    if k = name then (k, value) :: rest else (k, v) :: put rest name value

/-- Write all of the second object into the first. -/
def merge (base extra : Fields) : Fields :=
  extra.foldl (fun acc (k, v) => acc.put k v) base

/-- Fields in the order given, the last value of a repeated name in the first place of it. -/
def ofPairs (pairs : List (String × Json)) : Fields := merge [] pairs

@[simp] theorem get?_put_self (fs : Fields) (name : String) (value : Json) :
    (fs.put name value).get? name = some value := by
  induction fs with
  | nil => simp [put, get?]
  | cons f rest ih => by_cases h : f.1 = name <;> simp [put, get?, h, ih]

theorem get?_put_of_ne (fs : Fields) {name other : String} (value : Json) (h : name ≠ other) :
    (fs.put name value).get? other = fs.get? other := by
  induction fs with
  | nil => simp [put, get?, h]
  | cons f rest ih =>
    by_cases hf : f.1 = name
    · simp [put, get?, hf, h]
    · by_cases ho : f.1 = other <;> simp_all [put, get?]

theorem get?_append (fs gs : Fields) (name : String) :
    (fs ++ gs).get? name = (fs.get? name).or (gs.get? name) := by
  induction fs with
  | nil => rfl
  | cons f rest ih =>
    by_cases here : f.1 = name <;> simp [get?, here, ih]

theorem mem_of_get? {fs : Fields} {name : String} {value : Json}
    (found : fs.get? name = some value) : (name, value) ∈ fs := by
  induction fs with
  | nil => cases found
  | cons f rest ih =>
    obtain ⟨k, v⟩ := f
    rw [get?] at found
    split at found
    · next same =>
      cases found
      exact same ▸ .head _
    · exact .tail _ (ih found)

end Fields

/-- The value under a name of an object; nothing for other values. -/
def get? : Json → String → Option Json
  | .object fs, name => Fields.get? fs name
  | _, _ => none

def truthy : Json → Bool
  | .null => false
  | .bool b => b
  | .int n => n != 0
  | .real x => !x.isZero
  | .text s => !s.isEmpty
  | .loose _ => true
  | .bytes os => !os.isEmpty
  | .list xs => !xs.isEmpty
  | .object fs => !fs.isEmpty

/-- The word for the type of a value in messages. -/
def typeWord : Json → String
  | .null => "NoneType"
  | .bool _ => "bool"
  | .int _ => "int"
  | .real _ => "float"
  | .text _ => "str"
  | .loose _ => "str"
  | .bytes _ => "bytes"
  | .list _ => "list"
  | .object _ => "dict"

/-- The text of codes, which is loose where one of them is half of a pair. -/
def ofCodes (codes : List Nat) : Json :=
  if half : codes.any Text.isHalf then .loose ⟨codes, half⟩
  else .text (Text.ofCodes codes)

@[simp] theorem ofCodes_toNat (s : String) : ofCodes (s.toList.map Char.toNat) = .text s := by
  have whole : (s.toList.map Char.toNat).any Text.isHalf = false := by
    simp [List.any_map, Function.comp_def, Text.isHalf_toNat]
  simp [ofCodes, whole]

def ofText? : Option String → Json
  | none => .null
  | some s => .text s

end Json

end IncidentBoard
