import IncidentBoard.Json.Literal
import IncidentBoard.Json.Octets
import IncidentBoard.Calendar.Reader
import IncidentBoard.Text.Blank
import IncidentBoard.Text.Lowercase

/-!
# Reading fields

Values that come from outside are read leniently: numbers and truth values may be given as text,
truth values as numbers, and text as its octets. Every field of an object is read, so one reading
reports every flaw, in the order in which the fields are declared.

## Main definitions

* `Field.Cause`, `Field.Flaw` — what is wrong with a value, and where.
* `Field.Reading` — a value, or all flaws of it; `Reading.and` joins two readings.
* `Field.required`, `Field.optional` — a field of an object.
* `Field.text`, `Field.whole`, `Field.truth`, `Field.number`, `Field.date`, `Field.member`,
  `Field.listOf`, `Field.orNull` — the readers of values.
-/

namespace IncidentBoard.Field

/-- A step on the way to a value inside another one. -/
inductive Place where
  | name (name : String)
  | index (index : Nat)
  deriving DecidableEq, Repr

/-- What is wrong with a value. -/
inductive Cause where
  | missing
  | notObject (model : String)
  | notText
  | notUnicode
  | notWhole
  | wholeText
  | wholeFraction
  | wholeSize
  | notFinite
  | atLeast (bound : Int)
  | notTruth
  | truthText
  | notNumber
  | numberText
  | notMember (members : List String)
  | notList
  | notDate
  | dateText (flaw : Date.Flaw)
  | dateInexact
  deriving DecidableEq, Repr

/-- Quoted words joined by commas, the last one by `or`. -/
def alternatives : List String → String
  | [] => ""
  | [a] => s!"'{a}'"
  | [a, b] => s!"'{a}' or '{b}'"
  | a :: rest => s!"'{a}', " ++ alternatives rest

def Cause.code : Cause → String
  | .missing => "missing"
  | .notObject _ => "model_type"
  | .notText => "string_type"
  | .notUnicode => "string_unicode"
  | .notWhole => "int_type"
  | .wholeText => "int_parsing"
  | .wholeFraction => "int_from_float"
  | .wholeSize => "int_parsing_size"
  | .notFinite => "finite_number"
  | .atLeast _ => "greater_than_equal"
  | .notTruth => "bool_type"
  | .truthText => "bool_parsing"
  | .notNumber => "float_type"
  | .numberText => "float_parsing"
  | .notMember _ => "enum"
  | .notList => "list_type"
  | .notDate => "date_type"
  | .dateText _ => "date_from_datetime_parsing"
  | .dateInexact => "date_from_datetime_inexact"

def Cause.message : Cause → String
  | .missing => "Field required"
  | .notObject model => "Input should be a valid dictionary or instance of " ++ model
  | .notText => "Input should be a valid string"
  | .notUnicode =>
    "Input should be a valid string, unable to parse raw data as a unicode string"
  | .notWhole => "Input should be a valid integer"
  | .wholeText => "Input should be a valid integer, unable to parse string as an integer"
  | .wholeFraction => "Input should be a valid integer, got a number with a fractional part"
  | .wholeSize => "Unable to parse input string as an integer, exceeded maximum size"
  | .notFinite => "Input should be a finite number"
  | .atLeast bound => s!"Input should be greater than or equal to {bound}"
  | .notTruth => "Input should be a valid boolean"
  | .truthText => "Input should be a valid boolean, unable to interpret input"
  | .notNumber => "Input should be a valid number"
  | .numberText => "Input should be a valid number, unable to parse string as a number"
  | .notMember members => "Input should be " ++ alternatives members
  | .notList => "Input should be a valid list"
  | .notDate => "Input should be a valid date"
  | .dateText flaw => "Input should be a valid date or datetime, " ++ flaw.message
  | .dateInexact => "Datetimes provided to dates should have zero time - e.g. be exact dates"

/-- A cause and the way to the value it lies in. -/
structure Flaw where
  path : List Place
  cause : Cause
  deriving DecidableEq, Repr

/-- The same flaw, seen from a value that holds the one it lies in. -/
def Flaw.within (place : Place) (flaw : Flaw) : Flaw := ⟨place :: flaw.path, flaw.cause⟩

/-- The flaws of a value that should have been of a model. -/
structure Rejection where
  model : String
  flaws : List Flaw
  deriving DecidableEq, Repr

def Rejection.summary (r : Rejection) : String :=
  let count := r.flaws.length
  let word := if count = 1 then "error" else "errors"
  s!"{count} validation {word} for {r.model}"

/-! ## Readings -/

/-- A value that was read, or every flaw on the way. -/
abbrev Reading (α : Type) := Except (List Flaw) α

/-- A function and its argument, both read: the flaws of both are kept. -/
def Reading.and {α β : Type} : Reading (α → β) → Reading α → Reading β
  | .ok f, .ok x => .ok (f x)
  | .ok _, .error e => .error e
  | .error e, .ok _ => .error e
  | .error e, .error e' => .error (e ++ e')

def flawed {α : Type} (cause : Cause) : Reading α := .error [⟨[], cause⟩]

/-- A reading of a part, with its flaws seen from the whole. -/
def Reading.within {α : Type} (place : Place) : Reading α → Reading α
  | .ok x => .ok x
  | .error flaws => .error (flaws.map (Flaw.within place))

/-- A reading as that of a model: its flaws become a rejection. -/
def Reading.of {α : Type} (model : String) : Reading α → Except Rejection α
  | .ok x => .ok x
  | .error flaws => .error ⟨model, flaws⟩

@[simp] theorem Reading.and_ok {α β : Type} (f : α → β) (x : α) :
    Reading.and (.ok f) (.ok x) = .ok (f x) := rfl

/-- Two readings join to a value exactly when both are values. -/
theorem Reading.and_eq_ok_iff {α β : Type} {f : Reading (α → β)} {x : Reading α} {y : β} :
    f.and x = .ok y ↔ ∃ g a, f = .ok g ∧ x = .ok a ∧ g a = y := by
  cases f <;> cases x <;> simp [Reading.and]

theorem Reading.within_eq_ok_iff {α : Type} {place : Place} {r : Reading α} {x : α} :
    r.within place = .ok x ↔ r = .ok x := by
  cases r <;> simp [Reading.within]

abbrev Reader (α : Type) := Json → Reading α

def required {α : Type} (fields : Json.Fields) (name : String) (read : Reader α) : Reading α :=
  match fields.get? name with
  | some v => (read v).within (.name name)
  | none => .error [⟨[.name name], .missing⟩]

/-- A field with a value for its absence. -/
def optional {α : Type} (fields : Json.Fields) (name : String) (absent : α) (read : Reader α) :
    Reading α :=
  match fields.get? name with
  | some v => (read v).within (.name name)
  | none => .ok absent

/-- The fields of a value that has to be an object. -/
def object {α : Type} (model : String) (read : Json.Fields → Reading α) : Reader α
  | .object fields => read fields
  | _ => flawed (.notObject model)

/-! ## Readers of values -/

/-- Text, or octets that are text; halves of pairs are replaced. -/
def text : Reader String
  | .text s => .ok s
  | .loose t => .ok t.replaced
  | .bytes os =>
    match Octets.text? os with
    | some s => .ok s
    | none => flawed .notUnicode
  | _ => flawed .notText

theorem text_ok_iff {v : Json} {s : String} : text v = .ok s ↔ v.asText? = some s := by
  cases v with
  | bytes os => cases read : Octets.text? os <;> simp [text, Json.asText?, read, flawed]
  | _ => simp [text, Json.asText?, flawed]

/-- A value that may be given as text is read from the octets of that text as well. -/
def fromOctets {α : Type} (read : String → Reading α) (cause : Cause) (os : List UInt8) :
    Reading α :=
  match Octets.text? os with
  | some s => read s
  | none => flawed cause

/-- The digits of a text in which single underscores stand between digits. -/
def groupedDigits? : List Char → Option (List Char)
  | [] => none
  | [c] => if Json.isDigit c then some [c] else none
  | c :: '_' :: rest =>
    if Json.isDigit c then (groupedDigits? rest).map (c :: ·) else none
  | c :: rest => if Json.isDigit c then (groupedDigits? rest).map (c :: ·) else none

/-- A number text without the point and zeros that may end it. -/
def dropZeroFraction (cs : List Char) : List Char :=
  let whole := cs.takeWhile (· != '.')
  let fraction := (cs.dropWhile (· != '.')).drop 1
  if fraction ≠ [] ∧ fraction.all (· == '0') then whole else cs

/-- A whole number as text: blanks around it, one sign, digits, and a fraction of zeros. -/
def wholeOfText (s : String) : Reading Int :=
  let (negative, body) := match Text.trimChars Text.isWhite s.toList with
    | '-' :: r => (true, r)
    | '+' :: r => (false, r)
    | r => (false, r)
  match groupedDigits? (dropZeroFraction body) with
  | none => flawed .wholeText
  | some ds =>
    if 4300 < ds.length then flawed .wholeSize
    else
      let n : Int := Json.digitsValue ds
      .ok (if negative then -n else n)

/-- Whole numbers given as real ones go up to this, and down to its negative. -/
def wholeRealBound : Int := 9223372036854775808

/-- A real number that has to be whole; the largest one that is taken is clamped by one. -/
def wholeOfReal (x : Binary64) : Reading Int :=
  if !x.isFinite then flawed .notFinite
  else
    match x.toInt? with
    | none => flawed .wholeFraction
    | some n =>
      if n < -wholeRealBound ∨ wholeRealBound < n then flawed .wholeSize
      else .ok (if n = wholeRealBound then wholeRealBound - 1 else n)

def whole : Reader Int
  | .int n => .ok n
  | .bool b => .ok (if b then 1 else 0)
  | .real x => wholeOfReal x
  | .text s => wholeOfText s
  | .loose _ => flawed .notUnicode
  | .bytes os => fromOctets wholeOfText .wholeText os
  | _ => flawed .notWhole

def wholeFrom (bound : Int) : Reader { n : Int // bound ≤ n } := fun v =>
  match whole v with
  | .ok n => if h : bound ≤ n then .ok ⟨n, h⟩ else flawed (.atLeast bound)
  | .error e => .error e

def falseWords : List String := ["0", "off", "f", "false", "n", "no"]

def trueWords : List String := ["1", "on", "t", "true", "y", "yes"]

/-- A truth value as a word. -/
def truthOfText (s : String) : Reading Bool :=
  let word := s.toLower
  if falseWords.contains word then .ok false
  else if trueWords.contains word then .ok true
  else flawed .truthText

def truth : Reader Bool
  | .bool b => .ok b
  | .int n => if n = 0 then .ok false else if n = 1 then .ok true else flawed .truthText
  | .real x =>
    match x.toInt? with
    | some 0 => .ok false
    | some 1 => .ok true
    | _ => flawed .notTruth
  | .text s => truthOfText s
  | .loose _ => flawed .notUnicode
  | .bytes os => fromOctets truthOfText .truthText os
  | _ => flawed .notTruth

/-- A decimal number as text, with a point and an exponent where wanted. -/
def decimalOf? (cs : List Char) : Option Binary64 :=
  let (negative, body) := match cs with
    | '-' :: r => (true, r)
    | '+' :: r => (false, r)
    | r => (false, r)
  let word := (String.ofList body).toLower
  if word = "inf" ∨ word = "infinity" then some (.infinite negative)
  else if word = "nan" then some .nan
  else
    let whole := body.takeWhile Json.isDigit
    let rest := body.drop whole.length
    let (fraction, rest) := match rest with
      | '.' :: r => (r.takeWhile Json.isDigit, r.dropWhile Json.isDigit)
      | r => ([], r)
    if whole = [] ∧ fraction = [] then none
    else
      let value := fun e : Int =>
        Binary64.ofDecimal negative (Json.digitsValue (whole ++ fraction))
          (e - (fraction.length : Int))
      match rest with
      | [] => some (value 0)
      | _ =>
        match Json.exponentOf rest with
        | some (e, length) => if length = rest.length then some (value e) else none
        | none => none

/-- A number text without the single underscores between its characters. -/
def ungrouped? (cs : List Char) : Option (List Char) :=
  if cs.head? = some '_' ∨ cs.getLast? = some '_' then none
  else if (cs.zip (cs.drop 1)).any fun (a, b) => a == '_' && b == '_' then none
  else some (cs.filter (· != '_'))

/-- A number as text: blanks around it, underscores between its digits. -/
def numberOfText (s : String) : Reading Binary64 :=
  match (ungrouped? (Text.trimChars Text.isWhite s.toList)).bind decimalOf? with
  | some x => .ok x
  | none => flawed .numberText

def number : Reader Binary64
  | .real x => .ok x
  | .int n => .ok (Binary64.ofInt n)
  | .bool b => .ok (Binary64.ofInt (if b then 1 else 0))
  | .text s => numberOfText s
  | .loose _ => flawed .notUnicode
  | .bytes os => fromOctets numberOfText .numberText os
  | _ => flawed .notNumber

/-- A reading of a date, which has to be at midnight. -/
def exactDate : Date.Reading → Reading Date
  | .ok m => if m.midnight then .ok m.date else flawed .dateInexact
  | .error flaw => flawed (.dateText flaw)

def date : Reader Date
  | .text s => exactDate (Date.ofText s)
  | .loose _ => flawed .notUnicode
  -- octets are taken for characters one by one
  | .bytes os => exactDate (Date.ofText (String.ofList (os.map fun o => Char.ofNat o.toNat)))
  | .int n => exactDate (Date.ofSeconds n)
  | .real x => exactDate (Date.ofReal x)
  | _ => flawed .notDate

/-- One of the words of a fixed set. -/
def member {α : Type} (members : List (String × α)) : Reader α := fun v =>
  match v.asText?.bind fun s => members.lookup s with
  | some x => .ok x
  | none => flawed (.notMember (members.map (·.1)))

def orNull {α : Type} (read : Reader α) : Reader (Option α)
  | .null => .ok none
  | v =>
    match read v with
    | .ok x => .ok (some x)
    | .error e => .error e

/-- The items of a list from an index on. -/
def itemsFrom {α : Type} (read : Reader α) : Nat → List Json → Reading (List α)
  | _, [] => .ok []
  | i, v :: rest =>
    Reading.and (Reading.and (.ok List.cons) ((read v).within (.index i)))
      (itemsFrom read (i + 1) rest)

def listOf {α : Type} (read : Reader α) : Reader (List α)
  | .list items => itemsFrom read 0 items
  | _ => flawed .notList

end IncidentBoard.Field
