import IncidentBoard.Json

/-!
# Reading JSON text

A recursive descent over the characters. A refusal says what was expected and at which character,
and its message gives the line and column of that character. The words `NaN`, `Infinity` and
`-Infinity` are numbers; whole numbers have a limit on their digits.

## Main definitions

* `Json.Refusal`, `Json.Refusal.message` — why a text is refused, and its wording.
* `Json.Cursor` — the rest of a text and its place in it.
* `Json.parse` — the value of a whole text.
-/

namespace IncidentBoard.Json

/-- What a text lacks or holds wrongly at a place. -/
inductive Expectation where
  | value
  | comma
  | colon
  | name
  | closingQuote
  | noControl
  | escape
  | unicodeEscape
  | nothingMore
  | noMark
  deriving DecidableEq, Repr

def Expectation.message : Expectation → String
  | .value => "Expecting value"
  | .comma => "Expecting ',' delimiter"
  | .colon => "Expecting ':' delimiter"
  | .name => "Expecting property name enclosed in double quotes"
  | .closingQuote => "Unterminated string starting at"
  | .noControl => "Invalid control character at"
  | .escape => "Invalid \\escape"
  | .unicodeEscape => "Invalid \\uXXXX escape"
  | .nothingMore => "Extra data"
  | .noMark => "Unexpected UTF-8 BOM (decode using utf-8-sig)"

/-- Why a text is refused: an expectation at a character, or a whole number that is too long. -/
inductive Refusal where
  | at (expectation : Expectation) (place : Nat)
  | tooManyDigits (count : Nat)
  deriving DecidableEq, Repr

/-- The line of a place, counted from one. -/
def lineOf (text : List Char) (place : Nat) : Nat := (text.take place).count '\n' + 1

/-- The column of a place, counted from one. -/
def columnOf (text : List Char) (place : Nat) : Nat :=
  ((text.take place).reverse.takeWhile (· != '\n')).length + 1

def Refusal.message (text : List Char) : Refusal → String
  | .at what place =>
    s!"{what.message}: line {lineOf text place} column {columnOf text place} (char {place})"
  | .tooManyDigits count =>
    s!"Exceeds the limit (4300 digits) for integer string conversion: value has {count} digits; " ++
      "use sys.set_int_max_str_digits() to increase the limit"

/-- The rest of a text and the number of characters before it. -/
structure Cursor where
  rest : List Char
  place : Nat
  deriving Repr

namespace Cursor

/-- Move past `n` characters. -/
def skip (c : Cursor) (n : Nat) : Cursor := ⟨c.rest.drop n, c.place + n⟩

def refuse {α : Type} (c : Cursor) (what : Expectation) : Except Refusal α :=
  .error (.at what c.place)

def isBlank (c : Char) : Bool := c == ' ' || c == '\t' || c == '\n' || c == '\r'

def skipBlanks (c : Cursor) : Cursor := c.skip (c.rest.takeWhile isBlank).length

end Cursor

def hexDigit? (c : Char) : Option Nat :=
  if '0' ≤ c ∧ c ≤ '9' then some (c.toNat - '0'.toNat)
  else if 'a' ≤ c ∧ c ≤ 'f' then some (c.toNat - 'a'.toNat + 10)
  else if 'A' ≤ c ∧ c ≤ 'F' then some (c.toNat - 'A'.toNat + 10)
  else none

/-- The code of four hexadecimal digits at the start of a text. -/
def fourHex? : List Char → Option Nat
  | a :: b :: c :: d :: _ => do
    let a ← hexDigit? a
    let b ← hexDigit? b
    let c ← hexDigit? c
    let d ← hexDigit? d
    pure (((a * 16 + b) * 16 + c) * 16 + d)
  | _ => none

/-- The character that a simple escape stands for. -/
def simpleEscape? : Char → Option Char
  | '"' => some '"'
  | '\\' => some '\\'
  | '/' => some '/'
  | 'b' => some '\x08'
  | 'f' => some '\x0c'
  | 'n' => some '\n'
  | 'r' => some '\r'
  | 't' => some '\t'
  | _ => none

/-- The code of a `\u` escape at the cursor, which stands on its first digit; a high half
takes a low half that follows it. -/
def unicodeEscape (c : Cursor) : Except Refusal (Nat × Cursor) :=
  -- a quote has to follow, so four digits at the very end are refused too
  if c.rest.length ≤ 4 then .error (.at .unicodeEscape (c.place - 1))
  else
    match fourHex? c.rest with
    | none => .error (.at .unicodeEscape (c.place - 1))
    | some high =>
      let after := c.skip 4
      if 0xD800 ≤ high ∧ high < 0xDC00 then
        match after.rest with
        | '\\' :: 'u' :: more =>
          match fourHex? more with
          | some low =>
            if 0xDC00 ≤ low ∧ low < 0xE000 ∧ 4 < more.length then
              .ok (0x10000 + (high - 0xD800) * 0x400 + (low - 0xDC00), after.skip 6)
            else .ok (high, after)
          | none => .ok (high, after)
        | _ => .ok (high, after)
      else .ok (high, after)

/-- The codes of a string up to its closing quote. `start` is the place of the opening one, `fuel`
bounds the codes, `acc` holds those read, last first. -/
def stringBody (start : Nat) : Nat → List Nat → Cursor → Except Refusal (List Nat × Cursor)
  | 0, _, _ => .error (.at .closingQuote start)
  | fuel + 1, acc, c =>
    match c.rest with
    | [] => .error (.at .closingQuote start)
    | '"' :: _ => .ok (acc.reverse, c.skip 1)
    | '\\' :: more =>
      match more with
      | [] => .error (.at .closingQuote start)
      | 'u' :: _ => do
        let (code, next) ← unicodeEscape (c.skip 2)
        stringBody start fuel (code :: acc) next
      | e :: _ =>
        match simpleEscape? e with
        | some ch => stringBody start fuel (ch.toNat :: acc) (c.skip 2)
        | none => c.refuse .escape
    | ch :: _ =>
      if ch.toNat < 0x20 then c.refuse .noControl
      else stringBody start fuel (ch.toNat :: acc) (c.skip 1)

/-- The codes of a string; the cursor stands behind its opening quote. -/
def readString (fuel : Nat) (c : Cursor) : Except Refusal (List Nat × Cursor) :=
  stringBody (c.place - 1) fuel [] c

def isDigit (c : Char) : Bool := '0' ≤ c && c ≤ '9'

def digitsValue (ds : List Char) : Nat :=
  ds.foldl (fun n d => n * 10 + (d.toNat - '0'.toNat)) 0

/-- The digits of a fraction at the start of a text, with its length; none without a digit. -/
def fractionOf : List Char → List Char × Nat
  | '.' :: more =>
    let ds := more.takeWhile isDigit
    if ds = [] then ([], 0) else (ds, ds.length + 1)
  | _ => ([], 0)

/-- The value and length of an exponent at the start of a text; none without a digit. -/
def exponentOf : List Char → Option (Int × Nat)
  | mark :: more =>
    if mark = 'e' ∨ mark = 'E' then
      let (negative, signed, more) := match more with
        | '-' :: r => (true, 1, r)
        | '+' :: r => (false, 1, r)
        | r => (false, 0, r)
      let ds := more.takeWhile isDigit
      if ds = [] then none
      else
        let n : Int := digitsValue ds
        some (if negative then -n else n, ds.length + 1 + signed)
    else none
  | [] => none

def readNumber (c : Cursor) : Except Refusal (Json × Cursor) :=
  let (negative, body) := match c.rest with
    | '-' :: r => (true, r)
    | r => (false, r)
  let signed := if negative then 1 else 0
  let whole := match body with
    | '0' :: _ => ['0']
    | r => r.takeWhile isDigit
  if whole = [] then c.refuse .value
  else
    let after := body.drop whole.length
    let (fraction, fractionLength) := fractionOf after
    let after := after.drop fractionLength
    match fraction, exponentOf after with
    | [], none =>
      if 4300 < whole.length then .error (.tooManyDigits whole.length)
      else
        let n : Int := digitsValue whole
        .ok (.int (if negative then -n else n), c.skip (signed + whole.length))
    | _, power =>
      let (e, powerLength) := power.getD (0, 0)
      let x := Binary64.ofDecimal negative (digitsValue (whole ++ fraction))
        (e - (fraction.length : Int))
      .ok (.real x, c.skip (signed + whole.length + fractionLength + powerLength))

def words : List (String × Json) :=
  [("null", .null), ("true", .bool true), ("false", .bool false), ("NaN", .real .nan),
    ("Infinity", .real (.infinite false)), ("-Infinity", .real (.infinite true))]

mutual

/-- A value at the cursor; `fuel` bounds the values and parts that are read inside it. -/
def readValue : Nat → Cursor → Except Refusal (Json × Cursor)
  | 0, c => c.refuse .value
  | fuel + 1, c =>
    match c.rest with
    | [] => c.refuse .value
    | '"' :: _ => do
      let (codes, next) ← readString fuel (c.skip 1)
      .ok (.ofCodes codes, next)
    | '{' :: _ =>
      let inner := (c.skip 1).skipBlanks
      match inner.rest with
      | '}' :: _ => .ok (.object [], inner.skip 1)
      | _ => readFields fuel [] inner
    | '[' :: _ =>
      let inner := (c.skip 1).skipBlanks
      match inner.rest with
      | ']' :: _ => .ok (.list [], inner.skip 1)
      | _ => readItems fuel [] inner
    | _ =>
      match words.find? fun w => w.1.toList.isPrefixOf c.rest with
      | some (w, v) => .ok (v, c.skip w.length)
      | none => readNumber c

/-- The rest of an object; the cursor stands where a name has to start. -/
def readFields : Nat → Fields → Cursor → Except Refusal (Json × Cursor)
  | 0, _, c => c.refuse .name
  | fuel + 1, acc, c =>
    match c.rest with
    | '"' :: _ => do
      let (codes, next) ← readString fuel (c.skip 1)
      let next := next.skipBlanks
      match next.rest with
      | ':' :: _ =>
        let (value, next) ← readValue fuel (next.skip 1).skipBlanks
        let next := next.skipBlanks
        let acc := Fields.put acc (Text.ofCodes codes) value
        match next.rest with
        | '}' :: _ => .ok (.object acc, next.skip 1)
        | ',' :: _ => readFields fuel acc (next.skip 1).skipBlanks
        | _ => next.refuse .comma
      | _ => next.refuse .colon
    | _ => c.refuse .name

/-- The rest of a list; the cursor stands where an item has to start. -/
def readItems : Nat → List Json → Cursor → Except Refusal (Json × Cursor)
  | 0, _, c => c.refuse .value
  | fuel + 1, acc, c => do
    let (item, next) ← readValue fuel c
    let next := next.skipBlanks
    match next.rest with
    | ']' :: _ => .ok (.list (item :: acc).reverse, next.skip 1)
    | ',' :: _ => readItems fuel (item :: acc) (next.skip 1).skipBlanks
    | _ => next.refuse .comma

end

/-- The value of characters that are not allowed to start with a byte order mark. -/
def parseChars (text : List Char) : Except Refusal Json := do
  let start : Cursor := ⟨text, 0⟩
  let (v, next) ← readValue (2 * text.length + 2) start.skipBlanks
  let next := next.skipBlanks
  if next.rest = [] then .ok v else next.refuse .nothingMore

def parse (text : String) : Except Refusal Json :=
  let cs := text.toList
  if cs.head? = some '\uFEFF' then .error (.at .noMark 0) else parseChars cs

end IncidentBoard.Json
