import IncidentBoard.Json
import IncidentBoard.Json.Reader
import IncidentBoard.Binary64.Shortest

/-!
# Cells of the store

What a cell of a table holds, how a value is changed to fit the kind of its column, and the order
of cells: null, numbers, texts, octets. Octets are kept as they are in every column and equal no
text, not even the one that they are in UTF-8.

## Main definitions

* `Cell` — a cell.
* `ColumnKind`, `Cell.fit` — the kinds of columns, and a cell made to fit one.
* `Cell.compare` — the order.
-/

namespace IncidentBoard

/-- What a cell holds. -/
inductive Cell where
  | null
  | int (n : Int)
  | real (x : Binary64)
  | text (s : String)
  | bytes (os : List UInt8)
  deriving DecidableEq, Repr, Inhabited

/-- What a column is meant for. -/
inductive ColumnKind where
  | text
  | integer
  | boolean
  deriving DecidableEq, Repr

namespace Cell

/-- Whole numbers in cells lie below this, and not below its negative. -/
def intBound : Int := 9223372036854775808

def fitsInt (n : Int) : Bool := -intBound ≤ n && n < intBound

/-! ## Texts of numbers -/

/-- A real number as text has up to fifteen digits, always with a point. -/
def realStyle : Binary64.DecimalStyle := ⟨-4, 15, true⟩

def realText : Binary64 → String
  | .nan => "NaN"
  | .infinite s => if s then "-Inf" else "Inf"
  | .finite _ 0 _ => "0.0"
  | .finite s m e =>
    let (k, q) := Binary64.significant 15 m e
    (Binary64.Decimal.ofDigits s k q).text realStyle

/-! ## Numbers of texts -/

def isBlank (c : Char) : Bool := c == ' ' || (9 ≤ c.toNat && c.toNat ≤ 13)

/-- A whole real number that lies strictly inside the range of whole numbers becomes one. -/
def wholeOfReal (x : Binary64) : Cell :=
  match x.toInt? with
  | some n => if -intBound < n ∧ n < intBound - 1 then .int n else .real x
  | none => .real x

/-- The number that a text is, with blanks around it: whole digits stay whole where they fit. -/
def numberOfText? (s : String) : Option Cell :=
  let cs := ((s.toList.dropWhile isBlank).reverse.dropWhile isBlank).reverse
  let (negative, body) := match cs with
    | '-' :: r => (true, r)
    | '+' :: r => (false, r)
    | r => (false, r)
  let whole := body.takeWhile Json.isDigit
  let rest := body.drop whole.length
  let (pointed, fraction, rest) := match rest with
    | '.' :: r => (true, r.takeWhile Json.isDigit, r.dropWhile Json.isDigit)
    | r => (false, [], r)
  if whole = [] ∧ fraction = [] then none
  else
    let real := fun e : Int =>
      wholeOfReal (Binary64.ofDecimal negative (Json.digitsValue (whole ++ fraction))
        (e - (fraction.length : Int)))
    match rest with
    | [] =>
      let n : Int := if negative then -(Json.digitsValue whole : Int) else Json.digitsValue whole
      some (if !pointed ∧ fitsInt n then .int n else real 0)
    | _ =>
      match Json.exponentOf rest with
      | some (e, length) => if length = rest.length then some (real e) else none
      | none => none

/-- A cell made to fit a column: numbers become texts in a column of texts, and texts that are
numbers become numbers in the others. -/
def fit : ColumnKind → Cell → Cell
  | .text, .int n => .text (toString n)
  | .text, .real x => .text (realText x)
  | .text, c => c
  | _, .text s => (numberOfText? s).getD (.text s)
  | _, .real x => wholeOfReal x
  | _, c => c

@[simp] theorem fit_text_text (s : String) : fit .text (.text s) = .text s := rfl

@[simp] theorem fit_int (kind : ColumnKind) (h : kind ≠ .text) (n : Int) :
    fit kind (.int n) = .int n := by
  cases kind <;> simp_all [fit]

/-! ## Order -/

/-- The order of two numbers that may be real. -/
def compareReal (x y : Binary64) : Ordering :=
  if x.less y then .lt else if y.less x then .gt else .eq

/-- A whole number in lowest terms with a denominator of one. -/
def exactInt (n : Int) : Binary64 := .finite (n < 0) n.natAbs 0

def compare : Cell → Cell → Ordering
  | .null, .null => .eq
  | .null, _ => .lt
  | _, .null => .gt
  | .int a, .int b => Ord.compare a b
  | .int a, .real y => compareReal (exactInt a) y
  | .real x, .int b => compareReal x (exactInt b)
  | .real x, .real y => compareReal x y
  | .text s, .text t => Ord.compare s t
  | .bytes a, .bytes b => Ord.compare a b
  | .bytes _, _ => .gt
  | _, .bytes _ => .lt
  | .text _, _ => .gt
  | _, .text _ => .lt

def toJson : Cell → Json
  | .null => .null
  | .int n => .int n
  | .real x => .real x
  | .text s => .text s
  | .bytes os => .bytes os

end Cell

end IncidentBoard
