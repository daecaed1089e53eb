import IncidentBoard.Binary64

/-!
# Shortest decimals of binary64 numbers

The decimal with the fewest digits that reads back as the same number, and its written form:
positional for exponents from `-4` to `15`, scientific otherwise.

## Main definitions

* `Binary64.shortest` — digits and decimal exponent of a positive number.
* `Binary64.text` — the written form.
* `Binary64.significant` — a number rounded to a given count of significant digits.
-/

namespace IncidentBoard.Binary64

/-- Whether `n / d` lies in the interval of reals that round to `m * 2 ^ e`. Its ends are the
midpoints to the neighbours and belong to it when the mantissa is even. -/
def roundsTo (m : Nat) (e : Int) (n d : Nat) : Bool :=
  -- in units of `2 ^ (e - 2)`: the mantissa is `4 m`, a full gap is `4`
  let (n, d) := scaled n d (e - 2)
  let below := if m = Nat.pow 2 52 ∧ leastExponent < e then 1 else 2
  let low := (4 * m - below) * d
  let high := (4 * m + 2) * d
  if m % 2 = 0 then low ≤ n && n ≤ high else low < n && n < high

/-- The number of decimal digits of a natural, counting none for zero. -/
def decimalLength (n : Nat) : Nat := if n = 0 then 0 else (Nat.toDigits 10 n).length

/-- The decimal exponent of the leading digit of the positive quotient `n / d`. -/
def leadingExponent (n d : Nat) : Int :=
  let guess : Int := (decimalLength n : Int) - (decimalLength d : Int)
  let fits := if 0 ≤ guess then d * Nat.pow 10 guess.toNat ≤ n
    else d ≤ n * Nat.pow 10 (-guess).toNat
  if fits then guess else guess - 1

/-- The quotient `n / d` in units of `10 ^ q`, as numerator and denominator. -/
def inUnits (n d : Nat) (q : Int) : Nat × Nat :=
  if 0 ≤ q then (n, d * Nat.pow 10 q.toNat) else (n * Nat.pow 10 (-q).toNat, d)

/-- `k * 10 ^ q` as numerator and denominator. -/
def gridPoint (k : Nat) (q : Int) : Nat × Nat :=
  if 0 ≤ q then (k * Nat.pow 10 q.toNat, 1) else (k, Nat.pow 10 (-q).toNat)

/-- The nearer of the two grid points around the number that read back as it, if one does. -/
def onGrid? (m : Nat) (e : Int) (n d : Nat) (q : Int) : Option Nat :=
  let (u, v) := inUnits n d q
  let k := u / v
  let lower := let (a, b) := gridPoint k q; roundsTo m e a b
  let upper := let (a, b) := gridPoint (k + 1) q; roundsTo m e a b
  if lower && upper then
    let r := 2 * (u % v)
    some (if r < v then k else if v < r then k + 1 else if k % 2 = 0 then k else k + 1)
  else if lower then some k
  else if upper then some (k + 1)
  else none

/-- The digits and the decimal exponent of their last place, with the fewest digits that read
back as `m * 2 ^ e`; seventeen digits always do. -/
def shortest (m : Nat) (e : Int) : Nat × Int :=
  let (n, d) := if 0 ≤ e then (m * Nat.pow 2 e.toNat, 1) else (m, Nat.pow 2 (-e).toNat)
  let lead := leadingExponent n d
  let grid := fun count : Nat => lead - (count : Int) + 1
  let found := ((List.range 17).map (· + 1)).findSome? fun count =>
    (onGrid? m e n d (grid count)).map fun k => (k, grid count)
  found.getD (n / d, 0)

/-- Digits and last place without trailing zeros; `fuel` bounds the digits. -/
def dropZeros : Nat → Nat → Int → Nat × Int
  | 0, k, q => (k, q)
  | fuel + 1, k, q => if k ≠ 0 ∧ k % 10 = 0 then dropZeros fuel (k / 10) (q + 1) else (k, q)

/-- A number in decimals: a sign, digits without trailing zeros, and the exponent of the first
of them. -/
structure Decimal where
  negative : Bool
  digits : List Char
  exponent : Int
  deriving DecidableEq, Repr

/-- The decimal of `k * 10 ^ q`. -/
def Decimal.ofDigits (negative : Bool) (k : Nat) (q : Int) : Decimal :=
  let (k, q) := dropZeros 400 k q
  let ds := Nat.toDigits 10 k
  ⟨negative, ds, q + ds.length - 1⟩

/-- How decimals are written: the exponents below `least` and from `bound` on are scientific, and
a scientific mantissa of one digit gets `.0` where `pointed` is set. -/
structure DecimalStyle where
  least : Int
  bound : Int
  pointed : Bool

/-- An exponent with its sign and at least two digits. -/
def exponentText (e : Int) : String :=
  let ds := toString e.natAbs
  (if e < 0 then "-" else "+") ++ (if ds.length < 2 then "0" ++ ds else ds)

def Decimal.text (style : DecimalStyle) (x : Decimal) : String :=
  let ds := x.digits
  let body :=
    if x.exponent < style.least ∨ style.bound ≤ x.exponent then
      let fraction := ds.drop 1
      String.ofList (ds.take 1) ++
        (if fraction = [] then (if style.pointed then ".0" else "")
          else "." ++ String.ofList fraction) ++
        "e" ++ exponentText x.exponent
    else if x.exponent < 0 then
      "0." ++ String.ofList (List.replicate ((-x.exponent).toNat - 1) '0' ++ ds)
    else
      let whole := x.exponent.toNat + 1
      let fraction := ds.drop whole
      String.ofList (ds.take whole ++ List.replicate (whole - ds.length) '0') ++ "." ++
        (if fraction = [] then "0" else String.ofList fraction)
  (if x.negative then "-" else "") ++ body

/-- The shortest form is positional from `10 ^ -4` up to `10 ^ 16`. -/
def shortestStyle : DecimalStyle := ⟨-4, 16, false⟩

def text : Binary64 → String
  | .nan => "nan"
  | .infinite s => if s then "-inf" else "inf"
  | .finite s 0 _ => if s then "-0.0" else "0.0"
  | .finite s m e =>
    let (k, q) := shortest m e
    (Decimal.ofDigits s k q).text shortestStyle

/-- The number rounded to `count` significant digits, ties to even, as digits and last place. -/
def significant (count : Nat) (m : Nat) (e : Int) : Nat × Int :=
  let (n, d) := if 0 ≤ e then (m * Nat.pow 2 e.toNat, 1) else (m, Nat.pow 2 (-e).toNat)
  let q := leadingExponent n d - (count : Int) + 1
  let (u, v) := inUnits n d q
  let k := roundHalfEven u v
  if k = Nat.pow 10 count then (Nat.pow 10 (count - 1), q + 1) else (k, q)

end IncidentBoard.Binary64
