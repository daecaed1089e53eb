/-!
# Binary64 numbers

Numbers of the binary64 format with exact arithmetic on naturals: a quotient is rounded to the
nearest number of the format, ties to the even mantissa.

## Main definitions

* `Binary64` — a number: not-a-number, an infinity, or a sign, a mantissa and a power of two.
* `Binary64.ofRatio` — the number nearest to a quotient of naturals.
* `Binary64.floor?`, `Binary64.ceil?`, `Binary64.toInt?` — the integers around a finite number.
-/

namespace IncidentBoard

/-- A number of the binary64 format; `finite s m e` is `m * 2 ^ e`, negated when `s` is set. -/
inductive Binary64 where
  | nan
  | infinite (negative : Bool)
  | finite (negative : Bool) (mantissa : Nat) (exponent : Int)
  deriving DecidableEq, Repr, Inhabited

namespace Binary64

def mantissaBound : Nat := Nat.pow 2 53

/-- The power of two of the smallest positive number. -/
def leastExponent : Int := -1074

/-- The power of two of the largest finite numbers. -/
def greatestExponent : Int := 971

def zero (negative : Bool) : Binary64 := .finite negative 0 leastExponent

/-- The quotient rounded to the nearest natural, a half to the even neighbour. -/
def roundHalfEven (num den : Nat) : Nat :=
  let q := num / den
  let r := 2 * (num % den)
  if r < den then q else if den < r then q + 1 else if q % 2 = 0 then q else q + 1

/-- The numerator and denominator of `num / (den * 2 ^ e)`. -/
def scaled (num den : Nat) (e : Int) : Nat × Nat :=
  if 0 ≤ e then (num, den * Nat.pow 2 e.toNat) else (num * Nat.pow 2 (-e).toNat, den)

/-- The power of two at which the mantissa of `num / den` has 53 bits, or the least one. -/
def ratioExponent (num den : Nat) : Int :=
  let guess : Int := (num.log2 : Int) - (den.log2 : Int) - 52
  let (n, d) := scaled num den guess
  max leastExponent (if n < d * Nat.pow 2 52 then guess - 1 else guess)

/-- The binary64 number nearest to `num / den`, with the given sign. -/
def ofRatio (negative : Bool) (num den : Nat) : Binary64 :=
  if num = 0 ∨ den = 0 then zero negative
  else
    let e := ratioExponent num den
    let (n, d) := scaled num den e
    let m := roundHalfEven n d
    let (m, e) := if m = mantissaBound then (Nat.pow 2 52, e + 1) else (m, e)
    if greatestExponent < e then .infinite negative else .finite negative m e

def ofInt (n : Int) : Binary64 := ofRatio (n < 0) n.natAbs 1

/-- The binary64 number nearest to `digits * 10 ^ exponent`. -/
def ofDecimal (negative : Bool) (digits : Nat) (exponent : Int) : Binary64 :=
  if digits = 0 then zero negative
  else if 400 < exponent then .infinite negative
  else if exponent + (digits.log2 / 3 + 1 : Nat) < -400 then zero negative
  else if 0 ≤ exponent then ofRatio negative (digits * Nat.pow 10 exponent.toNat) 1
  else ofRatio negative digits (Nat.pow 10 (-exponent).toNat)

/-- The numerator (with its sign) and denominator of a finite number. -/
def ratio? : Binary64 → Option (Int × Nat)
  | .finite s m e =>
    let (n, d) := if 0 ≤ e then (m * Nat.pow 2 e.toNat, 1) else (m, Nat.pow 2 (-e).toNat)
    some (if s then -(n : Int) else n, d)
  | _ => none

/-- The greatest integer not above a finite number. -/
def floor? (x : Binary64) : Option Int :=
  x.ratio?.map fun (n, d) => n.fdiv d

/-- The least integer not below a finite number. -/
def ceil? (x : Binary64) : Option Int :=
  x.ratio?.map fun (n, d) => -((-n).fdiv d)

/-- The integer a finite number is equal to, if there is one. -/
def toInt? (x : Binary64) : Option Int :=
  x.ratio?.bind fun (n, d) => if n % (d : Int) = 0 then some (n / d) else none

def isZero : Binary64 → Bool
  | .finite _ m _ => m == 0
  | _ => false

def isFinite : Binary64 → Bool
  | .finite .. => true
  | _ => false

/-- The quotient of two integers, rounded once; `none` where the divisor is zero. -/
def divide? (a b : Int) : Option Binary64 :=
  if b = 0 then none
  else some (ofRatio (decide (a < 0) != decide (b < 0)) a.natAbs b.natAbs)

/-- The order of the numbers; not-a-number compares below nothing. -/
def less (x y : Binary64) : Bool :=
  match x, y with
  | .nan, _ => false
  | _, .nan => false
  | .infinite s, .infinite t => s && !t
  | .infinite s, .finite .. => s
  | .finite .., .infinite t => !t
  | x, y =>
    match x.ratio?, y.ratio? with
    | some (n, d), some (n', d') => n * d' < n' * d
    | _, _ => false

end Binary64

end IncidentBoard
