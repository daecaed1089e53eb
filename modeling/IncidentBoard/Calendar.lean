/-!
# Calendar dates

Dates of the Gregorian calendar, carried back before its introduction, and their day numbers
counted from 1 January 1970.

## Main definitions

* `Date` — a year, a month and a day of the month.
* `Date.dayNumber`, `Date.ofDayNumber` — the two conversions.
* `Date.isoText` — the written form of a date.
-/

namespace IncidentBoard

/-- A calendar date. -/
structure Date where
  year : Int
  month : Nat
  day : Nat
  deriving DecidableEq, Repr, Inhabited

namespace Date

def isLeap (year : Int) : Bool :=
  year % 4 == 0 && (year % 100 != 0 || year % 400 == 0)

def daysInMonth (year : Int) (month : Nat) : Nat :=
  if month = 2 then (if isLeap year then 29 else 28)
  else if month = 4 ∨ month = 6 ∨ month = 9 ∨ month = 11 then 30
  else 31

/-- Days from 1 January 1970 to a date. Years start in March and come in cycles of 400. -/
def dayNumber (x : Date) : Int :=
  let y := if x.month ≤ 2 then x.year - 1 else x.year
  let cycle := y / 400
  let yearOfCycle := y % 400
  let monthFromMarch : Int := if 2 < x.month then (x.month : Int) - 3 else x.month + 9
  let dayOfYear := (153 * monthFromMarch + 2) / 5 + x.day - 1
  let dayOfCycle := yearOfCycle * 365 + yearOfCycle / 4 - yearOfCycle / 100 + dayOfYear
  cycle * 146097 + dayOfCycle - 719468

/-- The date that many days after 1 January 1970. -/
def ofDayNumber (n : Int) : Date :=
  let z := n + 719468
  let cycle := z / 146097
  let dayOfCycle := z % 146097
  let yearOfCycle :=
    (dayOfCycle - dayOfCycle / 1460 + dayOfCycle / 36524 - dayOfCycle / 146096) / 365
  let dayOfYear := dayOfCycle - (365 * yearOfCycle + yearOfCycle / 4 - yearOfCycle / 100)
  let monthFromMarch := (5 * dayOfYear + 2) / 153
  let day := dayOfYear - (153 * monthFromMarch + 2) / 5 + 1
  let month := if monthFromMarch < 10 then monthFromMarch + 3 else monthFromMarch - 9
  let year := yearOfCycle + cycle * 400
  ⟨if month ≤ 2 then year + 1 else year, month.toNat, day.toNat⟩

/-- The day of the week of a day number, Sunday being `0`. -/
def weekday (n : Int) : Int := (n + 4) % 7

/-- The day number of the first Sunday on or after a day of a month. -/
def sundayFrom (year : Int) (month day : Nat) : Int :=
  let n := dayNumber ⟨year, month, day⟩
  n + (7 - weekday n) % 7

/-- A natural in decimal, padded with zeros to a width. -/
def padded (width n : Nat) : String :=
  let ds := Nat.toDigits 10 n
  String.ofList (List.replicate (width - ds.length) '0' ++ ds)

def isoText (x : Date) : String :=
  padded 4 x.year.toNat ++ "-" ++ padded 2 x.month ++ "-" ++ padded 2 x.day

end Date

end IncidentBoard
