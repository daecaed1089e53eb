import IncidentBoard.Calendar
import IncidentBoard.Json.Reader

/-!
# Reading dates

A date is given as `2021-06-01`, as a date with the time midnight, or as a count of seconds (or
milliseconds, for large counts) since 1 January 1970 that is a whole number of days.

## Main definitions

* `Date.Flaw`, `Date.Flaw.message` — what is wrong with a date, and its wording.
* `Date.Reading` — a date, a date with a time, or a flaw.
* `Date.ofText`, `Date.ofSeconds` — the two readers.
-/

namespace IncidentBoard.Date

/-- What is wrong with the text or the count given for a date. -/
inductive Flaw where
  | tooShort
  | extraCharacters
  | separator
  | dateSeparator
  | timeSeparator
  | yearCharacter
  | monthCharacter
  | dayCharacter
  | hourCharacter
  | minuteCharacter
  | secondCharacter
  | zoneSign
  | zoneHour
  | zoneMinute
  | monthRange
  | dayRange
  | hourRange
  | minuteRange
  | secondRange
  | zoneRange
  | zoneMinuteRange
  | fractionMissing
  | tooEarly
  | tooLate
  | notANumber
  deriving DecidableEq, Repr

def Flaw.message : Flaw → String
  | .tooShort => "input is too short"
  | .extraCharacters => "unexpected extra characters at the end of the input"
  | .separator => "invalid datetime separator, expected \x60T\x60, \x60t\x60, \x60_\x60 or space"
  | .dateSeparator => "invalid date separator, expected \x60-\x60"
  | .timeSeparator => "invalid time separator, expected \x60:\x60"
  | .yearCharacter => "invalid character in year"
  | .monthCharacter => "invalid character in month"
  | .dayCharacter => "invalid character in day"
  | .hourCharacter => "invalid character in hour"
  | .minuteCharacter => "invalid character in minute"
  | .secondCharacter => "invalid character in second"
  | .zoneSign => "invalid timezone sign"
  | .zoneHour => "invalid timezone hour"
  | .zoneMinute => "invalid timezone minute"
  | .monthRange => "month value is outside expected range of 1-12"
  | .dayRange => "day value is outside expected range"
  | .hourRange => "hour value is outside expected range of 0-23"
  | .minuteRange => "minute value is outside expected range of 0-59"
  | .secondRange => "second value is outside expected range of 0-59"
  | .zoneRange => "timezone offset must be less than 24 hours"
  | .zoneMinuteRange => "timezone minute value is outside expected range of 0-59"
  | .fractionMissing => "second fraction value is missing"
  | .tooEarly => "dates before 0000 are not supported as unix timestamps"
  | .tooLate => "dates after 9999 are not supported as unix timestamps"
  | .notANumber => "NaN values not permitted"

/-- A date, with whether the time given with it is midnight. -/
structure Moment where
  date : Date
  midnight : Bool
  deriving DecidableEq, Repr

abbrev Reading := Except Flaw Moment

/-- The value of as many decimal digits as given. -/
def digits? (cs : List Char) : Option Nat :=
  if cs.all Json.isDigit then some (Json.digitsValue cs) else none

/-- The date in the first ten characters, and what follows it. -/
def ofIso : List Char → Except Flaw (Date × List Char)
  | y1 :: y2 :: y3 :: y4 :: s1 :: m1 :: m2 :: s2 :: d1 :: d2 :: rest => do
    let some year := digits? [y1, y2, y3, y4] | throw .yearCharacter
    if s1 ≠ '-' then throw .dateSeparator
    let some month := digits? [m1, m2] | throw .monthCharacter
    if s2 ≠ '-' then throw .dateSeparator
    let some day := digits? [d1, d2] | throw .dayCharacter
    if month < 1 ∨ 12 < month then throw .monthRange
    if day < 1 ∨ daysInMonth year month < day then throw .dayRange
    return (⟨year, month, day⟩, rest)
  | _ => .error .tooShort

/-- Two digits of a time within a bound. -/
def twoDigits (bound : Nat) (character range : Flaw) :
    List Char → Except Flaw (Nat × List Char)
  | a :: b :: rest => do
    let some n := digits? [a, b] | throw character
    if bound < n then throw range
    return (n, rest)
  | _ => .error .tooShort

/-- The offset from universal time at the end of a date with a time. -/
def zoneOf : List Char → Except Flaw Unit
  | [] => .ok ()
  | c :: rest => do
    if c = 'Z' ∨ c = 'z' then
      if rest ≠ [] then throw .extraCharacters
    else if c = '+' ∨ c = '-' ∨ c = '−' then
      match rest with
      | h1 :: h2 :: more =>
        let some hours := digits? [h1, h2] | throw .zoneHour
        let more := match more with
          | ':' :: r => r
          | r => r
        match more with
        | m1 :: m2 :: tail =>
          let some minutes := digits? [m1, m2] | throw .zoneMinute
          if 59 < minutes then throw .zoneMinuteRange
          if 24 * 60 ≤ hours * 60 + minutes then throw .zoneRange
          if tail ≠ [] then throw .extraCharacters
        | _ => throw .tooShort
      | _ => throw .tooShort
    else throw .zoneSign

/-- The time after a date: whether it is midnight. -/
def timeOf (cs : List Char) : Except Flaw Bool := do
  let (hour, cs) ← twoDigits 23 .hourCharacter .hourRange cs
  let cs ← match cs with
    | [] => throw .tooShort
    | ':' :: r => pure r
    | _ => throw .timeSeparator
  let (minute, cs) ← twoDigits 59 .minuteCharacter .minuteRange cs
  match cs with
  | ':' :: r =>
    let (second, r) ← twoDigits 59 .secondCharacter .secondRange r
    match r with
    | mark :: f =>
      if mark = '.' ∨ mark = ',' then
        let fraction := f.takeWhile Json.isDigit
        if fraction = [] then throw .fractionMissing
        zoneOf (f.drop fraction.length)
        return hour == 0 && minute == 0 && second == 0 && (fraction.take 6).all (· == '0')
      else
        zoneOf r
        return hour == 0 && minute == 0 && second == 0
    | [] => return hour == 0 && minute == 0 && second == 0
  | r =>
    zoneOf r
    return hour == 0 && minute == 0

def ofIsoMoment (cs : List Char) : Reading := do
  let (date, rest) ← ofIso cs
  match rest with
  | [] => return ⟨date, true⟩
  | c :: time =>
    if c = 'T' ∨ c = 't' ∨ c = ' ' ∨ c = '_' then
      return ⟨date, ← timeOf time⟩
    else throw .separator

/-- The moment some microseconds after 1 January 1970, if its year has four digits. -/
def ofMicroseconds (n : Int) : Reading :=
  let day := n / 86400000000
  if day < dayNumber ⟨0, 1, 1⟩ then .error .tooEarly
  else if dayNumber ⟨9999, 12, 31⟩ < day then .error .tooLate
  else .ok ⟨ofDayNumber day, n % 86400000000 == 0⟩

/-- Counts beyond this are milliseconds, others are seconds. -/
def secondsBound : Nat := 20000000000

/-- The moment of a count of seconds, or of milliseconds if it is large. -/
def ofSeconds (n : Int) : Reading :=
  ofMicroseconds (if secondsBound < n.natAbs then n * 1000 else n * 1000000)

/-- The moment of a count that need not be whole. -/
def ofReal (x : Binary64) : Reading :=
  match x.ratio? with
  | some (n, d) =>
    let scale : Int := if (secondsBound : Int) * d < n.natAbs then 1000 else 1000000
    ofMicroseconds ((n * scale).fdiv d)
  | none =>
    match x with
    | .infinite true => .error .tooEarly
    | .infinite false => .error .tooLate
    | _ => .error .notANumber

/-- The whole number that a text consists of, with one sign at most. -/
def wholeNumber? (cs : List Char) : Option Int :=
  let (negative, ds) := match cs with
    | '-' :: r => (true, r)
    | '+' :: r => (false, r)
    | r => (false, r)
  if ds = [] ∨ !ds.all Json.isDigit then none
  else
    let n : Int := Json.digitsValue ds
    some (if negative then -n else n)

/-- A date, a date with a time, or a whole count. -/
def ofText (s : String) : Reading :=
  let cs := s.toList
  match ofIsoMoment cs with
  | .ok m => .ok m
  | .error e =>
    match wholeNumber? cs with
    | some n => ofSeconds n
    | none => .error e

end IncidentBoard.Date
