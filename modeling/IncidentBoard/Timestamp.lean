import IncidentBoard.Calendar
import IncidentBoard.Calendar.Zone

/-!
# Timestamps

How a count of seconds since 1 January 1970 is shown in a zone, such as `Nov 14 11:13 PM`, and
which counts have no date.

## Main definitions

* `Timestamp.Flaw`, `Timestamp.Flaw.message` — why a count has no local date, and its wording.
* `Timestamp.localTime?` — the local time of a count.
* `Timestamp.text` — month, day, hour on the 12-hour clock and minute of a local time.
* `Timestamp.format` — both in turn.
-/

namespace IncidentBoard.Timestamp

/-- Why a count of seconds has no local date. -/
inductive Flaw where
  | yearRange (year : Int)
  | beyondClock
  | beyondYears
  | localRange
  deriving DecidableEq, Repr

def Flaw.message : Flaw → String
  | .yearRange year => s!"year {year} is out of range"
  | .beyondClock => "timestamp out of range for platform time_t"
  | .beyondYears => "[Errno 75] Value too large for defined data type"
  | .localRange => "date value out of range"

/-- The clock counts seconds in 64 bits, one of them for the sign. -/
def clockBound : Int := 9223372036854775808

/-- The clock counts years from 1900 in 32 bits, one of them for the sign. -/
def yearBound : Int := 2147483648

def yearFits (year : Int) : Bool := 1 ≤ year && year ≤ 9999

def yearOf (seconds : Int) : Int := (Date.ofDayNumber (seconds / 86400)).year

/-- Seconds of local time of a count of seconds; both it and the universal time have to lie in the
years from 1 to 9999. -/
def localTime? (zone : Zone) (seconds : Int) : Except Flaw Int :=
  if seconds < -clockBound ∨ clockBound ≤ seconds then .error .beyondClock
  else
    let year := yearOf seconds
    if year - 1900 < -yearBound ∨ yearBound ≤ year - 1900 then .error .beyondYears
    else if !yearFits year then .error (.yearRange year)
    else if yearFits (yearOf (zone.localTime seconds)) then .ok (zone.localTime seconds)
    else .error .localRange

def monthName (month : Nat) : String :=
  ["Jan", "Feb", "Mar", "Apr", "May", "Jun", "Jul", "Aug", "Sep", "Oct", "Nov", "Dec"].getD
    (month - 1) ""

def hourOf (seconds : Int) : Nat := (seconds % 86400 / 3600).toNat

def minuteOf (seconds : Int) : Nat := (seconds % 3600 / 60).toNat

def text (seconds : Int) : String :=
  let date := Date.ofDayNumber (seconds / 86400)
  let hour := hourOf seconds
  let shown := if hour % 12 = 0 then 12 else hour % 12
  let half := if hour < 12 then "AM" else "PM"
  s!"{monthName date.month} {Date.padded 2 date.day} {shown}:" ++
    Date.padded 2 (minuteOf seconds) ++ " " ++ half

/-- The text of a count of seconds in a zone. -/
def format (zone : Zone) (seconds : Int) : Except Flaw String :=
  (localTime? zone seconds).map text

end IncidentBoard.Timestamp
