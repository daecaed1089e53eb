import IncidentBoard.Calendar
import IncidentBoard.Calendar.Zone

/-!
# A table of zones

A small database for boards that come without one: zones that keep one offset, and two whose clocks
are an hour ahead between two Sundays of the year. It tells the changes of recent decades only; no
statement about the board rests on it.

## Main definitions

* `Zone.Rules`, `Zone.Rules.zone` — the rules of a zone with summer time, and the zone.
* `Zone.table` — the zones by key, as a database.
-/

namespace IncidentBoard.Zone

/-- A yearly change of the clocks: the first Sunday on or after a day of a month, at a time of day
in the standard time of the zone. -/
structure Changeover where
  month : Nat
  day : Nat
  seconds : Int
  deriving DecidableEq, Repr

/-- The moment of a changeover in a year, in seconds of standard time. -/
def Changeover.moment (c : Changeover) (year : Int) : Int :=
  Date.sundayFrom year c.month c.day * 86400 + c.seconds

/-- The summer time of the years from `since` on. -/
structure SummerTime where
  since : Int
  start : Changeover
  finish : Changeover
  deriving DecidableEq, Repr

/-- The standard offset of a zone in seconds, and its summer time, latest first. -/
structure Rules where
  standard : Int
  summers : List SummerTime
  deriving DecidableEq, Repr

namespace Rules

/-- Whether summer time holds at a moment of standard time. -/
def isSummer (r : Rules) (standardTime : Int) : Bool :=
  let year := (Date.ofDayNumber (standardTime / 86400)).year
  match r.summers.find? fun s => s.since ≤ year with
  | some s => s.start.moment year ≤ standardTime && standardTime < s.finish.moment year
  | none => false

def zone (r : Rules) : Zone :=
  ⟨fun seconds => if r.isSummer (seconds + r.standard) then r.standard + 3600 else r.standard⟩

def eastern : Rules :=
  ⟨-5 * 3600,
    [⟨2007, ⟨3, 8, 7200⟩, ⟨11, 1, 3600⟩⟩,
      ⟨1987, ⟨4, 1, 7200⟩, ⟨10, 25, 3600⟩⟩,
      ⟨1976, ⟨4, 24, 7200⟩, ⟨10, 25, 3600⟩⟩,
      ⟨1975, ⟨2, 23, 7200⟩, ⟨10, 25, 3600⟩⟩,
      ⟨1974, ⟨1, 6, 7200⟩, ⟨10, 25, 3600⟩⟩,
      ⟨1967, ⟨4, 24, 7200⟩, ⟨10, 25, 3600⟩⟩]⟩

def centralEuropean : Rules :=
  ⟨3600,
    [⟨1996, ⟨3, 25, 7200⟩, ⟨10, 25, 7200⟩⟩,
      ⟨1981, ⟨3, 25, 7200⟩, ⟨9, 24, 7200⟩⟩]⟩

end Rules

/-- A zone with one offset, in hours and minutes. -/
def fixed (hours minutes : Int) : Zone := ⟨fun _ => hours * 3600 + minutes * 60⟩

def regions : List (String × Zone) :=
  [("America/New_York", Rules.eastern.zone), ("Europe/Paris", Rules.centralEuropean.zone),
    ("Asia/Kolkata", fixed 5 30), ("Asia/Kathmandu", fixed 5 45), ("Asia/Tokyo", fixed 9 0)]

/-- The other names of universal time. -/
def universal : List (String × Zone) :=
  (["GMT", "GMT0", "GMT+0", "GMT-0", "UCT", "Universal", "Zulu", "Greenwich", "Etc/GMT",
    "Etc/GMT0", "Etc/GMT+0", "Etc/GMT-0", "Etc/UTC", "Etc/UCT", "Etc/Universal", "Etc/Zulu",
    "Etc/Greenwich"] : List String).map (·, utc)

/-- The zones that lie whole hours before and behind universal time; in their names the sign
counts westward. -/
def hourly : List (String × Zone) :=
  ((List.range 12).map fun n => (s!"Etc/GMT+{n + 1}", fixed (-(n + 1 : Nat)) 0)) ++
    (List.range 14).map fun n => (s!"Etc/GMT-{n + 1}", fixed (n + 1 : Nat) 0)

instance table : TimeZones := ⟨fun key => (universal ++ regions ++ hourly).lookup key⟩

end IncidentBoard.Zone
