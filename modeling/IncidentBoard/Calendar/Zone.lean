/-!
# Time zones

A zone tells the offset of local time from universal time at every moment. Which zones there are,
and when their clocks change, stands in a database that is kept elsewhere: what is said of zones is
said of every database and of every zone.

## Main definitions

* `Zone`, `Zone.localTime` — a zone, and local time in it.
* `TimeZones` — a database of zones; `TimeZones.none` — the one without any.
* `Zone.Unknown`, `Zone.Unknown.message` — why a key names no zone, and its wording.
* `Zone.named` — the zone of a key.
-/

namespace IncidentBoard

/-- A time zone: the seconds to add to universal time at every moment, itself in seconds. -/
structure Zone where
  offset : Int → Int

/-- A database of time zones: the zone that it keeps under a key. -/
class TimeZones where
  find? : String → Option Zone

/-- The database without any zone. -/
abbrev TimeZones.none : TimeZones := ⟨fun _ => .none⟩

namespace Zone

def utc : Zone := ⟨fun _ => 0⟩

/-- Seconds of local time since 1 January 1970, at a moment of universal time. -/
def localTime (z : Zone) (seconds : Int) : Int := seconds + z.offset seconds

@[simp] theorem localTime_utc (seconds : Int) : utc.localTime seconds = seconds :=
  Int.add_zero seconds

/-! ## Keys -/

/-- Why a key names no zone. -/
inductive Unknown where
  | missing (key : String)
  | absolute (key : String)
  | notNormal (key : String)
  | outside (key : String)
  deriving DecidableEq, Repr

def Unknown.message : Unknown → String
  | .missing key => "No time zone found with key " ++ key
  | .absolute key => "ZoneInfo keys may not be absolute paths, got: " ++ key
  | .notNormal key => "ZoneInfo keys must be normalized relative paths, got: " ++ key
  | .outside key => "ZoneInfo keys must refer to subdirectories of TZPATH, got: " ++ key

/-- One part of a path joined to the normal parts before it, last first. -/
def normalStep (parts : List String) (part : String) : List String :=
  if part = "" ∨ part = "." then parts
  else if part ≠ ".." ∨ parts = [] ∨ parts.head? = some ".." then part :: parts
  else parts.drop 1

/-- A relative path without empty parts, dots and steps back. -/
def normalPath (path : String) : List String :=
  ((path.splitOn "/").foldl normalStep []).reverse

/-- The length of a path of normal parts; no part at all is written as a dot. -/
def pathLength (parts : List String) : Nat :=
  if parts = [] then 1 else parts.foldl (fun n part => n + part.length) (parts.length - 1)

/-- The zone of a key. Keys are paths below the folder of all zones; the one of universal time needs
no database. -/
def named [TimeZones] (key : String) : Except Unknown Zone :=
  if key.toUpper = "UTC" then .ok utc
  else if key.startsWith "/" then .error (.absolute key)
  else
    let parts := normalPath key
    if pathLength parts ≠ key.length then .error (.notNormal key)
    else if parts = [] ∨ parts.head? = some ".." then .error (.outside key)
    else
      match TimeZones.find? key with
      | some z => .ok z
      | none => .error (.missing key)

end Zone

end IncidentBoard
