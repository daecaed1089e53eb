import IncidentBoard.Incident
import IncidentBoard.Failure

/-!
# End times

When an incident ended, as a list shows it. Active incidents show no end, and neither do ended
ones whose end lies before a cutoff day.

## Main definitions

* `EndTime.format` — the text shown.
-/

namespace IncidentBoard.EndTime

/-- What is shown where there is no end. -/
def placeholder : String := "--"

/-- The text shown for the end of an incident; days are those of the zone. -/
def format (x : Incident) (cutoff : Date) (zone : Zone) : Except Failure String :=
  if x.isActive then .ok placeholder
  else
    match Timestamp.localTime? zone x.endedAt with
    | .error flaw => .error (.foreign (.timestamp flaw))
    | .ok seconds =>
      if seconds < cutoff.dayNumber * 86400 then .ok placeholder
      else .ok (Timestamp.text seconds)

end IncidentBoard.EndTime
