import IncidentBoard.Field
import IncidentBoard.Binary64.Shortest

/-!
# Settings

How the board is set up: where incidents and people come from, how the list behaves, and what is
shown first.

## Main definitions

* `Settings` — the settings.
* `Settings.read`, `Settings.toFields` — the reader and the written form.
* `Settings.mode` — the mode of a category of providers.
* `Settings.change` — the settings with some fields replaced and not checked.
-/

namespace IncidentBoard

open IncidentBoard.Field

/-- How the board is set up. Read settings keep the bounds of `perPage` and `quietTime`; changed
ones need not. -/
structure Settings where
  backstageMode : String
  incidentsMode : String
  usersMode : String
  scenario : String
  latency : Bool
  apiBase : String
  apiToken : String
  apiTimeout : Binary64
  databaseUrl : String
  perPage : Int
  /-- The quiet time of the search box, in milliseconds. -/
  quietTime : Int
  resetPage : Bool
  cutoff : Date
  timeZone : String
  logLevel : String
  teamId : String
  teamName : String
  deriving DecidableEq, Repr, Inhabited

namespace Settings

def model : String := "Settings"

/-- A whole number with a lower bound, without the proof of it. -/
def bounded (bound : Int) : Reader Int := fun v => (wholeFrom bound v).map (·.val)

def readFields (fs : Json.Fields) : Reading Settings :=
  Reading.and (Reading.and (Reading.and (Reading.and (Reading.and (Reading.and (Reading.and
  (Reading.and (Reading.and (Reading.and (Reading.and (Reading.and (Reading.and (Reading.and
    (Reading.and (Reading.and (Reading.and (.ok Settings.mk)
      (optional fs "backstage_mode" "mock" text))
      (optional fs "incidents_mode" "" text))
      (optional fs "users_mode" "" text))
      (optional fs "mock_scenario" "default" text))
      (optional fs "mock_delay_enabled" true truth))
      (optional fs "api_base_url" "http://localhost:8065" text))
      (optional fs "api_token" "" text))
      (optional fs "api_timeout_seconds" (.ofInt 10) number))
      (optional fs "database_url" "sqlite:///backstage.db" text))
      (optional fs "per_page" 15 (bounded 1)))
      (optional fs "search_debounce_ms" 300 (bounded 0)))
      (optional fs "reset_page_on_filter_change" true truth))
      (optional fs "ended_at_cutoff" ⟨2020, 1, 1⟩ date))
      (optional fs "display_timezone" "UTC" text))
      (optional fs "log_level" "INFO" text))
      (optional fs "default_team_id" "" text))
      (optional fs "default_team_name" "" text)

def read (fs : Json.Fields) : Except Rejection Settings := (readFields fs).of model

/-- The written form, with numbers that need not be whole in the form that `real` gives them. -/
def toFields (real : Binary64 → Json) (s : Settings) : Json.Fields :=
  [("backstage_mode", .text s.backstageMode), ("incidents_mode", .text s.incidentsMode),
    ("users_mode", .text s.usersMode), ("mock_scenario", .text s.scenario),
    ("mock_delay_enabled", .bool s.latency), ("api_base_url", .text s.apiBase),
    ("api_token", .text s.apiToken), ("api_timeout_seconds", real s.apiTimeout),
    ("database_url", .text s.databaseUrl), ("per_page", .int s.perPage),
    ("search_debounce_ms", .int s.quietTime),
    ("reset_page_on_filter_change", .bool s.resetPage),
    ("ended_at_cutoff", .text s.cutoff.isoText), ("display_timezone", .text s.timeZone),
    ("log_level", .text s.logLevel), ("default_team_id", .text s.teamId),
    ("default_team_name", .text s.teamName)]

def names : List String :=
  ["backstage_mode", "incidents_mode", "users_mode", "mock_scenario", "mock_delay_enabled",
    "api_base_url", "api_token", "api_timeout_seconds", "database_url", "per_page",
    "search_debounce_ms", "reset_page_on_filter_change", "ended_at_cutoff", "display_timezone",
    "log_level", "default_team_id", "default_team_name"]

def modeOf (s : Settings) (category : String) : String :=
  if category = "incidents" then s.incidentsMode
  else if category = "users" then s.usersMode
  else if category = "backstage" then s.backstageMode
  else ""

/-- The mode of a category: its own, or the global one where it has none. -/
def mode (s : Settings) (category : String) : String :=
  let own := s.modeOf category
  if own ≠ "" then own else s.backstageMode

def scenarios : List String := ["default", "empty"]

/-- The quiet time of the search box in seconds. -/
def quietSeconds (s : Settings) : Binary64 :=
  Binary64.ofRatio (s.quietTime < 0) s.quietTime.natAbs 1000

/-- One field replaced by a value of its type; other values change nothing. -/
def changeField (s : Settings) (name : String) (v : Json) : Settings :=
  match name, v with
  | "backstage_mode", .text x => { s with backstageMode := x }
  | "incidents_mode", .text x => { s with incidentsMode := x }
  | "users_mode", .text x => { s with usersMode := x }
  | "mock_scenario", .text x => { s with scenario := x }
  | "mock_delay_enabled", .bool x => { s with latency := x }
  | "api_base_url", .text x => { s with apiBase := x }
  | "api_token", .text x => { s with apiToken := x }
  | "api_timeout_seconds", .real x => { s with apiTimeout := x }
  | "api_timeout_seconds", .int n => { s with apiTimeout := .ofInt n }
  | "database_url", .text x => { s with databaseUrl := x }
  | "per_page", .int n => { s with perPage := n }
  | "search_debounce_ms", .int n => { s with quietTime := n }
  | "reset_page_on_filter_change", .bool x => { s with resetPage := x }
  | "ended_at_cutoff", .text x =>
    match Date.ofIso x.toList with
    | .ok (date, []) => { s with cutoff := date }
    | _ => s
  | "display_timezone", .text x => { s with timeZone := x }
  | "log_level", .text x => { s with logLevel := x }
  | "default_team_id", .text x => { s with teamId := x }
  | "default_team_name", .text x => { s with teamName := x }
  | _, _ => s

/-- Some fields replaced, in turn and without checks. -/
def change (s : Settings) (fs : Json.Fields) : Settings :=
  fs.foldl (fun s (name, v) => s.changeField name v) s

end Settings

end IncidentBoard
