import IncidentBoard.Settings
import IncidentBoard.Screen.Render

/-!
# The page of the settings

Where incidents come from and how the list behaves. Nothing changes until the settings are
applied, and then everything that is shown here counts.

## Main definitions

* `SettingsPage.Form` — the values on the page.
* `SettingsPage.render` — the page, and the settings if they were applied.
-/

namespace IncidentBoard.Screen.SettingsPage

variable {ω : Type}

def modes : List String := ["mock", "live"]

/-- The modes of incidents that can be chosen; the empty one stands for the global mode. -/
def incidentModes : List String := ["", "mock", "live", "sql"]

def modeLabel (mode : String) : String := if mode = "" then "(use backstage mode)" else mode

/-- The values on the page. -/
structure Form where
  mode : String
  incidentsMode : String
  scenario : String
  latency : Bool
  teamId : String
  teamName : String
  perPage : Int
  resetPage : Bool
  deriving DecidableEq, Repr

def Form.applyTo (f : Form) (s : Settings) : Settings :=
  { s with
    backstageMode := f.mode
    incidentsMode := f.incidentsMode
    scenario := f.scenario
    latency := f.latency
    teamId := f.teamId
    teamName := f.teamName
    perPage := f.perPage
    resetPage := f.resetPage }

/-- The choice of the global mode; every mode but the first counts as the second. -/
def modeChoice (s : Settings) : Choice :=
  ⟨"Backstage mode", modes.map some, modes, if s.backstageMode = "mock" then 0 else 1, true,
    some "Mock mode reads scenario fixtures. Live mode calls the incident API.", none⟩

def incidentModeChoice (s : Settings) : Choice :=
  .select "Incident source override" (incidentModes.map some) (incidentModes.map modeLabel)
    ((incidentModes.idxOf? s.incidentsMode).getD 0)

/-- The choice of a scenario, which only counts where a mode asks for one. -/
def scenarioChoice (s : Settings) (needed : Bool) : Choice :=
  ⟨"Mock scenario", Settings.scenarios.map some, Settings.scenarios,
    (Settings.scenarios.idxOf? s.scenario).getD 0, false, none, some !needed⟩

def form (s : Settings) : Render ω Form := do
  Render.text .subheader "Data Source"
  let mode := modes.getD (← Render.choose .main (modeChoice s)) ""
  let incidentsMode := incidentModes.getD (← Render.choose .main (incidentModeChoice s)) ""
  let needed := mode == "mock" || incidentsMode == "mock"
  let scenario := Settings.scenarios.getD (← Render.choose .main (scenarioChoice s needed)) ""
  let latency ← Render.checkbox "Simulate API latency" s.latency
  Render.text .subheader "Incident List"
  let teamId ← Render.textInput .main "Team ID" s.teamId
  let teamName ← Render.textInput .main "Team name" s.teamName
  let perPage ← Render.numberInput "Incidents per page" 1 200 s.perPage
  let resetPage ← Render.checkbox "Return to the first page when a filter changes" s.resetPage
  return ⟨mode, incidentsMode, scenario, latency, teamId, teamName, perPage, resetPage⟩

def applyButton : Button := ⟨"Apply settings", none, none, none, true⟩

/-- The page: the new settings, if they were applied. -/
def render (s : Settings) : Render ω (Option Settings) := do
  Render.text .header "Settings"
  let f ← form s
  Render.showIn .main .divider
  if ← Render.press .main applyButton then return some (f.applyTo s) else return none

end IncidentBoard.Screen.SettingsPage
