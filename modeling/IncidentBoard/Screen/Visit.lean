import IncidentBoard.Session
import IncidentBoard.Screen.ListPage
import IncidentBoard.Screen.SettingsPage

/-!
# Visits

A user visits a page and does something on it; the page is run, and run again as long as a run
asks for it. The session lives on from visit to visit.

## Main definitions

* `Installation` — the environment, the files and stores, and the session.
* `Visit` — a page and what the user does on it.
* `Outcome` — what a run showed, and how it ended.
* `Installation.visit` — the runs of a visit.
-/

namespace IncidentBoard.Screen

/-- The environment, the files and stores that providers are made from, and the session. -/
structure Installation where
  environment : Environment.Variables
  world : World
  session : Option Session

/-- How a run ended. -/
inductive Ending where
  | done
  | again
  | failed (failure : Failure)
  deriving Repr

/-- What a run showed, and how it ended. -/
structure Outcome where
  shown : List (Box × Element)
  ending : Ending
  deriving Repr

/-! ## The frame of every page -/

def listLink : PageLink := ⟨"Incidents", "🚨", "incidents", true⟩

def settingsLink : PageLink := ⟨"Settings", "⚙️", "settings", false⟩

/-- The names of the levels of the log. -/
def logLevels : List String :=
  ["CRITICAL", "FATAL", "ERROR", "WARN", "WARNING", "INFO", "DEBUG", "NOTSET"]

/-- The level of the log has to be known. -/
def checkLogLevel (s : Settings) : Except Failure Unit :=
  let level := s.logLevel.toUpper
  if logLevels.contains level then .ok () else .error (.foreign (.logLevel level))

/-- The first of some texts that is not empty. -/
def firstOf (texts : List String) (last : String) : String :=
  (texts.find? (· ≠ "")).getD last

/-- The navigation and the bar at the side. -/
def frame {ω : Type} (s : Settings) : Render ω Unit := do
  Render.showIn .main (.navigation [listLink, settingsLink])
  Render.textIn .sidebar .title "🚨 Incident Backstage"
  let team := firstOf [s.teamName, s.teamId] "no team selected"
  Render.textIn .sidebar .caption s!"Team: **{team}**"
  let incidents := s.mode Category.incidents.word
  let users := s.mode Category.users.word
  Render.textIn .sidebar .caption s!"Incidents: **{incidents}** | Users: **{users}**"
  if incidents = "sql" then Render.textIn .sidebar .caption s!"Store: `{s.databaseUrl}`"

/-! ## Pages -/

/-- What is said while there is no team to show. -/
def teamHint : String :=
  "Set a team on the Settings page (or **DEFAULT_TEAM_ID**) to choose which team's incidents " ++
    "to show."

/-- The dashboard of a session and the world. -/
def dashboard? (p : Session × World) : Option (Dashboard Source Roll) :=
  p.1.mounted.map (·.dashboard)

/-- The part of a run that acts on the dashboard. -/
def onDashboard (part : Render (Dashboard Source Roll) Unit) : Render (Session × World) Unit :=
  Render.within dashboard? (fun d p => (p.1.withDashboard d, p.2)) part

/-- The dashboard: the incident that is open, or the list. -/
def dashboardPage [TimeZones] {σ δ : Type} (env : Backend σ δ) (isNew : Bool) :
    Render (Dashboard σ δ) Unit := do
  if isNew then Render.update (·.load env)
  ListPage.settle env
  let d ← Render.state
  match d.scene.view.result? with
  | some r =>
    if ← DetailPage.render d.settings r then
      Render.update fun d => .ok d.closeIncident
      Render.again
  | none => ListPage.render env

/-- The page of the incidents. What is under way when its run ends is dropped. -/
def incidentsPage [TimeZones] : Render (Session × World) Unit := do
  let s := (← Render.state).1.settings
  if s.teamId = "" then Render.text .info teamHint
  else
    let isNew ← Render.act fun (session, w) =>
      let (isNew, session, w) := session.dashboardFor w s.teamId (firstOf [s.teamName] s.teamId)
      (isNew, session, w)
    onDashboard (dashboardPage Source.backend isNew)

def settingsPage : Render (Session × World) Unit := do
  let s := (← Render.state).1.settings
  if let some new ← SettingsPage.render s then
    Render.update fun (session, w) => .ok (session.apply new, w)
    Render.text .success "Settings applied."
    Render.again

/-- A run of the page under a path. -/
def page [TimeZones] (path : String) : Render (Session × World) Unit := do
  let s := (← Render.state).1.settings
  Render.ofExcept (checkLogLevel s)
  frame s
  if path = settingsLink.path then settingsPage else incidentsPage

/-- The session after a run, with nothing under way on its dashboard. -/
def abandon (s : Session) : Session :=
  { s with mounted := s.mounted.map fun m =>
      { m with dashboard := m.dashboard.withScene m.dashboard.scene.abandon } }

/-! ## Visits -/

/-- A page, and what the user does on it. -/
structure Visit where
  path : String
  gestures : Gestures
  deriving Repr

def endingOf {α : Type} : Except Stop α → Ending
  | .ok _ => .done
  | .error .again => .again
  | .error (.failed f) => .failed f

namespace Installation

/-- One run: what it showed, what is left of the gestures, and the installation after it. -/
def run [TimeZones] (i : Installation) (v : Visit) : Outcome × Gestures × Installation :=
  match Session.ensure i.environment i.session with
  | .error f => (⟨[], .failed f⟩, v.gestures, i)
  | .ok s =>
    let (end_, r) := (page v.path).run ⟨(s, i.world), [], 0, v.gestures⟩
    (⟨r.shown, endingOf end_⟩, r.gestures,
      { i with session := some (abandon r.state.1), world := r.state.2 })

/-- How often a page is run at most. -/
def runLimit : Nat := 5

/-- The runs of a visit, at most so many. What was entered counts for the first run only. -/
def runs [TimeZones] : Nat → Installation → Visit → List Outcome × Installation
  | 0, i, _ => ([], i)
  | fuel + 1, i, v =>
    let (outcome, left, i) := i.run v
    match outcome.ending with
    | .again =>
      let (outcomes, i) := runs fuel i ⟨v.path, { left with entered := [] }⟩
      (outcome :: outcomes, i)
    | _ => ([outcome], i)

def visit [TimeZones] (i : Installation) (v : Visit) : List Outcome × Installation :=
  runs runLimit i v

/-- The installation with other stores in its files. -/
def withDatabases (i : Installation) (d : Databases) : Installation :=
  { i with world := { i.world with databases := d }, session := i.session.map (·.refresh d) }

end Installation

end IncidentBoard.Screen
