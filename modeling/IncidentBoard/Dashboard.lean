import IncidentBoard.Scene
import IncidentBoard.Settings

/-!
# Dashboards

A dashboard shows the incidents of one team at a time: a scene, set up by settings, and the name
under which the team is shown.

## Main definitions

* `Dashboard` — the settings, the name of the team and the scene.
* `Dashboard.mount` — a dashboard for a team, with nothing fetched.
* `Dashboard.load`, `Dashboard.switchTeam`, `Dashboard.commanderOptions`, `Dashboard.openIncident`,
  `Dashboard.closeIncident` — what is done on it.
-/

namespace IncidentBoard

/-- A scene for one team, with its settings and the name of the team. -/
structure Dashboard (σ δ : Type) where
  settings : Settings
  teamName : String
  scene : Scene σ δ

namespace Dashboard

variable {σ δ : Type}

/-- The name shown for a team: its own, or its id where it has none. -/
def nameOf (team name : String) : String := if name ≠ "" then name else team

/-- The query that a team starts with. Changed settings may ask for pages that hold nothing. -/
def firstQuery (settings : Settings) (team : String) : Except Failure ListQuery :=
  Failure.ofRejection
    (ListQuery.read (.object [("team_id", .text team), ("per_page", .int settings.perPage)]))

/-- The first page of the team, if pages are to hold anything. -/
theorem firstQuery_eq (settings : Settings) (team : String) :
    firstQuery settings team =
      if h : 1 ≤ settings.perPage then .ok (.first team settings.perPage.toNat (by omega))
      else .error (.rejected ⟨ListQuery.model, [⟨[.name "per_page"], .atLeast 1⟩]⟩) := by
  by_cases least : 1 ≤ settings.perPage
  · have given : Field.wholeFrom 1 (.int settings.perPage) = .ok ⟨settings.perPage, least⟩ := by
      simp [Field.wholeFrom, Field.whole, least]
    rw [dif_pos least]
    simp [firstQuery, ListQuery.read, Field.object, ListQuery.readFields, Field.required,
      Field.optional, Json.Fields.get?, given, Field.text, Field.Reading.within,
      Field.Reading.of, Failure.ofRejection, ListQuery.ofBounded, ListQuery.first]
  · have refused : Field.wholeFrom 1 (.int settings.perPage) = Field.flawed (.atLeast 1) := by
      simp [Field.wholeFrom, Field.whole, least]
    rw [dif_neg least]
    simp [firstQuery, ListQuery.read, Field.object, ListQuery.readFields, Field.required,
      Field.optional, Json.Fields.get?, refused, Field.text, Field.Reading.within,
      Field.Reading.of, Failure.ofRejection, Field.Reading.and, Field.flawed, Field.Flaw.within]

/-- A dashboard for a team, with nothing fetched. -/
def mount (settings : Settings) (source : σ) (people : δ) (team name : String) :
    Except Failure (Dashboard σ δ) :=
  (firstQuery settings team).map fun q =>
    ⟨settings, nameOf team name, .start source people q settings.quietTime settings.resetPage⟩

def query (d : Dashboard σ δ) : ListQuery := d.scene.board.query

def list (d : Dashboard σ δ) : ListState := d.scene.board.list

def isViewing (d : Dashboard σ δ) : Bool := d.scene.view.isViewing

/-- The dashboard with another state of its scene. -/
def withScene (d : Dashboard σ δ) (s : Scene σ δ) : Dashboard σ δ := { d with scene := s }

def load (env : Backend σ δ) (d : Dashboard σ δ) : Except Failure (Dashboard σ δ) :=
  (d.scene.load env).map d.withScene

/-- Show another team; the page, the sort and the filters stay. -/
def switchTeam (d : Dashboard σ δ) (team name : String) : Except Failure (Dashboard σ δ) :=
  (d.scene.dispatch (.setTeam (.text team))).map fun s => ⟨d.settings, nameOf team name, s⟩

/-- The profiles of everyone who commanded an incident of the team. -/
def commanderOptions (env : Backend σ δ) (d : Dashboard σ δ) :
    Except Failure (List UserProfile) × Dashboard σ δ :=
  let (answer, s) := d.scene.commanderOptions env
  (answer, d.withScene s)

def openIncident (env : Backend σ δ) (d : Dashboard σ δ) (id : String) :
    Except Failure DetailResult × Dashboard σ δ :=
  let (answer, s) := d.scene.select env id
  (answer, d.withScene s)

/-- Show the list again, as it was left. -/
def closeIncident (d : Dashboard σ δ) : Dashboard σ δ := d.withScene d.scene.close

/-- What is said when the list is empty. -/
def emptyMessage (d : Dashboard σ δ) : String := d.query.emptyMessage d.teamName

@[simp] theorem query_closeIncident (d : Dashboard σ δ) : d.closeIncident.query = d.query := rfl

@[simp] theorem list_closeIncident (d : Dashboard σ δ) : d.closeIncident.list = d.list := rfl

end Dashboard

end IncidentBoard
