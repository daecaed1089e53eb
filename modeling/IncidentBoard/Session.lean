import IncidentBoard.Dashboard
import IncidentBoard.Registry
import IncidentBoard.Settings.Environment

/-!
# Sessions

What is kept for a user: the settings, the registry of providers made for them, and the dashboard
that is mounted. New settings bring a new registry and no dashboard, so providers of one setup are
never used with another. Each of the three has a slot; before the session begins no slot is in use,
except that of the dashboard once it was emptied.

## Main definitions

* `Mounted` — a mounted dashboard, with the numbers of the providers it uses.
* `Session` — what is kept.
* `Session.dashboardFor` — the dashboard for a team, mounted if there is none.
* `Session.unmount`, `Session.apply` — without the dashboard, and with new settings.
* `Kept` — the slots before and after the session begins.
-/

namespace IncidentBoard

/-- A mounted dashboard: its number, and those of the providers it uses. -/
structure Mounted where
  number : Nat
  incidents : Nat
  users : Nat
  dashboard : Dashboard Source Roll

/-- What is kept for a user. The clock is the time at which the last dashboard was left. -/
structure Session where
  settings : Settings
  registry : Registry
  mounted : Option Mounted
  mounts : Nat
  clock : Nat

namespace Session

def start (settings : Settings) : Session := ⟨settings, .start settings 0, none, 0, 0⟩

/-- The session of a user: the one kept, or a new one with the settings of the environment. -/
def ensure (vars : Environment.Variables) (kept : Option Session) : Except Failure Session :=
  match kept with
  | some s => .ok s
  | none => (Failure.ofRejection (Environment.settings [] vars none)).map start

def now (s : Session) : Nat :=
  match s.mounted with
  | some m => m.dashboard.scene.agenda.now
  | none => s.clock

def unmount (s : Session) : Session := { s with mounted := none, clock := s.now }

/-- New settings: nothing made for the old ones is used any more. -/
def apply (s : Session) (settings : Settings) : Session :=
  { s.unmount with settings := settings, registry := .start settings s.registry.next }

/-- The session with another state of its dashboard. -/
def withDashboard (s : Session) (d : Dashboard Source Roll) : Session :=
  { s with mounted := s.mounted.map fun m => { m with dashboard := d } }

/-- Mount a dashboard for a team. Providers that were made are kept even if it fails. -/
def mount (s : Session) (w : World) (team name : String) :
    Except Failure Unit × Session × World :=
  match s.registry.incidents w with
  | .error f => (.error f, s, w)
  | .ok (first, source, r, w) =>
    let s := { s with registry := r }
    match s.registry.users w with
    | .error f => (.error f, s, w)
    | .ok (second, people, r, w) =>
      let s := { s with registry := r }
      match Dashboard.mount s.settings source people team name with
      | .error f => (.error f, s, w)
      | .ok d =>
        let d := d.withScene { d.scene with agenda := d.scene.agenda.advanceTo s.clock }
        (.ok (), { s with mounted := some ⟨s.mounts, first, second, d⟩, mounts := s.mounts + 1 }, w)

/-- The dashboard for a team: a new one if none is mounted, else the mounted one, switched to the
team if it shows another one. The answer tells whether it was just mounted. -/
def dashboardFor (s : Session) (w : World) (team name : String) :
    Except Failure Bool × Session × World :=
  match s.mounted with
  | none =>
    let (outcome, s, w) := s.mount w team name
    (outcome.map fun _ => true, s, w)
  | some m =>
    if m.dashboard.query.team = team then (.ok false, s, w)
    else
      match m.dashboard.switchTeam team name with
      | .error f => (.error f, s, w)
      | .ok d => (.ok false, s.withDashboard d, w)

/-- The session with every store as it is in its file now. -/
def refresh (s : Session) (d : Databases) : Session :=
  { s with
    registry := s.registry.refresh d
    mounted := s.mounted.map fun m =>
      let scene := m.dashboard.scene
      let scene := { scene with source := scene.source.refresh d }
      { m with dashboard := m.dashboard.withScene scene } }

end Session

/-! ## Slots -/

/-- A slot of a session. -/
inductive Slot where
  | settings
  | dashboard
  | registry
  deriving DecidableEq, Repr

def Slot.word : Slot → String
  | .settings => "app_settings"
  | .dashboard => "incident_dashboard"
  | .registry => "integration_registry"

/-- What the slots hold. -/
inductive Kept where
  /-- No slot is in use. -/
  | nothing
  /-- Only the slot of the dashboard is in use, and it is empty. -/
  | emptied
  | session (s : Session)

namespace Kept

def session? : Kept → Option Session
  | .session s => some s
  | _ => none

def slots : Kept → List Slot
  | .nothing => []
  | .emptied => [.dashboard]
  | .session _ => [.settings, .dashboard, .registry]

def ensure (vars : Environment.Variables) (k : Kept) : Except Failure Kept :=
  (Session.ensure vars k.session?).map .session

/-- The session, for a change of its settings. -/
def forSettings : Kept → Except Failure Session
  | .session s => .ok s
  | _ => .error (.foreign (.missingKey Slot.settings.word))

/-- The session, for its dashboard. A dashboard can only be mounted where there are settings. -/
def forDashboard : Kept → Except Failure Session
  | .session s => .ok s
  | .emptied => .error (.foreign (.missingKey Slot.settings.word))
  | .nothing => .error (.foreign (.missingKey Slot.dashboard.word))

def unmount : Kept → Kept
  | .session s => .session s.unmount
  | _ => .emptied

@[simp] theorem session?_unmount (k : Kept) :
    k.unmount.session? = k.session?.map Session.unmount := by
  cases k <;> rfl

end Kept

end IncidentBoard
