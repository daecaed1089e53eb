import IncidentBoard.Proofs.Scene.Providers
import IncidentBoard.Proofs.Session.Mounting

/-!
# Settings are never mixed

A session goes on by moves in any order: it is begun again, new settings are applied, the dashboard
of a team is asked for or dropped, the dashboard is used, and files and stores change around it. At
any time its registry is of its settings, and so are the dashboard that is mounted and the providers
it uses.

## Main definitions

* `Session.Fits` — a dashboard of the settings, with the providers that the registry keeps.
* `Session.Coherent` — a session whose registry and dashboard are of its settings.
* `Session.Move`, `Session.perform`, `Session.after` — what is done with a session.
* `Session.never_mixes` — every session is coherent, and how it answers who asks for a dashboard.
-/

namespace IncidentBoard.Session

variable {s t : Session} {team : String} {isNew : Bool}

/-! ## Coherent sessions -/

/-- The provider that a registry keeps for a category has the number and is of the kind of one in
use, whose state may be another by now. -/
def Lends (r : Registry) (c : Category) (serial : Nat) (inUse : Instance) : Prop :=
  ∃ h, r.kept.lookup c = some h ∧ h.serial = serial ∧ h.made.kind? = inUse.kind?

/-- A dashboard of the settings, with the providers that the registry keeps. -/
structure Fits (s : Session) (m : Mounted) : Prop where
  settings : m.dashboard.settings = s.settings
  incidents : Lends s.registry .incidents m.incidents (.incidents m.dashboard.scene.source)
  users : Lends s.registry .users m.users (.users m.dashboard.scene.people)

/-- What a session keeps is of its settings: the registry, the providers it keeps, and the dashboard
over them. -/
structure Coherent (s : Session) : Prop where
  settings : s.registry.settings = s.settings
  sound : s.registry.Sound
  fits : ∀ m, s.mounted = some m → s.Fits m

theorem coherent_of_vacant (settings : s.registry.settings = s.settings) (sound : s.registry.Sound)
    (vacant : s.mounted = none) : s.Coherent := by
  refine ⟨settings, sound, fun m here => ?_⟩
  cases vacant.symm.trans here

theorem coherent_start (settings : Settings) : (start settings).Coherent :=
  coherent_of_vacant rfl (Registry.sound_start settings 0) rfl

theorem coherent_apply (s : Session) (settings : Settings) : (s.apply settings).Coherent :=
  coherent_of_vacant rfl (Registry.sound_start settings s.registry.next) rfl

/-! ## A dashboard in use -/

/-- A call on a source leaves its kind. -/
theorem kind?_call {α : Type} (source : Source)
    (ask : {σ : Type} → Provider σ → σ → Reply α × σ) :
    (Instance.incidents (source.call ask).2).kind? = (Instance.incidents source).kind? := by
  cases source <;> rfl

/-- No call changes the kinds of the providers in use. -/
theorem preserves_kinds : Source.backend.Preserves (fun source => (Instance.incidents source).kind?)
    (fun people => (Instance.users people).kind?) where
  list source _ := kind?_call source _
  commanders source _ := kind?_call source _
  detail source _ := kind?_call source _
  summary source _ := kind?_call source _
  profile people _ := by cases people <;> rfl

/-- A scene goes on with providers of the same kinds. -/
abbrev Follows (a b : Scene Source Roll) : Prop :=
  Scene.Retains (fun source => (Instance.incidents source).kind?)
    (fun people => (Instance.users people).kind?) a b

theorem Lends.refresh {r : Registry} {c : Category} {serial : Nat} {inUse : Instance}
    (lends : Lends r c serial inUse) (d : Databases) : Lends (r.refresh d) c serial inUse := by
  obtain ⟨h, kept, number, kind⟩ := lends
  refine ⟨Registry.refreshed d h, ?_, (Registry.serial_refreshed d h).trans number,
    (Registry.kind?_refreshed d h).trans kind⟩
  rw [Registry.lookup_refresh, kept]
  rfl

/-- A provider in use may be in another state, but is still the one that the registry keeps. -/
theorem Lends.congr {r : Registry} {c : Category} {serial : Nat} {inUse later : Instance}
    (lends : Lends r c serial inUse) (kind : later.kind? = inUse.kind?) :
    Lends r c serial later := by
  obtain ⟨h, kept, number, same⟩ := lends
  exact ⟨h, kept, number, same.trans kind.symm⟩

namespace Coherent

theorem unmount (coherent : s.Coherent) : s.unmount.Coherent :=
  coherent_of_vacant coherent.settings coherent.sound rfl

theorem withDashboard (coherent : s.Coherent) {d : Dashboard Source Roll}
    (settings : ∀ m, s.mounted = some m → d.settings = m.dashboard.settings)
    (follows : ∀ m, s.mounted = some m → Follows m.dashboard.scene d.scene) :
    (s.withDashboard d).Coherent := by
  refine ⟨coherent.settings, coherent.sound, fun m' here => ?_⟩
  obtain ⟨m, mounted, rfl⟩ := Option.map_eq_some_iff.1 here
  have fits := coherent.fits m mounted
  exact ⟨(settings m mounted).trans fits.settings, fits.incidents.congr (follows m mounted).source,
    fits.users.congr (follows m mounted).people⟩

theorem refresh (coherent : s.Coherent) (d : Databases) : (s.refresh d).Coherent := by
  refine ⟨coherent.settings, coherent.sound.refresh d, fun m' here => ?_⟩
  obtain ⟨m, mounted, rfl⟩ := Option.map_eq_some_iff.1 here
  have fits := coherent.fits m mounted
  exact ⟨fits.settings, (fits.incidents.refresh d).congr (Instance.kind?_refresh _ d),
    fits.users.refresh d⟩

/-! ## Asking for a dashboard -/

theorem of_fails (coherent : s.Coherent) (fails : Fails s t) : t.Coherent := by
  obtain ⟨vacant, rest, adds, sound⟩ := fails
  rw [rest]
  exact coherent_of_vacant (adds.settings.trans coherent.settings) (sound coherent.sound) vacant

theorem of_mounts (coherent : s.Coherent) (mounts : Mounts s team t) : t.Coherent := by
  obtain ⟨m, mounted, opens⟩ := mounts.mounted
  refine ⟨?_, mounts.sound coherent.sound, fun m' here => ?_⟩
  · rw [mounts.adds.settings, mounts.settings, coherent.settings]
  · cases mounted.symm.trans here
    exact ⟨opens.settings.trans mounts.settings.symm, ⟨_, opens.incidents, rfl, rfl⟩,
      _, opens.users, rfl, rfl⟩

theorem of_shows (coherent : s.Coherent) (shown : Shows s team isNew t) : t.Coherent := by
  cases mounted : s.mounted with
  | none => exact coherent.of_mounts (shown.mounts mounted)
  | some m =>
    obtain ⟨d, rfl, keeps⟩ := shown.keeps m mounted
    refine coherent.withDashboard (fun m' here => ?_) fun m' here => ?_ <;>
      cases mounted.symm.trans here
    · exact keeps.settings
    · exact ⟨by rw [keeps.source], by rw [keeps.people]⟩

end Coherent

/-! ## Moves -/

/-- What is done with a session that has begun, and what happens around it. -/
inductive Move where
  /-- The session is begun again. -/
  | ensure (vars : Environment.Variables)
  | apply (settings : Settings)
  /-- The dashboard of a team is asked for. -/
  | dashboardFor (team name : String)
  | unmount
  /-- The dashboard that is mounted is used. -/
  | use (u : Scene.Use)
  /-- The files and stores that providers are made from change. -/
  | outside (w : World)

/-- The session and the world after a move. -/
def perform (p : Session × World) : Move → Session × World
  | .ensure vars => ((ensure vars (some p.1)).toOption.getD p.1, p.2)
  | .apply settings => (p.1.apply settings, p.2)
  | .dashboardFor team name => (p.1.dashboardFor p.2 team name).2
  | .unmount => (p.1.unmount, p.2)
  | .use u =>
    match p.1.mounted with
    | some m =>
      (p.1.withDashboard (m.dashboard.withScene (u.apply Source.backend m.dashboard.scene)), p.2)
    | none => p
  | .outside w => (p.1.refresh w.databases, w)

def after (p : Session × World) (moves : List Move) : Session × World := moves.foldl perform p

theorem Coherent.step {p : Session × World} (coherent : p.1.Coherent) (move : Move) :
    (perform p move).1.Coherent := by
  cases move with
  | ensure vars => exact coherent
  | apply settings => exact coherent_apply p.1 settings
  | dashboardFor team name =>
    rcases p.1.dashboardFor_cases p.2 team name with ⟨isNew, -, shown⟩ | ⟨f, -, fails⟩
    · exact coherent.of_shows shown
    · exact coherent.of_fails fails
  | unmount => exact coherent.unmount
  | use u =>
    unfold perform
    cases mounted : p.1.mounted with
    | none => exact coherent
    | some m =>
      refine coherent.withDashboard (fun m' here => ?_) fun m' here => ?_ <;>
        cases mounted.symm.trans here
      · rfl
      · exact u.retains preserves_kinds m.dashboard.scene
  | outside w => exact coherent.refresh w.databases

theorem Coherent.run {p : Session × World} (coherent : p.1.Coherent) (moves : List Move) :
    (after p moves).1.Coherent := by
  induction moves generalizing p with
  | nil => exact coherent
  | cons move rest ih => exact ih (coherent.step move)

/-- A session that has begun is coherent after any moves. Whoever asks it for a dashboard is shown
one of the team, or the dashboard cannot be mounted and the session stays what it was, with more
providers. -/
theorem never_mixes {vars : Environment.Variables} {first : Session}
    (begun : ensure vars none = .ok first) (w : World) (moves : List Move) :
    let p := after (first, w) moves
    p.1.Coherent ∧ ∀ team name,
      (∃ isNew, (p.1.dashboardFor p.2 team name).1 = .ok isNew ∧
        Shows p.1 team isNew (p.1.dashboardFor p.2 team name).2.1) ∨
      ∃ f, (p.1.dashboardFor p.2 team name).1 = .error f ∧
        Fails p.1 (p.1.dashboardFor p.2 team name).2.1 := by
  obtain ⟨settings, -, rfl⟩ := Failure.map_eq_ok_iff.1 begun
  exact ⟨(coherent_start settings).run moves, fun team name => dashboardFor_cases _ _ team name⟩

/-- People are asked for in a mode that offers none, so no dashboard can be mounted until other
settings are applied. The one that is mounted then goes on to another team from its third page. -/
theorem never_mixes_of_failed_mount :
    ∃ first f, ensure [("BACKSTAGE_MODE", "live"), ("USERS_MODE", "sql")] none = .ok first ∧
      (first.dashboardFor ⟨[], []⟩ "t1" "").1 = .error f ∧
      let p := after (first, ⟨[], []⟩) [.dashboardFor "t1" "",
        .apply { first.settings with usersMode := "" }, .dashboardFor "t1" "",
        .use (.dispatch (.setPage (.int 2))), .ensure []]
      ∃ m d, p.1.mounted = some m ∧ p.1.Fits m ∧ m.dashboard.query.team = "t1" ∧
        m.dashboard.query.page = 2 ∧ (p.1.dashboardFor p.2 "t2" "").1 = .ok false ∧
        (p.1.dashboardFor p.2 "t2" "").2.1 = p.1.withDashboard d ∧
        Dashboard.Keeps "t2" m.dashboard d := by
  have begun : ensure [("BACKSTAGE_MODE", "live"), ("USERS_MODE", "sql")] none = .ok _ := rfl
  refine ⟨_, _, begun, rfl, ?_⟩
  intro p
  obtain ⟨coherent, answers⟩ := never_mixes begun ⟨[], []⟩ [.dashboardFor "t1" "", .apply _,
    .dashboardFor "t1" "", .use (.dispatch (.setPage (.int 2))), .ensure []]
  have mounted : p.1.mounted = some _ := rfl
  rcases answers "t2" "" with ⟨isNew, answer, shown⟩ | ⟨f, failed, fails⟩
  · obtain ⟨d, left, keeps⟩ := shown.keeps _ mounted
    exact ⟨_, d, mounted, coherent.fits _ mounted, rfl, rfl, rfl, left, keeps⟩
  · cases fails.unmounted

end IncidentBoard.Session
