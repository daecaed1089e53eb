import IncidentBoard.Proofs.Registry.Resolution
import IncidentBoard.Proofs.Scene.Run
import IncidentBoard.Session

/-!
# Mounting a dashboard

A session is asked for the dashboard of a team. It mounts one if there is none, or keeps the one
there is and shows the team on it. Only mounting can fail, and then nothing but the providers that
were made on the way is new.

## Main definitions

* `Dashboard.Keeps`, `Dashboard.switchTeam_keeps` — a dashboard that another team is shown on.
* `Session.Opens`, `Session.mount_cases` — a new dashboard, and everything that mounting can do.
* `Session.Shows`, `Session.Fails`, `Session.dashboardFor_cases` — everything that the session can
  do when it is asked for a dashboard.
-/

namespace IncidentBoard

/-! ## Dashboards -/

namespace Dashboard

variable {σ δ : Type}

/-- The dashboard after it was asked to show a team: nothing else of its query changes, and a fetch
is issued exactly if the team is another one. -/
structure Keeps (team : String) (d e : Dashboard σ δ) : Prop where
  settings : e.settings = d.settings
  query : e.query = { d.query with team := team }
  view : e.scene.view = d.scene.view
  source : e.scene.source = d.scene.source
  people : e.scene.people = d.scene.people
  fetches : e.scene.board.inFlight = d.scene.board.inFlight ++
    if d.query.team = team then [] else [⟨d.scene.board.latest + 1, e.query⟩]
  agenda : e.scene.agenda = if d.query.team = team then d.scene.agenda
    else d.scene.agenda.post (.fetchOpens ⟨d.scene.board.latest + 1, e.query⟩)

theorem Keeps.refl (d : Dashboard σ δ) : Keeps d.query.team d d :=
  ⟨rfl, rfl, rfl, rfl, rfl, by simp, by simp⟩

/-- Another team is always accepted, and its incidents are fetched. -/
theorem switchTeam_keeps {d : Dashboard σ δ} {team : String} (name : String)
    (other : d.query.team ≠ team) : ∃ e, d.switchTeam team name = .ok e ∧ Keeps team d e := by
  let q : ListQuery := { d.query with team := team }
  let fetched := Scene.post { d.scene with board := d.scene.board.fetchFor q }
    (.fetchOpens ⟨d.scene.board.latest + 1, q⟩)
  have changed : q ≠ d.query := fun same => other (congrArg ListQuery.team same).symm
  have reduced : d.query.reduce d.scene.board.resetPage (.setTeam (.text team)) =
      .ok ⟨q, true⟩ := by
    change Except.ok (⟨q, decide (q ≠ d.query)⟩ : Transition) = _
    rw [decide_eq_true changed]
  have dispatched : d.scene.dispatch (.setTeam (.text team)) = .ok fetched := by
    change ((d.query.reduce d.scene.board.resetPage _).map _).map _ = _
    rw [reduced]
    rfl
  refine ⟨⟨d.settings, nameOf team name, fetched⟩, by rw [switchTeam, dispatched]; rfl, rfl, rfl,
    rfl, rfl, rfl, ?_, ?_⟩
  · rw [if_neg other]
    rfl
  · rw [if_neg other]
    rfl

end Dashboard

/-! ## Mounting -/

namespace Session

open Registry (Adds Sound)

variable {s t : Session} {w w' : World} {team name : String}

/-- What a failure leaves of a session without a dashboard: all of it, with more providers. -/
structure Fails (s t : Session) : Prop where
  unmounted : s.mounted = none
  rest : t = { s with registry := t.registry }
  adds : Adds s.registry t.registry
  sound : s.registry.Sound → t.registry.Sound

/-- A new dashboard over the providers that the registry keeps, on the first page of the team and
with nothing fetched. -/
structure Opens (s : Session) (team : String) (t : Session) (m : Mounted) : Prop where
  settings : m.dashboard.settings = s.settings
  incidents : t.registry.kept.lookup .incidents =
    some ⟨m.incidents, .incidents m.dashboard.scene.source⟩
  users : t.registry.kept.lookup .users = some ⟨m.users, .users m.dashboard.scene.people⟩
  query : ∃ least, m.dashboard.query = .first team s.settings.perPage.toNat least
  list : m.dashboard.list = .blank
  fetches : m.dashboard.scene.board.inFlight = []

/-- A session that had no dashboard, with a new one. -/
structure Mounts (s : Session) (team : String) (t : Session) : Prop where
  adds : Adds s.registry t.registry
  sound : s.registry.Sound → t.registry.Sound
  settings : t.settings = s.settings
  mounted : ∃ m, t.mounted = some m ∧ Opens s team t m

theorem Opens.query_team {m : Mounted} (opens : Opens s team t m) :
    m.dashboard.query.team = team := by
  obtain ⟨least, query⟩ := opens.query
  rw [query]
  rfl

/-- Mounting fails on the way, or ends with a new dashboard. -/
theorem mount_cases (s : Session) (w : World) (team name : String) (vacant : s.mounted = none) :
    (∃ f, (s.mount w team name).1 = .error f) ∧ Fails s (s.mount w team name).2.1 ∨
      (s.mount w team name).1 = .ok () ∧ Mounts s team (s.mount w team name).2.1 := by
  unfold mount
  cases first : s.registry.incidents w with
  | error f => exact .inl ⟨⟨f, rfl⟩, vacant, rfl, .refl _, id⟩
  | ok found =>
    obtain ⟨n, source, r, w₁⟩ := found
    have got := Registry.get_of_incidents first
    obtain ⟨adds, kept⟩ := Registry.adds_of_get got
    dsimp only
    cases second : r.users w₁ with
    | error f => exact .inl ⟨⟨f, rfl⟩, vacant, rfl, adds, fun sound => sound.of_get got⟩
    | ok found =>
      obtain ⟨k, people, r', w₂⟩ := found
      have got' := Registry.get_of_users second
      obtain ⟨adds', kept'⟩ := Registry.adds_of_get got'
      have sound (before : s.registry.Sound) : r'.Sound := (before.of_get got).of_get got'
      dsimp only
      cases opened : Dashboard.mount s.settings source people team name with
      | error f => exact .inl ⟨⟨f, rfl⟩, vacant, rfl, adds.trans adds', sound⟩
      | ok d =>
        obtain ⟨q, read, rfl⟩ := Failure.map_eq_ok_iff.1 opened
        rw [Dashboard.firstQuery_eq] at read
        split at read
        · next least =>
          cases read
          exact .inr ⟨rfl, adds.trans adds', sound, rfl, _, rfl,
            rfl, adds'.kept kept, kept', ⟨_, rfl⟩, rfl, rfl⟩
        · cases read

/-! ## Asking for a dashboard -/

/-- What an answer leaves: a dashboard of the team, just mounted exactly if there was none. One
that was there is kept. -/
structure Shows (s : Session) (team : String) (isNew : Bool) (t : Session) : Prop where
  isNew : isNew = true ↔ s.mounted = none
  ofTeam : ∃ m, t.mounted = some m ∧ m.dashboard.query.team = team
  mounts : s.mounted = none → Mounts s team t
  keeps : ∀ m, s.mounted = some m → ∃ d, t = s.withDashboard d ∧ Dashboard.Keeps team m.dashboard d

/-- A session shows the team, or fails to mount a dashboard for it. -/
theorem dashboardFor_cases (s : Session) (w : World) (team name : String) :
    (∃ isNew, (s.dashboardFor w team name).1 = .ok isNew ∧
        Shows s team isNew (s.dashboardFor w team name).2.1) ∨
      ∃ f, (s.dashboardFor w team name).1 = .error f ∧
        Fails s (s.dashboardFor w team name).2.1 := by
  cases mounted : s.mounted with
  | none =>
    have answer : s.dashboardFor w team name =
        ((s.mount w team name).1.map fun _ => true, (s.mount w team name).2) := by
      unfold dashboardFor
      rw [mounted]
    rw [answer]
    rcases s.mount_cases w team name mounted with ⟨⟨f, failed⟩, fails⟩ | ⟨opened, mounts⟩
    · exact .inr ⟨f, by rw [failed]; rfl, fails⟩
    · obtain ⟨m, held, opens⟩ := mounts.mounted
      refine .inl ⟨true, by rw [opened]; rfl, by simp [mounted], ⟨m, held, opens.query_team⟩,
        fun _ => mounts, fun m here => ?_⟩
      cases mounted.symm.trans here
  | some m =>
    unfold dashboardFor
    rw [mounted]
    dsimp only
    by_cases same : m.dashboard.query.team = team
    · have still : s.withDashboard m.dashboard = s := by
        obtain ⟨settings, registry, held, mounts, clock⟩ := s
        cases mounted
        rfl
      rw [if_pos same]
      refine .inl ⟨false, rfl, by simp [mounted], ⟨m, mounted, same⟩, ?_, ?_⟩
      · intro vacant
        cases mounted.symm.trans vacant
      · intro m' here
        cases mounted.symm.trans here
        exact ⟨m.dashboard, still.symm, same ▸ .refl m.dashboard⟩
    · obtain ⟨e, switched, keeps⟩ := Dashboard.switchTeam_keeps name same
      rw [if_neg same, switched]
      refine .inl ⟨false, rfl, by simp [mounted], ⟨{ m with dashboard := e }, ?_, ?_⟩, ?_, ?_⟩
      · simp [withDashboard, mounted]
      · exact congrArg ListQuery.team keeps.query
      · intro vacant
        cases mounted.symm.trans vacant
      · intro m' here
        cases mounted.symm.trans here
        exact ⟨e, rfl, keeps⟩

end Session

end IncidentBoard
