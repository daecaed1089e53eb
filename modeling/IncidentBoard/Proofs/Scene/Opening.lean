import IncidentBoard.Proofs.Remote.Transparent
import IncidentBoard.Proofs.Scene.Quiet
import IncidentBoard.Proofs.Scene.Selections
import IncidentBoard.Proofs.Store.Search
import IncidentBoard.Source

/-!
# Listed incidents can be opened

A scenario and a store answer from what they hold and stay as they are. Whatever keeps the details
of an incident back, its summary is read from the entry that the list was made from: an incident on
a page of the list can be selected, and then it is shown. An id that a store keeps as octets is
listed as the text that they are, but it is not found by that text.

## Main definitions

* `Provider.SteadyAt` — a provider that calls leave as it is.
* `Scene.Selecting` — a selection of the caller is in progress; `Scene.select_of_steady` — its
  result, where the provider stays as it is.
* `Source.Keyed`, `Source.Distinct` — scenarios and stores, and those with ids of their own.
* `Source.KeepsId` — what is kept of an id that is listed.
* `Source.select_listed` — what is listed can be opened.
-/

namespace IncidentBoard

/-- A provider that is left as it is by calls. -/
structure Provider.SteadyAt {σ : Type} (p : Provider σ) (x : σ) : Prop where
  list : ∀ q, (p.list x q).2 = x
  commanders : ∀ team, (p.commanders x team).2 = x
  detail : ∀ id, (p.detail x id).2 = x
  summary : ∀ id, (p.summary x id).2 = x

namespace Scene

variable {σ δ : Type} {env : Backend σ δ} {s t u : Scene σ δ} {x : σ} {v : DetailView}
  {id : String} {turn : Turn}

/-! ## A selection of the caller -/

/-- A turn that does not concern the view leaves it, and a provider that stays as it is. -/
theorem run_beside (steady : env.provider.SteadyAt u.source) (other : turn.kind ≠ .view) :
    (u.run env turn).source = u.source ∧ (u.run env turn).view = u.view := by
  cases turn with
  | searchOpens ticket =>
    simp only [run, openSearch]
    split <;> exact ⟨rfl, rfl⟩
  | searchFires ticket =>
    change (u.fireSearch ticket).source = _ ∧ (u.fireSearch ticket).view = _
    rcases fireSearch_cases env u ticket with ⟨fired, -⟩ | ⟨q, fired, -⟩ <;> rw [fired] <;>
      exact ⟨rfl, rfl⟩
  | fetchOpens f =>
    simp only [run, openFetch]
    split <;> exact ⟨steady.list f.query, rfl⟩
  | lookupOpens number id =>
    simp only [run, openLookup]
    split <;> exact ⟨rfl, rfl⟩
  | lookupSettles =>
    simp only [run, settleLookup]
    split <;> exact ⟨rfl, rfl⟩
  | selectOpens number id => exact absurd rfl other
  | detailReturns number id o => exact absurd rfl other
  | summaryReturns number id o => exact absurd rfl other
  | _ => exact ⟨rfl, rfl⟩

/-- A selection of the caller is in progress, and no other; the provider is in a given state. -/
structure Selecting (x : σ) (v : DetailView) (s : Scene σ δ) : Prop where
  source : s.source = x
  view : s.view = v
  returns : s.returns = []

namespace Selecting

theorem of_turns (S : Selecting x v s) (source : t.source = s.source) (view : t.view = s.view)
    (turns : (t.turnsOf .view).Perm (s.turnsOf .view)) : Selecting x v t := by
  refine ⟨source.trans S.source, view.trans S.view, ?_⟩
  have returns : t.returns.Perm s.returns := turns.filter Turn.returns
  rw [S.returns] at returns
  exact returns.eq_nil

/-- No turn on the agenda brings an outcome, and whichever is taken, none is left that does. -/
theorem taken (S : Selecting x v s) (take : Takes s turn u) :
    turn.returns = false ∧ Selecting x v u := by
  have none : ∀ other ∈ s.agenda.turns, other.kind = .view → other.returns = false := by
    intro other member kind
    have away : other ∉ s.returns := by simp [S.returns]
    simpa [Scene.returns, turnsOf, member, kind] using away
  have outcome : turn.returns = true → turn.kind = .view := by
    cases turn <;> simp [Turn.returns, Turn.kind]
  refine ⟨?_, ?_, ?_, ?_⟩
  · by_contra returns
    have kind := outcome (by simpa using returns)
    exact returns (none turn (take.turns.mem_iff.2 (.head _)) kind)
  · rw [take.scene]
    exact S.source
  · rw [take.scene]
    exact S.view
  · refine List.filter_eq_nil_iff.2 fun other member => ?_
    have here := List.mem_filter.1 member
    simpa using none other (take.turns.mem_iff.2 (.tail _ here.1)) (by simpa using here.2)

/-- Turns leave the selection in progress: one in the background is refused meanwhile. -/
theorem takes (steady : env.provider.SteadyAt x) (busy : v.resolving.isSome = true)
    (S : Selecting x v s) (take : Takes s turn u) : Selecting x v (u.run env turn) := by
  obtain ⟨outcome, S⟩ := S.taken take
  by_cases kind : turn.kind = .view
  · cases turn with
    | selectOpens number id =>
      have refused : u.view.begin? id = .error (.transition u.view.hindrance _) :=
        DetailView.begin?_eq_error (.inr (S.view ▸ busy))
      change Selecting x v (u.openSelect env number id)
      rw [openSelect, refused]
      exact S.of_turns rfl rfl (.refl _)
    | detailReturns number id o => cases outcome
    | summaryReturns number id o => cases outcome
    | _ => cases kind
  · have still : env.provider.SteadyAt u.source := S.source ▸ steady
    obtain ⟨source, view⟩ := run_beside still kind
    exact S.of_turns source view (run_turnsOf u kind (by decide))

theorem pause (steady : env.provider.SteadyAt x) (busy : v.resolving.isSome = true)
    (S : Selecting x v s) (ms : Nat) : Selecting x v (s.pause env ms) := by
  unfold Scene.pause
  split
  · exact S
  · have asleep : Selecting x v (s.sleep ms .callerResumes) :=
      S.of_turns rfl rfl (turnsOf_sleep_of_ne s ms (by decide))
    exact runWhile_preserves (takes steady busy) asleep _ _ _

end Selecting

/-- The result of a selection: the details, or what the summary comes to where these fail. -/
def resultOf (p : Provider σ) (x : σ) (id : String) : DetailResult :=
  ⟨id, match (p.detail x id).1.outcome with
    | .ok d => .detail d
    | .error _ => summaryResolution (p.summary x id).1.outcome⟩

theorem resolve_of_steady (steady : env.provider.SteadyAt x) (busy : v.resolving.isSome = true)
    (S : Selecting x v s) (id : String) :
    (s.resolve env id).1 = resultOf env.provider x id ∧ (s.resolve env id).2.view = v := by
  obtain rfl := S.source
  let asked := { s with source := (env.provider.detail s.source id).2 }
  let waited := asked.pause env (env.provider.detail s.source id).1.after
  have first : Selecting s.source v waited :=
    (S.of_turns (t := asked) (steady.detail id) rfl (.refl _)).pause steady busy _
  cases outcome : (env.provider.detail s.source id).1.outcome with
  | ok d =>
    have resolved : s.resolve env id = (⟨id, .detail d⟩, waited) := by
      simp only [resolve, outcome, asked, waited]
    rw [resolved]
    exact ⟨by simp only [resultOf, outcome], first.view⟩
  | error f =>
    let next := { waited with source := (env.provider.summary waited.source id).2 }
    let again := next.pause env (env.provider.summary waited.source id).1.after
    have resolved : s.resolve env id =
        (⟨id, summaryResolution (env.provider.summary waited.source id).1.outcome⟩, again) := by
      simp only [resolve, outcome, asked, waited, next, again]
    have second : Selecting s.source v again := by
      refine (first.of_turns (t := next) ?_ rfl (.refl _)).pause steady busy _
      change (env.provider.summary waited.source id).2 = waited.source
      rw [first.source]
      exact steady.summary id
    rw [resolved, first.source]
    exact ⟨by simp only [resultOf, outcome], second.view⟩

/-- With the list shown and no selection in progress, a selection has its result, and the view with
it. -/
theorem select_of_steady (steady : env.provider.SteadyAt s.source)
    (listing : s.view.state = .listing) (free : s.view.resolving = none) (idle : s.returns = [])
    (id : String) :
    (s.select env id).1 = .ok (resultOf env.provider s.source id) ∧
      (s.select env id).2.view =
        { s.view with resolving := some id }.finish (resultOf env.provider s.source id) := by
  have accepted : s.view.begin? id = .ok { s.view with resolving := some id } := by
    simp [DetailView.begin?, DetailView.isViewing, listing, free]
  have begun : Selecting s.source { s.view with resolving := some id }
      { s with view := { s.view with resolving := some id } } := ⟨rfl, rfl, idle⟩
  obtain ⟨result, view⟩ := resolve_of_steady steady rfl begun id
  simp only [select, accepted]
  exact ⟨congrArg _ result, by rw [view, result]⟩

end Scene

/-! ## Summaries of what is listed -/

/-- What a store lists has a summary, where the rows have ids of their own and those that are read
as the incident keep its id as text. -/
theorem Store.summary_of_listed {s : Store} {q : ListQuery} {page : IncidentsPage} {x : Incident}
    (own : (s.runRows.map RunRow.id).Nodup)
    (kept : ∀ r ∈ s.runRows, r.toIncident = .ok x → r.id.IsText) (listed : s.page q = .ok page)
    (member : x ∈ page.items) : s.summary x.id = .ok x := by
  obtain ⟨r, shown, read⟩ := forall₂_mem (page_ok listed).1.flip member
  obtain ⟨row, selected⟩ := mem_matching.1 (List.mem_of_mem_drop (List.mem_of_mem_take shown))
  have live : r.isLive = true := by
    simp only [selects, passes, Bool.and_eq_true] at selected
    exact selected.1.1.1.2
  have reads := RunRow.toIncident_eq_ok_iff.1 read
  have named : r.id = .text x.id := by
    rw [kept r row read, reads.id.textValue_eq]
  cases table : s.runs with
  | none => simp [runRows, table] at row
  | some rows =>
    simp only [runRows, table, Option.getD_some] at own row
    exact summary_eq ((find_ok_iff table own).2 ⟨row, named, live⟩) reads

/-- What a scenario lists has a summary, which is the incident itself where ids are distinct. -/
theorem Scenario.Incidents.find_of_listed {m : Incidents} {q : ListQuery} {x : Incident}
    (member : x ∈ (q.answer m.incidents).items) :
    ∃ y, m.find x.id = .ok y ∧ ((m.incidents.map Incident.id).Nodup → y = x) := by
  have member := Remote.mem_of_mem_answer member
  cases found : m.incidents.find? (·.id == x.id) with
  | none => simpa using List.find?_eq_none.1 found x member
  | some y =>
    refine ⟨y, by simp only [find, found], fun own => ?_⟩
    have same : y.id = x.id := by simpa using List.find?_some found
    exact List.inj_on_of_nodup_map own (List.mem_of_find?_eq_some found) member same

/-! ## Sources -/

namespace Source

/-- A scenario, or a store whose rows have keys of their own. -/
def Keyed : Source → Prop
  | .scenario _ => True
  | .stored _ s => ∀ t, s.store = some t → (t.runRows.map RunRow.id).Nodup
  | _ => False

/-- A scenario whose incidents have ids of their own, or a store whose rows have. -/
def Distinct : Source → Prop
  | .scenario m => (m.incidents.map Incident.id).Nodup
  | x => x.Keyed

/-- The rows of a store that are read as an incident keep its id as text. -/
def KeepsId (i : Incident) : Source → Prop
  | .stored _ s => ∀ t, s.store = some t → ∀ r ∈ t.runRows, r.toIncident = .ok i → r.id.IsText
  | _ => True

variable {x : Source} {q : ListQuery} {page : IncidentsPage} {i : Incident}

theorem Keyed.steadyAt (keyed : x.Keyed) : provider.SteadyAt x := by
  cases x with
  | scenario m => exact ⟨fun _ => rfl, fun _ => rfl, fun _ => rfl, fun _ => rfl⟩
  | stored location s => exact ⟨fun _ => rfl, fun _ => rfl, fun _ => rfl, fun _ => rfl⟩
  | script s calls => cases keyed
  | remote s => cases keyed

/-- What is listed has a summary, which is the incident itself where ids are distinct. -/
theorem summary_of_listed (keyed : x.Keyed) (kept : x.KeepsId i)
    (listed : (provider.list x q).1.outcome = .ok page) (member : i ∈ page.items) :
    ∃ y, (provider.summary x i.id).1.outcome = .ok y ∧ (x.Distinct → y = i) := by
  cases x with
  | scenario m =>
    obtain rfl : q.answer m.incidents = page := Except.ok.inj listed
    exact Scenario.Incidents.find_of_listed member
  | stored location s =>
    obtain ⟨_ | t⟩ := s
    · cases listed
    · have summary := Store.summary_of_listed (keyed t rfl) (kept t rfl) listed member
      exact ⟨i, summary, fun _ => rfl⟩
  | script s calls => cases keyed
  | remote s => cases keyed

/-- Each incident on a page that a scenario or a store lists, with its id kept as text, can be
opened from the list: its details are shown, or its summary if they cannot be had. -/
theorem select_listed {s : Scene Source Roll} (keyed : s.source.Keyed) (kept : s.source.KeepsId i)
    (listed : (provider.list s.source q).1.outcome = .ok page) (member : i ∈ page.items)
    (listing : s.view.state = .listing) (free : s.view.resolving = none) (idle : s.returns = []) :
    ∃ r t, s.select backend i.id = (.ok r, t) ∧ r.isOk = true ∧ r.incidentId = i.id ∧
      t.view.state = .viewing r ∧ t.view.resolving = none ∧
      ((∃ d, (provider.detail s.source i.id).1.outcome = .ok d ∧ r.resolution = .detail d) ∨
        ∃ f y, (provider.detail s.source i.id).1.outcome = .error f ∧
          r.resolution = .summary y ∧ (s.source.Distinct → y = i)) := by
  obtain ⟨y, summary, same⟩ := summary_of_listed keyed kept listed member
  have steady : backend.provider.SteadyAt s.source := keyed.steadyAt
  obtain ⟨answer, view⟩ := Scene.select_of_steady steady listing free idle i.id
  have opened (r : DetailResult) (result : Scene.resultOf provider s.source i.id = r)
      (ok : r.isOk = true) :
      s.select backend i.id = (.ok r, (s.select backend i.id).2) ∧
        (s.select backend i.id).2.view = ⟨.viewing r, none, none⟩ :=
    ⟨Prod.ext (result ▸ answer) rfl, (result ▸ view).trans (if_pos ok)⟩
  cases details : (provider.detail s.source i.id).1.outcome with
  | ok d =>
    obtain ⟨selected, shown⟩ := opened ⟨i.id, .detail d⟩ (by simp [Scene.resultOf, details]) rfl
    exact ⟨_, _, selected, rfl, rfl, by rw [shown], by rw [shown], .inl ⟨d, rfl, rfl⟩⟩
  | error f =>
    obtain ⟨selected, shown⟩ := opened ⟨i.id, .summary y⟩
      (by simp [Scene.resultOf, details, summary, Scene.summaryResolution]) rfl
    exact ⟨_, _, selected, rfl, rfl, by rw [shown], by rw [shown], .inr ⟨f, y, rfl, rfl, same⟩⟩

/-- An incident with details that are no mapping, while a selection of another one in the background
is about to begin. -/
theorem select_listed_of_malformed_details :
    let incident (id : String) : Incident := { (default : Incident) with id := id, team := id }
    let m : Scenario.Incidents := ⟨[], "s", true, .object [("details", .object [("a", .list [])])],
      [incident "b", incident "a"]⟩
    let q : ListQuery := .first "a" 15 (by decide)
    let s := (Scene.start (.scenario m) (.roster ⟨[]⟩ []) q 300 true).startSelect "b"
    ∃ r t, s.select backend "a" = (.ok r, t) ∧ t.view.state = .viewing r ∧
      r.resolution = .summary (incident "a") := by
  intro incident m q s
  have member : incident "a" ∈ (q.answer m.incidents).items := by decide +kernel
  have own : (m.incidents.map Incident.id).Nodup := by decide
  have keyed : (Source.scenario m).Keyed := trivial
  obtain ⟨r, t, selected, -, -, shown, -, ⟨d, details, -⟩ | ⟨f, y, -, summary, same⟩⟩ :=
    select_listed (s := s) keyed trivial rfl member rfl rfl rfl
  · cases details
  · exact ⟨r, t, selected, shown, same own ▸ summary⟩

/-- Listed incidents that are not opened so. An id of octets is listed as text, by which neither
details nor a summary are found: the selection fails, and the list stays. And where what tells which
details are unavailable is a number, the summary is shown of an incident whose details are well
formed. -/
theorem select_listed_differs :
    let incident : Incident := { (default : Incident) with id := "ab", team := "t" }
    let row : RunRow := ⟨.bytes [0x61, 0x62], .text "", .text "", .int 0, .text "", .text "t",
      .text "", .int 0, .int 0, .int 0, .int 0, .text "", .text ""⟩
    let scenario (unavailable : Json) : Source := .scenario ⟨[], "s", false, .object
      [("detail_unavailable", unavailable), ("details", .object [("ab", .object [])])], [incident]⟩
    let stored : Source := .stored .memory ⟨some ⟨some [row], some [], some []⟩⟩
    let q : ListQuery := .first "t" 15 (by decide)
    let s (x : Source) : Scene Source Roll := .start x (.roster ⟨[]⟩ []) q 300 true
    ((provider.list stored q).1.outcome = .ok ⟨[incident], 1⟩ ∧
      ∃ r t, (s stored).select backend "ab" = (.ok r, t) ∧ r.isOk = false ∧
        t.view.state = .listing) ∧
    ((provider.list (scenario (.int 5)) q).1.outcome = .ok ⟨[incident], 1⟩ ∧
      (∃ d, (provider.detail (scenario (.list [])) "ab").1.outcome = .ok d ∧
        d.incident = incident) ∧
      ∃ t, (s (scenario (.int 5))).select backend "ab" = (.ok ⟨"ab", .summary incident⟩, t)) := by
  intro incident row scenario stored q s
  have keyed : stored.Keyed := by
    rintro t ⟨⟩
    exact List.nodup_singleton _
  have decoded : Octets.text? [0x61, 0x62] = some "ab" := by decide +kernel
  have reads : row.ReadAs incident :=
    ⟨decoded, rfl, rfl, ⟨Cell.noConfusion, rfl⟩, ⟨_, rfl, rfl⟩, ⟨_, rfl, rfl⟩, rfl, rfl, rfl⟩
  have listed : Store.page ⟨some [row], some [], some []⟩ q = .ok ⟨[incident], 1⟩ :=
    Store.page_of_single rfl ⟨by decide, by decide⟩ rfl rfl (by decide +kernel) reads
  have steady : backend.provider.SteadyAt (s stored).source := keyed.steadyAt
  have steady' : backend.provider.SteadyAt (s (scenario (.int 5))).source := Keyed.steadyAt trivial
  obtain ⟨failed, view⟩ := Scene.select_of_steady steady rfl rfl rfl "ab"
  obtain ⟨shown, -⟩ := Scene.select_of_steady steady' rfl rfl rfl "ab"
  have answered : q.answer [incident] = ⟨[incident], 1⟩ := by decide +kernel
  exact ⟨⟨listed, _, _, Prod.ext failed rfl, rfl, congrArg DetailView.state view⟩,
    congrArg Except.ok answered, ⟨_, rfl, rfl⟩, _, Prod.ext shown rfl⟩

end Source

end IncidentBoard
