import IncidentBoard.Proofs.Query.Refines
import IncidentBoard.Proofs.Scene.Callers
import IncidentBoard.Proofs.Scene.Past
import IncidentBoard.Proofs.Scene.Quiet

/-!
# Filters that are set while time passes

Filters of a query are set one after the other, and the search term among them counts only when its
quiet time has passed: before, between or after the others, or while everyone waits. Whenever it
counts, it takes the place of no other filter and none takes its place, so that in the end all of
them are set. Every filter costs one fetch at most.

## Main definitions

* `Scene.Ready` — nothing is under way that a page has to wait for.
* `Scene.Onward` — steps of a scene, together with what callers do.
* `Scene.Abides` — what happens to the query while time passes.
* `Scene.Filtering` — a scene on the way to its filters, with the term that may still wait.
* `Scene.Filtered` — the scene in the end; `Scene.Filtering.waitIdle` — waiting leads there.
-/

namespace IncidentBoard

namespace Scene

variable {σ δ : Type} {env : Backend σ δ} {h k : History} {s₀ s t u : Scene σ δ}

/-! ## Steps and callers -/

/-- A step of the scene, or something that a caller does of its own. -/
inductive Onward (env : Backend σ δ) : Scene σ δ → History → Scene σ δ → Prop
  | step {s t : Scene σ δ} {k : History} (step : Step env s k t) : Onward env s k t
  | caller {s t : Scene σ δ} (aside : Aside .caller s t) : Onward env s [] t

theorem Drift.onward (drift : Drift env s k t) : Onward env s k t := by
  cases drift with
  | turn take => exact .step (.turn take)
  | caller aside => exact .caller aside

theorem Onward.fetchEffect (next : Onward env s k t) : FetchEffect env s t k := by
  cases next with
  | step step => exact step.fetchEffect
  | caller aside => exact .none aside.board (aside.turnsOf (by decide))

theorem Onward.searchEffect (next : Onward env s k t) : SearchEffect s t := by
  cases next with
  | step step => exact step.searchEffect
  | caller aside => exact .none aside.search (aside.turnsOf (by decide))

theorem ticketed_of_run (run : Runs (Onward env) s k t) (T : s.Ticketed) : t.Ticketed :=
  run.invariant (P := fun _ t => t.Ticketed) T fun next => next.searchEffect.ticketed

theorem since_of_run {past : History} (run : Runs (Onward env) s k t)
    (S : s.board.Since env past h (s.turnsOf .fetch)) :
    t.board.Since env past (h ++ k) (t.turnsOf .fetch) :=
  run.preserves (P := fun h t => t.board.Since env past h (t.turnsOf .fetch)) S
    fun next => next.fetchEffect.since

/-! ## While time passes -/

/-- The fetches issued so far, with the one that a waiting term may lead to. -/
def expected (s : Scene σ δ) : Nat := s.board.latest + if s.search.pending then 1 else 0

/-- What happens to the query while no one acts: the search term that waits is delivered once at
most, and nothing else leads to a fetch. -/
structure Abides (s t : Scene σ δ) : Prop extends Delivers s t where
  expected : t.expected ≤ s.expected

theorem Abides.refl (s : Scene σ δ) : Abides s s := ⟨.of_eq ⟨rfl, rfl⟩ rfl, Nat.le_refl _⟩

theorem Abides.trans (first : Abides s t) (second : Abides t u) : Abides s u :=
  ⟨first.toDelivers.trans second.toDelivers, Nat.le_trans second.expected first.expected⟩

theorem expected_of_eq (latest : t.board.latest = s.board.latest) (search : t.search = s.search) :
    t.expected = s.expected := by
  rw [Scene.expected, Scene.expected, latest, search]

theorem fireSearch_expected (env : Backend σ δ) (u : Scene σ δ) (ticket : Nat) :
    (u.fireSearch ticket).expected ≤ u.expected := by
  rcases u.search.fire_cases ticket with ⟨v, waiting, fire⟩ | ⟨-, fire⟩
  · have pending : u.search.pending = true := by simp [Debouncer.pending, waiting]
    rcases fireSearch_cases env u ticket with ⟨fired, -⟩ | ⟨q, fired, -⟩
    · rw [fired]
      simp [Scene.expected, fire, pending]
    · rw [fired]
      simp [Scene.expected, fire, pending, post, Board.fetchFor, Board.issue]
  · have nothing : u.fireSearch ticket = u := by simp [fireSearch, fire]
    rw [nothing]

theorem run_expected (env : Backend σ δ) (u : Scene σ δ) (turn : Turn) :
    (u.run env turn).expected ≤ u.expected := by
  by_cases kind : turn.kind = .search
  · cases turn with
    | searchOpens ticket =>
      simp only [run, openSearch]
      split <;> exact Nat.le_refl _
    | searchFires ticket => exact fireSearch_expected env u ticket
    | _ => cases kind
  · exact Nat.le_of_eq (expected_of_eq (run_latest env u kind) (run_search u kind))

theorem Drift.abides (drift : Drift env s k t) : Abides s t := by
  cases drift with
  | @turn u turn take =>
    have taken : Abides s u :=
      ⟨.of_eq ⟨by rw [take.board], by rw [take.board]⟩ take.search,
        Nat.le_of_eq (expected_of_eq (by rw [take.board]) take.search)⟩
    exact taken.trans ⟨run_delivers u turn, run_expected env u turn⟩
  | caller aside =>
    exact ⟨aside.delivers, Nat.le_of_eq (expected_of_eq (by rw [aside.board]) aside.search)⟩

theorem abides_of_run (run : Runs (Drift env) s k t) : Abides s t :=
  run.invariant (P := fun _ t => Abides s t) (.refl s) fun drift before => before.trans drift.abides

/-! ## Where nothing is under way -/

/-- No search term waits, no fetch is under way, and no caller waits. -/
structure Ready (s : Scene σ δ) : Prop extends Quiet s where
  inFlight : s.board.inFlight = []
  callers : s.turnsOf .caller = []

theorem Ready.start (source : σ) (people : δ) (q : ListQuery) (quietTime : Int)
    (resetPage : Bool) : (Scene.start source people q quietTime resetPage).Ready :=
  ⟨⟨rfl, rfl⟩, rfl, rfl⟩

theorem Ready.abandon (s : Scene σ δ) : s.abandon.Ready := ⟨quiet_abandon, rfl, rfl⟩

theorem Ready.ticketed (ready : s.Ready) : s.Ticketed := by
  intro ticket term waiting
  rw [ready.search] at waiting
  cases waiting

theorem Ready.exists_since (ready : s.Ready) (env : Backend σ δ) :
    ∃ past, s.board.Since env past [] (s.turnsOf .fetch) := by
  rw [ready.fetches]
  exact Board.Since.start env s.source ready.inFlight

/-- After a scene was ready, it is ready again wherever it is not busy and no caller waits. -/
theorem Ready.of_run (ready : s₀.Ready) (run : Runs (Onward env) s₀ h s) (idle : s.busy = false)
    (callers : s.turnsOf .caller = []) : s.Ready := by
  obtain ⟨past, since⟩ := ready.exists_since env
  obtain ⟨l, tracks⟩ := (since_of_run run since).tracks
  obtain ⟨searched, fetched⟩ := Bool.or_eq_false_iff.1 idle
  refine ⟨⟨?_, turnsOf_fetch_eq_nil tracks fetched⟩, ?_, callers⟩
  · simpa [Debouncer.pending] using searched
  · simpa [Board.fetching] using fetched

theorem Ready.waitSearch (ready : s₀.Ready) (run : Runs (Onward env) s₀ h s)
    (callers : s.turnsOf .caller = []) :
    (s.waitSearch env).search.pending = false ∧ (s.waitSearch env).turnsOf .caller = [] ∧
      ∃ k, Lets env s k (s.waitSearch env) := by
  obtain ⟨callers, ⟨k, turns⟩, stopped | nothing⟩ :=
    runWhile_exhausts env (·.search.pending) callers
  · exact ⟨stopped, callers, k, turns⟩
  · have ticketed : (s.waitSearch env).Ticketed :=
      ticketed_of_run (run.trans (turns.drifts.mono Drift.onward)) ready.ticketed
    exact ⟨ticketed.not_pending nothing, callers, k, turns⟩

theorem Ready.waitFetches (ready : s₀.Ready) (run : Runs (Onward env) s₀ h s)
    (callers : s.turnsOf .caller = []) :
    (s.waitFetches env).board.fetching = false ∧ (s.waitFetches env).turnsOf .caller = [] ∧
      ∃ k, Lets env s k (s.waitFetches env) := by
  obtain ⟨callers, ⟨k, turns⟩, stopped | nothing⟩ :=
    runWhile_exhausts env (·.board.fetching) callers
  · exact ⟨stopped, callers, k, turns⟩
  · obtain ⟨past, since⟩ := ready.exists_since env
    have later := since_of_run (run.trans (turns.drifts.mono Drift.onward)) since
    obtain ⟨l, tracks⟩ := later.tracks
    have ended : ((s.waitFetches env).board.relist l).fetching = false :=
      not_fetching_of_tracks tracks nothing
    exact ⟨ended, callers, k, turns⟩

/-- Waiting for a scene to be idle ends, whatever happened since it was ready. -/
theorem Ready.waitIdle (ready : s₀.Ready) (run : Runs (Onward env) s₀ h s)
    (callers : s.turnsOf .caller = []) :
    (s.waitIdle env).Ready ∧ ∃ k, Lets env s k (s.waitIdle env) := by
  obtain ⟨searched, callers, k₁, turns₁⟩ := ready.waitSearch run callers
  have run₁ := run.trans (turns₁.drifts.mono Drift.onward)
  obtain ⟨fetched, callers, k₂, turns₂⟩ := ready.waitFetches run₁ callers
  have idle : (s.waitIdle env).busy = false :=
    Bool.or_eq_false_iff.2 ⟨turns₂.not_pending searched, fetched⟩
  have run₂ := run₁.trans (turns₂.drifts.mono Drift.onward)
  exact ⟨ready.of_run run₂ idle callers, _, turns₁.trans turns₂⟩

/-! ## Filters on the way -/

/-- An action that is a change is accepted, and issues one fetch at most. -/
theorem exists_dispatch (s : Scene σ δ) {a : Action} {c : Change} (change : a.change? = some c) :
    ∃ t, s.dispatch a = .ok t ∧ t.search = s.search ∧ t.expected ≤ s.expected + 1 ∧
      t.board.query = (s.board.query.transition s.board.resetPage c).query ∧
      t.board.resetPage = s.board.resetPage := by
  have reduced : s.board.query.reduce s.board.resetPage a = .ok _ :=
    ListQuery.reduce_eq_ok_iff.2 ⟨c, change, rfl⟩
  obtain ⟨⟨b, fetch⟩, dispatched⟩ : ∃ result, s.board.dispatch a = .ok result :=
    ⟨_, by rw [Board.dispatch, reduced]; rfl⟩
  obtain ⟨t, accepted⟩ : ∃ t, s.dispatch a = .ok t := ⟨_, by rw [Scene.dispatch, dispatched]; rfl⟩
  refine ⟨t, accepted, ?_, ?_, ?_⟩
  · rcases dispatch_cases accepted with ⟨rfl, -⟩ | ⟨q, rfl, -⟩ <;> rfl
  · rcases dispatch_cases accepted with ⟨rfl, -⟩ | ⟨q, rfl, -⟩
    · exact Nat.le_succ _
    · change s.board.latest + 1 + _ ≤ s.board.latest + _ + 1
      exact Nat.le_of_eq (Nat.add_right_comm _ _ _)
  · obtain ⟨next, reduced', query, reset⟩ := Board.dispatch_query dispatched
    rw [reduced, Except.ok.injEq] at reduced'
    have board : t.board = b := by
      rw [Scene.dispatch, dispatched] at accepted
      cases fetch <;> (cases accepted; rfl)
    rw [board]
    exact ⟨query.trans (congrArg Transition.query reduced'.symm), reset⟩

/-- The scene `s` is on the way from `s₀` to some filters. The search term counts already or waits
until it does, and the fetches issued and still to be expected are at most `n` more. -/
structure Filtering (env : Backend σ δ) (s₀ : Scene σ δ) (search commander : Option String)
    (status : Option StatusFilter) (n : Nat) (s : Scene σ δ) : Prop where
  run : ∃ h, Runs (Onward env) s₀ h s
  callers : s.turnsOf .caller = []
  resetPage : s.board.resetPage = s₀.board.resetPage
  refines : s₀.board.query.Refines s₀.board.resetPage s.board.query
  commander : s.board.query.commander = commander
  status : s.board.query.status = status
  search : (s.search.waiting = none ∧ s.board.query.search = search) ∨
    ∃ ticket term, s.search.waiting = some (ticket, Json.ofText? term) ∧
      ListQuery.given? term = search ∧ s.board.query.search = s₀.board.query.search
  expected : s.expected ≤ s₀.board.latest + n

namespace Filtering

variable {search commander : Option String} {status : Option StatusFilter} {n : Nat}

theorem start (env : Backend σ δ) (ready : s.Ready) :
    Filtering env s s.board.query.search s.board.query.commander s.board.query.status 0 s where
  run := ⟨[], .start⟩
  callers := ready.callers
  resetPage := rfl
  refines := .refl _ _
  commander := rfl
  status := rfl
  search := .inl ⟨ready.search, rfl⟩
  expected := by simp [Scene.expected, Debouncer.pending, ready.search]

theorem mono {m : Nat} (F : Filtering env s₀ search commander status n s) (more : n ≤ m) :
    Filtering env s₀ search commander status m s :=
  { F with expected := by have := F.expected; omega }

/-- A term is typed. -/
theorem type (env : Backend σ δ) (ready : s.Ready) (term : String) :
    Filtering env s (ListQuery.given? (some term)) s.board.query.commander s.board.query.status 1
      (s.type (.text term)) where
  run := ⟨_, .one (.step (.type s (.text term)))⟩
  callers := by
    have step : Step env s [] (s.type (.text term)) := .type s (.text term)
    exact step.callerTurns ready.callers
  resetPage := rfl
  refines := .refl _ _
  commander := rfl
  status := rfl
  search := .inr ⟨_, some term, rfl, rfl, rfl⟩
  expected := Nat.le_refl _

/-- Time passes, and the term may count meanwhile. -/
theorem drifts (F : Filtering env s₀ search commander status n s) (drifts : Runs (Drift env) s k t)
    (callers : t.turnsOf .caller = []) : Filtering env s₀ search commander status n t := by
  have abides := abides_of_run drifts
  have run : ∃ h, Runs (Onward env) s₀ h t := by
    obtain ⟨h, before⟩ := F.run
    exact ⟨_, before.trans (drifts.mono Drift.onward)⟩
  have reset := abides.resetPage.trans F.resetPage
  have expected := Nat.le_trans abides.expected F.expected
  rcases abides.term with ⟨waits, query⟩ | ⟨ticket, v, waited, none, query⟩
  · exact ⟨run, callers, reset, query ▸ F.refines, query ▸ F.commander, query ▸ F.status,
      by rw [waits, query]; exact F.search, expected⟩
  · -- the term that waited is the one wanted, and it is set now
    rcases F.search with ⟨nothing, -⟩ | ⟨ticket', term, waiting, given, unset⟩
    · rw [nothing] at waited
      cases waited
    · rw [waiting] at waited
      cases waited
      rw [ListQuery.searched_eq, given, F.resetPage] at query
      have filters := ListQuery.transition_filters s₀.board.resetPage s.board.query (.search search)
      rw [← query] at filters
      exact ⟨run, callers, reset, query ▸ F.refines.search unset search,
        (congrArg (·.2.2) filters).trans F.commander, (congrArg (·.2.1) filters).trans F.status,
        .inl ⟨none, congrArg (·.1) filters⟩, expected⟩

/-- A filter other than the search term is set. -/
theorem act (F : Filtering env s₀ search commander status n s) {a : Action} {c : Change}
    (change : a.change? = some c)
    (refines : s₀.board.query.Refines s₀.board.resetPage
      (s.board.query.transition s₀.board.resetPage c).query)
    (kept : (s.board.query.apply c).search = s.board.query.search) :
    ∃ t, s.dispatch a = .ok t ∧ Filtering env s₀ search (s.board.query.apply c).commander
      (s.board.query.apply c).status (n + 1) t := by
  obtain ⟨t, accepted, same, expected, query, reset⟩ := s.exists_dispatch change
  rw [F.resetPage] at query
  have filters := ListQuery.transition_filters s₀.board.resetPage s.board.query c
  rw [← query] at filters
  have unsearched : t.board.query.search = s.board.query.search :=
    (congrArg (·.1) filters).trans kept
  have step : Step env s (s.issues a) t := .act a accepted
  obtain ⟨h, run⟩ := F.run
  refine ⟨t, accepted, ⟨⟨_, run.step (.step step)⟩, step.callerTurns F.callers,
    reset.trans F.resetPage, query ▸ refines, congrArg (·.2.2) filters, congrArg (·.2.1) filters,
    ?_, ?_⟩⟩
  · rw [same, unsearched]
    exact F.search
  · have before := F.expected
    omega

theorem setCommander (F : Filtering env s₀ search s₀.board.query.commander status n s)
    (id : Option String) :
    ∃ t, s.dispatch (.setCommander (Json.ofText? id)) = .ok t ∧
      Filtering env s₀ search (ListQuery.given? id) status (n + 1) t := by
  have change : (Action.setCommander (Json.ofText? id)).change? =
      some (.commander (ListQuery.given? id)) := by
    simp [Action.change?, Json.filterText?_ofText?]
  rw [← F.status]
  exact F.act change (F.refines.commander F.commander _) rfl

theorem setStatus (F : Filtering env s₀ search commander s₀.board.query.status n s)
    (filter : StatusFilter) :
    ∃ t, s.dispatch (.setStatus (.text filter.word)) = .ok t ∧
      Filtering env s₀ search commander (some filter) (n + 1) t := by
  have change : (Action.setStatus (.text filter.word)).change? = some (.status (some filter)) := by
    cases filter <;> rfl
  rw [← F.commander]
  exact F.act change (F.refines.status F.status _) rfl

end Filtering

/-! ## Filters that are set -/

/-- From `s₀` the scene `s` was led to some filters; a status that is not set is that of all. The
page is the first one if a filter has another value now and that is wanted, and all else of the
query is as it was. At most three fetches were issued on the way, and the list shows how the last
one went, which is the one of the query in force. -/
structure Filtered (env : Backend σ δ) (s₀ : Scene σ δ) (search commander : Option String)
    (status : StatusFilter) (s : Scene σ δ) : Prop where
  ready : s.Ready
  refines : s₀.board.query.Refines s₀.board.resetPage s.board.query
  search : s.board.query.search = search
  commander : s.board.query.commander = commander
  status : s.board.query.status.getD .all = status
  fetches : ∃ h : History, Runs (Onward env) s₀ h s ∧
    s.board.latest = s₀.board.latest + h.issued.length ∧ h.issued.length ≤ 3 ∧
    ∀ f, h.lastIssued = some f → f.query = s.board.query ∧
      ∃ o, .arrived f o ∈ h ∧ h.Answers env f o ∧ s.board.list.Reports s.board.query o

/-- To wait for a scene that is on the way to its filters leads to them. -/
theorem Filtering.waitIdle {search commander : Option String} {status : Option StatusFilter}
    (F : Filtering env s₀ search commander status 3 s) (ready : s₀.Ready) :
    Filtered env s₀ search commander (status.getD .all) (s.waitIdle env) := by
  obtain ⟨h, run⟩ := F.run
  obtain ⟨ended, k, turns⟩ := ready.waitIdle run F.callers
  have G := F.drifts turns.drifts ended.callers
  obtain ⟨past, since⟩ := ready.exists_since env
  have whole : Runs (Onward env) s₀ (h ++ k) (s.waitIdle env) :=
    run.trans (turns.drifts.mono Drift.onward)
  have later := since_of_run whole since
  rw [List.nil_append] at later
  have latest : (s.waitIdle env).board.latest =
      s₀.board.latest + (History.issued (h ++ k)).length := by
    rw [later.latest, since.latest]
    rfl
  refine ⟨ended, G.refines, ?_, G.commander, congrArg (·.getD .all) G.status, h ++ k, whole, latest,
    ?_, fun f last => later.current (by simp [Board.fetching, ended.inFlight]) last⟩
  · rcases G.search with ⟨-, set⟩ | ⟨ticket, term, waiting, -⟩
    · exact set
    · rw [ended.search] at waiting
      cases waiting
  · -- every fetch took a token, and no more were expected
    have tokens := G.expected
    rw [Scene.expected, latest] at tokens
    omega

end Scene

end IncidentBoard
