import IncidentBoard.Proofs.Debouncer.Schedule
import IncidentBoard.Proofs.Scene.Deeds
import IncidentBoard.Proofs.Scene.Idle

/-!
# The calls of a board

The provider is called once for every action that needs a fetch, in the order of the actions, each
time with the query right after its action. A search term is such an action at the moment when it
counts, against the query of that moment.

## Main definitions

* `Backend.recorded` — a backend whose provider keeps its calls.
* `Scene.Serves`, `Scene.Keeps` — what every move preserves: for the calls, and with the search box.
* `Scene.Accounts` — the calls that are made for deeds; `Scene.Plays.accounts` — they are made.
-/

namespace IncidentBoard

/-- A backend whose provider keeps its calls. -/
def Backend.recorded {σ δ : Type} (env : Backend σ δ) : Backend (σ × List Request) δ :=
  ⟨env.provider.recorded, env.directory⟩

namespace Scene

/-! ## What a run keeps -/

variable {σ δ : Type} {env : Backend σ δ} {q : ListQuery} {resetPage : Bool} {quietTime : Int}
  {deeds more : Deeds} {actions : List Action} {s t : Scene (σ × List Request) δ}

/-- The query that follows actions is in force, and the calls for them are made or queued. -/
structure Serves (q : ListQuery) (resetPage : Bool) (actions : List Action)
    (s : Scene (σ × List Request) δ) : Prop where
  query : s.board.query = q.followAll resetPage actions
  reset : s.board.resetPage = resetPage
  calls : ∃ queued, s.agenda.Queues queued ∧
    s.source.2 ++ queued = (q.fetches resetPage actions).map .list

namespace Serves

theorem attempt (S : Serves q resetPage actions s) (a : Action) :
    Serves q resetPage (actions ++ [a]) (s.attempt a) := by
  obtain ⟨queued, Q, calls⟩ := S.calls
  have fetches := q.fetches_concat resetPage actions a
  have query := q.followAll_concat resetPage actions a
  rw [← S.query] at fetches query
  rcases s.attempt_cases a with ⟨same, follow, none⟩ | ⟨posted, one⟩
  · rw [S.reset] at follow none
    rw [same]
    refine ⟨(query.trans follow).symm, S.reset, queued, Q, ?_⟩
    rw [calls, fetches, none, List.append_nil]
  · rw [S.reset] at posted one
    rw [posted]
    refine ⟨query.symm, S.reset, _, Q.post (.inr rfl), ?_⟩
    rw [← List.append_assoc, fetches, one, List.map_append]
    exact congrArg (· ++ _) calls

theorem post (S : Serves q resetPage actions s) (turn : Turn) (board : turn.OfBoard)
    (none : turn.call? = none) : Serves q resetPage actions (s.post turn) := by
  obtain ⟨queued, Q, calls⟩ := S.calls
  have posted := Q.post board
  rw [none, Option.toList_none, List.append_nil] at posted
  exact ⟨S.query, S.reset, queued, posted, calls⟩

theorem sleep {turn : Turn} (S : Serves q resetPage actions s) (ms : Nat) (board : turn.OfBoard)
    (none : turn.call? = none) : Serves q resetPage actions (s.sleep ms turn) := by
  obtain ⟨queued, Q, calls⟩ := S.calls
  exact ⟨S.query, S.reset, queued, Q.sleep ms board none, calls⟩

/-- The board may change but for its query. -/
theorem onBoard {b : Board} (S : Serves q resetPage actions s) (query : b.query = s.board.query)
    (reset : b.resetPage = s.board.resetPage) :
    Serves q resetPage actions { s with board := b } :=
  ⟨query.trans S.query, reset.trans S.reset, S.calls⟩

theorem onSearch (S : Serves q resetPage actions s) (d : Debouncer Json) :
    Serves q resetPage actions { s with search := d } :=
  ⟨S.query, S.reset, S.calls⟩

/-- A turn that makes no call is taken. -/
theorem taken {turn : Turn} {rest : List Turn} (S : Serves q resetPage actions s)
    (due : s.agenda.ready = turn :: rest) (none : turn.call? = none) :
    Serves q resetPage actions s.taken := by
  obtain ⟨queued, Q, calls⟩ := S.calls
  obtain ⟨-, later, rfl, Q'⟩ := Q.take due
  exact ⟨S.query, S.reset, later, Q', by simpa [none] using calls⟩

/-- The turn of a fetch is taken, and its call is made. -/
theorem call {f : Fetch} {rest : List Turn} (S : Serves q resetPage actions s)
    (env : Backend σ δ) (due : s.agenda.ready = .fetchOpens f :: rest) :
    Serves q resetPage actions
      { s.taken with source := (env.recorded.provider.list s.source f.query).2 } := by
  obtain ⟨queued, Q, calls⟩ := S.calls
  obtain ⟨-, later, rfl, Q'⟩ := Q.take due
  refine ⟨S.query, S.reset, later, Q', ?_⟩
  rw [← calls]
  exact List.append_assoc s.source.2 [.list f.query] later

end Serves

/-- An action does not concern the search box. -/
theorem attempt_scheduled {σ : Type} {s : Scene σ δ} {log : Debouncer.Log Json} (a : Action)
    (scheduled : s.search.Scheduled Turn.search? s.agenda log) :
    (s.attempt a).search = s.search ∧
      s.search.Scheduled Turn.search? (s.attempt a).agenda log := by
  rcases s.attempt_cases a with ⟨same, -⟩ | ⟨posted, -⟩
  · rw [same]
    exact ⟨rfl, scheduled⟩
  · rw [posted]
    exact ⟨rfl, scheduled.post rfl⟩

/-- A scene with the deeds that led to it. -/
structure Keeps (q : ListQuery) (resetPage : Bool) (quietTime : Int) (deeds : Deeds)
    (s : Scene (σ × List Request) δ) : Prop extends Serves q resetPage deeds.actions s where
  quietTime : s.search.delay = quietTime
  scheduled : s.search.Scheduled Turn.search? s.agenda deeds.searches

namespace Keeps

theorem act (K : Keeps q resetPage quietTime deeds s) (a : Action) :
    Keeps q resetPage quietTime (deeds ++ [(.acted a, s.agenda.now)]) (s.attempt a) := by
  obtain ⟨search, scheduled⟩ := attempt_scheduled a K.scheduled
  have serves := K.toServes.attempt a
  refine ⟨by simpa using serves, search ▸ K.quietTime, ?_⟩
  rw [search, Deeds.searches_acted]
  exact scheduled

theorem type (K : Keeps q resetPage quietTime deeds s) (term : Json) :
    Keeps q resetPage quietTime (deeds ++ [(.typed term, s.agenda.now)]) (s.type term) := by
  let opens : Turn := .searchOpens (s.search.tickets + 1)
  have serves := (K.toServes.onSearch (s.search.call term)).post opens (.inl rfl) rfl
  have scheduled := K.scheduled.call term opens rfl
  refine ⟨?_, K.quietTime, ?_⟩
  · rw [Deeds.actions_typed]
    exact serves
  · rw [Deeds.searches_typed]
    exact scheduled

theorem openSearch {ticket : Nat} {rest : List Turn} (K : Keeps q resetPage quietTime deeds s)
    (due : s.agenda.ready = .searchOpens ticket :: rest) :
    Keeps q resetPage quietTime deeds (s.taken.openSearch ticket) := by
  have serves := K.toServes.taken due rfl
  have scheduled := K.scheduled.opens (.searchFires ticket) due rfl rfl
  unfold Scene.openSearch
  rw [taken_search]
  split <;> rename_i positive
  · rw [if_pos positive] at scheduled
    exact ⟨serves.sleep _ (.inl rfl) rfl, K.quietTime, scheduled⟩
  · rw [if_neg positive] at scheduled
    exact ⟨serves.post _ (.inl rfl) rfl, K.quietTime, scheduled⟩

theorem fireSearch {ticket : Nat} {rest : List Turn} (K : Keeps q resetPage quietTime deeds s)
    (due : s.agenda.ready = .searchFires ticket :: rest) :
    Keeps q resetPage quietTime (deeds ++ s.taken.turnDeeds (.searchFires ticket))
      (s.taken.fireSearch ticket) := by
  have serves := K.toServes.taken due rfl
  have scheduled := K.scheduled.fires due rfl
  rcases s.taken.fireSearch_attempt ticket with ⟨v, fire, run, deed⟩ | ⟨fire, run, deed⟩ <;>
    rw [run, deed] <;> rw [taken_search] at fire <;> rw [fire] at scheduled
  · obtain ⟨search, scheduled'⟩ := attempt_scheduled
      (s := { s.taken with search := s.search.cancel }) (.setSearch v) scheduled
    have counted := (serves.onSearch s.search.cancel).attempt (.setSearch v)
    refine ⟨?_, (congrArg _ search).trans K.quietTime, ?_⟩
    · rw [Deeds.actions_searched]
      exact counted
    · rw [Deeds.searches_searched]
      exact search ▸ scheduled'
  · simp only [List.append_nil, Option.toList_none, List.map_nil] at scheduled ⊢
    exact ⟨serves, K.quietTime, scheduled⟩

theorem openFetch {f : Fetch} {rest : List Turn} (K : Keeps q resetPage quietTime deeds s)
    (due : s.agenda.ready = .fetchOpens f :: rest) :
    Keeps q resetPage quietTime deeds (s.taken.openFetch env.recorded f) := by
  have serves := K.toServes.call env due
  have scheduled := K.scheduled.behind due (by simp [Turn.search?])
  unfold Scene.openFetch
  dsimp only
  split
  · let outcome := (env.recorded.provider.list s.source f.query).1.outcome
    have answered := serves.onBoard (Board.complete_query s.board f outcome)
      (Board.complete_resetPage s.board f outcome)
    exact ⟨answered.post _ (.inr rfl) rfl, K.quietTime, scheduled.post rfl⟩
  · rename_i later
    exact ⟨serves.sleep _ (.inr rfl) rfl, K.quietTime,
      scheduled.sleep (Nat.pos_of_ne_zero later) rfl⟩

theorem finishFetch {f : Fetch} {o : Except Failure IncidentsPage} {rest : List Turn}
    (K : Keeps q resetPage quietTime deeds s) (due : s.agenda.ready = .fetchReturns f o :: rest) :
    Keeps q resetPage quietTime deeds (s.taken.finishFetch f o) := by
  have serves := K.toServes.taken due rfl
  have scheduled := K.scheduled.behind due (by simp [Turn.search?])
  have answered := serves.onBoard (Board.complete_query s.board f o)
    (Board.complete_resetPage s.board f o)
  exact ⟨answered.post _ (.inr rfl) rfl, K.quietTime, scheduled.post rfl⟩

theorem retire {f : Fetch} {rest : List Turn} (K : Keeps q resetPage quietTime deeds s)
    (due : s.agenda.ready = .fetchRetires f :: rest) :
    Keeps q resetPage quietTime deeds { s.taken with board := s.board.retire f } := by
  have serves := K.toServes.taken due rfl
  exact ⟨serves.onBoard rfl rfl, K.quietTime, K.scheduled.behind due (by simp [Turn.search?])⟩

end Keeps

/-- What happens of itself keeps the scene and its deeds together. -/
theorem Elapses.keeps (step : Elapses env.recorded s more t)
    (K : Keeps q resetPage quietTime deeds s) : Keeps q resetPage quietTime (deeds ++ more) t := by
  obtain ⟨queued, Q, calls⟩ := K.calls
  cases step with
  | pass time idle =>
    rw [List.append_nil]
    exact ⟨⟨K.query, K.reset, queued, Q.wake time, calls⟩, K.quietTime, K.scheduled.pass idle⟩
  | @turn turn _ due =>
    have board := (Q.take due).1
    have silent {t : Scene (σ × List Request) δ} (K : Keeps q resetPage quietTime deeds t) :
        Keeps q resetPage quietTime (deeds ++ []) t := by simpa using K
    cases turn with
    | searchFires ticket => exact K.fireSearch due
    | searchOpens ticket => exact silent (K.openSearch due)
    | fetchOpens f => exact silent (K.openFetch due)
    | fetchReturns f o => exact silent (K.finishFetch due)
    | fetchRetires f => exact silent (K.retire due)
    | _ => simp [Turn.OfBoard, Turn.kind] at board

theorem Move.keeps (move : Move env.recorded s more t) (K : Keeps q resetPage quietTime deeds s) :
    Keeps q resetPage quietTime (deeds ++ more) t := by
  cases move with
  | act a => exact K.act a
  | type term => exact K.type term
  | alone step => exact step.keeps K

theorem Goes.keeps (run : Goes env.recorded s more t) (K : Keeps q resetPage quietTime deeds s) :
    Keeps q resetPage quietTime (deeds ++ more) t :=
  run.preserves K Elapses.keeps

variable {source : σ} {people : δ}

theorem Plays.keeps
    (run : Plays env.recorded (Scene.start (source, []) people q quietTime resetPage) deeds s) :
    Keeps q resetPage quietTime deeds s := by
  have queues : Agenda.empty.Queues [] := ⟨rfl, by simp [Agenda.empty], by simp⟩
  have K : Keeps q resetPage quietTime []
      (Scene.start (source, ([] : List Request)) people q quietTime resetPage) :=
    ⟨⟨rfl, rfl, [], queues, rfl⟩, rfl, .idle Turn.search? quietTime⟩
  exact run.preserves K Move.keeps

/-! ## Timed runs -/

/-- The next turn of a timed run is run as things go of themselves. -/
theorem next_goes (env : Backend σ δ) {limit : Option Nat} {turn : Turn} {rest : Agenda Turn}
    (K : Keeps q resetPage quietTime deeds s)
    (next : s.agenda.next? limit = some (turn, rest)) :
    turn.OfBoard ∧ ∃ more, Goes env.recorded s more
      ({ s with agenda := rest }.run env.recorded turn) := by
  obtain ⟨queued, Q, -⟩ := K.calls
  refine ⟨Q.board turn ((Agenda.turns_next next).mem_iff.2 (.head _)), ?_⟩
  obtain ⟨c, when, due, rfl⟩ := Agenda.next_cases K.scheduled.timed next
  have turned : Elapses env.recorded { s with agenda := c } _ _ := .turn due
  rcases when with rfl | ⟨d, idle, rfl, -⟩
  · exact ⟨_, .one turned⟩
  · exact ⟨_, .step (.one (.pass _ idle)) turned⟩

/-- A timed run goes as things go of themselves. -/
theorem runWhile_goes (env : Backend σ δ) (go : Scene (σ × List Request) δ → Bool)
    (limit : Option Nat) (fuel : Nat) (K : Keeps q resetPage quietTime deeds s) :
    ∃ more, Goes env.recorded s more (s.runWhile env.recorded go limit fuel) := by
  induction fuel generalizing s deeds with
  | zero => exact ⟨[], .start⟩
  | succ fuel ih =>
    cases more : go s with
    | false => exact ⟨[], by simpa [runWhile, more] using .start⟩
    | true =>
      cases next : s.agenda.next? limit with
      | none => exact ⟨[], by simpa [runWhile, more, next] using .start⟩
      | some due =>
        obtain ⟨turn, rest⟩ := due
        obtain ⟨board, first, goes⟩ := next_goes env K next
        have round : s.runWhile env.recorded go limit (fuel + 1) =
            ({ s with agenda := rest }.run env.recorded turn).runWhile env.recorded go limit
              fuel := by
          cases turn with
          | callerResumes => simp [Turn.OfBoard, Turn.kind] at board
          | _ => simp only [runWhile, more, next, if_true]
        obtain ⟨second, goes'⟩ := ih (goes.keeps K)
        rw [round]
        exact ⟨first ++ second, goes.trans goes'⟩

/-- A run up to a time leaves nothing due, and all deadlines come later. -/
theorem Plays.runUntil
    (run : Plays env.recorded (Scene.start (source, []) people q quietTime resetPage) deeds s)
    (time : Nat) :
    let ended := s.runWhile env.recorded (fun _ => true) (some time) s.potential
    (∃ more, Goes env.recorded s more ended) ∧ ended.agenda.ready = [] ∧
      ∀ x ∈ ended.agenda.sleeping, time < x.1 := by
  obtain ⟨more, goes⟩ := runWhile_goes env (fun _ => true) (some time) s.potential run.keeps
  obtain ⟨h, reached⟩ := run.reaches
  have done := runWhile_ends env.recorded (fun _ => true) (some time) s.potential
    (Nat.le_refl _) reached.callerTurns
  have timed := (goes.keeps run.keeps).scheduled.timed
  exact ⟨⟨more, goes⟩, Agenda.next_eq_none timed (done.resolve_left (by simp))⟩

/-! ## The calls that are made -/

/-- What is done at a board leads to these calls of the provider, and to no others: one for every
action that needs a fetch, in order, each with the query right after the action. Search terms
count as actions on the trailing edge, and leave everything but the search and the page alone. -/
structure Accounts (q : ListQuery) (resetPage : Bool) (quietTime : Int) (deeds : Deeds)
    (s : Scene (σ × List Request) δ) : Prop where
  query : s.board.query = q.followAll resetPage deeds.actions
  calls : s.source.2 ++ s.agenda.ready.filterMap Turn.call? =
    (q.fetches resetPage deeds.actions).map .list
  /-- When nothing is due or no fetch is under way, every call has been made. -/
  settled : s.agenda.ready = [] ∨ s.board.fetching = false →
    s.source.2 = (q.fetches resetPage deeds.actions).map .list
  searches : Debouncer.TrailingEdge quietTime.toNat s.agenda.now deeds.searches
  /-- When nothing is due, a term that does not count yet is still in its quiet time. -/
  prompt : s.agenda.ready = [] → ∀ c, deeds.searches.open? = some c →
    s.agenda.now < c.2 + quietTime.toNat
  kept : ∀ before v time after, deeds = before ++ (.searched v, time) :: after →
    let p := q.followAll resetPage (Deeds.actions before)
    ∃ term, q.followAll resetPage (Deeds.actions (before ++ [(.searched v, time)])) =
      { p with search := term, page := if resetPage && term ≠ p.search then 0 else p.page }

theorem Plays.accounts_of_keeps
    (run : Plays env.recorded (Scene.start (source, []) people q quietTime resetPage) deeds s) :
    Accounts q resetPage quietTime deeds s := by
  have K := run.keeps
  obtain ⟨queued, Q, calls⟩ := K.calls
  refine ⟨K.query, Q.ready ▸ calls, fun settled => ?_, K.quietTime ▸ K.scheduled.law,
    fun none c waits => K.quietTime ▸ K.scheduled.lt_of_open none waits, ?_⟩
  · rw [← calls, ← Q.ready]
    suffices none : s.agenda.ready.filterMap Turn.call? = [] by rw [none, List.append_nil]
    rcases settled with none | idle
    · rw [none, List.filterMap_nil]
    · obtain ⟨h, reached⟩ := run.reaches
      have gone := reached.tracks.turns_of_not_fetching idle
      refine List.filterMap_eq_nil_iff.2 fun turn member => ?_
      cases turn with
      | fetchOpens f =>
        have fetch : Turn.fetchOpens f ∈ s.turnsOf .fetch := by
          simp [turnsOf, Agenda.turns, member, Turn.kind]
        have impossible := List.filterMap_eq_nil_iff.1 gone _ fetch
        cases impossible
      | _ => rfl
  · intro before v time after _
    rw [Deeds.actions_searched, ListQuery.followAll_concat]
    exact ListQuery.follow_setSearch resetPage _ v

/-- When nothing is due or no fetch is under way after a run that went of itself, all calls for
what was done before and on the way have been made. -/
theorem Plays.calls_of_goes
    (run : Plays env.recorded (Scene.start (source, []) people q quietTime resetPage) deeds s)
    (goes : Goes env.recorded s more t) (settled : t.agenda.ready = [] ∨ t.board.fetching = false) :
    t.source.2 = (q.fetches resetPage (Deeds.actions (deeds ++ more))).map .list :=
  (Plays.accounts_of_keeps (run.trans (goes.mono .alone))).settled settled

/-- Whenever actions come and terms are typed, and however long the provider takes: its calls are
those that the deeds account for. Settling, time that is let pass, and waiting for the board to be
idle add no deeds but search terms that count, and leave no call to be made. -/
theorem Plays.accounts
    (run : Plays env.recorded (Scene.start (source, []) people q quietTime resetPage) deeds s) :
    Accounts q resetPage quietTime deeds s ∧
      (∃ more, Goes env.recorded s more (s.settle env.recorded) ∧
        (s.settle env.recorded).source.2 =
          (q.fetches resetPage (Deeds.actions (deeds ++ more))).map .list) ∧
      (∀ ms, ∃ more, Goes env.recorded s more (s.advance env.recorded ms) ∧
        (s.advance env.recorded ms).source.2 =
          (q.fetches resetPage (Deeds.actions (deeds ++ more))).map .list) ∧
      ∃ more, Goes env.recorded s more (s.waitIdle env.recorded) ∧
        (s.waitIdle env.recorded).source.2 =
          (q.fetches resetPage (Deeds.actions (deeds ++ more))).map .list := by
  refine ⟨run.accounts_of_keeps, ?_, fun ms => ?_, ?_⟩
  · obtain ⟨⟨more, goes⟩, ready, -⟩ := run.runUntil s.agenda.now
    exact ⟨more, goes, run.calls_of_goes goes (.inl ready)⟩
  · let time := s.agenda.now + ms
    let ended := s.runWhile env.recorded (fun _ => true) (some time) s.potential
    obtain ⟨⟨more, goes⟩, ready, later⟩ := run.runUntil time
    have passed : Elapses env.recorded ended [] (s.advance env.recorded ms) := by
      have idle : ended.agenda.IdleUntil time := ⟨ready, fun x hx => Nat.le_of_lt (later x hx)⟩
      have woken : Elapses env.recorded ended [] _ := .pass time idle
      rwa [Agenda.wake_eq_advanceTo later] at woken
    have advanced := goes.step passed
    exact ⟨_, advanced, run.calls_of_goes advanced (.inl ready)⟩
  · obtain ⟨h, reached⟩ := run.reaches
    obtain ⟨more₁, goes₁⟩ : ∃ more, Goes env.recorded s more (s.waitSearch env.recorded) :=
      runWhile_goes env _ none s.potential run.keeps
    obtain ⟨-, h', turns⟩ := reached.waitSearch
    obtain ⟨more₂, goes₂⟩ : ∃ more, Goes env.recorded (s.waitSearch env.recorded) more
        (s.waitIdle env.recorded) :=
      runWhile_goes env _ none _ (goes₁.keeps run.keeps)
    obtain ⟨idle, -⟩ := (reached.lets turns).waitFetches
    have waited := goes₁.trans goes₂
    exact ⟨_, waited, run.calls_of_goes waited (.inr idle)⟩

/-- A team is chosen within the quiet time of a term: it stays when the term counts. -/
theorem accounts_of_team_within_quiet_time :
    let env : Backend Script Roster := ⟨Script.provider, Roster.directory⟩
    let first : ListQuery := .first "t" 15 (by decide)
    let script : Script := ⟨[], [], [], [], []⟩
    ∃ s, Plays env.recorded (Scene.start (script, []) ⟨[]⟩ first 300 true)
        [(.typed (.text "db"), 0), (.acted (.setTeam (.text "u")), 0),
          (.searched (.text "db"), 300)] s ∧
      s.source.2 = [.list { first with team := "u" },
        .list { first with team := "u", search := some "db" }] := by
  intro env first script
  have typed : Plays env.recorded (Scene.start (script, []) ⟨[]⟩ first 300 true) _ _ :=
    .one (.type _ (.text "db"))
  have chosen := typed.step (.act _ (.setTeam (.text "u")))
  have opened := chosen.step (.alone (.turn rfl))
  have asked₁ := opened.step (.alone (.turn rfl))
  have retired₁ := asked₁.step (.alone (.turn rfl))
  have passed := retired₁.step (.alone (.pass 300 ⟨rfl, by decide⟩))
  have counted := passed.step (.alone (.turn rfl))
  have asked₂ := counted.step (.alone (.turn rfl))
  have retired₂ := asked₂.step (.alone (.turn rfl))
  obtain ⟨done, -, -⟩ := Plays.accounts retired₂
  exact ⟨_, retired₂, done.settled (.inl rfl)⟩

end Scene

end IncidentBoard
