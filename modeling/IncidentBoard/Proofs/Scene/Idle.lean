import IncidentBoard.Proofs.Query.ClosedForm
import IncidentBoard.Proofs.Scene.Potential
import IncidentBoard.Proofs.Scene.Tracking
import IncidentBoard.Provider.Script

/-!
# Idle scenes

Waiting for a scene to be idle delivers the search term that waits and takes the outcome of every
fetch, those included that the term leads to. Nothing else acts meanwhile, so afterwards the query
in force is the one of the last fetch issued, and a success of that fetch is what the list shows.

## Main definitions

* `Scene.Ticketed` — a search term that waits has its turn on the agenda.
* `Scene.Delivers` — what turns do to the query and to the search term that waits.
* `Scene.Settles` — what waiting leads to; `Scene.Reaches.waitIdle_settles` — it leads there.
-/

namespace IncidentBoard

/-- The ticket of a turn of the search box. -/
def Turn.ticket? : Turn → Option Nat
  | .searchOpens ticket | .searchFires ticket => some ticket
  | _ => none

/-- The query after a search term was delivered; a term that is refused changes nothing. -/
def ListQuery.searched (q : ListQuery) (reset : Bool) (term : Json) : ListQuery :=
  match q.reduce reset (.setSearch term) with
  | .ok t => t.query
  | .error _ => q

theorem ListQuery.searched_eq (q : ListQuery) (reset : Bool) (term : Option String) :
    q.searched reset (Json.ofText? term) =
      (q.transition reset (.search (ListQuery.given? term))).query := by
  change q.follow reset (.setSearch (Json.ofText? term)) = _
  simp [ListQuery.follow_eq, Action.change?, Json.filterText?_ofText?]

/-- A text is searched for as it is, the empty one and none at all clear the filter. -/
theorem ListQuery.searched_search (q : ListQuery) (reset : Bool) (term : Option String) :
    (q.searched reset (Json.ofText? term)).search = ListQuery.given? term := by
  rw [searched_eq, transition_query]
  rfl

namespace Scene

variable {σ δ : Type} {env : Backend σ δ} {h k : History} {s₀ s t u : Scene σ δ}

/-! ## The search term that waits -/

/-- A search term that waits has its turn on the agenda. -/
def Ticketed (s : Scene σ δ) : Prop :=
  ∀ ticket term, s.search.waiting = some (ticket, term) →
    ticket ∈ (s.turnsOf .search).filterMap Turn.ticket?

theorem SearchEffect.ticketed (effect : SearchEffect s t) (T : s.Ticketed) : t.Ticketed := by
  intro ticket term waiting
  cases effect with
  | none search turns =>
    rw [(turns.filterMap _).mem_iff]
    exact T ticket term (search ▸ waiting)
  | call v search turns =>
    rw [search] at waiting
    cases waiting
    rw [(turns.filterMap _).mem_iff]
    exact .head _
  | opens opened rest before search after =>
    have member := T ticket term (search ▸ waiting)
    rw [(before.filterMap _).mem_iff] at member
    rw [(after.filterMap _).mem_iff]
    exact member
  | fires fired before search =>
    rw [search] at waiting
    rcases s.search.fire_cases fired with ⟨v, -, fire⟩ | ⟨others, fire⟩ <;> rw [fire] at waiting
    · cases waiting
    · have member := T ticket term waiting
      rw [(before.filterMap _).mem_iff] at member
      rcases List.mem_cons.1 member with rfl | member
      · exact absurd waiting (others term)
      · exact member

/-! ## What turns deliver -/

/-- The search term that waits goes on waiting and the query stays, or the term is delivered. -/
structure Delivers (s t : Scene σ δ) : Prop where
  resetPage : t.board.resetPage = s.board.resetPage
  term : (t.search.waiting = s.search.waiting ∧ t.board.query = s.board.query) ∨
    ∃ ticket v, s.search.waiting = some (ticket, v) ∧ t.search.waiting = none ∧
      t.board.query = s.board.query.searched s.board.resetPage v

theorem Delivers.trans (first : Delivers s t) (second : Delivers t u) : Delivers s u := by
  refine ⟨second.resetPage.trans first.resetPage, ?_⟩
  rcases first.term with ⟨waits, query⟩ | ⟨ticket, v, waited, none, query⟩
  · simpa only [← waits, ← query, ← first.resetPage] using second.term
  · rcases second.term with ⟨waits', query'⟩ | ⟨ticket', v', waited', -, -⟩
    · exact .inr ⟨ticket, v, waited, waits'.trans none, query'.trans query⟩
    · rw [none] at waited'
      cases waited'

theorem dispatch_searched {a : Json} (ok : s.dispatch (.setSearch a) = .ok t) :
    t.board.query = s.board.query.searched s.board.resetPage a ∧
      t.board.resetPage = s.board.resetPage ∧ t.search = s.search := by
  obtain ⟨⟨c, fetch⟩, hd, rfl⟩ := Failure.map_eq_ok_iff.1 ok
  obtain ⟨next, reduced, query, reset⟩ := Board.dispatch_query hd
  have searched : s.board.query.searched s.board.resetPage a = next.query := by
    simp [ListQuery.searched, reduced]
  cases fetch <;> exact ⟨query.trans searched.symm, reset, rfl⟩

theorem fireSearch_delivers (u : Scene σ δ) (ticket : Nat) : Delivers u (u.fireSearch ticket) := by
  rcases u.search.fire_cases ticket with ⟨v, waiting, fire⟩ | ⟨-, fire⟩
  · let fired := { u with search := u.search.cancel }
    cases hd : fired.dispatch (.setSearch v) with
    | ok t =>
      have result : u.fireSearch ticket = t := by simp [fireSearch, fire, fired, hd]
      obtain ⟨query, reset, search⟩ := dispatch_searched hd
      rw [result]
      exact ⟨reset, .inr ⟨ticket, v, waiting, by rw [search]; rfl, query⟩⟩
    | error f =>
      have result : u.fireSearch ticket = fired := by simp [fireSearch, fire, fired, hd]
      have refused : u.board.query.searched u.board.resetPage v = u.board.query := by
        unfold ListQuery.searched
        split
        · rename_i next reduced
          simp [fired, dispatch, Board.dispatch, reduced, Except.map] at hd
        · rfl
      rw [result]
      exact ⟨rfl, .inr ⟨ticket, v, waiting, rfl, refused.symm⟩⟩
  · have result : u.fireSearch ticket = u := by simp [fireSearch, fire]
    rw [result]
    exact ⟨rfl, .inl ⟨rfl, rfl⟩⟩

theorem Delivers.of_eq
    (board : t.board.query = s.board.query ∧ t.board.resetPage = s.board.resetPage)
    (search : t.search = s.search) : Delivers s t :=
  ⟨board.2, .inl ⟨congrArg _ search, board.1⟩⟩

theorem Aside.delivers {j : Turn.Kind} (aside : Aside j s t) : Delivers s t :=
  .of_eq ⟨by rw [aside.board], by rw [aside.board]⟩ aside.search

theorem run_delivers (u : Scene σ δ) (turn : Turn) : Delivers u (u.run env turn) := by
  cases turn with
  | searchOpens ticket =>
    change Delivers u (u.openSearch ticket)
    unfold openSearch
    split <;> exact .of_eq ⟨rfl, rfl⟩ rfl
  | searchFires ticket => exact u.fireSearch_delivers ticket
  | fetchOpens f =>
    change Delivers u (u.openFetch env f)
    unfold openFetch
    dsimp only
    split
    · exact .of_eq ⟨Board.complete_query _ _ _, Board.complete_resetPage _ _ _⟩ rfl
    · exact .of_eq ⟨rfl, rfl⟩ rfl
  | fetchReturns f o =>
    exact .of_eq ⟨Board.complete_query _ _ _, Board.complete_resetPage _ _ _⟩ rfl
  | fetchRetires f => exact .of_eq ⟨rfl, rfl⟩ rfl
  | _ => exact (run_aside u (by simp [Turn.kind])).delivers

theorem Lets.delivers (run : Lets env s k t) : Delivers s t := by
  induction run with
  | start => exact .of_eq ⟨rfl, rfl⟩ rfl
  | turn run take ih =>
    have taken : Delivers _ _ := .of_eq ⟨by rw [take.board], by rw [take.board]⟩ take.search
    exact (ih.trans taken).trans (run_delivers _ _)

/-- Where no search term waits, none is delivered, and none waits then. -/
theorem Delivers.not_pending (delivers : Delivers s t) (none : s.search.pending = false) :
    t.search.pending = false := by
  simp only [Debouncer.pending, Option.isSome_eq_false_iff, Option.isNone_iff_eq_none] at none ⊢
  rcases delivers.term with ⟨waits, -⟩ | ⟨ticket, v, waited, -, -⟩
  · rw [waits, none]
  · rw [none] at waited
    cases waited

/-- Turns alone let no search term wait that did not. -/
theorem Lets.not_pending (run : Lets env s k t) (none : s.search.pending = false) :
    t.search.pending = false :=
  run.delivers.not_pending none

/-! ## Waiting -/

variable {source : σ} {people : δ} {q : ListQuery} {quietTime : Int} {resetPage : Bool}

theorem Reaches.ticketed (run : Reaches env (Scene.start source people q quietTime resetPage) h s) :
    s.Ticketed := by
  induction run with
  | start => exact fun _ _ waiting => nomatch waiting
  | step _ step ih => exact step.searchEffect.ticketed ih

theorem Ticketed.not_pending (T : s.Ticketed) (turns : s.agenda.turns = []) :
    s.search.pending = false := by
  cases waiting : s.search.waiting with
  | none => simp [Debouncer.pending, waiting]
  | some call =>
    have member := T call.1 call.2 waiting
    simp [turnsOf, turns] at member

/-- With nothing left to do, no fetch is under way. -/
theorem not_fetching_of_tracks {b : Board} (tracks : b.Tracks env h (s.turnsOf .fetch))
    (turns : s.agenda.turns = []) : b.fetching = false := by
  have inFlight : b.inFlight = [] := by
    refine (tracks.inFlight.trans ?_).eq_nil
    simp [turnsOf, turns]
  simp [Board.fetching, inFlight]

theorem Reaches.waitSearch
    (run : Reaches env (Scene.start source people q quietTime resetPage) h s) :
    (s.waitSearch env).search.pending = false ∧ ∃ k, Lets env s k (s.waitSearch env) := by
  obtain ⟨-, ⟨k, turns⟩, stopped | nothing⟩ :=
    runWhile_exhausts env (·.search.pending) run.callerTurns
  · exact ⟨stopped, k, turns⟩
  · exact ⟨(run.lets turns).ticketed.not_pending nothing, k, turns⟩

theorem Reaches.waitFetches
    (run : Reaches env (Scene.start source people q quietTime resetPage) h s) :
    (s.waitFetches env).board.fetching = false ∧ ∃ k, Lets env s k (s.waitFetches env) := by
  obtain ⟨-, ⟨k, turns⟩, stopped | nothing⟩ :=
    runWhile_exhausts env (·.board.fetching) run.callerTurns
  · exact ⟨stopped, k, turns⟩
  · exact ⟨not_fetching_of_tracks (run.lets turns).tracks nothing, k, turns⟩

/-- What waiting for a scene `s` to be idle leads to: after everything that happened, `h`, nothing
is under way in `t`, the latest search term counts, and the list shows the query in force unless
its fetch failed. -/
structure Settles (env : Backend σ δ) (h : History) (s t : Scene σ δ) : Prop where
  idle : t.busy = false
  loaded : t.board.list.loading = false
  term : ∀ ticket term, s.search.waiting = some (ticket, Json.ofText? term) →
    t.board.query.search = ListQuery.given? term
  kept : s.search.pending = false → t.board.query = s.board.query
  current : ∀ f, h.lastIssued = some f → f.query = t.board.query ∧
    ∃ o, .arrived f o ∈ h ∧ h.Answers env f o ∧
      ∀ page, o = .ok page → t.board.list = .ofPage t.board.query page

/-- Waiting for a scene to be idle ends, and leaves it settled on the query in force: from every
scene that a run leads to, with any search term waiting and any fetches under way. -/
theorem Reaches.waitIdle_settles
    (run : Reaches env (Scene.start source people q quietTime resetPage) h s) :
    (s.waitSearch env).search.pending = false ∧
      ∃ k, Reaches env (Scene.start source people q quietTime resetPage) (h ++ k) (s.waitIdle env) ∧
        Settles env (h ++ k) s (s.waitIdle env) := by
  obtain ⟨searched, k₁, turns₁⟩ := run.waitSearch
  obtain ⟨fetched, k₂, turns₂⟩ := (run.lets turns₁).waitFetches
  have turns : Lets env s (k₁ ++ k₂) (s.waitIdle env) := turns₁.trans turns₂
  have ended := run.lets turns
  have T := ended.tracks
  have arrived : ∀ f ∈ (h ++ (k₁ ++ k₂)).issued, f ∈ (h ++ (k₁ ++ k₂)).arrived :=
    fun f hf => T.arrived_of_not_fetching fetched hf
  refine ⟨searched, k₁ ++ k₂, ended, ?_, ?_, ?_, ?_, ?_⟩
  · simp [busy, turns₂.not_pending searched, waitIdle, fetched]
  · refine Bool.eq_false_iff.2 fun loading => ?_
    obtain ⟨f, latest, out⟩ := T.shown.loading.1 loading
    exact out (arrived f (List.mem_of_getLast? latest))
  · intro ticket term waiting
    rcases turns.delivers.term with ⟨waits, -⟩ | ⟨ticket', v, waited, -, query⟩
    · have none := turns₂.not_pending searched
      change (s.waitIdle env).search.pending = false at none
      simp [Debouncer.pending, waits, waiting] at none
    · rw [waiting] at waited
      cases waited
      rw [query, ListQuery.searched_search]
  · intro none
    rcases turns.delivers.term with ⟨-, query⟩ | ⟨ticket, v, waited, -, -⟩
    · exact query
    · simp [Debouncer.pending, waited] at none
  · intro f latest
    have query := T.query f latest
    obtain ⟨o, member⟩ := History.mem_arrived.1 (arrived f (List.mem_of_getLast? latest))
    refine ⟨query, o, member, T.arrivals f o member, ?_⟩
    rintro page rfl
    rw [← query]
    exact T.settled f page latest member

/-- A term waits while the fetches of two pages are out, the earlier one for longer. -/
theorem waitIdle_settles_of_late_page :
    let env : Backend Script Roster := ⟨Script.provider, Roster.directory⟩
    let script : Script := ⟨[], [⟨800, none⟩, ⟨50, none⟩, ⟨10, none⟩], [], [], []⟩
    let first : ListQuery := .first "t" 15 (by decide)
    ∃ h s, Reaches env (Scene.start script ⟨[]⟩ first 300 true) h s ∧
      s.search.waiting = some (1, .text "db") ∧ s.board.inFlight.length = 2 ∧
      ∃ k, Settles env (h ++ k) s (s.waitIdle env) ∧
        (s.waitIdle env).board.query.search = some "db" := by
  intro env script first
  have act₁ : Reaches env (Scene.start script ⟨[]⟩ first 300 true) _ _ :=
    .step .start (.act (.setPage (.int 1)) rfl)
  have act₂ := act₁.step (.act (.setPage (.int 2)) rfl)
  have typed := act₂.step (.type _ (.text "db"))
  obtain ⟨-, k, -, settles⟩ := typed.waitIdle_settles
  exact ⟨_, _, typed, rfl, rfl, k, settles, settles.term 1 (some "db") rfl⟩

end Scene

end IncidentBoard
