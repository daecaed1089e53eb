import IncidentBoard.Proofs.Scene.History
import IncidentBoard.Scene
import Mathlib.Data.List.Perm.Basic

/-!
# Runs of a scene

A scene moves by single steps in any order: an action is dispatched, a term is typed, any turn that
is on the agenda is run, whatever its time, or something happens that does not concern the board.
Every timed run is such a run, so what holds along all of them holds however long calls take and in
whatever order outcomes arrive.

## Main definitions

* `Turn.Kind`, `Scene.turnsOf` — the turns on the agenda by what they concern.
* `Scene.Step`, `Scene.Reaches` — one step with what it does to fetches, and the runs.
* `Scene.FetchEffect`, `Scene.SearchEffect` — everything that a step can do to the fetches and to
  the search term that waits.
-/

namespace IncidentBoard

/-! ## Turns by kind -/

namespace Turn

/-- What a turn concerns: the search box, a fetch, the detail view, or a caller who waits. -/
inductive Kind where
  | search
  | fetch
  | view
  | caller
  deriving DecidableEq, Repr

def kind : Turn → Kind
  | .searchOpens _ | .searchFires _ => .search
  | .fetchOpens _ | .fetchReturns _ _ | .fetchRetires _ => .fetch
  | .selectOpens _ _ | .detailReturns _ _ _ | .summaryReturns _ _ _ => .view
  | .lookupOpens _ _ | .lookupReturns _ _ | .lookupSettles | .callerResumes => .caller

end Turn

/-! ## Actions -/

/-- A query that needs no fetch is the one in force. -/
theorem ListQuery.reduce_of_not_fetchNeeded {reset : Bool} {q : ListQuery} {a : Action}
    {t : Transition} (h : q.reduce reset a = .ok t) (hn : t.fetchNeeded = false) :
    t.query = q := by
  cases a with
  | refresh => cases h; cases hn
  | unknown v => cases h
  | _ =>
    obtain ⟨next, -, rfl⟩ := Failure.map_eq_ok_iff.1 h
    simpa using hn

/-- The board after a query was put in force and a fetch of it was issued. -/
def Board.fetchFor (b : Board) (q : ListQuery) : Board := (Board.issue { b with query := q }).1

/-- An action leaves the board as it is, or puts a query in force and issues a fetch of it. -/
theorem Board.dispatch_cases {b c : Board} {a : Action} {fetch : Option Fetch}
    (h : b.dispatch a = .ok (c, fetch)) :
    (c = b ∧ fetch = none) ∨ ∃ q, c = b.fetchFor q ∧ fetch = some ⟨b.latest + 1, q⟩ := by
  obtain ⟨t, ht, he⟩ := Failure.map_eq_ok_iff.1 h
  by_cases hn : t.fetchNeeded = true
  · simp only [hn, if_true, Prod.mk.injEq] at he
    exact .inr ⟨t.query, he.1.symm, he.2.symm⟩
  · have hq := ListQuery.reduce_of_not_fetchNeeded ht (by simpa using hn)
    simp only [hn, hq, Bool.false_eq_true, if_false, Prod.mk.injEq] at he
    exact .inl ⟨he.1.symm, he.2.symm⟩

/-- An action puts in force the query that follows it. -/
theorem Board.dispatch_query {b c : Board} {a : Action} {fetch : Option Fetch}
    (h : b.dispatch a = .ok (c, fetch)) :
    ∃ t, b.query.reduce b.resetPage a = .ok t ∧ c.query = t.query ∧ c.resetPage = b.resetPage := by
  obtain ⟨t, ht, he⟩ := Failure.map_eq_ok_iff.1 h
  refine ⟨t, ht, ?_⟩
  cases hn : t.fetchNeeded <;> simp only [hn, Board.issue] at he <;> cases he <;> exact ⟨rfl, rfl⟩

namespace Scene

variable {σ δ : Type} {env : Backend σ δ}

/-- The turns on the agenda that concern one thing. -/
def turnsOf (s : Scene σ δ) (k : Turn.Kind) : List Turn :=
  s.agenda.turns.filter fun t => t.kind = k

theorem turnsOf_of_perm {s t : Scene σ δ} {turn : Turn}
    (h : t.agenda.turns.Perm (turn :: s.agenda.turns)) (k : Turn.Kind) :
    (t.turnsOf k).Perm (if turn.kind = k then turn :: s.turnsOf k else s.turnsOf k) := by
  have filtered := h.filter fun u => u.kind = k
  by_cases hk : turn.kind = k <;> simpa [turnsOf, List.filter_cons, hk] using filtered

theorem turnsOf_post (s : Scene σ δ) (turn : Turn) (k : Turn.Kind) :
    ((s.post turn).turnsOf k).Perm
      (if turn.kind = k then turn :: s.turnsOf k else s.turnsOf k) :=
  turnsOf_of_perm (Agenda.turns_post s.agenda turn) k

theorem turnsOf_sleep (s : Scene σ δ) (ms : Nat) (turn : Turn) (k : Turn.Kind) :
    ((s.sleep ms turn).turnsOf k).Perm
      (if turn.kind = k then turn :: s.turnsOf k else s.turnsOf k) :=
  turnsOf_of_perm (Agenda.turns_sleep s.agenda ms turn) k

theorem turnsOf_post_of_ne (s : Scene σ δ) {turn : Turn} {k : Turn.Kind} (hk : turn.kind ≠ k) :
    ((s.post turn).turnsOf k).Perm (s.turnsOf k) := by
  simpa [hk] using s.turnsOf_post turn k

theorem turnsOf_sleep_of_ne (s : Scene σ δ) (ms : Nat) {turn : Turn} {k : Turn.Kind}
    (hk : turn.kind ≠ k) : ((s.sleep ms turn).turnsOf k).Perm (s.turnsOf k) := by
  simpa [hk] using s.turnsOf_sleep ms turn k

/-! ## What does not concern the board -/

/-- Board and search box stay, and the only new turns are of one kind. -/
structure Aside (k : Turn.Kind) (s t : Scene σ δ) : Prop where
  board : t.board = s.board
  search : t.search = s.search
  turns : ∃ new, t.agenda.turns.Perm (new ++ s.agenda.turns) ∧ ∀ u ∈ new, u.kind = k

namespace Aside

variable {j k : Turn.Kind} {s t u : Scene σ δ}

theorem of_agenda (board : t.board = s.board) (search : t.search = s.search)
    (agenda : t.agenda = s.agenda) : Aside k s t :=
  ⟨board, search, [], by simp [agenda], by simp⟩

theorem trans (h : Aside k s t) (g : Aside k t u) : Aside k s u := by
  obtain ⟨new, perm, kinds⟩ := h.turns
  obtain ⟨newer, perm', kinds'⟩ := g.turns
  refine ⟨g.board.trans h.board, g.search.trans h.search, newer ++ new, ?_, ?_⟩
  · rw [List.append_assoc]
    exact perm'.trans (perm.append_left newer)
  · intro v hv
    exact (List.mem_append.1 hv).elim (kinds' v) (kinds v)

theorem post (h : Aside k s t) {turn : Turn} (hk : turn.kind = k) : Aside k s (t.post turn) :=
  h.trans ⟨rfl, rfl, [turn], Agenda.turns_post t.agenda turn, by simpa using hk⟩

theorem sleep (h : Aside k s t) (ms : Nat) {turn : Turn} (hk : turn.kind = k) :
    Aside k s (t.sleep ms turn) :=
  h.trans ⟨rfl, rfl, [turn], Agenda.turns_sleep t.agenda ms turn, by simpa using hk⟩

/-- The turns of every other kind stay. -/
theorem turnsOf (h : Aside k s t) (hj : j ≠ k) : (t.turnsOf j).Perm (s.turnsOf j) := by
  obtain ⟨new, perm, kinds⟩ := h.turns
  have none : new.filter (fun u => u.kind = j) = [] := by
    simp only [List.filter_eq_nil_iff, decide_eq_true_eq]
    exact fun u hu e => hj (e.symm.trans (kinds u hu))
  simpa [Scene.turnsOf, none] using perm.filter fun u => u.kind = j

end Aside

section View

variable (s : Scene σ δ) (number : Nat) (id : String)

theorem finishSelect_aside (r : DetailResult) : Aside .view s (s.finishSelect number r) :=
  .of_agenda rfl rfl rfl

theorem askSummary_aside : Aside .view s (s.askSummary env number id) := by
  unfold askSummary
  dsimp only
  split
  · exact .of_agenda rfl rfl rfl
  · refine .sleep (.of_agenda ?_ ?_ ?_) _ ?_ <;> rfl

theorem takeDetail_aside (o : Except Failure IncidentDetail) :
    Aside .view s (s.takeDetail env number id o) := by
  cases o with
  | ok d => exact s.finishSelect_aside number _
  | error f => exact s.askSummary_aside number id

theorem openSelect_aside : Aside .view s (s.openSelect env number id) := by
  unfold openSelect
  split
  · exact .of_agenda rfl rfl rfl
  · dsimp only
    split
    · refine .trans (.of_agenda ?_ ?_ ?_) (takeDetail_aside _ number id _) <;> rfl
    · refine .sleep (.of_agenda ?_ ?_ ?_) _ ?_ <;> rfl

theorem finishLookup_aside (o : Except Failure UserProfile) :
    Aside .caller s (s.finishLookup number o) := by
  refine .post (.of_agenda ?_ ?_ ?_) ?_ <;> rfl

theorem openLookup_aside : Aside .caller s (s.openLookup env number id) := by
  unfold openLookup
  dsimp only
  split
  · refine .trans (.of_agenda ?_ ?_ ?_) (finishLookup_aside _ number _) <;> rfl
  · refine .sleep (.of_agenda ?_ ?_ ?_) _ ?_ <;> rfl

theorem settleLookup_aside : Aside .caller s s.settleLookup := by
  unfold settleLookup
  dsimp only
  split
  · refine .post (.of_agenda ?_ ?_ ?_) ?_ <;> rfl
  · exact .of_agenda rfl rfl rfl

end View

/-! ## Steps -/

/-- The fetch that an action issues. -/
def issues (s : Scene σ δ) (a : Action) : History :=
  match s.board.dispatch a with
  | .ok (_, some f) => [.issued f]
  | _ => []

/-- What a turn does to fetches. -/
def turnEvents (env : Backend σ δ) (s : Scene σ δ) : Turn → History
  | .searchFires ticket =>
    match (s.search.fire ticket).2 with
    | some term => s.issues (.setSearch term)
    | none => []
  | .fetchOpens f =>
    let reply := (env.provider.list s.source f.query).1
    .asked f reply :: if reply.after = 0 then [.arrived f reply.outcome] else []
  | .fetchReturns f outcome => [.arrived f outcome]
  | _ => []

/-- A turn was taken from the agenda, and nothing else happened. -/
structure Takes (s : Scene σ δ) (turn : Turn) (u : Scene σ δ) : Prop where
  scene : u = { s with agenda := u.agenda }
  turns : s.agenda.turns.Perm (turn :: u.agenda.turns)

theorem Takes.next {s : Scene σ δ} {limit : Option Nat} {turn : Turn} {rest : Agenda Turn}
    (h : s.agenda.next? limit = some (turn, rest)) : Takes s turn { s with agenda := rest } :=
  ⟨rfl, Agenda.turns_next h⟩

theorem Takes.board {s u : Scene σ δ} {turn : Turn} (take : Takes s turn u) :
    u.board = s.board := by
  rw [take.scene]

theorem Takes.search {s u : Scene σ δ} {turn : Turn} (take : Takes s turn u) :
    u.search = s.search := by
  rw [take.scene]

/-- One step, with what it does to fetches. A refused action changes nothing and is no step. -/
inductive Step (env : Backend σ δ) : Scene σ δ → History → Scene σ δ → Prop
  /-- An action is dispatched. -/
  | act {s t : Scene σ δ} (a : Action) (ok : s.dispatch a = .ok t) : Step env s (s.issues a) t
  /-- A search term is typed. -/
  | type (s : Scene σ δ) (term : Json) : Step env s [] (s.type term)
  /-- Any turn of the agenda is run. -/
  | turn {s u : Scene σ δ} {turn : Turn} (take : Takes s turn u) :
      Step env s (u.turnEvents env turn) (u.run env turn)
  /-- Something happens elsewhere, perhaps to the provider or to the clock. -/
  | elsewhere {s t : Scene σ δ} (aside : Aside .view s t) : Step env s [] t

/-- The scenes that steps lead to, with everything that happened to fetches on the way. -/
inductive Reaches (env : Backend σ δ) (s₀ : Scene σ δ) : History → Scene σ δ → Prop
  | start : Reaches env s₀ [] s₀
  | step {h k : History} {s t : Scene σ δ} (run : Reaches env s₀ h s) (step : Step env s k t) :
      Reaches env s₀ (h ++ k) t

/-! ## The effects of a step -/

/-- Everything that a step can do to the fetches of a board and their turns. -/
inductive FetchEffect (env : Backend σ δ) (s t : Scene σ δ) : History → Prop
  | none (board : t.board = s.board) (turns : (t.turnsOf .fetch).Perm (s.turnsOf .fetch)) :
      FetchEffect env s t []
  | issue (q : ListQuery) (board : t.board = s.board.fetchFor q)
      (turns : (t.turnsOf .fetch).Perm
        (.fetchOpens ⟨s.board.latest + 1, q⟩ :: s.turnsOf .fetch)) :
      FetchEffect env s t [.issued ⟨s.board.latest + 1, q⟩]
  | ask (f : Fetch) (source : σ) (rest : List Turn)
      (before : (s.turnsOf .fetch).Perm (.fetchOpens f :: rest)) (board : t.board = s.board)
      (after : (t.turnsOf .fetch).Perm
        (.fetchReturns f (env.provider.list source f.query).1.outcome :: rest)) :
      FetchEffect env s t [.asked f (env.provider.list source f.query).1]
  /-- The provider is asked and answers at once. -/
  | answer (f : Fetch) (source : σ) (rest : List Turn)
      (before : (s.turnsOf .fetch).Perm (.fetchOpens f :: rest))
      (board : t.board = s.board.complete f (env.provider.list source f.query).1.outcome)
      (after : (t.turnsOf .fetch).Perm (.fetchRetires f :: rest)) :
      FetchEffect env s t [.asked f (env.provider.list source f.query).1,
        .arrived f (env.provider.list source f.query).1.outcome]
  | arrive (f : Fetch) (o : Except Failure IncidentsPage) (rest : List Turn)
      (before : (s.turnsOf .fetch).Perm (.fetchReturns f o :: rest))
      (board : t.board = s.board.complete f o)
      (after : (t.turnsOf .fetch).Perm (.fetchRetires f :: rest)) :
      FetchEffect env s t [.arrived f o]
  | retire (f : Fetch) (before : (s.turnsOf .fetch).Perm (.fetchRetires f :: t.turnsOf .fetch))
      (board : t.board = s.board.retire f) : FetchEffect env s t []

/-- Everything that a step can do to the search term that waits and its turns. -/
inductive SearchEffect (s t : Scene σ δ) : Prop
  | none (search : t.search = s.search) (turns : (t.turnsOf .search).Perm (s.turnsOf .search))
  | call (term : Json) (search : t.search = s.search.call term)
      (turns : (t.turnsOf .search).Perm
        (.searchOpens (s.search.tickets + 1) :: s.turnsOf .search))
  | opens (ticket : Nat) (rest : List Turn)
      (before : (s.turnsOf .search).Perm (.searchOpens ticket :: rest))
      (search : t.search = s.search)
      (after : (t.turnsOf .search).Perm (.searchFires ticket :: rest))
  | fires (ticket : Nat)
      (before : (s.turnsOf .search).Perm (.searchFires ticket :: t.turnsOf .search))
      (search : t.search = (s.search.fire ticket).1)

theorem dispatch_cases {s t : Scene σ δ} {a : Action} (h : s.dispatch a = .ok t) :
    (t = s ∧ s.issues a = []) ∨
      ∃ q, t = { s with board := s.board.fetchFor q }.post (.fetchOpens ⟨s.board.latest + 1, q⟩) ∧
        s.issues a = [.issued ⟨s.board.latest + 1, q⟩] := by
  obtain ⟨⟨c, fetch⟩, hd, he⟩ := Failure.map_eq_ok_iff.1 h
  rcases Board.dispatch_cases hd with ⟨rfl, rfl⟩ | ⟨q, rfl, rfl⟩
  · exact .inl ⟨he.symm, by simp [issues, hd]⟩
  · exact .inr ⟨q, he.symm, by simp [issues, hd]⟩

theorem fireSearch_cases (env : Backend σ δ) (s : Scene σ δ) (ticket : Nat) :
    let fired := { s with search := (s.search.fire ticket).1 }
    let events := s.turnEvents env (.searchFires ticket)
    (s.fireSearch ticket = fired ∧ events = []) ∨
      ∃ q, s.fireSearch ticket = { fired with board := s.board.fetchFor q }.post
          (.fetchOpens ⟨s.board.latest + 1, q⟩) ∧
        events = [.issued ⟨s.board.latest + 1, q⟩] := by
  cases hf : (s.search.fire ticket).2 with
  | none => exact .inl ⟨by simp [fireSearch, hf], by simp [turnEvents, hf]⟩
  | some term =>
    let fired := { s with search := (s.search.fire ticket).1 }
    have events : s.turnEvents env (.searchFires ticket) = fired.issues (.setSearch term) := by
      simp [turnEvents, hf, issues, fired]
    cases hd : fired.dispatch (.setSearch term) with
    | error f =>
      have refused : fired.issues (.setSearch term) = [] := by
        cases hb : fired.board.dispatch (.setSearch term) with
        | error f => simp [issues, hb]
        | ok b => simp [dispatch, hb, Except.map] at hd
      exact .inl ⟨by simp [fireSearch, hf, hd, fired], events.trans refused⟩
    | ok t =>
      have result : s.fireSearch ticket = t := by simp [fireSearch, hf, hd, fired]
      rcases dispatch_cases hd with ⟨rfl, none⟩ | ⟨q, rfl, issued⟩
      · exact .inl ⟨result, events.trans none⟩
      · exact .inr ⟨q, result, events.trans issued⟩

theorem run_aside (s : Scene σ δ) {turn : Turn} (hk : turn.kind = .view ∨ turn.kind = .caller) :
    Aside turn.kind s (s.run env turn) := by
  cases turn with
  | selectOpens number id => exact s.openSelect_aside number id
  | detailReturns number id o => exact s.takeDetail_aside number id o
  | summaryReturns number id o => exact s.finishSelect_aside number _
  | lookupOpens number id => exact s.openLookup_aside number id
  | lookupReturns number o => exact s.finishLookup_aside number o
  | lookupSettles => exact s.settleLookup_aside
  | callerResumes => exact .of_agenda rfl rfl rfl
  | _ => simp [Turn.kind] at hk

/-- A turn leaves the turns of other kinds alone; only a search term may lead to a fetch. -/
theorem run_turnsOf (u : Scene σ δ) {turn : Turn} {j : Turn.Kind} (hj : turn.kind ≠ j)
    (hf : j ≠ .fetch) : ((u.run env turn).turnsOf j).Perm (u.turnsOf j) := by
  cases turn with
  | searchOpens ticket =>
    simp only [run, openSearch]
    split
    · exact turnsOf_sleep_of_ne u _ hj
    · exact turnsOf_post_of_ne u hj
  | searchFires ticket =>
    change ((u.fireSearch ticket).turnsOf j).Perm _
    rcases fireSearch_cases env u ticket with ⟨fired, -⟩ | ⟨q, fired, -⟩ <;> rw [fired]
    · exact .refl _
    · exact turnsOf_post_of_ne _ hf.symm
  | fetchOpens f =>
    simp only [run, openFetch]
    split
    · exact turnsOf_post_of_ne _ hj
    · exact turnsOf_sleep_of_ne _ _ hj
  | fetchReturns f o => exact turnsOf_post_of_ne _ hj
  | fetchRetires f => exact .refl _
  | _ => exact (run_aside u (by simp [Turn.kind])).turnsOf hj.symm

theorem run_search (u : Scene σ δ) {turn : Turn} (hk : turn.kind ≠ .search) :
    (u.run env turn).search = u.search := by
  cases turn with
  | searchOpens ticket => exact absurd rfl hk
  | searchFires ticket => exact absurd rfl hk
  | fetchOpens f =>
    simp only [run, openFetch]
    split <;> rfl
  | fetchReturns f o => rfl
  | fetchRetires f => rfl
  | _ => exact (run_aside u (by simp [Turn.kind])).search

variable {s t u : Scene σ δ} {turn : Turn} {k : History}

theorem Takes.turnsOf_of_ne {j : Turn.Kind} (take : Takes s turn u) (hj : turn.kind ≠ j) :
    (s.turnsOf j).Perm (u.turnsOf j) := by
  simpa [hj] using turnsOf_of_perm take.turns j

theorem Takes.fetchEffect (take : Takes s turn u) :
    FetchEffect env s (u.run env turn) (u.turnEvents env turn) := by
  have before := turnsOf_of_perm take.turns .fetch
  have latest : u.board.latest = s.board.latest := by rw [take.board]
  cases turn with
  | searchOpens ticket =>
    have opened : Aside .search u (u.openSearch ticket) := by
      unfold openSearch
      split
      · exact .sleep (.of_agenda rfl rfl rfl) _ rfl
      · exact .post (.of_agenda rfl rfl rfl) rfl
    exact .none (opened.board.trans take.board)
      ((opened.turnsOf (by simp)).trans (take.turnsOf_of_ne (by simp [Turn.kind])).symm)
  | searchFires ticket =>
    change FetchEffect env s (u.fireSearch ticket) _
    rcases fireSearch_cases env u ticket with ⟨fired, none⟩ | ⟨q, fired, one⟩
    · rw [fired, none]
      exact .none take.board before.symm
    · rw [fired, one, latest]
      refine .issue q (congrArg (·.fetchFor q) take.board) ?_
      exact (turnsOf_post _ _ .fetch).trans (before.symm.cons _)
  | fetchOpens f =>
    change FetchEffect env s (u.openFetch env f) _
    by_cases now : (env.provider.list u.source f.query).1.after = 0
    · simp only [openFetch, turnEvents, now, if_true]
      refine .answer f u.source _ before ?_ (turnsOf_post _ _ .fetch)
      rw [← take.board]
      rfl
    · simp only [openFetch, turnEvents, now, if_false]
      exact .ask f u.source _ before take.board (turnsOf_sleep _ _ _ .fetch)
  | fetchReturns f o =>
    exact .arrive f o _ before (congrArg (·.complete f o) take.board) (turnsOf_post _ _ .fetch)
  | fetchRetires f => exact .retire f before (congrArg (·.retire f) take.board)
  | _ =>
    refine .none ((run_aside u (by simp [Turn.kind])).board.trans take.board) ?_
    exact ((run_aside u (by simp [Turn.kind])).turnsOf (by simp [Turn.kind])).trans
      (take.turnsOf_of_ne (by simp [Turn.kind])).symm

theorem Step.fetchEffect (step : Step env s k t) : FetchEffect env s t k := by
  cases step with
  | act a ok =>
    rcases dispatch_cases ok with ⟨rfl, none⟩ | ⟨q, rfl, issued⟩
    · exact none ▸ .none rfl (.refl _)
    · exact issued ▸ .issue q rfl (turnsOf_post _ _ .fetch)
  | type term => exact .none rfl (turnsOf_post _ _ .fetch)
  | turn take => exact take.fetchEffect
  | elsewhere aside => exact .none aside.board (aside.turnsOf (by decide))

theorem Takes.searchEffect (take : Takes s turn u) : SearchEffect s (u.run env turn) := by
  have before := turnsOf_of_perm take.turns .search
  cases turn with
  | searchOpens ticket =>
    change SearchEffect s (u.openSearch ticket)
    unfold openSearch
    split
    · exact .opens ticket _ before take.search (turnsOf_sleep _ _ _ .search)
    · exact .opens ticket _ before take.search (turnsOf_post _ _ .search)
  | searchFires ticket =>
    change SearchEffect s (u.fireSearch ticket)
    rcases fireSearch_cases env u ticket with ⟨fired, -⟩ | ⟨q, fired, -⟩ <;> rw [fired]
    · exact .fires ticket before (by rw [take.search])
    · refine .fires ticket (before.trans (.cons _ ?_)) (congrArg (·.fire ticket |>.1) take.search)
      exact (turnsOf_post_of_ne _ (by simp [Turn.kind])).symm
  | _ =>
    refine .none ((run_search u (by simp [Turn.kind])).trans take.search) ?_
    exact (run_turnsOf u (by simp [Turn.kind]) (by decide)).trans
      (take.turnsOf_of_ne (by simp [Turn.kind])).symm

theorem Step.searchEffect (step : Step env s k t) : SearchEffect s t := by
  cases step with
  | act a ok =>
    rcases dispatch_cases ok with ⟨rfl, -⟩ | ⟨q, rfl, -⟩
    · exact .none rfl (.refl _)
    · exact .none rfl (turnsOf_post_of_ne _ (by simp [Turn.kind]))
  | type term => exact .call term rfl (turnsOf_post _ _ .search)
  | turn take => exact take.searchEffect
  | elsewhere aside => exact .none aside.search (aside.turnsOf (by decide))

theorem Takes.kind_ne_caller (take : Takes s turn u) (free : s.turnsOf .caller = []) :
    turn.kind ≠ .caller := by
  intro hk
  have member : turn ∈ s.turnsOf .caller := by simp [turnsOf, take.turns.mem_iff, hk]
  simp [free] at member

theorem Takes.callerTurns (take : Takes s turn u) (free : s.turnsOf .caller = []) :
    (u.run env turn).turnsOf .caller = [] := by
  have hk := take.kind_ne_caller free
  have left : (u.turnsOf .caller).Perm [] := free ▸ (take.turnsOf_of_ne hk).symm
  exact ((run_turnsOf u hk (by decide)).trans left).eq_nil

/-- No step makes a caller wait. -/
theorem Step.callerTurns (step : Step env s k t) (free : s.turnsOf .caller = []) :
    t.turnsOf .caller = [] := by
  cases step with
  | act a ok =>
    rcases dispatch_cases ok with ⟨rfl, -⟩ | ⟨q, rfl, -⟩
    · exact free
    · exact (free ▸ turnsOf_post_of_ne _ (by simp [Turn.kind])).eq_nil
  | type term => exact (free ▸ turnsOf_post_of_ne _ (by simp [Turn.kind])).eq_nil
  | turn take => exact take.callerTurns free
  | elsewhere aside => exact (free ▸ aside.turnsOf (by decide)).eq_nil

end Scene

end IncidentBoard
