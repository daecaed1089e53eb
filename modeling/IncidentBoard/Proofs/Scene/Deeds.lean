import IncidentBoard.Debouncer.Timeline
import IncidentBoard.Proofs.Agenda.Timing
import IncidentBoard.Proofs.Debouncer.Log
import IncidentBoard.Proofs.Query.Fetches
import IncidentBoard.Proofs.Runs
import IncidentBoard.Proofs.Scene.Run

/-!
# What is done at a board

A scene of which only the list is used, in time: actions are dispatched and search terms are typed
at any points of time, turns are run in the order in which they are due, and the clock moves on when
none is. What is done is recorded with its times, the search terms that count included.

## Main definitions

* `Deed`, `Deeds.actions`, `Deeds.searches` — what is done, as actions and as a log of the search
  box.
* `Agenda.Queues` — the calls that are still to be made, first come, first served.
* `Scene.Elapses`, `Scene.Goes` — what happens of itself: turns that are due, and time.
* `Scene.Move`, `Scene.Plays` — the same with actions that come and terms that are typed.
-/

namespace IncidentBoard

/-! ## Deeds -/

/-- What is done at a board. -/
inductive Deed where
  /-- An action was dispatched. -/
  | acted (a : Action)
  /-- A search term was typed. -/
  | typed (term : Json)
  /-- The quiet time of a search term was over. -/
  | searched (term : Json)
  deriving Repr

/-- What was done, in order and with its times. -/
abbrev Deeds := List (Deed × Nat)

namespace Deeds

/-- The action that a deed dispatches. -/
def action? : Deed × Nat → Option Action
  | (.acted a, _) => some a
  | (.typed _, _) => none
  | (.searched v, _) => some (.setSearch v)

/-- What a deed is to the search box. -/
def search? : Deed × Nat → Option (Debouncer.Event Json × Nat)
  | (.acted _, _) => none
  | (.typed v, time) => some (.called v, time)
  | (.searched v, time) => some (.delivered v, time)

/-- The actions dispatched, a search term when it counts. -/
def actions (deeds : Deeds) : List Action := deeds.filterMap action?

/-- The log of the search box. -/
def searches (deeds : Deeds) : Debouncer.Log Json := deeds.filterMap search?

variable (deeds : Deeds) (a : Action) (v : Json) (time : Nat)

@[simp] theorem actions_acted : actions (deeds ++ [(.acted a, time)]) = deeds.actions ++ [a] := by
  simp [actions, action?]

@[simp] theorem actions_typed : actions (deeds ++ [(.typed v, time)]) = deeds.actions := by
  simp [actions, action?]

@[simp] theorem actions_searched :
    actions (deeds ++ [(.searched v, time)]) = deeds.actions ++ [.setSearch v] := by
  simp [actions, action?]

@[simp] theorem searches_acted : searches (deeds ++ [(.acted a, time)]) = deeds.searches := by
  simp [searches, search?]

@[simp] theorem searches_typed :
    searches (deeds ++ [(.typed v, time)]) = deeds.searches ++ [(.called v, time)] := by
  simp [searches, search?]

@[simp] theorem searches_searched :
    searches (deeds ++ [(.searched v, time)]) = deeds.searches ++ [(.delivered v, time)] := by
  simp [searches, search?]

end Deeds

/-! ## The turns of a board -/

namespace Turn

/-- The call that a turn makes for the list. -/
def call? : Turn → Option Request
  | .fetchOpens f => some (.list f.query)
  | _ => none

/-- What a turn is to the search box. -/
def search? : Turn → Option Timeline.Turn
  | .searchOpens ticket => some (.opens ticket)
  | .searchFires ticket => some (.fires ticket)
  | _ => none

/-- A turn of the search box or of a fetch. -/
def OfBoard (turn : Turn) : Prop := turn.kind = .search ∨ turn.kind = .fetch

end Turn

/-- The calls that are still to be made are due, first come, first served, and nothing is on the
agenda but search terms and fetches. -/
structure Agenda.Queues (a : Agenda Turn) (calls : List Request) : Prop where
  ready : a.ready.filterMap Turn.call? = calls
  asleep : ∀ x ∈ a.sleeping, x.2.call? = none
  board : ∀ turn ∈ a.turns, turn.OfBoard

namespace Agenda.Queues

variable {a : Agenda Turn} {calls : List Request} {turn : Turn}

theorem post (Q : Queues a calls) (board : turn.OfBoard) :
    Queues (a.post turn) (calls ++ turn.call?.toList) where
  ready := by
    rw [← Q.ready]
    cases call : turn.call? <;> simp [Agenda.post, call]
  asleep := Q.asleep
  board t ht := by
    rcases List.mem_cons.1 ((Agenda.turns_post a turn).mem_iff.1 ht) with rfl | ht
    · exact board
    · exact Q.board t ht

theorem sleep (Q : Queues a calls) (ms : Nat) (board : turn.OfBoard) (none : turn.call? = none) :
    Queues (a.sleep ms turn) calls where
  ready := Q.ready
  asleep x hx := by
    rcases Agenda.mem_insert.1 hx with rfl | hx
    · exact none
    · exact Q.asleep x hx
  board t ht := by
    rcases List.mem_cons.1 ((Agenda.turns_sleep a ms turn).mem_iff.1 ht) with rfl | ht
    · exact board
    · exact Q.board t ht

theorem wake (Q : Queues a calls) (time : Nat) : Queues (a.wake time) calls where
  ready := by
    have woken : ((a.sleeping.takeWhile fun x => x.1 ≤ time).map (·.2)).filterMap Turn.call? =
        [] := by
      simp only [List.filterMap_eq_nil_iff, List.mem_map]
      rintro _ ⟨x, member, rfl⟩
      exact Q.asleep x ((List.takeWhile_sublist _).subset member)
    rw [Agenda.wake, List.filterMap_append, woken, List.append_nil, Q.ready]
  asleep x hx := Q.asleep x ((Agenda.wake_sleeping_sublist a time).subset hx)
  board := by
    rw [Agenda.turns_wake]
    exact Q.board

/-- The first turn that is due makes the first of the calls, if it makes one. -/
theorem take {rest : List Turn} (Q : Queues a calls) (due : a.ready = turn :: rest) :
    turn.OfBoard ∧ ∃ later, calls = turn.call?.toList ++ later ∧ Queues a.behind later := by
  have board := Q.board
  rw [Agenda.turns_behind due] at board
  refine ⟨board turn (.head _), _, ?_, rfl, Q.asleep, fun t ht => board t (.tail _ ht)⟩
  rw [← Q.ready, Agenda.behind, due]
  cases call : turn.call? <;> simp [call]

end Agenda.Queues

namespace Scene

variable {σ δ : Type}

/-! ## Runs -/

/-- An action is dispatched; a refused one changes nothing. -/
def attempt (s : Scene σ δ) (a : Action) : Scene σ δ :=
  match s.dispatch a with
  | .ok t => t
  | .error _ => s

/-- What a turn does: the end of a quiet time lets a term count if it still waits. -/
def turnDeeds (s : Scene σ δ) : Turn → Deeds
  | .searchFires ticket =>
    (s.search.fire ticket).2.toList.map fun v => (.searched v, s.agenda.now)
  | _ => []

/-- The first of the turns that are due was taken. -/
def taken (s : Scene σ δ) : Scene σ δ := { s with agenda := s.agenda.behind }

@[simp] theorem taken_source (s : Scene σ δ) : s.taken.source = s.source := rfl

@[simp] theorem taken_search (s : Scene σ δ) : s.taken.search = s.search := rfl

/-- What happens of itself, with the deeds that it adds. -/
inductive Elapses (env : Backend σ δ) : Scene σ δ → Deeds → Scene σ δ → Prop
  /-- The first turn that is due is run. -/
  | turn {s : Scene σ δ} {turn : Turn} {rest : List Turn} (due : s.agenda.ready = turn :: rest) :
      Elapses env s (s.taken.turnDeeds turn) (s.taken.run env turn)
  /-- Nothing is due, and time passes, at most to the next deadline. -/
  | pass {s : Scene σ δ} (time : Nat) (idle : s.agenda.IdleUntil time) :
      Elapses env s [] { s with agenda := s.agenda.wake time }

/-- What happens at all: of itself, or by what is done at any point of time. -/
inductive Move (env : Backend σ δ) : Scene σ δ → Deeds → Scene σ δ → Prop
  | act (s : Scene σ δ) (a : Action) : Move env s [(.acted a, s.agenda.now)] (s.attempt a)
  | type (s : Scene σ δ) (term : Json) : Move env s [(.typed term, s.agenda.now)] (s.type term)
  | alone {s t : Scene σ δ} {more : Deeds} (step : Elapses env s more t) : Move env s more t

/-- The scenes that a scene comes to of itself. -/
abbrev Goes (env : Backend σ δ) (s : Scene σ δ) : Deeds → Scene σ δ → Prop :=
  Runs (Elapses env) s

/-- The scenes that actions and search terms lead to, at any points of time. -/
abbrev Plays (env : Backend σ δ) (s₀ : Scene σ δ) : Deeds → Scene σ δ → Prop :=
  Runs (Move env) s₀

/-! ## Moves -/

/-- An action leaves everything as it is and needs no fetch, or puts the query that follows in
force and posts its fetch. -/
theorem attempt_cases (s : Scene σ δ) (a : Action) :
    let q := s.board.query
    let r := s.board.resetPage
    (s.attempt a = s ∧ q.follow r a = q ∧ q.fetches r [a] = []) ∨
      (s.attempt a = { s with board := s.board.fetchFor (q.follow r a) }.post
          (.fetchOpens ⟨s.board.latest + 1, q.follow r a⟩) ∧
        q.fetches r [a] = [q.follow r a]) := by
  dsimp only
  cases reduced : s.board.query.reduce s.board.resetPage a with
  | error f =>
    refine .inl ⟨?_, by simp [ListQuery.follow, reduced], by simp [ListQuery.fetches, reduced]⟩
    simp [attempt, dispatch, Board.dispatch, reduced, Except.map]
  | ok t =>
    have follow : s.board.query.follow s.board.resetPage a = t.query := by
      simp [ListQuery.follow, reduced]
    rw [follow]
    cases needed : t.fetchNeeded with
    | true =>
      refine .inr ⟨?_, by simp [ListQuery.fetches, reduced, needed]⟩
      simp [attempt, dispatch, Board.dispatch, reduced, needed, Except.map, Board.fetchFor,
        Board.issue]
    | false =>
      have same := ListQuery.reduce_of_not_fetchNeeded reduced needed
      refine .inl ⟨?_, same, by simp [ListQuery.fetches, reduced, needed]⟩
      simp [attempt, dispatch, Board.dispatch, reduced, needed, Except.map, same]

/-- The quiet time of a term is over: it counts as an action if it still waits. -/
theorem fireSearch_attempt (s : Scene σ δ) (ticket : Nat) :
    (∃ v, s.search.fire ticket = (s.search.cancel, some v) ∧
      s.fireSearch ticket = { s with search := s.search.cancel }.attempt (.setSearch v) ∧
      s.turnDeeds (.searchFires ticket) = [(.searched v, s.agenda.now)]) ∨
    (s.search.fire ticket = (s.search, none) ∧ s.fireSearch ticket = s ∧
      s.turnDeeds (.searchFires ticket) = []) := by
  rcases s.search.fire_cases ticket with ⟨v, -, fire⟩ | ⟨-, fire⟩
  · refine .inl ⟨v, fire, ?_, by simp [turnDeeds, fire]⟩
    simp only [fireSearch, fire]
    rfl
  · exact .inr ⟨fire, by simp [fireSearch, fire], by simp [turnDeeds, fire]⟩

variable {env : Backend σ δ} {s₀ s t : Scene σ δ} {deeds more : Deeds}

/-- A move in time is a step, or leaves the scene as it is. -/
theorem Move.step (move : Move env s more t) :
    t = s ∨ ∃ k, Step env s k t := by
  cases move with
  | act a =>
    cases h : s.dispatch a with
    | ok t => exact .inr ⟨_, by simpa [attempt, h] using Step.act a h⟩
    | error f => exact .inl (by simp [attempt, h])
  | type term => exact .inr ⟨_, .type s term⟩
  | alone step =>
    cases step with
    | turn due =>
      have take : Takes s _ s.taken := ⟨rfl, .of_eq (Agenda.turns_behind due)⟩
      exact .inr ⟨_, .turn take⟩
    | pass _ idle =>
      refine .inr ⟨_, .elsewhere ⟨rfl, rfl, [], ?_, by simp⟩⟩
      exact .of_eq (Agenda.turns_wake _ _)

/-- A run in time is one of those in which turns come in any order. -/
theorem Plays.reaches (run : Plays env s₀ deeds s) :
    ∃ h, Reaches env s₀ h s := by
  induction run with
  | start => exact ⟨[], .start⟩
  | step _ move ih =>
    obtain ⟨h, reached⟩ := ih
    rcases move.step with rfl | ⟨k, step⟩
    · exact ⟨h, reached⟩
    · exact ⟨_, reached.step step⟩

end Scene

end IncidentBoard
