import IncidentBoard.Proofs.Scene.Filtering

/-!
# The life of a scene

A scene lives on from one run of its page to the next, and what is under way at the end of a run is
given up: fetches whose outcomes never arrive. For what the list shows it is as if they were still
under way, and were never heard of again.

## Main definitions

* `Scene.Lives` — what happens in the life of a scene.
* `Board.Remembers` — a board with the fetches that were given up.
* `Scene.list_of_life` — the list shows the answer to the query in force, if the fetch issued last
  succeeded.
* `Scene.succeeds_iff_of_life` — whether it succeeded can be seen on the list.
-/

namespace IncidentBoard

namespace History

/-- Every list call that succeeded was answered from some incidents. -/
def AnsweredFrom (xs : List Incident) (h : History) : Prop :=
  ∀ f reply page, .asked f reply ∈ h → reply.outcome = .ok page → page = f.query.answer xs

/-- The fetch issued last has arrived, with success. -/
def Succeeds (h : History) : Prop := ∃ f page, h.lastIssued = some f ∧ .arrived f (.ok page) ∈ h

variable {h : History}

/-- It stays so until the next fetch is issued. -/
theorem Succeeds.append {k : History} (succeeds : h.Succeeds) (none : k.issued = []) :
    Succeeds (h ++ k) := by
  obtain ⟨f, page, last, arrived⟩ := succeeds
  have same : lastIssued (h ++ k) = h.lastIssued := by simp [lastIssued, none]
  exact ⟨f, page, same ▸ last, List.mem_append_left _ arrived⟩

end History

/-- Every list call that succeeds is answered from some incidents. -/
def Provider.AnswersFrom {σ : Type} (p : Provider σ) (xs : List Incident) : Prop :=
  ∀ source q page, (p.list source q).1.outcome = .ok page → page = q.answer xs

/-- A list that shows a page, and neither waits for another one nor tells of a failure. -/
structure ListState.Settled (l : ListState) : Prop where
  query : l.query.isSome
  loading : l.loading = false
  error : l.error = none

theorem ListState.Settled.ofPage (q : ListQuery) (page : IncidentsPage) :
    (ListState.ofPage q page).Settled :=
  ⟨rfl, rfl, rfl⟩

namespace Board

variable {σ δ : Type} {env : Backend σ δ} {h : History} {b : Board} {turns : List Turn}
  {f : Fetch} {o : Except Failure IncidentsPage}

/-- The board with fetches under way that were given up. -/
def haunted (b : Board) (lost : List Fetch) : Board := { b with inFlight := lost ++ b.inFlight }

/-- A board and the turns of its fetches, together with what was given up, are those that a history
leads to. -/
def Remembers (env : Backend σ δ) (h : History) (b : Board) (turns : List Turn) : Prop :=
  ∃ lost dropped, Tracks env h (b.haunted lost) (turns ++ dropped)

theorem haunted_complete (b : Board) (lost : List Fetch) (f : Fetch)
    (o : Except Failure IncidentsPage) :
    (b.haunted lost).complete f o = (b.complete f o).haunted lost := by
  unfold complete haunted
  dsimp only
  split
  · rfl
  · cases o <;> rfl

theorem haunted_fetchFor (b : Board) (lost : List Fetch) (q : ListQuery) :
    (b.haunted lost).fetchFor q = (b.fetchFor q).haunted lost := by
  simp [haunted, fetchFor, issue]

theorem haunted_retire (b : Board) (lost : List Fetch) (f : Fetch) :
    (b.haunted lost).retire f = (b.retire f).haunted (lost.filter (·.token ≠ f.token)) := by
  simp [haunted, retire]

/-- Where an outcome arrives, only the success of the fetch issued last settles the list. -/
theorem Tracks.succeeds_of_arrival (T : Tracks env h b (.fetchReturns f o :: turns))
    (before : b.list.Settled → h.Succeeds) (settled : (b.complete f o).list.Settled) :
    History.Succeeds (h ++ [.arrived f o]) := by
  by_cases latest : h.lastIssued = some f
  · cases o with
    | ok page => exact ⟨f, page, by simpa using latest, by simp⟩
    | error e =>
      have failed := settled.error
      simp [complete, T.token_lastIssued latest, ListState.failed] at failed
  · rw [T.complete_of_superseded latest] at settled
    exact (before settled).append rfl

end Board

namespace Scene

variable {σ δ : Type} {env : Backend σ δ} {h k : History} {s t : Scene σ δ}

/-! ## Lives -/

/-- What happens in the life of a scene: it goes on, or what is under way is given up. -/
inductive Lives (env : Backend σ δ) : Scene σ δ → History → Scene σ δ → Prop
  | onward {s t : Scene σ δ} {k : History} (next : Onward env s k t) : Lives env s k t
  | abandon (s : Scene σ δ) : Lives env s [] s.abandon

/-- Whatever happens to fetches, those that were given up stay so. -/
theorem FetchEffect.remembers (effect : FetchEffect env s t k)
    (R : s.board.Remembers env h (s.turnsOf .fetch)) :
    t.board.Remembers env (h ++ k) (t.turnsOf .fetch) := by
  obtain ⟨lost, dropped, T⟩ := R
  cases effect with
  | none board turns =>
    rw [board, List.append_nil]
    exact ⟨lost, dropped, T.congr (turns.append_right _)⟩
  | issue q board turns =>
    refine ⟨lost, dropped, ?_⟩
    rw [board, ← Board.haunted_fetchFor]
    exact (T.issue q).congr (turns.append_right _)
  | ask f source rest before board after =>
    refine ⟨lost, dropped, ?_⟩
    rw [board]
    exact (T.congr (before.symm.append_right _)).ask.congr (after.append_right _)
  | answer f source rest before board after =>
    refine ⟨lost, dropped, ?_⟩
    rw [board, List.append_cons, ← Board.haunted_complete]
    exact (T.congr (before.symm.append_right _)).ask.arrive.congr (after.append_right _)
  | arrive f o rest before board after =>
    refine ⟨lost, dropped, ?_⟩
    rw [board, ← Board.haunted_complete]
    exact (T.congr (before.symm.append_right _)).arrive.congr (after.append_right _)
  | retire f before board =>
    refine ⟨lost.filter (·.token ≠ f.token), dropped, ?_⟩
    rw [board, List.append_nil, ← Board.haunted_retire]
    exact (T.congr (before.symm.append_right _)).retire

theorem Lives.remembers (step : Lives env s k t)
    (R : s.board.Remembers env h (s.turnsOf .fetch)) :
    t.board.Remembers env (h ++ k) (t.turnsOf .fetch) := by
  cases step with
  | onward next => exact next.fetchEffect.remembers R
  | abandon =>
    obtain ⟨lost, dropped, T⟩ := R
    rw [List.append_nil]
    -- what is given up now joins what was given up before
    refine ⟨lost ++ s.board.inFlight, s.turnsOf .fetch ++ dropped, ?_⟩
    have same : s.abandon.board.haunted (lost ++ s.board.inFlight) = s.board.haunted lost := by
      simp [Board.haunted, Scene.abandon, Board.abandon]
    rw [same]
    exact T

/-- Whatever happens to fetches, only the success of the one issued last settles the list. -/
theorem FetchEffect.succeeds (effect : FetchEffect env s t k)
    (R : s.board.Remembers env h (s.turnsOf .fetch)) (S : s.board.list.Settled → h.Succeeds)
    (settled : t.board.list.Settled) : History.Succeeds (h ++ k) := by
  obtain ⟨lost, dropped, T⟩ := R
  cases effect with
  | none board turns =>
    rw [board] at settled
    rw [List.append_nil]
    exact S settled
  | issue q board turns =>
    rw [board] at settled
    cases settled.loading
  | ask f source rest before board after =>
    rw [board] at settled
    exact (S settled).append rfl
  | answer f source rest before board after =>
    let outcome := (env.provider.list source f.query).1.outcome
    have asked : Board.Tracks env _ _ (.fetchReturns f outcome :: (rest ++ dropped)) :=
      (T.congr (before.symm.append_right _)).ask
    rw [board] at settled
    rw [List.append_cons]
    refine asked.succeeds_of_arrival (fun settled => (S settled).append rfl) ?_
    rw [Board.haunted_complete]
    exact settled
  | arrive f o rest before board after =>
    rw [board] at settled
    refine (T.congr (before.symm.append_right _)).succeeds_of_arrival S ?_
    rw [Board.haunted_complete]
    exact settled
  | retire f before board =>
    rw [board] at settled
    rw [List.append_nil]
    exact S settled

theorem FetchEffect.answeredFrom {xs : List Incident} (answers : env.provider.AnswersFrom xs)
    (effect : FetchEffect env s t k) : k.AnsweredFrom xs := by
  intro f reply page asked outcome
  cases effect with
  | ask g source rest before board after =>
    simp only [List.mem_singleton, FetchEvent.asked.injEq] at asked
    obtain ⟨rfl, rfl⟩ := asked
    exact answers source f.query page outcome
  | answer g source rest before board after =>
    simp only [List.mem_cons, FetchEvent.asked.injEq, reduceCtorEq, List.not_mem_nil,
      or_false] at asked
    obtain ⟨rfl, rfl⟩ := asked
    exact answers source f.query page outcome
  | _ => simp at asked

variable {source : σ} {people : δ} {q : ListQuery} {quietTime : Int} {resetPage : Bool}

/-- Along every life the board remembers its fetches. -/
theorem remembers_of_life
    (life : Runs (Lives env) (Scene.start source people q quietTime resetPage) h s) :
    s.board.Remembers env h (s.turnsOf .fetch) := by
  refine life.invariant (P := fun h s => s.board.Remembers env h (s.turnsOf .fetch)) ?_
    fun step R => step.remembers R
  have begun : Reaches env (Scene.start source people q quietTime resetPage) [] _ := .start
  exact ⟨[], [], begun.tracks⟩

/-- If the fetch issued last succeeded, the list shows the answer to the query in force. -/
theorem list_of_life {xs : List Incident}
    (life : Runs (Lives env) (Scene.start source people q quietTime resetPage) h s)
    (answered : h.AnsweredFrom xs) (succeeds : h.Succeeds) :
    s.board.list = .ofPage s.board.query (s.board.query.answer xs) := by
  obtain ⟨lost, dropped, T⟩ := remembers_of_life life
  obtain ⟨f, page, last, arrived⟩ := succeeds
  obtain ⟨source, asked, outcome⟩ := T.arrivals f _ arrived
  have query : f.query = s.board.query := T.query f last
  have shown : s.board.list = .ofPage f.query page := T.settled f page last arrived
  rw [shown, answered f _ page asked outcome, query]

/-- Whether the fetch issued last succeeded can be seen on the list. -/
theorem succeeds_iff_of_life
    (life : Runs (Lives env) (Scene.start source people q quietTime resetPage) h s) :
    h.Succeeds ↔ s.board.list.Settled := by
  constructor
  · rintro ⟨f, page, last, arrived⟩
    obtain ⟨lost, dropped, T⟩ := remembers_of_life life
    have shown : s.board.list = .ofPage f.query page := T.settled f page last arrived
    rw [shown]
    exact .ofPage f.query page
  -- the fetches are remembered on the way, as the one issued last is told by its token
  · refine (life.invariant (P := fun (h : History) s =>
      s.board.Remembers env h (s.turnsOf .fetch) ∧ (s.board.list.Settled → h.Succeeds)) ?_
        fun step ⟨R, S⟩ => ⟨step.remembers R, ?_⟩).2
    · exact ⟨remembers_of_life .start, fun settled => by cases settled.query⟩
    · cases step with
      | onward next => exact next.fetchEffect.succeeds R S
      | abandon =>
        rw [List.append_nil]
        exact S

/-- A provider that answers its list calls from some incidents does so in every life. -/
theorem answeredFrom_of_life {xs : List Incident} (answers : env.provider.AnswersFrom xs)
    (life : Runs (Lives env) s h t) : h.AnsweredFrom xs := by
  refine life.invariant (P := fun (h : History) _ => h.AnsweredFrom xs)
    (fun f reply page asked => by cases asked) fun step before f reply page asked => ?_
  rcases List.mem_append.1 asked with asked | asked
  · exact before f reply page asked
  · cases step with
    | onward next => exact next.fetchEffect.answeredFrom answers f reply page asked
    | abandon => cases asked

/-! ## What belongs to a life -/

/-- One scene comes to be another one in its life. -/
def LeadsTo (env : Backend σ δ) (s t : Scene σ δ) : Prop := ∃ k, Runs (Lives env) s k t

namespace LeadsTo

variable {u : Scene σ δ}

theorem refl (env : Backend σ δ) (s : Scene σ δ) : LeadsTo env s s := ⟨[], .start⟩

theorem trans (first : LeadsTo env s t) (second : LeadsTo env t u) : LeadsTo env s u := by
  obtain ⟨h, before⟩ := first
  obtain ⟨k, after⟩ := second
  exact ⟨h ++ k, before.trans after⟩

theorem of_step (step : Step env s k t) : LeadsTo env s t := ⟨k, .one (.onward (.step step))⟩

theorem of_aside (aside : Aside .view s t) : LeadsTo env s t := of_step (.elsewhere aside)

theorem of_drifts (drifts : Runs (Drift env) s k t) : LeadsTo env s t :=
  ⟨k, drifts.mono fun drift => .onward drift.onward⟩

theorem dispatch {a : Action} (accepted : s.dispatch a = .ok t) : LeadsTo env s t :=
  of_step (.act a accepted)

theorem type (env : Backend σ δ) (s : Scene σ δ) (term : Json) : LeadsTo env s (s.type term) :=
  of_step (.type s term)

theorem pause (env : Backend σ δ) (s : Scene σ δ) (ms : Nat) : LeadsTo env s (s.pause env ms) := by
  obtain ⟨k, drifts⟩ := pause_drifts env s ms
  exact of_drifts drifts

theorem waitIdle (env : Backend σ δ) (s : Scene σ δ) : LeadsTo env s (s.waitIdle env) := by
  obtain ⟨h, searched⟩ := runWhile_drifts env s (·.search.pending) none s.potential
  obtain ⟨k, fetched⟩ := runWhile_drifts env (s.waitSearch env) (·.board.fetching) none
    (s.waitSearch env).potential
  exact (of_drifts searched).trans (of_drifts fetched)

theorem commanderOptions (env : Backend σ δ) (s : Scene σ δ) :
    LeadsTo env s (s.commanderOptions env).2 := by
  obtain ⟨k, drifts⟩ := commanderOptions_drifts env s
  exact of_drifts drifts

theorem resolve (env : Backend σ δ) (s : Scene σ δ) (id : String) :
    LeadsTo env s (s.resolve env id).2 := by
  have asked (s : Scene σ δ) (source : σ) (ms : Nat) :
      LeadsTo env s ({ s with source := source }.pause env ms) := by
    have answered : LeadsTo env s { s with source := source } := of_aside (.of_agenda rfl rfl rfl)
    exact answered.trans (pause env _ ms)
  unfold Scene.resolve
  dsimp only
  split
  · exact asked s _ _
  · exact (asked s _ _).trans (asked _ _ _)

theorem select (env : Backend σ δ) (s : Scene σ δ) (id : String) :
    LeadsTo env s (s.select env id).2 := by
  unfold Scene.select
  split
  · exact refl env s
  · rename_i view begun
    have opened : LeadsTo env s { s with view := view } := of_aside (.of_agenda rfl rfl rfl)
    exact (opened.trans (resolve env _ id)).trans (of_aside (.of_agenda rfl rfl rfl))

end LeadsTo

end Scene

end IncidentBoard
