import IncidentBoard.Proofs.DetailView.Courses
import IncidentBoard.Proofs.Scene.Calls

/-!
# Selections in a scene

Selections are made in the background and by the caller, and the view is closed, in any order; any
turn that is on the agenda may be run, whatever its time. What happens to selections on the way is
kept in a log, and along every run the view, the calls of the provider and the answers follow from
the log.

## Main definitions

* `Scene.viewEvents` — what a turn does to selections.
* `Scene.ViewMove` — one move with what it does to selections.
* `Scene.Tells` — what every move preserves; `Scene.ViewMove.tells` — it does.
-/

namespace IncidentBoard

open Selection

/-- A call for one incident. -/
def Request.ofView : Request → Bool
  | .detail _ | .summary _ => true
  | _ => false

/-- A turn that brings the outcome of a call for one incident. -/
def Turn.returns : Turn → Bool
  | .detailReturns _ _ _ | .summaryReturns _ _ _ => true
  | _ => false

/-- The turn that a selection in the background waits for. -/
def Selection.Stage.turn? : Stage → Option Turn
  | .detail (some number) id outcome => some (.detailReturns number id outcome)
  | .summary (some number) id _ outcome => some (.summaryReturns number id outcome)
  | _ => none

namespace Scene

variable {σ δ : Type}

/-! ## Moves -/

/-- What happens when a selection in the background asks for the summary. -/
def summaryEvents (number : Nat) (id : String) (reply : Reply Incident) : Log :=
  .summaryAsked id reply.outcome :: if reply.after = 0 then
    [.summaryGiven id reply.outcome, .ended (some number) ⟨id, summaryResolution reply.outcome⟩]
  else []

/-- What happens when the details for a selection in the background come. -/
def detailEvents (env : Backend σ δ) (source : σ) (number : Nat) (id : String)
    (outcome : Except Failure IncidentDetail) : Log :=
  .detailGiven id outcome :: match outcome with
    | .ok d => [.ended (some number) ⟨id, .detail d⟩]
    | .error _ => summaryEvents number id (env.provider.summary source id).1

/-- What happens when a selection in the background begins. -/
def selectEvents (env : Backend σ δ) (s : Scene σ δ) (number : Nat) (id : String) : Log :=
  match s.view.begin? id with
  | .error f => [.refused (some number) id f]
  | .ok _ =>
    let (reply, source) := env.provider.detail s.source id
    .begun (some number) id :: .detailAsked id reply.outcome ::
      if reply.after = 0 then detailEvents env source number id reply.outcome else []

/-- What a turn does to selections. -/
def viewEvents (env : Backend σ δ) (s : Scene σ δ) : Turn → Log
  | .selectOpens number id => s.selectEvents env number id
  | .detailReturns number id outcome => detailEvents env s.source number id outcome
  | .summaryReturns number id outcome =>
    [.summaryGiven id outcome, .ended (some number) ⟨id, summaryResolution outcome⟩]
  | _ => []

/-- The calls for one incident that were made. -/
def viewCalls (s : Scene (σ × List Request) δ) : List Request := s.source.2.filter Request.ofView

/-- The turns that bring the outcome of a call for one incident. -/
def returns (s : Scene σ δ) : List Turn := (s.turnsOf .view).filter Turn.returns

/-- The detail view and its selections stay, and no call is made for one incident. -/
structure Elsewhere (s t : Scene (σ × List Request) δ) : Prop where
  view : t.view = s.view
  calls : t.viewCalls = s.viewCalls
  answers : t.answers = s.answers
  started : t.started = s.started
  turns : (t.turnsOf .view).Perm (s.turnsOf .view)

/-- One move of a scene and of the caller, with what it does to selections. The caller may be in
the middle of a selection of its own. -/
inductive ViewMove (env : Backend σ δ) : Scene (σ × List Request) δ × Option Stage → Log →
    Scene (σ × List Request) δ × Option Stage → Prop
  /-- A selection is to be made in the background. -/
  | start (s : Scene (σ × List Request) δ) (held : Option Stage) (id : String) :
      ViewMove env (s, held) [] (s.startSelect id, held)
  | close (s : Scene (σ × List Request) δ) (held : Option Stage) :
      ViewMove env (s, held) [.closed] (s.close, held)
  /-- Any turn of the agenda is run. -/
  | turn {s u : Scene (σ × List Request) δ} {turn : Turn} (held : Option Stage)
      (take : Takes s turn u) :
      ViewMove env (s, held) (u.viewEvents env.recorded turn) (u.run env.recorded turn, held)
  /-- The caller selects an incident and is refused. -/
  | refuse {s : Scene (σ × List Request) δ} {id : String} {f : Failure} (held : Option Stage)
      (refused : s.view.begin? id = .error f) :
      ViewMove env (s, held) [.refused none id f] (s, held)
  /-- The caller selects an incident and asks for its details. -/
  | call {s : Scene (σ × List Request) δ} {id : String} {view : DetailView}
      {reply : Reply IncidentDetail} {source : σ × List Request}
      (accepted : s.view.begin? id = .ok view)
      (asked : env.recorded.provider.detail s.source id = (reply, source)) :
      ViewMove env (s, none) [.begun none id, .detailAsked id reply.outcome]
        ({ s with view := view, source := source }, some (.detail none id reply.outcome))
  /-- The details come to the caller. -/
  | found (s : Scene (σ × List Request) δ) (id : String) (d : IncidentDetail) :
      ViewMove env (s, some (.detail none id (.ok d)))
        [.detailGiven id (.ok d), .ended none ⟨id, .detail d⟩]
        ({ s with view := s.view.finish ⟨id, .detail d⟩ }, none)
  /-- The details failed, and the caller asks for the summary. -/
  | missed {s : Scene (σ × List Request) δ} {id : String} {reply : Reply Incident}
      {source : σ × List Request} (f : Failure)
      (asked : env.recorded.provider.summary s.source id = (reply, source)) :
      ViewMove env (s, some (.detail none id (.error f)))
        [.detailGiven id (.error f), .summaryAsked id reply.outcome]
        ({ s with source := source }, some (.summary none id f reply.outcome))
  /-- The outcome of the summary comes to the caller. -/
  | told (s : Scene (σ × List Request) δ) (id : String) (f : Failure)
      (outcome : Except Failure Incident) :
      ViewMove env (s, some (.summary none id f outcome))
        [.summaryGiven id outcome, .ended none ⟨id, summaryResolution outcome⟩]
        ({ s with view := s.view.finish ⟨id, summaryResolution outcome⟩ }, none)
  /-- Something happens elsewhere, perhaps to the provider or to the clock. -/
  | elsewhere {s t : Scene (σ × List Request) δ} (held : Option Stage) (aside : Elsewhere s t) :
      ViewMove env (s, held) [] (t, held)

/-! ## What does not concern the view -/

variable {env : Backend σ δ} {s t u : Scene (σ × List Request) δ}

theorem returns_of_perm (turns : (t.turnsOf .view).Perm (s.turnsOf .view)) :
    t.returns.Perm s.returns :=
  turns.filter _

theorem viewCalls_append (s : Scene (σ × List Request) δ) (source : σ) (r : Request) :
    viewCalls { s with source := (source, s.source.2 ++ [r]) } =
      s.viewCalls ++ [r].filter Request.ofView := by
  simp [viewCalls, List.filter_append]

/-- A turn that does not concern the view leaves it and its selections alone. -/
theorem run_elsewhere (env : Backend σ δ) (u : Scene (σ × List Request) δ) {turn : Turn}
    (hk : turn.kind ≠ .view) :
    Elsewhere u (u.run env.recorded turn) ∧ u.viewEvents env.recorded turn = [] := by
  have turns : ((u.run env.recorded turn).turnsOf .view).Perm (u.turnsOf .view) :=
    run_turnsOf u hk (by decide)
  cases turn with
  | searchOpens ticket =>
    refine ⟨?_, rfl⟩
    simp only [run, openSearch] at turns ⊢
    split <;> exact ⟨rfl, rfl, rfl, rfl, by simpa [*] using turns⟩
  | searchFires ticket =>
    refine ⟨?_, rfl⟩
    change Elsewhere u (u.fireSearch ticket)
    change ((u.fireSearch ticket).turnsOf .view).Perm _ at turns
    rcases fireSearch_cases env.recorded u ticket with ⟨fired, -⟩ | ⟨q, fired, -⟩ <;>
      rw [fired] at turns ⊢ <;> exact ⟨rfl, rfl, rfl, rfl, turns⟩
  | fetchOpens f =>
    refine ⟨?_, rfl⟩
    have calls := viewCalls_append u (env.provider.list u.source.1 f.query).2 (.list f.query)
    rw [show [Request.list f.query].filter Request.ofView = [] from rfl, List.append_nil] at calls
    simp only [run, openFetch] at turns ⊢
    split <;> exact ⟨rfl, calls, rfl, rfl, by simpa [*] using turns⟩
  | fetchReturns f o => exact ⟨⟨rfl, rfl, rfl, rfl, turns⟩, rfl⟩
  | fetchRetires f => exact ⟨⟨rfl, rfl, rfl, rfl, turns⟩, rfl⟩
  | lookupOpens number id =>
    refine ⟨?_, rfl⟩
    simp only [run, openLookup] at turns ⊢
    split <;> exact ⟨rfl, rfl, rfl, rfl, by simpa [*] using turns⟩
  | lookupReturns number o => exact ⟨⟨rfl, rfl, rfl, rfl, turns⟩, rfl⟩
  | lookupSettles =>
    refine ⟨?_, rfl⟩
    simp only [run, settleLookup] at turns ⊢
    split <;> exact ⟨rfl, rfl, rfl, rfl, by simpa [*] using turns⟩
  | callerResumes => exact ⟨⟨rfl, rfl, rfl, rfl, turns⟩, rfl⟩
  | _ => exact absurd rfl hk

/-! ## What a run keeps -/

/-- A scene with the log that led to it: the view follows from the log, the calls and the answers
are those of the log, and a selection in progress is in hand or waits for its turn. The caller has
its own selections in hand, and a turn has one in hand while it runs. -/
structure Tells (log : Log) (finished : List Course) (current held : Option Stage)
    (s : Scene (σ × List Request) δ) : Prop where
  follows : Follows log finished current s.view
  calls : s.viewCalls = log.filterMap Event.call?
  answers : s.answers = log.filterMap Event.answer?
  place : (held = current ∧ s.returns = []) ∨
    held = none ∧ ∃ turn, current.bind Stage.turn? = some turn ∧ s.returns = [turn]

theorem returns_of_turn? {stage : Stage} {turn : Turn} (waits : stage.turn? = some turn) :
    turn.kind = .view ∧ turn.returns = true := by
  rcases stage with ⟨_ | number, id, o⟩ | ⟨_ | number, id, f, o⟩ <;> cases waits
  all_goals exact ⟨rfl, rfl⟩

namespace Tells

variable {log more : Log} {finished : List Course} {current held : Option Stage} {stage : Stage}
  {id : String}

theorem congr (T : Tells log finished current held s) (view : t.view = s.view)
    (calls : t.viewCalls = s.viewCalls) (answers : t.answers = s.answers)
    (returns : t.returns.Perm s.returns) : Tells log finished current held t := by
  refine ⟨view ▸ T.follows, calls.trans T.calls, answers.trans T.answers, ?_⟩
  rcases T.place with ⟨held, none⟩ | ⟨held, turn, waits, one⟩
  · exact .inl ⟨held, List.perm_nil.1 (none ▸ returns)⟩
  · exact .inr ⟨held, turn, waits, List.perm_singleton.1 (one ▸ returns)⟩

theorem elsewhere (T : Tells log finished current held s) (E : Elsewhere s t) :
    Tells log finished current held t :=
  T.congr E.view E.calls E.answers (returns_of_perm E.turns)

/-- While a selection is in hand, no turn brings the outcome of a call. -/
theorem returns_eq_nil (T : Tells log finished current current s) : s.returns = [] := by
  rcases T.place with ⟨-, none⟩ | ⟨held, turn, waits, -⟩
  · exact none
  · subst held
    cases waits

/-- A selection in hand is the one in progress. -/
theorem current_eq (T : Tells log finished current held s) (some : held = some stage) :
    current = .some stage := by
  rcases T.place with ⟨same, -⟩ | ⟨none, -⟩
  · exact same.symm.trans some
  · cases none.symm.trans some

/-- The log goes on with what happens. -/
theorem extend {next held' : Option Stage} {finished' : List Course}
    (T : Tells log finished current held s) (follows : Follows (log ++ more) finished' next t.view)
    (calls : t.viewCalls = s.viewCalls ++ more.filterMap Event.call?)
    (answers : t.answers = s.answers ++ more.filterMap Event.answer?)
    (place : (held' = next ∧ t.returns = []) ∨
      held' = none ∧ ∃ turn, next.bind Stage.turn? = some turn ∧ t.returns = [turn]) :
    Tells (log ++ more) finished' next held' t := by
  refine ⟨follows, ?_, ?_, place⟩
  · rw [List.filterMap_append, calls, T.calls]
  · rw [List.filterMap_append, answers, T.answers]

theorem close (T : Tells log finished current held s) :
    Tells (log ++ [.closed]) finished current held s.close :=
  T.extend T.follows.close (List.append_nil _).symm (List.append_nil _).symm T.place

theorem refuse (T : Tells log finished current held s) (id : String) (f : Failure) :
    Tells (log ++ [.refused none id f]) finished current held s :=
  T.extend (T.follows.aside rfl) (List.append_nil _).symm (List.append_nil _).symm T.place

theorem answerRefused (T : Tells log finished current held s) (number : Nat) (id : String)
    (f : Failure) :
    Tells (log ++ [.refused (some number) id f]) finished current held
      (s.answerSelect number (.error f)) :=
  T.extend (T.follows.aside rfl) (List.append_nil _).symm rfl T.place

/-- A selection is accepted, and its details are asked for. -/
theorem begins {view : DetailView} {reply : Reply IncidentDetail} {source : σ × List Request}
    (T : Tells log finished current held s) (accepted : s.view.begin? id = .ok view)
    (asked : env.recorded.provider.detail s.source id = (reply, source)) (number : Option Nat) :
    held = none ∧ Tells (log ++ [.begun number id, .detailAsked id reply.outcome]) finished
      (some (.detail number id reply.outcome)) (some (.detail number id reply.outcome))
      { s with view := view, source := source } := by
  obtain ⟨rfl, follows⟩ := T.follows.begins accepted number reply.outcome
  have free : held = none := T.place.elim And.left And.left
  subst free
  cases asked
  have calls := viewCalls_append s (env.provider.detail s.source.1 id).2 (.detail id)
  exact ⟨rfl, T.extend follows calls (List.append_nil _).symm (.inl ⟨rfl, T.returns_eq_nil⟩)⟩

/-- The details of a selection failed, and its summary is asked for. -/
theorem asks {number : Option Nat} {f : Failure} {reply : Reply Incident}
    {source : σ × List Request}
    (T : Tells log finished (some (.detail number id (.error f)))
      (some (.detail number id (.error f))) s)
    (asked : env.recorded.provider.summary s.source id = (reply, source)) :
    Tells (log ++ [.detailGiven id (.error f), .summaryAsked id reply.outcome]) finished
      (some (.summary number id f reply.outcome)) (some (.summary number id f reply.outcome))
      { s with source := source } := by
  cases asked
  have calls := viewCalls_append s (env.provider.summary s.source.1 id).2 (.summary id)
  exact T.extend (T.follows.advance rfl rfl rfl) calls (List.append_nil _).symm
    (.inl ⟨rfl, T.returns_eq_nil⟩)

/-- A selection in hand is over. -/
theorem ends (T : Tells log finished (some stage) (some stage) s) {c : Course}
    (events : c.events = stage.events ++ more) (kept : more.filter Event.ofCourse = more)
    (view : t.view = s.view.finish c.result)
    (calls : t.viewCalls = s.viewCalls ++ more.filterMap Event.call?)
    (answers : t.answers = s.answers ++ more.filterMap Event.answer?)
    (returns : t.returns = s.returns) : Tells (log ++ more) (finished ++ [c]) none none t :=
  T.extend (view ▸ T.follows.finish events kept) calls answers
    (.inl ⟨rfl, returns.trans T.returns_eq_nil⟩)

/-- A selection in hand is left to wait for its turn. -/
theorem parks {turn : Turn} (T : Tells log finished (some stage) (some stage) s)
    (waits : stage.turn? = some turn) (ms : Nat) :
    Tells log finished (some stage) none (s.sleep ms turn) := by
  obtain ⟨kind, returns⟩ := returns_of_turn? waits
  have turns := (turnsOf_sleep s ms turn .view).filter Turn.returns
  rw [if_pos kind, List.filter_cons_of_pos returns] at turns
  change (s.sleep ms turn).returns.Perm (turn :: s.returns) at turns
  rw [T.returns_eq_nil] at turns
  exact ⟨T.follows, T.calls, T.answers, .inr ⟨rfl, turn, waits, List.perm_singleton.1 turns⟩⟩

/-- The outcome of a call comes for the selection in progress, which waits for it. -/
theorem takes {turn : Turn} (T : Tells log finished current held s) (take : Takes s turn u)
    (kind : turn.kind = .view) (returns : turn.returns = true) :
    held = none ∧ current.bind Stage.turn? = some turn ∧ Tells log finished current current u := by
  have turns := (turnsOf_of_perm take.turns .view).filter Turn.returns
  rw [if_pos kind, List.filter_cons_of_pos returns] at turns
  change s.returns.Perm (turn :: u.returns) at turns
  rcases T.place with ⟨-, none⟩ | ⟨rfl, other, waits, one⟩
  · rw [none] at turns
    exact absurd (List.nil_perm.1 turns) (by simp)
  · rw [one] at turns
    obtain ⟨rfl, rest⟩ := List.cons.inj (List.singleton_perm.1 turns)
    refine ⟨rfl, waits, ?_⟩
    refine ⟨?_, ?_, ?_, .inl ⟨rfl, rest.symm⟩⟩
    all_goals rw [take.scene]
    · exact T.follows
    · exact T.calls
    · exact T.answers

end Tells

variable {log more : Log} {finished : List Course} {current held : Option Stage}

theorem result_fallback (number : Option Nat) (id : String) (f : Failure)
    (o : Except Failure Incident) :
    (Course.fallback number id f o).result = ⟨id, summaryResolution o⟩ := by
  cases o <;> rfl

/-- The outcome of a summary comes for a selection in the background. -/
theorem finishSelect_tells {number : Nat} {id : String} {f : Failure}
    {o : Except Failure Incident}
    (T : Tells log finished (some (.summary (some number) id f o))
      (some (.summary (some number) id f o)) s) :
    Tells (log ++ [.summaryGiven id o, .ended (some number) ⟨id, summaryResolution o⟩])
      (finished ++ [.fallback (some number) id f o]) none none
      (s.finishSelect number ⟨id, summaryResolution o⟩) := by
  rw [← result_fallback (some number) id f o]
  exact T.ends rfl rfl rfl (List.append_nil _).symm rfl rfl

/-- The details come for a selection in the background. -/
theorem takeDetail_tells (env : Backend σ δ) {number : Nat} {id : String}
    {o : Except Failure IncidentDetail}
    (T : Tells log finished (some (.detail (some number) id o))
      (some (.detail (some number) id o)) s) :
    ∃ finished current, Tells (log ++ detailEvents env.recorded s.source number id o) finished
      current none (s.takeDetail env.recorded number id o) := by
  cases o with
  | ok d =>
    exact ⟨_, _, T.ends (c := .direct (some number) id d) rfl rfl rfl (List.append_nil _).symm
      rfl rfl⟩
  | error f =>
    have asked := T.asks (show env.recorded.provider.summary s.source id = _ from rfl)
    rw [detailEvents, summaryEvents, takeDetail, askSummary]
    by_cases now : (env.recorded.provider.summary s.source id).1.after = 0
    · have told := finishSelect_tells asked
      rw [List.append_assoc] at told
      simp only [now, if_true]
      exact ⟨_, _, told⟩
    · have waits := asked.parks rfl (env.recorded.provider.summary s.source id).1.after
      simp only [now, if_false]
      exact ⟨_, _, waits⟩

/-- A selection in the background begins. -/
theorem openSelect_tells (env : Backend σ δ) (T : Tells log finished current held s)
    (number : Nat) (id : String) :
    ∃ finished current, Tells (log ++ s.selectEvents env.recorded number id) finished current held
      (s.openSelect env.recorded number id) := by
  unfold selectEvents openSelect
  cases accepted : s.view.begin? id with
  | error f => exact ⟨_, _, T.answerRefused number id f⟩
  | ok view =>
    obtain ⟨rfl, begun⟩ := T.begins accepted
      (show env.recorded.provider.detail s.source id = _ from rfl) (some number)
    dsimp only
    by_cases now : (env.recorded.provider.detail s.source id).1.after = 0
    · obtain ⟨finished, current, taken⟩ := takeDetail_tells env begun
      rw [List.append_assoc] at taken
      simp only [now, if_true]
      exact ⟨_, _, taken⟩
    · have waits := begun.parks rfl (env.recorded.provider.detail s.source id).1.after
      simp only [now, if_false]
      exact ⟨_, _, waits⟩

/-- The selection that waits for a turn. -/
theorem turn?_eq_some {current : Option Stage} {turn : Turn}
    (waits : current.bind Stage.turn? = some turn) :
    (∃ number id o, current = some (.detail (some number) id o) ∧
      turn = .detailReturns number id o) ∨
    ∃ number id f o, current = some (.summary (some number) id f o) ∧
      turn = .summaryReturns number id o := by
  rcases current with _ | ⟨_ | number, id, o⟩ | ⟨_ | number, id, f, o⟩ <;> cases waits
  · exact .inl ⟨number, id, o, rfl, rfl⟩
  · exact .inr ⟨number, id, f, o, rfl, rfl⟩

/-- A turn that brings no outcome of a call may be taken. -/
theorem Tells.passes {turn : Turn} (T : Tells log finished current held s) (take : Takes s turn u)
    (returns : turn.returns = false) : Tells log finished current held u := by
  have turns := (turnsOf_of_perm take.turns .view).filter Turn.returns
  have same : s.returns.Perm u.returns := by
    split at turns <;> simpa [returns, Scene.returns] using turns
  rw [take.scene] at same ⊢
  exact T.congr rfl rfl rfl same.symm

/-- What a turn does to selections is told by the log. -/
theorem Takes.tells {turn : Turn} (take : Takes s turn u)
    (T : Tells log finished current held s) :
    ∃ finished current, Tells (log ++ u.viewEvents env.recorded turn) finished current held
      (u.run env.recorded turn) := by
  by_cases kind : turn.kind = .view
  · cases turn with
    | selectOpens number id => exact openSelect_tells env (T.passes take rfl) number id
    | detailReturns number id o =>
      -- The turn is the one that the selection in progress waits for, so it is in hand now.
      obtain ⟨rfl, waits, T⟩ := T.takes take kind rfl
      rcases turn?_eq_some waits with ⟨_, _, _, rfl, same⟩ | ⟨_, _, _, _, -, same⟩ <;> cases same
      exact takeDetail_tells env T
    | summaryReturns number id o =>
      obtain ⟨rfl, waits, T⟩ := T.takes take kind rfl
      rcases turn?_eq_some waits with ⟨_, _, _, -, same⟩ | ⟨_, _, _, _, rfl, same⟩ <;> cases same
      exact ⟨_, _, finishSelect_tells T⟩
    | _ => cases kind
  · obtain ⟨elsewhere, none⟩ := run_elsewhere env u kind
    have returns : turn.returns = false := by
      cases turn <;> first | rfl | exact absurd rfl kind
    rw [none, List.append_nil]
    exact ⟨_, _, (T.passes take returns).elsewhere elsewhere⟩

theorem startSelect_returns (s : Scene σ δ) (id : String) :
    (s.startSelect id).returns.Perm s.returns := by
  have turns := turnsOf_post { s with started := s.started + 1 } (.selectOpens s.started id) .view
  exact turns.filter Turn.returns

/-- Every move keeps a scene and its log together. -/
theorem ViewMove.tells {S S' : Scene (σ × List Request) δ × Option Stage}
    (move : ViewMove env S more S') (T : Tells log finished current S.2 S.1) :
    ∃ finished current, Tells (log ++ more) finished current S'.2 S'.1 := by
  cases move with
  | start s held id =>
    rw [List.append_nil]
    exact ⟨_, _, T.congr rfl rfl rfl (s.startSelect_returns id)⟩
  | close s held => exact ⟨_, _, T.close⟩
  | turn held take => exact take.tells T
  | refuse held refused => exact ⟨_, _, T.refuse _ _⟩
  | call accepted asked => exact ⟨_, _, (T.begins accepted asked none).2⟩
  | found s id d =>
    obtain rfl := T.current_eq rfl
    exact ⟨_, _, T.ends (c := .direct none id d) rfl rfl rfl (List.append_nil _).symm
      (List.append_nil _).symm rfl⟩
  | missed f asked =>
    obtain rfl := T.current_eq rfl
    exact ⟨_, _, T.asks asked⟩
  | told s id f o =>
    obtain rfl := T.current_eq rfl
    rw [← result_fallback none id f o]
    exact ⟨_, _, T.ends rfl rfl rfl (List.append_nil _).symm (List.append_nil _).symm rfl⟩
  | elsewhere held aside =>
    rw [List.append_nil]
    exact ⟨_, _, T.elsewhere aside⟩

end Scene

end IncidentBoard
