import IncidentBoard.Proofs.Scene.Selections
import IncidentBoard.Provider.Script

/-!
# Selections that are made

At most one selection is in progress, and only while the list is shown. A selection that is
accepted asks for the details once, and for the summary once after the details failed; one that is
made while an incident is shown or another selection is in progress is refused, and nothing else
happens. Every selection in the background has one answer in the end.

## Main definitions

* `Scene.numbers` — the selections in the background that are answered or under way.
* `Scene.runWhile_viewMoves`, `Scene.select_viewMoves` — runs in time, and selections of the
  caller, are runs of moves.
* `Scene.Selects` — what selections come to; `Scene.selections_take_course` — they come to it.
-/

namespace IncidentBoard

open Selection

/-- The number of the selection in the background that a turn is for. -/
def Turn.number? : Turn → Option Nat
  | .selectOpens number _ | .detailReturns number _ _ | .summaryReturns number _ _ => some number
  | _ => none

namespace Scene

variable {σ δ : Type}

/-! ## One answer for every selection -/

/-- The selections in the background that are answered or under way. -/
def numbers (s : Scene σ δ) : List Nat :=
  s.answers.map Prod.fst ++ (s.turnsOf .view).filterMap Turn.number?

/-- One more selection in the background is answered or under way. -/
structure Carries (number : Nat) (s t : Scene σ δ) : Prop where
  numbers : t.numbers.Perm (number :: s.numbers)
  started : t.started = s.started

theorem Carries.congr {number : Nat} {r s t : Scene σ δ} (C : Carries number r t)
    (numbers : r.numbers = s.numbers) (started : r.started = s.started) : Carries number s t :=
  ⟨numbers ▸ C.numbers, C.started.trans started⟩

section

variable (env : Backend σ δ) (s : Scene σ δ) (number : Nat) (id : String)

theorem answerSelect_carries (answer : Except Failure DetailResult) :
    Carries number s (s.answerSelect number answer) := by
  refine ⟨?_, rfl⟩
  unfold Scene.numbers answerSelect
  rw [List.map_append, List.append_assoc]
  exact List.perm_middle

variable {s number} in
theorem Carries.of_turns {t : Scene σ δ} {turn : Turn} (answers : t.answers = s.answers)
    (started : t.started = s.started) (turns : t.agenda.turns.Perm (turn :: s.agenda.turns))
    (kind : turn.kind = .view) (own : turn.number? = some number) : Carries number s t := by
  refine ⟨?_, started⟩
  have waiting := (turnsOf_of_perm turns .view).filterMap Turn.number?
  rw [if_pos kind, List.filterMap_cons_some own] at waiting
  rw [Scene.numbers, answers]
  exact (waiting.append_left _).trans List.perm_middle

theorem askSummary_carries : Carries number s (s.askSummary env number id) := by
  unfold askSummary
  dsimp only
  split
  · exact (answerSelect_carries _ number _).congr rfl rfl
  · exact .of_turns rfl rfl (Agenda.turns_sleep ..) rfl rfl

theorem takeDetail_carries (o : Except Failure IncidentDetail) :
    Carries number s (s.takeDetail env number id o) := by
  cases o with
  | ok d => exact (answerSelect_carries _ number _).congr rfl rfl
  | error f => exact askSummary_carries env s number id

theorem openSelect_carries : Carries number s (s.openSelect env number id) := by
  unfold openSelect
  split
  · exact answerSelect_carries s number _
  · dsimp only
    split
    · exact (takeDetail_carries env _ number id _).congr rfl rfl
    · exact .of_turns rfl rfl (Agenda.turns_sleep ..) rfl rfl

end

variable {env : Backend σ δ}

theorem Takes.numbers (env : Backend σ δ) {s u : Scene (σ × List Request) δ} {turn : Turn}
    (take : Takes s turn u) :
    (u.run env.recorded turn).numbers.Perm s.numbers ∧
      (u.run env.recorded turn).started = s.started := by
  have answers : s.answers = u.answers := by rw [take.scene]
  have started : s.started = u.started := by rw [take.scene]
  have moved {number : Nat} {t : Scene (σ × List Request) δ} (kind : turn.kind = .view)
      (own : turn.number? = some number) (C : Carries number u t) :
      t.numbers.Perm s.numbers ∧ t.started = s.started := by
    have before : Carries number u s := .of_turns answers started take.turns kind own
    exact ⟨C.numbers.trans before.numbers.symm, C.started.trans started.symm⟩
  by_cases kind : turn.kind = .view
  · cases turn with
    | selectOpens number id => exact moved kind rfl (openSelect_carries env.recorded u number id)
    | detailReturns number id o =>
      exact moved kind rfl (takeDetail_carries env.recorded u number id o)
    | summaryReturns number id o =>
      exact moved kind rfl ((answerSelect_carries _ number _).congr rfl rfl)
    | _ => cases kind
  · obtain ⟨E, -⟩ := run_elsewhere env u kind
    refine ⟨?_, E.started.trans started.symm⟩
    have waiting := (E.turns.trans (take.turnsOf_of_ne kind).symm).filterMap Turn.number?
    rw [Scene.numbers, E.answers, ← answers]
    exact waiting.append_left _

/-- Every selection in the background is answered or under way, and no more than once. -/
theorem ViewMove.numbers {S S' : Scene (σ × List Request) δ × Option Stage} {more : Log}
    (move : ViewMove env S more S') (h : S.1.numbers.Perm (List.range S.1.started)) :
    S'.1.numbers.Perm (List.range S'.1.started) := by
  cases move with
  | start s held id =>
    let counted := { s with started := s.started + 1 }
    have posted : Carries s.started counted (s.startSelect id) :=
      .of_turns rfl rfl (Agenda.turns_post ..) rfl rfl
    refine posted.numbers.trans ((h.cons _).trans ?_)
    change (s.started :: List.range s.started).Perm (List.range (s.started + 1))
    rw [List.range_succ]
    exact List.perm_append_singleton _ _ |>.symm
  | turn held take =>
    obtain ⟨same, started⟩ := take.numbers env
    rw [started]
    exact same.trans h
  | elsewhere held E =>
    have waiting := E.turns.filterMap Turn.number?
    rw [E.started, Scene.numbers, E.answers]
    exact (waiting.append_left _).trans h
  | _ => exact h

/-! ## What is shown changes only with a success or by closing -/

/-- All selections that are over failed. -/
def Failing (log : Log) : Prop := ∀ number r, .ended number r ∈ log → r.isOk = false

theorem takeDetail_state (s : Scene σ δ) (number : Nat) (id : String)
    (o : Except Failure IncidentDetail)
    (failing : Failing (detailEvents env s.source number id o)) :
    (s.takeDetail env number id o).view.state = s.view.state := by
  cases o with
  | ok d => cases failing (some number) ⟨id, .detail d⟩ (by simp [detailEvents])
  | error f =>
    unfold takeDetail askSummary
    dsimp only
    split <;> rename_i now
    · refine DetailView.state_finish (failing (some number) _ ?_)
      simp [detailEvents, summaryEvents, now]
    · rfl

theorem openSelect_state (s : Scene σ δ) (number : Nat) (id : String)
    (failing : Failing (s.selectEvents env number id)) :
    (s.openSelect env number id).view.state = s.view.state := by
  unfold selectEvents at failing
  unfold openSelect
  cases accepted : s.view.begin? id with
  | error f => rfl
  | ok view =>
    obtain ⟨-, -, rfl⟩ := DetailView.begin?_eq_ok accepted
    simp only [accepted] at failing ⊢
    split <;> rename_i now
    · refine takeDetail_state _ number id _ fun other r ended => failing other r ?_
      simp only [now, if_true]
      exact .tail _ (.tail _ ended)
    · rfl

/-- A move that neither closes the view nor ends with a success leaves what is shown. -/
theorem ViewMove.state_eq {S S' : Scene (σ × List Request) δ × Option Stage} {more : Log}
    (move : ViewMove env S more S') (opened : .closed ∉ more) (failing : Failing more) :
    S'.1.view.state = S.1.view.state := by
  cases move with
  | close s held => exact absurd (.head _) opened
  | @turn s u turn held take =>
    have before : u.view = s.view := by rw [take.scene]
    by_cases kind : turn.kind = .view
    · cases turn with
      | selectOpens number id => exact before ▸ openSelect_state u number id failing
      | detailReturns number id o => exact before ▸ takeDetail_state u number id o failing
      | summaryReturns number id o =>
        have failed := failing (some number) ⟨id, summaryResolution o⟩ (.tail _ (.head _))
        exact before ▸ DetailView.state_finish failed
      | _ => cases kind
    · rw [(run_elsewhere env u kind).1.view, before]
  | call accepted asked =>
    obtain ⟨-, -, rfl⟩ := DetailView.begin?_eq_ok accepted
    rfl
  | found s id d => cases failing none ⟨id, .detail d⟩ (.tail _ (.head _))
  | told s id f o => exact DetailView.state_finish (failing none _ (.tail _ (.head _)))
  | elsewhere held E => rw [E.view]
  | _ => rfl

/-! ## Runs in time -/

/-- A timed run is a run of moves. -/
theorem runWhile_viewMoves (env : Backend σ δ) (go : Scene (σ × List Request) δ → Bool)
    (limit : Option Nat) (fuel : Nat) (s : Scene (σ × List Request) δ) (held : Option Stage) :
    ∃ more, Runs (ViewMove env) (s, held) more
      (s.runWhile env.recorded go limit fuel, held) ∧
        (s.runWhile env.recorded go limit fuel).started = s.started := by
  induction fuel generalizing s with
  | zero => exact ⟨[], .start, rfl⟩
  | succ fuel ih =>
    unfold runWhile
    split
    · split
      · exact ⟨[], .start, rfl⟩
      · rename_i rest next
        exact ⟨_, .one (.turn held (.next next)), rfl⟩
      · rename_i turn rest _ next
        have take : Takes s turn { s with agenda := rest } := .next next
        obtain ⟨more, run, started⟩ := ih (({ s with agenda := rest }).run env.recorded turn)
        exact ⟨_, (Runs.one (.turn held take)).trans run, started.trans (take.numbers env).2⟩
    · exact ⟨[], .start, rfl⟩

/-- While the caller waits, the others move. -/
theorem pause_viewMoves (env : Backend σ δ) (s : Scene (σ × List Request) δ) (ms : Nat)
    (held : Option Stage) :
    ∃ more, Runs (ViewMove env) (s, held) more (s.pause env.recorded ms, held) := by
  unfold pause
  split
  · exact ⟨[], .start⟩
  · have asleep : Elsewhere s (s.sleep ms .callerResumes) :=
      ⟨rfl, rfl, rfl, rfl, turnsOf_sleep_of_ne s ms (by decide)⟩
    obtain ⟨more, run, -⟩ := runWhile_viewMoves env (fun _ => true) none
      (s.sleep ms .callerResumes).potential (s.sleep ms .callerResumes) held
    exact ⟨_, (Runs.one (.elsewhere held asleep)).trans run⟩

/-- Once the details are asked for, the caller is led to the result. -/
theorem resolve_viewMoves (env : Backend σ δ) (s : Scene (σ × List Request) δ) (id : String) :
    let asked := env.recorded.provider.detail s.source id
    let resolved := s.resolve env.recorded id
    ∃ more, more.getLast? = some (.ended none resolved.1) ∧ Runs (ViewMove env)
      ({ s with source := asked.2 }, some (.detail none id asked.1.outcome)) more
      ({ resolved.2 with view := resolved.2.view.finish resolved.1 }, none) := by
  intro asked
  let waited := { s with source := asked.2 }.pause env.recorded asked.1.after
  obtain ⟨first, run⟩ := pause_viewMoves env { s with source := asked.2 } asked.1.after
    (some (.detail none id asked.1.outcome))
  cases outcome : asked.1.outcome with
  | ok d =>
    have resolved : s.resolve env.recorded id = (⟨id, .detail d⟩, waited) := by
      simp only [resolve, asked, outcome, waited]
    rw [outcome] at run
    rw [resolved]
    exact ⟨_, List.getLast?_append_of_ne_nil _ (by simp), run.trans (.one (.found waited id d))⟩
  | error f =>
    let reply := (env.recorded.provider.summary waited.source id).1
    let again := { waited with source := (env.recorded.provider.summary waited.source id).2 }
    have resolved : s.resolve env.recorded id =
        (⟨id, summaryResolution reply.outcome⟩, again.pause env.recorded reply.after) := by
      simp only [resolve, asked, outcome, waited, reply, again]
    obtain ⟨second, run'⟩ := pause_viewMoves env again reply.after
      (some (.summary none id f reply.outcome))
    rw [outcome] at run
    rw [resolved]
    have missed := (run.trans (.one (.missed f rfl))).trans run'
    exact ⟨_, List.getLast?_append_of_ne_nil _ (by simp),
      missed.trans (.one (.told _ id f reply.outcome))⟩

/-- What the caller is answered. -/
def answerEvent (id : String) : Except Failure DetailResult → Event
  | .ok r => .ended none r
  | .error f => .refused none id f

/-- A selection of the caller is a run of moves that ends with its answer. -/
theorem select_viewMoves (env : Backend σ δ) (s : Scene (σ × List Request) δ) (id : String) :
    let selected := s.select env.recorded id
    ∃ more, more.getLast? = some (answerEvent id selected.1) ∧
      Runs (ViewMove env) (s, none) more (selected.2, none) := by
  intro selected
  cases accepted : s.view.begin? id with
  | error f =>
    have same : selected = (.error f, s) := by simp only [selected, select, accepted]
    rw [same]
    exact ⟨_, rfl, .one (.refuse none accepted)⟩
  | ok view =>
    let begun : Scene (σ × List Request) δ := { s with view := view }
    let resolved := begun.resolve env.recorded id
    have same : selected = (.ok resolved.1,
        { resolved.2 with view := resolved.2.view.finish resolved.1 }) := by
      simp only [selected, select, accepted, resolved, begun]
    obtain ⟨more, last, run⟩ := resolve_viewMoves env begun id
    have call : ViewMove env (s, none) _ _ := .call accepted rfl
    rw [same]
    refine ⟨_, ?_, (Runs.one call).trans run⟩
    rw [List.getLast?_append, last]
    rfl

/-- Whoever waits for all selections in the background finds each of them answered once. -/
theorem join_answers {s : Scene (σ × List Request) δ} (h : s.numbers.Perm (List.range s.started))
    (free : s.turnsOf .caller = []) :
    ((s.join env.recorded).answers.map Prod.fst).Perm (List.range s.started) := by
  let t := s.join env.recorded
  obtain ⟨more, run, started⟩ :=
    runWhile_viewMoves env selecting none s.potential s none
  have numbered : t.numbers.Perm (List.range t.started) :=
    run.invariant (P := fun _ S => S.1.numbers.Perm (List.range S.1.started)) h
      fun move => move.numbers
  -- The wait ends when there are as many answers as selections, or when no turn is left.
  have waiting : (t.turnsOf .view).filterMap Turn.number? = [] := by
    rcases runWhile_ends env.recorded selecting none s.potential (Nat.le_refl _) free with
      ended | ended
    · have count := numbered.length_eq
      simp only [numbers, List.length_append, List.length_map, List.length_range] at count
      have all : ¬ t.answers.length < t.started := of_decide_eq_false ended
      exact List.length_eq_zero_iff.1 (by omega)
    · have none : t.agenda.turns = [] := Agenda.turns_of_next_none ended
      simp [turnsOf, none]
  rw [Scene.numbers, waiting, List.append_nil] at numbered
  exact started ▸ numbered

/-! ## What selections come to -/

/-- What selections come to. The log is told by the view, the calls and the answers, and every
selection that is accepted takes its course in the log. -/
structure Selects (env : Backend σ δ) (log : Log) (finished : List Course)
    (current held : Option Stage) (s : Scene (σ × List Request) δ) : Prop
    extends Tells log finished current held s where
  /-- An incident is shown between selections only, the one that was accepted last. -/
  shown : ∀ r, s.view.result? = some r → current = none ∧ r.isOk = true ∧
    r.incident?.isSome = true ∧ (log.filterMap Event.accepted?).getLast? = some r.incidentId
  listing : s.view.isViewing = false → s.view.result? = none
  accepts : s.view.isViewing = false → current = none → ∀ id,
    s.view.begin? id = .ok { s.view with resolving := some id }
  /-- A selection that is refused is told so, and nothing else happens. -/
  refuses : s.view.isViewing = true ∨ current ≠ none → ∀ id,
    let refusal : Failure := .transition s.view.hindrance DetailView.selecting
    s.select env.recorded id = (.error refusal, s) ∧
      ∀ number u, Takes s (.selectOpens number id) u →
        u.run env.recorded (.selectOpens number id) = u.answerSelect number (.error refusal)
  /-- Failures leave what is shown. -/
  keeps : ∀ more S, ViewMove env (s, held) more S → .closed ∉ more → Failing more →
    S.1.view.state = s.view.state
  /-- A selection of the caller ends with its answer. -/
  selects : ∀ id, ∃ more, more.getLast? = some (answerEvent id (s.select env.recorded id).1) ∧
    Runs (ViewMove env) (s, none) more ((s.select env.recorded id).2, none)
  /-- Every selection in the background has one answer in the end. -/
  joins : s.turnsOf .caller = [] →
    ((s.join env.recorded).answers.map Prod.fst).Perm (List.range s.started)

/-- However selections, outcomes of calls and closings of the view follow one another, at most one
selection is in progress, each that is accepted takes its course, and the view follows. -/
theorem selections_take_course {source : σ} {people : δ} {q : ListQuery} {quietTime : Int}
    {resetPage : Bool} {log : Log} {s : Scene (σ × List Request) δ} {held : Option Stage}
    (run : Runs (ViewMove env) (Scene.start (source, []) people q quietTime resetPage, none) log
      (s, held)) :
    ∃ finished current, Selects env log finished current held s := by
  obtain ⟨⟨finished, current, T⟩, numbered⟩ :
      (∃ finished current, Tells log finished current held s) ∧
        s.numbers.Perm (List.range s.started) := by
    refine run.invariant (P := fun log S =>
      (∃ finished current, Tells log finished current S.2 S.1) ∧
        S.1.numbers.Perm (List.range S.1.started)) ?_ ?_
    · exact ⟨⟨[], none, .start, rfl, rfl, .inl ⟨rfl, rfl⟩⟩, .refl _⟩
    · rintro log S more S' move ⟨⟨finished, current, T⟩, numbered⟩
      exact ⟨move.tells T, move.numbers numbered⟩
  refine ⟨finished, current, T, fun r h => ?_, DetailView.result?_of_listing, T.follows.accepts,
    fun hindered id => ?_, fun more S move => move.state_eq, s.select_viewMoves env,
    join_answers numbered⟩
  · have viewing := DetailView.state_of_result? h
    obtain ⟨free, ok, -⟩ := T.follows.viewing r viewing
    exact ⟨free, ok, r.isSome_incident?.trans ok, T.follows.shows viewing⟩
  · have refused := T.follows.refuses hindered id
    refine ⟨?_, fun number u take => ?_⟩
    · simp only [select, refused]
    · have same : u.view = s.view := by rw [take.scene]
      change u.openSelect env.recorded number id = _
      simp only [openSelect, same, refused]

/-- Two selections are made in the background, and the view is closed while the first of them waits
for its details. -/
theorem selections_take_course_of_early_closing :
    let env : Backend Script Roster := ⟨Script.provider, Roster.directory⟩
    let script : Script := ⟨[], [], [], [("a", [⟨5, some (.error (.integration "p" "down"))⟩])], []⟩
    let q : ListQuery := .first "t" 15 (by decide)
    ∃ log s, Runs (ViewMove env) (Scene.start (script, []) ⟨[]⟩ q 300 true, none) log (s, none) ∧
      s.viewCalls = [.detail "a"] ∧
      s.select env.recorded "c" =
        (.error (.transition "resolving" DetailView.selecting), s) ∧
      ((s.join env.recorded).answers.map Prod.fst).Perm [0, 1] := by
  intro env script q
  have first : Runs (ViewMove env) (Scene.start (script, []) ⟨[]⟩ q 300 true, none) _ _ :=
    .one (.start _ none "a")
  have second := first.step (.start _ none "b")
  have asked := second.step (.turn none
    (.next (show Agenda.next? none _ = some (.selectOpens 0 "a", _) from rfl)))
  have refused := asked.step (.turn none
    (.next (show Agenda.next? (some 0) _ = some (.selectOpens 1 "b", _) from rfl)))
  have closed := refused.step (.close _ none)
  obtain ⟨finished, current, S⟩ := selections_take_course closed
  have inProgress : current ≠ none := by
    rintro rfl
    cases S.follows.resolving
  exact ⟨_, _, closed, S.calls, (S.refuses (.inr inProgress) "c").1, S.joins rfl⟩

end Scene

end IncidentBoard
