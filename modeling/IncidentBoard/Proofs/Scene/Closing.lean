import IncidentBoard.Proofs.Scene.Selected

/-!
# Closing the view

Closing the view brings the list back, and the list stays until a selection ends with a success.
That selection began after the closing, or it is the one that was in progress when the view was
closed: closing does not call it off, and its success opens the view again.

## Main definitions

* `Selection.Log.inProgress` — the incident of the selection that is in progress after a log.
* `Selection.Course.cut` — a course that is in progress at some point of the log.
* `Scene.listing_until_success` — what is shown after a closing.
-/

namespace IncidentBoard

open Selection

namespace Selection

/-! ## The selection in progress -/

/-- The incident of the selection in progress, after one more event. -/
def Event.inProgress (current : Option String) : Event → Option String
  | .begun _ id => some id
  | .ended _ _ => none
  | _ => current

/-- The incident of the selection in progress after a log. -/
def Log.inProgress (log : Log) : Option String := log.foldl Event.inProgress none

/-- Events that are no part of a course leave the selection in progress. -/
theorem Log.inProgress_filter (log : Log) :
    Log.inProgress (log.filter Event.ofCourse) = log.inProgress := by
  rw [inProgress, List.foldl_filter, inProgress]
  congr
  funext current e
  cases e <;> rfl

namespace Course

def number : Course → Option Nat
  | .direct number _ _ | .fallback number _ _ _ => number

/-- What happens between the beginning and the end of a selection. -/
def calls : Course → Log
  | .direct _ id found => [.detailAsked id (.ok found), .detailGiven id (.ok found)]
  | .fallback _ id failure outcome =>
    [.detailAsked id (.error failure), .detailGiven id (.error failure),
      .summaryAsked id outcome, .summaryGiven id outcome]

theorem events_eq (c : Course) : c.events =
    .begun c.number c.result.incidentId :: (c.calls ++ [.ended c.number c.result]) := by
  rcases c with ⟨number, id, found⟩ | ⟨number, id, f, _ | _⟩ <;> rfl

/-- The calls of a selection leave it in progress. -/
theorem foldl_calls {c : Course} {log : Log} (part : ∀ e ∈ log, e ∈ c.calls)
    (current : Option String) : log.foldl Event.inProgress current = current := by
  have each : ∀ e ∈ c.calls, e.inProgress current = current := by
    cases c <;> simp [calls, Event.inProgress]
  induction log with
  | nil => rfl
  | cons e rest ih =>
    rw [List.foldl_cons, each e (part e (.head _))]
    exact ih fun e' he' => part e' (.tail _ he')

/-- Of a course that is cut in two, the first part leaves the selection in progress, and the second
part has its end. -/
theorem cut {c : Course} {first second : Log} (parts : c.events = first ++ second)
    (begun : first ≠ []) (open' : second ≠ []) :
    (∀ current, first.foldl Event.inProgress current = some c.result.incidentId) ∧
      .ended c.number c.result ∈ second := by
  obtain ⟨e, first, rfl⟩ := List.exists_cons_of_ne_nil begun
  rw [events_eq, List.cons_append, List.cons.injEq] at parts
  obtain ⟨rfl, parts⟩ := parts
  have calls : (∀ e ∈ first, e ∈ c.calls) ∧ .ended c.number c.result ∈ second := by
    rcases List.append_eq_append_iff.1 parts with ⟨late, rfl, last⟩ | ⟨late, calls, rfl⟩
    · rcases List.singleton_eq_append_iff.1 last with ⟨rfl, rfl⟩ | ⟨-, none⟩
      · simp
      · exact absurd none open'
    · simp +contextual [calls]
  exact ⟨fun current => foldl_calls calls.1 _, calls.2⟩

end Course

/-- Where the events of the last course end a log that is cut in two, they belong to the second
part, or the first part leaves the selection in progress and the second part ends it. -/
theorem Course.of_suffix {c : Course} {finished before after : Log}
    (parts : before ++ after = finished ++ c.events) (more : after ≠ []) :
    .ended c.number c.result ∈ after ∧ (.begun c.number c.result.incidentId ∈ after ∨
      Log.inProgress before = some c.result.incidentId) := by
  have begun : .begun c.number c.result.incidentId ∈ c.events := by simp [events_eq]
  have ended : .ended c.number c.result ∈ c.events := by simp [events_eq]
  rcases List.append_eq_append_iff.1 parts with ⟨late, -, rfl⟩ | ⟨first, rfl, events⟩
  · exact ⟨List.mem_append_right _ ended, .inl (List.mem_append_right _ begun)⟩
  · by_cases none : first = []
    · rw [none, List.nil_append] at events
      exact ⟨events ▸ ended, .inl (events ▸ begun)⟩
    · obtain ⟨current, last⟩ := cut events none more
      exact ⟨last, .inr (by rw [Log.inProgress, List.foldl_append, current])⟩

end Selection

namespace Scene

variable {σ δ : Type} {env : Backend σ δ} {S S' : Scene (σ × List Request) δ × Option Stage}
  {more : Log}

/-! ## Moves after a closing -/

theorem closed_not_mem_summaryEvents (number : Nat) (id : String) (reply : Reply Incident) :
    .closed ∉ summaryEvents number id reply := by
  unfold summaryEvents
  split <;> simp

theorem closed_not_mem_detailEvents (env : Backend σ δ) (source : σ) (number : Nat) (id : String)
    (outcome : Except Failure IncidentDetail) :
    .closed ∉ detailEvents env source number id outcome := by
  cases outcome with
  | ok d => simp [detailEvents]
  | error f => simpa [detailEvents] using closed_not_mem_summaryEvents _ _ _

/-- No turn closes the view. -/
theorem closed_not_mem_viewEvents (env : Backend σ δ) (s : Scene σ δ) (turn : Turn) :
    .closed ∉ s.viewEvents env turn := by
  cases turn with
  | selectOpens number id =>
    simp only [viewEvents, selectEvents]
    split
    · simp
    · split
      · simpa using closed_not_mem_detailEvents _ _ _ _ _
      · simp
  | detailReturns number id o => exact closed_not_mem_detailEvents _ _ _ _ _
  | _ => simp [viewEvents]

theorem ViewMove.listing_of_closed (move : ViewMove env S more S') (closed : .closed ∈ more) :
    S'.1.view.state = .listing := by
  cases move with
  | close s held => rfl
  | turn held take => exact absurd closed (closed_not_mem_viewEvents _ _ _)
  | _ => simp at closed

theorem Failing.of_append {log more : Log} (failing : Failing (log ++ more)) :
    Failing log ∧ Failing more :=
  ⟨fun number r h => failing number r (List.mem_append_left _ h),
    fun number r h => failing number r (List.mem_append_right _ h)⟩

/-- A move leads to the list, where it closes the view or keeps a list that was there without a
success. -/
theorem ViewMove.listing (move : ViewMove env S more S') (failing : Failing more)
    (before : .closed ∈ more ∨ S.1.view.state = .listing) : S'.1.view.state = .listing := by
  by_cases closed : .closed ∈ more
  · exact move.listing_of_closed closed
  · rw [move.state_eq closed failing]
    exact before.resolve_left closed

/-- The list stays after a closing while no selection ends with a success. -/
theorem listing_of_failing {start : Scene (σ × List Request) δ × Option Stage} {log : Log}
    (run : Runs (ViewMove env) start log S) {before after : Log}
    (parts : log = before ++ .closed :: after) (failing : Failing after) :
    S.1.view.state = .listing := by
  induction run generalizing after with
  | start => simp at parts
  | @step log more S S' run next ih =>
    rcases List.append_eq_append_iff.1 parts with ⟨late, rfl, rfl⟩ | ⟨late, rfl, same⟩
    · exact next.listing_of_closed (by simp)
    · cases late with
      | nil =>
        rw [List.nil_append] at same
        exact next.listing_of_closed (same ▸ .head _)
      | cons e late =>
        obtain ⟨rfl, rfl⟩ := List.cons.inj same
        obtain ⟨earlier, now⟩ := failing.of_append
        exact next.listing now (.inr (ih rfl earlier))

/-! ## What is shown after a closing -/

/-- What happens to selections along a run is told by its log. -/
theorem tells_of_run {source : σ} {people : δ} {q : ListQuery} {quietTime : Int} {resetPage : Bool}
    {log : Log} (run : Runs (ViewMove env)
      (Scene.start (source, []) people q quietTime resetPage, none) log S) :
    ∃ finished current, Tells log finished current S.2 S.1 := by
  refine run.invariant (P := fun log S => ∃ finished current, Tells log finished current S.2 S.1)
    ⟨[], none, .start, rfl, rfl, .inl ⟨rfl, rfl⟩⟩ ?_
  rintro log S more S' move ⟨finished, current, T⟩
  exact move.tells T

/-- After a closing the list is shown until a selection ends with a success. What is shown then is
the result of that selection, which began after the closing unless it was in progress then. -/
theorem listing_until_success {source : σ} {people : δ} {q : ListQuery} {quietTime : Int}
    {resetPage : Bool} {before after : Log} {s : Scene (σ × List Request) δ} {held : Option Stage}
    (run : Runs (ViewMove env) (Scene.start (source, []) people q quietTime resetPage, none)
      (before ++ .closed :: after) (s, held)) :
    (Failing after → s.view.state = .listing) ∧
      ∀ r, s.view.state = .viewing r → r.isOk = true ∧ ∃ number, .ended number r ∈ after ∧
        (.begun number r.incidentId ∈ after ∨ before.inProgress = some r.incidentId) := by
  have listing : Failing after → s.view.state = .listing := listing_of_failing run rfl
  refine ⟨listing, fun r shown => ?_⟩
  obtain ⟨finished, current, T⟩ := tells_of_run run
  obtain ⟨rfl, ok, latest⟩ := T.follows.viewing r shown
  obtain ⟨c, last, rfl⟩ := Option.map_eq_some_iff.1 latest
  obtain ⟨others, rfl⟩ := List.getLast?_eq_some_iff.1 last
  -- The last course is the end of what happened to selections, so that it reaches past the closing.
  have courses : before.filter Event.ofCourse ++ after.filter Event.ofCourse =
      others.flatMap Course.events ++ c.events := by
    simpa [Event.ofCourse] using T.follows.courses
  have more : after.filter Event.ofCourse ≠ [] := by
    intro none
    have failing : Failing after := fun number r ended =>
      absurd rfl (List.filter_eq_nil_iff.1 none _ ended)
    rw [listing failing] at shown
    cases shown
  obtain ⟨ended, origin⟩ := Course.of_suffix courses more
  rw [Log.inProgress_filter] at origin
  exact ⟨ok, c.number, List.mem_of_mem_filter ended, origin.imp_left List.mem_of_mem_filter⟩

/-- The view is closed while a selection waits for its details, which fail after that; then the
caller selects another incident, whose selection began after the closing. -/
theorem listing_until_success_of_late_failure :
    let env : Backend Script Roster := ⟨Script.provider, Roster.directory⟩
    let found : IncidentDetail := default
    let script : Script := ⟨[], [], [], [("a", [⟨5, some (.error (.integration "p" "down"))⟩]),
      ("b", [⟨0, some (.ok (.object found.toFields))⟩])], []⟩
    let q : ListQuery := .first "t" 15 (by decide)
    ∃ before after s, Runs (ViewMove env) (Scene.start (script, []) ⟨[]⟩ q 300 true, none)
        (before ++ .closed :: after) (s, none) ∧
      s.view.state = .viewing ⟨"b", .detail found⟩ ∧ ∃ number, .begun number "b" ∈ after := by
  intro env found script q
  have first : Runs (ViewMove env) (Scene.start (script, []) ⟨[]⟩ q 300 true, none) _ _ :=
    .one (.start _ none "a")
  have asked := first.step (.turn none
    (.next (show Agenda.next? none _ = some (.selectOpens 0 "a", _) from rfl)))
  have closed := asked.step (.close _ none)
  have failed := closed.step (.turn none
    (.next (show Agenda.next? none _ = some (.detailReturns 0 "a" _, _) from rfl)))
  have called := failed.step (@ViewMove.call _ _ _ _ "b" _ _ _ rfl rfl)
  have shown := called.step (.found _ "b" found)
  let before : Log := [.begun (some 0) "a", .detailAsked "a" (.error (.integration "p" "down"))]
  have run : Runs (ViewMove env) _ (before ++ .closed :: _) (_, none) := shown
  obtain ⟨-, origin⟩ := listing_until_success run
  obtain ⟨-, number, -, begun | earlier⟩ := origin _ rfl
  · exact ⟨before, _, _, run, rfl, number, begun⟩
  · exact absurd earlier (by decide)

/-- Closing the view while a selection waits for its details does not keep these from opening it. -/
theorem reopened_of_late_details :
    let env : Backend Script Roster := ⟨Script.provider, Roster.directory⟩
    let found : IncidentDetail := default
    let script : Script := ⟨[], [], [], [("a", [⟨5, some (.ok (.object found.toFields))⟩])], []⟩
    let q : ListQuery := .first "t" 15 (by decide)
    ∃ after s, Runs (ViewMove env) (Scene.start (script, []) ⟨[]⟩ q 300 true, none)
        ([.begun (some 0) "a", .detailAsked "a" (.ok found)] ++ .closed :: after) (s, none) ∧
      (∀ number id, .begun number id ∉ after) ∧ s.view.state = .viewing ⟨"a", .detail found⟩ := by
  intro env found script q
  have first : Runs (ViewMove env) (Scene.start (script, []) ⟨[]⟩ q 300 true, none) _ _ :=
    .one (.start _ none "a")
  have asked := first.step (.turn none
    (.next (show Agenda.next? none _ = some (.selectOpens 0 "a", _) from rfl)))
  have closed := asked.step (.close _ none)
  have given := closed.step (.turn none
    (.next (show Agenda.next? none _ = some (.detailReturns 0 "a" (.ok found), _) from rfl)))
  refine ⟨[.detailGiven "a" (.ok found), .ended (some 0) ⟨"a", .detail found⟩], _, given, ?_, rfl⟩
  simp

end Scene

end IncidentBoard
