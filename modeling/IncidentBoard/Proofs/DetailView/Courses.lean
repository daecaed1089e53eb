import IncidentBoard.DetailView
import IncidentBoard.Provider
import Mathlib.Data.List.Basic

/-!
# Courses of selections

What happens at a detail view is kept in a log. A selection that is accepted takes its course: its
details are asked for, and its summary where the details failed. Selections that are refused and
the closing of the view come in between. What the view shows follows from the courses in the log,
however they are spread over time.

## Main definitions

* `Selection.Event`, `Selection.Log` — what happens, and all of it in order.
* `Selection.Course`, `Selection.Stage` — a selection that is over, and one in progress.
* `Selection.Follows` — a view that follows from a log, with one lemma for each move of the view.
-/

namespace IncidentBoard

/-- Exactly the results that are no failure have an incident. -/
theorem DetailResult.isSome_incident? (r : DetailResult) : r.incident?.isSome = r.isOk := by
  obtain ⟨id, _ | _ | _⟩ := r <;> rfl

namespace DetailView

variable {v w : DetailView} {id : String}

/-- A selection begins only at the list, with no other in progress. -/
theorem begin?_eq_ok (h : v.begin? id = .ok w) :
    v.state = .listing ∧ v.resolving = none ∧ w = { v with resolving := some id } := by
  obtain ⟨_ | shown, _ | other, failed⟩ := v <;> cases h
  exact ⟨rfl, rfl, rfl⟩

theorem state_of_result? {r : DetailResult} (h : v.result? = some r) : v.state = .viewing r := by
  obtain ⟨_ | shown, resolving, failed⟩ := v <;> cases h
  rfl

theorem result?_of_listing (h : v.isViewing = false) : v.result? = none := by
  obtain ⟨_ | shown, resolving, failed⟩ := v
  · rfl
  · cases h

/-- A failure leaves what is shown. -/
theorem state_finish {r : DetailResult} (failed : r.isOk = false) :
    (v.finish r).state = v.state := by
  simp [finish, failed]

/-- The word for what stands against a selection. -/
def hindrance (v : DetailView) : String := if v.isViewing then v.modeWord else "resolving"

theorem begin?_eq_error (h : v.isViewing = true ∨ v.resolving.isSome = true) :
    v.begin? id = .error (.transition v.hindrance selecting) := by
  obtain ⟨_ | shown, _ | other, failed⟩ := v
  · simp [isViewing] at h
  all_goals rfl

end DetailView

namespace Selection

/-! ## The log -/

/-- What happens at a detail view. A selection in the background has a number, a selection that
the caller waits for has none. Calls come with the outcome that the provider has for them. -/
inductive Event where
  | begun (number : Option Nat) (id : String)
  | detailAsked (id : String) (outcome : Except Failure IncidentDetail)
  | detailGiven (id : String) (outcome : Except Failure IncidentDetail)
  | summaryAsked (id : String) (outcome : Except Failure Incident)
  | summaryGiven (id : String) (outcome : Except Failure Incident)
  | ended (number : Option Nat) (result : DetailResult)
  | refused (number : Option Nat) (id : String) (failure : Failure)
  | closed
  deriving Repr

abbrev Log := List Event

namespace Event

/-- Whether something happens to a selection that was accepted. -/
def ofCourse : Event → Bool
  | .refused _ _ _ | .closed => false
  | _ => true

/-- The incident of a selection that is accepted. -/
def accepted? : Event → Option String
  | .begun _ id => some id
  | _ => none

/-- The call of the provider that is made. -/
def call? : Event → Option Request
  | .detailAsked id _ => some (.detail id)
  | .summaryAsked id _ => some (.summary id)
  | _ => none

/-- What a selection in the background is answered. -/
def answer? : Event → Option (Nat × Except Failure DetailResult)
  | .ended (some number) r => some (number, .ok r)
  | .refused (some number) _ f => some (number, .error f)
  | _ => none

end Event

/-! ## Courses -/

/-- A selection that is over: its details came, or they failed and its summary had an outcome. -/
inductive Course where
  | direct (number : Option Nat) (id : String) (found : IncidentDetail)
  | fallback (number : Option Nat) (id : String) (failure : Failure)
      (outcome : Except Failure Incident)
  deriving Repr

namespace Course

def result : Course → DetailResult
  | .direct _ id found => ⟨id, .detail found⟩
  | .fallback _ id _ (.ok found) => ⟨id, .summary found⟩
  | .fallback _ id _ (.error failure) => ⟨id, .failed failure.message⟩

/-- All that happens to a selection, in order. -/
def events : Course → Log
  | .direct number id found =>
    [.begun number id, .detailAsked id (.ok found), .detailGiven id (.ok found),
      .ended number ⟨id, .detail found⟩]
  | .fallback number id failure outcome =>
    [.begun number id, .detailAsked id (.error failure), .detailGiven id (.error failure),
      .summaryAsked id outcome, .summaryGiven id outcome,
      .ended number (fallback number id failure outcome).result]

end Course

/-- A selection in progress: it waits for its details, or for its summary after these failed. -/
inductive Stage where
  | detail (number : Option Nat) (id : String) (outcome : Except Failure IncidentDetail)
  | summary (number : Option Nat) (id : String) (failure : Failure)
      (outcome : Except Failure Incident)
  deriving Repr

namespace Stage

def id : Stage → String
  | .detail _ id _ | .summary _ id _ _ => id

/-- What has happened to a selection so far. -/
def events : Stage → Log
  | .detail number id outcome => [.begun number id, .detailAsked id outcome]
  | .summary number id failure outcome =>
    [.begun number id, .detailAsked id (.error failure), .detailGiven id (.error failure),
      .summaryAsked id outcome]

end Stage

/-- The result of the selection that was over last. -/
def latest? (finished : List Course) : Option DetailResult := finished.getLast?.map Course.result

/-! ## Views that follow -/

/-- A view follows from a log: the selections that were accepted took their courses one after the
other, the last one perhaps still in progress; what is shown is the result of the selection that
was over last, and the failure that is kept is one as well. -/
structure Follows (log : Log) (finished : List Course) (current : Option Stage) (v : DetailView) :
    Prop where
  courses : log.filter Event.ofCourse =
    finished.flatMap Course.events ++ current.toList.flatMap Stage.events
  resolving : v.resolving = current.map Stage.id
  viewing : ∀ r, v.state = .viewing r → current = none ∧ r.isOk = true ∧ latest? finished = some r
  lastFailure : v.lastFailure = (latest? finished).filter fun r => !r.isOk

namespace Follows

variable {log more : Log} {finished : List Course} {current : Option Stage} {stage next : Stage}
  {v w : DetailView} {id : String}

theorem start : Follows [] [] none .start := by
  refine ⟨rfl, rfl, ?_, rfl⟩
  intro r shown
  cases shown

/-- What happens to no accepted selection leaves the courses alone. -/
theorem aside (F : Follows log finished current v) {e : Event} (h : e.ofCourse = false) :
    Follows (log ++ [e]) finished current v := by
  refine ⟨?_, F.resolving, F.viewing, F.lastFailure⟩
  rw [List.filter_append, F.courses]
  simp [h]

theorem close (F : Follows log finished current v) :
    Follows (log ++ [.closed]) finished current v.close := by
  have follows := F.aside (e := .closed) rfl
  refine ⟨follows.courses, F.resolving, ?_, F.lastFailure⟩
  intro r shown
  cases shown

theorem begins (F : Follows log finished current v) (accepted : v.begin? id = .ok w)
    (number : Option Nat) (outcome : Except Failure IncidentDetail) :
    current = none ∧ Follows (log ++ [.begun number id, .detailAsked id outcome]) finished
      (some (.detail number id outcome)) w := by
  obtain ⟨listing, free, rfl⟩ := DetailView.begin?_eq_ok accepted
  have none : current = none := Option.map_eq_none_iff.1 (F.resolving.symm.trans free)
  subst none
  refine ⟨rfl, ?_, rfl, ?_, F.lastFailure⟩
  · rw [List.filter_append, F.courses, List.append_assoc]
    rfl
  · intro r shown
    rw [listing] at shown
    cases shown

/-- A selection goes on. -/
theorem advance (F : Follows log finished (some stage) v) (same : next.id = stage.id)
    (events : next.events = stage.events ++ more) (kept : more.filter Event.ofCourse = more) :
    Follows (log ++ more) finished (some next) v := by
  refine ⟨?_, ?_, ?_, F.lastFailure⟩
  · rw [List.filter_append, F.courses, kept]
    simp [events]
  · rw [F.resolving, Option.map_some, Option.map_some, same]
  · intro r shown
    exact absurd (F.viewing r shown).1 (by simp)

/-- A selection is over. -/
theorem finish (F : Follows log finished (some stage) v) {c : Course}
    (events : c.events = stage.events ++ more) (kept : more.filter Event.ofCourse = more) :
    Follows (log ++ more) (finished ++ [c]) none (v.finish c.result) := by
  have latest : latest? (finished ++ [c]) = some c.result := by simp [latest?]
  refine ⟨?_, DetailView.resolving_finish v c.result, ?_, ?_⟩
  · rw [List.filter_append, F.courses, kept]
    simp [events]
  · intro r shown
    unfold DetailView.finish at shown
    split at shown
    · rename_i ok
      cases shown
      exact ⟨rfl, ok, latest⟩
    · -- The view shows what it showed, which is nothing while a selection is in progress.
      exact absurd (F.viewing r shown).1 (by simp)
  · rw [latest, DetailView.finish]
    split <;> rename_i ok <;> simp [Option.filter, ok]

/-- The incidents of the selections that were accepted, in order. -/
theorem accepted_eq (F : Follows log finished current v) :
    log.filterMap Event.accepted? =
      finished.map (fun c => c.result.incidentId) ++ current.toList.map Stage.id := by
  have ofCourse : log.filterMap Event.accepted? =
      (log.filter Event.ofCourse).filterMap Event.accepted? := by
    rw [List.filterMap_filter]
    refine List.filterMap_congr fun e _ => ?_
    cases e <;> rfl
  have courses : (finished.flatMap Course.events).filterMap Event.accepted? =
      finished.map fun c => c.result.incidentId := by
    rw [List.filterMap_flatMap, List.map_eq_flatMap]
    refine List.flatMap_congr fun c _ => ?_
    rcases c with ⟨number, id, d⟩ | ⟨number, id, f, _ | _⟩ <;> rfl
  have inProgress : (current.toList.flatMap Stage.events).filterMap Event.accepted? =
      current.toList.map Stage.id := by
    rcases current with _ | _ | _ <;> rfl
  rw [ofCourse, F.courses, List.filterMap_append, courses, inProgress]

/-- What is shown is the success of the selection that was accepted last. -/
theorem shows (F : Follows log finished current v) {r : DetailResult} (h : v.state = .viewing r) :
    (log.filterMap Event.accepted?).getLast? = some r.incidentId := by
  obtain ⟨free, -, latest⟩ := F.viewing r h
  rw [F.accepted_eq, free, Option.toList_none, List.map_nil, List.append_nil, List.getLast?_map]
  obtain ⟨c, last, rfl⟩ := Option.map_eq_some_iff.1 latest
  rw [last]
  rfl

/-- A selection is refused while an incident is shown or another selection is in progress. -/
theorem refuses (F : Follows log finished current v) (h : v.isViewing = true ∨ current ≠ none)
    (id : String) : v.begin? id = .error (.transition v.hindrance DetailView.selecting) := by
  refine DetailView.begin?_eq_error (h.imp_right fun inProgress => ?_)
  rw [F.resolving, Option.isSome_map]
  exact Option.isSome_iff_ne_none.2 inProgress

/-- A selection is accepted otherwise. -/
theorem accepts (F : Follows log finished current v) (listing : v.isViewing = false)
    (free : current = none) (id : String) :
    v.begin? id = .ok { v with resolving := some id } := by
  subst free
  have none : v.resolving = none := F.resolving
  simp [DetailView.begin?, listing, none]

end Follows

end Selection

end IncidentBoard
