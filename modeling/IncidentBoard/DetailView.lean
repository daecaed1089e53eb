import IncidentBoard.Incident
import IncidentBoard.Failure

/-!
# The detail view

Whether the list or one incident is shown. An incident is selected from the list only, one at a
time; its details are asked for, and its summary if that fails.

## Main definitions

* `DetailResult` — how an incident was resolved.
* `DetailView` — what is shown, and the selection in progress.
* `DetailView.begin?`, `DetailView.finish`, `DetailView.close` — the moves of the view.
-/

namespace IncidentBoard

/-- How an incident was resolved: with its details, with its summary alone, or not at all. -/
inductive Resolution where
  | detail (found : IncidentDetail)
  | summary (found : Incident)
  | failed (text : String)
  deriving DecidableEq, Repr

/-- The resolution of the incident of an id. -/
structure DetailResult where
  incidentId : String
  resolution : Resolution
  deriving DecidableEq, Repr

namespace DetailResult

def isOk (r : DetailResult) : Bool :=
  match r.resolution with
  | .failed _ => false
  | _ => true

/-- The details, only where the provider gave them. -/
def detail? (r : DetailResult) : Option IncidentDetail :=
  match r.resolution with
  | .detail d => some d
  | _ => none

def incident? (r : DetailResult) : Option Incident :=
  match r.resolution with
  | .detail d => some d.incident
  | .summary i => some i
  | .failed _ => none

def error? (r : DetailResult) : Option String :=
  match r.resolution with
  | .failed text => some text
  | _ => none

def payload? (r : DetailResult) : Option Json.Fields :=
  match r.resolution with
  | .detail d => some d.toFields
  | .summary i => some i.toFields
  | .failed _ => none

end DetailResult

/-- What is shown. -/
inductive ViewState where
  | listing
  | viewing (result : DetailResult)
  deriving DecidableEq, Repr

/-- What is shown, the incident that is being resolved for it, and the selection that failed
last. -/
structure DetailView where
  state : ViewState
  resolving : Option String
  lastFailure : Option DetailResult
  deriving DecidableEq, Repr

namespace DetailView

def start : DetailView := ⟨.listing, none, none⟩

def isViewing (v : DetailView) : Bool :=
  match v.state with
  | .listing => false
  | .viewing _ => true

def result? (v : DetailView) : Option DetailResult :=
  match v.state with
  | .listing => none
  | .viewing r => some r

/-- The words for the state of the view. -/
def modeWord (v : DetailView) : String := if v.isViewing then "viewing_detail" else "listing"

/-- What is refused while an incident is shown or being resolved. -/
def selecting : String := "select an incident"

/-- Begin to select an incident; refused unless the list is shown and no selection is in
progress. -/
def begin? (v : DetailView) (id : String) : Except Failure DetailView :=
  if v.isViewing then .error (.transition v.modeWord selecting)
  else if v.resolving.isSome then .error (.transition "resolving" selecting)
  else .ok { v with resolving := some id }

/-- The selection in progress is resolved: a success is shown, a failure is kept. -/
def finish (v : DetailView) (r : DetailResult) : DetailView :=
  if r.isOk then ⟨.viewing r, none, none⟩ else { v with resolving := none, lastFailure := some r }

def close (v : DetailView) : DetailView := { v with state := .listing }

@[simp] theorem result?_start : start.result? = none := rfl

@[simp] theorem close_close (v : DetailView) : v.close.close = v.close := rfl

@[simp] theorem resolving_close (v : DetailView) : v.close.resolving = v.resolving := rfl

@[simp] theorem resolving_finish (v : DetailView) (r : DetailResult) :
    (v.finish r).resolving = none := by
  unfold finish; split <;> rfl

end DetailView

end IncidentBoard
