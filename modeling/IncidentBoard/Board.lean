import IncidentBoard.ListQuery.Action
import IncidentBoard.Incident

/-!
# The board

The query in force, the list that is shown, and the fetches under way. Every fetch has a token; an
outcome is applied only while its token is the latest one, so a late outcome never takes the place
of a newer one. A failed fetch leaves the list as it is and shows the failure.

## Main definitions

* `ListState` — what the list shows.
* `Fetch` — a fetch under way.
* `Board` — query, list and fetches.
* `Board.dispatch`, `Board.complete`, `Board.retire` — an action, the outcome of a fetch, and the
  end of its bookkeeping.
-/

namespace IncidentBoard

/-- What the list shows: the last page applied, and how its fetch went. -/
structure ListState where
  query : Option ListQuery
  items : List Incident
  total : Int
  loading : Bool
  error : Option String
  deriving DecidableEq, Repr

namespace ListState

def blank : ListState := ⟨none, [], 0, false, none⟩

def ofPage (q : ListQuery) (page : IncidentsPage) : ListState :=
  ⟨some q, page.items, page.total, false, none⟩

def begun (s : ListState) : ListState := { s with loading := true }

def failed (s : ListState) (text : String) : ListState :=
  { s with loading := false, error := some text }

end ListState

/-- A fetch under way: its token, and the query in force when it was issued. -/
structure Fetch where
  token : Nat
  query : ListQuery
  deriving DecidableEq, Repr

/-- The query in force, the list shown, and the fetches under way in the order of issue. -/
structure Board where
  query : ListQuery
  resetPage : Bool
  list : ListState
  latest : Nat
  inFlight : List Fetch
  deriving DecidableEq, Repr

namespace Board

def start (q : ListQuery) (resetPage : Bool) : Board := ⟨q, resetPage, .blank, 0, []⟩

/-- Issue a fetch of the query in force. -/
def issue (b : Board) : Board × Fetch :=
  let fetch : Fetch := ⟨b.latest + 1, b.query⟩
  ({ b with latest := fetch.token, list := b.list.begun, inFlight := b.inFlight ++ [fetch] }, fetch)

/-- An action: the board after it, with the fetch it needs. A refused action leaves no board. -/
def dispatch (b : Board) (a : Action) : Except Failure (Board × Option Fetch) :=
  (b.query.reduce b.resetPage a).map fun t =>
    let b := { b with query := t.query }
    if t.fetchNeeded then
      let (b, fetch) := b.issue
      (b, some fetch)
    else (b, none)

def complete (b : Board) (fetch : Fetch) (outcome : Except Failure IncidentsPage) : Board :=
  if fetch.token ≠ b.latest then b
  else
    match outcome with
    | .ok page => { b with list := .ofPage fetch.query page }
    | .error f => { b with list := b.list.failed f.message }

def retire (b : Board) (fetch : Fetch) : Board :=
  { b with inFlight := b.inFlight.filter (·.token ≠ fetch.token) }

def fetching (b : Board) : Bool := !b.inFlight.isEmpty

/-- No fetch is under way any more; what it would have shown stays open. -/
def abandon (b : Board) : Board := { b with inFlight := [] }

@[simp] theorem complete_query (b : Board) (f : Fetch) (o : Except Failure IncidentsPage) :
    (b.complete f o).query = b.query := by
  cases o <;> simp only [complete] <;> split <;> rfl

@[simp] theorem complete_latest (b : Board) (f : Fetch) (o : Except Failure IncidentsPage) :
    (b.complete f o).latest = b.latest := by
  cases o <;> simp only [complete] <;> split <;> rfl

@[simp] theorem complete_resetPage (b : Board) (f : Fetch) (o : Except Failure IncidentsPage) :
    (b.complete f o).resetPage = b.resetPage := by
  cases o <;> simp only [complete] <;> split <;> rfl

@[simp] theorem complete_inFlight (b : Board) (f : Fetch) (o : Except Failure IncidentsPage) :
    (b.complete f o).inFlight = b.inFlight := by
  cases o <;> simp only [complete] <;> split <;> rfl

@[simp] theorem retire_list (b : Board) (f : Fetch) : (b.retire f).list = b.list := rfl

/-- The outcome of a fetch that is not the latest changes nothing. -/
theorem complete_of_stale {b : Board} {f : Fetch} (h : f.token ≠ b.latest)
    (o : Except Failure IncidentsPage) : b.complete f o = b := by
  simp [complete, h]

end Board

end IncidentBoard
