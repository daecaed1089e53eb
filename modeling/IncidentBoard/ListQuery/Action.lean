import IncidentBoard.ListQuery
import IncidentBoard.Failure

/-!
# Actions on a query

What a user does to a query, and the query that follows. Values of actions come from outside and
are checked; an action that is refused changes nothing. A filter that changes sends the list back
to its first page, unless that is switched off.

## Main definitions

* `Action` — what is done to a query.
* `ListQuery.activate` — the query after a click on the head of a column.
* `ListQuery.reduce` — the query that follows an action, and whether it has to be fetched.
-/

namespace IncidentBoard

open IncidentBoard.Field

/-- What is done to a query, with the value given for it. -/
inductive Action where
  | setTeam (value : Json)
  | setSearch (value : Json)
  | setStatus (value : Json)
  | setCommander (value : Json)
  | setPage (value : Json)
  | activateColumn (value : Json)
  | refresh
  /-- A value that is no action. -/
  | unknown (value : Json)
  deriving Repr

def Action.isFilter : Action → Bool
  | .setSearch _ | .setStatus _ | .setCommander _ => true
  | _ => false

/-- A query and whether it has to be fetched. -/
structure Transition where
  query : ListQuery
  fetchNeeded : Bool
  deriving DecidableEq, Repr

namespace ListQuery

/-- A new sort: the same column turned around, or another column in its first direction. -/
structure SortChange where
  sort : Option SortColumn
  order : SortOrder
  deriving DecidableEq, Repr

/-- The sort after a click on the head of a column. -/
def nextSort (q : ListQuery) (column : SortColumn) : SortChange :=
  if q.sort = column then ⟨none, q.order.flipped⟩ else ⟨some column, column.defaultOrder⟩

/-- The query after a click on the head of a column. -/
def activate (q : ListQuery) (column : SortColumn) : ListQuery :=
  let change := q.nextSort column
  { q with sort := change.sort.getD q.sort, order := change.order }

@[simp] theorem activate_sort (q : ListQuery) (c : SortColumn) : (q.activate c).sort = c := by
  by_cases h : q.sort = c <;> simp [activate, nextSort, h]

def column (v : Json) : Except Failure SortColumn :=
  match v with
  | .text s =>
    match SortColumn.ofWord? s with
    | some c => .ok c
    | none => .error (.foreign (.notAColumn v))
  | _ => .error (.foreign (.notAColumn v))

/-- A new value of one field of a query. -/
def field {α : Type} (name : String) (read : Reader α) (v : Json) : Except Failure α :=
  Failure.ofRejection (((read v).within (.name name)).of model)

/-- A filter text; a value that counts as not given clears the filter. -/
def filterText (name : String) (v : Json) : Except Failure (Option String) :=
  if v.truthy then (field name text v).map some else .ok none

/-- The query with the value of an action in its field. -/
def update (q : ListQuery) : Action → Except Failure ListQuery
  | .setTeam v => (field "team_id" text v).map fun team => { q with team := team }
  | .setSearch v => (filterText "search_term" v).map fun term => { q with search := term }
  | .setStatus v =>
    (field "status" (orNull (member StatusFilter.members)) v).map fun s => { q with status := s }
  | .setCommander v =>
    (filterText "commander_user_id" v).map fun id => { q with commander := id }
  | .setPage v => (field "page" (wholeFrom 0) v).map fun n => { q with page := n.val.toNat }
  | .activateColumn v => (column v).map q.activate
  | .refresh => .ok q
  | .unknown v => .error (.foreign (.unknownAction v))

/-- The query that follows an action, and whether it has to be fetched: after a refresh always,
else if it changed. -/
def reduce (resetPage : Bool) (q : ListQuery) (a : Action) : Except Failure Transition :=
  match a with
  | .refresh => .ok ⟨q, true⟩
  | _ =>
    (q.update a).map fun next =>
      let next := if a.isFilter && resetPage && next ≠ q then { next with page := 0 } else next
      ⟨next, next ≠ q⟩

@[simp] theorem reduce_refresh (resetPage : Bool) (q : ListQuery) :
    q.reduce resetPage .refresh = .ok ⟨q, true⟩ := rfl

end ListQuery

end IncidentBoard
