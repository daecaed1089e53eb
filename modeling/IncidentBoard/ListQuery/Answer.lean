import IncidentBoard.ListQuery
import IncidentBoard.Incident
import IncidentBoard.Text.Lowercase

/-!
# The answer to a query

The incidents of a list that a query asks for: filtered, sorted by the column in the direction
asked for and then by id, and cut into pages.

## Main definitions

* `ListQuery.selects` — whether a query asks for an incident.
* `ListQuery.byId`, `ListQuery.byColumn` — the orders that the answer is sorted by, in turn.
* `ListQuery.answer` — the page of a list that a query asks for.
-/

namespace IncidentBoard

/-- Whether the first list occurs in the second one without gaps. -/
def occursIn {α : Type} [BEq α] (piece : List α) : List α → Bool
  | [] => piece.isEmpty
  | x :: rest => piece.isPrefixOf (x :: rest) || occursIn piece rest

def textOccursIn (piece whole : String) : Bool := occursIn piece.toList whole.toList

namespace ListQuery

def statusAllows : Option StatusFilter → Bool → Bool
  | some .active, isActive => isActive
  | some .ended, isActive => !isActive
  | _, _ => true

/-- Whether an incident's name holds a search term, without regard to case. -/
def searchAllows (term : Option String) (name : String) : Bool :=
  match given? term with
  | some t => textOccursIn (Text.lowercase t) (Text.lowercase name)
  | none => true

/-- Whether an incident has the commander asked for. -/
def commanderAllows (wanted : Option String) (commander : String) : Bool :=
  match given? wanted with
  | some id => commander == id
  | none => true

def selects (q : ListQuery) (x : Incident) : Bool :=
  x.team == q.team && searchAllows q.search x.name && statusAllows q.status x.isActive &&
    commanderAllows q.commander x.commander

/-- How two incidents compare in a column: names without regard to case, ended before active. -/
def compareBy (column : SortColumn) (x y : Incident) : Ordering :=
  match column with
  | .name => compare (Text.lowercase x.name) (Text.lowercase y.name)
  | .status => compare x.isActive y.isActive
  | .createdAt => compare x.createdAt y.createdAt
  | .endedAt => compare x.endedAt y.endedAt

def directed (order : SortOrder) (o : Ordering) : Ordering :=
  match order with
  | .ascending => o
  | .descending => o.swap

/-- Whether an incident may come before another one by id. -/
def byId (x y : Incident) : Bool := (compare x.id y.id).isLE

/-- Whether an incident may come before another one in the column and direction asked for. -/
def byColumn (q : ListQuery) (x y : Incident) : Bool :=
  (directed q.order (compareBy q.sort x y)).isLE

/-- All incidents that a query asks for, in order: sorted by id, then by the column. Both sorts
leave equals in their order. -/
def matching (q : ListQuery) (xs : List Incident) : List Incident :=
  ((xs.filter q.selects).mergeSort byId).mergeSort q.byColumn

def slice {α : Type} (page perPage : Nat) (xs : List α) : List α :=
  (xs.drop (page * perPage)).take perPage

/-- The page of a list that a query asks for. -/
def answer (q : ListQuery) (xs : List Incident) : IncidentsPage :=
  let found := q.matching xs
  ⟨slice q.page q.perPage found, found.length⟩

end ListQuery

end IncidentBoard
