import IncidentBoard.Field

/-!
# List queries

Which page of which filtered and sorted set of incidents is shown.

## Main definitions

* `SortColumn`, `SortOrder`, `StatusFilter` — the choices of a query.
* `ListQuery` — a query; its pages are not empty.
* `ListQuery.pairs` — the names and values sent to a server, without filters that are not set.
* `ListQuery.isFiltering`, `ListQuery.emptyMessage` — whether a query restricts the incidents of
  its team, and what is said when it finds none.
-/

namespace IncidentBoard

open IncidentBoard.Field

/-! ## Choices -/

/-- A column to sort by. -/
inductive SortColumn where
  | name
  | status
  | createdAt
  | endedAt
  deriving DecidableEq, Repr, Inhabited

namespace SortColumn

def word : SortColumn → String
  | .name => "name"
  | .status => "status"
  | .createdAt => "created_at"
  | .endedAt => "ended_at"

def all : List SortColumn := [.name, .status, .createdAt, .endedAt]

def members : List (String × SortColumn) := all.map fun c => (c.word, c)

def ofWord? (s : String) : Option SortColumn := members.lookup s

@[simp] theorem ofWord?_word (c : SortColumn) : ofWord? c.word = some c := by
  cases c <;> rfl

end SortColumn

/-- The direction of a sort. -/
inductive SortOrder where
  | ascending
  | descending
  deriving DecidableEq, Repr, Inhabited

namespace SortOrder

def word : SortOrder → String
  | .ascending => "asc"
  | .descending => "desc"

def members : List (String × SortOrder) :=
  [SortOrder.ascending, .descending].map fun o => (o.word, o)

def flipped : SortOrder → SortOrder
  | .ascending => .descending
  | .descending => .ascending

@[simp] theorem flipped_flipped (o : SortOrder) : o.flipped.flipped = o := by
  cases o <;> rfl

end SortOrder

/-- The direction in which a column is sorted at first; times show the newest first. -/
def SortColumn.defaultOrder : SortColumn → SortOrder
  | .name | .status => .ascending
  | .createdAt | .endedAt => .descending

/-- A filter on whether incidents are active. -/
inductive StatusFilter where
  | all
  | active
  | ended
  deriving DecidableEq, Repr, Inhabited

namespace StatusFilter

def word : StatusFilter → String
  | .all => "all"
  | .active => "active"
  | .ended => "ended"

def label : StatusFilter → String
  | .all => "All"
  | .active => "Active"
  | .ended => "Ended"

def every : List StatusFilter := [.all, .active, .ended]

def members : List (String × StatusFilter) := every.map fun s => (s.word, s)

end StatusFilter

/-! ## Queries -/

/-- Which page of which filtered, sorted set of incidents is shown. -/
structure ListQuery where
  team : String
  page : Nat
  perPage : Nat
  sort : SortColumn
  order : SortOrder
  search : Option String
  status : Option StatusFilter
  commander : Option String
  perPage_pos : 0 < perPage
  deriving DecidableEq, Repr

namespace ListQuery

def model : String := "FetchIncidentsParams"

/-- The first page of a team, newest incidents first. -/
def first (team : String) (perPage : Nat) (h : 0 < perPage) : ListQuery :=
  ⟨team, 0, perPage, .createdAt, .descending, none, none, none, h⟩

instance : Inhabited ListQuery := ⟨first "" 15 (by decide)⟩

def ofBounded (team : String) (page : { n : Int // 0 ≤ n }) (perPage : { n : Int // 1 ≤ n })
    (sort : SortColumn) (order : SortOrder) (search : Option String)
    (status : Option StatusFilter) (commander : Option String) : ListQuery :=
  ⟨team, page.val.toNat, perPage.val.toNat, sort, order, search, status, commander,
    by have := perPage.property; omega⟩

def readFields (fs : Json.Fields) : Reading ListQuery :=
  Reading.and (Reading.and (Reading.and (Reading.and (Reading.and (Reading.and (Reading.and
    (Reading.and (.ok ofBounded)
      (required fs "team_id" text))
      (optional fs "page" ⟨0, by decide⟩ (wholeFrom 0)))
      (optional fs "per_page" ⟨15, by decide⟩ (wholeFrom 1)))
      (optional fs "sort" .createdAt (member SortColumn.members)))
      (optional fs "order" .descending (member SortOrder.members)))
      (optional fs "search_term" none (orNull text)))
      (optional fs "status" none (orNull (member StatusFilter.members))))
      (optional fs "commander_user_id" none (orNull text))

def read (v : Json) : Except Rejection ListQuery := (object model readFields v).of model

def toFields (q : ListQuery) : Json.Fields :=
  [("team_id", .text q.team), ("page", .int q.page), ("per_page", .int q.perPage),
    ("sort", .text q.sort.word), ("order", .text q.order.word),
    ("search_term", Json.ofText? q.search), ("status", Json.ofText? (q.status.map (·.word))),
    ("commander_user_id", Json.ofText? q.commander)]

/-- The text of a filter, unless it is not set or empty. -/
def given? (s : Option String) : Option String := s.filter (· ≠ "")

def restriction? (s : Option StatusFilter) : Option StatusFilter := s.filter (· ≠ .all)

/-- Names and values of a query, without filters that are not set. -/
def pairs (q : ListQuery) : Json.Fields :=
  [("team_id", .text q.team), ("page", .int q.page), ("per_page", .int q.perPage),
    ("sort", .text q.sort.word), ("order", .text q.order.word)] ++
    ((given? q.search).map fun s => ("search_term", Json.text s)).toList ++
    ((restriction? q.status).map fun s => ("status", Json.text s.word)).toList ++
    ((given? q.commander).map fun s => ("commander_user_id", Json.text s)).toList

/-- Whether a query restricts the incidents of its team. -/
def isFiltering (q : ListQuery) : Bool :=
  (given? q.search).isSome || (given? q.commander).isSome || (restriction? q.status).isSome

/-- What is said when a query finds no incident. -/
def emptyMessage (q : ListQuery) (teamName : String) : String :=
  if q.isFiltering then s!"There are no incidents for {teamName} matching those filters."
  else s!"There are no incidents for {teamName}."

end ListQuery

end IncidentBoard
