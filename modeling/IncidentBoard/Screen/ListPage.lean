import IncidentBoard.Dashboard
import IncidentBoard.Screen.DetailPage
import IncidentBoard.Screen.Pager

/-!
# The page of the list

Three controls for the filters, the heads of the columns, a row for each incident and the pager.
Every control is shown with the value that the query in force has; a control that answers another
value changes the query, and the list is awaited before it is shown.

## Main definitions

* `ListPage.controls` — the filters.
* `ListPage.heads`, `ListPage.rows`, `ListPage.pages` — what follows once the list is there.
* `ListPage.render` — the page.
-/

namespace IncidentBoard.Screen.ListPage

variable {σ δ : Type}

/-! ## Controls -/

/-- The options of the choice of a commander: no one, and everyone found. -/
def commanderOptions (people : List UserProfile) : List (Option String) :=
  none :: people.map fun p => some p.id

/-- The name of a person found; of two with one id the later counts. -/
def nameOf? (people : List UserProfile) (id : String) : Option String :=
  (people.reverse.find? (·.id == id)).map (·.displayName)

/-- What is said for no commander in particular. -/
def everyone : String := "All commanders"

def commanderLabel (people : List UserProfile) : Option String → String
  | none => everyone
  | some id => if id = "" then everyone else (nameOf? people id).getD everyone

/-- The choice of a commander, with the one of a query chosen if he is among the options. -/
def commanderChoice (people : List UserProfile) (q : ListQuery) : Choice :=
  let options := commanderOptions people
  .select "Commander" options (options.map (commanderLabel people))
    ((options.idxOf? q.commander).getD 0)

/-- The status of a query; one that is not set is that of all incidents. -/
def statusOf (q : ListQuery) : StatusFilter := q.status.getD .all

/-- The choice of a status, with that of a query chosen. -/
def statusChoice (q : ListQuery) : Choice :=
  .select "Status" (StatusFilter.every.map fun s => some s.word)
    (StatusFilter.every.map (·.label)) ((StatusFilter.every.idxOf? (statusOf q)).getD 0)

def searchField (box : Box) (q : ListQuery) : Render (Dashboard σ δ) Unit := do
  let term ← Render.textInput box "Search by incident name" (q.search.getD "")
  if ListQuery.given? (some term) ≠ q.search then
    Render.update fun d => .ok (d.withScene (d.scene.type (.text term)))

def commanderField (box : Box) (people : List UserProfile) (q : ListQuery) :
    Render (Dashboard σ δ) Unit := do
  let index ← Render.choose box (commanderChoice people q)
  let commander := (commanderOptions people).getD index none
  if commander ≠ q.commander then
    Render.update fun d =>
      (d.scene.dispatch (.setCommander (Json.ofText? commander))).map d.withScene

def statusField (box : Box) (q : ListQuery) : Render (Dashboard σ δ) Unit := do
  let index ← Render.choose box (statusChoice q)
  let status := StatusFilter.every.getD index .all
  if status ≠ statusOf q then
    Render.update fun d => (d.scene.dispatch (.setStatus (.text status.word))).map d.withScene

def settle (env : Backend σ δ) : Render (Dashboard σ δ) Unit :=
  Render.update fun d => .ok (d.withScene (d.scene.waitIdle env))

/-- The filters, up to the list that they ask for: the people found. -/
def controls (env : Backend σ δ) : Render (Dashboard σ δ) (List UserProfile) := do
  let q := (← Render.state).query
  let column ← Render.columns (.even 3)
  searchField (column 0) q
  let people ← Render.act fun d => d.commanderOptions env
  commanderField (column 1) people q
  statusField (column 2) q
  settle env
  return people

/-! ## The list -/

def title : SortColumn → String
  | .name => "Name"
  | .status => "Status"
  | .createdAt => "Start Time"
  | .endedAt => "End Time"

/-- The widths of the columns, the one of commanders last. -/
def widths : List Nat := [3, 2, 2, 2, 3]

def arrow : SortOrder → String
  | .ascending => "▲"
  | .descending => "▼"

/-- The head of a column; the one sorted by shows the direction. -/
def headLabel (q : ListQuery) (c : SortColumn) : String :=
  if q.sort = c then s!"{title c} {arrow q.order}" else title c

/-- The button at the head of a column. -/
def headButton (q : ListQuery) (c : SortColumn) : Button :=
  .keyed (headLabel q c) ("sort-" ++ c.word)

/-- The head of a column on screen; a press sorts by it. -/
def head (env : Backend σ δ) (box : Box) (c : SortColumn) : Render (Dashboard σ δ) Unit := do
  let q := (← Render.state).query
  if ← Render.press box (headButton q c) then
    Render.update fun d =>
      (d.scene.dispatch (.activateColumn (.text c.word))).map d.withScene
    settle env
    Render.again

def heads (env : Backend σ δ) : Render (Dashboard σ δ) Unit := do
  let column ← Render.columns (.weighted widths)
  SortColumn.all.zipIdx.forM fun (c, i) => head env (column i) c
  Render.textIn (column 4) .write "**Commander**"

def openButton (x : Incident) : Button :=
  ⟨x.name, some ("open-" ++ x.id), some x.name, none, false⟩

/-- The row of an incident; a press opens it, or says why that failed. -/
def row (env : Backend σ δ) (zone : Zone) (people : List UserProfile) (x : Incident) :
    Render (Dashboard σ δ) Unit := do
  let column ← Render.columns (.weighted widths)
  if ← Render.press (column 0) (openButton x) then
    let result ← Render.act fun d => d.openIncident env x.id
    match result.error? with
    | some text => Render.text .error s!"Could not load incident: {text}"
    | none => Render.again
  Render.textIn (column 1) .write (stateWord x)
  Render.textIn (column 2) .write (← Render.ofExcept (timeText zone x.createdAt))
  let cutoff := (← Render.state).settings.cutoff
  Render.textIn (column 3) .write (← Render.ofExcept (EndTime.format x cutoff zone))
  Render.textIn (column 4) .write ((nameOf? people x.commander).getD x.commander)

/-- The rows, or what is said when there are none. -/
def rows (env : Backend σ δ) (zone : Zone) (people : List UserProfile) :
    Render (Dashboard σ δ) Unit := do
  let d ← Render.state
  if d.list.items.isEmpty then Render.text .info d.emptyMessage
  d.list.items.forM (row env zone people)

/-- The pager of a list; another page is fetched and shown by the next run. -/
def pages (env : Backend σ δ) (q : ListQuery) (total : Int) : Render (Dashboard σ δ) Unit := do
  let page ← Pager.render q.page q.perPage total
  if page ≠ q.page then
    Render.update fun d => (d.scene.dispatch (.setPage (.int page))).map d.withScene
    settle env
    Render.again

/-- What is said when the last fetch failed. -/
def complaint (d : Dashboard σ δ) : Render (Dashboard σ δ) Unit := do
  if let some text := ListQuery.given? d.list.error then
    Render.text .warning s!"Could not refresh incidents: {text}"

def render [TimeZones] (env : Backend σ δ) : Render (Dashboard σ δ) Unit := do
  let d ← Render.state
  let zone ← Render.ofExcept (zoneOf d.settings)
  Render.text .header "Incidents"
  Render.text .caption s!"({d.teamName})"
  let people ← controls env
  let settled ← Render.state
  complaint settled
  heads env
  rows env zone people
  pages env settled.query settled.list.total

end IncidentBoard.Screen.ListPage
